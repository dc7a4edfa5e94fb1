import Emend.Proofs.Definitions

/-!
# What is built is well-formed, and what is well-formed is built

There are four ways to begin a rule and five steps that change one. Every call of these checks only
what it could spoil itself. This module shows that nothing slips through, in whatever order the
calls are made, and that no call is refused without need.

* `Start.aim` and `Step.aim` are what a call would give if it refused nothing; only malformed
  patterns are left to go wrong.
* `Exact`: a call gives what it aims at if that is well-formed, and fails otherwise.
* `exact_start`, `exact_step`: every call is exact, a step at least for a well-formed rule.
* `build_exact`: so every call of a run is, as all that it leaves on its way is well-formed.
-/

namespace Emend

/-! ## What a definition aims at -/

/-- The matcher, unless it is a malformed pattern. -/
def MatcherSpec.compile : MatcherSpec → Except RegexError Matcher
  | literal text => .ok (.literal text)
  | regex source flags => Matcher.ofSource source flags

theorem MatcherSpec.toMatcher_eq (spec : MatcherSpec) (id : String) :
    spec.toMatcher id = spec.compile.mapError (.malformedPattern id spec.written) := by
  cases spec <;> rfl

theorem MatcherSpec.toMatcher_eq_ok_iff {spec : MatcherSpec} {id : String} {m : Matcher} :
    spec.toMatcher id = .ok m ↔ spec.compile = .ok m := by
  rw [toMatcher_eq, mapError_eq_ok_iff]

namespace Definition

variable {d : Definition} {rule : Rule}

/-- The matcher of the guard, if there is one. -/
def compileGuard (d : Definition) : Except RegexError (Option Matcher) :=
  match d.guard with
  | none => .ok none
  | some spec => spec.compile.map some

/-- The rule that a definition describes, whether its parts go together or not. -/
def aim (d : Definition) : Except RegexError Rule := do
  let matcher ← d.find.compile
  let guard ← d.compileGuard
  return {
    id := d.id, matcher, guard, scope := d.scope, required := d.required
    replacement := if d.expands then .template d.replace else .literal d.replace }

theorem compileGuard_eq_ok_iff {guard : Option Matcher} :
    d.compileGuard = .ok guard ↔ match d.guard with
      | none => guard = none
      | some spec => ∃ m, spec.toMatcher d.id = .ok m ∧ guard = some m := by
  unfold compileGuard
  cases d.guard with
  | none => exact ⟨fun h => (Except.ok.inj h).symm, fun h => congrArg _ h.symm⟩
  | some spec => simp only [map_eq_ok_iff, MatcherSpec.toMatcher_eq_ok_iff, @eq_comm _ _ guard]

theorem aim_eq_ok_iff : d.aim = .ok rule ↔ d.Describes rule := by
  simp only [aim, bind_eq_ok_iff]
  constructor
  · rintro ⟨m, hm, guard, hguard, heq⟩
    cases heq
    exact ⟨rfl, MatcherSpec.toMatcher_eq_ok_iff.mpr hm, rfl, rfl, rfl,
      compileGuard_eq_ok_iff.mp hguard⟩
  · intro h
    obtain ⟨id, m, r, scope, guard, required⟩ := rule
    obtain ⟨rfl, hm, rfl, rfl, rfl, hguard⟩ := h
    exact ⟨m, MatcherSpec.toMatcher_eq_ok_iff.mp hm, guard, compileGuard_eq_ok_iff.mpr hguard, rfl⟩

end Definition

namespace Rule

/-! ## Calls -/

/-- How a rule is begun. -/
inductive Start
  | make (id : String) (matcher : Matcher) (replacement : Replacement)
  | literal (id find replace : String)
  | pattern (id source : String) (flags : PatternFlags) (replacement : Replacement)
  | definition (d : Definition)

/-- How a rule is changed. -/
inductive Step
  | guard (m : Matcher)
  | guardLiteral (text : String)
  | guardPattern (source : String) (flags : PatternFlags)
  | scope (s : Scope)
  | required (b : Bool)

namespace Start

/-- The rule that is begun. -/
def rule : Start → Except RuleError Rule
  | make id matcher replacement => Rule.make id matcher replacement
  | literal id find replace => ofLiteral id find replace
  | pattern id source flags replacement => ofPattern id source flags replacement
  | definition d => d.toRule

/-- The rule that would be begun if no check were made. -/
def aim : Start → Except RegexError Rule
  | make id matcher replacement => .ok { id, matcher, replacement }
  | literal id find replace =>
    .ok { id, matcher := .literal find, replacement := .literal replace }
  | pattern id source flags replacement =>
    (Matcher.ofSource source flags).map fun matcher => { id, matcher, replacement }
  | definition d => d.aim

end Start

namespace Step

/-- Take a rule through a step. -/
def take (rule : Rule) : Step → Except RuleError Rule
  | guard m => rule.withGuard m
  | guardLiteral text => rule.withGuardLiteral text
  | guardPattern source flags => rule.withGuardPattern source flags
  | scope s => rule.withScope s
  | required b => .ok (rule.withRequired b)

/-- The rule that a step would leave if no check were made. -/
def aim (rule : Rule) : Step → Except RegexError Rule
  | guard m => .ok { rule with guard := some m }
  | guardLiteral text => .ok { rule with guard := some (.literal text) }
  | guardPattern source flags =>
    (Matcher.ofSource source flags).map fun m => { rule with guard := some m }
  | scope s => .ok { rule with scope := s }
  | required b => .ok { rule with required := b }

end Step

/-- Take a rule through some steps. -/
def takeAll (rule : Rule) : List Step → Except RuleError Rule
  | [] => .ok rule
  | step :: rest => do (← step.take rule).takeAll rest

/-- Begin a rule and take it through some steps. -/
def build (start : Start) (steps : List Step) : Except RuleError Rule := do
  (← start.rule).takeAll steps

/-! ## What can be built -/

variable {rule built : Rule} {step : Step} {steps : List Step} {start : Start}

theorem built_of_start (h : start.rule = .ok built) : built.Built := by
  cases start with
  | make id matcher replacement => exact .make h
  | literal id find replace => exact .make h
  | pattern id source flags replacement =>
      obtain ⟨m, -, hmake⟩ := bind_eq_ok_iff.mp h
      exact .make hmake
  | definition d => exact Definition.built_of_toRule h

theorem Built.take (hr : rule.Built) (h : step.take rule = .ok built) : built.Built := by
  cases step with
  | guard m => exact hr.withGuard h
  | guardLiteral text => exact hr.withGuard h
  | guardPattern source flags =>
      obtain ⟨m, -, hguard⟩ := bind_eq_ok_iff.mp h
      exact hr.withGuard hguard
  | scope s => exact hr.withScope h
  | required b =>
      cases h
      exact hr.withRequired b

theorem Built.takeAll (hr : rule.Built) (h : rule.takeAll steps = .ok built) : built.Built := by
  induction steps generalizing rule with
  | nil =>
      cases h
      exact hr
  | cons step rest ih =>
      obtain ⟨next, hstep, hrest⟩ := bind_eq_ok_iff.mp h
      exact ih (hr.take hstep) hrest

theorem built_of_build (h : build start steps = .ok built) : built.Built := by
  obtain ⟨begun, hstart, hsteps⟩ := bind_eq_ok_iff.mp h
  exact (built_of_start hstart).takeAll hsteps

/-! ## Calls are exact -/

/-- What a call gives is what it aims at, and it fails only if it must. -/
structure Exact (aim : Except RegexError Rule) (got : Except RuleError Rule) : Prop where
  /-- It gives what it aims at, and that is well-formed. -/
  sound : ∀ rule, got = .ok rule → aim = .ok rule ∧ rule.WellFormed
  /-- It gives what it aims at if that is well-formed. -/
  complete : ∀ rule, aim = .ok rule → rule.WellFormed → got = .ok rule
  /-- If it fails, then it has a malformed pattern or aims at a rule that is not well-formed. -/
  fails : ∀ err, got = .error err →
    (∃ cause, aim = .error cause) ∨ ∃ rule, aim = .ok rule ∧ ¬ rule.WellFormed

variable {aim : Except RegexError Rule} {got : Except RuleError Rule}

/-- It is enough to look at what is given. -/
theorem exact_of_gives (hs : ∀ rule, got = .ok rule → aim = .ok rule ∧ rule.WellFormed)
    (hc : ∀ rule, aim = .ok rule → rule.WellFormed → got = .ok rule) : Exact aim got where
  sound := hs
  complete := hc
  fails := by
    rintro err rfl
    cases ha : aim with
    | error cause => exact .inl ⟨cause, rfl⟩
    | ok rule =>
        refine .inr ⟨rule, rfl, fun hw => ?_⟩
        cases hc rule ha hw

/-- A call without patterns. -/
theorem exact_ok {aimed : Rule} (hs : ∀ rule, got = .ok rule → rule = aimed ∧ rule.WellFormed)
    (hc : aimed.WellFormed → got = .ok aimed) : Exact (.ok aimed) got := by
  refine exact_of_gives (fun rule h => ?_) fun rule h hw => ?_
  · obtain ⟨rfl, hw⟩ := hs rule h
    exact ⟨rfl, hw⟩
  · cases h
    exact hc hw

/-- A call that compiles a pattern and is exact for what comes of it. -/
theorem exact_compile {id source : String} {flags : PatternFlags} {aimed : Matcher → Rule}
    {call : Matcher → Except RuleError Rule} (h : ∀ m, Exact (.ok (aimed m)) (call m)) :
    Exact ((Matcher.ofSource source flags).map aimed) (compileFor id source flags >>= call) := by
  refine exact_of_gives (fun rule hgot => ?_) fun rule haim hw => ?_
  · obtain ⟨m, hm, hcall⟩ := bind_eq_ok_iff.mp hgot
    obtain ⟨haim, hw⟩ := (h m).sound rule hcall
    exact ⟨map_eq_ok_iff.mpr ⟨m, mapError_eq_ok_iff.mp hm, Except.ok.inj haim⟩, hw⟩
  · obtain ⟨m, hm, rfl⟩ := map_eq_ok_iff.mp haim
    exact bind_eq_ok_iff.mpr ⟨m, mapError_eq_ok_iff.mpr hm, (h m).complete _ rfl hw⟩

theorem exact_make (id : String) (m : Matcher) (r : Replacement) :
    Exact (.ok { id, matcher := m, replacement := r }) (make id m r) :=
  exact_ok (fun _ h => ⟨make_eq_ok h, wellFormed_of_make h⟩) make_of_wellFormed

theorem exact_withGuard (hr : rule.WellFormed) (guard : Matcher) :
    Exact (.ok { rule with guard := some guard }) (rule.withGuard guard) :=
  exact_ok (fun _ h => ⟨withGuard_eq_ok h, wellFormed_of_withGuard hr h⟩) withGuard_of_wellFormed

theorem exact_withScope (hr : rule.WellFormed) (scope : Scope) :
    Exact (.ok { rule with scope }) (rule.withScope scope) :=
  exact_ok (fun _ h => ⟨withScope_eq_ok h, wellFormed_of_withScope hr h⟩) withScope_of_wellFormed

theorem exact_withRequired (hr : rule.WellFormed) (required : Bool) :
    Exact (.ok { rule with required }) (.ok (rule.withRequired required)) := by
  refine exact_ok (fun _ h => ?_) fun _ => rfl
  cases h
  exact ⟨rfl, wellFormed_withRequired_iff.mpr hr⟩

theorem exact_toRule (d : Definition) : Exact d.aim d.toRule := by
  refine exact_of_gives (fun rule h => ?_) fun rule h hw => ?_
  · exact ⟨Definition.aim_eq_ok_iff.mpr (Definition.describes_of_toRule h),
      (Definition.built_of_toRule h).wellFormed⟩
  · exact Definition.toRule_of_describes (Definition.aim_eq_ok_iff.mp h) hw

/-- **Every way to begin a rule is exact.** -/
theorem exact_start (start : Start) : Exact start.aim start.rule := by
  cases start with
  | make id matcher replacement => exact exact_make id matcher replacement
  | literal id find replace => exact exact_make id (.literal find) (.literal replace)
  | pattern id source flags replacement => exact exact_compile fun m => exact_make id m replacement
  | definition d => exact exact_toRule d

/-- **Every step is exact** for a well-formed rule. -/
theorem exact_step (hr : rule.WellFormed) (step : Step) :
    Exact (step.aim rule) (step.take rule) := by
  cases step with
  | guard m => exact exact_withGuard hr m
  | guardLiteral text => exact exact_withGuard hr (.literal text)
  | guardPattern source flags => exact exact_compile (exact_withGuard hr)
  | scope s => exact exact_withScope hr s
  | required b => exact exact_withRequired hr b

/-! ## Runs of calls -/

theorem takeAll_eq_error {err : RuleError} (h : rule.takeAll steps = .error err) :
    ∃ before step after left, steps = before ++ step :: after ∧ rule.takeAll before = .ok left
      ∧ step.take left = .error err := by
  induction steps generalizing rule with
  | nil => cases h
  | cons step rest ih =>
      cases hstep : step.take rule with
      | error err' =>
          simp only [takeAll, hstep] at h
          cases h
          exact ⟨[], step, rest, rule, rfl, rfl, hstep⟩
      | ok next =>
          simp only [takeAll, hstep] at h
          obtain ⟨before, step', after, left, rfl, hbefore, hfail⟩ := ih h
          refine ⟨step :: before, step', after, left, rfl, ?_, hfail⟩
          rw [takeAll, hstep]
          exact hbefore

/-- A run that fails is one whose first call fails, or a later one after a rule has been built. -/
theorem build_eq_error {err : RuleError} (h : build start steps = .error err) :
    start.rule = .error err ∨ ∃ before step after left, steps = before ++ step :: after
      ∧ build start before = .ok left ∧ step.take left = .error err := by
  unfold build at h ⊢
  cases hs : start.rule with
  | error err' =>
      rw [hs] at h
      exact .inl h
  | ok begun =>
      rw [hs] at h
      exact .inr (takeAll_eq_error h)

/--
**What is built is well-formed, and what is well-formed is built.** A run of calls that succeeds
leaves a well-formed rule, to which every further step is exact; a run that fails does so at one of
its calls, and every call is exact.
-/
theorem build_exact (start : Start) (steps : List Step) :
    Exact start.aim start.rule ∧ match build start steps with
      | .ok rule => rule.WellFormed ∧ ∀ step : Step, Exact (step.aim rule) (step.take rule)
      | .error err => start.rule = .error err ∨ ∃ before step after rule,
          steps = before ++ step :: after ∧ build start before = .ok rule
            ∧ step.take rule = .error err := by
  refine ⟨exact_start start, ?_⟩
  cases h : build start steps with
  | ok rule =>
      have hw := (built_of_build h).wellFormed
      exact ⟨hw, exact_step hw⟩
  | error err => exact build_eq_error h

/-- A pattern that is the literal text itself is no guard for it. -/
example : build (.literal "a" "x" "y") [.required true, .guardPattern "x" {}] =
    .error (.guardEqualsMatcher "a") := by
  decide +kernel

end Rule

end Emend
