import Emend.RuleFile.Issue

/-!
# What is wrong with definitions

A rule file is accepted if nothing is wrong with any of its definitions. Each of them is judged by
itself, apart from its id, which may not have been used before; and it is tried as a rule only if
nothing else is wrong with it. The problems of all definitions go to one list.

* `Flaw` lists what can be wrong with a definition before it is tried as a rule, with the issue
  that says so; `Complete` says what a definition must have, and `complete_iff` that these are the
  two sides of one thing.
* `mem_issues_iff`: the issues of a definition are its flaws, or the rule that it does not make.
* `issuesOf_eq_flatten`: definitions behind each other have the issues that each of them has in
  its place, where it depends on those before it by their ids only.
* `count_duplicateId`: an id is blamed once for every definition that uses it again.
* `issues_blame`: which rule files are accepted, and what the others are blamed for.
-/

namespace Emend

/-- The text of a matcher as it is written in a rule file. -/
def MatcherSpec.written : MatcherSpec → String
  | literal text => text
  | regex source _ => source

theorem MatcherSpec.isEmpty_iff {spec : MatcherSpec} :
    spec.isEmpty = true ↔ spec.written = "" := by
  cases spec <;> simp [isEmpty, written]

namespace Definition

variable {d : Definition} {seen : List String} {issue : Issue}

/-! ## What a definition must have -/

/-- A definition that lacks nothing; `seen` are the ids of those before it. -/
structure Complete (d : Definition) (seen : List String) : Prop where
  /-- It has an id. -/
  id : Text.isBlank d.id = false
  /-- No definition before it has that id. -/
  fresh : d.id ∉ seen
  file : Text.isBlank d.file = false
  find : d.find.written ≠ ""
  guard : ∀ spec, d.guard = some spec → spec.written ≠ ""
  /-- It is guarded if it is required. -/
  guarded : d.required = true → d.guard.isSome = true

/-- A complete definition that makes a rule. -/
def Proper (d : Definition) (seen : List String) : Prop :=
  d.Complete seen ∧ ∃ rule, d.toRule = .ok rule

/-- What a definition lacks, with the issue that says so. -/
inductive Flaw (d : Definition) (seen : List String) : Issue → Prop
  | id (h : Text.isBlank d.id = true) : Flaw d seen (.missingField none "id")
  | repeated (h : Text.isBlank d.id = false) (hs : d.id ∈ seen) : Flaw d seen (.duplicateId d.id)
  | file (h : Text.isBlank d.file = true) : Flaw d seen (.missingField d.givenId "file")
  | find (h : d.find.written = "") :
      Flaw d seen (.missingField d.givenId ("find." ++ d.find.textField))
  | guard {spec : MatcherSpec} (hg : d.guard = some spec) (h : spec.written = "") :
      Flaw d seen (.missingField d.givenId ("guard." ++ spec.textField))
  | unguarded (hr : d.required = true) (hg : d.guard = none) :
      Flaw d seen (.requiredWithoutGuard d.id)

/-- **A definition is complete if it has no flaw.** -/
theorem complete_iff : d.Complete seen ↔ ∀ issue, ¬ d.Flaw seen issue := by
  constructor
  · rintro ⟨hid, hfresh, hfile, hfind, hguard, hguarded⟩ issue hflaw
    cases hflaw with
    | id h => exact Bool.noConfusion (hid.symm.trans h)
    | repeated h hs => exact hfresh hs
    | file h => exact Bool.noConfusion (hfile.symm.trans h)
    | find h => exact hfind h
    | guard hg h => exact hguard _ hg h
    | unguarded hr hg =>
        have hsome := hguarded hr
        rw [hg] at hsome
        cases hsome
  · intro h
    have hid : Text.isBlank d.id = false := Bool.eq_false_iff.mpr fun hb => h _ (.id hb)
    refine ⟨hid, fun hs => h _ (.repeated hid hs), Bool.eq_false_iff.mpr fun hb => h _ (.file hb),
      fun he => h _ (.find he), fun spec hg he => h _ (.guard hg he), fun hr => ?_⟩
    cases hg : d.guard with
    | none => exact absurd (.unguarded hr hg) (h _)
    | some spec => rfl

/-! ## The issues of a definition -/

theorem givenId_eq_some_iff {id : String} :
    d.givenId = some id ↔ Text.isBlank d.id = false ∧ d.id = id := by
  unfold givenId
  split <;> simp_all

theorem mem_emptyField_iff {field : String} {empty : Bool} :
    issue ∈ d.emptyField field empty ↔ empty = true ∧ issue = .missingField d.givenId field := by
  cases empty <;> simp [emptyField]

theorem mem_idDefects_iff :
    issue ∈ d.idDefects seen ↔
      (Text.isBlank d.id = true ∧ issue = .missingField none "id")
      ∨ (Text.isBlank d.id = false ∧ d.id ∈ seen ∧ issue = .duplicateId d.id) := by
  unfold idDefects givenId
  by_cases hb : Text.isBlank d.id
  · simp [hb]
  · by_cases hs : d.id ∈ seen <;> simp [hb, hs]

theorem mem_guardDefects_iff :
    issue ∈ d.guardDefects ↔ ∃ spec, d.guard = some spec ∧ spec.written = ""
      ∧ issue = .missingField d.givenId ("guard." ++ spec.textField) := by
  unfold guardDefects
  cases hg : d.guard with
  | none => simp
  | some spec => simp [mem_emptyField_iff, MatcherSpec.isEmpty_iff]

theorem mem_requiredDefects_iff :
    issue ∈ d.requiredDefects ↔
      d.required = true ∧ d.guard = none ∧ issue = .requiredWithoutGuard d.id := by
  unfold requiredDefects
  cases hr : d.required <;> cases hg : d.guard <;> simp

/-- **The defects of a definition are its flaws.** -/
theorem mem_defects_iff : issue ∈ d.defects seen ↔ d.Flaw seen issue := by
  simp only [defects, List.mem_append, mem_idDefects_iff, mem_emptyField_iff,
    mem_guardDefects_iff, mem_requiredDefects_iff, MatcherSpec.isEmpty_iff]
  constructor
  · rintro (((((⟨h, rfl⟩ | ⟨h, hs, rfl⟩) | ⟨h, rfl⟩) | ⟨h, rfl⟩) | ⟨spec, hg, h, rfl⟩)
      | ⟨hr, hg, rfl⟩)
    · exact .id h
    · exact .repeated h hs
    · exact .file h
    · exact .find h
    · exact .guard hg h
    · exact .unguarded hr hg
  · intro h
    cases h with
    | id h => exact .inl (.inl (.inl (.inl (.inl ⟨h, rfl⟩))))
    | repeated h hs => exact .inl (.inl (.inl (.inl (.inr ⟨h, hs, rfl⟩))))
    | file h => exact .inl (.inl (.inl (.inr ⟨h, rfl⟩)))
    | find h => exact .inl (.inl (.inr ⟨h, rfl⟩))
    | guard hg h => exact .inl (.inr ⟨_, hg, h, rfl⟩)
    | unguarded hr hg => exact .inr ⟨hr, hg, rfl⟩

theorem defects_eq_nil_iff : d.defects seen = [] ↔ d.Complete seen := by
  rw [complete_iff, List.eq_nil_iff_forall_not_mem]
  simp only [mem_defects_iff]

/-- What is empty has the name of its own field, so no two of these are the same. -/
theorem nodup_fields (d : Definition) :
    ["id", "file", "find." ++ d.find.textField,
      "guard." ++ d.guard.elim "" MatcherSpec.textField].Nodup := by
  cases d.find <;> rcases d.guard with _ | ⟨text⟩ | ⟨source, flags⟩ <;>
    simp only [MatcherSpec.textField, Option.elim] <;> decide

/-- Every flaw is named once. -/
theorem nodup_defects (d : Definition) (seen : List String) : (d.defects seen).Nodup := by
  have hid : (d.idDefects seen).Sublist
      [if Text.isBlank d.id then .missingField none "id" else .duplicateId d.id] := by
    unfold idDefects givenId
    by_cases hb : Text.isBlank d.id <;> by_cases hs : d.id ∈ seen <;> simp [hb, hs]
  have hempty : ∀ field empty,
      (d.emptyField field empty).Sublist [.missingField d.givenId field] := by
    intro field empty
    cases empty <;> simp [emptyField]
  have hguard : d.guardDefects.Sublist
      [.missingField d.givenId ("guard." ++ d.guard.elim "" MatcherSpec.textField)] := by
    unfold guardDefects
    cases d.guard with
    | none => simp
    | some spec => exact hempty _ _
  have hrequired : d.requiredDefects.Sublist [.requiredWithoutGuard d.id] := by
    unfold requiredDefects
    cases d.required <;> cases d.guard <;> simp
  -- so they are taken from one list, in which every field comes up once
  refine List.Nodup.sublist
    ((((hid.append (hempty _ _)).append (hempty _ _)).append hguard).append hrequired) ?_
  have hfields := nodup_fields d
  by_cases hb : Text.isBlank d.id <;>
    simp_all [List.nodup_cons, givenId]

/-- Only a complete definition is tried as a rule. -/
theorem issues_of_complete (h : d.Complete seen) : d.issues seen = d.ruleDefects := by
  rw [issues, defects_eq_nil_iff.mpr h]

theorem issues_of_not_complete (h : ¬ d.Complete seen) : d.issues seen = d.defects seen := by
  unfold issues
  split
  · rename_i hnil
    exact absurd (defects_eq_nil_iff.mp hnil) h
  · rfl

theorem mem_ruleDefects_iff :
    issue ∈ d.ruleDefects ↔ ∃ cause, d.toRule = .error cause ∧ issue = .invalidRule d.id cause := by
  unfold ruleDefects
  cases d.toRule <;> simp

theorem ruleDefects_eq_nil_iff : d.ruleDefects = [] ↔ ∃ rule, d.toRule = .ok rule := by
  unfold ruleDefects
  cases d.toRule <;> simp

/-- **The issues of a definition**: its flaws, or the rule that it does not make. -/
theorem mem_issues_iff :
    issue ∈ d.issues seen ↔ d.Flaw seen issue
      ∨ (d.Complete seen ∧ ∃ cause, d.toRule = .error cause ∧ issue = .invalidRule d.id cause) := by
  by_cases h : d.Complete seen
  · have hno := complete_iff.mp h issue
    rw [issues_of_complete h, mem_ruleDefects_iff]
    simp [h, hno]
  · rw [issues_of_not_complete h, mem_defects_iff]
    simp [h]

theorem issues_eq_nil_iff : d.issues seen = [] ↔ d.Proper seen := by
  by_cases h : d.Complete seen
  · rw [issues_of_complete h, ruleDefects_eq_nil_iff]
    exact ⟨fun hr => ⟨h, hr⟩, fun hp => hp.2⟩
  · rw [issues_of_not_complete h, defects_eq_nil_iff]
    exact ⟨fun hc => absurd hc h, fun hp => hp.1⟩

/-- No flaw is a rule that is not made. -/
theorem Flaw.ne_invalidRule {id : String} {cause : RuleError} (h : d.Flaw seen issue) :
    issue ≠ .invalidRule id cause := by
  cases h <;> exact Issue.noConfusion

theorem invalidRule_mem_iff {id : String} {cause : RuleError} :
    .invalidRule id cause ∈ d.issues seen ↔
      d.Complete seen ∧ d.id = id ∧ d.toRule = .error cause := by
  rw [mem_issues_iff]
  constructor
  · rintro (hflaw | ⟨hc, cause', hr, heq⟩)
    · exact absurd rfl hflaw.ne_invalidRule
    · cases heq
      exact ⟨hc, rfl, hr⟩
  · rintro ⟨hc, rfl, hr⟩
    exact .inr ⟨hc, cause, hr, rfl⟩

theorem issues_of_invalidRule_mem {id : String} {cause : RuleError}
    (h : .invalidRule id cause ∈ d.issues seen) : d.issues seen = [.invalidRule id cause] := by
  obtain ⟨hc, rfl, hr⟩ := invalidRule_mem_iff.mp h
  rw [issues_of_complete hc, ruleDefects, hr]

theorem nodup_issues (d : Definition) (seen : List String) : (d.issues seen).Nodup := by
  by_cases h : d.Complete seen
  · rw [issues_of_complete h, ruleDefects]
    split <;> simp
  · rw [issues_of_not_complete h]
    exact nodup_defects d seen

theorem duplicateId_mem_iff {id : String} :
    .duplicateId id ∈ d.issues seen ↔ Text.isBlank id = false ∧ d.id = id ∧ id ∈ seen := by
  rw [mem_issues_iff]
  constructor
  · rintro (hflaw | ⟨-, cause, -, heq⟩)
    · cases hflaw with
      | repeated h hs => exact ⟨h, rfl, hs⟩
    · cases heq
  · rintro ⟨hb, rfl, hs⟩
    exact .inl (.repeated hb hs)

/-! ## Definitions behind each other -/

/-- What is wrong with a definition depends on those before it by the ids that they have. -/
theorem issues_congr {earlier : List String}
    (h : ∀ id, Text.isBlank id = false → (id ∈ seen ↔ id ∈ earlier)) :
    d.issues seen = d.issues earlier := by
  have hid : d.idDefects seen = d.idDefects earlier := by
    unfold idDefects givenId
    by_cases hb : Text.isBlank d.id
    · simp [hb]
    · simp [hb, h d.id (Bool.eq_false_iff.mpr hb)]
  simp only [issues, defects, hid]

theorem mem_givenId_append_iff {id : String} (hb : Text.isBlank id = false) :
    id ∈ d.givenId.toList ++ seen ↔ d.id = id ∨ id ∈ seen := by
  rw [List.mem_append, Option.mem_toList, givenId_eq_some_iff]
  constructor
  · rintro (⟨-, h⟩ | h)
    · exact .inl h
    · exact .inr h
  · rintro (rfl | h)
    · exact .inl ⟨hb, rfl⟩
    · exact .inr h

end Definition

variable {seen : List String} {ds : List Definition}

/-- **Every definition is judged in its place**, by the ids of all that stand before it. -/
theorem issuesOf_eq_flatten {earlier : List String}
    (h : ∀ id, Text.isBlank id = false → (id ∈ seen ↔ id ∈ earlier)) :
    issuesOf seen ds =
      (ds.mapIdx fun k d => d.issues (earlier ++ (ds.take k).map (·.id))).flatten := by
  induction ds generalizing seen earlier with
  | nil => rfl
  | cons d rest ih =>
      have hnext : ∀ id, Text.isBlank id = false →
          (id ∈ d.givenId.toList ++ seen ↔ id ∈ earlier ++ [d.id]) := by
        intro id hb
        rw [Definition.mem_givenId_append_iff hb, h id hb, List.mem_append, List.mem_singleton,
          or_comm, eq_comm]
      rw [issuesOf, ih hnext, Definition.issues_congr h]
      simp [List.mapIdx_cons]

/-- **An id is blamed once for every definition that uses it again.** -/
theorem count_duplicateId {id : String} (hb : Text.isBlank id = false) :
    (issuesOf seen ds).count (.duplicateId id) =
      if id ∈ seen then (ds.map (·.id)).count id else (ds.map (·.id)).count id - 1 := by
  induction ds generalizing seen with
  | nil => simp [issuesOf]
  | cons d rest ih =>
      have hown : (d.issues seen).count (.duplicateId id) =
          if d.id = id ∧ id ∈ seen then 1 else 0 := by
        rw [(Definition.nodup_issues d seen).count]
        simp only [Definition.duplicateId_mem_iff, hb, true_and]
      rw [issuesOf, List.count_append, hown, ih, List.map_cons, List.count_cons]
      simp only [Definition.mem_givenId_append_iff hb, beq_iff_eq]
      by_cases hd : d.id = id
      · by_cases hs : id ∈ seen
        · simp [hd, hs]
          omega
        · -- the first one to use it is not blamed
          simp [hd, hs]
      · simp [hd]

/-! ## Rule files -/

namespace Definition

/-- The issues that a definition has behind others are those that are due to it. -/
structure Blamed (d : Definition) (seen : List String) (own : List Issue) : Prop where
  /-- It has none if nothing is wrong with it. -/
  spared : own = [] ↔ d.Proper seen
  /-- They are its flaws, or the rule that it does not make. -/
  issues : ∀ issue, issue ∈ own ↔ d.Flaw seen issue
    ∨ (d.Complete seen ∧ ∃ cause, d.toRule = .error cause ∧ issue = .invalidRule d.id cause)
  /-- No issue is named twice. -/
  once : own.Nodup
  /-- It is blamed for its rule if it is complete and the rule is not made. -/
  tried : ∀ id cause,
    .invalidRule id cause ∈ own ↔ d.Complete seen ∧ d.id = id ∧ d.toRule = .error cause
  /-- If it is blamed for its rule, then for nothing else. -/
  alone : ∀ id cause, .invalidRule id cause ∈ own → own = [.invalidRule id cause]

theorem blamed_issues (d : Definition) (seen : List String) : d.Blamed seen (d.issues seen) where
  spared := issues_eq_nil_iff
  issues _ := mem_issues_iff
  once := nodup_issues d seen
  tried _ _ := invalidRule_mem_iff
  alone _ _ := issues_of_invalidRule_mem

end Definition

namespace RuleFile

variable {f : RuleFile}

/-- The ids of the definitions before a place. -/
def idsBefore (f : RuleFile) (k : Nat) : List String := (f.rules.take k).map (·.id)

theorem issues_eq_flatten (f : RuleFile) :
    f.issues = (if f.rules = [] then [.noRules] else [])
      ++ (f.rules.mapIdx fun k d => d.issues (f.idsBefore k)).flatten := by
  have hplaces := @issuesOf_eq_flatten [] f.rules [] fun _ _ => Iff.rfl
  rw [issues, hplaces]
  simp [idsBefore]

/-- A rule file is accepted if it has definitions and nothing is wrong with any of them. -/
theorem issues_eq_nil_iff (f : RuleFile) :
    f.issues = [] ↔ f.rules ≠ []
      ∧ ∀ (k : Nat) (d : Definition), f.rules[k]? = some d → d.Proper (f.idsBefore k) := by
  rw [issues_eq_flatten, List.append_eq_nil_iff, List.flatten_eq_nil_iff]
  constructor
  · rintro ⟨hne, hall⟩
    refine ⟨fun h => by simp [h] at hne, fun k d hk => ?_⟩
    refine Definition.issues_eq_nil_iff.mp (hall _ ?_)
    obtain ⟨hlt, rfl⟩ := List.getElem?_eq_some_iff.mp hk
    exact List.mem_mapIdx.mpr ⟨k, hlt, rfl⟩
  · rintro ⟨hne, hall⟩
    refine ⟨if_neg hne, fun own hown => ?_⟩
    obtain ⟨k, hlt, rfl⟩ := List.mem_mapIdx.mp hown
    exact Definition.issues_eq_nil_iff.mpr (hall k _ (List.getElem?_eq_getElem hlt))

theorem count_duplicateId_issues (f : RuleFile) (id : String) :
    f.issues.count (.duplicateId id) =
      if Text.isBlank id then 0 else (f.rules.map (·.id)).count id - 1 := by
  cases hb : Text.isBlank id with
  | true =>
      -- a blank id is missing, however often it is used
      refine List.count_eq_zero.mpr fun hmem => ?_
      rw [issues_eq_flatten, List.mem_append, List.mem_flatten] at hmem
      rcases hmem with hmem | ⟨own, hown, hmem⟩
      · split at hmem <;> simp at hmem
      · obtain ⟨k, hlt, rfl⟩ := List.mem_mapIdx.mp hown
        obtain ⟨hb', -, -⟩ := Definition.duplicateId_mem_iff.mp hmem
        exact Bool.noConfusion (hb.symm.trans hb')
  | false =>
      rw [issues, List.count_append, count_duplicateId hb]
      split <;> simp

/-- **Which rule files are accepted, and what the others are blamed for.** -/
theorem issues_blame (f : RuleFile) :
    (f.issues = [] ↔ f.rules ≠ []
        ∧ ∀ (k : Nat) (d : Definition), f.rules[k]? = some d → d.Proper (f.idsBefore k))
      ∧ f.issues = (if f.rules = [] then [.noRules] else [])
          ++ (f.rules.mapIdx fun k d => d.issues (f.idsBefore k)).flatten
      ∧ (∀ (k : Nat) (d : Definition), f.rules[k]? = some d →
          d.Blamed (f.idsBefore k) (d.issues (f.idsBefore k)))
      ∧ ∀ id, f.issues.count (.duplicateId id) =
          if Text.isBlank id then 0 else (f.rules.map (·.id)).count id - 1 :=
  ⟨f.issues_eq_nil_iff, f.issues_eq_flatten, fun k d _ => d.blamed_issues (f.idsBefore k),
    f.count_duplicateId_issues⟩

/-- The second definition is not tried as a rule, and the third one is blamed for nothing else. -/
example : RuleFile.issues { rules := [
      { id := "a", file := "f", find := .literal "x" },
      { id := "a", file := " ", find := .literal "x", scope := .all },
      { id := "b", file := "f", find := .literal "x", scope := .all }] } =
    [.duplicateId "a", .missingField (some "a") "file",
      .invalidRule "b" (.conflict "b" .allForLiteral)] := by
  decide +kernel

end RuleFile

end Emend
