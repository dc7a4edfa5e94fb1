import Emend.Proofs.Batches

/-!
# Confined editors

A workspace confines an editor to what lies below its root, whatever others do to the tree in
the meantime: they may move documents away, put links in their places, or replace the root. A
location is judged after all links have been followed, and judged on the tree of that moment.
What is written there is the very file that was judged, because no link leads to the location
that a path resolves to.

* `confined_cases`: a confined session writes the file that the workspace found, if anything.
* `Workspace.Keeps`, `keeps_run`, `keeps_turn`: what a turn of a confined editor keeps.
* `AlikeBelow`, `alike_run`, `alike_runPlans`: what it cannot see.
* `history_confined`: both, for all turns of an editor in a history of turns that are its own
  and turns of others.
-/

namespace Emend

namespace FileTree

variable {t t' : FileTree} {l : Location}

/-! ## Trees that differ outside of a root -/

/-- Two trees that differ in the contents of files at most, and below a root not even there. -/
structure AlikeBelow (root : Location) (t t' : FileTree) : Prop where
  shape : t.SameShape t'
  below : ∀ k, root <+: k → t'.get? k = t.get? k

/-- They stay alike when the same file is replaced in both. -/
theorem AlikeBelow.put {root : Location} (h : AlikeBelow root t t') (hl : t.IsFileAt l)
    (contents : ByteArray) (mode : Nat) :
    AlikeBelow root (t.put l (.file contents mode)) (t'.put l (.file contents mode)) where
  shape := by
    refine ⟨fun k => ?_, h.shape.workingDirectory⟩
    by_cases hk : k = l
    · subst hk
      exact .inl ((get?_put_self t' hl.ne_root _).trans (get?_put_self t hl.ne_root _).symm)
    · simp only [IsFileAt, get?_put_of_ne _ hk]
      exact h.shape.entry k
  below := by
    intro k hk
    by_cases hkl : k = l
    · subst hkl
      exact (get?_put_self t' hl.ne_root _).trans (get?_put_self t hl.ne_root _).symm
    · rw [get?_put_of_ne _ hkl, get?_put_of_ne _ hkl, h.below k hk]

end FileTree

namespace Workspace

open FileTree

variable {w : Workspace} {t t' t'' : FileTree} {p : Path} {l : Location}

/-! ## What a workspace lets through -/

theorem check_of_outside (h : ¬ w.root <+: l) : w.check l = .error (.outside l w.root) := by
  rw [← List.isPrefixOf_iff_prefix] at h
  simp [check, h]

/-- What a workspace admits lies below its root, and in no directory that it forbids. -/
theorem check_eq_ok_iff :
    w.check l = .ok () ↔ w.root <+: l ∧ ∀ d ∈ w.forbidden, ¬ d <+: l := by
  by_cases hroot : w.root <+: l
  · unfold check
    cases hf : w.forbidden.find? (·.isPrefixOf l) with
    | none => simpa [hroot] using hf
    | some d =>
        have hd : d <+: l := by simpa using List.find?_some hf
        simp only [List.isPrefixOf_iff_prefix.mpr hroot, Bool.not_true, Bool.false_eq_true,
          if_false, hroot, true_and, false_iff, reduceCtorEq]
        exact fun h => h d (List.mem_of_find?_eq_some hf) hd
  · simp [check_of_outside hroot, hroot]

theorem resolve_eq_ok_iff :
    w.resolve t p = .ok l ↔ t.resolve (w.fromRoot p) = .ok l ∧ w.check l = .ok () := by
  refine ⟨resolve_eq_ok, fun ⟨hres, hc⟩ => ?_⟩
  simp [resolve, locate, hres, hc, bind, Except.bind, pure, Except.pure]

/-- The path of a location does not depend on the root that it is seen from. -/
theorem fromRoot_ofLocation (w : Workspace) (l : Location) :
    w.fromRoot (.ofLocation l) = .ofLocation l := by
  rw [fromRoot, Path.join, if_pos (Path.isAbsolute_ofLocation l)]

/-- **A path that leads outside is refused.** -/
theorem resolve_of_outside (h : t.resolve (w.fromRoot p) = .ok l) (hl : ¬ w.root <+: l) :
    w.resolve t p = .error (.outside l w.root) := by
  simp [resolve, locate, h, check_of_outside hl, bind, Except.bind]

/-- A tree that has come from another one under the eyes of a workspace. -/
structure Keeps (w : Workspace) (t t' : FileTree) : Prop where
  shape : t.SameShape t'
  /-- Only what the workspace admits has changed. -/
  admitted : ∀ k, t'.get? k ≠ t.get? k → w.check k = .ok ()

theorem Keeps.refl (w : Workspace) (t : FileTree) : w.Keeps t t :=
  ⟨.refl t, fun _ h => absurd rfl h⟩

theorem Keeps.trans (h : w.Keeps t t') (h' : w.Keeps t' t'') : w.Keeps t t'' where
  shape := h.shape.trans h'.shape
  admitted := by
    intro k hk
    by_cases he : t'.get? k = t.get? k
    · exact h'.admitted k (he ▸ hk)
    · exact h.admitted k he

end Workspace

namespace Editor

open FileTree

variable {w : Workspace} {e : Editor} {t t' : FileTree} {identity : Path} {rules : RuleSet}
  {f : RuleFile} {root : Path} {plans : List Plan}

/-! ## Confined sessions -/

/-- A confined session that has written: where, and over what. -/
structure Overwrote (e : Editor) (w : Workspace) (t : FileTree) (P : Plan) (s : Session)
    (l : Location) (old : ByteArray) (mode : Nat) : Prop where
  result : (e.run t P.document P.rules).result = .ok s
  persisted : s.persisted = true
  resolved : w.resolve t P.document = .ok l
  stood : t.get? l = some (.file old mode)
  tree : (e.run t P.document P.rules).tree = t.put l (.file s.after.toUTF8 mode)

/-- **A confined session writes nothing, or the file that the workspace found.** -/
theorem confined_cases (hw : e.workspace = some w) (t : FileTree) (P : Plan) :
    e.Kept t P ∨ ∃ s l old mode, e.Overwrote w t P s l old mode := by
  rcases kept_or_wrote e t P with hk | ⟨d, s, l, r, mode, h⟩
  · exact .inl hk
  · right
    have hlr : l = r := h.opened.confined.resolve_right (by simp [hw])
    obtain ⟨k, hk, -⟩ := documentPath_confined hw (openDocument_eq_ok h.isOpen).1
    obtain ⟨hres, -⟩ := Workspace.resolve_eq_ok hk
    have hplace := h.opened.place
    rw [placeOf_confined hw, hres] at hplace
    obtain rfl : k = r := Except.ok.inj hplace
    subst hlr
    exact ⟨s, l, _, mode, h.result, h.persisted, hk, h.opened.file, h.tree⟩

/-- A session keeps what the workspace keeps. -/
theorem keeps_run (hw : e.workspace = some w) (t : FileTree) (P : Plan) :
    w.Keeps t (e.run t P.document P.rules).tree := by
  rcases confined_cases hw t P with hk | ⟨s, l, old, mode, h⟩
  · rw [hk.tree]
    exact .refl w t
  · rw [h.tree]
    refine ⟨.put ⟨old, mode, h.stood⟩ _ _, fun k hk => ?_⟩
    by_cases hkl : k = l
    · exact hkl ▸ (Workspace.resolve_eq_ok h.resolved).2
    · exact absurd (get?_put_of_ne t hkl _) hk

/-- A document outside is refused before anything is read. -/
theorem run_of_outside {l : Location} (hw : e.workspace = some w)
    (h : t.resolve (w.fromRoot identity) = .ok l) (hl : ¬ w.root <+: l) (rules : RuleSet) :
    e.run t identity rules = ⟨t, [], .error (.workspace (.outside l w.root))⟩ := by
  simp [run, session, openDocument, documentPath, hw, Workspace.resolve_of_outside h hl, bind,
    Except.bind, Except.map]

/-- **What is in files outside has no part in a session.** -/
theorem alike_run (hw : e.workspace = some w) (h : AlikeBelow w.root t t') (P : Plan) :
    (e.run t' P.document P.rules).result = (e.run t P.document P.rules).result
      ∧ AlikeBelow w.root (e.run t P.document P.rules).tree
          (e.run t' P.document P.rules).tree := by
  have hresolve : ∀ p, w.resolve t' p = w.resolve t p := fun p => by
    simp only [Workspace.resolve, Workspace.locate, h.shape.resolve]
  have hopen : e.openDocument t' P.document = e.openDocument t P.document := by
    refine openDocument_congr (by simp only [documentPath, hw, hresolve]) fun p hp => ?_
    obtain ⟨k, hk, rfl⟩ := documentPath_confined hw hp
    refine Agree.readText ⟨h.shape.resolve _, fun x hx => h.below x ?_⟩
    rw [resolve_ofLocation (Workspace.resolve_isReal hk)] at hx
    obtain rfl : k = x := Except.ok.inj hx
    exact (Workspace.check_eq_ok_iff.mp (Workspace.resolve_eq_ok hk).2).1
  have hresult := session_result_congr hopen (!e.dryRun) P.rules
  refine ⟨hresult, ?_⟩
  rcases confined_cases hw t P with hk | ⟨s, l, old, mode, ho⟩
  · -- whether a session has written stands in its record
    rcases confined_cases hw t' P with hk' | ⟨s', l', old', mode', ho'⟩
    · rw [hk.tree, hk'.tree]
      exact h
    · have := hk.persisted s' (hresult.symm.trans ho'.result)
      rw [ho'.persisted] at this
      cases this
  · rcases confined_cases hw t' P with hk' | ⟨s', l', old', mode', ho'⟩
    · have := hk'.persisted s (hresult.trans ho.result)
      rw [ho.persisted] at this
      cases this
    · obtain rfl : s = s' := Except.ok.inj (ho.result.symm.trans (hresult.symm.trans ho'.result))
      obtain rfl : l = l' :=
        Except.ok.inj (ho.resolved.symm.trans ((hresolve _).symm.trans ho'.resolved))
      have hbelow := h.below l (Workspace.check_eq_ok_iff.mp
        (Workspace.resolve_eq_ok ho.resolved).2).1
      rw [ho.stood, ho'.stood] at hbelow
      cases hbelow
      rw [ho.tree, ho'.tree]
      exact h.put ⟨_, _, ho.stood⟩ _ _

/-! ## Confined batches -/

/-- Each document of a batch is edited on a tree that the workspace has kept. -/
theorem keeps_runPlans (hw : e.workspace = some w) (t : FileTree) (plans : List Plan) :
    w.Keeps t (e.runPlans t plans).tree
      ∧ ∀ o ∈ (e.runPlans t plans).outcomes, ∃ t' rules, w.Keeps t t'
        ∧ o.2 = (e.run t' o.1 rules).result := by
  induction plans generalizing t with
  | nil => exact ⟨.refl w t, by simp [runPlans, Batch.ofPlans]⟩
  | cons P rest ih =>
      have hfirst := keeps_run hw t P
      obtain ⟨htree, houtcomes⟩ := ih (e.run t P.document P.rules).tree
      refine ⟨hfirst.trans htree, fun o ho => ?_⟩
      rcases List.mem_cons.mp ho with rfl | ho
      · exact ⟨t, P.rules, .refl w t, rfl⟩
      · obtain ⟨t', rules, ht', hresult⟩ := houtcomes o ho
        exact ⟨t', rules, hfirst.trans ht', hresult⟩

/-- What is in files outside has no part in a batch. -/
theorem alike_runPlans (hw : e.workspace = some w) (h : AlikeBelow w.root t t')
    (plans : List Plan) : (e.runPlans t' plans).outcomes = (e.runPlans t plans).outcomes
      ∧ AlikeBelow w.root (e.runPlans t plans).tree (e.runPlans t' plans).tree := by
  induction plans generalizing t t' with
  | nil => exact ⟨rfl, h⟩
  | cons P rest ih =>
      obtain ⟨hresult, htrees⟩ := alike_run hw h P
      obtain ⟨houtcomes, hend⟩ := ih htrees
      refine ⟨?_, hend⟩
      simp only [runPlans, Batch.ofPlans, hresult]
      exact congrArg _ houtcomes

/-! ## Turns -/

/-- What is done to a file tree, by an editor or by others. -/
inductive Turn
  /-- Others leave behind any tree they like. -/
  | others (after : FileTree)
  | run (identity : Path) (rules : RuleSet)
  | check (identity : Path) (rules : RuleSet)
  | applyFile (f : RuleFile) (root : Path)
  | checkFile (f : RuleFile) (root : Path)

/-- Is it the editor's turn? -/
def Turn.isOurs : Turn → Bool
  | others _ => false
  | _ => true

/-- A session as a batch of one document. -/
def single (identity : Path) (r : Run) : Batch := ⟨r.tree, r.log, [(identity, r.result)]⟩

/-- A batch whose rules could not be made has not begun. -/
def begun (t : FileTree) : Except RuleError Batch → Batch
  | .ok b => b
  | .error _ => { tree := t }

/-- What a turn leaves behind, with the outcomes of the sessions in it. -/
def turn (e : Editor) (t : FileTree) : Turn → Batch
  | .others after => { tree := after }
  | .run identity rules => single identity (e.run t identity rules)
  | .check identity rules => single identity (e.check t identity rules)
  | .applyFile f root => begun t (e.applyFile t f root)
  | .checkFile f root => begun t (e.checkFile t f root)

/-- The turns of a history, each with the tree that it found. -/
def history (e : Editor) : FileTree → List Turn → List (FileTree × Turn)
  | _, [] => []
  | t, turn :: rest => (t, turn) :: e.history (e.turn t turn).tree rest

/-- The tree at the end of a history. -/
def play (e : Editor) (t : FileTree) (turns : List Turn) : FileTree :=
  turns.foldl (fun t turn => (e.turn t turn).tree) t

/-- **A turn of an editor is a batch of plans**, which it takes to their documents or checks. -/
theorem turn_eq_runPlans (e : Editor) {turn : Turn} (h : turn.isOurs = true) :
    ∃ dryRun plans, ∀ t, (e.turn t turn).tree = ({ e with dryRun }.runPlans t plans).tree
      ∧ (e.turn t turn).outcomes = ({ e with dryRun }.runPlans t plans).outcomes := by
  cases turn with
  | others after => cases h
  | run identity rules => exact ⟨e.dryRun, [⟨identity, rules⟩], fun _ => ⟨rfl, rfl⟩⟩
  | check identity rules => exact ⟨true, [⟨identity, rules⟩], fun _ => ⟨rfl, rfl⟩⟩
  | applyFile f root =>
      cases hplans : f.plans root with
      | error err =>
          refine ⟨true, [], fun t => ?_⟩
          simp only [Editor.turn, applyFile, hplans]
          exact ⟨rfl, rfl⟩
      | ok plans =>
          refine ⟨e.dryRun, plans, fun t => ?_⟩
          simp only [Editor.turn, RuleFile.applyFile_of_plans hplans]
          exact ⟨rfl, rfl⟩
  | checkFile f root =>
      cases hplans : f.plans root with
      | error err =>
          refine ⟨true, [], fun t => ?_⟩
          simp only [Editor.turn, checkFile, hplans]
          exact ⟨rfl, rfl⟩
      | ok plans =>
          refine ⟨true, plans, fun t => ?_⟩
          simp only [Editor.turn, RuleFile.checkFile_of_plans hplans]
          exact ⟨rfl, rfl⟩

/-- **What a turn of a confined editor keeps**, and on which trees its sessions run. -/
theorem keeps_turn (hw : e.workspace = some w) (t : FileTree) {turn : Turn}
    (h : turn.isOurs = true) :
    w.Keeps t (e.turn t turn).tree
      ∧ ∀ o ∈ (e.turn t turn).outcomes, ∃ dryRun t' rules, w.Keeps t t'
        ∧ o.2 = ({ e with dryRun }.run t' o.1 rules).result := by
  obtain ⟨dryRun, plans, hplans⟩ := e.turn_eq_runPlans h
  obtain ⟨htree, houtcomes⟩ := hplans t
  rw [htree, houtcomes]
  obtain ⟨hkeeps, hall⟩ := keeps_runPlans (e := { e with dryRun }) hw t plans
  exact ⟨hkeeps, fun o ho => ⟨dryRun, hall o ho⟩⟩

/-! ## Histories -/

/-- A turn that does not go beyond a workspace. -/
structure Contained (e : Editor) (w : Workspace) (t : FileTree) (turn : Turn) : Prop where
  /-- What it changes lies below the root. -/
  changed : ∀ k, (e.turn t turn).tree.get? k ≠ t.get? k → w.root <+: k
  /-- A document that really is outside is refused as such. -/
  refused : ∀ identity result l, (identity, result) ∈ (e.turn t turn).outcomes →
    t.resolve (w.fromRoot identity) = .ok l → ¬ w.root <+: l →
    result = .error (.workspace (.outside l w.root))
  /-- What is in files outside can be told neither from the outcomes nor from what is written. -/
  unread : ∀ t', AlikeBelow w.root t t' → (e.turn t' turn).outcomes = (e.turn t turn).outcomes
    ∧ AlikeBelow w.root (e.turn t turn).tree (e.turn t' turn).tree

theorem contained_turn (hw : e.workspace = some w) (t : FileTree) {turn : Turn}
    (h : turn.isOurs = true) : e.Contained w t turn where
  changed := by
    intro k hk
    exact (Workspace.check_eq_ok_iff.mp ((keeps_turn hw t h).1.admitted k hk)).1
  refused := by
    intro identity result l ho hres hl
    obtain ⟨dryRun, t', rules, hkeeps, hresult⟩ := (keeps_turn hw t h).2 _ ho
    -- the sessions before this one have not changed where the path leads
    rw [← hkeeps.shape.resolve] at hres
    exact hresult.trans (by rw [run_of_outside (e := { e with dryRun }) hw hres hl])
  unread := by
    intro t' halike
    obtain ⟨dryRun, plans, hplans⟩ := e.turn_eq_runPlans h
    rw [(hplans t).1, (hplans t').1, (hplans t).2, (hplans t').2]
    exact alike_runPlans (e := { e with dryRun }) hw halike plans

/-- **What no turn of an editor changes is changed by others or not at all.** -/
theorem play_get? {k : Location} (h : ∀ t turn, turn.isOurs = true →
      (e.turn t turn).tree.get? k = t.get? k) (t : FileTree) (turns : List Turn)
    (hothers : ∀ here after, (here, .others after) ∈ e.history t turns →
      after.get? k = here.get? k) : (e.play t turns).get? k = t.get? k := by
  induction turns generalizing t with
  | nil => rfl
  | cons turn rest ih =>
      refine (ih _ fun here after hm => hothers here after (List.mem_cons_of_mem _ hm)).trans ?_
      cases hours : turn.isOurs with
      | true => exact h t turn hours
      | false =>
          cases turn with
          | others after => exact hothers t after List.mem_cons_self
          | _ => cases hours

/--
**A workspace confines an editor in every history.** Others may leave behind whatever tree they
like between its turns. Each of its own turns changes only what lies below the root, refuses
every document that really is outside, and does not read what is in files outside. So an entry
outside the root is at the end what it was at the beginning, unless others have changed it.
-/
theorem history_confined (w : Workspace) (dryRun : Bool) (t : FileTree) (turns : List Turn) :
    (∀ here turn, (here, turn) ∈ ({ workspace := some w, dryRun } : Editor).history t turns →
        turn.isOurs = true → ({ workspace := some w, dryRun } : Editor).Contained w here turn)
      ∧ ∀ k, ¬ w.root <+: k →
          (∀ here after, (here, .others after) ∈
            ({ workspace := some w, dryRun } : Editor).history t turns →
              after.get? k = here.get? k) →
          (({ workspace := some w, dryRun } : Editor).play t turns).get? k = t.get? k := by
  refine ⟨fun here turn _ h => contained_turn rfl here h, fun k hk => ?_⟩
  refine play_get? (fun here turn h => ?_) t turns
  exact Classical.byContradiction fun hne => hk ((contained_turn rfl here h).changed k hne)

/-- A workspace with a link in it that leads to a file beside it. -/
def linkedAside : FileTree where
  entries :=
    [(["ws"], .directory directoryMode),
      (["ws", "doc.txt"], .link ⟨["..", "ws-2.txt"]⟩),
      (["ws-2.txt"], .file "one".toUTF8 0o644)]

example : (({ workspace := some ⟨["ws"], []⟩ } : Editor).turn linkedAside
    (.run ⟨["doc.txt"]⟩ {})).outcomes =
      [(⟨["doc.txt"]⟩, .error (.workspace (.outside ["ws-2.txt"] ["ws"])))] := by
  decide +kernel

end Editor

end Emend
