import Emend.Proofs.Writing
import Emend.Session.Run

/-!
# What a session does to the tree

A session can end in three ways: its document cannot be opened, a required rule finds
nothing, or the record says what became of the document. `session_cases` lists them
with the tree that each leaves, and everything here is read off that list.

* `run_all_or_nothing`: a run leaves the tree as it was, or replaces one entry.
* `check_predicts_run`: a check comes to the same end as a run.

That there is no fourth way, in which writing fails after the rules have passed, rests
on `writeBack_of_open`: whatever could be opened can be judged again and written.
-/

namespace Emend

open FileTree

/-- One entry of a tree has been replaced by a file with a text, and nothing else has changed. -/
structure FileTree.Replaced (t t' : FileTree) (l : Location) (text : String) (mode : Nat) :
    Prop where
  file : t'.get? l = some (.file text.toUTF8 mode)
  /-- It is not what stood there before. -/
  differs : t'.get? l ≠ t.get? l
  elsewhere : ∀ k, k ≠ l → t'.get? k = t.get? k
  workingDirectory : t'.workingDirectory = t.workingDirectory

theorem FileTree.Entered.replaced {t : FileTree} {p : Path} {text new : String} {l : Location}
    {mode : Nat} (h : t.Entered p text l mode) (hne : new ≠ text) :
    t.Replaced (t.put l (.file new.toUTF8 mode)) l new mode := by
  have hself := get?_put_self t h.ne_root (.file new.toUTF8 mode)
  refine ⟨hself, ?_, fun k hk => get?_put_of_ne t hk _, rfl⟩
  rw [hself]
  intro hg
  have : new.toUTF8 = text.toUTF8 := h.contents _ _ hg.symm
  exact hne (String.toByteArray_inj.mp this)

namespace Workspace

variable {w : Workspace} {t : FileTree}

/-- A path seen from the root of a workspace starts at the root of the tree. -/
theorem fromRoot_isAbsolute {p : Path} (h : (w.fromRoot p).isEmpty = false) :
    (w.fromRoot p).isAbsolute := by
  by_cases hp : p.isAbsolute
  · rw [fromRoot, Path.join, if_pos hp]
    exact hp
  · have hroot : ∃ s tail, (Path.ofLocation w.root).segments = .text "" :: s :: tail :=
      Path.isAbsolute_iff.mp (Path.isAbsolute_ofLocation w.root)
    obtain ⟨s, tail, hroot⟩ := hroot
    have hne : (Path.ofLocation w.root).isEmpty = false := by simp [Path.isEmpty, hroot]
    have hseg : ∃ more, (w.fromRoot p).segments = .text "" :: more := by
      rw [fromRoot, Path.join, if_neg hp, if_neg (by simp [hne])]
      split
      · rename_i rest hrev
        have : (Path.ofLocation w.root).segments = rest.reverse ++ [.text ""] := by
          simpa using congrArg List.reverse hrev
        rw [hroot] at this
        cases hr : rest.reverse with
        | nil => simp [hr] at this
        | cons a more =>
            rw [hr, List.cons_append] at this
            exact ⟨more ++ p.segments, by rw [← (List.cons.inj this).1]; rfl⟩
      · exact ⟨s :: tail ++ p.segments, by rw [hroot]; rfl⟩
    obtain ⟨more, hmore⟩ := hseg
    cases more with
    | nil => simp [Path.isEmpty, hmore] at h
    | cons b more => exact Path.isAbsolute_iff.mpr ⟨b, more, hmore⟩

/-- What a workspace resolves is the location of the path, and has been judged. -/
theorem resolve_eq_ok {p : Path} {l : Location} (h : w.resolve t p = .ok l) :
    t.resolve (w.fromRoot p) = .ok l ∧ w.check l = .ok () := by
  obtain ⟨k, hres, h⟩ := bind_eq_ok_iff.mp h
  obtain ⟨u, hc, h⟩ := bind_eq_ok_iff.mp h
  cases h
  exact ⟨mapError_eq_ok_iff.mp hres, hc⟩

/-- It is a real location. -/
theorem resolve_isReal {p : Path} {l : Location} (h : w.resolve t p = .ok l) : t.Real l := by
  have hres := (resolve_eq_ok h).1
  refine resolve_real (fromRoot_isAbsolute ?_) hres
  by_cases he : (w.fromRoot p).isEmpty
  · rw [FileTree.resolve, if_pos he] at hres
    cases hres
  · simpa using he

/-- **A location that has been resolved is judged again in the same way.** -/
theorem revalidate_ofLocation {l : Location} (hl : t.Real l) (hc : w.check l = .ok ()) :
    w.revalidate t (.ofLocation l) = .ok l := by
  simp [revalidate, locate, resolve_ofLocation hl, bind, Except.bind, hc, pure,
    Except.pure]

end Workspace

namespace Editor

variable {e : Editor} {t : FileTree} {identity : Path} {d : Document} {rules : RuleSet}

/-! ## Opening and writing back -/

/-- An opened document holds the text of its path, which has not been edited. -/
theorem openDocument_eq_ok (h : e.openDocument t identity = .ok d) :
    e.documentPath t identity = .ok d.path ∧ t.readText d.path = .ok d.initial
      ∧ d.content = d.initial := by
  obtain ⟨path, hp, h⟩ := bind_eq_ok_iff.mp h
  obtain ⟨text, hr, rfl⟩ := map_eq_ok_iff.mp (mapError_eq_ok_iff.mp h)
  exact ⟨hp, hr, rfl⟩

/-- A document that cannot be opened has not drifted. -/
theorem openDocument_ne_drifted {identity path : Path} {rule : String} {reports : List Report} :
    e.openDocument t identity ≠ .error (.drifted path rule reports) := by
  intro h
  unfold openDocument documentPath at h
  cases hw : e.workspace with
  | none =>
      cases hload : Document.load t identity with
      | error f => simp [hw, hload, bind, Except.bind] at h
      | ok d => simp [hw, hload, bind, Except.bind] at h
  | some w =>
      cases hl : w.resolve t identity with
      | error err => simp [hw, hl, bind, Except.bind, Except.map] at h
      | ok l =>
          cases hload : Document.load t (.ofLocation l) with
          | error f => simp [hw, hl, hload, bind, Except.bind, Except.map] at h
          | ok d => simp [hw, hl, hload, bind, Except.bind, Except.map] at h

/-- Without a workspace a document stands where its identity says. -/
theorem documentPath_free {p : Path} (hw : e.workspace = none)
    (h : e.documentPath t identity = .ok p) : p = identity := by
  rw [documentPath, hw] at h
  exact (Except.ok.inj h).symm

/-- In a workspace it stands at a real location, which the workspace has judged. -/
theorem documentPath_confined {w : Workspace} {p : Path} (hw : e.workspace = some w)
    (h : e.documentPath t identity = .ok p) :
    ∃ l, w.resolve t identity = .ok l ∧ p = .ofLocation l := by
  rw [documentPath, hw] at h
  cases hl : w.resolve t identity with
  | error err => simp [hl, Except.map] at h
  | ok l =>
      simp only [hl, Except.map, mapError_ok] at h
      exact ⟨l, rfl, (Except.ok.inj h).symm⟩

/-- **An opened document is judged again in the same way.** -/
theorem judgeAgain_of_open (h : e.openDocument t identity = .ok d) :
    e.judgeAgain t d.path = .ok () := by
  obtain ⟨hp, -, -⟩ := openDocument_eq_ok h
  unfold judgeAgain
  cases hw : e.workspace with
  | none => rfl
  | some w =>
      obtain ⟨l, hl, he⟩ := documentPath_confined hw hp
      simp only [he]
      rw [Workspace.revalidate_ofLocation (Workspace.resolve_isReal hl)
        (Workspace.resolve_eq_ok hl).2]
      rfl

/-- **An opened document can be written back**, over the entry of its path. -/
theorem writeBack_of_open (h : e.openDocument t identity = .ok d) :
    ∃ l mode, t.Entered d.path d.initial l mode
      ∧ ∀ text, text ≠ d.initial → e.writeBack t { d with content := text } =
          (t.put l (.file text.toUTF8 mode), .ok true) := by
  obtain ⟨-, hr, -⟩ := openDocument_eq_ok h
  obtain ⟨l, mode, hE⟩ := entered_of_readText hr
  refine ⟨l, mode, hE, fun text hne => ?_⟩
  have hmod : ({ d with content := text } : Document).isModified := by
    simpa [Document.isModified] using hne
  unfold writeBack
  rw [judgeAgain_of_open h]
  simp only [Document.persist, hmod, if_true, hE.replaceFile]
  rfl

/-- So its session is finished without an error. -/
theorem finish_of_open (h : e.openDocument t identity = .ok d) :
    ∃ l mode, t.Entered d.path d.initial l mode
      ∧ ∀ write text, e.finish write t { d with content := text } =
          (if text ≠ d.initial ∧ write then t.put l (.file text.toUTF8 mode) else t,
            .ok (text ≠ d.initial && write)) := by
  obtain ⟨l, mode, hE, hw⟩ := writeBack_of_open h
  refine ⟨l, mode, hE, fun write text => ?_⟩
  unfold finish
  by_cases hne : text = d.initial
  · simp [Document.isModified, hne]
  · cases write with
    | false => simp [Document.isModified]
    | true => simp [Document.isModified, hne, hw text hne]

/-! ## The three ends of a session -/

/-- A session whose document could not be opened. -/
structure Unopened (e : Editor) (t : FileTree) (identity : Path) (r : Run) (err : SessionError) :
    Prop where
  opened : e.openDocument t identity = .error err
  tree : r.tree = t
  result : r.result = .error err

/-- A session that a required rule has ended. -/
structure Drifted (e : Editor) (t : FileTree) (identity : Path) (rules : RuleSet) (r : Run)
    (d : Document) (rule : String) : Prop where
  opened : e.openDocument t identity = .ok d
  aborted : (rules.pass d.initial).abortedBy = some rule
  tree : r.tree = t
  result : r.result = .error (.drifted d.path rule (rules.pass d.initial).reports)

/-- A session that came to its end. -/
structure Finished (e : Editor) (write : Bool) (t : FileTree) (identity : Path)
    (rules : RuleSet) (r : Run) (d : Document) (l : Location) (mode : Nat) : Prop where
  opened : e.openDocument t identity = .ok d
  entered : t.Entered d.path d.initial l mode
  finished : (rules.pass d.initial).abortedBy = none
  /-- The text has changed and may be written, and it has been. -/
  tree : r.tree = if (rules.pass d.initial).content ≠ d.initial ∧ write then
    t.put l (.file (rules.pass d.initial).content.toUTF8 mode) else t
  result : r.result = .ok (.ofTexts d.path (rules.pass d.initial).reports
    ((rules.pass d.initial).content ≠ d.initial && write) d.initial
    (rules.pass d.initial).content)

/-- **Every session ends in one of three ways**, whether it may write or not. -/
theorem session_cases (e : Editor) (t : FileTree) (identity : Path) (rules : RuleSet) :
    (∃ err, ∀ write, e.Unopened t identity (e.session write t identity rules) err)
    ∨ (∃ d rule, ∀ write, e.Drifted t identity rules (e.session write t identity rules) d rule)
    ∨ (∃ d l mode, ∀ write,
        e.Finished write t identity rules (e.session write t identity rules) d l mode) := by
  cases ho : e.openDocument t identity with
  | error err =>
      left
      refine ⟨err, fun write => ⟨ho, ?_, ?_⟩⟩
      · rw [session, ho]
      · rw [session, ho]
  | ok d =>
      right
      obtain ⟨-, -, hcontent⟩ := openDocument_eq_ok ho
      have hs : ∀ write, e.session write t identity rules = e.edit write t d rules := by
        intro write
        rw [session, ho]
      cases ha : (rules.pass d.initial).abortedBy with
      | some rule =>
          left
          refine ⟨d, rule, fun write => ⟨ho, ha, ?_, ?_⟩⟩
          · simp only [hs, edit, hcontent, ha]
          · simp only [hs, edit, hcontent, ha]
      | none =>
          right
          obtain ⟨l, mode, hE, hf⟩ := finish_of_open ho
          refine ⟨d, l, mode, fun write => ⟨ho, hE, ha, ?_, ?_⟩⟩
          · simp only [hs, edit, hcontent, ha, hf]
          · simp only [hs, edit, hcontent, ha, hf]

/-! ## All or nothing -/

/--
What the record of a run says, compared with the tree before the run, `t`, and the
tree after it, `t'`.
-/
structure Accounts (e : Editor) (t : FileTree) (identity : Path) (rules : RuleSet) (s : Session)
    (t' : FileTree) : Prop where
  /-- Without a workspace the document is the one that was asked for. -/
  free : e.workspace = none → s.document = identity
  /-- In a workspace it is the location of that one, and its entry stands right there. -/
  confined : ∀ w, e.workspace = some w → ∃ l, t.resolve (w.fromRoot identity) = .ok l
    ∧ s.document = .ofLocation l ∧ t.entryLocation s.document = .ok l
  /-- The text before is what was read. -/
  before : t.readText s.document = .ok s.before
  /-- The rest is what the rules made of it, and no rule ended the pass. -/
  reports : s.reports = (rules.pass s.before).reports
  after : s.after = (rules.pass s.before).content
  finished : (rules.pass s.before).abortedBy = none
  changed : s.changed = true ↔ s.after ≠ s.before
  persisted : s.persisted = true ↔ s.changed = true ∧ e.dryRun = false
  /-- What was not written back has been left alone. -/
  kept : s.persisted = false → t' = t
  /-- What was written back is one file in the place of one entry. -/
  replaced : s.persisted = true → ∃ l mode, t.entryLocation s.document = .ok l
    ∧ t.mode? s.document = some mode ∧ t.Replaced t' l s.after mode

theorem accounts_of_finished {r : Run} {l : Location} {mode : Nat}
    (h : e.Finished (!e.dryRun) t identity rules r d l mode) :
    e.Accounts t identity rules (.ofTexts d.path (rules.pass d.initial).reports
      ((rules.pass d.initial).content ≠ d.initial && !e.dryRun) d.initial
      (rules.pass d.initial).content) r.tree where
  free := fun hw => documentPath_free hw (openDocument_eq_ok h.opened).1
  confined := by
    intro w hw
    obtain ⟨k, hk, he⟩ := documentPath_confined hw (openDocument_eq_ok h.opened).1
    have hreal := Workspace.resolve_isReal hk
    refine ⟨k, (Workspace.resolve_eq_ok hk).1, he, ?_⟩
    have hne : k ≠ [] := by
      intro h0
      have := h.entered.location
      rw [he, h0] at this
      cases this
    simp only [Session.ofTexts]
    rw [he]
    exact entryLocation_ofLocation hreal hne
  before := (openDocument_eq_ok h.opened).2.1
  reports := rfl
  after := rfl
  finished := h.finished
  changed := by simp [Session.ofTexts]
  persisted := by simp [Session.ofTexts]
  kept := by
    intro hp
    rw [h.tree, if_neg]
    simpa [Session.ofTexts] using hp
  replaced := by
    intro hp
    have hp' : (rules.pass d.initial).content ≠ d.initial ∧ (!e.dryRun) = true := by
      simpa [Session.ofTexts] using hp
    rw [h.tree, if_pos hp']
    exact ⟨l, mode, h.entered.location, h.entered.mode, h.entered.replaced hp'.1⟩

/--
**A run is all or nothing.** If it fails, the tree is the one from before; otherwise
its record accounts for the tree after it.
-/
theorem run_all_or_nothing (e : Editor) (t : FileTree) (identity : Path) (rules : RuleSet) :
    match (e.run t identity rules).result with
    | .error _ => (e.run t identity rules).tree = t
    | .ok s => e.Accounts t identity rules s (e.run t identity rules).tree := by
  unfold run
  rcases session_cases e t identity rules with ⟨err, h⟩ | ⟨d, rule, h⟩ | ⟨d, l, mode, h⟩
  · rw [(h (!e.dryRun)).result]
    exact (h (!e.dryRun)).tree
  · rw [(h (!e.dryRun)).result]
    exact (h (!e.dryRun)).tree
  · rw [(h (!e.dryRun)).result]
    exact accounts_of_finished (h (!e.dryRun))

/-! ## Checks -/

/-- A session that may not write leaves the tree alone. -/
theorem session_readOnly_tree (e : Editor) (t : FileTree) (identity : Path) (rules : RuleSet) :
    (e.session false t identity rules).tree = t := by
  rcases session_cases e t identity rules with ⟨err, h⟩ | ⟨d, rule, h⟩ | ⟨d, l, mode, h⟩
  · exact (h false).tree
  · exact (h false).tree
  · rw [(h false).tree, if_neg (by simp)]

/-- And its record says so. -/
theorem session_readOnly_persisted {s : Session}
    (hs : (e.session false t identity rules).result = .ok s) : s.persisted = false := by
  rcases session_cases e t identity rules with ⟨err, h⟩ | ⟨d, rule, h⟩ | ⟨d, l, mode, h⟩
  · rw [(h false).result] at hs
    cases hs
  · rw [(h false).result] at hs
    cases hs
  · rw [(h false).result] at hs
    cases hs
    simp [Session.ofTexts]

/-- **Being allowed to write changes nothing in the result** but whether a changed document
counts as written. -/
theorem session_writing_result (e : Editor) (t : FileTree) (identity : Path) (rules : RuleSet) :
    (e.session true t identity rules).result =
      (e.session false t identity rules).result.map
        (fun s => { s with persisted := s.changed }) := by
  rcases session_cases e t identity rules with ⟨err, h⟩ | ⟨d, rule, h⟩ | ⟨d, l, mode, h⟩
  · rw [(h true).result, (h false).result]
    rfl
  · rw [(h true).result, (h false).result]
    rfl
  · rw [(h true).result, (h false).result]
    simp [Session.ofTexts, Except.map]

/--
**A check comes to the end that a run comes to.** It leaves the tree alone, and so does
a dry run, which is the same run. The run that writes has the same result, apart from
saying that a changed document was written: for whatever can be opened can be judged
again and replaced.
-/
theorem check_predicts_run (e : Editor) (t : FileTree) (identity : Path) (rules : RuleSet) :
    (e.check t identity rules).tree = t
      ∧ { e with dryRun := true }.run t identity rules = e.check t identity rules
      ∧ ({ e with dryRun := false }.run t identity rules).result =
          (e.check t identity rules).result.map (fun s => { s with persisted := s.changed })
      ∧ (∀ s, (e.check t identity rules).result = .ok s → s.persisted = false)
      ∧ ∀ d, e.openDocument t identity = .ok d → ∀ text,
          e.judgeAgain t d.path = .ok () ∧ (t.replaceFile d.path text).2 = .ok () := by
  refine ⟨session_readOnly_tree e t identity rules, rfl,
    session_writing_result e t identity rules, fun s hs => session_readOnly_persisted hs, ?_⟩
  intro d hd text
  obtain ⟨-, hr, -⟩ := openDocument_eq_ok hd
  obtain ⟨l, mode, hE⟩ := entered_of_readText hr
  exact ⟨judgeAgain_of_open hd, by rw [hE.replaceFile]⟩

end Editor

end Emend
