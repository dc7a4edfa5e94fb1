import Emend.Proofs.Replacing
import Emend.Proofs.Sessions
import Emend.RuleFile.Plan

/-!
# Where a session writes

A session knows its document by a path, which may be relative, or go over links. What it
writes, it writes to one entry; and that entry stands for the very file that it has read.

* `placeOf` is the path by which a document is found, in a workspace or without one.
* `opened_of_open`: the entry of an opened document stands for the file that was read.
* `kept_or_wrote`: a session leaves the tree alone and has nothing to write, or it puts a
  file in the place of that entry.
-/

namespace Emend.Editor

open FileTree

variable {e : Editor} {t : FileTree} {identity : Path} {d : Document} {P : Plan} {l : Location}

/-! ## Where a document is found -/

/-- The path by which a document is found: in a workspace, as it is seen from the root. -/
def placeOf (e : Editor) (identity : Path) : Path :=
  match e.workspace with
  | some w => w.fromRoot identity
  | none => identity

/-- A document that has been opened: the file that it was read from, and the entry of its path. -/
structure Opened (e : Editor) (t : FileTree) (identity : Path) (d : Document) (l r : Location)
    (mode : Nat) : Prop where
  place : t.resolve (e.placeOf identity) = .ok r
  file : t.get? r = some (.file d.initial.toUTF8 mode)
  endsIn : ∃ directory name, t.EndsIn d.path directory name
  entry : t.entryLocation d.path = .ok l
  mode : t.mode? d.path = some mode
  stands : t.StandsFor l r
  /-- Without a workspace the document is the one that was asked for. -/
  free : e.workspace = none → d.path = identity
  /-- In a workspace its entry is the file itself. -/
  confined : l = r ∨ e.workspace = none

theorem placeOf_free (hw : e.workspace = none) (identity : Path) :
    e.placeOf identity = identity := by
  rw [placeOf, hw]

theorem placeOf_confined {w : Workspace} (hw : e.workspace = some w) (identity : Path) :
    e.placeOf identity = w.fromRoot identity := by
  rw [placeOf, hw]

/-- Without a workspace the path of the document is the one that was asked for. -/
theorem opened_free {r : Location} {mode : Nat} (hw : e.workspace = none)
    (h : e.documentPath t identity = .ok d.path) (hres : t.resolve d.path = .ok r)
    (hfile : t.get? r = some (.file d.initial.toUTF8 mode)) :
    ∃ l, e.Opened t identity d l r mode := by
  have hisfile : t.IsFileAt r := ⟨_, _, hfile⟩
  obtain ⟨directory, name, hends, -⟩ := endsIn_of_resolve hres hisfile.not_directory
  have hpath : d.path = identity := documentPath_free hw h
  refine ⟨directory ++ [name], ?_⟩
  exact {
    place := by rw [placeOf_free hw, ← hpath, hres]
    file := hfile
    endsIn := ⟨directory, name, hends⟩
    entry := hends.entryLocation
    mode := by simp [mode?, hres, hfile, Entry.mode?]
    stands := hends.standsFor hres hisfile
    free := fun _ => hpath
    confined := .inr hw }

/-- In a workspace it is a real location, which is its own entry. -/
theorem opened_confined {w : Workspace} {r : Location} {mode : Nat} (hw : e.workspace = some w)
    (h : e.documentPath t identity = .ok d.path) (hres : t.resolve d.path = .ok r)
    (hfile : t.get? r = some (.file d.initial.toUTF8 mode)) : e.Opened t identity d r r mode := by
  have hisfile : t.IsFileAt r := ⟨_, _, hfile⟩
  obtain ⟨directory, name, hends, -⟩ := endsIn_of_resolve hres hisfile.not_directory
  obtain ⟨k, hk, hpath⟩ := documentPath_confined hw h
  have hreal := Workspace.resolve_isReal hk
  obtain rfl : k = r := by
    rw [hpath, resolve_ofLocation hreal] at hres
    exact Except.ok.inj hres
  have hentry : t.entryLocation d.path = .ok k := by
    rw [hpath]
    exact entryLocation_ofLocation hreal hisfile.ne_root
  have hl : directory ++ [name] = k := Except.ok.inj (hends.entryLocation.symm.trans hentry)
  have hstands := hends.standsFor hres hisfile
  rw [hl] at hstands
  exact {
    place := by rw [placeOf_confined hw, (Workspace.resolve_eq_ok hk).1]
    file := hfile
    endsIn := ⟨directory, name, hends⟩
    entry := hentry
    mode := by simp [mode?, hres, hfile, Entry.mode?]
    stands := hstands
    free := fun hnone => by simp [hw] at hnone
    confined := .inl rfl }

/-- **The entry of an opened document stands for the file that was read.** -/
theorem opened_of_open (h : e.openDocument t identity = .ok d) :
    ∃ l r mode, e.Opened t identity d l r mode := by
  obtain ⟨hp, hr, -⟩ := openDocument_eq_ok h
  obtain ⟨r, mode, hres, hfile⟩ := readText_eq_ok hr
  cases hw : e.workspace with
  | none =>
      obtain ⟨l, ho⟩ := opened_free hw hp hres hfile
      exact ⟨l, r, mode, ho⟩
  | some w => exact ⟨r, r, mode, opened_confined hw hp hres hfile⟩

/-! ## What a session writes -/

/-- The entry that a session puts in the place of another one, if it writes. -/
def writes (e : Editor) (t : FileTree) (P : Plan) : List (Location × Entry) :=
  match (e.run t P.document P.rules).result with
  | .error _ => []
  | .ok s =>
    if s.persisted then
      match t.entryLocation s.document with
      | .ok l => [(l, t.replacement s.document s.after)]
      | .error _ => []
    else []

/-- A session that has not written. -/
structure Kept (e : Editor) (t : FileTree) (P : Plan) : Prop where
  persisted : ∀ s, (e.run t P.document P.rules).result = .ok s → s.persisted = false
  writes : e.writes t P = []
  tree : (e.run t P.document P.rules).tree = t

/-- A session that has written its document. -/
structure Wrote (e : Editor) (t : FileTree) (P : Plan) (d : Document) (s : Session)
    (l r : Location) (mode : Nat) : Prop where
  isOpen : e.openDocument t P.document = .ok d
  opened : e.Opened t P.document d l r mode
  result : (e.run t P.document P.rules).result = .ok s
  document : s.document = d.path
  persisted : s.persisted = true
  writes : e.writes t P = [(l, .file s.after.toUTF8 mode)]
  tree : (e.run t P.document P.rules).tree = t.put l (.file s.after.toUTF8 mode)

theorem writes_of_error {err : SessionError}
    (h : (e.run t P.document P.rules).result = .error err) : e.writes t P = [] := by
  rw [writes, h]

theorem writes_of_not_persisted {s : Session}
    (h : (e.run t P.document P.rules).result = .ok s) (hs : s.persisted = false) :
    e.writes t P = [] := by
  simp [writes, h, hs]

theorem writes_of_persisted {s : Session} {mode : Nat}
    (h : (e.run t P.document P.rules).result = .ok s) (hs : s.persisted = true)
    (hl : t.entryLocation s.document = .ok l) (hm : t.mode? s.document = some mode) :
    e.writes t P = [(l, .file s.after.toUTF8 mode)] := by
  simp [writes, h, hs, hl, replacement, hm]

/-- What the record of a session that came to its end says. -/
theorem Finished.record {write : Bool} {rules : RuleSet} {r : Run} {mode : Nat}
    (h : e.Finished write t identity rules r d l mode) :
    ∃ s, r.result = .ok s ∧ s.document = d.path ∧ s.after = (rules.pass d.initial).content
      ∧ (s.persisted = true ↔ (rules.pass d.initial).content ≠ d.initial ∧ write = true) :=
  ⟨_, h.result, rfl, rfl, by simp [Session.ofTexts]⟩

/-- **A session writes nothing, or it replaces the entry of its document.** -/
theorem kept_or_wrote (e : Editor) (t : FileTree) (P : Plan) :
    e.Kept t P ∨ ∃ d s l r mode, e.Wrote t P d s l r mode := by
  have hfailed : ∀ err, (e.run t P.document P.rules).result = .error err →
      (e.run t P.document P.rules).tree = t → e.Kept t P := by
    intro err hres htree
    exact ⟨by simp [hres], writes_of_error hres, htree⟩
  rcases session_cases e t P.document P.rules with ⟨err, h⟩ | ⟨d, rule, h⟩ | ⟨d, k, m, h⟩
  · exact .inl (hfailed _ (h (!e.dryRun)).result (h (!e.dryRun)).tree)
  · exact .inl (hfailed _ (h (!e.dryRun)).result (h (!e.dryRun)).tree)
  · have hf := h (!e.dryRun)
    obtain ⟨s, hres, hdoc, hafter, hpersisted⟩ := hf.record
    have htree : (e.run t P.document P.rules).tree = _ := hf.tree
    rw [← hafter] at hpersisted htree
    by_cases hw : s.after ≠ d.initial ∧ (!e.dryRun) = true
    · right
      obtain ⟨l, r, mode, ho⟩ := opened_of_open hf.opened
      have hl : k = l := Except.ok.inj (hf.entered.location.symm.trans ho.entry)
      have hm : m = mode := Option.some.inj (hf.entered.mode.symm.trans ho.mode)
      rw [if_pos hw, hl, hm] at htree
      refine ⟨d, s, l, r, mode, hf.opened, ho, hres, hdoc, hpersisted.mpr hw, ?_, htree⟩
      exact writes_of_persisted hres (hpersisted.mpr hw) (hdoc ▸ ho.entry) (hdoc ▸ ho.mode)
    · left
      have hnot : s.persisted = false := by
        rw [← Bool.not_eq_true, hpersisted]
        exact hw
      rw [if_neg hw] at htree
      refine ⟨fun s' hs' => ?_, writes_of_not_persisted hres hnot, htree⟩
      cases hres.symm.trans hs'
      exact hnot

end Emend.Editor
