import Emend.Proofs.Replacing

/-!
# What the file of a document holds

A document can be held for longer than one edit, and be written back more than once. Whether
it is written is decided by comparing its text with the one that was loaded, not with what its
file holds by now.

* `readText_replaceFile`: a path through which a text was read shows what is written there.
* `Holds.step`, `Holds.play`: at every moment of a history the path shows the text that was
  written last, or the one that was loaded if none was.
* `persist_reads_back`: so the file holds the document's text after it has been persisted, unless
  it was written before and its text has come back to the one that was loaded.

That a write cannot fail is part of it, since a document that can be read can be replaced.
`persist_reverted` is the case in which the file is left with another text.
-/

namespace Emend

namespace FileTree

variable {t : FileTree} {p : Path}

/-! ## Reading what has been written -/

/-- A path that ends in the name of a file leads to that file. -/
theorem EndsIn.resolve_of_file {d : Location} {name : SystemText} (h : t.EndsIn p d name)
    (hf : t.IsFileAt (d ++ [name])) : t.resolve p = .ok (d ++ [name]) := by
  obtain ⟨front, hs, hw⟩ := h.front
  obtain ⟨contents, mode, hg⟩ := hf
  obtain ⟨k, hk⟩ := walk_resume hw
  have hA : t.advance d [name] = .arrived (d ++ [name]) := by
    rw [advance_name h.isName h.directory, hg]
    rfl
  rw [resolve_of_nonempty h.nonempty, hs, hk]
  exact walk_of_arrived hA k

/-- **A path through which a text was read shows what is written there.** If the path ends at
a link, the file has come into the place of the link, and the way up to it is the same. -/
theorem readText_replaceFile {text : String} (h : t.readText p = .ok text) (new : String) :
    (t.replaceFile p new).2 = .ok () ∧ (t.replaceFile p new).1.readText p = .ok new := by
  obtain ⟨r, m, hres, hg⟩ := readText_eq_ok h
  have hfile : t.IsFileAt r := ⟨_, _, hg⟩
  obtain ⟨d, name, hends, -⟩ := endsIn_of_resolve hres hfile.not_directory
  obtain ⟨l, mode, hE⟩ := entered_of_readText h
  obtain rfl : l = d ++ [name] := Except.ok.inj (hE.location.symm.trans hends.entryLocation)
  have hsup := (hends.standsFor hres hfile).supplanted new.toUTF8 mode
  rw [hE.replaceFile]
  have hnew := get?_put_self t hE.ne_root (.file new.toUTF8 mode)
  exact ⟨rfl, Shows.readText ⟨(hsup.endsIn hends).resolve_of_file hsup.file, hnew⟩⟩

end FileTree

namespace Document

/-! ## Histories of a document -/

/-- A document that is being edited, and the tree of that moment. -/
structure Editing where
  document : Document
  tree : FileTree

/-- What may happen next. -/
inductive Event
  /-- The document is given a text. -/
  | edit (text : String)
  /-- It is written back. -/
  | persist
  /-- Others leave behind another tree. -/
  | others (after : FileTree)

namespace Editing

variable {s : Editing} {events : List Event} {text : String}

/-- The document and the tree after an event. -/
def step (s : Editing) : Event → Editing
  | .edit text => { s with document := { s.document with content := text } }
  | .persist => { s with tree := (s.document.persist s.tree).1 }
  | .others after => { s with tree := after }

/-- The document and the tree after some events. -/
def play (s : Editing) (events : List Event) : Editing := events.foldl step s

/-- The text that an event writes: that of the document, if it is written back and says so. -/
def writes (s : Editing) : Event → List String
  | .persist =>
    if (s.document.persist s.tree).2 = .ok true then [s.document.content] else []
  | _ => []

/-- The texts that some events write. -/
def written : Editing → List Event → List String
  | _, [] => []
  | s, event :: rest => s.writes event ++ written (s.step event) rest

/-- Nobody else writes the document: what others leave behind shows the same text at its path. -/
def Spares (s : Editing) : Event → Prop
  | .others after => after.readText s.document.path = s.tree.readText s.document.path
  | _ => True

/-- Nobody else does so in the course of some events. -/
def Undisturbed : Editing → List Event → Prop
  | _, [] => True
  | s, event :: rest => s.Spares event ∧ Undisturbed (s.step event) rest

/-- The path of the document shows a text. -/
def Holds (s : Editing) (text : String) : Prop := s.tree.readText s.document.path = .ok text

@[simp] theorem step_path (s : Editing) (event : Event) :
    (s.step event).document.path = s.document.path := by
  cases event <;> rfl

@[simp] theorem step_initial (s : Editing) (event : Event) :
    (s.step event).document.initial = s.document.initial := by
  cases event <;> rfl

theorem play_path (s : Editing) (events : List Event) :
    (s.play events).document.path = s.document.path := by
  induction events generalizing s with
  | nil => rfl
  | cons event rest ih => exact (ih (s.step event)).trans (s.step_path event)

theorem play_initial (s : Editing) (events : List Event) :
    (s.play events).document.initial = s.document.initial := by
  induction events generalizing s with
  | nil => rfl
  | cons event rest ih => exact (ih (s.step event)).trans (s.step_initial event)

/-! ## What the path shows -/

/-- **A document whose path can be read is written if its text is not the one that was loaded**,
and then the path shows it; otherwise nothing happens. -/
theorem Holds.persist (h : s.Holds text) :
    (s.document.persist s.tree).2 = .ok s.document.isModified
      ∧ (s.document.persist s.tree).1.readText s.document.path =
        .ok (if s.document.isModified then s.document.content else text) := by
  obtain ⟨hok, hread⟩ := FileTree.readText_replaceFile h s.document.content
  unfold Document.persist
  cases hm : s.document.isModified with
  | false => exact ⟨rfl, h⟩
  | true =>
      simp only [if_true]
      exact ⟨by rw [hok]; rfl, hread⟩

theorem Holds.writes_persist (h : s.Holds text) :
    s.writes .persist = if s.document.isModified then [s.document.content] else [] := by
  rw [writes, h.persist.1]
  simp only [Except.ok.injEq]

/-- What an event writes is a text other than the one that was loaded. -/
theorem Holds.ne_of_mem_writes (h : s.Holds text) {event : Event} {w : String}
    (hw : w ∈ s.writes event) : w ≠ s.document.initial := by
  cases event with
  | edit new => cases hw
  | others after => cases hw
  | persist =>
      rw [h.writes_persist] at hw
      by_cases hm : s.document.isModified
      · rw [if_pos hm, List.mem_singleton] at hw
        simpa [hw, isModified] using hm
      · rw [if_neg hm] at hw
        cases hw

/-- **After an event the path shows the text that the event has written**, or the one from
before. -/
theorem Holds.step (h : s.Holds text) {event : Event} (hs : s.Spares event) :
    (s.step event).Holds ((s.writes event).getLast?.getD text) := by
  cases event with
  | edit new => exact h
  | others after => exact hs.trans h
  | persist =>
      have hread := h.persist.2
      rw [h.writes_persist]
      by_cases hm : s.document.isModified
      · rw [if_pos hm] at hread ⊢
        exact hread
      · rw [if_neg hm] at hread ⊢
        exact hread

/-- **After a history it shows the text that was written last**, or the one from before; and
only texts other than the one that was loaded have been written. -/
theorem Holds.play (h : s.Holds text) (hu : s.Undisturbed events) :
    (s.play events).Holds ((s.written events).getLast?.getD text)
      ∧ ∀ w ∈ s.written events, w ≠ s.document.initial := by
  induction events generalizing s text with
  | nil => exact ⟨h, by simp [written]⟩
  | cons event rest ih =>
      obtain ⟨hs, hrest⟩ := hu
      obtain ⟨hholds, hne⟩ := ih (h.step hs) hrest
      constructor
      · rw [written, List.getLast?_append]
        cases hl : (written (s.step event) rest).getLast? with
        | none =>
            rw [hl] at hholds
            exact hholds
        | some w =>
            rw [hl] at hholds
            exact hholds
      · intro w hw
        rcases List.mem_append.mp hw with hw | hw
        · exact h.ne_of_mem_writes hw
        · exact s.step_initial event ▸ hne w hw

end Editing

/-! ## After a document has been persisted -/

variable {t : FileTree} {p : Path} {d : Document} {events : List Event}

theorem load_eq_ok (h : load t p = .ok d) :
    d.path = p ∧ (Editing.mk d t).Holds d.initial := by
  unfold load at h
  cases hr : t.readText p with
  | error f => simp [hr, Except.map] at h
  | ok text =>
      simp only [hr, Except.map] at h
      cases h
      exact ⟨rfl, hr⟩

/--
**A document that has been persisted is in its file**, however it was edited and persisted
before, and whatever others did elsewhere. It is always persisted without an error, and it is
written exactly if its text is not the one that was loaded. Its path shows its text afterwards,
with one exception: if nothing has been written now, but something before, then the path still
shows what was written last.
-/
theorem persist_reads_back (h : load t p = .ok d) (hu : (Editing.mk d t).Undisturbed events)
    {here : Editing} (hhere : (Editing.mk d t).play events = here) :
    ∃ wrote, (here.document.persist here.tree).2 = .ok wrote
      ∧ (wrote = true ↔ here.document.content ≠ d.initial)
      ∧ ((here.document.persist here.tree).1.readText p = .ok here.document.content
        ↔ wrote = true ∨ (Editing.mk d t).written events = [])
      ∧ ∀ last, wrote = false → ((Editing.mk d t).written events).getLast? = some last →
        (here.document.persist here.tree).1.readText p = .ok last := by
  obtain ⟨hpath, hstart⟩ := load_eq_ok h
  obtain ⟨hholds, hne⟩ := hstart.play hu
  have hp : here.document.path = p := by rw [← hhere, Editing.play_path, hpath]
  have hi : here.document.initial = d.initial := by rw [← hhere, Editing.play_initial]
  rw [hhere] at hholds
  obtain ⟨hok, hread⟩ := hholds.persist
  rw [hp] at hread
  refine ⟨here.document.isModified, hok, by simp [isModified, hi], ?_, ?_⟩
  · cases hm : here.document.isModified with
    | true => simp [hread, hm]
    | false =>
        -- the text is the loaded one again, and whatever has been written was another one
        have hsame : here.document.content = d.initial := by simpa [isModified, hi] using hm
        rw [hread, hm, hsame]
        cases hl : ((Editing.mk d t).written events).getLast? with
        | none => simp [List.getLast?_eq_none_iff.mp hl]
        | some last =>
            have hmem := List.mem_of_getLast? hl
            simp [hne last hmem, List.ne_nil_of_mem hmem]
  · intro last hm hl
    rw [hread, hm, hl]
    rfl

/-- A document behind a link. -/
def behindLink : FileTree where
  entries := [(["a.txt"], .link ⟨["b.txt"]⟩), (["b.txt"], .file "one".toUTF8 0o644)]

/-- It is edited and persisted, which puts a file in the place of the link; others write the file
that the link has led to, and the document is edited again. -/
def editedTwice : List Event :=
  [.edit "two", .persist,
    .others { entries := [(["a.txt"], .file "two".toUTF8 0o644),
      (["b.txt"], .file "four".toUTF8 0o644)] },
    .edit "three"]

theorem persist_reads_back_behindLink :
    load behindLink ⟨["a.txt"]⟩ = .ok (ofText ⟨["a.txt"]⟩ "one")
      ∧ (Editing.mk (ofText ⟨["a.txt"]⟩ "one") behindLink).Undisturbed editedTwice
      ∧ ∃ here, (Editing.mk (ofText ⟨["a.txt"]⟩ "one") behindLink).play editedTwice = here
        ∧ (here.document.persist here.tree).2 = .ok true
        ∧ (here.document.persist here.tree).1.readText ⟨["a.txt"]⟩ = .ok "three" := by
  have hload : load behindLink ⟨["a.txt"]⟩ = .ok (ofText ⟨["a.txt"]⟩ "one") := by
    decide +kernel
  have hothers : (Editing.mk (ofText ⟨["a.txt"]⟩ "one") behindLink).Undisturbed editedTwice :=
    ⟨trivial, trivial, by unfold Editing.Spares; decide +kernel, trivial, trivial⟩
  obtain ⟨wrote, hok, hwrote, hread, -⟩ := persist_reads_back hload hothers rfl
  have htrue : wrote = true := hwrote.mpr (by decide)
  exact ⟨hload, hothers, _, rfl, htrue ▸ hok, hread.mpr (.inl htrue)⟩

/-- A single file. -/
def oneFile : FileTree where
  entries := [(["a.txt"], .file "one".toUTF8 0o644)]

/-- **A document that comes back to the text that was loaded is not written**, although its file
holds another text by then. -/
theorem persist_reverted :
    load oneFile ⟨["a.txt"]⟩ = .ok (ofText ⟨["a.txt"]⟩ "one")
      ∧ ∃ here, here = (Editing.mk (ofText ⟨["a.txt"]⟩ "one") oneFile).play
            [.edit "two", .persist, .edit "one"]
        ∧ (here.document.persist here.tree).2 = .ok false
        ∧ here.document.content = "one"
        ∧ (here.document.persist here.tree).1.readText ⟨["a.txt"]⟩ = .ok "two" :=
  ⟨by decide +kernel, _, rfl, by decide +kernel, by decide +kernel, by decide +kernel⟩

end Document

end Emend
