import Emend.Document
import Emend.Proofs.Resolution

/-!
# What can be read can be written

To read a text through a path only the end of the path has to be found. To write one
back, two more places have to be: the directory in which the new file is staged,
which is computed from the path's components, and the entry over which it is moved,
which is found by the path's segments. This module shows that reading settles both.

* `endsIn_of_resolve`: a path that leads to something other than a directory ends in
  a name that is taken in a directory.
* `EndsIn.resolveDirectory` and `EndsIn.entryLocation`: that directory is where the new
  file is staged, and the name in it is the entry that is replaced.
* `entered_of_readText` and `Entered.replaceFile`: hence replacing succeeds, whatever
  the new text is.
-/

namespace Emend

namespace Path

/-! ## The directory of a path -/

theorem innerComponents_append (a b : List SystemText) :
    innerComponents (a ++ b) = innerComponents a ++ innerComponents b := by
  simp [innerComponents]

theorem innerComponents_name {s : SystemText} (h : IsName s) : innerComponents [s] = [.name s] := by
  simp [innerComponents, h.1, h.2.1, h.2.2]

/-- Inner components write the steps that are not idle. -/
theorem map_segment_innerComponents (segments : List SystemText) :
    (innerComponents segments).map Component.segment = FileTree.visible segments := by
  induction segments with
  | nil => rfl
  | cons s rest ih =>
      unfold innerComponents FileTree.visible at *
      by_cases hi : s = "" ∨ s = "."
      · have hb : isIdleStep s = true := by simpa [isIdleStep] using hi
        simp [hi, hb, ih]
      · have hb : isIdleStep s = false := by simpa [isIdleStep] using hi
        by_cases hu : s = ".."
        · simp [hu, ih, isIdleStep, Component.segment]
        · simp [hi, hu, hb, ih, Component.segment]

theorem parent?_of_components {p : Path} {cs : List Component} {name : SystemText}
    (h : p.components = cs ++ [.name name]) : p.parent? = some (ofComponents cs) := by
  unfold parent?
  rw [h]
  simp

/-- An absolute path is one with a segment behind an empty one. -/
theorem isAbsolute_iff {p : Path} : p.isAbsolute ↔ ∃ s rest, p.segments = .text "" :: s :: rest := by
  unfold isAbsolute
  constructor
  · intro h
    split at h
    · rename_i s rest hs
      exact ⟨s, rest, hs⟩
    · exact absurd h (by simp)
  · rintro ⟨s, rest, hs⟩
    rw [hs]
    rfl

/-- The path that writes some components has their segments, the first of which is visible. -/
theorem ofComponents_of_visible {cs : List Component} {s : SystemText} {rest : List SystemText}
    (h : cs.map Component.segment = s :: rest) (hs : s ≠ "") :
    ofComponents cs = ⟨s :: rest⟩ := by
  unfold ofComponents
  split
  · exact absurd h (by simp)
  · exact absurd (List.cons.inj h).1.symm hs
  · rw [h]

theorem components_absolute {p : Path} {s : SystemText} {rest : List SystemText}
    (h : p.segments = .text "" :: s :: rest) :
    p.components = .root :: innerComponents (s :: rest) := by
  unfold components
  rw [h]
  rfl

theorem components_dot {p : Path} {rest : List SystemText} (h : p.segments = .text "." :: rest) :
    p.components = .here :: innerComponents rest := by
  unfold components
  rw [h]
  rfl

theorem components_relative {p : Path} (hp : p.isAbsolute = false)
    (hdot : p.segments.head? ≠ some ".") : p.components = innerComponents p.segments := by
  unfold components
  split
  · rename_i s rest h
    rw [isAbsolute_iff.mpr ⟨s, rest, h⟩] at hp
    exact absurd hp (by simp)
  · rename_i rest h
    exact absurd (by rw [h]; rfl) hdot
  · rfl

/-- The components of a path whose last step is a name, by the way in which it begins. -/
theorem components_of_steps {p : Path} {front : List SystemText} {name : SystemText}
    (hs : p.steps = front ++ [name]) (hn : IsName name) :
    (p.isAbsolute ∧ p.components = (.root :: innerComponents front) ++ [.name name])
    ∨ (p.isAbsolute = false ∧ ∃ rest, front = .text "." :: rest
        ∧ p.components = (.here :: innerComponents rest) ++ [.name name])
    ∨ (p.isAbsolute = false ∧ p.components = innerComponents front ++ [.name name]) := by
  have hinner : innerComponents (front ++ [name]) = innerComponents front ++ [.name name] := by
    rw [innerComponents_append, innerComponents_name hn]
  by_cases hp : p.isAbsolute
  · left
    obtain ⟨s, rest, hseg⟩ := isAbsolute_iff.mp hp
    have hrest : s :: rest = front ++ [name] := by
      rw [← hs, steps, if_pos hp, hseg]
      rfl
    refine ⟨hp, ?_⟩
    rw [components_absolute hseg, hrest, hinner]
    rfl
  · right
    have hseg : p.segments = front ++ [name] := by rw [← hs, steps, if_neg hp]
    have hp' : p.isAbsolute = false := by simpa using hp
    by_cases hdot : front.head? = some "."
    · left
      obtain ⟨rest, hrest⟩ := List.head?_eq_some_iff.mp hdot
      refine ⟨hp', rest, hrest, ?_⟩
      rw [hrest, List.cons_append] at hseg
      rw [components_dot hseg, innerComponents_append, innerComponents_name hn]
      rfl
    · right
      refine ⟨hp', ?_⟩
      rw [components_relative hp', hseg, hinner]
      rw [hseg]
      cases front with
      | nil => simpa using hn.2.1
      | cons s rest => simpa using hdot

end Path

namespace FileTree

variable {t : FileTree}

theorem stagingPath_of_components {p : Path} {cs : List Path.Component} {name : SystemText}
    (h : p.components = cs ++ [.name name]) (he : (Path.ofComponents cs).isEmpty = false) :
    stagingPath p = Path.ofComponents cs := by
  simp [stagingPath, Path.parent?_of_components h, he]

/-- A path that goes through some steps, with at most one idle step ahead of them. -/
structure GoesThrough (p : Path) (absolute : Bool) (steps : List SystemText) : Prop where
  nonempty : p.isEmpty = false
  isAbsolute : p.isAbsolute = absolute
  steps : p.steps = steps ∨ ∃ s : SystemText, (s = "" ∨ s = ".") ∧ p.steps = s :: steps

/-- The components of an absolute path, written as a path. -/
theorem goesThrough_root (front : List SystemText) :
    GoesThrough (Path.ofComponents (.root :: Path.innerComponents front)) true
      (visible front) := by
  have hv := Path.map_segment_innerComponents front
  cases hin : Path.innerComponents front with
  | nil =>
      rw [hin] at hv
      rw [← hv]
      exact ⟨rfl, rfl, .inr ⟨"", .inl rfl, rfl⟩⟩
  | cons c cs =>
      rw [hin] at hv
      rw [← hv]
      exact ⟨by simp [Path.ofComponents, Path.isEmpty], rfl, .inl rfl⟩

/-- Those of a relative path that begins with a dot. -/
theorem goesThrough_here (rest : List SystemText) :
    GoesThrough (Path.ofComponents (.here :: Path.innerComponents rest)) false
      (visible rest) := by
  have he : Path.ofComponents (.here :: Path.innerComponents rest) = ⟨"." :: visible rest⟩ := by
    rw [← Path.map_segment_innerComponents rest]
    cases Path.innerComponents rest <;> rfl
  rw [he]
  exact ⟨rfl, rfl, .inr ⟨".", .inr rfl, rfl⟩⟩

/-- Those of any other relative path, unless there are none. -/
theorem goesThrough_inner {front : List SystemText} (h : visible front ≠ []) :
    GoesThrough (Path.ofComponents (Path.innerComponents front)) false (visible front) := by
  obtain ⟨s, rest, hvis⟩ := List.exists_cons_of_ne_nil h
  have hne : s ≠ "" := by
    have hm : s ∈ visible front := by simp [hvis]
    intro he
    simp [visible, he, isIdleStep] at hm
  have habs : (Path.mk (s :: rest)).isAbsolute = false := by
    rw [← Bool.not_eq_true, Path.isAbsolute_iff]
    rintro ⟨s', rest', h⟩
    exact hne (List.cons.inj h).1
  have hv := Path.map_segment_innerComponents front
  rw [Path.ofComponents_of_visible (hv.trans hvis) hne, hvis]
  refine ⟨by simp [Path.isEmpty, hne], habs, .inl ?_⟩
  rw [Path.steps, if_neg (by simp [habs])]

/-- A path leads where the steps that it goes through lead from the start of another path. -/
theorem GoesThrough.resolve {p q : Path} {steps : List SystemText} {d : Location}
    (h : GoesThrough p q.isAbsolute steps) (hd : t.isDirectoryAt (startOf t.workingDirectory q))
    (hw : t.walk linkLimit (startOf t.workingDirectory q) steps = .ok d) :
    t.resolve p = .ok d := by
  have hstart : startOf t.workingDirectory p = startOf t.workingDirectory q := by
    simp only [startOf, h.isAbsolute]
  rw [FileTree.resolve, if_neg (by simp [h.nonempty]), hstart]
  rcases h.steps with he | ⟨s, hidle, he⟩
  · rw [he, hw]
  · rw [he, walk_congr (advance_idle hidle hd), hw]

/-- **A path is staged where everything visible in front of its last name leads.** -/
theorem stagingPath_goesThrough {p : Path} {front : List SystemText} {name : SystemText}
    (hs : p.steps = front ++ [name]) (hn : IsName name) :
    GoesThrough (stagingPath p) p.isAbsolute (visible front) := by
  rcases Path.components_of_steps hs hn with
    ⟨hp, hc⟩ | ⟨hp, rest, hrest, hc⟩ | ⟨hp, hc⟩
  · have h := goesThrough_root front
    rw [stagingPath_of_components hc h.nonempty, hp]
    exact h
  · have h := goesThrough_here rest
    have hv : visible front = visible rest := by rw [hrest]; rfl
    rw [stagingPath_of_components hc h.nonempty, hp, hv]
    exact h
  · by_cases hvis : visible front = []
    · -- nothing is left of the path, so a dot stands for it
      have hst : stagingPath p = ⟨["."]⟩ := by
        rw [← Path.map_segment_innerComponents, List.map_eq_nil_iff] at hvis
        rw [hvis] at hc
        simp [stagingPath, Path.parent?_of_components hc, Path.ofComponents, Path.isEmpty]
      rw [hst, hp, hvis]
      exact ⟨rfl, rfl, .inr ⟨".", .inr rfl, rfl⟩⟩
    · have h := goesThrough_inner hvis
      rw [stagingPath_of_components hc h.nonempty, hp]
      exact h

/-! ## The last step to a file -/

/-- A path whose last step takes a name in a directory. -/
structure EndsIn (t : FileTree) (p : Path) (d : Location) (name : SystemText) : Prop where
  /-- The steps before the last one lead to the directory. -/
  front : ∃ front, p.steps = front ++ [name]
    ∧ t.walk linkLimit (startOf t.workingDirectory p) front = .ok d
  /-- The last step is a name. -/
  isName : IsName name
  /-- It is taken in a directory. -/
  directory : t.isDirectoryAt d
  /-- So is the first one. -/
  start : t.isDirectoryAt (startOf t.workingDirectory p)

theorem steps_ne_nil {p : Path} (h : p.isEmpty = false) : p.steps ≠ [] := by
  unfold Path.steps
  split
  · rename_i hp
    obtain ⟨s, rest, hseg⟩ := Path.isAbsolute_iff.mp hp
    simp [hseg]
  · intro hseg
    simp [Path.isEmpty, hseg] at h

/-- A step to something other than a directory is neither idle nor goes up. -/
theorem isName_of_walk {k : Nat} {d r : Location} {s : SystemText} (h : t.walk k d [s] = .ok r)
    (hr : ¬ t.isDirectoryAt r) : IsName s := by
  have hd := isDirectoryAt_of_walk h
  have hidle : ¬ (s = "" ∨ s = ".") := by
    intro hs
    rw [walk_of_arrived (advance_idle hs hd)] at h
    exact hr (Except.ok.inj h ▸ hd)
  have hup : s ≠ ".." := by
    intro hs
    have hA : t.advance d [s] =
        if t.isDirectoryAt d.dropLast then .arrived d.dropLast else .stopped .notADirectory := by
      rw [advance, if_neg (by simp [hd]), if_neg hidle, if_pos hs]
      rfl
    by_cases hd' : t.isDirectoryAt d.dropLast
    · rw [if_pos hd'] at hA
      rw [walk_of_arrived hA] at h
      exact hr (Except.ok.inj h ▸ hd')
    · rw [if_neg hd'] at hA
      rw [walk_of_stopped hA] at h
      cases h
  exact ⟨fun he => hidle (.inl he), fun he => hidle (.inr he), hup⟩

/-- Such a step leads to the entry of that name, unless the entry is a link. -/
theorem walk_name {k : Nat} {d r : Location} {s : SystemText} (h : t.walk k d [s] = .ok r)
    (hs : IsName s) : r = d ++ [s] ∨ ∃ target, t.get? (d ++ [s]) = some (.link target) := by
  have hA : t.advance d [s] = _ := advance_name hs (isDirectoryAt_of_walk h)
  have arrives : t.advance d [s] = .arrived (d ++ [s]) → r = d ++ [s] := by
    intro ha
    rw [walk_of_arrived ha] at h
    exact (Except.ok.inj h).symm
  cases hg : t.get? (d ++ [s]) with
  | none =>
      rw [hg] at hA
      rw [walk_of_stopped hA] at h
      cases h
  | some e =>
      rw [hg] at hA
      cases e with
      | directory mode => exact .inl (arrives hA)
      | file contents mode => exact .inl (arrives hA)
      | link target => exact .inr ⟨target, rfl⟩

/--
**A path to something other than a directory ends in a name.** What has that name is
what the path leads to, or a link.
-/
theorem endsIn_of_resolve {p : Path} {r : Location} (h : t.resolve p = .ok r)
    (hr : ¬ t.isDirectoryAt r) :
    ∃ d name, t.EndsIn p d name
      ∧ (r = d ++ [name] ∨ ∃ target, t.get? (d ++ [name]) = some (.link target)) := by
  unfold resolve at h
  by_cases hp : p.isEmpty
  · rw [if_pos hp] at h
    cases h
  · rw [if_neg hp] at h
    obtain ⟨front, name, hs⟩ :=
      (List.eq_nil_or_concat p.steps).resolve_left (steps_ne_nil (by simpa using hp))
    rw [List.concat_eq_append] at hs
    rw [hs] at h
    have hstart : t.isDirectoryAt (startOf t.workingDirectory p) := by
      cases front with
      | nil => exact isDirectoryAt_of_walk h
      | cons s rest => exact isDirectoryAt_of_walk h
    obtain ⟨d, k, hk⟩ := walk_cut h
    have hlast : t.walk k d [name] = .ok r := (hk [name]).symm.trans h
    have hfront : t.walk linkLimit (startOf t.workingDirectory p) front = .ok d := by
      have := hk []
      rw [List.append_nil] at this
      rw [this]
      exact walk_of_arrived rfl k
    have hn : IsName name := isName_of_walk hlast hr
    exact ⟨d, name, ⟨⟨front, hs, hfront⟩, hn, isDirectoryAt_of_walk hlast, hstart⟩,
      walk_name hlast hn⟩

/-- Such a path is staged in the directory of its last step. -/
theorem EndsIn.resolveDirectory {p : Path} {d : Location} {name : SystemText}
    (h : t.EndsIn p d name) : t.resolveDirectory (stagingPath p) = .ok d := by
  obtain ⟨front, hs, hw⟩ := h.front
  have hres := (stagingPath_goesThrough hs h.isName).resolve h.start (walk_visible hw)
  simp [FileTree.resolveDirectory, hres, bind, Except.bind, h.directory, pure, Except.pure]

theorem segments_getLast? {p : Path} {front : List SystemText} {name : SystemText}
    (hs : p.steps = front ++ [name]) : p.segments.getLast? = some name := by
  rw [List.getLast?_eq_some_iff]
  unfold Path.steps at hs
  split at hs
  · rename_i hp
    obtain ⟨s, rest, hseg⟩ := Path.isAbsolute_iff.mp hp
    rw [hseg, List.tail_cons] at hs
    exact ⟨"" :: front, by rw [hseg, hs]; rfl⟩
  · exact ⟨front, hs⟩

/-- A path that ends in a name does not end in a slash. -/
theorem frontSegments_of_isName {p : Path} {name : SystemText} (h : p.segments.getLast? = some name)
    (hn : IsName name) : frontSegments p = p.segments := by
  obtain ⟨pre, hpre⟩ := List.getLast?_eq_some_iff.mp h
  have hne : name.isEmpty = false := by simpa using hn.1
  simp [frontSegments, hpre, hne]

theorem EndsIn.nonempty {p : Path} {d : Location} {name : SystemText} (h : t.EndsIn p d name) :
    p.isEmpty = false := by
  obtain ⟨front, hs, -⟩ := h.front
  obtain ⟨pre, hpre⟩ := List.getLast?_eq_some_iff.mp (segments_getLast? hs)
  simp [Path.isEmpty, hpre, h.isName.1]

/-- Such a path stands for an entry in that directory. -/
theorem EndsIn.entryLocation {p : Path} {d : Location} {name : SystemText}
    (h : t.EndsIn p d name) : t.entryLocation p = .ok (d ++ [name]) := by
  obtain ⟨front, hs, hw⟩ := h.front
  have hlast := segments_getLast? hs
  have hsegs := frontSegments_of_isName hlast h.isName
  have hslash : endsInSlash p = false := by simp [endsInSlash, hsegs]
  have hsteps : frontSteps p = front := by
    have : frontSteps p = p.steps.dropLast := by
      unfold frontSteps Path.steps
      split <;> rw [hsegs]
    rw [this, hs, List.dropLast_concat]
  unfold FileTree.entryLocation
  rw [if_neg (by simp [h.nonempty]), hsegs, hlast]
  simp only [hsteps, hw, Except.bind, hslash, nameLocation]
  rw [if_neg (by simp [h.directory]), if_neg (by
    rintro (he | he)
    · exact h.isName.2.1 he
    · exact h.isName.2.2 he), if_neg (by simp)]

theorem endsIn_ofLocation {d : Location} {name : SystemText} (h : t.Real (d ++ [name])) :
    t.EndsIn (.ofLocation (d ++ [name])) d name := by
  have hd : t.Real d := by simpa using h.dropLast
  have habs := Path.isAbsolute_ofLocation (d ++ [name])
  have hstart : startOf t.workingDirectory (.ofLocation (d ++ [name])) = [] := by
    rw [startOf, if_pos habs]
  have hsteps : (Path.ofLocation (d ++ [name])).steps = d ++ [name] := by
    rw [Path.steps, if_pos habs]
    cases d <;> rfl
  refine ⟨⟨d, hsteps, ?_⟩, h.names name (by simp), h.above d (List.prefix_append ..) (by simp), ?_⟩
  · rw [hstart]
    exact walk_of_arrived (advance_of_real (k := []) hd) linkLimit
  · rw [hstart]
    simp [isDirectoryAt, get?, Entry.isDirectory]

/-- The path of a real location other than the root stands for that location. -/
theorem entryLocation_ofLocation {l : Location} (h : t.Real l) (hl : l ≠ []) :
    t.entryLocation (.ofLocation l) = .ok l := by
  obtain ⟨d, name, he⟩ := (List.eq_nil_or_concat l).resolve_left hl
  rw [List.concat_eq_append] at he
  subst he
  exact (endsIn_ofLocation h).entryLocation

/-! ## Documents that have been read -/

theorem toUTF8_of_fromUTF8? {contents : ByteArray} {text : String}
    (h : String.fromUTF8? contents = some text) : contents = text.toUTF8 := by
  unfold String.fromUTF8? at h
  split at h
  · cases h
    rfl
  · cases h

theorem fromUTF8?_toByteArray (text : String) :
    String.fromUTF8? text.toByteArray = some text :=
  dif_pos text.isValidUTF8

/-- What has been read is the text of a file. -/
theorem readText_eq_ok {p : Path} {text : String} (h : t.readText p = .ok text) :
    ∃ l mode, t.resolve p = .ok l ∧ t.get? l = some (.file text.toUTF8 mode) := by
  unfold readText at h
  cases hres : t.resolve p with
  | error f =>
      rw [hres] at h
      cases h
  | ok l =>
      rw [hres] at h
      simp only [bind, Except.bind] at h
      split at h
      · rename_i contents mode hg
        split at h
        · rename_i text' htext
          cases h
          exact ⟨l, mode, rfl, toUTF8_of_fromUTF8? htext ▸ hg⟩
        · cases h
      · cases h
      · cases h

/--
The entry of a path through which a text has been read: where it stands, and the
permissions that a file in its place is given.
-/
structure Entered (t : FileTree) (p : Path) (text : String) (l : Location) (mode : Nat) :
    Prop where
  location : t.entryLocation p = .ok l
  ne_root : l ≠ []
  mode : t.mode? p = some mode
  staging : ∃ d, t.resolveDirectory (stagingPath p) = .ok d
  /-- It is no directory. -/
  notDirectory : ¬ t.isDirectoryAt l
  /-- If it is a file, it is the one that has been read. -/
  contents : ∀ bytes m, t.get? l = some (.file bytes m) → bytes = text.toUTF8

/-- **A path through which a text has been read has an entry.** -/
theorem entered_of_readText {p : Path} {text : String} (h : t.readText p = .ok text) :
    ∃ l mode, t.Entered p text l mode := by
  obtain ⟨r, mode, hres, hfile⟩ := readText_eq_ok h
  have hr : ¬ t.isDirectoryAt r := by simp [isDirectoryAt, hfile, Entry.isDirectory]
  have hmode : t.mode? p = some mode := by simp [mode?, hres, hfile, Entry.mode?]
  obtain ⟨d, name, hends, hentry⟩ := endsIn_of_resolve hres hr
  refine ⟨d ++ [name], mode, hends.entryLocation, by simp, hmode, ⟨d, hends.resolveDirectory⟩,
    ?_, ?_⟩
  · rcases hentry with he | ⟨target, he⟩
    · exact he ▸ hr
    · simp [isDirectoryAt, he, Entry.isDirectory]
  · intro bytes m hg
    rcases hentry with he | ⟨target, he⟩
    · rw [← he, hfile] at hg
      cases hg
      rfl
    · rw [he] at hg
      cases hg

/-- **Such an entry can be replaced.** -/
theorem Entered.replaceFile {p : Path} {text : String} {l : Location} {mode : Nat}
    (h : t.Entered p text l mode) (new : String) :
    t.replaceFile p new = (t.put l (.file new.toUTF8 mode), .ok ()) := by
  obtain ⟨d, hd⟩ := h.staging
  rw [replaceFile_eq, hd, h.location]
  simp only
  rw [if_neg h.notDirectory, replacement, h.mode]
  rfl

end FileTree

end Emend
