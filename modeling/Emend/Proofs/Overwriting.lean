import Emend.Proofs.Persisting

/-!
# What replacing an entry does, whatever the path

A document is written through a path that it was read through. Whoever replaces an entry in
another way may name any path: to nothing, to a directory, over a link to either, below a file,
or with a slash at its end. This module says for all of them what becomes of the tree.

* `endsIn_of_entryLocation`: the paths that have an entry are those whose last step is a name in
  a directory.
* `EndsIn.replaceContents`, `replaceContents_of_not`: the entry is replaced unless it is a
  directory; in every other case the tree is left as it was.
* `Overwritten.walk_append`: a walk to the directory of the entry goes as before, unless it came
  over the entry, which was a link then.
* `replaceContents_atomic` puts them together: one entry is replaced or none.

The file that has come to the entry holds what was to be written, and every path that leads there
reads it. The path itself is one of them with one exception: it may have come over the link that
stood there, as `a/../a` does if `a` leads to a directory beside it.
-/

namespace Emend.FileTree

variable {t t' : FileTree} {p : Path} {l d : Location} {name : SystemText}

/-! ## Paths that have an entry -/

/-- What is left of a path without the slashes at its end does not end in one. -/
theorem ne_empty_of_frontSegments (h : (frontSegments p).getLast? = some name) : name ≠ "" := by
  rw [frontSegments, List.getLast?_reverse] at h
  have hhead := List.head?_dropWhile_not (fun s : SystemText => s.isEmpty) p.segments.reverse
  rw [h] at hhead
  simpa using hhead

/-- A path that does not end in a slash is left as it is. -/
theorem frontSegments_of_not_endsInSlash (h : endsInSlash p = false) :
    frontSegments p = p.segments := by
  have hlen : p.segments.reverse.length ≤
      (p.segments.reverse.dropWhile fun s => s.isEmpty).length := by
    simpa [endsInSlash, frontSegments] using h
  have hsuffix := List.dropWhile_suffix (fun s : SystemText => s.isEmpty) (l := p.segments.reverse)
  rw [frontSegments, hsuffix.eq_of_length_le hlen, List.reverse_reverse]

/-- Then its last segment is its last step. -/
theorem steps_eq_append (hsegs : frontSegments p = p.segments)
    (hlast : (frontSegments p).getLast? = some name) : p.steps = frontSteps p ++ [name] := by
  rw [hsegs] at hlast
  by_cases hp : p.isAbsolute
  · obtain ⟨s, rest, hseg⟩ := Path.isAbsolute_iff.mp hp
    rw [hseg, List.getLast?_cons_cons] at hlast
    obtain ⟨front, hfront⟩ := List.getLast?_eq_some_iff.mp hlast
    rw [Path.steps, if_pos hp, frontSteps, if_pos hp, hsegs, hseg, List.tail_cons, hfront,
      List.dropLast_concat]
  · obtain ⟨front, hfront⟩ := List.getLast?_eq_some_iff.mp hlast
    rw [Path.steps, if_neg hp, frontSteps, if_neg hp, hsegs, hfront, List.dropLast_concat]

/-- **A path that has an entry ends in a name**, in a directory to which the rest of it leads. -/
theorem endsIn_of_entryLocation (h : t.entryLocation p = .ok l) :
    ∃ d name, t.EndsIn p d name ∧ l = d ++ [name] := by
  unfold entryLocation at h
  split at h
  · cases h
  · split at h
    · cases h
    · rename_i name hlast
      cases hw : t.walk linkLimit (startOf t.workingDirectory p) (frontSteps p) with
      | error f => simp [hw, Except.bind] at h
      | ok d =>
          simp only [hw, Except.bind, nameLocation] at h
          split at h
          · cases h
          · rename_i hd
            split at h
            · cases h
            · rename_i hdots
              split at h
              · cases h
              · rename_i hslash
                cases h
                have hd : t.isDirectoryAt d := by simpa using hd
                have hsegs := frontSegments_of_not_endsInSlash (by simpa using hslash)
                have hne := ne_empty_of_frontSegments hlast
                have hstart : t.isDirectoryAt (startOf t.workingDirectory p) := by
                  cases hf : frontSteps p with
                  | nil =>
                      rw [hf, walk_of_arrived rfl linkLimit] at hw
                      exact Except.ok.inj hw ▸ hd
                  | cons s rest =>
                      rw [hf] at hw
                      exact isDirectoryAt_of_walk hw
                refine ⟨d, name, ⟨⟨frontSteps p, steps_eq_append hsegs hlast, hw⟩, ?_, hd,
                  hstart⟩, rfl⟩
                exact ⟨hne, fun he => hdots (.inl he), fun he => hdots (.inr he)⟩

/-! ## Replacing it -/

/-- A path has an entry that a file may take the place of, or could have one. -/
def Replaceable (t : FileTree) (p : Path) : Prop :=
  ∃ d name, t.EndsIn p d name ∧ ¬ t.isDirectoryAt (d ++ [name])

/-- **An entry that is no directory is replaced.** -/
theorem EndsIn.replaceContents (h : t.EndsIn p d name) (hd : ¬ t.isDirectoryAt (d ++ [name]))
    (contents : ByteArray) :
    t.replaceContents p contents =
      (t.put (d ++ [name]) (.file contents ((t.mode? p).getD privateMode)), .ok ()) := by
  rw [replaceContents_eq, h.resolveDirectory, h.entryLocation]
  exact if_neg hd

/-- **Otherwise the tree stays as it is.** -/
theorem replaceContents_of_not (h : ¬ t.Replaceable p) (contents : ByteArray) :
    ∃ f, t.replaceContents p contents = (t, .error f) := by
  rw [replaceContents_eq]
  cases t.resolveDirectory (stagingPath p) with
  | error f => exact ⟨f, rfl⟩
  | ok staging =>
      cases hl : t.entryLocation p with
      | error f => exact ⟨f, rfl⟩
      | ok l =>
          obtain ⟨d, name, hends, rfl⟩ := endsIn_of_entryLocation hl
          have hd : t.isDirectoryAt (d ++ [name]) :=
            Decidable.byContradiction fun hd => h ⟨d, name, hends, hd⟩
          exact ⟨.isADirectory, if_pos hd⟩

/-! ## What a path named before -/

theorem Occupied.mode {x : Location} (h : t.Occupied x) :
    ∃ mode, (t.get? x).bind Entry.mode? = some mode := by
  obtain ⟨e, he, hl⟩ := h
  rw [he]
  cases e with
  | directory mode => exact ⟨mode, rfl⟩
  | file contents mode => exact ⟨mode, rfl⟩
  | link target => exact absurd rfl (hl target)

/-- A path through which something is found ends at its entry, or at what that one links to. -/
theorem EndsIn.resolve_cases {x : Location} (h : t.EndsIn p d name) (hx : t.resolve p = .ok x) :
    t.Occupied x ∧ (x = d ++ [name] ∨ ∃ target, t.get? (d ++ [name]) = some (.link target)) := by
  obtain ⟨front, hs, hw⟩ := h.front
  obtain ⟨k, hk⟩ := walk_resume hw
  rw [resolve_of_nonempty h.nonempty, hs] at hx
  exact ⟨walk_occupied hx h.start, walk_name ((hk [name]).symm.trans hx) h.isName⟩

/-- The permissions of the file that takes the place of what a path names. -/
theorem EndsIn.mode_of_resolve (h : t.EndsIn p d name) :
    match t.resolve p with
    | .ok x => (t.get? x).bind Entry.mode? = some ((t.mode? p).getD privateMode)
    | .error _ => (t.mode? p).getD privateMode = 0o600 := by
  unfold FileTree.mode?
  cases hx : t.resolve p with
  | error f => rfl
  | ok x =>
      obtain ⟨mode, hm⟩ := (h.resolve_cases hx).1.mode
      simp only [hm, Option.getD_some]

/-! ## Where paths lead afterwards -/

/--
**Behind the end of a walk everything goes on as before**, unless the walk came over the entry.
Then that was a link, and whoever wants to go on from there is stopped at the file.
-/
theorem Overwritten.walk_append (h : t.Overwritten t' l) {n : Nat} {a x : Location}
    {steps : List SystemText} (hw : t.walk n a steps = .ok x) :
    (∃ k, ∀ more, t'.walk n a (steps ++ more) = t'.walk k x more)
    ∨ ((∃ target, t.get? l = some (.link target))
      ∧ ∀ more, more ≠ [] → t'.walk n a (steps ++ more) = .error .notADirectory) := by
  induction n generalizing a steps with
  | zero =>
      cases hA : t.advance a steps with
      | stopped f => exact absurd hw (by simp [walk_of_stopped hA])
      | atLink e target rest => exact absurd hw (by simp [walk, hA])
      | arrived m =>
          rw [walk_of_arrived hA] at hw
          cases hw
          left
          have hA' : t'.advance a steps = .arrived x := by
            rcases h.advance a steps with he | ⟨-, hstop⟩ | ⟨target, rest, -, hlink, -⟩
            · exact he.trans hA
            · cases hA.symm.trans hstop
            · cases hA.symm.trans hlink
          refine ⟨0, fun more => walk_congr ?_ 0⟩
          rw [advance_append, hA']
          rfl
  | succ n ih =>
      rcases h.advance a steps with he | ⟨-, hstop⟩ | ⟨target, rest, ht, -, hA'⟩
      · cases hA : t.advance a steps with
        | stopped f => exact absurd hw (by simp [walk_of_stopped hA])
        | arrived m =>
            rw [walk_of_arrived hA] at hw
            cases hw
            left
            refine ⟨n + 1, fun more => walk_congr ?_ (n + 1)⟩
            rw [advance_append, he, hA]
            rfl
        | atLink e target rest =>
            rw [walk_of_atLink hA] at hw
            by_cases hemp : target.isEmpty
            · rw [if_pos hemp] at hw
              cases hw
            · rw [if_neg hemp] at hw
              have hmore : ∀ more, t'.walk (n + 1) a (steps ++ more) =
                  t'.walk n (startOf e target) ((target.steps ++ rest) ++ more) := by
                intro more
                have hA' : t'.advance a (steps ++ more) = .atLink e target (rest ++ more) := by
                  rw [advance_append, he, hA]
                  rfl
                rw [walk_of_atLink hA', if_neg hemp, List.append_assoc]
              simp only [hmore]
              exact ih hw
      · rw [walk_of_stopped hstop] at hw
        cases hw
      · -- the walk came to the entry, behind which there is nothing any more
        right
        refine ⟨⟨target, ht⟩, fun more hne => ?_⟩
        have hstop : t'.advance a (steps ++ more) = .stopped .notADirectory := by
          obtain ⟨s, others, hs⟩ := List.exists_cons_of_ne_nil hne
          rw [advance_append, hA', ← advance_append, hs]
          cases rest with
          | nil => exact advance_of_not_directory h.file.not_directory
          | cons r rest => exact advance_of_not_directory h.file.not_directory
        exact walk_of_stopped hstop (n + 1)

/-- **The path of the entry leads to the file**, unless it came over the link that stood there. -/
theorem Overwritten.resolve_of_endsIn (h : t.Overwritten t' (d ++ [name]))
    (hp : t.EndsIn p d name) :
    t'.resolve p = .ok (d ++ [name])
    ∨ t'.resolve p = .error .notADirectory
      ∧ ∃ target, t.get? (d ++ [name]) = some (.link target) := by
  obtain ⟨front, hs, hw⟩ := hp.front
  rcases h.walk_append hw with ⟨k, hk⟩ | ⟨hlink, hstop⟩
  · left
    have hfront : t'.walk linkLimit (startOf t'.workingDirectory p) front = .ok d := by
      have hk' := hk []
      rw [List.append_nil] at hk'
      rw [h.workingDirectory, hk']
      exact walk_of_arrived rfl k
    have hends : t'.EndsIn p d name := by
      refine ⟨⟨front, hs, hfront⟩, hp.isName, (h.isDirectoryAt d).trans hp.directory, ?_⟩
      rw [h.workingDirectory]
      exact (h.isDirectoryAt _).trans hp.start
    exact hends.resolve_of_file h.file
  · right
    refine ⟨?_, hlink⟩
    rw [resolve_of_nonempty hp.nonempty, h.workingDirectory, hs]
    exact hstop [name] (by simp)

/-- **So does the path of its location**, if walks start at a real location. -/
theorem Overwritten.resolve_ofLocation (h : t.Overwritten t' (d ++ [name]))
    (hp : t.EndsIn p d name) (hstart : t.Real (startOf t.workingDirectory p)) :
    t'.resolve (.ofLocation (d ++ [name])) = .ok (d ++ [name]) := by
  obtain ⟨front, -, hw⟩ := hp.front
  have hreal : t.Real d := walk_real hstart hw
  -- nothing on the way to the directory is the entry, which is below it
  have hsame : ∀ k, k <+: d → t'.get? k = t.get? k := by
    intro k hk
    refine h.elsewhere k fun he => ?_
    have hlen := hk.length_le
    rw [he, List.length_append, List.length_singleton] at hlen
    omega
  have hreal' : t'.Real d := by
    refine ⟨hreal.names, fun k hk hne => (h.isDirectoryAt k).trans (hreal.above k hk hne), ?_⟩
    rw [hsame d List.prefix_rfl]
    exact hreal.here
  obtain ⟨contents, mode, hg⟩ := h.file
  have hd' := (h.isDirectoryAt d).trans hp.directory
  exact FileTree.resolve_ofLocation (hreal'.snoc hd' hp.isName hg (by simp))

/-! ## One entry or none -/

/-- A file with some contents has come to the entry of a path, and nothing else has changed. -/
structure Installed (t t' : FileTree) (p : Path) (contents : ByteArray) (l : Location)
    (mode : Nat) : Prop where
  /-- The path ends in a name, in the directory to which the rest of it leads. -/
  place : ∃ d name, t.EndsIn p d name ∧ l = d ++ [name]
  notDirectory : ¬ t.isDirectoryAt l
  file : t'.get? l = some (.file contents mode)
  elsewhere : ∀ k, k ≠ l → t'.get? k = t.get? k
  workingDirectory : t'.workingDirectory = t.workingDirectory
  /-- Its permissions are those of what the path named, or the ones of a new file. -/
  permissions : match t.resolve p with
    | .ok x => (t.get? x).bind Entry.mode? = some mode
    | .error _ => mode = 0o600
  /-- What the path named was the entry, or it was behind a link and is still there. -/
  former : ∀ x, t.resolve p = .ok x →
    x = l ∨ (∃ target, t.get? l = some (.link target)) ∧ t'.get? x = t.get? x
  /-- The path leads to the file, unless it came over the link that stood in its place. -/
  leads : t'.resolve p = .ok l
    ∨ t'.resolve p = .error .notADirectory ∧ ∃ target, t.get? l = some (.link target)
  /-- The path of the entry's own location leads there. -/
  location : t.Real (startOf t.workingDirectory p) → t'.resolve (.ofLocation l) = .ok l
  /-- Every path that leads there reads what was written, if that is a text. -/
  reads : ∀ q, t'.resolve q = .ok l → t'.mode? q = some mode
    ∧ t'.readText q = (String.fromUTF8? contents).elim (.error .invalidText) .ok

theorem EndsIn.installed (h : t.EndsIn p d name) (hd : ¬ t.isDirectoryAt (d ++ [name]))
    (contents : ByteArray) :
    t.Installed (t.put (d ++ [name]) (.file contents ((t.mode? p).getD privateMode))) p contents
      (d ++ [name]) ((t.mode? p).getD privateMode) := by
  have hover := overwritten_put hd contents ((t.mode? p).getD privateMode)
  have hfile := get?_put_self t (ne_root_of_not_directory hd)
    (.file contents ((t.mode? p).getD privateMode))
  exact {
    place := ⟨d, name, h, rfl⟩
    notDirectory := hd
    file := hfile
    elsewhere := hover.elsewhere
    workingDirectory := rfl
    permissions := h.mode_of_resolve
    former := by
      intro x hx
      by_cases he : x = d ++ [name]
      · exact .inl he
      · exact .inr ⟨(h.resolve_cases hx).2.resolve_left he, hover.elsewhere x he⟩
    leads := hover.resolve_of_endsIn h
    location := hover.resolve_ofLocation h
    reads := fun q hq => ⟨Shows.mode? ⟨hq, hfile⟩, Shows.readContents ⟨hq, hfile⟩⟩ }

/--
**One entry is replaced or none**, whatever the path is and whatever is written. If replacing
fails, the tree is the one from before, and the path has no entry that a file could take the
place of. Otherwise it has one, and a file with just these contents has come there, with the
permissions of what the path named before, or those of a new file if it named nothing.
-/
theorem replaceContents_atomic (t : FileTree) (p : Path) (contents : ByteArray) :
    match t.replaceContents p contents with
    | (t', .error _) => t' = t ∧ ¬ t.Replaceable p
    | (t', .ok ()) => ∃ l mode, t.Installed t' p contents l mode := by
  by_cases h : t.Replaceable p
  · obtain ⟨d, name, hends, hd⟩ := h
    rw [hends.replaceContents hd]
    exact ⟨_, _, hends.installed hd contents⟩
  · obtain ⟨f, hf⟩ := replaceContents_of_not h contents
    rw [hf]
    exact ⟨rfl, h⟩

/-- A path that came over the link that it names leads nowhere once a file has replaced it. -/
example :
    let t : FileTree := { entries := [(["d"], .directory 0o755), (["a"], .link ⟨["d"]⟩)] }
    let (t', written) := t.replaceContents ⟨["a", "..", "a"]⟩ "x".toUTF8
    written = .ok () ∧ t'.get? ["a"] = some (.file "x".toUTF8 0o755)
      ∧ t'.resolve ⟨["a", "..", "a"]⟩ = .error .notADirectory
      ∧ t'.readText ⟨["a"]⟩ = .ok "x" := by
  decide +kernel

end Emend.FileTree
