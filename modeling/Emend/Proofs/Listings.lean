import Emend.Proofs.RealPaths
import Emend.Proofs.SystemTexts
import Emend.Proofs.Writing
import Mathlib.Data.List.Sort

/-!
# What stands in a directory

A tree is asked for the names in a directory, and for what a path with one of these names at its
end leads to. The names come in order, although nothing is known of the order in which the
entries of a directory are kept.

* `mem_names_iff`, `names_increasing`: the names are those of the entries, each once, in order.
* `Listing` is any other way to list a directory, and `sort_filter_of_listing` puts some names of
  it into that order.
* `resolve_join_name`: a path with a name at its end leads to the entry of that name.
-/

namespace Emend

namespace Path

/-- A path with a name put at its end has the steps of the path, and that name as the last one;
a slash at the end of the path makes no difference. -/
theorem steps_join_name {p : Path} (hp : p.isEmpty = false) (name : SystemText) :
    ∃ front, (p.steps = front ∨ p.steps = front ++ [.text ""])
      ∧ (p.join ⟨[name]⟩).steps = front ++ [name]
      ∧ (p.join ⟨[name]⟩).isAbsolute = p.isAbsolute := by
  rw [join, if_neg (by simp [isAbsolute]), if_neg (by simp [hp])]
  split
  · rename_i rest hrev
    have hseg : p.segments = rest.reverse ++ [.text ""] := by simpa using congrArg List.reverse hrev
    -- the path is not empty, so that something stands in front of the slash at its end
    cases hrest : rest.reverse with
    | nil => simp [isEmpty, hseg, hrest] at hp
    | cons first more =>
        rw [hrest] at hseg
        by_cases hf : first = ""
        · subst hf
          refine ⟨more, .inr ?_, ?_, ?_⟩
          · cases more <;> simp [steps, isAbsolute, hseg]
          · cases more <;> simp [steps, isAbsolute]
          · cases more <;> simp [isAbsolute, hseg]
        · refine ⟨first :: more, .inr ?_, ?_, ?_⟩
          · simp [steps, isAbsolute, hseg, hf]
          · simp [steps, isAbsolute, hf]
          · simp [isAbsolute, hseg, hf]
  · rename_i hrev
    -- no slash stands at the end, and the name becomes a segment of its own
    have hlast : p.segments.getLast? ≠ some "" := by
      intro h
      obtain ⟨front, hfront⟩ := List.getLast?_eq_some_iff.mp h
      exact hrev front.reverse (by simp [hfront])
    refine ⟨p.steps, .inl rfl, ?_, ?_⟩
    all_goals cases hseg : p.segments with
    | nil => simp [steps, isAbsolute, hseg]
    | cons first more =>
        by_cases hf : first = ""
        · subst hf
          cases more with
          | nil => exact absurd (by simp [hseg]) hlast
          | cons second more => simp [steps, isAbsolute, hseg]
        · simp [steps, isAbsolute, hseg, hf]

end Path

namespace FileTree

variable {t : FileTree} {directory : Location} {name : SystemText}

/-! ## Names in a directory -/

theorem nameIn_eq_some_iff {l : Location} : nameIn directory l = some name ↔ l = directory ++ [name] := by
  unfold nameIn
  split
  · rename_i last above hrev
    have hl : l = above.reverse ++ [last] := by simpa using congrArg List.reverse hrev
    rw [hl]
    constructor
    · intro h
      split at h
      · rename_i habove
        cases h
        rw [habove]
      · cases h
    · intro h
      obtain ⟨habove, hlast⟩ := List.append_inj' h rfl
      cases hlast
      rw [if_pos habove]
  · rename_i hrev
    have hl : l = [] := by simpa using hrev
    simp [hl]

theorem mem_insertName {other : SystemText} {names : List SystemText} :
    other ∈ insertName name names ↔ other = name ∨ other ∈ names := by
  induction names with
  | nil => simp [insertName]
  | cons first rest ih =>
      rw [insertName]
      split
      · simp
      · split
        · rename_i he
          simp [he]
        · rw [List.mem_cons, ih, List.mem_cons]
          exact or_left_comm

theorem insertName_increasing {names : List SystemText} (h : names.Pairwise (· < ·)) :
    (insertName name names).Pairwise (· < ·) := by
  induction names with
  | nil => simp [insertName]
  | cons first rest ih =>
      obtain ⟨hfirst, hrest⟩ := List.pairwise_cons.mp h
      rw [insertName]
      split
      · rename_i hlt
        refine List.pairwise_cons.mpr ⟨fun other ho => ?_, h⟩
        rcases List.mem_cons.mp ho with rfl | ho
        · exact hlt
        · exact hlt.trans (hfirst other ho)
      · split
        · exact h
        · rename_i hnlt hne
          refine List.pairwise_cons.mpr ⟨fun other ho => ?_, ih hrest⟩
          rcases mem_insertName.mp ho with rfl | ho
          · exact lt_of_le_of_ne (not_lt.mp hnlt) (Ne.symm hne)
          · exact hfirst other ho

/-- **The names in a directory are those of the entries in it.** -/
theorem mem_names_iff : name ∈ t.names directory ↔ (t.get? (directory ++ [name])).isSome := by
  -- sorting the names in loses none of them
  have hmem : ∀ ns : List SystemText, name ∈ ns.foldr insertName [] ↔ name ∈ ns := by
    intro ns
    induction ns with
    | nil => simp
    | cons first rest ih => rw [List.foldr_cons, mem_insertName, ih, List.mem_cons]
  rw [names, hmem, get?, if_neg (by simp), List.lookup_isSome_iff, List.mem_filterMap]
  simp only [nameIn_eq_some_iff, beq_iff_eq]
  exact exists_congr fun x => and_congr_right fun _ => eq_comm

/-- **They come in order**, each once. -/
theorem names_increasing (t : FileTree) (directory : Location) :
    (t.names directory).Pairwise (· < ·) := by
  unfold names
  generalize t.entries.filterMap _ = ns
  induction ns with
  | nil => simp
  | cons first rest ih => exact insertName_increasing ih

/-! ## Other ways to list it -/

/-- The names in a directory, each once, in whatever order. -/
structure Listing (t : FileTree) (directory : Location) (listing : List SystemText) : Prop where
  nodup : listing.Nodup
  complete : ∀ name, name ∈ listing ↔ (t.get? (directory ++ [name])).isSome

/-- They are the names that come in order, in another one. -/
theorem listing_iff_perm {listing : List SystemText} :
    t.Listing directory listing ↔ listing.Perm (t.names directory) := by
  have hnodup := (names_increasing t directory).nodup
  constructor
  · intro h
    refine (List.perm_ext_iff_of_nodup h.nodup hnodup).mpr fun name => ?_
    rw [h.complete, mem_names_iff]
  · intro h
    exact ⟨h.nodup_iff.mpr hnodup, fun name => h.mem_iff.trans mem_names_iff⟩

/-- **However a directory is listed**, sorting the names that are wanted gives them in order. -/
theorem sort_filter_of_listing {listing : List SystemText} (h : t.Listing directory listing)
    (wanted : SystemText → Bool) :
    (listing.filter wanted).mergeSort (· ≤ ·) = (t.names directory).filter wanted := by
  have hperm := (listing_iff_perm.mp h).filter wanted
  have hsorted := List.pairwise_mergeSort' (· ≤ ·) (listing.filter wanted)
  have hnames := ((names_increasing t directory).filter wanted).imp le_of_lt
  exact List.Perm.eq_of_pairwise (fun _ _ _ _ => le_antisymm) hsorted hnames
    ((List.mergeSort_perm _ _).trans hperm)

/-! ## Entries of a directory -/

theorem resolveDirectory_eq_ok_iff {p : Path} :
    t.resolveDirectory p = .ok directory ↔
      t.resolve p = .ok directory ∧ t.isDirectoryAt directory := by
  cases hres : t.resolve p with
  | error fault => simp [resolveDirectory, hres, bind, Except.bind]
  | ok l =>
      by_cases hd : t.isDirectoryAt l
      · simp [resolveDirectory, hres, hd, bind, Except.bind, pure, Except.pure]
        rintro rfl
        exact hd
      · simp [resolveDirectory, hres, hd, bind, Except.bind, throw, throwThe,
          MonadExceptOf.throw]
        rintro rfl
        simpa using hd

/-- **A path with a name at its end leads to the entry of that name**, if that is no link. -/
theorem resolve_join_name {p : Path} {e : Entry} (h : t.resolve p = .ok directory)
    (hd : t.isDirectoryAt directory) (hn : IsName name)
    (he : t.get? (directory ++ [name]) = some e) (hl : ∀ target, e ≠ .link target) :
    t.resolve (p.join ⟨[name]⟩) = .ok (directory ++ [name]) := by
  have hp := (leads_of_resolve h).1
  obtain ⟨front, hfront, hsteps, habs⟩ := Path.steps_join_name hp name
  have hne : (p.join ⟨[name]⟩).isEmpty = false := by
    have hmem : name ∈ (p.join ⟨[name]⟩).segments :=
      Path.mem_segments_of_mem_steps (by simp [hsteps])
    have hall : (p.join ⟨[name]⟩).segments.all (·.isEmpty) = false :=
      List.all_eq_false.mpr ⟨name, hmem, by simpa using hn.1⟩
    rw [Path.isEmpty, hall, Bool.false_and]
  rw [resolve_of_nonempty hp] at h
  rw [resolve_of_nonempty hne, hsteps, startOf, habs, ← startOf]
  -- whether or not there is a slash at its end, the path has led to the directory
  obtain ⟨k, hk⟩ : ∃ k, ∀ c, t.walk linkLimit (startOf t.workingDirectory p) (front ++ c) =
      t.walk k directory c := by
    rcases hfront with hf | hf
    · exact walk_resume (hf ▸ h)
    · obtain ⟨m, k, hk⟩ := walk_cut (hf ▸ h)
      have hm : t.walk k m [""] = .ok directory := (hk [""]).symm.trans (hf ▸ h)
      rw [walk_of_arrived (advance_idle (.inl rfl) (isDirectoryAt_of_walk hm))] at hm
      exact ⟨k, Except.ok.inj hm ▸ hk⟩
  rw [hk]
  refine walk_of_arrived ?_ k
  rw [advance_name hn hd, he]
  cases e with
  | directory mode => rfl
  | file contents mode => rfl
  | link target => exact absurd rfl (hl target)

end FileTree

end Emend
