import Emend.Proofs.Confinement

/-!
# Directories that are left alone

A workspace forbids a few directories below its root by their names, but it judges by
locations. It takes down where these directories really are when it is made, and does not look
again. A directory that is made later, or that was a link then and is none later, has not been
taken down.

* `protected_iff`: a place below the root is closed in every later tree exactly if it has been
  taken down.
* `turn_of_covers`: no turn of a confined editor changes what has been taken down.
* `forbidden_protected`: both, for the forbidden directories.
* `forbidden_made_later`: a directory that was not there when the workspace was made.
-/

namespace Emend

open FileTree

namespace Workspace

variable {w : Workspace} {t : FileTree} {p : Path} {d : Location} {name : SystemText}

/-! ## What has been taken down -/

theorem ofPath_eq_ok (h : ofPath t p = .ok w) :
    t.resolve p = .ok w.root ∧ w.forbidden = forbiddenBelow t w.root := by
  obtain ⟨root, hres, h⟩ := bind_eq_ok_iff.mp h
  cases h
  exact ⟨mapError_eq_ok_iff.mp hres, rfl⟩

/-- What is taken down are the places that the forbidden names really lead to. -/
theorem mem_forbidden_iff (h : ofPath t p = .ok w) : d ∈ w.forbidden ↔
    ∃ name ∈ forbiddenNames, t.resolve ((Path.ofLocation w.root).join ⟨[name]⟩) = .ok d := by
  rw [(ofPath_eq_ok h).2, forbiddenBelow, List.mem_filterMap]
  refine exists_congr fun name => and_congr_right fun _ => ?_
  cases t.resolve ((Path.ofLocation w.root).join ⟨[name]⟩) <;> simp [Except.toOption]

/-- A place below the root of which a workspace knows that it is forbidden: one of the forbidden
names led there, or to a place above it. -/
def Covers (t : FileTree) (root : Location) (place : Location) : Prop :=
  ∃ name ∈ forbiddenNames, ∃ d, t.resolve ((Path.ofLocation root).join ⟨[name]⟩) = .ok d
    ∧ d <+: place

theorem covers_iff (h : ofPath t p = .ok w) {place : Location} :
    Covers t w.root place ↔ ∃ d ∈ w.forbidden, d <+: place := by
  constructor
  · rintro ⟨name, hname, d, hd, hplace⟩
    exact ⟨d, (mem_forbidden_iff h).mpr ⟨name, hname, hd⟩, hplace⟩
  · rintro ⟨d, hd, hplace⟩
    obtain ⟨name, hname, hres⟩ := (mem_forbidden_iff h).mp hd
    exact ⟨name, hname, d, hres, hplace⟩

/-- **What has been taken down is not admitted any more**, whatever the tree. -/
theorem check_of_covers (h : ofPath t p = .ok w) {place l : Location}
    (hc : Covers t w.root place) (hl : place <+: l) : w.check l ≠ .ok () := by
  obtain ⟨d, hd, hplace⟩ := (covers_iff h).mp hc
  exact fun hok => (check_eq_ok_iff.mp hok).2 d hd (hplace.trans hl)

/-! ## What others may open up -/

/-- A tree of nothing but the directories that lead to a location. -/
def leadingTo (l : Location) : FileTree where
  entries := (List.range (l.length + 1)).map fun n => (l.take n, .directory directoryMode)

/-- Where all entries are the same, a location that is there has this entry. -/
theorem lookup_of_forall {es : List (Location × Entry)} {e : Entry} {k : Location}
    (h : ∀ x ∈ es, x.2 = e) (hk : k ∈ es.map Prod.fst) : es.lookup k = some e := by
  induction es with
  | nil => simp at hk
  | cons x rest ih =>
      rw [List.lookup_cons]
      split
      · rw [h x List.mem_cons_self]
      · rename_i hne
        refine ih (fun x hx => h x (List.mem_cons_of_mem _ hx)) ?_
        exact (List.mem_cons.mp hk).resolve_left (by simpa using hne)

theorem real_leadingTo {l : Location} (h : ∀ s ∈ l, IsName s) : (leadingTo l).Real l := by
  have hall : ∀ k, k <+: l → (leadingTo l).get? k = some (.directory directoryMode) := by
    intro k hk
    rw [get?]
    split
    · rfl
    · refine lookup_of_forall (by simp [leadingTo]) ?_
      simp only [leadingTo, List.map_map, List.mem_map, List.mem_range]
      exact ⟨k.length, Nat.lt_succ_of_le hk.length_le, (List.prefix_iff_eq_take.mp hk).symm⟩
  exact {
    names := h
    above := fun k hk _ => by simp [isDirectoryAt, hall k hk, Entry.isDirectory]
    here := ⟨_, hall l List.prefix_rfl, by simp⟩ }

/-- The root of a workspace has names for its steps. -/
theorem names_of_ofPath (h : ofPath t p = .ok w)
    (hstart : t.Real (startOf t.workingDirectory p)) : ∀ s ∈ w.root, IsName s := by
  have hres := (ofPath_eq_ok h).1
  unfold FileTree.resolve at hres
  split at hres
  · cases hres
  · exact (walk_real hstart hres).names

/--
**A place below the root is protected exactly if it has been taken down.** Otherwise there are
trees in which the workspace admits it.
-/
theorem protected_iff (h : ofPath t p = .ok w) {place : Location} (hroot : w.root <+: place)
    (hnames : ∀ s ∈ place, IsName s) :
    (∀ t' q l, w.resolve t' q = .ok l → ¬ place <+: l) ↔ Covers t w.root place := by
  constructor
  · intro hall
    refine Classical.byContradiction fun hnot => ?_
    -- others may make the place a directory, and nothing else
    have hreal := real_leadingTo hnames
    have hcheck : w.check place = .ok () := by
      refine check_eq_ok_iff.mpr ⟨hroot, fun d hd hplace => hnot ?_⟩
      exact (covers_iff h).mpr ⟨d, hd, hplace⟩
    have hres : w.resolve (leadingTo place) (.ofLocation place) = .ok place := by
      refine resolve_eq_ok_iff.mpr ⟨?_, hcheck⟩
      rw [fromRoot_ofLocation, resolve_ofLocation hreal]
    exact hall _ _ _ hres List.prefix_rfl
  · intro hc t' q l hres hl
    exact check_of_covers h hc hl (resolve_eq_ok hres).2

theorem isName_of_forbidden (h : name ∈ forbiddenNames) : IsName name := by
  simp only [forbiddenNames, List.mem_cons, List.not_mem_nil, or_false] at h
  rcases h with rfl | rfl | rfl <;> simp [IsName]

end Workspace

namespace Editor

variable {w : Workspace} {e : Editor} {t : FileTree} {p : Path} {name : SystemText}

/-! ## Forbidden directories -/

/-- **A turn of a confined editor leaves alone what has been taken down.** -/
theorem turn_of_covers (hw : e.workspace = some w) (h : Workspace.ofPath t p = .ok w)
    {place k : Location} (hc : Workspace.Covers t w.root place) (hk : place <+: k)
    (here : FileTree) {turn : Turn} (hours : turn.isOurs = true) :
    (e.turn here turn).tree.get? k = here.get? k :=
  Classical.byContradiction fun hne =>
    Workspace.check_of_covers h hc hk ((keeps_turn hw here hours).1.admitted k hne)

/--
**Documents live in no forbidden directory that was there when the workspace was made.** No
path resolves below such a directory, in any later tree, exactly if a forbidden name led there
then, or to a place above it. In that case no turn of a confined editor changes an entry in it,
and no history does without others.
-/
theorem forbidden_protected (h : Workspace.ofPath t p = .ok w)
    (hstart : t.Real (startOf t.workingDirectory p)) (hname : name ∈ Workspace.forbiddenNames) :
    ((∀ later q l, w.resolve later q = .ok l → ¬ w.root ++ [name] <+: l)
        ↔ Workspace.Covers t w.root (w.root ++ [name]))
      ∧ (Workspace.Covers t w.root (w.root ++ [name]) → ∀ dryRun later k,
          w.root ++ [name] <+: k →
          (∀ turn, turn.isOurs = true →
            (({ workspace := some w, dryRun } : Editor).turn later turn).tree.get? k =
              later.get? k)
          ∧ ∀ turns, (∀ here after, (here, .others after) ∈
              ({ workspace := some w, dryRun } : Editor).history later turns →
                after.get? k = here.get? k) →
            (({ workspace := some w, dryRun } : Editor).play later turns).get? k =
              later.get? k) := by
  have hnames : ∀ s ∈ w.root ++ [name], IsName s := by
    intro s hs
    rcases List.mem_append.mp hs with hs | hs
    · exact Workspace.names_of_ofPath h hstart s hs
    · exact List.mem_singleton.mp hs ▸ Workspace.isName_of_forbidden hname
  refine ⟨Workspace.protected_iff h (List.prefix_append ..) hnames,
    fun hc dryRun later k hk => ?_⟩
  have hturn : ∀ here turn, turn.isOurs = true →
      (({ workspace := some w, dryRun } : Editor).turn here turn).tree.get? k = here.get? k :=
    fun here turn hours => turn_of_covers rfl h hc hk here hours
  exact ⟨hturn later, fun turns hothers => play_get? hturn later turns hothers⟩

/-- A repository. -/
def withHistory : FileTree where
  entries :=
    [([".git"], .directory directoryMode),
      ([".git", "config"], .file "one".toUTF8 0o644),
      (["doc.txt"], .file "one".toUTF8 0o644)]

/-- The same before it was one. -/
def withoutHistory : FileTree where
  entries := [(["doc.txt"], .file "one".toUTF8 0o644)]

theorem forbidden_protected_withHistory :
    Workspace.ofPath withHistory ⟨["", ""]⟩ = .ok ⟨[], [[".git"]]⟩
      ∧ withHistory.Real (startOf withHistory.workingDirectory ⟨["", ""]⟩)
      ∧ .text ".git" ∈ Workspace.forbiddenNames
      ∧ ∀ later q l, (⟨[], [[".git"]]⟩ : Workspace).resolve later q = .ok l →
          ¬ [.text ".git"] <+: l := by
  have hw : Workspace.ofPath withHistory ⟨["", ""]⟩ = .ok ⟨[], [[".git"]]⟩ := by decide +kernel
  have hstart : withHistory.Real (startOf withHistory.workingDirectory ⟨["", ""]⟩) := real_root
  have hname : .text ".git" ∈ Workspace.forbiddenNames := by decide
  have hc : Workspace.Covers withHistory [] [".git"] :=
    ⟨".git", hname, [".git"], by decide +kernel, List.prefix_rfl⟩
  exact ⟨hw, hstart, hname, (forbidden_protected hw hstart hname).1.mpr hc⟩

/-- A plain edit. -/
def oneToTwo : Rule where
  id := "edit"
  matcher := .literal "one"
  replacement := .literal "two"

/--
**A directory that is made after the workspace is not protected.** A document in it is found,
and edited.
-/
theorem forbidden_made_later :
    Workspace.ofPath withoutHistory ⟨["", ""]⟩ = .ok ⟨[], []⟩
      ∧ (⟨[], []⟩ : Workspace).resolve withHistory ⟨[".git", "config"]⟩ = .ok [".git", "config"]
      ∧ (({ workspace := some ⟨[], []⟩ } : Editor).run withHistory ⟨[".git", "config"]⟩
          { rules := [oneToTwo] }).tree.get? [".git", "config"] =
            some (.file "two".toUTF8 0o644) := by
  decide +kernel

end Editor

end Emend
