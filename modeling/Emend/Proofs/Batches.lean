import Emend.Proofs.Places
import Emend.Proofs.Plans

/-!
# Batches

Each session of a batch sees the tree that the one before it left. When the documents are
different files this does not show: writing one file leaves the way to any other, and what
is read there, as they were.

* `undisturbed_of_supplanted`: the session of a document comes to the same, and writes the
  same, after another document has been written.
* `Apart.runPlans_eq`: so a batch is made of sessions on the tree from before, and leaves
  that tree with all that these sessions write.
* `putAll_perm`: what is written at different places may be written in any order.
* `applyFile_independent` puts this together for a rule file.

A workspace resolves a document before it is written, so the entry that is replaced is the
file itself. Without one it may be a link, and then the limit on links has a say: replacing
a link shortens the way of other documents. `applyFile_not_independent` shows that this
cannot be left out.
-/

namespace Emend

open FileTree

namespace FileTree

variable {t : FileTree} {l k : Location}

/-! ## Several entries at once -/

/-- Let entries stand at locations, one after another. -/
def putAll (t : FileTree) (es : List (Location × Entry)) : FileTree :=
  es.foldl (fun t e => t.put e.1 e.2) t

@[simp] theorem putAll_nil (t : FileTree) : t.putAll [] = t := rfl

@[simp] theorem putAll_cons (t : FileTree) (e : Location × Entry) (es : List (Location × Entry)) :
    t.putAll (e :: es) = (t.put e.1 e.2).putAll es := rfl

theorem putAll_append (t : FileTree) (es more : List (Location × Entry)) :
    t.putAll (es ++ more) = (t.putAll es).putAll more :=
  List.foldl_append

theorem workingDirectory_putAll (t : FileTree) (es : List (Location × Entry)) :
    (t.putAll es).workingDirectory = t.workingDirectory := by
  induction es generalizing t with
  | nil => rfl
  | cons x rest ih => exact ih (t.put x.1 x.2)

theorem get?_putAll_of_not_mem {es : List (Location × Entry)} (h : k ∉ es.map Prod.fst) :
    (t.putAll es).get? k = t.get? k := by
  induction es generalizing t with
  | nil => rfl
  | cons e es ih =>
      rw [List.map_cons, List.mem_cons, not_or] at h
      rw [putAll_cons, ih h.2, get?_put_of_ne t h.1]

theorem get?_putAll_of_mem {es : List (Location × Entry)} {e : Entry}
    (hnd : (es.map Prod.fst).Nodup) (hl : l ≠ []) (h : (l, e) ∈ es) :
    (t.putAll es).get? l = some e := by
  induction es generalizing t with
  | nil => cases h
  | cons first rest ih =>
      rw [List.map_cons, List.nodup_cons] at hnd
      rw [putAll_cons]
      rcases List.mem_cons.mp h with rfl | hr
      · rw [get?_putAll_of_not_mem hnd.1, get?_put_self t hl]
      · exact ih hnd.2 hr

theorem putIn_comm {e e' : Entry} {es : List (Location × Entry)} (h : l ≠ k)
    (hl : (es.lookup l).isSome) (hk : (es.lookup k).isSome) :
    putIn k e' (putIn l e es) = putIn l e (putIn k e' es) := by
  induction es with
  | nil => simp at hl
  | cons x rest ih =>
      obtain ⟨m, old⟩ := x
      by_cases hml : m = l
      · subst hml
        simp [putIn, h]
      · by_cases hmk : m = k
        · subst hmk
          simp [putIn, hml]
        · have hl' : (l == m) = false := by simpa using Ne.symm hml
          have hk' : (k == m) = false := by simpa using Ne.symm hmk
          simp only [List.lookup_cons, hl', hk'] at hl hk
          simp [putIn, hml, hmk, ih hl hk]

/-- The order in which two entries are replaced does not show, not even in the list of entries. -/
theorem put_comm {e e' : Entry} (h : l ≠ k) (hl : l ≠ []) (hk : k ≠ [])
    (hgl : (t.get? l).isSome) (hgk : (t.get? k).isSome) :
    (t.put l e).put k e' = (t.put k e').put l e := by
  rw [get?, if_neg hl] at hgl
  rw [get?, if_neg hk] at hgk
  simp only [put, putIn_comm h hgl hgk]

/-- Entries that are all there, at different places. -/
structure Present (t : FileTree) (es : List (Location × Entry)) : Prop where
  nodup : (es.map Prod.fst).Nodup
  ne_root : ∀ e ∈ es, e.1 ≠ []
  isSome : ∀ e ∈ es, (t.get? e.1).isSome

theorem Present.tail {e : Location × Entry} {es : List (Location × Entry)}
    (h : t.Present (e :: es)) : (t.put e.1 e.2).Present es := by
  obtain ⟨hnd, hne, hsome⟩ := h
  rw [List.map_cons, List.nodup_cons] at hnd
  refine ⟨hnd.2, fun x hx => hne x (List.mem_cons_of_mem _ hx), fun x hx => ?_⟩
  have hdiff : x.1 ≠ e.1 := fun he => hnd.1 (List.mem_map.mpr ⟨x, hx, he⟩)
  rw [get?_put_of_ne t hdiff]
  exact hsome x (List.mem_cons_of_mem _ hx)

theorem Present.perm {es es' : List (Location × Entry)} (h : t.Present es) (hp : es.Perm es') :
    t.Present es' where
  nodup := (hp.map _).nodup_iff.mp h.nodup
  ne_root := fun e he => h.ne_root e (hp.mem_iff.mpr he)
  isSome := fun e he => h.isSome e (hp.mem_iff.mpr he)

/-- **The order in which such entries are replaced does not show.** -/
theorem putAll_perm {es es' : List (Location × Entry)} (hp : es.Perm es') (h : t.Present es) :
    t.putAll es = t.putAll es' := by
  induction hp generalizing t with
  | nil => rfl
  | cons e _ ih => exact ih h.tail
  | swap a b rest =>
      obtain ⟨hnd, hne, hsome⟩ := h
      have hdiff : b.1 ≠ a.1 := by
        rw [List.map_cons, List.map_cons, List.nodup_cons] at hnd
        exact fun he => hnd.1 (he ▸ List.mem_cons_self)
      simp only [putAll_cons]
      rw [put_comm hdiff (hne b (by simp)) (hne a (by simp)) (hsome b (by simp))
        (hsome a (by simp))]
  | trans h₁ _ ih₁ ih₂ => exact (ih₁ h).trans (ih₂ (h.perm h₁))

end FileTree

namespace Editor

variable {e : Editor} {t t' : FileTree} {identity : Path} {d : Document} {rules : RuleSet}
  {P Q : Plan} {l r : Location}

/-! ## Sessions that do not disturb each other -/

/-- The tree after a session is the one before with what the session writes. -/
theorem run_tree (e : Editor) (t : FileTree) (P : Plan) :
    (e.run t P.document P.rules).tree = t.putAll (e.writes t P) := by
  rcases kept_or_wrote e t P with h | ⟨d, s, l, r, mode, h⟩
  · rw [h.tree, h.writes, putAll_nil]
  · rw [h.tree, h.writes, putAll_cons, putAll_nil]

theorem openDocument_congr (hpath : e.documentPath t' identity = e.documentPath t identity)
    (h : ∀ p, e.documentPath t identity = .ok p → t'.readText p = t.readText p) :
    e.openDocument t' identity = e.openDocument t identity := by
  unfold openDocument Document.load
  rw [hpath]
  cases hp : e.documentPath t identity with
  | error err => rfl
  | ok p => simp only [bind, Except.bind, h p hp]

/-- **The result of a session depends on its document only.** -/
theorem session_result_congr (h : e.openDocument t' identity = e.openDocument t identity)
    (write : Bool) (rules : RuleSet) :
    (e.session write t' identity rules).result = (e.session write t identity rules).result := by
  unfold session
  rw [h]
  cases ho : e.openDocument t identity with
  | error err => rfl
  | ok d =>
      obtain ⟨-, -, hcontent⟩ := openDocument_eq_ok ho
      obtain ⟨l, mode, -, hf⟩ := finish_of_open ho
      obtain ⟨l', mode', -, hf'⟩ := finish_of_open (h.trans ho)
      simp only [edit, hcontent]
      split
      · rfl
      · simp only [hf, hf']

/-- Two trees in which a session comes to the same. -/
structure Undisturbed (e : Editor) (t t' : FileTree) (P : Plan) : Prop where
  place : t.Agree t' (e.placeOf P.document)
  result : (e.run t' P.document P.rules).result = (e.run t P.document P.rules).result
  writes : e.writes t' P = e.writes t P

theorem Undisturbed.refl (e : Editor) (t : FileTree) (P : Plan) : e.Undisturbed t t P :=
  ⟨⟨rfl, fun _ _ => rfl⟩, rfl, rfl⟩

/-- A file that the document leads to has been there before. -/
theorem Undisturbed.isFileAt {x : Location} (h : e.Undisturbed t t' P) (hx : t'.IsFileAt x)
    (hres : t'.resolve (e.placeOf P.document) = .ok x) :
    t.IsFileAt x ∧ t.resolve (e.placeOf P.document) = .ok x := by
  rw [h.place.resolve] at hres
  obtain ⟨contents, mode, hx⟩ := hx
  rw [h.place.entry x hres] at hx
  exact ⟨⟨contents, mode, hx⟩, hres⟩

/-- A document is not disturbed when a file takes the place of an entry: the entry was the file
that it stood for, or it was a link and the limit on links does not hold the document back. -/
def Withstands (e : Editor) (t : FileTree) (l r : Location) (identity : Path) : Prop :=
  l = r ∨ (e.workspace = none ∧ ¬ t.HeldBack identity r)

theorem agree_placeOf (h : t.Supplanted t' l r)
    (hP : t.resolve (e.placeOf identity) ≠ .ok r) (hw : e.Withstands t l r identity) :
    t.Agree t' (e.placeOf identity) := by
  rcases hw with rfl | ⟨hw, hb⟩
  · exact .of_file h hP
  · rw [placeOf_free hw] at hP ⊢
    exact .of_not_heldBack h hP hb

/-- The path of a document leads to the same text, too. -/
theorem agree_documentPath {p : Path} (h : t.Supplanted t' l r)
    (hP : t.resolve (e.placeOf identity) ≠ .ok r) (hw : e.Withstands t l r identity)
    (hp : e.documentPath t identity = .ok p) : t.Agree t' p := by
  cases hws : e.workspace with
  | none =>
      have hplace : e.placeOf identity = p :=
        (placeOf_free hws identity).trans (documentPath_free hws hp).symm
      exact hplace ▸ agree_placeOf h hP hw
  | some w =>
      rcases hw with rfl | ⟨hnone, -⟩
      · obtain ⟨k, hk, rfl⟩ := documentPath_confined hws hp
        rw [placeOf_confined hws, (Workspace.resolve_eq_ok hk).1] at hP
        refine .of_file h ?_
        rw [resolve_ofLocation (Workspace.resolve_isReal hk)]
        exact hP
      · rw [hnone] at hws
        cases hws

theorem documentPath_congr (h : t.Agree t' (e.placeOf identity)) :
    e.documentPath t' identity = e.documentPath t identity := by
  unfold documentPath placeOf at *
  cases hws : e.workspace with
  | none => rfl
  | some w =>
      rw [hws] at h
      simp only [Workspace.resolve, Workspace.locate, h.resolve]

/-- **Writing one document leaves the session of another one as it is.** -/
theorem undisturbed_of_supplanted (h : t.Supplanted t' l r)
    (hP : t.resolve (e.placeOf P.document) ≠ .ok r) (hw : e.Withstands t l r P.document) :
    e.Undisturbed t t' P := by
  have hplace := agree_placeOf h hP hw
  have hopen : e.openDocument t' P.document = e.openDocument t P.document :=
    openDocument_congr (documentPath_congr hplace)
      fun p hp => (agree_documentPath h hP hw hp).readText
  have hresult : (e.run t' P.document P.rules).result = (e.run t P.document P.rules).result :=
    session_result_congr hopen _ _
  refine ⟨hplace, hresult, ?_⟩
  rcases kept_or_wrote e t P with hk | ⟨d, s, k, x, mode, hwr⟩
  · rw [hk.writes]
    cases hres : (e.run t P.document P.rules).result with
    | error err => exact writes_of_error (hresult.trans hres)
    | ok s => exact writes_of_not_persisted (hresult.trans hres) (hk.persisted s hres)
  · -- the entry and the permissions are found along the path of the document
    obtain ⟨directory, name, hends⟩ := hwr.opened.endsIn
    have hentry : t'.entryLocation s.document = .ok k := by
      rw [hwr.document, (h.endsIn hends).entryLocation, ← hends.entryLocation, hwr.opened.entry]
    have hmode : t'.mode? s.document = some mode := by
      have hp := (openDocument_eq_ok hwr.isOpen).1
      rw [hwr.document, (agree_documentPath h hP hw hp).mode?, hwr.opened.mode]
    rw [hwr.writes]
    exact writes_of_persisted (hresult.trans hwr.result) hwr.persisted hentry hmode

/-! ## Plans for different files -/

/-- Plans whose documents are different files, where they are files at all. -/
def OnDifferentFiles (e : Editor) (t : FileTree) (plans : List Plan) : Prop :=
  plans.Pairwise fun P Q => ∀ r, t.IsFileAt r →
    t.resolve (e.placeOf P.document) = .ok r → t.resolve (e.placeOf Q.document) ≠ .ok r

/--
Such plans, none of which can come in the way of another. Without a workspace a document
that is a link is replaced as such, which makes the way of others through it shorter; so no
other document may be held back from its file by the limit on links.
-/
structure Apart (e : Editor) (t : FileTree) (plans : List Plan) : Prop where
  distinct : e.OnDifferentFiles t plans
  notHeldBack : e.workspace = none → ∀ P ∈ plans, ∀ l r, t.IsFileAt r →
    t.resolve P.document = .ok r → t.entryLocation P.document = .ok l → l ≠ r →
    ∀ Q ∈ plans, ¬ t.HeldBack Q.document r

theorem Apart.perm {plans plans' : List Plan} (h : e.Apart t plans) (hp : plans.Perm plans') :
    e.Apart t plans' where
  distinct := by
    refine (hp.pairwise_iff ?_).mp h.distinct
    intro P Q hPQ r hr hQ hP
    exact hPQ r hr hP hQ
  notHeldBack := fun hw P hP l r hr hres hl hne Q hQ =>
    h.notHeldBack hw P (hp.mem_iff.mpr hP) l r hr hres hl hne Q (hp.mem_iff.mpr hQ)

/-- What has been written for the first plan can be withstood by the others. -/
theorem Apart.withstands {plans : List Plan} {d : Document} {mode : Nat}
    (h : e.Apart t (P :: plans)) (ho : e.Opened t P.document d l r mode) :
    ∀ Q ∈ plans, e.Withstands t l r Q.document := by
  intro Q hQ
  by_cases hne : l = r
  · exact .inl hne
  · have hws := ho.confined.resolve_left hne
    have hres : t.resolve P.document = .ok r := placeOf_free hws P.document ▸ ho.place
    have hl : t.entryLocation P.document = .ok l := ho.free hws ▸ ho.entry
    exact .inr ⟨hws, h.notHeldBack hws P List.mem_cons_self l r ho.stands.file hres hl hne Q
      (List.mem_cons_of_mem _ hQ)⟩

/-- **What is written for one plan does not disturb those behind it.** -/
theorem Apart.undisturbed {plans : List Plan} (h : e.Apart t (P :: plans)) :
    ∀ Q ∈ plans, e.Undisturbed t (e.run t P.document P.rules).tree Q := by
  intro Q hQ
  rcases kept_or_wrote e t P with hk | ⟨d, s, l, r, mode, hw⟩
  · rw [hk.tree]
    exact .refl e t Q
  · rw [hw.tree]
    exact undisturbed_of_supplanted (hw.opened.stands.supplanted _ mode)
      ((List.pairwise_cons.mp h.distinct).1 Q hQ r hw.opened.stands.file hw.opened.place)
      (h.withstands hw.opened Q hQ)

/-- Those plans stay apart. -/
theorem Apart.tail {plans : List Plan} (h : e.Apart t (P :: plans)) :
    e.Apart (e.run t P.document P.rules).tree plans := by
  have hall := h.undisturbed
  obtain ⟨-, hdistinct⟩ := List.pairwise_cons.mp h.distinct
  rcases kept_or_wrote e t P with hk | ⟨d, s, l, r, mode, hw⟩
  · rw [hk.tree]
    exact ⟨hdistinct, fun hws Q hQ l r hr hres hl hne Q' hQ' =>
      h.notHeldBack hws Q (List.mem_cons_of_mem _ hQ) l r hr hres hl hne Q'
        (List.mem_cons_of_mem _ hQ')⟩
  · have hsup := hw.opened.stands.supplanted s.after.toUTF8 mode
    have hwith := h.withstands hw.opened
    rw [hw.tree] at hall ⊢
    constructor
    · -- files that are led to now have been led to before, and those were different
      refine hdistinct.imp_of_mem fun {Q Q'} hQ hQ' hne x hx hres hres' => ?_
      obtain ⟨hx, hres⟩ := (hall Q hQ).isFileAt hx hres
      rw [(hall Q' hQ').place.resolve] at hres'
      exact hne x hx hres hres'
    · -- a document that is a link now was the same link before
      intro hws Q hQ k x hx hres hk hne Q' hQ'
      rw [← placeOf_free hws Q.document] at hres
      obtain ⟨hx, hres⟩ := (hall Q hQ).isFileAt hx hres
      rw [placeOf_free hws] at hres
      obtain ⟨directory, name, hends, -⟩ := endsIn_of_resolve hres hx.not_directory
      rw [(hsup.endsIn hends).entryLocation, ← hends.entryLocation] at hk
      refine hsup.not_heldBack (placeOf_free hws Q'.document ▸ (hall Q' hQ').place) ?_ ?_
      · exact (hwith Q' hQ').imp_right And.right
      · exact h.notHeldBack hws Q (List.mem_cons_of_mem _ hQ) k x hx hres hk hne Q'
          (List.mem_cons_of_mem _ hQ')

/-! ## Batches of such plans -/

/-- Take plans to their documents. -/
def runPlans (e : Editor) (t : FileTree) (plans : List Plan) : Batch :=
  Batch.ofPlans (fun t P => e.run t P.document P.rules) t plans

/-- See what plans would do to their documents. -/
def checkPlans (e : Editor) (t : FileTree) (plans : List Plan) : Batch :=
  Batch.ofPlans (fun t P => e.check t P.document P.rules) t plans

/-- What is checked is checked on the tree as it was. -/
theorem checkPlans_eq (e : Editor) (t : FileTree) (plans : List Plan) :
    (e.checkPlans t plans).tree = t
      ∧ (e.checkPlans t plans).outcomes =
        plans.map fun P => (P.document, (e.check t P.document P.rules).result) := by
  induction plans with
  | nil => exact ⟨rfl, rfl⟩
  | cons P rest ih =>
      have htree : (e.check t P.document P.rules).tree = t :=
        session_readOnly_tree e t P.document P.rules
      simp only [checkPlans, Batch.ofPlans, htree]
      refine ⟨ih.1, ?_⟩
      rw [List.map_cons, ← ih.2]
      rfl

/-- **A batch of plans that are apart is made of sessions on the tree as it was**, and in the
end the tree holds what each of them has written. -/
theorem Apart.runPlans_eq {plans : List Plan} (h : e.Apart t plans) :
    (e.runPlans t plans).outcomes =
        plans.map (fun P => (P.document, (e.run t P.document P.rules).result))
      ∧ (e.runPlans t plans).tree = t.putAll (plans.flatMap (e.writes t)) := by
  induction plans generalizing t with
  | nil => exact ⟨rfl, rfl⟩
  | cons P rest ih =>
      obtain ⟨houtcomes, htree⟩ := ih h.tail
      have hall := h.undisturbed
      have hresults : ∀ Q ∈ rest,
          (e.run (e.run t P.document P.rules).tree Q.document Q.rules).result =
            (e.run t Q.document Q.rules).result := fun Q hQ => (hall Q hQ).result
      have hwrites : rest.flatMap (e.writes (e.run t P.document P.rules).tree) =
          rest.flatMap (e.writes t) := by
        rw [List.flatMap_def, List.flatMap_def,
          List.map_congr_left fun Q hQ => (hall Q hQ).writes]
      constructor
      · rw [List.map_cons, ← List.map_congr_left fun Q hQ => by rw [← hresults Q hQ], ← houtcomes]
        rfl
      · rw [List.flatMap_cons, putAll_append, ← run_tree, ← hwrites, ← htree]
        rfl

/-- What is written for a plan stands for the file that its document leads to. -/
theorem standsFor_of_mem_writes {x : Location × Entry} (h : x ∈ e.writes t P) :
    ∃ r, t.StandsFor x.1 r ∧ t.resolve (e.placeOf P.document) = .ok r := by
  rcases kept_or_wrote e t P with hk | ⟨d, s, l, r, mode, hw⟩
  · rw [hk.writes] at h
    cases h
  · rw [hw.writes, List.mem_singleton] at h
    exact ⟨r, h ▸ hw.opened.stands, hw.opened.place⟩

theorem pairwise_writes (e : Editor) (t : FileTree) (P : Plan) :
    (e.writes t P).Pairwise fun x y => x.1 ≠ y.1 := by
  rcases kept_or_wrote e t P with hk | ⟨d, s, l, r, mode, hw⟩
  · simp [hk.writes]
  · simp [hw.writes]

/-- Plans that are apart write to entries that are there, and to different ones. -/
theorem Apart.present {plans : List Plan} (h : e.Apart t plans) :
    t.Present (plans.flatMap (e.writes t)) where
  nodup := by
    rw [List.Nodup, List.pairwise_map, List.pairwise_flatMap]
    refine ⟨fun P _ => pairwise_writes e t P, h.distinct.imp fun {P Q} hPQ x hx y hy hxy => ?_⟩
    obtain ⟨r, hstands, hres⟩ := standsFor_of_mem_writes hx
    obtain ⟨r', hstands', hres'⟩ := standsFor_of_mem_writes hy
    have hr : r = r' := hstands.unique (hxy ▸ hstands')
    exact hPQ r hstands.file hres (hr ▸ hres')
  ne_root := by
    intro x hx
    obtain ⟨P, -, hx⟩ := List.mem_flatMap.mp hx
    obtain ⟨r, hstands, -⟩ := standsFor_of_mem_writes hx
    exact hstands.ne_root
  isSome := by
    intro x hx
    obtain ⟨P, -, hx⟩ := List.mem_flatMap.mp hx
    obtain ⟨r, hstands, -⟩ := standsFor_of_mem_writes hx
    rcases hstands.entry with ⟨contents, mode, hl⟩ | ⟨target, hl⟩
    · simp [hl]
    · simp [hl]

/-- **The order of plans that are apart does not show** in the tree, and only as an order in
the outcomes. -/
theorem Apart.runPlans_perm {plans order : List Plan} (h : e.Apart t plans)
    (hp : order.Perm plans) :
    (e.runPlans t order).tree = (e.runPlans t plans).tree
      ∧ (e.runPlans t order).outcomes.Perm (e.runPlans t plans).outcomes := by
  obtain ⟨houtcomes, htree⟩ := h.runPlans_eq
  obtain ⟨houtcomes', htree'⟩ := (h.perm hp.symm).runPlans_eq
  rw [houtcomes, htree, houtcomes', htree']
  exact ⟨putAll_perm (hp.flatMap_right _) (h.perm hp.symm).present, hp.map _⟩

/-! ## What such a batch comes to -/

/-- The entries of the documents that some sessions have changed hold what the sessions made of
them, with the permissions from before, and nothing else in the tree has changed. -/
structure Carries (t t' : FileTree) (outcomes : List (Path × Except SessionError Session)) :
    Prop where
  changed : ∀ identity s, (identity, .ok s) ∈ outcomes → s.changed = true →
    ∃ l mode, t.entryLocation s.document = .ok l ∧ t.mode? s.document = some mode
      ∧ t'.get? l = some (.file s.after.toUTF8 mode)
  elsewhere : ∀ k, (∀ identity s, (identity, .ok s) ∈ outcomes → s.changed = true →
    t.entryLocation s.document ≠ .ok k) → t'.get? k = t.get? k
  workingDirectory : t'.workingDirectory = t.workingDirectory

/-- A check foretells the result of a session that may write. -/
theorem run_result_of_check (he : e.dryRun = false) (identity : Path) (rules : RuleSet) :
    (e.run t identity rules).result =
      (e.check t identity rules).result.map fun s => { s with persisted := s.changed } := by
  rw [run, check, he, Bool.not_false, session_writing_result]

/-- Such a session has written what it changed. -/
theorem persisted_eq_changed (he : e.dryRun = false) {s : Session}
    (h : (e.run t identity rules).result = .ok s) : s.persisted = s.changed := by
  rw [run_result_of_check he] at h
  cases hc : (e.check t identity rules).result with
  | error err => simp [hc, Except.map] at h
  | ok c =>
      rw [hc] at h
      cases h
      rfl

theorem Apart.carries {plans : List Plan} (h : e.Apart t plans) (he : e.dryRun = false) :
    Carries t (e.runPlans t plans).tree (e.runPlans t plans).outcomes := by
  obtain ⟨houtcomes, htree⟩ := h.runPlans_eq
  rw [houtcomes, htree]
  refine ⟨fun identity s hs hc => ?_, fun k hk => ?_, workingDirectory_putAll t _⟩
  · obtain ⟨P, hP, heq⟩ := List.mem_map.mp hs
    have hres : (e.run t P.document P.rules).result = .ok s := congrArg Prod.snd heq
    have hpersisted := (persisted_eq_changed he hres).trans hc
    rcases kept_or_wrote e t P with hkept | ⟨d, s', l, r, mode, hw⟩
    · rw [hkept.persisted s hres] at hpersisted
      cases hpersisted
    · obtain rfl : s' = s := Except.ok.inj (hw.result.symm.trans hres)
      have hmem : (l, .file s'.after.toUTF8 mode) ∈ plans.flatMap (e.writes t) :=
        List.mem_flatMap.mpr ⟨P, hP, by rw [hw.writes]; exact List.mem_singleton_self _⟩
      exact ⟨l, mode, hw.document ▸ hw.opened.entry, hw.document ▸ hw.opened.mode,
        get?_putAll_of_mem h.present.nodup hw.opened.stands.ne_root hmem⟩
  · refine get?_putAll_of_not_mem fun hm => ?_
    obtain ⟨x, hx, rfl⟩ := List.mem_map.mp hm
    obtain ⟨P, hP, hx⟩ := List.mem_flatMap.mp hx
    rcases kept_or_wrote e t P with hkept | ⟨d, s, l, r, mode, hw⟩
    · rw [hkept.writes] at hx
      cases hx
    · rw [hw.writes, List.mem_singleton] at hx
      have hchanged := (persisted_eq_changed he hw.result).symm.trans hw.persisted
      refine hk P.document s (List.mem_map.mpr ⟨P, hP, by rw [hw.result]⟩) hchanged ?_
      rw [hx, hw.document]
      exact hw.opened.entry

/--
**A batch equals independent sessions.** If the plans of a rule file are apart, every document
comes to the end that a check of the untouched tree foretells; the tree holds what these
sessions made of their documents, and the plans may as well be taken in any other order.
-/
theorem applyFile_independent {f : RuleFile} {root : Path} (hf : f.issues = [])
    (he : e.dryRun = false) (h : ∀ plans, f.plans root = .ok plans → e.Apart t plans) :
    ∃ plans applied checked, f.plans root = .ok plans
      ∧ e.applyFile t f root = .ok applied ∧ e.checkFile t f root = .ok checked
      ∧ applied.outcomes =
          checked.outcomes.map (fun o => (o.1, o.2.map fun s => { s with persisted := s.changed }))
      ∧ checked.outcomes = plans.map (fun P => (P.document, (e.check t P.document P.rules).result))
      ∧ Carries t applied.tree applied.outcomes
      ∧ ∀ order, order.Perm plans → (e.runPlans t order).tree = applied.tree
          ∧ (e.runPlans t order).outcomes.Perm applied.outcomes := by
  obtain ⟨plans, hplans, -⟩ := RuleFile.plans_of_issues hf root
  have hapart := h plans hplans
  obtain ⟨-, hchecked⟩ := checkPlans_eq e t plans
  refine ⟨plans, e.runPlans t plans, e.checkPlans t plans, hplans,
    RuleFile.applyFile_of_plans hplans e t, RuleFile.checkFile_of_plans hplans e t, ?_, hchecked,
    hapart.carries he, fun order hp => hapart.runPlans_perm hp⟩
  rw [hapart.runPlans_eq.1, hchecked, List.map_map]
  refine List.map_congr_left fun P _ => ?_
  exact congrArg (Prod.mk P.document) (run_result_of_check he P.document P.rules)

/-! ## Links -/

/-- The documents of plans that have been made. -/
theorem documents_of_plans {f : RuleFile} {root : Path} {plans : List Plan}
    {documents : List Path} (h : (f.plans root).map (List.map Plan.document) = .ok documents)
    (hplans : f.plans root = .ok plans) : plans.map Plan.document = documents := by
  rw [hplans] at h
  exact Except.ok.inj h

/-- Without a workspace it is the documents that have to lead to different places. -/
theorem onDifferentFiles_of_documents {plans : List Plan} {documents : List Path}
    (hw : e.workspace = none) (hdocs : plans.map Plan.document = documents)
    (h : documents.Pairwise fun p q => ∀ r, t.resolve p = .ok r → t.resolve q ≠ .ok r) :
    e.OnDifferentFiles t plans := by
  rw [← hdocs] at h
  refine (List.pairwise_map.mp h).imp fun {P Q} hPQ r _ => ?_
  rw [placeOf_free hw, placeOf_free hw]
  exact hPQ r

/-- Two files, and a link to one of them. -/
def oneLinked : FileTree where
  entries :=
    [(["a.txt"], .file "one".toUTF8 0o644),
      (["b.txt"], .link ⟨["c.txt"]⟩),
      (["c.txt"], .file "one".toUTF8 0o600)]

/-- Edits of a file, of a link, and of what is not there. -/
def editsEach : RuleFile where
  rules :=
    [{ id := "file", file := "a.txt", find := .literal "one", replace := "two" },
      { id := "link", file := "b.txt", find := .literal "one", replace := "three" },
      { id := "nothing", file := "gone.txt", find := .literal "one", replace := "two" }]

theorem apart_oneLinked {plans : List Plan} (h : editsEach.plans ⟨["."]⟩ = .ok plans) :
    ({} : Editor).Apart oneLinked plans := by
  have hdocs : plans.map Plan.document = [⟨["a.txt"]⟩, ⟨["b.txt"]⟩, ⟨["gone.txt"]⟩] :=
    documents_of_plans (by decide +kernel) h
  have ha : oneLinked.resolve ⟨["a.txt"]⟩ = .ok ["a.txt"] := by decide +kernel
  have hb : oneLinked.resolve ⟨["b.txt"]⟩ = .ok ["c.txt"] := by decide +kernel
  have hg : oneLinked.resolve ⟨["gone.txt"]⟩ = .error .notFound := by decide +kernel
  constructor
  · exact onDifferentFiles_of_documents rfl hdocs (by simp [ha, hb, hg])
  · rintro - P - l r - - - - Q hQ ⟨hloop, -⟩
    have hmem : Q.document ∈ plans.map Plan.document := List.mem_map_of_mem hQ
    rw [hdocs] at hmem
    simp only [List.mem_cons, List.not_mem_nil, or_false] at hmem
    rcases hmem with hd | hd | hd <;> simp [hd, ha, hb, hg] at hloop

theorem applyFile_independent_oneLinked :
    editsEach.issues = []
      ∧ ∃ plans applied checked, editsEach.plans ⟨["."]⟩ = .ok plans
        ∧ ({} : Editor).applyFile oneLinked editsEach ⟨["."]⟩ = .ok applied
        ∧ ({} : Editor).checkFile oneLinked editsEach ⟨["."]⟩ = .ok checked
        ∧ applied.outcomes = checked.outcomes.map
            (fun o => (o.1, o.2.map fun s => { s with persisted := s.changed }))
        ∧ Carries oneLinked applied.tree applied.outcomes := by
  have hf : editsEach.issues = [] := by decide +kernel
  obtain ⟨plans, applied, checked, hplans, happlied, hchecked, houtcomes, -, hcarries, -⟩ :=
    applyFile_independent hf (e := {}) rfl fun _ h => apart_oneLinked h
  exact ⟨hf, plans, applied, checked, hplans, happlied, hchecked, houtcomes, hcarries⟩

/-- Links that lead to a file one after another, so many that the last one leads nowhere. -/
def longChain : FileTree where
  entries := (["f.txt"], .file "one".toUTF8 0o644) ::
    (List.range 41).map fun n =>
      (["l" ++ toString (n + 1)], .link ⟨[if n = 0 then "f.txt" else "l" ++ toString n]⟩)

/-- An edit of a link in the middle, and one beyond the file, on the way over the last link. -/
def editsMiddle : RuleFile where
  rules :=
    [{ id := "middle", file := "l20", find := .literal "one", replace := "two" },
      { id := "beyond", file := "l41/x", find := .literal "one", replace := "two" }]

/--
**Different files alone are not enough** when links are replaced. The document beyond the file
is refused for too many links at first, but once a link in the middle has become a file it is
refused because that file is no directory.
-/
theorem applyFile_not_independent :
    editsMiddle.issues = []
      ∧ (∀ plans, editsMiddle.plans ⟨["."]⟩ = .ok plans →
          ({} : Editor).OnDifferentFiles longChain plans)
      ∧ ∃ applied checked, ({} : Editor).applyFile longChain editsMiddle ⟨["."]⟩ = .ok applied
        ∧ ({} : Editor).checkFile longChain editsMiddle ⟨["."]⟩ = .ok checked
        ∧ applied.outcomes ≠ checked.outcomes.map
            (fun o => (o.1, o.2.map fun s => { s with persisted := s.changed })) := by
  have hf : editsMiddle.issues = [] := by decide +kernel
  obtain ⟨plans, hplans, -⟩ := RuleFile.plans_of_issues hf ⟨["."]⟩
  have hbeyond : longChain.resolve ⟨["l41", "x"]⟩ = .error .linkLoop := by decide +kernel
  refine ⟨hf, fun plans h => ?_, _, _, RuleFile.applyFile_of_plans hplans {} longChain,
    RuleFile.checkFile_of_plans hplans {} longChain, ?_⟩
  · have hdocs : plans.map Plan.document = [⟨["l20"]⟩, ⟨["l41", "x"]⟩] :=
      documents_of_plans (by decide +kernel) h
    exact onDifferentFiles_of_documents rfl hdocs (by simp [hbeyond])
  · have happlied : (({} : Editor).applyFile longChain editsMiddle ⟨["."]⟩).map
        (fun batch => batch.outcomes[1]?) =
          .ok (some (⟨["l41", "x"]⟩, .error (.io ⟨["l41", "x"]⟩ .notADirectory))) := by
      decide +kernel
    have hchecked : (({} : Editor).checkFile longChain editsMiddle ⟨["."]⟩).map
        (fun batch => batch.outcomes[1]?) =
          .ok (some (⟨["l41", "x"]⟩, .error (.io ⟨["l41", "x"]⟩ .linkLoop))) := by
      decide +kernel
    rw [RuleFile.applyFile_of_plans hplans] at happlied
    rw [RuleFile.checkFile_of_plans hplans] at hchecked
    simp only [Except.map, Except.ok.injEq] at happlied hchecked
    intro heq
    rw [heq, List.getElem?_map, hchecked] at happlied
    simp [Except.map] at happlied

end Editor

end Emend
