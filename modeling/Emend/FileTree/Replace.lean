import Emend.FileTree.Read
import Emend.FileTree.Staging

/-!
# Replacing files

A file is replaced in two steps: the new one is staged in the directory of the
path, and then moved over the entry at the path. Links that lead to that directory
are followed; a link at the path itself is replaced, and what it leads to stays.
If the move is refused, the staged file is removed.

* `replaceContents_eq`: seen from outside nothing has been staged. Either the entry at
  the path is replaced, or the tree is the one from before.
-/

namespace Emend.FileTree

/-- The permissions of a file that is made where nothing stood. -/
def privateMode : Nat := 0o600

/-- The directory in which a path's new entry is staged. -/
def stagingPath (p : Path) : Path :=
  match p.parent? with
  | some parent => if parent.isEmpty then ⟨["."]⟩ else parent
  | none => ⟨["."]⟩

/-- The segments of a path without the slashes at its end. -/
def frontSegments (p : Path) : List SystemText :=
  (p.segments.reverse.dropWhile (·.isEmpty)).reverse

/-- Does the path end in a slash? -/
def endsInSlash (p : Path) : Bool := (frontSegments p).length < p.segments.length

/-- The steps to the directory of a path's last segment. -/
def frontSteps (p : Path) : List SystemText :=
  if p.isAbsolute then (frontSegments p).tail.dropLast else (frontSegments p).dropLast

/-- The location of a name in a directory; `slash` says that only a directory is meant. -/
def nameLocation (t : FileTree) (name : SystemText) (slash : Bool) (directory : Location) :
    Except Fault Location :=
  if !t.isDirectoryAt directory then .error .notADirectory
  else if name = "." ∨ name = ".." then .error .busy
  else if slash then .error .notADirectory
  else .ok (directory ++ [name])

/--
The location at which a new file for a path would stand, with links followed on
the way there but not at it.
-/
def entryLocation (t : FileTree) (p : Path) : Except Fault Location :=
  if p.isEmpty then .error .notFound
  else
    match (frontSegments p).getLast? with
    | none => .error .busy
    | some name =>
      (t.walk linkLimit (startOf t.workingDirectory p) (frontSteps p)).bind
        (t.nameLocation name (endsInSlash p))

/-- Move the entry at a location over the one at a path, which is no directory. -/
def moveOver (t : FileTree) (source : Location) (p : Path) : Except Fault FileTree := do
  let l ← t.entryLocation p
  if t.isDirectoryAt l then throw .isADirectory
  match t.get? source with
  | some e => return (t.remove source).put l e
  | none => throw .notFound

/-- The file that replaces the entry at a path keeps the permissions of what the path named. -/
def replacement (t : FileTree) (p : Path) (text : String) : Entry :=
  .file text.toUTF8 ((t.mode? p).getD privateMode)

/-- Replace the entry at a path by a file with some contents, and give the tree after it. -/
def replaceContents (t : FileTree) (p : Path) (contents : ByteArray) :
    FileTree × Except Fault Unit :=
  match t.resolveDirectory (stagingPath p) with
  | .error f => (t, .error f)
  | .ok directory =>
    let staged := directory ++ [unusedName (p.segments ++ t.knownNames)]
    -- from here on the tree has one entry more, until it is moved or removed
    let during := t.put staged (.file contents ((t.mode? p).getD privateMode))
    match during.moveOver staged p with
    | .error f => (during.remove staged, .error f)
    | .ok after => (after, .ok ())

/-- Replace the entry at a path by a file with a text. -/
def replaceFile (t : FileTree) (p : Path) (text : String) : FileTree × Except Fault Unit :=
  t.replaceContents p text.toUTF8

/-! ## Seen from outside -/

variable {t : FileTree} {directory : Location} {name : SystemText} {e : Entry}

theorem not_mem_frontSegments {p : Path} (h : name ∉ p.segments) : name ∉ frontSegments p := by
  intro hm
  simp only [frontSegments, List.mem_reverse] at hm
  exact h (List.mem_reverse.mp ((List.dropWhile_sublist _).mem hm))

theorem not_mem_frontSteps {p : Path} (h : name ∉ p.segments) : name ∉ frontSteps p := by
  have hf := not_mem_frontSegments h
  unfold frontSteps
  split
  · exact fun hm => hf (List.mem_of_mem_tail ((List.dropLast_sublist _).mem hm))
  · exact not_mem_dropLast hf

/-- A path that does not know the staged file leads to the location that it led to before. -/
theorem entryLocation_put {p : Path} (ht : name ∉ t.knownNames) (hp : name ∉ p.segments) :
    (t.put (directory ++ [name]) e).entryLocation p = t.entryLocation p := by
  have hw : name ∉ startOf t.workingDirectory p :=
    not_mem_startOf fun hm => ht (by simp [knownNames, hm])
  have hs := not_mem_frontSteps hp
  have hwalk : (t.put (directory ++ [name]) e).walk linkLimit (startOf t.workingDirectory p)
      (frontSteps p) = t.walk linkLimit (startOf t.workingDirectory p) (frontSteps p) :=
    walk_put ht hw hs
  unfold entryLocation
  split
  · rfl
  · split
    · rfl
    · rw [show (t.put (directory ++ [name]) e).workingDirectory = t.workingDirectory from rfl,
        hwalk]
      cases hd : t.walk linkLimit (startOf t.workingDirectory p) (frontSteps p) with
      | error f => rfl
      | ok d =>
        simp only [Except.bind, nameLocation,
          isDirectoryAt_put_of_not_mem (walk_avoids ht hw hs hd)]

/-- The location for a path does not know what neither the tree nor the path knows. -/
theorem not_mem_of_entryLocation {p : Path} {l : Location} (ht : name ∉ t.knownNames)
    (hp : name ∉ p.segments) (h : t.entryLocation p = .ok l) : name ∉ l := by
  have hw : name ∉ startOf t.workingDirectory p :=
    not_mem_startOf fun hm => ht (by simp [knownNames, hm])
  unfold entryLocation at h
  split at h
  · cases h
  · split at h
    · cases h
    · rename_i last hlast
      cases hd : t.walk linkLimit (startOf t.workingDirectory p) (frontSteps p) with
      | error f => simp [hd, Except.bind] at h
      | ok d =>
        have hav := walk_avoids ht hw (not_mem_frontSteps hp) hd
        have hlast' : name ≠ last := fun hn =>
          not_mem_frontSegments hp (hn ▸ List.mem_of_getLast? hlast)
        simp only [hd, Except.bind, nameLocation] at h
        split at h
        · cases h
        · split at h
          · cases h
          · split at h
            · cases h
            · cases h
              simp [hav, hlast']

/-- What replacing an entry comes to: the staged file does not show. -/
theorem replaceContents_eq (t : FileTree) (p : Path) (contents : ByteArray) :
    t.replaceContents p contents =
      match t.resolveDirectory (stagingPath p), t.entryLocation p with
      | .error f, _ => (t, .error f)
      | .ok _, .error f => (t, .error f)
      | .ok _, .ok l =>
        if t.isDirectoryAt l then (t, .error .isADirectory)
        else (t.put l (.file contents ((t.mode? p).getD privateMode)), .ok ()) := by
  have hn := unusedName_not_mem (p.segments ++ t.knownNames)
  rw [List.mem_append, not_or] at hn
  unfold replaceContents
  cases t.resolveDirectory (stagingPath p) with
  | error f => rfl
  | ok d =>
    simp only [moveOver, entryLocation_put hn.2 hn.1]
    cases hl : t.entryLocation p with
    | error f => simp [bind, Except.bind, remove_put hn.2]
    | ok l =>
      have hav := not_mem_of_entryLocation hn.2 hn.1 hl
      simp only [bind, Except.bind, isDirectoryAt_put_of_not_mem hav]
      by_cases hd : t.isDirectoryAt l = true
      · simp [hd, remove_put hn.2, throw, throwThe, MonadExceptOf.throw]
      · simp [hd, get?_put_self, remove_put hn.2, pure, Except.pure]

theorem replaceFile_eq (t : FileTree) (p : Path) (text : String) :
    t.replaceFile p text =
      match t.resolveDirectory (stagingPath p), t.entryLocation p with
      | .error f, _ => (t, .error f)
      | .ok _, .error f => (t, .error f)
      | .ok _, .ok l =>
        if t.isDirectoryAt l then (t, .error .isADirectory)
        else (t.put l (t.replacement p text), .ok ()) :=
  t.replaceContents_eq p text.toUTF8

end Emend.FileTree
