import Emend.Document
import Emend.Log
import Emend.Session
import Emend.Workspace

/-!
# Running sessions

A session takes a set of rules to one document: it finds the document, reads it,
lets the rules pass over its text, and writes it back if the text changed and
writing is allowed.

* `Editor.run` and `Editor.check` are the two ways to start one; a check never
  writes.
* A run gives back the file tree. If a session fails, or does not write, it is the
  tree that the session was given.
-/

namespace Emend

/-- Who edits: confined to a workspace or not, writing or not. -/
structure Editor where
  workspace : Option Workspace := none
  dryRun : Bool := false
  deriving DecidableEq, Repr

/-- The causes for which a session fails. -/
inductive SessionError
  | workspace (e : WorkspaceError)
  | io (path : Path) (fault : Fault)
  /-- A required rule found nothing; the reports end with that rule. -/
  | drifted (document : Path) (rule : String) (reports : List Report)
  deriving DecidableEq, Repr

/-- The message of an error. -/
def SessionError.message : SessionError → String
  | workspace e => e.message
  | io path fault => "I/O error on " ++ path.text ++ ": " ++ fault.message
  | drifted document rule _ =>
    "required rule '" ++ rule ++ "' did not match " ++ document.text ++
      "; document has drifted from its expected shape"

/-- What a session leaves behind. -/
structure Run where
  tree : FileTree
  log : List LogEntry
  result : Except SessionError Session

namespace Editor

/-- The path at which a document is read and written. -/
def documentPath (e : Editor) (t : FileTree) (identity : Path) : Except SessionError Path :=
  match e.workspace with
  | some w => ((w.resolve t identity).map Path.ofLocation).mapError .workspace
  | none => .ok identity

/-- Find and read a document. -/
def openDocument (e : Editor) (t : FileTree) (identity : Path) :
    Except SessionError Document := do
  let path ← e.documentPath t identity
  (Document.load t path).mapError (.io path)

/-- Judge a document's path once more, since the tree may have changed. -/
def judgeAgain (e : Editor) (t : FileTree) (path : Path) : Except SessionError Unit :=
  match e.workspace with
  | some w => ((w.revalidate t path).map fun _ => ()).mapError .workspace
  | none => .ok ()

/-- Write a document back, and give the tree after it. -/
def writeBack (e : Editor) (t : FileTree) (d : Document) :
    FileTree × Except SessionError Bool :=
  match e.judgeAgain t d.path with
  | .error err => (t, .error err)
  | .ok () =>
    let (t, written) := d.persist t
    (t, written.mapError (.io d.path))

/-- The tree after a session, and whether the document was written. -/
def finish (e : Editor) (write : Bool) (t : FileTree) (d : Document) :
    FileTree × Except SessionError Bool :=
  if d.isModified && write then e.writeBack t d else (t, .ok false)

/-! ## What a session logs -/

/-- A document has been read. -/
def loadedEntry (d : Document) : LogEntry :=
  ⟨.debug, "loaded " ++ d.path.text ++ " (" ++ toString d.initial.utf8ByteSize ++ " bytes)"⟩

/-- A rule has run. -/
def ruleEntry (r : Report) : LogEntry :=
  ⟨.debug, "rule '" ++ r.rule ++ "': " ++ r.outcome.describe⟩

/-- A required rule has ended the session. -/
def absentEntry (d : Document) (rule : String) : LogEntry :=
  ⟨.warn, "required rule '" ++ rule ++ "' absent in " ++ d.path.text ++
    "; aborting without writing"⟩

/-- The session is over. -/
def endEntries (s : Session) : List LogEntry :=
  if s.persisted then
    [⟨.info, "patched " ++ s.document.text ++ " (" ++ toString s.applied ++ " applied, " ++
      toString s.skipped ++ " skipped)"⟩]
  else if !s.changed then [⟨.debug, s.document.text ++ " unchanged; skipping write"⟩]
  else []

/-! ## Sessions -/

/-- Take rules to a document that has been read. -/
def edit (e : Editor) (write : Bool) (t : FileTree) (d : Document) (rules : RuleSet) : Run :=
  let pass := rules.pass d.content
  let log := loadedEntry d :: pass.reports.map ruleEntry
  match pass.abortedBy with
  | some rule =>
    ⟨t, log ++ [absentEntry d rule], .error (.drifted d.path rule pass.reports)⟩
  | none =>
    -- nothing has touched the tree up to here
    let (t, written) := e.finish write t { d with content := pass.content }
    match written with
    | .error err => ⟨t, log, .error err⟩
    | .ok persisted =>
      let s := Session.ofTexts d.path pass.reports persisted d.initial pass.content
      ⟨t, log ++ endEntries s, .ok s⟩

/-- Take rules to a document. -/
def session (e : Editor) (write : Bool) (t : FileTree) (identity : Path) (rules : RuleSet) :
    Run :=
  match e.openDocument t identity with
  | .error err => ⟨t, [], .error err⟩
  | .ok d => e.edit write t d rules

/-- Take rules to a document, and write it unless the editor is on a dry run. -/
def run (e : Editor) (t : FileTree) (identity : Path) (rules : RuleSet) : Run :=
  e.session (!e.dryRun) t identity rules

/-- See what rules would do to a document. -/
def check (e : Editor) (t : FileTree) (identity : Path) (rules : RuleSet) : Run :=
  e.session false t identity rules

end Editor

end Emend
