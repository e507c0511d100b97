import Tandem.Rpc.Call
import Tandem.Session.Identity
import Tandem.Task
import Tandem.View.Basic

/-! # The session

A session serves calls over its host. Exports and diff views are detached: such a call starts a
task and is answered at once, and the body of the task is run later.

* `Session.answer` answers a call.
* `Session.handle` answers the bytes of a request.
* `Session.conclude` runs the body of a detached task, and `Session.settle` runs all of them. -/

namespace Tandem

/-- The body of a task that is still to be run. -/
inductive Detached where
  | exporting (task path : String)
  | showingDiff (task path : String)
  deriving DecidableEq, Repr

/-- A session with all that its calls can see and change. -/
structure Session where
  workspace : Workspace
  identity : SessionIdentity
  /-- What the session answers when it is asked for its process. -/
  process : Json := .null
  /-- The home directory, for paths that start there. -/
  home : Option String := none
  /-- Whether the main loop still runs. -/
  isOpen : Bool := true
  tasks : Tasks := {}
  /-- The number of the next task. -/
  nextTask : Nat := 1
  detached : List Detached := []
  views : Views := {}

namespace Session

open Rpc (Call)

/-- Calls a job through the main loop. -/
def call {α : Type} (s : Session) (job : Action α) : Except CallError α × Session :=
  let (result, w) := job.through s.isOpen s.workspace
  (result, { s with workspace := w })

/-- Calls a job through the main loop, and encodes its result as an answer. -/
def answerBy {α : Type} (s : Session) (job : Action α) (encode : α → Json) :
    Except Rpc.Error Json × Session :=
  match s.call job with
  | (.ok a, s) => (.ok (encode a), s)
  | (.error error, s) => (.error (.host error), s)

/-! ## Detached tasks -/

/-- Starts a task, and leaves its body for later. -/
def detach (s : Session) (now : Nat) (kind : TaskKind) (message : String)
    (body : String → Detached) : Session :=
  let (id, tasks) := s.tasks.create s.nextTask now kind message
  { s with tasks := tasks, nextTask := s.nextTask + 1, detached := s.detached ++ [body id] }

/-- Starts an export. -/
def startExport (s : Session) (now : Nat) (filename : String) : Session :=
  let path := Path.expandHome s.home filename
  s.detach now .exporting ("Exporting to " ++ path) (.exporting · path)

/-- Starts to open a diff view. -/
def startDiff (s : Session) (now : Nat) (filename : String) : Session :=
  let path := Path.expandHome s.home filename
  s.detach now .showingDiff ("Loading " ++ path) (.showingDiff · path)

/-- Why a diff view was not opened. -/
inductive DiffError where
  | unreadable (path : String) (error : FileError)
  | document (error : DocumentError)
  | host (error : CallError)
  deriving DecidableEq, Repr

/-- The text of a diff error. -/
def DiffError.message : DiffError → String
  | .unreadable path error => "Failed to read " ++ path ++ ": " ++ error.message
  | .document error => error.message
  | .host error => error.message

/-- The side of a document that the session is on, and the key of the session on the other side. A
session that the document does not name takes the source side. -/
def standpoint (hash : String) (document : MatchDocument) : Role × Option String :=
  let role := (document.roleOf? hash).getD .source
  (role, (document.hash.on role.peer).map ContentHash.key)

/-- Builds the view of a document, colors the image and shows the rows. -/
def openView (document : MatchDocument) (role : Role) (peer : Option String) : Action MatchView := do
  let view ← MatchView.build document role peer
  discard view.applyColors
  view.present
  return view

/-- The document in a file, as a detached task reads it. -/
def loadDiff (s : Session) (path : String) : Except DiffError MatchDocument :=
  match s.workspace.files.read path with
  | .error error => .error (.unreadable path error)
  | .ok bytes =>
    match MatchDocument.ofBytes bytes with
    | .error error => .error (.document error)
    | .ok document => .ok document

/-- Opens a diff view, and tells its id, its side and how many rows it has. -/
def openDiff (s : Session) (path : String) : Except DiffError Json × Session :=
  match s.loadDiff path with
  | .error error => (.error error, s)
  | .ok document =>
    let (role, peer) := standpoint s.identity.hash document
    match s.call (openView document role peer) with
    | (.error error, s) => (.error (.host error), s)
    | (.ok view, s) =>
      let (id, views) := s.views.insert view
      (.ok (.object [("view", .nat id), ("role", .string role.text),
        ("rows", .nat view.rows.length)]), { s with views := views })

/-- Runs the body of a task, and ends the task accordingly. -/
def conclude (s : Session) : Detached → Session
  | .exporting id path =>
    match s.call (Action.exportAnalysis path) with
    | (.ok (), s) => { s with tasks := s.tasks.complete id (.object [("path", .string path)]) }
    | (.error error, s) => { s with tasks := s.tasks.fail id error.message }
  | .showingDiff id path =>
    match s.openDiff path with
    | (.ok result, s) => { s with tasks := s.tasks.complete id result }
    | (.error error, s) => { s with tasks := s.tasks.fail id error.message }

/-- Runs the body of every task that is still to be run, in order. -/
def settle (s : Session) : Session :=
  s.detached.foldl conclude { s with detached := [] }

/-! ## Batches -/

/-- The job of a command of a batch. -/
def batchJob : Rpc.BatchCommand → Action Unit
  | .jumpto address => discard (Action.jumpToOffset address)
  | .colorLines start stop color => discard (Action.colorRange start stop color)
  | .colorNode addresses background frame => discard (Action.colorNodes addresses ⟨background, frame⟩)

/-- Runs one entry of a batch. An entry that is no command, or fails, is passed over. -/
def runEntry (s : Session) (entry : Json) : Session :=
  match Rpc.BatchCommand.decode.ofValue entry with
  | .ok command => (s.call (batchJob command)).2
  | .error _ => s

/-- Runs the entries of a batch in order. -/
def runBatch (s : Session) (entries : List Json) : Session := entries.foldl runEntry s

/-! ## Answers -/

/-- All tasks, and how many of them run. -/
def tasksToJson (tasks : Tasks) : Json :=
  .object [("tasks", .array (tasks.list.map Task.toJson)), ("running", .nat tasks.running)]

/-- The status of a task, or of all of them. -/
def taskStatus (s : Session) : Option String → Except Rpc.Error Json
  | none => .ok (tasksToJson s.tasks)
  | some id =>
    match s.tasks.get? id with
    | some task => .ok task.toJson
    | none => .error (.invalidParams (.unknownTask id))

/-- The view with an id, or the one opened last. -/
def resolveView (s : Session) : Option Nat → Except Rpc.Error (Nat × MatchView)
  | some id =>
    match s.views.get? id with
    | some view => .ok (id, view)
    | none => .error (.invalidParams (.noView id))
  | none =>
    match s.views.latest? with
    | some found => .ok found
    | none => .error (.invalidParams .noOpenView)

def viewToJson (id : Nat) (view : MatchView) : Json :=
  .object [("view", .nat id), ("title", .string Row.title),
    ("headers", .array (Row.headers.map .string)), ("role", .string view.role.text),
    ("peer", Json.orNull .string view.peer), ("rows", .array (view.rows.map Row.toJsonWithCells))]

/-- The rows of a view, sorted first if need be. The view stays sorted. -/
def viewRows (s : Session) (p : Rpc.ViewRowsParams) : Except Rpc.Error Json × Session :=
  match s.resolveView p.view with
  | .error error => (.error error, s)
  | .ok (id, view) =>
    match p.sort with
    | none => (.ok (viewToJson id view), s)
    | some column =>
      let (_, views) := s.views.sort id column p.descending
      (.ok (viewToJson id (view.sort column p.descending)), { s with views := views })

/-- Activates a row of a view. -/
def activateRow (s : Session) (p : Rpc.ActivateRowParams) : Except Rpc.Error Json × Session :=
  match s.resolveView p.view with
  | .error error => (.error error, s)
  | .ok (_, view) =>
    s.answerBy (view.activate p.row) fun command =>
      .object [("synced", Json.orNull SyncCommand.toJson command)]

/-- Answers a call. `now` is what the clock reads. -/
def answer (s : Session) (now : Nat) : Call → Except Rpc.Error Json × Session
  | .getPid => (.ok s.process, s)
  | .jumpto p => s.answerBy (Action.jumpToOffset p.address) fun _ => .null
  | .setItemColor p => s.answerBy (Action.setItemColor p.address p.color) fun _ => .null
  | .getHash => s.answerBy Action.identity fun identity => .string identity.hash
  | .getRootFilename => s.answerBy Action.rootFilename .string
  | .exportTo p => (.ok .null, s.startExport now p.filename)
  | .showDiff p => (.ok .null, s.startDiff now p.filename)
  | .runCommands p => (.ok .null, s.runBatch p.commands)
  | .taskStatus p => (s.taskStatus p.id, s)
  | .viewRows p => s.viewRows p
  | .activateRow p => s.activateRow p

/-- Answers the bytes of a request. -/
def handle (s : Session) (now : Nat) (body : ByteArray) : Rpc.Response × Session :=
  match Call.ofBody body with
  | (id, .error error) => (.ofError id error, s)
  | (id, .ok call) =>
    match s.answer now call with
    | (.ok result, s) => (.success id result, s)
    | (.error error, s) => (.ofError id error, s)

/-- The session after its main loop has ended. -/
def close (s : Session) : Session := { s with isOpen := false }

end Session

end Tandem
