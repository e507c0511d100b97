import Std.Data.ExtTreeMap
import Tandem.Json.Basic
import Tandem.Text.Timestamp

/-! # Tasks

Work that goes on after its request was answered. A task runs until it completes with a result or
fails with a message, and can be asked about at any time. -/

namespace Tandem

/-- What a task does. -/
inductive TaskKind where
  | exporting
  | showingDiff
  deriving DecidableEq, Repr

/-- The name of a kind of task. -/
def TaskKind.text : TaskKind → String
  | .exporting => "export"
  | .showingDiff => "show_diff"

/-- How far a task has come. -/
inductive TaskStatus where
  | running
  | completed
  | failed
  deriving DecidableEq, Repr

/-- The name of a status. -/
def TaskStatus.text : TaskStatus → String
  | .running => "running"
  | .completed => "completed"
  | .failed => "failed"

/-- A task. -/
structure Task where
  id : String
  kind : TaskKind
  status : TaskStatus
  message : String
  /-- What the task has come to. -/
  result : Option Json
  /-- What the clock read when the task was created, in nanoseconds since the start of 1970. -/
  createdAt : Nat

namespace Task

/-- Whether the task still runs. -/
def isRunning (task : Task) : Bool := task.status = .running

def toJson (task : Task) : Json :=
  .object ([("id", .string task.id), ("kind", .string task.kind.text),
    ("status", .string task.status.text), ("message", .string task.message)] ++
    Json.present "result" (fun result => result) task.result ++
    [("created_at", .string (Text.timestamp task.createdAt))])

end Task

/-- The tasks of a session, by their ids. -/
structure Tasks where
  byId : Std.ExtTreeMap String Task := ∅

namespace Tasks

/-- The id of the task with a given number. -/
def idOf (kind : TaskKind) (number : Nat) : String := kind.text ++ "-" ++ Text.decimal number

/-- Starts a task under a number that no other has, and tells its id. -/
def create (tasks : Tasks) (number now : Nat) (kind : TaskKind) (message : String) :
    String × Tasks :=
  let id := idOf kind number
  (id, ⟨tasks.byId.insert id ⟨id, kind, .running, message, none, now⟩⟩)

/-- The task with an id. -/
def get? (tasks : Tasks) (id : String) : Option Task := tasks.byId[id]?

/-- All tasks, the oldest first. Tasks of the same time go by their ids. -/
def list (tasks : Tasks) : List Task :=
  (tasks.byId.toList.map Prod.snd).mergeSort fun a b => a.createdAt ≤ b.createdAt

/-- Ends a task, over any earlier end. An unknown id changes nothing. -/
def finish (tasks : Tasks) (id : String) (status : TaskStatus) (message : String)
    (result : Option Json) : Tasks :=
  match tasks.get? id with
  | some task =>
    ⟨tasks.byId.insert id { task with status := status, message := message, result := result }⟩
  | none => tasks

/-- Completes a task with a result. -/
def complete (tasks : Tasks) (id : String) (result : Json) : Tasks :=
  tasks.finish id .completed "Completed" (some result)

/-- Fails a task with a message. -/
def fail (tasks : Tasks) (id message : String) : Tasks := tasks.finish id .failed message none

/-- Whether a task is there and still runs. -/
def isRunning (tasks : Tasks) (id : String) : Bool := (tasks.get? id).any (·.isRunning)

/-- Waits for a task while the tasks change, one change after the other. The answer is the task as
it is when it first does not run, whatever becomes of it later. -/
def waitThrough (tasks : Tasks) (id : String) : List (Tasks → Tasks) → Option Task × Tasks
  | [] => (tasks.get? id, tasks)
  | change :: rest =>
    let (answer, after) := (change tasks).waitThrough id rest
    (if tasks.isRunning id then answer else tasks.get? id, after)

/-- How many tasks still run. -/
def running (tasks : Tasks) : Nat := (tasks.list.filter (·.isRunning)).length

end Tasks

end Tandem
