import Tandem.MainLoop.Basic
import Tandem.MainLoop.Call

/-! # Rehearsed jobs

Jobs that follow a script, and a run of the main loop over them from its start to its end. A job
records that it runs, sends further jobs to the loop without waiting for them, and then acts. -/

namespace Tandem.Rehearsed

mutual

/-- A scripted job. -/
inductive Job where
  | mk (label : String) (urgency : Urgency) (sends : List Entry) (act : Act)

/-- What a script sends to the loop. -/
inductive Entry where
  | job (job : Job)
  | shutdown

/-- What a job does. -/
inductive Act where
  /-- Asks where the image is loaded. -/
  | base
  /-- Jumps, and asks for the current address. -/
  | jump (address : Address)
  | color (address : Address) (color : Color)
  | current
  | fail (reason : String)
  | panic (text : Option String)
  /-- Calls a job from within the loop, where it runs at once. -/
  | nested (job : Job)

end

/-- How a job ended. -/
inductive Answer where
  | value (address : Option Address)
  | failed (error : CallError)
  | nested (inner : Answer)
  deriving Repr

namespace Job

/-- The name of a job. -/
def label : Job → String
  | .mk label _ _ _ => label

/-- The urgency of a job. -/
def urgency : Job → Urgency
  | .mk _ urgency _ _ => urgency

end Job

mutual

/-- How many requests a job amounts to, with all that it sends. -/
def Job.size : Job → Nat
  | .mk _ _ sends act => 1 + Entry.sizes sends + act.size

/-- How many requests an entry amounts to. -/
def Entry.size : Entry → Nat
  | .job job => job.size
  | .shutdown => 1

/-- How many requests entries amount to. -/
def Entry.sizes : List Entry → Nat
  | [] => 0
  | entry :: rest => entry.size + Entry.sizes rest

/-- How many requests an act amounts to. -/
def Act.size : Act → Nat
  | .nested job => job.size
  | _ => 0

end

/-- A job with the number under which its caller waits for it. -/
structure Ticketed where
  ticket : Nat
  job : Job

/-- What the jobs have done so far. -/
structure Stage where
  workspace : Workspace
  /-- The labels of the jobs that ran, in order. -/
  order : List String := []
  /-- The next ticket. -/
  next : Nat := 0
  /-- The label and the ticket of every job sent without waiting for it, in order. -/
  sent : List (String × Nat) := []
  /-- How jobs ended, by ticket. -/
  answers : List (Nat × Answer) := []

namespace Stage

/-- Gives out tickets for entries, and makes requests of them. -/
def requests (stage : Stage) : List Entry → List (HostRequest Ticketed) × Stage
  | [] => ([], stage)
  | .shutdown :: rest =>
    let (others, stage) := stage.requests rest
    (.shutdown :: others, stage)
  | .job job :: rest =>
    let request := .run job.urgency ⟨stage.next, job⟩
    let sent := stage.sent ++ [(job.label, stage.next)]
    let (others, stage) := { stage with next := stage.next + 1, sent := sent }.requests rest
    (request :: others, stage)

/-- Runs an action on the host and keeps its answer. -/
def acted (stage : Stage) (action : Action (Option Address)) : Answer × Stage :=
  match action.contained stage.workspace with
  | (.ok a, w) => (.value a, { stage with workspace := w })
  | (.error e, w) => (.failed e, { stage with workspace := w })

end Stage

mutual

/-- Runs a job: what it sent to the loop, and how it ended. -/
def Job.perform : Job → Stage → List (HostRequest Ticketed) × Answer × Stage
  | .mk label _ sends act, stage =>
    let (requests, stage) := { stage with order := stage.order ++ [label] }.requests sends
    let (more, answer, stage) := act.perform stage
    (requests ++ more, answer, stage)

/-- Does what a job is to do. -/
def Act.perform : Act → Stage → List (HostRequest Ticketed) × Answer × Stage
  | .base, stage => ([], stage.acted (some <$> Action.imageBase))
  | .jump a, stage => ([], stage.acted do
      Action.jumpTo a
      some <$> Action.current)
  | .color a color, stage => ([], stage.acted do
      Action.setItemColor a color
      return none)
  | .current, stage => ([], stage.acted (some <$> Action.current))
  | .fail reason, stage => ([], stage.acted (Action.refuse (.failed reason)))
  | .panic text, stage => ([], stage.acted (throw (.panic text)))
  | .nested job, stage =>
    let (requests, inner, stage) := job.perform stage
    (requests, .nested inner, stage)

end

/-- Runs a job that came through the loop, and keeps its answer under its ticket. -/
def Ticketed.perform (t : Ticketed) (stage : Stage) : List (HostRequest Ticketed) × Stage :=
  let (requests, answer, stage) := t.job.perform stage
  (requests, { stage with answers := stage.answers ++ [(t.ticket, answer)] })

/-- A loop that runs, or has ended. -/
structure Running where
  loop : MainLoop Ticketed := {}
  stage : Stage
  ended : Bool := false

namespace Running

/-- Lets the loop work until it waits or ends. -/
def settle (r : Running) (turns : Nat) : Running :=
  if r.ended then r
  else
    let (ended, loop, stage) := r.loop.run Ticketed.perform turns r.stage
    ⟨loop, stage, ended⟩

/-- Sends entries to the loop, which does not look at them yet. -/
def send (r : Running) (entries : List Entry) : Running :=
  let (requests, stage) := r.stage.requests entries
  { r with loop := r.loop.send requests, stage := stage }

/-- How the job with a ticket ended. One that was never run finds the loop closed. -/
def answer (r : Running) (ticket : Nat) : Answer :=
  (r.stage.answers.lookup ticket).getD (.failed .loopClosed)

/-- Calls a job and waits for its answer. -/
def call (r : Running) (job : Job) : Answer × Running :=
  if r.ended then (.failed .loopClosed, r)
  else
    let ticket := r.stage.next
    let stage := { r.stage with next := ticket + 1 }
    let r := { r with loop := r.loop.send [.run job.urgency ⟨ticket, job⟩], stage := stage }
    let r := r.settle (job.size + 1)
    (r.answer ticket, r)

/-- Calls jobs one after the other. -/
def calls (r : Running) : List Job → List Answer × Running
  | [] => ([], r)
  | job :: rest =>
    let (answer, r) := r.call job
    let (answers, r) := r.calls rest
    (answer :: answers, r)

end Running

/-- Whether a script sends a shutdown. -/
def sendsShutdown (entries : List Entry) : Bool :=
  entries.any fun
    | .shutdown => true
    | .job _ => false

/-- A script for the life of a loop. -/
structure Script where
  /-- Jobs called on the loop's own thread before it starts. -/
  early : List Job := []
  /-- What is sent before the loop starts. -/
  jobs : List Entry := []
  /-- Jobs called one after the other while it runs. -/
  calls : List Job := []
  /-- Whether the loop ends because nobody can send to it any more, rather than by a shutdown. -/
  abandoned : Bool := false
  /-- What is tried after its end. -/
  late : List Entry := []

/-- What came of a script. -/
structure Report where
  early : List Answer
  order : List String
  /-- How the jobs ended that were sent without waiting for them, before the calls. -/
  results : List (String × Answer)
  calls : List Answer
  late : List Answer
  workspace : Workspace

/-- Follows a script. -/
def Script.run (script : Script) (w : Workspace) : Report :=
  let r := (Running.mk {} { workspace := w } false).send script.jobs
  let r := r.settle (Entry.sizes script.jobs + 1)
  let sent := r.stage.sent
  let (answers, r) := r.calls script.calls
  { early := script.early.map fun _ => .failed .noHost
    order := r.stage.order
    results := sent.map fun (label, ticket) => (label, r.answer ticket)
    calls := answers
    late :=
      if script.abandoned && !sendsShutdown script.jobs then []
      else script.late.map fun _ => .failed .loopClosed
    workspace := r.stage.workspace }

end Tandem.Rehearsed
