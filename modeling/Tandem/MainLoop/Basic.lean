/-! # The main loop

A host is driven by one loop. Everybody else sends it requests, and the loop runs the jobs among
them: urgent ones first, and equally urgent ones in the order in which they were sent.

* `Pending` holds the jobs that the loop has taken in and not yet run.
* `MainLoop.turn` is one turn of the loop: it takes in every request that was sent so far, and then
  runs one job. It waits only when nothing is pending, and after a shutdown it ends instead.
* `MainLoop.run` repeats turns, while the jobs themselves send further requests. -/

namespace Tandem

/-- How urgent a job is, from the most to the least urgent. -/
inductive Urgency where
  | ui
  | write
  | read
  deriving DecidableEq, Repr

/-- What the loop can be sent. -/
inductive HostRequest (α : Type) where
  | run (urgency : Urgency) (job : α)
  | shutdown

/-- The jobs that wait to be run, by urgency, each in the order of arrival. -/
structure Pending (α : Type) where
  ui : List α := []
  write : List α := []
  read : List α := []

namespace Pending

variable {α : Type}

/-- Adds a job behind those that are as urgent. -/
def push (p : Pending α) (urgency : Urgency) (job : α) : Pending α :=
  match urgency with
  | .ui => { p with ui := p.ui ++ [job] }
  | .write => { p with write := p.write ++ [job] }
  | .read => { p with read := p.read ++ [job] }

/-- Takes the job that runs next. -/
def pop? : Pending α → Option (α × Pending α)
  | ⟨job :: ui, write, read⟩ => some (job, ⟨ui, write, read⟩)
  | ⟨[], job :: write, read⟩ => some (job, ⟨[], write, read⟩)
  | ⟨[], [], job :: read⟩ => some (job, ⟨[], [], read⟩)
  | ⟨[], [], []⟩ => none

/-- Whether no job waits. -/
def isEmpty (p : Pending α) : Bool := p.ui.isEmpty && p.write.isEmpty && p.read.isEmpty

/-- The jobs in the order in which they run. -/
def toList (p : Pending α) : List α := p.ui ++ p.write ++ p.read

end Pending

/-- A loop: what it was sent and has not looked at, what waits to be run, and whether it was told
to stop. -/
structure MainLoop (α : Type) where
  inbox : List (HostRequest α) := []
  pending : Pending α := {}
  stopping : Bool := false

namespace MainLoop

variable {α σ : Type}

/-- The loop after somebody sent it requests. -/
def send (loop : MainLoop α) (requests : List (HostRequest α)) : MainLoop α :=
  { loop with inbox := loop.inbox ++ requests }

/-- The loop after it took in one request. -/
def accept (loop : MainLoop α) : HostRequest α → MainLoop α
  | .run urgency job => { loop with pending := loop.pending.push urgency job }
  | .shutdown => { loop with stopping := true }

/-- The loop after it took in every request that it was sent. -/
def drain (loop : MainLoop α) : MainLoop α :=
  loop.inbox.foldl accept { loop with inbox := [] }

/-- What a turn comes to. -/
inductive Turn (α : Type) where
  /-- The loop ends. -/
  | stop
  /-- The loop waits for requests. -/
  | wait
  /-- The loop goes on, and has a job to run unless it took in nothing but shutdowns. -/
  | next (job : Option α) (loop : MainLoop α)

/-- One turn of the loop. Once told to stop, it ends as soon as nothing is pending, whatever it was
sent in the meantime. -/
def turn (loop : MainLoop α) : Turn α :=
  if loop.pending.isEmpty && loop.stopping then .stop
  else if loop.pending.isEmpty && loop.inbox.isEmpty then .wait
  else
    let loop := loop.drain
    match loop.pending.pop? with
    | some (job, pending) => .next (some job) { loop with pending := pending }
    | none => .next none loop

/-- Turns until the loop waits or ends, at most `turns` of them. A job changes the state and sends
the loop further requests. The answer tells whether the loop has ended. -/
def run (perform : α → σ → List (HostRequest α) × σ) :
    Nat → MainLoop α → σ → Bool × MainLoop α × σ
  | 0, loop, s => (false, loop, s)
  | turns + 1, loop, s =>
    match loop.turn with
    | .stop => (true, loop, s)
    | .wait => (false, loop, s)
    | .next none loop => run perform turns loop s
    | .next (some job) loop =>
      let (requests, s) := perform job s
      run perform turns (loop.send requests) s

end MainLoop

end Tandem
