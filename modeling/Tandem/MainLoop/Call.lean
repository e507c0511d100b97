import Tandem.Host.Basic

/-! # Calls to the main loop

How a call that goes through the main loop ends. A panic ends the job that caused it and nothing
else: its caller learns of it as an error. -/

namespace Tandem

/-- Why a call through the main loop did not succeed. -/
inductive CallError where
  | host (error : HostError)
  | panicked (text : String)
  /-- The loop has ended, and the job was not run. -/
  | loopClosed
  /-- The loop has not started, and the job was not run. -/
  | noHost
  deriving DecidableEq, Repr

namespace CallError

/-- The text of a call error. -/
def message : CallError → String
  | .host error => error.message
  | .panicked text => "Main-thread job panicked: " ++ text
  | .loopClosed => "Main-thread loop is closed"
  | .noHost => "No analysis host is installed on the main thread"

/-- The text of a panic that has none. -/
def unknownPanic : String := "unknown panic payload"

/-- What the caller learns of a job that stopped early. -/
def ofStop : Stop → CallError
  | .error error => .host error
  | .panic text => .panicked (text.getD unknownPanic)

end CallError

/-- Runs a job to its end, whatever it does. -/
def Action.contained {α : Type} (job : Action α) (w : Workspace) : Except CallError α × Workspace :=
  match job w with
  | .ok a w => (.ok a, w)
  | .error stop w => (.error (.ofStop stop), w)

/-- Calls a job through the loop: it runs while the loop is open. -/
def Action.through {α : Type} (isOpen : Bool) (job : Action α) (w : Workspace) :
    Except CallError α × Workspace :=
  if isOpen then job.contained w else (.error .loopClosed, w)

end Tandem
