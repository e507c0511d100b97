import Tandem.Sync.Command

/-! # The outbox

Commands for other sessions wait here, in order, until the worker takes them. -/

namespace Tandem

/-- The commands that wait for the worker, and whether there is still a worker to take them. -/
structure Outbox where
  waiting : List SyncCommand := []
  isOpen : Bool := true
  deriving DecidableEq, Repr

namespace Outbox

/-- Adds a command behind the others, unless the worker is gone. -/
def enqueue (outbox : Outbox) (command : SyncCommand) : Bool × Outbox :=
  if outbox.isOpen then (true, { outbox with waiting := outbox.waiting ++ [command] })
  else (false, outbox)

/-- Takes waiting commands from the front, up to a given number of them. -/
def take (count : Nat) (outbox : Outbox) : List SyncCommand × Outbox :=
  (outbox.waiting.take count, { outbox with waiting := outbox.waiting.drop count })

/-- Takes every waiting command. -/
def drain (outbox : Outbox) : List SyncCommand × Outbox :=
  (outbox.waiting, { outbox with waiting := [] })

/-- The worker goes away, and what still waits is lost. -/
def close (_ : Outbox) : Outbox := ⟨[], false⟩

end Outbox

end Tandem
