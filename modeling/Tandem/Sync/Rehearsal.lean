import Tandem.Sync.Broker

/-! # Rehearsals

A connector that follows a script instead of looking for sessions, and keeps a record of what it was
asked for. -/

namespace Tandem

/-- What a connector was asked for, and whether it succeeded. -/
inductive SyncEvent where
  | connect (key : String) (succeeded : Bool)
  | jumpto (key : String) (address : Address) (succeeded : Bool)
  deriving DecidableEq, Repr

/-- A script and the record kept so far. -/
structure Rehearsal where
  /-- The keys that cannot be connected to. -/
  unreachable : List String := []
  /-- How many calls to come will fail. -/
  failing : Nat := 0
  /-- How often each key was connected to, successfully or not. -/
  attempts : Std.ExtTreeMap String Nat := ∅
  /-- What happened since it was last asked for. -/
  events : List SyncEvent := []

namespace Rehearsal

/-- Connects as the script says. A link is the key that it leads to. -/
def connect (key : String) : StateM Rehearsal (Except SyncError String) := fun r =>
  let reached := !r.unreachable.contains key
  let r := { r with
    attempts := r.attempts.insert key (r.attempts.getD key 0 + 1)
    events := r.events ++ [.connect key reached] }
  (if reached then .ok key else .error (.connectionFailure key), r)

/-- Calls as the script says. -/
def jumpto (key : String) (address : Address) : StateM Rehearsal (Except SyncError Unit) := fun r =>
  let delivered := r.failing = 0
  let r := { r with failing := r.failing - 1, events := r.events ++ [.jumpto key address delivered] }
  (if delivered then .ok () else .error (.remoteCallFailure "scripted"), r)

/-- The connector that follows the script. -/
def connector : Connector Rehearsal String := ⟨connect, jumpto⟩

/-- What happened since this was last asked. -/
def report (r : Rehearsal) : List SyncEvent × Rehearsal := (r.events, { r with events := [] })

end Rehearsal

end Tandem
