import Std.Data.ExtTreeMap
import Tandem.ContentHash
import Tandem.Sync.Command

/-! # The broker and the worker

The broker keeps one link per peer session and asks a connector for a new one only when it has
none. The worker delivers commands one after the other over these links. A link over which a call
failed is dropped, so that the next command to that peer starts with a search for it. -/

namespace Tandem

/-- Why a peer session did not do what it was asked to. -/
inductive SyncError where
  | connectionFailure (reason : String)
  | remoteCallFailure (reason : String)
  deriving DecidableEq, Repr

/-- The reason that a sync error gives. -/
def SyncError.reason : SyncError → String
  | .connectionFailure reason => reason
  | .remoteCallFailure reason => reason

/-- The text of a sync error. -/
def SyncError.message : SyncError → String
  | .connectionFailure reason => "Connection to peer failed: " ++ reason
  | .remoteCallFailure reason => "Remote call failed: " ++ reason

/-- How peer sessions are found and called, in a world of states `σ`. -/
structure Connector (σ Link : Type) where
  /-- Finds the session filed under a key. -/
  connect : String → StateM σ (Except SyncError Link)
  /-- Asks the session at the other end of a link to navigate to an offset. -/
  jumpto : Link → Address → StateM σ (Except SyncError Unit)

/-- The links to peer sessions, filed under the keys of their hashes. -/
structure Broker (Link : Type) where
  links : Std.ExtTreeMap String Link

namespace Broker

variable {σ Link : Type}

/-- A broker without links. -/
def empty : Broker Link := ⟨∅⟩

/-- The link to a session: the one at hand, or a new one. -/
def connect (connector : Connector σ Link) (broker : Broker Link) (hash : String) :
    StateM σ (Option Link × Broker Link) := do
  let key := ContentHash.key hash
  match broker.links[key]? with
  | some link => return (some link, broker)
  | none =>
    match ← connector.connect key with
    | .ok link => return (some link, ⟨broker.links.insert key link⟩)
    | .error _ => return (none, broker)

/-- Drops the link to a session. -/
def evict (broker : Broker Link) (hash : String) : Broker Link :=
  ⟨broker.links.erase (ContentHash.key hash)⟩

/-- Whether there is a link to a session. -/
def isCached (broker : Broker Link) (hash : String) : Bool :=
  broker.links.contains (ContentHash.key hash)

/-- How many links there are. -/
def count (broker : Broker Link) : Nat := broker.links.size

/-- Calls a session over a link. -/
def call (connector : Connector σ Link) (link : Link) : SyncCommand → StateM σ (Except SyncError Unit)
  | .jumpto _ address => connector.jumpto link address

/-- Delivers one command. A command that cannot be delivered is lost. -/
def dispatch (connector : Connector σ Link) (broker : Broker Link) (command : SyncCommand) :
    StateM σ (Broker Link) := do
  match ← broker.connect connector command.target with
  | (none, broker) => return broker
  | (some link, broker) =>
    match ← call connector link command with
    | .ok () => return broker
    | .error _ => return broker.evict command.target

/-- Delivers commands in order. -/
def serve (connector : Connector σ Link) : Broker Link → List SyncCommand → StateM σ (Broker Link)
  | broker, [] => return broker
  | broker, command :: rest => do
    let broker ← broker.dispatch connector command
    serve connector broker rest

end Broker

/-! ## Workers -/

/-- What has become of a worker. -/
inductive WorkerPhase where
  | running
  /-- Its last producer is gone. -/
  | finished
  | aborted
  /-- Its broker was handed over. -/
  | joined
  deriving DecidableEq, Repr

/-- A worker with the number of producers that can give it commands. -/
structure Worker (Link : Type) where
  producers : Nat := 1
  broker : Broker Link := .empty
  phase : WorkerPhase := .running

namespace Worker

variable {σ Link : Type}

/-- Whether there is a producer with a given number. -/
def hasProducer (worker : Worker Link) (producer : Nat) : Bool := producer < worker.producers

/-- A producer hands over a command, which is delivered if the worker runs. There is no answer when
there is no such producer. -/
def enqueue (connector : Connector σ Link) (worker : Worker Link) (producer : Nat)
    (command : SyncCommand) : StateM σ (Option Bool × Worker Link) := do
  if !worker.hasProducer producer then return (none, worker)
  else if worker.phase = .running then
    let broker ← worker.broker.dispatch connector command
    return (some true, { worker with broker := broker })
  else return (some false, worker)

/-- One more producer, copied from another. -/
def clone (worker : Worker Link) : Worker Link :=
  if worker.producers = 0 then worker else { worker with producers := worker.producers + 1 }

/-- The end of a running worker when it has no producers. -/
def settle (worker : Worker Link) : Worker Link :=
  if worker.producers = 0 ∧ worker.phase = .running then { worker with phase := .finished }
  else worker

/-- One producer less. -/
def drop (worker : Worker Link) : Worker Link :=
  settle { worker with producers := worker.producers - 1 }

/-- Kills the worker together with its links. A broker that was handed over is out of reach. -/
def abort (worker : Worker Link) : Worker Link :=
  if worker.phase = .joined then worker else { worker with phase := .aborted }

/-- Drops every producer and waits for the broker, which an aborted worker does not hand over. Once
handed over, the broker is there for everyone who asks again. -/
def join (worker : Worker Link) : Option (Broker Link) × Worker Link :=
  let worker := settle { worker with producers := 0 }
  if worker.phase = .aborted then (none, worker)
  else (some worker.broker, { worker with phase := .joined })

end Worker

end Tandem
