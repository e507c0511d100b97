import Tandem.Network.Client
import Tandem.Session.Directory

/-! # Discovery

Sessions find each other by their descriptors. A descriptor may be out of date, so it only counts
once the session behind its port says that it has the hash in question.

* `Client.find` opens a client to the session with a hash.
* `Network.deliverSome` lets the worker of a session carry waiting commands to other sessions, and
  `Network.deliver` all of them. -/

namespace Tandem

/-- Opens a client to the session with a hash, by its descriptor in a directory. -/
def Client.find (directory hash : String) : StateM Network (Except SyncError Client) := do
  match Descriptor.find (← get).files directory hash with
  | .error error => return .error (.connectionFailure error.message)
  | .ok descriptor =>
    let client ← Network.client descriptor.port
    match ← client.getHash with
    | .error error => return .error (.connectionFailure (client.url ++ ": " ++ error.reason))
    | .ok reported =>
      if ContentHash.agree reported hash then return .ok client
      else return .error (.connectionFailure
        (client.url ++ " serves session " ++ reported ++ ", expected " ++ hash))

namespace Network

/-- Finds sessions by their descriptors in a directory, and calls them over the network. -/
def connector (directory : String) : Connector Network Client := ⟨Client.find directory, Client.jumpto⟩

/-- Takes commands that wait for the worker of a station, up to a given number of them. -/
def takeCommands (count : Nat) (station : Station) : List SyncCommand × Station :=
  let w := station.session.workspace
  let (commands, outbox) := w.outbox.take count
  (commands, { station with session := { station.session with workspace := { w with outbox } } })

/-- Lets the worker of the session behind a port deliver waiting commands, up to a given number of
them. -/
def deliverSome (n : Network) (port : UInt16) (count : Nat) : Network :=
  match n.station? port with
  | none => n
  | some station =>
    let (commands, station) := takeCommands count station
    let n := { n with peers := n.peers.insert port (.station station) }
    let (broker, n, record) :=
      station.broker.serve (connector station.directory).recorded commands (n, [])
    match n.station? port with
    | none => n
    | some station => { n with peers := n.peers.insert port (.station
        { station with broker := broker, deliveries := station.deliveries ++ record }) }

/-- How many commands wait for the worker of the session behind a port. -/
def backlog (n : Network) (port : UInt16) : Nat :=
  match n.station? port with
  | none => 0
  | some station => station.session.workspace.outbox.waiting.length

/-- Lets the worker of the session behind a port deliver every waiting command. -/
def deliver (n : Network) (port : UInt16) : Network := n.deliverSome port (n.backlog port)

/-- What the worker of the session behind a port has done since this was last asked. -/
def delivered (n : Network) (port : UInt16) : List Delivery × Network :=
  match n.station? port with
  | none => ([], n)
  | some station => (station.deliveries,
      { n with peers := n.peers.insert port (.station { station with deliveries := [] }) })

end Network

end Tandem
