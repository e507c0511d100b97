import Std.Data.ExtTreeMap
import Tandem.Http
import Tandem.Sync.Delivery
import Tandem.Text.IpAddress

/-! # A machine with several sessions

The peers on one machine, each behind a port. They share the files of the machine and the numbers of
tasks. A request to a port is answered, refused, or broken off without an answer.

* `Network.exchange` sends a request to a port.
* `Network.settle` lets the session behind a port finish what it detached. -/

namespace Tandem

/-- Who calls over a network: the number of a client, and the port that it calls. -/
structure Client where
  number : Nat
  port : UInt16
  deriving DecidableEq, Repr

/-- Where somebody listens. -/
structure Endpoint where
  host : IpAddress := .localhost
  port : UInt16
  deriving DecidableEq, Repr

/-- A session that serves, with the worker that carries its commands to others. -/
structure Station where
  session : Session
  /-- Where its worker looks for other sessions. -/
  directory : String
  broker : Broker (String × Client) := .empty
  /-- What its worker has done since this was last asked. -/
  deliveries : List Delivery := []

/-- What is behind a port that is taken. -/
inductive Peer where
  | station (station : Station)
  /-- A peer that answers as it was told to, whatever it is asked. A response that is missing breaks
  the exchange off, and so does the end of the script. -/
  | scripted (script : List (Option Http.Response)) (received : List Http.Request)
  /-- A port that is held, and nobody answers there. -/
  | closed

/-- How a request ends. -/
inductive Exchange where
  | answered (response : Http.Response)
  | refused
  | broken

/-- The machine. -/
structure Network where
  /-- Whether the machine has a loopback, so that connections get through at all. -/
  carries : Bool := true
  /-- What is reached at the local address, by port. -/
  peers : Std.ExtTreeMap UInt16 Peer := ∅
  /-- Where else somebody listens. Nobody calls there, but the endpoints are taken. -/
  aside : List Endpoint := []
  /-- The ports that the machine gives to those who leave the choice to it, in the order in which it
  thinks of them. -/
  spare : List UInt16 := []
  files : Files := .empty
  /-- The number of the next task. -/
  nextTask : Nat := 1
  /-- What the clock reads. -/
  clock : Nat := 0
  /-- The number of the last request of each client. The length is the number of clients. -/
  asked : List UInt64 := []

namespace Network

/-- A session as it finds the machine. -/
def lend (n : Network) (s : Session) : Session :=
  { s with workspace := { s.workspace with files := n.files }, nextTask := n.nextTask }

/-- The machine as a session leaves it. -/
def reclaim (n : Network) (port : UInt16) (station : Station) (s : Session) : Network :=
  { n with
    peers := n.peers.insert port (.station { station with session := s })
    files := s.workspace.files
    nextTask := s.nextTask
    clock := n.clock + 1 }

/-- The station behind a port. -/
def station? (n : Network) (port : UInt16) : Option Station :=
  match n.peers[port]? with
  | some (.station station) => some station
  | _ => none

/-- Lets the session behind a port do something. -/
def visit (n : Network) (port : UInt16) (f : Session → Session) : Network :=
  match n.station? port with
  | some station => n.reclaim port station (f (n.lend station.session))
  | none => n

/-- Sends a request to a port. -/
def exchange (port : UInt16) (r : Http.Request) : StateM Network Exchange := fun n =>
  if n.carries then
    match n.peers[port]? with
    | some (.station station) =>
      let (response, s) := (n.lend station.session).respond n.clock r
      (.answered response, n.reclaim port station s)
    | some (.scripted script received) =>
      let peer : Peer := .scripted script.tail (received ++ [r])
      (match script.head? with
        | some (some response) => .answered response
        | _ => .broken,
        { n with peers := n.peers.insert port peer })
    | _ => (.refused, n)
  else (.refused, n)

/-- Lets the session behind a port finish what it detached. -/
def settle (n : Network) (port : UInt16) : Network := n.visit port Session.settle

/-- What a scripted peer has received since this was last asked. -/
def received (n : Network) (port : UInt16) : List Http.Request × Network :=
  match n.peers[port]? with
  | some (.scripted script received) =>
    (received, { n with peers := n.peers.insert port (.scripted script []) })
  | _ => ([], n)

end Network

end Tandem
