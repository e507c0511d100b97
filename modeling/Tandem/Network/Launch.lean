import Tandem.Network.Basic
import Tandem.Session.Directory

/-! # Launching a session

A session takes the first free port from a base on, and publishes a descriptor with this port before
it serves. Sessions at different addresses can have the same port, and then a descriptor may lead to
another session than the one that published it.

* `Network.occupy` and `Network.vacate` begin and end listening.
* `Network.listen` looks for a port and listens there.
* `Network.launch` starts a session. -/

namespace Tandem

/-- Why a session did not start. -/
inductive LaunchError where
  | portExhausted (base : UInt16)
  | descriptor (error : DescriptorError)
  | host (error : CallError)
  deriving DecidableEq, Repr

/-- The text of a launch error. -/
def LaunchError.message : LaunchError → String
  | .portExhausted base => "No free port between " ++ Text.decimal base.toNat ++ " and 65535"
  | .descriptor error => error.message
  | .host error => "Failed to read session identity: " ++ error.message

/-- How a session starts. -/
structure LaunchConfig where
  /-- The address to listen at. -/
  host : IpAddress := .localhost
  /-- The first port to try. -/
  basePort : UInt16 := 18861
  /-- Where the descriptor is published. -/
  directory : String
  /-- Where the session's worker looks for other sessions. -/
  searched : String := directory
  /-- What the session answers when it is asked for its process. -/
  process : Json := .null
  home : Option String := none

/-- The station of a session that has just started over a workspace. -/
def LaunchConfig.station (config : LaunchConfig) (w : Workspace) (identity : SessionIdentity)
    (isOpen : Bool := true) : Station where
  session := {
    workspace := w
    identity := identity
    process := config.process
    home := config.home
    isOpen := isOpen }
  directory := config.searched

/-- What became of a session that started. -/
structure Launched where
  endpoint : Endpoint
  descriptorPath : String
  deriving DecidableEq, Repr

/-- Work to start a session, which may fail on the way. -/
abbrev Launching := EStateM LaunchError Network

namespace Network

/-! ## Endpoints -/

/-- Whether the machine lets somebody listen at an address. -/
def admits (n : Network) (host : IpAddress) : Bool :=
  if n.carries then host.isLocal else host.isUnchecked

/-- Whether an endpoint can be taken. -/
def isFree (n : Network) (e : Endpoint) : Bool :=
  !(n.peers.contains e.port && e.host.meets .localhost) &&
    n.aside.all fun other => other.port ≠ e.port || !other.host.meets e.host

/-- A peer listens at an endpoint. It is reached at the local address if its own covers that. -/
def occupy (n : Network) (e : Endpoint) (peer : Peer) : Network :=
  { n with
    peers := if e.host.covers .localhost then n.peers.insert e.port peer else n.peers
    aside := if e.host.plain = .localhost then n.aside else e :: n.aside }

/-- A peer answers from now on at an endpoint that is held already. -/
def serve (n : Network) (e : Endpoint) (peer : Peer) : Network :=
  { n with peers := if e.host.covers .localhost then n.peers.insert e.port peer else n.peers }

/-- Nobody listens at an endpoint any more. -/
def vacate (n : Network) (e : Endpoint) : Network :=
  { n with
    peers := if e.host.covers .localhost then n.peers.erase e.port else n.peers
    aside := n.aside.erase e }

/-! ## Ports -/

/-- The port that somebody gets who asks for one. Port 0 leaves the choice to the machine. -/
def grant? (n : Network) (host : IpAddress) (port : UInt16) : Option UInt16 :=
  if !n.admits host then none
  else if port = 0 then n.spare.find? fun chosen => n.isFree ⟨host, chosen⟩
  else if n.isFree ⟨host, port⟩ then some port
  else none

/-- Below the last port, the next one is greater by one. -/
theorem toNat_next {port : UInt16} (more : port.toNat + 1 < UInt16.size) :
    (port + 1).toNat = port.toNat + 1 := by
  rw [UInt16.toNat_add]
  exact Nat.mod_eq_of_lt more

/-- Tries one port after the other until it can listen at one, and tells which it is. -/
def listenFrom (host : IpAddress) (base port : UInt16) : Launching UInt16 := do
  match (← get).grant? host port with
  | some granted =>
    modify (·.occupy ⟨host, granted⟩ .closed)
    return granted
  | none =>
    if port.toNat + 1 < UInt16.size then listenFrom host base (port + 1)
    else throw (.portExhausted base)
termination_by UInt16.size - port.toNat
decreasing_by
  rename_i more
  rw [toNat_next more]
  omega

/-- Listens at the first port from a base on that can be had, and tells which it is. -/
def listen (host : IpAddress) (base : UInt16) : Launching UInt16 := listenFrom host base base

/-! ## Stages -/

/-- Asks a host through its main loop who it is. -/
def identify (host : Host) (isOpen : Bool) : Launching (HostIdentity × Workspace) := fun n =>
  match Action.identity.through isOpen ⟨host, n.files, {}⟩ with
  | (.ok identity, w) => .ok (identity, w) n
  | (.error error, _) => .error (.host error) n

/-- Publishes a descriptor among the files of the machine, and tells its path. -/
def announce (directory : String) (d : Descriptor) : Launching String := fun n =>
  match Descriptor.publish directory d n.files with
  | .ok path files => .ok path { n with files := files }
  | .error error files => .error (.descriptor error) { n with files := files }

/-- Does something while an endpoint is held, and gives the endpoint up if that fails. -/
def holding {α : Type} (e : Endpoint) (work : Launching α) : Launching α :=
  tryCatch work fun error => do
    modify (·.vacate e)
    throw error

/-- Starts a session over a host whose main loop may have ended. -/
def launch (config : LaunchConfig) (host : Host) (isOpen : Bool := true) : Launching Launched := do
  let (told, w) ← identify host isOpen
  let port ← listen config.host config.basePort
  let endpoint : Endpoint := ⟨config.host, port⟩
  let identity := SessionIdentity.of told port
  let path ← holding endpoint (announce config.directory identity.descriptor)
  modify (·.serve endpoint (.station (config.station w identity isOpen)))
  return ⟨endpoint, path⟩

end Network

end Tandem
