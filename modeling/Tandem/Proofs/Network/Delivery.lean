import Tandem.Network.Discovery
import Tandem.Proofs.Network.Calls
import Tandem.Proofs.Session.Directory
import Tandem.Proofs.Sync.Worker

/-! # Delivery to a session that can be found

A session can be found when its descriptor leads to the port behind which it runs. A worker that
looks in the right directory then always comes by a link to it, even after a call over an earlier
link has failed. So every command that is taken from the outbox arrives, in order. -/

namespace Tandem

/-! ## Finding a session -/

/-- What a search comes to when the session behind the port of a descriptor has said its hash. -/
def Client.verified (client : Client) (hash : String) : Except SyncError String → Except SyncError Client
  | .error error => .error (.connectionFailure (client.url ++ ": " ++ error.reason))
  | .ok reported =>
    if ContentHash.agree reported hash then .ok client
    else .error (.connectionFailure
      (client.url ++ " serves session " ++ reported ++ ", expected " ++ hash))

/-- A descriptor counts for as much as the session behind its port says. -/
theorem Client.find_of_described {n n' : Network} {directory hash : String} {d : Descriptor}
    (described : Descriptor.find n.files directory hash = .ok d) {result : Except SyncError String}
    (asked : Client.getHash ⟨n.asked.length, d.port⟩ { n with asked := n.asked ++ [0] } = (result, n')) :
    Client.find directory hash n = (Client.verified ⟨n.asked.length, d.port⟩ hash result, n') := by
  simp only [Client.find, bind, StateT.bind, get, getThe, MonadStateOf.get, StateT.get, pure, described,
    Network.client]
  rw [asked]
  cases result with
  | error error => rfl
  | ok reported =>
    simp only [Client.verified]
    split <;> rfl

/-- The session over a host without faults can be found on a port: its descriptor leads there. -/
structure Network.Findable (n : Network) (directory : String) (port : UInt16) (host : Host) :
    Prop where
  carries : n.carries = true
  described : ∃ d, Descriptor.find n.files directory (ContentHash.key host.image.hash) = .ok d ∧
    d.port = port
  housed : n.Houses port host
  sound : host.Faultless

namespace Network

variable {n n' : Network} {directory : String} {port : UInt16} {host : Host}

theorem Findable.reached (findable : n.Findable directory port host) :
    n.Reached port host n :=
  ⟨rfl, rfl, fun _ _ => rfl, findable.housed⟩

theorem Reached.findable {host' : Host} (reached : n.Reached port host' n')
    (findable : n.Findable directory port host) (image : host'.image = host.image)
    (sound : host'.Faultless) : n'.Findable directory port host' where
  carries := reached.carries.trans findable.carries
  described := by
    rw [reached.files, image]
    exact findable.described
  housed := reached.houses
  sound := sound

/-- A search for a session that tells its hash ends with a client for its port, if its descriptor
leads there. -/
theorem find_housed (carries : n.carries = true) {hash : String} {d : Descriptor}
    (described : Descriptor.find n.files directory hash = .ok d) (housed : n.Houses d.port host)
    (identifies : host.Identifies) (agrees : ContentHash.agree host.image.hash hash = true) :
    ∃ client n', Client.find directory hash n = (.ok client, n') ∧ client.port = d.port ∧
      n.Reached d.port host n' := by
  let client : Client := ⟨n.asked.length, d.port⟩
  let known : Network := { n with asked := n.asked ++ [0] }
  have housed' : known.Houses client.port host := housed
  obtain ⟨n', told, reached⟩ := Client.getHash_housed (n := known) carries housed' identifies
  refine ⟨client, n', ?_, rfl, reached.carries, reached.files, reached.others, reached.houses⟩
  have agrees' : ContentHash.agree (ContentHash.key host.image.hash) hash = true := by
    rw [ContentHash.agree_iff] at agrees ⊢
    rw [ContentHash.key_key, agrees]
  rw [Client.find_of_described described told, Client.verified, if_pos agrees']

/-- A search for a session that can be found ends with a client for its port. -/
theorem Findable.find (findable : n.Findable directory port host) :
    ∃ client n', Client.find directory (ContentHash.key host.image.hash) n = (.ok client, n') ∧
      client.port = port ∧ n.Reached port host n' := by
  obtain ⟨d, found, rfl⟩ := findable.described
  exact find_housed findable.carries found findable.housed findable.sound.identifies
    (ContentHash.agree_iff.2 (ContentHash.key_key _).symm)

end Network

/-! ## Links -/

/-- The links of a broker are filed properly, and one for a given session leads to its port. -/
structure Broker.Directed (broker : Broker (String × Client)) (key : String) (port : UInt16) :
    Prop where
  filed : broker.Filed
  leads : ∀ link, broker.links[key]? = some link → link.2.port = port

namespace Broker.Directed

variable {key : String} {port : UInt16} {broker : Broker (String × Client)}

theorem empty : Directed .empty key port where
  filed := .empty
  leads link held := by simp [Broker.empty] at held

theorem insert (directed : broker.Directed key port) {key' : String} {client : Client}
    (right : key' = key → client.port = port) :
    Directed ⟨broker.links.insert key' (key', client)⟩ key port where
  filed := directed.filed.insert key' client
  leads link held := by
    simp only [Std.ExtTreeMap.getElem?_insert] at held
    split at held
    · rename_i same
      cases held
      exact right (Std.LawfulEqCmp.eq_of_compare same)
    · exact directed.leads link held

theorem evict (directed : broker.Directed key port) (hash : String) :
    (broker.evict hash).Directed key port where
  filed := directed.filed.evict hash
  leads link held := by
    simp only [Broker.evict, Std.ExtTreeMap.getElem?_erase] at held
    split at held
    · cases held
    · exact directed.leads link held

end Broker.Directed

namespace Broker

variable {n : Network} {directory : String} {port : UInt16} {host : Host}
  {broker : Broker (String × Client)}

/-- A link to a session that can be found leads to its port, whatever other links there are. -/
theorem Resolves.directed (findable : n.Findable directory port host)
    (directed : broker.Directed (ContentHash.key host.image.hash) port) {key : String}
    {search : Option (Except SyncError Unit)} {link : String × Client}
    {broker' : Broker (String × Client)} {n' : Network}
    (resolves : Resolves (Network.connector directory) broker key n search link broker' n') :
    broker'.Directed (ContentHash.key host.image.hash) port ∧
      (key = ContentHash.key host.image.hash → link.2.port = port ∧ n.Reached port host n') := by
  cases resolves with
  | cached held =>
    refine ⟨directed, ?_⟩
    rintro rfl
    exact ⟨directed.leads link held, findable.reached⟩
  | @opened client' n' absent found =>
    have finds : key = ContentHash.key host.image.hash →
        client'.port = port ∧ n.Reached port host n' := by
      rintro rfl
      obtain ⟨client, n'', finds, right, reached⟩ := findable.find
      cases found.symm.trans finds
      exact ⟨right, reached⟩
    exact ⟨directed.insert fun same => (finds same).1, finds⟩

/-- Whatever command is delivered, a link to a session that can be found leads to its port. -/
theorem dispatch_directed (findable : n.Findable directory port host)
    (directed : broker.Directed (ContentHash.key host.image.hash) port) (command : SyncCommand)
    (record : List Delivery) :
    (broker.dispatch (Network.connector directory).recorded command (n, record)).1.Directed
      (ContentHash.key host.image.hash) port := by
  obtain ⟨search, call, broker', n', serves⟩ :=
    exists_serves (Network.connector directory) broker command n
  rw [serves.dispatches directed.filed record]
  cases serves with
  | unresolved absent lost => exact directed
  | delivered resolves answered => exact (resolves.directed findable directed).1
  | failed resolves answered => exact (resolves.directed findable directed).1.evict _

/-- A call over a link to a session that can be found leads its host. -/
theorem Resolves.reached (findable : n.Findable directory port host)
    (directed : broker.Directed (ContentHash.key host.image.hash) port)
    {search : Option (Except SyncError Unit)} {link : String × Client}
    {broker' : Broker (String × Client)} {n' n'' : Network} {offset : Address}
    {result : Except SyncError Unit}
    (resolves : Resolves (Network.connector directory) broker (ContentHash.key host.image.hash) n
      search link broker' n')
    (answered : (Network.connector directory).jumpto link.2 offset n' = (result, n'')) :
    n.Reached port (host.led offset) n'' := by
  obtain ⟨rfl, reached⟩ := (resolves.directed findable directed).2 rfl
  have called := Client.jumpto_housed (reached.carries.trans findable.carries) reached.houses
    findable.sound offset
  have ended : (link.2.jumpto offset n').2 = n'' := congrArg Prod.snd answered
  rw [ended] at called
  exact reached.trans called

/-- A command for a session that can be found leads its host. -/
theorem dispatch_findable (findable : n.Findable directory port host)
    (directed : broker.Directed (ContentHash.key host.image.hash) port) (offset : Address)
    (record : List Delivery) :
    ∃ broker' n' record',
      broker.dispatch (Network.connector directory).recorded
        (.jumpto (ContentHash.key host.image.hash) offset) (n, record) = (broker', n', record') ∧
      broker'.Directed (ContentHash.key host.image.hash) port ∧
      n.Reached port (host.led offset) n' := by
  obtain ⟨search, call, broker', n', serves⟩ :=
    exists_serves (Network.connector directory) broker
      (.jumpto (ContentHash.key host.image.hash) offset) n
  have target : SyncCommand.key (.jumpto (ContentHash.key host.image.hash) offset) =
      ContentHash.key host.image.hash := ContentHash.key_key _
  have dispatched := serves.dispatches directed.filed record
  have directed' := dispatch_directed findable directed
    (.jumpto (ContentHash.key host.image.hash) offset) record
  rw [dispatched] at directed'
  refine ⟨broker', n', _, dispatched, directed', ?_⟩
  cases serves with
  | unresolved absent lost =>
    -- this search would have ended well
    obtain ⟨client, n'', finds, -⟩ := findable.find
    rw [target] at lost
    cases lost.symm.trans finds
  | delivered resolves answered =>
    rw [target] at resolves
    exact resolves.reached findable directed answered
  | failed resolves answered =>
    rw [target] at resolves
    exact resolves.reached findable directed answered

/-- Commands for a session that can be found lead its host one after the other. -/
theorem serve_findable (findable : n.Findable directory port host)
    (directed : broker.Directed (ContentHash.key host.image.hash) port) (offsets : List Address)
    (record : List Delivery) :
    ∃ broker' n' record',
      broker.serve (Network.connector directory).recorded
        (offsets.map (.jumpto (ContentHash.key host.image.hash))) (n, record) =
          (broker', n', record') ∧
      broker'.Directed (ContentHash.key host.image.hash) port ∧
      n.Reached port (offsets.foldl Host.led host) n' ∧
      n'.Findable directory port (offsets.foldl Host.led host) := by
  -- the image of the host stays while it is led, so its key does too, and it can be found again
  induction offsets generalizing n host broker record with
  | nil => exact ⟨broker, n, record, rfl, directed, findable.reached, findable⟩
  | cons offset offsets ih =>
    obtain ⟨broker₁, n₁, record₁, dispatched, directed₁, reached₁⟩ :=
      dispatch_findable findable directed offset record
    have findable₁ := reached₁.findable findable (host.led_image offset) (findable.sound.led offset)
    have same : ContentHash.key (host.led offset).image.hash = ContentHash.key host.image.hash := by
      rw [Host.led_image]
    obtain ⟨broker₂, n₂, record₂, served, directed₂, reached₂, findable₂⟩ :=
      ih findable₁ (same ▸ directed₁) record₁
    refine ⟨broker₂, n₂, record₂, ?_, same ▸ directed₂, reached₁.trans reached₂, findable₂⟩
    rw [same] at served
    simp only [List.map_cons, serve, bind, StateT.bind, dispatched]
    exact served

end Broker

/-! ## Emptying the outbox -/

namespace Network

variable {n n' : Network} {directory : String} {own port : UInt16} {host : Host} {s : Station}

theorem station?_of_getElem? (there : n.peers[own]? = some (.station s)) : n.station? own = some s := by
  rw [station?, there]

theorem getElem?_of_station? (found : n.station? own = some s) :
    n.peers[own]? = some (.station s) := by
  rw [station?] at found
  split at found
  · cases found
    assumption
  · cases found

/-- Only the files and what is behind the port matter for finding a session. -/
theorem Findable.congr (findable : n.Findable directory port host) (carries : n'.carries = n.carries)
    (files : n'.files = n.files) (same : n'.peers[port]? = n.peers[port]?) :
    n'.Findable directory port host where
  carries := carries.trans findable.carries
  described := by
    rw [files]
    exact findable.described
  housed := by
    obtain ⟨t, there, rest⟩ := findable.housed
    exact ⟨t, same.trans there, rest⟩
  sound := findable.sound

theorem getElem?_insert_of_ne (peers : Std.ExtTreeMap UInt16 Peer) (apart : own ≠ port) (peer : Peer) :
    (peers.insert own peer)[port]? = peers[port]? := by
  simp [Std.ExtTreeMap.getElem?_insert, apart]

/-- The machine when a worker has taken commands and not yet delivered them. -/
def taking (n : Network) (port : UInt16) (s : Station) (count : Nat) : Network :=
  { n with peers := n.peers.insert port (.station (takeCommands count s).2) }

/-- The worker finds its own session where it left it, whatever its calls have done there, and its
links are kept for the next time. -/
theorem deliverSome_eq (there : n.peers[own]? = some (.station s)) {count : Nat}
    {broker : Broker (String × Client)} {n₁ : Network} {record : List Delivery} {s₁ : Station}
    (served : s.broker.serve (connector s.directory).recorded (takeCommands count s).1
      (n.taking own s count, []) = (broker, n₁, record))
    (stays : n₁.peers[own]? = some (.station s₁)) :
    n.deliverSome own count = { n₁ with peers := n₁.peers.insert own (.station
      { s₁ with broker := broker, deliveries := s₁.deliveries ++ record }) } := by
  have served' : (takeCommands count s).2.broker.serve
      (connector (takeCommands count s).2.directory).recorded (takeCommands count s).1
      (n.taking own s count, []) = (broker, n₁, record) := served
  rw [taking] at served'
  rw [deliverSome, station?_of_getElem? there]
  simp only
  rw [served']
  simp only [station?_of_getElem? stays]

/-- What a worker takes from the outbox leads the host of the session that it is for. The worker
stays able to deliver, and its session has the rest of the commands still waiting. -/
theorem deliverSome_findable (findable : n.Findable s.directory port host)
    (there : n.peers[own]? = some (.station s)) (apart : own ≠ port)
    (directed : s.broker.Directed (ContentHash.key host.image.hash) port) {offsets : List Address}
    (waiting : s.session.workspace.outbox.waiting =
      offsets.map (.jumpto (ContentHash.key host.image.hash))) (count : Nat) :
    ∃ broker deliveries,
      (n.deliverSome own count).Findable s.directory port ((offsets.take count).foldl Host.led host) ∧
      broker.Directed (ContentHash.key host.image.hash) port ∧
      (n.deliverSome own count).peers[own]? = some (.station { (takeCommands count s).2 with
        broker := broker, deliveries := deliveries }) := by
  have commands : (takeCommands count s).1 =
      (offsets.take count).map (.jumpto (ContentHash.key host.image.hash)) := by
    rw [takeCommands, Outbox.take, waiting, List.map_take]
  obtain ⟨broker, n₁, record, served, directed', reached, findable'⟩ :=
    Broker.serve_findable (n := n.taking own s count)
      (findable.congr rfl rfl (getElem?_insert_of_ne _ apart _)) directed (offsets.take count) []
  -- the calls go to another port, so the worker finds its own session as it left it
  have stays : n₁.peers[own]? = some (.station (takeCommands count s).2) := by
    rw [reached.others own apart]
    exact Std.ExtTreeMap.getElem?_insert_self
  rw [← commands] at served
  rw [deliverSome_eq there served stays]
  refine ⟨broker, _, ?_, directed', Std.ExtTreeMap.getElem?_insert_self⟩
  exact findable'.congr rfl rfl (getElem?_insert_of_ne _ apart _)

end Network

end Tandem
