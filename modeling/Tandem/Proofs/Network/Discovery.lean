import Tandem.Proofs.Network.Launch

/-! # Discovery

A client that was found leads to a session that has the hash in question, whatever the descriptors
say. Conversely, sessions that were launched into one directory are all found there, by every
spelling of their hashes.

* `Network.Tells` says what a peer answers when it is asked for its hash.
* `Resident.Settled` is what a launch establishes and what later launches preserve. -/

namespace Tandem

open Rpc (Call)
open Tandem.Path (IsName)

/-! ## What a client proves -/

/-- The peer behind a port answers with a hash when it is asked for one. -/
inductive Network.Tells (n : Network) (port : UInt16) (hash : String) : Prop where
  | session {t : Station} (there : n.peers[port]? = some (.station t))
      (answers : ((n.lend t.session).answer n.clock .getHash).1 = .ok (.string hash))
  | scripted {response : Http.Response} {script : List (Option Http.Response)}
      {received : List Http.Request} {reply : Json}
      (there : n.peers[port]? = some (.scripted (some response :: script) received))
      (parses : Json.parse? response.body = some reply)
      (holds : Client.resultOf reply.sorted = .ok (.string hash))

/-- Only somebody who listens answers. -/
theorem Network.exchange_answered {n : Network} {port : UInt16} {r : Http.Request}
    {response : Http.Response} (answered : (exchange port r n).1 = .answered response) :
    n.carries = true ∧ ((∃ t, n.peers[port]? = some (.station t)) ∨
      ∃ script received, n.peers[port]? = some (.scripted (some response :: script) received)) := by
  cases carries : n.carries with
  | false => simp [exchange, carries] at answered
  | true =>
    refine ⟨rfl, ?_⟩
    cases there : n.peers[port]? with
    | none => simp [exchange, carries, there] at answered
    | some peer =>
      cases peer with
      | station t => exact .inl ⟨t, rfl⟩
      | closed => simp [exchange, carries, there] at answered
      | scripted script received =>
        simp only [exchange, carries, there, if_true] at answered
        split at answered
        · rename_i first head
          cases answered
          obtain ⟨rest, whole⟩ := List.head?_eq_some_iff.1 head
          exact .inr ⟨rest, received, by rw [whole]⟩
        · cases answered

namespace Client

variable {n n' : Network}

theorem ask_ok {client : Client} {method text : String} (told : client.ask method n = (.ok text, n')) :
    client.call method (.object []) n = (.ok (.string text), n') := by
  cases called : client.call method (.object []) n with
  | mk result n'' =>
    simp only [ask, bind, StateT.bind, called] at told
    split at told
    · cases told
    · cases told
      rfl
    · cases told

/-- A call is an exchange, and its result is what the client makes of that. -/
theorem call_exchange (client : Client) (method : String) (params : Json) (n : Network) :
    ∃ number, client.call method params n =
      ((Network.exchange client.port (request number method params)
          { n with asked := n.asked.set client.number number }).map client.outcome id) :=
  ⟨_, rfl⟩

/-- Only an answer can hold a result. -/
theorem answered_of_outcome {client : Client} {ended : Exchange} {value : Json}
    (holds : client.outcome ended = .ok value) :
    ∃ response reply, ended = .answered response ∧ Json.parse? response.body = some reply ∧
      resultOf reply.sorted = .ok value := by
  cases ended with
  | refused => cases holds
  | broken => cases holds
  | answered response =>
    rw [outcome] at holds
    cases parses : Json.parse? response.body with
    | none => simp [parses] at holds
    | some reply => exact ⟨response, reply, rfl, parses, by simpa [parses] using holds⟩

/-- Only somebody who listens tells a hash. -/
theorem tells_of_getHash {client : Client} {text : String}
    (told : client.getHash n = (.ok text, n')) : n.Tells client.port text := by
  obtain ⟨number, exchanged⟩ := call_exchange client "get_md5" (.object []) n
  rw [ask_ok told] at exchanged
  obtain ⟨response, reply, answered, parses, holds⟩ :=
    answered_of_outcome (congrArg Prod.fst exchanged).symm
  obtain ⟨carries, ⟨t, there⟩ | ⟨script, received, there⟩⟩ := Network.exchange_answered answered
  · obtain ⟨result, n'', asked, -, tells⟩ := getHash_station (n := n) carries there
    cases told.symm.trans asked
    exact .session there ((tells text).1 rfl)
  · exact .scripted there parses holds

/-- A search ends with a client for the port of a descriptor, whose session agrees, or with a failed
connection. -/
theorem find_cases (directory hash : String) (n : Network) :
    (∃ reason n', Client.find directory hash n = (.error (.connectionFailure reason), n')) ∨
      ∃ client reported n', Client.find directory hash n = (.ok client, n') ∧
        n.Tells client.port reported ∧ ContentHash.agree reported hash = true := by
  cases described : Descriptor.find n.files directory hash with
  | error error =>
    refine .inl ⟨error.message, n, ?_⟩
    simp only [Client.find, bind, StateT.bind, get, getThe, MonadStateOf.get, StateT.get, pure,
      described]
    rfl
  | ok d =>
    let client : Client := ⟨n.asked.length, d.port⟩
    let known : Network := { n with asked := n.asked ++ [0] }
    cases asked : client.getHash known with
    | mk result n' =>
      have found := Client.find_of_described described asked
      cases result with
      | error error => exact .inl ⟨_, n', found⟩
      | ok reported =>
        rw [Client.verified] at found
        split at found
        · rename_i agrees
          -- opening a client changes its counter, not who listens
          have tells : known.Tells client.port reported := tells_of_getHash asked
          refine .inr ⟨client, reported, n', found, ?_, agrees⟩
          cases tells with
          | session there answers => exact .session there answers
          | scripted there parses holds => exact .scripted there parses holds
        · exact .inl ⟨_, n', found⟩

end Client

/-! ## Sessions in one directory -/

/-- A session that was launched: its host, and the port that it got. -/
structure Resident where
  host : Host
  port : UInt16

/-- Sessions are launched one after the other on the local address, with their main loops running,
and describe themselves in one directory. -/
inductive Network.Launches (directory : String) : Network → List Resident → Network → Prop where
  | nil (n : Network) : Launches directory n [] n
  | cons {n between n' : Network} {config : LaunchConfig} {r : Resident} {place : String}
      {rest : List Resident} (into : config.directory = directory)
      (launched : launch config r.host true n = .ok ⟨⟨.localhost, r.port⟩, place⟩ between)
      (later : Launches directory between rest n') : Launches directory n (r :: rest) n'

namespace Resident

variable {n n' : Network} {directory : String} {r other : Resident} {rest : List Resident}

/-- The session runs behind its port, and its descriptor leads there. -/
structure Settled (r : Resident) (directory : String) (n : Network) : Prop where
  housed : n.Houses r.port r.host
  identifies : r.host.Identifies
  described : Descriptor.read n.files (Descriptor.path directory r.host.image.identity.hash) =
    .ok (SessionIdentity.of r.host.image.identity r.port).descriptor

theorem settled_of_launch {config : LaunchConfig} {place : String} (named : IsName r.host.image.hash)
    (launched : Network.launch config r.host true n = .ok ⟨⟨.localhost, r.port⟩, place⟩ n') :
    r.Settled config.directory n' where
  housed := by
    obtain ⟨-, -, files, -, rfl⟩ := Network.launch_cases launched
    exact ⟨_, Std.ExtTreeMap.getElem?_insert_self, rfl, rfl⟩
  identifies := (Network.launch_cases launched).1
  described := Network.launch_described launched named

/-- A session stays where it is when another one is launched, on a different port. -/
theorem Settled.launch (settled : r.Settled directory n) (named : IsName r.host.image.hash)
    (named' : IsName other.host.image.hash)
    (apart : ContentHash.agree r.host.image.hash other.host.image.hash = false)
    {config : LaunchConfig} {place : String}
    (launched : Network.launch config other.host true n = .ok ⟨⟨.localhost, other.port⟩, place⟩ n') :
    r.Settled directory n' ∧ r.port ≠ other.port := by
  obtain ⟨t, there, isOpen, host⟩ := settled.housed
  obtain ⟨stays, ports⟩ := Network.launch_peer launched there
  refine ⟨⟨⟨t, stays, isOpen, host⟩, settled.identifies, ?_⟩, ports⟩
  -- the descriptor of the other session goes to another file
  refine Network.launch_read launched named' (ContentHash.isName_key named) ?_ settled.described
  intro same
  have agrees := ContentHash.agree_iff.2 ((ContentHash.key_key _).symm.trans same)
  rw [apart] at agrees
  cases agrees

/-- A session stays where it is while others are launched. -/
theorem Settled.launches (settled : r.Settled directory n) (named : IsName r.host.image.hash)
    (launches : n.Launches directory rest n') (named' : ∀ other ∈ rest, IsName other.host.image.hash)
    (apart : ∀ other ∈ rest, ContentHash.agree r.host.image.hash other.host.image.hash = false) :
    r.Settled directory n' ∧ ∀ other ∈ rest, r.port ≠ other.port := by
  induction launches with
  | nil n => exact ⟨settled, nofun⟩
  | cons into launched later ih =>
    obtain ⟨stays, ports⟩ := settled.launch named (named' _ List.mem_cons_self)
      (apart _ List.mem_cons_self) launched
    obtain ⟨stays', ports'⟩ := ih stays
      (fun other member => named' other (List.mem_cons_of_mem _ member))
      (fun other member => apart other (List.mem_cons_of_mem _ member))
    exact ⟨stays', List.forall_mem_cons.2 ⟨ports, ports'⟩⟩

/-- A settled session is found by every spelling of its hash. -/
theorem Settled.find (settled : r.Settled directory n) (carries : n.carries = true) {hash : String}
    (agrees : ContentHash.agree r.host.image.hash hash = true) :
    ∃ client n', Client.find directory hash n = (.ok client, n') ∧ client.port = r.port ∧
      n.Reached r.port r.host n' := by
  have agrees' : ContentHash.agree r.host.image.identity.hash hash = true := by
    rw [ContentHash.agree_iff] at agrees ⊢
    exact (ContentHash.key_key _).trans agrees
  have reads := settled.described
  rw [Descriptor.path_congr directory agrees'] at reads
  exact Network.find_housed carries (Descriptor.find_of_read reads agrees') settled.housed
    settled.identifies agrees

end Resident

namespace Network

variable {n n' : Network} {directory : String} {residents : List Resident}

theorem Launches.carries (launches : n.Launches directory residents n') : n'.carries = n.carries := by
  induction launches with
  | nil n => rfl
  | cons into launched later ih => exact ih.trans (launch_carries launched)

/-- All sessions that were launched are settled, on different ports. -/
theorem Launches.settled (launches : n.Launches directory residents n')
    (named : ∀ r ∈ residents, IsName r.host.image.hash)
    (apart : residents.Pairwise fun a b =>
      ContentHash.agree a.host.image.hash b.host.image.hash = false) :
    (residents.map (·.port)).Nodup ∧ ∀ r ∈ residents, r.Settled directory n' := by
  induction launches with
  | nil n => exact ⟨.nil, nofun⟩
  | cons into launched later ih =>
    rw [List.forall_mem_cons] at named
    rw [List.pairwise_cons] at apart
    obtain ⟨ports, settled⟩ := ih named.2 apart.2
    -- the first session is settled now, and stays so while the others are launched
    obtain ⟨first, others⟩ := (into ▸ Resident.settled_of_launch named.1 launched).launches named.1
      later named.2 apart.1
    refine ⟨?_, List.forall_mem_cons.2 ⟨first, settled⟩⟩
    rw [List.map_cons, List.nodup_cons]
    refine ⟨fun member => ?_, ports⟩
    obtain ⟨other, inside, same⟩ := List.mem_map.1 member
    exact others other inside same.symm

end Network

/-- A client is found only if the peer behind its port tells a hash that agrees, and every other search
ends with a failed connection, whatever the descriptors say and whoever listens. Conversely, sessions of
different hashes that were launched into one directory run behind different ports, and each one is
found there by every spelling of its hash. -/
theorem discovery_is_sound_and_complete (directory : String) :
    (∀ hash n result n', Client.find directory hash n = (result, n') →
      (∀ client, result = .ok client →
        ∃ reported, n.Tells client.port reported ∧ ContentHash.agree reported hash = true) ∧
      ∀ error, result = .error error → ∃ reason, error = .connectionFailure reason) ∧
    ∀ n residents n', n.carries = true → Network.Launches directory n residents n' →
      (∀ r ∈ residents, IsName r.host.image.hash) →
      residents.Pairwise (fun a b => ContentHash.agree a.host.image.hash b.host.image.hash = false) →
      (residents.map (·.port)).Nodup ∧
      ∀ r ∈ residents, n'.Houses r.port r.host ∧
        ∀ hash, ContentHash.agree r.host.image.hash hash = true →
          ∃ client n'', Client.find directory hash n' = (.ok client, n'') ∧ client.port = r.port := by
  constructor
  · intro hash n result n' found
    rcases Client.find_cases directory hash n with
      ⟨reason, n'', failed⟩ | ⟨client, reported, n'', opened, tells, agrees⟩
    · cases found.symm.trans failed
      exact ⟨nofun, fun error same => ⟨reason, by cases same; rfl⟩⟩
    · cases found.symm.trans opened
      refine ⟨fun client' same => ?_, nofun⟩
      cases same
      exact ⟨reported, tells, agrees⟩
  · intro n residents n' carries launches named apart
    obtain ⟨ports, settled⟩ := launches.settled named apart
    refine ⟨ports, fun r member => ⟨(settled r member).housed, fun hash agrees => ?_⟩⟩
    obtain ⟨client, n'', found, port, -⟩ :=
      (settled r member).find (launches.carries.trans carries) agrees
    exact ⟨client, n'', found, port⟩

namespace Resident.Sample

/-- A session that is launched first, from a base port that is held. -/
def early : Guest where
  config := { directory := "d" }
  host := .load ⟨"0A1B", "early", "", 0x1000, 0x1000, 4, [], []⟩
  port := 18862
  sound _ := rfl
  named := ⟨by decide, by decide⟩

/-- A session that is launched next, from the same base port. -/
def late : Guest where
  config := { directory := "d" }
  host := .load ⟨"2c3D", "late", "", 0x8000, 0x100, 4, [], []⟩
  port := 18863
  sound _ := rfl
  named := ⟨by decide, by decide⟩

/-- The machine before, with one port held. -/
def machine : Network := { peers := (∅ : Std.ExtTreeMap UInt16 Peer).insert 18861 .closed }

theorem launches : ∃ n, machine.Launches "d" [⟨early.host, early.port⟩, ⟨late.host, late.port⟩] n := by
  have admitted : ((early.admitted? machine).bind late.admitted?).isSome = true := by decide +kernel
  obtain ⟨n, both⟩ := Option.isSome_iff_exists.1 admitted
  obtain ⟨between, first, second⟩ := Option.bind_eq_some_iff.1 both
  obtain ⟨place, launched⟩ := Guest.arrives_of_admitted? first
  obtain ⟨place', launched'⟩ := Guest.arrives_of_admitted? second
  exact ⟨n, .cons rfl launched (.cons rfl launched' (.nil n))⟩

end Resident.Sample

/-- Two sessions start from a base port that is held, and the first is found by another spelling. -/
theorem both_sessions_are_found :
    ∃ n client n', Resident.Sample.machine.Launches "d"
        [⟨Resident.Sample.early.host, 18862⟩, ⟨Resident.Sample.late.host, 18863⟩] n ∧
      Client.find "d" "0a1b" n = (.ok client, n') ∧ client.port = 18862 ∧
      ∃ reported, n.Tells 18862 reported ∧ ContentHash.agree reported "0a1b" = true := by
  obtain ⟨n, launches⟩ := Resident.Sample.launches
  obtain ⟨sound, complete⟩ := discovery_is_sound_and_complete "d"
  have key : ContentHash.key Resident.Sample.early.host.image.hash = "0a1b" := by decide +kernel
  have key' : ContentHash.key Resident.Sample.late.host.image.hash = "2c3d" := by decide +kernel
  have agrees : ContentHash.agree Resident.Sample.early.host.image.hash "0a1b" = true :=
    ContentHash.agree_iff.2 (by rw [key]; decide +kernel)
  obtain ⟨-, found⟩ := complete _ _ n rfl launches
    (by simp [Resident.Sample.early.named, Resident.Sample.late.named])
    (by simp [ContentHash.agree, key, key'])
  obtain ⟨client, n', opened, port⟩ := (found _ List.mem_cons_self).2 "0a1b" agrees
  obtain ⟨tells, -⟩ := sound "0a1b" n _ n' opened
  have told := tells client rfl
  rw [port] at told
  exact ⟨n, client, n', launches, opened, port, told⟩

end Tandem
