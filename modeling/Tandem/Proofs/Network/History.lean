import Tandem.Proofs.Network.Launch
import Tandem.Proofs.Session.Run

/-! # What has happened on a machine

Requests arrive at ports, sessions finish what they detached, and workers deliver. Whatever it was,
every session that was there is still behind its port, over the same image and with its main loop and
its worker as they were.

* `Network.Continues` says so, and `Network.Called` says what calls do beyond that: they leave the files
  and the links of every worker alone.
* `Network.Event` is what can happen next, and `Network.run` a whole history.
* `Network.Acquainted` is the invariant of two guests, one of which looks for the other. It needs the
  descriptor of the other to stay in place, and nothing else: `Acquainted.event` is one event, and
  `Acquainted.run` a history. -/

namespace Tandem

open Rpc (Call)

/-! ## Computations -/

/-- A computation follows a relation if each state that it ends in is related to the one before. -/
def Follows {σ α : Type} (R : σ → σ → Prop) (x : StateM σ α) : Prop := ∀ s, R s (x s).2

namespace Follows

variable {σ α β Link : Type} {R : σ → σ → Prop} (refl : ∀ s, R s s)
  (trans : ∀ s s' s'', R s s' → R s' s'' → R s s'')

include trans in
theorem bind {x : StateM σ α} {f : α → StateM σ β} (first : Follows R x)
    (rest : ∀ a, Follows R (f a)) : Follows R (x >>= f) :=
  fun s => trans _ _ _ (first s) (rest _ _)

variable {connector : Connector σ Link} (connect : ∀ key, Follows R (connector.connect key))
  (jump : ∀ link a, Follows R (connector.jumpto link a))
include refl trans connect jump

theorem dispatch (broker : Broker Link) (command : SyncCommand) :
    Follows R (broker.dispatch connector command) := by
  rw [Broker.dispatch, Broker.connect]
  refine bind trans ?_ fun found => ?_
  · cases broker.links[ContentHash.key command.target]? with
    | some link => exact refl
    | none =>
      refine bind trans (connect _) fun result => ?_
      cases result <;> exact refl
  · obtain ⟨found, broker'⟩ := found
    cases found with
    | none => exact refl
    | some link =>
      refine bind trans (jump link _) fun result => ?_
      cases result <;> exact refl

theorem serve (broker : Broker Link) (commands : List SyncCommand) :
    Follows R (broker.serve connector commands) := by
  induction commands generalizing broker with
  | nil => exact refl
  | cons command commands ih =>
    exact bind trans (dispatch refl trans connect jump broker command) ih

end Follows

/-! ## Stations that go on -/

/-- The station stays: its worker looks in the same place, and its session goes on. -/
structure Station.Continues (t t' : Station) : Prop where
  directory : t'.directory = t.directory
  session : t.session.Continues t'.session

theorem Station.Continues.refl (t : Station) : t.Continues t := ⟨rfl, .refl _⟩

theorem Station.Continues.trans {t t' t'' : Station} (first : t.Continues t')
    (second : t'.Continues t'') : t.Continues t'' :=
  ⟨second.directory.trans first.directory, first.session.trans second.session⟩

/-- A session is as it was after a request that makes no call, and otherwise as its answer leaves
it. -/
theorem Session.respond_cases (s : Session) (now : Nat) (r : Http.Request) :
    (s.respond now r).2 = s ∨ ∃ call, (s.respond now r).2 = (s.answer now call).2 := by
  cases asks : r.call? with
  | some call => exact .inr ⟨call, by rw [respond_of_call? asks]⟩
  | none =>
    left
    rw [respond]
    split
    · rename_i path
      split
      · rfl
      · rename_i method
        split
        · rename_i whole
          cases found : Call.ofBody r.body with
          | mk id result =>
            cases result with
            | error error => rw [handle_of_error s now found]
            | ok call =>
              rw [Http.Request.call?, if_pos ⟨path, not_not.1 method, whole⟩, found] at asks
              cases asks
        · rfl
    · split
      · split <;> rfl
      · rfl

namespace Network

variable {n n' n'' : Network} {port : UInt16}

/-- Every station is still behind its port, and goes on. -/
structure Continues (n n' : Network) : Prop where
  carries : n'.carries = n.carries
  stations : ∀ (port : UInt16) (t : Station), n.peers[port]? = some (.station t) →
    ∃ t', n'.peers[port]? = some (.station t') ∧ t.Continues t'

theorem Continues.refl (n : Network) : n.Continues n := ⟨rfl, fun _ t there => ⟨t, there, .refl t⟩⟩

theorem Continues.trans (first : n.Continues n') (second : n'.Continues n'') : n.Continues n'' where
  carries := second.carries.trans first.carries
  stations port t there := by
    obtain ⟨t', there', continues⟩ := first.stations port t there
    obtain ⟨t'', there'', continues'⟩ := second.stations port t' there'
    exact ⟨t'', there'', continues.trans continues'⟩

/-- The worker behind a port has the links that it had. -/
def SameLinks (n n' : Network) (port : UInt16) : Prop :=
  ∀ t t' : Station, n.peers[port]? = some (.station t) → n'.peers[port]? = some (.station t') →
    t'.broker = t.broker

/-- Calls were made: the files and the links of every worker are as they were. -/
structure Called (n n' : Network) : Prop extends n.Continues n' where
  files : n'.files = n.files
  links : ∀ port, n.SameLinks n' port

/-- What is behind the other ports does not change when somebody is put behind one. -/
theorem continues_insert {peer : Peer} (same : n'.carries = n.carries)
    (peers : n'.peers = n.peers.insert port peer)
    (here : ∀ t, n.peers[port]? = some (.station t) → ∃ t', peer = .station t' ∧ t.Continues t') :
    n.Continues n' where
  carries := same
  stations other t there := by
    rw [peers, Std.ExtTreeMap.getElem?_insert]
    split
    · rename_i equal
      cases Std.LawfulEqCmp.eq_of_compare equal
      obtain ⟨t', rfl, continues⟩ := here t there
      exact ⟨t', rfl, continues⟩
    · exact ⟨t, there, .refl t⟩

theorem sameLinks_insert {peer : Peer} {other : UInt16} (peers : n'.peers = n.peers.insert port peer)
    (here : ∀ t t', n.peers[port]? = some (.station t) → peer = .station t' → t'.broker = t.broker) :
    n.SameLinks n' other := by
  intro t t' there there'
  rw [peers, Std.ExtTreeMap.getElem?_insert] at there'
  split at there'
  · rename_i equal
    cases Std.LawfulEqCmp.eq_of_compare equal
    exact here t t' there (Option.some.inj there')
  · cases there.symm.trans there'
    rfl

theorem Called.refl (n : Network) : n.Called n where
  toContinues := .refl n
  files := rfl
  links port t t' there there' := by
    cases there.symm.trans there'
    rfl

theorem Called.trans (first : n.Called n') (second : n'.Called n'') : n.Called n'' where
  toContinues := first.toContinues.trans second.toContinues
  files := second.files.trans first.files
  links port t t'' there there'' := by
    obtain ⟨t', there', -⟩ := first.stations port t there
    exact (second.links port t' t'' there' there'').trans (first.links port t t' there there')

/-! ## Calls -/

/-- A session that was let do something goes on if it does so on its own. -/
theorem continues_reclaim {t : Station} (there : n.peers[port]? = some (.station t)) {s : Session}
    (continues : (n.lend t.session).Continues s) : n.Continues (n.reclaim port t s) := by
  refine continues_insert rfl rfl fun t' there' => ⟨_, rfl, ?_⟩
  cases there.symm.trans there'
  exact ⟨rfl, continues.isOpen, continues.identity, continues.home, continues.image,
    continues.faults, continues.accepts⟩

theorem sameLinks_reclaim {t : Station} (there : n.peers[port]? = some (.station t)) (s : Session)
    (other : UInt16) : n.SameLinks (n.reclaim port t s) other := by
  refine sameLinks_insert rfl fun t' t'' there' same => ?_
  cases there.symm.trans there'
  cases same
  rfl

theorem called_exchange (port : UInt16) (r : Http.Request) : Follows Called (exchange port r) := by
  intro n
  by_cases carries : n.carries = true
  · cases there : n.peers[port]? with
    | none => simp [exchange, carries, there, Called.refl]
    | some peer =>
      cases peer with
      | station t =>
        rw [exchange_station carries there]
        have answers := (n.lend t.session).respond_cases n.clock r
        generalize ((n.lend t.session).respond n.clock r).2 = s at answers ⊢
        have continues : (n.lend t.session).Continues s ∧ s.workspace.files = n.files := by
          rcases answers with rfl | ⟨call, rfl⟩
          · exact ⟨.refl _, rfl⟩
          · exact ⟨Session.continues_answer _ _ _, Session.files_answer _ _ _⟩
        exact ⟨continues_reclaim there continues.1, continues.2, sameLinks_reclaim there s⟩
      | scripted script received =>
        have none (t : Station) (there' : n.peers[port]? = some (.station t)) : False := by
          cases there.symm.trans there'
        simp only [exchange, carries, there, if_true]
        refine ⟨continues_insert carries.symm rfl fun t there' => (none t there').elim, rfl,
          fun other => ?_⟩
        exact sameLinks_insert rfl fun t _ there' => (none t there').elim
      | closed => simp [exchange, carries, there, Called.refl]
  · simp [exchange, carries, Called.refl]

theorem called_bind {α β : Type} {x : StateM Network α} {f : α → StateM Network β}
    (first : Follows Called x) (rest : ∀ a, Follows Called (f a)) : Follows Called (x >>= f) :=
  Follows.bind (fun _ _ _ => .trans) first rest

/-- A client that gets a number, or numbers a request, calls nobody. -/
theorem called_asked (n : Network) (asked : List UInt64) : n.Called { n with asked := asked } :=
  ⟨⟨rfl, (Continues.refl n).stations⟩, rfl, (Called.refl n).links⟩

theorem called_call (client : Client) (method : String) (params : Json) :
    Follows Called (client.call method params) :=
  called_bind (fun n => called_asked n _) fun _ =>
    called_bind (called_exchange _ _) fun _ => .refl

theorem called_find (directory key : String) : Follows Called (Client.find directory key) := by
  refine called_bind .refl fun n => ?_
  cases Descriptor.find n.files directory key with
  | error error => exact .refl
  | ok d =>
    refine called_bind (fun n => called_asked n _) fun client => ?_
    have asked : Follows Called client.getHash := by
      refine called_bind (called_call _ _ _) fun result => ?_
      split <;> exact .refl
    refine called_bind asked fun result => ?_
    cases result with
    | error error => exact .refl
    | ok reported =>
      simp only
      split <;> exact .refl

theorem called_jumpto (client : Client) (a : Address) : Follows Called (client.jumpto a) :=
  called_bind (called_call _ _ _) fun _ => .refl

/-- Whatever a worker delivers, it does no more than make calls. -/
theorem called_dispatch (broker : Broker (String × Client)) (directory : String)
    (command : SyncCommand) :
    Follows (fun s s' => s.1.Called s'.1) (broker.dispatch (connector directory).recorded command) :=
  .dispatch (fun s => .refl s.1) (fun _ _ _ => .trans) (fun key s => called_find directory key s.1)
    (fun link a s => called_jumpto link.2 a s.1) broker command

theorem called_serve (broker : Broker (String × Client)) (directory : String)
    (commands : List SyncCommand) :
    Follows (fun s s' => s.1.Called s'.1) (broker.serve (connector directory).recorded commands) :=
  .serve (fun s => .refl s.1) (fun _ _ _ => .trans) (fun key s => called_find directory key s.1)
    (fun link a s => called_jumpto link.2 a s.1) broker commands

/-! ## Deliveries -/

variable {t : Station} (there : n.peers[port]? = some (.station t)) (count : Nat)
include there

theorem called_taking : n.Called (n.taking port t count) := by
  refine ⟨continues_insert rfl rfl fun t' there' => ⟨_, rfl, ?_⟩, rfl, fun other => ?_⟩
  · cases there.symm.trans there'
    exact ⟨rfl, rfl, rfl, rfl, rfl, rfl, rfl⟩
  · refine sameLinks_insert rfl fun t' t'' there' same => ?_
    cases there.symm.trans there'
    cases same
    rfl

/-- A delivery makes calls, and then the worker keeps its links. -/
theorem deliverSome_cases :
    let served := t.broker.serve (connector t.directory).recorded (takeCommands count t).1
      (n.taking port t count, [])
    ∃ n₁ t₁ deliveries, n.Called n₁ ∧ n₁.peers[port]? = some (.station t₁) ∧
      n.deliverSome port count = { n₁ with peers := n₁.peers.insert port (.station
        { t₁ with broker := served.1, deliveries := deliveries }) } := by
  intro served
  have called := (called_taking there count).trans
    (called_serve t.broker t.directory (takeCommands count t).1 (n.taking port t count, []))
  obtain ⟨t₁, stays, -⟩ := called.stations port t there
  exact ⟨served.2.1, t₁, _, called, stays, deliverSome_eq there rfl stays⟩

theorem continues_deliverSome : n.Continues (n.deliverSome port count) := by
  obtain ⟨n₁, t₁, deliveries, called, stays, delivered⟩ := deliverSome_cases there count
  rw [delivered]
  refine called.toContinues.trans (continues_insert rfl rfl fun t' there' => ⟨_, rfl, ?_⟩)
  cases stays.symm.trans there'
  exact ⟨rfl, .refl _⟩

theorem files_deliverSome : (n.deliverSome port count).files = n.files := by
  obtain ⟨n₁, t₁, deliveries, called, stays, delivered⟩ := deliverSome_cases there count
  rw [delivered]
  exact called.files

theorem sameLinks_deliverSome {other : UInt16} (apart : port ≠ other) :
    n.SameLinks (n.deliverSome port count) other := by
  obtain ⟨n₁, t₁, deliveries, called, stays, delivered⟩ := deliverSome_cases there count
  intro t' t'' there' there''
  rw [delivered, getElem?_insert_of_ne _ apart] at there''
  exact called.links other t' t'' there' there''

omit there

/-! ## Events -/

/-- What can happen on a machine: a request arrives at a port, the session behind it finishes what it
detached, or its worker delivers some of the commands that wait. -/
inductive Event where
  | request (port : UInt16) (r : Http.Request)
  | settle (port : UInt16)
  | deliver (port : UInt16) (count : Nat)

/-- The machine after an event. -/
def event (n : Network) : Event → Network
  | .request port r => (exchange port r n).2
  | .settle port => n.settle port
  | .deliver port count => n.deliverSome port count

/-- The machine after events, one after the other. -/
def run (n : Network) (events : List Event) : Network := events.foldl event n

/-- Something is true of the machine before the first of some events and after each of them. -/
def Throughout (P : Network → Prop) : Network → List Event → Prop
  | n, [] => P n
  | n, e :: events => P n ∧ Throughout P (n.event e) events

theorem Throughout.first {P : Network → Prop} {events : List Event} (holds : Throughout P n events) :
    P n := by
  cases events with
  | nil => exact holds
  | cons e events => exact holds.1

theorem continues_event (n : Network) (e : Event) : n.Continues (n.event e) := by
  cases e with
  | request port r => exact (called_exchange port r n).toContinues
  | settle port =>
    rw [event, Network.settle, visit]
    cases found : n.station? port with
    | none => exact .refl n
    | some t =>
      exact continues_reclaim (getElem?_of_station? found) (Session.continues_settle _)
  | deliver port count =>
    cases found : n.station? port with
    | none =>
      rw [event, deliverSome, found]
      exact .refl n
    | some t => exact continues_deliverSome (getElem?_of_station? found) count

/-- Only a worker that delivers can come by other links. -/
theorem sameLinks_event {other : UInt16} {e : Event} (idle : ∀ count, e ≠ .deliver other count) :
    n.SameLinks (n.event e) other := by
  cases e with
  | request port r => exact (called_exchange port r n).links other
  | settle port =>
    rw [event, Network.settle, visit]
    cases found : n.station? port with
    | none => exact (Called.refl n).links other
    | some t => exact sameLinks_reclaim (getElem?_of_station? found) _ other
  | deliver port count =>
    have apart : port ≠ other := by
      rintro rfl
      exact idle count rfl
    cases found : n.station? port with
    | none =>
      rw [event, deliverSome, found]
      exact (Called.refl n).links other
    | some t => exact sameLinks_deliverSome (getElem?_of_station? found) count apart

end Network

/-! ## Guests -/

namespace Guest

variable {n n' : Network} {guest other : Guest}

/-- The guest's station is behind its port, and goes on since it started. -/
def Present (guest : Guest) (n : Network) : Prop :=
  ∃ files t, n.peers[guest.port]? = some (.station t) ∧ (guest.station files).Continues t

theorem Present.continues (present : guest.Present n) (continues : n.Continues n') :
    guest.Present n' := by
  obtain ⟨files, t, there, since⟩ := present
  obtain ⟨t', there', continues'⟩ := continues.stations _ t there
  exact ⟨files, t', there', since.trans continues'⟩

/-- The guest's descriptor leads to its port. -/
def IsDescribed (guest : Guest) (n : Network) : Prop :=
  ∃ d, Descriptor.find n.files guest.config.directory (ContentHash.key guest.host.image.hash) = .ok d ∧
    d.port = guest.port

/-- The guest can be found. -/
structure InPlace (guest : Guest) (n : Network) : Prop where
  carries : n.carries = true
  present : guest.Present n
  described : guest.IsDescribed n

theorem InPlace.called (inPlace : guest.InPlace n) (called : n.Called n') : guest.InPlace n' where
  carries := called.carries.trans inPlace.carries
  present := inPlace.present.continues called.toContinues
  described := by
    rw [IsDescribed, called.files]
    exact inPlace.described

theorem InPlace.findable (inPlace : guest.InPlace n) {t : Station}
    (there : n.peers[guest.port]? = some (.station t)) :
    n.Findable guest.config.directory guest.port t.session.workspace.host ∧
      t.session.workspace.host.image = guest.host.image := by
  obtain ⟨files, t', there', since⟩ := inPlace.present
  cases there.symm.trans there'
  have image : t.session.workspace.host.image = guest.host.image := since.session.image
  refine ⟨⟨inPlace.carries, ?_, ⟨t, there, since.session.isOpen, rfl⟩,
    since.session.faultless guest.sound⟩, image⟩
  rw [image]
  exact inPlace.described

theorem Settled.present (settled : guest.Settled n) : guest.Present n := by
  obtain ⟨files, there⟩ := settled.there
  exact ⟨files, _, there, .refl _⟩

theorem Settled.inPlace (settled : guest.Settled n) (carries : n.carries = true) :
    guest.InPlace n where
  carries := carries
  present := settled.present
  described := ⟨guest.identity.descriptor,
    Descriptor.find_of_read settled.described (ContentHash.agree_iff.2 rfl), rfl⟩

end Guest

namespace Network

variable {n n' : Network} {guest other : Guest}

/-- One guest can find the other, and its links to it are good. -/
structure Acquainted (n : Network) (guest other : Guest) : Prop where
  present : guest.Present n
  inPlace : other.InPlace n
  directed : ∀ t, n.peers[guest.port]? = some (.station t) →
    t.broker.Directed (ContentHash.key other.host.image.hash) other.port

/-- Whatever a worker delivers, its links to a guest in place stay good. -/
theorem serve_directed {broker : Broker (String × Client)} (inPlace : other.InPlace n)
    (directed : broker.Directed (ContentHash.key other.host.image.hash) other.port)
    (commands : List SyncCommand) (record : List Delivery) :
    (broker.serve (connector other.config.directory).recorded commands (n, record)).1.Directed
      (ContentHash.key other.host.image.hash) other.port := by
  induction commands generalizing broker n record with
  | nil => exact directed
  | cons command commands ih =>
    obtain ⟨_, t, there, -⟩ := inPlace.present
    obtain ⟨findable, image⟩ := inPlace.findable there
    have called := called_dispatch broker other.config.directory command (n, record)
    refine ih (inPlace.called called) ?_ _
    rw [← image] at directed ⊢
    exact Broker.dispatch_directed findable directed command record

theorem Acquainted.event (acquainted : n.Acquainted guest other)
    (searched : guest.config.searched = other.config.directory) (e : Event)
    (described : other.IsDescribed (n.event e)) : (n.event e).Acquainted guest other where
  present := acquainted.present.continues (continues_event n e)
  inPlace := {
    carries := (continues_event n e).carries.trans acquainted.inPlace.carries
    present := acquainted.inPlace.present.continues (continues_event n e)
    described := described }
  directed t' there' := by
    obtain ⟨files, t, there, since⟩ := acquainted.present
    by_cases delivers : ∃ count, e = .deliver guest.port count
    · obtain ⟨count, rfl⟩ := delivers
      obtain ⟨n₁, t₁, deliveries, called, stays, delivered⟩ := deliverSome_cases there count
      rw [Network.event, delivered, Std.ExtTreeMap.getElem?_insert_self] at there'
      cases there'
      have directory : t.directory = other.config.directory := since.directory.trans searched
      simp only [directory]
      exact serve_directed (acquainted.inPlace.called (called_taking there count))
        (acquainted.directed t there) _ _
    · rw [sameLinks_event (fun count same => delivers ⟨count, same⟩) t t' there there']
      exact acquainted.directed t there

theorem Acquainted.run (acquainted : n.Acquainted guest other)
    (searched : guest.config.searched = other.config.directory) {events : List Event}
    (described : Throughout other.IsDescribed n events) : (n.run events).Acquainted guest other := by
  induction events generalizing n with
  | nil => exact acquainted
  | cons e events ih => exact ih (acquainted.event searched e described.2.first) described.2

/-- Two guests that were just launched are acquainted. -/
theorem acquainted_of_settled (carries : n.carries = true) (settled : guest.Settled n)
    (settled' : other.Settled n) : n.Acquainted guest other where
  present := settled.present
  inPlace := settled'.inPlace carries
  directed t there := by
    obtain ⟨files, there'⟩ := settled.there
    cases there.symm.trans there'
    exact .empty

end Network

end Tandem
