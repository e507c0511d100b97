import Mathlib.Data.List.Forall2
import Tandem.Proofs.ContentHash
import Tandem.Proofs.Sync.Worker
import Tandem.Sync.Rehearsal

/-! # Links and their faults

A broker has a link to a session exactly as long as the last command for that session was delivered,
and it searches for the session exactly when it has no link to it. So a link over which a call failed
is gone for good.

Links are told apart by numbers. `Connector.numbered` gives every link that a connector opens a number
of its own and lists the calls by these numbers, and `SyncRun.play_numbered` shows that a worker does
the same with numbers and without.

* `SyncRun.Tracked` ties the links at hand to what became of the last command for each session.
* `Broker.Orderly` says that no link at hand has failed, and that no call went over a failed one.
* `SyncRun.Recased.play` shows that the case of the letters in a hash makes no difference. -/

namespace Tandem

variable {σ Link : Type}

/-! ## Numbers for links -/

/-- The world of a connector, with the number of links opened in it and the calls made over them. -/
structure Numbered (σ : Type) where
  world : σ
  opened : Nat := 0
  /-- The number of the link of each call, and how the call ended. -/
  calls : List (Nat × Except SyncError Unit) := []

/-- A connector that numbers the links that it opens. -/
def Connector.numbered (connector : Connector σ Link) : Connector (Numbered σ) (Nat × Link) where
  connect key := fun n =>
    match connector.connect key n.world with
    | (.ok link, world) => (.ok (n.opened, link), { n with world := world, opened := n.opened + 1 })
    | (.error error, world) => (.error error, { n with world := world })
  jumpto link address := fun n =>
    let (result, world) := connector.jumpto link.2 address n.world
    (result, { n with world := world, calls := n.calls ++ [(link.1, result)] })

namespace Connector

variable {connector : Connector σ Link} {key : String} {n n' : Numbered σ}

theorem numbered_connect_ok {link : Nat × Link}
    (found : connector.numbered.connect key n = (.ok link, n')) :
    connector.connect key n.world = (.ok link.2, n'.world) ∧ link.1 = n.opened ∧
      n'.opened = n.opened + 1 ∧ n'.calls = n.calls := by
  simp only [numbered] at found
  split at found
  · rename_i inner world answered
    cases found
    exact ⟨answered, rfl, rfl, rfl⟩
  · cases found

theorem numbered_connect_error {error : SyncError}
    (lost : connector.numbered.connect key n = (.error error, n')) :
    connector.connect key n.world = (.error error, n'.world) ∧ n'.opened = n.opened ∧
      n'.calls = n.calls := by
  simp only [numbered] at lost
  split at lost
  · cases lost
  · rename_i inner world answered
    cases lost
    exact ⟨answered, rfl, rfl⟩

theorem numbered_jumpto {link : Nat × Link} {address : Address} {result : Except SyncError Unit}
    (answered : connector.numbered.jumpto link address n = (result, n')) :
    connector.jumpto link.2 address n.world = (result, n'.world) ∧ n'.opened = n.opened ∧
      n'.calls = n.calls ++ [(link.1, result)] := by
  cases answered
  exact ⟨rfl, rfl, rfl⟩

end Connector

namespace Broker

/-- The links without their numbers. -/
def unnumbered (broker : Broker (String × Nat × Link)) : Broker (String × Link) :=
  ⟨broker.links.map fun _ link => (link.1, link.2.2)⟩

variable {connector : Connector σ Link} {broker broker' : Broker (String × Nat × Link)}
  {n n' : Numbered σ}

theorem getElem?_unnumbered (broker : Broker (String × Nat × Link)) (key : String) :
    broker.unnumbered.links[key]? = broker.links[key]?.map fun link => (link.1, link.2.2) :=
  Std.ExtTreeMap.getElem?_map

theorem unnumbered_empty : (Broker.empty : Broker (String × Nat × Link)).unnumbered = .empty := by
  simp only [unnumbered, Broker.empty, mk.injEq]
  exact Std.ExtTreeMap.ext_getElem? fun key => by simp

theorem unnumbered_insert (broker : Broker (String × Nat × Link)) (key : String)
    (link : String × Nat × Link) :
    unnumbered ⟨broker.links.insert key link⟩ =
      ⟨broker.unnumbered.links.insert key (link.1, link.2.2)⟩ := by
  simp only [unnumbered, mk.injEq]
  refine Std.ExtTreeMap.ext_getElem? fun other => ?_
  simp only [Std.ExtTreeMap.getElem?_map, Std.ExtTreeMap.getElem?_insert]
  split <;> rfl

theorem unnumbered_evict (broker : Broker (String × Nat × Link)) (hash : String) :
    (broker.evict hash).unnumbered = broker.unnumbered.evict hash := by
  simp only [unnumbered, evict, mk.injEq]
  refine Std.ExtTreeMap.ext_getElem? fun other => ?_
  simp only [Std.ExtTreeMap.getElem?_map, Std.ExtTreeMap.getElem?_erase]
  split <;> rfl

theorem Filed.unnumbered (filed : broker.Filed) : broker.unnumbered.Filed := by
  intro key link held
  rw [getElem?_unnumbered] at held
  obtain ⟨link', held', rfl⟩ := Option.map_eq_some_iff.1 held
  exact filed key link' held'

theorem Resolves.unnumbered {key : String} {search : Option (Except SyncError Unit)}
    {link : String × Nat × Link}
    (resolves : Resolves connector.numbered broker key n search link broker' n') :
    Resolves connector broker.unnumbered key n.world search (link.1, link.2.2) broker'.unnumbered
      n'.world := by
  cases resolves with
  | cached held => exact .cached (by rw [getElem?_unnumbered, held]; rfl)
  | opened absent found =>
    rw [unnumbered_insert]
    exact .opened (by rw [getElem?_unnumbered, absent]; rfl) (Connector.numbered_connect_ok found).1

/-- What becomes of a command does not depend on the numbers. -/
theorem Serves.unnumbered {command : SyncCommand} {search call : Option (Except SyncError Unit)}
    (serves : Serves connector.numbered broker command n search call broker' n') :
    Serves connector broker.unnumbered command n.world search call broker'.unnumbered n'.world := by
  cases serves with
  | unresolved absent lost =>
    exact .unresolved (by rw [getElem?_unnumbered, absent]; rfl)
      (Connector.numbered_connect_error lost).1
  | delivered resolves answered =>
    exact .delivered resolves.unnumbered (Connector.numbered_jumpto answered).1
  | failed resolves answered =>
    rw [unnumbered_evict]
    exact .failed resolves.unnumbered (Connector.numbered_jumpto answered).1

end Broker

namespace SyncRun

/-- The run without the numbers of its links. -/
def unnumbered (r : SyncRun (Numbered σ) (Nat × Link)) : SyncRun σ Link :=
  ⟨r.outbox, r.broker.unnumbered, r.world.world, r.record⟩

theorem move_numbered (connector : Connector σ Link) {r : SyncRun (Numbered σ) (Nat × Link)}
    (filed : r.broker.Filed) (m : SyncMove) :
    (r.move connector.numbered m).unnumbered = r.unnumbered.move connector m ∧
      (r.move connector.numbered m).broker.Filed := by
  cases m with
  | submit producer command => exact ⟨rfl, filed⟩
  | serve =>
    cases queue : r.outbox.waiting with
    | nil =>
      rw [move_serve_nil connector.numbered queue, move_serve_nil connector (r := r.unnumbered) queue]
      exact ⟨rfl, filed⟩
    | cons command rest =>
      obtain ⟨search, call, broker, world, serves⟩ :=
        Broker.exists_serves connector.numbered r.broker command r.world
      rw [move_serve_cons queue serves filed,
        move_serve_cons (r := r.unnumbered) queue serves.unnumbered filed.unnumbered]
      exact ⟨rfl, serves.filed filed⟩

/-- A worker does the same whether or not its links are numbered. -/
theorem play_numbered (connector : Connector σ Link) (moves : List SyncMove) :
    ∀ r : SyncRun (Numbered σ) (Nat × Link), r.broker.Filed →
      (r.play connector.numbered moves).unnumbered = r.unnumbered.play connector moves := by
  induction moves with
  | nil => intro r _; rfl
  | cons m moves ih =>
    intro r filed
    obtain ⟨same, filed'⟩ := move_numbered connector filed m
    have rest := ih (r.move connector.numbered m) filed'
    rw [same] at rest
    exact rest

end SyncRun

/-! ## The last command for a session -/

namespace Attempt

/-- Whether the peer was called and did what it was asked to. -/
def delivered (a : Attempt) : Bool :=
  match a.call with
  | some (.ok _) => true
  | _ => false

/-- The last of several attempts that was for a given session. -/
def lastFor? (key : String) (attempts : List Attempt) : Option Attempt :=
  attempts.reverse.find? (·.command.key = key)

/-- There was a command for the session, and the last one was delivered. -/
def LastDelivered (key : String) (attempts : List Attempt) : Prop :=
  ∃ a, lastFor? key attempts = some a ∧ a.delivered = true

theorem not_lastDelivered_nil (key : String) : ¬ LastDelivered key [] := by
  rintro ⟨a, found, -⟩
  cases found

theorem lastDelivered_append_self {key : String} {a : Attempt} (own : a.command.key = key)
    (attempts : List Attempt) : LastDelivered key (attempts ++ [a]) ↔ a.delivered = true := by
  simp [LastDelivered, lastFor?, own]

theorem lastDelivered_append_of_ne {key : String} {a : Attempt} (other : a.command.key ≠ key)
    (attempts : List Attempt) :
    LastDelivered key (attempts ++ [a]) ↔ LastDelivered key attempts := by
  simp [LastDelivered, lastFor?, other]

end Attempt

namespace Broker

variable {connector : Connector σ Link} {broker broker' : Broker (String × Link)}
  {command : SyncCommand} {s s' : σ}

theorem Resolves.holds {key : String} {search : Option (Except SyncError Unit)}
    {link : String × Link} (resolves : Resolves connector broker key s search link broker' s') :
    broker'.links[key]? = some link := by
  cases resolves with
  | cached held => exact held
  | opened absent found => simp

theorem Resolves.searches {key : String} {search : Option (Except SyncError Unit)}
    {link : String × Link} (resolves : Resolves connector broker key s search link broker' s') :
    search.isSome = true ↔ broker.links[key]? = none := by
  cases resolves with
  | cached held => simp [held]
  | opened absent found => simp [absent]

theorem Resolves.others {key : String} {search : Option (Except SyncError Unit)}
    {link : String × Link} (resolves : Resolves connector broker key s search link broker' s')
    {other : String} (apart : key ≠ other) : broker'.links[other]? = broker.links[other]? := by
  cases resolves with
  | cached held => rfl
  | opened absent found => simp [Std.ExtTreeMap.getElem?_insert, apart]

theorem getElem?_evict_self (broker : Broker (String × Link)) (hash : String) :
    (broker.evict hash).links[ContentHash.key hash]? = none := by
  simp [evict]

theorem getElem?_evict_of_ne (broker : Broker (String × Link)) {hash other : String}
    (apart : ContentHash.key hash ≠ other) :
    (broker.evict hash).links[other]? = broker.links[other]? := by
  simp [evict, Std.ExtTreeMap.getElem?_erase, apart]

/-- The worker searches for a session when it has no link to it. -/
theorem Serves.searches {search call : Option (Except SyncError Unit)}
    (serves : Serves connector broker command s search call broker' s') :
    search.isSome = true ↔ broker.links[command.key]? = none := by
  cases serves with
  | unresolved absent lost => simp [absent]
  | delivered resolves answered => exact resolves.searches
  | failed resolves answered => exact resolves.searches

/-- The worker is left with a link to the session of a command when the command was delivered. -/
theorem Serves.keeps {search call : Option (Except SyncError Unit)} {producer : Nat}
    (serves : Serves connector broker command s search call broker' s') :
    broker'.links[command.key]?.isSome = true ↔
      Attempt.delivered ⟨producer, command, search, call⟩ = true := by
  cases serves with
  | unresolved absent lost => simp [absent, Attempt.delivered]
  | delivered resolves answered => simp [resolves.holds, Attempt.delivered]
  | failed resolves answered =>
    have gone := getElem?_evict_self ‹_› command.target
    rw [SyncCommand.key, gone]
    simp [Attempt.delivered]

/-- The links to other sessions are not touched. -/
theorem Serves.others {search call : Option (Except SyncError Unit)}
    (serves : Serves connector broker command s search call broker' s') {other : String}
    (apart : command.key ≠ other) : broker'.links[other]? = broker.links[other]? := by
  cases serves with
  | unresolved absent lost => rfl
  | delivered resolves answered => exact resolves.others apart
  | failed resolves answered => rw [getElem?_evict_of_ne _ apart, resolves.others apart]

end Broker

namespace SyncRun

/-- The links at hand are those to the sessions whose last command was delivered, and the worker
searched for a session just when it had no such link. -/
structure Tracked (r : SyncRun σ Link) (attempts : List Attempt) : Prop where
  cached : ∀ key, r.broker.links[key]?.isSome = true ↔ Attempt.LastDelivered key attempts
  searched : ∀ before a after, attempts = before ++ a :: after →
    (a.search.isSome = true ↔ ¬ Attempt.LastDelivered a.command.key before)

theorem tracked_start (s : σ) : Tracked ({ world := s } : SyncRun σ Link) [] where
  cached key := by simp [Broker.empty, Attempt.not_lastDelivered_nil]
  searched before a after split := by simp at split

theorem Tracked.keeps {connector : Connector σ Link} {r r' : SyncRun σ Link}
    {attempts news : List Attempt} (tracked : r.Tracked attempts)
    (progress : Progress connector r r' news) : r'.Tracked (attempts ++ news) := by
  cases progress with
  | still broker world =>
    rw [List.append_nil]
    exact ⟨by rw [broker]; exact tracked.cached, tracked.searched⟩
  | @served a serves =>
    refine ⟨fun key => ?_, fun before b after split => ?_⟩
    · by_cases own : a.command.key = key
      · subst own
        rw [Attempt.lastDelivered_append_self rfl]
        exact serves.keeps
      · rw [Attempt.lastDelivered_append_of_ne own, serves.others own]
        exact tracked.cached key
    · -- the new attempt is the last one, and what is known of the earlier ones stays
      rcases List.eq_nil_or_concat after with rfl | ⟨after, last, rfl⟩
      · obtain ⟨rfl, same⟩ := List.append_inj' split rfl
        cases same
        rw [serves.searches, ← tracked.cached]
        simp
      · rw [List.concat_eq_append, ← List.cons_append, ← List.append_assoc] at split
        exact tracked.searched before b after (List.append_inj' split rfl).1

end SyncRun

/-! ## Failed links -/

/-- A call avoids the link of an earlier one that failed. -/
def Numbered.Avoids (earlier later : Nat × Except SyncError Unit) : Prop :=
  (∃ error, earlier.2 = .error error) → later.1 ≠ earlier.1

namespace Broker

open Numbered (Avoids)

/-- No link at hand has failed, each has its own number, and after a call that failed there is none
over the same link. -/
structure Orderly (broker : Broker (String × Nat × Link)) (n : Numbered σ) : Prop where
  opened : ∀ (key : String) (link : String × Nat × Link),
    broker.links[key]? = some link → link.2.1 < n.opened
  distinct : ∀ (key key' : String) (link link' : String × Nat × Link),
    broker.links[key]? = some link → broker.links[key']? = some link' → link.2.1 = link'.2.1 →
    key = key'
  healthy : ∀ (key : String) (link : String × Nat × Link), broker.links[key]? = some link →
    ∀ error, (link.2.1, .error error) ∉ n.calls
  known : ∀ call ∈ n.calls, call.1 < n.opened
  avoids : n.calls.Pairwise Avoids

variable {connector : Connector σ Link} {broker broker' : Broker (String × Nat × Link)}
  {n n' : Numbered σ}

theorem Orderly.start (s : σ) :
    (Broker.empty : Broker (String × Nat × Link)).Orderly ({ world := s } : Numbered σ) where
  opened key link held := by simp [Broker.empty] at held
  distinct key _ link _ held := by simp [Broker.empty] at held
  healthy key link held := by simp [Broker.empty] at held
  known := by simp
  avoids := .nil

/-- A search does not matter to the links at hand. -/
theorem Orderly.congr (orderly : broker.Orderly n) (opened : n.opened = n'.opened)
    (calls : n'.calls = n.calls) : broker.Orderly n' where
  opened key link held := opened ▸ orderly.opened key link held
  distinct := orderly.distinct
  healthy key link held := by rw [calls]; exact orderly.healthy key link held
  known := by rw [calls, ← opened]; exact orderly.known
  avoids := by rw [calls]; exact orderly.avoids

/-- A link that has just been opened has a number that no other link had. -/
theorem Orderly.insert (orderly : broker.Orderly n) (key : String) {link : Nat × Link}
    (fresh : link.1 = n.opened) (opened : n'.opened = n.opened + 1) (calls : n'.calls = n.calls) :
    Orderly ⟨broker.links.insert key (key, link)⟩ n' := by
  have cases : ∀ {other : String} {link' : String × Nat × Link},
      (broker.links.insert key (key, link))[other]? = some link' →
      other = key ∧ link'.2.1 = n.opened ∨ broker.links[other]? = some link' ∧ link'.2.1 < n.opened := by
    intro other link' held
    rw [Std.ExtTreeMap.getElem?_insert] at held
    split at held
    · rename_i same
      cases held
      have own : key = other := by simpa using same
      exact .inl ⟨own.symm, fresh⟩
    · exact .inr ⟨held, orderly.opened other link' held⟩
  -- the new number is above all others, so old links are told apart from it by size
  refine ⟨?_, ?_, ?_, ?_, ?_⟩
  · intro other link' held
    rcases cases held with ⟨-, number⟩ | ⟨-, less⟩ <;> omega
  · intro one other link₁ link₂ held₁ held₂ same
    rcases cases held₁ with ⟨rfl, number₁⟩ | ⟨old₁, less₁⟩ <;>
      rcases cases held₂ with ⟨rfl, number₂⟩ | ⟨old₂, less₂⟩
    · rfl
    · omega
    · omega
    · exact orderly.distinct one other link₁ link₂ old₁ old₂ same
  · intro other link' held error
    rw [calls]
    rcases cases held with ⟨-, number⟩ | ⟨old, -⟩
    · intro called
      have less := orderly.known _ called
      omega
    · exact orderly.healthy other link' old error
  · intro call member
    rw [calls] at member
    have less := orderly.known call member
    omega
  · rw [calls]
    exact orderly.avoids

/-- A link at hand has not failed, so it may be called. -/
theorem Orderly.called (orderly : broker.Orderly n) {key : String} {link : String × Nat × Link}
    (held : broker.links[key]? = some link) (result : Except SyncError Unit) :
    (n.calls ++ [(link.2.1, result)]).Pairwise Avoids ∧
      ∀ call ∈ n.calls ++ [(link.2.1, result)], call.1 < n.opened := by
  refine ⟨List.pairwise_append.2 ⟨orderly.avoids, List.pairwise_singleton _ _, ?_⟩, ?_⟩
  · rintro ⟨number, ended⟩ member call last ⟨error, rfl⟩
    obtain rfl := List.mem_singleton.1 last
    rintro rfl
    exact orderly.healthy key link held error member
  · intro call member
    rcases List.mem_append.1 member with earlier | last
    · exact orderly.known call earlier
    · obtain rfl := List.mem_singleton.1 last
      exact orderly.opened key link held

theorem Orderly.delivered (orderly : broker.Orderly n) {key : String} {link : String × Nat × Link}
    (held : broker.links[key]? = some link) (opened : n'.opened = n.opened)
    (calls : n'.calls = n.calls ++ [(link.2.1, .ok ())]) : broker.Orderly n' where
  opened := by rw [opened]; exact orderly.opened
  distinct := orderly.distinct
  healthy other link' held' error := by
    rw [calls]
    simpa using orderly.healthy other link' held' error
  known := by rw [calls, opened]; exact (orderly.called held _).2
  avoids := by rw [calls]; exact (orderly.called held _).1

/-- The link that failed is dropped, and no other link has its number. -/
theorem Orderly.failed (orderly : broker.Orderly n) {hash : String} {link : String × Nat × Link}
    (held : broker.links[ContentHash.key hash]? = some link) {error : SyncError}
    (opened : n'.opened = n.opened) (calls : n'.calls = n.calls ++ [(link.2.1, .error error)]) :
    (broker.evict hash).Orderly n' := by
  have kept : ∀ {key : String} {link' : String × Nat × Link},
      (broker.evict hash).links[key]? = some link' →
      broker.links[key]? = some link' ∧ ContentHash.key hash ≠ key := by
    intro key link' held'
    by_cases own : ContentHash.key hash = key
    · rw [← own, getElem?_evict_self] at held'
      cases held'
    · rw [getElem?_evict_of_ne _ own] at held'
      exact ⟨held', own⟩
  refine ⟨?_, ?_, ?_, ?_, ?_⟩
  · intro key link' held'
    rw [opened]
    exact orderly.opened key link' (kept held').1
  · intro one other link₁ link₂ held₁ held₂
    exact orderly.distinct one other link₁ link₂ (kept held₁).1 (kept held₂).1
  · intro key link' held' error'
    obtain ⟨old, apart⟩ := kept held'
    rw [calls]
    intro member
    rcases List.mem_append.1 member with earlier | last
    · exact orderly.healthy key link' old error' earlier
    · -- a link with the number of the failed one would be filed under its key
      have same := congrArg Prod.fst (List.mem_singleton.1 last)
      exact apart (orderly.distinct _ _ _ _ held old same.symm)
  · rw [calls, opened]
    exact (orderly.called held _).2
  · rw [calls]
    exact (orderly.called held _).1

theorem Resolves.orderly {key : String} {search : Option (Except SyncError Unit)}
    {link : String × Nat × Link}
    (resolves : Resolves connector.numbered broker key n search link broker' n')
    (orderly : broker.Orderly n) : broker'.Orderly n' ∧ n'.calls = n.calls := by
  cases resolves with
  | cached held => exact ⟨orderly, rfl⟩
  | opened absent found =>
    obtain ⟨-, fresh, opened, calls⟩ := Connector.numbered_connect_ok found
    exact ⟨orderly.insert key fresh opened calls, calls⟩

/-- A command leads to at most one call, and that is over a link that has not failed. -/
theorem Serves.orderly {command : SyncCommand} {search call : Option (Except SyncError Unit)}
    (serves : Serves connector.numbered broker command n search call broker' n')
    (orderly : broker.Orderly n) :
    broker'.Orderly n' ∧ n'.calls.map Prod.snd = n.calls.map Prod.snd ++ call.toList := by
  cases serves with
  | unresolved absent lost =>
    obtain ⟨-, opened, calls⟩ := Connector.numbered_connect_error lost
    exact ⟨orderly.congr opened.symm calls, by simp [calls]⟩
  | delivered resolves answered =>
    obtain ⟨orderly', earlier⟩ := resolves.orderly orderly
    obtain ⟨-, opened, calls⟩ := Connector.numbered_jumpto answered
    exact ⟨orderly'.delivered resolves.holds opened calls, by simp [calls, earlier]⟩
  | failed resolves answered =>
    obtain ⟨orderly', earlier⟩ := resolves.orderly orderly
    obtain ⟨-, opened, calls⟩ := Connector.numbered_jumpto answered
    exact ⟨orderly'.failed resolves.holds opened calls, by simp [calls, earlier]⟩

end Broker

/-! ## The case of letters -/

/-- The same command but for the case of the letters in its hash. -/
def SyncCommand.Recased (command other : SyncCommand) : Prop :=
  ContentHash.agree command.target other.target = true ∧ command.address = other.address

/-- The same move but for the case of the letters in hashes. -/
inductive SyncMove.Recased : SyncMove → SyncMove → Prop
  | submit {producer : Nat} {command other : SyncCommand} (recased : command.Recased other) :
      Recased (.submit producer command) (.submit producer other)
  | serve : Recased .serve .serve

theorem Broker.dispatch_recased (connector : Connector σ Link) (broker : Broker Link)
    {command other : SyncCommand} (recased : command.Recased other) :
    broker.dispatch connector command = broker.dispatch connector other := by
  obtain ⟨peer, address⟩ := command
  obtain ⟨peer', address'⟩ := other
  obtain ⟨agree, same⟩ := recased
  have key : ContentHash.key peer = ContentHash.key peer' := ContentHash.agree_iff.1 agree
  cases same
  simp only [dispatch, connect, evict, call, SyncCommand.target, key]

namespace SyncRun

/-- Two runs that differ at most in the case of the letters in the commands that wait. -/
structure Recased (r r' : SyncRun σ Link) : Prop where
  isOpen : r'.outbox.isOpen = r.outbox.isOpen
  waiting : List.Forall₂ SyncCommand.Recased r.outbox.waiting r'.outbox.waiting
  broker : r'.broker = r.broker
  world : r'.world = r.world
  record : r'.record = r.record

theorem Recased.refl {r : SyncRun σ Link} (idle : r.outbox.waiting = []) : r.Recased r :=
  ⟨rfl, by rw [idle]; exact .nil, rfl, rfl, rfl⟩

theorem Recased.move {r r' : SyncRun σ Link} (recased : r.Recased r') (connector : Connector σ Link)
    {m m' : SyncMove} (same : m.Recased m') :
    (r.move connector m).Recased (r'.move connector m') := by
  cases same with
  | @submit producer command other same =>
    simp only [SyncRun.move, Outbox.enqueue, recased.isOpen]
    cases r.outbox.isOpen with
    | false => exact ⟨recased.isOpen, recased.waiting, recased.broker, recased.world, recased.record⟩
    | true =>
      refine ⟨rfl, ?_, recased.broker, recased.world, recased.record⟩
      exact List.rel_append recased.waiting (.cons same .nil)
  | serve =>
    have waiting := recased.waiting
    simp only [SyncRun.move]
    cases queue : r.outbox.waiting with
    | nil =>
      rw [queue] at waiting
      rw [List.forall₂_nil_left_iff.1 waiting]
      exact recased
    | cons command rest =>
      rw [queue] at waiting
      obtain ⟨other, rest', same, left, queue'⟩ := List.forall₂_cons_left_iff.1 waiting
      rw [queue']
      simp only [recased.broker, recased.world, recased.record,
        Broker.dispatch_recased connector.recorded r.broker same]
      exact ⟨recased.isOpen, left, rfl, rfl, rfl⟩

/-- The worker does the same for commands whose hashes differ in the case of letters. -/
theorem Recased.play (connector : Connector σ Link) {moves moves' : List SyncMove}
    (same : List.Forall₂ SyncMove.Recased moves moves') :
    ∀ {r r' : SyncRun σ Link}, r.Recased r' →
      (r.play connector moves).Recased (r'.play connector moves') := by
  induction same with
  | nil => intro r r' recased; exact recased
  | cons first rest ih => intro r r' recased; exact ih (recased.move connector first)

/-! ## Whole runs -/

/-- All that is known of a run with numbered links: the links at hand are tracked, failed links are
gone, and the calls listed by numbers are those of the attempts. -/
structure Watched (r : SyncRun (Numbered σ) (Nat × Link)) (attempts : List Attempt) : Prop where
  tracked : r.Tracked attempts
  orderly : r.broker.Orderly r.world
  calls : r.world.calls.map Prod.snd = attempts.filterMap Attempt.call

theorem watched_start (s : σ) :
    Watched ({ world := { world := s } } : SyncRun (Numbered σ) (Nat × Link)) [] :=
  ⟨tracked_start _, .start s, rfl⟩

theorem Watched.keeps {connector : Connector σ Link} {r r' : SyncRun (Numbered σ) (Nat × Link)}
    {attempts news : List Attempt} (watched : r.Watched attempts)
    (progress : Progress connector.numbered r r' news) : r'.Watched (attempts ++ news) := by
  have tracked := watched.tracked.keeps progress
  cases progress with
  | still broker world =>
    refine ⟨tracked, ?_, ?_⟩
    · rw [broker, world]
      exact watched.orderly
    · rw [world, List.append_nil]
      exact watched.calls
  | @served a serves =>
    obtain ⟨orderly, calls⟩ := serves.orderly watched.orderly
    refine ⟨tracked, orderly, ?_⟩
    rw [calls, watched.calls, List.filterMap_append]
    cases called : a.call <;> simp [called]

/-- The worker has a link to a session exactly when there was a command for the session and the last
one was delivered. It searches for a session exactly when there was none or the last one was not
delivered. Of the links, told apart by numbers that change nothing else, none is called again after a
call over it failed. And the case of the letters in hashes makes no difference to any of this. -/
theorem failed_links_are_never_reused (connector : Connector σ Link) (s : σ)
    (moves : List SyncMove) :
    let r : SyncRun σ Link := play connector { world := s } moves
    let n : SyncRun (Numbered σ) (Nat × Link) :=
      play connector.numbered { world := { world := s } } moves
    n.unnumbered = r ∧
    (∃ attempts : List Attempt, r.Accounted (SyncMove.submissions moves) attempts ∧
      (∀ hash, r.broker.isCached hash = true ↔
        Attempt.LastDelivered (ContentHash.key hash) attempts) ∧
      (∀ before a after, attempts = before ++ a :: after →
        (a.search.isSome = true ↔ ¬ Attempt.LastDelivered a.command.key before)) ∧
      n.world.calls.map Prod.snd = attempts.filterMap Attempt.call) ∧
    n.world.calls.Pairwise Numbered.Avoids ∧
    ∀ moves', List.Forall₂ SyncMove.Recased moves moves' →
      r.Recased (play connector { world := s } moves') ∧
      n.Recased (play connector.numbered { world := { world := s } } moves') := by
  intro r n
  have plain : n.unnumbered = r := by
    have same := play_numbered connector moves
      ({ world := { world := s } } : SyncRun (Numbered σ) (Nat × Link)) .empty
    simpa only [unnumbered, Broker.unnumbered_empty] using same
  -- the run with numbers is the one that is watched, and what it shows carries over
  obtain ⟨attempts, accounted, watched⟩ := accounted_along connector.numbered Watched.keeps moves
    (accounted_start { world := s }) (watched_start s)
  rw [List.nil_append] at accounted
  refine ⟨plain, ⟨attempts, ?_, ?_, watched.tracked.searched, watched.calls⟩,
    watched.orderly.avoids, ?_⟩
  · rw [← plain]
    exact ⟨accounted.isOpen, accounted.filed.unnumbered, accounted.queued, accounted.recorded,
      accounted.called⟩
  · intro hash
    rw [← watched.tracked.cached, ← plain, Broker.isCached, Std.ExtTreeMap.contains_eq_isSome_getElem?]
    have held := n.broker.getElem?_unnumbered (ContentHash.key hash)
    simp only [unnumbered, held, Option.isSome_map]
    rfl
  · intro moves' same
    exact ⟨Recased.play connector same (.refl rfl), Recased.play connector.numbered same (.refl rfl)⟩

-- The first call fails, so the second command gets a link of its own, which serves the third as well.
example : (play Rehearsal.connector.numbered { world := { world := { failing := 1 } } }
    [.submit 0 (.jumpto "aA" 1), .serve, .submit 0 (.jumpto "AA" 2), .serve,
      .submit 0 (.jumpto "aa" 3), .serve]).world.calls.map Prod.fst = [0, 1, 1] := by
  cbv

end SyncRun

end Tandem
