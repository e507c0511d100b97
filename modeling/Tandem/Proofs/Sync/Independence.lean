import Mathlib.Logic.Function.Basic
import Tandem.Proofs.ContentHash
import Tandem.Proofs.Sync.Links

/-! # Peers that do not influence each other

One worker with one set of links serves all peers. When each peer follows a script of its own, what
the worker does for one of them is what it would do if there were no others.

* `PeerScript.connector` is the connector of peers that follow scripts.
* `SyncRun.Mirrors` compares a worker with one that gets only the commands for a single peer. A command
  for that peer takes both of them the same step (`Broker.Serves.mirrored`), and a command for another
  peer changes nothing that is compared (`Broker.Serves.unseen`). -/

namespace Tandem

/-! ## Scripts -/

/-- How a peer behaves: how each search for it ends, and each call of it, by their numbers. -/
structure PeerScript where
  search : Nat → Except SyncError Unit
  call : Nat → Address → Except SyncError Unit

/-- How often a peer was searched for and called. -/
structure PeerTally where
  searches : Nat := 0
  calls : Nat := 0
  deriving DecidableEq

namespace PeerScript

/-- Peers that follow their scripts. A link is the key that it leads to. -/
def connector (scripts : String → PeerScript) : Connector (String → PeerTally) String where
  connect key := fun tallies =>
    (((scripts key).search (tallies key).searches).map fun _ => key,
      Function.update tallies key { tallies key with searches := (tallies key).searches + 1 })
  jumpto key address := fun tallies =>
    ((scripts key).call (tallies key).calls address,
      Function.update tallies key { tallies key with calls := (tallies key).calls + 1 })

variable {scripts scripts' : String → PeerScript} {key : String}
  {tallies tallies' after : String → PeerTally}

theorem connect_link {link : String}
    (found : (connector scripts).connect key tallies = (.ok link, after)) : link = key := by
  obtain ⟨ended, -⟩ := Prod.mk.inj found
  cases answer : (scripts key).search (tallies key).searches with
  | ok _ => simpa [answer, Except.map] using ended.symm
  | error error => simp [answer, Except.map] at ended

theorem connect_elsewhere {result : Except SyncError String} {other : String} (apart : key ≠ other)
    (found : (connector scripts).connect key tallies = (result, after)) :
    after other = tallies other := by
  obtain ⟨-, rfl⟩ := Prod.mk.inj found
  exact Function.update_of_ne apart.symm _ _

theorem jumpto_elsewhere {result : Except SyncError Unit} {other : String} {address : Address}
    (apart : key ≠ other)
    (answered : (connector scripts).jumpto key address tallies = (result, after)) :
    after other = tallies other := by
  obtain ⟨-, rfl⟩ := Prod.mk.inj answered
  exact Function.update_of_ne apart.symm _ _

variable (same : scripts key = scripts' key) (tally : tallies key = tallies' key)
include same tally

/-- A search depends on nothing but the script of the peer and the number of searches for it. -/
theorem connect_mirrored {result : Except SyncError String}
    (found : (connector scripts).connect key tallies = (result, after)) :
    ∃ after', (connector scripts').connect key tallies' = (result, after') ∧
      after key = after' key := by
  obtain ⟨rfl, rfl⟩ := Prod.mk.inj found
  refine ⟨_, Prod.ext ?_ rfl, ?_⟩
  · simp only [connector, same, tally]
  · simp only [connector, Function.update_self, tally]

theorem jumpto_mirrored {result : Except SyncError Unit} {address : Address}
    (answered : (connector scripts).jumpto key address tallies = (result, after)) :
    ∃ after', (connector scripts').jumpto key address tallies' = (result, after') ∧
      after key = after' key := by
  obtain ⟨rfl, rfl⟩ := Prod.mk.inj answered
  refine ⟨_, Prod.ext ?_ rfl, ?_⟩
  · simp only [connector, same, tally]
  · simp only [connector, Function.update_self, tally]

end PeerScript

/-! ## One command -/

namespace Broker

/-- Every link leads to the key that it is filed under. -/
def Straight (broker : Broker (String × String)) : Prop :=
  ∀ (key : String) (link : String × String), broker.links[key]? = some link → link = (key, key)

variable {scripts scripts' : String → PeerScript} {broker broker₁ broker' : Broker (String × String)}
  {tallies tallies₁ tallies' : String → PeerTally} {command : SyncCommand} {key : String}
  {search call : Option (Except SyncError Unit)}

theorem Straight.empty : Straight .empty := by
  intro key link held
  simp [Broker.empty] at held

theorem Straight.evict (straight : broker.Straight) (hash : String) :
    (broker.evict hash).Straight := by
  intro key link held
  by_cases own : ContentHash.key hash = key
  · rw [← own, getElem?_evict_self] at held
    cases held
  · rw [getElem?_evict_of_ne _ own] at held
    exact straight key link held

theorem Straight.filed (straight : broker.Straight) : broker.Filed := by
  intro key link held
  rw [straight key link held]

theorem Resolves.straight {link : String × String}
    (resolves : Resolves (PeerScript.connector scripts) broker key tallies search link broker₁ tallies₁)
    (straight : broker.Straight) : link = (key, key) ∧ broker₁.Straight := by
  cases resolves with
  | cached held => exact ⟨straight key link held, straight⟩
  | opened absent found =>
    obtain rfl := PeerScript.connect_link found
    refine ⟨rfl, fun other link held => ?_⟩
    rw [Std.ExtTreeMap.getElem?_insert] at held
    split at held
    · rename_i same
      cases held
      simp only [Std.compare_eq_iff_eq] at same
      rw [same]
    · exact straight other link held

theorem Serves.straight
    (serves : Serves (PeerScript.connector scripts) broker command tallies search call broker₁ tallies₁)
    (straight : broker.Straight) : broker₁.Straight := by
  cases serves with
  | unresolved absent lost => exact straight
  | delivered resolves answered => exact (resolves.straight straight).2
  | failed resolves answered => exact (resolves.straight straight).2.evict _

/-! ### A command for another peer -/

theorem Resolves.unseen {link : String × String} {other : String} (apart : key ≠ other)
    (resolves :
      Resolves (PeerScript.connector scripts) broker key tallies search link broker₁ tallies₁) :
    tallies₁ other = tallies other := by
  cases resolves with
  | cached held => rfl
  | opened absent found => exact PeerScript.connect_elsewhere apart found

/-- The script of one peer goes on where it was after a command for another peer. -/
theorem Serves.unseen {other : String} (apart : command.key ≠ other) (straight : broker.Straight)
    (serves :
      Serves (PeerScript.connector scripts) broker command tallies search call broker₁ tallies₁) :
    tallies₁ other = tallies other := by
  cases serves with
  | unresolved absent lost => exact PeerScript.connect_elsewhere apart lost
  | delivered resolves answered =>
    obtain ⟨rfl, -⟩ := resolves.straight straight
    rw [PeerScript.jumpto_elsewhere apart answered, resolves.unseen apart]
  | failed resolves answered =>
    obtain ⟨rfl, -⟩ := resolves.straight straight
    rw [PeerScript.jumpto_elsewhere apart answered, resolves.unseen apart]

/-! ### A command for the peer itself -/

theorem Resolves.mirrored {link : String × String} (same : scripts key = scripts' key)
    (tally : tallies key = tallies' key) (held : broker.links[key]? = broker'.links[key]?)
    (resolves :
      Resolves (PeerScript.connector scripts) broker key tallies search link broker₁ tallies₁) :
    ∃ broker₂ tallies₂,
      Resolves (PeerScript.connector scripts') broker' key tallies' search link broker₂ tallies₂ ∧
        tallies₁ key = tallies₂ key := by
  cases resolves with
  | cached there => exact ⟨_, _, .cached (held ▸ there), tally⟩
  | opened absent found =>
    obtain ⟨after, found', tally'⟩ := PeerScript.connect_mirrored same tally found
    exact ⟨_, _, .opened (held ▸ absent) found', tally'⟩

/-- Two workers that agree on a peer do the same for a command for it, and agree on it afterwards. -/
theorem Serves.mirrored (same : scripts command.key = scripts' command.key)
    (tally : tallies command.key = tallies' command.key)
    (held : broker.links[command.key]? = broker'.links[command.key]?) (straight : broker.Straight)
    (serves :
      Serves (PeerScript.connector scripts) broker command tallies search call broker₁ tallies₁) :
    ∃ broker₂ tallies₂,
      Serves (PeerScript.connector scripts') broker' command tallies' search call broker₂ tallies₂ ∧
        tallies₁ command.key = tallies₂ command.key ∧
        broker₁.links[command.key]? = broker₂.links[command.key]? := by
  cases serves with
  | unresolved absent lost =>
    obtain ⟨after, lost', tally'⟩ := PeerScript.connect_mirrored same tally lost
    exact ⟨_, _, .unresolved (held ▸ absent) lost', tally', held⟩
  | delivered resolves answered =>
    obtain ⟨rfl, -⟩ := resolves.straight straight
    obtain ⟨broker₂, between, resolves', tally'⟩ := resolves.mirrored same tally held
    obtain ⟨after, answered', tally''⟩ := PeerScript.jumpto_mirrored same tally' answered
    refine ⟨broker₂, after, .delivered resolves' answered', tally'', ?_⟩
    rw [resolves.holds, resolves'.holds]
  | failed resolves answered =>
    obtain ⟨rfl, -⟩ := resolves.straight straight
    obtain ⟨broker₂, between, resolves', tally'⟩ := resolves.mirrored same tally held
    obtain ⟨after, answered', tally''⟩ := PeerScript.jumpto_mirrored same tally' answered
    refine ⟨broker₂.evict command.target, after, .failed resolves' answered', tally'', ?_⟩
    rw [SyncCommand.key, getElem?_evict_self, getElem?_evict_self]

/-- The last of several commands is dealt with after the others. -/
theorem serve_concat {σ Link : Type} (connector : Connector σ Link) (commands : List SyncCommand)
    (command : SyncCommand) (broker : Broker Link) (s : σ) :
    broker.serve connector (commands ++ [command]) s =
      let (broker', s') := broker.serve connector commands s
      broker'.dispatch connector command s' := by
  induction commands generalizing broker s with
  | nil => rfl
  | cons first commands ih => exact ih _ _

end Broker

/-! ## Whole runs -/

/-- The key of the session that something was asked of. -/
def Delivery.key : Delivery → String
  | .connect key _ => key
  | .jumpto key _ _ => key

theorem Attempt.filter_deliveries (key : String) (a : Attempt) :
    a.deliveries.filter (·.key = key) = if a.command.key = key then a.deliveries else [] := by
  unfold Attempt.deliveries Broker.trace
  by_cases own : a.command.key = key <;> cases a.search <;> cases a.call <;>
    simp [Delivery.key, own]

theorem Attempt.filter_flatMap_deliveries (key : String) (attempts : List Attempt) :
    (attempts.flatMap Attempt.deliveries).filter (·.key = key) =
      (attempts.filter (·.command.key = key)).flatMap Attempt.deliveries := by
  induction attempts with
  | nil => rfl
  | cons a attempts ih =>
    rw [List.flatMap_cons, List.filter_append, ih, Attempt.filter_deliveries, List.filter_cons]
    by_cases own : a.command.key = key <;> simp [own]

namespace SyncRun

/-- The commands of attempts that were for a given session. -/
def commandsFor (key : String) (attempts : List Attempt) : List SyncCommand :=
  (attempts.filter (·.command.key = key)).map Attempt.command

/-- The run is, as far as one peer can tell, that of a worker which got only the commands for this
peer, among others that may behave in any other way. -/
def Mirrors (scripts' : String → PeerScript) (key : String)
    (r : SyncRun (String → PeerTally) String) (attempts : List Attempt) : Prop :=
  r.broker.Straight ∧ ∃ broker tallies,
    Broker.empty.serve (PeerScript.connector scripts').recorded (commandsFor key attempts)
      (fun _ => {}, []) =
      (broker, tallies, (attempts.filter (·.command.key = key)).flatMap Attempt.deliveries) ∧
    broker.Straight ∧ r.broker.links[key]? = broker.links[key]? ∧ r.world key = tallies key

variable {scripts scripts' : String → PeerScript} {key : String}
  {r r' : SyncRun (String → PeerTally) String} {attempts news : List Attempt}

theorem mirrors_start : Mirrors scripts' key { world := fun _ => {} } [] :=
  ⟨.empty, .empty, fun _ => {}, rfl, .empty, rfl, rfl⟩

theorem Mirrors.keeps (same : scripts key = scripts' key) (mirrors : Mirrors scripts' key r attempts)
    (progress : Progress (PeerScript.connector scripts) r r' news) :
    Mirrors scripts' key r' (attempts ++ news) := by
  obtain ⟨straight, broker, tallies, served, straight', held, tally⟩ := mirrors
  cases progress with
  | still sameBroker sameWorld =>
    rw [List.append_nil, Mirrors, sameBroker, sameWorld]
    exact ⟨straight, broker, tallies, served, straight', held, tally⟩
  | @served a serves =>
    refine ⟨serves.straight straight, ?_⟩
    by_cases own : a.command.key = key
    · -- both workers deal with the command, and they agreed on its peer before
      subst own
      obtain ⟨broker₂, tallies₂, serves', tally', held'⟩ :=
        serves.mirrored same tally held straight
      refine ⟨broker₂, tallies₂, ?_, serves'.straight straight', held', tally'⟩
      have last := Broker.serve_concat (PeerScript.connector scripts').recorded
        (commandsFor a.command.key attempts) a.command .empty (fun _ => {}, [])
      rw [served] at last
      simp only [serves'.dispatches straight'.filed] at last
      simpa [commandsFor, Attempt.deliveries] using last
    · -- only the one worker deals with the command, and nothing of the peer is touched
      refine ⟨broker, tallies, ?_, straight', ?_, ?_⟩
      · simpa [commandsFor, own] using served
      · rw [serves.others own, held]
      · rw [serves.unseen own straight, tally]

/-- Peers follow scripts of their own: how a search for a peer or a call of it ends depends on its
number among the searches for that peer, or the calls of it. Then whatever was submitted for other
peers, and however these behave, in any interleaving: the searches and calls for one peer, with their
results, are those of a worker that gets only the commands for this peer, and so is the link that the
worker has to it in the end. -/
theorem other_peers_do_not_matter {scripts scripts' : String → PeerScript} {hash : String}
    (same : scripts (ContentHash.key hash) = scripts' (ContentHash.key hash))
    (moves : List SyncMove) :
    let r := play (PeerScript.connector scripts) { world := fun _ => {} } moves
    ∃ served, (SyncMove.submissions moves).map Prod.snd = served ++ r.outbox.waiting ∧
      let own := served.filter fun command => ContentHash.agree command.target hash
      let (broker, _, record) := Broker.empty.serve (PeerScript.connector scripts').recorded own
        (fun _ => {}, [])
      r.record.filter (·.key = ContentHash.key hash) = record ∧
        r.broker.isCached hash = broker.isCached hash := by
  intro r
  obtain ⟨attempts, accounted, straight, broker, tallies, served, straight', held, tally⟩ :=
    accounted_along (PeerScript.connector scripts) (Mirrors.keeps same) moves
      (accounted_start fun _ => {}) mirrors_start
  rw [List.nil_append] at accounted
  obtain ⟨waiting, split, queue⟩ := accounted.queued
  refine ⟨attempts.map Attempt.command, ?_, ?_⟩
  · rw [split, List.map_append, queue, List.map_map]
    rfl
  · have own : ((attempts.map Attempt.command).filter fun command =>
        ContentHash.agree command.target hash) = commandsFor (ContentHash.key hash) attempts := by
      rw [commandsFor, List.filter_map]
      congr 1
    simp only [own, served]
    refine ⟨?_, ?_⟩
    · rw [accounted.recorded, Attempt.filter_flatMap_deliveries]
    · simp only [Broker.isCached, Std.ExtTreeMap.contains_eq_isSome_getElem?]
      rw [held]

/-- A peer that is not found at first, and then fails every other call. -/
def shakyPeer : PeerScript where
  search n := if n = 0 then .error (.connectionFailure "not there") else .ok ()
  call n _ := if n % 2 = 0 then .error (.remoteCallFailure "busy") else .ok ()

/-- A peer that is never found. -/
def deadPeer : PeerScript where
  search _ := .error (.connectionFailure "gone")
  call _ _ := .ok ()

/-- Two producers ask for two peers, and the last command is still waiting. -/
def crossedMoves : List SyncMove :=
  [.submit 0 (.jumpto "Aa" 1), .submit 1 (.jumpto "bb" 2), .serve, .submit 0 (.jumpto "aA" 3), .serve,
    .submit 1 (.jumpto "BB" 4), .serve, .serve, .submit 0 (.jumpto "AA" 5), .serve,
    .submit 1 (.jumpto "aa" 6)]

theorem shaky_peer_beside_a_dead_one :
    let scripts key := if key = ContentHash.key "AA" then shakyPeer else deadPeer
    let r := play (PeerScript.connector scripts) { world := fun _ => {} } crossedMoves
    scripts (ContentHash.key "AA") = shakyPeer ∧
    ∃ served, (SyncMove.submissions crossedMoves).map Prod.snd = served ++ r.outbox.waiting ∧
      let own := served.filter fun command => ContentHash.agree command.target "AA"
      let (broker, _, record) :=
        Broker.empty.serve (PeerScript.connector fun _ => shakyPeer).recorded own (fun _ => {}, [])
      r.record.filter (·.key = ContentHash.key "AA") = record ∧
        r.broker.isCached "AA" = broker.isCached "AA" := by
  intro scripts r
  have same : scripts (ContentHash.key "AA") = shakyPeer := if_pos rfl
  exact ⟨same, other_peers_do_not_matter same crossedMoves⟩

end SyncRun

end Tandem
