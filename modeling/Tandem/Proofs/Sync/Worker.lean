import Tandem.Sync.Delivery
import Tandem.Sync.Outbox

/-! # What the worker does for its commands

The commands of all producers go through one outbox, and the worker takes them out one by one. For
a command it searches the peer if it has no link to it, and calls the peer if it then has one. How
the search and the call end is up to the connector, of which nothing is assumed.

* `Broker.Serves` lists what can become of one command. `Broker.exists_serves` shows that the list is
  complete, and `Broker.Serves.dispatches` that it is what the worker does.
* `SyncRun` is a worker among its producers, in any interleaving of their moves.
* `SyncRun.Accounted` is the invariant: the record of the connector splits into one `Attempt` per
  command that left the outbox, in the order of the outbox. -/

namespace Tandem

/-- The offset that a command is about. -/
def SyncCommand.address : SyncCommand → Address
  | .jumpto _ address => address

/-- The key of the session that a command is for. -/
def SyncCommand.key (command : SyncCommand) : String := ContentHash.key command.target

namespace Broker

variable {σ Link : Type}

/-! ## One command -/

/-- How a broker comes by a link for a key: it has one, or a search for the peer ends well. The
search is `none` when there was no need for one. -/
inductive Resolves (connector : Connector σ Link) (broker : Broker (String × Link)) (key : String)
    (s : σ) : Option (Except SyncError Unit) → String × Link → Broker (String × Link) → σ → Prop
  | cached {link : String × Link} (held : broker.links[key]? = some link) :
      Resolves connector broker key s none link broker s
  | opened {link : Link} {s' : σ} (absent : broker.links[key]? = none)
      (found : connector.connect key s = (.ok link, s')) :
      Resolves connector broker key s (some (.ok ())) (key, link)
        ⟨broker.links.insert key (key, link)⟩ s'

/-- What can become of a command, with the results of the search and of the call. -/
inductive Serves (connector : Connector σ Link) (broker : Broker (String × Link))
    (command : SyncCommand) (s : σ) :
    Option (Except SyncError Unit) → Option (Except SyncError Unit) →
      Broker (String × Link) → σ → Prop
  | unresolved {error : SyncError} {s' : σ} (absent : broker.links[command.key]? = none)
      (lost : connector.connect command.key s = (.error error, s')) :
      Serves connector broker command s (some (.error error)) none broker s'
  | delivered {search : Option (Except SyncError Unit)} {link : String × Link}
      {broker' : Broker (String × Link)} {s' s'' : σ}
      (resolves : Resolves connector broker command.key s search link broker' s')
      (answered : connector.jumpto link.2 command.address s' = (.ok (), s'')) :
      Serves connector broker command s search (some (.ok ())) broker' s''
  | failed {search : Option (Except SyncError Unit)} {link : String × Link}
      {broker' : Broker (String × Link)} {error : SyncError} {s' s'' : σ}
      (resolves : Resolves connector broker command.key s search link broker' s')
      (answered : connector.jumpto link.2 command.address s' = (.error error, s'')) :
      Serves connector broker command s search (some (.error error))
        (broker'.evict command.target) s''

/-- Every link is filed under the key that it was opened for. -/
def Filed (broker : Broker (String × Link)) : Prop :=
  ∀ (key : String) (link : String × Link), broker.links[key]? = some link → link.1 = key

theorem Filed.empty : Filed (Broker.empty : Broker (String × Link)) := by
  intro key link held
  simp [Broker.empty] at held

theorem Filed.insert {broker : Broker (String × Link)} (filed : broker.Filed) (key : String)
    (link : Link) : Filed ⟨broker.links.insert key (key, link)⟩ := by
  intro key' link' held
  rw [Std.ExtTreeMap.getElem?_insert] at held
  split at held
  · rename_i same
    cases held
    simpa using same
  · exact filed key' link' held

theorem Filed.evict {broker : Broker (String × Link)} (filed : broker.Filed) (hash : String) :
    (broker.evict hash).Filed := by
  intro key' link' held
  simp only [Broker.evict, Std.ExtTreeMap.getElem?_erase] at held
  split at held
  · cases held
  · exact filed key' link' held

theorem Resolves.filed {connector : Connector σ Link} {broker broker' : Broker (String × Link)}
    {key : String} {s s' : σ} {search : Option (Except SyncError Unit)} {link : String × Link}
    (resolves : Resolves connector broker key s search link broker' s') (filed : broker.Filed) :
    link.1 = key ∧ broker'.Filed := by
  cases resolves with
  | cached held => exact ⟨filed key link held, filed⟩
  | opened _ _ => exact ⟨rfl, filed.insert key _⟩

theorem Serves.filed {connector : Connector σ Link} {broker broker' : Broker (String × Link)}
    {command : SyncCommand} {s s' : σ} {search call : Option (Except SyncError Unit)}
    (serves : Serves connector broker command s search call broker' s') (filed : broker.Filed) :
    broker'.Filed := by
  cases serves with
  | unresolved _ _ => exact filed
  | delivered resolves _ => exact (resolves.filed filed).2
  | failed resolves _ => exact (resolves.filed filed).2.evict _

/-- What the search and the call for a command leave in the record. -/
def trace (command : SyncCommand) (search call : Option (Except SyncError Unit)) : List Delivery :=
  (search.map (Delivery.connect command.key)).toList ++
    (call.map (Delivery.jumpto command.key command.address)).toList

theorem connect_recorded_cached {connector : Connector σ Link} {broker : Broker (String × Link)}
    {hash : String} {link : String × Link} (held : broker.links[ContentHash.key hash]? = some link)
    (world : σ × List Delivery) :
    broker.connect connector.recorded hash world = ((some link, broker), world) := by
  simp only [Broker.connect, held]
  rfl

theorem connect_recorded_absent (connector : Connector σ Link) {broker : Broker (String × Link)}
    {hash : String} (absent : broker.links[ContentHash.key hash]? = none) (s : σ)
    (record : List Delivery) :
    broker.connect connector.recorded hash (s, record) =
      match connector.connect (ContentHash.key hash) s with
      | (.ok link, s') =>
        ((some (ContentHash.key hash, link),
          ⟨broker.links.insert (ContentHash.key hash) (ContentHash.key hash, link)⟩),
          s', record ++ [.connect (ContentHash.key hash) (.ok ())])
      | (.error error, s') =>
        ((none, broker), s', record ++ [.connect (ContentHash.key hash) (.error error)]) := by
  simp only [Broker.connect, absent]
  cases found : connector.connect (ContentHash.key hash) s with
  | mk result s' =>
    cases result with
    | ok link => simp [Connector.recorded, bind, StateT.bind, found, Except.map]; rfl
    | error error => simp [Connector.recorded, bind, StateT.bind, found, Except.map]; rfl

theorem dispatch_recorded_none {connector : Connector σ Link} {broker broker' : Broker (String × Link)}
    {command : SyncCommand} {world world' : σ × List Delivery}
    (connects : broker.connect connector.recorded command.target world = ((none, broker'), world')) :
    broker.dispatch connector.recorded command world = (broker', world') := by
  simp only [Broker.dispatch, bind, StateT.bind, connects]
  rfl

theorem dispatch_recorded_some {connector : Connector σ Link} {broker broker' : Broker (String × Link)}
    {command : SyncCommand} {link : String × Link} {world : σ × List Delivery} {s : σ}
    {record : List Delivery}
    (connects : broker.connect connector.recorded command.target world =
      ((some link, broker'), s, record)) :
    broker.dispatch connector.recorded command world =
      match connector.jumpto link.2 command.address s with
      | (.ok (), s') => (broker', s', record ++ [.jumpto link.1 command.address (.ok ())])
      | (.error error, s') =>
        (broker'.evict command.target, s',
          record ++ [.jumpto link.1 command.address (.error error)]) := by
  simp only [Broker.dispatch, bind, StateT.bind, connects]
  cases command with
  | jumpto peer address =>
    cases answered : connector.jumpto link.2 address s with
    | mk result s' =>
      cases result with
      | ok _ => simp [Broker.call, Connector.recorded, SyncCommand.address, answered]; rfl
      | error error => simp [Broker.call, Connector.recorded, SyncCommand.address, answered]; rfl

/-- A link at hand and a link just opened come out of the connecting alike. -/
theorem Resolves.connects {connector : Connector σ Link} {broker broker' : Broker (String × Link)}
    {command : SyncCommand} {s s' : σ} {search : Option (Except SyncError Unit)}
    {link : String × Link} (resolves : Resolves connector broker command.key s search link broker' s')
    (record : List Delivery) :
    broker.connect connector.recorded command.target (s, record) =
      ((some link, broker'), s', record ++ trace command search none) := by
  cases resolves with
  | cached held => simpa [trace] using connect_recorded_cached held (s, record)
  | opened absent found =>
    have connects := connect_recorded_absent connector absent s record
    rw [SyncCommand.key] at found
    rw [found] at connects
    simpa [trace, SyncCommand.key] using connects

/-- What becomes of a command is what the worker does, and the record tells it. -/
theorem Serves.dispatches {connector : Connector σ Link} {broker broker' : Broker (String × Link)}
    {command : SyncCommand} {s s' : σ} {search call : Option (Except SyncError Unit)}
    (serves : Serves connector broker command s search call broker' s') (filed : broker.Filed)
    (record : List Delivery) :
    broker.dispatch connector.recorded command (s, record) =
      (broker', s', record ++ trace command search call) := by
  cases serves with
  | unresolved absent lost =>
    have connects := connect_recorded_absent connector absent s record
    rw [SyncCommand.key] at lost
    rw [lost] at connects
    simpa [trace, SyncCommand.key] using dispatch_recorded_none connects
  | delivered resolves answered =>
    have sameKey := (resolves.filed filed).1
    have dispatches := dispatch_recorded_some (resolves.connects record)
    rw [answered] at dispatches
    simp [dispatches, trace, sameKey]
  | failed resolves answered =>
    have sameKey := (resolves.filed filed).1
    have dispatches := dispatch_recorded_some (resolves.connects record)
    rw [answered] at dispatches
    simp [dispatches, trace, sameKey]

/-- The list of what can become of a command is complete. -/
theorem exists_serves (connector : Connector σ Link) (broker : Broker (String × Link))
    (command : SyncCommand) (s : σ) :
    ∃ search call broker' s', Serves connector broker command s search call broker' s' := by
  have called : ∀ {search : Option (Except SyncError Unit)} {link : String × Link}
      {broker' : Broker (String × Link)} {s' : σ},
      Resolves connector broker command.key s search link broker' s' →
      ∃ search call broker' s', Serves connector broker command s search call broker' s' := by
    intro search link broker' s' resolves
    cases answered : connector.jumpto link.2 command.address s' with
    | mk result s'' =>
      cases result with
      | ok _ => exact ⟨_, _, _, _, .delivered resolves answered⟩
      | error error => exact ⟨_, _, _, _, .failed resolves answered⟩
  cases held : broker.links[command.key]? with
  | some link => exact called (.cached held)
  | none =>
    cases found : connector.connect command.key s with
    | mk result s' =>
      cases result with
      | ok link => exact called (.opened held found)
      | error error => exact ⟨_, _, _, _, .unresolved held found⟩

end Broker

/-! ## Whole runs -/

/-- What became of a command, and whose command it was. -/
structure Attempt where
  producer : Nat
  command : SyncCommand
  /-- How the search for the peer ended, if there was one. -/
  search : Option (Except SyncError Unit)
  /-- How the call of the peer ended, if there was one. -/
  call : Option (Except SyncError Unit)

namespace Attempt

/-- Whether the worker had a link for the command, from before or from its search. -/
def resolved (a : Attempt) : Bool :=
  match a.search with
  | some (.error _) => false
  | _ => true

/-- What the attempt left in the record: at most a search and then at most a call. -/
def deliveries (a : Attempt) : List Delivery := Broker.trace a.command a.search a.call

/-- The submission that the attempt is for. -/
def submission (a : Attempt) : Nat × SyncCommand := (a.producer, a.command)

end Attempt

/-- The session and the offset that a command asks for. -/
def SyncCommand.destination (command : SyncCommand) : String × Address :=
  (command.key, command.address)

namespace Delivery

/-- The session and the offset of a call. -/
def destination? : Delivery → Option (String × Address)
  | .jumpto key address _ => some (key, address)
  | .connect _ _ => none

/-- The session that a search was for. -/
def searched? : Delivery → Option String
  | .connect key _ => some key
  | .jumpto _ _ _ => none

end Delivery

/-- A worker among its producers: the outbox between them, the links of the worker, and the world
of its connector with the record of all that was asked of it. -/
structure SyncRun (σ Link : Type) where
  outbox : Outbox := {}
  broker : Broker (String × Link) := .empty
  world : σ
  record : List Delivery := []

/-- What can happen next: a producer submits a command, or the worker deals with the one that waits
longest. -/
inductive SyncMove where
  | submit (producer : Nat) (command : SyncCommand)
  | serve

namespace SyncMove

/-- The submission that a move is. -/
def submission? : SyncMove → Option (Nat × SyncCommand)
  | .submit producer command => some (producer, command)
  | .serve => none

/-- The submissions among moves, in order. -/
def submissions (moves : List SyncMove) : List (Nat × SyncCommand) := moves.filterMap submission?

@[simp] theorem submissions_submit (producer : Nat) (command : SyncCommand) (moves : List SyncMove) :
    submissions (.submit producer command :: moves) = (producer, command) :: submissions moves := rfl

@[simp] theorem submissions_serve (moves : List SyncMove) :
    submissions (.serve :: moves) = submissions moves := rfl

end SyncMove

namespace SyncRun

open scoped List

variable {σ Link : Type}

/-- The run after a move. -/
def move (connector : Connector σ Link) (r : SyncRun σ Link) : SyncMove → SyncRun σ Link
  | .submit _ command => { r with outbox := (r.outbox.enqueue command).2 }
  | .serve =>
    match r.outbox.waiting with
    | [] => r
    | command :: rest =>
      let (broker, world, record) := r.broker.dispatch connector.recorded command (r.world, r.record)
      ⟨{ r.outbox with waiting := rest }, broker, world, record⟩

/-- The run after moves, one after the other. -/
def play (connector : Connector σ Link) (r : SyncRun σ Link) (moves : List SyncMove) :
    SyncRun σ Link :=
  moves.foldl (move connector) r

theorem move_serve_nil (connector : Connector σ Link) {r : SyncRun σ Link}
    (idle : r.outbox.waiting = []) : r.move connector .serve = r := by
  simp only [move, idle]

theorem move_serve_cons {connector : Connector σ Link} {r : SyncRun σ Link} {command : SyncCommand}
    {rest : List SyncCommand} (queue : r.outbox.waiting = command :: rest)
    {search call : Option (Except SyncError Unit)} {broker : Broker (String × Link)} {s : σ}
    (serves : Broker.Serves connector r.broker command r.world search call broker s)
    (filed : r.broker.Filed) :
    r.move connector .serve =
      ⟨{ r.outbox with waiting := rest }, broker, s, r.record ++ Broker.trace command search call⟩ := by
  simp only [move, queue]
  rw [serves.dispatches filed]

/-- The run accounts for what was submitted by attempts: there is one for each command that left the
outbox, and together they are the record. -/
structure Accounted (r : SyncRun σ Link) (submitted : List (Nat × SyncCommand))
    (attempts : List Attempt) : Prop where
  isOpen : r.outbox.isOpen = true
  filed : r.broker.Filed
  queued : ∃ waiting, submitted = attempts.map Attempt.submission ++ waiting ∧
    waiting.map Prod.snd = r.outbox.waiting
  recorded : r.record = attempts.flatMap Attempt.deliveries
  called : ∀ a ∈ attempts, a.call.isSome = a.resolved

theorem accounted_start (s : σ) : Accounted ({ world := s } : SyncRun σ Link) [] [] where
  isOpen := rfl
  filed := .empty
  queued := ⟨[], rfl, rfl⟩
  recorded := rfl
  called := by simp

theorem accounted_submit {r : SyncRun σ Link} {submitted : List (Nat × SyncCommand)}
    {attempts : List Attempt} (accounted : r.Accounted submitted attempts)
    (connector : Connector σ Link) (producer : Nat) (command : SyncCommand) :
    (r.move connector (.submit producer command)).Accounted (submitted ++ [(producer, command)])
      attempts := by
  obtain ⟨waiting, split, queue⟩ := accounted.queued
  have enqueued : (r.outbox.enqueue command).2 =
      { r.outbox with waiting := r.outbox.waiting ++ [command] } := by
    simp [Outbox.enqueue, accounted.isOpen]
  simp only [move, enqueued]
  refine ⟨accounted.isOpen, accounted.filed, ?_, accounted.recorded, accounted.called⟩
  refine ⟨waiting ++ [(producer, command)], ?_, ?_⟩
  · rw [split, List.append_assoc]
  · simp [queue]

/-- What a move is to the worker: it serves a command, or keeps its links and leaves the world
alone. -/
inductive Progress (connector : Connector σ Link) (r r' : SyncRun σ Link) : List Attempt → Prop
  | still (broker : r'.broker = r.broker) (world : r'.world = r.world) : Progress connector r r' []
  | served {a : Attempt} (serves : Broker.Serves connector r.broker a.command r.world a.search a.call
      r'.broker r'.world) : Progress connector r r' [a]

theorem accounted_serve {r : SyncRun σ Link} {submitted : List (Nat × SyncCommand)}
    {attempts : List Attempt} (accounted : r.Accounted submitted attempts)
    (connector : Connector σ Link) :
    ∃ news, (r.move connector .serve).Accounted submitted (attempts ++ news) ∧
      Progress connector r (r.move connector .serve) news := by
  obtain ⟨waiting, split, queue⟩ := accounted.queued
  cases waiting with
  | nil =>
    rw [move_serve_nil connector queue.symm]
    exact ⟨[], by simpa using accounted, .still rfl rfl⟩
  | cons submission waiting =>
    -- the command that waits longest is the first that there was no attempt for
    obtain ⟨producer, command⟩ := submission
    obtain ⟨search, call, broker, s, serves⟩ :=
      Broker.exists_serves connector r.broker command r.world
    refine ⟨[⟨producer, command, search, call⟩], ?_⟩
    rw [move_serve_cons queue.symm serves accounted.filed]
    refine ⟨⟨accounted.isOpen, serves.filed accounted.filed, ?_, ?_, ?_⟩, .served serves⟩
    · exact ⟨waiting, by simp [split, Attempt.submission], rfl⟩
    · simp [accounted.recorded, Attempt.deliveries]
    · intro a member
      rcases List.mem_append.1 member with earlier | last
      · exact accounted.called a earlier
      · obtain rfl := List.mem_singleton.1 last
        cases serves with
        | unresolved => rfl
        | delivered resolves => cases resolves <;> rfl
        | failed resolves => cases resolves <;> rfl

/-- What holds of a run and its attempts stays true along moves if the progress that a move makes
cannot break it. -/
theorem accounted_along (connector : Connector σ Link) {P : SyncRun σ Link → List Attempt → Prop}
    (keeps : ∀ {r r' : SyncRun σ Link} {attempts news : List Attempt}, P r attempts →
      Progress connector r r' news → P r' (attempts ++ news)) (moves : List SyncMove) :
    ∀ {r : SyncRun σ Link} {submitted : List (Nat × SyncCommand)} {attempts : List Attempt},
      r.Accounted submitted attempts → P r attempts →
      ∃ attempts', (r.play connector moves).Accounted (submitted ++ SyncMove.submissions moves)
        attempts' ∧ P (r.play connector moves) attempts' := by
  induction moves with
  | nil =>
    intro r submitted attempts accounted holds
    exact ⟨attempts, by simpa [play, SyncMove.submissions] using accounted, holds⟩
  | cons m moves ih =>
    intro r submitted attempts accounted holds
    cases m with
    | submit producer command =>
      have still : Progress connector r (r.move connector (.submit producer command)) [] :=
        .still rfl rfl
      have next := keeps holds still
      rw [List.append_nil] at next
      obtain ⟨attempts', final⟩ :=
        ih (accounted_submit accounted connector producer command) next
      exact ⟨attempts', by simpa [play] using final⟩
    | serve =>
      obtain ⟨news, next, progress⟩ := accounted_serve accounted connector
      obtain ⟨attempts', final⟩ := ih next (keeps holds progress)
      exact ⟨attempts', by simpa [play] using final⟩

theorem accounted_play (connector : Connector σ Link) (moves : List SyncMove) {r : SyncRun σ Link}
    {submitted : List (Nat × SyncCommand)} {attempts : List Attempt}
    (accounted : r.Accounted submitted attempts) :
    ∃ attempts', (r.play connector moves).Accounted (submitted ++ SyncMove.submissions moves)
      attempts' := by
  obtain ⟨attempts', final, -⟩ :=
    accounted_along connector (P := fun _ _ => True) (fun _ _ => trivial) moves accounted trivial
  exact ⟨attempts', final⟩

/-- A worker that is left alone deals with all that waits, whatever becomes of it on the way. -/
theorem play_serve (connector : Connector σ Link) (waiting : List SyncCommand) :
    ∀ r : SyncRun σ Link, r.outbox.waiting = waiting →
      r.play connector (List.replicate waiting.length .serve) =
        let (broker, world, record) :=
          r.broker.serve connector.recorded waiting (r.world, r.record)
        ⟨{ r.outbox with waiting := [] }, broker, world, record⟩ := by
  induction waiting with
  | nil =>
    intro r empty
    obtain ⟨⟨waiting, isOpen⟩, broker, world, record⟩ := r
    cases empty
    rfl
  | cons command waiting ih =>
    intro r queue
    have rest := ih (r.move connector .serve) (by simp only [move, queue]; rfl)
    simp only [List.length_cons, List.replicate_succ, play, List.foldl_cons] at rest ⊢
    rw [rest]
    simp only [move, queue]
    rfl

/-! ## Calls -/

/-- An attempt calls when it got as far as that, and then at the destination of its command. -/
theorem destinations_attempt (a : Attempt) :
    a.deliveries.filterMap Delivery.destination? =
      (a.call.map fun _ => a.command.destination).toList := by
  unfold Attempt.deliveries Broker.trace
  cases a.search <;> cases a.call <;> rfl

theorem searches_attempt (a : Attempt) :
    a.deliveries.filterMap Delivery.searched? = (a.search.map fun _ => a.command.key).toList := by
  unfold Attempt.deliveries Broker.trace
  cases a.search <;> cases a.call <;> rfl

theorem destinations_attempts {attempts : List Attempt}
    (called : ∀ a ∈ attempts, a.call.isSome = a.resolved) :
    (attempts.flatMap Attempt.deliveries).filterMap Delivery.destination? =
      (attempts.filter Attempt.resolved).map (·.command.destination) := by
  induction attempts with
  | nil => rfl
  | cons a attempts ih =>
    have first := called a (by simp)
    have rest := ih fun b member => called b (by simp [member])
    rw [List.flatMap_cons, List.filterMap_append, destinations_attempt, rest, List.filter_cons,
      ← first]
    cases a.call <;> simp

/-- The worker deals with commands in the order of the outbox and with each of them once. It searches
and calls at most once for each, calls exactly for those that it has a link for, under the key of
their own target and with their own offset, and goes on whatever became of a command. So the calls
for one producer follow the order of its submissions. -/
theorem worker_serves_in_queue_order (connector : Connector σ Link) (s : σ)
    (moves : List SyncMove) :
    let r : SyncRun σ Link := play connector { world := s } moves
    ∃ attempts : List Attempt,
      (∃ waiting, SyncMove.submissions moves = attempts.map Attempt.submission ++ waiting ∧
        waiting.map Prod.snd = r.outbox.waiting) ∧
      r.record = attempts.flatMap Attempt.deliveries ∧
      (∀ a ∈ attempts, (a.deliveries.filterMap Delivery.searched?).length ≤ 1 ∧
        (a.deliveries.filterMap Delivery.destination?).length ≤ 1 ∧ a.call.isSome = a.resolved) ∧
      r.record.filterMap Delivery.destination? =
        (attempts.filter Attempt.resolved).map (·.command.destination) ∧
      (∀ producer,
        ((attempts.filter Attempt.resolved).filter (·.producer = producer)).map
            (·.command.destination) <+
          ((SyncMove.submissions moves).filter (·.1 = producer)).map (·.2.destination)) ∧
      (r.play connector (List.replicate r.outbox.waiting.length .serve)).outbox.waiting = [] := by
  intro r
  obtain ⟨attempts, accounted⟩ := accounted_play connector moves (accounted_start s)
  rw [List.nil_append] at accounted
  obtain ⟨waiting, split, queue⟩ := accounted.queued
  refine ⟨attempts, accounted.queued, accounted.recorded, ?_, ?_, ?_, ?_⟩
  · intro a member
    rw [searches_attempt, destinations_attempt]
    exact ⟨Option.length_toList_le, Option.length_toList_le, accounted.called a member⟩
  · rw [accounted.recorded, destinations_attempts accounted.called]
  · intro producer
    -- attempts are for the first submissions, so a producer's are for the first of its own
    have own : ((attempts.filter Attempt.resolved).filter (·.producer = producer)) <+
        attempts.filter (·.producer = producer) := List.filter_sublist.filter _
    have submitted : (attempts.filter (·.producer = producer)).map Attempt.submission <+
        (SyncMove.submissions moves).filter (·.1 = producer) := by
      rw [split, List.filter_append, List.filter_map]
      exact List.sublist_append_left _ _
    have destinations := ((own.map Attempt.submission).trans submitted).map (·.2.destination)
    rwa [List.map_map] at destinations
  · rw [play_serve connector _ r rfl]
    rfl

end SyncRun
end Tandem
