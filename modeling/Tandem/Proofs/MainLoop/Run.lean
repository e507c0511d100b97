import Mathlib.Logic.Relation
import Tandem.MainLoop.Call
import Tandem.Proofs.MainLoop.Lanes

/-! # Runs of the main loop

A loop among its callers, as a step relation. The callers send jobs and shutdowns whenever they
like, also while the loop is busy taking requests in. The loop takes in one request at a time, and
runs one job when it finds no further request.

* `LoopRun` is the state: the loop, where it stands in its turn, and what happened so far.
* `LoopRun.Sends` are the moves of the callers and `LoopRun.Works` those of the loop.
* `LoopRun.works_of_turn` shows that a turn of the loop is a sequence of its moves here.
* `LoopRun.Flow` is the invariant on the way of the requests: lane by lane, what was sent has run, is
  pending, or was not looked at yet, in this order. `LoopRun.Ledger` is the invariant on the callers:
  every ticket belongs to one job that ran, waits, or was refused. -/

namespace Tandem

variable {β : Type}

/-- A job with the ticket under which its caller waits for it. -/
structure Errand (β : Type) where
  ticket : Nat
  urgency : Urgency
  body : Action β

/-- The request to run an errand. -/
def Errand.request (e : Errand β) : HostRequest (Errand β) := .run e.urgency e

/-- Why the loop has ended. -/
inductive LoopEnding where
  /-- It was told to stop. -/
  | stopped
  /-- Nobody is left who could send it a request. -/
  | abandoned
  deriving DecidableEq

/-- Where the loop stands in its turn. -/
inductive LoopPhase where
  | top
  /-- It takes in what it was sent. -/
  | collecting
  /-- It has found no further request, and runs a job next. -/
  | picking
  | ended (ending : LoopEnding)
  deriving DecidableEq

/-- A main loop among its callers. -/
structure LoopRun (β : Type) where
  loop : MainLoop (Errand β) := {}
  phase : LoopPhase := .top
  workspace : Workspace
  /-- Whether somebody can still send requests. -/
  held : Bool := true
  /-- The ticket of the next call. -/
  next : Nat := 0
  /-- All requests that the loop was sent before its end, in order. -/
  sent : List (HostRequest (Errand β)) := []
  /-- What the loop had been sent when it last found no further request to collect. -/
  offered : List (HostRequest (Errand β)) := []
  /-- The jobs that ran, in order, each with the workspace that it found. -/
  ran : List (Errand β × Workspace) := []
  /-- What callers were told, by ticket. -/
  replies : List (Nat × Except CallError β) := []

namespace LoopRun

/-- Whether the loop has ended. -/
def isOver (r : LoopRun β) : Bool :=
  match r.phase with
  | .ended _ => true
  | _ => false

theorem isOver_iff {r : LoopRun β} : r.isOver = true ↔ ∃ ending, r.phase = .ended ending := by
  cases phase : r.phase <;> simp [isOver, phase]

/-- The jobs that were sent and have not run. -/
def waiting (r : LoopRun β) : List (Errand β) :=
  r.loop.pending.toList ++ HostRequest.jobs r.loop.inbox

/-- A call from another thread. The loop is sent the job while it is there. -/
def call (r : LoopRun β) (urgency : Urgency) (body : Action β) : LoopRun β :=
  let e : Errand β := ⟨r.next, urgency, body⟩
  if r.isOver then
    { r with next := r.next + 1, replies := r.replies ++ [(e.ticket, .error .loopClosed)] }
  else
    { r with next := r.next + 1, loop := r.loop.send [e.request], sent := r.sent ++ [e.request] }

/-- Somebody asks for a shutdown. -/
def shutdown (r : LoopRun β) : LoopRun β :=
  if r.isOver then r
  else { r with loop := r.loop.send [.shutdown], sent := r.sent ++ [.shutdown] }

theorem call_of_over {r : LoopRun β} (closed : r.isOver = true) (urgency : Urgency) (body : Action β) :
    r.call urgency body =
      { r with next := r.next + 1, replies := r.replies ++ [(r.next, .error .loopClosed)] } := by
  simp [call, closed]

theorem call_of_running {r : LoopRun β} (running : r.isOver = false) (urgency : Urgency)
    (body : Action β) :
    r.call urgency body =
      { r with
        next := r.next + 1
        loop := r.loop.send [.run urgency ⟨r.next, urgency, body⟩]
        sent := r.sent ++ [.run urgency ⟨r.next, urgency, body⟩] } := by
  simp [call, running, Errand.request]

theorem shutdown_of_over {r : LoopRun β} (closed : r.isOver = true) : r.shutdown = r := by
  simp [shutdown, closed]

theorem shutdown_of_running {r : LoopRun β} (running : r.isOver = false) :
    r.shutdown = { r with loop := r.loop.send [.shutdown], sent := r.sent ++ [.shutdown] } := by
  simp [shutdown, running]

/-- The loop takes in a request, in front of others that it was sent. -/
def take (r : LoopRun β) (request : HostRequest (Errand β)) (rest : List (HostRequest (Errand β))) :
    LoopRun β :=
  { r with loop := MainLoop.accept { r.loop with inbox := rest } request }

/-- The loop begins to collect. -/
def begin (r : LoopRun β) : LoopRun β := { r with phase := .collecting }

/-- The loop runs a job, and its caller is told how it ended. -/
def perform (r : LoopRun β) (e : Errand β) (pending : Pending (Errand β)) : LoopRun β :=
  { r with
    phase := .top
    loop := { r.loop with pending := pending }
    workspace := (e.body.contained r.workspace).2
    ran := r.ran ++ [(e, r.workspace)]
    replies := r.replies ++ [(e.ticket, (e.body.contained r.workspace).1)] }

/-- The loop ends. Who waits for a job that has not run finds the loop closed. -/
def close (r : LoopRun β) (ending : LoopEnding) : LoopRun β :=
  { r with
    phase := .ended ending
    replies := r.replies ++ r.waiting.map fun e => (e.ticket, .error .loopClosed) }

/-- The moves of the callers. -/
inductive Sends : LoopRun β → LoopRun β → Prop
  | call {r} (held : r.held = true) (urgency : Urgency) (body : Action β) :
      Sends r (r.call urgency body)
  | shutdown {r} (held : r.held = true) : Sends r r.shutdown
  | release {r} : Sends r { r with held := false }

/-- The moves of the loop. -/
inductive Works : LoopRun β → LoopRun β → Prop
  /-- With nothing to run the loop waits for a request. -/
  | receive {r request rest} (top : r.phase = .top) (idle : r.loop.pending.isEmpty = true)
      (going : r.loop.stopping = false) (waiting : r.loop.inbox = request :: rest) :
      Works r (r.begin.take request rest)
  | proceed {r} (top : r.phase = .top) (busy : r.loop.pending.isEmpty = false) : Works r r.begin
  | collect {r request rest} (collecting : r.phase = .collecting)
      (waiting : r.loop.inbox = request :: rest) : Works r (r.take request rest)
  | exhaust {r} (collecting : r.phase = .collecting) (exhausted : r.loop.inbox = []) :
      Works r { r with phase := .picking, offered := r.sent }
  | perform {r e pending} (picking : r.phase = .picking)
      (popped : r.loop.pending.pop? = some (e, pending)) : Works r (r.perform e pending)
  | skip {r} (picking : r.phase = .picking) (nothing : r.loop.pending.pop? = none) :
      Works r { r with phase := .top }
  | stop {r} (top : r.phase = .top) (done : r.loop.turn = .stop) : Works r (r.close .stopped)
  | abandon {r} (top : r.phase = .top) (released : r.held = false) (idle : r.loop.turn = .wait) :
      Works r (r.close .abandoned)

/-- One move of anybody. -/
def Step (r s : LoopRun β) : Prop := Sends r s ∨ Works r s

/-- Any number of moves. -/
abbrev Steps : LoopRun β → LoopRun β → Prop := Relation.ReflTransGen Step

/-- What holds at first and is kept by every move holds along every run. -/
theorem Steps.invariant {P : LoopRun β → Prop} {r s : LoopRun β} (steps : Steps r s) (start : P r)
    (sends : ∀ {r s}, Sends r s → P r → P s) (works : ∀ {r s}, Works r s → P r → P s) : P s := by
  induction steps with
  | refl => exact start
  | tail _ step ih =>
    rcases step with send | work
    · exact sends send ih
    · exact works work ih

/-! ## Turns -/

theorem drain_nil {loop : MainLoop (Errand β)} (exhausted : loop.inbox = []) :
    loop.drain = loop := by
  obtain ⟨inbox, pending, stopping⟩ := loop
  cases exhausted
  rfl

theorem drain_cons {loop : MainLoop (Errand β)} {request : HostRequest (Errand β)}
    {rest : List (HostRequest (Errand β))} (waiting : loop.inbox = request :: rest) :
    loop.drain = (MainLoop.accept { loop with inbox := rest } request).drain := by
  simp only [MainLoop.drain, waiting, List.foldl_cons]
  cases request <;> rfl

theorem works_drain {r : LoopRun β} (collecting : r.phase = .collecting) :
    Relation.ReflTransGen Works r
      { r with loop := r.loop.drain, phase := .picking, offered := r.sent } := by
  -- a drain takes in the whole inbox at once, the steps one request after the other
  generalize inbox : r.loop.inbox = requests
  induction requests generalizing r with
  | nil =>
    rw [drain_nil inbox]
    exact .single (.exhaust collecting inbox)
  | cons request rest ih =>
    have taken : (r.take request rest).loop.inbox = rest := by cases request <;> rfl
    have path := ih (r := r.take request rest) collecting taken
    rw [drain_cons inbox]
    exact .head (.collect collecting inbox) path

theorem works_gather {r : LoopRun β} (top : r.phase = .top)
    (going : (r.loop.pending.isEmpty && r.loop.stopping) = false)
    (awake : (r.loop.pending.isEmpty && r.loop.inbox.isEmpty) = false) :
    Relation.ReflTransGen Works r
      { r with loop := r.loop.drain, phase := .picking, offered := r.sent } := by
  cases idle : r.loop.pending.isEmpty with
  | false => exact .head (.proceed top idle) (works_drain (r := r.begin) rfl)
  | true =>
    -- an idle loop blocks on the first request, and collects only then
    rw [idle, Bool.true_and] at going awake
    cases waiting : r.loop.inbox with
    | nil => simp [waiting] at awake
    | cons request rest =>
      have path := works_drain (r := r.begin.take request rest) rfl
      rw [show (r.begin.take request rest).loop.drain = r.loop.drain from
        (drain_cons waiting).symm] at path
      exact .head (.receive top idle going waiting) path

/-- A turn that goes on is what the loop does when nobody sends anything in the meantime. -/
theorem works_of_turn {r : LoopRun β} (top : r.phase = .top) {job : Option (Errand β)}
    {loop : MainLoop (Errand β)} (turn : r.loop.turn = .next job loop) :
    Relation.ReflTransGen Works r
      (match job with
        | some e => { r with loop := r.loop.drain, offered := r.sent }.perform e loop.pending
        | none => { r with loop := loop, offered := r.sent }) := by
  unfold MainLoop.turn at turn
  split at turn
  · cases turn
  split at turn
  · cases turn
  rename_i going awake
  have gathered := works_gather top (by simpa using going) (by simpa using awake)
  cases popped : r.loop.drain.pending.pop? with
  | some found =>
    obtain ⟨e, pending⟩ := found
    simp only [popped, MainLoop.Turn.next.injEq] at turn
    obtain ⟨rfl, rfl⟩ := turn
    exact gathered.tail (.perform rfl popped)
  | none =>
    -- the loop woke up for nothing but the order to stop
    simp only [popped, MainLoop.Turn.next.injEq] at turn
    obtain ⟨rfl, rfl⟩ := turn
    have path := gathered.tail (.skip rfl popped)
    rw [← top] at path
    exact path

theorem turn_eq_stop {loop : MainLoop (Errand β)} :
    loop.turn = .stop ↔ loop.pending.isEmpty = true ∧ loop.stopping = true := by
  unfold MainLoop.turn
  constructor
  · intro turn
    split at turn
    · rename_i done
      exact Bool.and_eq_true_iff.1 done
    · split at turn
      · cases turn
      · simp only at turn
        split at turn <;> cases turn
  · intro done
    simp [done.1, done.2]

theorem turn_eq_wait {loop : MainLoop (Errand β)} :
    loop.turn = .wait ↔
      loop.pending.isEmpty = true ∧ loop.stopping = false ∧ loop.inbox = [] := by
  unfold MainLoop.turn
  constructor
  · intro turn
    split at turn
    · cases turn
    · split at turn
      · rename_i going idle
        obtain ⟨idle, exhausted⟩ := Bool.and_eq_true_iff.1 idle
        exact ⟨idle, by simpa [idle] using going, List.isEmpty_iff.1 exhausted⟩
      · simp only at turn
        split at turn <;> cases turn
  · intro idle
    simp [idle.1, idle.2.1, idle.2.2]

/-! ## The way of the requests -/

/-- The jobs of a given urgency that ran, in order. -/
def ranAt (r : LoopRun β) (urgency : Urgency) : List (Errand β) :=
  (r.ran.map Prod.fst).filter (·.urgency = urgency)

/-- In every lane, what the loop took in has run or is pending, in the order in which it was sent. -/
structure Flow (r : LoopRun β) : Prop where
  labelled : ∀ {urgency : Urgency} {e : Errand β}, .run urgency e ∈ r.sent → e.urgency = urgency
  taken : ∃ taken, r.sent = taken ++ r.loop.inbox ∧
    (r.loop.stopping = true ↔ HostRequest.shutdown ∈ taken) ∧
    ∀ urgency, HostRequest.lane urgency taken = r.ranAt urgency ++ r.loop.pending.lane urgency

theorem flow_start (w : Workspace) : Flow ({ workspace := w } : LoopRun β) where
  labelled := by simp
  taken := ⟨[], rfl, by simp, by intro urgency; cases urgency <;> rfl⟩

theorem flow_send {r : LoopRun β} (flow : r.Flow) {request : HostRequest (Errand β)}
    (own : ∀ {urgency e}, request = .run urgency e → e.urgency = urgency) (next : Nat) :
    Flow { r with next := next, loop := r.loop.send [request], sent := r.sent ++ [request] } := by
  obtain ⟨taken, split, stopping, lanes⟩ := flow.taken
  constructor
  · intro urgency e member
    rcases List.mem_append.1 member with earlier | last
    · exact flow.labelled earlier
    · exact own (List.mem_singleton.1 last).symm
  · exact ⟨taken, by simp [MainLoop.send, split], stopping, lanes⟩

theorem flow_sends {r s : LoopRun β} (sends : Sends r s) (flow : r.Flow) : s.Flow := by
  cases sends with
  | call _ urgency body =>
    cases closed : r.isOver with
    | true =>
      rw [call_of_over closed]
      exact ⟨flow.labelled, flow.taken⟩
    | false =>
      rw [call_of_running closed]
      refine flow_send flow ?_ _
      intro urgency' e same
      cases same
      rfl
  | shutdown _ =>
    cases closed : r.isOver with
    | true => rwa [shutdown_of_over closed]
    | false =>
      rw [shutdown_of_running closed]
      exact flow_send flow (by intro urgency e same; cases same) _
  | release => exact ⟨flow.labelled, flow.taken⟩

theorem flow_take {r : LoopRun β} (flow : r.Flow) {request : HostRequest (Errand β)}
    {rest : List (HostRequest (Errand β))} (waiting : r.loop.inbox = request :: rest) :
    (r.take request rest).Flow := by
  obtain ⟨taken, split, stopping, lanes⟩ := flow.taken
  -- the request moves from the front of the inbox to the end of what was taken in
  refine ⟨flow.labelled, taken ++ [request], ?_, ?_, ?_⟩
  · cases request <;> simpa [take, MainLoop.accept, waiting] using split
  · cases request <;> simp [take, MainLoop.accept, stopping]
  · intro urgency
    cases request with
    | run other e =>
      simp only [take, MainLoop.accept, HostRequest.lane_append, HostRequest.lane_run, lanes,
        Pending.lane_push, ← List.append_assoc]
      rfl
    | shutdown =>
      simp only [take, MainLoop.accept, HostRequest.lane_append, HostRequest.lane_shutdown, lanes,
        List.append_nil]
      rfl

/-- A job is popped from the lane of its own urgency, and no lane before that has one. -/
theorem Flow.popped {r : LoopRun β} (flow : r.Flow) {e : Errand β} {pending : Pending (Errand β)}
    (popped : r.loop.pending.pop? = some (e, pending)) :
    (∀ other, r.loop.pending.lane other =
      (if other = e.urgency then [e] else []) ++ pending.lane other) ∧
      ∀ other, other.rank < e.urgency.rank → r.loop.pending.lane other = [] := by
  obtain ⟨taken, split, _, lanes⟩ := flow.taken
  obtain ⟨urgency, first, before⟩ := Pending.pop?_eq_some popped
  -- the lanes do not know the jobs' own urgencies; what was sent does
  have own : e.urgency = urgency := by
    apply flow.labelled
    rw [split]
    refine List.mem_append_left _ (HostRequest.mem_lane.1 ?_)
    simp [lanes, first]
  subst own
  exact ⟨first, before⟩

theorem flow_perform {r : LoopRun β} (flow : r.Flow) {e : Errand β} {pending : Pending (Errand β)}
    (popped : r.loop.pending.pop? = some (e, pending)) : (r.perform e pending).Flow := by
  obtain ⟨taken, split, stopping, lanes⟩ := flow.taken
  refine ⟨flow.labelled, taken, split, stopping, ?_⟩
  intro other
  rw [lanes other, (flow.popped popped).1 other, ← List.append_assoc]
  congr 1
  simp only [ranAt, perform, List.map_append, List.map_cons, List.map_nil, List.filter_append,
    List.filter_cons, List.filter_nil]
  congr 1
  -- in its own lane the job goes from the front of what waits to the end of what ran
  by_cases same : other = e.urgency
  · simp [same]
  · simp [same, Ne.symm same]

theorem flow_works {r s : LoopRun β} (works : Works r s) (flow : r.Flow) : s.Flow := by
  cases works with
  | receive _ _ _ waiting =>
    have begun : r.begin.Flow := ⟨flow.labelled, flow.taken⟩
    exact flow_take begun waiting
  | proceed => exact ⟨flow.labelled, flow.taken⟩
  | collect _ waiting => exact flow_take flow waiting
  | exhaust => exact ⟨flow.labelled, flow.taken⟩
  | perform _ popped => exact flow_perform flow popped
  | skip => exact ⟨flow.labelled, flow.taken⟩
  | stop => exact ⟨flow.labelled, flow.taken⟩
  | abandon => exact ⟨flow.labelled, flow.taken⟩

theorem flow_steps {w : Workspace} {r : LoopRun β} (steps : Steps { workspace := w } r) : r.Flow :=
  steps.invariant (flow_start w) flow_sends flow_works

/-! ## The ledger of the callers -/

/-- What the caller of a job that ran is told. -/
def reply (run : Errand β × Workspace) : Nat × Except CallError β :=
  (run.1.ticket, (run.1.body.contained run.2).1)

/-- What a caller is told whose job cannot run any more. -/
def refusal (ticket : Nat) : Nat × Except CallError β := (ticket, .error .loopClosed)

/-- The jobs whose callers still wait. -/
def outstanding (r : LoopRun β) : List (Errand β) := if r.isOver then [] else r.waiting

/-- Every ticket that was given out is that of a job that ran, of one that waits, or of a call that was
refused, and the callers were told accordingly. Nobody is refused before the loop has ended. -/
def Ledger (r : LoopRun β) : Prop :=
  ∃ refused : List Nat, r.replies = r.ran.map reply ++ refused.map refusal ∧
    (r.isOver = false → refused = []) ∧
    (r.ran.map (·.1.ticket) ++ (r.outstanding.map (·.ticket) ++ refused)).Perm (List.range r.next)

theorem ledger_start (w : Workspace) : Ledger ({ workspace := w } : LoopRun β) :=
  ⟨[], rfl, fun _ => rfl, .refl _⟩

theorem outstanding_of_running {r : LoopRun β} (running : r.isOver = false) :
    r.outstanding = r.waiting := by
  simp [outstanding, running]

theorem outstanding_of_over {r : LoopRun β} (closed : r.isOver = true) : r.outstanding = [] := by
  simp [outstanding, closed]

/-- The ledger does not depend on where the waiting jobs stand. -/
theorem Ledger.congr {r s : LoopRun β} (ledger : r.Ledger) (ran : s.ran = r.ran)
    (replies : s.replies = r.replies) (next : s.next = r.next) (closed : s.isOver = r.isOver)
    (waits : s.waiting.Perm r.waiting) : s.Ledger := by
  obtain ⟨refused, told, early, tickets⟩ := ledger
  have still : s.outstanding.Perm r.outstanding := by
    unfold outstanding
    rw [closed]
    split
    · exact .refl _
    · exact waits
  refine ⟨refused, by rw [replies, ran, told], by rwa [closed], ?_⟩
  rw [ran, next]
  exact .trans (.append_left _ (.append_right _ (still.map _))) tickets

theorem ledger_call {r : LoopRun β} (ledger : r.Ledger) (urgency : Urgency) (body : Action β) :
    (r.call urgency body).Ledger := by
  obtain ⟨refused, told, early, tickets⟩ := ledger
  -- the new ticket counts among the refused after the end, and among the waiting before
  have counted := List.range_succ ▸ tickets.append_right [r.next]
  cases closed : r.isOver with
  | true =>
    rw [call_of_over closed]
    refine ⟨refused ++ [r.next], by simp [told, refusal], ?_, ?_⟩
    · intro running
      exact absurd (closed.symm.trans running) (by decide)
    · rw [outstanding_of_over closed] at counted
      rw [outstanding_of_over]
      · simpa using counted
      · exact closed
  | false =>
    rw [call_of_running closed]
    obtain rfl := early closed
    refine ⟨[], told, fun _ => rfl, ?_⟩
    rw [outstanding_of_running closed] at counted
    rw [outstanding_of_running]
    · simpa [waiting, MainLoop.send] using counted
    · exact closed

theorem ledger_sends {r s : LoopRun β} (sends : Sends r s) (ledger : r.Ledger) : s.Ledger := by
  cases sends with
  | call _ urgency body => exact ledger_call ledger urgency body
  | shutdown _ =>
    cases closed : r.isOver with
    | true => rwa [shutdown_of_over closed]
    | false =>
      rw [shutdown_of_running closed]
      exact ledger.congr rfl rfl rfl rfl (by simp [waiting, MainLoop.send])
  | release => exact ledger

theorem waiting_take {r : LoopRun β} {request : HostRequest (Errand β)}
    {rest : List (HostRequest (Errand β))} (inbox : r.loop.inbox = request :: rest) :
    (r.take request rest).waiting.Perm r.waiting := by
  unfold waiting
  rw [inbox]
  cases request with
  | run urgency e =>
    refine ((Pending.toList_push_perm _ _ _).append_right _).trans ?_
    rw [List.append_assoc]
    exact .refl _
  | shutdown => exact .refl _

theorem ledger_perform {r : LoopRun β} (ledger : r.Ledger) (picking : r.phase = .picking)
    {e : Errand β} {pending : Pending (Errand β)}
    (popped : r.loop.pending.pop? = some (e, pending)) : (r.perform e pending).Ledger := by
  obtain ⟨refused, told, early, tickets⟩ := ledger
  have running : r.isOver = false := by rw [isOver, picking]
  obtain rfl := early running
  refine ⟨[], ?_, fun _ => rfl, ?_⟩
  · simp [perform, told, reply]
  · have waits : r.waiting = e :: (r.perform e pending).waiting := by
      simp [waiting, Pending.toList_of_pop? popped, perform]
    rw [outstanding_of_running running, waits] at tickets
    rw [outstanding_of_running (show (r.perform e pending).isOver = false from rfl)]
    simpa [perform] using tickets

theorem ledger_close {r : LoopRun β} (ledger : r.Ledger) (running : r.isOver = false)
    (ending : LoopEnding) : (r.close ending).Ledger := by
  obtain ⟨refused, told, early, tickets⟩ := ledger
  obtain rfl := early running
  -- whoever waits is refused now, and nobody was before
  refine ⟨r.waiting.map (·.ticket), ?_, ?_, ?_⟩
  · simp [close, told, refusal, Function.comp_def]
  · intro contradictory
    cases contradictory
  · rw [outstanding_of_running running] at tickets
    rw [outstanding_of_over (show (r.close ending).isOver = true from rfl)]
    simpa [close] using tickets

theorem ledger_works {r s : LoopRun β} (works : Works r s) (ledger : r.Ledger) : s.Ledger := by
  cases works with
  | receive top _ _ waiting =>
    exact ledger.congr rfl rfl rfl (by simp [isOver, take, begin, top])
      (waiting_take (r := r.begin) waiting)
  | proceed top _ => exact ledger.congr rfl rfl rfl (by simp [isOver, begin, top]) (.refl _)
  | collect _ waiting => exact ledger.congr rfl rfl rfl rfl (waiting_take waiting)
  | exhaust collecting _ =>
    exact ledger.congr rfl rfl rfl (by simp [isOver, collecting]) (.refl _)
  | perform picking popped => exact ledger_perform ledger picking popped
  | skip picking _ => exact ledger.congr rfl rfl rfl (by simp [isOver, picking]) (.refl _)
  | stop top _ => exact ledger_close ledger (by rw [isOver, top]) _
  | abandon top _ _ => exact ledger_close ledger (by rw [isOver, top]) _

theorem ledger_steps {w : Workspace} {r : LoopRun β} (steps : Steps { workspace := w } r) :
    r.Ledger :=
  steps.invariant (ledger_start w) ledger_sends ledger_works

/-! ## The end -/

/-- What an end leaves behind: nothing that was taken in, and nothing at all when the loop was
abandoned. -/
def Settled (r : LoopRun β) : Prop :=
  match r.phase with
  | .ended .stopped => r.loop.pending.isEmpty = true ∧ r.loop.stopping = true
  | .ended .abandoned => r.loop.pending.isEmpty = true ∧ r.loop.inbox = []
  | _ => True

theorem settled_of_running {r : LoopRun β} (running : r.isOver = false) : r.Settled := by
  unfold Settled
  split
  · rename_i closed
    simp [isOver, closed] at running
  · rename_i closed
    simp [isOver, closed] at running
  · trivial

theorem settled_sends {r s : LoopRun β} (sends : Sends r s) (settled : r.Settled) : s.Settled := by
  cases closed : r.isOver with
  | true =>
    cases sends with
    | call _ urgency body =>
      rw [call_of_over closed]
      exact settled
    | shutdown _ => rwa [shutdown_of_over closed]
    | release => exact settled
  | false =>
    apply settled_of_running
    cases sends with
    | call _ urgency body =>
      rw [call_of_running closed]
      exact closed
    | shutdown _ =>
      rw [shutdown_of_running closed]
      exact closed
    | release => exact closed

theorem settled_works {r s : LoopRun β} (works : Works r s) (_ : r.Settled) : s.Settled := by
  -- a loop that works has not ended, so only the last two moves have something to show
  cases works with
  | receive => trivial
  | proceed => trivial
  | collect collecting _ =>
    exact settled_of_running (by simp [isOver, take, collecting])
  | exhaust => trivial
  | perform => trivial
  | skip => trivial
  | stop _ done => exact turn_eq_stop.1 done
  | abandon _ _ idle => exact ⟨(turn_eq_wait.1 idle).1, (turn_eq_wait.1 idle).2.2⟩

theorem settled_steps {w : Workspace} {r : LoopRun β} (steps : Steps { workspace := w } r) :
    r.Settled :=
  steps.invariant (P := Settled) trivial settled_sends settled_works

end LoopRun

end Tandem
