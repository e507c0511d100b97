import Tandem.Proofs.MainLoop.Run
import Tandem.Proofs.MergeSort

/-! # The order in which jobs run

Jobs that are equally urgent run in the order in which they were sent, and a job runs only when all
more urgent ones have run that were there when the loop began to collect. Jobs that are all there
from the start run in the order of a stable sort by urgency. The last follows from the lanes: a
stable sort with three ranks is three filters, one behind the other. -/

namespace Tandem

open scoped List

variable {β : Type}

/-! ## Sorting by urgency -/

/-- Whether a job may run before another by its urgency. -/
def Errand.precedes (a b : Errand β) : Bool := a.urgency.rank ≤ b.urgency.rank

/-- The jobs of a given urgency. -/
def Errand.ofUrgency (urgency : Urgency) (errands : List (Errand β)) : List (Errand β) :=
  errands.filter (·.urgency = urgency)

theorem Errand.precedes_trans (a b c : Errand β) (first : a.precedes b) (second : b.precedes c) :
    a.precedes c := by
  simp only [precedes, decide_eq_true_eq] at *
  omega

theorem Errand.precedes_total (a b : Errand β) : (a.precedes b || b.precedes a) = true := by
  simp only [precedes, Bool.or_eq_true, decide_eq_true_eq]
  omega

/-- Nothing that stands behind a job in a sorted list is more urgent. -/
theorem ofUrgency_eq_nil (urgency : Urgency) {a : Errand β} {errands : List (Errand β)}
    (behind : ∀ b ∈ errands, a.precedes b) (before : urgency.rank < a.urgency.rank) :
    Errand.ofUrgency urgency errands = [] := by
  rw [Errand.ofUrgency, List.filter_eq_nil_iff]
  intro b member same
  have precedes := behind b member
  simp only [Errand.precedes, decide_eq_true_eq] at precedes same
  rw [same] at precedes
  omega

theorem sorted_eq_lanes {errands : List (Errand β)} (sorted : errands.Pairwise (Errand.precedes · ·)) :
    errands = Errand.ofUrgency .ui errands ++ Errand.ofUrgency .write errands ++
      Errand.ofUrgency .read errands := by
  induction errands with
  | nil => rfl
  | cons a errands ih =>
    obtain ⟨behind, sorted⟩ := List.pairwise_cons.1 sorted
    have rest := ih sorted
    -- the head opens its own lane, and the lanes before that are empty
    cases urgency : a.urgency with
    | ui =>
      simp only [Errand.ofUrgency, List.filter_cons, urgency] at rest ⊢
      simpa using rest
    | write =>
      have noUi := ofUrgency_eq_nil .ui behind (by simp [urgency, Urgency.rank])
      simp only [Errand.ofUrgency, List.filter_cons, urgency] at rest noUi ⊢
      simpa [noUi] using rest
    | read =>
      have noUi := ofUrgency_eq_nil .ui behind (by simp [urgency, Urgency.rank])
      have noWrite := ofUrgency_eq_nil .write behind (by simp [urgency, Urgency.rank])
      simp only [Errand.ofUrgency, List.filter_cons, urgency] at rest noUi noWrite ⊢
      simpa [noUi, noWrite] using rest

theorem ofUrgency_mergeSort (urgency : Urgency) (errands : List (Errand β)) :
    Errand.ofUrgency urgency (errands.mergeSort Errand.precedes) =
      Errand.ofUrgency urgency errands := by
  apply filter_mergeSort_of_tied Errand.precedes_trans Errand.precedes_total
  intro a b own own'
  simp only [decide_eq_true_eq] at own own'
  simp [Errand.precedes, own, own']

/-- A stable sort by urgency puts one lane behind the other. -/
theorem mergeSort_eq_lanes (errands : List (Errand β)) :
    errands.mergeSort Errand.precedes = Errand.ofUrgency .ui errands ++
      Errand.ofUrgency .write errands ++ Errand.ofUrgency .read errands := by
  have sorted := List.pairwise_mergeSort Errand.precedes_trans Errand.precedes_total errands
  rw [sorted_eq_lanes sorted, ofUrgency_mergeSort, ofUrgency_mergeSort, ofUrgency_mergeSort]

/-- The jobs of labelled requests stand in their lanes by their own urgency. -/
theorem ofUrgency_jobs {requests : List (HostRequest (Errand β))}
    (labelled : ∀ {urgency : Urgency} {e : Errand β}, .run urgency e ∈ requests → e.urgency = urgency)
    (urgency : Urgency) :
    Errand.ofUrgency urgency (HostRequest.jobs requests) = HostRequest.lane urgency requests := by
  induction requests with
  | nil => rfl
  | cons request rest ih =>
    have lane := ih fun member => labelled (List.mem_cons_of_mem _ member)
    cases request with
    | shutdown => exact lane
    | run other e =>
      have own : e.urgency = other := labelled List.mem_cons_self
      change List.filter _ (e :: HostRequest.jobs rest) =
        HostRequest.lane urgency ([.run other e] ++ rest)
      rw [HostRequest.lane_append, HostRequest.lane_run, ← lane, List.filter_cons, own,
        Errand.ofUrgency]
      by_cases same : other = urgency <;> simp [same]

namespace LoopRun

/-! ## What a job waits for -/

/-- When the loop is about to run a job, it has taken in all that it had been sent when it stopped to
collect. -/
def Gathered (r : LoopRun β) : Prop :=
  r.phase = .picking → ∀ urgency e, .run urgency e ∈ r.offered →
    e ∈ r.ranAt urgency ++ r.loop.pending.lane urgency

theorem gathered_sends {r s : LoopRun β} (sends : Sends r s) (gathered : r.Gathered) :
    s.Gathered := by
  cases sends with
  | call _ urgency body =>
    cases closed : r.isOver with
    | true =>
      rw [call_of_over closed]
      exact gathered
    | false =>
      rw [call_of_running closed]
      exact gathered
  | shutdown _ =>
    cases closed : r.isOver with
    | true => rwa [shutdown_of_over closed]
    | false =>
      rw [shutdown_of_running closed]
      exact gathered
  | release => exact gathered

theorem gathered_works {r s : LoopRun β} (works : Works r s) (flow : r.Flow) : s.Gathered := by
  intro picking urgency e offered
  -- one move only leads to picking, and it needs an inbox that is empty
  cases works with
  | exhaust _ exhausted =>
    obtain ⟨taken, split, _, lanes⟩ := flow.taken
    rw [exhausted, List.append_nil] at split
    have member := HostRequest.mem_lane.2 (split ▸ offered)
    rwa [lanes] at member
  | collect collecting _ => exact absurd (collecting.symm.trans picking) (by decide)
  | receive | proceed | perform | skip | stop | abandon => cases picking

theorem gathered_steps {w : Workspace} {r : LoopRun β} (steps : Steps { workspace := w } r) :
    r.Gathered := by
  suffices both : r.Flow ∧ r.Gathered from both.2
  -- a step of the loop gathers because of the flow before it, so the two are carried together
  refine steps.invariant (P := fun r => r.Flow ∧ r.Gathered) ⟨flow_start w, nofun⟩ ?_ ?_
  · intro r s sends both
    exact ⟨flow_sends sends both.1, gathered_sends sends both.2⟩
  · intro r s works both
    exact ⟨flow_works works both.1, gathered_works works both.1⟩

/-- A job waits for all more urgent ones that were there. -/
theorem Gathered.more_urgent_ran {r : LoopRun β} (gathered : r.Gathered) (flow : r.Flow)
    (picking : r.phase = .picking) {e : Errand β} {pending : Pending (Errand β)}
    (popped : r.loop.pending.pop? = some (e, pending)) {other : Errand β}
    (offered : other.request ∈ r.offered) (above : other.urgency.rank < e.urgency.rank) :
    other ∈ r.ran.map Prod.fst := by
  have there := gathered picking _ _ offered
  rw [(flow.popped popped).2 _ above, List.append_nil] at there
  exact (List.mem_filter.1 there).1

theorem Flow.ranAt_prefix {r : LoopRun β} (flow : r.Flow) (urgency : Urgency) :
    r.ranAt urgency <+: HostRequest.lane urgency r.sent := by
  obtain ⟨taken, split, _, lanes⟩ := flow.taken
  rw [split, HostRequest.lane_append, lanes, List.append_assoc]
  exact List.prefix_append _ _

/-! ## Jobs that are there from the start -/

/-- The jobs that were sent, the most urgent first. -/
def schedule (r : LoopRun β) : List (Errand β) :=
  (HostRequest.jobs r.sent).mergeSort Errand.precedes

/-- A move that sends the loop no job. -/
def QuietStep (r s : LoopRun β) : Prop :=
  Step r s ∧ HostRequest.jobs s.sent = HostRequest.jobs r.sent

/-- The loop has all jobs before it runs the first one, and then follows the schedule. -/
structure Scheduled (r : LoopRun β) : Prop where
  begun : r.ran = [] ∨ HostRequest.jobs r.loop.inbox = [] ∧
    r.ran.map Prod.fst ++ r.loop.pending.toList = r.schedule
  fresh : HostRequest.jobs r.loop.inbox ≠ [] → r.phase = .collecting ∨
    r.phase = .top ∧ r.loop.pending.isEmpty = true ∧ r.loop.stopping = false

/-- A loop that has taken in all jobs and run none of them has them in the order of the schedule. -/
theorem Flow.toList_eq_schedule {r : LoopRun β} (flow : r.Flow)
    (exhausted : HostRequest.jobs r.loop.inbox = []) (fresh : r.ran = []) :
    r.loop.pending.toList = r.schedule := by
  obtain ⟨taken, split, _, lanes⟩ := flow.taken
  have lane : ∀ urgency, r.loop.pending.lane urgency = HostRequest.lane urgency r.sent := by
    intro urgency
    rw [split, HostRequest.lane_append, lanes urgency, ranAt, fresh,
      HostRequest.lane_eq_nil exhausted, List.append_nil]
    rfl
  rw [schedule, mergeSort_eq_lanes, ofUrgency_jobs flow.labelled, ofUrgency_jobs flow.labelled,
    ofUrgency_jobs flow.labelled, ← lane, ← lane, ← lane]
  rfl

theorem Scheduled.follows {r : LoopRun β} (scheduled : r.Scheduled) (flow : r.Flow)
    (exhausted : HostRequest.jobs r.loop.inbox = []) :
    r.ran.map Prod.fst ++ r.loop.pending.toList = r.schedule := by
  rcases scheduled.begun with fresh | ⟨_, follows⟩
  · rw [flow.toList_eq_schedule exhausted fresh, fresh]
    rfl
  · exact follows

/-- All jobs are taken in by the time the loop has collected once. -/
theorem Scheduled.exhausted {r : LoopRun β} (scheduled : r.Scheduled)
    (collected : r.phase ≠ .collecting) (below : r.phase ≠ .top) :
    HostRequest.jobs r.loop.inbox = [] := by
  refine Classical.byContradiction fun more => ?_
  rcases scheduled.fresh more with collecting | ⟨top, _⟩
  · exact collected collecting
  · exact below top

/-- Before the loop starts it may be sent anything. -/
theorem scheduled_of_sends {w : Workspace} {r : LoopRun β}
    (sends : Relation.ReflTransGen Sends { workspace := w } r) : r.Scheduled := by
  suffices still : r.phase = .top ∧ r.loop.pending.isEmpty = true ∧ r.loop.stopping = false ∧
      r.ran = [] from ⟨.inl still.2.2.2, fun _ => .inr ⟨still.1, still.2.1, still.2.2.1⟩⟩
  induction sends with
  | refl => exact ⟨rfl, rfl, rfl, rfl⟩
  | @tail r s _ send ih =>
    have running : r.isOver = false := by rw [isOver, ih.1]
    cases send with
    | call _ urgency body =>
      rw [call_of_running running]
      exact ih
    | shutdown _ =>
      rw [shutdown_of_running running]
      exact ih
    | release => exact ih

theorem scheduled_sends {r s : LoopRun β} (sends : Sends r s)
    (quiet : HostRequest.jobs s.sent = HostRequest.jobs r.sent) (scheduled : r.Scheduled) :
    s.Scheduled := by
  cases sends with
  | call _ urgency body =>
    cases closed : r.isOver with
    | true =>
      rw [call_of_over closed]
      exact ⟨scheduled.begun, scheduled.fresh⟩
    | false => simp [call_of_running closed] at quiet
  | shutdown _ =>
    cases closed : r.isOver with
    | true => rwa [shutdown_of_over closed]
    | false =>
      rw [shutdown_of_running closed]
      constructor
      · simpa [MainLoop.send, schedule] using scheduled.begun
      · simpa [MainLoop.send] using scheduled.fresh
  | release => exact ⟨scheduled.begun, scheduled.fresh⟩

theorem scheduled_take {r : LoopRun β} (scheduled : r.Scheduled)
    {request : HostRequest (Errand β)} {rest : List (HostRequest (Errand β))}
    (waiting : r.loop.inbox = request :: rest) (collecting : r.phase = .collecting) :
    (r.take request rest).Scheduled := by
  constructor
  · rcases scheduled.begun with fresh | ⟨exhausted, follows⟩
    · exact .inl fresh
    · right
      rw [waiting] at exhausted
      -- after the first run no job is left in the inbox, so this is an order to stop
      cases request with
      | run urgency e => cases exhausted
      | shutdown => exact ⟨exhausted, follows⟩
  · intro _
    exact .inl collecting

theorem scheduled_perform {r : LoopRun β} (scheduled : r.Scheduled) (flow : r.Flow)
    (picking : r.phase = .picking) {e : Errand β} {pending : Pending (Errand β)}
    (popped : r.loop.pending.pop? = some (e, pending)) : (r.perform e pending).Scheduled := by
  have exhausted := scheduled.exhausted (by simp [picking]) (by simp [picking])
  have follows := scheduled.follows flow exhausted
  rw [Pending.toList_of_pop? popped] at follows
  constructor
  · right
    refine ⟨exhausted, ?_⟩
    simpa [perform, schedule] using follows
  · intro more
    exact absurd exhausted more

theorem scheduled_works {r s : LoopRun β} (works : Works r s) (flow : r.Flow)
    (scheduled : r.Scheduled) : s.Scheduled := by
  cases works with
  | receive _ _ _ waiting =>
    have begun : r.begin.Scheduled := ⟨scheduled.begun, fun _ => .inl rfl⟩
    exact scheduled_take begun waiting rfl
  | proceed => exact ⟨scheduled.begun, fun _ => .inl rfl⟩
  | collect collecting waiting => exact scheduled_take scheduled waiting collecting
  | exhaust _ exhausted =>
    refine ⟨scheduled.begun, ?_⟩
    intro more
    exact absurd (by rw [exhausted]; rfl) more
  | perform picking popped => exact scheduled_perform scheduled flow picking popped
  | skip picking _ =>
    refine ⟨scheduled.begun, ?_⟩
    intro more
    simpa [picking] using scheduled.fresh more
  | stop top done =>
    refine ⟨scheduled.begun, ?_⟩
    intro more
    simpa [top, (turn_eq_stop.1 done).2] using scheduled.fresh more
  | abandon _ _ idle =>
    refine ⟨scheduled.begun, ?_⟩
    intro more
    exact absurd (by rw [close, (turn_eq_wait.1 idle).2.2]; rfl) more

theorem scheduled_quiet {w : Workspace} {r₀ r : LoopRun β}
    (sends : Relation.ReflTransGen Sends { workspace := w } r₀)
    (quiet : Relation.ReflTransGen QuietStep r₀ r) :
    r.Scheduled ∧ r.schedule = r₀.schedule := by
  have start : Steps { workspace := w } r₀ := sends.lift id fun _ _ => .inl
  induction quiet with
  | refl => exact ⟨scheduled_of_sends sends, rfl⟩
  | tail path step ih =>
    obtain ⟨scheduled, same⟩ := ih
    -- a quiet run is a run, so what holds along every run holds here
    have flow := flow_steps (start.trans (path.lift id fun _ _ => And.left))
    refine ⟨?_, by rw [← same, schedule, step.2, schedule]⟩
    rcases step.1 with send | work
    · exact scheduled_sends send step.2 scheduled
    · exact scheduled_works work flow scheduled

theorem Scheduled.ran_prefix {r : LoopRun β} (scheduled : r.Scheduled) :
    r.ran.map Prod.fst <+: r.schedule := by
  rcases scheduled.begun with fresh | ⟨_, follows⟩
  · rw [fresh]
    exact List.nil_prefix
  · exact ⟨_, follows⟩

theorem Scheduled.ran_all {r : LoopRun β} (scheduled : r.Scheduled) (flow : r.Flow)
    (settled : r.Settled) (finished : r.isOver = true ∨ r.waiting = []) :
    r.ran.map Prod.fst = r.schedule := by
  have nothing : r.loop.pending.toList = [] ∧ HostRequest.jobs r.loop.inbox = [] := by
    rcases finished with closed | done
    · obtain ⟨ending, ended⟩ := isOver_iff.1 closed
      refine ⟨Pending.toList_of_isEmpty ?_,
        scheduled.exhausted (by simp [ended]) (by simp [ended])⟩
      rw [Settled, ended] at settled
      cases ending with
      | stopped => exact settled.1
      | abandoned => exact settled.1
    · exact List.append_eq_nil_iff.1 done
  have follows := scheduled.follows flow nothing.2
  rwa [nothing.1, List.append_nil] at follows

/-- Jobs of one urgency run in the order in which they were sent. When a job runs, all more urgent ones
have run that had been sent before the loop stopped to collect. And if all jobs are sent before the
loop starts, they run in the order of a stable sort by urgency. -/
theorem jobs_run_in_order {w : Workspace} {r : LoopRun β} (steps : Steps { workspace := w } r) :
    (∀ urgency, r.ranAt urgency <+: HostRequest.lane urgency r.sent) ∧
    (∀ e pending, r.phase = .picking → r.loop.pending.pop? = some (e, pending) →
      ∀ other : Errand β, other.request ∈ r.offered → other.urgency.rank < e.urgency.rank →
        other ∈ r.ran.map Prod.fst) ∧
    ∀ r₀ : LoopRun β, Relation.ReflTransGen Sends { workspace := w } r₀ →
      Relation.ReflTransGen QuietStep r₀ r →
      let sorted := (HostRequest.jobs r₀.sent).mergeSort Errand.precedes
      r.ran.map Prod.fst <+: sorted ∧
        (r.isOver = true ∨ r.waiting = [] → r.ran.map Prod.fst = sorted) := by
  have flow := flow_steps steps
  refine ⟨flow.ranAt_prefix, ?_, ?_⟩
  · intro e pending picking popped other offered above
    exact (gathered_steps steps).more_urgent_ran flow picking popped offered above
  · intro r₀ sends quiet
    obtain ⟨scheduled, same⟩ := scheduled_quiet sends quiet
    change _ <+: r₀.schedule ∧ (_ → _ = r₀.schedule)
    rw [← same]
    exact ⟨scheduled.ran_prefix, scheduled.ran_all flow (settled_steps steps)⟩

/-- An urgent job that was sent last runs first. -/
theorem late_urgent_job_runs_first :
    let w : Workspace := ⟨Host.load ⟨"a1", "a", "/bin/a", ⟨0⟩, 16, 1, [], []⟩, .empty, {}⟩
    let slow : Errand Unit := ⟨0, .read, pure ()⟩
    let quick : Errand Unit := ⟨1, .ui, pure ()⟩
    ∃ r₀ r s : LoopRun Unit, Relation.ReflTransGen Sends { workspace := w } r₀ ∧
      r₀.sent = [slow.request, quick.request] ∧
      Relation.ReflTransGen QuietStep r₀ r ∧ r.loop.pending.pop? = some (slow, {}) ∧
      quick ∈ r.ran.map Prod.fst ∧
      Relation.ReflTransGen QuietStep r s ∧ s.waiting = [] ∧ s.ran.map Prod.fst = [quick, slow] := by
  intro w slow quick
  let start : LoopRun Unit := { workspace := w }
  let sent : LoopRun Unit := (start.call .read slow.body).call .ui quick.body
  have sends : Relation.ReflTransGen Sends start sent :=
    .tail (.single (.call rfl _ _)) (.call rfl _ _)
  let loop : MainLoop (Errand Unit) := { pending := { ui := [quick], read := [slow] } }
  let first : LoopRun Unit := { sent with loop := loop, phase := .picking, offered := sent.sent }
  have takes : Relation.ReflTransGen QuietStep sent first :=
    .tail (.tail (.single ⟨.inr (.receive rfl rfl rfl rfl), rfl⟩) ⟨.inr (.collect rfl rfl), rfl⟩)
      ⟨.inr (.exhaust rfl rfl), rfl⟩
  let second : LoopRun Unit := { first.perform quick { read := [slow] } with phase := .picking }
  have turns : Relation.ReflTransGen QuietStep first second :=
    .tail (.tail (.single ⟨.inr (.perform rfl rfl), rfl⟩) ⟨.inr (.proceed rfl rfl), rfl⟩)
      ⟨.inr (.exhaust rfl rfl), rfl⟩
  have ends : Relation.ReflTransGen QuietStep second (second.perform slow {}) :=
    .single ⟨.inr (.perform rfl rfl), rfl⟩
  have started : Steps start sent := sends.lift id fun _ _ => .inl
  have half : Relation.ReflTransGen QuietStep sent second := takes.trans turns
  have whole := half.trans ends
  have reached : Steps start second := started.trans (half.lift id fun _ _ => And.left)
  have finished : Steps start (second.perform slow {}) :=
    started.trans (whole.lift id fun _ _ => And.left)
  refine ⟨sent, second, _, sends, rfl, half, rfl, ?_, ends, rfl, ?_⟩
  · exact (jobs_run_in_order reached).2.1 slow {} rfl rfl quick (.tail _ (.head _)) (by decide)
  · have sorted := ((jobs_run_in_order finished).2.2 sent sends whole).2 (.inr rfl)
    rw [sorted, mergeSort_eq_lanes]
    rfl

end LoopRun

end Tandem
