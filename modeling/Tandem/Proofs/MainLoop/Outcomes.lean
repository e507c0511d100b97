import Tandem.Proofs.MainLoop.Run

/-! # Every call has one outcome

No job runs twice, and none is lost: a loop that was told to stop has run all that it was sent before
that, and one that was abandoned has run everything. Once the loop has ended, every caller was told
one outcome. It is that of the job if the job ran, and otherwise that the loop is closed.

A panic concerns nobody but its caller. This is stated by comparison: for every run there is a
`LoopRun.Twin` of it, in which one job ends well wherever it panics there, and in the twin the loop
does the same and all other callers are told the same. -/

namespace Tandem

variable {β : Type}

/-- The outcomes of a body, as its caller is told them. -/
inductive Answers (body : Action β) (w : Workspace) : Except CallError β → Prop
  | value {a w'} (finished : body w = .ok a w') : Answers body w (.ok a)
  | failure {error w'} (failed : body w = .error (.error error) w') :
      Answers body w (.error (.host error))
  | panic {text w'} (panicked : body w = .error (.panic text) w') :
      Answers body w (.error (.panicked (text.getD "unknown panic payload")))

theorem answers_contained (body : Action β) (w : Workspace) :
    Answers body w (body.contained w).1 := by
  unfold Action.contained
  split
  · rename_i finished
    exact .value finished
  · rename_i stop w' stopped
    cases stop with
    | error error => exact .failure stopped
    | panic text => exact .panic stopped

theorem Answers.ne_loopClosed {body : Action β} {w : Workspace} {outcome : Except CallError β}
    (answers : Answers body w outcome) : outcome ≠ .error .loopClosed := by
  cases answers <;> simp

/-! ## Twins -/

/-- A body that does the same and ends with a value where the given one panics. -/
def Action.calmed (value : β) (body : Action β) : Action β := fun w =>
  match body w with
  | .error (.panic _) w => .ok value w
  | outcome => outcome

theorem contained_calmed (value : β) (body : Action β) (w : Workspace) :
    ((body.calmed value).contained w).2 = (body.contained w).2 := by
  unfold Action.contained Action.calmed
  cases body w with
  | ok a w' => rfl
  | error stop w' => cases stop <;> rfl

/-- The job with a given ticket is calmed, and all others stay as they are. -/
def Errand.calmed (ticket : Nat) (value : β) (e : Errand β) : Errand β :=
  if e.ticket = ticket then { e with body := e.body.calmed value } else e

section

variable (ticket : Nat) (value : β)

@[simp] theorem Errand.ticket_calmed (e : Errand β) : (e.calmed ticket value).ticket = e.ticket := by
  unfold Errand.calmed
  split <;> rfl

@[simp] theorem Errand.urgency_calmed (e : Errand β) :
    (e.calmed ticket value).urgency = e.urgency := by
  unfold Errand.calmed
  split <;> rfl

theorem Errand.calmed_of_ne {e : Errand β} (other : e.ticket ≠ ticket) :
    e.calmed ticket value = e := by
  simp [Errand.calmed, other]

theorem Errand.contained_calmed (e : Errand β) (w : Workspace) :
    ((e.calmed ticket value).body.contained w).2 = (e.body.contained w).2 := by
  unfold Errand.calmed
  split
  · exact Tandem.contained_calmed value e.body w
  · rfl

end

namespace LoopRun

/-- What the caller with a given ticket was told. -/
def repliesTo (r : LoopRun β) (ticket : Nat) : List (Except CallError β) :=
  (r.replies.filter (·.1 = ticket)).map Prod.snd

/-- The runs of the job with a given ticket. -/
def runsOf (r : LoopRun β) (ticket : Nat) : List (Errand β) :=
  (r.ran.map Prod.fst).filter (·.ticket = ticket)

/-- Two runs that differ only in that the job with a given ticket is calmed in the second one. What
its caller is told may differ. -/
structure Twin (ticket : Nat) (value : β) (r s : LoopRun β) : Prop where
  loop : s.loop = r.loop.map (Errand.calmed ticket value)
  phase : s.phase = r.phase
  workspace : s.workspace = r.workspace
  held : s.held = r.held
  next : s.next = r.next
  replies : ∀ other, other ≠ ticket → s.repliesTo other = r.repliesTo other

section

variable {ticket : Nat} {value : β} {r s : LoopRun β}

theorem Twin.isOver (twin : Twin ticket value r s) : s.isOver = r.isOver := by
  unfold LoopRun.isOver
  rw [twin.phase]

theorem Twin.waiting (twin : Twin ticket value r s) :
    s.waiting = r.waiting.map (Errand.calmed ticket value) := by
  simp [LoopRun.waiting, twin.loop, MainLoop.map, HostRequest.jobs_map]

/-- Twins stay twins when all other callers are told the same. -/
theorem Twin.replies_append (twin : Twin ticket value r s)
    {r' s' : LoopRun β} {told told' : List (Nat × Except CallError β)}
    (replies : r'.replies = r.replies ++ told) (replies' : s'.replies = s.replies ++ told')
    (same : ∀ other, other ≠ ticket → told'.filter (·.1 = other) = told.filter (·.1 = other)) :
    ∀ other, other ≠ ticket → s'.repliesTo other = r'.repliesTo other := by
  intro other ne
  have before := twin.replies other ne
  simp only [repliesTo, replies, replies', List.filter_append, List.map_append] at before ⊢
  rw [before, same other ne]

theorem Twin.sends (twin : Twin ticket value r s) {r' : LoopRun β} (sends : Sends r r') :
    ∃ s', Sends s s' ∧ Twin ticket value r' s' := by
  cases sends with
  | call held urgency body =>
    -- the twin calls with the body that the calmed errand has
    refine ⟨_, .call (twin.held.trans held) urgency
      (Errand.calmed ticket value ⟨r.next, urgency, body⟩).body, ?_⟩
    cases closed : r.isOver with
    | true =>
      rw [call_of_over closed, call_of_over (twin.isOver.trans closed), twin.next]
      exact ⟨twin.loop, twin.phase, twin.workspace, twin.held, rfl,
        twin.replies_append rfl rfl fun _ _ => rfl⟩
    | false =>
      rw [call_of_running closed, call_of_running (twin.isOver.trans closed), twin.next]
      refine ⟨?_, twin.phase, twin.workspace, twin.held, rfl, twin.replies⟩
      rw [MainLoop.map_send, twin.loop]
      by_cases same : r.next = ticket <;> simp [HostRequest.map, Errand.calmed, same]
  | shutdown held =>
    refine ⟨_, .shutdown (twin.held.trans held), ?_⟩
    cases closed : r.isOver with
    | true => rwa [shutdown_of_over closed, shutdown_of_over (twin.isOver.trans closed)]
    | false =>
      rw [shutdown_of_running closed, shutdown_of_running (twin.isOver.trans closed)]
      refine ⟨?_, twin.phase, twin.workspace, twin.held, twin.next, twin.replies⟩
      rw [MainLoop.map_send, twin.loop]
      rfl
  | release =>
    exact ⟨_, .release, twin.loop, twin.phase, twin.workspace, rfl, twin.next, twin.replies⟩

theorem Twin.begin (twin : Twin ticket value r s) : Twin ticket value r.begin s.begin :=
  ⟨twin.loop, rfl, twin.workspace, twin.held, twin.next, twin.replies⟩

theorem Twin.take (twin : Twin ticket value r s) (request : HostRequest (Errand β))
    (rest : List (HostRequest (Errand β))) :
    Twin ticket value (r.take request rest) (s.take (request.map (Errand.calmed ticket value))
      (rest.map (HostRequest.map (Errand.calmed ticket value)))) := by
  refine ⟨?_, twin.phase, twin.workspace, twin.held, twin.next, twin.replies⟩
  simp only [LoopRun.take, MainLoop.map_accept, twin.loop]
  rfl

theorem Twin.perform (twin : Twin ticket value r s) (e : Errand β) (pending : Pending (Errand β)) :
    Twin ticket value (r.perform e pending)
      (s.perform (e.calmed ticket value) (pending.map (Errand.calmed ticket value))) := by
  refine ⟨?_, rfl, ?_, twin.held, twin.next, twin.replies_append rfl rfl ?_⟩
  · simp only [LoopRun.perform, twin.loop]
    rfl
  · simp only [LoopRun.perform, twin.workspace, Errand.contained_calmed]
  · intro other ne
    -- only the caller of the calmed job can be told something else
    by_cases own : e.ticket = ticket
    · simp [own, ne.symm]
    · rw [Errand.calmed_of_ne ticket value own, twin.workspace]

theorem Twin.close (twin : Twin ticket value r s) (ending : LoopEnding) :
    Twin ticket value (r.close ending) (s.close ending) := by
  refine ⟨twin.loop, rfl, twin.workspace, twin.held, twin.next, twin.replies_append rfl rfl ?_⟩
  intro other _
  rw [twin.waiting, List.map_map]
  congr 2
  funext e
  simp

theorem Twin.works (twin : Twin ticket value r s) {r' : LoopRun β} (works : Works r r') :
    ∃ s', Works s s' ∧ Twin ticket value r' s' := by
  -- the loop never looks into a job before it runs it, and twins have jobs at the same places
  have idle : s.loop.pending.isEmpty = r.loop.pending.isEmpty := by simp [twin.loop, MainLoop.map]
  have inbox : s.loop.inbox =
      r.loop.inbox.map (HostRequest.map (Errand.calmed ticket value)) := by rw [twin.loop]; rfl
  have stopping : s.loop.stopping = r.loop.stopping := by rw [twin.loop]; rfl
  have pops : s.loop.pending.pop? = r.loop.pending.pop?.map
      (Prod.map (Errand.calmed ticket value) (Pending.map (Errand.calmed ticket value))) := by
    rw [twin.loop]
    exact Pending.pop?_map _ _
  cases works with
  | receive top empty going waiting =>
    exact ⟨_, .receive (twin.phase.trans top) (idle.trans empty) (stopping.trans going)
      (by rw [inbox, waiting, List.map_cons]), twin.begin.take _ _⟩
  | proceed top busy => exact ⟨_, .proceed (twin.phase.trans top) (idle.trans busy), twin.begin⟩
  | collect collecting waiting =>
    exact ⟨_, .collect (twin.phase.trans collecting) (by rw [inbox, waiting, List.map_cons]),
      twin.take _ _⟩
  | exhaust collecting exhausted =>
    exact ⟨_, .exhaust (twin.phase.trans collecting) (by rw [inbox, exhausted, List.map_nil]),
      twin.loop, rfl, twin.workspace, twin.held, twin.next, twin.replies⟩
  | perform picking popped =>
    exact ⟨_, .perform (twin.phase.trans picking) (by rw [pops, popped]; rfl), twin.perform _ _⟩
  | skip picking nothing =>
    exact ⟨_, .skip (twin.phase.trans picking) (by rw [pops, nothing]; rfl),
      twin.loop, rfl, twin.workspace, twin.held, twin.next, twin.replies⟩
  | stop top done =>
    have done' : s.loop.turn = .stop := by
      rw [turn_eq_stop, idle, stopping]
      exact turn_eq_stop.1 done
    exact ⟨_, .stop (twin.phase.trans top) done', twin.close _⟩
  | abandon top released waits =>
    have waits' : s.loop.turn = .wait := by
      rw [turn_eq_wait, idle, stopping, inbox, List.map_eq_nil_iff]
      exact turn_eq_wait.1 waits
    exact ⟨_, .abandon (twin.phase.trans top) (twin.held.trans released) waits', twin.close _⟩

theorem Twin.steps (twin : Twin ticket value r s) {r' : LoopRun β} (steps : Steps r r') :
    ∃ s', Steps s s' ∧ Twin ticket value r' s' := by
  induction steps with
  | refl => exact ⟨s, .refl, twin⟩
  | tail _ step ih =>
    obtain ⟨s', path, twin'⟩ := ih
    rcases step with sends | works
    · obtain ⟨s'', sends', twin''⟩ := twin'.sends sends
      exact ⟨s'', path.tail (.inl sends'), twin''⟩
    · obtain ⟨s'', works', twin''⟩ := twin'.works works
      exact ⟨s'', path.tail (.inr works'), twin''⟩

end

/-! ## Exactly once -/

/-- Where keys are all different, an element is the only one with its key. -/
theorem filter_key_eq_singleton {α : Type} (key : α → Nat) {items : List α} {a : α}
    (different : (items.map key).Nodup) (member : a ∈ items) :
    items.filter (fun b => key b = key a) = [a] := by
  induction items with
  | nil => cases member
  | cons b items ih =>
    simp only [List.map_cons, List.nodup_cons, List.mem_map, not_exists, not_and] at different
    obtain ⟨fresh, different⟩ := different
    rcases List.mem_cons.1 member with rfl | later
    · have none_later : items.filter (fun b => key b = key a) = [] := by
        rw [List.filter_eq_nil_iff]
        intro b later same
        exact fresh b later (by simpa using same)
      simp [none_later]
    · have other : key b ≠ key a := fun same => fresh a later same.symm
      simpa [other] using ih different later

variable {r : LoopRun β}

theorem Ledger.tickets_nodup (ledger : r.Ledger) : (r.ran.map (·.1.ticket)).Nodup := by
  obtain ⟨refused, _, _, tickets⟩ := ledger
  exact (List.nodup_append.1 (tickets.nodup_iff.2 List.nodup_range)).1

theorem Ledger.ran_once (ledger : r.Ledger) {e : Errand β} {found : Workspace}
    (ran : (e, found) ∈ r.ran) : r.ran.filter (fun run => run.1.ticket = e.ticket) = [(e, found)] :=
  filter_key_eq_singleton (fun run : Errand β × Workspace => run.1.ticket) ledger.tickets_nodup ran

theorem Ledger.runsOf_eq (ledger : r.Ledger) {e : Errand β} {found : Workspace}
    (ran : (e, found) ∈ r.ran) : r.runsOf e.ticket = [e] := by
  rw [runsOf, List.filter_map]
  exact congrArg (List.map Prod.fst) (ledger.ran_once ran)

/-- What was taken in has run by the end. -/
theorem mem_ran_of_taken {taken : List (HostRequest (Errand β))}
    (lanes : ∀ urgency, HostRequest.lane urgency taken =
      r.ranAt urgency ++ r.loop.pending.lane urgency)
    (idle : r.loop.pending.isEmpty = true) {e : Errand β} (sent : e.request ∈ taken) :
    ∃ found, (e, found) ∈ r.ran := by
  have member := HostRequest.mem_lane.2 sent
  rw [lanes, Pending.isEmpty_iff.1 idle, List.append_nil] at member
  obtain ⟨run, ran, rfl⟩ := List.mem_map.1 (List.mem_filter.1 member).1
  exact ⟨run.2, ran⟩

theorem stopped_ran (flow : r.Flow) (ledger : r.Ledger) (idle : r.loop.pending.isEmpty = true)
    (stopping : r.loop.stopping = true) :
    ∃ before after, r.sent = before ++ .shutdown :: after ∧ HostRequest.shutdown ∉ before ∧
      ∀ e : Errand β, e.request ∈ before → r.runsOf e.ticket = [e] := by
  obtain ⟨taken, split, shut, lanes⟩ := flow.taken
  -- the first order to stop is among what was taken in, and all of that has run
  obtain ⟨before, after, cut, first⟩ := List.eq_append_cons_of_mem (shut.1 stopping)
  refine ⟨before, after ++ r.loop.inbox, by simp [split, cut], first, ?_⟩
  intro e sent
  obtain ⟨found, ran⟩ := mem_ran_of_taken lanes idle
    (by rw [cut]; exact List.mem_append_left _ sent)
  exact ledger.runsOf_eq ran

theorem abandoned_ran (flow : r.Flow) (ledger : r.Ledger) (idle : r.loop.pending.isEmpty = true)
    (exhausted : r.loop.inbox = []) {e : Errand β} (sent : e.request ∈ r.sent) :
    r.runsOf e.ticket = [e] := by
  obtain ⟨taken, split, _, lanes⟩ := flow.taken
  rw [exhausted, List.append_nil] at split
  obtain ⟨found, ran⟩ := mem_ran_of_taken lanes idle (split ▸ sent)
  exact ledger.runsOf_eq ran

theorem Ledger.outcome (ledger : r.Ledger) (closed : r.isOver = true) {ticket : Nat}
    (called : ticket < r.next) :
    ∃ outcome, r.repliesTo ticket = [outcome] ∧
      (outcome = .error .loopClosed ↔ r.runsOf ticket = []) ∧
      ∀ e found, (e, found) ∈ r.ran → e.ticket = ticket → Answers e.body found outcome := by
  have once := @Ledger.ran_once _ _ ledger
  have runs := @Ledger.runsOf_eq _ _ ledger
  obtain ⟨refused, told, _, tickets⟩ := ledger
  rw [outstanding_of_over closed, List.map_nil, List.nil_append] at tickets
  have keys : r.replies.map Prod.fst = r.ran.map (·.1.ticket) ++ refused := by
    simp [told, Function.comp_def, reply, refusal]
  have different : (r.replies.map Prod.fst).Nodup :=
    keys ▸ tickets.nodup_iff.2 List.nodup_range
  -- tickets are told about once, so one reply is all of them
  have only : ∀ {outcome}, (ticket, outcome) ∈ r.replies → r.repliesTo ticket = [outcome] := by
    intro outcome entry
    exact congrArg (List.map Prod.snd) (filter_key_eq_singleton Prod.fst different entry)
  rcases List.mem_append.1 (tickets.mem_iff.2 (List.mem_range.2 called)) with ranTicket | refusedTicket
  · obtain ⟨⟨e, found⟩, ran, rfl⟩ := List.mem_map.1 ranTicket
    have entry : reply (e, found) ∈ r.replies := by
      rw [told]
      exact List.mem_append_left _ (List.mem_map_of_mem ran)
    refine ⟨(e.body.contained found).1, only entry, ?_, ?_⟩
    · have notClosed := (answers_contained e.body found).ne_loopClosed
      simp [runs ran, notClosed]
    · intro e' found' ran' same
      have both : (e', found') ∈ r.ran.filter (fun run => run.1.ticket = e.ticket) := by
        simpa [ran'] using same
      rw [once ran, List.mem_singleton] at both
      cases both
      exact answers_contained e.body found
  · have apart : ∀ e found, (e, found) ∈ r.ran → e.ticket ≠ ticket := by
      intro e found ran same
      exact (List.nodup_append.1 (keys ▸ different)).2.2 _ (List.mem_map_of_mem ran) _ refusedTicket
        same
    have entry : refusal ticket ∈ r.replies := by
      rw [told]
      exact List.mem_append_right _ (List.mem_map_of_mem refusedTicket)
    refine ⟨.error .loopClosed, only entry, ?_, ?_⟩
    · simp only [true_iff, runsOf, List.filter_eq_nil_iff, List.mem_map, decide_eq_true_eq]
      rintro e ⟨⟨e', found⟩, ran, rfl⟩
      exact apart e' found ran
    · intro e found ran same
      exact absurd same (apart e found ran)

/-- No job runs twice. A loop that was told to stop has run every job sent before that, once, and one
that was abandoned has run every job. After the end every call has one outcome: that the loop is
closed if the job never ran, and what the job came to otherwise. A job that panics could as well
have ended with a value: the loop does the same, and all other callers are told the same. -/
theorem every_call_has_one_outcome {w : Workspace} {r : LoopRun β}
    (steps : Steps { workspace := w } r) :
    (r.ran.map (·.1.ticket)).Nodup ∧
    (r.phase = .ended .stopped →
      ∃ before after, r.sent = before ++ .shutdown :: after ∧ HostRequest.shutdown ∉ before ∧
        ∀ e : Errand β, e.request ∈ before → r.runsOf e.ticket = [e]) ∧
    (r.phase = .ended .abandoned →
      ∀ e : Errand β, e.request ∈ r.sent → r.runsOf e.ticket = [e]) ∧
    (r.isOver = true → ∀ ticket < r.next,
      ∃ outcome, r.repliesTo ticket = [outcome] ∧
        (outcome = .error .loopClosed ↔ r.runsOf ticket = []) ∧
        ∀ e found, (e, found) ∈ r.ran → e.ticket = ticket → Answers e.body found outcome) ∧
    ∀ ticket value, ∃ s, Steps { workspace := w } s ∧ Twin ticket value r s := by
  have flow := flow_steps steps
  have ledger := ledger_steps steps
  have settled := settled_steps steps
  refine ⟨ledger.tickets_nodup, ?_, ?_, ?_, ?_⟩
  · intro stopped
    rw [Settled, stopped] at settled
    exact stopped_ran flow ledger settled.1 settled.2
  · intro abandoned e sent
    rw [Settled, abandoned] at settled
    exact abandoned_ran flow ledger settled.1 settled.2 sent
  · intro closed ticket called
    exact ledger.outcome closed called
  · intro ticket value
    exact Twin.steps ⟨rfl, rfl, rfl, rfl, rfl, fun _ _ => rfl⟩ steps

/-- A job that panics runs once before the loop stops, and its caller is told. -/
theorem panicking_call_has_one_outcome :
    let w : Workspace := ⟨Host.load ⟨"a1", "a", "/bin/a", ⟨0⟩, 16, 1, [], []⟩, .empty, {}⟩
    let e : Errand Unit := ⟨0, .read, throw (.panic (some "no"))⟩
    ∃ r : LoopRun Unit, Steps { workspace := w } r ∧ r.phase = .ended .stopped ∧
      r.ran = [(e, w)] ∧ ∃ outcome, r.repliesTo 0 = [outcome] ∧ outcome ≠ .error .loopClosed ∧
        Answers e.body w outcome := by
  intro w e
  let start : LoopRun Unit := { workspace := w }
  let sent : LoopRun Unit := (start.call .read e.body).shutdown
  have sends : Steps start sent := .tail (.single (.inl (.call rfl _ _))) (.inl (.shutdown rfl))
  let loop : MainLoop (Errand Unit) := ⟨[], { read := [e] }, true⟩
  let picking : LoopRun Unit := { sent with loop := loop, phase := .picking, offered := sent.sent }
  have takes : Steps sent picking :=
    .tail (.tail (.single (.inr (.receive rfl rfl rfl rfl))) (.inr (.collect rfl rfl)))
      (.inr (.exhaust rfl rfl))
  have ends : Steps picking ((picking.perform e {}).close .stopped) :=
    .tail (.single (.inr (.perform rfl rfl))) (.inr (.stop rfl rfl))
  have steps := (sends.trans takes).trans ends
  obtain ⟨outcome, told, closed, answers⟩ :=
    (every_call_has_one_outcome steps).2.2.2.1 rfl 0 (by decide)
  refine ⟨_, steps, rfl, rfl, outcome, told, ?_, answers e w (.head _) rfl⟩
  intro refused
  exact absurd (closed.1 refused) (by simp [runsOf, close, perform, picking, sent, start, shutdown,
    call, isOver, e])

end LoopRun

end Tandem
