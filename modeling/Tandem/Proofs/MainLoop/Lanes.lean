import Tandem.MainLoop.Basic

/-! # The lanes of the main loop

The pending jobs stand in three lanes, one per urgency, and so do the jobs among the requests that
the loop has not looked at yet. Taking in a request moves it from the end of one to the end of the
other, and popping takes the first job of the first lane that has one.

The loop never looks at a job itself, so it works in the same way over any other jobs in the same
places: `MainLoop.map` puts them there. -/

namespace Tandem

/-- The place of an urgency in the order of urgencies, the most urgent first. -/
def Urgency.rank : Urgency → Nat
  | .ui => 0
  | .write => 1
  | .read => 2

namespace HostRequest

variable {α β : Type}

/-- The job of a request, if it is of a given urgency. -/
def jobAt? (urgency : Urgency) : HostRequest α → Option α
  | .run other job => if other = urgency then some job else none
  | .shutdown => none

/-- The jobs of a given urgency among requests, in order. -/
def lane (urgency : Urgency) (requests : List (HostRequest α)) : List α :=
  requests.filterMap (jobAt? urgency)

/-- The job of a request. -/
def job? : HostRequest α → Option α
  | .run _ job => some job
  | .shutdown => none

/-- The jobs among requests, in order. -/
def jobs (requests : List (HostRequest α)) : List α := requests.filterMap job?

/-- The request for another job in the place of one. -/
def map (f : α → β) : HostRequest α → HostRequest β
  | .run urgency job => .run urgency (f job)
  | .shutdown => .shutdown

@[simp] theorem lane_nil (urgency : Urgency) : lane urgency ([] : List (HostRequest α)) = [] := rfl

@[simp] theorem lane_append (urgency : Urgency) (xs ys : List (HostRequest α)) :
    lane urgency (xs ++ ys) = lane urgency xs ++ lane urgency ys := List.filterMap_append

theorem lane_run (urgency other : Urgency) (job : α) :
    lane urgency [.run other job] = if other = urgency then [job] else [] := by
  by_cases same : other = urgency <;> simp [lane, jobAt?, same]

@[simp] theorem lane_shutdown (urgency : Urgency) :
    lane urgency [(.shutdown : HostRequest α)] = [] := rfl

@[simp] theorem jobs_nil : jobs ([] : List (HostRequest α)) = [] := rfl

@[simp] theorem jobs_append (xs ys : List (HostRequest α)) : jobs (xs ++ ys) = jobs xs ++ jobs ys :=
  List.filterMap_append

@[simp] theorem jobs_run (urgency : Urgency) (job : α) : jobs [.run urgency job] = [job] := rfl

@[simp] theorem jobs_shutdown : jobs [(.shutdown : HostRequest α)] = [] := rfl

theorem jobs_map (f : α → β) (requests : List (HostRequest α)) :
    jobs (requests.map (HostRequest.map f)) = (jobs requests).map f := by
  induction requests with
  | nil => rfl
  | cons request rest ih =>
    cases request with
    | run urgency job => exact congrArg (f job :: ·) ih
    | shutdown => exact ih

theorem mem_lane {urgency : Urgency} {job : α} {requests : List (HostRequest α)} :
    job ∈ lane urgency requests ↔ .run urgency job ∈ requests := by
  constructor
  · intro member
    obtain ⟨request, sent, found⟩ := List.mem_filterMap.1 member
    cases request with
    | shutdown => cases found
    | run other job' =>
      simp only [jobAt?] at found
      split at found
      · rename_i same
        cases found
        exact same ▸ sent
      · cases found
  · intro sent
    exact List.mem_filterMap.2 ⟨_, sent, by simp [jobAt?]⟩

theorem lane_eq_nil {requests : List (HostRequest α)} (none : jobs requests = [])
    {urgency : Urgency} : lane urgency requests = [] := by
  rw [lane, List.filterMap_eq_nil_iff]
  intro request member
  have noJob := List.filterMap_eq_nil_iff.1 none request member
  cases request with
  | run => cases noJob
  | shutdown => rfl

end HostRequest

namespace Pending

variable {α β : Type}

/-- The jobs of a given urgency. -/
def lane (p : Pending α) : Urgency → List α
  | .ui => p.ui
  | .write => p.write
  | .read => p.read

/-- Other jobs in the places of those that wait. -/
def map (f : α → β) (p : Pending α) : Pending β := ⟨p.ui.map f, p.write.map f, p.read.map f⟩

theorem lane_push (p : Pending α) (urgency other : Urgency) (job : α) :
    (p.push other job).lane urgency = p.lane urgency ++ if other = urgency then [job] else [] := by
  cases urgency <;> cases other <;> simp [push, lane]

theorem isEmpty_iff {p : Pending α} : p.isEmpty = true ↔ ∀ urgency, p.lane urgency = [] := by
  obtain ⟨ui, write, read⟩ := p
  constructor
  · intro empty urgency
    simp only [isEmpty, Bool.and_eq_true, List.isEmpty_iff] at empty
    obtain ⟨⟨rfl, rfl⟩, rfl⟩ := empty
    cases urgency <;> rfl
  · intro empty
    have uiEmpty := empty .ui
    have writeEmpty := empty .write
    have readEmpty := empty .read
    simp only [lane] at uiEmpty writeEmpty readEmpty
    simp [isEmpty, uiEmpty, writeEmpty, readEmpty]

/-- What is popped is the first job of the first lane that has one. -/
theorem pop?_eq_some {p rest : Pending α} {job : α} (popped : p.pop? = some (job, rest)) :
    ∃ urgency, (∀ other, p.lane other = (if other = urgency then [job] else []) ++ rest.lane other) ∧
      ∀ other, other.rank < urgency.rank → p.lane other = [] := by
  obtain ⟨ui, write, read⟩ := p
  cases ui with
  | cons first ui =>
    cases popped
    exact ⟨.ui, by intro other; cases other <;> rfl,
      by intro other before; cases other <;> simp [Urgency.rank] at before⟩
  | nil =>
    cases write with
    | cons first write =>
      cases popped
      exact ⟨.write, by intro other; cases other <;> rfl,
        by intro other before; cases other <;> simp [Urgency.rank, lane] at before ⊢⟩
    | nil =>
      cases read with
      | cons first read =>
        cases popped
        exact ⟨.read, by intro other; cases other <;> rfl,
          by intro other before; cases other <;> simp [Urgency.rank, lane] at before ⊢⟩
      | nil => cases popped

theorem toList_of_pop? {p rest : Pending α} {job : α} (popped : p.pop? = some (job, rest)) :
    p.toList = job :: rest.toList := by
  obtain ⟨ui, write, read⟩ := p
  cases ui with
  | cons first ui => cases popped; rfl
  | nil =>
    cases write with
    | cons first write => cases popped; rfl
    | nil =>
      cases read with
      | cons first read => cases popped; rfl
      | nil => cases popped

theorem toList_push_perm (p : Pending α) (urgency : Urgency) (job : α) :
    (p.push urgency job).toList.Perm (p.toList ++ [job]) := by
  cases urgency with
  | ui =>
    simp only [push, toList, List.append_assoc]
    exact List.Perm.append_left _ (List.perm_append_comm.trans (by simp))
  | write =>
    simp only [push, toList, List.append_assoc]
    exact List.Perm.append_left _ (List.Perm.append_left _ List.perm_append_comm)
  | read => simp [push, toList]

theorem toList_of_isEmpty {p : Pending α} (empty : p.isEmpty = true) : p.toList = [] := by
  have lanes := isEmpty_iff.1 empty
  have uiEmpty := lanes .ui
  have writeEmpty := lanes .write
  have readEmpty := lanes .read
  simp only [lane] at uiEmpty writeEmpty readEmpty
  simp [toList, uiEmpty, writeEmpty, readEmpty]

/-! ## Other jobs -/

theorem map_push (f : α → β) (p : Pending α) (urgency : Urgency) (job : α) :
    (p.push urgency job).map f = (p.map f).push urgency (f job) := by
  cases urgency <;> simp [push, map]

theorem pop?_map (f : α → β) (p : Pending α) :
    (p.map f).pop? = p.pop?.map (Prod.map f (Pending.map f)) := by
  obtain ⟨ui, write, read⟩ := p
  cases ui <;> cases write <;> cases read <;> rfl

@[simp] theorem toList_map (f : α → β) (p : Pending α) : (p.map f).toList = p.toList.map f := by
  simp [toList, map]

@[simp] theorem isEmpty_map (f : α → β) (p : Pending α) : (p.map f).isEmpty = p.isEmpty := by
  simp [isEmpty, map]

end Pending

namespace MainLoop

variable {α β : Type}

/-- The loop over other jobs in the places of its own. -/
def map (f : α → β) (loop : MainLoop α) : MainLoop β :=
  ⟨loop.inbox.map (HostRequest.map f), loop.pending.map f, loop.stopping⟩

theorem map_accept (f : α → β) (loop : MainLoop α) (request : HostRequest α) :
    (loop.accept request).map f = (loop.map f).accept (request.map f) := by
  cases request with
  | run urgency job => simp [accept, map, HostRequest.map, Pending.map_push]
  | shutdown => rfl

theorem map_send (f : α → β) (loop : MainLoop α) (requests : List (HostRequest α)) :
    (loop.send requests).map f = (loop.map f).send (requests.map (HostRequest.map f)) := by
  simp [send, map]

end MainLoop

end Tandem
