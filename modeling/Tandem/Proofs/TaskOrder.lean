import Mathlib.Data.String.Basic
import Tandem.Proofs.MergeSort
import Tandem.Proofs.Task

/-! # The order of the list of tasks

A registry lists its tasks by the clock, and those that were created at one reading by their ids. The
list is the one arrangement of the tasks in this order (`Tasks.Lists.list_eq_iff`), whatever became of
them since. So tasks are listed in the order of their creation as long as the clock goes on between any
two of them. Where it stands still their ids decide, and ids go by their characters: an export comes
before every diff, and the tenth export before the ninth. -/

namespace Tandem

/-- How two tasks compare in a list of tasks: by the clock, then by their ids. -/
def Task.order (a b : Task) : Ordering := (compare a.createdAt b.createdAt).then (compare a.id b.id)

theorem Task.order_eq_lt {a b : Task} :
    a.order b = .lt ↔ a.createdAt < b.createdAt ∨ a.createdAt = b.createdAt ∧ a.id < b.id := by
  rw [order, Ordering.then_eq_lt, Nat.compare_eq_lt, Nat.compare_eq_eq, compare_lt_iff_lt]

namespace Tasks

variable {registry : Tasks} {tasks : List Task}

namespace Lists

theorem pairwise_list (lists : registry.Lists tasks) :
    registry.list.Pairwise fun a b => a.order b = .lt := by
  -- the map lists its entries by their keys, which are the ids
  have keyed {id : String} {task : Task} (entry : (id, task) ∈ registry.byId.toList) : task.id = id :=
    ((lists.known id task).1 (Std.ExtTreeMap.mem_toList_iff_getElem?_eq_some.1 entry)).2
  have byIds : (registry.byId.toList.map Prod.snd).Pairwise fun a b => a.id < b.id := by
    rw [List.pairwise_map]
    refine Std.ExtTreeMap.ordered_keys_toList.imp_of_mem fun {a b} here there less => ?_
    rw [keyed here, keyed there]
    exact compare_lt_iff_lt.1 less
  have trans : ∀ a b c : Task, decide (a.createdAt ≤ b.createdAt) = true →
      decide (b.createdAt ≤ c.createdAt) = true → decide (a.createdAt ≤ c.createdAt) = true := by
    simp only [decide_eq_true_eq]
    omega
  have total : ∀ a b : Task, (decide (a.createdAt ≤ b.createdAt) || decide (b.createdAt ≤ a.createdAt)) = true := by
    simp only [Bool.or_eq_true, decide_eq_true_eq]
    omega
  refine (pairwise_mergeSort_then trans total byIds).imp fun {a b} both => ?_
  simp only [decide_eq_true_eq] at both
  rw [Task.order_eq_lt]
  rcases Nat.lt_or_eq_of_le both.1 with earlier | same
  · exact .inl earlier
  · exact .inr ⟨same, both.2 same.ge⟩

/-- No other arrangement of the tasks is in their order. -/
theorem list_eq_iff (lists : registry.Lists tasks) :
    registry.list = tasks ↔ tasks.Pairwise fun a b => a.order b = .lt := by
  constructor
  · rintro rfl
    exact lists.pairwise_list
  · intro ordered
    refine List.Perm.eq_of_pairwise (fun a b _ _ first second => ?_) lists.pairwise_list ordered lists.perm
    -- two tasks cannot come before each other
    rw [Task.order_eq_lt] at first second
    obtain earlier | ⟨same, less⟩ := first
    · omega
    · obtain later | ⟨-, less'⟩ := second
      · omega
      · exact absurd less' less.asymm

end Lists

/-! ## Calls on a registry -/

/-- A call on a registry. A task is created at a reading of the clock. -/
inductive Call where
  | create (kind : TaskKind) (message : String) (now : Nat)
  | complete (id : String) (result : Json)
  | fail (id message : String)

/-- A registry, and the number of its next task, after a call. -/
def after : Nat × Tasks → Call → Nat × Tasks
  | (number, registry), .create kind message now =>
    (number + 1, (registry.create number now kind message).2)
  | (number, registry), .complete id result => (number, registry.complete id result)
  | (number, registry), .fail id message => (number, registry.fail id message)

/-- The ids of the tasks that calls create, and the readings of the clock, in the order of the calls. -/
def created : Nat → List Call → List (String × Nat)
  | _, [] => []
  | number, .create kind _ now :: calls => (idOf kind number, now) :: created (number + 1) calls
  | number, .complete .. :: calls | number, .fail .. :: calls => created number calls

/-- The registry holds tasks that were created as told, under numbers below the next one. -/
structure Holds (state : Nat × Tasks) (history : List (String × Nat)) (tasks : List Task) : Prop where
  lists : state.2.Lists tasks
  told : tasks.map (fun task => (task.id, task.createdAt)) = history
  numbered : ∀ task ∈ tasks, ∃ kind, ∃ number < state.1, task.id = idOf kind number

namespace Holds

variable {state : Nat × Tasks} {history : List (String × Nat)}

theorem create (holds : Holds state history tasks) (kind : TaskKind) (message : String) (now : Nat) :
    Holds (after state (.create kind message now)) (history ++ [(idOf kind state.1, now)])
      (tasks ++ [⟨idOf kind state.1, kind, .running, message, none, now⟩]) where
  lists := by
    refine holds.lists.create (fun task listed same => ?_) now message
    obtain ⟨kind', number, below, named⟩ := holds.numbered task listed
    have := number_of_idOf (named.symm.trans same)
    omega
  told := by simp [holds.told]
  numbered task listed := by
    rcases List.mem_append.1 listed with old | new
    · obtain ⟨kind', number, below, named⟩ := holds.numbered task old
      exact ⟨kind', number, Nat.lt_succ_of_lt below, named⟩
    · obtain rfl := List.mem_singleton.1 new
      exact ⟨kind, state.1, Nat.lt_succ_self _, rfl⟩

theorem finish (holds : Holds state history tasks) (id : String) (status : TaskStatus) (message : String)
    (result : Option Json) :
    Holds (state.1, state.2.finish id status message result) history
      (tasks.map (Task.ended id status message result)) where
  lists := holds.lists.finish id status message result
  told := by simp [← holds.told]
  numbered task listed := by
    obtain ⟨old, there, rfl⟩ := List.mem_map.1 listed
    simpa using holds.numbered old there

theorem run (holds : Holds state history tasks) (calls : List Call) :
    ∃ tasks', Holds (calls.foldl after state) (history ++ created state.1 calls) tasks' := by
  induction calls generalizing state history tasks with
  | nil => exact ⟨tasks, by simpa [created] using holds⟩
  | cons call calls ih =>
    cases call with
    | create kind message now =>
      obtain ⟨tasks', holds'⟩ := ih (holds.create kind message now)
      rw [List.append_assoc] at holds'
      exact ⟨tasks', holds'⟩
    | complete id result => exact ih (holds.finish id _ _ _)
    | fail id message => exact ih (holds.finish id _ _ _)

end Holds

/-- After any calls, the tasks that were created are listed once each. They are in the order of their
creation exactly if the clock went on between any two of them, or their ids rise where it did not. -/
theorem list_in_order_iff (first : Nat) (calls : List Call) :
    let listed := (calls.foldl after (first, {})).2.list.map fun task => (task.id, task.createdAt)
    listed.Perm (created first calls) ∧
      (listed = created first calls ↔
        (created first calls).Pairwise fun a b => a.2 < b.2 ∨ a.2 = b.2 ∧ a.1 < b.1) := by
  have fresh : Holds (first, {}) [] [] := ⟨.empty, rfl, by simp⟩
  obtain ⟨tasks, lists, told, -⟩ := fresh.run calls
  rw [List.nil_append] at told
  simp only [← told, List.pairwise_map, ← Task.order_eq_lt]
  refine ⟨lists.perm.map _, ?_, ?_⟩
  · -- the list is in order, and only ids and readings count for that
    intro same
    have ordered := lists.pairwise_list
    simp only [Task.order_eq_lt] at ordered ⊢
    rw [← List.pairwise_map (f := fun task : Task => (task.id, task.createdAt))
      (R := fun a b => a.2 < b.2 ∨ a.2 = b.2 ∧ a.1 < b.1)] at ordered ⊢
    rwa [← same]
  · intro ordered
    rw [lists.list_eq_iff.2 ordered]

-- at one reading of the clock, a diff is listed behind the export that was asked for after it
example : ([.create .showingDiff "" 5, .create .exporting "" 5].foldl after (1, {})).2.list.map Task.id =
    ["export-2", "show_diff-1"] := by
  cbv

end Tasks

end Tandem
