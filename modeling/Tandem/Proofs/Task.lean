import Mathlib.Data.List.Nodup
import Tandem.Task

/-! # The tasks of a registry

A registry that was only ever asked to start tasks under new ids and to end them holds the tasks of a
list, each under its own id (`Tasks.Lists`). Starting a task makes the list longer, and ending one
rewrites its entry. What the registry tells about itself can then be read off the list. -/

namespace Tandem

/-! ## Ids -/

theorem Text.decimal_inj {n n' : Nat} (same : (Text.decimal n).toList = (Text.decimal n').toList) :
    n = n' := by
  have digits : Nat.toDigits 10 n = Nat.toDigits 10 n' := by simpa [Text.decimal] using same
  calc
    n = Nat.ofDigitChars 10 (Nat.toDigits 10 n) 0 := Nat.ofDigitChars_ten_toDigits.symm
    _ = Nat.ofDigitChars 10 (Nat.toDigits 10 n') 0 := by rw [digits]
    _ = n' := Nat.ofDigitChars_ten_toDigits

/-- Ids tell numbers apart, whatever the kinds. -/
theorem Tasks.number_of_idOf {kind kind' : TaskKind} {n n' : Nat}
    (same : idOf kind n = idOf kind' n') : n = n' := by
  have letters := congrArg String.toList same
  -- the names of the kinds start with different letters, so only equal kinds are left
  cases kind <;> cases kind' <;> simp [idOf, TaskKind.text, String.toList_append] at letters
  · exact Text.decimal_inj letters
  · exact Text.decimal_inj letters

/-! ## The end of a task -/

namespace Task

theorem status_of_isRunning {task : Task} (runs : task.isRunning = true) : task.status = .running :=
  of_decide_eq_true runs

/-- The task after the one with an id has ended. -/
def ended (id : String) (status : TaskStatus) (message : String) (result : Option Json)
    (task : Task) : Task :=
  if task.id = id then { task with status := status, message := message, result := result } else task

variable {id message : String} {status : TaskStatus} {result : Option Json} {task : Task}

theorem ended_self (same : task.id = id) :
    task.ended id status message result =
      { task with status := status, message := message, result := result } :=
  if_pos same

theorem ended_other (apart : task.id ≠ id) : task.ended id status message result = task :=
  if_neg apart

@[simp] theorem ended_id : (task.ended id status message result).id = task.id := by
  rw [ended]
  split <;> rfl

@[simp] theorem ended_kind : (task.ended id status message result).kind = task.kind := by
  rw [ended]
  split <;> rfl

@[simp] theorem ended_createdAt :
    (task.ended id status message result).createdAt = task.createdAt := by
  rw [ended]
  split <;> rfl

/-- Ending the task in the middle of a list leaves the others alone. -/
theorem map_ended {before after : List Task}
    (distinct : ((before ++ task :: after).map Task.id).Nodup) (same : task.id = id)
    (status : TaskStatus) (message : String) (result : Option Json) :
    (before ++ task :: after).map (ended id status message result) =
      before ++ { task with status := status, message := message, result := result } :: after := by
  subst same
  rw [List.map_append, List.map_cons, List.nodup_middle, List.nodup_cons] at distinct
  have others : ∀ other ∈ before ++ after, other.ended task.id status message result = other := by
    intro other listed
    refine ended_other fun same => distinct.1 ?_
    rw [← same, ← List.map_append]
    exact List.mem_map_of_mem listed
  have unchanged : (before ++ after).map (ended task.id status message result) = before ++ after :=
    (List.map_congr_left others).trans (List.map_id' _)
  rw [List.map_append] at unchanged
  obtain ⟨front, back⟩ := List.append_inj unchanged (List.length_map _)
  rw [List.map_append, List.map_cons, ended_self rfl, front, back]

/-- The task has a result exactly when it has completed. -/
def Coherent (task : Task) : Prop := task.result.isSome = true ↔ task.status = .completed

theorem Coherent.ended (coherent : task.Coherent) (id : String) (message : String)
    (ends : result.isSome = true ↔ status = .completed) :
    (task.ended id status message result).Coherent := by
  rw [Task.ended]
  split
  · exact ends
  · exact coherent

theorem field?_result (task : Task) : task.toJson.field? "result" = task.result := by
  cases given : task.result <;> simp [toJson, Json.field?, Json.present, given, List.lookup_cons]

theorem field?_status (task : Task) :
    task.toJson.field? "status" = some (.string task.status.text) := by
  simp [toJson, Json.field?, List.lookup_cons]

/-- An object for a task has a result exactly when it says that the task has completed. -/
theorem Coherent.result_iff_completed (coherent : task.Coherent) :
    (task.toJson.field? "result").isSome = true ↔
      task.toJson.field? "status" = some (.string "completed") := by
  rw [field?_result, field?_status]
  refine Iff.trans coherent ?_
  cases task.status <;> simp [TaskStatus.text]

end Task

/-! ## Registries and lists -/

namespace Tasks

variable {registry : Tasks} {tasks : List Task} {task : Task}

theorem get?_create (number now : Nat) (kind : TaskKind) (message id : String) :
    (registry.create number now kind message).2.get? id =
      if idOf kind number = id then some ⟨idOf kind number, kind, .running, message, none, now⟩
      else registry.get? id := by
  simp [create, get?, Std.ExtTreeMap.getElem?_insert]

theorem get?_finish (id : String) (status : TaskStatus) (message : String) (result : Option Json)
    (other : String) :
    (registry.finish id status message result).get? other =
      if id = other then
        (registry.get? id).map fun task =>
          { task with status := status, message := message, result := result }
      else registry.get? other := by
  rw [finish]
  split
  · rename_i task found
    rw [found, Option.map_some]
    simp [get?, Std.ExtTreeMap.getElem?_insert]
  · rename_i absent
    split
    · rename_i same
      rw [← same, absent, Option.map_none]
    · rfl

/-- The registry holds the tasks of a list, each under its id. -/
structure Lists (registry : Tasks) (tasks : List Task) : Prop where
  distinct : (tasks.map Task.id).Nodup
  known : ∀ id task, registry.get? id = some task ↔ task ∈ tasks ∧ task.id = id

namespace Lists

theorem empty : Lists {} [] where
  distinct := .nil
  known id task := by simp [get?]

theorem unique (lists : registry.Lists tasks) {task' : Task} (member : task ∈ tasks)
    (member' : task' ∈ tasks) (same : task.id = task'.id) : task = task' := by
  have found := (lists.known task.id task).2 ⟨member, rfl⟩
  have found' := (lists.known task.id task').2 ⟨member', same.symm⟩
  exact Option.some.inj (found.symm.trans found')

theorem create (lists : registry.Lists tasks) {number : Nat} {kind : TaskKind}
    (fresh : ∀ task ∈ tasks, task.id ≠ idOf kind number) (now : Nat) (message : String) :
    (registry.create number now kind message).2.Lists
      (tasks ++ [⟨idOf kind number, kind, .running, message, none, now⟩]) where
  distinct := by
    rw [List.map_append, List.nodup_append]
    refine ⟨lists.distinct, by simp, ?_⟩
    rintro id member other last rfl
    obtain ⟨task, listed, rfl⟩ := List.mem_map.1 member
    exact fresh task listed (by simpa using last)
  known id task := by
    rw [get?_create, List.mem_append, List.mem_singleton]
    split
    · rename_i same
      subst same
      constructor
      · intro found
        cases found
        exact ⟨.inr rfl, rfl⟩
      · rintro ⟨listed | rfl, same⟩
        · exact absurd same (fresh task listed)
        · rfl
    · rename_i apart
      rw [lists.known]
      constructor
      · exact fun ⟨listed, same⟩ => ⟨.inl listed, same⟩
      · rintro ⟨listed | rfl, same⟩
        · exact ⟨listed, same⟩
        · exact absurd same apart

theorem finish (lists : registry.Lists tasks) (id : String) (status : TaskStatus)
    (message : String) (result : Option Json) :
    (registry.finish id status message result).Lists
      (tasks.map (Task.ended id status message result)) where
  distinct := by
    rw [List.map_map]
    simpa [Function.comp_def] using lists.distinct
  known other task := by
    rw [get?_finish, List.mem_map]
    split
    · rename_i same
      subst same
      rw [Option.map_eq_some_iff]
      constructor
      · rintro ⟨old, found, rfl⟩
        obtain ⟨listed, same⟩ := (lists.known _ _).1 found
        exact ⟨⟨old, listed, Task.ended_self same⟩, same⟩
      · rintro ⟨⟨old, listed, rfl⟩, same⟩
        rw [Task.ended_id] at same
        exact ⟨old, (lists.known _ _).2 ⟨listed, same⟩, (Task.ended_self same).symm⟩
    · rename_i apart
      rw [lists.known]
      constructor
      · rintro ⟨listed, rfl⟩
        exact ⟨⟨task, listed, Task.ended_other (Ne.symm apart)⟩, rfl⟩
      · rintro ⟨⟨old, listed, rfl⟩, same⟩
        rw [Task.ended_id] at same
        subst same
        rw [Task.ended_other (Ne.symm apart)]
        exact ⟨listed, rfl⟩

theorem perm (lists : registry.Lists tasks) : registry.list.Perm tasks := by
  refine (List.mergeSort_perm _ _).trans ?_
  have entry {id : String} {task : Task} :
      (id, task) ∈ registry.byId.toList ↔ task ∈ tasks ∧ task.id = id := by
    rw [Std.ExtTreeMap.mem_toList_iff_getElem?_eq_some]
    exact lists.known id task
  have member (task : Task) : task ∈ registry.byId.toList.map Prod.snd ↔ task ∈ tasks := by
    rw [List.mem_map]
    constructor
    · rintro ⟨⟨id, _⟩, listed, rfl⟩
      exact (entry.1 listed).1
    · exact fun listed => ⟨(task.id, task), entry.2 ⟨listed, rfl⟩, rfl⟩
  -- the keys of the map are distinct, and a task stands under its own id only
  have nodup : (registry.byId.toList.map Prod.snd).Nodup := by
    rw [List.Nodup, List.pairwise_map]
    refine Std.ExtTreeMap.distinct_keys_toList.imp_of_mem fun {a b} listed listed' apart same => ?_
    have keys : a.1 = b.1 := by rw [← (entry.1 listed).2, ← (entry.1 listed').2, same]
    exact apart (by simp [keys])
  exact (List.perm_ext_iff_of_nodup nodup lists.distinct.of_map).2 member

theorem running (lists : registry.Lists tasks) :
    registry.running = (tasks.filter (·.isRunning)).length :=
  (lists.perm.filter _).length_eq

end Lists

end Tasks

end Tandem
