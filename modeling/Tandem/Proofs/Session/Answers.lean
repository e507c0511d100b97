import Tandem.Proofs.Session.Display
import Tandem.Proofs.Session.Tasks

/-! # Answers that get through

An answer goes out as part of a message, which must not be nested too deep and must hold no number that
does not fit a machine word. `Session.Tellable` says of a session that nothing it can be asked for is like
that. Whatever is asked of a session, it stays so as long as the numbers of its tasks and rows fit machine
words (`Session.tellable_play`): the results of its tasks are no more than the place of an export or the
number of a view. -/

namespace Tandem

open Rpc (Call)

theorem Json.Within.portable {depth : Nat} {v : Json} (within : v.Within depth)
    (bounded : depth < depthLimit) : v.Portable :=
  ⟨within.plain, Nat.lt_of_le_of_lt within.flat bounded⟩

/-- The numbers of a row fit machine words. -/
structure Row.Counted (row : Row) : Prop where
  index : row.index < UInt64.size
  matched : row.matched < UInt64.size
  ownUnidentified : row.ownUnidentified < UInt64.size
  peerUnidentified : row.peerUnidentified < UInt64.size

/-- The numbers that a session tells of its tasks and views fit machine words. -/
structure Session.Counted (s : Session) : Prop where
  running : s.tasks.running < UInt64.size
  views : s.views.all.length ≤ UInt64.size
  lengths : ∀ view ∈ s.views.all, view.rows.length < UInt64.size
  rows : ∀ view ∈ s.views.all, ∀ row ∈ view.rows, row.Counted

/-- All that a session can be asked for gets through. The result of a task is told with the task, in a
list of tasks, in an answer, which leaves 123 levels of the 126 to the result itself. -/
structure Session.Tellable (s : Session) : Prop where
  counted : s.Counted
  process : s.process.Portable
  results : ∀ id task result, s.tasks.get? id = some task → task.result = some result →
    result.Within 123

/-! ## Objects -/

theorem SyncCommand.within_toJson (command : SyncCommand) : command.toJson.Within 1 := by
  cases command with
  | jumpto peer address =>
    apply Json.within_object
    simp

theorem Row.Counted.within_toJson {row : Row} (counted : row.Counted) :
    row.toJsonWithCells.Within 2 := by
  have cells : row.cellsToJson.Within 1 := by
    apply Json.within_array
    simp
  apply Json.within_object
  simp [toFields, Json.within_nat, counted.index, counted.matched, counted.ownUnidentified,
    counted.peerUnidentified, cells]

theorem Task.within_toJson {task : Task} {depth : Nat}
    (results : ∀ result, task.result = some result → result.Within depth) :
    task.toJson.Within (depth + 1) := by
  apply Json.within_object
  cases given : task.result with
  | none => simp [Json.present]
  | some result => simp [Json.present, results result given]

theorem Tasks.exists_get?_of_mem {tasks : Tasks} {task : Task} (listed : task ∈ tasks.list) :
    ∃ id, tasks.get? id = some task := by
  rw [list, List.mem_mergeSort, List.mem_map] at listed
  obtain ⟨⟨id, _⟩, member, rfl⟩ := listed
  exact ⟨id, Std.ExtTreeMap.mem_toList_iff_getElem?_eq_some.1 member⟩

namespace Session

variable {s s' : Session}

theorem within_viewToJson {id : Nat} (small : id < UInt64.size) {view : MatchView}
    (rows : ∀ row ∈ view.rows, row.Counted) : (viewToJson id view).Within 4 := by
  have headers : (Json.array (Row.headers.map .string)).Within 3 := by
    apply Json.within_array
    simp
  have peer : (Json.orNull .string view.peer).Within 3 := by
    cases view.peer <;> simp [Json.orNull]
  have table : (Json.array (view.rows.map Row.toJsonWithCells)).Within 3 := by
    apply Json.within_array
    simpa using fun row listed => (rows row listed).within_toJson
  apply Json.within_object
  simp [Json.within_nat small, headers, peer, table]

/-! ## Answers -/

theorem portable_answerBy {α : Type} {job : Action α} {encode : α → Json}
    (portable : ∀ a, (encode a).Portable) {v : Json} (told : (s.answerBy job encode).1 = .ok v) :
    v.Portable := by
  rw [answerBy] at told
  split at told
  · cases told
    exact portable _
  · cases told

theorem portable_of_string (text : String) : (Json.string text).Portable :=
  ⟨trivial, by simp [Json.nesting, Json.depthLimit]⟩

theorem portable_null : Json.null.Portable := ⟨trivial, by simp [Json.nesting, Json.depthLimit]⟩

theorem Tellable.taskStatus (tellable : s.Tellable) {asked : Option String} {v : Json}
    (told : s.taskStatus asked = .ok v) : v.Portable := by
  have task {id : String} {task : Task} (found : s.tasks.get? id = some task) :
      task.toJson.Within 124 := by
    apply Task.within_toJson
    intro result done
    exact tellable.results id task result found done
  cases asked with
  | none =>
    cases told
    have tasks : (Json.array (s.tasks.list.map Task.toJson)).Within 125 := by
      apply Json.within_array
      intro v member
      obtain ⟨_, listed, rfl⟩ := List.mem_map.1 member
      obtain ⟨id, found⟩ := Tasks.exists_get?_of_mem listed
      exact task found
    have whole : (tasksToJson s.tasks).Within 126 := by
      apply Json.within_object
      simp [tasks, Json.within_nat tellable.counted.running]
    exact whole.portable (by decide)
  | some id =>
    rw [Session.taskStatus] at told
    split at told
    · rename_i found
      cases told
      exact (task found).portable (by decide)
    · cases told

theorem Tellable.viewRows (tellable : s.Tellable) {p : Rpc.ViewRowsParams} {v : Json}
    (told : (s.viewRows p).1 = .ok v) : v.Portable := by
  rw [Session.viewRows] at told
  cases resolved : s.resolveView p.view with
  | error error => simp [resolved] at told
  | ok found =>
    obtain ⟨id, view⟩ := found
    obtain ⟨inside, there⟩ := List.getElem?_eq_some_iff.1 (get?_of_resolveView resolved)
    have small : id < UInt64.size := Nat.lt_of_lt_of_le inside tellable.counted.views
    have rows := tellable.counted.rows view (List.mem_of_getElem there)
    rw [resolved] at told
    cases sorts : p.sort with
    | none =>
      simp only [sorts] at told
      cases told
      exact (within_viewToJson small rows).portable (by decide)
    | some column =>
      simp only [sorts] at told
      cases told
      refine (within_viewToJson small fun row listed => rows row ?_).portable (by decide)
      exact (MatchView.Rearranged.sort view column p.descending).rows.mem_iff.1 listed

theorem Tellable.answer (tellable : s.Tellable) {now : Nat} {call : Call} {v : Json}
    (told : (s.answer now call).1 = .ok v) : v.Portable := by
  cases call with
  | getPid =>
    cases told
    exact tellable.process
  | jumpto p => exact portable_answerBy (fun _ => portable_null) told
  | setItemColor p => exact portable_answerBy (fun _ => portable_null) told
  | getHash => exact portable_answerBy (fun _ => portable_of_string _) told
  | getRootFilename => exact portable_answerBy portable_of_string told
  | exportTo p => cases told; exact portable_null
  | showDiff p => cases told; exact portable_null
  | runCommands p => cases told; exact portable_null
  | taskStatus p => exact tellable.taskStatus told
  | viewRows p => exact tellable.viewRows told
  | activateRow p =>
    rw [Session.answer, activateRow] at told
    split at told
    · cases told
    · refine portable_answerBy (fun command => ?_) told
      have synced : (Json.orNull SyncCommand.toJson command).Within 1 := by
        cases command with
        | none => simp [Json.orNull]
        | some command => exact command.within_toJson
      have whole : (Json.object [("synced", Json.orNull SyncCommand.toJson command)]).Within 2 := by
        apply Json.within_object
        simpa using synced
      exact whole.portable (by decide)

/-! ## Results -/

/-- What tasks report: where an export went, or the number of a view and of its rows. -/
inductive Reported (views : Views) : Json → Prop
  | exported (path : String) : Reported views (.object [("path", .string path)])
  | opened {id rows : Nat} (role : Role)
      (there : (some (.nat id), some (.nat rows)) ∈ views.openings) :
      Reported views (openingResult id role rows)

/-- The results of all tasks are reports. -/
def Reports (s : Session) : Prop :=
  ∀ id task result, s.tasks.get? id = some task → task.result = some result →
    Reported s.views result

theorem Reported.mono {views views' : Views} {result : Json} (reported : Reported views result)
    (more : views.openings ⊆ views'.openings) : Reported views' result := by
  cases reported with
  | exported path => exact .exported path
  | opened role there => exact .opened role (more there)

theorem Reports.finish (reports : s.Reports) {id : String} {status : TaskStatus} {message : String}
    {given : Option Json} (tasks : s'.tasks = s.tasks.finish id status message given)
    (more : s.views.openings ⊆ s'.views.openings)
    (reported : ∀ result, given = some result → Reported s'.views result) : s'.Reports := by
  intro other task result found done
  rw [tasks, Tasks.get?_finish] at found
  split at found
  · obtain ⟨_, -, rfl⟩ := Option.map_eq_some_iff.1 found
    exact reported result done
  · exact (reports other task result found done).mono more

theorem Reports.conclude (reports : s.Reports) {body : Detached} (concludes : s.Concludes body s') :
    s'.Reports := by
  cases concludes with
  | failed message becomes => exact reports.finish rfl (List.Subset.refl _) (by simp)
  | exported becomes =>
    refine reports.finish rfl (List.Subset.refl _) fun result done => ?_
    cases done
    exact .exported _
  | opened role view becomes =>
    have openings := Views.openings_append s.views view
    refine reports.finish rfl ?_ fun result done => ?_
    · rw [openings]
      exact List.subset_append_left _ _
    · cases done
      refine .opened role ?_
      rw [openings]
      simp

theorem Reports.step (reports : s.Reports) {m : Move} (step : s.Step m s') : s'.Reports := by
  cases step with
  | kept idle keeps =>
    intro id task result found done
    rw [keeps.tasks] at found
    refine (reports id task result found done).mono ?_
    rw [keeps.views]
    exact List.Subset.refl _
  | @started _ start starts =>
    intro id task result found done
    rw [started, detach, Tasks.get?_create] at found
    split at found
    · cases found
      cases done
    · exact (reports id task result found done).mono (List.Subset.refl _)
  | @sorted _ p id view column idle asks resolves sorts =>
    intro other task result found done
    refine (reports other task result found done).mono ?_
    rw [Views.openings_sort]
    exact List.Subset.refl _
  | finished there concludes =>
    have bodiless : ∀ bodies, Reports { s with detached := bodies } := fun _ => reports
    exact (bodiless _).conclude concludes

theorem Step.process {m : Move} (step : s.Step m s') : s'.process = s.process := by
  cases step with
  | kept idle keeps => exact keeps.process
  | started starts => rfl
  | sorted idle asks resolves sorts => rfl
  | finished there concludes => cases concludes <;> rfl

theorem reports_play (reports : s.Reports) (moves : List Move) : (s.play moves).Reports := by
  induction moves generalizing s with
  | nil => exact reports
  | cons m moves ih => exact ih (reports.step (move_step s m))

theorem process_play (s : Session) (moves : List Move) : (s.play moves).process = s.process := by
  induction moves generalizing s with
  | nil => rfl
  | cons m moves ih => rw [play_cons, ih, (move_step s m).process]

theorem Reported.within {result : Json} (reported : Reported s.views result) (counted : s.Counted) :
    result.Within 1 := by
  cases reported with
  | exported path =>
    apply Json.within_object
    simp
  | @opened id rows role there =>
    obtain ⟨position, at'⟩ := List.mem_iff_getElem?.1 there
    rw [Views.getElem?_openings] at at'
    obtain ⟨view, found, same⟩ := Option.map_eq_some_iff.1 at'
    simp only [Prod.mk.injEq, Option.some.injEq, Json.nat_inj] at same
    obtain ⟨rfl, rfl⟩ := same
    obtain ⟨inside, here⟩ := List.getElem?_eq_some_iff.1 found
    have small : position < UInt64.size := Nat.lt_of_lt_of_le inside counted.views
    have short := counted.lengths view (List.mem_of_getElem here)
    apply Json.within_object
    simp [Json.within_nat small, Json.within_nat short]

/-- Whatever happens to a session that starts without tasks and views, all that it can be asked for
gets through, as long as its numbers fit machine words. -/
theorem tellable_play (fresh : s.Fresh) (process : s.process.Portable) (moves : List Move)
    (counted : (s.play moves).Counted) : (s.play moves).Tellable where
  counted := counted
  process := by
    rw [process_play]
    exact process
  results := by
    have start : s.Reports := by
      intro id task result found
      simp [fresh.tasks, Tasks.get?] at found
    intro id task result found done
    have reported := reports_play start moves id task result found done
    exact (reported.within counted).mono (by omega)

end Session

end Tandem
