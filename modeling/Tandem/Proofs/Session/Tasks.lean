import Mathlib.Data.List.Perm.Basic
import Tandem.Proofs.Network.Calls
import Tandem.Proofs.RoundTrip
import Tandem.Proofs.Session.Run
import Tandem.Proofs.Task
import Tandem.Proofs.View.Registry

/-! # Tasks and the views that they open

A task runs as long as its body is detached, and the body ends it once. Ending a task writes over
whatever it was, so that nothing is ever written twice depends on the ids: no two tasks share one, and
no two bodies belong to one task.

`Session.Roster` says this with a list of all tasks in the order of their requests. Every step of a
session takes one roster to the next (`Roster.step`), with faults or without, and in whatever order the
bodies are run. The same list keeps account of the views: each of them was opened by one task, which
tells its number. -/

namespace Tandem

open Rpc (Call)

/-! ## Openings -/

/-- What a task of some kind tells about the view that it has opened: the number of the view, and of its
rows. -/
def TaskKind.opening? : TaskKind → TaskStatus → Option Json → Option (Option Json × Option Json)
  | .showingDiff, .completed, some result => some (result.field? "view", result.field? "rows")
  | _, _, _ => none

namespace Task

def opening? (task : Task) : Option (Option Json × Option Json) :=
  task.kind.opening? task.status task.result

theorem opening?_of_isRunning {task : Task} (runs : task.isRunning = true) :
    task.opening? = none := by
  rw [opening?, status_of_isRunning runs]
  cases task.kind <;> rfl

/-- The task is the one that a request has started. -/
structure StartedBy (task : Task) (start : Session.Start) : Prop where
  kind : task.kind = start.kind
  createdAt : task.createdAt = start.now

end Task

/-! ## The roster -/

namespace Session

variable {s s' : Session} {m : Move} {starts : List Start} {tasks : List Task}

/-- The tasks of a session in the order of the requests that started them. -/
structure Roster (s : Session) (starts : List Start) (tasks : List Task) : Prop where
  lists : s.tasks.Lists tasks
  coherent : ∀ task ∈ tasks, task.Coherent
  started : List.Forall₂ Task.StartedBy tasks starts
  numbered : ∀ task ∈ tasks, ∃ number < s.nextTask, task.id = Tasks.idOf task.kind number
  outstanding : (s.detached.map fun body => (body.task, body.kind)).Perm
    ((tasks.filter (·.isRunning)).map fun task => (task.id, task.kind))
  opened : (tasks.filterMap Task.opening?).Perm s.views.openings

/-- A session that has no tasks and no views yet. -/
structure Fresh (s : Session) : Prop where
  tasks : s.tasks = {}
  detached : s.detached = []
  views : s.views = {}

theorem Fresh.roster (fresh : s.Fresh) : s.Roster [] [] where
  lists := by
    rw [fresh.tasks]
    exact .empty
  coherent := nofun
  started := .nil
  numbered := nofun
  outstanding := by rw [fresh.detached]; exact .nil
  opened := by rw [fresh.views]; exact .nil

/-- The task that a request starts. -/
def newTask (s : Session) (start : Start) : Task where
  id := Tasks.idOf start.kind s.nextTask
  kind := start.kind
  status := .running
  message := start.kind.announcement (Path.expandHome s.home start.filename)
  result := none
  createdAt := start.now

theorem started_detached (s : Session) (start : Start) :
    (s.started start).detached = s.detached ++ [.ofKind start.kind (s.newTask start).id
      (Path.expandHome s.home start.filename)] := rfl

namespace Roster

theorem keep (roster : s.Roster starts tasks) (keeps : s.Keeps s') : s'.Roster starts tasks where
  lists := by
    rw [keeps.tasks]
    exact roster.lists
  coherent := roster.coherent
  started := roster.started
  numbered task listed := by
    obtain ⟨number, below, named⟩ := roster.numbered task listed
    exact ⟨number, Nat.lt_of_lt_of_le below keeps.nextTask, named⟩
  outstanding := by
    rw [keeps.detached]
    exact roster.outstanding
  opened := by
    rw [keeps.views]
    exact roster.opened

theorem sort (roster : s.Roster starts tasks) (id : Nat) (column : SortColumn) (descending : Bool) :
    Roster { s with views := (s.views.sort id column descending).2 } starts tasks :=
  { roster with
    opened := by
      rw [Views.openings_sort]
      exact roster.opened }

/-- The number of the next task is not in use. -/
theorem fresh (roster : s.Roster starts tasks) (kind : TaskKind) :
    ∀ task ∈ tasks, task.id ≠ Tasks.idOf kind s.nextTask := by
  intro task listed same
  obtain ⟨number, below, named⟩ := roster.numbered task listed
  have equal := Tasks.number_of_idOf (named.symm.trans same)
  omega

theorem start (roster : s.Roster starts tasks) (start : Start) :
    (s.started start).Roster (starts ++ [start]) (tasks ++ [s.newTask start]) where
  lists := roster.lists.create (roster.fresh start.kind) start.now _
  coherent task listed := by
    rcases List.mem_append.1 listed with listed | new
    · exact roster.coherent task listed
    · obtain rfl := List.mem_singleton.1 new
      simp [Task.Coherent, newTask]
  started := List.rel_append roster.started (.cons ⟨rfl, rfl⟩ .nil)
  numbered task listed := by
    rcases List.mem_append.1 listed with listed | new
    · obtain ⟨number, below, named⟩ := roster.numbered task listed
      exact ⟨number, Nat.lt_succ_of_lt below, named⟩
    · obtain rfl := List.mem_singleton.1 new
      exact ⟨s.nextTask, Nat.lt_succ_self _, rfl⟩
  outstanding := by
    have runs : [s.newTask start].filter (·.isRunning) = [s.newTask start] := rfl
    rw [started_detached, List.map_append, List.filter_append, List.map_append, runs]
    refine roster.outstanding.append ?_
    simp [newTask]
  opened := by
    have none : (s.newTask start).opening? = none := Task.opening?_of_isRunning rfl
    have views : (s.started start).views = s.views := rfl
    rw [List.filterMap_append, List.filterMap_cons_none none, List.filterMap_nil, List.append_nil,
      views]
    exact roster.opened

/-- A detached body belongs to a task that runs, and the other bodies to the others that run. -/
theorem runs (roster : s.Roster starts tasks) {position : Nat} {body : Detached}
    (there : s.detached[position]? = some body) :
    ∃ before task after, tasks = before ++ task :: after ∧ task.id = body.task ∧
      task.kind = body.kind ∧ task.isRunning = true ∧
      ((s.detached.eraseIdx position).map fun body => (body.task, body.kind)).Perm
        (((before ++ after).filter (·.isRunning)).map fun task => (task.id, task.kind)) := by
  obtain ⟨inside, rfl⟩ := List.getElem?_eq_some_iff.1 there
  have first := ((List.getElem_cons_eraseIdx_perm inside).map
    fun body => (body.task, body.kind)).trans roster.outstanding
  obtain ⟨task, member, same⟩ := List.mem_map.1 (first.subset List.mem_cons_self)
  obtain ⟨listed, running⟩ := List.mem_filter.1 member
  obtain ⟨before, after, rfl⟩ := List.append_of_mem listed
  refine ⟨before, task, after, rfl, congrArg Prod.fst same, congrArg Prod.snd same, running, ?_⟩
  -- both sides have the same entry for this task, and it can be taken away from both
  simp only [List.map_cons, ← same, List.filter_append, List.filter_cons_of_pos running,
    List.map_append] at first
  rw [List.filter_append, List.map_append]
  exact (first.trans List.perm_middle).cons_inv

end Roster

/-! ## Bodies -/

/-- A body has ended its task, and opened the views that the task tells of. -/
structure Ends (s : Session) (body : Detached) (status : TaskStatus) (message : String)
    (result : Option Json) (s' : Session) : Prop where
  settled : status ≠ .running
  coherent : result.isSome = true ↔ status = .completed
  tasks : s'.tasks = s.tasks.finish body.task status message result
  nextTask : s'.nextTask = s.nextTask
  detached : s'.detached = s.detached
  openings : s'.views.openings = s.views.openings ++ (body.kind.opening? status result).toList

theorem Concludes.ends {body : Detached} (concludes : s.Concludes body s') :
    ∃ status message result, s.Ends body status message result s' := by
  cases concludes with
  | failed message becomes =>
    have none : body.kind.opening? .failed none = none := by cases body.kind <;> rfl
    exact ⟨.failed, message, _, by decide, by simp, rfl, rfl, rfl, by simp [none]⟩
  | exported becomes =>
    exact ⟨.completed, "Completed", _, by decide, by simp, rfl, rfl, rfl, (List.append_nil _).symm⟩
  | opened role view becomes =>
    exact ⟨.completed, "Completed", _, by decide, by simp, rfl, rfl, rfl,
      Views.openings_append s.views view⟩

namespace Roster

variable {position : Nat} {body : Detached} {status : TaskStatus} {message : String}
  {result : Option Json}

theorem finish (roster : s.Roster starts tasks) (there : s.detached[position]? = some body)
    (ends : Ends { s with detached := s.detached.eraseIdx position } body status message result s') :
    s'.Roster starts (tasks.map (Task.ended body.task status message result)) := by
  obtain ⟨before, task, after, rfl, sameId, sameKind, running, rest⟩ := roster.runs there
  have split := Task.map_ended roster.lists.distinct sameId status message result
  have silent := Task.opening?_of_isRunning running
  exact {
    lists := by
      rw [ends.tasks]
      exact roster.lists.finish _ _ _ _
    coherent := by
      intro other listed
      obtain ⟨old, member, rfl⟩ := List.mem_map.1 listed
      exact (roster.coherent old member).ended _ _ ends.coherent
    started := by
      refine List.forall₂_map_left_iff.2 (roster.started.imp fun task start startedBy => ?_)
      exact ⟨Task.ended_kind.trans startedBy.kind, Task.ended_createdAt.trans startedBy.createdAt⟩
    numbered := by
      intro other listed
      obtain ⟨old, member, rfl⟩ := List.mem_map.1 listed
      rw [ends.nextTask, Task.ended_id, Task.ended_kind]
      exact roster.numbered old member
    outstanding := by
      have settled : ¬ ({ task with status := status, message := message, result := result } :
          Task).isRunning = true :=
        fun runs => ends.settled (Task.status_of_isRunning runs)
      rw [split, ends.detached, List.filter_append, List.filter_cons_of_neg settled,
        ← List.filter_append]
      exact rest
    opened := by
      have opened := roster.opened
      rw [List.filterMap_append, List.filterMap_cons_none silent] at opened
      rw [split, ends.openings, ← sameKind, List.filterMap_append, List.filterMap_cons, Task.opening?]
      cases task.kind.opening? status result with
      | none => simpa using opened
      | some told =>
        have added : (told :: (before.filterMap Task.opening? ++ after.filterMap Task.opening?)).Perm
            (told :: s.views.openings) := opened.cons told
        exact (List.perm_middle.trans added).trans (List.perm_append_singleton _ _).symm }

/-- What happens next takes one roster to the next. -/
theorem step (roster : s.Roster starts tasks) (step : s.Step m s') :
    ∃ tasks', s'.Roster (starts ++ m.start?.toList) tasks' := by
  cases step with
  | kept idle keeps =>
    rw [idle, Option.toList_none, List.append_nil]
    exact ⟨tasks, roster.keep keeps⟩
  | @started _ start starts' =>
    rw [starts', Option.toList_some]
    exact ⟨_, roster.start start⟩
  | sorted idle asks resolves sorts =>
    rw [idle, Option.toList_none, List.append_nil]
    exact ⟨tasks, roster.sort _ _ _⟩
  | @finished position body _ there concludes =>
    have idle : (Move.finish position).start? = none := rfl
    obtain ⟨status, message, result, ends⟩ := concludes.ends
    rw [idle, Option.toList_none, List.append_nil]
    exact ⟨_, roster.finish there ends⟩

theorem play (roster : s.Roster starts tasks) (moves : List Move) :
    ∃ tasks', (s.play moves).Roster (starts ++ Move.starts moves) tasks' := by
  induction moves generalizing s starts tasks with
  | nil =>
    rw [Move.starts, List.filterMap_nil, List.append_nil]
    exact ⟨tasks, roster⟩
  | cons m moves ih =>
    obtain ⟨tasks', roster'⟩ := roster.step (move_step s m)
    have rest := ih roster'
    rw [List.append_assoc, ← Move.starts_cons] at rest
    exact rest

/-! ## The life of a task -/

variable {id : String} {task : Task}

/-- A task runs as long as a body of it is detached. -/
theorem isRunning_iff (roster : s.Roster starts tasks) (known : s.tasks.get? id = some task) :
    task.isRunning = true ↔ id ∈ s.detached.map Detached.task := by
  obtain ⟨listed, rfl⟩ := (roster.lists.known _ _).1 known
  constructor
  · intro running
    have entry := List.mem_map_of_mem (f := fun task : Task => (task.id, task.kind))
      (List.mem_filter.2 ⟨listed, running⟩)
    obtain ⟨body, detached, same⟩ := List.mem_map.1 (roster.outstanding.mem_iff.2 entry)
    exact List.mem_map.2 ⟨body, detached, congrArg Prod.fst same⟩
  · intro outstanding
    obtain ⟨body, detached, same⟩ := List.mem_map.1 outstanding
    have entry := List.mem_map_of_mem (f := fun body : Detached => (body.task, body.kind)) detached
    obtain ⟨other, member, same'⟩ := List.mem_map.1 (roster.outstanding.mem_iff.1 entry)
    obtain ⟨listed', running⟩ := List.mem_filter.1 member
    have same'' : other.id = task.id := (congrArg Prod.fst same').trans same
    rwa [← roster.lists.unique listed' listed same'']

/-- Nothing but its own body changes a task. -/
theorem get?_step (roster : s.Roster starts tasks) (step : s.Step m s')
    (known : s.tasks.get? id = some task)
    (others : ∀ position body, m = .finish position → s.detached[position]? = some body →
      body.task ≠ id) : s'.tasks.get? id = some task := by
  obtain ⟨listed, same⟩ := (roster.lists.known _ _).1 known
  cases step with
  | kept idle keeps => rw [keeps.tasks, known]
  | @started _ start starts' =>
    have apart := roster.fresh start.kind task listed
    rw [same] at apart
    exact (Tasks.get?_create _ _ _ _ _).trans ((if_neg (Ne.symm apart)).trans known)
  | sorted idle asks resolves sorts => exact known
  | @finished position body _ there concludes =>
    obtain ⟨status, message, result, ends⟩ := concludes.ends
    rw [ends.tasks, Tasks.get?_finish, if_neg (others position body rfl there)]
    exact known

/-- A task that does not run any more stays as it is. -/
theorem get?_play (roster : s.Roster starts tasks) (known : s.tasks.get? id = some task)
    (settled : task.isRunning = false) (moves : List Move) :
    (s.play moves).tasks.get? id = some task := by
  induction moves generalizing s starts tasks with
  | nil => exact known
  | cons m moves ih =>
    have others : ∀ position body, m = .finish position → s.detached[position]? = some body →
        body.task ≠ id := by
      rintro position body - there rfl
      have outstanding := List.mem_map_of_mem (f := Detached.task) (List.mem_of_getElem? there)
      rw [(roster.isRunning_iff known).2 outstanding] at settled
      cases settled
    obtain ⟨tasks', roster'⟩ := roster.step (move_step s m)
    exact ih roster' (roster.get?_step (move_step s m) known others)

/-- The body of a task ends it. -/
theorem get?_finish (roster : s.Roster starts tasks) (there : s.detached[position]? = some body) :
    ∃ task, (s.move (.finish position)).tasks.get? body.task = some task ∧
      task.isRunning = false := by
  obtain ⟨before, task, after, rfl, sameId, -, -, -⟩ := roster.runs there
  have known := (roster.lists.known body.task task).2 ⟨by simp, sameId⟩
  obtain ⟨status, message, result, ends⟩ :=
    (concludes_conclude { s with detached := s.detached.eraseIdx position } body).ends
  refine ⟨{ task with status := status, message := message, result := result }, ?_, ?_⟩
  · rw [move, finishAt, there]
    simp only [ends.tasks, Tasks.get?_finish, if_true, known, Option.map_some]
  · exact Bool.eq_false_iff.2 fun runs => ends.settled (Task.status_of_isRunning runs)

theorem running (roster : s.Roster starts tasks) : s.tasks.running = s.detached.length := by
  have counted := roster.outstanding.length_eq
  rw [List.length_map, List.length_map] at counted
  rw [roster.lists.running, counted]

end Roster

/-- However requests and the bodies of detached tasks follow each other, with faults or without: every
request that starts a task is a task of its own, the task runs until its body is run and never changes
after that, and the completed tasks that opened a view tell the numbers of the open views. -/
theorem tasks_follow_their_bodies {start : Session} (fresh : start.Fresh) (moves : List Move) :
    ∀ s, s = start.play moves →
      -- one task for every request, with an id of its own
      (∃ tasks, s.tasks.list.Perm tasks ∧ (tasks.map Task.id).Nodup ∧
        List.Forall₂ Task.StartedBy tasks (Move.starts moves)) ∧
      (∀ task ∈ s.tasks.list, s.tasks.get? task.id = some task ∧
        -- it runs until its own body is run, and then it stays as it is
        (task.isRunning = true ↔ task.id ∈ s.detached.map Detached.task) ∧
        (∀ m, (∀ position body, m = .finish position → s.detached[position]? = some body →
          body.task ≠ task.id) → (s.move m).tasks.get? task.id = some task) ∧
        (task.isRunning = false → ∀ more, (s.play more).tasks.get? task.id = some task) ∧
        -- it has a result exactly when it has completed, and tells so
        (task.result.isSome = true ↔ task.status = .completed) ∧
        ((task.toJson.field? "result").isSome = true ↔
          task.toJson.field? "status" = some (.string "completed"))) ∧
      (∀ position body, s.detached[position]? = some body →
        ∃ task, (s.move (.finish position)).tasks.get? body.task = some task ∧
          task.isRunning = false) ∧
      -- as many tasks are said to run as there are bodies left
      (∀ now body request, Call.ofBody body = (request, .ok (.taskStatus ⟨none⟩)) →
        ∃ answer, (s.handle now body).1 = .success request answer ∧
          answer.field? "running" = some (.nat s.detached.length)) ∧
      -- every view was opened by one task, which tells its number and how many rows it has
      (s.tasks.list.filterMap Task.opening?).Perm s.views.openings := by
  rintro s rfl
  obtain ⟨tasks, roster⟩ := fresh.roster.play moves
  have perm := roster.lists.perm
  refine ⟨⟨tasks, perm, roster.lists.distinct, roster.started⟩, fun task listed => ?_,
    fun position body there => roster.get?_finish there, fun now body request asks => ?_,
    (perm.filterMap _).trans roster.opened⟩
  · have known := (roster.lists.known task.id task).2 ⟨perm.mem_iff.1 listed, rfl⟩
    have coherent := roster.coherent task (perm.mem_iff.1 listed)
    exact ⟨known, roster.isRunning_iff known,
      fun m others => roster.get?_step (move_step _ m) known others,
      fun settled more => roster.get?_play known settled more, coherent,
      coherent.result_iff_completed⟩
  · refine ⟨tasksToJson (start.play moves).tasks, ?_, ?_⟩
    · rw [handle_of_call _ now asks]
      rfl
    · rw [← roster.running]
      rfl

namespace Sample

theorem valid_document : document.validate = .ok () := by
  cbv

/-- A session with the document in a file. -/
def blank : Session :=
  { idle with workspace := { idle.workspace with files := .single document.bytes } }

/-- A request that names a file. -/
def filing (method file : String) : ByteArray :=
  (Client.request 1 method (.object [("filename", .string file)])).body

/-- The request for all tasks. -/
def asking : ByteArray := (Client.request 2 "task_status" (.object [])).body

theorem ofBody_filing {method file : String} {call : Call}
    (decoded : Call.decode method (some (.object [("filename", .string file)])) = .ok call) :
    Call.ofBody (filing method file) = (some (.word 1), .ok call) := by
  rw [filing, Client.ofBody_request, decoded]
  exact ⟨⟨⟨trivial, trivial⟩, by simp [Json.nesting, Json.nestingFields, Json.depthLimit]⟩, rfl⟩

theorem ofBody_exporting :
    Call.ofBody (filing "export" "out") = (some (.word 1), .ok (.exportTo ⟨"out"⟩)) :=
  ofBody_filing rfl

theorem ofBody_showing :
    Call.ofBody (filing "show_diff" "m") = (some (.word 1), .ok (.showDiff ⟨"m"⟩)) :=
  ofBody_filing rfl

theorem ofBody_asking : Call.ofBody asking = (some (.word 2), .ok (.taskStatus ⟨none⟩)) := by
  have sendable : Json.Sendable (.object []) := ⟨⟨trivial, by decide⟩, rfl⟩
  rw [asking, Client.ofBody_request sendable]
  rfl

/-- An export and a view are asked for, and the view is opened first. -/
def busy : List Move :=
  [.request 5 (filing "export" "out"), .request 6 (filing "show_diff" "m"), .finish 1]

theorem starts_busy : Move.starts busy = [⟨5, .exporting, "out"⟩, ⟨6, .showingDiff, "m"⟩] := by
  rw [Move.starts, busy, List.filterMap_cons_some (Move.start?_request 5 ofBody_exporting),
    List.filterMap_cons_some (Move.start?_request 6 ofBody_showing)]
  rfl

/-- The session when both are asked for, without the body that is run. -/
def waiting : Session :=
  { (blank.started ⟨5, .exporting, "out"⟩).started ⟨6, .showingDiff, "m"⟩ with
    detached := [.exporting (Tasks.idOf .exporting 1) "out"] }

theorem play_busy :
    blank.play busy = waiting.conclude (.showingDiff (Tasks.idOf .showingDiff 2) "m") := by
  rw [busy, play_cons, play_cons, play_cons, play_nil, move_of_call _ 5 ofBody_exporting,
    move_of_call _ 6 ofBody_showing, answer, startExport_eq, answer, startDiff_eq]
  rfl

theorem views_busy :
    (blank.play busy).views = ⟨[.ofDocument Image.Sample.bare document .source (some "2c3d")]⟩ ∧
      (blank.play busy).detached.length = 1 := by
  have loaded : waiting.loadDiff "m" = .ok document := by
    exact loadDiff_of_read (Files.read_single _) (MatchDocument.ofBytes_bytes valid_document)
  have stands : standpoint "0a1b" document = (.source, some "2c3d") := by
    have ours : ContentHash.key "0a1b" = "0a1b" := ContentHash.key_of_toList rfl
    have theirs : ContentHash.key "2c3d" = "2c3d" := ContentHash.key_of_toList rfl
    have apart : ContentHash.key "0a1b" ≠ ContentHash.key "2c3d" := by
      rw [ours, theirs]
      decide
    have stands := standpoint_of_isOf (show document.isOf "0a1b" .source = true from
      ContentHash.agree_eq _ _) (show document.isOf "2c3d" .target = true from
      ContentHash.agree_eq _ _) apart
    rwa [ours, theirs] at stands
  obtain ⟨result, w, opened, -⟩ := openDiff_faultless (s := waiting) rfl (fun _ => rfl) loaded stands
  rw [play_busy, conclude, opened]
  exact ⟨rfl, rfl⟩

theorem ends_busy :
    (blank.play busy).views.openings = [(some (.nat 0), some (.nat 2))] ∧
      (blank.play busy).detached.length = 1 := by
  rw [views_busy.1]
  exact ⟨rfl, views_busy.2⟩

end Sample

/-- Two requests are two tasks. One of them has opened a view of two rows, and the other still runs. -/
theorem busy_session_keeps_account :
    (Sample.blank.play Sample.busy).tasks.list.length = 2 ∧
      ((Sample.blank.play Sample.busy).tasks.list.filterMap Task.opening?).Perm
        [(some (.nat 0), some (.nat 2))] ∧
      ∃ answer, ((Sample.blank.play Sample.busy).handle 7 Sample.asking).1 =
          .success (some (.word 2)) answer ∧
        answer.field? "running" = some (.nat 1) := by
  have fresh : Sample.blank.Fresh := ⟨rfl, rfl, rfl⟩
  obtain ⟨⟨tasks, perm, -, started⟩, -, -, count, openings⟩ :=
    tasks_follow_their_bodies fresh Sample.busy _ rfl
  obtain ⟨answer, answered, running⟩ := count 7 _ _ Sample.ofBody_asking
  rw [Sample.ends_busy.1] at openings
  rw [Sample.ends_busy.2] at running
  rw [perm.length_eq, started.length_eq, Sample.starts_busy]
  exact ⟨rfl, openings, answer, answered, running⟩

end Session

end Tandem
