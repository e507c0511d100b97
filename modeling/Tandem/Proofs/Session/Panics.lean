import Tandem.Proofs.Session.Arithmetic
import Tandem.Proofs.Session.Envelope
import Tandem.Proofs.Session.Tasks

/-! # Panics

On a host without faults no job that is asked for by itself panics: neither the job of a request nor
that of a task. What is left are the entries of a batch, whose outcomes nobody is told. Of these only
the coloring of nodes can panic, over a function that has no blocks and lies so far up that a block made
up for it would end beyond the greatest address.

* `ReportsPanic` tells the texts of panics from all others.
* `Session.calm_answer` and `Session.calm_openDiff` say that requests and tasks do not panic, and
  `Session.batchJob_panics` which entries of a batch do. -/

namespace Tandem

open Rpc (Call Request)

/-! ## Texts -/

/-- The text reports a job that panicked. -/
def ReportsPanic (message : String) : Prop := ∃ text, message = (CallError.panicked text).message

theorem not_reportsPanic {message : String}
    (apart : ∀ text : String, message.toList ≠ "Main-thread job panicked: ".toList ++ text.toList) :
    ¬ ReportsPanic message := by
  rintro ⟨text, rfl⟩
  exact apart text String.toList_append

theorem not_reportsPanic_append {start rest : String}
    (apart : ∀ text : String,
      start.toList ++ rest.toList ≠ "Main-thread job panicked: ".toList ++ text.toList) :
    ¬ ReportsPanic (start ++ rest) := by
  refine not_reportsPanic fun text => ?_
  rw [String.toList_append]
  exact apart text

-- the texts below all differ from the text of a panic within its first thirteen letters

theorem HostError.not_reportsPanic (error : HostError) : ¬ ReportsPanic error.message := by
  cases error <;> exact not_reportsPanic_append (by simp)

theorem DocumentError.not_reportsPanic (error : DocumentError) : ¬ ReportsPanic error.message := by
  cases error <;> exact not_reportsPanic_append (by simp)

theorem CallError.not_reportsPanic {error : CallError} (calm : ∀ text, error ≠ .panicked text) :
    ¬ ReportsPanic error.message := by
  cases error with
  | host error => exact error.not_reportsPanic
  | panicked text => exact absurd rfl (calm text)
  | loopClosed =>
    have apart : ¬ ReportsPanic "Main-thread loop is closed" := Tandem.not_reportsPanic (by simp)
    exact apart
  | noHost =>
    have apart : ¬ ReportsPanic "No analysis host is installed on the main thread" :=
      Tandem.not_reportsPanic (by simp)
    exact apart

theorem Rpc.Error.not_reportsPanic {error : Rpc.Error}
    (calm : ∀ text, error ≠ .host (.panicked text)) : ¬ ReportsPanic error.message := by
  cases error with
  | host error => exact CallError.not_reportsPanic fun text same => calm text (by rw [same])
  | _ => exact not_reportsPanic_append (by simp)

theorem Session.DiffError.not_reportsPanic {error : DiffError}
    (calm : ∀ text, error ≠ .host (.panicked text)) : ¬ ReportsPanic error.message := by
  cases error with
  | host error => exact CallError.not_reportsPanic fun text same => calm text (by rw [same])
  | document error => exact error.not_reportsPanic
  | unreadable path error => exact not_reportsPanic_append (by simp)

theorem TaskKind.not_reportsPanic (kind : TaskKind) (path : String) :
    ¬ ReportsPanic (kind.announcement path) := by
  cases kind <;> exact not_reportsPanic_append (by simp)

/-! ## Work -/

namespace Action

variable {α : Type} {w w' : Workspace}

theorem error_of_discard {x : Action α} {stop : Stop} (failed : discard x w = .error stop w') :
    x w = .error stop w' := by
  cases ended : x w with
  | ok a w'' =>
    rw [discard_of_ok ended] at failed
    cases failed
  | error stop' w'' =>
    simpa [discard, Functor.mapConst, EStateM.map, ended] using failed

variable (sound : w.host.Faultless)
include sound

theorem calm_jumpToOffset (offset : Address) : (jumpToOffset offset).Calm w := by
  have jump := jumpToOffset_faultless sound offset
  split at jump
  · exact calm_of_ok jump
  · exact calm_of_error jump

theorem calm_rootFilename : rootFilename.Calm w := by
  have told : rootFilename w = .ok w.host.image.rootFilename w := by
    rw [rootFilename, bind_of_ok (guarded_faultless sound _)]
    rfl
  exact calm_of_ok told

theorem calm_exportAnalysis (path : String) : (exportAnalysis path).Calm w := by
  intro text w' panics
  have read : (get : Action Workspace) w = .ok w w := rfl
  rw [exportAnalysis, bind_of_ok (refusable_faultless sound _), bind_of_ok (host_ok w),
    if_neg (by simp [sound .exportAnalysis]), bind_of_ok read] at panics
  cases written : w.files.write path w.host.image.exported.pretty.toUTF8 with
  | ok files =>
    rw [written] at panics
    cases panics
  | error error =>
    rw [written] at panics
    cases panics

end Action

namespace Session

variable {α : Type} {s s' : Session} {w w' : Workspace}

/-! ## Requests -/

theorem calm_call {job : Action α} (calm : job.Calm s.workspace) {error : CallError}
    (failed : (s.call job).1 = .error error) (text : String) : error ≠ .panicked text := by
  rintro rfl
  simp only [call, Action.through, Action.contained] at failed
  by_cases isOpen : s.isOpen = true
  · rw [if_pos isOpen] at failed
    cases ended : job s.workspace with
    | ok a w => simp [ended] at failed
    | error stop w =>
      cases stop with
      | error error => simp [ended, CallError.ofStop] at failed
      | panic text => exact calm text w ended
  · rw [if_neg isOpen] at failed
    cases failed

theorem calm_answerBy {job : Action α} (calm : job.Calm s.workspace) {encode : α → Json}
    {error : Rpc.Error} (failed : (s.answerBy job encode).1 = .error error) (text : String) :
    error ≠ .host (.panicked text) := by
  rintro rfl
  rw [answerBy] at failed
  cases called : s.call job with
  | mk result s' =>
    cases result with
    | ok a => simp [called] at failed
    | error error =>
      simp only [called, Except.error.injEq, Rpc.Error.host.injEq] at failed
      exact calm_call calm (by rw [called]) text failed

theorem calm_of_not_stops {now : Nat} {call : Call} {error : Rpc.Error}
    (failed : (s.answer now call).1 = .error error) (works : ¬ s.Stops call) (text : String) :
    error ≠ .host (.panicked text) := by
  have judged := s.judges_answer now call
  rw [failed] at judged
  cases judged with
  | lacking error lacks => simp
  | stopped error finds stops => exact absurd stops works

/-- No request is answered with a panic. -/
theorem calm_answer (sound : s.workspace.host.Faultless) {now : Nat} {call : Call} {error : Rpc.Error}
    (failed : (s.answer now call).1 = .error error) (text : String) :
    error ≠ .host (.panicked text) := by
  cases call with
  | jumpto p => exact calm_answerBy (Action.calm_jumpToOffset sound p.address) failed text
  | setItemColor p =>
    exact calm_answerBy (Action.calm_of_ok (Action.setItemColor_faultless sound p.address p.color))
      failed text
  | getHash => exact calm_answerBy (Action.calm_of_ok (Action.identity_faultless sound)) failed text
  | getRootFilename => exact calm_answerBy (Action.calm_rootFilename sound) failed text
  | activateRow p =>
    rw [answer, activateRow] at failed
    obtain ⟨-, missing, lost⟩ | ⟨id, view, -, found⟩ := s.resolveView_cases p.view
    · rw [lost] at failed
      cases failed
      simp
    · rw [found] at failed
      exact calm_answerBy (view.calm_activate sound p.row) failed text
  | _ => exact calm_of_not_stops failed not_false text

theorem calm_dispatch (sound : s.workspace.host.Faultless) {now : Nat} {r : Request} {error : Rpc.Error}
    (failed : (s.dispatch now r.method r.params).1 = .error error) (text : String) :
    error ≠ .host (.panicked text) := by
  have reads := r.reads_decode
  rw [dispatch] at failed
  cases decoded : Call.decode r.method r.params with
  | ok call =>
    rw [decoded] at failed
    exact calm_answer sound failed text
  | error wrong =>
    rw [decoded] at failed reads
    cases failed
    cases reads <;> simp

theorem not_reportsPanic_ofError {id : Option Json} {error : Rpc.Error}
    (calm : ∀ text, error ≠ .host (.panicked text)) {failure : Rpc.Failure}
    (failed : (Rpc.Response.ofError id error).failure = some failure) :
    ¬ ReportsPanic failure.message := by
  obtain rfl := Option.some.inj failed
  exact error.not_reportsPanic calm

/-- No response reports a panic. -/
theorem calm_handle (sound : s.workspace.host.Faultless) {now : Nat} {body : ByteArray}
    {failure : Rpc.Failure} (failed : (s.handle now body).1.failure = some failure) :
    ¬ ReportsPanic failure.message := by
  have handles := s.handles_handle now body
  generalize s.handle now body = handled at handles failed
  cases handles with
  | unread broken => exact not_reportsPanic_ofError (by simp) failed
  | shapeless error read shapeless => exact not_reportsPanic_ofError (by simp) failed
  | outdated holds outdated => exact not_reportsPanic_ofError (by simp) failed
  | @dispatched r holds current =>
    cases answered : (s.dispatch now r.method r.params).1 with
    | ok result =>
      rw [answered] at failed
      cases failed
    | error error =>
      rw [answered] at failed
      exact not_reportsPanic_ofError (calm_dispatch sound answered) failed

theorem calm_responses (sound : s.workspace.host.Faultless) {moves : List Move}
    {response : Rpc.Response} (given : response ∈ s.responses moves) {failure : Rpc.Failure}
    (failed : response.failure = some failure) : ¬ ReportsPanic failure.message := by
  induction moves generalizing s with
  | nil => cases given
  | cons m moves ih =>
    rw [responses, List.mem_append, Option.mem_toList] at given
    obtain now | later := given
    · cases m with
      | request now' body =>
        cases now
        exact calm_handle sound failed
      | _ => cases now
    · exact ih ((move_step s m).faultless sound) later

/-! ## Tasks -/

/-- No task reports a panic. -/
def Quiet (tasks : Tasks) : Prop := ∀ id task, tasks.get? id = some task → ¬ ReportsPanic task.message

theorem Quiet.finish {tasks : Tasks} (quiet : Quiet tasks) {message : String}
    (calm : ¬ ReportsPanic message) (id : String) (status : TaskStatus) (result : Option Json) :
    Quiet (tasks.finish id status message result) := by
  intro other task found
  rw [Tasks.get?_finish] at found
  split at found
  · obtain ⟨_, -, rfl⟩ := Option.map_eq_some_iff.1 found
    exact calm
  · exact quiet other task found

theorem Quiet.complete {tasks : Tasks} (quiet : Quiet tasks) (id : String) (result : Json) :
    Quiet (tasks.complete id result) :=
  quiet.finish (not_reportsPanic (by simp)) id _ _

theorem calm_openDiff (sound : s.workspace.host.Faultless) {path : String} {error : DiffError}
    (failed : (s.openDiff path).1 = .error error) (text : String) :
    error ≠ .host (.panicked text) := by
  rw [openDiff] at failed
  cases loaded : s.loadDiff path with
  | error unloaded =>
    rw [loaded] at failed
    cases failed
    rintro rfl
    rw [loadDiff] at loaded
    split at loaded
    · cases loaded
    · split at loaded <;> cases loaded
  | ok document =>
    simp only [loaded] at failed
    generalize standpoint s.identity.hash document = side at failed
    obtain ⟨w, opened, -⟩ := openView_faultless sound document side.1 side.2
    cases called : s.call (openView document side.1 side.2) with
    | mk result s' =>
      rw [called] at failed
      cases result with
      | ok view => cases failed
      | error error =>
        cases failed
        intro same
        exact calm_call (Action.calm_of_ok opened) (by rw [called]) text (DiffError.host.inj same)

theorem tasks_call (s : Session) (job : Action α) : (s.call job).2.tasks = s.tasks := rfl

theorem tasks_openDiff (s : Session) (path : String) : (s.openDiff path).2.tasks = s.tasks := by
  rw [openDiff]
  cases s.loadDiff path with
  | error error => rfl
  | ok document =>
    simp only
    generalize standpoint s.identity.hash document = side
    have same := s.tasks_call (openView document side.1 side.2)
    cases called : s.call (openView document side.1 side.2) with
    | mk result s' =>
      rw [called] at same
      cases result <;> exact same

theorem Quiet.conclude (quiet : Quiet s.tasks) (sound : s.workspace.host.Faultless) (body : Detached) :
    Quiet (s.conclude body).tasks := by
  cases body with
  | exporting id path =>
    have same := s.tasks_call (Action.exportAnalysis path)
    rw [Session.conclude]
    cases called : s.call (Action.exportAnalysis path) with
    | mk result s' =>
      rw [called] at same
      rw [← same] at quiet
      cases result with
      | ok done => exact quiet.complete id _
      | error error =>
        have calm := calm_call (Action.calm_exportAnalysis sound path) (by rw [called])
        exact quiet.finish (CallError.not_reportsPanic calm) id _ _
  | showingDiff id path =>
    have same := s.tasks_openDiff path
    rw [Session.conclude]
    cases opened : s.openDiff path with
    | mk result s' =>
      rw [opened] at same
      rw [← same] at quiet
      cases result with
      | ok done => exact quiet.complete id _
      | error error =>
        have calm := calm_openDiff sound (by rw [opened])
        exact quiet.finish (DiffError.not_reportsPanic calm) id _ _

theorem Quiet.move (quiet : Quiet s.tasks) (sound : s.workspace.host.Faultless) (m : Move) :
    Quiet (s.move m).tasks := by
  cases m with
  | request now body =>
    have step := move_step s (.request now body)
    generalize s.move (.request now body) = s' at step
    cases step with
    | kept idle keeps =>
      rw [keeps.tasks]
      exact quiet
    | @started _ start starts =>
      intro id task found
      rw [started, detach, Tasks.get?_create] at found
      split at found
      · cases found
        exact start.kind.not_reportsPanic _
      · exact quiet id task found
    | sorted idle asks resolves sorts => exact quiet
  | finish position =>
    rw [Session.move, finishAt]
    split
    · rename_i body there
      exact Quiet.conclude (s := { s with detached := s.detached.eraseIdx position }) quiet sound body
    · exact quiet
  | _ => exact quiet

theorem Quiet.play (quiet : Quiet s.tasks) (sound : s.workspace.host.Faultless) (moves : List Move) :
    Quiet (s.play moves).tasks := by
  induction moves generalizing s with
  | nil => exact quiet
  | cons m moves ih => exact ih (quiet.move sound m) ((move_step s m).faultless sound)

/-! ## Batches -/

/-- Of the entries of a batch only the coloring of nodes can panic, and then it has done nothing. -/
theorem batchJob_panics (sound : w.host.Faultless) {command : Rpc.BatchCommand} {text : Option String}
    (panics : batchJob command w = .error (.panic text) w') :
    w' = w ∧ .panic text = Stop.overflow ∧
      (∃ addresses background frame, command = .colorNode addresses background frame) ∧
      ∃ a, w.host.image.Overflows a := by
  cases command with
  | jumpto address =>
    exact absurd (Action.error_of_discard panics) (Action.calm_jumpToOffset sound address text w')
  | colorLines start stop color =>
    obtain ⟨n, w'', -, -, done, -⟩ := Action.tallied_colorRange sound start stop color
    exact absurd (Action.error_of_discard panics) (Action.calm_of_ok done text w')
  | colorNode addresses background frame =>
    obtain ⟨same, kind, overflows⟩ := Action.colorNodes_panics sound (Action.error_of_discard panics)
    exact ⟨same, kind, ⟨_, _, _, rfl⟩, overflows⟩

theorem runBatch_split (s : Session) (before : List Json) (entry : Json) (after : List Json) :
    s.runBatch (before ++ entry :: after) = ((s.runBatch before).runEntry entry).runBatch after := by
  simp only [runBatch, List.foldl_append, List.foldl_cons]

theorem runEntry_of_panic {entry : Json} {command : Rpc.BatchCommand}
    (decoded : Rpc.BatchCommand.decode.ofValue entry = .ok command) {text : Option String}
    (panics : batchJob command s.workspace = .error (.panic text) s.workspace) :
    s.runEntry entry = s := by
  rw [runEntry, decoded]
  simp only [call, Action.through, Action.contained, panics]
  split <;> rfl

/-- A session is played over a host without faults, with an image and documents that are in memory and
with fewer color writes than there are words. A machine that counts with words goes through the same
run. No response and no task reports a panic. Every entry of a batch that is run comes to the same on
the machine. If it panics, then it is one to color nodes, the image has a function without blocks for
which no block can be made up, the workspace is left as it was, and the batch goes on as if the entry
were not there. -/
theorem no_panic_is_reported {start : Session} (sound : start.workspace.host.Faultless)
    (fresh : start.Fresh) (image : start.workspace.host.image.Held) {moves : List Move}
    (few : (start.play moves).workspace.host.writes < UInt64.size)
    (held : ∀ view ∈ (start.play moves).views.all, view.document.Held) :
    Checked.play start moves = some (start.responses moves, start.play moves) ∧
    (∀ response ∈ start.responses moves, ∀ failure, response.failure = some failure →
      ¬ ReportsPanic failure.message) ∧
    (∀ id task, (start.play moves).tasks.get? id = some task → ¬ ReportsPanic task.message) ∧
    ∀ earlier now body later id params before entry command after,
      moves = earlier ++ .request now body :: later →
      Call.ofBody body = (id, .ok (.runCommands params)) →
      params.commands = before ++ entry :: after →
      Rpc.BatchCommand.decode.ofValue entry = .ok command →
      let s := (start.play earlier).runBatch before
      s.isOpen = true →
        Checked.batchJob command s.workspace = batchJob command s.workspace ∧
        ∀ text w, batchJob command s.workspace = .error (.panic text) w →
          .panic text = Stop.overflow ∧
          (∃ addresses background frame, command = .colorNode addresses background frame) ∧
          (∃ a, start.workspace.host.image.Overflows a) ∧ w = s.workspace ∧
          (start.play earlier).runBatch params.commands =
            (start.play earlier).runBatch (before ++ after) := by
  refine ⟨play_checked sound image few held, fun response given failure failed =>
    calm_responses sound given failed, ?_, ?_⟩
  · have none : Quiet start.tasks := by
      intro id task found
      simp [fresh.tasks, Tasks.get?] at found
    exact none.play sound moves
  · intro earlier now body later id params before entry command after split asks commands decoded s isOpen
    have works := works_runBatch (start.play earlier) before
    have sound' := works.continues.faultless (faultless_play sound earlier)
    have same : s.workspace.host.image = start.workspace.host.image :=
      works.continues.image.trans (image_play start earlier)
    -- the writes of the entry are among those of the batch, and these among those of the run
    have few' : ((batchJob command).outcome s.workspace).host.writes < UInt64.size := by
      have run : start.play moves = ((s.runEntry entry).runBatch after).play later := by
        rw [split, play, List.foldl_append, List.foldl_cons, ← play, ← play,
          move_of_call _ now asks, answer, commands, runBatch_split]
      have ran : (s.runEntry entry).workspace = (batchJob command).outcome s.workspace := by
        rw [runEntry, decoded]
        exact workspace_call isOpen _
      have rest := (works_runBatch (s.runEntry entry) after).writes_le
      have later' := writes_le_play ((s.runEntry entry).runBatch after) later
      rw [run] at few
      rw [← ran]
      omega
    refine ⟨batchJob_checked sound' (same ▸ image) few', fun text w panics => ?_⟩
    obtain ⟨rfl, kind, colors, overflows⟩ := batchJob_panics sound' panics
    refine ⟨kind, colors, same ▸ overflows, rfl, ?_⟩
    have idle : s.runEntry entry = s := runEntry_of_panic decoded panics
    rw [commands, runBatch_split, idle, runBatch, runBatch, List.foldl_append]
    rfl

/-! ## A sample -/

namespace Sample

/-- An image with a function at the greatest address, without blocks. -/
def brim : Image := { Image.Sample.bare with functions := [⟨0xffffffffffffffff, "last", []⟩] }

def edge : Session := { idle with workspace := ⟨.load brim, .empty, {}⟩ }

/-- A command to color the function at the greatest address. -/
def coloring : Json :=
  .object [("addresses", .array [.word 0xffffffffffffffff]), ("bg_color", .word32 1),
    ("name", .string "color_node")]

/-- A command to navigate into the image. -/
def leading : Json := .object [("address", .word 0x10), ("name", .string "jumpto")]

def batch : ByteArray :=
  (Client.request 1 "run_commands" (.object [("commands", .array [coloring, leading])])).body

theorem decode_coloring : Rpc.BatchCommand.decode.ofValue coloring =
    .ok (.colorNode [0xffffffffffffffff] 1 0) := rfl

theorem decode_leading : Rpc.BatchCommand.decode.ofValue leading = .ok (.jumpto 0x10) := rfl

theorem ofBody_batch :
    Call.ofBody batch = (some (.word 1), .ok (.runCommands ⟨[coloring, leading]⟩)) := by
  have sendable : Json.Sendable (.object [("commands", .array [coloring, leading])]) := by
    refine ⟨⟨?_, ?_⟩, ?_⟩
    · simp [coloring, leading, Json.Plain, Json.PlainFields, Json.PlainItems, Json.word, Json.word32,
        Json.nat, Json.Number.Fits, UInt64.size]
    · simp [coloring, leading, Json.nesting, Json.nestingFields, Json.nestingItems, Json.word,
        Json.word32, Json.nat, Json.depthLimit]
    · rfl
  rw [batch, Client.ofBody_request sendable]
  rfl

theorem panics_coloring :
    batchJob (.colorNode [0xffffffffffffffff] 1 0) edge.workspace = .error .overflow edge.workspace := rfl

theorem runBatch_edge : edge.runBatch [coloring, leading] =
    { edge with workspace := { edge.workspace with host := edge.workspace.host.jumped 0x1010 } } := by
  have jump := Action.jumpToOffset_faultless (w := edge.workspace) (fun _ => rfl) 0x10
  rw [if_pos (by decide)] at jump
  have led : edge.runEntry leading =
      { edge with workspace := { edge.workspace with host := edge.workspace.host.jumped 0x1010 } } := by
    rw [runEntry, decode_leading]
    simp only [batchJob, call_ok (s := edge) rfl (discard_of_ok jump)]
    rfl
  rw [runBatch, List.foldl_cons, List.foldl_cons, List.foldl_nil,
    runEntry_of_panic decode_coloring panics_coloring, led]

theorem play_edge : edge.play [.request 0 batch] =
    { edge with workspace := { edge.workspace with host := edge.workspace.host.jumped 0x1010 } } := by
  rw [play_cons, play_nil, move_of_call _ 0 ofBody_batch, answer, runBatch_edge]

end Sample

open Tandem.Session.Sample in
/-- The function at the greatest address cannot be colored, which nobody is told, and the jump after it
is made. -/
theorem coloring_at_the_edge_panics :
    edge.workspace.host.Faultless ∧ edge.Fresh ∧ edge.workspace.host.image.Held ∧
      (edge.play [.request 0 batch]).workspace.host.writes < UInt64.size ∧
      (∀ view ∈ (edge.play [.request 0 batch]).views.all, view.document.Held) ∧
      Checked.play edge [.request 0 batch] =
        some (edge.responses [.request 0 batch], edge.play [.request 0 batch]) ∧
      Checked.batchJob (.colorNode [0xffffffffffffffff] 1 0) edge.workspace =
        .error .overflow edge.workspace ∧
      edge.runBatch [coloring, leading] = edge.runBatch [leading] ∧
      (edge.runBatch [leading]).workspace.host.jumps = [0x1010] := by
  have sound : edge.workspace.host.Faultless := fun _ => rfl
  have fresh : edge.Fresh := ⟨rfl, rfl, rfl⟩
  have image : edge.workspace.host.image.Held := by
    intro f member
    obtain rfl := List.mem_singleton.1 member
    simp [Held]
  have few : (edge.play [.request 0 batch]).workspace.host.writes < UInt64.size := by
    have unpainted : (edge.workspace.host.jumped 0x1010).writes = 0 := Host.writes_load brim fun _ => none
    rw [play_edge, unpainted]
    decide
  have held : ∀ view ∈ (edge.play [.request 0 batch]).views.all, view.document.Held := by
    rw [play_edge]
    intro view member
    cases member
  obtain ⟨run, -, -, entries⟩ := no_panic_is_reported sound fresh image few held
  obtain ⟨checked, panics⟩ := entries [] 0 batch [] _ _ [] coloring _ [leading] rfl ofBody_batch rfl
    decode_coloring rfl
  obtain ⟨-, -, -, -, rest⟩ := panics _ _ panics_coloring
  have rest' : edge.runBatch [coloring, leading] = edge.runBatch [leading] := rest
  refine ⟨sound, fresh, image, few, held, run, checked.trans panics_coloring, rest', ?_⟩
  rw [← rest', runBatch_edge]
  rfl

end Session

end Tandem
