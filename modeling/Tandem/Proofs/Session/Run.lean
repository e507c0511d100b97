import Tandem.Proofs.Session.Service

/-! # Sessions over time

A session is asked one thing after the other, and what it has detached is finished at any time and in
any order. Between this its worker takes commands or goes away, its main loop ends, and others change
the files or start tasks of their own.

* `Session.Move` is what can happen next, and `Session.play` a whole run.
* `Session.Step` lists what a move can do to a session, and `Session.move_step` shows that the list is
  complete. It holds for every host, with faults or without.
* `Session.Continues` is what neither answers nor bodies change: the main loop, the worker, the image
  and who the session is.
* `Session.settle_eq_play` shows that running all detached bodies at once is a run like any other. -/

namespace Tandem

open Rpc (Call)

/-! ## Tasks and their bodies -/

namespace Detached

/-- The task that a body belongs to. -/
def task : Detached → String
  | .exporting task _ => task
  | .showingDiff task _ => task

/-- The kind of task that a body belongs to. -/
def kind : Detached → TaskKind
  | .exporting _ _ => .exporting
  | .showingDiff _ _ => .showingDiff

/-- The body of a task of a given kind. -/
def ofKind : TaskKind → String → String → Detached
  | .exporting, task, path => .exporting task path
  | .showingDiff, task, path => .showingDiff task path

@[simp] theorem task_ofKind (kind : TaskKind) (task path : String) :
    (ofKind kind task path).task = task := by
  cases kind <;> rfl

@[simp] theorem kind_ofKind (kind : TaskKind) (task path : String) :
    (ofKind kind task path).kind = kind := by
  cases kind <;> rfl

end Detached

/-- What a task says of itself as long as it runs. -/
def TaskKind.announcement : TaskKind → String → String
  | .exporting, path => "Exporting to " ++ path
  | .showingDiff, path => "Loading " ++ path

namespace Session

/-- A request that starts a task: when it came, what it asks for, and the file that it names. -/
structure Start where
  now : Nat
  kind : TaskKind
  filename : String
  deriving DecidableEq, Repr

def started (s : Session) (start : Start) : Session :=
  let path := Path.expandHome s.home start.filename
  s.detach start.now start.kind (start.kind.announcement path) (.ofKind start.kind · path)

/-- What a call starts, if it starts a task. -/
def start? (now : Nat) : Call → Option Start
  | .exportTo p => some ⟨now, .exporting, p.filename⟩
  | .showDiff p => some ⟨now, .showingDiff, p.filename⟩
  | _ => none

theorem startExport_eq (s : Session) (now : Nat) (filename : String) :
    s.startExport now filename = s.started ⟨now, .exporting, filename⟩ := rfl

theorem startDiff_eq (s : Session) (now : Nat) (filename : String) :
    s.startDiff now filename = s.started ⟨now, .showingDiff, filename⟩ := rfl

/-! ## Moves -/

/-- What can happen to a session next. -/
inductive Move where
  /-- A request arrives, at the time that the clock reads. -/
  | request (now : Nat) (body : ByteArray)
  /-- The body of a detached task is run. -/
  | finish (position : Nat)
  /-- The worker takes commands out of the outbox. -/
  | deliver (count : Nat)
  /-- The worker goes away. -/
  | abandon
  /-- The main loop ends. -/
  | close
  /-- Others change the files. -/
  | refile (files : Files)
  /-- Other sessions take numbers for their tasks. -/
  | number (count : Nat)

/-- Runs the body of the detached task at a position. -/
def finishAt (s : Session) (position : Nat) : Session :=
  match s.detached[position]? with
  | some body => conclude { s with detached := s.detached.eraseIdx position } body
  | none => s

/-- The session after a move. -/
def move (s : Session) : Move → Session
  | .request now body => (s.handle now body).2
  | .finish position => s.finishAt position
  | .deliver count =>
    { s with workspace := { s.workspace with outbox := (s.workspace.outbox.take count).2 } }
  | .abandon => { s with workspace := { s.workspace with outbox := s.workspace.outbox.close } }
  | .close => s.close
  | .refile files => { s with workspace := { s.workspace with files := files } }
  | .number count => { s with nextTask := s.nextTask + count }

/-- The session after moves, one after the other. -/
def play (s : Session) (moves : List Move) : Session := moves.foldl move s

namespace Move

/-- The call that a move makes, if it is a request that makes sense. -/
def call? : Move → Option Call
  | .request _ body => (Call.ofBody body).2.toOption
  | _ => none

/-- What a move starts, if it is a request that starts a task. -/
def start? : Move → Option Start
  | .request now body => (Call.ofBody body).2.toOption.bind (Session.start? now)
  | _ => none

/-- What moves start, in order. -/
def starts (moves : List Move) : List Start := moves.filterMap start?

theorem starts_cons (m : Move) (moves : List Move) :
    starts (m :: moves) = m.start?.toList ++ starts moves := by
  cases first : m.start? <;> simp [starts, first]

section

variable {body : ByteArray} {id : Option Json} {call : Call} (now : Nat)
  (found : Call.ofBody body = (id, .ok call))
include found

theorem call?_request : (request now body).call? = some call := by
  simp only [call?, found, Except.toOption]

theorem start?_request : (request now body).start? = Session.start? now call := by
  simp only [start?, found, Except.toOption, Option.bind_some]

end

end Move

variable {s s' s'' : Session}

@[simp] theorem play_nil (s : Session) : s.play [] = s := rfl

@[simp] theorem play_cons (s : Session) (m : Move) (moves : List Move) :
    s.play (m :: moves) = (s.move m).play moves := rfl

theorem move_of_call (s : Session) (now : Nat) {body : ByteArray} {id : Option Json} {call : Call}
    (found : Call.ofBody body = (id, .ok call)) :
    s.move (.request now body) = (s.answer now call).2 := by
  rw [move, handle_of_call s now found]

/-! ## Work -/

/-- Nothing was done but work on the host, and no file was written. -/
def Works (s s' : Session) : Prop :=
  ∃ w, s.workspace.Edits w ∧ s' = { s with workspace := w }

theorem Works.refl (s : Session) : s.Works s := ⟨s.workspace, .refl _, rfl⟩

theorem Works.trans (first : s.Works s') (second : s'.Works s'') : s.Works s'' := by
  obtain ⟨_, edits, rfl⟩ := first
  obtain ⟨w, edits', rfl⟩ := second
  exact ⟨w, edits.trans edits', rfl⟩

/-- The main loop does a job on the workspace, or does not get to it. -/
theorem call_cases {α : Type} (job : Action α) (s : Session) :
    (s.call job).2 = { s with workspace := job.outcome s.workspace } ∨ (s.call job).2 = s := by
  by_cases isOpen : s.isOpen = true
  · left
    rw [call, Action.through, if_pos isOpen, Action.contained, Action.outcome]
    cases job s.workspace <;> rfl
  · right
    rw [call, Action.through, if_neg isOpen]

theorem works_call {α : Type} {job : Action α} (proper : ∀ w, job.Proper w) (s : Session) :
    s.Works (s.call job).2 := by
  rcases call_cases job s with done | closed
  · exact ⟨_, proper s.workspace, done⟩
  · rw [closed]
    exact .refl s

theorem works_answerBy {α : Type} {job : Action α} (proper : ∀ w, job.Proper w)
    (encode : α → Json) (s : Session) : s.Works (s.answerBy job encode).2 := by
  have works := works_call proper s
  rw [answerBy]
  cases called : s.call job with
  | mk result s' =>
    rw [called] at works
    cases result <;> exact works

theorem works_runBatch (s : Session) (entries : List Json) : s.Works (s.runBatch entries) := by
  induction entries generalizing s with
  | nil => exact .refl s
  | cons entry entries ih =>
    refine Works.trans ?_ (ih (s.runEntry entry))
    rw [runEntry]
    split
    · rename_i command decoded
      refine works_call (fun w => ?_) s
      cases command with
      | jumpto address => exact (Action.proper_jumpToOffset address).discard
      | colorLines start stop color => exact (Action.proper_colorRange start stop color).discard
      | colorNode addresses background frame => exact (Action.proper_colorNodes addresses _).discard
    · exact .refl s

/-! ## Bodies -/

/-- The result of a task that has opened a view. -/
def openingResult (id : Nat) (role : Role) (rows : Nat) : Json :=
  .object [("view", .nat id), ("role", .string role.text), ("rows", .nat rows)]

/-- What the body of a task can do to a session: it fails, makes an export or opens a view. -/
inductive Concludes (s : Session) : Detached → Session → Prop
  | failed {body : Detached} {w : Workspace} (message : String) (becomes : s.workspace.Becomes w) :
      Concludes s body { s with workspace := w, tasks := s.tasks.fail body.task message }
  | exported {task path : String} {w : Workspace} (becomes : s.workspace.Becomes w) :
      Concludes s (.exporting task path)
        { s with workspace := w, tasks := s.tasks.complete task (.object [("path", .string path)]) }
  | opened {task path : String} {w : Workspace} (role : Role) (view : MatchView)
      (becomes : s.workspace.Becomes w) :
      Concludes s (.showingDiff task path)
        { s with
          workspace := w
          views := ⟨s.views.all ++ [view]⟩
          tasks := s.tasks.complete task
            (openingResult s.views.all.length role view.rows.length) }

theorem proper_openView (document : MatchDocument) (role : Role) (peer : Option String)
    (w : Workspace) : (openView document role peer).Proper w :=
  (MatchView.proper_build document role peer _).bind fun view _ _ =>
    (MatchView.proper_colorMatches view _ _).discard.bind fun _ _ _ =>
      (Action.proper_showTable _).bind fun _ _ _ => Action.proper_pure _

theorem concludes_conclude (s : Session) (body : Detached) : s.Concludes body (s.conclude body) := by
  cases body with
  | exporting task path =>
    obtain ⟨w, becomes, called⟩ : ∃ w, s.workspace.Becomes w ∧
        (s.call (Action.exportAnalysis path)).2 = { s with workspace := w } := by
      rcases call_cases (Action.exportAnalysis path) s with done | closed
      · exact ⟨_, Action.becomes_exportAnalysis path s.workspace, done⟩
      · exact ⟨_, .refl _, closed⟩
    rw [conclude]
    cases result : s.call (Action.exportAnalysis path) with
    | mk outcome s' =>
      rw [result] at called
      cases called
      cases outcome with
      | ok _ => exact .exported becomes
      | error error => exact .failed _ becomes
  | showingDiff task path =>
    rw [conclude, openDiff]
    cases s.loadDiff path with
    | error error => exact .failed _ (.refl _)
    | ok document =>
      simp only
      -- which side the session is on does not matter to what happens next
      generalize standpoint s.identity.hash document = side
      obtain ⟨w, edits, called⟩ := works_call (proper_openView document side.1 side.2) s
      cases result : s.call (openView document side.1 side.2) with
      | mk outcome s' =>
        rw [result] at called
        cases called
        cases outcome with
        | ok view => exact .opened side.1 view edits.becomes
        | error error => exact .failed _ edits.becomes

/-! ## Answers -/

/-- What answering a call can do to a session: work, a task that is started, or a view that is
sorted. -/
inductive Answered (s : Session) (now : Nat) : Call → Session → Prop
  | worked {call : Call} {s' : Session} (idle : start? now call = none) (works : s.Works s') :
      Answered s now call s'
  | started {call : Call} {start : Start} (starts : start? now call = some start) :
      Answered s now call (s.started start)
  | sorted {p : Rpc.ViewRowsParams} {id : Nat} {view : MatchView} {column : SortColumn}
      (resolves : s.resolveView p.view = .ok (id, view)) (sorts : p.sort = some column) :
      Answered s now (.viewRows p) { s with views := (s.views.sort id column p.descending).2 }

theorem answered_answer (s : Session) (now : Nat) (call : Call) :
    s.Answered now call (s.answer now call).2 := by
  cases call with
  | getPid => exact .worked rfl (.refl s)
  | jumpto p => exact .worked rfl (works_answerBy (fun _ => Action.proper_jumpToOffset _) _ s)
  | setItemColor p =>
    exact .worked rfl (works_answerBy (fun _ => Action.proper_setItemColor _ _) _ s)
  | getHash => exact .worked rfl (works_answerBy (fun _ => Action.proper_identity) _ s)
  | getRootFilename => exact .worked rfl (works_answerBy (fun _ => Action.proper_rootFilename) _ s)
  | exportTo p =>
    rw [answer, startExport_eq]
    exact .started rfl
  | showDiff p =>
    rw [answer, startDiff_eq]
    exact .started rfl
  | runCommands p => exact .worked rfl (works_runBatch s p.commands)
  | taskStatus p => exact .worked rfl (.refl s)
  | viewRows p =>
    rw [answer, viewRows]
    cases resolves : s.resolveView p.view with
    | error error => exact .worked rfl (.refl s)
    | ok found =>
      cases sorts : p.sort with
      | none => exact .worked rfl (.refl s)
      | some column => exact .sorted resolves sorts
  | activateRow p =>
    rw [answer, activateRow]
    cases s.resolveView p.view with
    | error error => exact .worked rfl (.refl s)
    | ok found => exact .worked rfl (works_answerBy (fun _ => found.2.proper_activate p.row) _ s)

/-! ## Steps -/

/-- Nothing was done to the tasks and the views. Their numbers may have been used elsewhere. -/
structure Keeps (s s' : Session) : Prop where
  process : s'.process = s.process
  tasks : s'.tasks = s.tasks
  nextTask : s.nextTask ≤ s'.nextTask
  detached : s'.detached = s.detached
  views : s'.views = s.views
  host : ∃ w, s.workspace.Becomes w ∧ s'.workspace.host = w.host

theorem Works.keeps (works : s.Works s') : s.Keeps s' := by
  obtain ⟨w, edits, rfl⟩ := works
  exact ⟨rfl, rfl, Nat.le_refl _, rfl, rfl, w, edits.becomes, rfl⟩

/-- What a move can do to a session. -/
inductive Step (s : Session) : Move → Session → Prop
  | kept {m : Move} {s' : Session} (idle : m.start? = none) (keeps : s.Keeps s') : Step s m s'
  | started {m : Move} {start : Start} (starts : m.start? = some start) : Step s m (s.started start)
  | sorted {m : Move} {p : Rpc.ViewRowsParams} {id : Nat} {view : MatchView} {column : SortColumn}
      (idle : m.start? = none) (asks : m.call? = some (.viewRows p))
      (resolves : s.resolveView p.view = .ok (id, view)) (sorts : p.sort = some column) :
      Step s m { s with views := (s.views.sort id column p.descending).2 }
  | finished {position : Nat} {body : Detached} {s' : Session}
      (there : s.detached[position]? = some body)
      (concludes : Concludes { s with detached := s.detached.eraseIdx position } body s') :
      Step s (.finish position) s'

theorem answer_step (s : Session) {now : Nat} {body : ByteArray} {id : Option Json} {call : Call}
    (found : Call.ofBody body = (id, .ok call)) :
    s.Step (.request now body) (s.answer now call).2 := by
  have asks := Move.call?_request now found
  have same := Move.start?_request now found
  have answered := s.answered_answer now call
  generalize (s.answer now call).2 = s' at answered ⊢
  cases answered with
  | worked idle works => exact .kept (same.trans idle) works.keeps
  | started starts => exact .started (same.trans starts)
  | sorted resolves sorts => exact .sorted same asks resolves sorts

/-- The list of what a move can do is complete. -/
theorem move_step (s : Session) (m : Move) : s.Step m (s.move m) := by
  cases m with
  | request now body =>
    cases found : Call.ofBody body with
    | mk id result =>
      cases result with
      | error error =>
        have idle : (Move.request now body).start? = none := by
          simp only [Move.start?, found, Except.toOption, Option.bind_none]
        rw [move, handle_of_error s now found]
        exact .kept idle (Works.refl s).keeps
      | ok call =>
        rw [move_of_call s now found]
        exact answer_step s found
  | finish position =>
    rw [move, finishAt]
    split
    · rename_i body there
      exact .finished there (concludes_conclude _ body)
    · exact .kept rfl (Works.refl s).keeps
  | deliver count => exact .kept rfl ⟨rfl, rfl, Nat.le_refl _, rfl, rfl, s.workspace, .refl _, rfl⟩
  | abandon => exact .kept rfl ⟨rfl, rfl, Nat.le_refl _, rfl, rfl, s.workspace, .refl _, rfl⟩
  | close => exact .kept rfl ⟨rfl, rfl, Nat.le_refl _, rfl, rfl, s.workspace, .refl _, rfl⟩
  | refile files => exact .kept rfl ⟨rfl, rfl, Nat.le_refl _, rfl, rfl, s.workspace, .refl _, rfl⟩
  | number count => exact .kept rfl ⟨rfl, rfl, Nat.le_add_right _ _, rfl, rfl, s.workspace, .refl _, rfl⟩

/-! ## Going on -/

/-- The session goes on: its main loop, its worker and who it is are as they were, and its host has
the same image and the same faults. -/
structure Continues (s s' : Session) : Prop where
  isOpen : s'.isOpen = s.isOpen
  identity : s'.identity = s.identity
  home : s'.home = s.home
  image : s'.workspace.host.image = s.workspace.host.image
  faults : s'.workspace.host.faults = s.workspace.host.faults
  accepts : s'.workspace.outbox.isOpen = s.workspace.outbox.isOpen

theorem Continues.refl (s : Session) : s.Continues s := ⟨rfl, rfl, rfl, rfl, rfl, rfl⟩

theorem Continues.trans (first : s.Continues s') (second : s'.Continues s'') : s.Continues s'' where
  isOpen := second.isOpen.trans first.isOpen
  identity := second.identity.trans first.identity
  home := second.home.trans first.home
  image := second.image.trans first.image
  faults := second.faults.trans first.faults
  accepts := second.accepts.trans first.accepts

theorem Continues.faultless (continues : s.Continues s') (sound : s.workspace.host.Faultless) :
    s'.workspace.host.Faultless := by
  rw [Host.Faultless, continues.faults]
  exact sound

theorem Works.continues (works : s.Works s') : s.Continues s' := by
  obtain ⟨w, edits, rfl⟩ := works
  exact ⟨rfl, rfl, rfl, edits.becomes.image, edits.becomes.faults, edits.becomes.accepts⟩

theorem continues_answer (s : Session) (now : Nat) (call : Call) :
    s.Continues (s.answer now call).2 := by
  have answered := s.answered_answer now call
  generalize (s.answer now call).2 = s' at answered ⊢
  cases answered with
  | worked idle works => exact works.continues
  | started starts => exact ⟨rfl, rfl, rfl, rfl, rfl, rfl⟩
  | sorted resolves sorts => exact ⟨rfl, rfl, rfl, rfl, rfl, rfl⟩

/-- Answers leave the files alone: only the bodies of exports write. -/
theorem files_answer (s : Session) (now : Nat) (call : Call) :
    (s.answer now call).2.workspace.files = s.workspace.files := by
  have answered := s.answered_answer now call
  generalize (s.answer now call).2 = s' at answered ⊢
  cases answered with
  | worked idle works =>
    obtain ⟨w, edits, rfl⟩ := works
    exact edits.files
  | started starts => rfl
  | sorted resolves sorts => rfl

theorem Concludes.becomes {body : Detached} (concludes : s.Concludes body s') :
    s.workspace.Becomes s'.workspace := by
  cases concludes <;> assumption

theorem continues_conclude (s : Session) (body : Detached) : s.Continues (s.conclude body) := by
  have concludes := s.concludes_conclude body
  have becomes := concludes.becomes
  generalize s.conclude body = s' at concludes becomes ⊢
  cases concludes <;> exact ⟨rfl, rfl, rfl, becomes.image, becomes.faults, becomes.accepts⟩

theorem continues_settle (s : Session) : s.Continues s.settle := by
  have runs (bodies : List Detached) (s : Session) : s.Continues (bodies.foldl conclude s) := by
    induction bodies generalizing s with
    | nil => exact .refl s
    | cons body bodies ih => exact (s.continues_conclude body).trans (ih _)
  have emptied : s.Continues { s with detached := [] } := ⟨rfl, rfl, rfl, rfl, rfl, rfl⟩
  exact emptied.trans (runs s.detached _)

/-! ## Faults -/

/-- A move does work on the host, if anything. -/
theorem Step.host {m : Move} (step : s.Step m s') :
    ∃ w, s.workspace.Becomes w ∧ s'.workspace.host = w.host := by
  cases step with
  | kept idle keeps => exact keeps.host
  | started starts => exact ⟨s.workspace, .refl _, rfl⟩
  | sorted idle asks resolves sorts => exact ⟨s.workspace, .refl _, rfl⟩
  | finished there concludes => exact ⟨_, concludes.becomes, rfl⟩

theorem Step.faultless {m : Move} (step : s.Step m s') (sound : s.workspace.host.Faultless) :
    s'.workspace.host.Faultless := by
  obtain ⟨w, becomes, same⟩ := step.host
  rw [same]
  exact becomes.faultless sound

theorem faultless_play (sound : s.workspace.host.Faultless) (moves : List Move) :
    (s.play moves).workspace.host.Faultless := by
  induction moves generalizing s with
  | nil => exact sound
  | cons m moves ih => exact ih ((move_step s m).faultless sound)

/-! ## Settling -/

theorem conclude_detached (s : Session) (bodies : List Detached) (body : Detached) :
    conclude { s with detached := bodies } body = { s.conclude body with detached := bodies } := by
  cases body with
  | exporting task path =>
    simp only [conclude, call]
    cases Action.through s.isOpen (Action.exportAnalysis path) s.workspace with
    | mk result w => cases result <;> rfl
  | showingDiff task path =>
    have loads : loadDiff { s with detached := bodies } path = s.loadDiff path := rfl
    simp only [conclude, openDiff, call, loads]
    cases s.loadDiff path with
    | error error => rfl
    | ok document =>
      simp only
      generalize standpoint s.identity.hash document = side
      cases Action.through s.isOpen (openView document side.1 side.2) s.workspace with
      | mk result w => cases result <;> rfl

/-- Running every body in order is a run of its own. -/
theorem settle_eq_play (s : Session) :
    s.settle = s.play (List.replicate s.detached.length (.finish 0)) := by
  obtain ⟨bodies, same⟩ : ∃ bodies, s.detached = bodies := ⟨_, rfl⟩
  rw [settle, same]
  induction bodies generalizing s with
  | nil =>
    cases s
    cases same
    rfl
  | cons body bodies ih =>
    -- settling takes all bodies away at once and the run one by one, which no body can notice
    have first : s.move (.finish 0) = conclude { s with detached := bodies } body := by
      simp [move, finishAt, same]
    have rest := ih (s.move (.finish 0)) (by rw [first, conclude_detached])
    rw [List.length_cons, List.replicate_succ, play_cons, ← rest, first, conclude_detached,
      List.foldl_cons, conclude_detached]

/-! ## A sample -/

namespace Sample

/-- A session that has just loaded a small image. -/
def idle : Session where
  workspace := ⟨.load Image.Sample.bare, .empty, {}⟩
  identity := ⟨"0a1b", "left", "", 18861⟩

/-- Two functions of the image, in the other order on the other side. -/
def document : MatchDocument where
  hash := ⟨some "0a1b", some "2c3d"⟩
  functions := [
    ⟨⟨0x10, 0x40⟩, ⟨none, none⟩, [], ⟨[], []⟩⟩,
    ⟨⟨0x20, 0x30⟩, ⟨none, none⟩, [], ⟨[], []⟩⟩]

end Sample

end Session

end Tandem
