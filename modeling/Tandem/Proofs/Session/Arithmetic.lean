import Tandem.Proofs.Session.Display
import Tandem.Proofs.View.Arithmetic

/-! # Sessions with words

A whole run of a session, as a machine that counts with words goes through it: `Checked.play`. What
panics inside a job ends the job. Documents are checked and views are numbered outside of jobs, where
nothing would catch a panic; there the run as a whole comes to nothing.

`Session.play_checked` shows that the machine goes through the same run, given words for the writes
that the host has in the end, and an image and documents that are in memory. -/

namespace Tandem

open Rpc (Call)

namespace Checked

/-! ## Documents -/

/-- Checking a document. It comes to nothing when there is no word for a result. -/
abbrev Validation := ExceptT DocumentError Option

def exactly {α : Type} (x : Except DocumentError α) : Validation α := ExceptT.mk (some x)

def checkBlock (m : FunctionMatch) (role : Role) (b : Block) : Validation Unit :=
  if b.stop < b.start then throw (.inverted (m.address.on role) role b)
  else do
    let span ← (Calculation.difference b.stop.toNat b.start.toNat).result?
    if Block.longest < span then throw (.oversized (m.address.on role) role b)

def validateSide (m : FunctionMatch) (role : Role) : Validation Unit := do
  (m.matchedBlocks role).forM (checkBlock m role)
  (m.unidentified.on role).forM (checkBlock m role)
  exactly (m.checkDisjoint role ((m.unidentified.on role).mergeSort Block.le))

def validate (m : FunctionMatch) : Validation Unit := do
  validateSide m .source
  validateSide m .target

def ofBytes (bytes : ByteArray) : Validation MatchDocument :=
  match Decoder.ofText MatchDocument.record.decode (Text.Symbol.ofBytes bytes) with
  | .error error => throw (.malformed error)
  | .ok document => do
    document.functions.forM validate
    return document

theorem exactly_bind {α β : Type} (x : Except DocumentError α) (f : α → Except DocumentError β) :
    (exactly x >>= fun a => exactly (f a)) = exactly (x >>= f) := by
  cases x <;> rfl

theorem liftM_some_bind {α β : Type} (a : α) (f : α → Validation β) :
    ((liftM (some a) : Validation α) >>= f) = f a := rfl

theorem forM_exactly {α : Type} (f : α → Except DocumentError Unit) (items : List α) :
    (items.forM fun a => exactly (f a)) = exactly (items.forM f) := by
  induction items with
  | nil => rfl
  | cons a items ih =>
    simp only [List.forM_eq_forM, List.forM_cons] at ih ⊢
    rw [ih, exactly_bind]

/-- The ends of a block are compared before one is taken off the other. -/
theorem checkBlock_eq (m : FunctionMatch) (role : Role) (b : Block) :
    checkBlock m role b = exactly (m.checkBlock role b) := by
  rw [checkBlock, FunctionMatch.checkBlock]
  split
  · rfl
  · rename_i straight
    have le : b.start ≤ b.stop := UInt64.not_lt.1 straight
    have span := UInt64.toNat_sub_of_le b.stop b.start le
    rw [Calculation.result?, if_pos (UInt64.le_iff_toNat_le.1 le), ← span]
    rw [liftM_some_bind]
    split <;> rfl

theorem validate_eq (m : FunctionMatch) : validate m = exactly m.validate := by
  have side (role : Role) : validateSide m role = exactly (m.validateSide role) := by
    simp only [validateSide, FunctionMatch.validateSide, funext (checkBlock_eq m role), forM_exactly]
    rw [← exactly_bind]
    simp only [← exactly_bind]
  rw [validate, FunctionMatch.validate, side, side, ← exactly_bind]

theorem ofBytes_eq (bytes : ByteArray) : ofBytes bytes = exactly (MatchDocument.ofBytes bytes) := by
  rw [ofBytes, MatchDocument.ofBytes]
  cases Decoder.ofText MatchDocument.record.decode (Text.Symbol.ofBytes bytes) with
  | error error => rfl
  | ok document =>
    simp only [funext validate_eq, forM_exactly]
    exact exactly_bind _ fun _ => .ok document

/-! ## Moves -/

def loadDiff (s : Session) (path : String) : Option (Except Session.DiffError MatchDocument) :=
  match s.workspace.files.read path with
  | .error error => some (.error (.unreadable path error))
  | .ok bytes => do
    match ← (ofBytes bytes).run with
    | .error error => return .error (.document error)
    | .ok document => return .ok document

/-- Opens a view. Its id is one less than there are views then. -/
def insert (views : Views) (view : MatchView) : Option (Nat × Views) := do
  let all := views.all ++ [view]
  let id ← (Calculation.difference all.length 1).result?
  return (id, ⟨all⟩)

def openDiff (s : Session) (path : String) : Option (Except Session.DiffError Json × Session) := do
  match ← loadDiff s path with
  | .error error => return (.error error, s)
  | .ok document =>
    let (role, peer) := Session.standpoint s.identity.hash document
    match s.call (openView document role peer) with
    | (.error error, s) => return (.error (.host error), s)
    | (.ok view, s) =>
      let (id, views) ← insert s.views view
      return (.ok (.object [("view", .nat id), ("role", .string role.text),
        ("rows", .nat view.rows.length)]), { s with views := views })

def conclude (s : Session) : Detached → Option Session
  | .exporting id path => some (s.conclude (.exporting id path))
  | .showingDiff id path => do
    match ← openDiff s path with
    | (.ok result, s) => return { s with tasks := s.tasks.complete id result }
    | (.error error, s) => return { s with tasks := s.tasks.fail id error.message }

def batchJob : Rpc.BatchCommand → Action Unit
  | .jumpto address => discard (jumpToOffset address)
  | .colorLines start stop color => discard (colorRange start stop color)
  | .colorNode addresses background frame => discard (colorNodes addresses ⟨background, frame⟩)

def runEntry (s : Session) (entry : Json) : Session :=
  match Rpc.BatchCommand.decode.ofValue entry with
  | .ok command => (s.call (batchJob command)).2
  | .error _ => s

def runBatch (s : Session) (entries : List Json) : Session := entries.foldl runEntry s

def activateRow (s : Session) (p : Rpc.ActivateRowParams) : Except Rpc.Error Json × Session :=
  match s.resolveView p.view with
  | .error error => (.error error, s)
  | .ok (_, view) =>
    s.answerBy (activate view p.row) fun command =>
      .object [("synced", Json.orNull SyncCommand.toJson command)]

def answer (s : Session) (now : Nat) : Call → Except Rpc.Error Json × Session
  | .jumpto p => s.answerBy (jumpToOffset p.address) fun _ => .null
  | .setItemColor p => s.answerBy (setItemColor p.address p.color) fun _ => .null
  | .runCommands p => (.ok .null, runBatch s p.commands)
  | .activateRow p => activateRow s p
  -- the others calculate nothing
  | call => s.answer now call

def handle (s : Session) (now : Nat) (body : ByteArray) : Rpc.Response × Session :=
  match Call.ofBody body with
  | (id, .error error) => (.ofError id error, s)
  | (id, .ok call) =>
    let (result, s) := answer s now call
    (.ofAnswer id result, s)

/-- A move, with the response if it is a request. -/
def move (s : Session) : Session.Move → Option (Option Rpc.Response × Session)
  | .request now body =>
    let (response, s) := handle s now body
    some (some response, s)
  | .finish position =>
    match s.detached[position]? with
    | some body => (none, ·) <$> conclude { s with detached := s.detached.eraseIdx position } body
    | none => some (none, s)
  | m => some (none, s.move m)

/-- A run, with the responses to its requests. -/
def play (s : Session) : List Session.Move → Option (List Rpc.Response × Session)
  | [] => some ([], s)
  | m :: moves => do
    let (response, s) ← move s m
    let (responses, s) ← play s moves
    return (response.toList ++ responses, s)

end Checked

namespace Session

/-- The response to a move, if it is a request. -/
def response? (s : Session) : Move → Option Rpc.Response
  | .request now body => some (s.handle now body).1
  | _ => none

/-- The responses to the requests among moves. -/
def responses (s : Session) : List Move → List Rpc.Response
  | [] => []
  | m :: moves => (s.response? m).toList ++ (s.move m).responses moves

variable {α : Type} {s s' : Session} {w : Workspace}

/-! ## Jobs -/

theorem call_congr {job' job : Action α} (same : s.isOpen = true → job' s.workspace = job s.workspace) :
    s.call job' = s.call job := by
  rw [call, call, Action.through, Action.through, Action.contained, Action.contained]
  by_cases isOpen : s.isOpen = true
  · rw [same isOpen]
  · simp only [isOpen]
    rfl

theorem answerBy_congr {job' job : Action α}
    (same : s.isOpen = true → job' s.workspace = job s.workspace) (encode : α → Json) :
    s.answerBy job' encode = s.answerBy job encode := by
  rw [answerBy, answerBy, call_congr same]

theorem workspace_call (isOpen : s.isOpen = true) (job : Action α) :
    (s.call job).2.workspace = job.outcome s.workspace := by
  rw [call, Action.through, if_pos isOpen, Action.contained, Action.outcome]
  cases job s.workspace <;> rfl

theorem workspace_answerBy (isOpen : s.isOpen = true) (job : Action α) (encode : α → Json) :
    (s.answerBy job encode).2.workspace = job.outcome s.workspace := by
  rw [← workspace_call isOpen, answerBy]
  cases s.call job with
  | mk result s' => cases result <;> rfl

theorem Works.writes_le (works : s.Works s') :
    s.workspace.host.writes ≤ s'.workspace.host.writes := by
  obtain ⟨w, edits, rfl⟩ := works
  exact edits.becomes.writes_le

/-! ## Batches -/

theorem batchJob_checked (sound : w.host.Faultless) (held : w.host.image.Held)
    {command : Rpc.BatchCommand}
    (few : ((batchJob command).outcome w).host.writes < UInt64.size) :
    Checked.batchJob command w = batchJob command w := by
  cases command with
  | jumpto address => rw [Checked.batchJob, batchJob, Checked.jumpToOffset_eq]
  | colorLines start stop color =>
    obtain ⟨n, w', -, -, done, machine⟩ := Action.tallied_colorRange sound start stop color
    rw [batchJob, Action.outcome_of_ok (discard_of_ok done)] at few
    rw [Checked.batchJob, batchJob, discard_of_ok done, discard_of_ok (machine few)]
  | colorNode addresses background frame =>
    rw [Checked.batchJob, batchJob]
    exact Action.discard_congr (Action.colorNodes_checked sound held addresses _)

theorem runBatch_checked (sound : s.workspace.host.Faultless) (held : s.workspace.host.image.Held)
    {entries : List Json} (few : (s.runBatch entries).workspace.host.writes < UInt64.size) :
    Checked.runBatch s entries = s.runBatch entries := by
  induction entries generalizing s with
  | nil => rfl
  | cons entry entries ih =>
    have first : s.Works (s.runEntry entry) := works_runBatch s [entry]
    have rest := (works_runBatch (s.runEntry entry) entries).writes_le
    have few' : ((s.runEntry entry).runBatch entries).workspace.host.writes < UInt64.size := few
    have same : Checked.runEntry s entry = s.runEntry entry := by
      have bound : (s.runEntry entry).workspace.host.writes < UInt64.size := by omega
      rw [Checked.runEntry]
      rw [runEntry] at bound ⊢
      cases decoded : Rpc.BatchCommand.decode.ofValue entry with
      | error error => rfl
      | ok command =>
        simp only [decoded] at bound
        refine congrArg Prod.snd (call_congr fun isOpen => ?_)
        rw [workspace_call isOpen] at bound
        exact batchJob_checked sound held bound
    have tail := ih (first.continues.faultless sound) (first.continues.image ▸ held) few'
    rw [Checked.runBatch, List.foldl_cons, same]
    exact tail

/-! ## Answers -/

theorem answer_checked (sound : s.workspace.host.Faultless) (held : s.workspace.host.image.Held)
    {now : Nat} {call : Call} (few : (s.answer now call).2.workspace.host.writes < UInt64.size) :
    Checked.answer s now call = s.answer now call := by
  cases call with
  | jumpto p => rw [Checked.answer, answer, Checked.jumpToOffset_eq]
  | setItemColor p =>
    refine answerBy_congr (fun isOpen => ?_) _
    rw [answer, workspace_answerBy isOpen,
      Action.outcome_of_ok (Action.setItemColor_faultless sound p.address p.color)] at few
    simp only [Host.writes_colored] at few
    exact Action.setItemColor_checked sound few p.color
  | runCommands p => rw [Checked.answer, answer, runBatch_checked sound held few]
  | activateRow p =>
    rw [Checked.answer, Checked.activateRow]
    rw [answer, activateRow] at few ⊢
    cases resolves : s.resolveView p.view with
    | error error => rfl
    | ok found =>
      simp only [resolves] at few
      refine answerBy_congr (fun isOpen => ?_) _
      rw [workspace_answerBy isOpen] at few
      exact MatchView.activate_checked sound few
  | _ => rfl

theorem handle_checked (sound : s.workspace.host.Faultless) (held : s.workspace.host.image.Held)
    {now : Nat} {body : ByteArray} (few : (s.handle now body).2.workspace.host.writes < UInt64.size) :
    Checked.handle s now body = s.handle now body := by
  rw [Checked.handle]
  cases found : Call.ofBody body with
  | mk id result =>
    cases result with
    | error error => rw [handle_of_error s now found]
    | ok call =>
      rw [handle_of_call s now found] at few ⊢
      simp only [answer_checked sound held few]

/-! ## Bodies -/

theorem loadDiff_checked (s : Session) (path : String) :
    Checked.loadDiff s path = some (s.loadDiff path) := by
  rw [Checked.loadDiff, loadDiff]
  cases s.workspace.files.read path with
  | error error => rfl
  | ok bytes =>
    simp only [Checked.ofBytes_eq]
    cases MatchDocument.ofBytes bytes <;> rfl

theorem insert_checked (views : Views) (view : MatchView) :
    Checked.insert views view = some (views.insert view) := by
  simp [Checked.insert, Views.insert, Calculation.result?]

theorem openDiff_checked (sound : s.workspace.host.Faultless) {path : String}
    (few : (s.openDiff path).2.workspace.host.writes < UInt64.size)
    (held : ∀ view ∈ (s.openDiff path).2.views.all, view.document.Held) :
    Checked.openDiff s path = some (s.openDiff path) := by
  rw [openDiff] at few held ⊢
  rw [Checked.openDiff, loadDiff_checked]
  cases loads : s.loadDiff path with
  | error error => rfl
  | ok document =>
    simp only [loads] at few held ⊢
    simp only [Option.bind_eq_bind, Option.bind_some]
    generalize standpoint s.identity.hash document = side at few held ⊢
    have same : s.call (Checked.openView document side.1 side.2) =
        s.call (openView document side.1 side.2) := by
      refine call_congr fun isOpen => ?_
      -- the view is opened, so its document is among those that are in memory
      obtain ⟨w', opened, -⟩ := openView_faultless sound document side.1 side.2
      rw [call_ok isOpen opened] at few held
      have inMemory : document.Held := held _ (List.mem_append_right _ List.mem_cons_self)
      refine openView_checked sound inMemory _ _ ?_
      rw [Action.outcome_of_ok opened]
      exact few
    rw [same]
    cases s.call (openView document side.1 side.2) with
    | mk result s' =>
      cases result with
      | error error => rfl
      | ok view =>
        simp only [insert_checked]
        rfl

theorem conclude_checked (sound : s.workspace.host.Faultless) {body : Detached}
    (few : (s.conclude body).workspace.host.writes < UInt64.size)
    (held : ∀ view ∈ (s.conclude body).views.all, view.document.Held) :
    Checked.conclude s body = some (s.conclude body) := by
  cases body with
  | exporting id path => rfl
  | showingDiff id path =>
    have ends : (s.conclude (.showingDiff id path)).workspace = (s.openDiff path).2.workspace ∧
        (s.conclude (.showingDiff id path)).views = (s.openDiff path).2.views := by
      rw [conclude]
      cases s.openDiff path with
      | mk result s' => cases result <;> exact ⟨rfl, rfl⟩
    rw [ends.1] at few
    rw [ends.2] at held
    rw [Checked.conclude, openDiff_checked sound few held, conclude]
    cases s.openDiff path with
    | mk result s' => cases result <;> rfl

/-! ## Runs -/

theorem move_checked (sound : s.workspace.host.Faultless) (image : s.workspace.host.image.Held)
    {m : Move} (few : (s.move m).workspace.host.writes < UInt64.size)
    (held : ∀ view ∈ (s.move m).views.all, view.document.Held) :
    Checked.move s m = some (s.response? m, s.move m) := by
  cases m with
  | request now body => simp only [Checked.move, handle_checked sound image few, response?, move]
  | finish position =>
    simp only [Checked.move, response?]
    rw [move, finishAt] at few held ⊢
    cases there : s.detached[position]? with
    | none => rfl
    | some body =>
      simp only [there] at few held
      have done :=
        conclude_checked (s := { s with detached := s.detached.eraseIdx position }) sound few held
      simp only [done]
      rfl
  | _ => rfl

theorem Step.writes_le {m : Move} (step : s.Step m s') :
    s.workspace.host.writes ≤ s'.workspace.host.writes := by
  obtain ⟨w, becomes, same⟩ := step.host
  rw [same]
  exact becomes.writes_le

theorem Step.image {m : Move} (step : s.Step m s') :
    s'.workspace.host.image = s.workspace.host.image := by
  obtain ⟨w, becomes, same⟩ := step.host
  rw [same]
  exact becomes.image

theorem writes_le_play (s : Session) (moves : List Move) :
    s.workspace.host.writes ≤ (s.play moves).workspace.host.writes := by
  induction moves generalizing s with
  | nil => exact Nat.le_refl _
  | cons m moves ih => exact Nat.le_trans (move_step s m).writes_le (ih (s.move m))

theorem image_play (s : Session) (moves : List Move) :
    (s.play moves).workspace.host.image = s.workspace.host.image := by
  induction moves generalizing s with
  | nil => rfl
  | cons m moves ih => exact (ih (s.move m)).trans (move_step s m).image

/-- Documents stay in memory as long as views are open, and views are never closed. -/
theorem held_of_play {moves : List Move} (held : ∀ view ∈ (s.play moves).views.all, view.document.Held)
    {view : MatchView} (member : view ∈ s.views.all) : view.document.Held := by
  obtain ⟨id, there⟩ := List.mem_iff_getElem?.1 member
  obtain ⟨view', there', rearranged⟩ := rearranged_play there moves
  rw [← rearranged.document]
  exact held view' (List.mem_of_getElem? there')

/-- The machine goes through the same run, and gives the same responses. -/
theorem play_checked (sound : s.workspace.host.Faultless) (image : s.workspace.host.image.Held)
    {moves : List Move} (few : (s.play moves).workspace.host.writes < UInt64.size)
    (held : ∀ view ∈ (s.play moves).views.all, view.document.Held) :
    Checked.play s moves = some (s.responses moves, s.play moves) := by
  induction moves generalizing s with
  | nil => rfl
  | cons m moves ih =>
    have step := move_step s m
    have more := writes_le_play (s.move m) moves
    rw [play_cons] at few held
    have first := move_checked sound image (Nat.lt_of_le_of_lt more few)
      fun view member => held_of_play held member
    have rest := ih (step.faultless sound) (step.image ▸ image) few held
    simp only [Checked.play, first, rest, Option.bind_eq_bind, Option.bind_some]
    rfl

end Session

end Tandem
