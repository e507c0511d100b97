import Tandem.Proofs.ContentHash
import Tandem.Proofs.Json.Decode
import Tandem.Proofs.View.Activation
import Tandem.Session.Service

/-! # A session without faults

What a session comes to when its main loop runs and its host has no faults: it tells its hash,
navigates where it is sent, opens a view of every document that it can read, and follows the
gestures of the view's user. `Session.Viewing` is what these gestures preserve, and
`Session.answer_gesture` is one of them. -/

namespace Tandem

open MatchView (Gesture)
open Rpc (Call)

/-- The response to a call, by what the call came to. -/
def Rpc.Response.ofAnswer (id : Option Json) : Except Rpc.Error Json → Rpc.Response
  | .ok result => .success id result
  | .error error => .ofError id error

namespace Session

variable {α : Type} {s : Session}

/-! ## Requests -/

theorem handle_of_error (s : Session) (now : Nat) {body : ByteArray} {id : Option Json}
    {error : Rpc.Error} (found : Call.ofBody body = (id, .error error)) :
    s.handle now body = (.ofError id error, s) := by
  rw [handle, found]

theorem handle_of_call (s : Session) (now : Nat) {body : ByteArray} {id : Option Json} {call : Call}
    (found : Call.ofBody body = (id, .ok call)) :
    s.handle now body = (.ofAnswer id (s.answer now call).1, (s.answer now call).2) := by
  rw [handle, found]
  cases answered : s.answer now call with
  | mk answer s' => cases answer <;> simp [answered, Rpc.Response.ofAnswer]

/-- Answers the call of a method. -/
def dispatch (s : Session) (now : Nat) (method : String) (given : Option Json) :
    Except Rpc.Error Json × Session :=
  match Call.decode method given with
  | .error error => (.error error, s)
  | .ok call => s.answer now call

theorem handle_of_decode (s : Session) (now : Nat) {body : ByteArray} {id given : Option Json}
    {method : String} (found : Call.ofBody body = (id, Call.decode method given)) :
    s.handle now body =
      (.ofAnswer id (s.dispatch now method given).1, (s.dispatch now method given).2) := by
  rw [dispatch]
  cases decoded : Call.decode method given with
  | error error =>
    rw [decoded] at found
    exact handle_of_error s now found
  | ok call =>
    rw [decoded] at found
    exact handle_of_call s now found

/-! ## Jobs -/

section

variable (isOpen : s.isOpen = true)
include isOpen

theorem call_ok {job : Action α} {a : α} {w : Workspace} (done : job s.workspace = .ok a w) :
    s.call job = (.ok a, { s with workspace := w }) := by
  rw [call, Action.through, if_pos isOpen, Action.contained, done]

theorem answerBy_ok {job : Action α} {a : α} {w : Workspace} (done : job s.workspace = .ok a w)
    (encode : α → Json) : s.answerBy job encode = (.ok (encode a), { s with workspace := w }) := by
  rw [answerBy, call_ok isOpen done]

theorem answerBy_error {job : Action α} {stop : Stop} {w : Workspace}
    (failed : job s.workspace = .error stop w) (encode : α → Json) :
    s.answerBy job encode = (.error (.host (.ofStop stop)), { s with workspace := w }) := by
  rw [answerBy, call, Action.through, if_pos isOpen, Action.contained, failed]

end

theorem answerBy_closed (closed : s.isOpen = false) (job : Action α) (encode : α → Json) :
    s.answerBy job encode = (.error (.host .loopClosed), s) := by
  rw [answerBy, call, Action.through, if_neg (by simp [closed])]

/-! ## Navigation -/

section

variable (isOpen : s.isOpen = true) (sound : s.workspace.host.Faultless) (now : Nat)
include isOpen

theorem answer_getHash (identifies : s.workspace.host.Identifies) :
    s.answer now .getHash = (.ok (.string (ContentHash.key s.workspace.host.image.hash)), s) :=
  answerBy_ok isOpen (identifies _ rfl) _

include sound

/-- A session is led to where it is sent, whether or not there is such a place. -/
theorem answer_jumpto (offset : Address) :
    (s.answer now (.jumpto ⟨offset⟩)).2 =
      { s with workspace := { s.workspace with host := s.workspace.host.led offset } } := by
  have jump := Action.jumpToOffset_faultless sound offset
  rw [Host.led, Host.attempted, answer]
  split at jump
  · rename_i inside
    rw [if_pos inside, answerBy_ok isOpen jump]
  · rename_i outside
    rw [if_neg outside, answerBy_error isOpen jump]

end

/-! ## Views -/

/-- The session has opened a view after others, has no more tasks to run, and can do what the user of
the view asks for. -/
structure Viewing (s : Session) (before : List MatchView) (view : MatchView) : Prop where
  isOpen : s.isOpen = true
  sound : s.workspace.host.Faultless
  accepts : s.workspace.outbox.isOpen = true
  detached : s.detached = []
  views : s.views = ⟨before ++ [view]⟩

/-- The gesture that a call is, if it is one on the view with this id, which was opened last. -/
def gesture? (id : Nat) : Call → Option Gesture
  | .viewRows p =>
    if p.view = none ∨ p.view = some id then some (.look p.sort p.descending) else none
  | .activateRow p => if p.view = none ∨ p.view = some id then some (.activate p.row) else none
  | _ => none

variable {before : List MatchView} {view : MatchView}

theorem Viewing.resolveView (viewing : s.Viewing before view) {id : Option Nat}
    (last : id = none ∨ id = some before.length) : s.resolveView id = .ok (before.length, view) := by
  rcases last with rfl | rfl <;>
    simp [Session.resolveView, viewing.views, Views.latest?, Views.get?]

theorem Viewing.viewRows (viewing : s.Viewing before view) {p : Rpc.ViewRowsParams}
    (last : p.view = none ∨ p.view = some before.length) :
    (s.viewRows p).2 = { s with views := ⟨before ++ [view.after (.look p.sort p.descending)]⟩ } := by
  rw [Session.viewRows, viewing.resolveView last]
  cases p.sort with
  | none => rw [MatchView.after, ← viewing.views]
  | some column => simp [MatchView.after, viewing.views, Views.sort, Views.get?]

/-- Activating a row leaves a command for the peer in the outbox, if a match is displayed there. -/
theorem Viewing.activateRow (viewing : s.Viewing before view)
    (faithful : view.Faithful) {peer : String} (known : view.peer = some peer)
    {p : Rpc.ActivateRowParams} (last : p.view = none ∨ p.view = some before.length) :
    ∃ w, (s.activateRow p).2 = { s with workspace := w } ∧ w.host.Faultless ∧
      w.files = s.workspace.files ∧ w.outbox.isOpen = true ∧
      w.outbox.waiting = s.workspace.outbox.waiting ++
        (view.activated? (.activate p.row)).toList.map fun m =>
          .jumpto peer (m.address.on view.role.peer) := by
  rw [Session.activateRow, viewing.resolveView last]
  cases shown : view.rows[p.row]? with
  | none =>
    refine ⟨s.workspace, ?_, viewing.sound, rfl, viewing.accepts, ?_⟩
    · simp only [answerBy_error viewing.isOpen (MatchView.activate_none shown)]
    · simp [MatchView.activated?, shown]
  | some row =>
    -- the row carries the address that is sent; that it is the match's own is why views are faithful
    obtain ⟨m, entry, address⟩ := faithful row (List.mem_of_getElem? shown)
    obtain ⟨w, done, alike⟩ :=
      MatchView.activate_some viewing.sound known viewing.accepts shown
    refine ⟨w, ?_, alike.faultless viewing.sound, alike.files, ?_, ?_⟩
    · simp only [answerBy_ok viewing.isOpen done]
    · rw [alike.outbox]
      exact viewing.accepts
    · rw [alike.outbox]
      simp [MatchView.enqueued, MatchView.activated?, shown, entry, address]

/-- A gesture changes the view as it should, and leaves a command for the peer if it activates a
match. -/
theorem answer_gesture (viewing : s.Viewing before view) (faithful : view.Faithful)
    {peer : String} (known : view.peer = some peer) (now : Nat) {call : Call} {gesture : Gesture}
    (means : gesture? before.length call = some gesture) :
    (s.answer now call).2.Viewing before (view.after gesture) ∧
      (s.answer now call).2.workspace.files = s.workspace.files ∧
      (s.answer now call).2.workspace.outbox.waiting = s.workspace.outbox.waiting ++
        (view.activated? gesture).toList.map fun m => .jumpto peer (m.address.on view.role.peer) := by
  cases call with
  | viewRows p =>
    obtain ⟨last, same⟩ := Option.ite_none_right_eq_some.1 means
    cases same
    rw [answer, viewing.viewRows last]
    refine ⟨⟨viewing.isOpen, viewing.sound, viewing.accepts, viewing.detached, rfl⟩, rfl, ?_⟩
    simp [MatchView.activated?]
  | activateRow p =>
    obtain ⟨last, same⟩ := Option.ite_none_right_eq_some.1 means
    cases same
    obtain ⟨w, done, sound, files, accepts, waiting⟩ := viewing.activateRow faithful known last
    rw [answer, done]
    exact ⟨⟨viewing.isOpen, sound, accepts, viewing.detached, viewing.views⟩, files, waiting⟩
  | _ => cases means

/-! ## Opening a view -/

theorem loadDiff_of_read {path : String} {bytes : ByteArray} {document : MatchDocument}
    (reads : s.workspace.files.read path = .ok bytes)
    (parsed : MatchDocument.ofBytes bytes = .ok document) : s.loadDiff path = .ok document := by
  rw [loadDiff, reads]
  simp only [parsed]

theorem isOf_iff {document : MatchDocument} {hash : String} {role : Role} :
    document.isOf hash role = true ↔
      (document.hash.on role).map ContentHash.key = some (ContentHash.key hash) := by
  rw [MatchDocument.isOf]
  cases document.hash.on role with
  | none => simp
  | some known => simp [ContentHash.agree]

/-- A session that a document names on one side, with another on the other side, knows both. -/
theorem standpoint_of_isOf {document : MatchDocument} {role : Role} {hash other : String}
    (mine : document.isOf hash role = true) (theirs : document.isOf other role.peer = true)
    (apart : ContentHash.key hash ≠ ContentHash.key other) :
    standpoint (ContentHash.key hash) document = (role, some (ContentHash.key other)) := by
  have mine' : document.isOf (ContentHash.key hash) role = true := by
    rw [isOf_iff, ContentHash.key_key]
    exact isOf_iff.1 mine
  -- the source side is tried first, so for the target side the other one has to be ruled out
  have notTheirs : document.isOf (ContentHash.key hash) role.peer = false := by
    rw [← Bool.not_eq_true, isOf_iff, ContentHash.key_key, isOf_iff.1 theirs]
    simpa using apart.symm
  have found : document.roleOf? (ContentHash.key hash) = some role := by
    cases role with
    | source => simp [MatchDocument.roleOf?, mine']
    | target =>
      rw [Role.peer] at notTheirs
      simp [MatchDocument.roleOf?, mine', notTheirs]
  simp [standpoint, found, isOf_iff.1 theirs]

theorem openView_of_ok {w colored : Workspace} {document : MatchDocument} {role : Role}
    {peer : Option String} {view : MatchView} {count : Nat}
    (builds : MatchView.build document role peer .standard w = .ok view w)
    (colors : view.applyColors w = .ok count colored) (sound : colored.host.Faultless) :
    openView document role peer w = .ok view
      { colored with host := colored.host.shown ⟨Row.title, Row.headers, view.rows⟩ } := by
  rw [openView, bind_of_ok builds, bind_of_ok (discard_of_ok colors),
    bind_of_ok (MatchView.present_faultless sound view)]
  rfl

theorem openView_faultless {w : Workspace} (sound : w.host.Faultless) (document : MatchDocument)
    (role : Role) (peer : Option String) :
    ∃ w', openView document role peer w =
      .ok (MatchView.ofDocument w.host.image document role peer) w' ∧ w.Alike w' := by
  have builds := MatchView.build_faultless sound document role peer
  obtain ⟨_, colored, colors, repainted⟩ := MatchView.paints_colorMatches sound
    (MatchView.ofDocument w.host.image document role peer) document.functions 0
  exact ⟨_, openView_of_ok builds colors (repainted.faultless sound),
    repainted.alike.trans ⟨rfl, rfl, rfl, rfl⟩⟩

theorem openDiff_of_ok (isOpen : s.isOpen = true) {path : String} {document : MatchDocument}
    (loaded : s.loadDiff path = .ok document) {role : Role} {peer : Option String}
    (stands : standpoint s.identity.hash document = (role, peer)) {view : MatchView} {w : Workspace}
    (opened : openView document role peer s.workspace = .ok view w) :
    s.openDiff path =
      (.ok (.object [("view", .nat s.views.all.length), ("role", .string role.text),
        ("rows", .nat view.rows.length)]),
      { s with workspace := w, views := ⟨s.views.all ++ [view]⟩ }) := by
  rw [openDiff, loaded]
  simp only [stands, call_ok isOpen opened]
  rfl

theorem openDiff_faultless (isOpen : s.isOpen = true) (sound : s.workspace.host.Faultless)
    {path : String} {document : MatchDocument} (loaded : s.loadDiff path = .ok document) {role : Role}
    {peer : Option String} (stands : standpoint s.identity.hash document = (role, peer)) :
    ∃ result w, s.openDiff path = (.ok result, { s with
        workspace := w
        views := ⟨s.views.all ++ [.ofDocument s.workspace.host.image document role peer]⟩ }) ∧
      s.workspace.Alike w := by
  obtain ⟨w, opened, alike⟩ := openView_faultless sound document role peer
  exact ⟨_, w, openDiff_of_ok isOpen loaded stands opened, alike⟩

/-- A view that a session opens shows the document as the session's side sees it. -/
theorem settle_showingDiff (isOpen : s.isOpen = true) (sound : s.workspace.host.Faultless)
    (accepts : s.workspace.outbox.isOpen = true) {id path : String}
    (detached : s.detached = [.showingDiff id path]) {document : MatchDocument}
    (loaded : s.loadDiff path = .ok document) {role : Role} {peer : Option String}
    (stands : standpoint s.identity.hash document = (role, peer)) :
    s.settle.Viewing s.views.all (.ofDocument s.workspace.host.image document role peer) ∧
      s.settle.workspace.files = s.workspace.files ∧
      s.settle.workspace.outbox = s.workspace.outbox := by
  obtain ⟨result, w, opened, alike⟩ :=
    openDiff_faultless (s := { s with detached := [] }) isOpen sound loaded stands
  rw [settle, detached, List.foldl_cons, List.foldl_nil, conclude, opened]
  refine ⟨⟨isOpen, alike.faultless sound, ?_, rfl, rfl⟩, alike.files, alike.outbox⟩
  rw [alike.outbox]
  exact accepts

end Session

end Tandem
