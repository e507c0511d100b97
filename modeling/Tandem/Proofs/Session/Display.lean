import Mathlib.Data.List.Permutation
import Tandem.Proofs.Network.Calls
import Tandem.Proofs.Session.Run
import Tandem.Proofs.View.Registry

/-! # Rows as they are displayed

Positions of rows are shared by everyone who looks at a view, and sorting moves the rows for all of
them. Between two times that a view is sorted nothing else moves its rows: neither requests for other
views, nor views that are opened, nor rows that are activated. So who was shown the rows of a view can
activate them by their positions until someone sorts the view again.

* A view can be `MatchView.Rearranged`, and `Session.Step.get?` shows that no step of a session does
  more to it.
* `Session.Undisturbed` says that nobody sorts a view, and `Session.get?_play` that it then stays as it
  is displayed. -/

namespace Tandem

open Rpc (Call)

theorem Json.nat_inj {n n' : Nat} : Json.nat n = .nat n' ↔ n = n' := by
  simp only [Json.nat, Json.number.injEq, Json.Number.integer.injEq]
  exact Int.ofNat_inj

theorem Json.word_inj {n n' : UInt64} : Json.word n = .word n' ↔ n = n' :=
  Json.nat_inj.trans UInt64.toNat_inj

namespace Session

variable {s s' : Session} {m : Move} {id : Nat} {view : MatchView}

theorem get?_of_resolveView {asked : Option Nat} (resolves : s.resolveView asked = .ok (id, view)) :
    s.views.get? id = some view := by
  cases asked with
  | none =>
    rw [resolveView] at resolves
    split at resolves
    · rename_i last
      cases resolves
      exact Views.get?_of_latest? last
    · cases resolves
  | some asked =>
    rw [resolveView] at resolves
    split at resolves
    · rename_i found
      cases resolves
      exact found
    · cases resolves

theorem resolveView_some (there : s.views.get? id = some view) :
    s.resolveView (some id) = .ok (id, view) := by
  rw [resolveView, there]

/-! ## Moves that sort a view -/

/-- The move sorts the view with an id: it asks for the rows by a column, and names that view or names
none while that view is the one opened last. -/
def Sorts (s : Session) (m : Move) (id : Nat) : Prop :=
  ∃ p view, m.call? = some (.viewRows p) ∧ p.sort.isSome = true ∧
    s.resolveView p.view = .ok (id, view)

/-- None of the moves sorts the view with an id. -/
def Undisturbed (id : Nat) : Session → List Move → Prop
  | _, [] => True
  | s, m :: moves => ¬ s.Sorts m id ∧ Undisturbed id (s.move m) moves

/-- A view stays open under its id. Its rows stay where they are unless the move sorts it. -/
theorem Step.get? (step : s.Step m s') (there : s.views.get? id = some view) :
    ∃ view', s'.views.get? id = some view' ∧ view.Rearranged view' ∧
      (¬ s.Sorts m id → view' = view) := by
  cases step with
  | kept idle keeps => exact ⟨view, by rw [keeps.views, there], .refl view, fun _ => rfl⟩
  | started starts => exact ⟨view, there, .refl view, fun _ => rfl⟩
  | @sorted _ p sorted found column idle asks resolves sorts =>
    by_cases same : sorted = id
    · subst same
      have isSort : s.Sorts m sorted := ⟨p, found, asks, by rw [sorts]; rfl, resolves⟩
      exact ⟨_, Views.get?_sort_self there column p.descending, .sort view column p.descending,
        fun quiet => absurd isSort quiet⟩
    · exact ⟨view, (Views.get?_sort_other same column p.descending).trans there, .refl view,
        fun _ => rfl⟩
  | finished position concludes =>
    cases concludes with
    | failed message becomes => exact ⟨view, there, .refl view, fun _ => rfl⟩
    | exported becomes => exact ⟨view, there, .refl view, fun _ => rfl⟩
    | opened role new becomes =>
      exact ⟨view, Views.get?_append there [new], .refl view, fun _ => rfl⟩

/-- Views are never closed, and ids never come to mean another view. -/
theorem rearranged_play (there : s.views.get? id = some view) (moves : List Move) :
    ∃ view', (s.play moves).views.get? id = some view' ∧ view.Rearranged view' := by
  induction moves generalizing s view with
  | nil => exact ⟨view, there, .refl view⟩
  | cons m moves ih =>
    obtain ⟨between, there', first, -⟩ := (move_step s m).get? there
    obtain ⟨view', there'', second⟩ := ih there'
    exact ⟨view', there'', first.trans second⟩

/-- A view that nobody sorts stays as it is. -/
theorem get?_play {moves : List Move} (quiet : Undisturbed id s moves)
    (there : s.views.get? id = some view) : (s.play moves).views.get? id = some view := by
  induction moves generalizing s with
  | nil => exact there
  | cons m moves ih =>
    obtain ⟨view', there', -, same⟩ := (move_step s m).get? there
    rw [same quiet.1] at there'
    exact ih quiet.2 there'

/-! ## Answers that display rows -/

/-- An answer displays rows of a view, and names the view and the session on its other side. -/
structure Displays (answer : Json) (id : Nat) (peer : Option String) (rows : List Json) : Prop where
  view : answer.field? "view" = some (.nat id)
  peer : answer.field? "peer" = some (Json.orNull .string peer)
  rows : answer.field? "rows" = some (.array rows)

/-- What is displayed are the rows of a view that is open. -/
theorem shown_of_viewRows {p : Rpc.ViewRowsParams} {answer : Json}
    (answered : (s.viewRows p).1 = .ok answer) :
    ∃ id view, answer = viewToJson id view ∧ (s.viewRows p).2.views.get? id = some view := by
  rw [viewRows] at answered ⊢
  cases resolves : s.resolveView p.view with
  | error error =>
    rw [resolves] at answered
    cases answered
  | ok found =>
    have there := get?_of_resolveView resolves
    rw [resolves] at answered
    cases sorts : p.sort with
    | none =>
      rw [sorts] at answered
      cases answered
      exact ⟨found.1, found.2, rfl, there⟩
    | some column =>
      rw [sorts] at answered
      cases answered
      exact ⟨found.1, _, rfl, Views.get?_sort_self there column p.descending⟩

theorem displays_viewToJson {shown : Nat} {peer : Option String} {rows : List Json}
    (displays : Displays (viewToJson shown view) id peer rows) :
    shown = id ∧ view.peer = peer ∧ view.rows.map Row.toJsonWithCells = rows := by
  have sameId : some (Json.nat shown) = some (.nat id) := displays.view
  have samePeer : some (Json.orNull .string view.peer) = some (Json.orNull .string peer) :=
    displays.peer
  have sameRows : some (Json.array (view.rows.map Row.toJsonWithCells)) = some (.array rows) :=
    displays.rows
  refine ⟨Json.nat_inj.1 (Option.some.inj sameId), ?_, by simpa using sameRows⟩
  cases known : view.peer <;> cases peer <;> simp_all [Json.orNull]

/-- Right after rows were displayed, they are the rows of the view. -/
theorem displayed {now : Nat} {body : ByteArray} {request : Option Json} {p : Rpc.ViewRowsParams}
    (looks : Call.ofBody body = (request, .ok (.viewRows p))) {answer : Json}
    (answered : (s.handle now body).1 = .success request answer) {peer : Option String}
    {rows : List Json} (displays : Displays answer id peer rows) :
    ∃ view, (s.move (.request now body)).views.get? id = some view ∧ view.peer = peer ∧
      view.rows.map Row.toJsonWithCells = rows := by
  have success : (s.viewRows p).1 = .ok answer := by
    rw [handle_of_call s now looks, Session.answer] at answered
    cases outcome : (s.viewRows p).1 with
    | ok shown =>
      rw [outcome] at answered
      cases answered
      rfl
    | error error =>
      rw [outcome] at answered
      cases answered
  obtain ⟨shown, view, rfl, there⟩ := shown_of_viewRows success
  obtain ⟨rfl, samePeer, sameRows⟩ := displays_viewToJson displays
  refine ⟨view, ?_, samePeer, sameRows⟩
  rw [move_of_call s now looks]
  exact there

/-! ## Activating what is displayed -/

/-- The command for an address on the other side, if the peer is known and the outbox open. -/
def commandFor (s : Session) (peer : Option String) (there : Address) : Option SyncCommand :=
  if s.workspace.outbox.isOpen then peer.map fun hash => .jumpto hash there else none

theorem commandFor_null {peer : Option String} {there : Address} :
    Json.orNull SyncCommand.toJson (s.commandFor peer there) = .null ↔
      peer = none ∨ s.workspace.outbox.isOpen = false := by
  rw [commandFor]
  cases s.workspace.outbox.isOpen <;> cases peer <;> simp [Json.orNull, SyncCommand.toJson]

/-- A request that activates a row: the session tries to go to an address of its own and puts the
command for the other side into its outbox. The answer tells the command. Besides these only colors
change. -/
def Activates (s : Session) (own : Address) (command : Option SyncCommand) (request : Option Json)
    (result : Rpc.Response × Session) : Prop :=
  ∃ w, result = (.success request (.object [("synced", Json.orNull SyncCommand.toJson command)]),
      { s with workspace := w }) ∧
    Workspace.Repainted
      { s.workspace with
        host := s.workspace.host.attempted own
        outbox := { s.workspace.outbox with
          waiting := s.workspace.outbox.waiting ++ command.toList } } w

section

variable (isOpen : s.isOpen = true) (there : s.views.get? id = some view) (now : Nat)
  {body : ByteArray} {request : Option Json} {position : Nat}
  (asks : Call.ofBody body = (request, .ok (.activateRow ⟨some id, position⟩)))
include isOpen there asks

theorem handle_activateRow (sound : s.workspace.host.Faultless) {row : Row}
    (shown : view.rows[position]? = some row) :
    s.Activates row.ownAddress (s.commandFor view.peer row.peerAddress) request
      (s.handle now body) := by
  obtain ⟨w, done, repainted⟩ := MatchView.activate_faultless sound shown
  refine ⟨w, ?_, repainted⟩
  rw [handle_of_call s now asks, answer, activateRow, resolveView_some there]
  simp only [answerBy_ok isOpen done, Rpc.Response.ofAnswer, MatchView.command?, commandFor]

theorem handle_activateRow_absent (absent : view.rows[position]? = none) :
    (s.handle now body).1.failure.isSome = true := by
  rw [handle_of_call s now asks, answer, activateRow, resolveView_some there]
  simp only [answerBy_error isOpen (MatchView.activate_none absent)]
  rfl

end

/-- Someone is shown the rows of a view. Until the view is sorted again, and as long as the main loop
runs, every position among these rows can be activated, and it leads where the displayed row points:
here to its own address, and on the other side to its address there. Positions behind the last row
are refused. The view itself stays open under its id forever. -/
theorem displayed_rows_are_activated {start : Session} (sound : start.workspace.host.Faultless)
    (earlier : List Move) {now : Nat} {body : ByteArray} {request : Option Json}
    {params : Rpc.ViewRowsParams} (looks : Call.ofBody body = (request, .ok (.viewRows params)))
    {answer : Json} (answered : ((start.play earlier).handle now body).1 = .success request answer)
    {id : Nat} {peer : Option String} {rows : List Json} (displays : Displays answer id peer rows)
    (later : List Move)
    (quiet : Undisturbed id ((start.play earlier).move (.request now body)) later) :
    (∀ s, s = ((start.play earlier).move (.request now body)).play later → s.isOpen = true →
      ∀ (now' : Nat) (body' : ByteArray) (request' : Option Json) (position : Nat),
        Call.ofBody body' = (request', .ok (.activateRow ⟨some id, position⟩)) →
        (∀ entry, rows[position]? = some entry → ∃ own there,
          entry.field? "self_address" = some (.word own) ∧
          entry.field? "peer_address" = some (.word there) ∧
          s.Activates own (s.commandFor peer there) request' (s.handle now' body') ∧
          (Json.orNull SyncCommand.toJson (s.commandFor peer there) = .null ↔
            peer = none ∨ s.workspace.outbox.isOpen = false)) ∧
        (rows.length ≤ position → (s.handle now' body').1.failure.isSome = true)) ∧
    ∀ (known : Nat) (view : MatchView), (start.play earlier).views.get? known = some view →
      ∀ more, ∃ view', ((start.play earlier).play more).views.get? known = some view' ∧
        view.Rearranged view' := by
  refine ⟨?_, fun known view there more => rearranged_play there more⟩
  rintro s rfl isOpen now' body' request' position asks
  have sound' := faultless_play (faultless_play sound earlier) (.request now body :: later)
  -- the answer comes from a view that is open right after it, and nobody sorts it from then on
  obtain ⟨view, there, rfl, rfl⟩ := displayed looks answered displays
  have there' := get?_play quiet there
  refine ⟨fun entry shown => ?_, fun behind => ?_⟩
  · rw [List.getElem?_map] at shown
    obtain ⟨row, shown', rfl⟩ := Option.map_eq_some_iff.1 shown
    exact ⟨row.ownAddress, row.peerAddress, rfl, rfl,
      handle_activateRow isOpen there' now' asks sound' shown', commandFor_null⟩
  · exact handle_activateRow_absent isOpen there' now' asks (by simpa using behind)

namespace Sample

/-- The document as it is first seen. -/
def opened : MatchView := .ofDocument Image.Sample.bare document .source (some "2c3d")

/-- The document as it is seen by the addresses on the other side. -/
def sorted : MatchView := opened.sort .peerAddress false

/-- A session that has opened the document twice. -/
def desk : Session := { idle with views := ⟨[opened, opened]⟩ }

/-- The request for the rows of a view by the addresses on the other side. -/
def looking (view : UInt64) : ByteArray :=
  (Client.request 1 "view_rows"
    (.object [("sort", .string "peer_address"), ("view", .word view)])).body

/-- The request to activate a row of a view. -/
def activating (row view : UInt64) : ByteArray :=
  (Client.request 2 "activate_row" (.object [("row", .word row), ("view", .word view)])).body

theorem ofBody_looking (view : UInt64) :
    Call.ofBody (looking view) =
      (some (.word 1), .ok (.viewRows ⟨some view.toNat, some .peerAddress, false⟩)) := by
  have sendable : Json.Sendable (.object [("sort", .string "peer_address"), ("view", .word view)]) :=
    ⟨⟨⟨trivial, Json.plain_word view, trivial⟩,
      by simp [Json.nesting, Json.nestingFields, Json.word, Json.nat, Json.depthLimit]⟩, rfl⟩
  rw [looking, Client.ofBody_request sendable, Call.decode,
    Call.params_object ((Record.named_cons rfl rfl rfl).trans
      ((Record.named_cons rfl rfl (Field.of_read (Decoder.optional_count_word _ view))).trans
        (Record.named_nil (by decide) rfl)))]
  rfl

theorem ofBody_activating (row view : UInt64) :
    Call.ofBody (activating row view) =
      (some (.word 2), .ok (.activateRow ⟨some view.toNat, row.toNat⟩)) := by
  rw [activating, Client.ofBody_request (Json.sendable_activation row view),
    Call.decode_activateRow]

theorem handle_looking :
    (desk.handle 0 (looking 0)).1 = .success (some (.word 1)) (viewToJson 0 sorted) := by
  rw [handle_of_call _ 0 (ofBody_looking 0)]
  rfl

/-- The second view is sorted as well. -/
def meanwhile : List Move := [.request 1 (looking 1)]

theorem undisturbed_meanwhile (s : Session) : Undisturbed 0 s meanwhile := by
  refine ⟨?_, trivial⟩
  rintro ⟨p, view, asks, -, resolves⟩
  cases (Move.call?_request 1 (ofBody_looking 1)).symm.trans asks
  rw [resolveView] at resolves
  split at resolves <;> cases resolves

theorem play_meanwhile : (desk.move (.request 0 (looking 0))).play meanwhile =
    { desk with views := ⟨[sorted, sorted]⟩ } := by
  rw [meanwhile, play_cons, play_nil, move_of_call _ 0 (ofBody_looking 0),
    move_of_call _ 1 (ofBody_looking 1)]
  rfl

/-- The row that sorting brings to the front. -/
def front : Row := ⟨1, "sub_1020", 0x1020, "sub_30", 0x30, 0, 0, 0⟩

theorem sorted_rows :
    sorted.rows = [front, ⟨0, "sub_1010", 0x1010, "sub_40", 0x40, 0, 0, 0⟩] := by
  cbv

end Sample

/-- The first view is displayed, the second is sorted, and the first row of the first view is
activated. There is no third row. -/
theorem activation_after_sorting_another :
    ∃ s w, s = (Sample.desk.move (.request 0 (Sample.looking 0))).play Sample.meanwhile ∧
      s.handle 2 (Sample.activating 0 0) =
        (.success (some (.word 2)) (.object [("synced", (SyncCommand.jumpto "2c3d" 0x30).toJson)]),
          { s with workspace := w }) ∧
      w.host.jumps = [0x1020] ∧
      (s.handle 2 (Sample.activating 2 0)).1.failure.isSome = true := by
  have displays : Displays (viewToJson 0 Sample.sorted) 0 (some "2c3d")
      (Sample.sorted.rows.map Row.toJsonWithCells) := ⟨rfl, rfl, rfl⟩
  have first : (Sample.sorted.rows.map Row.toJsonWithCells)[0]? =
      some Sample.front.toJsonWithCells := by
    rw [Sample.sorted_rows]
    rfl
  have behind : (Sample.sorted.rows.map Row.toJsonWithCells).length ≤ 2 := by
    rw [Sample.sorted_rows]
    exact Nat.le_refl 2
  have sound : Sample.desk.workspace.host.Faultless := fun _ => rfl
  obtain ⟨activated, -⟩ := displayed_rows_are_activated sound [] (Sample.ofBody_looking 0)
    Sample.handle_looking displays Sample.meanwhile (Sample.undisturbed_meanwhile _)
  have now := activated _ Sample.play_meanwhile.symm rfl 2
  obtain ⟨found, -⟩ := now _ _ 0 (Sample.ofBody_activating 0 0)
  obtain ⟨-, refused⟩ := now _ _ 2 (Sample.ofBody_activating 2 0)
  obtain ⟨own, there, ownIs, thereIs, ⟨w, handled, _, _, repainted⟩, -⟩ := found _ first
  have ownIs' : 0x1020 = own := Json.word_inj.1 (Option.some.inj ownIs)
  have thereIs' : 0x30 = there := Json.word_inj.1 (Option.some.inj thereIs)
  subst ownIs' thereIs'
  refine ⟨_, w, Sample.play_meanwhile.symm, handled, ?_, refused behind⟩
  rw [repainted]
  rfl

end Session

end Tandem
