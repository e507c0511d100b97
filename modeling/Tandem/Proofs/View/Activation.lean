import Tandem.Proofs.Host.Changes
import Tandem.View.Basic

/-! # Rows and their activation

On a host without faults a view can always be built and every row of it activated. The rows point
back to the document by their indexes, and sorting moves them around without changing them, so what
is activated at a position is the match that is displayed there. -/

namespace Tandem.MatchView

open Tandem.Action

variable {w w' : Workspace}

/-! ## Building -/

/-- The row of a match as a host without faults has it. -/
def rowIn (image : Image) (role : Role) (base : Address) (m : FunctionMatch) (index : Nat) : Row :=
  rowOf role (base.plus (m.address.on role)) (image.shortName? (base.plus (m.address.on role))) index m

theorem rowsFrom_faultless (sound : w.host.Faultless) (role : Role) (base : Address) (index : Nat)
    (ms : List FunctionMatch) :
    rowsFrom role base index ms w =
      .ok ((ms.zipIdx index).map fun (m, i) => rowIn w.host.image role base m i) w := by
  induction ms generalizing index with
  | nil => rfl
  | cons m ms ih =>
    rw [rowsFrom, bind_of_ok (shortName?_faultless sound _), bind_of_ok (ih (index + 1))]
    rfl

/-- A document as one side sees it over an image: a row for every match, in the document's order. -/
def ofDocument (image : Image) (document : MatchDocument) (role : Role) (peer : Option String) :
    MatchView :=
  ⟨document, role, peer, .standard,
    document.functions.zipIdx.map fun (m, i) => rowIn image role image.base m i⟩

theorem build_faultless (sound : w.host.Faultless) (document : MatchDocument) (role : Role)
    (peer : Option String) :
    build document role peer .standard w = .ok (ofDocument w.host.image document role peer) w := by
  rw [build, bind_of_ok (imageBase_faultless sound), bind_of_ok (rowsFrom_faultless sound _ _ _ _)]
  rfl

/-- Rows that a host lets be made are those that a host without faults has. -/
theorem rowsFrom_of_ok {role : Role} {base : Address} {index : Nat} {ms : List FunctionMatch}
    {rows : List Row} (done : rowsFrom role base index ms w = .ok rows w') :
    rows = (ms.zipIdx index).map (fun (m, i) => rowIn w.host.image role base m i) ∧ w' = w := by
  induction ms generalizing index rows w' with
  | nil =>
    cases done
    exact ⟨rfl, rfl⟩
  | cons m ms ih =>
    obtain ⟨name, _, named, done⟩ := of_bind_ok done
    obtain ⟨rfl, rfl⟩ := shortName?_of_ok named
    obtain ⟨rest, _, later, done⟩ := of_bind_ok done
    obtain ⟨rfl, rfl⟩ := ih later
    cases done
    exact ⟨rfl, rfl⟩

theorem build_of_ok {document : MatchDocument} {role : Role} {peer : Option String}
    {palette : Palette} {view : MatchView} (done : build document role peer palette w = .ok view w') :
    view = ⟨document, role, peer, palette, (ofDocument w.host.image document role peer).rows⟩ ∧
      w' = w := by
  obtain ⟨base, _, based, done⟩ := of_bind_ok done
  obtain ⟨rfl, rfl⟩ := imageBase_of_ok based
  obtain ⟨rows, _, made, done⟩ := of_bind_ok done
  obtain ⟨rfl, rfl⟩ := rowsFrom_of_ok made
  cases done
  exact ⟨rfl, rfl⟩

theorem getElem?_ofDocument (image : Image) (document : MatchDocument) (role : Role)
    (peer : Option String) (i : Nat) :
    (ofDocument image document role peer).rows[i]? =
      (document.functions[i]?).map (rowIn image role image.base · i) := by
  simp [ofDocument, List.getElem?_zipIdx, Function.comp_def]

theorem map_index_ofDocument (image : Image) (document : MatchDocument) (role : Role)
    (peer : Option String) :
    (ofDocument image document role peer).rows.map Row.index =
      List.range document.functions.length := by
  have indexes : (document.functions.zipIdx.map Prod.snd) = List.range document.functions.length := by
    rw [List.zipIdx_map_snd, List.range_eq_range']
  rw [← indexes, ofDocument, List.map_map]
  rfl

/-! ## Coloring -/

theorem paints_colorBlocks (sound : w.host.Faultless) (color : Color) (blocks : List Block)
    (count : Nat) : (colorBlocks color blocks count).Paints w := by
  induction blocks generalizing w count with
  | nil => exact paints_of_ok rfl (.refl w)
  | cons b blocks ih =>
    refine (paints_colorRange sound b.start b.stop color).bind fun n w' repainted => ?_
    exact ih (repainted.faultless sound) (count + n)

theorem paints_colorMatch (sound : w.host.Faultless) (view : MatchView) (m : FunctionMatch) :
    (view.colorMatch m).Paints w := by
  refine (paints_colorBlocks sound _ _ _).bind fun count w' repainted => ?_
  exact paints_colorBlocks (repainted.faultless sound) _ _ _

theorem paints_colorMatches (sound : w.host.Faultless) (view : MatchView) (ms : List FunctionMatch)
    (count : Nat) : (view.colorMatches ms count).Paints w := by
  induction ms generalizing w count with
  | nil => exact paints_of_ok rfl (.refl w)
  | cons m ms ih =>
    refine (paints_colorMatch sound view m).bind fun n w' repainted => ?_
    exact ih (repainted.faultless sound) (count + n)

theorem present_faultless (sound : w.host.Faultless) (view : MatchView) :
    view.present w =
      .ok () { w with host := w.host.shown ⟨Row.title, Row.headers, view.rows⟩ } :=
  showTable_faultless sound _

/-! ## Rows -/

/-- A row shows a match of a document: the one at its index. -/
def Shows (document : MatchDocument) (role : Role) (row : Row) (m : FunctionMatch) : Prop :=
  document.functions[row.index]? = some m ∧ row.peerAddress = m.address.on role.peer

/-- Every row of the view shows a match of its document. -/
def Faithful (view : MatchView) : Prop :=
  ∀ row ∈ view.rows, ∃ m, Shows view.document view.role row m

theorem faithful_ofDocument (image : Image) (document : MatchDocument) (role : Role)
    (peer : Option String) : (ofDocument image document role peer).Faithful := by
  intro row member
  obtain ⟨⟨m, i⟩, indexed, rfl⟩ := List.mem_map.1 member
  exact ⟨m, List.mem_zipIdx_iff_getElem?.1 indexed, rfl⟩

theorem Faithful.sort {view : MatchView} (faithful : view.Faithful) (column : SortColumn)
    (descending : Bool) : (view.sort column descending).Faithful := by
  intro row member
  exact faithful row (List.mem_mergeSort.1 member)

/-! ## Activation -/

theorem tryJump_returns (returns : w.host.Returns .jumpTo) (a : Address) :
    tryJump a w = .ok () ((jumpTo a).outcome w) := by
  obtain made | ⟨error, rejected⟩ := jumpTo_cases returns a
  · rw [outcome_of_ok made]
    exact tryCatch_of_ok made
  · rw [outcome_of_error rejected]
    exact tryCatch_of_error rejected

theorem outcome_jumpTo_faultless (sound : w.host.Faultless) (a : Address) :
    (jumpTo a).outcome w = { w with host := w.host.attempted a } := by
  have jump := jumpTo_faultless sound a
  rw [Host.attempted]
  split at jump
  · rename_i inside
    rw [if_pos inside, outcome_of_ok jump]
  · rename_i outside
    rw [if_neg outside, outcome_of_error jump]

theorem tryJump_faultless (sound : w.host.Faultless) (a : Address) :
    tryJump a w = .ok () { w with host := w.host.attempted a } := by
  rw [tryJump_returns (sound.returns _), outcome_jumpTo_faultless sound]

theorem activate_none {view : MatchView} {position : Nat} (absent : view.rows[position]? = none) :
    view.activate position w =
      .error (.error (.notFound ("row " ++ Text.decimal position))) w := by
  rw [activate, absent]
  rfl

/-- The command that activating a row sends to the peer, if the peer is known and the outbox open. -/
def command? (view : MatchView) (outbox : Outbox) (row : Row) : Option SyncCommand :=
  if outbox.isOpen then view.peer.map fun peer => .jumpto peer row.peerAddress else none

/-- A workspace after a row was activated, but for colors: the host has tried to jump, and the
command for the peer waits. -/
def followed (view : MatchView) (row : Row) (w : Workspace) : Workspace :=
  { w with
    host := w.host.attempted row.ownAddress
    outbox := { w.outbox with waiting := w.outbox.waiting ++ (view.command? w.outbox row).toList } }

theorem askPeer_eq (view : MatchView) (row : Row) (w : Workspace) :
    view.askPeer row w = .ok (view.command? w.outbox row) { w with
      outbox := { w.outbox with
        waiting := w.outbox.waiting ++ (view.command? w.outbox row).toList } } := by
  obtain ⟨host, files, ⟨waiting, isOpen⟩⟩ := w
  rw [askPeer]
  cases known : view.peer with
  | none => simp [command?, known]; rfl
  | some peer => cases isOpen <;> simp [command?, known] <;> rfl

/-- Activating a row always ends well. -/
theorem activate_faultless (sound : w.host.Faultless) {view : MatchView} {position : Nat} {row : Row}
    (shown : view.rows[position]? = some row) :
    ∃ w', view.activate position w = .ok (view.command? w.outbox row) w' ∧
      (view.followed row w).Repainted w' := by
  -- a jump, the command for the peer, and colors: only the last may touch the marks
  have jump := tryJump_faultless sound row.ownAddress
  have asked := view.askPeer_eq row { w with host := w.host.attempted row.ownAddress }
  have sound' : (view.followed row w).host.Faultless := sound.attempted row.ownAddress
  rw [activate, shown]
  simp only
  rw [bind_of_ok jump, bind_of_ok asked]
  cases view.document.functions[row.index]? with
  | none => exact ⟨_, rfl, .refl _⟩
  | some m =>
    obtain ⟨_, colored, done, repainted⟩ := paints_colorMatch sound' view m
    exact ⟨colored, bind_of_ok (discard_of_ok done), repainted⟩

/-- A workspace with one more command in its outbox. -/
def enqueued (w : Workspace) (command : SyncCommand) : Workspace :=
  { w with outbox := { w.outbox with waiting := w.outbox.waiting ++ [command] } }

/-- Activating a row puts one command for the peer into the outbox. -/
theorem activate_some (sound : w.host.Faultless) {view : MatchView} {peer : String}
    (known : view.peer = some peer) (isOpen : w.outbox.isOpen = true) {position : Nat} {row : Row}
    (shown : view.rows[position]? = some row) :
    ∃ w', view.activate position w = .ok (some (.jumpto peer row.peerAddress)) w' ∧
      (enqueued w (.jumpto peer row.peerAddress)).Alike w' := by
  have asked : view.command? w.outbox row = some (.jumpto peer row.peerAddress) := by
    simp [command?, isOpen, known]
  obtain ⟨w', done, repainted⟩ := activate_faultless sound shown
  rw [asked] at done
  refine ⟨w', done, ?_⟩
  have queued : (enqueued w (.jumpto peer row.peerAddress)).Alike (view.followed row w) :=
    ⟨w.host.attempted_image _, w.host.attempted_faults _, rfl, by simp [followed, enqueued, asked]⟩
  exact queued.trans repainted.alike

/-! ## Gestures -/

/-- What the user of a view does with it. -/
inductive Gesture where
  /-- Looks at the rows, sorted first if need be. -/
  | look (sort : Option SortColumn) (descending : Bool)
  | activate (position : Nat)
  deriving DecidableEq, Repr

/-- The view after a gesture. -/
def after (view : MatchView) : Gesture → MatchView
  | .look (some column) descending => view.sort column descending
  | .look none _ | .activate _ => view

/-- The match that a gesture activates: the one displayed at the position, if there is one. -/
def activated? (view : MatchView) : Gesture → Option FunctionMatch
  | .look .. => none
  | .activate position => do
    let row ← view.rows[position]?
    view.document.functions[row.index]?

/-- The matches that gestures activate one after the other. -/
def activated (view : MatchView) : List Gesture → List FunctionMatch
  | [] => []
  | gesture :: rest => (view.activated? gesture).toList ++ (view.after gesture).activated rest

theorem Faithful.after {view : MatchView} (faithful : view.Faithful) (gesture : Gesture) :
    (view.after gesture).Faithful := by
  cases gesture with
  | activate position => exact faithful
  | look sort descending =>
    cases sort with
    | none => exact faithful
    | some column => exact faithful.sort column descending

@[simp] theorem after_role (view : MatchView) (gesture : Gesture) :
    (view.after gesture).role = view.role := by
  fun_cases after view gesture <;> rfl

@[simp] theorem after_peer (view : MatchView) (gesture : Gesture) :
    (view.after gesture).peer = view.peer := by
  fun_cases after view gesture <;> rfl

/-- The offsets that gestures send to the other side. -/
def sent (view : MatchView) (gestures : List Gesture) : List Address :=
  (view.activated gestures).map (·.address.on view.role.peer)

theorem sent_append (view : MatchView) (first second : List Gesture) :
    view.sent (first ++ second) = view.sent first ++ (first.foldl after view).sent second := by
  induction first generalizing view with
  | nil => simp [sent, activated]
  | cons gesture first ih =>
    have rest := ih (view.after gesture)
    simp only [sent, after_role] at rest
    simp [sent, activated, rest]

/-! ## Changes

Faults or not, work on behalf of a view makes proper changes only. -/

theorem proper_rowsFrom (role : Role) (base : Address) (index : Nat) (ms : List FunctionMatch) :
    (rowsFrom role base index ms).Proper w := by
  induction ms generalizing w index with
  | nil => exact proper_pure _
  | cons m ms ih =>
    exact (proper_shortName? _).bind fun _ _ _ => (ih (index + 1)).bind fun _ _ _ => proper_pure _

theorem proper_build (document : MatchDocument) (role : Role) (peer : Option String)
    (palette : Palette) : (build document role peer palette).Proper w :=
  proper_imageBase.bind fun _ _ _ => (proper_rowsFrom _ _ _ _).bind fun _ _ _ => proper_pure _

theorem proper_colorBlocks (color : Color) (blocks : List Block) (count : Nat) :
    (colorBlocks color blocks count).Proper w := by
  induction blocks generalizing w count with
  | nil => exact proper_pure _
  | cons b blocks ih => exact (proper_colorRange _ _ _).bind fun n _ _ => ih (count + n)

theorem proper_colorMatch (view : MatchView) (m : FunctionMatch) : (view.colorMatch m).Proper w :=
  (proper_colorBlocks _ _ _).bind fun _ _ _ => proper_colorBlocks _ _ _

theorem proper_colorMatches (view : MatchView) (ms : List FunctionMatch) (count : Nat) :
    (view.colorMatches ms count).Proper w := by
  induction ms generalizing w count with
  | nil => exact proper_pure _
  | cons m ms ih => exact (proper_colorMatch view m).bind fun n _ _ => ih (count + n)

theorem proper_tryJump (a : Address) : (tryJump a).Proper w := by
  refine (proper_jumpTo a).tryCatch fun stop w' => ?_
  cases stop with
  | error error => exact proper_pure _
  | panic text => exact .refl w'

theorem proper_askPeer (view : MatchView) (row : Row) : (view.askPeer row).Proper w := by
  rw [askPeer]
  split
  · exact proper_pure _
  · exact (proper_enqueue _).bind fun _ _ _ => proper_pure _

theorem proper_activate (view : MatchView) (position : Nat) : (view.activate position).Proper w := by
  rw [activate]
  split
  · exact proper_refuse _
  · refine (proper_tryJump _).bind fun _ _ _ => (proper_askPeer view _).bind fun _ _ _ => ?_
    split
    · exact (proper_colorMatch view _).discard.bind fun _ _ _ => proper_pure _
    · exact proper_pure _

end Tandem.MatchView
