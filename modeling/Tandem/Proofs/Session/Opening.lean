import Tandem.Proofs.Session.Tasks
import Tandem.Proofs.View.Recoloring

/-! # Opening a view

The body of a task that shows a document reads it, builds a view, colors the image, presents the rows
and registers the view. On a host without faults only the first of these can fail, and it comes before
all that changes the session. So a task fails because of its file or not at all, and then it leaves
nothing behind but its message.

Which side a session takes depends on its own hash and on the document alone. The source side is tried
first, and is the one that is taken when neither side is the session's. -/

namespace Tandem

/-! ## Documents in files -/

theorem MatchDocument.ofBytes_eq_ok_iff {bytes : ByteArray} {document : MatchDocument} :
    ofBytes bytes = .ok document ↔
      Decoder.ofText record.decode (Text.Symbol.ofBytes bytes) = .ok document ∧
        document.validate = .ok () := by
  rw [ofBytes]
  cases Decoder.ofText record.decode (Text.Symbol.ofBytes bytes) with
  | error error => simp
  | ok decoded =>
    simp only [Except.ok.injEq]
    constructor
    · intro parsed
      cases checked : decoded.validate with
      | error error => simp [checked, bind, Except.bind] at parsed
      | ok _ =>
        obtain rfl : decoded = document := by
          simpa [checked, bind, Except.bind, pure, Except.pure] using parsed
        exact ⟨rfl, checked⟩
    · rintro ⟨rfl, valid⟩
      rw [valid]
      rfl

namespace Files

/-- A file holds a document: it can be read, it decodes to the document, and the document is valid. -/
def Holds (files : Files) (path : String) (document : MatchDocument) : Prop :=
  ∃ bytes, files.read path = .ok bytes ∧
    Decoder.ofText MatchDocument.record.decode (Text.Symbol.ofBytes bytes) = .ok document ∧
    document.validate = .ok ()

/-- Why a file holds no document. -/
inductive Fails (files : Files) (path : String) : Session.DiffError → Prop
  | unreadable {error : FileError} (read : files.read path = .error error) :
      Fails files path (.unreadable path error)
  | malformed {bytes : ByteArray} {error : DecodeError} (read : files.read path = .ok bytes)
      (decodes :
        Decoder.ofText MatchDocument.record.decode (Text.Symbol.ofBytes bytes) = .error error) :
      Fails files path (.document (.malformed error))
  | invalid {bytes : ByteArray} {document : MatchDocument} {error : DocumentError}
      (read : files.read path = .ok bytes)
      (decodes : Decoder.ofText MatchDocument.record.decode (Text.Symbol.ofBytes bytes) = .ok document)
      (invalid : document.validate = .error error) : Fails files path (.document error)

theorem fails_or_holds (files : Files) (path : String) :
    (∃ error, files.Fails path error) ∨ ∃ document, files.Holds path document := by
  cases read : files.read path with
  | error error => exact .inl ⟨_, .unreadable read⟩
  | ok bytes =>
    cases decodes : Decoder.ofText MatchDocument.record.decode (Text.Symbol.ofBytes bytes) with
    | error error => exact .inl ⟨_, .malformed read decodes⟩
    | ok document =>
      cases checked : document.validate with
      | error error => exact .inl ⟨_, .invalid read decodes checked⟩
      | ok _ => exact .inr ⟨document, bytes, read, decodes, checked⟩

end Files

namespace Session

variable {s t : Session} {position : Nat} {task path : String} {document : MatchDocument}

theorem loadDiff_of_fails {error : DiffError} (fails : s.workspace.files.Fails path error) :
    s.loadDiff path = .error error := by
  cases fails with
  | unreadable read => simp only [loadDiff, read]
  | malformed read decodes => simp only [loadDiff, read, MatchDocument.ofBytes, decodes]
  | invalid read decodes invalid =>
    simp only [loadDiff, read, MatchDocument.ofBytes, decodes, invalid]
    rfl

theorem loadDiff_of_holds (holds : s.workspace.files.Holds path document) :
    s.loadDiff path = .ok document := by
  obtain ⟨bytes, read, valid⟩ := holds
  exact loadDiff_of_read read (MatchDocument.ofBytes_eq_ok_iff.2 valid)

/-! ## Sides -/

theorem standpoint_eq (hash : String) (document : MatchDocument) :
    (standpoint hash document).1 =
      (if document.hash.source.map ContentHash.key = some (ContentHash.key hash) then .source
      else if document.hash.target.map ContentHash.key = some (ContentHash.key hash) then .target
      else .source) ∧
    (standpoint hash document).2 =
      (document.hash.on (standpoint hash document).1.peer).map ContentHash.key := by
  refine ⟨?_, rfl⟩
  have source : document.isOf hash .source = true ↔
    document.hash.source.map ContentHash.key = some (ContentHash.key hash) := isOf_iff
  have target : document.isOf hash .target = true ↔
    document.hash.target.map ContentHash.key = some (ContentHash.key hash) := isOf_iff
  simp only [standpoint, MatchDocument.roleOf?, ← source, ← target]
  by_cases first : document.isOf hash .source = true
  · simp [first]
  · by_cases second : document.isOf hash .target = true <;> simp [first, second]

theorem standpoint_key (hash : String) (document : MatchDocument) :
    standpoint (ContentHash.key hash) document = standpoint hash document := by
  have same : document.isOf (ContentHash.key hash) = document.isOf hash := by
    funext role
    rw [Bool.eq_iff_iff, isOf_iff, isOf_iff, ContentHash.key_key]
  rw [standpoint, standpoint, MatchDocument.roleOf?, MatchDocument.roleOf?, same]

/-- Two sessions that a document names by different hashes are each other's peers. -/
theorem standpoint_opposite {own other : String}
    (apart : ContentHash.key own ≠ ContentHash.key other) {side side' : Role}
    (mine : document.isOf own side = true) (theirs : document.isOf other side' = true) :
    standpoint own document = (side, some (ContentHash.key other)) ∧
      standpoint other document = (side.peer, some (ContentHash.key own)) := by
  -- one side has one hash, so the two sessions are not on the same side
  have opposite : side' = side.peer := by
    have different : side' ≠ side := by
      rintro rfl
      exact apart (Option.some.inj ((isOf_iff.1 mine).symm.trans (isOf_iff.1 theirs)))
    cases side <;> cases side' <;> simp_all [Role.peer]
  have back : side.peer.peer = side := by cases side <;> rfl
  subst opposite
  rw [← standpoint_key own, ← standpoint_key other]
  exact ⟨standpoint_of_isOf mine theirs apart,
    standpoint_of_isOf theirs (by rw [back]; exact mine) apart.symm⟩

/-! ## Bodies -/

/-- A session without faults has come to a point where its main loop runs and the body at a position is
to show the document at a path. -/
structure Showing (s : Session) (position : Nat) (task path : String) : Prop where
  reached : ∃ start moves, Fresh start ∧ start.workspace.host.Faultless ∧ start.play moves = s
  isOpen : s.isOpen = true
  waits : s.detached[position]? = some (.showingDiff task path)

theorem Showing.sound (showing : s.Showing position task path) : s.workspace.host.Faultless := by
  obtain ⟨start, moves, -, sound, rfl⟩ := showing.reached
  exact faultless_play sound moves

theorem Showing.get?_finish (showing : s.Showing position task path) (status : TaskStatus)
    (message : String) (result : Option Json) :
    ∃ ended, (s.tasks.finish task status message result).get? task = some ended ∧
      ended.status = status ∧ ended.result = result := by
  obtain ⟨start, moves, fresh, -, rfl⟩ := showing.reached
  obtain ⟨tasks, roster⟩ := fresh.roster.play moves
  -- a body waits only for a task that was started, and that is still listed
  obtain ⟨before, known, after, rfl, same, -⟩ := roster.runs showing.waits
  have there := (roster.lists.known task known).2 ⟨by simp, same⟩
  rw [Tasks.get?_finish, if_pos rfl, there]
  exact ⟨_, rfl, rfl, rfl⟩

theorem finish_of_fails (waits : s.detached[position]? = some (.showingDiff task path))
    {error : DiffError} (fails : s.workspace.files.Fails path error) :
    s.move (.finish position) = { s with
      detached := s.detached.eraseIdx position
      tasks := s.tasks.fail task error.message } := by
  -- the body is taken off the list before it runs, and its file is still the same
  have loaded : loadDiff { s with detached := s.detached.eraseIdx position } path = .error error :=
    loadDiff_of_fails fails
  rw [move, finishAt, waits]
  simp only [conclude, openDiff, loaded]

theorem Showing.finish_of_holds (showing : s.Showing position task path)
    (holds : s.workspace.files.Holds path document) :
    ∃ view count colored,
      MatchView.build document view.role view.peer .standard s.workspace = .ok view s.workspace ∧
      standpoint s.identity.hash document = (view.role, view.peer) ∧
      view.applyColors s.workspace = .ok count colored ∧
      s.move (.finish position) = { s with
        detached := s.detached.eraseIdx position
        workspace :=
          { colored with host := colored.host.shown ⟨Row.title, Row.headers, view.rows⟩ }
        views := ⟨s.views.all ++ [view]⟩
        tasks := s.tasks.complete task
          (openingResult s.views.all.length view.role view.rows.length) } := by
  have loaded : loadDiff { s with detached := s.detached.eraseIdx position } path = .ok document :=
    loadDiff_of_holds holds
  cases stands : standpoint s.identity.hash document with
  | mk role peer =>
    have sound := showing.sound
    have builds := MatchView.build_faultless sound document role peer
    have colors := MatchView.applyColors_paintable
      (.ofDocument s.workspace.host.image document role peer) sound.paintable
    -- strokes put no faults into the host, so the rows can be presented after them
    have opened := openView_of_ok builds colors
      ((s.workspace.repainted_painted _).faultless sound)
    have done := openDiff_of_ok (s := { s with detached := s.detached.eraseIdx position })
      showing.isOpen loaded stands opened
    refine ⟨_, _, _, builds, rfl, colors, ?_⟩
    rw [move, finishAt, showing.waits]
    simp only [conclude, done]
    rfl

/-- The body of a task that shows a document, at any time in the life of a session without faults whose
main loop runs. It fails exactly when its file cannot be read, does not decode, or holds a document that
is not valid, and then it changes nothing but its task. Otherwise it completes: the image is colored as
the document asks for, the rows are shown, and one view is opened behind the others, which stay as they
are. The view is of the source side if that has the session's hash, or else of the target side if that
has it, or else of the source side, and its peer has the hash of the other side. So two sessions that a
document names by different hashes see it from opposite sides, each with the other as its peer. -/
theorem showing_is_all_or_nothing {s : Session} {position : Nat} {task path : String}
    (showing : s.Showing position task path) :
    (((s.move (.finish position)).tasks.get? task).map Task.status = some .failed ↔
      ∃ error, s.workspace.files.Fails path error) ∧
    (∀ error, s.workspace.files.Fails path error →
      s.move (.finish position) = { s with
        detached := s.detached.eraseIdx position
        tasks := s.tasks.fail task error.message }) ∧
    ((¬ ∃ error, s.workspace.files.Fails path error) →
      ∃ document, s.workspace.files.Holds path document) ∧
    (∀ document, s.workspace.files.Holds path document →
      ∃ view count colored,
        MatchView.build document view.role view.peer .standard s.workspace = .ok view s.workspace ∧
        view.role =
          (if document.hash.source.map ContentHash.key =
              some (ContentHash.key s.identity.hash) then .source
          else if document.hash.target.map ContentHash.key =
              some (ContentHash.key s.identity.hash) then .target
          else .source) ∧
        view.peer = (document.hash.on view.role.peer).map ContentHash.key ∧
        view.applyColors s.workspace = .ok count colored ∧
        s.move (.finish position) = { s with
          detached := s.detached.eraseIdx position
          workspace :=
            { colored with host := colored.host.shown ⟨Row.title, Row.headers, view.rows⟩ }
          views := ⟨s.views.all ++ [view]⟩
          tasks := s.tasks.complete task
            (openingResult s.views.all.length view.role view.rows.length) } ∧
        ∃ ended, (s.move (.finish position)).tasks.get? task = some ended ∧
          ended.status = .completed ∧
          ended.result = some (openingResult s.views.all.length view.role view.rows.length)) ∧
    ∀ (t : Session) (position' : Nat) (task' path' : String) (document : MatchDocument)
      (side side' : Role),
      t.Showing position' task' path' → s.workspace.files.Holds path document →
      t.workspace.files.Holds path' document →
      (document.hash.on side).map ContentHash.key = some (ContentHash.key s.identity.hash) →
      (document.hash.on side').map ContentHash.key = some (ContentHash.key t.identity.hash) →
      ContentHash.key s.identity.hash ≠ ContentHash.key t.identity.hash →
      ∃ view view', (s.move (.finish position)).views.all = s.views.all ++ [view] ∧
        (t.move (.finish position')).views.all = t.views.all ++ [view'] ∧
        view'.role = view.role.peer ∧ view.peer = some (ContentHash.key t.identity.hash) ∧
        view'.peer = some (ContentHash.key s.identity.hash) := by
  have either := s.workspace.files.fails_or_holds path
  refine ⟨⟨?_, ?_⟩, fun error => finish_of_fails showing.waits, either.resolve_left, ?_, ?_⟩
  · intro failed
    apply either.resolve_right
    rintro ⟨document, holds⟩
    -- the task would be completed
    obtain ⟨view, count, colored, -, -, -, finished⟩ := showing.finish_of_holds holds
    rw [finished] at failed
    obtain ⟨ended, there, status, -⟩ := showing.get?_finish .completed "Completed"
      (some (openingResult s.views.all.length view.role view.rows.length))
    cases status.symm.trans (Option.some.inj ((congrArg _ there).symm.trans failed))
  · rintro ⟨error, fails⟩
    rw [finish_of_fails showing.waits fails]
    obtain ⟨ended, there, status, -⟩ := showing.get?_finish .failed error.message none
    exact (congrArg _ there).trans (congrArg some status)
  · intro document holds
    obtain ⟨view, count, colored, builds, stands, colors, finished⟩ := showing.finish_of_holds holds
    obtain ⟨role, peer⟩ := standpoint_eq s.identity.hash document
    rw [stands] at role peer
    refine ⟨view, count, colored, builds, role, peer, colors, finished, ?_⟩
    rw [finished]
    exact showing.get?_finish _ _ _
  · intro t position' task' path' document side side' showing' holds holds' mine theirs apart
    obtain ⟨view, _, _, -, stands, -, finished⟩ := showing.finish_of_holds holds
    obtain ⟨view', _, _, -, stands', -, finished'⟩ := showing'.finish_of_holds holds'
    obtain ⟨first, second⟩ := standpoint_opposite apart (isOf_iff.2 mine) (isOf_iff.2 theirs)
    rw [stands, Prod.mk.injEq] at first
    rw [stands', Prod.mk.injEq] at second
    refine ⟨view, view', by rw [finished], by rw [finished'], ?_, first.2, second.2⟩
    rw [first.1, second.1]

namespace Sample

def showing (file : String) : List Move := [.request 6 (filing "show_diff" file)]

theorem play_showing (s : Session) (file : String) :
    s.play (showing file) = s.started ⟨6, .showingDiff, file⟩ := by
  rw [showing, play_cons, play_nil, move_of_call _ 6 (ofBody_filing rfl), answer, startDiff_eq]

theorem showing_play (fresh : s.Fresh) (sound : s.workspace.host.Faultless)
    (isOpen : s.isOpen = true) {file : String} (expands : Path.expandHome s.home file = path) :
    (s.play (showing file)).Showing 0 (Tasks.idOf .showingDiff s.nextTask) path := by
  refine ⟨⟨s, showing file, fresh, sound, rfl⟩, ?_, ?_⟩
  · rw [play_showing]
    exact isOpen
  · rw [play_showing, started_detached, fresh.detached, ← expands]
    rfl

/-- The session on the other side of the document. -/
def across : Session :=
  { blank with
    workspace := { blank.workspace with host := .load { Image.Sample.bare with hash := "2C3D" } }
    identity := ⟨"2C3D", "right", "", 18862⟩ }

end Sample

/-- Two sessions open one document from its two sides, and a third asks for a file that is not there. -/
theorem document_opens_from_both_sides :
    (∃ view view', ((Sample.blank.play (Sample.showing "m")).move (.finish 0)).views.all = [view] ∧
      ((Sample.across.play (Sample.showing "m")).move (.finish 0)).views.all = [view'] ∧
      view'.role = view.role.peer ∧ view.peer = some "2c3d" ∧ view'.peer = some "0a1b") ∧
    ((Sample.blank.play (Sample.showing "n")).move (.finish 0)).views.all = [] ∧
    (((Sample.blank.play (Sample.showing "n")).move (.finish 0)).tasks.get?
      (Tasks.idOf .showingDiff 1)).map Task.status = some .failed := by
  have plain : Path.expandHome none "m" = "m" ∧ Path.expandHome none "n" = "n" := ⟨rfl, rfl⟩
  have ours : ContentHash.key "0a1b" = "0a1b" := ContentHash.key_of_toList rfl
  have theirs : ContentHash.key "2c3d" = "2c3d" ∧ ContentHash.key "2C3D" = "2c3d" :=
    ⟨ContentHash.key_of_toList rfl, ContentHash.key_of_toList rfl⟩
  have left :
      (Sample.blank.play (Sample.showing "m")).Showing 0 (Tasks.idOf .showingDiff 1) "m" :=
    Sample.showing_play ⟨rfl, rfl, rfl⟩ (fun _ => rfl) rfl plain.1
  have right :
      (Sample.across.play (Sample.showing "m")).Showing 0 (Tasks.idOf .showingDiff 1) "m" :=
    Sample.showing_play ⟨rfl, rfl, rfl⟩ (fun _ => rfl) rfl plain.1
  have astray :
      (Sample.blank.play (Sample.showing "n")).Showing 0 (Tasks.idOf .showingDiff 1) "n" :=
    Sample.showing_play ⟨rfl, rfl, rfl⟩ (fun _ => rfl) rfl plain.2
  have held : Sample.blank.workspace.files.Holds "m" Sample.document := by
    exact ⟨_, Files.read_single _,
      MatchDocument.ofBytes_eq_ok_iff.1 (MatchDocument.ofBytes_bytes Sample.valid_document)⟩
  have missing : Sample.blank.workspace.files.Fails "n" (.unreadable "n" .notFound) := by
    have absent (content : ByteArray) : (Files.single content).read "n" = .error .notFound := by
      rw [Files.read, Files.find, Files.waypoints_eq_toList]
      rfl
    exact .unreadable (absent Sample.document.bytes)
  constructor
  · obtain ⟨-, -, -, -, opposite⟩ := showing_is_all_or_nothing left
    specialize opposite _ _ _ _ Sample.document .source .target right
    rw [Sample.play_showing, Sample.play_showing] at opposite ⊢
    have apart : ContentHash.key "0a1b" ≠ ContentHash.key "2C3D" := by
      rw [ours, theirs.2]
      decide
    obtain ⟨view, view', added, added', sides, peer, peer'⟩ := opposite held held rfl
      (congrArg some (theirs.1.trans theirs.2.symm)) apart
    exact ⟨view, view', added, added', sides, peer.trans (congrArg some theirs.2),
      peer'.trans (congrArg some ours)⟩
  · obtain ⟨failed, unchanged, -⟩ := showing_is_all_or_nothing astray
    rw [Sample.play_showing] at failed unchanged ⊢
    refine ⟨?_, failed.2 ⟨_, missing⟩⟩
    rw [unchanged _ missing]
    rfl

end Session

end Tandem
