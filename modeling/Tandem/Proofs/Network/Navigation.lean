import Mathlib.Data.List.Permutation
import Tandem.Proofs.Network.History
import Tandem.Proofs.RoundTrip

/-! # Navigation from session to session

Two sessions are launched. After whatever else has happened to them, one opens a view of a document
that matches their images, and a user browses this view. Whatever rows are activated, and however the
requests mix with the work of the session's worker, the other session ends up having jumped to the
counterparts of the activated matches, in order.

`Network.Browsing` is the invariant. It knows the host of the other session and the offsets that
still wait for it, and the key is that one quantity never changes except by gestures: where the
host will be once everything that waits has arrived. `Browsing.move` is one step and
`Browsing.play` a whole run. -/

namespace Tandem

open MatchView (Gesture)
open Rpc (Call)

/-! ## Moves -/

namespace Network

/-- What happens while a user browses the view with an id: requests that are gestures, and in between
the worker of the session delivers some of the commands that wait. -/
inductive Move (id : Nat) where
  | request (r : Http.Request) (gesture : Gesture)
      (means : r.call?.bind (Session.gesture? id) = some gesture)
  | deliver (count : Nat)

variable {id : Nat}

/-- The gesture that a move is. -/
def Move.gesture? : Move id → Option Gesture
  | .request _ gesture _ => some gesture
  | .deliver _ => none

/-- The gestures among moves. -/
def gestures (moves : List (Move id)) : List Gesture := moves.flatMap (·.gesture?.toList)

/-- What a move is, around the session behind a port. -/
def Move.event (port : UInt16) : Move id → Event
  | .request r _ _ => .request port r
  | .deliver count => .deliver port count

/-- The machine after moves, one after the other. -/
def play (n : Network) (port : UInt16) (moves : List (Move id)) : Network :=
  n.run (moves.map (·.event port))

/-! ## Browsing -/

/-- The session behind one port has opened a view after others, and what waits in its outbox is for
the session over the host behind another port, which can be found. -/
structure Browsing (n : Network) (directory : String) (own port : UInt16) (before : List MatchView)
    (view : MatchView) (host : Host) (offsets : List Address) : Prop where
  apart : own ≠ port
  findable : n.Findable directory port host
  faithful : view.Faithful
  known : view.peer = some (ContentHash.key host.image.hash)
  station : ∃ s, n.peers[own]? = some (.station s) ∧ s.directory = directory ∧
    s.broker.Directed (ContentHash.key host.image.hash) port ∧ s.session.Viewing before view ∧
    s.session.workspace.outbox.waiting = offsets.map (.jumpto (ContentHash.key host.image.hash))

variable {n : Network} {directory : String} {own port : UInt16} {before : List MatchView}
  {view : MatchView} {host : Host} {offsets : List Address}

/-- A request that is a gesture adds to what waits. -/
theorem Browsing.request (browsing : n.Browsing directory own port before view host offsets)
    {r : Http.Request} {gesture : Gesture}
    (means : r.call?.bind (Session.gesture? before.length) = some gesture) :
    (exchange own r n).2.Browsing directory own port before (view.after gesture) host
      (offsets ++ (view.activated? gesture).toList.map (·.address.on view.role.peer)) := by
  obtain ⟨call, asks, means⟩ := Option.bind_eq_some_iff.1 means
  obtain ⟨s, there, rfl, directed, viewing, waiting⟩ := browsing.station
  -- the session answers among the files of the machine, which a view does not depend on
  have lent : (n.lend s.session).Viewing before view :=
    ⟨viewing.isOpen, viewing.sound, viewing.accepts, viewing.detached, viewing.views⟩
  obtain ⟨viewing', files, waiting'⟩ :=
    Session.answer_gesture lent browsing.faithful browsing.known n.clock means
  rw [exchange_station browsing.findable.carries there, Session.respond_of_call? asks]
  refine ⟨browsing.apart, ?_, browsing.faithful.after gesture, ?_, _,
    Std.ExtTreeMap.getElem?_insert_self, rfl, directed, viewing', ?_⟩
  · exact browsing.findable.congr rfl files (getElem?_insert_of_ne _ browsing.apart _)
  · rw [MatchView.after_peer, browsing.known]
  · rw [waiting', List.map_append, List.map_map]
    exact congrArg (· ++ _) waiting

/-- What the worker delivers no longer waits, and has led the host. -/
theorem Browsing.deliverSome (browsing : n.Browsing directory own port before view host offsets)
    (count : Nat) :
    (n.deliverSome own count).Browsing directory own port before view
      ((offsets.take count).foldl Host.led host) (offsets.drop count) := by
  obtain ⟨s, there, rfl, directed, viewing, waiting⟩ := browsing.station
  obtain ⟨broker, deliveries, findable, directed', there'⟩ :=
    deliverSome_findable browsing.findable there browsing.apart directed waiting count
  refine ⟨browsing.apart, findable, browsing.faithful, ?_, _, there', rfl, ?_, ?_, ?_⟩
  · rw [Host.image_foldl_led, browsing.known]
  · rw [Host.image_foldl_led]
    exact directed'
  · exact ⟨viewing.isOpen, viewing.sound, viewing.accepts, viewing.detached, viewing.views⟩
  · rw [Host.image_foldl_led, List.map_drop, ← waiting]
    rfl

/-- When the worker has delivered everything, nothing waits. -/
theorem Browsing.deliver (browsing : n.Browsing directory own port before view host offsets) :
    (n.deliver own).Browsing directory own port before view (offsets.foldl Host.led host) [] := by
  have count : n.backlog own = offsets.length := by
    obtain ⟨s, there, -, -, -, waiting⟩ := browsing.station
    rw [backlog, station?_of_getElem? there]
    simp [waiting]
  have delivered := browsing.deliverSome (n.backlog own)
  rw [count, List.take_length, List.drop_length] at delivered
  rw [Network.deliver, count]
  exact delivered

/-- Where the host will be once everything that waits has arrived: a move changes this by what its
gesture sends, and by nothing else. -/
theorem Browsing.move (browsing : n.Browsing directory own port before view host offsets)
    (move : Move before.length) :
    ∃ host' offsets',
      (n.event (move.event own)).Browsing directory own port before
        (move.gesture?.toList.foldl .after view) host' offsets' ∧
      offsets'.foldl Host.led host' =
        (offsets ++ view.sent move.gesture?.toList).foldl Host.led host := by
  cases move with
  | request r gesture means =>
    refine ⟨host, _, browsing.request means, ?_⟩
    simp [MatchView.sent, Move.gesture?, MatchView.activated]
  | deliver count =>
    refine ⟨_, _, browsing.deliverSome count, ?_⟩
    rw [← List.foldl_append, List.take_append_drop]
    simp [MatchView.sent, Move.gesture?, MatchView.activated]

/-- A whole run sends what its gestures send. -/
theorem Browsing.play (browsing : n.Browsing directory own port before view host offsets)
    (moves : List (Move before.length)) :
    ∃ host' offsets',
      (n.play own moves).Browsing directory own port before ((gestures moves).foldl .after view) host'
        offsets' ∧
      offsets'.foldl Host.led host' =
        (offsets ++ view.sent (gestures moves)).foldl Host.led host := by
  -- the host and what waits for it vary on the way; what is carried is where the host will end up
  induction moves generalizing n view host offsets with
  | nil => exact ⟨host, offsets, browsing, by simp [MatchView.sent, gestures, MatchView.activated]⟩
  | cons move moves ih =>
    obtain ⟨host₁, offsets₁, browsing₁, once⟩ := browsing.move move
    obtain ⟨host₂, offsets₂, browsing₂, rest⟩ := ih browsing₁
    have split : gestures (move :: moves) = move.gesture?.toList ++ gestures moves := rfl
    refine ⟨host₂, offsets₂, ?_, ?_⟩
    · rw [split, List.foldl_append]
      exact browsing₂
    · rw [rest, List.foldl_append, once, ← List.foldl_append, split, MatchView.sent_append,
        List.append_assoc]

/-! ## Opening the view -/

/-- The session behind a port has nothing left to do: no task is to be run, and no command waits for
its worker. -/
def Idle (n : Network) (port : UInt16) : Prop :=
  ∃ s, n.station? port = some s ∧ s.session.detached = [] ∧ s.session.workspace.outbox.waiting = []

variable {guest other : Guest}

/-- Once a guest has opened a view of a document that matches its image with the other's, its user
can browse. No file was written for that. -/
theorem Acquainted.browsing (acquainted : n.Acquainted guest other) (ports : guest.port ≠ other.port)
    (apart : ContentHash.key guest.host.image.hash ≠ ContentHash.key other.host.image.hash)
    (searched : guest.config.searched = other.config.directory) {s t : Station}
    (there : n.peers[guest.port]? = some (.station s))
    (there' : n.peers[other.port]? = some (.station t)) (detached : s.session.detached = [])
    (waiting : s.session.workspace.outbox.waiting = []) {r : Http.Request} {filename : String}
    (asks : r.call? = some (.showDiff ⟨filename⟩)) {bytes : ByteArray}
    (reads : n.files.read (Path.expandHome guest.config.home filename) = .ok bytes)
    {document : MatchDocument} (decodes : MatchDocument.ofBytes bytes = .ok document) {role : Role}
    (mine : document.isOf guest.host.image.hash role = true)
    (theirs : document.isOf other.host.image.hash role.peer = true) :
    ((exchange guest.port r n).2.settle guest.port).Browsing other.config.directory guest.port
        other.port s.session.views.all
        (.ofDocument guest.host.image document role (some (ContentHash.key other.host.image.hash)))
        t.session.workspace.host [] ∧
      ((exchange guest.port r n).2.settle guest.port).files = n.files := by
  obtain ⟨files, s', present, since⟩ := acquainted.present
  cases there.symm.trans present
  obtain ⟨findable, image⟩ := acquainted.inPlace.findable there'
  -- the request is answered at once, and the view opens when the session settles
  let started := (n.lend s.session).startDiff n.clock filename
  let asked := n.reclaim guest.port s started
  have exchanged : (exchange guest.port r n).2 = asked := by
    rw [exchange_station acquainted.inPlace.carries there, Session.respond_of_call? asks]
    rfl
  have asked_there : asked.peers[guest.port]? = some (.station { s with session := started }) :=
    Std.ExtTreeMap.getElem?_insert_self
  have home : s.session.home = guest.config.home := since.session.home
  have loaded : (asked.lend started).loadDiff (Path.expandHome s.session.home filename) =
      .ok document := by
    rw [home]
    exact Session.loadDiff_of_read reads decodes
  have stands : Session.standpoint s.session.identity.hash document =
      (role, some (ContentHash.key other.host.image.hash)) := by
    rw [since.session.identity]
    exact Session.standpoint_of_isOf mine theirs apart
  have body : (asked.lend started).detached = [.showingDiff (Tasks.idOf .showingDiff n.nextTask)
      (Path.expandHome s.session.home filename)] := congrArg (· ++ _) detached
  obtain ⟨viewing, kept, outbox⟩ := Session.settle_showingDiff (s := asked.lend started)
    since.session.isOpen (since.session.faultless guest.sound) since.session.accepts body loaded stands
  have own : s.session.workspace.host.image = guest.host.image := since.session.image
  rw [exchanged, settle, visit, station?_of_getElem? asked_there]
  refine ⟨⟨ports, ?_, MatchView.faithful_ofDocument _ _ _ _, by rw [image]; rfl, _,
    Std.ExtTreeMap.getElem?_insert_self, since.directory.trans searched, ?_, own ▸ viewing, ?_⟩, kept⟩
  · have findable' : asked.Findable other.config.directory other.port t.session.workspace.host :=
      findable.congr rfl rfl (getElem?_insert_of_ne _ ports _)
    exact findable'.congr rfl kept (getElem?_insert_of_ne _ ports _)
  · rw [image]
    exact acquainted.directed s there
  · rw [outbox]
    exact waiting

/-! ## The whole story -/

/-- Two sessions without faults are launched on the local address, in either order, and then whatever
happens on the machine that leaves the other's descriptor in place. When nothing is left to do for one
of them, it is asked to show a document that matches its image with the other's, and its user browses
the view. Once the worker has delivered what waits, the view is as the user's gestures left it, behind
those that were there before, and the other host has jumped to the counterpart of every activated
match, in order, as far as its image reaches. -/
theorem activated_matches_lead_the_other_host {n n' : Network} {guest other : Guest}
    (carries : n.carries = true)
    (apart : ContentHash.agree guest.host.image.hash other.host.image.hash = false)
    (arrive : Guest.BothArrive guest other n n')
    (searched : guest.config.searched = other.config.directory) {earlier : List Event}
    (described : Throughout other.IsDescribed n' earlier) (idle : (n'.run earlier).Idle guest.port)
    {r : Http.Request} {filename : String} (asks : r.call? = some (.showDiff ⟨filename⟩))
    {bytes : ByteArray}
    (reads : (n'.run earlier).files.read (Path.expandHome guest.config.home filename) = .ok bytes)
    {document : MatchDocument} (decodes : MatchDocument.ofBytes bytes = .ok document) {role : Role}
    (mine : document.isOf guest.host.image.hash role = true)
    (theirs : document.isOf other.host.image.hash role.peer = true) :
    ∃ s₀ t₀, (n'.run earlier).station? guest.port = some s₀ ∧
      (n'.run earlier).station? other.port = some t₀ ∧
      ∀ moves : List (Move s₀.session.views.all.length),
        let view := MatchView.ofDocument guest.host.image document role
          (some (ContentHash.key other.host.image.hash))
        let targets := ((view.activated (gestures moves)).map fun m =>
          other.host.image.base.plus (m.address.on role.peer)).filter other.host.image.contains
        let opened := (exchange guest.port r (n'.run earlier)).2.settle guest.port
        let browsed := opened.play guest.port moves
        ∃ s t, (browsed.deliver guest.port).station? guest.port = some s ∧
          (browsed.deliver guest.port).station? other.port = some t ∧
          s.session.views = ⟨s₀.session.views.all ++ [(gestures moves).foldl .after view]⟩ ∧
          s.session.workspace.outbox.waiting = [] ∧
          t.session.workspace.host = targets.foldl Host.jumped t₀.session.workspace.host ∧
          t.session.workspace.host.jumps = t₀.session.workspace.host.jumps ++ targets := by
  have keys : ContentHash.key guest.host.image.hash ≠ ContentHash.key other.host.image.hash := by
    intro same
    rw [ContentHash.agree_iff.2 same] at apart
    cases apart
  obtain ⟨settled, settled', ports, carries'⟩ := arrive.settled keys
  have acquainted := (acquainted_of_settled (carries'.trans carries) settled settled').run searched
    described
  obtain ⟨s₀, here, detached, nothing⟩ := idle
  obtain ⟨_, t₀, there, -⟩ := acquainted.inPlace.present
  obtain ⟨-, image⟩ := acquainted.inPlace.findable there
  refine ⟨s₀, t₀, here, station?_of_getElem? there, ?_⟩
  intro moves view targets opened browsed
  obtain ⟨opens, -⟩ := acquainted.browsing ports keys searched (getElem?_of_station? here) there
    detached nothing asks reads decodes mine theirs
  obtain ⟨host, offsets, browsing, led⟩ := opens.play moves
  have delivered := browsing.deliver
  -- nothing waits any more, so the host is where it was going to be
  have arrived : offsets.foldl Host.led host = targets.foldl Host.jumped t₀.session.workspace.host := by
    rw [led, List.nil_append, Host.foldl_led, MatchView.sent, List.map_map, image]
    rfl
  rw [arrived] at delivered
  obtain ⟨s, there, -, -, viewing, waiting⟩ := delivered.station
  obtain ⟨t, there', -, host'⟩ := delivered.findable.housed
  refine ⟨s, t, station?_of_getElem? there, station?_of_getElem? there', viewing.views, waiting,
    host', ?_⟩
  rw [host', Host.jumps_foldl_jumped]

/-! ### A small machine -/

namespace Sample

/-- The session whose user browses. -/
def left : Guest where
  config := { directory := "." }
  host := .load ⟨"0A1B", "left", "", 0x1000, 0x1000, 4, [], []⟩
  port := 18861
  sound _ := rfl
  named := ⟨by decide, by decide⟩

/-- The session that follows. -/
def right : Guest where
  config := { directory := "." }
  host := .load ⟨"2C3D", "right", "", 0x8000, 0x100, 4, [], []⟩
  port := 18862
  sound _ := rfl
  named := ⟨by decide, by decide⟩

/-- Three functions, one of them beyond the end of the image on the right. -/
def document : MatchDocument where
  hash := ⟨some "2c3D", some "0a1b"⟩
  functions := [
    ⟨⟨0x10, 0x40⟩, ⟨none, none⟩, [], ⟨[], []⟩⟩,
    ⟨⟨0x200, 0x80⟩, ⟨none, none⟩, [], ⟨[], []⟩⟩,
    ⟨⟨0x20, 0x90⟩, ⟨none, none⟩, [], ⟨[], []⟩⟩]

/-- The machine before the sessions are launched. -/
def machine : Network := { files := .single document.bytes }

theorem valid_document : document.validate = .ok () := by
  cbv

theorem both_arrive : ∃ n, Guest.BothArrive left right machine n := by
  have admitted : ((left.admitted? machine).bind right.admitted?).isSome = true := by decide +kernel
  obtain ⟨n, both⟩ := Option.isSome_iff_exists.1 admitted
  obtain ⟨between, first, second⟩ := Option.bind_eq_some_iff.1 both
  exact ⟨n, .inl ⟨between, Guest.arrives_of_admitted? first, Guest.arrives_of_admitted? second⟩⟩

theorem read_of_both_arrive {n : Network} (arrive : Guest.BothArrive left right machine n) :
    n.files.read (Path.expandHome left.config.home "m") = .ok document.bytes := by
  have own : "m" ∉ [Descriptor.fileOf left.identity.descriptor.hash,
      Descriptor.draftOf left.identity.descriptor.hash] := by decide +kernel
  have theirs : "m" ∉ [Descriptor.fileOf right.identity.descriptor.hash,
      Descriptor.draftOf right.identity.descriptor.hash] := by decide +kernel
  have named : Path.IsName "m" := ⟨by decide, by decide⟩
  have here : Path.join "" "m" = "m" := by decide +kernel
  have home : Path.expandHome left.config.home "m" = "m" := rfl
  have reads : machine.files.read "m" = .ok document.bytes := Files.read_single _
  rw [← here] at reads
  rw [home, ← here]
  rcases arrive with ⟨between, first, second⟩ | ⟨between, first, second⟩
  · exact second.files.read named (by decide) theirs (first.files.read named (by decide) own reads)
  · exact second.files.read named (by decide) own (first.files.read named (by decide) theirs reads)

/-- The request to show the document. -/
def showing : Http.Request := Client.request 1 "show_diff" (.object [("filename", .string "m")])

theorem call?_showing : showing.call? = some (.showDiff ⟨"m"⟩) := by
  apply Client.call?_request
  · exact ⟨⟨⟨trivial, trivial⟩, by decide⟩, rfl⟩
  · rfl

/-- The request to activate a row of a view. -/
def activating (row view : UInt64) : Http.Request :=
  Client.request 2 "activate_row" (.object [("row", .word row), ("view", .word view)])

theorem gesture?_activating (row view : UInt64) :
    (activating row view).call?.bind (Session.gesture? view.toNat) = some (.activate row.toNat) := by
  have asks : (activating row view).call? = some (.activateRow ⟨some view.toNat, row.toNat⟩) :=
    Client.call?_request (Json.sendable_activation row view) 2 (Call.decode_activateRow row view)
  rw [asks, Option.bind_some, Session.gesture?, if_pos (.inr rfl)]

/-- The user activates a row of the second view. -/
def activate (row : UInt64) : Move 1 :=
  .request (activating row 1) (.activate row.toNat) (gesture?_activating row 1)

/-- The parameters that ask for the greatest addresses on the right first. -/
def peersFirst : Json := .object [("descending", .bool true), ("sort", .string "peer_address")]

/-- The user looks at the rows in that order. -/
def look : Move 1 :=
  .request (Client.request 3 "view_rows" peersFirst) (.look (some .peerAddress) true) (by
    have sendable : peersFirst.Sendable := ⟨⟨⟨trivial, trivial, trivial⟩, by decide⟩, rfl⟩
    have decoded : Call.decode "view_rows" (some peersFirst) =
        .ok (.viewRows ⟨none, some .peerAddress, true⟩) := rfl
    rw [Client.call?_request sendable 3 decoded]
    rfl)

/-- A user's way through the rows, while the worker is at work. -/
def tour : List (Move 1) := [activate 1, look, activate 1, .deliver 1, activate 2, activate 9]

/-- What the session on the left shows of the document. -/
def shown : MatchView :=
  .ofDocument left.host.image document .target (some (ContentHash.key right.host.image.hash))

theorem shown_eq : shown = .ofDocument left.host.image document .target (some "2c3d") := by
  rw [shown, show ContentHash.key right.host.image.hash = "2c3d" from ContentHash.key_of_toList rfl]

/-- The tour activates three functions. One is out of the right host's reach, and the last row that
is activated is not there. -/
theorem targets_tour :
    ((shown.activated (gestures tour)).map fun m =>
        right.host.image.base.plus (m.address.on .source)).filter right.host.image.contains =
      [0x8020, 0x8010] := by
  have asked : gestures tour =
      [.activate 1, .look (some .peerAddress) true, .activate 1, .activate 2, .activate 9] := rfl
  have targets : ((shown.activated (gestures tour)).map fun m =>
      right.host.image.base.plus (m.address.on .source)) = [0x8200, 0x8020, 0x8010] := by
    rw [shown_eq, asked]
    cbv
  rw [targets]
  rfl

/-- What has happened before: the document was shown once already, and its first row activated. -/
def earlier : List Event :=
  [.request left.port showing, .settle left.port, .request left.port (activating 0 0),
    .deliver left.port 1]

theorem hashes_apart : ContentHash.agree left.host.image.hash right.host.image.hash = false :=
  ContentHash.agree_eq _ _

theorem document_of_left : document.isOf left.host.image.hash .target = true :=
  ContentHash.agree_eq "0a1b" _

theorem document_of_right : document.isOf right.host.image.hash .source = true :=
  ContentHash.agree_eq "2c3D" _

theorem sent_first :
    (shown.activated? (.activate 0)).toList.map (·.address.on shown.role.peer) = [0x10] := by
  rw [shown_eq]
  cbv

theorem jumps_first : (right.host.led 0x10).jumps = [0x8010] := rfl

theorem browsing_earlier {n : Network} (arrive : Guest.BothArrive left right machine n) :
    Throughout right.IsDescribed n earlier ∧ (n.run earlier).files = n.files ∧
      (n.run earlier).Browsing right.config.directory left.port right.port [] shown
        (right.host.led 0x10) [] := by
  have keys : ContentHash.key left.host.image.hash ≠ ContentHash.key right.host.image.hash := by
    decide +kernel
  obtain ⟨settled, settled', ports, carries⟩ := arrive.settled keys
  obtain ⟨_, there⟩ := settled.there
  obtain ⟨_, there'⟩ := settled'.there
  have acquainted := acquainted_of_settled carries settled settled'
  obtain ⟨opened, files⟩ := acquainted.browsing ports keys rfl there there' rfl rfl call?_showing
    (read_of_both_arrive arrive) (MatchDocument.ofBytes_bytes valid_document) document_of_left
    document_of_right
  have activated : (exchange left.port (activating 0 0) _).2.Browsing right.config.directory left.port
      right.port [] shown right.host
      ([] ++ (shown.activated? (.activate 0)).toList.map (·.address.on shown.role.peer)) :=
    opened.request (gesture?_activating 0 0)
  rw [sent_first, List.nil_append] at activated
  obtain ⟨_, there'', -⟩ := activated.station
  have files₁ := (called_exchange left.port showing n).files
  have files₃ := (called_exchange left.port (activating 0 0) _).files.trans files
  have files₄ := (files_deliverSome there'' 1).trans files₃
  have described (m : Network) (same : m.files = n.files) : right.IsDescribed m := by
    rw [Guest.IsDescribed, same]
    exact acquainted.inPlace.described
  exact ⟨⟨described _ rfl, described _ files₁, described _ files, described _ files₃,
    described _ files₄⟩, files₄, activated.deliverSome 1⟩

end Sample

theorem tour_leads_the_right_host :
    ∃ n t, Guest.BothArrive Sample.left Sample.right Sample.machine n ∧
      ((((exchange Sample.left.port Sample.showing (n.run Sample.earlier)).2.settle
        Sample.left.port).play Sample.left.port Sample.tour).deliver
          Sample.left.port).station? Sample.right.port = some t ∧
      t.session.workspace.host.jumps = [0x8010, 0x8020, 0x8010] := by
  obtain ⟨n, arrive⟩ := Sample.both_arrive
  obtain ⟨described, files, browsing⟩ := Sample.browsing_earlier arrive
  obtain ⟨s, there, -, -, viewing, waiting⟩ := browsing.station
  have reads := Sample.read_of_both_arrive arrive
  rw [← files] at reads
  obtain ⟨s₀, t₀, here, there₀, leads⟩ := activated_matches_lead_the_other_host rfl Sample.hashes_apart
    arrive rfl described ⟨s, station?_of_getElem? there, viewing.detached, waiting⟩
    Sample.call?_showing reads (MatchDocument.ofBytes_bytes Sample.valid_document)
    Sample.document_of_left Sample.document_of_right
  cases here.symm.trans (station?_of_getElem? there)
  have second : s.session.views.all.length = 1 := by rw [viewing.views]; rfl
  rw [second] at leads
  obtain ⟨_, t, -, there', -, -, -, jumps⟩ := leads Sample.tour
  -- what the first round has left behind
  obtain ⟨_, there₁, -, host⟩ := browsing.findable.housed
  cases there₀.symm.trans (station?_of_getElem? there₁)
  refine ⟨n, t, arrive, there', jumps.trans ?_⟩
  rw [host, Sample.jumps_first]
  exact congrArg _ Sample.targets_tour

end Network

end Tandem
