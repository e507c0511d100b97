import Tandem.Proofs.Network.Calls
import Tandem.Proofs.Network.Ports
import Tandem.Proofs.Session.Publication

/-! # Starting a session

A session that starts takes the first port that is available from a base on, publishes a descriptor with
this port, and tells it to whoever asks. A session that fails to start holds no port, and leaves nothing
that is found or listed where publishing would not. -/

namespace Tandem

open Tandem.Path (IsName components)

/-! ## What a session tells -/

/-- The response by which a session with a port and a hash tells that it is alive. -/
def Http.Response.alive (port : UInt16) (hash : String) : Http.Response :=
  .ofJson (.object [("content_hash", .string hash), ("port", .nat port.toNat), ("status", .string "ok")])

/-- A session tells its port and its hash, in its identity, in its health and when it is asked. -/
structure Session.Introduces (s : Session) (port : UInt16) (hash : String) : Prop where
  identity : s.identity.port = port ∧ s.identity.hash = hash
  health : ∀ now (r : Http.Request), r.path = Http.healthPath → r.method = "GET" →
    s.respond now r = (.alive port hash, s)
  asked : ∀ now, s.answer now .getHash = (.ok (.string hash), s)

theorem Session.introduces {s : Session} {host : Host} {port : UInt16} (isOpen : s.isOpen = true)
    (same : s.workspace.host = host) (identifies : host.Identifies)
    (identity : s.identity = .of host.image.identity port) :
    s.Introduces port (ContentHash.key host.image.hash) where
  identity := by
    rw [identity]
    exact ⟨rfl, rfl⟩
  health := by
    intro now r path method
    have elsewhere : r.path ≠ Http.callPath := by
      rw [path]
      decide
    rw [respond, if_neg elsewhere, if_pos path, if_neg (not_not.2 method), Session.health, identity]
    rfl
  asked := by
    intro now
    subst same
    exact answer_getHash isOpen now identifies

namespace Network

/-! ## What a launch comes to -/

section Outcomes

variable {config : LaunchConfig} {host : Host} {isOpen : Bool} {n n' : Network}

/-- A launch gives up on ports when the host has told who it is and no port from the base on is
available, and on no other occasion. -/
theorem launch_eq_portExhausted_iff (positive : config.basePort ≠ 0) (base : UInt16) :
    (∃ n', launch config host isOpen n = .error (.portExhausted base) n') ↔
      base = config.basePort ∧ (isOpen = true ∧ host.Identifies) ∧
        ∀ port, config.basePort ≤ port → ¬n.IsAvailable config.host port := by
  have startup := startup_launch config host isOpen n
  generalize launch config host isOpen n = result at startup
  cases startup with
  | unidentified silent => simp [silent]
  | crowded tells unbound =>
    have nothing := ((listen_eq_error_iff positive).1 unbound).2.2
    simpa [tells, eq_comm] using fun _ => nothing
  | unpublished tells bound failed =>
    obtain ⟨first, -⟩ := (listen_eq_ok_iff positive).1 bound
    simpa using fun _ _ _ => ⟨_, first.from_base, first.available⟩
  | served tells bound published =>
    obtain ⟨first, -⟩ := (listen_eq_ok_iff positive).1 bound
    simpa using fun _ _ _ => ⟨_, first.from_base, first.available⟩

/-- A launch succeeds when all of its stages do. -/
theorem launch_eq_ok_iff :
    (∃ launched n', launch config host isOpen n = .ok launched n') ↔
      (isOpen = true ∧ host.Identifies) ∧
        ∃ port held, listen config.host config.basePort n = .ok port held ∧
          ∃ place files, Descriptor.publish config.directory
            (SessionIdentity.of host.image.identity port).descriptor n.files = .ok place files := by
  have startup := startup_launch config host isOpen n
  generalize launch config host isOpen n = result at startup
  cases startup with
  | unidentified silent => simp [silent]
  | crowded tells unbound => simp [unbound]
  | unpublished tells bound failed => simp [bound, failed]
  | served tells bound published => simp [tells, bound, published]

/-- A session that serves introduces itself by the port that it got, whatever happens around it. -/
theorem introduces_station (config : LaunchConfig) (identifies : host.Identifies) (port : UInt16) (files : Files) (m : Network) :
    (m.lend (config.station ⟨host, files, {}⟩ (.of host.image.identity port)).session).Introduces port
      (ContentHash.key host.image.hash) :=
  Session.introduces rfl rfl identifies rfl

/-- The descriptor of a session that serves is found by every spelling of its hash. -/
theorem find_launched {port : UInt16} {place : String} {files : Files} (named : IsName host.image.hash)
    (published : Descriptor.publish config.directory
      (SessionIdentity.of host.image.identity port).descriptor n.files = .ok place files)
    {spelling : String} (agrees : ContentHash.agree spelling host.image.hash = true) :
    Descriptor.find files config.directory spelling =
      .ok (SessionIdentity.of host.image.identity port).descriptor := by
  refine Descriptor.find_of_published (ContentHash.isName_key named) published ?_
  rw [ContentHash.agree_iff] at agrees ⊢
  exact (ContentHash.key_key _).trans agrees.symm

/-- A session that serves is reached over the network by its port, if its address can be called. -/
theorem exchange_launched {port : UInt16} {files : Files} (carries : n.carries = true)
    (identifies : host.Identifies) (covers : config.host.covers .localhost = true)
    (served : n' = occupy { n with files := files } ⟨config.host, port⟩
      (.station (config.station ⟨host, n.files, {}⟩ (.of host.image.identity port)))) :
    (∀ r : Http.Request, r.path = Http.healthPath → r.method = "GET" →
      (exchange port r n').1 = .answered (.alive port (ContentHash.key host.image.hash))) ∧
    ∀ number, ((⟨number, port⟩ : Client).getHash n').1 = .ok (ContentHash.key host.image.hash) := by
  have there : n'.peers[port]? =
      some (.station (config.station ⟨host, n.files, {}⟩ (.of host.image.identity port))) := by
    rw [served]
    exact peer_occupy (e := ⟨config.host, port⟩) covers _
  have carries' : n'.carries = true := by
    rw [served]
    exact carries
  constructor
  · intro r path method
    have introduces := introduces_station config identifies port n.files n'
    rw [exchange_station carries' there, introduces.health _ r path method]
  · intro number
    have housed : n'.Houses (⟨number, port⟩ : Client).port host := ⟨_, there, rfl, rfl⟩
    obtain ⟨_, asked, -⟩ := Client.getHash_housed carries' housed identifies
    rw [asked]

end Outcomes

/-- A session takes the first port that is available from its base on, and gives up if and only if there
is none up to the last. Once it serves, its endpoint is taken, and its identity, its health, its answers
and its descriptor all tell this port and the key of its hash. If it fails to start, it has given up the
port that it may have held, and the machine is as it was, apart from the files when its descriptor could
not be published. Of these nothing is found or listed, unless the directory was missing and making it led
back up, or stopped at a name that is too long. -/
theorem launch_agrees_on_one_port (config : LaunchConfig) (host : Host) (isOpen : Bool) (n : Network)
    (rooted : n.files.Rooted) (named : IsName host.image.hash) :
    (config.basePort ≠ 0 →
      (∀ port n', listen config.host config.basePort n = .ok port n' ↔
        n.IsFirst config.host config.basePort port ∧ n' = n.occupy ⟨config.host, port⟩ .closed) ∧
      (∀ error n', listen config.host config.basePort n = .error error n' ↔
        error = .portExhausted config.basePort ∧ n' = n ∧
          ∀ port, config.basePort ≤ port → ¬n.IsAvailable config.host port) ∧
      ∀ base, (∃ n', launch config host isOpen n = .error (.portExhausted base) n') ↔
        base = config.basePort ∧ (isOpen = true ∧ host.Identifies) ∧
          ∀ port, config.basePort ≤ port → ¬n.IsAvailable config.host port) ∧
    ((∃ launched n', launch config host isOpen n = .ok launched n') ↔
      (isOpen = true ∧ host.Identifies) ∧
        ∃ port held, listen config.host config.basePort n = .ok port held ∧
          ∃ place files, Descriptor.publish config.directory
            (SessionIdentity.of host.image.identity port).descriptor n.files = .ok place files) ∧
    (∀ launched n', launch config host isOpen n = .ok launched n' → ∃ port held,
      listen config.host config.basePort n = .ok port held ∧
      launched.endpoint = ⟨config.host, port⟩ ∧
      n.IsAvailable config.host port ∧ ¬n'.IsAvailable config.host port ∧
      n' = occupy { n with files := n'.files } ⟨config.host, port⟩
        (.station (config.station ⟨host, n.files, {}⟩ (.of host.image.identity port))) ∧
      (∀ m : Network, (m.lend (config.station ⟨host, n.files, {}⟩
        (.of host.image.identity port)).session).Introduces port (ContentHash.key host.image.hash)) ∧
      (n.carries = true → config.host.covers .localhost = true →
        (∀ r : Http.Request, r.path = Http.healthPath → r.method = "GET" →
          (exchange port r n').1 = .answered (.alive port (ContentHash.key host.image.hash))) ∧
        ∀ number, ((⟨number, port⟩ : Client).getHash n').1 = .ok (ContentHash.key host.image.hash)) ∧
      ∀ spelling, ContentHash.agree spelling host.image.hash = true →
        ∃ d, Descriptor.find n'.files config.directory spelling = .ok d ∧ d.port = port ∧
          d.hash = ContentHash.key host.image.hash) ∧
    ∀ error n', launch config host isOpen n = .error error n' →
      n' = { n with files := n'.files } ∧
      ((∀ cause, error ≠ .descriptor cause) → n'.files = n.files) ∧
      ((n.files.Missing config.directory → n.files.Onward config.directory ∧
          ∀ name ∈ components config.directory, name.utf8ByteSize ≤ Files.longestName) →
        (∀ hash, '/' ∉ hash.toList →
          (n.files.Missing config.directory →
            (Descriptor.fileOf hash).utf8ByteSize ≤ Files.longestName) →
          Descriptor.find n'.files config.directory hash =
            Descriptor.find n.files config.directory hash) ∧
        Descriptor.list n'.files config.directory = Descriptor.list n.files config.directory) := by
  have startup := startup_launch config host isOpen n
  refine ⟨fun positive => ⟨fun port n' => listen_eq_ok_iff positive,
    fun error n' => listen_eq_error_iff positive, launch_eq_portExhausted_iff positive⟩,
    launch_eq_ok_iff, ?_, ?_⟩
  · intro launched n' succeeded
    rw [succeeded] at startup
    cases startup with
    | served tells bound published =>
      refine ⟨_, _, bound, rfl, (of_listen_eq_ok bound).1, not_isAvailable_occupy _ _ _ _, rfl,
        introduces_station config tells.2 _ _,
        fun carries covers => exchange_launched carries tells.2 covers rfl, ?_⟩
      intro spelling agrees
      exact ⟨_, find_launched named published agrees, rfl, rfl⟩
  · intro error n' failed
    rw [failed] at startup
    cases startup with
    | unidentified silent => exact ⟨rfl, fun _ => rfl, fun _ => ⟨fun _ _ _ => rfl, rfl⟩⟩
    | crowded tells unbound => exact ⟨rfl, fun _ => rfl, fun _ => ⟨fun _ _ _ => rfl, rfl⟩⟩
    | unpublished tells bound unpublished =>
      exact ⟨rfl, fun other => absurd rfl (other _),
        Descriptor.unseen_of_unpublished rooted (ContentHash.isName_key named) unpublished⟩

/-! ## Samples -/

namespace Startup.Sample

/-- A host that looks at an image with a hash. -/
def host (hash : String) : Host := .load ⟨hash, "r", "", 0x1000, 0x1000, 4, [], []⟩

theorem identifies_host (hash : String) : (host hash).Identifies :=
  Host.Faultless.identifies fun _ => rfl

/-- A machine where somebody listens at one port of all addresses. -/
def crowded (port : UInt16) : Network := { aside := [⟨.v4 [0, 0, 0, 0], port⟩] }

theorem not_isAvailable_crowded (port : UInt16) : ¬(crowded port).IsAvailable .localhost port := by
  have meets : (IpAddress.v4 [0, 0, 0, 0]).meets .localhost = true := by decide
  simp [IsAvailable, isFree, crowded, meets]

/-- The next port is the first from the one that is held. -/
theorem isFirst_crowded : (crowded 18861).IsFirst .localhost 18861 18862 where
  from_base := by decide
  available := by decide
  first := by
    intro earlier above below
    rw [UInt16.le_iff_toNat_le] at above
    rw [UInt16.lt_iff_toNat_lt] at below
    obtain rfl : earlier = 18861 :=
      UInt16.toNat_inj.1 (Nat.le_antisymm (Nat.le_of_lt_succ below) above)
    exact not_isAvailable_crowded 18861

theorem publishes : ∃ place files, Descriptor.publish "../s"
    (SessionIdentity.of (host "X").image.identity 18862).descriptor Files.empty = .ok place files := by
  have key : ContentHash.key "X" = "x" := ContentHash.key_of_toList rfl
  have fits := Descriptor.Sample.fits "../s" "x" (by decide)
  rw [← key] at fits
  exact ⟨_, _, Descriptor.publish_of_absent (ContentHash.isName_key ⟨by decide, by decide⟩)
    Descriptor.Sample.makeDirectories_beside
    (fits.1.leads Descriptor.Sample.enter_beside) (fits.2.leads Descriptor.Sample.enter_beside)
    (Descriptor.Sample.node?_beside fits.1.2.1) (Descriptor.Sample.node?_beside fits.2.2.1)⟩

/-- A machine with files, where nobody listens. -/
def machine (files : Files) : Network := { files := files }

theorem listen_machine (files : Files) : listen .localhost 18861 (machine files) =
    .ok 18861 ((machine files).occupy ⟨.localhost, 18861⟩ .closed) := by
  refine (listen_eq_ok_iff (by decide)).2 ⟨⟨UInt16.le_refl _, ⟨rfl, ?_⟩, ?_⟩, rfl⟩
  · simp [isFree, machine]
  · intro earlier above below
    exact absurd below (UInt16.not_lt.2 above)

/-- A descriptor that cannot be published keeps its session from starting. -/
theorem launch_machine (dir : String) {hash : String} {files : Files} (rooted : files.Rooted) (named : IsName hash)
    (stuck : ∀ port place files', Descriptor.publish dir
      (SessionIdentity.of (host hash).image.identity port).descriptor files ≠ .ok place files') :
    ∃ error n', launch { directory := dir } (host hash) true (machine files) =
        .error (.descriptor error) n' ∧
      (∀ sought, '/' ∉ sought.toList →
        Descriptor.find n'.files dir sought = Descriptor.find (files.makeDirectories dir).2 dir sought) ∧
      Descriptor.list n'.files dir = Descriptor.list (files.makeDirectories dir).2 dir := by
  have named' := ContentHash.isName_key named
  have startup := startup_launch { directory := dir } (host hash) true (machine files)
  generalize launch { directory := dir } (host hash) true (machine files) = result at startup
  cases startup with
  | unidentified silent => exact absurd ⟨rfl, identifies_host hash⟩ silent
  | crowded tells unbound => cases unbound.symm.trans (listen_machine files)
  | unpublished tells bound failed =>
    exact ⟨_, _, rfl, fun sought undivided => Descriptor.find_unpublished rooted named' failed undivided,
      Descriptor.list_unpublished rooted named' failed⟩
  | served tells bound published => exact absurd published (stuck _ _ _)

theorem enter_shelf : Descriptor.Sample.shelf.enter (Files.lead "b") = .ok ["b"] := by
  rw [Descriptor.Sample.shelf_eq, Descriptor.Sample.lead_shelf]
  rfl

theorem missing_not_b : ¬Descriptor.Sample.shelf.Missing "b" := by
  simp [Files.Missing, enter_shelf]

/-- The descriptor of `Z` would be where a directory is on the shelf. -/
theorem stuck_shelf {dir : String}
    (entered : (Descriptor.Sample.shelf.makeDirectories dir).2.enter (Files.lead dir) = .ok ["b"])
    (port : UInt16) (place : String) (files : Files) :
    Descriptor.publish dir (SessionIdentity.of (host "Z").image.identity port).descriptor
      Descriptor.Sample.shelf ≠ .ok place files := by
  have key : ContentHash.key (host "Z").image.hash = "z" := ContentHash.key_of_toList rfl
  have file : Descriptor.fileOf (ContentHash.key (host "Z").image.hash) = "z.json" := by
    rw [Descriptor.fileOf, ContentHash.key_key, key]
    rfl
  refine Descriptor.stuck_of_blocked Descriptor.Sample.rooted_shelf
    (ContentHash.isName_key ⟨by decide, by decide⟩) entered ?_ place files
  change Descriptor.Sample.shelf.node?
    (["b"] ++ [Descriptor.fileOf (ContentHash.key (host "Z").image.hash)]) = some .directory
  rw [Descriptor.Sample.shelf_eq, file]
  rfl

theorem stuck_of_long {dir hash : String} (named : IsName hash)
    (beyond : Files.longestName < (Descriptor.fileOf hash).utf8ByteSize) (port : UInt16) (place : String)
    (files : Files) : Descriptor.publish dir
      (SessionIdentity.of (host hash).image.identity port).descriptor Files.empty ≠ .ok place files := by
  have same : Descriptor.fileOf (ContentHash.key hash) = Descriptor.fileOf hash :=
    congrArg (· ++ ".json") (ContentHash.key_key hash)
  rw [← same] at beyond
  exact Descriptor.stuck_of_long .empty (ContentHash.isName_key named) beyond place files

theorem stuck_of_unentered {dir hash : String} (named : IsName hash) {error : FileError}
    (unentered : (Files.empty.makeDirectories dir).2.enter (Files.lead dir) = .error error)
    (port : UInt16) (place : String) (files : Files) : Descriptor.publish dir
      (SessionIdentity.of (host hash).image.identity port).descriptor Files.empty ≠ .ok place files :=
  Descriptor.stuck_of_unentered .empty (ContentHash.isName_key named) unentered place files

end Startup.Sample

open Startup.Sample in
/-- A session skips the base port, which is held, and tells the next one. Another session has no port
left to try, and a third one cannot publish its descriptor. -/
theorem held_ports_are_skipped :
    (∃ launched n', launch { directory := "../s" } (host "X") true (crowded 18861) = .ok launched n' ∧
      launched.endpoint = ⟨.localhost, 18862⟩ ∧
      (∃ d, Descriptor.find n'.files "../s" "X" = .ok d ∧ d.port = 18862 ∧ d.hash = "x") ∧
      ((⟨0, 18862⟩ : Client).getHash n').1 = .ok "x") ∧
    (∃ n', launch { directory := "b", basePort := 65535 } (host "X") true (crowded 65535) =
      .error (.portExhausted 65535) n') ∧
    ∃ error n', launch { directory := "b" } (host "Z") true (machine Descriptor.Sample.shelf) =
        .error (.descriptor error) n' ∧
      Descriptor.find n'.files "b" "x" = Descriptor.find Descriptor.Sample.shelf "b" "x" ∧
      Descriptor.list n'.files "b" = Descriptor.list Descriptor.Sample.shelf "b" := by
  have key : ContentHash.key "X" = "x" := ContentHash.key_of_toList rfl
  refine ⟨?_, ?_, ?_⟩
  · obtain ⟨ports, succeeds, served, -⟩ := launch_agrees_on_one_port { directory := "../s" } (host "X")
      true (crowded 18861) .empty ⟨by decide, by decide⟩
    have bound := ((ports (by decide)).1 18862 _).2 ⟨isFirst_crowded, rfl⟩
    obtain ⟨launched, n', started⟩ :=
      succeeds.2 ⟨⟨rfl, identifies_host "X"⟩, 18862, _, bound, publishes⟩
    obtain ⟨port, held, bound', endpoint, -, -, -, -, reached, described⟩ := served _ _ started
    cases bound.symm.trans bound'
    obtain ⟨-, hash⟩ := reached rfl (by decide)
    obtain ⟨d, found, same, spelled⟩ := described "X" (ContentHash.agree_iff.2 rfl)
    exact ⟨launched, n', started, endpoint, ⟨d, found, same, spelled.trans key⟩,
      (hash 0).trans (congrArg _ key)⟩
  · obtain ⟨ports, -⟩ := launch_agrees_on_one_port { directory := "b", basePort := 65535 }
      (host "X") true (crowded 65535) .empty ⟨by decide, by decide⟩
    obtain ⟨-, -, exhausted⟩ := ports (by decide)
    refine (exhausted 65535).2 ⟨rfl, ⟨rfl, identifies_host "X"⟩, fun port last => ?_⟩
    rw [eq_of_last (by decide) last]
    exact not_isAvailable_crowded 65535
  · obtain ⟨-, -, -, unseen⟩ := launch_agrees_on_one_port { directory := "b" } (host "Z") true
      (machine Descriptor.Sample.shelf) Descriptor.Sample.rooted_shelf ⟨by decide, by decide⟩
    have entered : (Descriptor.Sample.shelf.makeDirectories "b").2.enter (Files.lead "b") =
        .ok ["b"] := by
      rw [Files.makeDirectories_of_not_missing missing_not_b]
      exact enter_shelf
    obtain ⟨error, n', failed, -⟩ := launch_machine _ Descriptor.Sample.rooted_shelf
      ⟨by decide, by decide⟩ (stuck_shelf entered)
    obtain ⟨-, -, plain⟩ := unseen _ _ failed
    obtain ⟨finds, lists⟩ := plain fun missing => absurd missing missing_not_b
    exact ⟨error, n', failed, finds "x" (by decide) fun missing => absurd missing missing_not_b, lists⟩

open Startup.Sample Descriptor.Sample in
/-- A directory is in the way of `z`. Its session fails to start, but `a` was made, and shows `x`. A session
with a hash that is too long fails to start, but the directory was made, and refuses the hash from then
on. So does what was made of the way to a directory whose own name is too long. -/
theorem failed_launch_can_show_descriptors :
    (∃ error n', launch { directory := "a/../b" } (host "Z") true (machine shelf) =
        .error (.descriptor error) n' ∧
      Descriptor.find shelf "a/../b" "x" = .error (.notFound "a/../b/x.json") ∧
      Descriptor.find n'.files "a/../b" "x" = .ok (session 1 "x")) ∧
    (∃ error n', launch { directory := "../s" } (host long) true (machine .empty) =
        .error (.descriptor error) n' ∧
      Descriptor.find .empty "../s" long = .error (.notFound (Descriptor.path "../s" long)) ∧
      Descriptor.find n'.files "../s" long =
        .error (.io (Descriptor.path "../s" long) .nameTooLong)) ∧
    ∃ error n', launch { directory := Path.join "n" long } (host "X") true (machine .empty) =
        .error (.descriptor error) n' ∧
      Descriptor.list .empty (Path.join "n" long) = .ok [] ∧
      Descriptor.list n'.files (Path.join "n" long) =
        .error (.io (Path.join "n" long) .nameTooLong) := by
  refine ⟨?_, ?_, ?_⟩
  · obtain ⟨error, n', failed, found, -⟩ := launch_machine _ rooted_shelf ⟨by decide, by decide⟩
      (stuck_shelf (by rw [makeDirectories_shelf]; exact Descriptor.Sample.enter_shelf))
    have shown := found "x" (by decide)
    rw [makeDirectories_shelf] at shown
    exact ⟨error, n', failed, find_before, shown.trans find_after⟩
  · obtain ⟨error, n', failed, found, -⟩ := launch_machine "../s" .empty isName_long
      (stuck_of_long isName_long beyond_fileOf_long)
    have shown := found long isName_long.undivided
    rw [makeDirectories_beside] at shown
    exact ⟨error, n', failed, find_long_beside.1, shown.trans find_long_beside.2⟩
  · obtain ⟨before, after⟩ := Descriptor.list_deep isName_long beyond_long check_deep
    have named : IsName "X" := ⟨by decide, by decide⟩
    obtain ⟨error, n', failed, -, listed⟩ := launch_machine _ .empty named
      (stuck_of_unentered named (Descriptor.enter_deep isName_long beyond_long check_deep))
    exact ⟨error, n', failed, before, listed.trans after⟩

end Network

end Tandem
