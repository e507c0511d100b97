import Tandem.Network.Launch
import Tandem.Proofs.Host.Faultless

/-! # Taking a port

A session takes the first port that is available from a base on. The scan ends at the last port, so that
it never comes back to ports below the base, and it holds the port that it ends at.

* `Network.scan_listenFrom` says once what a scan can come to, and `Network.listen_eq_ok_iff` and
  `Network.listen_eq_error_iff` what that means for the ports that are available.
* `Network.vacate_occupy` says that a port that was taken and given up leaves no trace.
* A launch goes through three stages, and `Network.Startup` says once what they can come to, with the
  machine that is left. -/

namespace Tandem

/-! ## Addresses -/

namespace IpAddress

theorem meets_self (a : IpAddress) : a.meets a = true := by
  simp [meets, covers]

theorem meets_of_covers {a b : IpAddress} (covers : a.covers b = true) : a.meets b = true := by
  simp [meets, covers]

theorem covers_localhost_of_plain {a : IpAddress} (plain : a.plain = .localhost) :
    a.covers .localhost = true := by
  have own : localhost.plain = .localhost := rfl
  simp [covers, plain, own]

end IpAddress

namespace Network

variable {n n' : Network} {host : IpAddress} {base port asked granted : UInt16} {e : Endpoint}

/-! ## Endpoints -/

theorem not_contains_of_isFree (free : n.isFree e = true) (covers : e.host.covers .localhost = true) :
    n.peers.contains e.port = false := by
  simp only [isFree, IpAddress.meets_of_covers covers, Bool.and_true, Bool.and_eq_true,
    Bool.not_eq_true'] at free
  exact free.1

/-- Nobody listens already at an endpoint that can be taken. -/
theorem not_mem_of_isFree (free : n.isFree e = true) : e ∉ n.aside := by
  intro member
  simp only [isFree, Bool.and_eq_true, List.all_eq_true] at free
  simpa [IpAddress.meets_self] using free.2 e member

/-- An endpoint that was free, taken and given up again leaves the machine as it was. -/
theorem vacate_occupy (free : n.isFree e = true) (peer : Peer) (files : Files) :
    { n.occupy e peer with files := files }.vacate e = { n with files := files } := by
  have peers : (if e.host.covers .localhost then (n.occupy e peer).peers.erase e.port
      else (n.occupy e peer).peers) = n.peers := by
    cases covers : e.host.covers .localhost with
    | false => simp [occupy, covers]
    | true =>
      have absent := not_contains_of_isFree free covers
      refine Std.ExtTreeMap.ext_getElem? fun port => ?_
      simp only [occupy, covers, if_true, Std.ExtTreeMap.getElem?_erase, Std.ExtTreeMap.getElem?_insert]
      split
      · rename_i same
        rw [← Std.LawfulEqCmp.eq_of_compare same,
          Std.ExtTreeMap.getElem?_eq_none_of_contains_eq_false absent]
      · rfl
  have aside : (n.occupy e peer).aside.erase e = n.aside := by
    by_cases plain : e.host.plain = .localhost
    · simp [occupy, plain, List.erase_of_not_mem (not_mem_of_isFree free)]
    · simp [occupy, plain]
  simp only [vacate, peers, aside]
  rfl

/-- Who answers at an endpoint takes the place of who holds it. -/
theorem serve_occupy (n : Network) (e : Endpoint) (holder peer : Peer) (files : Files) :
    { n.occupy e holder with files := files }.serve e peer =
      occupy { n with files := files } e peer := by
  have peers : (if e.host.covers .localhost then (n.occupy e holder).peers.insert e.port peer
      else (n.occupy e holder).peers) = (n.occupy e peer).peers := by
    cases covers : e.host.covers .localhost with
    | false => simp [occupy, covers]
    | true =>
      refine Std.ExtTreeMap.ext_getElem? fun port => ?_
      simp only [occupy, covers, if_true, Std.ExtTreeMap.getElem?_insert]
      split <;> rfl
  simp only [serve, peers]
  rfl

theorem peer_occupy (covers : e.host.covers .localhost = true) (peer : Peer) :
    (n.occupy e peer).peers[e.port]? = some peer := by
  simp [occupy, covers]

/-! ## Ports -/

/-- Somebody can listen at a port of an address. -/
def IsAvailable (n : Network) (host : IpAddress) (port : UInt16) : Prop :=
  n.admits host = true ∧ n.isFree ⟨host, port⟩ = true

instance (n : Network) (host : IpAddress) (port : UInt16) : Decidable (n.IsAvailable host port) :=
  inferInstanceAs (Decidable (n.admits host = true ∧ n.isFree ⟨host, port⟩ = true))

/-- A port is the first that is available from a base on. -/
structure IsFirst (n : Network) (host : IpAddress) (base port : UInt16) : Prop where
  from_base : base ≤ port
  available : n.IsAvailable host port
  first : ∀ earlier, base ≤ earlier → earlier < port → ¬n.IsAvailable host earlier

theorem IsFirst.unique {port' : UInt16} (first : n.IsFirst host base port)
    (first' : n.IsFirst host base port') : port = port' := by
  rcases Std.lt_trichotomy port port' with before | same | behind
  · exact absurd first.available (first'.first port first.from_base before)
  · exact same
  · exact absurd first'.available (first.first port' first'.from_base behind)

/-- An endpoint that was taken is no longer available. -/
theorem not_isAvailable_occupy (n : Network) (host : IpAddress) (port : UInt16) (peer : Peer) :
    ¬(n.occupy ⟨host, port⟩ peer).IsAvailable host port := by
  rintro ⟨-, free⟩
  by_cases plain : host.plain = .localhost
  · have covers := IpAddress.covers_localhost_of_plain plain
    simp [isFree, occupy, plain, covers, IpAddress.meets_of_covers covers] at free
  · simp [isFree, occupy, plain, IpAddress.meets_self] at free

/-- A port that is granted is available, also when the machine chose it. -/
theorem isAvailable_of_grant? (grants : n.grant? host asked = some granted) :
    n.IsAvailable host granted := by
  unfold grant? at grants
  split at grants
  · cases grants
  · rename_i admitted
    refine ⟨by simpa using admitted, ?_⟩
    split at grants
    · simpa using List.find?_some grants
    · obtain ⟨free, same⟩ := Option.ite_none_right_eq_some.1 grants
      cases same
      exact free

/-- Whoever asks for a certain port gets this one or none. -/
theorem grant?_of_positive (positive : asked ≠ 0) :
    n.grant? host asked = if n.IsAvailable host asked then some asked else none := by
  unfold grant?
  cases admitted : n.admits host <;> simp [IsAvailable, admitted, positive]

/-! ## The scan -/

/-- What a scan of the ports from one on comes to: it holds the first port that it is granted, or it was
granted none up to the last and leaves the machine alone. -/
inductive Scan (n : Network) (host : IpAddress) (base port : UInt16) :
    EStateM.Result LaunchError Network UInt16 → Prop where
  | found {asked granted : UInt16} (from_port : port ≤ asked)
      (grants : n.grant? host asked = some granted)
      (first : ∀ earlier, port ≤ earlier → earlier < asked → n.grant? host earlier = none) :
      Scan n host base port (.ok granted (n.occupy ⟨host, granted⟩ .closed))
  | exhausted (nothing : ∀ asked, port ≤ asked → n.grant? host asked = none) :
      Scan n host base port (.error (.portExhausted base) n)

theorem listenFrom_of_some (grants : n.grant? host port = some granted) :
    listenFrom host base port n = .ok granted (n.occupy ⟨host, granted⟩ .closed) := by
  rw [listenFrom, get_bind, grants]
  rfl

theorem listenFrom_of_none (refused : n.grant? host port = none) :
    listenFrom host base port n =
      if port.toNat + 1 < UInt16.size then listenFrom host base (port + 1) n
      else .error (.portExhausted base) n := by
  rw [listenFrom, get_bind, refused]
  simp only
  split <;> rfl

/-- The ports from one on are this one and those from the next one on. -/
theorem le_iff_eq_or_next_le (more : port.toNat + 1 < UInt16.size) :
    port ≤ asked ↔ asked = port ∨ port + 1 ≤ asked := by
  rw [UInt16.le_iff_toNat_le, UInt16.le_iff_toNat_le, ← UInt16.toNat_inj, toNat_next more]
  omega

/-- No port is beyond the last. -/
theorem eq_of_last (last : ¬port.toNat + 1 < UInt16.size) (beyond : port ≤ asked) : asked = port := by
  have inside := asked.toNat_lt_size
  rw [UInt16.le_iff_toNat_le] at beyond
  rw [← UInt16.toNat_inj]
  omega

/-- A scan that is refused a port comes to what the scan from the next port on comes to. -/
theorem Scan.refused {result : EStateM.Result LaunchError Network UInt16}
    (refused : n.grant? host port = none) (more : port.toNat + 1 < UInt16.size)
    (scan : Scan n host base (port + 1) result) : Scan n host base port result := by
  cases scan with
  | found from_next grants first =>
    refine .found ((le_iff_eq_or_next_le more).2 (.inr from_next)) grants fun earlier above below => ?_
    rcases (le_iff_eq_or_next_le more).1 above with rfl | later
    · exact refused
    · exact first earlier later below
  | exhausted nothing =>
    refine .exhausted fun asked above => ?_
    rcases (le_iff_eq_or_next_le more).1 above with rfl | later
    · exact refused
    · exact nothing asked later

theorem scan_listenFrom (n : Network) (host : IpAddress) (base port : UInt16) :
    Scan n host base port (listenFrom host base port n) := by
  induction port using listenFrom.induct with
  | case1 port ih =>
    cases grants : n.grant? host port with
    | some granted =>
      rw [listenFrom_of_some grants]
      refine .found (UInt16.le_refl _) grants fun earlier above below => ?_
      exact absurd below (UInt16.not_lt.2 above)
    | none =>
      rw [listenFrom_of_none grants]
      split
      · rename_i more
        exact (ih more).refused grants more
      · rename_i last
        refine .exhausted fun asked beyond => ?_
        rw [eq_of_last last beyond]
        exact grants

/-- A port that a session listens at was available, and is held from then on. -/
theorem of_listen_eq_ok (bound : listen host base n = .ok port n') :
    n.IsAvailable host port ∧ n' = n.occupy ⟨host, port⟩ .closed := by
  have scan := scan_listenFrom n host base base
  rw [← listen, bound] at scan
  cases scan with
  | found from_base grants first => exact ⟨isAvailable_of_grant? grants, rfl⟩

section Positive

variable (positive : base ≠ 0)
include positive

theorem grant?_from_base (above : base ≤ asked) :
    n.grant? host asked = if n.IsAvailable host asked then some asked else none := by
  refine grant?_of_positive ?_
  rintro rfl
  exact positive (UInt16.le_antisymm above UInt16.zero_le)

/-- What a scan comes to, in terms of the ports that are available. -/
theorem listen_cases (n : Network) (host : IpAddress) :
    (∃ port, n.IsFirst host base port ∧
      listen host base n = .ok port (n.occupy ⟨host, port⟩ .closed)) ∨
    (∀ port, base ≤ port → ¬n.IsAvailable host port) ∧
      listen host base n = .error (.portExhausted base) n := by
  have scan := scan_listenFrom n host base base
  rw [← listen] at scan
  generalize listen host base n = result at scan
  cases scan with
  | @found asked granted from_base grants first =>
    rw [grant?_from_base positive from_base] at grants
    obtain ⟨available, same⟩ := Option.ite_none_right_eq_some.1 grants
    cases same
    refine .inl ⟨asked, ⟨from_base, available, fun earlier above below => ?_⟩, rfl⟩
    simpa [grant?_from_base positive above] using first earlier above below
  | exhausted nothing =>
    refine .inr ⟨fun port above => ?_, rfl⟩
    simpa [grant?_from_base positive above] using nothing port above

/-- A session listens at the first port that is available from its base on. -/
theorem listen_eq_ok_iff :
    listen host base n = .ok port n' ↔
      n.IsFirst host base port ∧ n' = n.occupy ⟨host, port⟩ .closed := by
  rcases listen_cases positive n host with ⟨port', first, bound⟩ | ⟨nothing, failed⟩
  · rw [bound]
    constructor
    · intro same
      cases same
      exact ⟨first, rfl⟩
    · rintro ⟨first', rfl⟩
      rw [first.unique first']
  · rw [failed]
    constructor
    · intro same
      cases same
    · rintro ⟨first, -⟩
      exact absurd first.available (nothing port first.from_base)

/-- A session finds no port if and only if none is available from its base on up to the last. -/
theorem listen_eq_error_iff {error : LaunchError} :
    listen host base n = .error error n' ↔
      error = .portExhausted base ∧ n' = n ∧ ∀ port, base ≤ port → ¬n.IsAvailable host port := by
  rcases listen_cases positive n host with ⟨port, first, bound⟩ | ⟨nothing, failed⟩
  · rw [bound]
    constructor
    · intro same
      cases same
    · rintro ⟨-, -, nothing⟩
      exact absurd first.available (nothing port first.from_base)
  · rw [failed]
    constructor
    · intro same
      cases same
      exact ⟨rfl, rfl, nothing⟩
    · rintro ⟨rfl, rfl, -⟩
      rfl

end Positive

/-! ## Stages -/

/-- What starting a session comes to: its host does not tell who it is, no port is available, the
descriptor is not published, or the session serves. -/
inductive Startup (config : LaunchConfig) (host : Host) (isOpen : Bool) (n : Network) :
    EStateM.Result LaunchError Network Launched → Prop where
  | unidentified {error : CallError} (silent : ¬(isOpen = true ∧ host.Identifies)) :
      Startup config host isOpen n (.error (.host error) n)
  | crowded (tells : isOpen = true ∧ host.Identifies)
      (unbound : listen config.host config.basePort n = .error (.portExhausted config.basePort) n) :
      Startup config host isOpen n (.error (.portExhausted config.basePort) n)
  | unpublished {port : UInt16} {error : DescriptorError} {files : Files}
      (tells : isOpen = true ∧ host.Identifies)
      (bound : listen config.host config.basePort n =
        .ok port (n.occupy ⟨config.host, port⟩ .closed))
      (failed : Descriptor.publish config.directory
        (SessionIdentity.of host.image.identity port).descriptor n.files = .error error files) :
      Startup config host isOpen n (.error (.descriptor error) { n with files := files })
  | served {port : UInt16} {place : String} {files : Files}
      (tells : isOpen = true ∧ host.Identifies)
      (bound : listen config.host config.basePort n =
        .ok port (n.occupy ⟨config.host, port⟩ .closed))
      (published : Descriptor.publish config.directory
        (SessionIdentity.of host.image.identity port).descriptor n.files = .ok place files) :
      Startup config host isOpen n (.ok ⟨⟨config.host, port⟩, place⟩
        (occupy { n with files := files } ⟨config.host, port⟩
          (.station (config.station ⟨host, n.files, {}⟩ (.of host.image.identity port)))))

theorem identify_of_identifies {host : Host} (identifies : host.Identifies) (n : Network) :
    identify host true n = .ok (host.image.identity, ⟨host, n.files, {}⟩) n := by
  rw [identify, Action.through, if_pos rfl, Action.contained, identifies _ rfl]

theorem identify_of_silent {host : Host} {isOpen : Bool} (silent : ¬(isOpen = true ∧ host.Identifies))
    (n : Network) : ∃ error, identify host isOpen n = .error (.host error) n := by
  rw [identify, Action.through]
  cases isOpen with
  | false => exact ⟨_, rfl⟩
  | true =>
    rw [if_pos rfl, Action.contained]
    cases told : Action.identity ⟨host, n.files, {}⟩ with
    | error stop w => exact ⟨_, rfl⟩
    | ok who w => exact absurd ⟨rfl, Action.identifies_of_ok told⟩ silent

theorem announce_of_ok {dir path : String} {d : Descriptor} {files : Files}
    (published : Descriptor.publish dir d n.files = .ok path files) :
    announce dir d n = .ok path { n with files := files } := by
  rw [announce, published]

theorem announce_of_error {dir : String} {d : Descriptor} {error : DescriptorError} {files : Files}
    (failed : Descriptor.publish dir d n.files = .error error files) :
    announce dir d n = .error (.descriptor error) { n with files := files } := by
  rw [announce, failed]

theorem holding_of_ok {α : Type} {work : Launching α} {a : α} (done : work n = .ok a n') :
    holding e work n = .ok a n' :=
  tryCatch_of_ok done

theorem holding_of_error {α : Type} {work : Launching α} {error : LaunchError}
    (failed : work n = .error error n') : holding e work n = .error error (n'.vacate e) :=
  tryCatch_of_error failed

/-- A launch says which stage it got to. When the descriptor is not published, the port that was held by
then is given up, and only the files differ. -/
theorem startup_launch (config : LaunchConfig) (host : Host) (isOpen : Bool) (n : Network) :
    Startup config host isOpen n (launch config host isOpen n) := by
  by_cases tells : isOpen = true ∧ host.Identifies
  · obtain ⟨rfl, identifies⟩ := tells
    rw [launch, bind_of_ok (identify_of_identifies identifies n)]
    simp only
    cases bound : listen config.host config.basePort n with
    | error error n' =>
      have scan := scan_listenFrom n config.host config.basePort config.basePort
      rw [← listen, bound] at scan
      cases scan with
      | exhausted nothing =>
        rw [bind_of_error bound]
        exact .crowded ⟨rfl, identifies⟩ bound
    | ok port n' =>
      obtain ⟨available, rfl⟩ := of_listen_eq_ok bound
      rw [bind_of_ok bound]
      cases published : Descriptor.publish config.directory
          (SessionIdentity.of host.image.identity port).descriptor n.files with
      | error error files =>
        have failed := announce_of_error (n := n.occupy ⟨config.host, port⟩ .closed) published
        rw [bind_of_error (holding_of_error failed), vacate_occupy available.2]
        exact .unpublished ⟨rfl, identifies⟩ bound published
      | ok place files =>
        have announced := announce_of_ok (n := n.occupy ⟨config.host, port⟩ .closed) published
        have served := serve_occupy n ⟨config.host, port⟩ .closed
          (.station (config.station ⟨host, n.files, {}⟩ (.of host.image.identity port))) files
        have startup : Startup config host true n _ := .served ⟨rfl, identifies⟩ bound published
        rw [← served] at startup
        rw [bind_of_ok (holding_of_ok announced)]
        exact startup
  · obtain ⟨error, failed⟩ := identify_of_silent tells n
    rw [launch, bind_of_error failed]
    exact .unidentified tells

end Network

end Tandem
