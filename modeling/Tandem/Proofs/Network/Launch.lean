import Tandem.Proofs.Network.Delivery
import Tandem.Proofs.Network.Ports

/-! # Sessions that were launched

A session that was launched on the local address is behind a port that was free, and its descriptor
leads there. Launching another session leaves both in place, as long as the keys of the hashes
differ. -/

namespace Tandem

open Tandem.Path (IsName)

/-- A session to be launched, and the port that it gets. Its host has no faults, and the hash of its
image can be a file name. -/
structure Guest where
  config : LaunchConfig
  host : Host
  port : UInt16
  sound : host.Faultless
  named : IsName host.image.hash

namespace Guest

/-- Who the guest is. -/
def identity (guest : Guest) : SessionIdentity := .of guest.host.image.identity guest.port

/-- The guest's station when it has just started, among the files that it found. -/
def station (guest : Guest) (files : Files) : Station :=
  guest.config.station ⟨guest.host, files, {}⟩ guest.identity

/-- The guest is launched on the local address, with its main loop running. -/
def Arrives (guest : Guest) (n n' : Network) : Prop :=
  ∃ place, Network.launch guest.config guest.host true n = .ok ⟨⟨.localhost, guest.port⟩, place⟩ n'

/-- The guest is behind its port as it started, and its descriptor leads there. -/
structure Settled (guest : Guest) (n : Network) : Prop where
  there : ∃ files, n.peers[guest.port]? = some (.station (guest.station files))
  described : Descriptor.read n.files
    (Descriptor.path guest.config.directory guest.identity.descriptor.hash) =
      .ok guest.identity.descriptor

end Guest

namespace Network

variable {n n' : Network}

section Launch

variable {config : LaunchConfig} {host : Host} {port : UInt16} {place : String}
  (launched : launch config host true n = .ok ⟨⟨.localhost, port⟩, place⟩ n')
include launched

/-- A session that was launched on the local address has told who it is, got a port that nobody was
behind, published its descriptor, and serves behind the port. -/
theorem launch_cases :
    host.Identifies ∧ n.peers[port]? = none ∧ ∃ files, Descriptor.publish config.directory
        (SessionIdentity.of host.image.identity port).descriptor n.files = .ok place files ∧
      n' = { n with
        files := files
        peers := n.peers.insert port
          (.station (config.station ⟨host, n.files, {}⟩ (.of host.image.identity port))) } := by
  have startup := startup_launch config host true n
  rw [launched] at startup
  generalize here : (⟨⟨.localhost, port⟩, place⟩ : Launched) = outcome at startup
  cases startup with
  | served tells bound published =>
    obtain ⟨available, -⟩ := of_listen_eq_ok bound
    simp only [Launched.mk.injEq, Endpoint.mk.injEq] at here
    obtain ⟨⟨address, rfl⟩, rfl⟩ := here
    have covers : IpAddress.localhost.covers .localhost = true := by decide
    have plain : IpAddress.localhost.plain = .localhost := rfl
    rw [← address] at available ⊢
    refine ⟨tells.2, ?_, _, published, by simp [occupy, covers, plain]⟩
    exact Std.ExtTreeMap.getElem?_eq_none_of_contains_eq_false (not_contains_of_isFree available.2 covers)

theorem launch_carries : n'.carries = n.carries := by
  obtain ⟨-, -, files, -, rfl⟩ := launch_cases launched
  rfl

/-- Who was there before is still there, behind another port. -/
theorem launch_peer {other : UInt16} {peer : Peer} (there : n.peers[other]? = some peer) :
    n'.peers[other]? = some peer ∧ other ≠ port := by
  obtain ⟨-, vacant, files, -, rfl⟩ := launch_cases launched
  have ports : other ≠ port := by
    rintro rfl
    cases vacant.symm.trans there
  refine ⟨?_, ports⟩
  rw [Std.ExtTreeMap.getElem?_insert, if_neg]
  · exact there
  · simpa using ports.symm

variable (named : IsName host.image.hash)
include named

/-- The descriptor leads to the port. -/
theorem launch_described :
    Descriptor.read n'.files (Descriptor.path config.directory host.image.identity.hash) =
      .ok (SessionIdentity.of host.image.identity port).descriptor := by
  obtain ⟨-, -, files, published, rfl⟩ := launch_cases launched
  exact (Descriptor.publish_ok (ContentHash.isName_key named) published).1

/-- A launch touches no files but the session's descriptor and the draft of it. -/
theorem launch_files :
    n.files.KeepsExcept [Descriptor.fileOf host.image.identity.hash,
      Descriptor.draftOf host.image.identity.hash] n'.files := by
  obtain ⟨-, -, files, published, rfl⟩ := launch_cases launched
  exact (Descriptor.publish_ok (ContentHash.isName_key named) published).2

/-- Descriptors for other hashes are as they were. -/
theorem launch_read {dir hash : String} {d : Descriptor} (named' : IsName hash)
    (apart : ContentHash.key hash ≠ ContentHash.key host.image.hash)
    (reads : Descriptor.read n.files (Descriptor.path dir hash) = .ok d) :
    Descriptor.read n'.files (Descriptor.path dir hash) = .ok d := by
  refine Descriptor.read_keeps (launch_files launched named) named' (Descriptor.fileOf_not_mem ?_) reads
  intro same
  exact apart (same.trans (ContentHash.key_key _))

end Launch

end Network

namespace Guest

variable {guest other : Guest} {n n' : Network}

/-- The machine after the guest was launched, if it got its port. -/
def admitted? (guest : Guest) (n : Network) : Option Network :=
  match Network.launch guest.config guest.host true n with
  | .ok launched n' => if launched.endpoint = ⟨.localhost, guest.port⟩ then some n' else none
  | .error _ _ => none

theorem arrives_of_admitted? (admitted : guest.admitted? n = some n') : guest.Arrives n n' := by
  unfold admitted? at admitted
  cases launched : Network.launch guest.config guest.host true n with
  | error error n'' => simp [launched] at admitted
  | ok place n'' =>
    simp only [launched, Option.ite_none_right_eq_some, Option.some.injEq] at admitted
    obtain ⟨endpoint, rfl⟩ := admitted
    exact ⟨place.descriptorPath, by rw [launched, ← endpoint]⟩

theorem named_descriptor (guest : Guest) : IsName guest.identity.descriptor.hash :=
  ContentHash.isName_key guest.named

theorem Arrives.carries (arrives : guest.Arrives n n') : n'.carries = n.carries := by
  obtain ⟨place, launched⟩ := arrives
  exact Network.launch_carries launched

/-- A launch touches no files but the guest's descriptor and the draft of it. -/
theorem Arrives.files (arrives : guest.Arrives n n') :
    n.files.KeepsExcept [Descriptor.fileOf guest.identity.descriptor.hash,
      Descriptor.draftOf guest.identity.descriptor.hash] n'.files := by
  obtain ⟨place, launched⟩ := arrives
  exact Network.launch_files launched guest.named

/-- A guest that was launched is settled. -/
theorem Arrives.settled (arrives : guest.Arrives n n') : guest.Settled n' := by
  obtain ⟨place, launched⟩ := arrives
  refine ⟨⟨n.files, ?_⟩, Network.launch_described launched guest.named⟩
  obtain ⟨-, -, files, -, rfl⟩ := Network.launch_cases launched
  exact Std.ExtTreeMap.getElem?_insert_self

/-- A guest that is settled stays so when another one is launched. -/
theorem Settled.arrives (settled : guest.Settled n) (arrives : other.Arrives n n')
    (apart : ContentHash.key guest.host.image.hash ≠ ContentHash.key other.host.image.hash) :
    guest.Settled n' ∧ guest.port ≠ other.port := by
  obtain ⟨place, launched⟩ := arrives
  obtain ⟨found, there⟩ := settled.there
  obtain ⟨stays, ports⟩ := Network.launch_peer launched there
  refine ⟨⟨⟨found, stays⟩, ?_⟩, ports⟩
  -- the other guest writes under its own hash
  refine Network.launch_read launched other.named guest.named_descriptor ?_ settled.described
  intro same
  exact apart ((ContentHash.key_key _).symm.trans same)

/-! ## Two guests -/

/-- Two guests are launched, one after the other. -/
def BothArrive (one other : Guest) (n n' : Network) : Prop :=
  (∃ between, one.Arrives n between ∧ other.Arrives between n') ∨
    ∃ between, other.Arrives n between ∧ one.Arrives between n'

/-- Two guests that were launched are both settled, on different ports. -/
theorem BothArrive.settled {one other : Guest} (arrive : BothArrive one other n n')
    (apart : ContentHash.key one.host.image.hash ≠ ContentHash.key other.host.image.hash) :
    one.Settled n' ∧ other.Settled n' ∧ one.port ≠ other.port ∧ n'.carries = n.carries := by
  rcases arrive with ⟨between, first, second⟩ | ⟨between, first, second⟩
  · obtain ⟨stays, ports⟩ := first.settled.arrives second apart
    exact ⟨stays, second.settled, ports, second.carries.trans first.carries⟩
  · obtain ⟨stays, ports⟩ := first.settled.arrives second apart.symm
    exact ⟨second.settled, stays, ports.symm, second.carries.trans first.carries⟩

end Guest

end Tandem
