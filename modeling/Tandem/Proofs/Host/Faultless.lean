import Tandem.Host.Coloring
import Tandem.MainLoop.Call
import Tandem.Proofs.Sequences

/-! # Hosts without faults

On a host without faults the primitives do what they are for. Coloring always ends well and touches
nothing but colors: a workspace after it is `Workspace.Repainted`. Other work may leave more behind,
and `Workspace.Alike` names what it leaves alone. -/

namespace Tandem

/-- No primitive of the host misbehaves. -/
def Host.Faultless (host : Host) : Prop := ∀ p, host.faults p = none

/-- A primitive of the host does not panic. -/
def Host.Returns (host : Host) (p : Primitive) : Prop := ∀ text, host.faults p ≠ some (.panic text)

theorem Host.Faultless.returns {host : Host} (sound : host.Faultless) (p : Primitive) :
    host.Returns p := by
  simp [Returns, sound p]

/-- The host tells who it is, whatever surrounds it. -/
def Host.Identifies (host : Host) : Prop :=
  ∀ w : Workspace, w.host = host → Action.identity w = .ok host.image.identity w

/-- The host after a jump was tried. It stays where it is when its image does not reach that far. -/
def Host.attempted (host : Host) (a : Address) : Host :=
  if host.image.contains a then host.jumped a else host

/-- The host after it was asked to navigate to an offset. -/
def Host.led (host : Host) (offset : Address) : Host := host.attempted (host.image.base.plus offset)

/-- The same workspace but for the colors of items. -/
def Workspace.Repainted (w w' : Workspace) : Prop :=
  ∃ colors writes, w' = { w with host := { w.host with itemColors := colors, colorWrites := writes } }

/-- The same image, with the same faults, among the same files and with the same commands waiting. -/
structure Workspace.Alike (w w' : Workspace) : Prop where
  image : w'.host.image = w.host.image
  faults : w'.host.faults = w.host.faults
  files : w'.files = w.files
  outbox : w'.outbox = w.outbox

namespace Workspace.Alike

variable {w w' w'' : Workspace}

theorem trans (first : w.Alike w') (second : w'.Alike w'') : w.Alike w'' :=
  ⟨second.image.trans first.image, second.faults.trans first.faults,
    second.files.trans first.files, second.outbox.trans first.outbox⟩

theorem faultless (alike : w.Alike w') (sound : w.host.Faultless) : w'.host.Faultless := by
  intro p
  rw [alike.faults]
  exact sound p

end Workspace.Alike

namespace Workspace.Repainted

variable {w w' w'' : Workspace}

theorem refl (w : Workspace) : w.Repainted w := ⟨_, _, rfl⟩

theorem trans (first : w.Repainted w') (second : w'.Repainted w'') : w.Repainted w'' := by
  obtain ⟨_, _, rfl⟩ := first
  obtain ⟨_, _, rfl⟩ := second
  exact ⟨_, _, rfl⟩

theorem alike (repainted : w.Repainted w') : w.Alike w' := by
  obtain ⟨_, _, rfl⟩ := repainted
  exact ⟨rfl, rfl, rfl, rfl⟩

theorem faultless (repainted : w.Repainted w') (sound : w.host.Faultless) : w'.host.Faultless :=
  repainted.alike.faultless sound

end Workspace.Repainted

/-! ## Navigation -/

namespace Host

variable {host : Host}

@[simp] theorem attempted_image (host : Host) (a : Address) :
    (host.attempted a).image = host.image := by
  unfold attempted
  split <;> rfl

@[simp] theorem attempted_faults (host : Host) (a : Address) :
    (host.attempted a).faults = host.faults := by
  unfold attempted
  split <;> rfl

theorem Faultless.attempted (sound : host.Faultless) (a : Address) : (host.attempted a).Faultless := by
  intro p
  rw [attempted_faults]
  exact sound p

@[simp] theorem led_image (offset : Address) : (host.led offset).image = host.image :=
  host.attempted_image _

theorem Faultless.led (sound : host.Faultless) (offset : Address) : (host.led offset).Faultless :=
  sound.attempted _

@[simp] theorem image_foldl_led (host : Host) (offsets : List Address) :
    (offsets.foldl led host).image = host.image := by
  induction offsets generalizing host with
  | nil => rfl
  | cons offset offsets ih => rw [List.foldl_cons, ih, led_image]

/-- A host that is led from offset to offset jumps to those that its image reaches. -/
theorem foldl_led (host : Host) (offsets : List Address) :
    offsets.foldl led host =
      ((offsets.map host.image.base.plus).filter host.image.contains).foldl jumped host := by
  induction offsets generalizing host with
  | nil => rfl
  | cons offset offsets ih =>
    rw [List.foldl_cons, ih, led_image, List.map_cons, List.filter_cons, led, attempted]
    split <;> rfl

theorem jumps_foldl_jumped (host : Host) (addresses : List Address) :
    (addresses.foldl jumped host).jumps = host.jumps ++ addresses := by
  induction addresses generalizing host with
  | nil => simp
  | cons a addresses ih => simp [ih, jumped]

end Host

namespace Action

variable {α β : Type} {w w' : Workspace}

/-- Work that ends well and touches nothing but the colors of items. -/
def Paints (x : Action α) (w : Workspace) : Prop := ∃ a w', x w = .ok a w' ∧ w.Repainted w'

theorem paints_of_ok {x : Action α} {a : α} (done : x w = .ok a w') (repainted : w.Repainted w') :
    x.Paints w := ⟨a, w', done, repainted⟩

theorem Paints.bind {x : Action α} {f : α → Action β} (first : x.Paints w)
    (rest : ∀ a w', w.Repainted w' → (f a).Paints w') : (x >>= f).Paints w := by
  obtain ⟨a, w', done, repainted⟩ := first
  obtain ⟨b, w'', done', repainted'⟩ := rest a w' repainted
  exact ⟨b, w'', by rw [bind_of_ok done, done'], repainted.trans repainted'⟩

/-! ## Primitives -/

theorem host_ok (w : Workspace) : (host : Action Host) w = .ok w.host w := rfl

theorem guarded_returns {p : Primitive} (returns : w.host.Returns p) : guarded p w = .ok () w := by
  rw [guarded, bind_of_ok (host_ok w)]
  cases fault : w.host.faults p with
  | none => rfl
  | some kind =>
    cases kind with
    | panic text => exact absurd fault (returns text)
    | fail reason => rfl
    | plain => rfl

theorem returns_of_guarded_ok {p : Primitive} (done : guarded p w = .ok () w') :
    w.host.Returns p := by
  intro text fault
  rw [guarded, bind_of_ok (host_ok w), fault] at done
  cases done

theorem imageBase_returns (returns : w.host.Returns .imageBase) :
    imageBase w = .ok w.host.image.base w := by
  rw [imageBase, bind_of_ok (guarded_returns returns)]
  rfl

theorem itemSize_returns (returns : w.host.Returns .itemSize) (a : Address) :
    itemSize a w = .ok (w.host.image.itemSize a) w := by
  rw [itemSize, bind_of_ok (guarded_returns returns)]
  rfl

theorem shortName?_returns (returns : w.host.Returns .shortName) (a : Address) :
    shortName? a w = .ok (w.host.image.shortName? a) w := by
  rw [shortName?, bind_of_ok (guarded_returns returns)]
  rfl

theorem setItemColor_returns (returns : w.host.Returns .setItemColor) (a : Address) (color : Color) :
    setItemColor a color w = .ok () { w with host := w.host.colored a color } := by
  rw [setItemColor, bind_of_ok (guarded_returns returns)]
  rfl

theorem refusable_cases {p : Primitive} (returns : w.host.Returns p) :
    refusable p w = .ok () w ∨ ∃ error, refusable p w = .error (.error error) w := by
  rw [refusable, bind_of_ok (host_ok w)]
  cases fault : w.host.faults p with
  | none => exact .inl rfl
  | some kind =>
    cases kind with
    | panic text => exact absurd fault (returns text)
    | fail reason => exact .inr ⟨.failed reason, rfl⟩
    | plain => exact .inl rfl

/-- A jump that does not panic is made, or it is rejected and changes nothing. -/
theorem jumpTo_cases (returns : w.host.Returns .jumpTo) (a : Address) :
    jumpTo a w = .ok () { w with host := w.host.jumped a } ∨
      ∃ error, jumpTo a w = .error (.error error) w := by
  obtain passed | ⟨error, failed⟩ := refusable_cases returns
  · rw [jumpTo, bind_of_ok passed, bind_of_ok (host_ok w)]
    by_cases inside : w.host.image.contains a = true
    · rw [if_pos inside]
      exact .inl rfl
    · rw [if_neg inside]
      exact .inr ⟨.invalidAddress a, rfl⟩
  · exact .inr ⟨error, bind_of_error failed⟩

theorem imageBase_of_ok {base : Address} (done : imageBase w = .ok base w') :
    base = w.host.image.base ∧ w' = w := by
  obtain ⟨_, _, passed, -⟩ := of_bind_ok done
  rw [imageBase_returns (returns_of_guarded_ok passed)] at done
  cases done
  exact ⟨rfl, rfl⟩

theorem itemSize_of_ok {a : Address} {size : UInt64} (done : itemSize a w = .ok size w') :
    size = w.host.image.itemSize a ∧ w' = w := by
  obtain ⟨_, _, passed, -⟩ := of_bind_ok done
  rw [itemSize_returns (returns_of_guarded_ok passed)] at done
  cases done
  exact ⟨rfl, rfl⟩

theorem shortName?_of_ok {a : Address} {name : Option String} (done : shortName? a w = .ok name w') :
    name = w.host.image.shortName? a ∧ w' = w := by
  obtain ⟨_, _, passed, -⟩ := of_bind_ok done
  rw [shortName?_returns (returns_of_guarded_ok passed)] at done
  cases done
  exact ⟨rfl, rfl⟩

section

variable (sound : w.host.Faultless)
include sound

theorem guarded_faultless (p : Primitive) : guarded p w = .ok () w :=
  guarded_returns (sound.returns p)

theorem refusable_faultless (p : Primitive) : refusable p w = .ok () w := by
  rw [refusable, bind_of_ok (host_ok w), sound p]
  rfl

theorem imageBase_faultless : imageBase w = .ok w.host.image.base w :=
  imageBase_returns (sound.returns _)

theorem itemSize_faultless (a : Address) : itemSize a w = .ok (w.host.image.itemSize a) w :=
  itemSize_returns (sound.returns _) a

theorem shortName?_faultless (a : Address) :
    shortName? a w = .ok (w.host.image.shortName? a) w :=
  shortName?_returns (sound.returns _) a

theorem setItemColor_faultless (a : Address) (color : Color) :
    setItemColor a color w = .ok () { w with host := w.host.colored a color } :=
  setItemColor_returns (sound.returns _) a color

theorem identity_faultless : identity w = .ok w.host.image.identity w := by
  have hash : contentHash w = .ok w.host.image.hash w := by
    rw [contentHash, bind_of_ok (guarded_faultless sound _)]
    rfl
  have root : rootFilename w = .ok w.host.image.rootFilename w := by
    rw [rootFilename, bind_of_ok (guarded_faultless sound _)]
    rfl
  rw [identity, bind_of_ok hash, bind_of_ok root]
  rfl

theorem jumpTo_faultless (a : Address) :
    jumpTo a w = if w.host.image.contains a then .ok () { w with host := w.host.jumped a }
      else .error (.error (.invalidAddress a)) w := by
  rw [jumpTo, bind_of_ok (refusable_faultless sound _), bind_of_ok (host_ok w)]
  split <;> rfl

theorem jumpToOffset_faultless (offset : Address) :
    jumpToOffset offset w =
      if w.host.image.contains (w.host.image.base.plus offset) then
        .ok (w.host.image.base.plus offset)
          { w with host := w.host.jumped (w.host.image.base.plus offset) }
      else .error (.error (.invalidAddress (w.host.image.base.plus offset))) w := by
  have jump := jumpTo_faultless sound (w.host.image.base.plus offset)
  rw [jumpToOffset, bind_of_ok (imageBase_faultless sound)]
  split at jump
  · rename_i inside
    rw [bind_of_ok jump, if_pos inside]
    rfl
  · rename_i outside
    rw [bind_of_error jump, if_neg outside]

theorem showTable_faultless (table : Table) :
    showTable table w = .ok () { w with host := w.host.shown table } := by
  rw [showTable, bind_of_ok (refusable_faultless sound _), bind_of_ok (host_ok w), if_neg]
  · rfl
  · simp [sound .showMatchView]

end

/-! ## Identity -/

/-- A primitive panics on a host or it does not, whatever surrounds the host. -/
theorem guarded_cases (p : Primitive) (host : Host) :
    (∀ w : Workspace, w.host = host → guarded p w = .ok () w) ∨
      ∃ stop, ∀ w : Workspace, w.host = host → guarded p w = .error stop w := by
  cases fault : host.faults p with
  | none =>
    left
    rintro w rfl
    rw [guarded, bind_of_ok (host_ok w), fault]
    rfl
  | some kind =>
    cases kind with
    | panic text =>
      right
      refine ⟨.panic (some text), ?_⟩
      rintro w rfl
      rw [guarded, bind_of_ok (host_ok w), fault]
      rfl
    | _ =>
      left
      rintro w rfl
      rw [guarded, bind_of_ok (host_ok w), fault]
      rfl

/-- A host that has once told who it is will tell so again. -/
theorem identifies_of_ok {who : HostIdentity} (told : identity w = .ok who w') :
    w.host.Identifies := by
  rcases guarded_cases .contentHash w.host with hash | ⟨stop, panics⟩
  · rcases guarded_cases .rootFilename w.host with root | ⟨stop, panics⟩
    · intro v same
      have first : contentHash v = .ok v.host.image.hash v := bind_of_ok (hash v same)
      have second : rootFilename v = .ok v.host.image.rootFilename v := bind_of_ok (root v same)
      rw [identity, bind_of_ok first, bind_of_ok second, ← same]
      rfl
    · have first : contentHash w = .ok w.host.image.hash w := bind_of_ok (hash w rfl)
      have second : rootFilename w = .error stop w := bind_of_error (panics w rfl)
      rw [identity, bind_of_ok first, bind_of_error second] at told
      cases told
  · have first : contentHash w = .error stop w := bind_of_error (panics w rfl)
    rw [identity, bind_of_error first] at told
    cases told

/-! ## Coloring -/

section

variable (sound : w.host.Faultless)
include sound

theorem paints_setItemColor (a : Address) (color : Color) : (setItemColor a color).Paints w :=
  paints_of_ok (setItemColor_faultless sound a color) ⟨_, _, rfl⟩

end

/-- Walks end well, since every step of them does. -/
theorem paints_colorFrom (sound : w.host.Faultless) (stop : Address) (color : Color) (a : Address)
    (count : Nat) : (colorFrom stop color a count).Paints w := by
  -- along the walk itself: the host changes color by color, so it varies with the address
  induction a, count using colorFrom.induct stop generalizing w with
  | case1 a count before ih =>
    rw [colorFrom, dif_pos before]
    refine (paints_setItemColor sound a color).bind fun _ w' repainted => ?_
    have sound' := repainted.faultless sound
    refine (paints_of_ok (itemSize_faultless sound' a) (.refl w')).bind fun size w'' repainted' => ?_
    exact ih size (repainted'.faultless sound')
  | case2 a count done =>
    rw [colorFrom, dif_neg done]
    exact paints_of_ok rfl (.refl w)

theorem paints_colorRange (sound : w.host.Faultless) (start stop : Address) (color : Color) :
    (colorRange start stop color).Paints w := by
  refine (paints_of_ok (imageBase_faultless sound) (.refl w)).bind fun base w' repainted => ?_
  exact paints_colorFrom (repainted.faultless sound) _ color _ 0

end Action

theorem Host.Faultless.identifies {host : Host} (sound : host.Faultless) : host.Identifies := by
  rintro w rfl
  exact Action.identity_faultless sound

/-- An image without items and functions. -/
def Image.Sample.bare : Image := ⟨"0a1b", "left", "", 0x1000, 0x100, 4, [], []⟩

end Tandem
