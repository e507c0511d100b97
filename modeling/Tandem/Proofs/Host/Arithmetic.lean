import Mathlib.Algebra.GroupWithZero.Nat
import Tandem.Proofs.Host.Changes

/-! # Work with words

Work on a host adds and subtracts addresses and counts what it does. The actions count with numbers
that never run out. A machine counts with words, and panics at the first result for which there is no
word. `Checked` holds the same work as such a machine does it, and the two are compared.

* `Calculation` is one operation on words, and `Calculation.run` panics when nothing comes out.
* `Host.writes` is how often items of a host were colored. It bounds every count of items.
* `Action.Tallies` is coloring that adds what it colors to a count: as long as words suffice for the
  writes of the host, the machine comes to the same.

Positions in lists are not calculated here: there is a word for every position in a list that is in
memory. -/

namespace Tandem

/-- A calculation with words. -/
inductive Calculation where
  | sum (a b : Nat)
  | difference (a b : Nat)
  | product (a b : Nat)
  deriving DecidableEq, Repr

namespace Calculation

/-- What comes out, if there is a word for it. -/
def result? : Calculation → Option Nat
  | .sum a b => if a + b < UInt64.size then some (a + b) else none
  | .difference a b => if b ≤ a then some (a - b) else none
  | .product a b => if a * b < UInt64.size then some (a * b) else none

/-- The panic when there is none. -/
def overflow : Calculation → Stop
  | .sum _ _ => .overflow
  | .difference _ _ => .panic (some "attempt to subtract with overflow")
  | .product _ _ => .panic (some "attempt to multiply with overflow")

def run (c : Calculation) : Action Nat :=
  match c.result? with
  | some n => pure n
  | none => throw c.overflow

theorem run_sum {a b : Nat} (fits : a + b < UInt64.size) : (sum a b).run = pure (a + b) := by
  simp [run, result?, fits]

theorem run_difference {a b : Nat} (fits : b ≤ a) : (difference a b).run = pure (a - b) := by
  simp [run, result?, fits]

theorem run_product {a b : Nat} (fits : a * b < UInt64.size) :
    (product a b).run = pure (a * b) := by
  simp [run, result?, fits]

end Calculation

/-- The list is in memory, which has room for half as many items as there are words. -/
def Held {α : Type} (items : List α) : Prop := items.length * 2 < UInt64.size

/-- The functions of the image are in memory with all their blocks. -/
def Image.Held (image : Image) : Prop := ∀ f ∈ image.functions, Tandem.Held f.blocks

/-! ## Writes -/

namespace Host

/-- How often the item at an address was colored. -/
def writesAt (host : Host) (a : Address) : Nat := host.colorWrites.getD a 0

/-- How often items were colored. -/
def writes (host : Host) : Nat := (host.colorWrites.toList.map (·.2)).sum

theorem writes_load (image : Image) (faults : Primitive → Option Fault) :
    (load image faults).writes = 0 := rfl

theorem writesAt_colored (host : Host) (b a : Address) (color : Color) :
    (host.colored b color).writesAt a = host.writesAt a + if b = a then 1 else 0 := by
  rw [writesAt, writesAt, colored, Std.ExtTreeMap.getD_insert]
  by_cases here : b = a
  · subst here
    simp
  · simp [here]

theorem nodup_colorWrites (host : Host) : host.colorWrites.toList.Nodup := by
  refine Std.ExtTreeMap.distinct_keys_toList.imp fun apart same => apart ?_
  rw [same]
  exact Std.ReflCmp.compare_self

/-- How often items other than the one at an address were colored. -/
def writesBeside (host : Host) (a : Address) : Nat :=
  ((host.colorWrites.toList.filter (·.1 ≠ a)).map (·.2)).sum

theorem writes_eq (host : Host) (a : Address) : host.writes = host.writesAt a + host.writesBeside a := by
  have own : (host.colorWrites.toList.filter (·.1 = a)).Perm
      (host.colorWrites[a]?.map (a, ·)).toList := by
    refine (List.perm_ext_iff_of_nodup (host.nodup_colorWrites.filter _) ?_).2 fun (b, writes) => ?_
    · cases host.colorWrites[a]? <;> simp
    · rw [List.mem_filter, Std.ExtTreeMap.mem_toList_iff_getElem?_eq_some]
      by_cases same : b = a
      · subst same
        simp
      · simp [same, Ne.symm same]
  have split := List.filter_append_perm (fun entry : Address × Nat => entry.1 = a)
    host.colorWrites.toList
  have total := ((own.append_right _).symm.trans split).map (·.2) |>.sum_nat
  rw [writes, ← total, writesAt, writesBeside, Std.ExtTreeMap.getD_eq_getD_getElem?]
  cases host.colorWrites[a]? <;> simp

theorem writesAt_le (host : Host) (a : Address) : host.writesAt a ≤ host.writes := by
  rw [host.writes_eq a]
  exact Nat.le_add_right _ _

theorem writes_colored (host : Host) (a : Address) (color : Color) :
    (host.colored a color).writes = host.writes + 1 := by
  have here := host.writesAt_colored a a color
  rw [if_pos rfl] at here
  have elsewhere : (host.colored a color).writesBeside a = host.writesBeside a := by
    refine List.Perm.sum_nat (List.Perm.map _ ?_)
    refine (List.perm_ext_iff_of_nodup (nodup_colorWrites _ |>.filter _)
      (nodup_colorWrites _ |>.filter _)).2 ?_
    intro (b, writes)
    simp only [List.mem_filter, Std.ExtTreeMap.mem_toList_iff_getElem?_eq_some, colored,
      Std.ExtTreeMap.getElem?_insert]
    by_cases same : b = a
    · simp [same]
    · simp [same, Ne.symm same]
  rw [writes_eq _ a, host.writes_eq a, here, elsewhere]
  omega

end Host

/-- No change takes a write back. -/
theorem Workspace.Becomes.writes_le {w w' : Workspace} (becomes : w.Becomes w') :
    w.host.writes ≤ w'.host.writes := by
  refine becomes.invariant (P := fun v => w.host.writes ≤ v.host.writes) (fun {v v'} change low => ?_)
    (Nat.le_refl _)
  cases change with
  | edited edit =>
    cases edit with
    | colored a color =>
      rw [Host.writes_colored]
      exact Nat.le_succ_of_le low
    | _ => exact low
  | exported written => exact low

/-! ## Navigation -/

namespace Checked

open Tandem.Action (host refusable guarded modifyHost refuse imageBase itemSize)

def contains (image : Image) (a : Address) : Action Bool :=
  if image.base ≤ a then do
    let offset ← (Calculation.difference a.toNat image.base.toNat).run
    return offset < image.size.toNat
  else return false

def jumpTo (a : Address) : Action Unit := do
  refusable .jumpTo
  if ← contains (← host).image a then modifyHost (·.jumped a) else refuse (.invalidAddress a)

def jumpToOffset (offset : Address) : Action Address := do
  let address := (← imageBase).plus offset
  jumpTo address
  return address

/-- An address is compared with the base before the base is taken off. -/
@[simp] theorem contains_eq (image : Image) (a : Address) : contains image a = pure (image.contains a) := by
  rw [contains, Image.contains]
  split
  · rename_i above
    have le := UInt64.le_iff_toNat_le.1 above
    rw [Calculation.run_difference le]
    simp [above, UInt64.lt_iff_toNat_lt, UInt64.toNat_sub_of_le a image.base above]
  · rename_i below
    simp [below]

@[simp] theorem jumpTo_eq (a : Address) : jumpTo a = Action.jumpTo a := by
  simp [jumpTo, Action.jumpTo]

@[simp] theorem jumpToOffset_eq (offset : Address) : jumpToOffset offset = Action.jumpToOffset offset := by
  simp [jumpToOffset, Action.jumpToOffset]

/-! ## Items -/

def setItemColor (a : Address) (color : Color) : Action Unit := do
  guarded .setItemColor
  let writes ← (Calculation.sum ((← host).writesAt a) 1).run
  modifyHost fun host => { host with
    itemColors := host.itemColors.insert a color
    colorWrites := host.colorWrites.insert a writes }

def colorFrom (stop : Address) (color : Color) (address : Address) (count : Nat) : Action Nat :=
  if _before : address < stop then do
    setItemColor address color
    let total ← (Calculation.sum count 1).run
    let size ← itemSize address
    colorFrom stop color (address.plus (Action.stride size)) total
  else return count
termination_by stop.toNat - address.toNat
decreasing_by
  have := UInt64.lt_iff_toNat_lt.1 (Action.lt_plus_of_lt _before (Action.stride_pos size))
  have := UInt64.lt_iff_toNat_lt.1 _before
  omega

def colorRange (start stop : Address) (color : Color) : Action Nat := do
  let base ← imageBase
  colorFrom (base.plus stop) color (base.plus start) 0

end Checked

namespace Action

variable {w : Workspace}

/-- Work that colors items and adds them to a count. It ends well, and as long as there are words for
the writes of the host and for the count, a machine comes to the same. -/
def Tallies (checked work : Nat → Action Nat) (w : Workspace) : Prop :=
  ∃ n w', w.Repainted w' ∧ w'.host.writes = w.host.writes + n ∧
    ∀ count, work count w = .ok (count + n) w' ∧
      (w'.host.writes < UInt64.size → count + n < UInt64.size → checked count w = .ok (count + n) w')

/-- Work that colors items and counts them. -/
def Tallied (checked work : Action Nat) (w : Workspace) : Prop :=
  ∃ n w', w.Repainted w' ∧ w'.host.writes = w.host.writes + n ∧ work w = .ok n w' ∧
    (w'.host.writes < UInt64.size → checked w = .ok n w')

theorem Tallies.tallied {checked work : Nat → Action Nat} (tallies : Tallies checked work w) :
    Tallied (checked 0) (work 0) w := by
  obtain ⟨n, w', repainted, more, counted⟩ := tallies
  obtain ⟨done, machine⟩ := counted 0
  rw [Nat.zero_add] at done machine
  exact ⟨n, w', repainted, more, done, fun few => machine few (by omega)⟩

theorem tallies_pure : Tallies pure pure w :=
  ⟨0, w, .refl w, rfl, fun _ => ⟨rfl, fun _ _ => rfl⟩⟩

/-- What is counted first is added before the rest is counted. -/
theorem Tallied.add {first' first : Action Nat} {rest' rest : Nat → Action Nat}
    (counted : Tallied first' first w) (tallies : ∀ w', w.Repainted w' → Tallies rest' rest w') :
    Tallies (fun count => do rest' (← (Calculation.sum count (← first')).run))
      (fun count => do rest (count + (← first))) w := by
  obtain ⟨n, w', repainted, more, done, machine⟩ := counted
  obtain ⟨m, w'', repainted', more', counted'⟩ := tallies w' repainted
  refine ⟨n + m, w'', repainted.trans repainted', by omega, fun count => ?_⟩
  obtain ⟨done', machine'⟩ := counted' (count + n)
  rw [← Nat.add_assoc]
  refine ⟨(bind_of_ok done).trans done', fun few fits => (bind_of_ok (machine (by omega))).trans ?_⟩
  rw [Calculation.run_sum (by omega), pure_bind]
  exact machine' few fits

theorem setItemColor_checked (sound : w.host.Faultless) {a : Address}
    (few : w.host.writes + 1 < UInt64.size) (color : Color) :
    Checked.setItemColor a color w = setItemColor a color w := by
  have fits : w.host.writesAt a + 1 < UInt64.size := by
    have := w.host.writesAt_le a
    omega
  rw [Checked.setItemColor, setItemColor, bind_of_ok (guarded_faultless sound _),
    bind_of_ok (guarded_faultless sound _), bind_of_ok (host_ok w), Calculation.run_sum fits, pure_bind]
  rfl

theorem tallies_colorFrom (sound : w.host.Faultless) (stop : Address) (color : Color) (a : Address) :
    Tallies (Checked.colorFrom stop color a) (colorFrom stop color a) w := by
  -- along the walk; the count that the walk starts with plays no part
  obtain ⟨count, -⟩ : ∃ count : Nat, count = 0 := ⟨0, rfl⟩
  induction a, count using colorFrom.induct stop generalizing w with
  | case1 a count before ih =>
    obtain ⟨n, w', repainted, more, counted⟩ :=
      ih (w.host.image.itemSize a) (w := { w with host := w.host.colored a color }) sound
    rw [Host.writes_colored] at more
    have colored := setItemColor_faultless sound a color
    have sized := itemSize_faultless (w := { w with host := w.host.colored a color }) sound a
    refine ⟨n + 1, w', .trans ⟨_, _, rfl⟩ repainted, by omega, fun count => ?_⟩
    obtain ⟨done, machine⟩ := counted (count + 1)
    rw [Nat.add_right_comm, Nat.add_assoc] at done machine
    rw [colorFrom, dif_pos before, Checked.colorFrom, dif_pos before]
    refine ⟨?_, fun few fits => ?_⟩
    · rw [bind_of_ok colored, bind_of_ok sized]
      exact done
    · rw [bind_of_ok ((setItemColor_checked sound (by omega) color).trans colored),
        Calculation.run_sum (by omega), pure_bind, bind_of_ok sized]
      exact machine few fits
  | case2 a count done =>
    refine ⟨0, w, .refl w, rfl, fun count => ?_⟩
    rw [colorFrom, dif_neg done, Checked.colorFrom, dif_neg done]
    exact ⟨rfl, fun _ _ => rfl⟩

theorem tallied_colorRange (sound : w.host.Faultless) (start stop : Address) (color : Color) :
    Tallied (Checked.colorRange start stop color) (colorRange start stop color) w := by
  have base := imageBase_faultless sound
  obtain ⟨n, w', repainted, more, done, machine⟩ :=
    (tallies_colorFrom sound (w.host.image.base.plus stop) color
      (w.host.image.base.plus start)).tallied
  exact ⟨n, w', repainted, more, (bind_of_ok base).trans done,
    fun few => (bind_of_ok base).trans (machine few)⟩

end Action

/-! ## Nodes -/

namespace Checked

open Tandem.Action (refuse imageBase flowchart setNodeColors)

def colorBlocks (function : Address) (colors : NodeColors) : List FlowBlock → Nat → Action Nat
  | [], count => return count
  | b :: rest, count => do
    setNodeColors function b.id colors
    colorBlocks function colors rest (← (Calculation.sum count 1).run)

def colorNodes (offsets : List Address) (colors : NodeColors) : Action Nat := do
  match offsets with
  | [] => return 0
  | first :: _ =>
    let base ← imageBase
    let anchor := base.plus first
    match ← flowchart anchor with
    | none => refuse (.functionNotFound anchor)
    | some chart =>
      let wanted := offsets.map base.plus
      colorBlocks chart.function colors (chart.blocks.filter (wanted.contains ·.start)) 0

theorem colorBlocks_eq {function : Address} {colors : NodeColors} {blocks : List FlowBlock} {count : Nat}
    (fits : count + blocks.length < UInt64.size) :
    colorBlocks function colors blocks count = Action.colorBlocks function colors blocks count := by
  induction blocks generalizing count with
  | nil => rfl
  | cons b blocks ih =>
    rw [List.length_cons] at fits
    have rest := @ih (count + 1) (by omega)
    rw [colorBlocks, Action.colorBlocks, Calculation.run_sum (by omega)]
    simp only [pure_bind, rest]

end Checked

namespace Image

variable {image : Image} {a : Address}

/-- The function that covers an address has no blocks, and a block made up for it would end beyond the
greatest address. -/
def Overflows (image : Image) (a : Address) : Prop :=
  ∃ f, image.functionAt? a = some f ∧ f.blocks = [] ∧
    Address.greatest < f.address.toNat + image.defaultItemSize.toNat

theorem overflows_of_flowchart {stop : Stop} (failed : image.flowchart a = .error stop) :
    stop = .overflow ∧ image.Overflows a := by
  rw [flowchart] at failed
  cases found : image.functionAt? a with
  | none =>
    rw [found] at failed
    cases failed
  | some f =>
    simp only [found, chartOf] at failed
    by_cases bare : f.blocks.isEmpty = true
    · rw [if_pos bare] at failed
      by_cases fits : f.address.toNat + image.defaultItemSize.toNat ≤ Address.greatest
      · simp [fits, Except.map] at failed
      · simp only [fits, Except.map, ↓reduceIte, Except.error.injEq] at failed
        exact ⟨failed.symm, f, found, List.isEmpty_iff.1 bare, Nat.lt_of_not_le fits⟩
    · rw [if_neg bare] at failed
      cases failed

/-- The blocks of a chart are those of a function, or there is one. -/
theorem Held.chart (held : image.Held) {chart : FlowChart} (found : image.flowchart a = .ok (some chart)) :
    chart.blocks.length < UInt64.size := by
  rw [flowchart] at found
  cases there : image.functionAt? a with
  | none => simp [there] at found
  | some f =>
    have short : f.blocks.length * 2 < UInt64.size := held f (List.mem_of_find?_eq_some there)
    simp only [there, chartOf] at found
    by_cases bare : f.blocks.isEmpty = true
    · rw [if_pos bare] at found
      by_cases fits : f.address.toNat + image.defaultItemSize.toNat ≤ Address.greatest
      · simp only [fits, Except.map, ↓reduceIte, Except.ok.injEq, Option.some.injEq] at found
        simp [← found, UInt64.size]
      · simp [fits, Except.map] at found
    · simp only [bare, Except.map, Bool.false_eq_true, ↓reduceIte, Except.ok.injEq,
        Option.some.injEq] at found
      rw [← found, List.length_mapIdx]
      omega

end Image

namespace Action

variable {α : Type} {w w' : Workspace}

/-- Work that does not panic. -/
def Calm (x : Action α) (w : Workspace) : Prop := ∀ text w', x w ≠ .error (.panic text) w'

theorem calm_of_ok {x : Action α} {a : α} (done : x w = .ok a w') : x.Calm w := by
  intro text w'' panics
  rw [done] at panics
  cases panics

theorem discard_congr {x' x : Action α} (same : x' w = x w) : discard x' w = discard x w := by
  simp [discard, Functor.mapConst, EStateM.map, same]

theorem calm_of_error {x : Action α} {error : HostError} (failed : x w = .error (.error error) w') :
    x.Calm w := by
  intro text w'' panics
  rw [failed] at panics
  cases panics

variable (sound : w.host.Faultless)
include sound

theorem flowchart_faultless (a : Address) : flowchart a w = ofExcept (w.host.image.flowchart a) w := by
  rw [flowchart, bind_of_ok (guarded_faultless sound _), bind_of_ok (host_ok w)]

theorem colorNodes_checked (held : w.host.image.Held) (offsets : List Address) (colors : NodeColors) :
    Checked.colorNodes offsets colors w = colorNodes offsets colors w := by
  cases offsets with
  | nil => rfl
  | cons first rest =>
    simp only [Checked.colorNodes, colorNodes]
    rw [bind_of_ok (imageBase_faultless sound), bind_of_ok (imageBase_faultless sound)]
    have charted := flowchart_faultless sound (w.host.image.base.plus first)
    cases found : w.host.image.flowchart (w.host.image.base.plus first) with
    | error stop =>
      rw [found] at charted
      rw [bind_of_error charted, bind_of_error charted]
    | ok chart =>
      rw [found] at charted
      rw [bind_of_ok charted, bind_of_ok charted]
      cases chart with
      | none => rfl
      | some chart =>
        have short := held.chart found
        have fewer := List.length_filter_le
          (fun b : FlowBlock => ((first :: rest).map w.host.image.base.plus).contains b.start) chart.blocks
        simp only
        rw [Checked.colorBlocks_eq (by omega)]

theorem setNodeColors_of_ok {function : Address} {chart : Option FlowChart}
    (found : w.host.image.flowchart function = .ok chart) (id : Nat) (colors : NodeColors) :
    (∃ error, setNodeColors function id colors w = .error (.error error) w) ∨
      setNodeColors function id colors w =
        .ok () { w with host := w.host.nodeColored function id colors } := by
  rw [setNodeColors, bind_of_ok (refusable_faultless sound _), bind_of_ok (host_ok w), found]
  cases chart with
  | none => exact .inl ⟨_, rfl⟩
  | some chart =>
    simp only [ofExcept, pure_bind]
    split
    · exact .inl ⟨_, rfl⟩
    · split
      · exact .inr rfl
      · exact .inl ⟨_, rfl⟩

/-- Once there is a chart, coloring its nodes does not panic. -/
theorem calm_colorBlocks {function : Address} {chart : Option FlowChart}
    (found : w.host.image.flowchart function = .ok chart) (colors : NodeColors)
    (blocks : List FlowBlock) (count : Nat) : (colorBlocks function colors blocks count).Calm w := by
  induction blocks generalizing w count with
  | nil => exact calm_of_ok rfl
  | cons b blocks ih =>
    obtain ⟨error, failed⟩ | done := setNodeColors_of_ok sound found b.id colors
    · exact calm_of_error (bind_of_error failed)
    · intro text w' panics
      rw [colorBlocks, bind_of_ok done] at panics
      exact ih (w := { w with host := w.host.nodeColored function b.id colors }) sound found (count + 1)
        text w' panics

/-- Coloring nodes panics over a function without blocks, before it has colored any. -/
theorem colorNodes_panics {offsets : List Address} {colors : NodeColors} {text : Option String}
    (panics : colorNodes offsets colors w = .error (.panic text) w') :
    w' = w ∧ .panic text = Stop.overflow ∧ ∃ a, w.host.image.Overflows a := by
  cases offsets with
  | nil => cases panics
  | cons first rest =>
    simp only [colorNodes] at panics
    rw [bind_of_ok (imageBase_faultless sound)] at panics
    have charted := flowchart_faultless sound (w.host.image.base.plus first)
    cases found : w.host.image.flowchart (w.host.image.base.plus first) with
    | error stop =>
      rw [found] at charted
      rw [bind_of_error charted] at panics
      cases panics
      obtain ⟨kind, overflows⟩ := Image.overflows_of_flowchart found
      exact ⟨rfl, kind, _, overflows⟩
    | ok chart =>
      rw [found] at charted
      rw [bind_of_ok charted] at panics
      cases chart with
      | none => cases panics
      | some chart =>
        simp only at panics
        -- the function of the chart is looked up again for every node, and not always found itself
        cases own : w.host.image.flowchart chart.function with
        | ok again => exact absurd panics (calm_colorBlocks sound own colors _ 0 text w')
        | error stop =>
          obtain ⟨kind, overflows⟩ := Image.overflows_of_flowchart own
          generalize chart.blocks.filter _ = blocks at panics
          cases blocks with
          | nil => cases panics
          | cons b blocks =>
            have failed : setNodeColors chart.function b.id colors w = .error stop w := by
              rw [setNodeColors, bind_of_ok (refusable_faultless sound _), bind_of_ok (host_ok w), own]
              rfl
            rw [colorBlocks, bind_of_error failed] at panics
            cases panics
            exact ⟨rfl, kind, _, overflows⟩

end Action

end Tandem
