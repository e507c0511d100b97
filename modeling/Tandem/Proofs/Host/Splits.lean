import Tandem.Proofs.Host.Walks

/-! # Splitting walks

Where a walk goes on depends on where it stands, and not on where it came from or where it will end. So
two walks that meet go on together until the first of them ends (`Image.filter_walkFrom_congr`), and a
walk up to an address that its chain of items comes to can be taken up there by another one: a range is
then colored in two parts as it is in one (`Action.colorRange_split`), whatever the host does to stop it.
At an address inside an item this fails, for the second walk starts there and visits others. -/

namespace Tandem

/-! ## Walks that meet -/

namespace Image

variable {image : Image} {stop stop' a a' b : Address}

-- From an address that it visits, a walk is the walk from there.
theorem filter_ge_walkFrom (visited : b ∈ image.walkFrom stop a) :
    (image.walkFrom stop a).filter (b ≤ ·) = image.walkFrom stop b := by
  induction a using walkFrom.induct image stop with
  | case1 a before ih =>
    rw [walkFrom_of_lt before] at visited
    rcases List.mem_cons.1 visited with rfl | later
    · simp only [List.filter_eq_self, decide_eq_true_eq]
      exact fun c member => UInt64.le_iff_toNat_le.2 (mem_walkFrom member).1
    · have behind : ¬b ≤ a := by
        have := le_of_mem_next later
        have := image.extent_pos a
        rw [UInt64.le_iff_toNat_le]
        omega
      rw [walkFrom_of_lt before, List.filter_cons_of_neg (by simpa using behind), ih later]
  | case2 a done => simp [walkFrom_of_not_lt done] at visited

-- Up to an earlier end, a walk is the walk to there.
theorem filter_lt_walkFrom (earlier : stop ≤ stop') (a : Address) :
    (image.walkFrom stop' a).filter (· < stop) = image.walkFrom stop a := by
  induction a using walkFrom.induct image stop' with
  | case1 a before ih =>
    by_cases before' : a < stop
    · rw [walkFrom_of_lt before, walkFrom_of_lt before', List.filter_cons_of_pos (by simpa using before'), ih]
    · -- nothing from here on comes before the earlier end
      simp only [walkFrom_of_not_lt before', List.filter_eq_nil_iff, decide_eq_true_eq]
      intro c member
      have := (mem_walkFrom member).1
      rw [UInt64.lt_iff_toNat_lt] at before' ⊢
      omega
  | case2 a done =>
    have done' : ¬a < stop := fun before => done (UInt64.lt_of_lt_of_le before earlier)
    rw [walkFrom_of_not_lt done, walkFrom_of_not_lt done', List.filter_nil]

theorem filter_lt_walkFrom_comm (image : Image) (stop stop' a : Address) :
    (image.walkFrom stop a).filter (· < stop') = (image.walkFrom stop' a).filter (· < stop) := by
  have within {stop stop' : Address} (earlier : stop ≤ stop') :
      (image.walkFrom stop a).filter (· < stop') = image.walkFrom stop a := by
    simp only [List.filter_eq_self, decide_eq_true_eq]
    intro c member
    exact UInt64.lt_of_lt_of_le (UInt64.lt_iff_toNat_lt.2 (mem_walkFrom member).2) earlier
  rcases UInt64.le_total stop stop' with earlier | earlier
  · rw [within earlier, filter_lt_walkFrom earlier]
  · rw [within earlier, filter_lt_walkFrom earlier]

/-- Walks that meet go on together until the first of them ends. -/
theorem filter_walkFrom_congr (visited : b ∈ image.walkFrom stop a) (visited' : b ∈ image.walkFrom stop' a') :
    (image.walkFrom stop a).filter (fun c => b ≤ c ∧ c < stop') =
      (image.walkFrom stop' a').filter (fun c => b ≤ c ∧ c < stop) := by
  have split (walk : List Address) (stop : Address) :
      walk.filter (fun c => b ≤ c ∧ c < stop) = (walk.filter (b ≤ ·)).filter (· < stop) := by
    rw [List.filter_filter]
    exact List.filter_congr fun c _ => by rw [Bool.decide_and, Bool.and_comm]
  rw [split, split, filter_ge_walkFrom visited, filter_ge_walkFrom visited', filter_lt_walkFrom_comm]

/-- The chain of items from an address comes to another one before it comes to any behind that. -/
def Meets (image : Image) (a b : Address) : Prop :=
  ∃ k, image.next^[k] a = b ∧ ∀ j < k, image.next^[j] a < b

end Image

/-! ## Coloring in two parts -/

theorem Address.plus_le_plus {base a b : Address} (le : a ≤ b) : base.plus a ≤ base.plus b := by
  rw [UInt64.le_iff_toNat_le] at le ⊢
  rw [toNat_plus, toNat_plus]
  omega

namespace Action

variable {w w' : Workspace} {stop middle a : Address}

theorem imageBase_again {base : Address} (done : imageBase w = .ok base w) (becomes : w.Becomes w') :
    imageBase w' = .ok base w' := by
  obtain ⟨_, _, passed, -⟩ := of_bind_ok done
  have returns : w'.host.Returns .imageBase := by
    rw [Host.Returns, becomes.faults]
    exact returns_of_guarded_ok passed
  rw [imageBase_returns returns, becomes.image, (imageBase_of_ok done).1]

theorem colorFrom_of_lt (before : a < stop) (color : Color) (count : Nat) :
    colorFrom stop color a count =
      (do setItemColor a color
          let size ← itemSize a
          colorFrom stop color (a.plus (stride size)) (count + 1)) := by
  rw [colorFrom, dif_pos before]

theorem colorFrom_of_not_lt (done : ¬a < stop) (color : Color) (count : Nat) :
    colorFrom stop color a count = pure count := by
  rw [colorFrom, dif_neg done]

theorem colorFrom_add (stop : Address) (color : Color) (a : Address) (n count : Nat) :
    colorFrom stop color a (n + count) = do return n + (← colorFrom stop color a count) := by
  induction a, count using colorFrom.induct stop with
  | case1 a count before ih => simp only [colorFrom_of_lt before, bind_assoc, Nat.add_assoc n count 1, ih]
  | case2 a count done => simp only [colorFrom_of_not_lt done, pure_bind]

/-- A walk can be taken up where its chain of items comes to. -/
theorem colorFrom_split (meets : w.host.image.Meets a middle) (within : middle ≤ stop) (color : Color)
    (count : Nat) :
    colorFrom stop color a count w = (colorFrom middle color a count >>= colorFrom stop color middle) w := by
  obtain ⟨k, arrives, below⟩ := meets
  -- on the number of items up to the middle; the first one is colored on both sides
  induction k generalizing a count w with
  | zero =>
    rw [Function.iterate_zero_apply] at arrives
    subst arrives
    rw [colorFrom_of_not_lt (UInt64.lt_irrefl a), pure_bind]
  | succ k ih =>
    have before : a < middle := below 0 (Nat.succ_pos k)
    rw [colorFrom_of_lt before, colorFrom_of_lt (UInt64.lt_of_lt_of_le before within), bind_assoc]
    apply bind_congr_ok
    intro _ w₁ colored
    rw [bind_assoc]
    apply bind_congr_ok
    intro size w₂ sized
    -- neither step has changed the image, so that the chain goes on from the next item
    have image₁ := ((proper_setItemColor a color).becomes_of_ok colored).image
    obtain ⟨rfl, rfl⟩ := itemSize_of_ok sized
    have next : a.plus (stride (w₂.host.image.itemSize a)) = w.host.image.next a := by
      rw [image₁, Image.next]
    rw [next]
    apply ih
    · rw [image₁, ← Function.iterate_succ_apply]
      exact arrives
    · intro j less
      rw [image₁, ← Function.iterate_succ_apply]
      exact below (j + 1) (Nat.succ_lt_succ less)

theorem colorRange_split {start middle stop : Address} (within : middle ≤ stop)
    (meets : w.host.image.Meets (w.host.image.base.plus start) (w.host.image.base.plus middle))
    (color : Color) :
    colorRange start stop color w =
      (do let n ← colorRange start middle color
          let n' ← colorRange middle stop color
          return n + n') w := by
  cases based : imageBase w with
  | error stopped w' => rw [colorRange, colorRange, bind_assoc, bind_of_error based, bind_of_error based]
  | ok base w' =>
    obtain ⟨rfl, rfl⟩ := imageBase_of_ok based
    rw [colorRange, colorRange, bind_assoc, bind_of_ok based, bind_of_ok based,
      colorFrom_split meets (Address.plus_le_plus within) color 0]
    apply bind_congr_ok
    intro n w₁ colored
    -- the second part asks for the base again, and is told the same
    have becomes := (proper_colorFrom _ color _ 0).becomes_of_ok colored
    rw [colorRange, bind_assoc, bind_of_ok (imageBase_again based becomes)]
    exact congrFun (colorFrom_add _ color _ n 0) w₁

end Action

/-- A walk visits what its coloring writes to. Walks that meet visit the same addresses from there up to
the smaller of their ends. And where the chain of items comes to an address of the range, coloring the
range is coloring the two parts one after the other: it counts as many items, and leaves the same colors
and writes. -/
theorem walks_split_at_boundaries (w : Workspace) :
    (∀ (start stop : Address) (color : Color), w.host.Paintable →
      Action.colorRange start stop color w =
        .ok (w.host.image.walk start stop).length
          (w.painted ((w.host.image.walk start stop).map fun a => ⟨a, color⟩))) ∧
    (∀ start stop start' stop' a : Address,
      a ∈ w.host.image.walk start stop → a ∈ w.host.image.walk start' stop' →
      (w.host.image.walk start stop).filter (fun b => a ≤ b ∧ b < w.host.image.base.plus stop') =
        (w.host.image.walk start' stop').filter (fun b => a ≤ b ∧ b < w.host.image.base.plus stop)) ∧
    ∀ (start middle stop : Address) (color : Color), middle ≤ stop →
      w.host.image.Meets (w.host.image.base.plus start) (w.host.image.base.plus middle) →
      Action.colorRange start stop color w =
        (do let n ← Action.colorRange start middle color
            let n' ← Action.colorRange middle stop color
            return n + n') w := by
  refine ⟨?_, ?_, ?_⟩
  · intro start stop color paintable
    exact Action.colorRange_paintable paintable start stop color
  · intro start stop start' stop' a visited visited'
    exact Image.filter_walkFrom_congr visited visited'
  · intro start middle stop color within meets
    exact Action.colorRange_split within meets color

namespace Image.Sample

theorem meets_verge : verge.Meets (verge.base.plus 0) (verge.base.plus 5) := ⟨2, rfl, by decide⟩

theorem walk_verge_inside : verge.walk 1 4 = [0xfffffffffffffff1] := by
  cbv

end Image.Sample

open Image.Sample in
/-- The chain steps over an item without size and a plain one, and comes to the last item, which ends
behind the greatest address. -/
theorem verge_splits_before_its_last_item :
    (Host.load verge).Paintable ∧ verge.Meets (verge.base.plus 0) (verge.base.plus 5) ∧
      (∃ w', (do let n ← Action.colorRange 0 5 7
                 let n' ← Action.colorRange 5 0xff 7
                 return n + n') ⟨.load verge, .empty, {}⟩ = .ok 3 w') ∧
      (verge.walk 0 0xff).filter (fun b => 0xfffffffffffffff1 ≤ b ∧ b < verge.base.plus 4) =
        (verge.walk 1 4).filter (fun b => 0xfffffffffffffff1 ≤ b ∧ b < verge.base.plus 0xff) := by
  have paintable : (Host.load verge).Paintable := Host.Faultless.paintable fun _ => rfl
  obtain ⟨run, meet, split⟩ := walks_split_at_boundaries ⟨.load verge, .empty, {}⟩
  have whole := run 0 0xff 7 paintable
  have visited : (Host.load verge).image.walk 0 0xff = _ := walk_verge
  have inside : (Host.load verge).image.walk 1 4 = _ := walk_verge_inside
  rw [visited] at whole
  refine ⟨paintable, meets_verge, ⟨_, (split 0 5 0xff 7 (by decide) meets_verge).symm.trans whole⟩, ?_⟩
  apply meet 0 0xff 1 4 0xfffffffffffffff1
  · rw [visited]
    decide
  · rw [inside]
    decide

open Image.Sample in
-- at an address inside an item, the second walk visits what the first one steps over
example : (verge.walk 0 2).length + (verge.walk 2 0xff).length ≠ (verge.walk 0 0xff).length := by
  cbv

end Tandem
