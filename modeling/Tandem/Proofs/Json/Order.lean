import Mathlib.Data.String.Basic
import Tandem.Proofs.Json.Values

/-! # Values in order

`Json.sorted` puts the fields of every object in the order of their names. What comes out holds nothing
but what went in (`Json.mem_sortedFields`) and stands in rising order (`Json.ascending_sortedFields`), so
that sorting it again changes nothing. -/

namespace Tandem.Json

/-! ## Induction -/

/-- What passes from the values inside of arrays and objects to these holds of every value. -/
@[elab_as_elim]
theorem value_induction {P : Json → Prop} (null : P .null) (bool : ∀ b, P (.bool b))
    (number : ∀ n, P (.number n)) (string : ∀ s, P (.string s))
    (array : ∀ items, (∀ v ∈ items, P v) → P (.array items))
    (object : ∀ fields, (∀ f ∈ fields, P f.2) → P (.object fields)) (v : Json) : P v :=
  @Json.rec P (fun items => ∀ v ∈ items, P v) (fun fields => ∀ f ∈ fields, P f.2) (fun f => P f.2)
    null bool number string array object (by simp)
    (fun _ _ first others => List.forall_mem_cons.2 ⟨first, others⟩) (by simp)
    (fun _ _ first others => List.forall_mem_cons.2 ⟨first, others⟩) (fun _ _ inner => inner) v

theorem plainItems_iff {items : List Json} : PlainItems items ↔ ∀ v ∈ items, v.Plain := by
  induction items with
  | nil => simp [PlainItems]
  | cons item rest ih => simp [PlainItems, ih]

theorem plainFields_iff {fields : List (String × Json)} :
    PlainFields fields ↔ ∀ f ∈ fields, f.2.Plain := by
  induction fields with
  | nil => simp [PlainFields]
  | cons field rest ih => simp [PlainFields, ih]

theorem nestingItems_le_iff {items : List Json} {depth : Nat} :
    nestingItems items ≤ depth ↔ ∀ v ∈ items, v.nesting ≤ depth := by
  induction items with
  | nil => simp [nestingItems]
  | cons item rest ih => simp [nestingItems, ih]

theorem nestingFields_le_iff {fields : List (String × Json)} {depth : Nat} :
    nestingFields fields ≤ depth ↔ ∀ f ∈ fields, f.2.nesting ≤ depth := by
  induction fields with
  | nil => simp [nestingFields]
  | cons field rest ih => simp [nestingFields, ih]

/-! ## Fields -/

theorem sortedItems_eq_map (items : List Json) : sortedItems items = items.map sorted := by
  induction items with
  | nil => rfl
  | cons item rest ih => rw [sortedItems, ih, List.map_cons]

variable {name : String} {value : Json} {fields done : List (String × Json)}

/-- The names stand in rising order. -/
def Ascending (fields : List (String × Json)) : Prop := fields.Pairwise fun a b => a.1 < b.1

theorem mem_putField {f : String × Json} (member : f ∈ putField name value fields) :
    f = (name, value) ∨ f ∈ fields := by
  induction fields with
  | nil => simpa [putField] using member
  | cons field rest ih =>
    rw [putField] at member
    split at member
    · simpa using member
    · split at member
      · rw [List.mem_cons] at member ⊢
        exact member.imp_right .inr
      · rw [List.mem_cons] at member ⊢
        obtain rfl | inside := member
        · exact .inr (.inl rfl)
        · exact (ih inside).imp_right .inr

theorem Ascending.putField (ascending : Ascending fields) :
    Ascending (putField name value fields) := by
  induction fields with
  | nil => simp [Json.putField, Ascending]
  | cons field rest ih =>
    obtain ⟨above, others⟩ := List.pairwise_cons.1 ascending
    rw [Json.putField]
    split
    · rename_i before
      refine List.pairwise_cons.2 ⟨fun f inside => ?_, ascending⟩
      obtain rfl | behind := List.mem_cons.1 inside
      · exact before
      · exact before.trans (above f behind)
    · rename_i notBefore
      split
      · rename_i same
        subst same
        exact List.pairwise_cons.2 ⟨above, others⟩
      · rename_i apart
        refine List.pairwise_cons.2 ⟨fun f inside => ?_, ih others⟩
        obtain rfl | behind := mem_putField inside
        · exact lt_of_le_of_ne (not_lt.1 notBefore) (Ne.symm apart)
        · exact above f behind

/-- A name behind all others goes to the end. -/
theorem putField_last (above : ∀ f ∈ fields, f.1 < name) :
    Json.putField name value fields = fields ++ [(name, value)] := by
  induction fields with
  | nil => rfl
  | cons field rest ih =>
    have first : field.1 < name := above field (by simp)
    have others := ih fun f inside => above f (by simp [inside])
    rw [Json.putField, if_neg first.not_gt, if_neg first.ne', others, List.cons_append]

theorem mem_sortedFields {f : String × Json} (member : f ∈ sortedFields fields done) :
    f ∈ done ∨ ∃ g ∈ fields, f = (g.1, g.2.sorted) := by
  induction fields generalizing done with
  | nil => exact .inl (by simpa [sortedFields] using member)
  | cons field rest ih =>
    rw [sortedFields] at member
    obtain inside | ⟨g, behind, same⟩ := ih member
    · obtain rfl | earlier := mem_putField inside
      · exact .inr ⟨field, by simp, rfl⟩
      · exact .inl earlier
    · exact .inr ⟨g, by simp [behind], same⟩

theorem ascending_sortedFields (ascending : Ascending done) :
    Ascending (sortedFields fields done) := by
  induction fields generalizing done with
  | nil => simpa [sortedFields] using ascending
  | cons field rest ih =>
    rw [sortedFields]
    exact ih ascending.putField

/-- Fields that stand in order already stay where they are. -/
theorem sortedFields_of_ascending (ascending : Ascending (done ++ fields))
    (settled : ∀ f ∈ fields, f.2.sorted = f.2) : sortedFields fields done = done ++ fields := by
  induction fields generalizing done with
  | nil => simp [sortedFields]
  | cons field rest ih =>
    obtain ⟨-, -, before⟩ := List.pairwise_append.1 ascending
    have above : ∀ f ∈ done, f.1 < field.1 := fun f earlier => before f earlier field (by simp)
    rw [sortedFields, settled field (by simp), putField_last above, ih]
    · simp
    · simpa using ascending
    · exact fun f behind => settled f (by simp [behind])

/-! ## Values -/

@[simp] theorem sorted_sorted (v : Json) : v.sorted.sorted = v.sorted := by
  induction v using value_induction with
  | null => rfl
  | bool b => rfl
  | number n => rfl
  | string s => rfl
  | array items ih => simpa [sorted, sortedItems_eq_map] using ih
  | object fields ih =>
    rw [sorted, sorted, sortedFields_of_ascending]
    · rfl
    · exact ascending_sortedFields .nil
    · intro f member
      obtain inside | ⟨g, inside, rfl⟩ := mem_sortedFields member
      · simp at inside
      · exact ih g inside

theorem Plain.sorted {v : Json} (plain : v.Plain) : v.sorted.Plain := by
  induction v using value_induction with
  | null => trivial
  | bool b => trivial
  | number n => exact plain
  | string s => trivial
  | array items ih =>
    rw [Plain, plainItems_iff] at plain
    rw [Json.sorted, Plain, plainItems_iff, sortedItems_eq_map]
    simpa using fun v inside => ih v inside (plain v inside)
  | object fields ih =>
    rw [Plain, plainFields_iff] at plain
    rw [Json.sorted, Plain, plainFields_iff]
    intro f member
    obtain inside | ⟨g, inside, rfl⟩ := mem_sortedFields member
    · simp at inside
    · exact ih g inside (plain g inside)

theorem nesting_sorted_le (v : Json) : v.sorted.nesting ≤ v.nesting := by
  induction v using value_induction with
  | null => exact Nat.le_refl _
  | bool b => exact Nat.le_refl _
  | number n => exact Nat.le_refl _
  | string s => exact Nat.le_refl _
  | array items ih =>
    rw [sorted, nesting, nesting, Nat.add_le_add_iff_right, nestingItems_le_iff, sortedItems_eq_map]
    have inner := nestingItems_le_iff.1 (Nat.le_refl (nestingItems items))
    simpa using fun v inside => (ih v inside).trans (inner v inside)
  | object fields ih =>
    rw [sorted, nesting, nesting, Nat.add_le_add_iff_right, nestingFields_le_iff]
    have inner := nestingFields_le_iff.1 (Nat.le_refl (nestingFields fields))
    intro f member
    obtain inside | ⟨g, inside, rfl⟩ := mem_sortedFields member
    · simp at inside
    · exact (ih g inside).trans (inner g inside)

/-! ## Values of a bounded depth -/

/-- The numbers of the value fit machine words, and it is nested no deeper than a bound. -/
structure Within (depth : Nat) (v : Json) : Prop where
  plain : v.Plain
  flat : v.nesting ≤ depth

variable {depth : Nat}

theorem Within.mono {v : Json} (within : v.Within depth) {deeper : Nat} (deep : depth ≤ deeper) :
    v.Within deeper :=
  ⟨within.plain, within.flat.trans deep⟩

@[simp] theorem within_null : Within depth .null := ⟨trivial, Nat.zero_le _⟩

@[simp] theorem within_string (s : String) : Within depth (.string s) := ⟨trivial, Nat.zero_le _⟩

theorem within_nat {n : Nat} (small : n < UInt64.size) : Within depth (.nat n) := by
  refine ⟨?_, Nat.zero_le _⟩
  simp only [nat, Plain, Number.Fits]
  omega

@[simp] theorem within_word (n : UInt64) : Within depth (.word n) := within_nat n.toNat_lt

theorem within_array {items : List Json} (within : ∀ v ∈ items, v.Within depth) :
    Within (depth + 1) (.array items) where
  plain := plainItems_iff.2 fun v member => (within v member).plain
  flat := by
    rw [nesting, Nat.add_le_add_iff_right, nestingItems_le_iff]
    exact fun v member => (within v member).flat

theorem within_object (within : ∀ f ∈ fields, f.2.Within depth) :
    Within (depth + 1) (.object fields) where
  plain := plainFields_iff.2 fun f member => (within f member).plain
  flat := by
    rw [nesting, Nat.add_le_add_iff_right, nestingFields_le_iff]
    exact fun f member => (within f member).flat

end Tandem.Json
