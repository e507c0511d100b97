import Mathlib.Data.List.Flatten
import Mathlib.Data.List.Nodup
import Mathlib.Data.List.Perm.Basic
import Tandem.Json.Decode

/-! # Records by name and by position

A record is read from an object by the names of its fields or from an array by their positions. Both come
to setting fields one after the other (`Record.fill`), in the order of the object or of the record. Where
no two fields answer to one name, set the same thing, or differ in when they may be left out
(`Record.Regular`), it does not matter which. -/

namespace Tandem

/-! ## Values in memory -/

namespace Json

theorem readingItems_eq_map (tail : Tail) (items : List Json) :
    readingItems tail items = items.map (reading tail) := by
  induction items with
  | nil => rfl
  | cons item items ih => rw [readingItems, ih, List.map_cons]

theorem readingFields_eq_map (tail : Tail) (fields : List (String × Json)) :
    readingFields tail fields = fields.map (Prod.map some (reading tail)) := by
  induction fields with
  | nil => rfl
  | cons field fields ih => rw [readingFields, ih, List.map_cons, Prod.map]

theorem readingFields_perm (tail : Tail) {fields fields' : List (String × Json)}
    (perm : fields.Perm fields') : (readingFields tail fields).Perm (readingFields tail fields') := by
  rw [readingFields_eq_map, readingFields_eq_map]
  exact perm.map _

theorem readingFields_zip (tail : Tail) (names : List String) (values : List Json) :
    readingFields tail (names.zip values) = (names.map some).zip (readingItems tail values) := by
  rw [readingFields_eq_map, readingItems_eq_map, List.zip_map]

end Json

/-- The one item that stands out is found, and the others are left. -/
theorem find?_and_filter_of_perm {α : Type} {p : α → Bool} {x : α} {items others : List α}
    (perm : items.Perm (x :: others)) (hit : p x = true) (miss : ∀ y ∈ others, p y = false) :
    items.find? p = some x ∧ (items.filter fun y => !p y).Perm others := by
  constructor
  · cases found : items.find? p with
    | none => simpa [hit] using List.find?_eq_none.1 found x (perm.mem_iff.2 List.mem_cons_self)
    | some y =>
      rcases List.mem_cons.1 (perm.mem_iff.1 (List.mem_of_find?_eq_some found)) with rfl | elsewhere
      · rfl
      · simpa [miss y elsewhere] using List.find?_some found
  · refine (perm.filter _).trans ?_
    rw [List.filter_cons_of_neg (by simp [hit]), List.filter_eq_self.2 (by simpa using miss)]

/-! ## Fields -/

namespace Field

variable {α β γ : Type}

/-- The names that a field answers to. -/
def keys (field : Field α) : List String := field.name :: field.aliases

theorem answersTo_iff {field : Field α} {key : String} :
    field.answersTo key = true ↔ key ∈ field.keys := by
  rw [answersTo, keys, Bool.or_eq_true, beq_iff_eq, List.contains_iff_mem, List.mem_cons, eq_comm]

/-- Setting two fields comes to the same in either order. -/
def Independent (f g : Field α) : Prop :=
  ∀ v v' set set', f.read v = .ok set → g.read v' = .ok set' → ∀ a, set (set' a) = set' (set a)

theorem independent_of {absence absence' : Absence} {name name' : String} {decode : Decoder β}
    {decode' : Decoder γ} {set : β → α → α} {set' : γ → α → α} {aliases aliases' : List String}
    (commute : ∀ b c a, set b (set' c a) = set' c (set b a)) :
    (of absence name decode set aliases).Independent (of absence' name' decode' set' aliases') := by
  intro v v' put put' reads reads'
  simp only [of] at reads reads'
  cases decoded : decode v with
  | error e => simp [decoded, Except.map] at reads
  | ok b =>
    cases decoded' : decode' v' with
    | error e => simp [decoded', Except.map] at reads'
    | ok c =>
      simp only [decoded, decoded', Except.map, Except.ok.injEq] at reads reads'
      subst reads reads'
      exact commute b c

theorem pairwise_independent {f g h : Field α} (first : f.Independent g) (second : f.Independent h)
    (third : g.Independent h) : [f, g, h].Pairwise Independent :=
  .cons (List.forall_mem_cons.2 ⟨first, List.forall_mem_singleton.2 second⟩) (List.pairwise_pair.2 third)

/-- Among fields without a common key, each is found by its own. -/
theorem find?_answersTo {fields : List (Field α)} (distinct : (fields.flatMap keys).Nodup)
    {field : Field α} (member : field ∈ fields) {key : String} (own : key ∈ field.keys) :
    fields.find? (·.answersTo key) = some field := by
  induction fields with
  | nil => cases member
  | cons f fields ih =>
    rw [List.flatMap_cons, List.nodup_append'] at distinct
    obtain ⟨-, others, apart⟩ := distinct
    rcases List.mem_cons.1 member with rfl | later
    · exact List.find?_cons_of_pos (answersTo_iff.2 own)
    · have elsewhere : ¬f.answersTo key = true := by
        rw [answersTo_iff]
        exact fun here => apart here (List.mem_flatMap.2 ⟨field, later, own⟩)
      rw [List.find?_cons_of_neg (by exact elsewhere), ih others later]

end Field

namespace Record

variable {α : Type} {r : Record α} {tail : Tail}

/-- The names of the fields in their order. -/
def names (r : Record α) : List String := r.fields.map (·.name)

/-- No two fields answer to one name, each may be left out of objects and arrays alike or of neither,
and they can be set in any order. -/
structure Regular (r : Record α) : Prop where
  distinct : (r.fields.flatMap Field.keys).Nodup
  uniform : ∀ field ∈ r.fields, field.absence ≠ .omissible
  independent : r.fields.Pairwise Field.Independent

theorem Regular.nodup_names (regular : r.Regular) : r.names.Nodup := by
  have sublist : r.names.Sublist (r.fields.flatMap Field.keys) := by
    rw [names, List.map_eq_flatMap]
    exact List.Sublist.flatMap_right _ fun field => by simp [Field.keys]
  exact sublist.nodup regular.distinct

/-! ## Setting fields -/

/-- A value with a field set to what was read for it, if it could be read. -/
def fillOne (a : Option α) (entry : Field α × Reading) : Option α := do
  let set ← (entry.1.read entry.2).toOption
  return set (← a)

/-- A value with fields set one after the other. -/
def fill (a : Option α) (entries : List (Field α × Reading)) : Option α := entries.foldl fillOne a

@[simp] theorem fill_nil (a : Option α) : fill a [] = a := rfl

@[simp] theorem fill_cons (a : Option α) (entry : Field α × Reading)
    (entries : List (Field α × Reading)) : fill a (entry :: entries) = fill (fillOne a entry) entries :=
  rfl

@[simp] theorem fillOne_none (entry : Field α × Reading) : fillOne (none : Option α) entry = none := by
  rw [fillOne]
  cases entry.1.read entry.2 <;> rfl

@[simp] theorem fill_none (entries : List (Field α × Reading)) : fill (none : Option α) entries = none := by
  induction entries with
  | nil => rfl
  | cons entry entries ih => rw [fill_cons, fillOne_none, ih]

theorem fillOne_of_ok {field : Field α} {reading : Reading} {set : α → α}
    (reads : field.read reading = .ok set) (a : Option α) : fillOne a (field, reading) = a.map set := by
  simp only [fillOne, reads]
  cases a <;> rfl

theorem fillOne_of_error {field : Field α} {reading : Reading} {e : DecodeError}
    (fails : field.read reading = .error e) (a : Option α) : fillOne a (field, reading) = none := by
  simp only [fillOne, fails]
  rfl

theorem fillOne_comm {field other : Field α} (independent : field.Independent other)
    (reading reading' : Reading) (a : Option α) :
    fillOne (fillOne a (field, reading)) (other, reading') =
      fillOne (fillOne a (other, reading')) (field, reading) := by
  cases reads : field.read reading with
  | error e => simp only [fillOne_of_error reads, fillOne_none]
  | ok set =>
    cases reads' : other.read reading' with
    | error e => simp only [fillOne_of_error reads', fillOne_none]
    | ok set' =>
      simp only [fillOne_of_ok reads, fillOne_of_ok reads']
      cases a with
      | none => rfl
      | some a => simp [independent _ _ _ _ reads reads']

/-- Fields of a regular record can be set in any order. -/
theorem Regular.fill_perm (regular : r.Regular) {readings : List Reading}
    {entries : List (Field α × Reading)} (perm : entries.Perm (r.fields.zip readings)) (a : Option α) :
    fill a entries = fill a (r.fields.zip readings) := by
  refine perm.foldl_eq' (fun entry member other member' a => ?_) a
  rw [perm.mem_iff] at member member'
  obtain ⟨i, inside, rfl⟩ := List.getElem_of_mem member
  obtain ⟨j, inside', rfl⟩ := List.getElem_of_mem member'
  rw [List.getElem_zip, List.getElem_zip]
  -- one place is one entry, and at different places are different fields
  have pairwise := List.pairwise_iff_getElem.1 regular.independent
  rw [List.length_zip] at inside inside'
  rcases Nat.lt_trichotomy i j with before | same | behind
  · exact fillOne_comm (pairwise i j (by omega) (by omega) before) _ _ a
  · subst same
    rfl
  · exact (fillOne_comm (pairwise j i (by omega) (by omega) behind) _ _ a).symm

/-! ## By position -/

/-- An array sets the first fields, and the others have to be left out. -/
theorem positional_eq_ok_iff (whole : tail ≠ .torn) {surplus : DecodeError} {position : Nat}
    {fields : List (Field α)} {readings : List Reading} (short : readings.length ≤ fields.length)
    {a b : α} :
    r.positional tail surplus position fields readings a = .ok b ↔
      fill (some a) (fields.zip readings) = some b ∧
        ∀ field ∈ fields.drop readings.length, field.absence = .defaulted := by
  induction fields generalizing position readings a with
  | nil =>
    obtain rfl := List.eq_nil_of_length_eq_zero (Nat.le_zero.1 short)
    simp [positional, whole]
  | cons field fields ih =>
    cases readings with
    | nil =>
      rw [positional, if_neg whole]
      by_cases defaulted : field.absence = .defaulted
      · simpa [defaulted] using @ih (position + 1) [] (Nat.zero_le _) a
      · simp [defaulted]
    | cons reading readings =>
      rw [positional, List.zip_cons_cons, fill_cons, List.length_cons, List.drop_succ_cons]
      cases reads : field.read reading with
      | error e => simp [bind, Except.bind, fillOne_of_error reads]
      | ok set =>
        rw [fillOne_of_ok reads]
        exact ih (Nat.le_of_succ_le_succ short)

/-! ## By name -/

/-- A field with what was read for it, as an object shows it. -/
def labeled (entry : Field α × Reading) : Option String × Reading := (some entry.1.name, entry.2)

theorem missing?_eq_none_iff {seen : List String} :
    r.missing? seen = none ↔ ∀ field ∈ r.fields, field.absence = .required → field.name ∈ seen := by
  simp [missing?]

/-- An object sets its fields, and the others must not be required. -/
theorem named_eq_ok_iff (distinct : (r.fields.flatMap Field.keys).Nodup) (whole : tail ≠ .torn)
    {entries : List (Field α × Reading)} (own : ∀ entry ∈ entries, entry.1 ∈ r.fields)
    {seen : List String} (fresh : (entries.map (·.1.name) ++ seen).Nodup) {a b : α} :
    r.named tail (entries.map labeled) seen a = .ok b ↔
      fill (some a) entries = some b ∧
        ∀ field ∈ r.fields, field.absence = .required →
          field.name ∈ entries.map (·.1.name) ++ seen := by
  induction entries generalizing seen a with
  | nil =>
    rw [List.map_nil, named, if_neg whole, List.map_nil, List.nil_append, ← missing?_eq_none_iff]
    cases r.missing? seen <;> simp
  | cons entry entries ih =>
    obtain ⟨member, others⟩ := List.forall_mem_cons.1 own
    have found := Field.find?_answersTo distinct member (List.mem_cons_self : entry.1.name ∈ entry.1.keys)
    rw [List.map_cons, List.cons_append, List.nodup_cons] at fresh
    have unseen : seen.contains entry.1.name = false := by
      simpa using fun here => fresh.1 (List.mem_append_right _ here)
    -- the name goes from those that are to come to those that were seen
    have swap : (entries.map (·.1.name) ++ entry.1.name :: seen).Perm
        (entry.1.name :: (entries.map (·.1.name) ++ seen)) := List.perm_middle
    rw [List.map_cons, labeled, named]
    simp only [found, unseen]
    obtain ⟨field, reading⟩ := entry
    cases reads : field.read reading with
    | error e => simp [fillOne_of_error reads, bind, Except.bind]
    | ok set =>
      simp only [fill_cons, fillOne_of_ok reads, Option.map_some, List.map_cons, List.cons_append]
      refine (ih others (swap.nodup_iff.2 (List.nodup_cons.2 fresh))).trans ?_
      simp only [swap.mem_iff]

/-! ## Both ways -/

namespace Regular

variable (regular : r.Regular)
include regular

/-- The fields behind the first ones may all be left out of an array when they may be left out of an
object. -/
theorem forall_drop_iff (n : Nat) :
    (∀ field ∈ r.fields.drop n, field.absence = .defaulted) ↔
      ∀ field ∈ r.fields, field.absence = .required → field.name ∈ (r.fields.take n).map (·.name) := by
  have names : ((r.fields.take n).map (·.name) ++ (r.fields.drop n).map (·.name)).Nodup := by
    rw [← List.map_append, List.take_append_drop]
    exact regular.nodup_names
  constructor
  · intro defaulted field member required
    rw [← List.take_append_drop n r.fields] at member
    rcases List.mem_append.1 member with front | back
    · exact List.mem_map_of_mem front
    · rw [defaulted field back] at required
      cases required
  · intro present field member
    have listed := List.mem_of_mem_drop member
    cases absence : field.absence with
    | defaulted => rfl
    | omissible => exact absurd absence (regular.uniform field listed)
    | required =>
      have front := present field listed absence
      exact absurd (List.mem_map_of_mem member) (List.disjoint_of_nodup_append names front)

/-- An array and an object that give the same readings to the first fields come to the same. -/
theorem positional_eq_ok_iff_named (whole : tail ≠ .torn) {surplus : DecodeError}
    {readings : List Reading} (short : readings.length ≤ r.fields.length)
    {entries : List (Option String × Reading)}
    (perm : entries.Perm ((r.names.map some).zip readings)) {a : α} :
    r.positional tail surplus 0 r.fields readings r.blank = .ok a ↔
      r.named tail entries [] r.blank = .ok a := by
  -- the object's entries are the fields with their readings, in another order
  have shown : (r.names.map some).zip readings = (r.fields.zip readings).map labeled := by
    rw [names, List.map_map, List.zip_map_left]
    rfl
  rw [shown] at perm
  obtain ⟨given, rfl, order⟩ : ∃ given : List (Field α × Reading), entries = given.map labeled ∧
      given.Perm (r.fields.zip readings) := by
    have same : List.Forall₂ (fun shown entry => shown = labeled entry)
        ((r.fields.zip readings).map labeled) (r.fields.zip readings) :=
      List.forall₂_map_left_iff.2 (List.forall₂_same.2 fun _ _ => rfl)
    obtain ⟨given, related, order⟩ := List.perm_comp_forall₂ perm same
    refine ⟨given, ?_, order⟩
    rwa [← List.forall₂_map_right_iff, List.forall₂_eq_eq_eq] at related
  have first : (given.map (·.1.name)).Perm ((r.fields.take readings.length).map (·.name)) := by
    have zipped : (r.fields.zip readings).map Prod.fst = r.fields.take readings.length := by
      rw [List.zip_eq_zip_take_min, Nat.min_eq_right short, List.take_length,
        List.map_fst_zip (List.length_take_le _ _)]
    rw [← zipped, List.map_map]
    exact order.map _
  have fresh : (given.map (·.1.name) ++ ([] : List String)).Nodup := by
    rw [List.append_nil, first.nodup_iff, List.map_take]
    exact regular.nodup_names.sublist (List.take_sublist _ _)
  have own : ∀ entry ∈ given, entry.1 ∈ r.fields :=
    fun entry member => (List.of_mem_zip (order.mem_iff.1 member)).1
  rw [positional_eq_ok_iff whole short, named_eq_ok_iff regular.distinct whole own fresh,
    regular.fill_perm order, regular.forall_drop_iff, List.append_nil]
  simp only [first.mem_iff]

/-- A record is read alike from an array and from an object, whatever the order of its fields there. -/
theorem ofValue_array_iff_object {values : List Json} (short : values.length ≤ r.fields.length)
    {fields : List (String × Json)} (perm : fields.Perm (r.names.zip values)) {a : α} :
    r.decode.ofValue (.array values) = .ok a ↔ r.decode.ofValue (.object fields) = .ok a := by
  have shown := Json.readingFields_perm .counted perm
  rw [Json.readingFields_zip] at shown
  simp only [Decoder.ofValue, Json.reading, decode]
  refine regular.positional_eq_ok_iff_named (by decide) ?_ shown
  simpa [Json.readingItems_eq_map] using short

/-- So is a variant of a union, where the tag stands anywhere in the object. -/
theorem tagged_array_iff_object {name tag variant : String} {known : List (String × Record α)}
    (found : known.lookup variant = some r) (apart : tag ∉ r.names) {values : List Json}
    (short : values.length ≤ r.fields.length) {fields : List (String × Json)}
    (perm : fields.Perm ((tag, .string variant) :: r.names.zip values)) {a : α} :
    (Decoder.tagged name tag known).ofValue (.array (.string variant :: values)) = .ok a ↔
      (Decoder.tagged name tag known).ofValue (.object fields) = .ok a := by
  have shown := Json.readingFields_perm .counted perm
  rw [Json.readingFields, Json.reading, Json.readingFields_zip] at shown
  have untagged : ∀ entry ∈ (r.names.map some).zip (Json.readingItems .counted values),
      (entry.1 == some tag) = false := by
    rintro ⟨key, reading⟩ member
    obtain ⟨field, listed, rfl⟩ := List.mem_map.1 (List.of_mem_zip member).1
    have other : field ≠ tag := fun same => apart (same ▸ listed)
    simpa using other
  obtain ⟨tagged, others⟩ := find?_and_filter_of_perm (p := (·.1 == some tag)) shown (by simp) untagged
  simp only [Decoder.ofValue, Json.reading, Json.readingItems, Decoder.tagged, tagged]
  simp only [Decoder.variant, found, bind, Except.bind]
  refine regular.positional_eq_ok_iff_named (by decide) ?_ others
  simpa [Json.readingItems_eq_map] using short

end Regular

end Record

end Tandem
