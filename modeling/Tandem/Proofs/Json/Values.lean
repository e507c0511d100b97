import Tandem.Proofs.Json.Atoms

/-! # Reading values back

A value that is written on one line and a value that is spread over lines differ only in the blanks
between their parts. `Json.laidOut` writes a value with any such blanks, and the reader finds the
value again in each of them. The step bound of the reader is no obstacle: every step of it uses up
at least half a character. -/

namespace Tandem

open Text (Symbol)

namespace Json

/-! ## Layouts -/

/-- The blanks with which a value is written. -/
structure Layout where
  /-- What stands in front of a part at a given level. -/
  gap : Nat → List Char
  /-- What stands behind a colon. -/
  space : List Char

/-- Nothing but blanks. -/
structure Layout.IsBlank (l : Layout) : Prop where
  gap : ∀ level, ∀ c ∈ l.gap level, Reading.isSpace (.char c) = true
  space : ∀ c ∈ l.space, Reading.isSpace (.char c) = true

/-- The layout on one line. -/
def Layout.compact : Layout := ⟨fun _ => [], []⟩

/-- The layout over several lines. -/
def Layout.pretty : Layout := ⟨newLine, [' ']⟩

@[simp] theorem Layout.compact_gap (level : Nat) : compact.gap level = [] := rfl

@[simp] theorem Layout.compact_space : compact.space = [] := rfl

@[simp] theorem Layout.pretty_gap (level : Nat) : pretty.gap level = newLine level := rfl

@[simp] theorem Layout.pretty_space : pretty.space = [' '] := rfl

theorem Layout.isBlank_compact : compact.IsBlank := ⟨nofun, nofun⟩

theorem Layout.isBlank_pretty : pretty.IsBlank where
  gap := by
    intro level c member
    rcases List.mem_cons.1 member with rfl | blank
    · rfl
    · rw [List.eq_of_mem_replicate blank]
      rfl
  space := by
    intro c member
    rw [List.mem_singleton.1 member]
    rfl

mutual

/-- The characters of a value in a layout, inside a given number of enclosing values. -/
def laidOut (l : Layout) (level : Nat) : Json → List Char
  | .null => ['n', 'u', 'l', 'l']
  | .bool true => ['t', 'r', 'u', 'e']
  | .bool false => ['f', 'a', 'l', 's', 'e']
  | .number n => n.text.toList
  | .string s => quotedText s
  | .array [] => ['[', ']']
  | .array (item :: rest) => '[' :: laidOutItems l level (item :: rest)
  | .object [] => ['{', '}']
  | .object (field :: rest) => '{' :: laidOutFields l level (field :: rest)

/-- The items of an array in a layout, up to and with its closing bracket. -/
def laidOutItems (l : Layout) (level : Nat) : List Json → List Char
  | [] => l.gap level ++ [']']
  | [item] => l.gap (level + 1) ++ laidOut l (level + 1) item ++ l.gap level ++ [']']
  | item :: rest => l.gap (level + 1) ++ laidOut l (level + 1) item ++ ',' :: laidOutItems l level rest

/-- The fields of an object in a layout, up to and with its closing brace. -/
def laidOutFields (l : Layout) (level : Nat) : List (String × Json) → List Char
  | [] => l.gap level ++ ['}']
  | [(name, value)] =>
    l.gap (level + 1) ++ quotedText name ++ ':' :: (l.space ++ laidOut l (level + 1) value ++
      l.gap level ++ ['}'])
  | (name, value) :: rest =>
    l.gap (level + 1) ++ quotedText name ++ ':' :: (l.space ++ laidOut l (level + 1) value ++
      ',' :: laidOutFields l level rest)

end

mutual

theorem compactChars_eq (level : Nat) : ∀ v : Json, v.compactChars = laidOut .compact level v
  | .null => by simp [compactChars, laidOut]
  | .bool true => by simp [compactChars, laidOut]
  | .bool false => by simp [compactChars, laidOut]
  | .number _ => by simp [compactChars, laidOut]
  | .string _ => by simp [compactChars, laidOut]
  | .array [] => by simp [compactChars, compactItems, laidOut]
  | .array (item :: rest) => by simp [compactChars, laidOut, compactItems_eq level (item :: rest)]
  | .object [] => by simp [compactChars, compactFields, laidOut]
  | .object (field :: rest) => by
    simp [compactChars, laidOut, compactFields_eq level (field :: rest)]

theorem compactItems_eq (level : Nat) :
    ∀ items, compactItems items = laidOutItems .compact level items
  | [] => by simp [compactItems, laidOutItems]
  | [item] => by simp [compactItems, laidOutItems, compactChars_eq (level + 1) item]
  | item :: next :: rest => by
    simp [compactItems, laidOutItems, compactChars_eq (level + 1) item,
      compactItems_eq level (next :: rest)]

theorem compactFields_eq (level : Nat) :
    ∀ fields, compactFields fields = laidOutFields .compact level fields
  | [] => by simp [compactFields, laidOutFields]
  | [(name, value)] => by simp [compactFields, laidOutFields, compactChars_eq (level + 1) value]
  | (name, value) :: next :: rest => by
    simp [compactFields, laidOutFields, compactChars_eq (level + 1) value,
      compactFields_eq level (next :: rest)]

end

mutual

theorem prettyChars_eq (level : Nat) : ∀ v : Json, v.prettyChars level = laidOut .pretty level v
  | .null => by simp [prettyChars, laidOut]
  | .bool true => by simp [prettyChars, laidOut]
  | .bool false => by simp [prettyChars, laidOut]
  | .number _ => by simp [prettyChars, laidOut]
  | .string _ => by simp [prettyChars, laidOut]
  | .array [] => by simp [prettyChars, laidOut]
  | .array (item :: rest) => by simp [prettyChars, laidOut, prettyItems_eq level (item :: rest)]
  | .object [] => by simp [prettyChars, laidOut]
  | .object (field :: rest) => by simp [prettyChars, laidOut, prettyFields_eq level (field :: rest)]

theorem prettyItems_eq (level : Nat) :
    ∀ items, prettyItems level items = laidOutItems .pretty level items
  | [] => by simp [prettyItems, laidOutItems]
  | [item] => by simp [prettyItems, laidOutItems, prettyChars_eq (level + 1) item]
  | item :: next :: rest => by
    simp [prettyItems, laidOutItems, prettyChars_eq (level + 1) item,
      prettyItems_eq level (next :: rest)]

theorem prettyFields_eq (level : Nat) :
    ∀ fields, prettyFields level fields = laidOutFields .pretty level fields
  | [] => by simp [prettyFields, laidOutFields]
  | [(name, value)] => by simp [prettyFields, laidOutFields, prettyChars_eq (level + 1) value]
  | (name, value) :: next :: rest => by
    simp [prettyFields, laidOutFields, prettyChars_eq (level + 1) value,
      prettyFields_eq level (next :: rest)]

end

/-! ## Plain values -/

mutual

/-- Values whose numbers are integers that fit a machine word. -/
def Plain : Json → Prop
  | .number n => n.Fits
  | .array items => PlainItems items
  | .object fields => PlainFields fields
  | _ => True

/-- Items that are plain. -/
def PlainItems : List Json → Prop
  | [] => True
  | item :: rest => item.Plain ∧ PlainItems rest

/-- Fields with plain values. -/
def PlainFields : List (String × Json) → Prop
  | [] => True
  | (_, value) :: rest => value.Plain ∧ PlainFields rest

end

end Json

namespace Reading

/-! ## Steps of the reader -/

theorem skipSpace_append {blanks : List Char} (blank : ∀ c ∈ blanks, isSpace (.char c) = true)
    (text : List Symbol) : skipSpace (blanks.map .char ++ text) = skipSpace text := by
  induction blanks with
  | nil => rfl
  | cons c blanks ih =>
    have others := ih fun d member => blank d (List.mem_cons_of_mem _ member)
    rw [List.map_cons, List.cons_append, skipSpace,
      List.dropWhile_cons_of_pos (blank c List.mem_cons_self)]
    exact others

theorem skipSpace_cons {c : Char} (solid : isSpace (.char c) = false) (text : List Symbol) :
    skipSpace (.char c :: text) = .char c :: text :=
  List.dropWhile_cons_of_neg (by simp [solid])

theorem skipSpace_skipSpace (text : List Symbol) : skipSpace (skipSpace text) = skipSpace text := by
  induction text with
  | nil => rfl
  | cons x text ih =>
    by_cases blank : isSpace x = true
    · simpa [skipSpace, blank] using ih
    · simp [skipSpace, blank]

theorem scanValue_skipSpace (steps : Nat) (text : List Symbol) :
    scanValue steps (skipSpace text) = scanValue steps text := by
  cases steps with
  | zero => simp [scanValue]
  | succ steps => rw [scanValue, scanValue, skipSpace_skipSpace]

theorem scanItems_skipSpace (steps : Nat) (text : List Symbol) :
    scanItems steps (skipSpace text) = scanItems steps text := by
  cases steps with
  | zero => simp [scanItems]
  | succ steps => rw [scanItems, scanItems, scanValue_skipSpace]

theorem scanFields_skipSpace (steps : Nat) (text : List Symbol) :
    scanFields steps (skipSpace text) = scanFields steps text := by
  cases steps with
  | zero => simp [scanFields]
  | succ steps => rw [scanFields, scanFields, skipSpace_skipSpace]

theorem scanValue_append {blanks : List Char} (blank : ∀ c ∈ blanks, isSpace (.char c) = true)
    (steps : Nat) (text : List Symbol) :
    scanValue steps (blanks.map .char ++ text) = scanValue steps text := by
  rw [← scanValue_skipSpace, skipSpace_append blank, scanValue_skipSpace]

theorem scanValue_array {steps : Nat} {c : Char} {text more rest : List Symbol} {items : List Reading}
    (head : skipSpace text = .char c :: more) (filled : c ≠ ']')
    (scanned : scanItems steps text = (items, some rest)) :
    scanValue (steps + 1) (.char '[' :: text) = (.array items .closed, some rest) := by
  rw [scanValue, skipSpace_cons rfl]
  rw [← scanItems_skipSpace, head] at scanned
  simp [head, filled, scanned, tailOf]

theorem scanValue_object {steps : Nat} {c : Char} {text more rest : List Symbol}
    {fields : List (Option String × Reading)} (head : skipSpace text = .char c :: more)
    (filled : c ≠ '}') (scanned : scanFields steps text = (fields, some rest)) :
    scanValue (steps + 1) (.char '{' :: text) = (.object fields .closed, some rest) := by
  rw [scanValue, skipSpace_cons rfl]
  rw [← scanFields_skipSpace, head] at scanned
  simp [head, filled, scanned, tailOf]

theorem scanItems_last {steps : Nat} {text after rest : List Symbol} {item : Reading}
    (value : scanValue steps text = (item, some after))
    (closes : skipSpace after = .char ']' :: rest) :
    scanItems (steps + 1) text = ([item], some rest) := by
  rw [scanItems, value]
  simp [closes]

theorem scanItems_more {steps : Nat} {text after next rest : List Symbol} {item : Reading}
    {items : List Reading} (value : scanValue steps text = (item, some after))
    (comma : skipSpace after = .char ',' :: next)
    (others : scanItems steps next = (items, some rest)) :
    scanItems (steps + 1) text = (item :: items, some rest) := by
  rw [scanItems, value]
  simp [comma, others]

/-- A field up to its colon. -/
theorem scanFields_named {steps : Nat} {name : String} {text : List Symbol} :
    scanFields (steps + 1) ((Json.quotedText name).map .char ++ .char ':' :: text) =
      match scanValue steps text with
      | (value, none) => ([(some name, value)], none)
      | (value, some rest) =>
        match skipSpace rest with
        | .char '}' :: rest => ([(some name, value)], some rest)
        | .char ',' :: rest =>
          let (fields, rest) := scanFields steps rest
          ((some name, value) :: fields, rest)
        | _ => ([(some name, value)], none) := by
  have quoted := scanString_quotedText name (.char ':' :: text)
  simp only [Json.quotedText, List.map_cons, List.map_append, List.map_nil, List.cons_append,
    List.append_assoc, List.nil_append]
  rw [scanFields, skipSpace_cons rfl]
  simp only [quoted]
  rw [skipSpace_cons rfl]
  rfl

theorem scanFields_last {steps : Nat} (name : String) {text after rest : List Symbol}
    {item : Reading} (value : scanValue steps text = (item, some after))
    (closes : skipSpace after = .char '}' :: rest) :
    scanFields (steps + 1) ((Json.quotedText name).map .char ++ .char ':' :: text) =
      ([(some name, item)], some rest) := by
  rw [scanFields_named, value]
  simp [closes]

theorem scanFields_more {steps : Nat} (name : String) {text after next rest : List Symbol}
    {item : Reading} {fields : List (Option String × Reading)}
    (value : scanValue steps text = (item, some after))
    (comma : skipSpace after = .char ',' :: next)
    (others : scanFields steps next = (fields, some rest)) :
    scanFields (steps + 1) ((Json.quotedText name).map .char ++ .char ':' :: text) =
      ((some name, item) :: fields, some rest) := by
  rw [scanFields_named, value]
  simp [comma, others]

/-! ## Values -/

theorem isSpace_false_of_isDigit {c : Char} (digit : c.isDigit = true) :
    isSpace (.char c) = false := by
  rw [Bool.eq_false_iff]
  intro blank
  simp only [isSpace, Bool.or_eq_true, decide_eq_true_eq] at blank
  rcases blank with ((rfl | rfl) | rfl) | rfl <;> exact absurd digit (by decide)

/-- The text of an integer starts with a digit or a minus. -/
theorem head_signed (i : Int) :
    ∃ c cs, (Text.signed i).toList = c :: cs ∧ (c.isDigit = true ∨ c = '-') := by
  cases i with
  | ofNat n =>
    cases text : Nat.toDigits 10 n with
    | nil => exact absurd text Nat.toDigits_ne_nil
    | cons c cs =>
      refine ⟨c, cs, by simp [Text.signed, Text.decimal, text], .inl ?_⟩
      exact Nat.isDigit_of_mem_toDigits (by decide) (by decide) (text ▸ List.mem_cons_self)
  | negSucc n => exact ⟨'-', _, by simp [Text.signed]; rfl, .inr rfl⟩

theorem scanValue_number {i : Int} (fits : (Json.Number.integer i).Fits) (steps : Nat)
    {rest : List Symbol} (stops : Stops rest) :
    scanValue (steps + 1) ((Text.signed i).toList.map .char ++ rest) =
      (.number (some (.integer i)), some rest) := by
  have read := ofNumeral_signed fits stops
  obtain ⟨c, cs, text, digit⟩ := head_signed i
  rw [text] at read ⊢
  have solid : isSpace (.char c) = false := by
    rcases digit with digit | rfl
    · exact isSpace_false_of_isDigit digit
    · rfl
  have other : c ∉ ['"', '[', '{', 'n', 't', 'f'] := by
    intro member
    simp only [List.mem_cons, List.not_mem_nil, or_false] at member
    rcases member with rfl | rfl | rfl | rfl | rfl | rfl <;> exact absurd digit (by decide)
  simp only [List.mem_cons, List.not_mem_nil, or_false, not_or] at other
  rw [List.map_cons, List.cons_append] at read ⊢
  rw [scanValue, skipSpace_cons solid]
  simp [other, read]

theorem stops_cons {c : Char} (mark : c ∈ [',', ']', '}']) (rest : List Symbol) :
    Stops (.char c :: rest) := by
  intro x head
  cases head
  simp only [List.mem_cons, List.not_mem_nil, or_false] at mark
  rcases mark with rfl | rfl | rfl <;> decide

theorem stops_append {blanks : List Char} (blank : ∀ c ∈ blanks, isSpace (.char c) = true)
    {text : List Symbol} (stops : Stops text) : Stops (blanks.map .char ++ text) := by
  cases blanks with
  | nil => exact stops
  | cons c blanks =>
    intro x head
    cases head
    have space := blank c List.mem_cons_self
    simp only [isSpace, Bool.or_eq_true, decide_eq_true_eq] at space
    rcases space with ((rfl | rfl) | rfl) | rfl <;> decide

end Reading

namespace Json

open Reading

variable {l : Layout}

/-- The text of a value starts with a character that is no blank and closes nothing. -/
theorem head_laidOut (l : Layout) (level : Nat) {v : Json} (plain : v.Plain) :
    ∃ c cs, laidOut l level v = c :: cs ∧ isSpace (.char c) = false ∧ c ≠ ']' := by
  cases v with
  | null => exact ⟨_, _, rfl, rfl, by decide⟩
  | bool b => cases b <;> exact ⟨_, _, rfl, rfl, by decide⟩
  | number n =>
    cases n with
    | real bits => exact absurd plain id
    | integer i =>
      obtain ⟨c, cs, text, digit⟩ := head_signed i
      refine ⟨c, cs, text, ?_⟩
      rcases digit with digit | rfl
      · exact ⟨isSpace_false_of_isDigit digit, by rintro rfl; exact absurd digit (by decide)⟩
      · exact ⟨rfl, by decide⟩
  | string s => exact ⟨_, _, rfl, rfl, by decide⟩
  | array items => cases items <;> exact ⟨_, _, rfl, rfl, by decide⟩
  | object fields => cases fields <;> exact ⟨_, _, rfl, rfl, by decide⟩

theorem skipSpace_laidOutItems (blank : l.IsBlank) (level : Nat) {item : Json} (plain : item.Plain)
    (others : List Json) (rest : List Symbol) :
    ∃ c more, skipSpace ((laidOutItems l level (item :: others)).map .char ++ rest) =
      .char c :: more ∧ c ≠ ']' := by
  have split : ∃ behind, laidOutItems l level (item :: others) =
      l.gap (level + 1) ++ (laidOut l (level + 1) item ++ behind) := by
    cases others <;> exact ⟨_, by simp only [laidOutItems, List.append_assoc]; rfl⟩
  obtain ⟨behind, split⟩ := split
  obtain ⟨c, cs, text, solid, filled⟩ := head_laidOut l (level + 1) plain
  refine ⟨c, (cs ++ behind).map .char ++ rest, ?_, filled⟩
  rw [split, text, List.map_append, List.append_assoc, skipSpace_append (blank.gap _)]
  exact skipSpace_cons solid _

theorem skipSpace_laidOutFields (blank : l.IsBlank) (level : Nat) (field : String × Json)
    (others : List (String × Json)) (rest : List Symbol) :
    ∃ more, skipSpace ((laidOutFields l level (field :: others)).map .char ++ rest) =
      .char '"' :: more := by
  obtain ⟨name, value⟩ := field
  have split : ∃ behind, laidOutFields l level ((name, value) :: others) =
      l.gap (level + 1) ++ '"' :: behind := by
    cases others <;> exact ⟨_, by simp only [laidOutFields, quotedText, List.append_assoc]; rfl⟩
  obtain ⟨behind, split⟩ := split
  refine ⟨behind.map .char ++ rest, ?_⟩
  rw [split, List.map_append, List.append_assoc, skipSpace_append (blank.gap _)]
  exact skipSpace_cons rfl _

-- by the recursion of the layout; every call of the reader takes a step, and twice the length of the
-- text is more than enough of them
mutual

theorem scanValue_laidOut (blank : l.IsBlank) (level : Nat) :
    ∀ (v : Json), v.Plain → ∀ (steps : Nat) (rest : List Symbol),
      2 * (laidOut l level v).length ≤ steps → Stops rest →
      scanValue steps ((laidOut l level v).map .char ++ rest) = (v.reading .closed, some rest)
  | .null, _, steps + 1, rest, _, _ => by
    rw [scanValue]
    rfl
  | .bool true, _, steps + 1, rest, _, _ => by
    rw [scanValue]
    rfl
  | .bool false, _, steps + 1, rest, _, _ => by
    rw [scanValue]
    rfl
  | .number (.integer i), plain, steps + 1, rest, _, stops => scanValue_number plain steps stops
  | .string s, _, steps + 1, rest, _, _ => by
    have quoted := scanString_quotedText s rest
    simp only [laidOut, quotedText, List.map_cons, List.map_append, List.map_nil, List.cons_append,
      List.append_assoc, List.nil_append]
    rw [scanValue, skipSpace_cons rfl]
    simp only [quoted]
    rfl
  | .array [], _, steps + 1, rest, _, _ => by
    rw [scanValue]
    rfl
  | .array (item :: others), plain, steps + 1, rest, enough, _ => by
    have bound : 2 * (laidOutItems l level (item :: others)).length ≤ steps := by
      simp only [laidOut, List.length_cons] at enough
      omega
    have scanned := scanItems_laidOut blank level item others plain steps rest bound
    obtain ⟨c, more, head, filled⟩ := skipSpace_laidOutItems blank level plain.1 others rest
    exact scanValue_array head filled scanned
  | .object [], _, steps + 1, rest, _, _ => by
    rw [scanValue]
    rfl
  | .object (field :: others), plain, steps + 1, rest, enough, _ => by
    have bound : 2 * (laidOutFields l level (field :: others)).length ≤ steps := by
      simp only [laidOut, List.length_cons] at enough
      omega
    have scanned := scanFields_laidOut blank level field others plain steps rest bound
    obtain ⟨more, head⟩ := skipSpace_laidOutFields blank level field others rest
    exact scanValue_object head (by decide) scanned
  -- no text is empty, so there is always a step left
  | v, plain, 0, rest, enough, _ => by
    obtain ⟨c, cs, text, _⟩ := head_laidOut l level plain
    simp [text] at enough

theorem scanItems_laidOut (blank : l.IsBlank) (level : Nat) :
    ∀ (item : Json) (others : List Json), PlainItems (item :: others) →
      ∀ (steps : Nat) (rest : List Symbol),
      2 * (laidOutItems l level (item :: others)).length ≤ steps →
      scanItems steps ((laidOutItems l level (item :: others)).map .char ++ rest) =
        (readingItems .closed (item :: others), some rest)
  | item, [], plain, steps + 1, rest, enough => by
    simp only [laidOutItems, List.length_append, List.length_singleton] at enough
    have stops := stops_append (blank.gap level) (stops_cons (by decide : ']' ∈ [',', ']', '}']) rest)
    have value := scanValue_laidOut blank (level + 1) item plain.1 steps _ (by omega) stops
    rw [← scanValue_append (blank.gap (level + 1))] at value
    -- behind the last item is the gap of the level around the items
    have closes := skipSpace_append (blank.gap level) (.char ']' :: rest)
    have scanned := scanItems_last value closes
    simpa [laidOutItems, readingItems] using scanned
  | item, next :: others, plain, steps + 1, rest, enough => by
    simp only [laidOutItems, List.length_append, List.length_cons] at enough
    have stops := stops_cons (by decide : ',' ∈ [',', ']', '}'])
      ((laidOutItems l level (next :: others)).map .char ++ rest)
    have value := scanValue_laidOut blank (level + 1) item plain.1 steps _ (by omega) stops
    rw [← scanValue_append (blank.gap (level + 1))] at value
    have more := scanItems_laidOut blank level next others plain.2 steps rest (by omega)
    have scanned := scanItems_more value (skipSpace_cons rfl _) more
    simpa [laidOutItems, readingItems] using scanned
  | item, [], _, 0, _, enough => by simp [laidOutItems] at enough
  | item, next :: others, _, 0, _, enough => by simp [laidOutItems] at enough

theorem scanFields_laidOut (blank : l.IsBlank) (level : Nat) :
    ∀ (field : String × Json) (others : List (String × Json)), PlainFields (field :: others) →
      ∀ (steps : Nat) (rest : List Symbol),
      2 * (laidOutFields l level (field :: others)).length ≤ steps →
      scanFields steps ((laidOutFields l level (field :: others)).map .char ++ rest) =
        (readingFields .closed (field :: others), some rest)
  | (name, v), [], plain, steps + 1, rest, enough => by
    simp only [laidOutFields, List.length_append, List.length_cons, List.length_nil] at enough
    have stops := stops_append (blank.gap level) (stops_cons (by decide : '}' ∈ [',', ']', '}']) rest)
    have value := scanValue_laidOut blank (level + 1) v plain.1 steps _ (by omega) stops
    rw [← scanValue_append blank.space] at value
    have closes := skipSpace_append (blank.gap level) (.char '}' :: rest)
    have scanned := scanFields_last name value closes
    rw [← scanFields_skipSpace, ← skipSpace_append (blank.gap (level + 1)),
      scanFields_skipSpace] at scanned
    simpa [laidOutFields, readingFields] using scanned
  | (name, v), next :: others, plain, steps + 1, rest, enough => by
    simp only [laidOutFields, List.length_append, List.length_cons] at enough
    have stops := stops_cons (by decide : ',' ∈ [',', ']', '}'])
      ((laidOutFields l level (next :: others)).map .char ++ rest)
    have value := scanValue_laidOut blank (level + 1) v plain.1 steps _ (by omega) stops
    rw [← scanValue_append blank.space] at value
    have more := scanFields_laidOut blank level next others plain.2 steps rest (by omega)
    have scanned := scanFields_more name value (skipSpace_cons rfl _) more
    rw [← scanFields_skipSpace, ← skipSpace_append (blank.gap (level + 1)),
      scanFields_skipSpace] at scanned
    simpa [laidOutFields, readingFields] using scanned
  | (name, v), [], _, 0, _, enough => by simp [laidOutFields] at enough
  | (name, v), next :: others, _, 0, _, enough => by simp [laidOutFields] at enough

end

theorem ofSymbols_laidOut (blank : l.IsBlank) (level : Nat) {v : Json} (plain : v.Plain) :
    ofSymbols ((laidOut l level v).map .char) = (v.reading .closed, true) := by
  have scanned := scanValue_laidOut blank level v plain
    (2 * ((laidOut l level v).map Symbol.char).length + 2) [] (by simp) stops_nil
  rw [List.append_nil] at scanned
  rw [ofSymbols, scanned]
  rfl

/-- A plain value on one line is read back. -/
theorem ofSymbols_compact {v : Json} (plain : v.Plain) :
    ofSymbols (Symbol.ofString v.compact) = (v.reading .closed, true) := by
  rw [Symbol.ofString, compact, String.toList_ofList, compactChars_eq 0]
  exact ofSymbols_laidOut Layout.isBlank_compact 0 plain

/-- A plain value over several lines is read back. -/
theorem ofSymbols_pretty {v : Json} (plain : v.Plain) :
    ofSymbols (Symbol.ofString v.pretty) = (v.reading .closed, true) := by
  rw [Symbol.ofString, pretty, String.toList_ofList, prettyChars_eq 0]
  exact ofSymbols_laidOut Layout.isBlank_pretty 0 plain

/-! ## Values in memory -/

mutual

/-- How many arrays and objects are nested in a value. -/
def nesting : Json → Nat
  | .array items => nestingItems items + 1
  | .object fields => nestingFields fields + 1
  | _ => 0

/-- How many arrays and objects are nested in items. -/
def nestingItems : List Json → Nat
  | [] => 0
  | item :: rest => max item.nesting (nestingItems rest)

/-- How many arrays and objects are nested in the values of fields. -/
def nestingFields : List (String × Json) → Nat
  | [] => 0
  | (_, value) :: rest => max value.nesting (nestingFields rest)

end

mutual

/-- A value is nested as deep as it is when it is gone through. -/
theorem nesting_reading (tail : Tail) : ∀ v : Json, (v.reading tail).nesting = v.nesting
  | .null => rfl
  | .bool _ => rfl
  | .number _ => rfl
  | .string _ => rfl
  | .array items => by
    rw [reading, Reading.nesting, nestingItems_readingItems tail items, nesting]
  | .object fields => by
    rw [reading, Reading.nesting, nestingFields_readingFields tail fields, nesting]

theorem nestingItems_readingItems (tail : Tail) :
    ∀ items : List Json, Reading.nestingItems (readingItems tail items) = nestingItems items
  | [] => rfl
  | item :: rest => by
    rw [readingItems, Reading.nestingItems, nesting_reading tail item,
      nestingItems_readingItems tail rest, nestingItems]

theorem nestingFields_readingFields (tail : Tail) :
    ∀ fields : List (String × Json),
      Reading.nestingFields (readingFields tail fields) = nestingFields fields
  | [] => rfl
  | (_, value) :: rest => by
    rw [readingFields, Reading.nestingFields, nesting_reading tail value,
      nestingFields_readingFields tail rest, nestingFields]

end

mutual

theorem toJson?_reading {tail : Tail} (whole : tail ≠ .torn) :
    ∀ v : Json, (v.reading tail).toJson? = some v.sorted
  | .null => by simp [reading, toJson?, sorted]
  | .bool _ => by simp [reading, toJson?, sorted]
  | .number _ => by simp [reading, toJson?, sorted]
  | .string _ => by simp [reading, toJson?, sorted]
  | .array items => by
    have inner := itemsToJson?_reading whole items
    simp [reading, toJson?, sorted, whole, inner]
  | .object fields => by
    have inner := fieldsToJson?_reading whole fields []
    simp [reading, toJson?, sorted, whole, inner]

theorem itemsToJson?_reading {tail : Tail} (whole : tail ≠ .torn) :
    ∀ items : List Json, itemsToJson? (readingItems tail items) = some (sortedItems items)
  | [] => by simp [readingItems, itemsToJson?, sortedItems]
  | item :: rest => by
    have first := toJson?_reading whole item
    have others := itemsToJson?_reading whole rest
    simp [readingItems, itemsToJson?, sortedItems, first, others]

theorem fieldsToJson?_reading {tail : Tail} (whole : tail ≠ .torn) :
    ∀ (fields : List (String × Json)) (done : List (String × Json)),
      fieldsToJson? (readingFields tail fields) done = some (sortedFields fields done)
  | [], _ => by simp [readingFields, fieldsToJson?, sortedFields]
  | (name, value) :: rest, done => by
    have first := toJson?_reading whole value
    have others := fieldsToJson?_reading whole rest (putField name value.sorted done)
    simp [readingFields, fieldsToJson?, sortedFields, first, others]

end

/-- The text of a plain value that is not nested too deep is parsed, and its fields come out in the
order of their names. -/
theorem parse?_compact {v : Json} (plain : v.Plain) (flat : v.nesting ≤ depthLimit) :
    parse? v.compact.toUTF8 = some v.sorted := by
  rw [parse?, Symbol.ofBytes_toUTF8, parseWithin?, ofSymbols_compact plain]
  simp only [nesting_reading, flat, if_true]
  exact toJson?_reading (by decide) v

end Json

end Tandem
