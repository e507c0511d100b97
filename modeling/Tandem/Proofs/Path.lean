import Tandem.Files

/-! # Paths below a directory

A path that joins a directory and a name consists of a front, which does not depend on the name, and
of the name. The front is empty or ends with a slash, so the name is always the last of the names
between the slashes. -/

namespace Tandem

namespace Text

theorem split_of_not_mem {mark : Char} {s : List Char} (absent : mark ∉ s) :
    split mark s = [s] := by
  induction s with
  | nil => rfl
  | cons c s ih =>
    rw [List.mem_cons, not_or] at absent
    have other : c ≠ mark := Ne.symm absent.1
    simp [split, other, ih absent.2]

theorem split_ne_nil (mark : Char) (s : List Char) : split mark s ≠ [] := by
  cases s with
  | nil => exact List.cons_ne_nil _ _
  | cons c s =>
    rw [split]
    split
    · exact List.cons_ne_nil _ _
    · split <;> exact List.cons_ne_nil _ _

theorem split_append (mark : Char) (s t : List Char) :
    split mark (s ++ mark :: t) = split mark s ++ split mark t := by
  induction s with
  | nil => simp [split]
  | cons c s ih =>
    by_cases same : c = mark
    · simp [split, same, ih]
    · cases parts : split mark s with
      | nil => exact absurd parts (split_ne_nil mark s)
      | cons first others => simp [split, same, ih, parts]

theorem not_mem_of_mem_split {mark : Char} {s part : List Char} (member : part ∈ split mark s) :
    mark ∉ part := by
  induction s generalizing part with
  | nil =>
    rw [split, List.mem_singleton] at member
    simp [member]
  | cons c s ih =>
    rw [split] at member
    split at member
    · rcases List.mem_cons.1 member with rfl | later
      · exact List.not_mem_nil
      · exact ih later
    · rename_i other
      cases parts : split mark s with
      | nil => exact absurd parts (split_ne_nil mark s)
      | cons first others =>
        simp only [parts] at member ih
        rcases List.mem_cons.1 member with rfl | later
        · simp [Ne.symm other, ih List.mem_cons_self]
        · exact ih (List.mem_cons_of_mem _ later)

theorem ne_of_mem_reverse {mark : Char} {s : List Char} (absent : mark ∉ s) :
    ∀ c ∈ s.reverse, decide (c ≠ mark) = true := by
  intro c member
  rw [decide_eq_true_eq]
  rintro rfl
  exact absent (List.mem_reverse.1 member)

theorem endsWith_iff {pat s : String} : s.endsWith pat = true ↔ pat.toList <:+ s.toList := by
  rw [← String.endsWith_toSlice, String.Slice.endsWith_string_iff, String.copy_toSlice]

theorem startsWith_slash (s : String) : s.startsWith "/" = (s.toList.head? == some '/') := by
  rw [Bool.eq_iff_iff, String.startsWith_string_iff]
  cases s.toList with
  | nil => simp
  | cons c rest => simp [List.cons_prefix_cons, @eq_comm _ '/']

theorem endsWith_slash (s : String) : s.endsWith "/" = (s.toList.getLast? == some '/') := by
  rw [Bool.eq_iff_iff, endsWith_iff, beq_iff_eq, List.getLast?_eq_some_iff]
  exact exists_congr fun _ => eq_comm

end Text

namespace Path

/-- A text that can be a name in a path: it is not empty, and no slash divides it. -/
structure IsName (name : String) : Prop where
  filled : name ≠ ""
  undivided : '/' ∉ name.toList

theorem IsName.not_startsWith {name : String} (named : IsName name) :
    name.startsWith "/" = false := by
  rw [String.startsWith_string_eq_false_iff]
  intro slash
  exact named.undivided (slash.subset (by simp))

theorem startsWith_empty : "".startsWith "/" = false := Text.startsWith_slash ""

/-- Paths are joined by their characters. In this form closed paths compute. -/
theorem join_eq_toList (base path : String) : join base path =
    if path.toList.head? == some '/' then path
    else if base.isEmpty || base.toList.getLast? == some '/' then base ++ path
    else base ++ "/" ++ path := by
  rw [join, Text.startsWith_slash, Text.endsWith_slash]

/-- What stands in front of every name below a directory. -/
def below (dir : String) : String := join dir ""

theorem join_eq (dir : String) {name : String} (named : IsName name) :
    join dir name = below dir ++ name := by
  rw [below, join, join, named.not_startsWith, startsWith_empty]
  by_cases ends : (dir.isEmpty || dir.endsWith "/") = true
  · simp only [ends, Bool.false_eq_true, if_false, if_true, String.append_empty]
  · simp only [ends, Bool.false_eq_true, if_false, String.append_empty]

theorem below_cases (dir : String) : below dir = "" ∨ ∃ d, below dir = d ++ "/" := by
  rw [below, join, startsWith_empty]
  by_cases ends : (dir.isEmpty || dir.endsWith "/") = true
  · simp only [ends, Bool.false_eq_true, if_false, if_true, String.append_empty]
    rcases Bool.or_eq_true_iff.1 ends with nothing | slash
    · exact .inl (String.isEmpty_iff.1 nothing)
    · obtain ⟨front, same⟩ := Text.endsWith_iff.1 slash
      exact .inr ⟨String.ofList front, String.toList_inj.1 (by simpa using same.symm)⟩
  · simp only [ends, Bool.false_eq_true, if_false, String.append_empty]
    exact .inr ⟨dir, rfl⟩

theorem components_of_isName {name : String} (named : IsName name) : components name = [name] := by
  rw [components, Text.split_of_not_mem named.undivided]
  simp

theorem components_append (d t : String) :
    components (d ++ "/" ++ t) = components d ++ components t := by
  have chars : (d ++ "/" ++ t).toList = d.toList ++ '/' :: t.toList := by simp
  rw [components, chars, Text.split_append, List.map_append, components, components]

theorem fileName_append (dir : String) {name : String} (named : IsName name) :
    fileName (below dir ++ name) = name := by
  rcases below_cases dir with empty | ⟨d, slash⟩
  · rw [empty, String.empty_append, fileName, components_of_isName named]
    rfl
  · rw [slash, fileName, components_append, components_of_isName named]
    simp

theorem front_append (dir : String) {name : String} (named : IsName name) :
    front (below dir ++ name) = below dir := by
  have passed := Text.ne_of_mem_reverse named.undivided
  rw [front, String.toList_append, List.reverse_append, List.dropWhile_append_of_pos passed]
  rcases below_cases dir with empty | ⟨d, slash⟩
  · simp [empty]
  · simp [slash]

/-! ## Extensions -/

theorem isRelative_eq_false {name : String} {c : Char} (inside : c ∈ name.toList)
    (plain : c ≠ '.') : isRelative name = false := by
  have apart : ∀ other ∈ ["", ".", ".."], name ≠ other := by
    intro other member same
    rw [same] at inside
    simp only [List.mem_cons, List.not_mem_nil, or_false] at member
    rcases member with rfl | rfl | rfl
    · exact absurd inside (by simp)
    · exact plain (by simpa using inside)
    · exact plain (by simpa using inside)
  simp [isRelative, apart]

/-- A name is divided in front of its extension. -/
theorem atDot?_append {stem extension : String} (filled : stem ≠ "") (short : extension ≠ "")
    (undotted : '.' ∉ extension.toList) :
    atDot? (stem ++ "." ++ extension) = some (stem, extension) := by
  have passed := Text.ne_of_mem_reverse undotted
  have back : (stem ++ "." ++ extension).toList.reverse =
      extension.toList.reverse ++ '.' :: stem.toList.reverse := by simp
  -- a name with an extension is none of those that are made of dots
  have relative : isRelative (stem ++ "." ++ extension) = false := by
    cases chars : extension.toList with
    | nil => exact absurd (String.toList_eq_nil_iff.1 chars) short
    | cons c cs =>
      have inside : c ∈ extension.toList := by simp [chars]
      refine isRelative_eq_false (c := c) (by simp [inside]) ?_
      rintro rfl
      exact undotted inside
  have nonempty : stem.toList.reverse ≠ [] := by simpa using filled
  cases chars : stem.toList.reverse with
  | nil => exact absurd chars nonempty
  | cons c cs =>
    rw [atDot?, back, chars, List.dropWhile_append_of_pos passed, List.takeWhile_append_of_pos passed,
      List.dropWhile_cons_of_neg (by simp), List.takeWhile_cons_of_neg (by simp), List.append_nil,
      List.reverse_reverse, String.ofList_toList]
    have stemBack : String.ofList (c :: cs).reverse = stem := by
      rw [← chars, List.reverse_reverse, String.ofList_toList]
    simp only [relative, Bool.false_eq_true, if_false, stemBack]

/-- Another extension takes the place of the old one, unless the name is made of dots then. -/
theorem withExtension_append (dir : String) {stem extension : String} (filled : stem ≠ "")
    (undivided : '/' ∉ stem.toList) (short : extension ≠ "") (undotted : '.' ∉ extension.toList)
    (unslashed : '/' ∉ extension.toList) (other : String) :
    withExtension (below dir ++ (stem ++ "." ++ extension)) other =
      below dir ++ (if stem = "." then ".." else stem ++ "." ++ other) := by
  have named : IsName (stem ++ "." ++ extension) :=
    ⟨by simp [filled], by simp [undivided, unslashed]⟩
  have relative : isRelative (stem ++ ".") = true ↔ stem = "." := by
    have two : stem ++ "." = ".." ↔ stem = "." := by
      rw [show ".." = "." ++ "." from rfl]
      exact String.append_left_inj "."
    have one : stem ++ "." = "." ↔ stem = "" := by
      simp
    simp [isRelative, two, one, filled]
  rw [withExtension, fileName_append dir named, front_append dir named,
    atDot?_append filled short undotted]
  by_cases dot : stem = "."
  · subst dot
    simp only [relative, if_true, String.append_assoc]
    rfl
  · simp only [relative, dot, if_false, String.append_assoc]

end Path

namespace Files

open Tandem.Path

theorem waypoints_eq_toList (path : String) : waypoints path =
    if path.toList.head? == some '/' then "/" :: components path else components path := by
  rw [waypoints, Text.startsWith_slash]

/-- The names in front of every name below a directory. -/
def lead (dir : String) : List String := (waypoints (below dir)).dropLast

theorem lead_eq_toList (dir : String) : lead dir =
    let path := if dir.isEmpty || dir.toList.getLast? == some '/' then dir ++ "" else dir ++ "/" ++ ""
    (if path.toList.head? == some '/' then "/" :: components path else components path).dropLast := by
  rw [lead, below, join_eq_toList, waypoints_eq_toList]
  rfl

theorem waypoints_join (dir : String) {name : String} (named : IsName name) :
    waypoints (join dir name) = lead dir ++ [name] := by
  rw [join_eq dir named, lead]
  rcases below_cases dir with empty | ⟨d, slash⟩
  · rw [empty, String.empty_append, waypoints, named.not_startsWith]
    simp [components_of_isName named]
    decide
  · -- the first character is in front of the name, so both paths are absolute or both are not
    have root : (d ++ "/" ++ name).startsWith "/" = (d ++ "/").startsWith "/" := by
      rw [Bool.eq_iff_iff, String.startsWith_string_iff, String.startsWith_string_iff]
      cases chars : d.toList <;> simp [chars]
    have last : components (d ++ "/") = components d ++ [""] := by
      have split := components_append d ""
      rwa [String.append_empty] at split
    rw [slash, waypoints, waypoints, root, components_append, last, components_of_isName named]
    split
    · have inner : ("/" :: (components d ++ [""])).dropLast = "/" :: components d := by
        rw [← List.cons_append, List.dropLast_concat]
      rw [inner]
      rfl
    · rw [List.dropLast_concat]

end Files

end Tandem
