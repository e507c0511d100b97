import Tandem.Proofs.Files

/-! # Trees of files

Files form a tree: what is there stands in a directory. A path that does not go back up on its way
leads where its names spell, through directories that stand above each other.

* `Files.Rooted` says that the files form a tree.
* `Files.follow_straight` says where a path leads that does not go back up, and
  `Files.enter_waypoints` that the slash at the end of a path means nothing for a directory. -/

namespace Tandem.Files

open Tandem.Path (IsName join below components)

variable {files files' : Files}

/-! ## Rooted files -/

/-- Everything that is there stands in a directory, under a name that a path can spell. -/
def Rooted (files : Files) : Prop :=
  ∀ place node, files.nodes[place]? = some node →
    ∃ parent name, place = parent ++ [name] ∧ '/' ∉ name.toList ∧ isTaken name = false ∧
      files.node? parent = some .directory

theorem isGiven_concat {place : Place} {name : String} (untaken : isTaken name = false) :
    Place.isGiven (place ++ [name]) = false := by
  simp only [isTaken, Bool.or_eq_false_iff, beq_eq_false_iff_ne] at untaken
  obtain ⟨⟨-, up⟩, root⟩ := untaken
  have apart : place ++ [name] ≠ ["/"] := by
    intro same
    have last := congrArg List.getLast? same
    rw [List.getLast?_concat] at last
    exact root (Option.some.inj last)
  simp [Place.isGiven, up, apart]

theorem node?_concat {place : Place} {name : String} (untaken : isTaken name = false) :
    files.node? (place ++ [name]) = files.nodes[place ++ [name]]? := by
  simp [node?, isGiven_concat untaken]

theorem isGiven_of_concat {place : Place} {name : String}
    (given : Place.isGiven (place ++ [name]) = true) : place.isGiven = true := by
  simp only [Place.isGiven, Bool.or_eq_true, beq_iff_eq] at given ⊢
  rcases given with up | root
  · rw [List.all_append, Bool.and_eq_true] at up
    exact .inl up.1
  · have empty : place = [] := by
      have length := congrArg List.length root
      rw [List.length_append] at length
      exact List.length_eq_zero_iff.1 (by simpa using length)
    exact .inl (by rw [empty]; rfl)

namespace Rooted

theorem parent (rooted : files.Rooted) {place : Place} {name : String} {node : Node}
    (there : files.node? (place ++ [name]) = some node) : files.node? place = some .directory := by
  by_cases given : Place.isGiven (place ++ [name]) = true
  · exact node?_of_isGiven (isGiven_of_concat given)
  · rw [node?, if_neg given] at there
    obtain ⟨parent, last, same, -, -, directory⟩ := rooted _ _ there
    rw [(List.append_inj' same rfl).1]
    exact directory

/-- Every place on the way to something that is there is a directory. -/
theorem above (rooted : files.Rooted) {place rest : Place} {node : Node}
    (there : files.node? (place ++ rest) = some node) (further : rest ≠ []) :
    files.node? place = some .directory := by
  induction rest generalizing place with
  | nil => exact absurd rfl further
  | cons name rest ih =>
    rw [List.append_cons] at there
    cases rest with
    | nil => exact rooted.parent (by simpa using there)
    | cons second rest => exact rooted.parent (ih there (List.cons_ne_nil _ _))

theorem empty : Files.empty.Rooted := by
  intro place node there
  simp [Files.empty] at there

/-- Something is put into a directory, in no other's place. -/
theorem set (rooted : files.Rooted) {parent : Place} {name : String}
    (directory : files.node? parent = some .directory) (undivided : '/' ∉ name.toList)
    (untaken : isTaken name = false) (free : files.node? (parent ++ [name]) ≠ some .directory)
    (node : Node) : (files.set (parent ++ [name]) node).Rooted := by
  -- nothing stood in what is replaced, since it was no directory
  have stays : ∀ place, files.node? place = some .directory →
      (files.set (parent ++ [name]) node).node? place = some .directory := by
    intro place there
    rw [node?_set_of_ne (by rintro rfl; exact free there), there]
  intro place other there
  by_cases same : place = parent ++ [name]
  · exact ⟨parent, name, same, undivided, untaken, stays parent directory⟩
  · have old : files.nodes[place]? = some other := by
      simpa [Files.set, Std.ExtTreeMap.getElem?_insert, Ne.symm same] using there
    obtain ⟨outer, last, rfl, proper, fresh, above⟩ := rooted place other old
    exact ⟨outer, last, rfl, proper, fresh, stays outer above⟩

/-- Something other than a directory is taken away. -/
theorem erase (rooted : files.Rooted) {place : Place} (free : files.node? place ≠ some .directory) :
    (files.erase place).Rooted := by
  intro other node there
  have old : files.nodes[other]? = some node := by
    rw [Files.erase, Std.ExtTreeMap.getElem?_erase] at there
    split at there
    · cases there
    · exact there
  obtain ⟨outer, last, rfl, proper, fresh, above⟩ := rooted other node old
  refine ⟨outer, last, rfl, proper, fresh, ?_⟩
  rw [node?_erase_of_ne (by rintro rfl; exact free above), above]

end Rooted

/-! ## Ways -/

/-- Where a name leads from a directory. -/
def next (here : Place) (name : String) : Except FileError Place :=
  if isDot name then .ok here
  else if name = ".." then .ok here.above
  else if longestName < name.utf8ByteSize then .error .nameTooLong
  else .ok (here ++ [name])

theorem follow_cons (files : Files) (here : Place) (name : String) (rest : List String) :
    files.follow here (name :: rest) =
      match files.node? here with
      | none => .error .notFound
      | some (.file _) => .error .notDirectory
      | some .directory => (next here name).bind fun there => files.follow there rest := by
  rw [follow, next]
  cases files.node? here with
  | none => rfl
  | some node =>
    cases node with
    | file content => rfl
    | directory =>
      by_cases dot : isDot name = true
      · simp [dot, Except.bind]
      · by_cases up : name = ".."
        · simp only [if_neg dot, if_pos up, Except.bind]
        · by_cases long : longestName < name.utf8ByteSize <;> simp [dot, up, long, Except.bind]

theorem follow_directory {here : Place} (directory : files.node? here = some .directory)
    (name : String) (rest : List String) :
    files.follow here (name :: rest) = (next here name).bind fun there => files.follow there rest := by
  rw [follow_cons, directory]

/-- A way that leads somewhere leads on from directory to directory. -/
theorem of_follow_cons {here there : Place} {name : String} {rest : List String}
    (leads : files.follow here (name :: rest) = .ok there) :
    ∃ via, files.node? here = some .directory ∧ next here name = .ok via ∧
      files.follow via rest = .ok there := by
  rw [follow_cons] at leads
  split at leads
  · cases leads
  · cases leads
  · rename_i directory
    cases onward : next here name with
    | error error => simp [onward, Except.bind] at leads
    | ok via => exact ⟨via, directory, rfl, by simpa [onward, Except.bind] using leads⟩

/-- A name that does not go back up leads on by itself, or by nothing. -/
theorem next_straight {here via : Place} {name : String} (straight : name ≠ "..")
    (onward : next here name = .ok via) : via = here ++ [name].filter (!isDot ·) := by
  by_cases dot : isDot name = true
  · simp only [next, dot, if_true, Except.ok.injEq] at onward
    simp [dot, onward]
  · by_cases long : longestName < name.utf8ByteSize
    · simp [next, dot, straight, long] at onward
    · simp only [next, dot, straight, long, if_false, Bool.false_eq_true, Except.ok.injEq] at onward
      simp [dot, onward]

theorem next_of_short (here : Place) {name : String} (short : name.utf8ByteSize ≤ longestName) :
    ∃ via, next here name = .ok via := by
  have fits : ¬ longestName < name.utf8ByteSize := by omega
  by_cases dot : isDot name = true
  · exact ⟨here, by simp [next, dot]⟩
  · by_cases up : name = ".."
    · exact ⟨here.above, by rw [next, if_neg dot, if_pos up]⟩
    · exact ⟨here ++ [name], by simp [next, dot, up, fits]⟩

/-- Without going back up, names lead where they spell. -/
theorem follow_straight {here there : Place} {ways : List String} (straight : ".." ∉ ways)
    (leads : files.follow here ways = .ok there) : there = here ++ ways.filter (!isDot ·) := by
  induction ways generalizing here with
  | nil =>
    cases leads
    simp
  | cons name ways ih =>
    rw [List.mem_cons, not_or] at straight
    obtain ⟨via, -, onward, leads⟩ := of_follow_cons leads
    rw [ih straight.2 leads, next_straight (Ne.symm straight.1) onward, List.append_assoc,
      ← List.filter_append]
    rfl

/-- A way that does not go back up leads to a directory in every tree that has the directory, if it
does so in one. -/
theorem Rooted.follow_of_directory (rooted : files.Rooted) {here there : Place} {ways : List String}
    (straight : ".." ∉ ways) (leads : files'.follow here ways = .ok there)
    (old : files.node? there = some .directory) : files.follow here ways = .ok there := by
  induction ways generalizing here with
  | nil => exact leads
  | cons name ways ih =>
    have spelled := follow_straight straight leads
    rw [List.mem_cons, not_or] at straight
    obtain ⟨via, -, onward, leads⟩ := of_follow_cons leads
    -- the way stays above the directory that it ends in
    have directory : files.node? here = some .directory := by
      by_cases further : (name :: ways).filter (!isDot ·) = []
      · rwa [spelled, further, List.append_nil] at old
      · exact rooted.above (spelled ▸ old) further
    rw [follow_directory directory, onward]
    exact ih straight.2 leads

/-! ## Entering directories -/

theorem enter_eq (files : Files) (ways : List String) :
    files.enter ways = (files.follow [] ways).bind fun here => files.follow here [""] :=
  follow_append files [] ways [""]

theorem enter_isDirectory {ways : List String} {place : Place}
    (entered : files.enter ways = .ok place) : files.node? place = some .directory := by
  rw [enter_eq] at entered
  cases led : files.follow [] ways with
  | error error => simp [led, Except.bind] at entered
  | ok here =>
    simp only [led, Except.bind] at entered
    obtain ⟨via, directory, onward, same⟩ := of_follow_cons entered
    cases same
    cases onward
    exact directory

theorem straight_blank {ways : List String} (straight : ".." ∉ ways) : ".." ∉ ways ++ [""] := by
  simp [straight]

/-- From a directory that is there, a way goes on. -/
theorem enter_append {front : List String} {base : Place} (entered : files.enter front = .ok base)
    (back : List String) : files.enter (front ++ back) = files.follow base (back ++ [""]) := by
  have led : files.follow [] front = .ok base := by
    rw [enter_eq] at entered
    cases led : files.follow [] front with
    | error error => simp [led, Except.bind] at entered
    | ok here =>
      simp only [led, Except.bind] at entered
      obtain ⟨via, -, onward, same⟩ := of_follow_cons entered
      cases same
      cases onward
      rfl
  rw [enter, List.append_assoc, follow_append, led]
  rfl

/-- What a way goes through is a directory. -/
theorem node?_of_enter_append {outer rest : List String} {name : String} {parent place : Place}
    (entered : files.enter outer = .ok parent) (untaken : isTaken name = false)
    (further : files.enter (outer ++ name :: rest) = .ok place) :
    files.node? (parent ++ [name]) = some .directory := by
  simp only [isTaken, Bool.or_eq_false_iff, beq_eq_false_iff_ne] at untaken
  obtain ⟨⟨proper, up⟩, -⟩ := untaken
  rw [enter_append entered, List.cons_append] at further
  obtain ⟨via, -, onward, further⟩ := of_follow_cons further
  have stepped := next_straight up onward
  rw [List.filter_cons_of_pos (by simp [proper]), List.filter_nil] at stepped
  subst stepped
  obtain ⟨second, others, whole⟩ :=
    List.exists_cons_of_ne_nil (List.append_ne_nil_of_right_ne_nil rest (List.cons_ne_nil "" []))
  rw [whole] at further
  obtain ⟨-, directory, -, -⟩ := of_follow_cons further
  exact directory

/-- Names that lead nowhere by themselves can be left out. -/
theorem follow_dots (files : Files) (here : Place) (ways : List String) :
    files.follow here (ways.filter (!isDot ·) ++ [""]) = files.follow here (ways ++ [""]) := by
  induction ways generalizing here with
  | nil => rfl
  | cons name ways ih =>
    rw [List.cons_append, follow_cons files here name]
    by_cases dot : isDot name = true
    · have onward : next here name = .ok here := by simp [next, dot]
      rw [List.filter_cons_of_neg (by simp [dot]), ih, onward]
      -- what follows asks for a directory just the same
      obtain ⟨first, rest, whole⟩ :=
        List.exists_cons_of_ne_nil (List.append_ne_nil_of_right_ne_nil ways (List.cons_ne_nil "" []))
      cases there : files.node? here with
      | none => rw [whole, follow_cons, there]
      | some node =>
        cases node with
        | file content => rw [whole, follow_cons, there]
        | directory => rfl
    · rw [List.filter_cons_of_pos (by simp [dot]), List.cons_append, follow_cons]
      simp only [ih]

theorem enter_dots (files : Files) (ways : List String) :
    files.enter (ways.filter (!isDot ·)) = files.enter ways :=
  follow_dots files [] ways

/-- A way ends where it cannot enter. -/
theorem follow_of_enter_error {outer : List String} {error : FileError}
    (failed : files.enter outer = .error error) (name : String) (rest : List String) :
    files.follow [] (outer ++ name :: rest) = .error error := by
  rw [enter_eq] at failed
  rw [follow_append]
  cases led : files.follow [] outer with
  | error other => simpa [led, Except.bind] using failed
  | ok here =>
    simp only [led, Except.bind, follow_cons] at failed ⊢
    split at failed <;> simp_all [next, isDot, follow]

theorem enter_blank (files : Files) (ways : List String) :
    files.enter (ways ++ [""]) = files.enter ways := by
  cases entered : files.enter ways with
  | error error =>
    have stopped := follow_of_enter_error entered "" [""]
    rwa [List.append_cons] at stopped
  | ok place =>
    rw [enter, follow_append, show files.follow [] (ways ++ [""]) = .ok place from entered]
    simp only [Except.bind]
    rw [follow_directory (enter_isDirectory entered)]
    rfl

theorem enter_blanks (files : Files) (ways : List String) {blanks : List String}
    (blank : ∀ name ∈ blanks, name = "") : files.enter (ways ++ blanks) = files.enter ways := by
  induction blanks generalizing ways with
  | nil => rw [List.append_nil]
  | cons name blanks ih =>
    have first : name = "" := blank name List.mem_cons_self
    rw [List.append_cons, ih _ fun other member => blank other (List.mem_cons_of_mem _ member), first,
      enter_blank]

/-! ## Paths of directories -/

theorem waypoints_slash {d : String} (filled : d ≠ "") :
    waypoints (d ++ "/") = waypoints d ++ [""] := by
  have root : (d ++ "/").startsWith "/" = d.startsWith "/" := by
    rw [Bool.eq_iff_iff, String.startsWith_string_iff, String.startsWith_string_iff]
    cases chars : d.toList with
    | nil => exact absurd (String.toList_eq_nil_iff.1 chars) filled
    | cons c cs => simp [chars]
  have last : components (d ++ "/") = components d ++ [""] := by
    have split := Path.components_append d ""
    rwa [String.append_empty] at split
  rw [waypoints, waypoints, root, last]
  split <;> rfl

/-- The names in front of every name below a directory are those of the directory, up to the slash
that may end its path. -/
theorem waypoints_lead {dir : String} (filled : dir ≠ "") :
    waypoints dir = lead dir ∨ waypoints dir = lead dir ++ [""] := by
  have nonempty : dir.isEmpty = false := by simpa using filled
  by_cases slash : dir.endsWith "/" = true
  · right
    obtain ⟨front, same⟩ := Text.endsWith_iff.1 slash
    have ends : dir = String.ofList front ++ "/" := String.toList_inj.1 (by simpa using same.symm)
    have inner : below dir = dir := by
      rw [below, join, Path.startsWith_empty]
      simp [slash]
    have last : (waypoints dir).getLast? = some "" := by
      have split := Path.components_append (String.ofList front) ""
      rw [String.append_empty, ← ends] at split
      rw [waypoints, split]
      split
      · rw [show components "" = [""] from rfl, ← List.cons_append, List.getLast?_concat]
      · exact List.getLast?_concat
    obtain ⟨names, ended⟩ := List.getLast?_eq_some_iff.1 last
    rw [lead, inner, ended, List.dropLast_concat]
  · left
    have inner : below dir = dir ++ "/" := by
      rw [below, join, Path.startsWith_empty]
      simp [slash, nonempty]
    rw [lead, inner, waypoints_slash filled, List.dropLast_concat]

theorem mem_waypoints {dir name : String} (member : name ∈ waypoints dir) :
    name = "/" ∨ name ∈ components dir := by
  unfold waypoints at member
  split at member
  · exact List.mem_cons.1 member
  · exact .inr member

theorem mem_lead {dir name : String} (member : name ∈ lead dir) :
    name = "/" ∨ name ∈ components dir := by
  by_cases empty : dir = ""
  · have nothing : lead "" = [] := by decide
    rw [empty, nothing] at member
    cases member
  · apply mem_waypoints
    rcases waypoints_lead empty with same | same
    · rwa [same]
    · exact same ▸ List.mem_append_left _ member

theorem enter_waypoints (files : Files) {dir : String} (filled : dir ≠ "") :
    files.enter (waypoints dir) = files.enter (lead dir) := by
  rcases waypoints_lead filled with same | same
  · rw [same]
  · rw [same, enter_blank]

/-- The names of a path that lead somewhere. -/
def steps (dir : String) : List String := (lead dir).filter (!isDot ·)

theorem steps_eq (dir : String) : (waypoints dir).filter (!isDot ·) = steps dir := by
  by_cases blank : dir = ""
  · rw [blank]
    rfl
  · rw [steps]
    rcases waypoints_lead blank with same | same
    · rw [same]
    · rw [same, List.filter_append]
      exact List.append_nil _

end Tandem.Files
