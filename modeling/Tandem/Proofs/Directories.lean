import Tandem.Proofs.FileTree

/-! # Making directories

Making directories lets the tree of files grow, and the only question is what a path finds then that
it did not find before.

* `Files.Grows` says that nothing changed but that there are new directories.
* `Files.Missing` says that the path of a directory breaks off. Only then does making the directory
  change anything (`makeDirectories_of_not_missing`).
* `Files.Onward` says that the path goes back up only where it does not break off. Then the place that
  it leads to afterwards is new and empty (`Rooted.new_of_missing`), and nobody who looks there
  notices a difference (`Rooted.unnoticed`). -/

namespace Tandem.Files

open Tandem.Path (components)

variable {files files' : Files}

/-! ## Growth -/

/-- Nothing changed but that there are new directories, at certain places. -/
def Grows (new : Place → Prop) (files files' : Files) : Prop :=
  ∀ place, files'.node? place = files.node? place ∨
    (files.node? place = none ∧ files'.node? place = some .directory ∧ new place)

namespace Grows

variable {new : Place → Prop}

theorem refl (new : Place → Prop) (files : Files) : Grows new files files := fun _ => .inl rfl

theorem set (grows : Grows new files files') {place : Place} (free : files'.node? place = none)
    (fits : new place) : Grows new files (files'.set place .directory) := by
  intro other
  by_cases same : other = place
  · subst same
    have old : files.node? other = none := by
      rcases grows other with kept | ⟨-, made, -⟩
      · rw [← kept, free]
      · rw [made] at free
        cases free
    exact .inr ⟨old, node?_set_self (by rw [free]; exact nofun) _, fits⟩
  · rw [node?_set_of_ne same]
    exact grows other

theorem node? (grows : Grows new files files') {place : Place} {node : Node}
    (there : files.node? place = some node) : files'.node? place = some node := by
  rcases grows place with kept | ⟨absent, -, -⟩
  · rw [kept, there]
  · rw [absent] at there
    cases there

theorem keeps (grows : Grows new files files') : KeepsExcept [] files files' :=
  fun _ _ there _ => grows.node? there

theorem file (grows : Grows new files files') {place : Place} {content : ByteArray}
    (there : files'.node? place = some (.file content)) :
    files.node? place = some (.file content) := by
  rcases grows place with kept | ⟨-, made, -⟩
  · rw [← kept, there]
  · rw [made] at there
    cases there

end Grows

/-! ## One directory after the other -/

/-- Names are divided before the last one that is not empty. -/
theorem divide_cases (names : List String) :
    ∃ outer name blanks, divide names = (outer, name) ∧ (∀ blank ∈ blanks, blank = "") ∧
      (names = outer ++ name :: blanks ∨ names = blanks ∧ outer = [] ∧ name = "") := by
  let back := names.reverse.dropWhile (·.isEmpty)
  let blanks := (names.reverse.takeWhile (·.isEmpty)).reverse
  have whole : names = back.reverse ++ blanks := by
    rw [← List.reverse_append, List.takeWhile_append_dropWhile, List.reverse_reverse]
  have blank : ∀ name ∈ blanks, name = "" := by
    intro name member
    have empty := List.all_eq_true.1 List.all_takeWhile name (List.mem_reverse.1 member)
    exact String.isEmpty_iff.1 empty
  refine ⟨back.tail.reverse, back.headD "", blanks, rfl, blank, ?_⟩
  cases parts : back with
  | nil => exact .inr ⟨by rw [whole, parts]; rfl, rfl, rfl⟩
  | cons name rest =>
    rw [parts, List.reverse_cons, List.append_assoc] at whole
    exact .inl whole

theorem enter_divide (files : Files) {names outer : List String} {name : String}
    (divided : divide names = (outer, name)) :
    files.enter names = files.enter (outer ++ [name]) := by
  obtain ⟨outer', name', blanks, same, blank, split⟩ := divide_cases names
  cases divided.symm.trans same
  rcases split with rfl | ⟨rfl, rfl, rfl⟩
  · rw [List.append_cons, enter_blanks files _ blank]
  · exact (enter_blanks files [] blank).trans (enter_blank files []).symm

/-- A directory is made below another, by the last of its names. -/
theorem makeDirectory_cases {names : List String} (makes : files.makeDirectory names = .ok files') :
    ∃ outer name blanks parent, names = outer ++ name :: blanks ∧ isTaken name = false ∧
      files.enter outer = .ok parent ∧ files.node? (parent ++ [name]) = none ∧
      files' = files.set (parent ++ [name]) .directory := by
  obtain ⟨outer, name, blanks, divided, -, split⟩ := divide_cases names
  rw [makeDirectory, divided] at makes
  cases entered : files.enter outer with
  | error error => simp [entered, bind, Except.bind] at makes
  | ok parent =>
    simp only [entered, bind, Except.bind] at makes
    split at makes
    · cases makes
    · rename_i untaken
      rw [Bool.not_eq_true] at untaken
      split at makes
      · cases makes
      · split at makes
        · cases makes
        · rename_i free
          simp only [pure, Except.pure, Except.ok.injEq] at makes
          rcases split with split | ⟨-, -, rfl⟩
          · exact ⟨outer, name, blanks, parent, split, untaken, entered, free, makes.symm⟩
          · cases untaken

theorem ensureDirectory_cases {names : List String}
    (ensures : files.ensureDirectory names = .ok files') :
    files' = files ∨ files.makeDirectory names = .ok files' := by
  rw [ensureDirectory] at ensures
  split at ensures
  · split at ensures
    · cases ensures
      exact .inl rfl
    · cases ensures
  · exact .inr ensures

/-- What every single step keeps holds after a chain of directories was made. -/
theorem ensureChain_induction {P : Files → Prop} {chain : List (List String)} (start : P files)
    (step : ∀ names ∈ chain, ∀ {between made : Files}, P between →
      between.makeDirectory names = .ok made → P made) :
    P (files.ensureChain chain).2 := by
  induction chain with
  | nil => exact start
  | cons names outer ih =>
    have others := ih fun other member => step other (List.mem_cons_of_mem _ member)
    have ensure : ∀ {between made : Files}, P between →
        between.ensureDirectory names = .ok made → P made := by
      intro between made holds ensures
      rcases ensureDirectory_cases ensures with rfl | makes
      · exact holds
      · exact step names List.mem_cons_self holds makes
    rw [ensureChain]
    split
    · rename_i made ensures
      exact ensure start ensures
    · split
      · rename_i made ensures
        rw [ensures] at others
        split
        · rename_i again
          exact ensure others again
        · exact others
      · exact others
    · exact start

theorem makeDirectories_induction {P : Files → Prop} {dir : String} (start : P files)
    (step : ∀ names ∈ chain dir, ∀ {between made : Files}, P between →
      between.makeDirectory names = .ok made → P made) :
    P (files.makeDirectories dir).2 := by
  rw [makeDirectories]
  split
  · exact start
  · split
    · exact start
    · exact ensureChain_induction start step

theorem mem_beginnings {names other : List String} (member : other ∈ beginnings names) :
    other <+: names := by
  induction names generalizing other with
  | nil => cases member
  | cons name names ih =>
    rw [beginnings, List.mem_append, List.mem_map, List.mem_singleton] at member
    rcases member with ⟨shorter, inside, rfl⟩ | rfl
    · exact List.cons_prefix_cons.2 ⟨rfl, ih inside⟩
    · exact List.cons_prefix_cons.2 ⟨rfl, List.nil_prefix⟩

/-- The directories that are made for a path are its own and those above it. -/
theorem mem_chain {dir : String} {names : List String} (member : names ∈ chain dir) :
    names ⊆ waypoints dir ∧ names.filter (!isDot ·) <+: steps dir := by
  rw [← steps_eq dir]
  simp only [chain] at member
  split at member
  · cases member
  · rcases List.mem_cons.1 member with rfl | inside
    · exact ⟨List.Subset.refl _, List.prefix_rfl⟩
    · have beginning : names <+: (waypoints dir).filter (!isDot ·) :=
        (mem_beginnings (List.mem_filter.1 inside).1).trans (List.dropLast_prefix _)
      have solid : names.filter (!isDot ·) = names :=
        List.filter_eq_self.2 fun name member => (List.mem_filter.1 (beginning.subset member)).2
      rw [solid]
      exact ⟨fun name member => (List.mem_filter.1 (beginning.subset member)).1, beginning⟩

theorem makeDirectories_grows (files : Files) (dir : String) :
    Grows (fun _ => True) files (files.makeDirectories dir).2 := by
  apply makeDirectories_induction (Grows.refl _ _)
  intro names _ between made grows makes
  obtain ⟨outer, name, blanks, parent, -, -, -, free, rfl⟩ := makeDirectory_cases makes
  exact grows.set free trivial

/-- The names between the slashes have no slash in them. -/
theorem undivided_of_mem_waypoints {path name : String} (member : name ∈ waypoints path)
    (untaken : isTaken name = false) : '/' ∉ name.toList := by
  rcases mem_waypoints member with rfl | inside
  · cases untaken
  · obtain ⟨part, between, rfl⟩ := List.mem_map.1 inside
    rw [String.toList_ofList]
    exact Text.not_mem_of_mem_split between

theorem Rooted.makeDirectories (rooted : files.Rooted) (dir : String) :
    (files.makeDirectories dir).2.Rooted := by
  apply makeDirectories_induction rooted
  intro names member between made rooted makes
  obtain ⟨outer, name, blanks, parent, rfl, untaken, entered, free, rfl⟩ := makeDirectory_cases makes
  have inside := (mem_chain member).1 (List.mem_append_right _ List.mem_cons_self)
  exact rooted.set (enter_isDirectory entered) (undivided_of_mem_waypoints inside untaken) untaken
    (by rw [free]; exact nofun) _

theorem Rooted.write (rooted : files.Rooted) {path : String} {content : ByteArray}
    (writes : files.write path content = .ok files') : files'.Rooted := by
  obtain ⟨outer, name, blanks, divided, -, split⟩ := divide_cases (waypoints path)
  rw [Files.write, divided] at writes
  cases checked : check path with
  | error error => simp [checked, bind, Except.bind] at writes
  | ok _ =>
    cases entered : files.enter outer with
    | error error => simp [checked, entered, bind, Except.bind] at writes
    | ok parent =>
      simp only [checked, entered, bind, Except.bind] at writes
      split at writes
      · cases writes
      · rename_i proper
        simp only [Bool.or_eq_true, not_or, Bool.not_eq_true] at proper
        split at writes
        · cases writes
        · split at writes
          · cases writes
          · rename_i free
            cases writes
            rcases split with split | ⟨-, -, rfl⟩
            · have inside : name ∈ waypoints path := by
                rw [split]
                exact List.mem_append_right _ List.mem_cons_self
              exact rooted.set (enter_isDirectory entered)
                (undivided_of_mem_waypoints inside proper.1) proper.1 free _
            · cases proper.1

theorem Rooted.place (rooted : files.Rooted) (path : String) (content : ByteArray) :
    (files.place path content).Rooted := by
  have made := rooted.makeDirectories (Files.above path)
  rw [Files.place]
  split
  · rename_i files' settled
    rw [settled] at made
    cases writes : files'.write path content with
    | error error => exact made
    | ok written => exact made.write writes
  · rename_i settled
    rwa [settled] at made

/-! ## Paths that break off -/

/-- A directory is missing: its path breaks off where nothing is. -/
def Missing (files : Files) (dir : String) : Prop := files.enter (lead dir) = .error .notFound

/-- Unless it is missing, a directory cannot be made anew: it exists, or something stands in its
way. -/
theorem makeDirectory_of_enter {names : List String} (present : files.enter names ≠ .error .notFound) :
    ∃ error, files.makeDirectory names = .error error ∧ error ≠ .notFound ∧
      (error = .alreadyExists ∨ files.isDirectory names = false) := by
  obtain ⟨outer, name, blanks, divided, -, -⟩ := divide_cases names
  rw [isDirectory, enter_divide files divided]
  rw [enter_divide files divided] at present
  rw [makeDirectory, divided]
  cases entered : files.enter outer with
  | error error =>
    have stopped : files.enter (outer ++ [name]) = .error error := by
      have stopped := follow_of_enter_error entered name [""]
      rwa [List.append_cons] at stopped
    exact ⟨error, by simp [entered, bind, Except.bind], fun same => present (by rw [stopped, same]),
      .inr (by rw [stopped]; rfl)⟩
  | ok parent =>
    by_cases taken : isTaken name = true
    · exact ⟨.alreadyExists, by simp [entered, taken, bind, Except.bind], by decide, .inl rfl⟩
    · rw [Bool.not_eq_true] at taken
      have led := follow_name files outer taken
      rw [entered] at led
      rw [enter_eq, led]
      rw [enter_eq, led] at present
      by_cases long : longestName < name.utf8ByteSize
      · exact ⟨.nameTooLong, by simp [entered, taken, long, bind, Except.bind], by decide,
          .inr (by simp [Except.bind, long]; rfl)⟩
      · cases there : files.node? (parent ++ [name]) with
        | some node =>
          exact ⟨.alreadyExists, by simp [entered, taken, long, there, bind, Except.bind], by decide,
            .inl rfl⟩
        | none => exact absurd (by simp [Except.bind, long, follow_cons, there]) present

/-- To make a directory is to find it, or to find what stands in its way, unless it is missing. -/
theorem ensureDirectory_of_enter {names : List String}
    (present : files.enter names ≠ .error .notFound) :
    (files.isDirectory names = true ∧ files.ensureDirectory names = .ok files) ∨
      (files.isDirectory names = false ∧
        ∃ error, error ≠ .notFound ∧ files.ensureDirectory names = .error error) := by
  obtain ⟨error, failed, other, reason⟩ := makeDirectory_of_enter present
  rw [ensureDirectory, failed]
  by_cases exists' : error = .alreadyExists
  · cases directory : files.isDirectory names with
    | true => exact .inl ⟨rfl, by simp [exists']⟩
    | false => exact .inr ⟨rfl, error, other, by simp [exists']⟩
  · exact .inr ⟨reason.resolve_left exists', error, other, by cases error <;> simp_all⟩

theorem makeDirectories_of_not_missing {dir : String} (present : ¬ files.Missing dir) :
    (files.makeDirectories dir).2 = files := by
  rw [makeDirectories]
  split
  · rfl
  · rename_i filled
    split
    · rfl
    · rw [Missing, ← enter_waypoints files (by simpa using filled)] at present
      simp only [chain]
      split
      · rfl
      · rw [ensureChain]
        rcases ensureDirectory_of_enter present with ⟨-, ensured⟩ | ⟨-, error, other, failed⟩
        · rw [ensured]
        · rw [failed]
          cases error <;> simp_all

/-- A directory that is there does not have to be made. -/
theorem makeDirectories_of_entered {dir : String} {place : Place}
    (checked : dir ≠ "" → check dir = .ok ())
    (entered : files.enter (lead dir) = .ok place) : files.makeDirectories dir = (.ok (), files) := by
  by_cases blank : dir = ""
  · rw [blank]
    rfl
  · have filled : dir.isEmpty = false := by simpa using blank
    rw [← enter_waypoints files blank] at entered
    simp only [makeDirectories, filled, checked blank, chain, Bool.false_eq_true, if_false]
    split
    · rfl
    · rw [ensureChain]
      have present : files.enter (waypoints dir) ≠ .error .notFound := by
        simp [entered]
      rcases ensureDirectory_of_enter present with ⟨-, ensured⟩ | ⟨absent, -⟩
      · rw [ensured]
      · rw [isDirectory, entered] at absent
        cases absent

/-- What stops a way that does not go back up has stopped it before, unless it is something that is
missing or a name that is too long. -/
theorem Rooted.follow_error_of_grown (rooted : files.Rooted) {new : Place → Prop}
    (grows : Grows new files files') {here : Place} {ways : List String} (straight : ".." ∉ ways)
    (short : ∀ name ∈ ways, name.utf8ByteSize ≤ longestName) {error : FileError}
    (other : error ≠ .notFound) (failed : files'.follow here ways = .error error) :
    files.follow here ways = .error error := by
  induction ways generalizing here with
  | nil => cases failed
  | cons name ways ih =>
    rw [List.mem_cons, not_or] at straight
    rw [follow_cons] at failed
    cases there : files'.node? here with
    | none =>
      rw [there] at failed
      cases failed
      exact absurd rfl other
    | some node =>
      cases node with
      | file content =>
        rw [there] at failed
        rw [follow_cons, grows.file there]
        exact failed
      | directory =>
        obtain ⟨via, onward⟩ := next_of_short here (short name List.mem_cons_self)
        simp only [there, onward, Except.bind] at failed
        have before := ih straight.2 (fun name member => short name (List.mem_cons_of_mem _ member))
          failed
        -- the way has come to `via`, so there was something, and it stood in a directory
        have directory : files.node? here = some .directory := by
          cases ways with
          | nil => cases failed
          | cons second ways =>
            cases old : files.node? via with
            | none =>
              rw [follow_cons, old] at before
              cases before
              exact absurd rfl other
            | some node =>
              have spelled := next_straight (Ne.symm straight.1) onward
              by_cases further : [name].filter (!isDot ·) = []
              · rw [spelled, further, List.append_nil] at old
                rwa [grows.node? old, ← old] at there
              · exact rooted.above (spelled ▸ old) further
        rw [follow_directory directory, onward]
        exact before

/-- A path goes back up, if it does, only in directories that are there: from one of them on, it
leads straight on. -/
def Onward (files : Files) (dir : String) : Prop :=
  ∃ front back base, lead dir = front ++ back ∧ files.enter front = .ok base ∧ ".." ∉ back

section Onward

variable {dir : String} {front back : List String} {base : Place} (split : lead dir = front ++ back)
  (start : files.enter front = .ok base) (straight : ".." ∉ back)
include split start straight

/-- The directories that are made for a path that leads straight on are on its way. -/
theorem makeDirectories_grows_onward :
    Grows (fun place => ∃ way, way <+: back.filter (!isDot ·) ∧ place = base ++ way) files
      (files.makeDirectories dir).2 := by
  apply makeDirectories_induction (Grows.refl _ _)
  intro names member between made grows makes
  obtain ⟨outer, name, blanks, parent, rfl, untaken, entered, free, rfl⟩ := makeDirectory_cases makes
  refine grows.set free ?_
  have proper : isDot name = false := by
    simp only [isTaken, Bool.or_eq_false_iff] at untaken
    exact untaken.1.1
  have reached : between.enter (front.filter (!isDot ·)) = .ok base := by
    rw [enter_dots]
    exact grows.keeps.enter start
  rw [← enter_dots] at entered
  obtain ⟨rest, whole⟩ := (mem_chain member).2
  rw [steps, split, List.filter_append, List.filter_append, List.filter_cons_of_pos (by simp [proper]),
    List.append_assoc, List.cons_append] at whole
  have beyond : ∃ way, outer.filter (!isDot ·) = front.filter (!isDot ·) ++ way ∧
      way ++ [name] <+: back.filter (!isDot ·) := by
    rcases List.append_eq_append_iff.1 whole with ⟨more, ahead, tail⟩ | ⟨way, passed, ahead⟩
    · cases more with
      | nil => exact ⟨[], by simpa using ahead.symm, ⟨_, by simpa using tail⟩⟩
      | cons first more =>
        -- what lies on the way to the first directory does not have to be made
        cases (List.cons.inj tail).1
        rw [ahead] at reached
        rw [node?_of_enter_append entered untaken reached] at free
        cases free
    · exact ⟨way, passed, ⟨_, by rw [ahead, List.append_assoc]; rfl⟩⟩
  obtain ⟨way, passed, ahead⟩ := beyond
  have inside : way ⊆ back.filter (!isDot ·) := fun other within =>
    ahead.subset (List.mem_append_left _ within)
  have onward : ".." ∉ way := fun up => straight (List.mem_filter.1 (inside up)).1
  have solid : way.filter (!isDot ·) = way :=
    List.filter_eq_self.2 fun other within => (List.mem_filter.1 (inside within)).2
  rw [passed, enter_append reached] at entered
  have place := follow_straight (straight_blank onward) entered
  rw [List.filter_append, solid] at place
  exact ⟨way ++ [name], ahead, by rw [place]; simp [isDot]⟩

variable (rooted : files.Rooted) (missing : files.Missing dir)
include rooted missing

/-- The place of a missing directory is new once the directory is made, and nothing is in it. -/
theorem Rooted.new_of_missing {place : Place}
    (entered : (files.makeDirectories dir).2.enter (lead dir) = .ok place) (name : String) :
    (files.makeDirectories dir).2.node? (place ++ [name]) = none := by
  have grows := makeDirectories_grows_onward split start straight
  have directory := enter_isDirectory entered
  rw [split, enter_append (grows.keeps.enter start)] at entered
  rw [Missing, split, enter_append start] at missing
  have absent : files.node? place = none := by
    cases old : files.node? place with
    | none => rfl
    | some node =>
      rw [grows.node? old] at directory
      have before := rooted.follow_of_directory (straight_blank straight) entered (old.trans directory)
      rw [before] at missing
      cases missing
  rcases grows (place ++ [name]) with kept | ⟨-, -, way, ahead, inside⟩
  · rw [kept]
    cases old : files.node? (place ++ [name]) with
    | none => rfl
    | some node =>
      rw [rooted.parent old] at absent
      cases absent
  · -- the new directories end at the place itself
    have longer := ahead.length_le
    have lengths := congrArg List.length inside
    rw [follow_straight (straight_blank straight) entered, List.filter_append] at lengths
    simp only [List.length_append, List.length_singleton] at lengths
    omega

/-- If a missing directory could not be made, it is still missing, unless a name is too long. -/
theorem Rooted.still_missing (short : ∀ name ∈ components dir, name.utf8ByteSize ≤ longestName)
    {error : FileError} (failed : (files.makeDirectories dir).2.enter (lead dir) = .error error) :
    error = .notFound := by
  have grows := makeDirectories_grows files dir
  have fits : ∀ name ∈ back ++ [""], name.utf8ByteSize ≤ longestName := by
    intro name member
    rcases List.mem_append.1 member with inside | last
    · rcases mem_lead (split ▸ List.mem_append_right front inside) with rfl | inside
      · decide
      · exact short name inside
    · rw [List.mem_singleton.1 last]
      decide
  rw [split, enter_append (grows.keeps.enter start)] at failed
  rw [Missing, split, enter_append start] at missing
  by_cases same : error = .notFound
  · exact same
  · have before := rooted.follow_error_of_grown grows (straight_blank straight) fits same failed
    rw [before] at missing
    cases missing
    rfl

end Onward

/-- Nothing shows of a directory being made: nothing happened, or the directory was missing and is
missing still or empty. -/
inductive Unnoticed (dir : String) (files files' : Files) : Prop where
  | same (unchanged : files' = files)
  | missing (before : files.Missing dir) (after : files'.Missing dir)
  | empty (before : files.Missing dir) {place : Place} (entered : files'.enter (lead dir) = .ok place)
    (bare : ∀ name, files'.node? (place ++ [name]) = none)

/-- Nobody notices when a directory is made, if the path of a missing one leads straight on, and it
was made or has no name that is too long. -/
theorem Rooted.unnoticed (rooted : files.Rooted) {dir : String}
    (plain : files.Missing dir → files.Onward dir ∧
      ((∃ place, (files.makeDirectories dir).2.enter (lead dir) = .ok place) ∨
        ∀ name ∈ components dir, name.utf8ByteSize ≤ longestName)) :
    Unnoticed dir files (files.makeDirectories dir).2 := by
  by_cases missing : files.Missing dir
  · obtain ⟨⟨front, back, base, split, start, straight⟩, settled⟩ := plain missing
    cases entered : (files.makeDirectories dir).2.enter (lead dir) with
    | ok place =>
      exact .empty missing entered (Rooted.new_of_missing split start straight rooted missing entered)
    | error error =>
      rcases settled with ⟨place, enters⟩ | short
      · cases entered.symm.trans enters
      · cases Rooted.still_missing split start straight rooted missing short entered
        exact .missing missing entered
  · exact .same (makeDirectories_of_not_missing missing)

end Tandem.Files
