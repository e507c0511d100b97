import Tandem.Proofs.Path

/-! # What file operations keep

Only directories lead on, and no operation here takes a directory away. So a path that leads
somewhere leads there for good, and a file can change only under a name that is operated on.

* `Files.KeepsExcept` says that everything stays but files with certain names.
* `Files.follow_name` and `Files.find_join` say where a path below a directory leads: to the name, in
  the place of the directory. -/

namespace Tandem.Files

open Tandem.Path (IsName join)

/-! ## Nodes -/

theorem node?_of_isGiven {files : Files} {place : Place} (given : place.isGiven = true) :
    files.node? place = some .directory := by
  simp [node?, given]

theorem node?_set_of_ne {files : Files} {place other : Place} (apart : other ≠ place) (node : Node) :
    (files.set place node).node? other = files.node? other := by
  simp [node?, set, Std.ExtTreeMap.getElem?_insert, apart.symm]

theorem node?_erase_of_ne {files : Files} {place other : Place} (apart : other ≠ place) :
    (files.erase place).node? other = files.node? other := by
  simp [node?, erase, Std.ExtTreeMap.getElem?_erase, apart.symm]

/-- What is put where no directory was is there. -/
theorem node?_set_self {files : Files} {place : Place} (free : files.node? place ≠ some .directory)
    (node : Node) : (files.set place node).node? place = some node := by
  have apart : ¬ place.isGiven = true := fun given => free (node?_of_isGiven given)
  simp [node?, set, apart]

/-- No directory comes up where something is taken away. -/
theorem node?_erase_ne {files : Files} (place : Place) {other : Place}
    (free : files.node? other ≠ some .directory) :
    (files.erase place).node? other ≠ some .directory := by
  by_cases same : other = place
  · have apart : ¬ place.isGiven = true := fun given => free (same ▸ node?_of_isGiven given)
    simp [node?, erase, same, apart]
  · rwa [node?_erase_of_ne same]

/-! ## What stays -/

/-- Everything stays, apart from files with one of the given names. -/
def KeepsExcept (names : List String) (files files' : Files) : Prop :=
  ∀ place node, files.node? place = some node →
    (node = .directory ∨ ∀ name ∈ names, place.getLast? ≠ some name) →
      files'.node? place = some node

namespace KeepsExcept

variable {names : List String} {files files' files'' : Files}

theorem trans (first : KeepsExcept names files files') (second : KeepsExcept names files' files'') :
    KeepsExcept names files files'' := by
  intro place node there spared
  exact second place node (first place node there spared) spared

theorem mono {more : List String} (keeps : KeepsExcept names files files')
    (subset : names ⊆ more) : KeepsExcept more files files' := by
  intro place node there spared
  refine keeps place node there ?_
  rcases spared with directory | apart
  · exact .inl directory
  · exact .inr fun name member => apart name (subset member)

/-- A change at one place only, where no directory is, keeps all that is not named like that place. -/
theorem of_elsewhere {place : Place} (free : files.node? place ≠ some .directory)
    (named : ∃ name ∈ names, place.getLast? = some name)
    (elsewhere : ∀ other ≠ place, files'.node? other = files.node? other) :
    KeepsExcept names files files' := by
  intro other node there spared
  by_cases same : other = place
  · subst same
    obtain ⟨name, member, last⟩ := named
    rcases spared with rfl | apart
    · exact absurd there free
    · exact absurd last (apart name member)
  · rw [elsewhere other same, there]

theorem set_file {place : Place} {name : String} (free : files.node? place ≠ some .directory)
    (last : place.getLast? = some name) (member : name ∈ names) (content : ByteArray) :
    KeepsExcept names files (files.set place (.file content)) :=
  of_elsewhere free ⟨name, member, last⟩ fun _ apart => node?_set_of_ne apart _

theorem erase_file {place : Place} {name : String} (free : files.node? place ≠ some .directory)
    (last : place.getLast? = some name) (member : name ∈ names) :
    KeepsExcept names files (files.erase place) :=
  of_elsewhere free ⟨name, member, last⟩ fun _ apart => node?_erase_of_ne apart

/-- A way that leads somewhere leads there still. -/
theorem follow (keeps : KeepsExcept names files files') {here there : Place} {ways : List String}
    (leads : files.follow here ways = .ok there) : files'.follow here ways = .ok there := by
  induction ways generalizing here with
  | nil => exact leads
  | cons name ways ih =>
    rw [Files.follow] at leads ⊢
    cases node : files.node? here with
    | none => simp [node] at leads
    | some found =>
      cases found with
      | file content => simp [node] at leads
      | directory =>
        -- the way goes on from a directory, and directories stay
        rw [keeps here .directory node (.inl rfl)]
        rw [node] at leads
        by_cases dot : isDot name = true
        · simp only [dot, if_true] at leads ⊢
          exact ih leads
        · by_cases up : name = ".."
          · simp only [up, if_true] at leads ⊢
            exact ih leads
          · by_cases long : longestName < name.utf8ByteSize
            · simp [dot, up, long] at leads
            · simp only [dot, up, long, if_false] at leads ⊢
              exact ih leads

end KeepsExcept

/-! ## Directories -/

theorem follow_append (files : Files) (here : Place) (front back : List String) :
    files.follow here (front ++ back) =
      (files.follow here front).bind fun there => files.follow there back := by
  induction front generalizing here with
  | nil => rfl
  | cons name front ih =>
    rw [List.cons_append, follow, follow]
    split
    · rfl
    · rfl
    · split
      · exact ih here
      · split
        · exact ih here.above
        · split
          · rfl
          · exact ih (here ++ [name])

theorem follow_singleton (files : Files) (here : Place) {name : String}
    (untaken : isTaken name = false) :
    files.follow here [name] =
      (files.follow here [""]).bind fun here =>
        if longestName < name.utf8ByteSize then .error .nameTooLong else .ok (here ++ [name]) := by
  have dot : isDot name = false := by
    simp only [isTaken, Bool.or_eq_false_iff] at untaken
    exact untaken.1.1
  have up : name ≠ ".." := by
    rintro rfl
    simp [isTaken] at untaken
  have empty : isDot "" = true := rfl
  simp only [follow, dot, up, empty, if_true, if_false, Bool.false_eq_true]
  cases files.node? here with
  | none => rfl
  | some node => cases node <;> rfl

/-- A path below a directory leads to its name, in the place of the directory. -/
theorem follow_name (files : Files) (names : List String) {name : String}
    (untaken : isTaken name = false) :
    files.follow [] (names ++ [name]) =
      (files.enter names).bind fun place =>
        if longestName < name.utf8ByteSize then .error .nameTooLong else .ok (place ++ [name]) := by
  rw [enter, follow_append, follow_append]
  cases files.follow [] names with
  | error error => rfl
  | ok here => exact follow_singleton files here untaken

theorem KeepsExcept.enter {names : List String} {files files' : Files}
    (keeps : KeepsExcept names files files') {ways : List String} {place : Place}
    (enters : files.enter ways = .ok place) : files'.enter ways = .ok place :=
  keeps.follow enters

/-- Where a path below a directory leads. -/
structure Leads (files : Files) (dir name : String) (parent : Place) : Prop where
  checked : check (join dir name) = .ok ()
  entered : files.enter (lead dir) = .ok parent
  untaken : isTaken name = false
  short : name.utf8ByteSize ≤ longestName

theorem KeepsExcept.leads {names : List String} {files files' : Files}
    (keeps : KeepsExcept names files files') {dir name : String} {parent : Place}
    (leads : files.Leads dir name parent) : files'.Leads dir name parent :=
  ⟨leads.checked, keeps.enter leads.entered, leads.untaken, leads.short⟩

theorem find_join (files : Files) (dir : String) {name : String} (named : IsName name)
    (untaken : isTaken name = false) {place : Place} :
    files.find (join dir name) = .ok place ↔
      ∃ parent, files.Leads dir name parent ∧ place = parent ++ [name] := by
  rw [find, waypoints_join dir named, follow_name files _ untaken]
  constructor
  · intro found
    cases checked : check (join dir name) with
    | error error => simp [checked, bind, Except.bind] at found
    | ok _ =>
      cases entered : files.enter (lead dir) with
      | error error => simp [checked, entered, bind, Except.bind] at found
      | ok parent =>
        by_cases long : longestName < name.utf8ByteSize
        · simp [checked, entered, long, bind, Except.bind] at found
        · simp [checked, entered, long, bind, Except.bind] at found
          exact ⟨parent, ⟨checked, entered, untaken, by omega⟩, found.symm⟩
  · rintro ⟨parent, leads, rfl⟩
    have long : ¬ longestName < name.utf8ByteSize := by have := leads.short; omega
    simp [leads.checked, leads.entered, long, bind, Except.bind]

/-! ## Operations -/

theorem read_join {files : Files} {dir name : String} {parent : Place} (named : IsName name)
    (leads : files.Leads dir name parent) {content : ByteArray} :
    files.read (join dir name) = .ok content ↔
      files.node? (parent ++ [name]) = some (.file content) := by
  have found := (find_join files dir named leads.untaken).2 ⟨parent, leads, rfl⟩
  simp only [read, found, bind, Except.bind]
  cases there : files.node? (parent ++ [name]) with
  | none => simp
  | some node => cases node <;> simp [pure, Except.pure]

/-- A file that was read can be read after everything else changed. -/
theorem KeepsExcept.read {names : List String} {files files' : Files}
    (keeps : KeepsExcept names files files') {dir name : String} (named : IsName name)
    (untaken : isTaken name = false) (spared : name ∉ names) {content : ByteArray}
    (reads : files.read (join dir name) = .ok content) :
    files'.read (join dir name) = .ok content := by
  cases found : files.find (join dir name) with
  | error error => simp [Files.read, found, bind, Except.bind] at reads
  | ok place =>
    obtain ⟨parent, leads, _⟩ := (find_join files dir named untaken).1 found
    have there := (read_join named leads).1 reads
    refine (read_join named (keeps.leads leads)).2 (keeps _ _ there (.inr ?_))
    intro other member same
    rw [List.getLast?_append, List.getLast?_singleton] at same
    cases same
    exact spared member

theorem divide_append (front : List String) {name : String} (filled : name ≠ "") :
    divide (front ++ [name]) = (front, name) := by
  have stays : name.isEmpty = false := by simpa using filled
  simp [divide, stays]

theorem write_join {files files' : Files} {dir name : String} (named : IsName name)
    {content : ByteArray} (writes : files.write (join dir name) content = .ok files') :
    ∃ parent, files.Leads dir name parent ∧
      files.node? (parent ++ [name]) ≠ some .directory ∧
      files' = files.set (parent ++ [name]) (.file content) := by
  rw [write, waypoints_join dir named, divide_append _ named.filled] at writes
  cases checked : check (join dir name) with
  | error error => simp [checked, bind, Except.bind] at writes
  | ok _ =>
    cases entered : files.enter (lead dir) with
    | error error => simp [checked, entered, bind, Except.bind] at writes
    | ok parent =>
      simp only [checked, entered, bind, Except.bind] at writes
      split at writes
      · cases writes
      · rename_i proper
        split at writes
        · cases writes
        · rename_i short
          split at writes
          · cases writes
          · rename_i free
            simp only [Bool.or_eq_true, not_or, Bool.not_eq_true] at proper
            refine ⟨parent, ⟨checked, entered, proper.1, by omega⟩, free, ?_⟩
            simpa [pure, Except.pure] using writes.symm

theorem rename_file {files files' : Files} {source target : String} {here : Place}
    {content : ByteArray} (found : files.find source = .ok here)
    (file : files.node? here = some (.file content))
    (renames : files.rename source target = .ok files') :
    ∃ there, files.find target = .ok there ∧ files.node? there ≠ some .directory ∧
      files' = (files.erase here).set there (.file content) := by
  cases aimed : files.find target with
  | error error => simp [rename, found, aimed, bind, Except.bind] at renames
  | ok there =>
    refine ⟨there, rfl, ?_⟩
    simp only [rename, found, aimed, file, bind, Except.bind] at renames
    cases node : files.node? there with
    | none => simpa [node, pure, Except.pure] using renames.symm
    | some old =>
      cases old with
      | file _ => simpa [node, pure, Except.pure] using renames.symm
      | directory => simp [node] at renames

theorem read_set {files : Files} {path : String} {place : Place} {content : ByteArray}
    (free : files.node? place ≠ some .directory)
    (found : (files.set place (.file content)).find path = .ok place) :
    (files.set place (.file content)).read path = .ok content := by
  rw [read, found]
  simp only [bind, Except.bind, node?_set_self free]
  rfl

/-- Files with a single one among them, called `m`. -/
def single (content : ByteArray) : Files := empty.set ["m"] (.file content)

theorem read_single (content : ByteArray) : (single content).read "m" = .ok content := by
  refine read_set (by simp [node?, empty, Place.isGiven]) ?_
  rw [find, waypoints_eq_toList]
  rfl

end Tandem.Files
