import Tandem.Proofs.Directories
import Tandem.Proofs.MergeSort
import Tandem.Proofs.Session.Directory

/-! # Looking descriptors up

What is found under a hash, and what a directory lists, depends on two things only: where the path of
the directory leads, and what stands there.

* `Descriptor.read_unnoticed` and `Descriptor.list_unnoticed` are about a directory that was made and
  is still empty.
* `Descriptor.found_split` divides what is found in a directory into one descriptor and the others,
  and by `Descriptor.others_congr` the others do not depend on that one.
* By `Descriptor.found_congr` what is found does not depend on drafts, not even in its order. So two
  descriptors with the same hash stay in their order when a draft comes or goes between them. -/

namespace Tandem

open Tandem.Path (IsName join components)

namespace Files

variable {files files' : Files} {dir name : String}

/-! ## Files below a directory -/

theorem find_below (files : Files) (dir : String) (named : IsName name)
    (untaken : isTaken name = false) :
    files.find (join dir name) =
      (check (join dir name)).bind fun _ => (files.enter (lead dir)).bind fun place =>
        if longestName < name.utf8ByteSize then .error .nameTooLong else .ok (place ++ [name]) := by
  rw [find, waypoints_join dir named, follow_name files _ untaken]
  rfl

/-- The path of a directory is fit to be looked at if a path below it is. -/
theorem check_of_join (filled : dir ≠ "") (named : IsName name)
    (checked : check (join dir name) = .ok ()) : check dir = .ok () := by
  -- the longer path begins with the shorter one, so it is no shorter and has all its characters
  have begins : ∃ rest, join dir name = dir ++ rest := by
    rw [join, named.not_startsWith]
    simp only [Bool.false_eq_true, if_false]
    split
    · exact ⟨name, rfl⟩
    · exact ⟨"/" ++ name, String.append_assoc ..⟩
  obtain ⟨rest, begins⟩ := begins
  rw [begins] at checked
  have kept : dir.isEmpty = false := by simpa using filled
  simp only [check, String.toList_append, List.contains_append, String.utf8ByteSize_append] at checked ⊢
  split at checked
  · cases checked
  · rename_i whole
    split at checked
    · cases checked
    · split at checked
      · cases checked
      · have bare : dir.toList.contains '\x00' = false := by simp_all
        have short : ¬ longestPath < dir.utf8ByteSize := by omega
        simp only [bare, kept, short, Bool.false_eq_true, if_false]

theorem endsWith_join (dir : String) (named : IsName name) : (join dir name).endsWith "/" = false := by
  rw [Bool.eq_false_iff, Ne, Text.endsWith_iff, Path.join_eq dir named, String.toList_append]
  intro slash
  obtain ⟨front, ended⟩ := slash
  obtain ⟨c, cs, chars⟩ := List.exists_cons_of_ne_nil (mt String.toList_eq_nil_iff.1 named.filled)
  have last := congrArg List.getLast? ended
  rw [chars, List.getLast?_append, List.getLast?_append] at last
  have inside : '/' ∈ name.toList := by
    rw [chars]
    refine List.mem_of_getLast? ?_
    simpa using last.symm
  exact named.undivided inside

/-- The file system takes the path of a name in a directory. -/
def Fits (dir name : String) : Prop :=
  check (join dir name) = .ok () ∧ isTaken name = false ∧ name.utf8ByteSize ≤ longestName

instance (dir name : String) : Decidable (Fits dir name) := inferInstanceAs (Decidable (_ ∧ _ ∧ _))

theorem Fits.leads {dir name : String} {place : Place} (fits : Fits dir name)
    (entered : files.enter (lead dir) = .ok place) : files.Leads dir name place :=
  ⟨fits.1, entered, fits.2.1, fits.2.2⟩

/-- A file can be written where its path leads, unless a directory is there. -/
theorem write_of_leads {place : Place} (named : IsName name) (leads : files.Leads dir name place)
    (free : files.node? (place ++ [name]) ≠ some .directory) (content : ByteArray) :
    files.write (join dir name) content = .ok (files.set (place ++ [name]) (.file content)) := by
  have long : ¬ longestName < name.utf8ByteSize := by have := leads.short; omega
  rw [write, waypoints_join dir named, divide_append _ named.filled]
  simp only [leads.checked, leads.entered, leads.untaken, endsWith_join dir named, bind, Except.bind,
    Bool.or_self, Bool.false_eq_true, if_false, long]
  rfl

/-- A file can be moved to where a path leads, unless a directory is there. -/
theorem rename_of_leads {place : Place} {target : String} (named : IsName name) (named' : IsName target)
    (leads : files.Leads dir name place) (leads' : files.Leads dir target place) {content : ByteArray}
    (file : files.node? (place ++ [name]) = some (.file content))
    (free : files.node? (place ++ [target]) ≠ some .directory) :
    files.rename (join dir name) (join dir target) =
      .ok ((files.erase (place ++ [name])).set (place ++ [target]) (.file content)) := by
  have here := (find_join files dir named leads.untaken).2 ⟨place, leads, rfl⟩
  have there := (find_join files dir named' leads'.untaken).2 ⟨place, leads', rfl⟩
  simp only [rename, here, there, file, bind, Except.bind]
  split
  · rename_i directory
    cases directory
  · rename_i directory
    exact absurd directory free
  · rename_i same _
    cases same
    rfl

/-- A file is read as before while its directory and itself stay. -/
theorem read_congr (named : IsName name) (untaken : isTaken name = false)
    (entered : files'.enter (lead dir) = files.enter (lead dir))
    (same : ∀ place, files.enter (lead dir) = .ok place →
      files'.node? (place ++ [name]) = files.node? (place ++ [name])) :
    files'.read (join dir name) = files.read (join dir name) := by
  have aimed : files'.find (join dir name) = files.find (join dir name) := by
    rw [find_below files' dir named untaken, find_below files dir named untaken, entered]
  rw [read, read, aimed]
  cases found : files.find (join dir name) with
  | error error => rfl
  | ok place =>
    obtain ⟨parent, leads, rfl⟩ := (find_join files dir named untaken).1 found
    simp only [bind, Except.bind, same parent leads.entered]

/-- There is nothing with a name in a directory, and nothing keeps it from being there. -/
def Lacks (files : Files) (dir name : String) : Prop :=
  files.Missing dir ∨ ∃ place, files.enter (lead dir) = .ok place ∧
    files.node? (place ++ [name]) = none ∧ name.utf8ByteSize ≤ longestName

/-- What is not there is not found, if the path can be looked at. -/
theorem Lacks.read (lacks : files.Lacks dir name) (named : IsName name)
    (untaken : isTaken name = false) :
    files.read (join dir name) = (check (join dir name)).bind fun _ => .error .notFound := by
  rw [Files.read, find_below files dir named untaken]
  cases check (join dir name) with
  | error error => rfl
  | ok _ =>
    rcases lacks with missing | ⟨place, entered, absent, short⟩
    · rw [Missing] at missing
      simp [missing, bind, Except.bind]
    · have fits : ¬ longestName < name.utf8ByteSize := by omega
      simp [entered, fits, absent, bind, Except.bind]

/-! ## The names in a directory -/

/-- The names of what stands at a place, in order. -/
def namesIn (files : Files) (place : Place) : List String :=
  files.nodes.keys.filterMap fun other => if other.dropLast = place then other.getLast? else none

theorem names_eq (files : Files) (dir : String) (filled : dir ≠ "") :
    files.names dir = (check dir).bind fun _ => (files.enter (lead dir)).map files.namesIn := by
  rw [← enter_waypoints files filled, enter_eq, names, find]
  cases check dir with
  | error error => rfl
  | ok _ =>
    cases led : files.follow [] (waypoints dir) with
    | error error => simp [bind, Except.bind, Except.map]
    | ok place =>
      simp only [bind, Except.bind, follow_cons]
      cases files.node? place with
      | none => rfl
      | some node => cases node <;> rfl

theorem Rooted.mem_namesIn (rooted : files.Rooted) {place : Place} :
    name ∈ files.namesIn place ↔
      isTaken name = false ∧ '/' ∉ name.toList ∧ ∃ node, files.node? (place ++ [name]) = some node := by
  rw [namesIn, List.mem_filterMap]
  constructor
  · rintro ⟨other, member, last⟩
    obtain ⟨outer, last⟩ := Option.ite_none_right_eq_some.1 last
    obtain ⟨names, rfl⟩ := List.getLast?_eq_some_iff.1 last
    rw [List.dropLast_concat] at outer
    subst outer
    rw [Std.ExtTreeMap.mem_keys, Std.ExtTreeMap.mem_iff_isSome_getElem?] at member
    obtain ⟨node, there⟩ := Option.isSome_iff_exists.1 member
    obtain ⟨parent, name', same, undivided, untaken, -⟩ := rooted _ _ there
    obtain ⟨-, rfl⟩ := List.append_singleton_inj.1 same
    exact ⟨untaken, undivided, node, by rw [node?_concat untaken, there]⟩
  · rintro ⟨untaken, -, node, there⟩
    rw [node?_concat untaken] at there
    refine ⟨place ++ [name], ?_, by simp⟩
    rw [Std.ExtTreeMap.mem_keys, Std.ExtTreeMap.mem_iff_isSome_getElem?, there]
    rfl

theorem nodup_namesIn (files : Files) (place : Place) : (files.namesIn place).Nodup := by
  refine List.Nodup.filterMap ?_ Std.ExtTreeMap.nodup_keys
  intro a b name first second
  obtain ⟨outer, last⟩ := Option.ite_none_right_eq_some.1 first
  obtain ⟨outer', last'⟩ := Option.ite_none_right_eq_some.1 second
  obtain ⟨names, rfl⟩ := List.getLast?_eq_some_iff.1 last
  obtain ⟨names', rfl⟩ := List.getLast?_eq_some_iff.1 last'
  rw [List.dropLast_concat] at outer outer'
  rw [outer, outer']

/-! ## One directory -/

/-- Two states that differ in one directory at most, and there at the given names only. -/
structure DifferIn (dir : String) (names : List String) (place : Place) (files files' : Files) :
    Prop where
  rooted : files.Rooted
  rooted' : files'.Rooted
  entered : files.enter (lead dir) = .ok place
  entered' : files'.enter (lead dir) = .ok place
  same : ∀ other, (∀ name ∈ names, other ≠ place ++ [name]) → files'.node? other = files.node? other

namespace DifferIn

variable {names : List String} {place : Place}

theorem symm (differ : DifferIn dir names place files files') : DifferIn dir names place files' files :=
  ⟨differ.rooted', differ.rooted, differ.entered', differ.entered,
    fun other apart => (differ.same other apart).symm⟩

theorem trans {files'' : Files} (first : DifferIn dir names place files files')
    (second : DifferIn dir names place files' files'') : DifferIn dir names place files files'' :=
  ⟨first.rooted, second.rooted', first.entered, second.entered',
    fun other apart => (second.same other apart).trans (first.same other apart)⟩

theorem mono {more : List String} (differ : DifferIn dir names place files files')
    (subset : names ⊆ more) : DifferIn dir more place files files' :=
  ⟨differ.rooted, differ.rooted', differ.entered, differ.entered',
    fun other apart => differ.same other fun name member => apart name (subset member)⟩

theorem same_name (differ : DifferIn dir names place files files') (spared : name ∉ names) :
    files'.node? (place ++ [name]) = files.node? (place ++ [name]) := by
  refine differ.same _ fun other member same => ?_
  cases (List.append_singleton_inj.1 same).2
  exact spared member

theorem read (differ : DifferIn dir names place files files') (named : IsName name)
    (untaken : isTaken name = false) (spared : name ∉ names) :
    files'.read (join dir name) = files.read (join dir name) := by
  refine read_congr named untaken (differ.entered'.trans differ.entered.symm) ?_
  intro parent enters
  cases differ.entered.symm.trans enters
  exact differ.same_name spared

/-- What counts in a directory is there in both states, if the names in question do not count. -/
theorem mem_keys (differ : DifferIn dir names place files files') {β : Type} {f g : String → Option β}
    (hidden : ∀ name ∈ names, f name = none)
    (agree : ∀ name, IsName name → isTaken name = false → name ∉ names → g name = f name) {other : Place}
    (member : other ∈ files.nodes.keys)
    (counts : (Option.bind (if other.dropLast = place then other.getLast? else none) f).isSome = true) :
    other ∈ files'.nodes.keys ∧
      Option.bind (if other.dropLast = place then other.getLast? else none) g =
        Option.bind (if other.dropLast = place then other.getLast? else none) f := by
  obtain ⟨_, result⟩ := Option.isSome_iff_exists.1 counts
  obtain ⟨name, here, value⟩ := Option.bind_eq_some_iff.1 result
  obtain ⟨outer, last⟩ := Option.ite_none_right_eq_some.1 here
  obtain ⟨parent, rfl⟩ := List.getLast?_eq_some_iff.1 last
  rw [List.dropLast_concat] at outer
  subst outer
  have inside : name ∈ files.namesIn parent := List.mem_filterMap.2 ⟨_, member, here⟩
  obtain ⟨untaken, undivided, node, there⟩ := differ.rooted.mem_namesIn.1 inside
  have filled : name ≠ "" := by
    rintro rfl
    cases untaken
  have spared : name ∉ names := by
    intro spoiled
    rw [hidden name spoiled] at value
    cases value
  rw [← differ.same_name spared, node?_concat untaken] at there
  refine ⟨?_, by rw [here]; exact agree name ⟨filled, undivided⟩ untaken spared⟩
  rw [Std.ExtTreeMap.mem_keys, Std.ExtTreeMap.mem_iff_isSome_getElem?, there]
  rfl

/-- What counts in a directory comes in the same order in both states. -/
theorem filterMap_namesIn (differ : DifferIn dir names place files files') {β : Type}
    {f g : String → Option β} (hidden : ∀ name ∈ names, f name = none ∧ g name = none)
    (agree : ∀ name, IsName name → isTaken name = false → name ∉ names → g name = f name) :
    (files'.namesIn place).filterMap g = (files.namesIn place).filterMap f := by
  simp only [namesIn, List.filterMap_filterMap]
  refine filterMap_eq_of_ordered (fun _ _ => Std.OrientedCmp.not_lt_of_lt) Std.ExtTreeMap.ordered_keys
    Std.ExtTreeMap.ordered_keys ?_ ?_
  · exact fun other => differ.symm.mem_keys (fun name spoiled => (hidden name spoiled).2)
      fun name named untaken spared => (agree name named untaken spared).symm
  · exact fun other => differ.mem_keys (fun name spoiled => (hidden name spoiled).1) agree

theorem refl (rooted : files.Rooted) (entered : files.enter (lead dir) = .ok place) :
    DifferIn dir names place files files :=
  ⟨rooted, rooted, entered, entered, fun _ _ => rfl⟩

theorem of_write (rooted : files.Rooted) (named : IsName name) {content : ByteArray}
    (writes : files.write (join dir name) content = .ok files') :
    ∃ place, files'.Leads dir name place ∧ DifferIn dir [name] place files files' ∧
      files'.node? (place ++ [name]) = some (.file content) := by
  obtain ⟨place, leads, free, rfl⟩ := write_join named writes
  have kept : files.KeepsExcept [name] _ :=
    .set_file free List.getLast?_concat (List.mem_singleton_self _) content
  refine ⟨place, kept.leads leads, ⟨rooted, ?_, leads.entered, kept.enter leads.entered, ?_⟩,
    node?_set_self free _⟩
  · exact rooted.set (enter_isDirectory leads.entered) named.undivided leads.untaken free _
  · intro other apart
    exact node?_set_of_ne (apart name (List.mem_singleton_self _)) _

theorem of_rename (rooted : files.Rooted) {source target : String}
    (leads : files.Leads dir source place) {content : ByteArray}
    (file : files.node? (place ++ [source]) = some (.file content))
    (named : IsName source) (named' : IsName target) (untaken' : isTaken target = false)
    (renames : files.rename (join dir source) (join dir target) = .ok files') :
    files'.Leads dir target place ∧ DifferIn dir [source, target] place files files' ∧
      files'.node? (place ++ [target]) = some (.file content) := by
  have found := (find_join files dir named leads.untaken).2 ⟨place, leads, rfl⟩
  obtain ⟨there, aimed, vacant, rfl⟩ := rename_file found file renames
  obtain ⟨parent, leads', rfl⟩ := (find_join files dir named' untaken').1 aimed
  -- both paths go through the same directory
  cases leads.entered.symm.trans leads'.entered
  have free : files.node? (place ++ [source]) ≠ some .directory := by
    rw [file]
    simp
  have vacant' := node?_erase_ne (place ++ [source]) vacant
  have erased : files.KeepsExcept [source, target] _ :=
    .erase_file free List.getLast?_concat List.mem_cons_self
  have moved : KeepsExcept [source, target] _ _ :=
    .set_file vacant' List.getLast?_concat (List.mem_cons_of_mem _ List.mem_cons_self) content
  have kept := erased.trans moved
  refine ⟨kept.leads leads', ⟨rooted, ?_, leads.entered, kept.enter leads.entered, ?_⟩,
    node?_set_self vacant' _⟩
  · exact (rooted.erase free).set (enter_isDirectory (erased.enter leads.entered)) named'.undivided
      untaken' vacant' _
  · intro other apart
    rw [node?_set_of_ne (apart target (List.mem_cons_of_mem _ List.mem_cons_self)),
      node?_erase_of_ne (apart source List.mem_cons_self)]

end DifferIn

end Files

namespace Descriptor

variable {files files' : Files} {dir hash : String}

/-! ## Finding -/

theorem read_congr {path : String} (same : files'.read path = files.read path) :
    read files' path = read files path := by
  rw [read, read, Files.readText, Files.readText, same]

/-- Looking a descriptor up reads one file. -/
theorem find_congr (same : files'.read (path dir hash) = files.read (path dir hash)) :
    find files' dir hash = find files dir hash := by
  rw [find, find, read_congr same]

theorem find_of_missing (missing : files.Missing dir) (undivided : '/' ∉ hash.toList)
    (checked : Files.check (path dir hash) = .ok ()) :
    find files dir hash = .error (.notFound (path dir hash)) := by
  have lacks : files.Lacks dir (fileOf hash) := .inl missing
  have failed := lacks.read (isName_fileOf undivided) (isTaken_fileOf undivided)
  rw [← path_eq, checked] at failed
  simp [find, read, Files.readText, failed, bind, Except.bind]

/-- A descriptor is out of reach when its path leads nowhere. -/
theorem find_of_unreached {error : FileError} (unreached : files.find (path dir hash) = .error error)
    (present : error ≠ .notFound) : find files dir hash = .error (.io (path dir hash) error) := by
  have failed : files.readText (path dir hash) = .error error := by
    rw [Files.readText, Files.read, unreached]
    rfl
  have read : read files (path dir hash) = .error (.io (path dir hash) error) := by
    rw [read, failed]
    cases error with
    | notFound => exact absurd rfl present
    | _ => rfl
  rw [find, read]
  rfl

/-- A descriptor's file reads the same when its directory was made unnoticed, unless its name could
never be there. -/
theorem read_unnoticed (unnoticed : Files.Unnoticed dir files files') (undivided : '/' ∉ hash.toList)
    (short : files.Missing dir → (fileOf hash).utf8ByteSize ≤ Files.longestName) :
    files'.read (path dir hash) = files.read (path dir hash) := by
  have named := isName_fileOf undivided
  have untaken := isTaken_fileOf undivided
  -- what is missing before and after is refused for its path at most, and that is the same
  have lacking : files.Missing dir → files'.Lacks dir (fileOf hash) →
      files'.read (path dir hash) = files.read (path dir hash) := by
    intro missing lacks
    have lacked : files.Lacks dir (fileOf hash) := .inl missing
    rw [path_eq, lacks.read named untaken, lacked.read named untaken]
  cases unnoticed with
  | same unchanged => rw [unchanged]
  | missing before after => exact lacking before (.inl after)
  | empty before entered bare => exact lacking before (.inr ⟨_, entered, bare _, short before⟩)

/-! ## Listing -/

/-- What a directory lists for one of its names. -/
def entry (files : Files) (dir name : String) : Option Descriptor :=
  if Path.extension? name = some "json" then (read files (join dir name)).toOption else none

/-- What is found in a directory. -/
def found (files : Files) (dir : String) (place : Place) : List Descriptor :=
  (files.namesIn place).filterMap (entry files dir)

theorem list_eq (files : Files) (dir : String) (filled : dir ≠ "") :
    list files dir =
      match (Files.check dir).bind fun _ => files.enter (Files.lead dir) with
      | .error .notFound => .ok []
      | .error error => .error (.io dir error)
      | .ok place => .ok ((found files dir place).mergeSort le) := by
  rw [list, Files.names_eq files dir filled]
  cases Files.check dir with
  | error error => cases error <;> rfl
  | ok _ =>
    cases files.enter (Files.lead dir) with
    | error error => cases error <;> rfl
    | ok place => rfl

theorem list_empty (files : Files) : list files "" = .ok [] := rfl

/-- A directory lists the same when it was made unnoticed. -/
theorem list_unnoticed (unnoticed : Files.Unnoticed dir files files') (rooted' : files'.Rooted) :
    list files' dir = list files dir := by
  by_cases blank : dir = ""
  · rw [blank, list_empty, list_empty]
  · rw [list_eq files' dir blank, list_eq files dir blank]
    cases Files.check dir with
    | error error => cases error <;> rfl
    | ok _ =>
      cases unnoticed with
      | same unchanged => rw [unchanged]
      | missing before after =>
        rw [Files.Missing] at before after
        rw [before, after]
        rfl
      | @empty before place entered bare =>
        have nothing : files'.namesIn place = [] := by
          refine List.eq_nil_iff_forall_not_mem.2 fun name member => ?_
          obtain ⟨-, -, node, there⟩ := rooted'.mem_namesIn.1 member
          rw [bare name] at there
          cases there
        rw [Files.Missing] at before
        simp [before, entered, found, nothing, Except.bind]

theorem extension?_fileOf (filled : hash ≠ "") : Path.extension? (fileOf hash) = some "json" := by
  have key : ContentHash.key hash ≠ "" := fun empty => filled (String.map_eq_empty.1 empty)
  have split : fileOf hash = ContentHash.key hash ++ "." ++ "json" := by
    rw [fileOf, String.append_assoc]
    rfl
  rw [split, Path.extension?, Path.atDot?_append key (by decide) (by decide)]
  rfl

/-- A draft is no descriptor. -/
theorem extension?_draftOf (hash : String) : Path.extension? (draftOf hash) ≠ some "json" := by
  unfold draftOf
  split
  · decide
  · have split : ContentHash.key hash ++ ".json.tmp" =
        ContentHash.key hash ++ ".json" ++ "." ++ "tmp" := by
      rw [String.append_assoc, String.append_assoc]
      rfl
    rw [split, Path.extension?, Path.atDot?_append (by simp) (by decide) (by decide), Option.map_some]
    simp

theorem entry_fileOf (files : Files) (dir : String) (filled : hash ≠ "") :
    entry files dir (fileOf hash) = (read files (path dir hash)).toOption := by
  rw [entry, if_pos (extension?_fileOf filled), path_eq]

/-! ### Order -/

theorem le_total (a b : Descriptor) : (le a b || le b a) = true := by
  unfold le
  grind

theorem le_trans (a b c : Descriptor) (first : le a b = true) (second : le b c = true) :
    le a c = true := by
  unfold le at *
  grind

/-- What is listed is in the order of the hashes. -/
theorem sorted_by_hash (ds : List Descriptor) :
    (ds.mergeSort le).Pairwise fun a b => a.hash ≤ b.hash :=
  (List.pairwise_mergeSort le_trans le_total ds).imp of_decide_eq_true

/-! ### One file and the rest -/

/-- What is found in a directory, apart from one file. -/
def others (files : Files) (dir name : String) (place : Place) : List Descriptor :=
  (files.namesIn place).filterMap fun other => if other = name then none else entry files dir other

/-- A descriptor that can be read is where its path leads. -/
theorem leads_of_read (undivided : '/' ∉ hash.toList) {d : Descriptor}
    (reads : read files (path dir hash) = .ok d) :
    ∃ place content, files.Leads dir (fileOf hash) place ∧
      files.node? (place ++ [fileOf hash]) = some (.file content) := by
  have named := isName_fileOf undivided
  obtain ⟨content, -, there, -, -⟩ := read_eq_ok.1 reads
  rw [path_eq] at there
  cases aimed : files.find (join dir (fileOf hash)) with
  | error error => simp [Files.read, aimed, bind, Except.bind] at there
  | ok target =>
    obtain ⟨place, leads, -⟩ := (Files.find_join files dir named (isTaken_fileOf undivided)).1 aimed
    exact ⟨place, content, leads, (Files.read_join named leads).1 there⟩

theorem read_of_leads {place : Place} {d : Descriptor} (undivided : '/' ∉ hash.toList)
    (leads : files.Leads dir (fileOf hash) place)
    (there : files.node? (place ++ [fileOf hash]) = some (.file d.text.toUTF8)) :
    read files (path dir hash) = .ok d := by
  have reads := (Files.read_join (isName_fileOf undivided) leads).2 there
  exact read_eq_ok.2 ⟨_, d.text, reads, Text.fromUTF8?_toUTF8 _, d.ofText_text⟩

theorem read_ne_of_absent {place : Place} (undivided : '/' ∉ hash.toList)
    (entered : files.enter (Files.lead dir) = .ok place)
    (absent : files.node? (place ++ [fileOf hash]) = none) (d : Descriptor) :
    read files (path dir hash) ≠ .ok d := by
  intro reads
  obtain ⟨parent, content, leads, there⟩ := leads_of_read undivided reads
  cases entered.symm.trans leads.entered
  cases absent.symm.trans there

/-- What is found is one descriptor, if it can be read, and the others. -/
theorem found_split {place : Place} (rooted : files.Rooted)
    (entered : files.enter (Files.lead dir) = .ok place) (named : IsName hash) :
    (found files dir place).Perm
      ((read files (path dir hash)).toOption.toList ++ others files dir (fileOf hash) place) := by
  have plain : ∀ names : List String, fileOf hash ∉ names →
      names.filterMap (fun other => if other = fileOf hash then none else entry files dir other) =
        names.filterMap (entry files dir) := by
    intro names apart
    refine List.filterMap_congr fun other inside => if_neg ?_
    rintro rfl
    exact apart inside
  rw [← entry_fileOf files dir named.filled]
  by_cases member : fileOf hash ∈ files.namesIn place
  · have split := List.perm_cons_erase member
    have once := List.nodup_cons.1 (split.nodup (files.nodup_namesIn place))
    have first := split.filterMap (entry files dir)
    have second := split.filterMap fun other =>
      if other = fileOf hash then none else entry files dir other
    rw [List.filterMap_cons] at first
    rw [List.filterMap_cons, if_pos rfl, plain _ once.1] at second
    refine first.trans ?_
    cases entry files dir (fileOf hash) with
    | none => exact second.symm
    | some d => exact second.symm.cons d
  · -- a file that can be read is there, so it would be among the names
    have absent : entry files dir (fileOf hash) = none := by
      rw [entry_fileOf files dir named.filled]
      cases reads : read files (path dir hash) with
      | error error => rfl
      | ok d =>
        obtain ⟨parent, content, leads, there⟩ := leads_of_read named.undivided reads
        cases entered.symm.trans leads.entered
        exact absurd (rooted.mem_namesIn.2
          ⟨leads.untaken, (isName_fileOf named.undivided).undivided, _, there⟩) member
    rw [absent, others, plain _ member]
    exact .refl _

theorem entry_draftOf (files : Files) (dir hash : String) : entry files dir (draftOf hash) = none :=
  if_neg (extension?_draftOf hash)

/-- A file is listed as before while its directory and itself stay. -/
theorem entry_congr {names : List String} {place : Place} {name : String}
    (differ : Files.DifferIn dir names place files files') (named : IsName name)
    (untaken : Files.isTaken name = false) (spared : name ∉ names) :
    entry files' dir name = entry files dir name := by
  rw [entry, entry, read_congr (differ.read named untaken spared)]

/-- The others do not depend on one descriptor. -/
theorem others_congr {place : Place}
    (differ : Files.DifferIn dir [fileOf hash, draftOf hash] place files files') :
    others files' dir (fileOf hash) place = others files dir (fileOf hash) place := by
  refine differ.filterMap_namesIn ?_ ?_
  · intro name member
    rcases List.mem_pair.1 member with rfl | rfl
    · simp
    · simp [entry_draftOf]
  · intro name named untaken spared
    rw [entry_congr differ named untaken spared]

/-- A draft is passed over, and the files beside it are found in their order. -/
theorem found_congr {place : Place} (differ : Files.DifferIn dir [draftOf hash] place files files') :
    found files' dir place = found files dir place := by
  refine differ.filterMap_namesIn ?_ fun name => entry_congr differ
  intro name member
  obtain rfl := List.mem_singleton.1 member
  exact ⟨entry_draftOf files dir hash, entry_draftOf files' dir hash⟩

theorem list_of_entered {place : Place} (filled : dir ≠ "") (checked : Files.check dir = .ok ())
    (entered : files.enter (Files.lead dir) = .ok place) :
    list files dir = .ok ((found files dir place).mergeSort le) := by
  rw [list_eq files dir filled, checked]
  simp [entered, Except.bind]

/-- Two states that differ at one descriptor list the same besides it. -/
theorem list_apart {place : Place} (filled : dir ≠ "") (checked : Files.check dir = .ok ())
    (named : IsName hash) (differ : Files.DifferIn dir [fileOf hash, draftOf hash] place files files') :
    ∃ before after rest, list files dir = .ok before ∧ list files' dir = .ok after ∧
      before.Perm ((read files (path dir hash)).toOption.toList ++ rest) ∧
      after.Perm ((read files' (path dir hash)).toOption.toList ++ rest) ∧
      after.Pairwise fun a b => a.hash ≤ b.hash := by
  refine ⟨_, _, others files dir (fileOf hash) place, list_of_entered filled checked differ.entered,
    list_of_entered filled checked differ.entered', ?_, ?_, sorted_by_hash _⟩
  · exact (List.mergeSort_perm _ _).trans (found_split differ.rooted differ.entered named)
  · rw [← others_congr differ]
    exact (List.mergeSort_perm _ _).trans (found_split differ.rooted' differ.entered' named)

end Descriptor

end Tandem
