import Mathlib.Data.String.Basic
import Tandem.Proofs.Session.Lookup

/-! # Publishing descriptors

A directory holds one descriptor for each key. Publishing one changes what is found under its own
key and nothing else, and publishing that fails changes nothing that anybody finds or lists.

What can be seen of a publication is what it does to the files beside it, so the outcomes of
`publish` are stated once (`Descriptor.publish_outcome`), each with the files that it leaves. -/

namespace Tandem

namespace Descriptor

open Tandem.Path (IsName join components)

variable {files files' : Files} {dir target : String} {d : Descriptor}

/-! ## Success -/

/-- A published descriptor is at its path, and nothing but its two files differs. -/
theorem differ_of_published (rooted : files.Rooted) (named : IsName d.hash)
    (published : publish dir d files = .ok target files') :
    ∃ place, files'.Leads dir (fileOf d.hash) place ∧
      Files.DifferIn dir [fileOf d.hash, draftOf d.hash] place (files.makeDirectories dir).2 files' := by
  have made := rooted.makeDirectories dir
  have outcome := publish_outcome dir d files
  rw [published] at outcome
  cases outcome with
  | present reads =>
    obtain ⟨place, -, leads, -⟩ := leads_of_read named.undivided reads
    exact ⟨place, leads, .refl made leads.entered⟩
  | moved _ writes renames =>
    have draft := isName_draftOf named
    rw [draftPath_eq dir named] at writes
    rw [draftPath_eq dir named, path_eq] at renames
    obtain ⟨place, leads, written, drafted⟩ := Files.DifferIn.of_write made draft writes
    obtain ⟨leads', moved, -⟩ := Files.DifferIn.of_rename written.rooted' leads drafted draft
      (isName_fileOf named.undivided) (isTaken_fileOf named.undivided) renames
    exact ⟨place, leads', (written.mono (by simp)).trans (moved.mono (by simp))⟩

/-- The files after a descriptor was written aside at a place and moved to its own name. -/
def put (d : Descriptor) (place : Place) (files : Files) : Files :=
  ((files.set (place ++ [draftOf d.hash]) (.file d.text.toUTF8)).erase (place ++ [draftOf d.hash])).set
    (place ++ [fileOf d.hash]) (.file d.text.toUTF8)

/-- No directory comes up where a descriptor is put. -/
theorem node?_put_ne (d : Descriptor) (place : Place) {other : Place}
    (free : files.node? other ≠ some .directory) :
    (put d place files).node? other ≠ some .directory := by
  have set : ∀ {files : Files} (here : Place) (content : ByteArray),
      files.node? other ≠ some .directory →
        (files.set here (.file content)).node? other ≠ some .directory := by
    intro files here content free
    by_cases same : other = here
    · subst same
      rw [Files.node?_set_self free]
      exact nofun
    · rwa [Files.node?_set_of_ne same]
  exact set _ _ (Files.node?_erase_ne _ (set _ _ free))

/-- Publishing succeeds where the paths of a descriptor lead, unless a directory is in the way. -/
theorem publish_of_leads {place : Place} (named : IsName d.hash)
    (settled : files.makeDirectories dir = (.ok (), files'))
    (leads : files'.Leads dir (fileOf d.hash) place)
    (leads' : files'.Leads dir (draftOf d.hash) place)
    (free : files'.node? (place ++ [fileOf d.hash]) ≠ some .directory)
    (free' : files'.node? (place ++ [draftOf d.hash]) ≠ some .directory)
    (differs : read files' (path dir d.hash) ≠ .ok d) :
    publish dir d files = .ok (path dir d.hash) (put d place files') := by
  have file := isName_fileOf named.undivided
  have draft := isName_draftOf named
  have kept : Files.KeepsExcept [draftOf d.hash] files' _ :=
    .set_file free' List.getLast?_concat (List.mem_singleton_self _) d.text.toUTF8
  -- the draft is not in the way of the file itself
  have apart : place ++ [fileOf d.hash] ≠ place ++ [draftOf d.hash] := by
    simpa using fileOf_ne_draftOf d.hash d.hash
  have ready : settleIn dir files = .ok () files' := by rw [settleIn_eq, settled]
  rw [publish_of_settled ready differs, replace_eq, draftPath_eq dir named,
    Files.write_of_leads draft leads' free', path_eq]
  simp only
  rw [Files.rename_of_leads draft file (kept.leads leads') (kept.leads leads)
    (Files.node?_set_self free' _) (by rwa [Files.node?_set_of_ne apart])]
  rfl

theorem publish_of_absent {place : Place} (named : IsName d.hash)
    (settled : files.makeDirectories dir = (.ok (), files'))
    (leads : files'.Leads dir (fileOf d.hash) place)
    (leads' : files'.Leads dir (draftOf d.hash) place)
    (absent : files'.node? (place ++ [fileOf d.hash]) = none)
    (absent' : files'.node? (place ++ [draftOf d.hash]) = none) :
    publish dir d files = .ok (path dir d.hash) (put d place files') :=
  publish_of_leads named settled leads leads' (by simp [absent])
    (by simp [absent']) (read_ne_of_absent named.undivided leads.entered absent _)

/-- A published descriptor is found under each hash that agrees with its own. -/
theorem find_of_published (named : IsName d.hash) (published : publish dir d files = .ok target files')
    {hash : String} (agrees : ContentHash.agree d.hash hash = true) : find files' dir hash = .ok d := by
  have reads := (publish_ok named published).1
  rw [path_congr dir agrees] at reads
  exact find_of_read reads agrees

/-- What is found under other hashes is up to the directory alone. -/
theorem find_published (rooted : files.Rooted) (named : IsName d.hash)
    (published : publish dir d files = .ok target files') {hash : String}
    (undivided : '/' ∉ hash.toList) :
    find files' dir hash =
      if ContentHash.agree d.hash hash then .ok d else find (files.makeDirectories dir).2 dir hash := by
  split
  · rename_i agrees
    exact find_of_published named published agrees
  · rename_i apart
    obtain ⟨place, -, differ⟩ := differ_of_published rooted named published
    have spared : fileOf hash ∉ [fileOf d.hash, draftOf d.hash] := by
      refine fileOf_not_mem fun same => apart (ContentHash.agree_iff.2 same.symm)
    refine find_congr ?_
    rw [path_eq]
    exact differ.read (isName_fileOf undivided) (isTaken_fileOf undivided) spared

/-- A descriptor that was published takes the place of the one in its file, in what is listed. -/
theorem list_published (rooted : files.Rooted) (named : IsName d.hash)
    (published : publish dir d files = .ok target files') (filled : dir ≠ "") :
    ∃ before after rest, list (files.makeDirectories dir).2 dir = .ok before ∧
      list files' dir = .ok after ∧
      before.Perm ((read (files.makeDirectories dir).2 (path dir d.hash)).toOption.toList ++ rest) ∧
      after.Perm (d :: rest) ∧ after.Pairwise fun a b => a.hash ≤ b.hash := by
  obtain ⟨place, leads, differ⟩ := differ_of_published rooted named published
  have checked := Files.check_of_join filled (isName_fileOf named.undivided) leads.checked
  have apart := list_apart filled checked named differ
  rwa [(publish_ok named published).1] at apart

/-! ## One after another -/

/-- Publishes descriptors in order. -/
def publishAll (dir : String) : List Descriptor → Filing Unit
  | [] => return ()
  | d :: ds => do
    let _ ← publish dir d
    publishAll dir ds

theorem publishAll_cons (published : publish dir d files = .ok target files') (ds : List Descriptor) :
    publishAll dir (d :: ds) files = publishAll dir ds files' := by
  rw [publishAll, bind_of_ok published]

/-- In a directory that is there, each hash leads to the last descriptor that was published for it,
or else where it led. -/
theorem find_publishAll {ds : List Descriptor} (rooted : files.Rooted) {place : Place}
    (entered : files.enter (Files.lead dir) = .ok place) (named : ∀ d ∈ ds, IsName d.hash)
    (published : publishAll dir ds files = .ok () files') {hash : String}
    (undivided : '/' ∉ hash.toList) :
    find files' dir hash =
      match ds.reverse.find? fun d => ContentHash.agree d.hash hash with
      | some d => .ok d
      | none => find files dir hash := by
  induction ds generalizing files place with
  | nil =>
    cases published
    rfl
  | cons d ds ih =>
    obtain ⟨target, between, first, later⟩ := of_bind_ok published
    have name := named d List.mem_cons_self
    obtain ⟨parent, -, differ⟩ := differ_of_published rooted name first
    have present : ¬ files.Missing dir := by simp [Files.Missing, entered]
    have step := find_published rooted name first undivided
    rw [Files.makeDirectories_of_not_missing present] at step
    -- the first of all is the last to be looked at
    rw [ih differ.rooted' differ.entered' (fun d member => named d (List.mem_cons_of_mem _ member))
      later, List.reverse_cons, List.find?_append]
    cases ds.reverse.find? fun d => ContentHash.agree d.hash hash with
    | some last => rfl
    | none =>
      rw [step]
      cases agrees : ContentHash.agree d.hash hash <;> simp [agrees]

/-- The directory is a map from hashes to descriptors, and publishing sets one key of it. Every spelling
of the hash leads to the descriptor, all other hashes lead where they led, and what is listed has the
descriptor in the place of the one that was in its file. So each hash leads to the last descriptor that
was published for it. A directory that was missing must not be reached back up through one that
publishing makes, and only a directory with a name is listed. -/
theorem publishing_sets_one_key (rooted : files.Rooted) (named : IsName d.hash)
    (published : publish dir d files = .ok target files') :
    (∀ hash, ContentHash.agree hash d.hash = true → find files' dir hash = .ok d) ∧
    (∀ hash, '/' ∉ hash.toList → ContentHash.agree hash d.hash = false →
      (files.Missing dir →
        files.Onward dir ∧ (fileOf hash).utf8ByteSize ≤ Files.longestName) →
      find files' dir hash = find files dir hash) ∧
    (dir ≠ "" → (files.Missing dir → files.Onward dir) →
      ∃ before after rest, list files dir = .ok before ∧ list files' dir = .ok after ∧
        before.Perm ((read files (path dir d.hash)).toOption.toList ++ rest) ∧
        after.Perm (d :: rest) ∧ after.Pairwise fun a b => a.hash ≤ b.hash) ∧
    (∀ ds files'', (∀ e ∈ ds, IsName e.hash) → publishAll dir ds files' = .ok () files'' →
      ∀ hash, '/' ∉ hash.toList →
        find files'' dir hash =
          match (d :: ds).reverse.find? fun e => ContentHash.agree e.hash hash with
          | some last => .ok last
          | none => find files' dir hash) := by
  obtain ⟨place, leads, differ⟩ := differ_of_published rooted named published
  -- what was published is in the directory, so the directory was made
  have unnoticed : (files.Missing dir → files.Onward dir) →
      Files.Unnoticed dir files (files.makeDirectories dir).2 :=
    fun onward => rooted.unnoticed fun missing => ⟨onward missing, .inl ⟨place, differ.entered⟩⟩
  refine ⟨?_, ?_, ?_, ?_⟩
  · intro hash agrees
    rw [ContentHash.agree_comm] at agrees
    exact find_of_published named published agrees
  · intro hash undivided apart plain
    rw [find_published rooted named published undivided, ContentHash.agree_comm, apart]
    exact find_congr (read_unnoticed (unnoticed fun missing => (plain missing).1) undivided
      fun missing => (plain missing).2)
  · intro filled onward
    have same := read_unnoticed (unnoticed onward) named.undivided fun _ => leads.short
    have listed := list_published rooted named published filled
    rwa [list_unnoticed (unnoticed onward) differ.rooted, read_congr same] at listed
  · intro ds files'' names later hash undivided
    rw [find_publishAll differ.rooted' differ.entered' names later undivided, List.reverse_cons,
      List.find?_append]
    cases ds.reverse.find? fun e => ContentHash.agree e.hash hash with
    | some last => rfl
    | none =>
      cases agrees : ContentHash.agree d.hash hash with
      | false => simp [agrees]
      | true => simp [agrees, find_of_published named published agrees]

/-- A descriptor that says little. -/
def Sample.session (port : UInt16) (hash : String) : Descriptor := ⟨port, hash, "r", ""⟩

/-- A directory beside the working directory. -/
def Sample.beside : Files := Files.empty.set ["..", "s"] .directory

theorem Sample.makeDirectories_beside :
    Files.empty.makeDirectories "../s" = (.ok (), Sample.beside) := by
  rw [Files.makeDirectories, Files.chain, Files.waypoints_eq_toList]
  rfl

theorem Sample.lead_beside : Files.lead "../s" = ["..", "s"] := Files.lead_eq_toList _

theorem Sample.enter_beside : Sample.beside.enter (Files.lead "../s") = .ok ["..", "s"] := by
  rw [Sample.lead_beside]
  rfl

theorem Sample.node?_beside {name : String} (untaken : Files.isTaken name = false) :
    Sample.beside.node? (["..", "s"] ++ [name]) = none := by
  rw [Files.node?_concat untaken]
  simp [Sample.beside, Files.set, Files.empty]

theorem Sample.free_beside {name : String} (untaken : Files.isTaken name = false) :
    Sample.beside.node? (["..", "s"] ++ [name]) ≠ some .directory := by
  rw [Sample.node?_beside untaken]
  simp

/-- The directories and hashes of the samples below. -/
def Sample.keys : List (String × String) :=
  [("../s", "AB"), ("../s", "Ab"), ("../s", "x"), ("a/../b", "x"), ("a/../b", "y"), ("", "y"), ("b", "x"),
    ("s", "x")]

/-- The file system takes their paths. -/
theorem Sample.fits (dir hash : String) (member : (dir, hash) ∈ Sample.keys) :
    Files.Fits dir (fileOf hash) ∧ Files.Fits dir (draftOf hash) := by
  have all : ∀ key ∈ Sample.keys,
      Files.Fits key.1 (fileOf key.2) ∧ Files.Fits key.1 (draftOf key.2) := by
    decide +kernel
  exact all (dir, hash) member

/-- The files after a session was published there. -/
def Sample.first : Files := put (Sample.session 1 "AB") ["..", "s"] Sample.beside

theorem Sample.published :
    publish "../s" (Sample.session 1 "AB") Files.empty = .ok "../s/ab.json" Sample.first := by
  have named : IsName (Sample.session 1 "AB").hash := ⟨by decide, by decide⟩
  obtain ⟨file, draft⟩ := Sample.fits "../s" "AB" (by decide)
  have published := publish_of_absent named Sample.makeDirectories_beside
    (file.leads Sample.enter_beside) (draft.leads Sample.enter_beside)
    (Sample.node?_beside file.2.1) (Sample.node?_beside draft.2.1)
  have target : path "../s" (Sample.session 1 "AB").hash = "../s/ab.json" := by
    rw [path, show ContentHash.key (Sample.session 1 "AB").hash = "ab" from ContentHash.key_of_toList rfl]
    exact Path.join_eq_toList _ _
  rwa [target] at published

theorem Sample.republished :
    publishAll "../s" [Sample.session 2 "Ab"] Sample.first =
      .ok () (put (Sample.session 2 "Ab") ["..", "s"] Sample.first) := by
  have named : IsName (Sample.session 1 "AB").hash := ⟨by decide, by decide⟩
  have named' : IsName (Sample.session 2 "Ab").hash := ⟨by decide, by decide⟩
  have reads := (publish_ok named Sample.published).1
  obtain ⟨_, -, differ⟩ := differ_of_published .empty named Sample.published
  rw [Sample.makeDirectories_beside] at differ
  cases Sample.enter_beside.symm.trans differ.entered
  have entered := differ.entered'
  obtain ⟨file, draft⟩ := Sample.fits "../s" "Ab" (by decide)
  have differs : read Sample.first (path "../s" (Sample.session 2 "Ab").hash) ≠
      .ok (Sample.session 2 "Ab") := by
    rw [← path_congr "../s" (ContentHash.agree_eq (Sample.session 1 "AB").hash _), reads]
    decide
  exact publishAll_cons (publish_of_leads named'
    (Files.makeDirectories_of_entered (fun _ => by decide) entered)
    (file.leads entered) (draft.leads entered) (node?_put_ne _ _ (Sample.free_beside file.2.1))
    (node?_put_ne _ _ (Sample.free_beside draft.2.1)) differs) []

/-- A session is published to a directory that has to be made first, and then again under another
spelling of its hash. -/
theorem republished_key_leads_to_the_last :
    ∃ files' files'',
      publish "../s" (Sample.session 1 "AB") Files.empty = .ok "../s/ab.json" files' ∧
      publishAll "../s" [Sample.session 2 "Ab"] files' = .ok () files'' ∧
      find files' "../s" "aB" = .ok (Sample.session 1 "AB") ∧
      find files' "../s" "x" = find Files.empty "../s" "x" ∧
      (∃ before after rest, list Files.empty "../s" = .ok before ∧ list files' "../s" = .ok after ∧
        before.Perm ((read Files.empty (path "../s" "AB")).toOption.toList ++ rest) ∧
        after.Perm (Sample.session 1 "AB" :: rest) ∧ after.Pairwise fun a b => a.hash ≤ b.hash) ∧
      find files'' "../s" "aB" = .ok (Sample.session 2 "Ab") := by
  have named : IsName (Sample.session 1 "AB").hash := ⟨by decide, by decide⟩
  have named' : IsName (Sample.session 2 "Ab").hash := ⟨by decide, by decide⟩
  have absent : Files.empty.Onward "../s" :=
    ⟨[".."], ["s"], [".."], Sample.lead_beside, rfl, by decide⟩
  obtain ⟨own, other, listed, last⟩ := publishing_sets_one_key .empty named Sample.published
  refine ⟨_, _, Sample.published, Sample.republished, own "aB" (ContentHash.agree_eq _ _),
    other "x" (by decide) (ContentHash.agree_eq _ _) fun _ => ⟨absent, (Sample.fits "../s" "x" (by decide)).1.2.2⟩,
    listed (by decide) fun _ => absent, ?_⟩
  rw [last [Sample.session 2 "Ab"] _ (by simpa using named') Sample.republished "aB" (by decide)]
  have agrees : ContentHash.agree (Sample.session 2 "Ab").hash "aB" = true :=
    ContentHash.agree_eq _ _
  simp [agrees]

/-! A path that goes back up from a directory that is missing leads somewhere once that directory was
made. Then descriptors come up that had been out of reach. -/

/-- One descriptor in a directory, and a directory in the way of another. -/
def Sample.shelf : Files :=
  ((Files.empty.place "b/x.json" (Sample.session 1 "x").text.toUTF8).makeDirectories "b/z.json").2

theorem Sample.rooted_shelf : Sample.shelf.Rooted :=
  (Files.Rooted.empty.place _ _).makeDirectories _

theorem Sample.shelf_eq :
    Sample.shelf = ((Files.empty.set ["b"] .directory).set ["b", "x.json"]
      (.file (Sample.session 1 "x").text.toUTF8)).set ["b", "z.json"] .directory := by
  have above : Files.above "b/x.json" = "b" := rfl
  have whole : Files.waypoints "b/x.json" = ["b", "x.json"] := Files.waypoints_eq_toList _
  have ends : "b/x.json".endsWith "/" = false := Text.endsWith_slash _
  have made : Files.empty.makeDirectories "b" = (.ok (), Files.empty.set ["b"] .directory) := by
    rw [Files.makeDirectories, Files.chain, Files.waypoints_eq_toList]
    rfl
  rw [Sample.shelf, Files.place, above, made]
  simp only [Files.write, whole, ends]
  rw [Files.makeDirectories, Files.chain, Files.waypoints_eq_toList]
  rfl

theorem Sample.lead_shelf : Files.lead "b" = ["b"] := Files.lead_eq_toList _

theorem Sample.lead_back : Files.lead "a/../b" = ["a", "..", "b"] := Files.lead_eq_toList _

theorem Sample.makeDirectories_shelf :
    Sample.shelf.makeDirectories "a/../b" = (.ok (), Sample.shelf.set ["a"] .directory) := by
  rw [Sample.shelf_eq, Files.makeDirectories, Files.chain, Files.waypoints_eq_toList]
  rfl

theorem Sample.enter_shelf :
    (Sample.shelf.set ["a"] .directory).enter (Files.lead "a/../b") = .ok ["b"] := by
  rw [Sample.shelf_eq, Sample.lead_back]
  rfl

theorem Sample.fileOf_x : fileOf "x" = "x.json" := by
  rw [fileOf, show ContentHash.key "x" = "x" from ContentHash.key_of_toList rfl]
  rfl

theorem Sample.find_before :
    find Sample.shelf "a/../b" "x" = .error (.notFound "a/../b/x.json") := by
  have missing : Sample.shelf.Missing "a/../b" := by
    rw [Files.Missing, Sample.shelf_eq, Sample.lead_back]
    rfl
  have target : path "a/../b" "x" = "a/../b/x.json" := by
    rw [path_eq, Sample.fileOf_x]
    exact Path.join_eq_toList _ _
  rw [find_of_missing missing (by decide) (Sample.fits "a/../b" "x" (by decide)).1.1, target]

theorem Sample.find_after :
    find (Sample.shelf.set ["a"] .directory) "a/../b" "x" = .ok (Sample.session 1 "x") := by
  have leads : (Sample.shelf.set ["a"] .directory).Leads "a/../b" (fileOf "x") ["b"] :=
    (Sample.fits "a/../b" "x" (by decide)).1.leads Sample.enter_shelf
  have there : (Sample.shelf.set ["a"] .directory).node? (["b"] ++ [fileOf "x"]) =
      some (.file (Sample.session 1 "x").text.toUTF8) := by
    rw [Sample.shelf_eq, Sample.fileOf_x]
    rfl
  exact find_of_read (read_of_leads (by decide) leads there) (ContentHash.agree_eq _ _)

/-! A name that is too long is missed in a directory that is missing, and refused in one that is there. -/

theorem find_long {long : String} {place : Place} (named : IsName long) (missing : files.Missing dir)
    (entered : files'.enter (Files.lead dir) = .ok place)
    (checked : Files.check (path dir long) = .ok ())
    (beyond : Files.longestName < (fileOf long).utf8ByteSize) :
    find files dir long = .error (.notFound (path dir long)) ∧
      find files' dir long = .error (.io (path dir long) .nameTooLong) := by
  refine ⟨find_of_missing missing named.undivided checked, find_of_unreached ?_ (by decide)⟩
  rw [path_eq] at checked ⊢
  rw [Files.find_below files' dir (isName_fileOf named.undivided) (isTaken_fileOf named.undivided),
    checked, entered]
  exact if_pos beyond

/-- The name `hhh…`. -/
def Sample.run (n : Nat) : String := String.ofList (List.replicate n 'h')

theorem Sample.utf8ByteSize_run (n : Nat) : (Sample.run n).utf8ByteSize = n := by
  rw [Sample.run, String.utf8ByteSize_ofList]
  induction n with
  | zero => rfl
  | succ n ih =>
    rw [List.replicate_succ, String.utf8Len_cons, ih]
    rfl

theorem Sample.isName_run {n : Nat} (filled : n ≠ 0) : IsName (Sample.run n) := by
  constructor
  · intro empty
    have size := Sample.utf8ByteSize_run n
    rw [empty] at size
    exact filled size.symm
  · simp [Sample.run]

theorem Sample.fileOf_run (n : Nat) : fileOf (Sample.run n) = Sample.run n ++ ".json" := by
  have key : ContentHash.key (Sample.run n) = Sample.run n := by
    apply String.toList_inj.1
    simp [ContentHash.key, Sample.run, String.toList_map]
  rw [fileOf, key]

theorem Sample.check_run {front back : String} {n : Nat}
    (whole : '\x00' ∉ front.toList ∧ '\x00' ∉ back.toList) (filled : front ≠ "")
    (short : front.utf8ByteSize + n + back.utf8ByteSize ≤ Files.longestPath) :
    Files.check (front ++ (Sample.run n ++ back)) = .ok () := by
  have bare : (front ++ (Sample.run n ++ back)).toList.contains '\x00' = false := by
    simp [whole, Sample.run]
  have present : (front ++ (Sample.run n ++ back)).isEmpty = false := by
    simp [filled]
  rw [Files.check, bare, present]
  simp only [String.utf8ByteSize_append, Sample.utf8ByteSize_run, Bool.false_eq_true, if_false]
  rw [if_neg (by omega)]

/-- A name that is too long. -/
def Sample.long : String := Sample.run 256

theorem Sample.isName_long : IsName Sample.long := Sample.isName_run (by decide)

theorem Sample.beyond_fileOf_long : Files.longestName < (fileOf Sample.long).utf8ByteSize := by
  rw [Sample.long, Sample.fileOf_run, String.utf8ByteSize_append, Sample.utf8ByteSize_run]
  decide

theorem Sample.find_long_beside :
    find Files.empty "../s" Sample.long = .error (.notFound (path "../s" Sample.long)) ∧
      find Sample.beside "../s" Sample.long =
        .error (.io (path "../s" Sample.long) .nameTooLong) := by
  have missing : Files.empty.Missing "../s" := by
    rw [Files.Missing, Sample.lead_beside]
    rfl
  refine find_long Sample.isName_long missing Sample.enter_beside ?_ Sample.beyond_fileOf_long
  rw [path_eq, Path.join_eq _ (isName_fileOf Sample.isName_long.undivided), Sample.long,
    Sample.fileOf_run, show Path.below "../s" = "../s/" from Path.join_eq_toList _ _]
  exact Sample.check_run (by decide) (by decide) (by decide)

/-- Publishing `y` makes `a`, and thereby shows `x`. A name that is too long is refused once its directory
was made. The directory without a name lists nothing, even what was just published there. -/
theorem made_directory_can_show_descriptors :
    (∃ files', publish "a/../b" (Sample.session 2 "y") Sample.shelf = .ok "a/../b/y.json" files' ∧
      find Sample.shelf "a/../b" "x" = .error (.notFound "a/../b/x.json") ∧
      find files' "a/../b" "x" = .ok (Sample.session 1 "x")) ∧
    (∃ files', publish "../s" (Sample.session 1 "AB") Files.empty = .ok "../s/ab.json" files' ∧
      find Files.empty "../s" Sample.long = .error (.notFound (path "../s" Sample.long)) ∧
      find files' "../s" Sample.long = .error (.io (path "../s" Sample.long) .nameTooLong)) ∧
    ∃ files', publish "" (Sample.session 2 "y") Files.empty = .ok "y.json" files' ∧
      list files' "" = .ok [] := by
  have named : IsName (Sample.session 2 "y").hash := ⟨by decide, by decide⟩
  have key : ContentHash.key (Sample.session 2 "y").hash = "y" := ContentHash.key_of_toList rfl
  have file : fileOf (Sample.session 2 "y").hash = "y.json" := by
    rw [fileOf, key]
    rfl
  have draft : draftOf (Sample.session 2 "y").hash = "y.json.tmp" := by
    rw [draftOf, key]
    rfl
  refine ⟨?_, ?_, ?_⟩
  · have fits := Sample.fits "a/../b" "y" (by decide)
    have published := publish_of_absent named Sample.makeDirectories_shelf
      (fits.1.leads Sample.enter_shelf) (fits.2.leads Sample.enter_shelf)
      (by rw [Sample.shelf_eq, file]; rfl) (by rw [Sample.shelf_eq, draft]; rfl)
    have found := find_published Sample.rooted_shelf named published (show '/' ∉ "x".toList by decide)
    have apart : ContentHash.agree (Sample.session 2 "y").hash "x" = false :=
      ContentHash.agree_eq _ _
    rw [apart, Sample.makeDirectories_shelf] at found
    rw [path_eq, file, show join "a/../b" "y.json" = "a/../b/y.json" from Path.join_eq_toList _ _] at published
    exact ⟨_, published, Sample.find_before, found.trans Sample.find_after⟩
  · have found := find_published .empty ⟨by decide, by decide⟩ Sample.published
      Sample.isName_long.undivided
    have apart : ContentHash.agree (Sample.session 1 "AB").hash Sample.long = false := by
      rw [Bool.eq_false_iff]
      intro agrees
      have same : fileOf "AB" = fileOf Sample.long := congrArg (· ++ ".json") (ContentHash.agree_iff.1 agrees)
      have short := (Sample.fits "../s" "AB" (by decide)).1.2.2
      rw [same] at short
      exact absurd short (Nat.not_le_of_lt Sample.beyond_fileOf_long)
    rw [apart, Sample.makeDirectories_beside] at found
    exact ⟨_, Sample.published, Sample.find_long_beside.1, found.trans Sample.find_long_beside.2⟩
  · have entered : Files.empty.enter (Files.lead "") = .ok [] := rfl
    have fits := Sample.fits "" "y" (by decide)
    have published := publish_of_absent named (show Files.empty.makeDirectories "" = _ from rfl)
      (fits.1.leads entered) (fits.2.leads entered)
      (by rw [file]; rfl) (by rw [draft]; rfl)
    rw [path_eq, file, show join "" "y.json" = "y.json" from Path.join_eq_toList _ _] at published
    exact ⟨_, published, list_empty _⟩

/-! ## Failure -/

/-- What failed to be published left the directory alone, apart from the draft. -/
theorem differ_of_unpublished (rooted : files.Rooted) (named : IsName d.hash) {error : DescriptorError}
    (failed : publish dir d files = .error error files') :
    files' = (files.makeDirectories dir).2 ∨
      ∃ place, files'.Leads dir (draftOf d.hash) place ∧
        Files.DifferIn dir [draftOf d.hash] place (files.makeDirectories dir).2 files' := by
  have outcome := publish_outcome dir d files
  rw [failed] at outcome
  cases outcome with
  | unmade _ => exact .inl rfl
  | unwritten _ _ => exact .inl rfl
  | unmoved _ writes _ =>
    rw [draftPath_eq dir named] at writes
    obtain ⟨place, leads, differ, -⟩ :=
      Files.DifferIn.of_write (rooted.makeDirectories dir) (isName_draftOf named) writes
    exact .inr ⟨place, leads, differ⟩

section Unpublished

variable (rooted : files.Rooted) (named : IsName d.hash) {error : DescriptorError}
  (failed : publish dir d files = .error error files')
include rooted named failed

/-- What failed to be published left new directories and a draft at most. -/
theorem node?_unpublished (place : Place) :
    files'.node? place = files.node? place ∨
      (files.node? place = none ∧ files'.node? place = some .directory) ∨
      files'.find (draftPath (path dir d.hash)) = .ok place := by
  have grown : (files.makeDirectories dir).2.node? place = files.node? place ∨
      (files.node? place = none ∧ (files.makeDirectories dir).2.node? place = some .directory) := by
    rcases Files.makeDirectories_grows files dir place with same | ⟨absent, directory, -⟩
    · exact .inl same
    · exact .inr ⟨absent, directory⟩
  rcases differ_of_unpublished rooted named failed with rfl | ⟨parent, leads, differ⟩
  · exact grown.imp_right .inl
  · by_cases draft : place = parent ++ [draftOf d.hash]
    · rw [draftPath_eq dir named]
      exact .inr (.inr
        ((Files.find_join files' dir (isName_draftOf named) leads.untaken).2 ⟨parent, leads, draft⟩))
    · rw [differ.same place (by simpa using draft)]
      exact grown.imp_right .inl

theorem find_unpublished {hash : String} (undivided : '/' ∉ hash.toList) :
    find files' dir hash = find (files.makeDirectories dir).2 dir hash := by
  rcases differ_of_unpublished rooted named failed with rfl | ⟨parent, -, differ⟩
  · rfl
  · refine find_congr ?_
    rw [path_eq]
    exact differ.read (isName_fileOf undivided) (isTaken_fileOf undivided)
      (by simpa using fileOf_ne_draftOf hash d.hash)

theorem list_unpublished : list files' dir = list (files.makeDirectories dir).2 dir := by
  rcases differ_of_unpublished rooted named failed with rfl | ⟨parent, leads, differ⟩
  · rfl
  · by_cases blank : dir = ""
    · rw [blank, list_empty, list_empty]
    · have checked := Files.check_of_join blank (isName_draftOf named) leads.checked
      rw [list_of_entered blank checked differ.entered', list_of_entered blank checked differ.entered,
        found_congr differ]

/-- Nothing that failed to be published is found or listed, unless the directory was missing and making
it led back up, or stopped at a name that is too long. -/
theorem unseen_of_unpublished
    (plain : files.Missing dir →
      files.Onward dir ∧ ∀ name ∈ components dir, name.utf8ByteSize ≤ Files.longestName) :
    (∀ hash, '/' ∉ hash.toList →
      (files.Missing dir → (fileOf hash).utf8ByteSize ≤ Files.longestName) →
      find files' dir hash = find files dir hash) ∧
    list files' dir = list files dir := by
  have unnoticed : Files.Unnoticed dir files (files.makeDirectories dir).2 :=
    rooted.unnoticed fun missing => ⟨(plain missing).1, .inr (plain missing).2⟩
  constructor
  · intro hash undivided short
    rw [find_unpublished rooted named failed undivided]
    exact find_congr (read_unnoticed unnoticed undivided short)
  · rw [list_unpublished rooted named failed]
    exact list_unnoticed unnoticed (rooted.makeDirectories dir)

end Unpublished

/-! Publishing fails where a directory is in the way, where the name is too long, and where its directory
cannot be made. -/

section Stuck

variable (rooted : files.Rooted) (named : IsName d.hash)
include rooted named

theorem stuck_of_blocked {place : Place}
    (entered : (files.makeDirectories dir).2.enter (Files.lead dir) = .ok place)
    (blocked : files.node? (place ++ [fileOf d.hash]) = some .directory) (target : String)
    (files' : Files) : publish dir d files ≠ .ok target files' := by
  intro published
  -- what was published would be a file, where a directory is
  obtain ⟨reads, kept⟩ := publish_ok named published
  obtain ⟨_, -, differ⟩ := differ_of_published rooted named published
  obtain ⟨parent, content, leads, there⟩ := leads_of_read named.undivided reads
  cases differ.entered'.symm.trans leads.entered
  cases entered.symm.trans differ.entered
  cases (kept _ _ blocked (.inl rfl)).symm.trans there

theorem stuck_of_long (long : Files.longestName < (fileOf d.hash).utf8ByteSize) (target : String)
    (files' : Files) : publish dir d files ≠ .ok target files' := by
  intro published
  obtain ⟨_, leads, -⟩ := differ_of_published rooted named published
  exact absurd leads.short (Nat.not_le_of_lt long)

theorem stuck_of_unentered {error : FileError}
    (unentered : (files.makeDirectories dir).2.enter (Files.lead dir) = .error error) (target : String)
    (files' : Files) : publish dir d files ≠ .ok target files' := by
  intro published
  obtain ⟨_, -, differ⟩ := differ_of_published rooted named published
  cases unentered.symm.trans differ.entered

end Stuck

theorem fails_of_stuck (stuck : ∀ target files', publish dir d files ≠ .ok target files') :
    ∃ error files', publish dir d files = .error error files' := by
  cases ran : publish dir d files with
  | ok target files' => exact absurd ran (stuck target files')
  | error error files' => exact ⟨error, files', rfl⟩

theorem publish_of_read (named : IsName d.hash) (reads : read files (path dir d.hash) = .ok d) :
    publish dir d files = .ok (path dir d.hash) files := by
  obtain ⟨place, -, leads, -⟩ := leads_of_read named.undivided reads
  have checked : dir ≠ "" → Files.check dir = .ok () := fun filled =>
    Files.check_of_join filled (isName_fileOf named.undivided) leads.checked
  have made := Files.makeDirectories_of_entered checked leads.entered
  have outcome := publish_outcome dir d files
  generalize publish dir d files = result at outcome
  cases outcome with
  | unmade failed =>
    rw [made] at failed
    cases failed
  | present _ => rw [made]
  | unwritten differs _ => exact absurd (by rw [made]; exact reads) differs
  | unmoved differs _ _ => exact absurd (by rw [made]; exact reads) differs
  | moved differs _ _ => exact absurd (by rw [made]; exact reads) differs

/-- What failed to be published left new directories and a draft at most. None of them is found or
listed, unless the directory was missing and making it led back up, or stopped at a name that is too
long. To publish what is there already succeeds and changes nothing. -/
theorem failed_publishing_is_not_seen (rooted : files.Rooted) (named : IsName d.hash) :
    (∀ error files', publish dir d files = .error error files' →
      (∀ place, files'.node? place = files.node? place ∨
        (files.node? place = none ∧ files'.node? place = some .directory) ∨
        files'.find (draftPath (path dir d.hash)) = .ok place) ∧
      ((files.Missing dir →
          files.Onward dir ∧ ∀ name ∈ components dir, name.utf8ByteSize ≤ Files.longestName) →
        (∀ hash, '/' ∉ hash.toList →
          (files.Missing dir → (fileOf hash).utf8ByteSize ≤ Files.longestName) →
          find files' dir hash = find files dir hash) ∧
        list files' dir = list files dir)) ∧
    (read files (path dir d.hash) = .ok d → publish dir d files = .ok (path dir d.hash) files) := by
  refine ⟨fun error files' failed => ⟨node?_unpublished rooted named failed, ?_⟩, publish_of_read named⟩
  exact unseen_of_unpublished rooted named failed

/-- A hash with a null character cannot be published, and the directory that was made for it shows
nothing. The descriptor on the shelf is published once more. -/
theorem failures_leave_the_shelf_as_it_is :
    (∃ error files', publish "s" (Sample.session 2 "\x00") Sample.shelf = .error error files' ∧
      find files' "s" "x" = find Sample.shelf "s" "x" ∧ list files' "s" = list Sample.shelf "s") ∧
    publish "b" (Sample.session 1 "x") Sample.shelf = .ok "b/x.json" Sample.shelf := by
  have named : IsName (Sample.session 2 "\x00").hash := ⟨by decide, by decide⟩
  have named' : IsName (Sample.session 1 "x").hash := ⟨by decide, by decide⟩
  constructor
  · cases ran : publish "s" (Sample.session 2 "\x00") Sample.shelf with
    | ok target files' =>
      obtain ⟨place, leads, -⟩ := differ_of_published Sample.rooted_shelf named ran
      exact absurd leads.checked (by decide +kernel)
    | error error files' =>
      have onward : Sample.shelf.Onward "s" := ⟨[], ["s"], [], Files.lead_eq_toList _, rfl, by decide⟩
      obtain ⟨-, unseen⟩ := (failed_publishing_is_not_seen Sample.rooted_shelf named).1 error files' ran
      have names : components "s" = ["s"] := rfl
      obtain ⟨finds, lists⟩ := unseen fun _ => ⟨onward, by rw [names]; decide⟩
      have fits := Sample.fits "s" "x" (by decide)
      exact ⟨error, files', rfl, finds "x" (by decide) fun _ => fits.1.2.2, lists⟩
  · have entered : Sample.shelf.enter (Files.lead "b") = .ok ["b"] := by
      rw [Sample.shelf_eq, Sample.lead_shelf]
      rfl
    have reads : read Sample.shelf (path "b" (Sample.session 1 "x").hash) =
        .ok (Sample.session 1 "x") := by
      refine read_of_leads (by decide) ((Sample.fits "b" "x" (by decide)).1.leads entered) ?_
      rw [Sample.shelf_eq, show fileOf (Sample.session 1 "x").hash = "x.json" from Sample.fileOf_x]
      rfl
    have same := (failed_publishing_is_not_seen Sample.rooted_shelf named').2 reads
    rwa [path_eq, show fileOf (Sample.session 1 "x").hash = "x.json" from Sample.fileOf_x,
      show join "b" "x.json" = "b/x.json" from Path.join_eq_toList _ _] at same

theorem Sample.stuck_blocked (hash : d.hash = "z") (target : String) (files' : Files) :
    publish "a/../b" d Sample.shelf ≠ .ok target files' := by
  have entered : (Sample.shelf.makeDirectories "a/../b").2.enter (Files.lead "a/../b") = .ok ["b"] := by
    rw [Sample.makeDirectories_shelf]
    exact Sample.enter_shelf
  refine stuck_of_blocked Sample.rooted_shelf ?_ entered ?_ target files'
  · rw [hash]
    exact ⟨by decide, by decide⟩
  · rw [hash, Sample.shelf_eq, fileOf, show ContentHash.key "z" = "z" from ContentHash.key_of_toList rfl]
    rfl

/-! A directory whose name is too long is missed as long as the directory above it is missing. -/

section Deep

variable {long : String} (named : IsName long) (beyond : Files.longestName < long.utf8ByteSize)
  (checked : Files.check (join "n" long) = .ok ())
include named

omit named in
include beyond in
theorem isTaken_long : Files.isTaken long = false := by
  rw [Bool.eq_false_iff]
  intro taken
  -- what is taken is short
  have short : long = "" ∨ long = "." ∨ long = ".." ∨ long = "/" := by
    simpa [Files.isTaken, Files.isDot, or_assoc] using taken
  rcases short with rfl | rfl | rfl | rfl <;> exact absurd beyond (by decide)

theorem waypoints_deep : Files.waypoints (join "n" long) = ["n", long] := by
  rw [Files.waypoints_join "n" named, show Files.lead "n" = ["n"] from Files.lead_eq_toList _]
  rfl

include checked

theorem enter_lead_deep (files : Files) :
    files.enter (Files.lead (join "n" long)) = files.enter ["n", long] := by
  have filled : join "n" long ≠ "" := by
    intro empty
    rw [empty] at checked
    cases checked
  rw [← Files.enter_waypoints files filled, waypoints_deep named]

include beyond

/-- The way to the directory is made up to there. -/
theorem makeDirectories_deep :
    (Files.empty.makeDirectories (join "n" long)).2 = Files.empty.set ["n"] .directory := by
  have untaken := isTaken_long beyond
  have divided : Files.divide ["n", long] = (["n"], long) := Files.divide_append ["n"] named.filled
  have chain : Files.chain (join "n" long) = [["n", long], ["n"]] := by
    have steps : ["n", long].filter (!Files.isDot ·) = ["n", long] := by
      simp only [Files.isTaken, Bool.or_eq_false_iff] at untaken
      simp [untaken.1.1]
      decide
    rw [Files.chain, waypoints_deep named]
    simp only [steps]
    rfl
  have before : Files.empty.ensureDirectory ["n", long] = .error .notFound := by
    rw [Files.ensureDirectory, Files.makeDirectory, divided]
    rfl
  have outer : Files.empty.ensureChain [["n"]] = (.ok (), Files.empty.set ["n"] .directory) := rfl
  have after : (Files.empty.set ["n"] .directory).ensureDirectory ["n", long] =
      .error .nameTooLong := by
    have entered : (Files.empty.set ["n"] .directory).enter ["n"] = .ok ["n"] := rfl
    rw [Files.ensureDirectory, Files.makeDirectory, divided]
    simp [entered, untaken, beyond, bind, Except.bind]
  have filled : (join "n" long).isEmpty = false := by
    rw [Bool.eq_false_iff]
    intro empty
    rw [String.isEmpty_iff.1 empty] at checked
    cases checked
  rw [Files.makeDirectories, filled, checked, chain]
  simp only [Files.ensureChain.eq_2 _ ["n", long], before, outer, after, Bool.false_eq_true, if_false]

theorem enter_deep :
    (Files.empty.makeDirectories (join "n" long)).2.enter (Files.lead (join "n" long)) =
      .error .nameTooLong := by
  have first : (Files.empty.set ["n"] .directory).follow [] ["n"] = .ok ["n"] := rfl
  have there : (Files.empty.set ["n"] .directory).node? ["n"] = some .directory := rfl
  have untaken := isTaken_long beyond
  simp only [Files.isTaken, Bool.or_eq_false_iff, beq_eq_false_iff_ne] at untaken
  rw [makeDirectories_deep named beyond checked, enter_lead_deep named checked, Files.enter,
    show ["n", long] ++ [""] = ["n"] ++ [long, ""] from rfl, Files.follow_append, first]
  simp [Except.bind, Files.follow, there, untaken, beyond]

theorem list_deep :
    list Files.empty (join "n" long) = .ok [] ∧
      list (Files.empty.makeDirectories (join "n" long)).2 (join "n" long) =
        .error (.io (join "n" long) .nameTooLong) := by
  have filled : join "n" long ≠ "" := by
    intro empty
    rw [empty] at checked
    cases checked
  constructor
  · rw [list_eq _ _ filled, checked, enter_lead_deep named checked]
    rfl
  · rw [list_eq _ _ filled, checked, enter_deep named beyond checked]
    rfl

end Deep

theorem Sample.beyond_long : Files.longestName < Sample.long.utf8ByteSize := by
  rw [Sample.long, Sample.utf8ByteSize_run]
  decide

theorem Sample.check_deep : Files.check (join "n" Sample.long) = .ok () := by
  rw [Path.join_eq _ Sample.isName_long, Sample.long, ← String.append_empty (s := Sample.run 256),
    show Path.below "n" = "n/" from Path.join_eq_toList _ _]
  exact Sample.check_run (by decide) (by decide) (by decide)

/-- A directory is in the way of `z`. It fails to be published, but `a` was made, and shows `x`. A name that
is too long fails to be published, but its directory was made, and refuses it from then on. So does what
was made of the way to a directory whose own name is too long. -/
theorem failed_publishing_can_show_descriptors :
    (∃ error files', publish "a/../b" (Sample.session 2 "z") Sample.shelf = .error error files' ∧
      find Sample.shelf "a/../b" "x" = .error (.notFound "a/../b/x.json") ∧
      find files' "a/../b" "x" = .ok (Sample.session 1 "x")) ∧
    (∃ error files', publish "../s" (Sample.session 2 Sample.long) Files.empty = .error error files' ∧
      find Files.empty "../s" Sample.long = .error (.notFound (path "../s" Sample.long)) ∧
      find files' "../s" Sample.long = .error (.io (path "../s" Sample.long) .nameTooLong)) ∧
    ∃ error files', publish (join "n" Sample.long) (Sample.session 2 "y") Files.empty = .error error files' ∧
      list Files.empty (join "n" Sample.long) = .ok [] ∧
      list files' (join "n" Sample.long) = .error (.io (join "n" Sample.long) .nameTooLong) := by
  refine ⟨?_, ?_, ?_⟩
  · have named : IsName (Sample.session 2 "z").hash := ⟨by decide, by decide⟩
    obtain ⟨error, files', ran⟩ := fails_of_stuck (Sample.stuck_blocked (d := Sample.session 2 "z") rfl)
    have found := find_unpublished Sample.rooted_shelf named ran (show '/' ∉ "x".toList by decide)
    rw [Sample.makeDirectories_shelf] at found
    exact ⟨error, files', ran, Sample.find_before, found.trans Sample.find_after⟩
  · have named : IsName (Sample.session 2 Sample.long).hash := Sample.isName_long
    obtain ⟨error, files', ran⟩ := fails_of_stuck (stuck_of_long .empty named Sample.beyond_fileOf_long)
    have found := find_unpublished .empty named ran named.undivided
    rw [Sample.makeDirectories_beside] at found
    exact ⟨error, files', ran, Sample.find_long_beside.1, found.trans Sample.find_long_beside.2⟩
  · have named : IsName (Sample.session 2 "y").hash := ⟨by decide, by decide⟩
    obtain ⟨before, after⟩ := list_deep Sample.isName_long Sample.beyond_long Sample.check_deep
    obtain ⟨error, files', ran⟩ := fails_of_stuck
      (stuck_of_unentered .empty named (enter_deep Sample.isName_long Sample.beyond_long Sample.check_deep))
    exact ⟨error, files', ran, before, (list_unpublished .empty named ran).trans after⟩

end Descriptor

end Tandem
