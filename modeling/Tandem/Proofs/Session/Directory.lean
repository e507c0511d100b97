import Tandem.Proofs.ContentHash
import Tandem.Proofs.Directories
import Tandem.Proofs.Json.Decode
import Tandem.Proofs.Sequences
import Tandem.Session.Directory

/-! # The descriptor directory

A descriptor has a file of its own, which is named by its key, and a draft that is written first. What
`publish` can do is stated once (`Descriptor.publish_outcome`), each outcome with the files that it
leaves. -/

namespace Tandem.Descriptor

open Tandem.Path (IsName)

/-! ## Descriptors as text -/

theorem plain_toJson (d : Descriptor) : d.toJson.Plain := by
  have small := d.port.toNat_lt
  simp only [toJson, Json.Plain, Json.PlainFields, Json.nat, Json.Number.Fits, and_true, UInt64.size]
  omega

theorem decode_toJson (d : Descriptor) : record.decode (d.toJson.reading .closed) = .ok d := by
  simp only [toJson, Json.reading, Json.readingFields, Record.decode]
  rw [Record.named_cons rfl rfl (Field.of_read (Decoder.word16_nat .closed d.port)),
    Record.named_cons rfl rfl rfl,
    Record.named_cons rfl rfl rfl,
    Record.named_cons rfl rfl rfl,
    Record.named_nil (by decide) rfl]

theorem ofText_text (d : Descriptor) : ofText d.text = .ok d := by
  rw [ofText, text, Decoder.ofText_of_ofSymbols (Json.ofSymbols_pretty d.plain_toJson)]
  exact d.decode_toJson

/-! ## Names -/

/-- The name of a descriptor's file. -/
def fileOf (hash : String) : String := ContentHash.key hash ++ ".json"

/-- The name of the file that a descriptor is written to first. -/
def draftOf (hash : String) : String :=
  if ContentHash.key hash = "." then ".." else ContentHash.key hash ++ ".json.tmp"

theorem isName_fileOf {hash : String} (undivided : '/' ∉ hash.toList) : IsName (fileOf hash) :=
  ⟨by simp [fileOf], by simp [fileOf, ContentHash.undivided_key undivided]⟩

theorem isName_draftOf {hash : String} (named : IsName hash) : IsName (draftOf hash) := by
  unfold draftOf
  split
  · exact ⟨by decide, by decide⟩
  · exact ⟨by simp, by simp [(ContentHash.isName_key named).undivided]⟩

theorem isTaken_fileOf {hash : String} (undivided : '/' ∉ hash.toList) :
    Files.isTaken (fileOf hash) = false := by
  have proper := Path.isRelative_eq_false (show 'j' ∈ (fileOf hash).toList by simp [fileOf]) (by decide)
  have root : fileOf hash ≠ "/" := by
    intro same
    exact (isName_fileOf undivided).undivided (by rw [same]; decide)
  simp only [Path.isRelative, Bool.or_eq_false_iff] at proper
  simp [Files.isTaken, Files.isDot, proper, root]

theorem fileOf_ne_draftOf (hash other : String) : fileOf hash ≠ draftOf other := by
  have last : (fileOf hash).toList.getLast? = some 'n' := by simp [fileOf]
  intro same
  rw [same, draftOf] at last
  split at last
  · exact absurd last (by decide)
  · simp at last

/-- Different keys stand for different files, and a draft is no descriptor. -/
theorem fileOf_not_mem {hash other : String} (apart : ContentHash.key hash ≠ ContentHash.key other) :
    fileOf hash ∉ [fileOf other, draftOf other] := by
  rw [List.mem_cons, List.mem_singleton]
  rintro (same | same)
  · exact apart ((String.append_left_inj ".json").1 same)
  · exact fileOf_ne_draftOf hash other same

theorem path_eq (dir hash : String) : path dir hash = Path.join dir (fileOf hash) := rfl

theorem path_congr (dir : String) {hash other : String} (agrees : ContentHash.agree hash other = true) :
    path dir hash = path dir other := by
  rw [path, path, ContentHash.agree_iff.1 agrees]

theorem draftPath_eq (dir : String) {hash : String} (named : IsName hash) :
    draftPath (path dir hash) = Path.join dir (draftOf hash) := by
  have key := ContentHash.isName_key named
  have split : fileOf hash = ContentHash.key hash ++ "." ++ "json" := by
    rw [fileOf, String.append_assoc]
    rfl
  rw [path_eq, draftPath, Path.join_eq dir (isName_fileOf named.undivided),
    Path.join_eq dir (isName_draftOf named), split,
    Path.withExtension_append dir key.filled key.undivided (by decide) (by decide) (by decide),
    String.append_assoc]
  rfl

/-! ## Reading -/

theorem read_eq_ok {files : Files} {path : String} {d : Descriptor} :
    read files path = .ok d ↔
      ∃ content text, files.read path = .ok content ∧ String.fromUTF8? content = some text ∧
        ofText text = .ok d := by
  cases reads : files.read path with
  | error error => cases error <;> simp [read, Files.readText, reads, bind, Except.bind]
  | ok content =>
    cases decoded : String.fromUTF8? content with
    | none => simp [read, Files.readText, reads, decoded, bind, Except.bind]
    | some text =>
      cases parsed : ofText text <;>
        simp [read, Files.readText, reads, decoded, parsed, bind, Except.bind, pure, Except.pure]

/-- A descriptor stays while nothing happens to its file. -/
theorem read_keeps {names : List String} {files files' : Files} (keeps : files.KeepsExcept names files')
    {dir hash : String} (named : IsName hash) (spared : fileOf hash ∉ names) {d : Descriptor}
    (reads : read files (path dir hash) = .ok d) : read files' (path dir hash) = .ok d := by
  obtain ⟨content, text, found, decoded, parsed⟩ := read_eq_ok.1 reads
  exact read_eq_ok.2 ⟨content, text,
    keeps.read (isName_fileOf named.undivided) (isTaken_fileOf named.undivided) spared found,
    decoded, parsed⟩

theorem find_of_read {files : Files} {dir hash : String} {d : Descriptor}
    (reads : read files (path dir hash) = .ok d) (agrees : ContentHash.agree d.hash hash = true) :
    find files dir hash = .ok d := by
  simp [find, reads, agrees, bind, Except.bind, pure, Except.pure]

/-! ## Publishing -/

variable {files files' : Files} {dir target : String} {d : Descriptor}

/-- What becomes of a descriptor that is published: its directory could not be made, it was there
already, it could not be written, it could not be moved to its path, or it was. -/
inductive Outcome (dir : String) (d : Descriptor) (files : Files) :
    EStateM.Result DescriptorError Files String → Prop where
  | unmade {error : FileError} (failed : (files.makeDirectories dir).1 = .error error) :
      Outcome dir d files (.error (.io dir error) (files.makeDirectories dir).2)
  | present (reads : read (files.makeDirectories dir).2 (path dir d.hash) = .ok d) :
      Outcome dir d files (.ok (path dir d.hash) (files.makeDirectories dir).2)
  | unwritten {error : FileError}
      (differs : read (files.makeDirectories dir).2 (path dir d.hash) ≠ .ok d)
      (failed : (files.makeDirectories dir).2.write (draftPath (path dir d.hash)) d.text.toUTF8 =
        .error error) :
      Outcome dir d files
        (.error (.io (draftPath (path dir d.hash)) error) (files.makeDirectories dir).2)
  | unmoved {error : FileError} {written : Files}
      (differs : read (files.makeDirectories dir).2 (path dir d.hash) ≠ .ok d)
      (writes : (files.makeDirectories dir).2.write (draftPath (path dir d.hash)) d.text.toUTF8 =
        .ok written)
      (failed : written.rename (draftPath (path dir d.hash)) (path dir d.hash) = .error error) :
      Outcome dir d files (.error (.io (path dir d.hash) error) written)
  | moved {written files' : Files}
      (differs : read (files.makeDirectories dir).2 (path dir d.hash) ≠ .ok d)
      (writes : (files.makeDirectories dir).2.write (draftPath (path dir d.hash)) d.text.toUTF8 =
        .ok written)
      (renames : written.rename (draftPath (path dir d.hash)) (path dir d.hash) = .ok files') :
      Outcome dir d files (.ok (path dir d.hash) files')

theorem set_bind {α : Type} (f : PUnit → Filing α) (files files' : Files) :
    (set files' >>= f) files = f ⟨⟩ files' := rfl

theorem filing_eq (path : String) (change : Files → Except FileError Files) (files : Files) :
    filing path change files =
      match change files with
      | .ok files' => .ok () files'
      | .error error => .error (.io path error) files := by
  rw [filing, get_bind]
  cases change files <;> rfl

theorem settleIn_eq (dir : String) (files : Files) :
    settleIn dir files =
      match (files.makeDirectories dir).1 with
      | .ok () => .ok () (files.makeDirectories dir).2
      | .error error => .error (.io dir error) (files.makeDirectories dir).2 := by
  simp only [settleIn, get_bind, set_bind]
  cases (files.makeDirectories dir).1 <;> rfl

theorem replace_eq (path : String) (d : Descriptor) (files : Files) :
    replace path d files =
      match files.write (draftPath path) d.text.toUTF8 with
      | .error error => .error (.io (draftPath path) error) files
      | .ok written =>
        match written.rename (draftPath path) path with
        | .error error => .error (.io path error) written
        | .ok moved => .ok () moved := by
  simp only [replace, bind, EStateM.bind, filing_eq]
  cases files.write (draftPath path) d.text.toUTF8 with
  | error error => rfl
  | ok written =>
    simp only
    cases written.rename (draftPath path) path <;> rfl

/-- A descriptor that is not there yet is written. -/
theorem publish_of_settled (settled : settleIn dir files = .ok () files')
    (differs : read files' (path dir d.hash) ≠ .ok d) :
    publish dir d files =
      match replace (path dir d.hash) d files' with
      | .ok () replaced => .ok (path dir d.hash) replaced
      | .error error failed => .error error failed := by
  have written : publish dir d files =
      (replace (path dir d.hash) d >>= fun _ => pure (path dir d.hash)) files' := by
    simp only [publish, bind_of_ok settled, get_bind]
    cases there : read files' (path dir d.hash) with
    | error error => rfl
    | ok existing =>
      have other : existing ≠ d := fun same => differs (by rw [there, same])
      simp only [other, if_false]
  rw [written]
  cases ran : replace (path dir d.hash) d files' with
  | ok _ replaced => rw [bind_of_ok ran]; rfl
  | error error failed => rw [bind_of_error ran]

theorem publish_outcome (dir : String) (d : Descriptor) (files : Files) :
    Outcome dir d files (publish dir d files) := by
  have settled := settleIn_eq dir files
  cases outcome : (files.makeDirectories dir).1 with
  | error error =>
    rw [outcome] at settled
    have stopped : publish dir d files = .error (.io dir error) (files.makeDirectories dir).2 := by
      rw [publish, bind_of_error settled]
    rw [stopped]
    exact .unmade outcome
  | ok _ =>
    rw [outcome] at settled
    by_cases reads : read (files.makeDirectories dir).2 (path dir d.hash) = .ok d
    · have kept : publish dir d files = .ok (path dir d.hash) (files.makeDirectories dir).2 := by
        simp only [publish, bind_of_ok settled, get_bind, reads, if_true]
        rfl
      rw [kept]
      exact .present reads
    · rw [publish_of_settled settled reads, replace_eq]
      cases writes : (files.makeDirectories dir).2.write (draftPath (path dir d.hash)) d.text.toUTF8 with
      | error error => exact .unwritten reads writes
      | ok written =>
        simp only
        cases renames : written.rename (draftPath (path dir d.hash)) (path dir d.hash) with
        | error error => exact .unmoved reads writes renames
        | ok moved => exact .moved reads writes renames

/-- A descriptor that was written can be read, and other files are as they were. -/
theorem read_of_moved {written : Files} (named : IsName d.hash)
    (writes : files.write (draftPath (path dir d.hash)) d.text.toUTF8 = .ok written)
    (renames : written.rename (draftPath (path dir d.hash)) (path dir d.hash) = .ok files') :
    read files' (path dir d.hash) = .ok d ∧
      files.KeepsExcept [fileOf d.hash, draftOf d.hash] files' := by
  rw [draftPath_eq dir named, path_eq] at renames
  rw [draftPath_eq dir named] at writes
  -- the draft is written next to where the descriptor goes
  obtain ⟨parent, leads, free, rfl⟩ := Files.write_join (isName_draftOf named) writes
  have draftKept : files.KeepsExcept [fileOf d.hash, draftOf d.hash] _ :=
    .set_file free List.getLast?_concat (by simp) d.text.toUTF8
  have drafted := Files.node?_set_self free (.file d.text.toUTF8)
  have found := (Files.find_join _ dir (isName_draftOf named) leads.untaken).2
    ⟨parent, draftKept.leads leads, rfl⟩
  -- and then moved there
  obtain ⟨there, aimed, vacant, rfl⟩ := Files.rename_file found drafted renames
  obtain ⟨parent', leads', rfl⟩ :=
    (Files.find_join _ dir (isName_fileOf named.undivided) (isTaken_fileOf named.undivided)).1 aimed
  have erased : Files.KeepsExcept [fileOf d.hash, draftOf d.hash] _ _ :=
    .erase_file (by rw [drafted]; exact nofun) List.getLast?_concat (by simp)
  have vacant' := Files.node?_erase_ne (parent ++ [draftOf d.hash]) vacant
  have moved : Files.KeepsExcept [fileOf d.hash, draftOf d.hash] _ _ :=
    .set_file vacant' List.getLast?_concat (by simp) d.text.toUTF8
  have kept := (draftKept.trans erased).trans moved
  have leads'' := (erased.trans moved).leads leads'
  have placed := Files.node?_set_self vacant' (.file d.text.toUTF8)
  have reads := (Files.read_join (isName_fileOf named.undivided) leads'').2 placed
  exact ⟨read_eq_ok.2 ⟨_, d.text, reads, Text.fromUTF8?_toUTF8 _, d.ofText_text⟩, kept⟩

/-- A published descriptor can be read, and other files are as they were. -/
theorem publish_ok (named : IsName d.hash) (published : publish dir d files = .ok target files') :
    read files' (path dir d.hash) = .ok d ∧
      files.KeepsExcept [fileOf d.hash, draftOf d.hash] files' := by
  have made : files.KeepsExcept [fileOf d.hash, draftOf d.hash] (files.makeDirectories dir).2 :=
    (Files.makeDirectories_grows files dir).keeps.mono (List.nil_subset _)
  have outcome := publish_outcome dir d files
  rw [published] at outcome
  cases outcome with
  | present reads => exact ⟨reads, made⟩
  | moved _ writes renames =>
    obtain ⟨reads, kept⟩ := read_of_moved named writes renames
    exact ⟨reads, made.trans kept⟩

end Tandem.Descriptor
