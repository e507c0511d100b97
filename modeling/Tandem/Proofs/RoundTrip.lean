import Tandem.Host.Image
import Tandem.Proofs.Session.Directory

/-! # Decoding undoes encoding

Documents, images and descriptors come back from their texts as they were.

* `Decoder.Undoes` says that a decoder undoes the way in which a type is written. It holds of words
  and strings, goes on from a type to the lists of it, and holds of a record when it holds of the
  record's fields.
* A field that is left out when it has no value is `Record.named_present`: whether it stands there
  or not, the record ends up with its value. -/

namespace Tandem

/-! ## Fields that may be left out -/

namespace Json

theorem readingFields_append (tail : Tail) (front back : List (String × Json)) :
    readingFields tail (front ++ back) = readingFields tail front ++ readingFields tail back := by
  induction front with
  | nil => rfl
  | cons field front ih => simp only [List.cons_append, readingFields, ih]

theorem plainFields_append {front back : List (String × Json)} :
    PlainFields (front ++ back) ↔ PlainFields front ∧ PlainFields back := by
  induction front with
  | nil => simp [PlainFields]
  | cons field front ih => simp only [List.cons_append, PlainFields, ih, and_assoc]

theorem plainFields_present (name : String) (s : Option String) :
    PlainFields (present name .string s) := by
  cases s <;> simp [present, PlainFields, Plain]

theorem plainItems_map {α : Type} {write : α → Json} (plain : ∀ a, (write a).Plain) (as : List α) :
    PlainItems (as.map write) := by
  induction as with
  | nil => trivial
  | cons a as ih => exact ⟨plain a, ih⟩

end Json

/-- A text that is written only when there is one is taken as it is, or stays away. -/
theorem Record.named_present {α : Type} {r : Record α} {tail : Tail} {seen : List String} {a : α}
    {key name : String} {set : Option String → α → α} {aliases : List String}
    {rest : List (Option String × Reading)} {s : Option String}
    (found : r.fields.find? (·.answersTo key) =
      some (Field.of .defaulted name (.optional .string) set aliases))
    (fresh : seen.contains name = false) (absent : set none a = a) :
    r.named tail (Json.readingFields tail (Json.present key .string s) ++ rest) seen a =
      r.named tail rest ((s.map fun _ => name).toList ++ seen) (set s a) := by
  cases s with
  | none => rw [absent]; rfl
  | some s => exact Record.named_cons found fresh rfl

/-! ## Decoders that undo writing -/

/-- Every value is written plainly, and the decoder makes the value of what was written. -/
structure Decoder.Undoes {α : Type} (decode : Decoder α) (write : α → Json) : Prop where
  plain : ∀ a, (write a).Plain
  reads : ∀ a, decode ((write a).reading .closed) = .ok a

namespace Decoder.Undoes

variable {α : Type} {decode : Decoder α} {write : α → Json}

theorem word : Decoder.word.Undoes Json.word := ⟨Json.plain_word, wordNamed_word _ _⟩

theorem items (undoes : decode.Undoes write) (as : List α) :
    Decoder.items decode (Json.readingItems .closed (as.map write)) = .ok as := by
  induction as with
  | nil => rfl
  | cons a as ih =>
    simp only [List.map_cons, Json.readingItems, Decoder.items, undoes.reads a, ih]
    rfl

theorem list (undoes : decode.Undoes write) :
    (Decoder.list decode).Undoes fun as => .array (as.map write) where
  plain := Json.plainItems_map undoes.plain
  reads as := by
    simp only [Json.reading, Decoder.list, undoes.items as]
    rfl

/-- A decoder undoes writing on one line and writing over several. -/
theorem ofText (undoes : decode.Undoes write) {a : α} {text : String}
    (written : text = (write a).compact ∨ text = (write a).pretty) :
    decode.ofText (Text.Symbol.ofBytes text.toUTF8) = .ok a := by
  rw [Text.Symbol.ofBytes_toUTF8]
  rcases written with rfl | rfl
  · rw [ofText_of_ofSymbols (Json.ofSymbols_compact (undoes.plain a)), undoes.reads]
  · rw [ofText_of_ofSymbols (Json.ofSymbols_pretty (undoes.plain a)), undoes.reads]

end Decoder.Undoes

/-! ## Match documents -/

theorem Block.undoes : Block.record.decode.Undoes Block.toJson where
  plain b := ⟨Json.plain_word _, Json.plain_word _, trivial⟩
  reads b := by
    rw [toJson, Record.decode_object]
    simp only [Json.readingFields]
    rw [Record.named_cons rfl rfl (Field.of_read (Decoder.Undoes.word.reads b.start)),
      Record.named_cons rfl rfl (Field.of_read (Decoder.Undoes.word.reads b.stop)),
      Record.named_nil (by decide) rfl]

namespace FunctionMatch

theorem undoes_pair : pairRecord.decode.Undoes pairToJson where
  plain p := ⟨Json.plain_word _, Json.plain_word _, Json.plain_word _, Json.plain_word _, trivial⟩
  reads p := by
    have word := Decoder.Undoes.word.reads
    rw [pairToJson, Record.decode_object]
    simp only [Json.readingFields]
    rw [Record.named_cons rfl rfl (Field.of_read (word p.source.start)),
      Record.named_cons rfl rfl (Field.of_read (word p.source.stop)),
      Record.named_cons rfl rfl (Field.of_read (word p.target.start)),
      Record.named_cons rfl rfl (Field.of_read (word p.target.stop)),
      Record.named_nil (by decide) rfl]

theorem undoes_unidentified : unidentifiedRecord.decode.Undoes unidentifiedToJson where
  plain u := ⟨Block.undoes.list.plain u.source, Block.undoes.list.plain u.target, trivial⟩
  reads u := by
    rw [unidentifiedToJson, Record.decode_object]
    simp only [Json.readingFields]
    rw [Record.named_cons rfl rfl (Field.of_read (Block.undoes.list.reads u.source)),
      Record.named_cons rfl rfl (Field.of_read (Block.undoes.list.reads u.target)),
      Record.named_nil (by decide) rfl]

theorem undoes : record.decode.Undoes toJson where
  plain m := by
    have pairs := undoes_pair.list.plain m.pairs
    have unidentified := undoes_unidentified.plain m.unidentified
    simp only [toJson, Json.Plain, Json.plainFields_append]
    exact ⟨⟨⟨⟨Json.plain_word _, Json.plain_word _, trivial⟩, Json.plainFields_present _ _⟩,
      Json.plainFields_present _ _⟩, pairs, unidentified, trivial⟩
  reads m := by
    have word := Decoder.Undoes.word.reads
    have pairs := undoes_pair.list.reads m.pairs
    have unidentified := undoes_unidentified.reads m.unidentified
    rw [toJson, Record.decode_object]
    simp only [Json.readingFields_append, List.append_assoc, Json.readingFields, List.cons_append,
      List.nil_append]
    -- which fields were seen so far depends on which of the names are there
    rw [Record.named_cons rfl rfl (Field.of_read (word m.address.source)),
      Record.named_cons rfl rfl (Field.of_read (word m.address.target)),
      Record.named_present rfl rfl rfl,
      Record.named_present rfl (by cases m.name.source <;> rfl) rfl,
      Record.named_cons rfl (by cases m.name.source <;> cases m.name.target <;> rfl)
        (Field.of_read pairs),
      Record.named_cons rfl (by cases m.name.source <;> cases m.name.target <;> rfl)
        (Field.of_read unidentified),
      Record.named_nil (by decide) (by cases m.name.source <;> cases m.name.target <;> rfl)]

end FunctionMatch

namespace MatchDocument

theorem undoes : record.decode.Undoes toJson where
  plain document := by
    have functions := FunctionMatch.undoes.list.plain document.functions
    simp only [toJson, Json.Plain, Json.plainFields_append]
    exact ⟨⟨Json.plainFields_present _ _, Json.plainFields_present _ _⟩, functions, trivial⟩
  reads document := by
    have functions := FunctionMatch.undoes.list.reads document.functions
    rw [toJson, Record.decode_object]
    simp only [Json.readingFields_append, List.append_assoc, Json.readingFields]
    rw [Record.named_present rfl rfl rfl,
      Record.named_present rfl (by cases document.hash.source <;> rfl) rfl,
      Record.named_cons rfl (by cases document.hash.source <;> cases document.hash.target <;> rfl)
        (Field.of_read functions),
      Record.named_nil (by decide)
        (by cases document.hash.source <;> cases document.hash.target <;> rfl)]

/-- What becomes of the text of a document is what the check of the document says. -/
theorem ofBytes_written {document : MatchDocument} {text : String}
    (written : text = document.toJson.compact ∨ text = document.toJson.pretty) :
    ofBytes text.toUTF8 = document.validate.map fun _ => document := by
  rw [ofBytes, undoes.ofText written]
  cases checked : document.validate <;> simp only [checked] <;> rfl

/-- A document as a file holds it. -/
def bytes (document : MatchDocument) : ByteArray := document.toJson.compact.toUTF8

theorem ofBytes_bytes {document : MatchDocument} (valid : document.validate = .ok ()) :
    ofBytes document.bytes = .ok document := by
  rw [bytes, ofBytes_written (.inl rfl), valid]
  rfl

end MatchDocument

/-! ## Images -/

theorem Item.undoes : Item.record.decode.Undoes Item.toJson where
  plain i := ⟨Json.plain_word _, Json.plain_word _, trivial⟩
  reads i := by
    rw [toJson, Record.decode_object]
    simp only [Json.readingFields]
    rw [Record.named_cons rfl rfl (Field.of_read (Decoder.Undoes.word.reads i.address)),
      Record.named_cons rfl rfl (Field.of_read (Decoder.Undoes.word.reads i.size)),
      Record.named_nil (by decide) rfl]

namespace Function

/-- The blocks of a function have another name in messages, and are read like all blocks. -/
theorem undoes_block : blockRecord.decode.Undoes Block.toJson :=
  ⟨Block.undoes.plain, Block.undoes.reads⟩

theorem undoes : record.decode.Undoes toJson where
  plain f := ⟨Json.plain_word _, trivial, undoes_block.list.plain f.blocks, trivial⟩
  reads f := by
    rw [toJson, Record.decode_object]
    simp only [Json.readingFields]
    rw [Record.named_cons rfl rfl (Field.of_read (Decoder.Undoes.word.reads f.address)),
      Record.named_cons rfl rfl rfl,
      Record.named_cons rfl rfl (Field.of_read (undoes_block.list.reads f.blocks)),
      Record.named_nil (by decide) rfl]

end Function

theorem Image.undoes : Image.record.decode.Undoes Image.toJson where
  plain i := ⟨trivial, trivial, trivial, Json.plain_word _, Json.plain_word _, Json.plain_word _,
    Item.undoes.list.plain i.items, Function.undoes.list.plain i.functions, trivial⟩
  reads i := by
    have word := Decoder.Undoes.word.reads
    rw [toJson, Record.decode_object]
    simp only [Json.readingFields]
    rw [Record.named_cons rfl rfl rfl, Record.named_cons rfl rfl rfl, Record.named_cons rfl rfl rfl,
      Record.named_cons rfl rfl (Field.of_read (word i.base)),
      Record.named_cons rfl rfl (Field.of_read (word i.size)),
      Record.named_cons rfl rfl (Field.of_read (word i.defaultItemSize)),
      Record.named_cons rfl rfl (Field.of_read (Item.undoes.list.reads i.items)),
      Record.named_cons rfl rfl (Field.of_read (Function.undoes.list.reads i.functions)),
      Record.named_nil (by decide) rfl]

/-! ## Texts -/

/-- The file of a descriptor is read as the descriptor. -/
theorem Descriptor.read_text {files : Files} {path : String} {d : Descriptor}
    (reads : files.read path = .ok d.text.toUTF8) : Descriptor.read files path = .ok d :=
  read_eq_ok.2 ⟨_, d.text, reads, Text.fromUTF8?_toUTF8 _, d.ofText_text⟩

/-- Whatever a document, an image or a descriptor holds, its text is decoded to just that. A document
that is loaded from its text is loaded or refused as its check says. -/
theorem decoding_undoes_encoding :
    (∀ (document : MatchDocument) (text : String),
      text = document.toJson.compact ∨ text = document.toJson.pretty →
        Decoder.ofText MatchDocument.record.decode (Text.Symbol.ofBytes text.toUTF8) = .ok document ∧
        (MatchDocument.ofBytes text.toUTF8 = .ok document ↔ document.validate = .ok ()) ∧
        ∀ error, document.validate = .error error →
          MatchDocument.ofBytes text.toUTF8 = .error error) ∧
    (∀ (image : Image) (text : String),
      text = image.toJson.compact ∨ text = image.toJson.pretty →
        Image.ofBytes text.toUTF8 = .ok image) ∧
    ∀ (d : Descriptor) (files : Files) (path : String),
      files.read path = .ok d.text.toUTF8 → Descriptor.read files path = .ok d := by
  refine ⟨fun document text written => ⟨MatchDocument.undoes.ofText written, ?_, ?_⟩, ?_, ?_⟩
  · rw [MatchDocument.ofBytes_written written]
    cases document.validate <;> simp [Except.map]
  · intro error refused
    rw [MatchDocument.ofBytes_written written, refused]
    rfl
  · intro image text written
    exact Image.undoes.ofText written
  · intro d files path reads
    exact Descriptor.read_text reads

namespace Sample

/-- A document with a name that needs escapes, and a block that ends before it starts. -/
def crooked : MatchDocument where
  hash := ⟨some "0a\"\\", none⟩
  functions := [
    ⟨⟨0xFFFFFFFFFFFFFFFF, 0⟩, ⟨none, some "\x01\t😀"⟩, [⟨⟨0, 4⟩, ⟨0, 4⟩⟩], ⟨[], [⟨8, 6⟩]⟩⟩]

/-- An image with a function that has no blocks. -/
def sparse : Image := ⟨"", "a/b", "\n", 0, 0, 0xFFFFFFFFFFFFFFFF, [⟨1, 0⟩], [⟨2, "é", []⟩]⟩

/-- The descriptor of a session without a name. -/
def unnamed : Descriptor := ⟨65535, "Ab", "\x7f", ""⟩

end Sample

/-- The document is decoded as it was written, and then refused for its block. -/
theorem crooked_text_is_refused :
    MatchDocument.ofBytes Sample.crooked.toJson.pretty.toUTF8 = .error (.inverted 0 .target ⟨8, 6⟩) ∧
    Image.ofBytes Sample.sparse.toJson.compact.toUTF8 = .ok Sample.sparse ∧
    Descriptor.read (Files.empty.set ["x"] (.file Sample.unnamed.text.toUTF8)) "x" =
      .ok Sample.unnamed := by
  obtain ⟨documents, images, descriptors⟩ := decoding_undoes_encoding
  have refused : Sample.crooked.validate = .error (.inverted 0 .target ⟨8, 6⟩) := by cbv
  have found (content : ByteArray) :
      (Files.empty.set ["x"] (.file content)).read "x" = .ok content := by
    refine Files.read_set (by simp [Files.node?, Files.empty, Place.isGiven]) ?_
    rw [Files.find, Files.waypoints_eq_toList]
    rfl
  exact ⟨(documents _ _ (.inr rfl)).2.2 _ refused, images _ _ (.inl rfl), descriptors _ _ _ (found _)⟩

end Tandem
