import Tandem.Document.Validity

/-! # Match documents as JSON

The JSON form of a document and of its parts, in both directions, and loading a valid document. -/

namespace Tandem

namespace Role

/-- The names of the sides. -/
def known : List (String × Role) := [("source", .source), ("target", .target)]

/-- A side by its name. -/
def decode : Decoder Role := Decoder.choice known

end Role

namespace Block

def record : Record Block where
  name := "struct Block"
  blank := ⟨0, 0⟩
  fields := [
    .required "start" .word fun a b => { b with start := a },
    .required "end" .word fun a b => { b with stop := a }]

def toJson (b : Block) : Json :=
  .object [("start", .word b.start), ("end", .word b.stop)]

end Block

namespace FunctionMatch

def pairRecord : Record (Sided Block) where
  name := "struct BlockMatchPair"
  blank := ⟨⟨0, 0⟩, ⟨0, 0⟩⟩
  fields := [
    .required "source" .word fun a p => { p with source.start := a },
    .required "source_end" .word fun a p => { p with source.stop := a },
    .required "target" .word fun a p => { p with target.start := a },
    .required "target_end" .word fun a p => { p with target.stop := a }]

def pairToJson (p : Sided Block) : Json :=
  .object [
    ("source", .word p.source.start), ("source_end", .word p.source.stop),
    ("target", .word p.target.start), ("target_end", .word p.target.stop)]

def unidentifiedRecord : Record (Sided (List Block)) where
  name := "struct UnidentifiedBlocks"
  blank := ⟨[], []⟩
  fields := [
    .defaulted "sources" (.list Block.record.decode) fun bs u => { u with source := bs },
    .defaulted "targets" (.list Block.record.decode) fun bs u => { u with target := bs }]

def unidentifiedToJson (u : Sided (List Block)) : Json :=
  .object [
    ("sources", .array (u.source.map Block.toJson)),
    ("targets", .array (u.target.map Block.toJson))]

def record : Record FunctionMatch where
  name := "struct FunctionMatch"
  blank := ⟨⟨0, 0⟩, ⟨none, none⟩, [], ⟨[], []⟩⟩
  fields := [
    .required "source" .word fun a m => { m with address.source := a },
    .required "target" .word fun a m => { m with address.target := a },
    .defaulted "source_name" (.optional .string) fun s m => { m with name.source := s },
    .defaulted "target_name" (.optional .string) fun s m => { m with name.target := s },
    .defaulted "matches" (.list pairRecord.decode) fun ps m => { m with pairs := ps },
    .defaulted "unidentified_blocks" unidentifiedRecord.decode fun u m =>
      { m with unidentified := u }]

def toJson (m : FunctionMatch) : Json :=
  .object (
    [("source", .word m.address.source), ("target", .word m.address.target)] ++
    Json.present "source_name" .string m.name.source ++
    Json.present "target_name" .string m.name.target ++
    [("matches", .array (m.pairs.map pairToJson)),
      ("unidentified_blocks", unidentifiedToJson m.unidentified)])

end FunctionMatch

namespace MatchDocument

def record : Record MatchDocument where
  name := "struct MatchDocument"
  blank := ⟨⟨none, none⟩, []⟩
  fields := [
    .defaulted "source_md5" (.optional .string) (fun s d => { d with hash.source := s })
      ["source_content_hash"],
    .defaulted "target_md5" (.optional .string) (fun s d => { d with hash.target := s })
      ["target_content_hash"],
    .required "function_matches" (.list FunctionMatch.record.decode) fun ms d =>
      { d with functions := ms }]

def toJson (document : MatchDocument) : Json :=
  .object (
    Json.present "source_md5" .string document.hash.source ++
    Json.present "target_md5" .string document.hash.target ++
    [("function_matches", .array (document.functions.map FunctionMatch.toJson))])

/-- The valid document that a text of bytes holds. -/
def ofBytes (bytes : ByteArray) : Except DocumentError MatchDocument :=
  match Decoder.ofText record.decode (Text.Symbol.ofBytes bytes) with
  | .error error => .error (.malformed error)
  | .ok document => do
    document.validate
    return document

/-- The valid document in a file. -/
def load (files : Files) (path : String) : Except DocumentError MatchDocument :=
  match files.read path with
  | .error error => .error (.unreadable path error)
  | .ok bytes => ofBytes bytes

end MatchDocument

end Tandem
