import Tandem.Document.Codec
import Tandem.Host.Error

/-! # Images

The layout of an analysed image: where it is loaded, its functions with their blocks, and the sizes
of its items. -/

namespace Tandem

/-- An item with a size of its own, at an absolute address. -/
structure Item where
  address : Address
  size : UInt64
  deriving DecidableEq, Repr

/-- A function of an image, with its blocks at absolute addresses. -/
structure Function where
  address : Address
  name : String
  blocks : List Block
  deriving DecidableEq, Repr

/-- The layout of an image. -/
structure Image where
  hash : String
  rootFilename : String
  inputPath : String
  base : Address
  size : UInt64
  /-- The size of every item that has none of its own. -/
  defaultItemSize : UInt64
  items : List Item
  functions : List Function
  deriving DecidableEq, Repr

/-- A block of a function's flow chart. -/
structure FlowBlock where
  id : Nat
  start : Address
  stop : Address
  deriving DecidableEq, Repr

/-- The blocks of a function in the order of their ids. -/
structure FlowChart where
  function : Address
  blocks : List FlowBlock
  deriving DecidableEq, Repr

/-- What a session tells about the image that it looks at. -/
structure HostIdentity where
  hash : String
  rootFilename : String
  inputPath : String
  deriving DecidableEq, Repr

namespace Function

/-- Whether an address is the function's own or lies in one of its blocks. -/
def covers (f : Function) (a : Address) : Bool :=
  f.address == a || f.blocks.any fun b => b.start ≤ a && a < b.stop

end Function

namespace Image

/-- Whether an address lies in the image. -/
def contains (image : Image) (a : Address) : Bool :=
  image.base ≤ a && a - image.base < image.size

/-- The size of the item at an address. The last size given for an address counts. -/
def itemSize (image : Image) (a : Address) : UInt64 :=
  match image.items.reverse.find? (·.address == a) with
  | some item => item.size
  | none => image.defaultItemSize

/-- The name of the function that starts at an address. -/
def shortName? (image : Image) (a : Address) : Option String :=
  (image.functions.find? (·.address == a)).map (·.name)

/-- The first function that covers an address. -/
def functionAt? (image : Image) (a : Address) : Option Function :=
  image.functions.find? (·.covers a)

/-- The flow chart of a function. One without blocks has a single block, as long as a default item,
and panics when that block would end beyond the greatest address. -/
def chartOf (image : Image) (f : Function) : Except Stop FlowChart :=
  if f.blocks.isEmpty then
    let stop := f.address.toNat + image.defaultItemSize.toNat
    if stop ≤ Address.greatest then .ok ⟨f.address, [⟨0, f.address, stop.toUInt64⟩]⟩
    else .error .overflow
  else .ok ⟨f.address, f.blocks.mapIdx fun id b => ⟨id, b.start, b.stop⟩⟩

/-- The flow chart of the function that covers an address. -/
def flowchart (image : Image) (a : Address) : Except Stop (Option FlowChart) :=
  match image.functionAt? a with
  | some f => (image.chartOf f).map some
  | none => .ok none

/-- What a session tells about the image. -/
def identity (image : Image) : HostIdentity :=
  ⟨ContentHash.key image.hash, image.rootFilename, image.inputPath⟩

end Image

/-! ## JSON -/

namespace Item

def record : Record Item where
  name := "struct FixtureItem"
  blank := ⟨0, 0⟩
  fields := [
    .required "address" .word fun a i => { i with address := a },
    .required "size" .word fun n i => { i with size := n }]

def toJson (i : Item) : Json := .object [("address", .word i.address), ("size", .word i.size)]

end Item

namespace Function

def blockRecord : Record Block := { Block.record with name := "struct FixtureBlock" }

def record : Record Function where
  name := "struct FixtureFunction"
  blank := ⟨0, "", []⟩
  fields := [
    .required "address" .word fun a f => { f with address := a },
    .required "name" .string fun s f => { f with name := s },
    .defaulted "blocks" (.list blockRecord.decode) fun bs f => { f with blocks := bs }]

def toJson (f : Function) : Json :=
  .object [("address", .word f.address), ("name", .string f.name),
    ("blocks", .array (f.blocks.map Block.toJson))]

end Function

namespace Image

def record : Record Image where
  name := "struct HostFixture"
  blank := ⟨"", "", "", 0, 0x1000000, 4, [], []⟩
  fields := [
    .required "content_hash" .string (fun s i => { i with hash := s }) ["md5"],
    .required "root_filename" .string fun s i => { i with rootFilename := s },
    .defaulted "input_file_path" .string fun s i => { i with inputPath := s },
    .required "image_base" .word fun a i => { i with base := a },
    .defaulted "image_size" .word fun n i => { i with size := n },
    .defaulted "default_item_size" .word fun n i => { i with defaultItemSize := n },
    .defaulted "items" (.list Item.record.decode) fun xs i => { i with items := xs },
    .defaulted "functions" (.list Function.record.decode) fun fs i => { i with functions := fs }]

def toJson (i : Image) : Json :=
  .object [("content_hash", .string i.hash), ("root_filename", .string i.rootFilename),
    ("input_file_path", .string i.inputPath), ("image_base", .word i.base),
    ("image_size", .word i.size), ("default_item_size", .word i.defaultItemSize),
    ("items", .array (i.items.map Item.toJson)),
    ("functions", .array (i.functions.map Function.toJson))]

/-- The image that a text of bytes describes. -/
def ofBytes (bytes : ByteArray) : Except DecodeError Image :=
  Decoder.ofText record.decode (Text.Symbol.ofBytes bytes)

/-- What an export of an image holds, its fields in the order of their names. -/
def exported (i : Image) : Json :=
  let block (b : Block) : Json := .object [("end", .word b.stop), ("start", .word b.start)]
  let function (f : Function) : Json :=
    .object [("address", .word f.address), ("blocks", .array (f.blocks.map block)),
      ("name", .string f.name)]
  .object [("content_hash", .string (ContentHash.key i.hash)),
    ("functions", .array (i.functions.map function)), ("image_base", .word i.base),
    ("root_filename", .string i.rootFilename)]

end Image

namespace FlowBlock

def record : Record FlowBlock where
  name := "struct FlowBlock"
  blank := ⟨0, 0, 0⟩
  fields := [
    .required "id" .count fun n b => { b with id := n.toNat },
    .required "start" .word fun a b => { b with start := a },
    .required "end" .word fun a b => { b with stop := a }]

def toJson (b : FlowBlock) : Json :=
  .object [("id", .nat b.id), ("start", .word b.start), ("end", .word b.stop)]

end FlowBlock

def FlowChart.toJson (c : FlowChart) : Json :=
  .object [("function_start", .word c.function), ("blocks", .array (c.blocks.map FlowBlock.toJson))]

def HostIdentity.toJson (i : HostIdentity) : Json :=
  .object [("content_hash", .string i.hash), ("root_filename", .string i.rootFilename),
    ("input_file_path", .string i.inputPath)]

end Tandem
