import Tandem.Host.Image

/-! # Session identities

Who a session is, and the descriptor with which it lets itself be found. -/

namespace Tandem

/-- The record that a session leaves for others to reach it. -/
structure Descriptor where
  port : UInt16
  hash : String
  rootFilename : String
  inputFilename : String
  deriving DecidableEq, Repr

/-- Who a session is. This does not change while it runs. -/
structure SessionIdentity where
  hash : String
  rootFilename : String
  inputPath : String
  port : UInt16
  deriving DecidableEq, Repr

namespace Descriptor

def record : Record Descriptor where
  name := "struct ConnectionDescriptor"
  blank := ⟨0, "", "", ""⟩
  fields := [
    .required "port" .word16 fun n d => { d with port := n },
    .required "content_hash" .string (fun s d => { d with hash := s }) ["md5"],
    .required "root_filename" .string (fun s d => { d with rootFilename := s }) ["root_fileanem"],
    .defaulted "input_filename" .string fun s d => { d with inputFilename := s }]

def toJson (d : Descriptor) : Json :=
  .object [("port", .nat d.port.toNat), ("content_hash", .string d.hash),
    ("root_filename", .string d.rootFilename), ("input_filename", .string d.inputFilename)]

end Descriptor

namespace SessionIdentity

/-- The identity of a session that looks at an image and listens on a port. -/
def of (host : HostIdentity) (port : UInt16) : SessionIdentity :=
  ⟨host.hash, host.rootFilename, host.inputPath, port⟩

/-- The descriptor of a session. -/
def descriptor (i : SessionIdentity) : Descriptor :=
  ⟨i.port, i.hash, i.rootFilename, i.inputPath⟩

def record : Record SessionIdentity where
  name := "struct SessionIdentity"
  blank := ⟨"", "", "", 0⟩
  fields := [
    .required "content_hash" .string fun s i => { i with hash := s },
    .required "root_filename" .string fun s i => { i with rootFilename := s },
    .required "input_file_path" .string fun s i => { i with inputPath := s },
    .required "rpc_port" .word16 fun n i => { i with port := n }]

def toJson (i : SessionIdentity) : Json :=
  .object [("content_hash", .string i.hash), ("root_filename", .string i.rootFilename),
    ("input_file_path", .string i.inputPath), ("rpc_port", .nat i.port.toNat)]

end SessionIdentity

end Tandem
