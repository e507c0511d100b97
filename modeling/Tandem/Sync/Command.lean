import Tandem.Address

/-! # Sync commands

What one session asks of another. -/

namespace Tandem

/-- A command for the session with a given content hash. -/
inductive SyncCommand where
  /-- Navigate to an offset. -/
  | jumpto (peer : String) (address : Address)
  deriving DecidableEq, Repr

namespace SyncCommand

/-- The hash of the session that a command is for. -/
def target : SyncCommand → String
  | .jumpto peer _ => peer

def jumptoRecord : Record SyncCommand where
  name := "struct variant SyncCommand::Jumpto"
  blank := .jumpto "" 0
  fields := [
    .required "target_content_hash" .string fun s c =>
      match c with
      | .jumpto _ address => .jumpto s address,
    .required "address" .word fun a c =>
      match c with
      | .jumpto peer _ => .jumpto peer a]

/-- A command told apart by the field `command`. -/
def decode : Decoder SyncCommand := .tagged "SyncCommand" "command" [("jumpto", jumptoRecord)]

def toJson : SyncCommand → Json
  | .jumpto peer address =>
    .object [("command", .string "jumpto"), ("target_content_hash", .string peer),
      ("address", .word address)]

end SyncCommand

end Tandem
