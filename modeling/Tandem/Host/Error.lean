import Tandem.Address

/-! # Host errors

How work on a host ends when it does not succeed: with an error that the host reports, or with a
panic that nobody on the way expects. -/

namespace Tandem

/-- What a host reports. -/
inductive HostError where
  | notSupported (feature : String)
  | invalidAddress (address : Address)
  | functionNotFound (address : Address)
  | notFound (what : String)
  | failed (reason : String)
  deriving DecidableEq, Repr

/-- The text of a host error. -/
def HostError.message : HostError → String
  | .notSupported feature => "Not supported by this host: " ++ feature
  | .invalidAddress address => "Address " ++ address.text ++ " is outside the loaded image"
  | .functionNotFound address => "Function not found at address " ++ address.text
  | .notFound what => "Not found: " ++ what
  | .failed reason => "Host error: " ++ reason

/-- Why work on a host stops early. -/
inductive Stop where
  | error (error : HostError)
  /-- A panic, with its text if it has one. -/
  | panic (text : Option String)
  deriving DecidableEq, Repr

/-- The panic of a sum that does not fit an address. -/
def Stop.overflow : Stop := .panic (some "attempt to add with overflow")

/-- The address that a text denotes, as a host is asked for it. -/
def Address.ofText (s : String) : Except HostError Address :=
  match Address.parse s with
  | .ok a => .ok a
  | .error judged => .error (.notFound ("invalid address: " ++ judged))

end Tandem
