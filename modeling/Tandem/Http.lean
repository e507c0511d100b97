import Tandem.Session.Service

/-! # Requests over HTTP

A session answers calls at one path and tells whether it is alive at another. Whatever a call comes
to, its answer is a response with status 200: failures are told in the body. -/

namespace Tandem

namespace Http

/-- A request as it arrives. -/
structure Request where
  method : String
  /-- What the request asks for: a path with a query behind it, or a whole address. -/
  target : String
  body : ByteArray := .empty
  /-- Whether the body arrived to its end. -/
  isWhole : Bool := true

/-- The path that a request asks for. A target can name a scheme and a host in front of it. -/
def Request.path (r : Request) : String :=
  let target := r.target.toList.takeWhile fun c => c ≠ '?' ∧ c ≠ '#'
  if target.head? = some '/' then String.ofList target
  else
    match target.dropWhile (· ≠ ':') with
    | ':' :: '/' :: '/' :: rest =>
      let path := rest.dropWhile (· ≠ '/')
      if path.isEmpty then "/" else String.ofList path
    | _ => String.ofList target

/-- A response. -/
structure Response where
  status : Nat := 200
  contentType : Option String := none
  body : ByteArray := .empty

/-- The response that carries a value. -/
def Response.ofJson (value : Json) : Response :=
  { contentType := some "application/json", body := value.compact.toUTF8 }

/-- The port that an address need not mention. -/
def defaultPort : UInt16 := 80

/-- The path at which calls are answered. -/
def callPath : String := "/rpc"

/-- The path at which a session tells whether it is alive. -/
def healthPath : String := "/health"

end Http

namespace Session

/-- What a session tells of itself without asking its host. -/
def health (s : Session) : Json :=
  .object [("content_hash", .string s.identity.hash), ("port", .nat s.identity.port.toNat),
    ("status", .string "ok")]

/-- Responds to a request. `now` is what the clock reads. -/
def respond (s : Session) (now : Nat) (r : Http.Request) : Http.Response × Session :=
  if r.path = Http.callPath then
    if r.method ≠ "POST" then ({ status := 405 }, s)
    else if r.isWhole then
      let (response, s) := s.handle now r.body
      (.ofJson response.toJson, s)
    else ({ status := 400 }, s)
  else if r.path = Http.healthPath then
    if r.method ≠ "GET" then ({ status := 405 }, s) else (.ofJson s.health, s)
  else ({ status := 404 }, s)

end Session

end Tandem
