import Tandem.Json.Decode
import Tandem.Json.Text

/-! # Messages

Requests and responses of JSON-RPC. -/

namespace Tandem.Rpc

/-- The version of the protocol. -/
def version : String := "2.0"

/-- A request. A parameter list or an id that is `null` is none. -/
structure Request where
  version : String
  method : String
  params : Option Json
  id : Option Json

/-- What a response reports when a request failed. -/
structure Failure where
  code : Int
  message : String
  data : Option Json := none

/-- A response, with a result or a failure. -/
structure Response where
  version : String
  result : Option Json
  failure : Option Failure
  id : Option Json

namespace Request

def record : Record Request where
  name := "struct JsonRpcRequest"
  blank := ⟨"", "", none, none⟩
  fields := [
    .required "jsonrpc" .string fun s r => { r with version := s },
    .required "method" .string fun s r => { r with method := s },
    .defaulted "params" (.optional .any) fun v r => { r with params := v },
    .defaulted "id" (.optional .any) fun v r => { r with id := v }]

def toJson (r : Request) : Json :=
  .object [("jsonrpc", .string r.version), ("method", .string r.method),
    ("params", r.params.getD .null), ("id", r.id.getD .null)]

end Request

namespace Failure

def record : Record Failure where
  name := "struct JsonRpcError"
  blank := ⟨0, "", none⟩
  fields := [
    .required "code" .int32 fun n f => { f with code := n },
    .required "message" .string fun s f => { f with message := s },
    .omissible "data" (.optional .any) fun v f => { f with data := v }]

def toJson (f : Failure) : Json :=
  .object ([("code", .number (.integer f.code)), ("message", .string f.message)] ++
    Json.present "data" (fun v => v) f.data)

end Failure

namespace Response

def record : Record Response where
  name := "struct JsonRpcResponse"
  blank := ⟨"", none, none, none⟩
  fields := [
    .required "jsonrpc" .string fun s r => { r with version := s },
    .omissible "result" (.optional .any) fun v r => { r with result := v },
    .omissible "error" (.optional Failure.record.decode) fun f r => { r with failure := f },
    .omissible "id" (.optional .any) fun v r => { r with id := v }]

def toJson (r : Response) : Json :=
  .object ([("jsonrpc", .string r.version)] ++ Json.present "result" (fun v => v) r.result ++
    Json.present "error" Failure.toJson r.failure ++ [("id", r.id.getD .null)])

/-- The response to a request that succeeded. -/
def success (id : Option Json) (result : Json) : Response := ⟨Rpc.version, some result, none, id⟩

/-- The response to a request that failed. -/
def failed (id : Option Json) (code : Int) (message : String) : Response :=
  ⟨Rpc.version, none, some ⟨code, message, none⟩, id⟩

end Response

end Tandem.Rpc
