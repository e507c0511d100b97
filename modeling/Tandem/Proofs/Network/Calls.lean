import Tandem.Network.Client
import Tandem.Proofs.Json.Decode
import Tandem.Proofs.Json.Order
import Tandem.Proofs.Session.Service

/-! # Calls over the network

What a client sends is read as the call that it means, and the reply to it as the result. So a call
over the network comes to what the session behind the port makes of it. -/

namespace Tandem

open Rpc (Call)

/-! ## Requests -/

/-- The call that a request makes. It has to arrive whole and at the right path. -/
def Http.Request.call? (r : Http.Request) : Option Call :=
  if r.path = Http.callPath ∧ r.method = "POST" ∧ r.isWhole = true then
    (Call.ofBody r.body).2.toOption
  else none

/-- A session responds to a request by answering the call that it makes. -/
theorem Session.respond_of_call? {r : Http.Request} {call : Call} (asks : r.call? = some call)
    (s : Session) (now : Nat) :
    s.respond now r =
      (.ofJson (Rpc.Response.ofAnswer (Call.ofBody r.body).1 (s.answer now call).1).toJson,
        (s.answer now call).2) := by
  obtain ⟨⟨path, method, whole⟩, decoded⟩ := Option.ite_none_right_eq_some.1 asks
  obtain ⟨id, found⟩ : ∃ id, Call.ofBody r.body = (id, .ok call) := by
    cases found : Call.ofBody r.body with
    | mk id result =>
      rw [found] at decoded
      cases result with
      | error error => cases decoded
      | ok call' => exact ⟨id, by cases decoded; rfl⟩
  have handled := s.handle_of_call now found
  rw [Session.respond, if_pos path, if_neg (by simp [method]), if_pos whole, handled, found]

/-- What a request holds for parameters: `null` is none. -/
def Json.given : Json → Option Json
  | .null => none
  | value => some value

theorem Rpc.Call.decode_given (method : String) (params : Json) :
    Call.decode method params.given = Call.decode method (some params) := by
  cases params <;> rfl

/-- A value that gets through as part of a message, but for the order of its fields: its numbers fit
machine words, and it is not nested too deep. -/
structure Json.Portable (value : Json) : Prop where
  plain : value.Plain
  flat : value.nesting < depthLimit

theorem Json.Portable.sorted {value : Json} (portable : value.Portable) : value.sorted.Portable :=
  ⟨portable.plain.sorted, Nat.lt_of_le_of_lt value.nesting_sorted_le portable.flat⟩

/-- Parameters that arrive as they were sent: their fields are in order. -/
structure Json.Sendable (params : Json) : Prop extends params.Portable where
  canonical : params.sorted = params

theorem Json.sendable_word (name : String) (n : UInt64) :
    (Json.object [(name, .word n)]).Sendable where
  plain := ⟨Json.plain_word n, trivial⟩
  canonical := rfl
  flat := by simp [nesting, nestingFields, word, nat, depthLimit]

theorem Json.sendable_activation (row view : UInt64) :
    (Json.object [("row", .word row), ("view", .word view)]).Sendable where
  plain := ⟨Json.plain_word row, Json.plain_word view, trivial⟩
  canonical := rfl
  flat := by simp [nesting, nestingFields, word, nat, depthLimit]

namespace Client

/-- The object that a client sends. -/
def message (number : UInt64) (method : String) (params : Json) : Json :=
  .object [("id", .word number), ("jsonrpc", .string Rpc.version), ("method", .string method),
    ("params", params)]

theorem path_request (number : UInt64) (method : String) (params : Json) :
    (request number method params).path = Http.callPath := by
  simp [Http.Request.path, request, Http.callPath]

section

variable {params : Json} (portable : params.Portable)
include portable

theorem parse?_message (number : UInt64) (method : String) :
    Json.parse? (message number method params).compact.toUTF8 =
      some (message number method params.sorted) := by
  have plain : (message number method params).Plain :=
    ⟨Json.plain_word number, trivial, trivial, portable.plain, trivial⟩
  have flat : (message number method params).nesting ≤ Json.depthLimit := by
    have inner := portable.flat
    simp only [message, Json.nesting, Json.nestingFields, Json.word, Json.nat]
    omega
  rw [Json.parse?_compact plain flat]
  rfl

omit portable in
theorem optional_any : Decoder.optional .any (params.reading .counted) = .ok params.sorted.given := by
  have found := Json.toJson?_reading (by decide : Tail.counted ≠ .torn) params
  have any : Decoder.any (params.reading .counted) = .ok params.sorted := by
    rw [Decoder.any, found]
  cases params with
  | null => rfl
  | _ =>
    simp only [Json.reading, Json.sorted] at any ⊢
    simp [Decoder.optional, any, Json.given, Except.map]

omit portable in
theorem decode_message (number : UInt64) (method : String) :
    Rpc.Request.record.decode.ofValue (message number method params) =
      .ok ⟨Rpc.version, method, params.sorted.given, some (.word number)⟩ := by
  simp only [Decoder.ofValue, message, Json.reading, Json.readingFields, Record.decode]
  rw [Record.named_cons rfl rfl rfl, Record.named_cons rfl rfl rfl, Record.named_cons rfl rfl rfl,
    Record.named_cons rfl rfl (Field.of_read optional_any),
    Record.named_nil (by decide) rfl]
  rfl

/-- What a client sends is the call of the method with the parameters, whose fields are in order. -/
theorem ofBody_sent (number : UInt64) (method : String) :
    Call.ofBody (request number method params).body =
      (some (.word number), Call.decode method (some params.sorted)) := by
  have sent : (request number method params).body =
      (message number method params.sorted).compact.toUTF8 := by
    simp only [request, message]
  rw [sent, Call.ofBody, parse?_message portable.sorted]
  simp only [decode_message, Json.sorted_sorted, if_true, Rpc.Call.decode_given]

end

variable {params : Json} (sendable : params.Sendable)
include sendable

theorem ofBody_request (number : UInt64) (method : String) :
    Call.ofBody (request number method params).body =
      (some (.word number), Call.decode method (some params)) := by
  rw [ofBody_sent sendable.toPortable, sendable.canonical]

theorem call?_request (number : UInt64) {method : String} {call : Call}
    (decoded : Call.decode method (some params) = .ok call) :
    (request number method params).call? = some call := by
  rw [Http.Request.call?, if_pos ⟨path_request number method params, rfl, rfl⟩,
    ofBody_request sendable, decoded]
  rfl

end Client

/-! ## Replies -/

namespace Client

theorem outcome_answered (client : Client) {reply : Json} (plain : reply.Plain)
    (flat : reply.nesting ≤ Json.depthLimit) :
    client.outcome (.answered (.ofJson reply)) = resultOf reply.sorted.sorted := by
  rw [outcome, Http.Response.ofJson, Json.parse?_compact plain flat]

/-- What a client makes of the response to a call. -/
def replied (client : Client) (number : UInt64) (answer : Except Rpc.Error Json) :
    Except SyncError Json :=
  client.outcome (.answered (.ofJson (Rpc.Response.ofAnswer (some (.word number)) answer).toJson))

/-- What a caller learns of an answer: the result with its fields in order, or the failure as it is
written. -/
def told : Except Rpc.Error Json → Except SyncError Json
  | .ok result => .ok result.sorted
  | .error error =>
    .error (.remoteCallFailure (Rpc.Failure.toJson ⟨error.code, error.message, none⟩).compact)

theorem replied_ok (client : Client) (number : UInt64) {result : Json} (portable : result.Portable) :
    client.replied number (.ok result) = told (.ok result) := by
  let reply := (Rpc.Response.ofAnswer (some (.word number)) (.ok result)).toJson
  have sorted : reply.sorted.sorted = .object [("id", .word number), ("jsonrpc", .string Rpc.version),
      ("result", result.sorted.sorted)] := rfl
  have number' := Json.plain_word number
  have flat := portable.flat
  rw [replied, outcome_answered]
  · rw [sorted, Json.sorted_sorted]
    rfl
  · exact ⟨trivial, portable.plain, number', trivial⟩
  · simp only [Rpc.Response.ofAnswer, Rpc.Response.success, Rpc.Response.toJson, Json.present,
      Json.nesting, Json.nestingFields, List.append_nil, List.cons_append, List.nil_append, Option.getD,
      Json.word, Json.nat]
    omega

theorem replied_error (client : Client) (number : UInt64) (error : Rpc.Error) :
    client.replied number (.error error) = told (.error error) := by
  let reply := (Rpc.Response.ofAnswer (some (.word number)) (.error error)).toJson
  let reported : Json :=
    .object [("code", .number (.integer error.code)), ("message", .string error.message)]
  have sorted : reply.sorted.sorted = .object [("error", reported), ("id", .word number),
      ("jsonrpc", .string Rpc.version)] := rfl
  have number' := Json.plain_word number
  have code : (Json.Number.integer error.code).Fits := by
    cases error <;> simp [Json.Number.Fits, Rpc.Error.code, UInt64.size]
  rw [replied, outcome_answered]
  · rw [sorted]
    rfl
  · exact ⟨trivial, ⟨code, trivial, trivial⟩, number', trivial⟩
  · simp [Rpc.Response.ofAnswer, Rpc.Response.ofError, Rpc.Response.failed, Rpc.Response.toJson,
      Rpc.Failure.toJson, Json.present, Json.nesting, Json.nestingFields, Json.word, Json.nat,
      Json.depthLimit]

end Client

/-! ## Sessions behind ports -/

/-- A machine on which one session was called: only the session and the files can be different. -/
structure Network.Visited (n : Network) (port : UInt16) (t : Station) (s : Session) (n' : Network) :
    Prop where
  carries : n'.carries = n.carries
  peers : n'.peers = n.peers.insert port (.station { t with session := s })
  files : n'.files = s.workspace.files

theorem Network.exchange_station {n : Network} {port : UInt16} {t : Station}
    (carries : n.carries = true) (there : n.peers[port]? = some (.station t)) (r : Http.Request) :
    Network.exchange port r n =
      (.answered ((n.lend t.session).respond n.clock r).1,
        n.reclaim port t ((n.lend t.session).respond n.clock r).2) := by
  simp [Network.exchange, carries, there]

theorem Session.respond_sent {params : Json} (portable : params.Portable) (s : Session) (now : Nat)
    (number : UInt64) (method : String) :
    s.respond now (Client.request number method params) =
      (.ofJson (Rpc.Response.ofAnswer (some (.word number))
        (s.dispatch now method (some params.sorted)).1).toJson,
        (s.dispatch now method (some params.sorted)).2) := by
  have handled := s.handle_of_decode now (Client.ofBody_sent portable number method)
  have whole : (Client.request number method params).isWhole = true := rfl
  rw [respond, if_pos (Client.path_request number method params), if_neg (by simp [Client.request]),
    if_pos whole, handled]

namespace Client

section

variable {client : Client} {n : Network} {t : Station} (carries : n.carries = true)
  (there : n.peers[client.port]? = some (.station t))
include carries there

/-- A call comes to what the session behind the port makes of it. -/
theorem call_dispatched {params : Json} (portable : params.Portable) (method : String) :
    let dispatched := (n.lend t.session).dispatch n.clock method (some params.sorted)
    let numbered := Network.requestNumber client n
    client.call method params n =
      (client.replied numbered.1 dispatched.1, numbered.2.reclaim client.port t dispatched.2) := by
  -- a client numbers its requests, and this is all that changes before the exchange
  let number := n.asked.getD client.number 0 + 1
  let numbered : Network := { n with asked := n.asked.set client.number number }
  have exchanged := Network.exchange_station (n := numbered) carries there
    (request number method params)
  rw [Session.respond_sent portable] at exchanged
  simp only [Client.call, bind, StateT.bind]
  rw [show Network.requestNumber client n = (number, numbered) from rfl]
  simp only
  rw [exchanged]
  rfl

theorem call_station {params : Json} (sendable : params.Sendable) {method : String} {call : Call}
    (decoded : Call.decode method (some params) = .ok call) :
    ∃ number n', client.call method params n =
        (client.replied number ((n.lend t.session).answer n.clock call).1, n') ∧
      n.Visited client.port t ((n.lend t.session).answer n.clock call).2 n' := by
  have called := call_dispatched carries there sendable.toPortable method
  rw [sendable.canonical, Session.dispatch, decoded] at called
  exact ⟨_, _, called, rfl, rfl, rfl⟩

end

end Client

/-! ## Hosts behind ports -/

/-- Parameters that come by their names are the record of them. -/
theorem Rpc.Call.params_object {α : Type} {r : Record α} {fields : List (String × Json)} {a : α}
    (decoded : r.named .counted (Json.readingFields .counted fields) [] r.blank = .ok a) :
    Call.params r (some (.object fields)) = .ok a := by
  have read : r.decode.ofValue (.object fields) = .ok a :=
    (r.decode_object .counted fields).trans decoded
  rw [Call.params, Call.supplied, read]
  simp

theorem Rpc.Call.decode_jumpto (offset : Address) :
    Call.decode "jumpto" (some (.object [("address", .word offset)])) = .ok (.jumpto ⟨offset⟩) := by
  have only : JumptoParams.record.fields = [.required "address" Address.decode fun a _ => ⟨a⟩] := rfl
  have whole : Tail.counted ≠ .torn := by decide
  have decoded := Record.named_single whole only ((Json.word offset).reading .counted)
    JumptoParams.record.blank
  rw [Address.decode_word] at decoded
  rw [Call.decode, Call.params_object decoded]
  rfl

theorem Rpc.Call.decode_activateRow (row view : UInt64) :
    Call.decode "activate_row" (some (.object [("row", .word row), ("view", .word view)])) =
      .ok (.activateRow ⟨some view.toNat, row.toNat⟩) := by
  have read : Decoder.count ((Json.word row).reading .counted) = .ok row :=
    Decoder.wordNamed_word _ _ row
  rw [Call.decode, Call.params_object ((Record.named_cons rfl rfl (Field.of_read read)).trans
    ((Record.named_cons rfl rfl (Field.of_read (Decoder.optional_count_word _ view))).trans
      (Record.named_nil (by decide) rfl)))]
  rfl

/-- A session with this host listens on a port, and its main loop runs. -/
def Network.Houses (n : Network) (port : UInt16) (host : Host) : Prop :=
  ∃ t, n.peers[port]? = some (.station t) ∧ t.session.isOpen = true ∧ t.session.workspace.host = host

/-- A machine after calls to one port: only the session there can be different, and its host is
known. -/
structure Network.Reached (n : Network) (port : UInt16) (host : Host) (n' : Network) : Prop where
  carries : n'.carries = n.carries
  files : n'.files = n.files
  others : ∀ other ≠ port, n'.peers[other]? = n.peers[other]?
  houses : n'.Houses port host

namespace Network

variable {n n' n'' : Network} {port : UInt16} {host host' : Host}

theorem Reached.trans (first : n.Reached port host n') (second : n'.Reached port host' n'') :
    n.Reached port host' n'' where
  carries := second.carries.trans first.carries
  files := second.files.trans first.files
  others other apart := (second.others other apart).trans (first.others other apart)
  houses := second.houses

theorem Visited.reached {t : Station} {s : Session} (visited : n.Visited port t s n')
    (isOpen : s.isOpen = true) (files : s.workspace.files = n.files) :
    n.Reached port s.workspace.host n' where
  carries := visited.carries
  files := visited.files.trans files
  others other apart := by
    rw [visited.peers, Std.ExtTreeMap.getElem?_insert, if_neg]
    simpa using apart.symm
  houses := ⟨{ t with session := s }, by rw [visited.peers]; simp, isOpen, rfl⟩

end Network

namespace Client

variable {client : Client} {n : Network} (carries : n.carries = true)
include carries

/-- What a session says when it is asked for its hash arrives. -/
theorem getHash_station {t : Station} (there : n.peers[client.port]? = some (.station t)) :
    ∃ result n', client.getHash n = (result, n') ∧
      n.Visited client.port t ((n.lend t.session).answer n.clock .getHash).2 n' ∧
      ∀ text, result = .ok text ↔
        ((n.lend t.session).answer n.clock .getHash).1 = .ok (.string text) := by
  have sendable : (Json.object []).Sendable := ⟨⟨trivial, by decide⟩, rfl⟩
  have decoded : Call.decode "get_md5" (some (.object [])) = .ok .getHash := rfl
  obtain ⟨number, n', called, visited⟩ := call_station carries there sendable decoded
  cases told : (n.lend t.session).answer n.clock .getHash with
  | mk answer s =>
    rw [told] at called visited
    cases answer with
    | error error =>
      obtain ⟨failure, replied⟩ : ∃ failure, client.replied number (.error error) = .error failure :=
        ⟨_, replied_error client number error⟩
      refine ⟨.error failure, n', ?_, visited, by simp⟩
      simp only [getHash, ask, bind, StateT.bind, called, replied]
      rfl
    | ok value =>
      obtain ⟨text, rfl⟩ : ∃ text, value = .string text := by
        rw [Session.answer, Session.answerBy] at told
        split at told
        · cases told
          exact ⟨_, rfl⟩
        · cases told
      have replied : client.replied number (.ok (.string text)) = .ok (.string text) :=
        replied_ok client number ⟨trivial, by simp [Json.nesting, Json.depthLimit]⟩
      refine ⟨.ok text, n', ?_, visited, by simp⟩
      simp only [getHash, ask, bind, StateT.bind, called, replied]
      rfl

variable {host : Host} (housed : n.Houses client.port host)
include housed

/-- A session tells its hash if its host does. -/
theorem getHash_housed (identifies : host.Identifies) :
    ∃ n', client.getHash n = (.ok (ContentHash.key host.image.hash), n') ∧
      n.Reached client.port host n' := by
  obtain ⟨t, there, isOpen, rfl⟩ := housed
  obtain ⟨result, n', asked, visited, tells⟩ := getHash_station carries there
  rw [Session.answer_getHash (s := n.lend t.session) isOpen n.clock identifies] at visited tells
  rw [(tells _).2 rfl] at asked
  exact ⟨n', asked, visited.reached isOpen rfl⟩

/-- A session without faults is led to where it is sent. -/
theorem jumpto_housed (sound : host.Faultless) (offset : Address) :
    n.Reached client.port (host.led offset) (client.jumpto offset n).2 := by
  obtain ⟨t, there, isOpen, rfl⟩ := housed
  obtain ⟨number, n', called, visited⟩ := call_station carries there
    (Json.sendable_word "address" offset) (Call.decode_jumpto offset)
  rw [Session.answer_jumpto (s := n.lend t.session) isOpen sound] at visited
  simp only [jumpto, run, bind, StateT.bind, called]
  exact visited.reached isOpen rfl

end Client

end Tandem
