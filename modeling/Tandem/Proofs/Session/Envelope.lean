import Tandem.Proofs.Network.Calls
import Tandem.Proofs.Session.Run

/-! # What a response says of its request

A request goes through stages: its bytes are read, the request is found in them, its method is looked
up, the parameters are decoded, what they name is looked for, and the host does its part. A response
holds a result exactly when no stage fails, and otherwise the number of the first one that does.

* `Request.Makes` and `Request.Garbled` tell what a method makes of its parameters, by a table of the
  methods that take some.
* `Session.Lacks` and `Session.Stops` tell what can still go wrong with a call.
* `Session.Judges` lists how a call can end, and `Session.judges_answer` shows that the list is
  complete. -/

namespace Tandem

namespace Rpc

/-! ## Methods -/

/-- The methods that there are. -/
def methods : List String :=
  ["get_pid", "jumpto", "set_item_color", "get_md5", "get_root_filename", "export", "show_diff",
    "run_commands", "task_status", "view_rows", "activate_row"]

/-- The methods whose calls do not tell how the host did. -/
def hostless : List String :=
  ["export", "show_diff", "run_commands", "task_status", "view_rows", "get_pid"]

/-- The methods that take no parameters. -/
inductive Call.Bare : String → Call → Prop
  | getPid : Bare "get_pid" .getPid
  | getHash : Bare "get_md5" .getHash
  | getRootFilename : Bare "get_root_filename" .getRootFilename

/-- The methods that take parameters, with the fields of these. -/
inductive Call.Takes : {α : Type} → String → Record α → (α → Call) → Prop
  | jumpto : Takes "jumpto" JumptoParams.record .jumpto
  | setItemColor : Takes "set_item_color" SetItemColorParams.record .setItemColor
  | exportTo : Takes "export" FilenameParams.record .exportTo
  | showDiff : Takes "show_diff" FilenameParams.record .showDiff
  | runCommands : Takes "run_commands" RunCommandsParams.record .runCommands
  | taskStatus : Takes "task_status" TaskStatusParams.record .taskStatus
  | viewRows : Takes "view_rows" ViewRowsParams.record .viewRows
  | activateRow : Takes "activate_row" ActivateRowParams.record .activateRow

/-- The call that a request is for. -/
inductive Request.Makes (r : Request) : Call → Prop
  | bare {call : Call} (bare : Call.Bare r.method call) : Makes r call
  | taking {α : Type} {fields : Record α} {make : α → Call} {params : α}
      (takes : Call.Takes r.method fields make)
      (decoded : fields.decode.ofValue (Call.supplied r.params) = .ok params) : Makes r (make params)

/-- The method takes parameters, and these are none. -/
def Request.Garbled (r : Request) : Prop :=
  ∃ (α : Type) (fields : Record α) (make : α → Call), Call.Takes r.method fields make ∧
    ∀ params, fields.decode.ofValue (Call.supplied r.params) ≠ .ok params

/-- The request that the bytes hold. -/
def Request.InBody (body : ByteArray) (r : Request) : Prop :=
  ∃ value, Json.parse? body = some value ∧ Request.record.decode.ofValue value = .ok r

/-- The number of the failure that a response reports. -/
def Response.code? (r : Response) : Option Int := r.failure.map Failure.code

namespace Response

variable (id : Option Json) (answer : Except Error Json)

theorem version_ofAnswer : (ofAnswer id answer).version = "2.0" := by
  cases answer <;> rfl

theorem id_ofAnswer : (ofAnswer id answer).id = id := by
  cases answer <;> rfl

theorem result_ofAnswer :
    (ofAnswer id answer).result.isSome = true ↔ (ofAnswer id answer).failure = none := by
  cases answer <;> simp [ofAnswer, ofError, failed, success]

end Response

@[simp] theorem Response.code?_ofError (id : Option Json) (error : Error) :
    (Response.ofError id error).code? = some error.code := rfl

@[simp] theorem Response.code?_success (id : Option Json) (result : Json) :
    (Response.success id result).code? = none := rfl

theorem Request.InBody.read {body : ByteArray} {r : Request} (holds : Request.InBody body r) :
    Json.parse? body ≠ none := by
  obtain ⟨value, read, -⟩ := holds
  simp [read]

theorem Request.InBody.eq_iff {body : ByteArray} {r : Request} (holds : Request.InBody body r)
    (r' : Request) : Request.InBody body r' ↔ r' = r := by
  refine ⟨?_, fun same => same ▸ holds⟩
  rintro ⟨value', read', found'⟩
  obtain ⟨value, read, found⟩ := holds
  simp_all

namespace Call

variable {α : Type} {method : String} {call : Call} {fields : Record α} {make : α → Call}

theorem decode_of_bare (bare : Bare method call) (given : Option Json) :
    decode method given = .ok call := by
  cases bare <;> rfl

theorem decode_of_takes (takes : Takes method fields make) (given : Option Json) :
    decode method given = make <$> params fields given := by
  cases takes <;> rfl

theorem decode_of_not_mem (stray : method ∉ methods) (given : Option Json) :
    decode method given = .error (.methodNotFound method) := by
  simp only [methods, List.mem_cons, List.not_mem_nil, or_false, not_or] at stray
  simp [decode, stray]

theorem exists_of_mem (known : method ∈ methods) :
    (∃ call, Bare method call) ∨
      ∃ (α : Type) (fields : Record α) (make : α → Call), Takes method fields make := by
  simp only [methods, List.mem_cons, List.not_mem_nil, or_false] at known
  rcases known with rfl | rfl | rfl | rfl | rfl | rfl | rfl | rfl | rfl | rfl | rfl
  · exact .inl ⟨_, .getPid⟩
  · exact .inr ⟨_, _, _, .jumpto⟩
  · exact .inr ⟨_, _, _, .setItemColor⟩
  · exact .inl ⟨_, .getHash⟩
  · exact .inl ⟨_, .getRootFilename⟩
  · exact .inr ⟨_, _, _, .exportTo⟩
  · exact .inr ⟨_, _, _, .showDiff⟩
  · exact .inr ⟨_, _, _, .runCommands⟩
  · exact .inr ⟨_, _, _, .taskStatus⟩
  · exact .inr ⟨_, _, _, .viewRows⟩
  · exact .inr ⟨_, _, _, .activateRow⟩

end Call

namespace Request

variable {r : Request} {call : Call}

/-- What a method makes of its parameters: it is none, or they are none, or there is a call. -/
inductive Reads (r : Request) : Except Error Call → Prop
  | stray (stray : r.method ∉ methods) : Reads r (.error (.methodNotFound r.method))
  | garbled (error : DecodeError) (garbled : r.Garbled) :
      Reads r (.error (.invalidParams (.malformed error)))
  | makes {call : Call} (makes : r.Makes call) : Reads r (.ok call)

theorem reads_decode (r : Request) : r.Reads (Call.decode r.method r.params) := by
  by_cases known : r.method ∈ methods
  · obtain ⟨call, bare⟩ | ⟨α, fields, make, takes⟩ := Call.exists_of_mem known
    · rw [Call.decode_of_bare bare]
      exact .makes (.bare bare)
    · rw [Call.decode_of_takes takes, Call.params]
      cases decoded : fields.decode.ofValue (Call.supplied r.params) with
      | ok params => exact .makes (.taking takes decoded)
      | error error =>
        refine .garbled error ⟨α, fields, make, takes, fun params => ?_⟩
        simp [decoded]
  · rw [Call.decode_of_not_mem known]
    exact .stray known

theorem not_mem_methods_iff :
    r.method ∉ methods ↔ Call.decode r.method r.params = .error (.methodNotFound r.method) := by
  refine ⟨fun stray => Call.decode_of_not_mem stray _, fun decoded => ?_⟩
  have reads := r.reads_decode
  rw [decoded] at reads
  cases reads with
  | stray stray => exact stray

theorem garbled_iff :
    r.Garbled ↔
      ∃ error, Call.decode r.method r.params = .error (.invalidParams (.malformed error)) := by
  constructor
  · rintro ⟨α, fields, make, takes, broken⟩
    cases decoded : fields.decode.ofValue (Call.supplied r.params) with
    | ok params => exact absurd decoded (broken params)
    | error error =>
      refine ⟨error, ?_⟩
      rw [Call.decode_of_takes takes, Call.params, decoded]
      rfl
  · rintro ⟨error, decoded⟩
    have reads := r.reads_decode
    rw [decoded] at reads
    cases reads with
    | garbled _ garbled => exact garbled

/-- A request is for one call at most. -/
theorem makes_iff : r.Makes call ↔ Call.decode r.method r.params = .ok call := by
  constructor
  · intro makes
    cases makes with
    | bare bare => exact Call.decode_of_bare bare _
    | taking takes decoded =>
      rw [Call.decode_of_takes takes, Call.params, decoded]
      rfl
  · intro decoded
    have reads := r.reads_decode
    rw [decoded] at reads
    cases reads with
    | makes makes => exact makes

end Request

end Rpc

open Rpc (Call Request)

namespace Session

variable {s : Session}

/-! ## Calls -/

/-- The view that is asked for by its id, or as the one opened last. -/
def view? (s : Session) : Option Nat → Option MatchView
  | some id => s.views.all[id]?
  | none => s.views.all.getLast?

/-- The call names a task or a view that is not there. -/
def Lacks (s : Session) : Call → Prop
  | .taskStatus p => ∃ id, p.id = some id ∧ s.tasks.get? id = none
  | .viewRows p => s.view? p.view = none
  | .activateRow p => s.view? p.view = none
  | _ => False

/-- The main loop does not run any more, or it runs the job and that stops early, with an error or a
panic. -/
def Halts {α : Type} (s : Session) (job : Action α) : Prop :=
  s.isOpen = false ∨ ∃ stop w, job s.workspace = .error stop w

/-- The part of the call that is for the host comes to nothing. -/
def Stops (s : Session) : Call → Prop
  | .jumpto p => s.Halts (Action.jumpToOffset p.address)
  | .setItemColor p => s.Halts (Action.setItemColor p.address p.color)
  | .getHash => s.Halts Action.identity
  | .getRootFilename => s.Halts Action.rootFilename
  | .activateRow p => ∃ view, s.view? p.view = some view ∧ s.Halts (view.activate p.row)
  | _ => False

theorem resolveView_cases (s : Session) (asked : Option Nat) :
    (s.view? asked = none ∧ ∃ error, s.resolveView asked = .error (.invalidParams error)) ∨
      ∃ id view, s.view? asked = some view ∧ s.resolveView asked = .ok (id, view) := by
  cases asked with
  | none =>
    cases last : s.views.all.getLast? with
    | none => simp [view?, resolveView, Views.latest?, last]
    | some view => simp [view?, resolveView, Views.latest?, last]
  | some id =>
    cases there : s.views.all[id]? with
    | none => simp [view?, resolveView, Views.get?, there]
    | some view => simp [view?, resolveView, Views.get?, there]

/-- How a call can end. -/
inductive Judges (s : Session) (call : Call) : Except Rpc.Error Json → Prop
  | lacking (error : Rpc.ParamsError) (lacks : s.Lacks call) :
      Judges s call (.error (.invalidParams error))
  | stopped (error : CallError) (finds : ¬ s.Lacks call) (stops : s.Stops call) :
      Judges s call (.error (.host error))
  | answered (result : Json) (finds : ¬ s.Lacks call) (works : ¬ s.Stops call) :
      Judges s call (.ok result)

theorem judges_answerBy {α : Type} {job : Action α} {call : Call} (finds : ¬ s.Lacks call)
    (same : s.Stops call ↔ s.Halts job) (encode : α → Json) :
    s.Judges call (s.answerBy job encode).1 := by
  cases isOpen : s.isOpen with
  | false =>
    rw [answerBy_closed isOpen]
    exact .stopped _ finds (same.2 (.inl isOpen))
  | true =>
    cases done : job s.workspace with
    | ok a w =>
      rw [answerBy_ok isOpen done]
      refine .answered _ finds fun stops => ?_
      obtain closed | ⟨stop, w', failed⟩ := same.1 stops
      · simp [isOpen] at closed
      · simp [done] at failed
    | error stop w =>
      rw [answerBy_error isOpen done]
      exact .stopped _ finds (same.2 (.inr ⟨stop, w, done⟩))

theorem judges_answer (s : Session) (now : Nat) (call : Call) :
    s.Judges call (s.answer now call).1 := by
  cases call with
  | jumpto p => exact judges_answerBy (by simp [Lacks]) Iff.rfl _
  | setItemColor p => exact judges_answerBy (by simp [Lacks]) Iff.rfl _
  | getHash => exact judges_answerBy (by simp [Lacks]) Iff.rfl _
  | getRootFilename => exact judges_answerBy (by simp [Lacks]) Iff.rfl _
  | getPid => exact .answered _ not_false not_false
  | exportTo p => exact .answered _ not_false not_false
  | showDiff p => exact .answered _ not_false not_false
  | runCommands p => exact .answered _ not_false not_false
  | taskStatus p =>
    rw [answer]
    cases asked : p.id with
    | none => exact .answered _ (by simp [Lacks, asked]) not_false
    | some id =>
      rw [taskStatus]
      cases there : s.tasks.get? id with
      | none => exact .lacking _ ⟨id, asked, there⟩
      | some task => exact .answered _ (by simp [Lacks, asked, there]) not_false
  | viewRows p =>
    rw [answer, viewRows]
    obtain ⟨absent, error, lost⟩ | ⟨id, view, there, found⟩ := s.resolveView_cases p.view
    · rw [lost]
      exact .lacking error absent
    · rw [found]
      have finds : ¬ s.Lacks (.viewRows p) := by simp [Lacks, there]
      cases p.sort with
      | none => exact .answered _ finds not_false
      | some column => exact .answered _ finds not_false
  | activateRow p =>
    rw [answer, activateRow]
    obtain ⟨absent, error, lost⟩ | ⟨id, view, there, found⟩ := s.resolveView_cases p.view
    · rw [lost]
      exact .lacking error absent
    · rw [found]
      exact judges_answerBy (by simp [Lacks, there]) (by simp [Stops, there]) _

/-! ## Requests -/

/-- What becomes of the bytes of a request. -/
inductive Handles (s : Session) (now : Nat) (body : ByteArray) : Rpc.Response × Session → Prop
  | unread (broken : Json.parse? body = none) : Handles s now body (.ofError none .parse, s)
  | shapeless (error : DecodeError) (read : Json.parse? body ≠ none)
      (shapeless : ∀ r, ¬ Request.InBody body r) :
      Handles s now body (.ofError none (.invalidRequest (.malformed error)), s)
  | outdated {r : Request} (holds : Request.InBody body r) (outdated : r.version ≠ Rpc.version) :
      Handles s now body (.ofError r.id (.invalidRequest (.version r.version)), s)
  | dispatched {r : Request} (holds : Request.InBody body r) (current : r.version = Rpc.version) :
      Handles s now body (.ofAnswer r.id (s.dispatch now r.method r.params).1,
        (s.dispatch now r.method r.params).2)

theorem handles_handle (s : Session) (now : Nat) (body : ByteArray) :
    s.Handles now body (s.handle now body) := by
  cases read : Json.parse? body with
  | none =>
    have body' : Call.ofBody body = (none, .error .parse) := by rw [Call.ofBody, read]
    rw [handle_of_error s now body']
    exact .unread read
  | some value =>
    cases found : Request.record.decode.ofValue value with
    | error error =>
      have body' : Call.ofBody body = (none, .error (.invalidRequest (.malformed error))) := by
        simp only [Call.ofBody, read, found]
      rw [handle_of_error s now body']
      refine .shapeless error (by simp [read]) ?_
      rintro r ⟨value', read', found'⟩
      simp_all
    | ok r =>
      have holds : Request.InBody body r := ⟨value, read, found⟩
      by_cases current : r.version = Rpc.version
      · have body' : Call.ofBody body = (r.id, Call.decode r.method r.params) := by
          simp only [Call.ofBody, read, found, if_pos current]
        rw [handle_of_decode s now body']
        exact .dispatched holds current
      · have body' : Call.ofBody body =
            (r.id, .error (.invalidRequest (.version r.version))) := by
          simp only [Call.ofBody, read, found, if_neg current]
        rw [handle_of_error s now body']
        exact .outdated holds current

/-- The number that a response to a request reports is that of the first fault: there is no such
method, what it was given is wrong, or the host cannot do its part. -/
structure Classifies (s : Session) (r : Request) (code? : Option Int) : Prop where
  stray : code? = some (-32601) ↔ r.method ∉ Rpc.methods
  params : code? = some (-32602) ↔ r.Garbled ∨ ∃ call, r.Makes call ∧ s.Lacks call
  host : code? = some (-32000) ↔ ∃ call, r.Makes call ∧ ¬ s.Lacks call ∧ s.Stops call
  result : code? = none ↔ ∃ call, r.Makes call ∧ ¬ s.Lacks call ∧ ¬ s.Stops call
  hostless : code? = some (-32000) → r.method ∉ Rpc.hostless
  complete : code? ∈ [some (-32601), some (-32602), some (-32000), none]

theorem Stops.not_hostless {r : Request} {call : Call} (stops : s.Stops call) (makes : r.Makes call) :
    r.method ∉ Rpc.hostless := by
  cases makes with
  | bare bare =>
    generalize r.method = method at bare
    cases bare with
    | getPid => cases stops
    | getHash => decide
    | getRootFilename => decide
  | @taking α fields make params takes decoded =>
    clear decoded
    generalize r.method = method at takes
    cases takes with
    | jumpto => decide
    | setItemColor => decide
    | activateRow => decide
    | exportTo => cases stops
    | showDiff => cases stops
    | runCommands => cases stops
    | taskStatus => cases stops
    | viewRows => cases stops

theorem classifies_dispatch (s : Session) (now : Nat) (r : Request) (id : Option Json) :
    s.Classifies r (Rpc.Response.ofAnswer id (s.dispatch now r.method r.params).1).code? := by
  have reads := r.reads_decode
  rw [dispatch]
  cases decoded : Call.decode r.method r.params with
  | error error =>
    rw [decoded] at reads
    cases reads <;> constructor <;>
      simp [Rpc.Response.ofAnswer, Rpc.Error.code, Request.not_mem_methods_iff, Request.garbled_iff,
        Request.makes_iff, decoded]
  | ok call =>
    have judges := s.judges_answer now call
    have known : r.method ∈ Rpc.methods := by
      refine Decidable.of_not_not fun stray => ?_
      simp [Request.not_mem_methods_iff.1 stray] at decoded
    generalize (s.answer now call).1 = answer at judges
    cases judges with
    | lacking error lacks =>
      constructor <;>
        simp [Rpc.Response.ofAnswer, Rpc.Error.code, known, Request.garbled_iff, Request.makes_iff,
          decoded, lacks]
    | stopped error finds stops =>
      have needs := stops.not_hostless (Request.makes_iff.2 decoded)
      constructor <;>
        simp [Rpc.Response.ofAnswer, Rpc.Error.code, known, Request.garbled_iff, Request.makes_iff,
          decoded, finds, stops, needs]
    | answered result finds works =>
      constructor <;>
        simp [Rpc.Response.ofAnswer, known, Request.garbled_iff, Request.makes_iff, decoded, finds,
          works]

/-- For every body and every session: the response has the version of the protocol and either a result
or an error, and the id of the request if the body holds one. The number of the error is that of the
first stage that fails. -/
theorem responses_report_the_first_fault (s : Session) (now : Nat) (body : ByteArray) :
    let response := (s.handle now body).1
    response.version = "2.0" ∧ (response.result.isSome = true ↔ response.failure = none) ∧
    (∀ r, Request.InBody body r → response.id = r.id) ∧
    ((∀ r, ¬ Request.InBody body r) → response.id = none) ∧
    (response.code? = some (-32700) ↔ Json.parse? body = none) ∧
    (response.code? = some (-32600) ↔
      Json.parse? body ≠ none ∧ ∀ r, Request.InBody body r → r.version ≠ "2.0") ∧
    ∀ r, Request.InBody body r → r.version = "2.0" → s.Classifies r response.code? := by
  have handles := s.handles_handle now body
  generalize s.handle now body = outcome at handles
  cases handles with
  | unread broken =>
    have none : ∀ r, ¬ Request.InBody body r := by
      rintro r ⟨value, read, -⟩
      simp [broken] at read
    simp [Rpc.Response.ofError, Rpc.Response.failed, Rpc.Response.code?, Rpc.Error.code, Rpc.version,
      broken, none]
  | shapeless error read shapeless =>
    simp [Rpc.Response.ofError, Rpc.Response.failed, Rpc.Response.code?, Rpc.Error.code, Rpc.version,
      read, shapeless]
  | @outdated r holds outdated =>
    have only : ∀ r', Request.InBody body r' ↔ r' = r := holds.eq_iff
    simp_all [Rpc.Response.ofError, Rpc.Response.failed, Rpc.Response.code?, Rpc.Error.code,
      Rpc.version, holds.read]
  | @dispatched r holds current =>
    have only : ∀ r', Request.InBody body r' ↔ r' = r := holds.eq_iff
    have classifies := s.classifies_dispatch now r r.id
    have others := classifies.complete
    refine ⟨Rpc.Response.version_ofAnswer _ _, Rpc.Response.result_ofAnswer _ _, ?_, ?_, ?_, ?_, ?_⟩
    · intro r' holds'
      rw [(only r').1 holds', Rpc.Response.id_ofAnswer]
    · intro none
      exact absurd holds (none r)
    · constructor
      · intro parse
        simp [parse] at others
      · intro broken
        exact absurd broken holds.read
    · constructor
      · intro invalid
        simp [invalid] at others
      · rintro ⟨-, outdated⟩
        exact absurd current (outdated r holds)
    · intro r' holds' _
      rw [(only r').1 holds']
      exact classifies

namespace Sample

/-- The request for a method without parameters. -/
def bare (method : String) : ByteArray := (Client.message 7 method (.object [])).compact.toUTF8

theorem inBody_bare (method : String) :
    Request.InBody (bare method) ⟨"2.0", method, some (.object []), some (.word 7)⟩ := by
  have portable : Json.Portable (.object []) := ⟨trivial, by decide⟩
  exact ⟨_, Client.parse?_message portable 7 method, Client.decode_message 7 method⟩

end Sample

/-- A method that there is not, one whose parameters are missed, and one that needs none. -/
theorem stray_method_is_reported_with_its_id :
    Request.InBody (Sample.bare "leave") ⟨"2.0", "leave", some (.object []), some (.word 7)⟩ ∧
      (Sample.idle.handle 0 (Sample.bare "leave")).1.id = some (.word 7) ∧
      (Sample.idle.handle 0 (Sample.bare "leave")).1.code? = some (-32601) ∧
      (Sample.idle.handle 0 (Sample.bare "jumpto")).1.code? = some (-32602) ∧
      (Sample.idle.handle 0 (Sample.bare "get_pid")).1.code? = none := by
  have classify (method : String) :=
    (responses_report_the_first_fault Sample.idle 0 (Sample.bare method)).2.2.2.2.2.2 _
      (Sample.inBody_bare method) rfl
  refine ⟨Sample.inBody_bare "leave", ?_, (classify "leave").stray.2 (by decide),
    (classify "jumpto").params.2 (.inl ⟨_, _, _, .jumpto, nofun⟩),
    (classify "get_pid").result.2 ⟨_, .bare .getPid, not_false, not_false⟩⟩
  exact (responses_report_the_first_fault Sample.idle 0 (Sample.bare "leave")).2.2.1 _
    (Sample.inBody_bare "leave")

end Session

end Tandem
