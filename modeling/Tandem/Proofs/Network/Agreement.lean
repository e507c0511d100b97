import Tandem.Proofs.Network.Calls
import Tandem.Proofs.Session.Answers

/-! # Clients and sessions agree

A call over the network comes to what the session makes of the method and the parameters. What the
client sends is read as the call that it means (`Client.ofBody_sent`), and what the session answers gets
through (`Session.Tellable`): a result as the result, a failure with its number and its text. -/

namespace Tandem

open Rpc (Call)

theorem Json.plain_word32 (n : UInt32) : (Json.word32 n).Plain := by
  have small := n.toNat_lt
  simp only [word32, nat, Plain, Number.Fits, UInt64.size]
  omega

theorem Rpc.Call.decode_setItemColor (address : Address) (color : UInt32) :
    Call.decode "set_item_color" (some (.object [("address", .word address), ("color", .word32 color)])) =
      .ok (.setItemColor ⟨address, color⟩) := by
  rw [Call.decode, Call.params_object
    ((Record.named_cons rfl rfl (Field.of_read (Address.decode_word _ address))).trans
      ((Record.named_cons rfl rfl (Field.of_read (Decoder.word32_word32 _ color))).trans
        (Record.named_nil (by decide) rfl)))]
  rfl

theorem Session.Tellable.dispatch {s : Session} (tellable : s.Tellable) {now : Nat} {method : String}
    {given : Option Json} {v : Json} (told : (s.dispatch now method given).1 = .ok v) : v.Portable := by
  rw [Session.dispatch] at told
  split at told
  · cases told
  · exact tellable.answer told

theorem Session.Tellable.lend {s : Session} (tellable : s.Tellable) (n : Network) :
    (n.lend s).Tellable :=
  ⟨⟨tellable.counted.running, tellable.counted.views, tellable.counted.lengths, tellable.counted.rows⟩,
    tellable.process, tellable.results⟩

namespace Client

section

variable (client : Client) {n : Network} {t : Station} (carries : n.carries = true)
  (there : n.peers[client.port]? = some (.station t)) (tellable : t.session.Tellable)
include carries there tellable

theorem call_told {params : Json} (portable : params.Portable) (method : String) :
    let (answer, s) := (n.lend t.session).dispatch n.clock method (some params.sorted)
    client.call method params n =
      (told answer, (Network.requestNumber client n).2.reclaim client.port t s) := by
  have called := call_dispatched carries there portable method
  cases dispatched : (n.lend t.session).dispatch n.clock method (some params.sorted) with
  | mk answer s =>
    rw [dispatched] at called
    simp only at called ⊢
    rw [called]
    cases answer with
    | error error => rw [replied_error]
    | ok result => rw [replied_ok _ _ ((tellable.lend n).dispatch (congrArg Prod.fst dispatched))]

/-- A method called for its effect does what its call does. -/
theorem run_told {params : Json} (sendable : params.Sendable) {method : String} {call : Call}
    (decoded : Call.decode method (some params) = .ok call) :
    let (answer, s) := (n.lend t.session).answer n.clock call
    client.run method params n =
      ((told answer).map fun _ => (), (Network.requestNumber client n).2.reclaim client.port t s) := by
  have called := call_told client carries there tellable sendable.toPortable method
  rw [sendable.canonical, Session.dispatch, decoded] at called
  simp only [run, bind, StateT.bind, called]
  rfl

end

/-- A session that can tell whatever it is asked for is called over the network. For every method and
all parameters without fractions, nested at most 126 levels deep: the caller gets a result exactly when
the session has one for the method and the parameters, and it is that result; otherwise the caller gets
the number and the text of the failure; and the session is left as the call leaves it. A call to
navigate or to color an item reaches the host with the very address and color. -/
theorem calls_come_to_what_sessions_answer (client : Client) {n : Network} {t : Station}
    (carries : n.carries = true) (there : n.peers[client.port]? = some (.station t))
    (tellable : t.session.Tellable) :
    let s := n.lend t.session
    let numbered := (Network.requestNumber client n).2
    (∀ (method : String) (params : Json), params.Plain → params.nesting ≤ 126 →
      let (answer, s') := s.dispatch n.clock method (some params.sorted)
      client.call method params n = (told answer, numbered.reclaim client.port t s')) ∧
    (∀ address,
      let (answer, s') := s.answerBy (Action.jumpToOffset address) fun _ => .null
      client.jumpto address n =
        ((told answer).map fun _ => (), numbered.reclaim client.port t s')) ∧
    ∀ address color,
      let (answer, s') := s.answerBy (Action.setItemColor address color) fun _ => .null
      client.setItemColor address color n =
        ((told answer).map fun _ => (), numbered.reclaim client.port t s') := by
  intro s numbered
  refine ⟨fun method params plain flat => ?_, fun address => ?_, fun address color => ?_⟩
  · exact call_told client carries there tellable ⟨plain, Nat.lt_succ_of_le flat⟩ method
  · exact run_told client carries there tellable (Json.sendable_word "address" address)
      (Call.decode_jumpto address)
  · have sendable : Json.Sendable
        (.object [("address", .word address), ("color", .word32 color)]) :=
      ⟨⟨⟨Json.plain_word address, Json.plain_word32 color, trivial⟩, by
        simp [Json.nesting, Json.nestingFields, Json.word, Json.word32, Json.nat, Json.depthLimit]⟩, rfl⟩
    exact run_told client carries there tellable sendable (Call.decode_setItemColor address color)

end Client

/-! ## A sample -/

namespace Session.Sample

theorem counted_busy : (blank.play busy).Counted where
  running := by
    have fresh : blank.Fresh := ⟨rfl, rfl, rfl⟩
    obtain ⟨tasks, roster⟩ := fresh.roster.play busy
    rw [roster.running, views_busy.2]
    decide
  views := by
    rw [views_busy.1]
    decide
  lengths := by
    rw [views_busy.1]
    intro view member
    obtain rfl := List.mem_singleton.1 member
    decide
  rows := by
    rw [views_busy.1]
    intro view member
    obtain rfl := List.mem_singleton.1 member
    intro row listed
    obtain ⟨⟨m, i⟩, inside, rfl⟩ := List.mem_map.1 listed
    simp only [document, List.zipIdx_cons, List.zipIdx_nil, List.mem_cons, Prod.mk.injEq,
      List.not_mem_nil, or_false] at inside
    obtain ⟨rfl, rfl⟩ | ⟨rfl, rfl⟩ := inside
    · exact ⟨by decide, by decide, by decide, by decide⟩
    · exact ⟨by decide, by decide, by decide, by decide⟩

theorem dispatch_null (n : Network) (s : Session) (now : Nat) :
    (n.lend s).dispatch now "task_status" (some Json.null.sorted) =
      (.ok (tasksToJson s.tasks), n.lend s) := rfl

def busyStation : Station := ⟨blank.play busy, "", .empty, []⟩

theorem tellable_busyStation : busyStation.session.Tellable := by
  simp only [busyStation]
  exact tellable_play ⟨rfl, rfl, rfl⟩ portable_null busy counted_busy

/-- A machine on which the busy session listens. -/
def machine : Network where
  peers := (∅ : Std.ExtTreeMap UInt16 Peer).insert 18861 (.station busyStation)
  asked := [0]

theorem peers_machine :
    machine.peers[(⟨0, 18861⟩ : Client).port]? = some (.station busyStation) := by
  rw [machine]
  exact Std.ExtTreeMap.getElem?_insert_self

end Session.Sample

open Session.Sample in
/-- Parameters may be `null`, and what comes back is all that the session tells of its tasks. -/
theorem Client.busy_session_is_asked :
    machine.carries = true ∧
      machine.peers[(⟨0, 18861⟩ : Client).port]? = some (.station busyStation) ∧
      busyStation.session.Tellable ∧
      ((⟨0, 18861⟩ : Client).call "task_status" .null machine).1 =
        .ok (Session.tasksToJson busyStation.session.tasks).sorted := by
  refine ⟨rfl, peers_machine, tellable_busyStation, ?_⟩
  obtain ⟨agree, -, -⟩ :=
    calls_come_to_what_sessions_answer ⟨0, 18861⟩ rfl peers_machine tellable_busyStation
  have called := agree "task_status" .null trivial (by decide)
  rw [dispatch_null] at called
  simp only at called
  rw [called, told]

end Tandem
