import Tandem.Proofs.Host.Nodes
import Tandem.Proofs.Host.Walks
import Tandem.Proofs.Session.Panics

/-! # Batches

A batch is a list of values that are meant to be commands. `Host.after` tells what a command does to a
host without faults, whether or not it succeeds, and a batch does this for one entry after the other.
Entries that come to nothing (`Image.passesOver`) can be left out. -/

namespace Tandem

open Rpc (BatchCommand Call JumptoParams RunCommandsParams)

/-! ## Commands -/

namespace Host

variable {host : Host}

/-- The host after the nodes at some offsets were to be colored, as far as that goes. -/
def nodesTried (host : Host) (colors : NodeColors) : List Address → Host
  | [] => host
  | first :: rest =>
    match host.image.flowchart (host.image.base.plus first) with
    | .ok (some chart) => host.nodesColored chart.function colors
        (host.image.colorable chart.function (host.image.listed (first :: rest) chart))
    | _ => host

/-- The host after a command. -/
def after (host : Host) : BatchCommand → Host
  | .jumpto offset => host.led offset
  | .colorLines start stop color => host.painted (host.image.strokes color ⟨start, stop⟩)
  | .colorNode offsets background frame => host.nodesTried ⟨background, frame⟩ offsets

/-- The host after an entry of a batch. One that is no command leaves it as it is. -/
def afterEntry (host : Host) (entry : Json) : Host :=
  match BatchCommand.decode.ofValue entry with
  | .ok command => host.after command
  | .error _ => host

theorem nodesTried_eq (colors : NodeColors) (offsets : List Address) :
    host.nodesTried colors offsets = { host with nodes := (host.nodesTried colors offsets).nodes } := by
  cases offsets with
  | nil => rfl
  | cons first rest =>
    simp only [nodesTried]
    split
    · exact nodesColored_eq host _
    · rfl

@[simp]
theorem after_image (command : BatchCommand) : (host.after command).image = host.image := by
  cases command with
  | jumpto offset => exact led_image offset
  | colorLines start stop color => exact painted_image host _
  | colorNode offsets background frame =>
    rw [after, nodesTried_eq]

@[simp]
theorem after_faults (command : BatchCommand) : (host.after command).faults = host.faults := by
  cases command with
  | jumpto offset => exact attempted_faults host _
  | colorLines start stop color => rw [after, painted_eq]
  | colorNode offsets background frame => rw [after, nodesTried_eq]

@[simp]
theorem afterEntry_image (entry : Json) : (host.afterEntry entry).image = host.image := by
  rw [afterEntry]
  split <;> simp

theorem Faultless.afterEntry (sound : host.Faultless) (entry : Json) : (host.afterEntry entry).Faultless := by
  intro p
  rw [Host.afterEntry]
  split
  · rw [after_faults]
    exact sound p
  · exact sound p

end Host

namespace Action

variable {w : Workspace} (sound : w.host.Faultless)
include sound

theorem outcome_jumpToOffset (offset : Address) :
    (jumpToOffset offset).outcome w = { w with host := w.host.led offset } := by
  have jump := jumpToOffset_faultless sound offset
  rw [Host.led, Host.attempted]
  split at jump
  · rename_i inside
    rw [outcome_of_ok jump, if_pos inside]
  · rename_i outside
    rw [outcome_of_error jump, if_neg outside]

theorem outcome_colorNodes (offsets : List Address) (colors : NodeColors) :
    (colorNodes offsets colors).outcome w = { w with host := w.host.nodesTried colors offsets } := by
  cases offsets with
  | nil => rfl
  | cons first rest =>
    rw [Host.nodesTried, outcome, colorNodes_faultless sound]
    cases w.host.image.flowchart (w.host.image.base.plus first) with
    | error stop => rfl
    | ok chart =>
      cases chart with
      | none => rfl
      | some chart => exact outcome_colorBlocks sound chart.function colors _ 0

theorem outcome_batchJob (command : BatchCommand) :
    (Session.batchJob command).outcome w = { w with host := w.host.after command } := by
  cases command with
  | jumpto offset => rw [Session.batchJob, outcome_discard, outcome_jumpToOffset sound, Host.after]
  | colorLines start stop color =>
    rw [Session.batchJob, outcome_discard, outcome_of_ok (colorRange_paintable sound.paintable start stop color)]
    rfl
  | colorNode offsets background frame =>
    rw [Session.batchJob, outcome_discard, outcome_colorNodes sound, Host.after]

end Action

/-! ## Entries that come to nothing -/

/-- Whether an entry of a batch comes to nothing: it is no command, or it leads out of the image, or it
is to color nodes and no function covers the first address, or there is no chart to be had of the
function since a block of it would end beyond the greatest address. -/
def Image.passesOver (image : Image) (entry : Json) : Bool :=
  match BatchCommand.decode.ofValue entry with
  | .error _ => true
  | .ok (.jumpto offset) => !image.contains (image.base.plus offset)
  | .ok (.colorNode (first :: _) _ _) =>
    match image.flowchart (image.base.plus first) with
    | .ok none => true
    | .error _ => true
    | .ok (some chart) => (image.flowchart chart.function).toOption.isNone
  | .ok _ => false

/-- Without a chart every node is refused. -/
theorem Image.colorable_of_overflow {image : Image} {function : Address} {stop : Stop}
    (failed : image.flowchart function = .error stop) (blocks : List FlowBlock) :
    image.colorable function blocks = [] := by
  cases blocks with
  | nil => rfl
  | cons b blocks => simp [colorable, refusal?, failed]

theorem Host.afterEntry_of_passesOver {host : Host} {entry : Json}
    (idle : host.image.passesOver entry = true) : host.afterEntry entry = host := by
  rw [Image.passesOver] at idle
  rw [Host.afterEntry]
  cases decoded : BatchCommand.decode.ofValue entry with
  | error error => rfl
  | ok command =>
    rw [decoded] at idle
    cases command with
    | jumpto offset =>
      simp only [Bool.not_eq_true'] at idle
      simp [Host.after, Host.led, Host.attempted, idle]
    | colorLines start stop color => cases idle
    | colorNode offsets background frame =>
      cases offsets with
      | nil => cases idle
      | cons first rest =>
        simp only [Host.after, Host.nodesTried]
        cases found : host.image.flowchart (host.image.base.plus first) with
        | error stop => rfl
        | ok chart =>
          cases chart with
          | none => rfl
          | some chart =>
            -- the chart is there, so it is the second look that overflows
            simp only [found] at idle
            cases again : host.image.flowchart chart.function with
            | ok chart' => simp [again, Except.toOption] at idle
            | error stop =>
              simp only [Image.colorable_of_overflow again]
              rfl

namespace Session

variable {s : Session} (isOpen : s.isOpen = true) (sound : s.workspace.host.Faultless)
include isOpen sound

/-- An entry changes the host, and nothing else. -/
theorem runEntry_eq (entry : Json) :
    s.runEntry entry =
      { s with workspace := { s.workspace with host := s.workspace.host.afterEntry entry } } := by
  rw [runEntry, Host.afterEntry]
  cases decoded : BatchCommand.decode.ofValue entry with
  | error error => rfl
  | ok command =>
    have ran := workspace_call isOpen (batchJob command)
    rw [Action.outcome_batchJob sound] at ran
    have kept : (s.call (batchJob command)).2 = { s with workspace := (s.call (batchJob command)).2.workspace } := rfl
    simp only
    rw [kept, ran]

/-- A batch changes the host entry by entry, from left to right. -/
theorem runBatch_eq (entries : List Json) :
    s.runBatch entries =
      { s with workspace := { s.workspace with host := entries.foldl Host.afterEntry s.workspace.host } } := by
  induction entries generalizing s with
  | nil => rfl
  | cons entry entries ih =>
    have first := runEntry_eq isOpen sound entry
    rw [runBatch, List.foldl_cons, ← runBatch, first]
    exact ih (s := { s with workspace := { s.workspace with host := s.workspace.host.afterEntry entry } })
      isOpen (sound.afterEntry entry)

end Session

/-- Entries that come to nothing can be left out. -/
theorem Host.foldl_afterEntry_filter (host : Host) {entries : List Json} {keep : Json → Bool}
    (idle : ∀ entry ∈ entries, keep entry = false → host.image.passesOver entry = true) :
    (entries.filter keep).foldl afterEntry host = entries.foldl afterEntry host := by
  induction entries generalizing host with
  | nil => rfl
  | cons entry entries ih =>
    -- no entry changes the image, which alone decides what comes to nothing
    have rest := ih (host.afterEntry entry) fun other member dropped => by
      rw [afterEntry_image]
      exact idle other (List.mem_cons_of_mem _ member) dropped
    rw [List.filter_cons, List.foldl_cons, ← rest]
    split
    · rfl
    · rename_i dropped
      rw [afterEntry_of_passesOver (idle entry List.mem_cons_self (by simpa using dropped))]

/-! ## Requests -/

namespace Rpc

/-- The parameters of a batch. -/
def RunCommandsParams.form (entries : List Json) : Json := .object [("commands", .array entries)]

/-- The ways to give an address to the method that navigates. -/
def JumptoParams.forms (address : Json) : List Json := [.object [("address", address)], .array [address]]

/-- The ways to write a command to navigate, its fields in the order of their names. -/
def BatchCommand.jumptoForms (address : Json) : List Json :=
  [.object [("address", address), ("name", .string "jumpto")], .array [.string "jumpto", address]]

/-- Entries whose fields are in order are taken as they are. -/
theorem items_any {entries : List Json} (canonical : Json.sortedItems entries = entries) :
    Decoder.items .any (Json.readingItems .counted entries) = .ok entries := by
  induction entries with
  | nil => rfl
  | cons entry entries ih =>
    simp only [Json.sortedItems, List.cons.injEq] at canonical
    have read := Json.toJson?_reading (by decide : Tail.counted ≠ .torn) entry
    simp only [Json.readingItems, Decoder.items, Decoder.any, read, canonical.1, ih canonical.2]
    rfl

theorem Call.decode_batch {entries : List Json} (sendable : (RunCommandsParams.form entries).Sendable) :
    Call.decode "run_commands" (some (RunCommandsParams.form entries)) = .ok (.runCommands ⟨entries⟩) := by
  have canonical : Json.sortedItems entries = entries := by
    simpa [RunCommandsParams.form, Json.sorted, Json.sortedFields, Json.putField] using sendable.canonical
  have decoded : RunCommandsParams.record.decode.ofValue (RunCommandsParams.form entries) = .ok ⟨entries⟩ := by
    have whole : Tail.counted ≠ .torn := by decide
    have only : RunCommandsParams.record.fields =
        [.required "commands" (.list .any) fun vs _ => ⟨vs⟩] := rfl
    refine (Record.named_single whole only _ _).trans ?_
    simp only [Json.reading, Decoder.list, items_any canonical]
    rfl
  simp only [Call.decode, Call.params, Call.supplied, RunCommandsParams.form] at decoded ⊢
  rw [decoded]
  rfl

theorem JumptoParams.decode_form {address given : Json} (form : given ∈ forms address) :
    record.decode.ofValue given = (Address.decode.ofValue address).map (⟨·⟩) := by
  have whole : Tail.counted ≠ .torn := by decide
  have only : record.fields = [.required "address" Address.decode fun a _ => ⟨a⟩] := rfl
  simp only [forms, List.mem_cons, List.not_mem_nil, or_false] at form
  rcases form with rfl | rfl
  · exact Record.named_single whole only _ _
  · exact Record.positional_single whole _ _ _

theorem BatchCommand.decode_jumptoForm {address entry : Json} (form : entry ∈ jumptoForms address) :
    decode.ofValue entry = (Address.decode.ofValue address).map .jumpto := by
  have whole : Tail.counted ≠ .torn := by decide
  have only : jumptoRecord.fields = [.required "address" Address.decode fun a _ => .jumpto a] := rfl
  simp only [jumptoForms, List.mem_cons, List.not_mem_nil, or_false] at form
  rcases form with rfl | rfl
  · exact Record.named_single whole only _ _
  · exact Record.positional_single whole _ _ _

theorem Call.decode_jumptoForm {address given : Json} (form : given ∈ JumptoParams.forms address) :
    Call.decode "jumpto" (some given) =
      match Address.decode.ofValue address with
      | .ok a => .ok (.jumpto ⟨a⟩)
      | .error error => .error (.invalidParams (.malformed error)) := by
  have decoded := JumptoParams.decode_form form
  have given' : Call.supplied (some given) = given := by
    simp only [JumptoParams.forms, List.mem_cons, List.not_mem_nil, or_false] at form
    rcases form with rfl | rfl <;> rfl
  simp only [Call.decode, Call.params, given', decoded]
  cases Address.decode.ofValue address <;> rfl

end Rpc

namespace Session

theorem runBatch_jumpto {s : Session} (isOpen : s.isOpen = true) (sound : s.workspace.host.Faultless)
    (now : Nat) {entry : Json} {offset : Address} {body : ByteArray} {id : Option Json}
    (decoded : BatchCommand.decode.ofValue entry = .ok (.jumpto offset))
    (asks : Call.ofBody body = (id, .ok (.jumpto ⟨offset⟩))) :
    s.runBatch [entry] = (s.handle now body).2 := by
  rw [handle_of_call s now asks, answer_jumpto isOpen sound, runBatch_eq isOpen sound, List.foldl_cons,
    Host.afterEntry, decoded]
  rfl

/-- A session with a running main loop and a host without faults answers every batch with `null`, and
the entries of a batch arrive as they were sent. The batch changes the host entry by entry, from left to
right, and nothing else, so that two batches in a row are as good as one, and any entries that come to
nothing can be left out. A command to navigate does what the method does when it is given the same
address. -/
theorem batches_run_in_sequence {s : Session} (isOpen : s.isOpen = true)
    (sound : s.workspace.host.Faultless) (now : Nat) :
    (∀ body id entries, Call.ofBody body = (id, .ok (.runCommands ⟨entries⟩)) →
      s.handle now body = (.success id .null, s.runBatch entries)) ∧
    (∀ number entries, (RunCommandsParams.form entries).Sendable →
      Call.ofBody (Client.request number "run_commands" (RunCommandsParams.form entries)).body =
        (some (.word number), .ok (.runCommands ⟨entries⟩))) ∧
    (∀ entries, s.runBatch entries =
      { s with workspace :=
        { s.workspace with host := entries.foldl Host.afterEntry s.workspace.host } }) ∧
    (∀ xs ys, s.runBatch (xs ++ ys) = (s.runBatch xs).runBatch ys) ∧
    (∀ (entries : List Json) (keep : Json → Bool),
      (∀ entry ∈ entries, keep entry = false → s.workspace.host.image.passesOver entry = true) →
      s.runBatch (entries.filter keep) = s.runBatch entries) ∧
    (∀ entry offset body id, BatchCommand.decode.ofValue entry = .ok (.jumpto offset) →
      Call.ofBody body = (id, .ok (.jumpto ⟨offset⟩)) → s.runBatch [entry] = (s.handle now body).2) ∧
    ∀ address, ∀ given ∈ JumptoParams.forms address, ∀ entry ∈ BatchCommand.jumptoForms address,
      ∀ body id, Call.ofBody body = (id, Call.decode "jumpto" (some given)) →
        s.runBatch [entry] = (s.handle now body).2 := by
  refine ⟨fun body id entries asks => ?_, fun number entries sendable => ?_, runBatch_eq isOpen sound,
    fun xs ys => ?_, fun entries keep idle => ?_,
    fun entry offset body id decoded asks => runBatch_jumpto isOpen sound now decoded asks,
    fun address given form entry form' body id asks => ?_⟩
  · rw [handle_of_call s now asks]
    rfl
  · rw [Client.ofBody_request sendable, Call.decode_batch sendable]
  · exact List.foldl_append
  · rw [runBatch_eq isOpen sound, runBatch_eq isOpen sound, Host.foldl_afterEntry_filter _ idle]
  · rw [Call.decode_jumptoForm form] at asks
    have decoded := BatchCommand.decode_jumptoForm form'
    cases denoted : Address.decode.ofValue address with
    | error error =>
      rw [denoted] at asks decoded
      rw [handle_of_error s now asks, runBatch_eq isOpen sound, List.foldl_cons, Host.afterEntry, decoded]
      rfl
    | ok a =>
      rw [denoted] at asks decoded
      exact runBatch_jumpto isOpen sound now decoded asks

namespace Sample

/-- A command to navigate beyond the end of the image. -/
def straying : Json := .object [("address", .word 0x100000), ("name", .string "jumpto")]

/-- A batch with one entry that does something. -/
def mixed : List Json := [coloring, .null, straying, leading]

theorem filter_mixed : (mixed.filter fun entry => !brim.passesOver entry) = [leading] := rfl

end Sample

open Tandem.Session.Sample in
/-- A panic, an entry that is no command and a jump that leads nowhere come before the jump that is made. -/
theorem mixed_batch_makes_its_jump :
    edge.isOpen = true ∧ edge.workspace.host.Faultless ∧
      (edge.handle 0 batch).1 = .success (some (.word 1)) .null ∧
      edge.runBatch mixed = edge.runBatch [leading] ∧
      (edge.runBatch mixed).workspace.host.jumps = [0x1010] := by
  have sound : edge.workspace.host.Faultless := fun _ => rfl
  obtain ⟨answers, -, effect, -, left, -⟩ := batches_run_in_sequence (s := edge) rfl sound 0
  have idle : ∀ entry ∈ mixed, (!brim.passesOver entry) = false → brim.passesOver entry = true := by
    intro entry _ dropped
    simpa using dropped
  have short := left mixed _ idle
  rw [filter_mixed] at short
  refine ⟨rfl, sound, by rw [answers batch _ _ ofBody_batch], short.symm, ?_⟩
  rw [← short, effect]
  rfl

end Session

end Tandem
