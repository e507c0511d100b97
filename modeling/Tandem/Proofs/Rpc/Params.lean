import Tandem.Proofs.Json.Records
import Tandem.Rpc.Call

/-! # Parameters by name and by position

All parameters, and all commands of a batch, are regular records. So a caller who gives values for the first
fields in their order gets what a caller gets who names them. -/

namespace Tandem

/-- Values for the first fields are decoded as an object that names these fields, whatever its order. -/
def Record.Interchangeable {α : Type} (r : Record α) : Prop :=
  ∀ (values : List Json) (fields : List (String × Json)), values.length ≤ r.fields.length →
    fields.Perm (r.names.zip values) →
      ∀ a, r.decode.ofValue (.array values) = .ok a ↔ r.decode.ofValue (.object fields) = .ok a

theorem Record.Regular.interchangeable {α : Type} {r : Record α} (regular : r.Regular) :
    r.Interchangeable :=
  fun _ _ short perm _ => regular.ofValue_array_iff_object short perm

namespace Rpc

/-! ## Methods -/

theorem JumptoParams.regular : record.Regular where
  distinct := by decide
  uniform := by decide
  independent := List.pairwise_singleton _ _

theorem SetItemColorParams.regular : record.Regular where
  distinct := by decide
  uniform := by decide
  independent := List.pairwise_pair.2 (Field.independent_of fun _ _ _ => rfl)

theorem FilenameParams.regular : record.Regular where
  distinct := by decide
  uniform := by decide
  independent := List.pairwise_singleton _ _

theorem RunCommandsParams.regular : record.Regular where
  distinct := by decide
  uniform := by decide
  independent := List.pairwise_singleton _ _

theorem TaskStatusParams.regular : record.Regular where
  distinct := by decide
  uniform := by decide
  independent := List.pairwise_singleton _ _

theorem ActivateRowParams.regular : record.Regular where
  distinct := by decide
  uniform := by decide
  independent := List.pairwise_pair.2 (Field.independent_of fun _ _ _ => rfl)

theorem ViewRowsParams.regular : record.Regular where
  distinct := by decide
  uniform := by decide
  independent := Field.pairwise_independent (Field.independent_of fun _ _ _ => rfl)
    (Field.independent_of fun _ _ _ => rfl) (Field.independent_of fun _ _ _ => rfl)

/-! ## Batches -/

namespace BatchCommand

theorem regular_jumptoRecord : jumptoRecord.Regular where
  distinct := by decide
  uniform := by decide
  independent := List.pairwise_singleton _ _

-- a field leaves commands of other kinds alone, so these cases do not tell the order either
theorem regular_colorLinesRecord : colorLinesRecord.Regular where
  distinct := by decide
  uniform := by decide
  independent := Field.pairwise_independent
    (Field.independent_of fun _ _ c => by cases c <;> rfl)
    (Field.independent_of fun _ _ c => by cases c <;> rfl)
    (Field.independent_of fun _ _ c => by cases c <;> rfl)

theorem regular_colorNodeRecord : colorNodeRecord.Regular where
  distinct := by decide
  uniform := by decide
  independent := Field.pairwise_independent
    (Field.independent_of fun _ _ c => by cases c <;> rfl)
    (Field.independent_of fun _ _ c => by cases c <;> rfl)
    (Field.independent_of fun _ _ c => by cases c <;> rfl)

/-- The commands of a batch by their names. -/
def variants : List (String × Record BatchCommand) :=
  [("jumpto", jumptoRecord), ("color_lines", colorLinesRecord), ("color_node", colorNodeRecord)]

theorem regular_of_mem_variants {name : String} {r : Record BatchCommand}
    (member : (name, r) ∈ variants) :
    variants.lookup name = some r ∧ "name" ∉ r.names ∧ r.Regular := by
  simp only [variants, List.mem_cons, Prod.mk.injEq, List.not_mem_nil, or_false] at member
  rcases member with ⟨rfl, rfl⟩ | ⟨rfl, rfl⟩ | ⟨rfl, rfl⟩
  · exact ⟨rfl, by decide, regular_jumptoRecord⟩
  · exact ⟨rfl, by decide, regular_colorLinesRecord⟩
  · exact ⟨rfl, by decide, regular_colorNodeRecord⟩

end BatchCommand

/-! ## No parameters -/

theorem Call.decode_supplied (method : String) {given given' : Option Json}
    (same : supplied given = supplied given') : decode method given = decode method given' := by
  have params {α : Type} (r : Record α) : params r given = params r given' := by
    rw [Call.params, Call.params, same]
  simp only [decode, params]

end Rpc

open Rpc in
/-- Parameters given by position and by name are decoded alike, for every method and every command of a
batch, and no parameters or `null` are decoded as an object without fields. -/
theorem named_and_positional_parameters_agree :
    JumptoParams.record.Interchangeable ∧ SetItemColorParams.record.Interchangeable ∧
      FilenameParams.record.Interchangeable ∧ RunCommandsParams.record.Interchangeable ∧
      TaskStatusParams.record.Interchangeable ∧ ActivateRowParams.record.Interchangeable ∧
      ViewRowsParams.record.Interchangeable ∧
      (∀ name r, (name, r) ∈ BatchCommand.variants →
        ∀ (values : List Json) (fields : List (String × Json)), values.length ≤ r.fields.length →
          fields.Perm (("name", .string name) :: r.names.zip values) →
            ∀ command, BatchCommand.decode.ofValue (.array (.string name :: values)) = .ok command ↔
              BatchCommand.decode.ofValue (.object fields) = .ok command) ∧
      ∀ method, Call.decode method none = Call.decode method (some (.object [])) ∧
        Call.decode method (some .null) = Call.decode method (some (.object [])) := by
  refine ⟨JumptoParams.regular.interchangeable, SetItemColorParams.regular.interchangeable,
    FilenameParams.regular.interchangeable, RunCommandsParams.regular.interchangeable,
    TaskStatusParams.regular.interchangeable, ActivateRowParams.regular.interchangeable,
    ViewRowsParams.regular.interchangeable, ?_, ?_⟩
  · intro name r member values fields short perm command
    obtain ⟨found, apart, regular⟩ := BatchCommand.regular_of_mem_variants member
    exact regular.tagged_array_iff_object found apart short perm
  · intro method
    exact ⟨Call.decode_supplied method rfl, Call.decode_supplied method rfl⟩

open Rpc in
/-- A color for an item, and a command to color nodes without a color for their frames, with the names in
another order than the fields. -/
theorem colors_are_named_in_any_order :
    SetItemColorParams.record.decode.ofValue (.array [.string "0x401000", .nat 1]) =
        .ok ⟨0x401000, 1⟩ ∧
      SetItemColorParams.record.decode.ofValue
        (.object [("color", .nat 1), ("address", .string "0x401000")]) = .ok ⟨0x401000, 1⟩ ∧
      BatchCommand.decode.ofValue
        (.object [("bg_color", .nat 5), ("name", .string "color_node"),
          ("addresses", .array [.nat 16, .string "0x20"])]) = .ok (.colorNode [16, 32] 5 0) := by
  have item : SetItemColorParams.record.decode.ofValue (.array [.string "0x401000", .nat 1]) =
      .ok ⟨0x401000, 1⟩ := rfl
  have nodes : BatchCommand.decode.ofValue (.array [.string "color_node",
      .array [.nat 16, .string "0x20"], .nat 5]) = .ok (.colorNode [16, 32] 5 0) := rfl
  obtain ⟨-, items, -, -, -, -, -, batches, -⟩ := named_and_positional_parameters_agree
  refine ⟨item, (items _ _ (by decide) (.swap _ _ _) _).1 item, ?_⟩
  refine (batches "color_node" BatchCommand.colorNodeRecord (by simp [BatchCommand.variants]) _ _
    (by simp [BatchCommand.colorNodeRecord]) ?_ _).1 nodes
  exact (List.Perm.swap _ _ _).trans (.cons _ (.swap _ _ _))

end Tandem
