import Mathlib.Data.List.Nodup
import Mathlib.Data.List.TakeWhile
import Tandem.Proofs.Host.Arithmetic

/-! # Nodes

The nodes to be colored are those of one function, the first one that covers the first address listed.
For each of them the function is looked up once more, by the address that it starts at. Functions may
overlap, so another function can come first there. `Image.refusal?` is what that second look comes to: a
reason to stop, or nothing in the way.

* `Action.colorBlocks_faultless` tells how far coloring comes: up to the first node that is refused.
* `Image.refusal?_of_found` and `Image.refusal?_of_hidden` show that in an image whose functions start
  at different addresses, either every node of a function is refused or none is. -/

namespace Tandem

theorem Function.covers_address (f : Function) : f.covers f.address = true := by
  simp [covers]

/-- A function that covers more than the address it starts at has blocks. -/
theorem Function.blocks_of_covers {f : Function} {a : Address} (covers : f.covers a = true)
    (apart : f.address ≠ a) : f.blocks ≠ [] := by
  intro bare
  simp [Function.covers, bare, apart] at covers

/-! ## Charts -/

namespace Image

variable {image : Image} {a : Address} {f : Function} {chart : FlowChart}

theorem flowchart_of_functionAt? (found : image.functionAt? a = some f) :
    image.flowchart a = (image.chartOf f).map some := by
  rw [flowchart, found]

theorem flowchart_of_uncovered (uncovered : image.functionAt? a = none) :
    image.flowchart a = .ok none := by
  rw [flowchart, uncovered]

theorem chartOf_of_blocks (blocks : f.blocks ≠ []) :
    image.chartOf f = .ok ⟨f.address, f.blocks.mapIdx fun id b => ⟨id, b.start, b.stop⟩⟩ := by
  simp [chartOf, blocks]

/-- A function without blocks has the one that is made up for it. -/
theorem chartOf_bare (bare : f.blocks = []) (charted : image.chartOf f = .ok chart) :
    ∃ stop, chart = ⟨f.address, [⟨0, f.address, stop⟩]⟩ := by
  simp only [chartOf, bare, List.isEmpty_nil, if_true] at charted
  split at charted
  · cases charted
    exact ⟨_, rfl⟩
  · cases charted

theorem function_of_chartOf (charted : image.chartOf f = .ok chart) : chart.function = f.address := by
  by_cases bare : f.blocks = []
  · obtain ⟨stop, rfl⟩ := chartOf_bare bare charted
    rfl
  · rw [chartOf_of_blocks bare] at charted
    cases charted
    rfl

/-- The ids of a chart are the positions of its blocks. -/
theorem id_lt_of_chartOf (charted : image.chartOf f = .ok chart) {b : FlowBlock}
    (member : b ∈ chart.blocks) : b.id < chart.blocks.length := by
  by_cases bare : f.blocks = []
  · obtain ⟨stop, rfl⟩ := chartOf_bare bare charted
    simp_all
  · rw [chartOf_of_blocks bare] at charted
    cases charted
    obtain ⟨id, there, rfl⟩ := List.mem_mapIdx.1 member
    simpa using there

/-- The blocks of a chart start where those of its function do. -/
theorem start_iff_of_chartOf (blocks : f.blocks ≠ []) (charted : image.chartOf f = .ok chart) (a : Address) :
    (∃ b ∈ chart.blocks, b.start = a) ↔ ∃ b ∈ f.blocks, b.start = a := by
  rw [chartOf_of_blocks blocks] at charted
  cases charted
  constructor
  · rintro ⟨b, member, rfl⟩
    obtain ⟨id, there, rfl⟩ := List.mem_mapIdx.1 member
    exact ⟨f.blocks[id], List.getElem_mem there, rfl⟩
  · rintro ⟨b, member, rfl⟩
    obtain ⟨id, there, rfl⟩ := List.getElem_of_mem member
    exact ⟨_, List.mem_mapIdx.2 ⟨id, there, rfl⟩, rfl⟩

theorem exists_chartOf (found : image.flowchart a = .ok (some chart)) :
    ∃ f, image.functionAt? a = some f ∧ image.chartOf f = .ok chart := by
  cases there : image.functionAt? a with
  | none =>
    rw [flowchart_of_uncovered there] at found
    cases found
  | some f =>
    rw [flowchart_of_functionAt? there] at found
    cases charted : image.chartOf f with
    | error stop => simp [charted, Except.map] at found
    | ok chart' =>
      simp only [charted, Except.map, Except.ok.injEq, Option.some.injEq] at found
      exact ⟨f, rfl, by rw [charted, found]⟩

/-! ## The second look -/

/-- The blocks of a chart that start at one of the offsets. -/
def listed (image : Image) (offsets : List Address) (chart : FlowChart) : List FlowBlock :=
  chart.blocks.filter ((offsets.map image.base.plus).contains ·.start)

/-- Why a node of the function that starts at an address is not colored. -/
def refusal? (image : Image) (function : Address) (id : Nat) : Option Stop :=
  match image.flowchart function with
  | .error stop => some stop
  | .ok none => some (.error (.functionNotFound function))
  | .ok (some chart) =>
    if chart.function ≠ function then some (.error (.functionNotFound function))
    else if id < chart.blocks.length then none
    else some (.error (.notFound ("block " ++ Text.decimal id ++ " of function " ++ function.text)))

/-- The nodes in front of the first one that is refused. -/
def colorable (image : Image) (function : Address) (blocks : List FlowBlock) : List FlowBlock :=
  blocks.takeWhile fun b => (image.refusal? function b.id).isNone

/-- There is a node with an id where a function is said to start: the first function that covers the
address starts there, and has a block with the id. -/
def HasNode (image : Image) (function : Address) (id : Nat) : Prop :=
  ∃ chart, image.flowchart function = .ok (some chart) ∧ chart.function = function ∧
    id < chart.blocks.length

/-- One of the offsets is the start of a block of the function. -/
def Lists (image : Image) (offsets : List Address) (f : Function) : Prop :=
  ∃ offset ∈ offsets, ∃ b ∈ f.blocks, b.start = image.base.plus offset

/-- No two functions start at the same address. -/
def Distinct (image : Image) : Prop := (image.functions.map Function.address).Nodup

theorem mem_listed {offsets : List Address} {b : FlowBlock} :
    b ∈ image.listed offsets chart ↔
      b ∈ chart.blocks ∧ ∃ offset ∈ offsets, b.start = image.base.plus offset := by
  simp [listed, eq_comm]

theorem exists_mem_listed (offsets : List Address) (blocks : f.blocks ≠ [])
    (charted : image.chartOf f = .ok chart) :
    (∃ b, b ∈ image.listed offsets chart) ↔ image.Lists offsets f := by
  have starts := start_iff_of_chartOf blocks charted
  simp only [mem_listed, Lists]
  constructor
  · rintro ⟨b, member, offset, given, start⟩
    exact ⟨offset, given, (starts _).1 ⟨b, member, start⟩⟩
  · rintro ⟨offset, given, there⟩
    obtain ⟨b, member, start⟩ := (starts _).2 there
    exact ⟨b, member, offset, given, start⟩

theorem refusal?_eq_none {function : Address} {id : Nat} :
    image.refusal? function id = none ↔ image.HasNode function id := by
  rw [refusal?, HasNode]
  cases image.flowchart function with
  | error stop => simp
  | ok found =>
    cases found with
    | none => simp
    | some chart =>
      by_cases own : chart.function = function
      · by_cases there : id < chart.blocks.length <;> simp [own, there]
      · simp [own]

theorem colorable_of_hasNode {function : Address} {blocks : List FlowBlock}
    (there : ∀ b ∈ blocks, image.HasNode function b.id) : image.colorable function blocks = blocks :=
  List.takeWhile_eq_self_iff.2 fun b member => by simp [refusal?_eq_none.2 (there b member)]

/-- The function that covers the address at which a function starts. There is one, but it may be another. -/
theorem exists_functionAt?_address (member : f ∈ image.functions) :
    ∃ g, image.functionAt? f.address = some g ∧ g ∈ image.functions ∧ g.covers f.address = true := by
  have covered : (image.functions.find? (·.covers f.address)).isSome = true :=
    List.find?_isSome.2 ⟨f, member, f.covers_address⟩
  obtain ⟨g, found⟩ := Option.isSome_iff_exists.1 covered
  have covers := List.find?_some found
  exact ⟨g, found, List.mem_of_find?_eq_some found, covers⟩

/-- A function without blocks is found nowhere but at its own address. -/
theorem functionAt?_address_of_bare (found : image.functionAt? a = some f) (bare : f.blocks = []) :
    image.functionAt? f.address = some f := by
  have covers := List.find?_some found
  have same : f.address = a := by
    by_contra apart
    exact Function.blocks_of_covers covers apart bare
  rw [same]
  exact found

/-- A function that is found at its own address has the nodes of its chart. -/
theorem refusal?_of_found (charted : image.chartOf f = .ok chart)
    (found : image.functionAt? f.address = some f) {b : FlowBlock} (member : b ∈ chart.blocks) :
    image.refusal? chart.function b.id = none := by
  rw [refusal?_eq_none, function_of_chartOf charted]
  refine ⟨chart, ?_, function_of_chartOf charted, id_lt_of_chartOf charted member⟩
  rw [flowchart_of_functionAt? found, charted]
  rfl

/-- A function that is not found at its own address is taken for missing, whichever node is asked for. -/
theorem refusal?_of_hidden (distinct : image.Distinct) (charted : image.chartOf f = .ok chart)
    (member : f ∈ image.functions) (hidden : image.functionAt? f.address ≠ some f) (id : Nat) :
    image.refusal? chart.function id = some (.error (.functionNotFound f.address)) := by
  obtain ⟨g, found, member', covers⟩ := exists_functionAt?_address member
  -- the one found there starts elsewhere, so it has blocks of its own and its chart cannot overflow
  have apart : g.address ≠ f.address := by
    intro same
    obtain rfl := List.inj_on_of_nodup_map distinct member' member same
    exact hidden found
  have blocks := Function.blocks_of_covers covers apart
  rw [function_of_chartOf charted, refusal?, flowchart_of_functionAt? found, chartOf_of_blocks blocks]
  simp [Except.map, apart]

end Image

/-! ## Colored nodes -/

namespace Host

variable {host : Host} {function : Address} {colors : NodeColors}

/-- A host after nodes of a function were colored, one after the other. -/
def nodesColored (host : Host) (function : Address) (colors : NodeColors) (blocks : List FlowBlock) : Host :=
  blocks.foldl (fun host b => host.nodeColored function b.id colors) host

theorem nodesColored_cons (b : FlowBlock) (blocks : List FlowBlock) :
    host.nodesColored function colors (b :: blocks) =
      (host.nodeColored function b.id colors).nodesColored function colors blocks := rfl

/-- Nothing is touched but the colors of nodes. -/
theorem nodesColored_eq (host : Host) (blocks : List FlowBlock) :
    host.nodesColored function colors blocks =
      { host with nodes := (host.nodesColored function colors blocks).nodes } := by
  induction blocks generalizing host with
  | nil => rfl
  | cons b blocks ih => exact ih (host.nodeColored function b.id colors)

theorem getElem?_nodeColored (id : Nat) (node : Address × Nat) :
    (host.nodeColored function id colors).nodes[node]? =
      if node = (function, id) then some colors else host.nodes[node]? := by
  simp only [nodeColored, Std.ExtTreeMap.getElem?_insert, Std.LawfulEqCmp.compare_eq_iff_eq]
  by_cases same : node = (function, id)
  · simp [same]
  · rw [if_neg same, if_neg (Ne.symm same)]

theorem getElem?_nodesColored (host : Host) (blocks : List FlowBlock) (node : Address × Nat) :
    (host.nodesColored function colors blocks).nodes[node]? =
      if ∃ b ∈ blocks, node = (function, b.id) then some colors else host.nodes[node]? := by
  induction blocks generalizing host with
  | nil => simp [nodesColored]
  | cons b blocks ih =>
    rw [nodesColored_cons, ih, getElem?_nodeColored]
    by_cases later : ∃ b ∈ blocks, node = (function, b.id)
    · simp [later]
    · by_cases here : node = (function, b.id) <;> simp_all

end Host

/-- A workspace after nodes of its host were colored. -/
def Workspace.nodesColored (w : Workspace) (function : Address) (colors : NodeColors)
    (blocks : List FlowBlock) : Workspace :=
  { w with host := w.host.nodesColored function colors blocks }

namespace Action

variable {w : Workspace} {first : Address} {rest : List Address} {colors : NodeColors} {chart : FlowChart}

/-- How coloring of nodes goes on does not depend on the order in which the offsets are listed, the first
one apart, or on how often they are. -/
theorem colorNodes_congr {rest' : List Address} (same : ∀ a, a ∈ first :: rest' ↔ a ∈ first :: rest)
    (colors : NodeColors) : colorNodes (first :: rest') colors = colorNodes (first :: rest) colors := by
  have wanted : ∀ base a : Address,
      ((first :: rest').map base.plus).contains a = ((first :: rest).map base.plus).contains a := by
    intro base a
    rw [Bool.eq_iff_iff]
    simp only [List.contains_iff_mem, List.mem_map, same]
  simp only [colorNodes, wanted]

variable (sound : w.host.Faultless)
include sound

theorem setNodeColors_faultless (function : Address) (id : Nat) (colors : NodeColors) :
    setNodeColors function id colors w =
      match w.host.image.refusal? function id with
      | none => .ok () { w with host := w.host.nodeColored function id colors }
      | some stop => .error stop w := by
  rw [setNodeColors, bind_of_ok (refusable_faultless sound _), bind_of_ok (host_ok w), Image.refusal?]
  cases w.host.image.flowchart function with
  | error stop => rfl
  | ok found =>
    cases found with
    | none => rfl
    | some chart =>
      simp only [ofExcept, pure_bind]
      by_cases own : chart.function = function
      · by_cases there : id < chart.blocks.length
        · simp only [own, there, ne_eq, not_true_eq_false, if_false, if_true]
          rfl
        · simp only [own, there, ne_eq, not_true_eq_false, if_false]
          rfl
      · simp only [own, ne_eq, not_false_eq_true, if_true]
        rfl

/-- Nodes are colored up to the first one that is refused. -/
theorem colorBlocks_faultless (function : Address) (colors : NodeColors) (blocks : List FlowBlock)
    (count : Nat) :
    colorBlocks function colors blocks count w =
      match blocks.findSome? (w.host.image.refusal? function ·.id) with
      | none => .ok (count + blocks.length)
          (w.nodesColored function colors (w.host.image.colorable function blocks))
      | some stop => .error stop
          (w.nodesColored function colors (w.host.image.colorable function blocks)) := by
  induction blocks generalizing w count with
  | nil => rfl
  | cons b blocks ih =>
    have step := setNodeColors_faultless sound function b.id colors
    rw [colorBlocks, List.findSome?_cons, Image.colorable, List.takeWhile_cons]
    cases refused : w.host.image.refusal? function b.id with
    | some stop =>
      rw [refused] at step
      rw [bind_of_error step]
      rfl
    | none =>
      rw [refused] at step
      -- coloring leaves the image as it is, so that the rest is refused as it was before
      rw [bind_of_ok step, ih (w := { w with host := w.host.nodeColored function b.id colors }) sound,
        List.length_cons, Nat.add_right_comm, Nat.add_assoc]
      rfl

/-- The chart at the first address decides how coloring goes on. -/
theorem colorNodes_faultless (first : Address) (rest : List Address) (colors : NodeColors) :
    colorNodes (first :: rest) colors w =
      match w.host.image.flowchart (w.host.image.base.plus first) with
      | .error stop => .error stop w
      | .ok none => .error (.error (.functionNotFound (w.host.image.base.plus first))) w
      | .ok (some chart) =>
        colorBlocks chart.function colors (w.host.image.listed (first :: rest) chart) 0 w := by
  have charted := flowchart_faultless sound (w.host.image.base.plus first)
  simp only [colorNodes]
  rw [bind_of_ok (imageBase_faultless sound)]
  cases found : w.host.image.flowchart (w.host.image.base.plus first) with
  | error stop =>
    rw [found] at charted
    rw [bind_of_error charted]
  | ok chart =>
    rw [found] at charted
    rw [bind_of_ok charted]
    cases chart <;> rfl

theorem colorNodes_of_chart
    (found : w.host.image.flowchart (w.host.image.base.plus first) = .ok (some chart)) :
    colorNodes (first :: rest) colors w =
      colorBlocks chart.function colors (w.host.image.listed (first :: rest) chart) 0 w := by
  rw [colorNodes_faultless sound, found]

theorem outcome_colorBlocks (function : Address) (colors : NodeColors) (blocks : List FlowBlock)
    (count : Nat) :
    (colorBlocks function colors blocks count).outcome w =
      w.nodesColored function colors (w.host.image.colorable function blocks) := by
  rw [outcome, colorBlocks_faultless sound]
  cases blocks.findSome? (w.host.image.refusal? function ·.id) <;> rfl

/-- When no node is refused, all of them are colored. -/
theorem colorBlocks_of_hasNode {function : Address} {blocks : List FlowBlock}
    (there : ∀ b ∈ blocks, w.host.image.HasNode function b.id) (count : Nat) :
    colorBlocks function colors blocks count w =
      .ok (count + blocks.length) (w.nodesColored function colors blocks) := by
  have unrefused : blocks.findSome? (w.host.image.refusal? function ·.id) = none :=
    List.findSome?_eq_none_iff.2 fun b member => Image.refusal?_eq_none.2 (there b member)
  rw [colorBlocks_faultless sound, unrefused, Image.colorable_of_hasNode there]

/-- When the first node is refused, none is colored. -/
theorem colorBlocks_of_refused {function : Address} {b : FlowBlock} {blocks : List FlowBlock} {stop : Stop}
    (refused : w.host.image.refusal? function b.id = some stop) (count : Nat) :
    colorBlocks function colors (b :: blocks) count w = .error stop w := by
  rw [colorBlocks_faultless sound, List.findSome?_cons, Image.colorable, List.takeWhile_cons, refused]
  rfl

end Action

/-! ## Nodes of the function found -/

/-- The first address listed leads to a chart. When all listed nodes of the chart are found again at the
address where its function starts, they are colored and counted, and nothing else is touched. They are
found again if no earlier function covers that address. When one is not, coloring stops early. Neither
the order of the other addresses nor duplicates among them make a difference. -/
theorem listed_nodes_are_colored {w : Workspace} (sound : w.host.Faultless) (first : Address)
    (rest : List Address) (colors : NodeColors) {chart : FlowChart}
    (found : w.host.image.flowchart (w.host.image.base.plus first) = .ok (some chart)) :
    ((∀ b ∈ w.host.image.listed (first :: rest) chart, w.host.image.HasNode chart.function b.id) →
      ∃ nodes, Action.colorNodes (first :: rest) colors w =
          .ok (w.host.image.listed (first :: rest) chart).length
            { w with host := { w.host with nodes := nodes } } ∧
        ∀ node : Address × Nat, nodes[node]? =
          if ∃ b ∈ w.host.image.listed (first :: rest) chart, node = (chart.function, b.id) then some colors
          else w.host.nodes[node]?) ∧
    ((∃ b ∈ w.host.image.listed (first :: rest) chart, ¬ w.host.image.HasNode chart.function b.id) →
      ∃ stop w', Action.colorNodes (first :: rest) colors w = .error stop w') ∧
    (w.host.image.functionAt? chart.function =
        w.host.image.functionAt? (w.host.image.base.plus first) →
      ∀ b ∈ chart.blocks, w.host.image.HasNode chart.function b.id) ∧
    ∀ rest' : List Address, (∀ a, a ∈ first :: rest' ↔ a ∈ first :: rest) →
      Action.colorNodes (first :: rest') colors = Action.colorNodes (first :: rest) colors := by
  refine ⟨fun there => ?_, ?_, fun again b member => ?_, fun rest' same => Action.colorNodes_congr same colors⟩
  · refine ⟨_, ?_, w.host.getElem?_nodesColored _⟩
    rw [Action.colorNodes_of_chart sound found, Action.colorBlocks_of_hasNode sound there, Nat.zero_add,
      ← Host.nodesColored_eq]
    rfl
  · rintro ⟨b, member, absent⟩
    rw [Action.colorNodes_of_chart sound found, Action.colorBlocks_faultless sound]
    cases refused : (w.host.image.listed (first :: rest) chart).findSome?
        (w.host.image.refusal? chart.function ·.id) with
    | some stop => exact ⟨stop, _, rfl⟩
    | none => exact absurd (Image.refusal?_eq_none.1 (List.findSome?_eq_none_iff.1 refused b member)) absent
  · obtain ⟨f, there, charted⟩ := Image.exists_chartOf found
    rw [there, Image.function_of_chartOf charted] at again
    exact Image.refusal?_eq_none.1 (Image.refusal?_of_found charted again member)

namespace Image.Sample

/-- An image whose functions have a block in common. -/
def joined : Image :=
  { bare with functions := [⟨0x1000, "first", [⟨0x1000, 0x1010⟩, ⟨0x1020, 0x1030⟩]⟩,
      ⟨0x1040, "second", [⟨0x1020, 0x1030⟩, ⟨0x1040, 0x1050⟩]⟩] }

/-- An image in which a function starts in the middle of an earlier one. -/
def nested : Image :=
  { bare with functions := [⟨0x1000, "outer", [⟨0x1000, 0x1020⟩]⟩,
      ⟨0x1010, "inner", [⟨0x1010, 0x1020⟩, ⟨0x1020, 0x1030⟩]⟩] }

/-- An image in which two functions start at the same address. -/
def twins : Image :=
  { bare with functions := [⟨0x1000, "short", [⟨0x1000, 0x1010⟩]⟩,
      ⟨0x1000, "long", [⟨0x1010, 0x1020⟩, ⟨0x1020, 0x1030⟩]⟩] }

/-- The chart of the second function in `joined`. -/
def second : FlowChart := ⟨0x1040, [⟨0, 0x1020, 0x1030⟩, ⟨1, 0x1040, 0x1050⟩]⟩

end Image.Sample

open Image.Sample in
/-- Both nodes of the second function are colored, and the node that the first one has in common with it
is not. -/
theorem shared_block_is_colored_for_one_function :
    (Host.load joined).Faultless ∧ joined.flowchart (joined.base.plus 0x40) = .ok (some second) ∧
      (∀ b ∈ joined.listed [0x40, 0x20, 0x40] second, joined.HasNode 0x1040 b.id) ∧
      ∃ nodes, Action.colorNodes [0x40, 0x20, 0x40] ⟨1, 2⟩ ⟨.load joined, .empty, {}⟩ =
          .ok 2 ⟨{ Host.load joined with nodes := nodes }, .empty, {}⟩ ∧
        nodes[((0x1040 : Address), 0)]? = some ⟨1, 2⟩ ∧ nodes[((0x1000 : Address), 1)]? = none := by
  have found : joined.flowchart (joined.base.plus 0x40) = .ok (some second) := rfl
  have there : ∀ b ∈ joined.listed [0x40, 0x20, 0x40] second, joined.HasNode 0x1040 b.id := by
    intro b member
    have charted : joined.flowchart 0x1040 = .ok (some second) := rfl
    refine ⟨second, charted, rfl, ?_⟩
    have all : b ∈ second.blocks := (Image.mem_listed.1 member).1
    simp only [second, List.mem_cons, List.not_mem_nil, or_false] at all
    rcases all with rfl | rfl <;> decide
  obtain ⟨colored, -⟩ := listed_nodes_are_colored (w := ⟨.load joined, .empty, {}⟩) (fun _ => rfl)
    0x40 [0x20, 0x40] ⟨1, 2⟩ found
  obtain ⟨nodes, done, known⟩ := colored there
  refine ⟨fun _ => rfl, found, there, nodes, done, ?_, ?_⟩
  · rw [known, if_pos]
    exact ⟨⟨0, 0x1020, 0x1030⟩, by decide, rfl⟩
  · rw [known, if_neg]
    · rfl
    · rintro ⟨b, -, same⟩
      cases same

open Image.Sample in
/-- A function is found, and yet its node cannot be colored, since another function covers the address
where it starts. Where another one starts at the same address, only the nodes are colored that the
other has too. -/
theorem covered_functions_are_not_colored :
    (∃ chart, nested.flowchart (nested.base.plus 0x20) = .ok (some chart) ∧
      nested.listed [0x20] chart = [⟨1, 0x1020, 0x1030⟩] ∧
      Action.colorNodes [0x20] ⟨1, 2⟩ ⟨.load nested, .empty, {}⟩ =
        .error (.error (.functionNotFound 0x1010)) ⟨.load nested, .empty, {}⟩) ∧
    ∃ chart w, twins.flowchart (twins.base.plus 0x10) = .ok (some chart) ∧
      twins.listed [0x10, 0x20] chart = [⟨0, 0x1010, 0x1020⟩, ⟨1, 0x1020, 0x1030⟩] ∧
      Action.colorNodes [0x10, 0x20] ⟨1, 2⟩ ⟨.load twins, .empty, {}⟩ =
        .error (.error (.notFound "block 1 of function 0x1000")) w ∧
      w.host.nodes.toList = [((0x1000, 0), ⟨1, 2⟩)] := by
  exact ⟨⟨_, rfl, rfl, rfl⟩, _, _, rfl, rfl, rfl, rfl⟩

/-! ## Failures -/

/-- How coloring nodes can end in an image whose functions start at different addresses. -/
inductive Workspace.NodesEnd (w : Workspace) (offsets : List Address) (anchor : Address) :
    EStateM.Result Stop Workspace Nat → Prop
  | uncovered (uncovered : w.host.image.functionAt? anchor = none) :
      NodesEnd w offsets anchor (.error (.error (.functionNotFound anchor)) w)
  | hidden {f : Function} (found : w.host.image.functionAt? anchor = some f)
      (lists : w.host.image.Lists offsets f) (hidden : w.host.image.functionAt? f.address ≠ some f) :
      NodesEnd w offsets anchor (.error (.error (.functionNotFound f.address)) w)
  | overflow {f : Function} (found : w.host.image.functionAt? anchor = some f)
      (own : w.host.image.functionAt? f.address = some f) : NodesEnd w offsets anchor (.error .overflow w)
  | colored {f : Function} {count : Nat} {w' : Workspace}
      (found : w.host.image.functionAt? anchor = some f)
      (own : w.host.image.Lists offsets f → w.host.image.functionAt? f.address = some f) :
      NodesEnd w offsets anchor (.ok count w')

theorem Action.nodesEnd_colorNodes {w : Workspace} (sound : w.host.Faultless)
    (distinct : w.host.image.Distinct) (first : Address) (rest : List Address) (colors : NodeColors) :
    w.NodesEnd (first :: rest) (w.host.image.base.plus first) (colorNodes (first :: rest) colors w) := by
  cases found : w.host.image.functionAt? (w.host.image.base.plus first) with
  | none =>
    rw [colorNodes_faultless sound, Image.flowchart_of_uncovered found]
    exact .uncovered found
  | some f =>
    have chart := Image.flowchart_of_functionAt? found
    cases charted : w.host.image.chartOf f with
    | error stop =>
      rw [charted] at chart
      obtain ⟨rfl, g, found', bare, -⟩ := Image.overflows_of_flowchart chart
      obtain rfl : g = f := Option.some.inj (found'.symm.trans found)
      rw [colorNodes_faultless sound, chart]
      exact .overflow found (Image.functionAt?_address_of_bare found bare)
    | ok chart' =>
      rw [charted] at chart
      rw [colorNodes_of_chart sound chart]
      by_cases own : w.host.image.functionAt? f.address = some f
      · rw [colorBlocks_of_hasNode sound fun b listed =>
          Image.refusal?_eq_none.1 (Image.refusal?_of_found charted own (Image.mem_listed.1 listed).1)]
        exact .colored found fun _ => own
      · -- no node of the function can be colored, so it matters only whether one is listed
        have blocks : f.blocks ≠ [] := fun bare => own (Image.functionAt?_address_of_bare found bare)
        have lists := Image.exists_mem_listed (first :: rest) blocks charted
        cases listed : w.host.image.listed (first :: rest) chart' with
        | nil =>
          refine .colored found fun wanted => ?_
          obtain ⟨b, member⟩ := lists.2 wanted
          simp [listed] at member
        | cons b blocks =>
          have refused := Image.refusal?_of_hidden distinct charted (List.mem_of_find?_eq_some found) own b.id
          rw [colorBlocks_of_refused sound refused]
          exact .hidden found (lists.1 ⟨b, by simp [listed]⟩) own

/-- In an image whose functions start at different addresses, coloring nodes changes nothing unless it
ends well. It ends with an error exactly when no function covers the first address listed, or the function
that does has a listed block and another one comes first at the address where it starts. -/
theorem node_coloring_is_all_or_nothing {w : Workspace} (sound : w.host.Faultless)
    (distinct : w.host.image.Distinct) (offsets : List Address) (colors : NodeColors) :
    (∀ stop w', Action.colorNodes offsets colors w = .error stop w' → w' = w) ∧
    ((∃ error w', Action.colorNodes offsets colors w = .error (.error error) w') ↔
      ∃ first rest, offsets = first :: rest ∧
        (w.host.image.functionAt? (w.host.image.base.plus first) = none ∨
          ∃ f, w.host.image.functionAt? (w.host.image.base.plus first) = some f ∧
            w.host.image.Lists offsets f ∧ w.host.image.functionAt? f.address ≠ some f)) := by
  cases offsets with
  | nil =>
    have ends : Action.colorNodes [] colors w = .ok 0 w := rfl
    simp [ends]
  | cons first rest =>
    have ends := Action.nodesEnd_colorNodes sound distinct first rest colors
    generalize Action.colorNodes (first :: rest) colors w = result at ends
    cases ends with
    | uncovered uncovered => simp [uncovered]
    | hidden found lists hidden => simp [found, lists, hidden]
    | overflow found own => simp [found, own, Stop.overflow]
    | colored found own => simpa [found] using own

open Image.Sample in
/-- The function that starts in the middle of another one cannot be colored. -/
theorem inner_function_keeps_its_colors :
    (Host.load nested).Faultless ∧ nested.Distinct ∧
      ∃ error, Action.colorNodes [0x20] ⟨1, 2⟩ ⟨.load nested, .empty, {}⟩ =
        .error (.error error) ⟨.load nested, .empty, {}⟩ := by
  have distinct : nested.Distinct := by
    simp [Image.Distinct, nested]
  obtain ⟨kept, fails⟩ := node_coloring_is_all_or_nothing (w := ⟨.load nested, .empty, {}⟩) (fun _ => rfl)
    distinct [0x20] ⟨1, 2⟩
  obtain ⟨error, w, failed⟩ := fails.2 ⟨0x20, [], rfl, .inr
    ⟨⟨0x1010, "inner", [⟨0x1010, 0x1020⟩, ⟨0x1020, 0x1030⟩]⟩, rfl,
      ⟨0x20, by simp, ⟨0x1020, 0x1030⟩, by simp, rfl⟩, by decide⟩⟩
  obtain rfl := kept _ w failed
  exact ⟨fun _ => rfl, distinct, error, failed⟩

end Tandem
