import Tandem.Proofs.MergeSort
import Tandem.Proofs.View.Activation
import Tandem.Proofs.View.Colors

/-! # Hosts in use

`Operation` lists all that is asked of a host: its primitives, the handling of offsets, and the work of
views. A host that has loaded an image and then carries out any operations one after the other, well or
not, stays `Host.Consistent`: it has jumped within its image only, it is where it jumped last, what it
knows of items is what the strokes so far come to, and it colors no nodes but those of its functions.

Jumps, nodes and tables are followed through the elementary changes that all work consists of. For items
the strokes of each operation are told in advance by `Operation.strokes`, so that writes can be counted. -/

namespace Tandem

/-! ## Items as two maps -/

namespace Host

theorem itemColors_painted (host : Host) (strokes : List Stroke) :
    (host.painted strokes).itemColors =
      strokes.foldl (fun colors stroke => colors.insert stroke.address stroke.color)
        host.itemColors := by
  induction strokes generalizing host with
  | nil => rfl
  | cons stroke strokes ih => exact ih (host.colored stroke.address stroke.color)

theorem colorWrites_painted (host : Host) (strokes : List Stroke) :
    (host.painted strokes).colorWrites =
      strokes.foldl (fun writes stroke =>
        writes.insert stroke.address (writes.getD stroke.address 0 + 1)) host.colorWrites := by
  induction strokes generalizing host with
  | nil => rfl
  | cons stroke strokes ih => exact ih (host.colored stroke.address stroke.color)

/-- A stroke puts its address into both maps, so they have the same addresses. -/
theorem mem_painted {host : Host} (same : ∀ a, a ∈ host.itemColors ↔ a ∈ host.colorWrites)
    (strokes : List Stroke) (a : Address) :
    a ∈ (host.painted strokes).itemColors ↔ a ∈ (host.painted strokes).colorWrites := by
  induction strokes generalizing host with
  | nil => exact same a
  | cons stroke strokes ih =>
    refine ih fun b => ?_
    simp only [colored, Std.ExtTreeMap.mem_insert, same b]

theorem keys_painted (host : Host) (same : ∀ a, a ∈ host.itemColors ↔ a ∈ host.colorWrites)
    (strokes : List Stroke) :
    (host.painted strokes).itemColors.keys = (host.painted strokes).colorWrites.keys := by
  have both := mem_painted same strokes
  -- keys are in order, so they are known by which ones there are
  rw [← List.filterMap_some (l := (host.painted strokes).itemColors.keys),
    ← List.filterMap_some (l := (host.painted strokes).colorWrites.keys)]
  refine filterMap_eq_of_ordered (fun _ _ => Std.OrientedCmp.not_lt_of_lt) Std.ExtTreeMap.ordered_keys
    Std.ExtTreeMap.ordered_keys ?_ ?_
  · intro a member _
    rw [Std.ExtTreeMap.mem_keys] at member ⊢
    exact ⟨(both a).1 member, rfl⟩
  · intro a member _
    rw [Std.ExtTreeMap.mem_keys] at member ⊢
    exact ⟨(both a).2 member, rfl⟩

end Host

/-! ## Operations -/

/-- What a host can be asked to do. -/
inductive Operation where
  -- what only looks at the host
  | imageBase
  | itemSize (a : Address)
  | shortName (a : Address)
  | current
  | flowchart (a : Address)
  | rootFilename
  | inputPath
  | contentHash
  | identity
  -- primitives that change it, each with what handles offsets by means of it
  | jumpTo (a : Address)
  | jumpToOffset (offset : Address)
  | setItemColor (a : Address) (color : Color)
  | colorRange (start stop : Address) (color : Color)
  | setNodeColors (function : Address) (id : Nat) (colors : NodeColors)
  | colorNodes (offsets : List Address) (colors : NodeColors)
  | exportAnalysis (path : String)
  | showTable (table : Table)
  -- the work of views, which may be any
  | build (document : MatchDocument) (role : Role) (peer : Option String) (palette : Palette)
  | colorMatch (view : MatchView) (m : FunctionMatch)
  | applyColors (view : MatchView)
  | activate (view : MatchView) (position : Nat)

namespace Operation

/-- Carries an operation out. -/
def perform : Operation → Action Unit
  | imageBase => discard Action.imageBase
  | itemSize a => discard (Action.itemSize a)
  | shortName a => discard (Action.shortName? a)
  | current => discard Action.current
  | flowchart a => discard (Action.flowchart a)
  | rootFilename => discard Action.rootFilename
  | inputPath => discard Action.inputPath
  | contentHash => discard Action.contentHash
  | identity => discard Action.identity
  | jumpTo a => Action.jumpTo a
  | jumpToOffset offset => discard (Action.jumpToOffset offset)
  | setItemColor a color => Action.setItemColor a color
  | colorRange start stop color => discard (Action.colorRange start stop color)
  | setNodeColors function id colors => Action.setNodeColors function id colors
  | colorNodes offsets colors => discard (Action.colorNodes offsets colors)
  | exportAnalysis path => Action.exportAnalysis path
  | showTable table => Action.showTable table
  | build document role peer palette => discard (MatchView.build document role peer palette)
  | colorMatch view m => discard (view.colorMatch m)
  | applyColors view => discard view.applyColors
  | activate view position => discard (view.activate position)

/-- The items that an operation colors, one after the other. -/
def strokes (image : Image) : Operation → List Stroke
  | setItemColor a color => [⟨a, color⟩]
  | colorRange start stop color => image.strokes color ⟨start, stop⟩
  | colorMatch view m => view.strokes image m
  | applyColors view => view.document.functions.flatMap (view.strokes image)
  | activate view position => (view.rows[position]?).toList.flatMap (view.rowStrokes image)
  | _ => []

end Operation

/-! ## Work that colors no items -/

namespace Action

variable {α β : Type} {w w' : Workspace}

/-- Work that leaves the colors of items alone. -/
def Spares (x : Action α) (w : Workspace) : Prop := w.host.SameItems (x.outcome w).host

theorem spares_of_ok {x : Action α} {a : α} (done : x w = .ok a w')
    (same : w.host.SameItems w'.host) : x.Spares w := by
  rw [Spares, outcome_of_ok done]
  exact same

theorem spares_of_error {x : Action α} {stop : Stop} (failed : x w = .error stop w) : x.Spares w := by
  rw [Spares, outcome_of_error failed]

theorem Spares.bind {x : Action α} {f : α → Action β} (first : x.Spares w)
    (rest : ∀ a w', x w = .ok a w' → (f a).Spares w') : (x >>= f).Spares w := by
  rw [Spares]
  obtain ⟨a, done, later⟩ | stopped := outcome_bind x f w
  · rw [later]
    exact first.trans (rest a _ done)
  · rw [stopped]
    exact first

theorem Spares.discard {x : Action α} (spares : x.Spares w) : (discard x).Spares w := by
  rw [Spares, outcome_discard]
  exact spares

theorem Proper.faultless_of_ok {x : Action α} {a : α} (proper : x.Proper w)
    (sound : w.host.Faultless) (done : x w = .ok a w') : w'.host.Faultless :=
  (proper.becomes_of_ok done).faultless sound

section

variable (sound : w.host.Faultless)
include sound

theorem spares_guarded_bind {p : Primitive} {f : Unit → Action β} (rest : (f ()).Spares w) :
    (guarded p >>= f).Spares w := by
  rw [Spares, outcome, bind_of_ok (guarded_faultless sound p)]
  exact rest

theorem spares_jumpTo (a : Address) : (jumpTo a).Spares w := by
  have jump := jumpTo_faultless sound a
  split at jump
  · exact spares_of_ok jump ⟨rfl, rfl⟩
  · exact spares_of_error jump

theorem spares_jumpToOffset (offset : Address) : (jumpToOffset offset).Spares w := by
  have jump := jumpToOffset_faultless sound offset
  split at jump
  · exact spares_of_ok jump ⟨rfl, rfl⟩
  · exact spares_of_error jump

theorem spares_flowchart (a : Address) : (flowchart a).Spares w := by
  have charted := flowchart_faultless sound a
  cases found : w.host.image.flowchart a with
  | ok chart =>
    rw [found] at charted
    exact spares_of_ok charted ⟨rfl, rfl⟩
  | error stop =>
    rw [found] at charted
    exact spares_of_error charted

theorem spares_setNodeColors (function : Address) (id : Nat) (colors : NodeColors) :
    (setNodeColors function id colors).Spares w := by
  cases found : w.host.image.flowchart function with
  | ok chart =>
    obtain ⟨error, failed⟩ | done := setNodeColors_of_ok sound found id colors
    · exact spares_of_error failed
    · exact spares_of_ok done ⟨rfl, rfl⟩
  | error stop =>
    have failed : setNodeColors function id colors w = .error stop w := by
      rw [setNodeColors, bind_of_ok (refusable_faultless sound _), bind_of_ok (host_ok w), found]
      rfl
    exact spares_of_error failed

theorem spares_colorBlocks (function : Address) (colors : NodeColors) (blocks : List FlowBlock)
    (count : Nat) : (colorBlocks function colors blocks count).Spares w := by
  induction blocks generalizing w count with
  | nil => exact spares_of_ok rfl ⟨rfl, rfl⟩
  | cons b blocks ih =>
    refine (spares_setNodeColors sound function b.id colors).bind fun _ w' done => ?_
    exact ih ((proper_setNodeColors function b.id colors).faultless_of_ok sound done) (count + 1)

theorem spares_colorNodes (offsets : List Address) (colors : NodeColors) :
    (colorNodes offsets colors).Spares w := by
  cases offsets with
  | nil => exact spares_of_ok rfl ⟨rfl, rfl⟩
  | cons first rest =>
    refine (spares_of_ok (imageBase_faultless sound) ⟨rfl, rfl⟩).bind fun base w' based => ?_
    have sound' := proper_imageBase.faultless_of_ok sound based
    refine (spares_flowchart sound' _).bind fun chart? w'' charted => ?_
    cases chart? with
    | none => exact spares_of_error rfl
    | some chart =>
      have sound'' := (proper_flowchart _).faultless_of_ok sound' charted
      exact spares_colorBlocks sound'' chart.function colors _ 0

theorem spares_exportAnalysis (path : String) : (exportAnalysis path).Spares w := by
  refine (spares_of_ok (refusable_faultless sound _) ⟨rfl, rfl⟩).bind fun _ w' passed => ?_
  refine (spares_of_ok (host_ok w') ⟨rfl, rfl⟩).bind fun host w'' read => ?_
  split
  · exact spares_of_error rfl
  · refine Spares.bind (spares_of_ok rfl ⟨rfl, rfl⟩) fun w₁ w₂ same => ?_
    cases same
    split
    · exact spares_of_ok rfl ⟨rfl, rfl⟩
    · exact spares_of_error rfl

end

end Action

/-! ## What operations do -/

namespace Operation

open Tandem.Action

variable {w : Workspace}

/-- Faults or not, an operation makes elementary changes only. -/
theorem becomes_perform (operation : Operation) : w.Becomes (operation.perform.outcome w) := by
  cases operation with
  | imageBase => exact proper_imageBase.discard.becomes
  | itemSize a => exact (proper_itemSize a).discard.becomes
  | shortName a => exact (proper_shortName? a).discard.becomes
  | current => exact (proper_host_bind (proper_pure _)).discard.becomes
  | flowchart a => exact (proper_flowchart a).discard.becomes
  | rootFilename => exact proper_rootFilename.discard.becomes
  | inputPath => exact (proper_host_bind (proper_pure _)).discard.becomes
  | contentHash => exact proper_contentHash.discard.becomes
  | identity => exact proper_identity.discard.becomes
  | jumpTo a => exact (proper_jumpTo a).becomes
  | jumpToOffset offset => exact (proper_jumpToOffset offset).discard.becomes
  | setItemColor a color => exact (proper_setItemColor a color).becomes
  | colorRange start stop color => exact (proper_colorRange start stop color).discard.becomes
  | setNodeColors function id colors => exact (proper_setNodeColors function id colors).becomes
  | colorNodes offsets colors => exact (proper_colorNodes offsets colors).discard.becomes
  | exportAnalysis path => exact becomes_exportAnalysis path w
  | showTable table => exact (proper_showTable table).becomes
  | build document role peer palette =>
    exact (MatchView.proper_build document role peer palette).discard.becomes
  | colorMatch view m => exact (MatchView.proper_colorMatch view m).discard.becomes
  | applyColors view => exact (MatchView.proper_colorMatches view _ 0).discard.becomes
  | activate view position => exact (MatchView.proper_activate view position).discard.becomes

/-- On a host without faults, what an operation does to items are its strokes. -/
theorem items_perform (sound : w.host.Faultless) (operation : Operation) :
    (w.host.painted (operation.strokes w.host.image)).SameItems (operation.perform.outcome w).host := by
  -- an operation without strokes is shown to spare the items, the others are known exactly
  cases operation with
  | imageBase => exact (spares_of_ok (imageBase_faultless sound) ⟨rfl, rfl⟩).discard
  | itemSize a => exact (spares_of_ok (itemSize_faultless sound a) ⟨rfl, rfl⟩).discard
  | shortName a => exact (spares_of_ok (shortName?_faultless sound a) ⟨rfl, rfl⟩).discard
  | current => exact Spares.discard (spares_of_ok rfl ⟨rfl, rfl⟩)
  | flowchart a => exact (spares_flowchart sound a).discard
  | rootFilename => exact Spares.discard (spares_guarded_bind sound (spares_of_ok rfl ⟨rfl, rfl⟩))
  | inputPath => exact Spares.discard (spares_of_ok rfl ⟨rfl, rfl⟩)
  | contentHash => exact Spares.discard (spares_guarded_bind sound (spares_of_ok rfl ⟨rfl, rfl⟩))
  | identity => exact (spares_of_ok (identity_faultless sound) ⟨rfl, rfl⟩).discard
  | jumpTo a => exact spares_jumpTo sound a
  | jumpToOffset offset => exact (spares_jumpToOffset sound offset).discard
  | setItemColor a color =>
    rw [perform, outcome_of_ok (setItemColor_faultless sound a color)]
    rfl
  | colorRange start stop color =>
    rw [perform, outcome_discard, outcome_of_ok (colorRange_paintable sound.paintable _ _ _)]
    rfl
  | setNodeColors function id colors => exact spares_setNodeColors sound function id colors
  | colorNodes offsets colors => exact (spares_colorNodes sound offsets colors).discard
  | exportAnalysis path => exact spares_exportAnalysis sound path
  | showTable table => exact spares_of_ok (showTable_faultless sound table) ⟨rfl, rfl⟩
  | build document role peer palette =>
    refine ((spares_of_ok (imageBase_faultless sound) ⟨rfl, rfl⟩).bind fun base w' based => ?_).discard
    have sound' := proper_imageBase.faultless_of_ok sound based
    refine (spares_of_ok (MatchView.rowsFrom_faultless sound' _ _ _ _) ⟨rfl, rfl⟩).bind fun _ _ _ => ?_
    exact spares_of_ok rfl ⟨rfl, rfl⟩
  | colorMatch view m =>
    rw [perform, outcome_discard, outcome_of_ok (view.colorMatch_paintable sound.paintable m)]
    rfl
  | applyColors view =>
    rw [perform, outcome_discard, outcome_of_ok (view.applyColors_paintable sound.paintable)]
    rfl
  | activate view position =>
    rw [perform, outcome_discard, strokes]
    cases shown : view.rows[position]? with
    | none => exact spares_of_error (MatchView.activate_none shown)
    | some row =>
      -- the jump and the command come before the strokes and leave the items as they are
      have attempted : w.host.SameItems (w.host.attempted row.ownAddress) := by
        unfold Host.attempted
        split <;> exact ⟨rfl, rfl⟩
      rw [outcome_of_ok (view.activate_painted sound shown), Option.toList_some,
        List.flatMap_singleton]
      exact attempted.painted _

end Operation

/-! ## Runs -/

/-- What happens around a host. -/
inductive Event where
  | performed (operation : Operation)
  /-- Others write files, and the outbox is emptied, filled or closed. -/
  | elsewhere (files : Files) (outbox : Outbox)

def Event.strokes (image : Image) : Event → List Stroke
  | performed operation => operation.strokes image
  | elsewhere .. => []

namespace Workspace

variable {w : Workspace}

/-- A workspace after an event. An operation that fails leaves what it has done up to there. -/
def after (w : Workspace) : Event → Workspace
  | .performed operation => operation.perform.outcome w
  | .elsewhere files outbox => { w with files := files, outbox := outbox }

def run (w : Workspace) (events : List Event) : Workspace := events.foldl after w

/-- What every change of a workspace keeps of its host is kept along a run. -/
theorem run_invariant {P : Host → Prop} (keeps : ∀ {w w' : Workspace}, w.Change w' → P w.host → P w'.host)
    (holds : P w.host) (events : List Event) : P (w.run events).host := by
  induction events generalizing w with
  | nil => exact holds
  | cons event events ih =>
    refine ih ?_
    cases event with
    | performed operation => exact operation.becomes_perform.invariant (P := (P ·.host)) keeps holds
    | elsewhere files outbox => exact holds

theorem faultless_run (sound : w.host.Faultless) (events : List Event) :
    (w.run events).host.Faultless := by
  refine run_invariant (fun change sound => ?_) sound events
  exact change.becomes.faultless sound

theorem image_run (w : Workspace) (events : List Event) : (w.run events).host.image = w.host.image := by
  refine run_invariant (P := (·.image = w.host.image)) (fun change same => ?_) rfl events
  exact change.becomes.image.trans same

/-- Along a run, items are painted with the strokes of one event after the other. -/
theorem items_run (sound : w.host.Faultless) (events : List Event) :
    (w.host.painted (events.flatMap (·.strokes w.host.image))).SameItems (w.run events).host := by
  induction events generalizing w with
  | nil => exact .refl _
  | cons event events ih =>
    have image : (w.after event).host.image = w.host.image := w.image_run [event]
    have sound' : (w.after event).host.Faultless := faultless_run sound [event]
    have items : (w.host.painted (event.strokes w.host.image)).SameItems (w.after event).host := by
      cases event with
      | performed operation => exact operation.items_perform sound
      | elsewhere files outbox => exact .refl _
    have rest := ih sound'
    rw [image] at rest
    rw [List.flatMap_cons, Host.painted_append, run, List.foldl_cons, ← run]
    exact (items.painted _).trans rest

end Workspace

/-! ## Invariants -/

theorem Image.contains_iff {image : Image} {a : Address} :
    image.contains a = true ↔
      image.base.toNat ≤ a.toNat ∧ a.toNat < image.base.toNat + image.size.toNat := by
  rw [contains]
  by_cases above : image.base ≤ a
  · have le := UInt64.le_iff_toNat_le.1 above
    simp only [above, UInt64.lt_iff_toNat_lt, UInt64.toNat_sub_of_le a image.base above,
      decide_true, Bool.true_and, decide_eq_true_eq]
    omega
  · have below := UInt64.lt_iff_toNat_lt.1 (UInt64.not_le.1 above)
    simp only [above, decide_false, Bool.false_and, Bool.false_eq_true, false_iff]
    omega

/-- A chart belongs to a function of the image. -/
theorem Image.exists_function_of_flowchart {image : Image} {a : Address} {chart : FlowChart}
    (found : image.flowchart a = .ok (some chart)) : ∃ f ∈ image.functions, f.address = chart.function := by
  rw [flowchart] at found
  cases there : image.functionAt? a with
  | none => simp [there] at found
  | some f =>
    refine ⟨f, List.mem_of_find?_eq_some there, ?_⟩
    simp only [there, chartOf] at found
    by_cases bare : f.blocks.isEmpty = true
    · rw [if_pos bare] at found
      split at found
      · cases found
        rfl
      · cases found
    · rw [if_neg bare] at found
      cases found
      rfl

/-- What the changes of a host keep: where it has been, and which items and nodes it has colored. -/
structure Host.Kept (image : Image) (host : Host) : Prop where
  loaded : host.image = image
  jumps : ∀ a ∈ host.jumps, image.contains a = true
  current : host.current = host.jumps.getLast?.getD image.base
  written : ∀ (a : Address) (n : Nat), host.colorWrites[a]? = some n → 1 ≤ n
  nodes : ∀ node ∈ host.nodes, ∃ chart, image.flowchart node.1 = .ok (some chart) ∧
    chart.function = node.1 ∧ node.2 < chart.blocks.length

theorem Host.kept_load (image : Image) : (load image).Kept image where
  loaded := rfl
  jumps := by simp [load]
  current := rfl
  written := by simp [load]
  nodes := by simp [load]

theorem Host.Kept.edit {image : Image} {w w' : Workspace} (edit : w.Edit w')
    (kept : w.host.Kept image) : w'.host.Kept image := by
  obtain ⟨rfl, jumps, current, written, nodes⟩ := kept
  -- each edit touches one of the invariants at most
  cases edit with
  | @jumped a inside =>
    refine ⟨rfl, fun b member => ?_, ?_, written, nodes⟩
    · rcases List.mem_append.1 member with earlier | last
      · exact jumps b earlier
      · rw [List.mem_singleton.1 last]
        exact inside
    · simp [jumped]
  | colored a color =>
    refine ⟨rfl, jumps, current, fun b n there => ?_, nodes⟩
    simp only [Host.colored, Std.ExtTreeMap.getElem?_insert] at there
    split at there
    · cases there
      exact Nat.le_add_left 1 _
    · exact written b n there
  | @nodeColored function id chart colors found own there =>
    refine ⟨rfl, jumps, current, written, fun node member => ?_⟩
    rcases Std.ExtTreeMap.mem_insert.1 member with new | old
    · rw [← Std.LawfulEqCmp.eq_of_compare new]
      exact ⟨chart, found, own, there⟩
    · exact nodes node old
  | shown table => exact ⟨rfl, jumps, current, written, nodes⟩
  | enqueued command => exact ⟨rfl, jumps, current, written, nodes⟩

theorem Host.Kept.change {image : Image} {w w' : Workspace} (change : w.Change w')
    (kept : w.host.Kept image) : w'.host.Kept image := by
  cases change with
  | edited edit => exact kept.edit edit
  | exported written =>
    obtain ⟨rfl, jumps, current, written, nodes⟩ := kept
    exact ⟨rfl, jumps, current, written, nodes⟩

/-- What is true of a host that has loaded an image and colored items with strokes. -/
structure Host.Consistent (image : Image) (strokes : List Stroke) (host : Host) : Prop where
  /-- The host has jumped into its image only. -/
  jumps : ∀ a ∈ host.jumps,
    image.base.toNat ≤ a.toNat ∧ a.toNat < image.base.toNat + image.size.toNat
  current : host.current = host.jumps.getLast?.getD image.base
  colors : host.itemColors =
    strokes.foldl (fun colors stroke => colors.insert stroke.address stroke.color) ∅
  writes : host.colorWrites = strokes.foldl (fun writes stroke =>
    writes.insert stroke.address (writes.getD stroke.address 0 + 1)) ∅
  keys : host.itemColors.keys = host.colorWrites.keys
  written : ∀ (a : Address) (n : Nat), host.colorWrites[a]? = some n → 1 ≤ n
  total : (host.colorWrites.toList.map (·.2)).sum = strokes.length
  /-- Nodes are those of functions, by their positions in the charts. -/
  nodes : ∀ node ∈ host.nodes, (∃ f ∈ image.functions, f.address = node.1) ∧
    ∃ chart, image.flowchart node.1 = .ok (some chart) ∧ node.2 < chart.blocks.length

/-- What changes keep and what strokes do to items make a host consistent. -/
theorem Host.Kept.consistent {image : Image} {host : Host} {strokes : List Stroke}
    (kept : host.Kept image) (items : ((load image).painted strokes).SameItems host) :
    host.Consistent image strokes where
  jumps a member := Image.contains_iff.1 (kept.jumps a member)
  current := kept.current
  colors := items.colors.trans (itemColors_painted (load image) strokes)
  writes := items.writes.trans (colorWrites_painted (load image) strokes)
  keys := by
    rw [items.colors, items.writes]
    exact (load image).keys_painted (by simp [load]) strokes
  written := kept.written
  total := by
    have total := (load image).writes_painted strokes
    rwa [writes_load, Nat.zero_add, Host.writes, ← items.writes] at total
  nodes node member := by
    obtain ⟨chart, found, own, there⟩ := kept.nodes node member
    exact ⟨own ▸ Image.exists_function_of_flowchart found, chart, found, there⟩

/-- A host that has loaded an image stays consistent, whatever it is asked and whatever happens
around it. -/
theorem used_hosts_are_consistent (image : Image) (files : Files) (outbox : Outbox)
    (events : List Event) :
    ((⟨.load image, files, outbox⟩ : Workspace).run events).host.Consistent image
      (events.flatMap (·.strokes image)) := by
  have kept := Workspace.run_invariant (w := ⟨.load image, files, outbox⟩) Host.Kept.change
    (Host.kept_load image) events
  exact kept.consistent (Workspace.items_run (w := ⟨.load image, files, outbox⟩) (fun _ => rfl) events)

end Tandem
