import Mathlib.Logic.Relation
import Tandem.Proofs.Host.Faultless

/-! # What work does to a workspace

Work on a host, whether it ends well or not, comes to a sequence of elementary changes: a jump into
the image, a color, a table, a command in the outbox, an export. `Workspace.Change` lists them, and
all but the export are edits, which leave the files alone. Each action but the export is shown to be
`Proper`, that is to make edits only. So whatever every change preserves is preserved by all work,
faults or not. -/

namespace Tandem

/-- An elementary change of a workspace that leaves the files alone. -/
inductive Workspace.Edit (w : Workspace) : Workspace → Prop
  | jumped {a : Address} (inside : w.host.image.contains a = true) :
      Edit w { w with host := w.host.jumped a }
  | colored (a : Address) (color : Color) : Edit w { w with host := w.host.colored a color }
  | nodeColored {function : Address} {id : Nat} {chart : FlowChart} (colors : NodeColors)
      (found : w.host.image.flowchart function = .ok (some chart)) (own : chart.function = function)
      (there : id < chart.blocks.length) :
      Edit w { w with host := w.host.nodeColored function id colors }
  | shown (table : Table) : Edit w { w with host := w.host.shown table }
  | enqueued (command : SyncCommand) :
      Edit w { w with outbox := (w.outbox.enqueue command).2 }

/-- An elementary change of a workspace. -/
inductive Workspace.Change (w : Workspace) : Workspace → Prop
  | edited {w' : Workspace} (edit : w.Edit w') : Change w w'
  | exported {path : String} {files : Files}
      (written : w.files.write path w.host.image.exported.pretty.toUTF8 = .ok files) :
      Change w { w with files := files, host := { w.host with exports := w.host.exports ++ [path] } }

/-- A workspace comes out of another by edits one after the other. -/
def Workspace.Edits : Workspace → Workspace → Prop := Relation.ReflTransGen Edit

/-- A workspace comes out of another by changes one after the other. -/
def Workspace.Becomes : Workspace → Workspace → Prop := Relation.ReflTransGen Change

namespace Workspace

variable {w w' w'' : Workspace}

theorem Edits.refl (w : Workspace) : w.Edits w := Relation.ReflTransGen.refl

theorem Edits.trans (first : w.Edits w') (second : w'.Edits w'') : w.Edits w'' :=
  Relation.ReflTransGen.trans first second

theorem Edits.becomes (edits : w.Edits w') : w.Becomes w' :=
  Relation.ReflTransGen.mono (fun _ _ => Change.edited) _ _ edits

theorem Edits.files (edits : w.Edits w') : w'.files = w.files := by
  induction edits with
  | refl => rfl
  | tail _ edit ih => cases edit <;> exact ih

theorem Becomes.refl (w : Workspace) : w.Becomes w := Relation.ReflTransGen.refl

theorem Edit.edits (edit : w.Edit w') : w.Edits w' := Relation.ReflTransGen.single edit

theorem Change.becomes (change : w.Change w') : w.Becomes w' := Relation.ReflTransGen.single change

/-- What every change preserves is preserved by all of them together. -/
theorem Becomes.invariant {P : Workspace → Prop} (keeps : ∀ {w w'}, w.Change w' → P w → P w')
    (becomes : w.Becomes w') (holds : P w) : P w' := by
  induction becomes with
  | refl => exact holds
  | tail _ change ih => exact keeps change ih

theorem Becomes.faults (becomes : w.Becomes w') : w'.host.faults = w.host.faults := by
  refine becomes.invariant (P := fun v => v.host.faults = w.host.faults) (fun change same => ?_) rfl
  cases change with
  | edited edit => cases edit <;> exact same
  | exported written => exact same

theorem Becomes.image (becomes : w.Becomes w') : w'.host.image = w.host.image := by
  refine becomes.invariant (P := fun v => v.host.image = w.host.image) (fun change same => ?_) rfl
  cases change with
  | edited edit => cases edit <;> exact same
  | exported written => exact same

/-- No change sends the worker away. -/
theorem Becomes.accepts (becomes : w.Becomes w') : w'.outbox.isOpen = w.outbox.isOpen := by
  refine becomes.invariant (P := fun v => v.outbox.isOpen = w.outbox.isOpen) (fun change same => ?_) rfl
  cases change with
  | edited edit =>
    cases edit with
    | enqueued command =>
      rw [Outbox.enqueue]
      split <;> exact same
    | _ => exact same
  | exported written => exact same

/-- No change makes a host misbehave. -/
theorem Becomes.faultless (becomes : w.Becomes w') (sound : w.host.Faultless) :
    w'.host.Faultless := by
  rw [Host.Faultless, becomes.faults]
  exact sound

end Workspace

namespace Action

variable {α β : Type} {w w' : Workspace}

/-! ## Sequences -/

/-- The workspace that work leaves behind. -/
def outcome (x : Action α) (w : Workspace) : Workspace :=
  match x w with
  | .ok _ w' => w'
  | .error _ w' => w'

/-- Work that makes nothing but edits. -/
def Proper (x : Action α) (w : Workspace) : Prop := w.Edits (x.outcome w)

theorem outcome_of_ok {x : Action α} {a : α} (done : x w = .ok a w') : x.outcome w = w' := by
  rw [outcome, done]

theorem outcome_of_error {x : Action α} {stop : Stop} (failed : x w = .error stop w') :
    x.outcome w = w' := by
  rw [outcome, failed]

/-- Work in two steps goes on from where the first one leaves off, or stops there. -/
theorem outcome_bind (x : Action α) (f : α → Action β) (w : Workspace) :
    (∃ a, x w = .ok a (x.outcome w) ∧ (x >>= f).outcome w = (f a).outcome (x.outcome w)) ∨
      (x >>= f).outcome w = x.outcome w := by
  cases done : x w with
  | ok a w' =>
    left
    rw [outcome_of_ok done, outcome, bind_of_ok done]
    exact ⟨a, rfl, rfl⟩
  | error stop w' =>
    right
    rw [outcome_of_error done, outcome_of_error (bind_of_error done)]

theorem outcome_discard (x : Action α) (w : Workspace) : (discard x).outcome w = x.outcome w := by
  cases done : x w with
  | ok a w' => rw [outcome_of_ok done, outcome_of_ok (discard_of_ok done)]
  | error stop w' =>
    have failed : discard x w = .error stop w' := by
      simp [discard, Functor.mapConst, EStateM.map, done]
    rw [outcome_of_error done, outcome_of_error failed]

theorem proper_of_ok {x : Action α} {a : α} (done : x w = .ok a w') (edits : w.Edits w') :
    x.Proper w := by
  rw [Proper, outcome_of_ok done]
  exact edits

theorem Proper.becomes_of_ok {x : Action α} {a : α} (proper : x.Proper w) (done : x w = .ok a w') :
    w.Becomes w' := by
  rw [Proper, outcome_of_ok done] at proper
  exact proper.becomes

theorem Proper.bind {x : Action α} {f : α → Action β} (first : x.Proper w)
    (rest : ∀ a w', x w = .ok a w' → (f a).Proper w') : (x >>= f).Proper w := by
  rw [Proper]
  obtain ⟨a, done, later⟩ | stopped := outcome_bind x f w
  · rw [later]
    exact first.trans (rest a _ done)
  · rw [stopped]
    exact first

theorem proper_pure (a : α) : (pure a : Action α).Proper w := .refl w

theorem proper_refuse (error : HostError) : (refuse error : Action α).Proper w := .refl w

theorem Proper.discard {x : Action α} (proper : x.Proper w) : (discard x).Proper w := by
  rw [Proper, outcome_discard]
  exact proper

theorem Proper.tryCatch {x : Action α} {handle : Stop → Action α} (proper : x.Proper w)
    (handled : ∀ stop w', (handle stop).Proper w') : (tryCatch x handle).Proper w := by
  rw [Proper] at proper ⊢
  cases done : x w with
  | ok a w' =>
    rw [outcome_of_ok done] at proper
    rw [outcome_of_ok (tryCatch_of_ok done)]
    exact proper
  | error stop w' =>
    rw [outcome_of_error done] at proper
    rw [outcome, tryCatch_of_error done]
    exact proper.trans (handled stop w')

/-! ## Primitives -/

/-- What follows a step that changes nothing finds the workspace as it was. -/
theorem proper_bind_of_same {x : Action α} {f : α → Action β} {a : α}
    (same : x w = .ok a w ∨ ∃ stop, x w = .error stop w) (rest : (f a).Proper w) :
    (x >>= f).Proper w := by
  rcases same with passed | ⟨stop, stopped⟩
  · rw [Proper, outcome, bind_of_ok passed]
    exact rest
  · rw [Proper, outcome_of_error (bind_of_error stopped)]
    exact .refl w

theorem proper_guarded_bind {p : Primitive} {f : Unit → Action β} (rest : (f ()).Proper w) :
    (guarded p >>= f).Proper w := by
  refine proper_bind_of_same ?_ rest
  rw [guarded, bind_of_ok (host_ok w)]
  cases w.host.faults p with
  | none => exact .inl rfl
  | some fault =>
    cases fault with
    | panic text => exact .inr ⟨_, rfl⟩
    | fail reason => exact .inl rfl
    | plain => exact .inl rfl

theorem refusable_same (p : Primitive) (w : Workspace) :
    refusable p w = .ok () w ∨ ∃ stop, refusable p w = .error stop w := by
  rw [refusable, bind_of_ok (host_ok w)]
  cases w.host.faults p with
  | none => exact .inl rfl
  | some fault =>
    cases fault with
    | panic text => exact .inr ⟨_, rfl⟩
    | fail reason => exact .inr ⟨_, rfl⟩
    | plain => exact .inl rfl

theorem proper_refusable_bind {p : Primitive} {f : Unit → Action β} (rest : (f ()).Proper w) :
    (refusable p >>= f).Proper w :=
  proper_bind_of_same (refusable_same p w) rest

theorem proper_host_bind {f : Host → Action β} (rest : (f w.host).Proper w) :
    (host >>= f).Proper w :=
  proper_bind_of_same (.inl (host_ok w)) rest

theorem proper_modifyHost {f : Host → Host} (edit : w.Edit { w with host := f w.host }) :
    (modifyHost f).Proper w :=
  proper_of_ok rfl edit.edits

theorem proper_imageBase : imageBase.Proper w :=
  proper_guarded_bind (proper_host_bind (proper_pure _))

theorem proper_itemSize (a : Address) : (itemSize a).Proper w :=
  proper_guarded_bind (proper_host_bind (proper_pure _))

theorem proper_shortName? (a : Address) : (shortName? a).Proper w :=
  proper_guarded_bind (proper_host_bind (proper_pure _))

theorem proper_rootFilename : rootFilename.Proper w :=
  proper_guarded_bind (proper_host_bind (proper_pure _))

theorem proper_contentHash : contentHash.Proper w :=
  proper_guarded_bind (proper_host_bind (proper_pure _))

theorem proper_jumpTo (a : Address) : (jumpTo a).Proper w := by
  refine proper_refusable_bind (proper_host_bind ?_)
  split
  · rename_i inside
    exact proper_modifyHost (.jumped inside)
  · exact proper_refuse _

theorem proper_setItemColor (a : Address) (color : Color) : (setItemColor a color).Proper w :=
  proper_guarded_bind (proper_modifyHost (.colored a color))

theorem proper_flowchart (a : Address) : (flowchart a).Proper w := by
  refine proper_guarded_bind (proper_host_bind ?_)
  cases w.host.image.flowchart a with
  | ok chart => exact proper_pure _
  | error stop => exact .refl w

theorem proper_setNodeColors (function : Address) (id : Nat) (colors : NodeColors) :
    (setNodeColors function id colors).Proper w := by
  refine proper_refusable_bind (proper_host_bind ?_)
  cases found : w.host.image.flowchart function with
  | error stop => exact .refl w
  | ok chart? =>
    cases chart? with
    | none => exact .refl w
    | some chart =>
      refine Proper.bind (.refl w) fun chart' w' read => ?_
      cases read
      simp only
      split
      · exact proper_refuse _
      · rename_i own
        split
        · rename_i there
          exact proper_modifyHost (.nodeColored colors found (Decidable.not_not.1 own) there)
        · exact proper_refuse _

theorem proper_showTable (table : Table) : (showTable table).Proper w := by
  refine proper_refusable_bind (proper_host_bind ?_)
  split
  · exact proper_pure _
  · exact proper_modifyHost (.shown table)

theorem proper_enqueue (command : SyncCommand) : (enqueue command).Proper w :=
  proper_of_ok rfl (Workspace.Edit.enqueued command).edits

/-- An export is the one thing that writes a file. -/
theorem becomes_exportAnalysis (path : String) (w : Workspace) :
    w.Becomes ((exportAnalysis path).outcome w) := by
  rcases refusable_same .exportAnalysis w with passed | ⟨stop, stopped⟩
  · rw [exportAnalysis, outcome, bind_of_ok passed, bind_of_ok (host_ok w)]
    by_cases plain : w.host.faults .exportAnalysis = some .plain
    · rw [if_pos plain]
      exact .refl w
    · rw [if_neg plain, get_bind]
      cases written : w.files.write path w.host.image.exported.pretty.toUTF8 with
      | ok files => exact (Workspace.Change.exported written).becomes
      | error error => exact .refl w
  · rw [exportAnalysis, outcome_of_error (bind_of_error stopped)]
    exact .refl w

/-! ## Handling offsets -/

theorem proper_jumpToOffset (offset : Address) : (jumpToOffset offset).Proper w :=
  proper_imageBase.bind fun _ _ _ => (proper_jumpTo _).bind fun _ _ _ => proper_pure _

theorem proper_colorFrom (stop : Address) (color : Color) (a : Address) (count : Nat) :
    (colorFrom stop color a count).Proper w := by
  induction a, count using colorFrom.induct stop generalizing w with
  | case1 a count before ih =>
    rw [colorFrom, dif_pos before]
    exact (proper_setItemColor a color).bind fun _ _ _ =>
      (proper_itemSize a).bind fun size _ _ => ih size
  | case2 a count done =>
    rw [colorFrom, dif_neg done]
    exact proper_pure _

theorem proper_colorRange (start stop : Address) (color : Color) :
    (colorRange start stop color).Proper w :=
  proper_imageBase.bind fun _ _ _ => proper_colorFrom _ color _ 0

theorem proper_colorBlocks (function : Address) (colors : NodeColors) (blocks : List FlowBlock)
    (count : Nat) : (colorBlocks function colors blocks count).Proper w := by
  induction blocks generalizing w count with
  | nil => exact proper_pure _
  | cons b blocks ih =>
    exact (proper_setNodeColors function b.id colors).bind fun _ _ _ => ih (count + 1)

theorem proper_colorNodes (offsets : List Address) (colors : NodeColors) :
    (colorNodes offsets colors).Proper w := by
  cases offsets with
  | nil => exact proper_pure _
  | cons first rest =>
    refine proper_imageBase.bind fun base _ _ => (proper_flowchart _).bind fun chart? _ _ => ?_
    cases chart? with
    | none => exact proper_refuse _
    | some chart => exact proper_colorBlocks chart.function colors _ 0

theorem proper_identity : identity.Proper w := by
  refine proper_contentHash.bind fun _ _ _ => proper_rootFilename.bind fun _ _ _ => ?_
  exact Proper.bind (proper_host_bind (proper_pure _)) fun _ _ _ => proper_pure _

end Action

end Tandem
