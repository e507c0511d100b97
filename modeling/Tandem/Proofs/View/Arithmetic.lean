import Tandem.Proofs.Host.Arithmetic
import Tandem.Proofs.Session.Service

/-! # Views with words

Building a view, coloring its matches and activating its rows, as a machine that counts with words
does it. Each comes to the same as without words, given words for the writes that the host has in the
end and a document that is in memory. -/

namespace Tandem

/-- The document is in memory with all its matched blocks. -/
def MatchDocument.Held (document : MatchDocument) : Prop :=
  ∀ m ∈ document.functions, Tandem.Held m.pairs

namespace Checked

open MatchView (rowOf)

def rowsFrom (role : Role) (base : Address) : Nat → List FunctionMatch → Action (List Row)
  | _, [] => return []
  | index, m :: rest => do
    let ownAddress := base.plus (m.address.on role)
    let hostName ← Action.shortName? ownAddress
    let matched ← (Calculation.product m.pairs.length 2).run
    let rows ← rowsFrom role base (index + 1) rest
    return { rowOf role ownAddress hostName index m with matched := matched } :: rows

def build (document : MatchDocument) (role : Role) (peer : Option String) : Action MatchView := do
  let base ← Action.imageBase
  let rows ← rowsFrom role base 0 document.functions
  return ⟨document, role, peer, .standard, rows⟩

/-- Does one thing after the other, and adds up what each comes to. -/
def total {α : Type} (each : α → Action Nat) : List α → Nat → Action Nat
  | [], count => return count
  | a :: rest, count => do total each rest (← (Calculation.sum count (← each a)).run)

def paint (color : Color) (blocks : List Block) : Action Nat :=
  total (fun b => colorRange b.start b.stop color) blocks 0

def colorMatch (view : MatchView) (m : FunctionMatch) : Action Nat := do
  let matched ← paint view.palette.matched (m.matchedBlocks view.role)
  let unmatched ← paint view.palette.unmatched (m.unidentified.on view.role)
  (Calculation.sum matched unmatched).run

def applyColors (view : MatchView) : Action Nat := total (colorMatch view) view.document.functions 0

def tryJump (a : Address) : Action Unit :=
  tryCatch (jumpTo a) fun
    | .error _ => pure ()
    | .panic text => throw (.panic text)

def activate (view : MatchView) (position : Nat) : Action (Option SyncCommand) := do
  match view.rows[position]? with
  | none => Action.refuse (.notFound ("row " ++ Text.decimal position))
  | some row =>
    tryJump row.ownAddress
    let command ← view.askPeer row
    match view.document.functions[row.index]? with
    | some m => discard (colorMatch view m)
    | none => pure ()
    return command

def openView (document : MatchDocument) (role : Role) (peer : Option String) : Action MatchView := do
  let view ← build document role peer
  discard (applyColors view)
  view.present
  return view

/-! ## Rows -/

theorem rowsFrom_eq (role : Role) (base : Address) (index : Nat) {ms : List FunctionMatch}
    (held : ∀ m ∈ ms, Tandem.Held m.pairs) :
    rowsFrom role base index ms = MatchView.rowsFrom role base index ms := by
  induction ms generalizing index with
  | nil => rfl
  | cons m ms ih =>
    have fits : m.pairs.length * 2 < UInt64.size := held m List.mem_cons_self
    rw [rowsFrom, MatchView.rowsFrom, Calculation.run_product fits,
      ih (index + 1) fun m member => held m (List.mem_cons_of_mem _ member)]
    simp only [pure_bind]
    rfl

theorem build_eq {document : MatchDocument} (held : document.Held) (role : Role)
    (peer : Option String) : build document role peer = MatchView.build document role peer .standard := by
  rw [build, MatchView.build]
  simp only [rowsFrom_eq _ _ _ held]

theorem tryJump_eq (a : Address) : tryJump a = MatchView.tryJump a :=
  congrArg (fun jump => tryCatch jump _) (jumpTo_eq a)

end Checked

/-! ## Colors -/

namespace MatchView

open Tandem.Action

variable {w : Workspace} (sound : w.host.Faultless)
include sound

theorem tallies_colorBlocks (color : Color) (blocks : List Block) :
    Tallies (Checked.total (fun b => Checked.colorRange b.start b.stop color) blocks)
      (colorBlocks color blocks) w := by
  induction blocks generalizing w with
  | nil => exact tallies_pure
  | cons b blocks ih =>
    exact (tallied_colorRange sound b.start b.stop color).add fun w' repainted =>
      ih (repainted.faultless sound)

theorem tallied_colorMatch (view : MatchView) (m : FunctionMatch) :
    Tallied (Checked.colorMatch view m) (view.colorMatch m) w := by
  obtain ⟨n, w', repainted, more, counted⟩ :=
    tallies_colorBlocks sound view.palette.matched (m.matchedBlocks view.role)
  obtain ⟨n', w'', repainted', more', counted'⟩ :=
    tallies_colorBlocks (repainted.faultless sound) view.palette.unmatched
      (m.unidentified.on view.role)
  obtain ⟨done, machine⟩ := counted 0
  obtain ⟨done', -⟩ := counted' (0 + n)
  obtain ⟨-, machine'⟩ := counted' 0
  rw [Nat.zero_add] at done machine done' machine'
  refine ⟨n + n', w'', repainted.trans repainted', by omega, (bind_of_ok done).trans done', ?_⟩
  intro few
  refine (bind_of_ok (machine (by omega) (by omega))).trans ?_
  refine (bind_of_ok (machine' few (by omega))).trans ?_
  rw [Calculation.run_sum (by omega)]
  rfl

theorem tallies_colorMatches (view : MatchView) (ms : List FunctionMatch) :
    Tallies (Checked.total (Checked.colorMatch view) ms) (view.colorMatches ms) w := by
  induction ms generalizing w with
  | nil => exact tallies_pure
  | cons m ms ih =>
    exact (tallied_colorMatch sound view m).add fun w' repainted => ih (repainted.faultless sound)

/-! ## Activation and opening -/

theorem calm_activate (view : MatchView) (position : Nat) : (view.activate position).Calm w := by
  cases shown : view.rows[position]? with
  | none => exact calm_of_error (activate_none shown)
  | some row =>
    obtain ⟨w', done, -⟩ := activate_faultless sound shown
    exact calm_of_ok done

theorem activate_checked {view : MatchView} {position : Nat}
    (few : ((view.activate position).outcome w).host.writes < UInt64.size) :
    Checked.activate view position w = view.activate position w := by
  cases shown : view.rows[position]? with
  | none =>
    rw [activate_none shown, Checked.activate, shown]
    rfl
  | some row =>
    have jump := tryJump_faultless sound row.ownAddress
    have asked := view.askPeer_eq row { w with host := w.host.attempted row.ownAddress }
    have sound' : (view.followed row w).host.Faultless := sound.attempted row.ownAddress
    cases found : view.document.functions[row.index]? with
    | none => simp only [Checked.activate, activate, shown, found, Checked.tryJump_eq]
    | some m =>
      obtain ⟨n, w', repainted, more, done, machine⟩ := tallied_colorMatch sound' view m
      have plain : view.activate position w = .ok (view.command? w.outbox row) w' := by
        rw [activate, shown]
        simp only
        rw [bind_of_ok jump, bind_of_ok asked, found]
        exact bind_of_ok (discard_of_ok done)
      rw [outcome_of_ok plain] at few
      rw [plain, Checked.activate, shown]
      simp only [Checked.tryJump_eq]
      rw [bind_of_ok jump, bind_of_ok asked, found]
      exact bind_of_ok (discard_of_ok (machine few))

end MatchView

namespace Session

variable {w : Workspace}

theorem openView_checked (sound : w.host.Faultless) {document : MatchDocument} (held : document.Held)
    (role : Role) (peer : Option String)
    (few : ((openView document role peer).outcome w).host.writes < UInt64.size) :
    Checked.openView document role peer w = openView document role peer w := by
  have built := MatchView.build_faultless sound document role peer
  obtain ⟨n, w', repainted, more, done, machine⟩ :=
    (MatchView.tallies_colorMatches sound (.ofDocument w.host.image document role peer)
      document.functions).tallied
  obtain ⟨w'', shows, same⟩ : ∃ w'',
      (MatchView.ofDocument w.host.image document role peer).present w' = .ok () w'' ∧
        w''.host.writes = w'.host.writes :=
    ⟨_, MatchView.present_faultless (repainted.faultless sound) _, rfl⟩
  have opened : openView document role peer w =
      .ok (.ofDocument w.host.image document role peer) w'' := by
    rw [openView, bind_of_ok built]
    exact (bind_of_ok (discard_of_ok done)).trans (bind_of_ok shows)
  rw [Action.outcome_of_ok opened, same] at few
  rw [opened, Checked.openView, Checked.build_eq held, bind_of_ok built]
  exact (bind_of_ok (discard_of_ok (machine few))).trans (bind_of_ok shows)

end Session

end Tandem
