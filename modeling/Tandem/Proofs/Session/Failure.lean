import Tandem.Proofs.Network.Calls
import Tandem.Proofs.Session.Run

/-! # Requests that fail

On a host without faults, whatever can make a request fail is found out before the session changes. So
a request that is answered with an error leaves the session as it was, whichever of the methods it was
for, and whether or not the main loop still runs. `Action.Atomic` is what this asks of the work that a
request does on the host. -/

namespace Tandem

open Rpc (Call)

/-! ## Work that stops early -/

namespace Action

variable {α : Type} {w w' : Workspace}

/-- Work that leaves the workspace as it was when it stops early. -/
def Atomic (x : Action α) (w : Workspace) : Prop := ∀ stop w', x w = .error stop w' → w' = w

theorem atomic_of_ok {x : Action α} {a : α} (done : x w = .ok a w') : x.Atomic w := by
  intro stop w'' failed
  rw [done] at failed
  cases failed

theorem atomic_of_error {x : Action α} {stop : Stop} (failed : x w = .error stop w) : x.Atomic w := by
  intro stop' w' failed'
  rw [failed] at failed'
  cases failed'
  rfl

theorem atomic_jumpToOffset (sound : w.host.Faultless) (offset : Address) :
    (jumpToOffset offset).Atomic w := by
  have jump := jumpToOffset_faultless sound offset
  split at jump
  · exact atomic_of_ok jump
  · exact atomic_of_error jump

theorem atomic_rootFilename (sound : w.host.Faultless) : rootFilename.Atomic w := by
  have read : rootFilename w = .ok w.host.image.rootFilename w := by
    rw [rootFilename, bind_of_ok (guarded_faultless sound _)]
    rfl
  exact atomic_of_ok read

end Action

theorem MatchView.atomic_activate {w : Workspace} (sound : w.host.Faultless) (view : MatchView)
    (position : Nat) : (view.activate position).Atomic w := by
  cases shown : view.rows[position]? with
  | none => exact Action.atomic_of_error (activate_none shown)
  | some row =>
    obtain ⟨w', done, -⟩ := activate_faultless sound shown
    exact Action.atomic_of_ok done

/-! ## Answers -/

namespace Session

variable {s : Session}

theorem answerBy_failed {α : Type} {job : Action α} (atomic : job.Atomic s.workspace)
    {encode : α → Json} {error : Rpc.Error} (failed : (s.answerBy job encode).1 = .error error) :
    (s.answerBy job encode).2 = s := by
  cases isOpen : s.isOpen with
  | false => rw [answerBy_closed isOpen]
  | true =>
    cases done : job s.workspace with
    | ok a w =>
      rw [answerBy_ok isOpen done] at failed
      cases failed
    | error stop w =>
      obtain rfl := atomic stop w done
      rw [answerBy_error isOpen done]

/-- An answer that is an error comes from a session that stayed the same. -/
theorem answer_failed (sound : s.workspace.host.Faultless) {now : Nat} {call : Call}
    {error : Rpc.Error} (failed : (s.answer now call).1 = .error error) :
    (s.answer now call).2 = s := by
  cases call with
  | jumpto p => exact answerBy_failed (Action.atomic_jumpToOffset sound p.address) failed
  | setItemColor p =>
    exact answerBy_failed (Action.atomic_of_ok (Action.setItemColor_faultless sound _ _)) failed
  | getHash => exact answerBy_failed (Action.atomic_of_ok (Action.identity_faultless sound)) failed
  | getRootFilename => exact answerBy_failed (Action.atomic_rootFilename sound) failed
  | taskStatus p => rfl
  | viewRows p =>
    -- the view is sorted only once it is found, and nothing fails after that
    rw [answer, viewRows] at failed ⊢
    cases resolved : s.resolveView p.view with
    | error error => rfl
    | ok found =>
      rw [resolved] at failed
      cases sorts : p.sort with
      | none => rfl
      | some column =>
        rw [sorts] at failed
        cases failed
  | activateRow p =>
    rw [answer, activateRow] at failed ⊢
    cases resolved : s.resolveView p.view with
    | error error => rfl
    | ok found =>
      rw [resolved] at failed
      exact answerBy_failed (MatchView.atomic_activate sound found.2 p.row) failed
  | getPid => cases failed
  | exportTo p => cases failed
  | showDiff p => cases failed
  | runCommands p => cases failed

/-- Whatever has become of a session without faults, and whether or not its main loop still runs: a
request that it answers with an error leaves it as it is. -/
theorem failed_requests_change_nothing {start : Session} (sound : start.workspace.host.Faultless)
    (moves : List Move) (now : Nat) (body : ByteArray)
    (failed : ((start.play moves).handle now body).1.failure.isSome = true) :
    ((start.play moves).handle now body).2 = start.play moves := by
  have sound' := faultless_play sound moves
  cases found : Call.ofBody body with
  | mk id result =>
    cases result with
    | error error => rw [handle_of_error _ now found]
    | ok call =>
      rw [handle_of_call _ now found] at failed ⊢
      cases answered : ((start.play moves).answer now call).1 with
      | ok result =>
        rw [answered] at failed
        cases failed
      | error error => exact answer_failed sound' answered

namespace Sample

/-- The request to navigate to an offset. -/
def jumping (offset : Address) : ByteArray :=
  (Client.request 1 "jumpto" (.object [("address", .word offset)])).body

theorem ofBody_jumping (offset : Address) :
    Call.ofBody (jumping offset) = (some (.word 1), .ok (.jumpto ⟨offset⟩)) := by
  rw [jumping, Client.ofBody_request (Json.sendable_word "address" offset), Call.decode_jumpto]

/-- A jump into the image. -/
def near : List Move := [.request 0 (jumping 0x10)]

theorem play_near : idle.play near =
    { idle with workspace := { idle.workspace with host := idle.workspace.host.jumped 0x1010 } } := by
  have led : idle.workspace.host.led 0x10 = idle.workspace.host.jumped 0x1010 := by
    rw [Host.led, Host.attempted, if_pos (by decide)]
    rfl
  have answered := answer_jumpto (s := idle) rfl (fun _ => rfl) 0 0x10
  rw [led] at answered
  rw [near, play_cons, play_nil, move_of_call _ 0 (ofBody_jumping 0x10), answered]

theorem fails_after_near :
    ((idle.play near).handle 1 (jumping 0x200)).1.failure.isSome = true := by
  have sound : (idle.play near).workspace.host.Faultless := faultless_play (fun _ => rfl) near
  have jump := Action.jumpToOffset_faultless sound 0x200
  rw [play_near] at jump ⊢
  rw [if_neg (by decide)] at jump
  rw [handle_of_call _ 1 (ofBody_jumping 0x200), answer, answerBy_error rfl jump]
  rfl

end Sample

/-- A jump behind the end of the image fails, and the earlier jump is still the last one. -/
theorem far_jump_changes_nothing :
    ((Sample.idle.play Sample.near).handle 1 (Sample.jumping 0x200)).1.failure.isSome = true ∧
      ((Sample.idle.play Sample.near).handle 1 (Sample.jumping 0x200)).2 =
        Sample.idle.play Sample.near ∧
      (Sample.idle.play Sample.near).workspace.host.jumps = [0x1010] := by
  refine ⟨Sample.fails_after_near,
    failed_requests_change_nothing (fun _ => rfl) Sample.near 1 _ Sample.fails_after_near, ?_⟩
  rw [Sample.play_near]
  rfl

end Session

end Tandem
