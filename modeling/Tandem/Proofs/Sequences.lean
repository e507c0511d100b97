/-! # Work in steps

Hosts, files and the machine are worked on step by step, and a step that fails ends the work with what
was done up to there. Here is what a sequence of steps comes to, whatever it works on. -/

namespace Tandem

variable {ε σ α β : Type} {s s' s'' : σ} {x : EStateM ε σ α} {f g : α → EStateM ε σ β}
  {handle : ε → EStateM ε σ α} {a : α} {b : β} {error : ε}

theorem bind_of_ok (first : x s = .ok a s') : (x >>= f) s = f a s' := by
  simp [bind, EStateM.bind, first]

theorem bind_of_error (first : x s = .error error s') : (x >>= f) s = .error error s' := by
  simp [bind, EStateM.bind, first]

theorem get_bind (f : σ → EStateM ε σ α) (s : σ) : (get >>= f) s = f s s := rfl

theorem bind_congr_ok (same : ∀ a s', x s = .ok a s' → f a s' = g a s') :
    (x >>= f) s = (x >>= g) s := by
  cases done : x s with
  | ok a s' => rw [bind_of_ok done, bind_of_ok done, same a s' done]
  | error error s' => rw [bind_of_error done, bind_of_error done]

/-- Work that ends well has ended well step by step. -/
theorem of_bind_ok (done : (x >>= f) s = .ok b s'') : ∃ a s', x s = .ok a s' ∧ f a s' = .ok b s'' := by
  cases first : x s with
  | ok a s' => exact ⟨a, s', rfl, (bind_of_ok first).symm.trans done⟩
  | error error s' =>
    rw [bind_of_error first] at done
    cases done

theorem discard_of_ok (done : x s = .ok a s') : discard x s = .ok () s' := by
  simp [discard, Functor.mapConst, EStateM.map, done]

theorem tryCatch_of_ok (done : x s = .ok a s') : tryCatch x handle s = .ok a s' := by
  have step : tryCatch x handle s = EStateM.tryCatch x handle s := rfl
  rw [step]
  delta EStateM.tryCatch
  rw [done]

theorem tryCatch_of_error (failed : x s = .error error s') : tryCatch x handle s = handle error s' := by
  have step : tryCatch x handle s = EStateM.tryCatch x handle s := rfl
  rw [step]
  delta EStateM.tryCatch
  rw [failed]
  rfl

end Tandem
