import Mathlib.Tactic.Lemma
import Mathlib.Tactic.ByCases

/-!
# Chains of checks

A reader is a chain of checks and reads, each of which may end it with an error. The lemmas below say
what has to hold for a chain to reach its end; as rewrite rules they turn a whole reader into the
conjunction of its conditions.
-/

namespace NcmBridge.Checks

variable {ε α β : Type}

lemma pure_eq_ok_iff {a r : α} : (pure a : Except ε α) = .ok r ↔ a = r := by
  simp [pure, Except.pure]

lemma ok_bind (a : α) (f : α → Except ε β) : (Except.ok a : Except ε α) >>= f = f a := rfl

lemma bind_eq_ok_iff {x : Except ε α} {f : α → Except ε β} {r : β} :
    x >>= f = .ok r ↔ ∃ a, x = .ok a ∧ f a = .ok r := by
  cases x with
  | error e => simp [bind, Except.bind]
  | ok a => simp [bind, Except.bind]

lemma map_eq_ok_iff {x : Except ε α} {f : α → β} {r : β} : x.map f = .ok r ↔ ∃ a, x = .ok a ∧ f a = r := by
  cases x with
  | error e => simp [Except.map]
  | ok a => simp [Except.map]

/-- A check that throws is passed exactly when its condition fails. -/
lemma unless_throw_eq_ok_iff {c : Prop} [Decidable c] {e : ε} {k : α → Except ε β}
    {x : Except ε β} {r : β} :
    (if c then throw e >>= k else x) = .ok r ↔ ¬c ∧ x = .ok r := by
  by_cases h : c
  · simp [h, throw, throwThe, MonadExceptOf.throw, bind, Except.bind]
  · simp [h]

/-- A chain does not fail in a way in which none of its parts does. -/
lemma bind_ne_error {x : Except ε α} {f : α → Except ε β} {e : ε} (hx : x ≠ .error e)
    (hf : ∀ a, f a ≠ .error e) : x >>= f ≠ .error e := by
  cases x with
  | error e' => exact fun h => hx (congrArg _ (Except.error.inj h))
  | ok a => exact hf a

/-- A check that throws does not fail in another way. -/
lemma unless_throw_ne_error {c : Prop} [Decidable c] {e e' : ε} {k : α → Except ε β}
    {x : Except ε β} (he : e ≠ e') (hx : x ≠ .error e') :
    (if c then throw e >>= k else x) ≠ .error e' := by
  split
  · exact fun h => he (Except.error.inj h)
  · exact hx

/-- What follows a read matters only for what the read yields. -/
lemma bind_congr_ok {x : Except ε α} {f g : α → Except ε β}
    (h : ∀ a, x = .ok a → f a = g a) : x >>= f = x >>= g := by
  cases x with
  | error e => rfl
  | ok a => exact h a rfl

end NcmBridge.Checks
