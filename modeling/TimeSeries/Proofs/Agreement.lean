import Mathlib.Data.List.Forall2
import TimeSeries.Proofs.Outcome

set_option autoImplicit false

/-!
# Agreement of two computations

Two computations agree when both fail with the same error, or when both have a result and the two
results are related. Computations in steps agree when their steps do.
-/
namespace TimeSeries

variable {ε ε' α α' β β' : Type}

/-- The same error, or related results. -/
inductive Agree (R : α → α' → Prop) : Except ε α → Except ε α' → Prop
  | ok {a : α} {a' : α'} (related : R a a') : Agree R (.ok a) (.ok a')
  | error (e : ε) : Agree R (.error e) (.error e)

namespace Agree

variable {R : α → α' → Prop} {S : β → β' → Prop} {x : Except ε α} {x' : Except ε α'}

theorem bind (h : Agree R x x') {f : α → Except ε β} {f' : α' → Except ε β'}
    (hf : ∀ a a', R a a' → Agree S (f a) (f' a')) : Agree S (x >>= f) (x' >>= f') := by
  cases h with
  | ok related => exact hf _ _ related
  | error e => exact .error e

theorem map (h : Agree R x x') {f : α → β} {f' : α' → β'} (hf : ∀ a a', R a a' → S (f a) (f' a')) :
    Agree S (x.map f) (x'.map f') := by
  cases h with
  | ok related => exact .ok (hf _ _ related)
  | error e => exact .error e

theorem mapError (h : Agree R x x') (f : ε → ε') : Agree R (x.mapError f) (x'.mapError f) := by
  cases h with
  | ok related => exact .ok related
  | error e => exact .error (f e)

theorem mono {T : α → α' → Prop} (h : Agree R x x') (hle : ∀ a a', R a a' → T a a') :
    Agree T x x' := by
  cases h with
  | ok related => exact .ok (hle _ _ related)
  | error e => exact .error e

theorem refl {R : α → α → Prop} {x : Except ε α} (h : ∀ a, x = .ok a → R a a) : Agree R x x := by
  cases x with
  | ok a => exact .ok (h a rfl)
  | error e => exact .error e

theorem bind_same (x : Except ε α) {f : α → Except ε β} {f' : α → Except ε β'}
    (hf : ∀ a, Agree S (f a) (f' a)) : Agree S (x >>= f) (x >>= f') := by
  cases x with
  | ok a => exact hf a
  | error e => exact .error e

theorem map_same (x : Except ε α) {f : α → β} {f' : α → β'}
    (hf : ∀ a, S (f a) (f' a)) : Agree S (x.map f) (x.map f') := by
  cases x with
  | ok a => exact .ok (hf a)
  | error e => exact .error e

theorem forM {as : List α} {as' : List α'} (h : List.Forall₂ R as as') {f : α → Except ε PUnit}
    {f' : α' → Except ε PUnit} (hf : ∀ a a', R a a' → Agree (fun _ _ => True) (f a) (f' a')) :
    Agree (fun _ _ => True) (as.forM f) (as'.forM f') := by
  induction h with
  | nil => exact .ok trivial
  | cons ha _ ih =>
    rw [List.forM_eq_forM, List.forM_eq_forM] at ih ⊢
    rw [List.forM_cons, List.forM_cons]
    exact (hf _ _ ha).bind fun _ _ _ => ih

theorem of_ok {a : α} (h : Agree R x x') (hx : x = .ok a) : ∃ a', x' = .ok a' ∧ R a a' := by
  subst hx
  cases h with
  | ok related => exact ⟨_, rfl, related⟩

end Agree

end TimeSeries
