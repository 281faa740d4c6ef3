import EntityQuery.Interruption
import Mathlib.Data.List.TakeWhile

/-!
# What an interruption leaves

Nothing is refused exactly if there is no cause (`cause?_eq_none_iff`), and then everything happens.
Otherwise the cause is the error of the first refusal, and what happens is what stands before it
(`cause?_eq_some_iff`). Things in a row are interrupted in the first of them, or else in the second
(`outcome_append`, `passed_append`).
-/

namespace EntityQuery
namespace Interruption

variable {α β : Type} {refuses : α → Option Error} {xs ys : List α}

/-- **Nothing is interrupted** exactly if everything is taken. -/
theorem cause?_eq_none_iff : cause? refuses xs = none ↔ ∀ x ∈ xs, refuses x = none :=
  List.findSome?_eq_none_iff

/-- What takes everything interrupts nothing. -/
theorem cause?_eq_none (h : ∀ x, refuses x = none) (xs : List α) : cause? refuses xs = none :=
  cause?_eq_none_iff.2 fun x _ => h x

/-- What is not interrupted happens. -/
theorem passed_of_cause?_eq_none (h : cause? refuses xs = none) : passed refuses xs = xs := by
  rw [passed, List.takeWhile_eq_self_iff]
  intro x hx
  rw [cause?_eq_none_iff.1 h x hx]
  rfl

/-- What is not interrupted comes to its own outcome. -/
theorem outcome_of_cause?_eq_none {r : Except Error β} (h : cause? refuses xs = none) :
    outcome refuses xs r = r := by
  rw [outcome, h]

/-- What is interrupted comes to the error of the first refusal. -/
theorem outcome_of_cause?_eq_some {r : Except Error β} {e : Error} (h : cause? refuses xs = some e) :
    outcome refuses xs r = .error e := by
  rw [outcome, h]

/-- **The cause is the error of the first refusal,** and what stands before it happens. -/
theorem cause?_eq_some_iff {e : Error} : cause? refuses xs = some e ↔
    ∃ x rest, xs = passed refuses xs ++ x :: rest ∧ refuses x = some e := by
  induction xs with
  | nil => simp [cause?]
  | cons y ys ih =>
    rw [cause?, List.findSome?_cons, passed, List.takeWhile_cons]
    cases h : refuses y with
    | none => simpa [cause?, passed] using ih
    | some e' => simp [h]

/-- The cause is in the first of two rows, or else in the second. -/
theorem cause?_append : cause? refuses (xs ++ ys) = (cause? refuses xs).or (cause? refuses ys) :=
  List.findSome?_append

/-- **Things in a row** are interrupted in the first of them, or else in the second. -/
theorem outcome_append {r : Except Error β} :
    outcome refuses (xs ++ ys) r = outcome refuses xs (outcome refuses ys r) := by
  rw [outcome, outcome, outcome, cause?_append]
  cases cause? refuses xs <;> rfl

/-- Behind what is interrupted nothing happens. -/
theorem passed_append : passed refuses (xs ++ ys) =
    passed refuses xs ++ if (cause? refuses xs).isNone then passed refuses ys else [] := by
  induction xs with
  | nil => rfl
  | cons x xs ih =>
    rw [List.cons_append, passed, List.takeWhile_cons, passed, List.takeWhile_cons, cause?,
      List.findSome?_cons]
    cases h : refuses x with
    | none => exact congrArg (x :: ·) ih
    | some e => rfl

/-- Things that are renamed are interrupted where the others are. -/
theorem cause?_map {γ : Type} {f : γ → α} {zs : List γ} :
    cause? refuses (zs.map f) = cause? (fun z => refuses (f z)) zs :=
  List.findSome?_map

/-- What happens of things that are renamed is renamed. -/
theorem passed_map {γ : Type} {f : γ → α} {zs : List γ} :
    passed refuses (zs.map f) = (passed (fun z => refuses (f z)) zs).map f :=
  List.takeWhile_map ..

end Interruption
end EntityQuery
