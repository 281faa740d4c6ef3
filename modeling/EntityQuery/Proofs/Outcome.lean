import Mathlib.Data.List.Forall2

/-!
# Outcomes of steps in a row

A step that can fail gives a value or an error. The lemmas say when steps in a row succeed: a step
behind another one (`bind_eq_ok`, `map_eq_ok`), and one step for each element of a list
(`mapM_eq_ok`, `exists_mapM`); and with which error they fail (`bind_eq_error`, `mapM_eq_error`).
-/

namespace EntityQuery
namespace Outcome

variable {ε α β : Type}

/-- A function is applied to a result. -/
theorem map_eq_ok {f : α → β} {x : Except ε α} {b : β} :
    f <$> x = .ok b ↔ ∃ a, x = .ok a ∧ f a = b := by
  cases x <;> simp [Functor.map, Except.map]

/-- Two steps in a row succeed exactly if both do. -/
theorem bind_eq_ok {f : α → Except ε β} {x : Except ε α} {b : β} :
    x >>= f = .ok b ↔ ∃ a, x = .ok a ∧ f a = .ok b := by
  cases x <;> simp [bind, Except.bind]

/-- **A list of steps succeeds** with the results of its steps, in their order. -/
theorem mapM_eq_ok {f : α → Except ε β} {xs : List α} {ys : List β} :
    xs.mapM f = .ok ys ↔ List.Forall₂ (fun x y => f x = .ok y) xs ys := by
  induction xs generalizing ys with
  | nil => simp [pure, Except.pure, eq_comm]
  | cons x xs ih =>
    rw [List.mapM_cons, bind_eq_ok, List.forall₂_cons_left_iff]
    constructor
    · rintro ⟨y, hy, h⟩
      obtain ⟨zs, hz, h⟩ := bind_eq_ok.1 h
      exact ⟨y, zs, hy, ih.1 hz, (Except.ok.inj h).symm⟩
    · rintro ⟨y, zs, hy, hz, rfl⟩
      exact ⟨y, hy, bind_eq_ok.2 ⟨zs, ih.2 hz, rfl⟩⟩

/-- Steps that all succeed give a list of results. -/
theorem exists_mapM {f : α → Except ε β} {xs : List α} (h : ∀ x ∈ xs, ∃ y, f x = .ok y) :
    ∃ ys, xs.mapM f = .ok ys := by
  induction xs with
  | nil => exact ⟨[], rfl⟩
  | cons x xs ih =>
    obtain ⟨y, hy⟩ := h x (List.mem_cons_self ..)
    obtain ⟨ys, hys⟩ := ih fun a ha => h a (List.mem_cons_of_mem _ ha)
    exact ⟨y :: ys, mapM_eq_ok.2 (.cons hy (mapM_eq_ok.1 hys))⟩

/-- What is among the results is the result of a step. -/
theorem exists_of_mem_mapM {f : α → Except ε β} {xs : List α} {ys : List β}
    (h : xs.mapM f = .ok ys) {y : β} (hy : y ∈ ys) : ∃ x ∈ xs, f x = .ok y := by
  have steps := mapM_eq_ok.1 h
  clear h
  induction steps with
  | nil => cases hy
  | cons first _ ih =>
    obtain rfl | hy := List.mem_cons.1 hy
    · exact ⟨_, List.mem_cons_self .., first⟩
    · obtain ⟨x, hx, hxy⟩ := ih hy
      exact ⟨x, List.mem_cons_of_mem _ hx, hxy⟩

/-- A list is gone through exactly if each of its items is. -/
theorem exists_mapM_iff {f : α → Except ε β} {xs : List α} :
    (∃ ys, xs.mapM f = .ok ys) ↔ ∀ x ∈ xs, ∃ y, f x = .ok y := by
  refine ⟨?_, exists_mapM⟩
  rintro ⟨ys, h⟩
  have steps := mapM_eq_ok.1 h
  clear h
  induction steps with
  | nil => exact fun _ hx => absurd hx List.not_mem_nil
  | cons first _ ih => exact List.forall_mem_cons.2 ⟨⟨_, first⟩, ih⟩

/-- Another wording of the error does not touch a result. -/
theorem mapError_eq_ok {ε' : Type} {f : ε → ε'} {x : Except ε α} {a : α} :
    x.mapError f = .ok a ↔ x = .ok a := by
  cases x <;> simp [Except.mapError]

/-- The option of an outcome holds its result. -/
theorem toOption_eq_some {x : Except ε α} {a : α} : x.toOption = some a ↔ x = .ok a := by
  cases x <;> simp [Except.toOption]

/-! ### Failures -/

/-- An outcome is a success exactly if it has a result. -/
theorem isOk_iff {x : Except ε α} : x.isOk = true ↔ ∃ a, x = .ok a := by
  cases x <;> simp [Except.isOk, Except.toBool]

/-- An outcome is no success exactly if it has an error. -/
theorem isOk_eq_false_iff {x : Except ε α} : x.isOk = false ↔ ∃ e, x = .error e := by
  cases x <;> simp [Except.isOk, Except.toBool]

/-- A function that is applied to a result does not touch the error. -/
theorem map_eq_error {f : α → β} {x : Except ε α} {e : ε} :
    f <$> x = .error e ↔ x = .error e := by
  cases x <;> simp [Functor.map, Except.map]

/-- An error that is worded differently comes from another one. -/
theorem mapError_eq_error {ε' : Type} {f : ε → ε'} {x : Except ε α} {e : ε'} :
    x.mapError f = .error e ↔ ∃ a, x = .error a ∧ f a = e := by
  cases x <;> simp [Except.mapError]

/-- Two steps in a row fail in the first, or in the second. -/
theorem bind_eq_error {f : α → Except ε β} {x : Except ε α} {e : ε} :
    x >>= f = .error e ↔ x = .error e ∨ ∃ a, x = .ok a ∧ f a = .error e := by
  cases x <;> simp [bind, Except.bind]

/-- **A list of steps fails** with the error of the first step that fails. -/
theorem mapM_eq_error {f : α → Except ε β} {xs : List α} {e : ε} :
    xs.mapM f = .error e ↔ ∃ before x after, xs = before ++ x :: after ∧
      (∀ a ∈ before, ∃ b, f a = .ok b) ∧ f x = .error e := by
  induction xs with
  | nil => simp [pure, Except.pure]
  | cons y ys ih =>
    rw [List.mapM_cons, bind_eq_error]
    constructor
    · rintro (hy | ⟨b, hy, h⟩)
      · exact ⟨[], y, ys, rfl, by simp, hy⟩
      · obtain h | ⟨bs, -, h⟩ := bind_eq_error.1 h
        · obtain ⟨before, x, after, rfl, hb, hx⟩ := ih.1 h
          refine ⟨y :: before, x, after, rfl, ?_, hx⟩
          exact List.forall_mem_cons.2 ⟨⟨b, hy⟩, hb⟩
        · cases h
    · rintro ⟨before, x, after, heq, hb, hx⟩
      cases before with
      | nil =>
        obtain ⟨rfl, rfl⟩ := List.cons.inj heq
        exact .inl hx
      | cons z before =>
        obtain ⟨rfl, rfl⟩ := List.cons.inj heq
        obtain ⟨⟨b, hy⟩, hb⟩ := List.forall_mem_cons.1 hb
        exact .inr ⟨b, hy, bind_eq_error.2 (.inl (ih.2 ⟨before, x, after, rfl, hb, hx⟩))⟩

end Outcome
end EntityQuery
