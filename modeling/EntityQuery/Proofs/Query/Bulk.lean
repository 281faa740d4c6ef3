import EntityQuery.Proofs.Query.Invariant
import EntityQuery.Proofs.Value.Entries
import Mathlib.Data.List.Pairwise
import Mathlib.Data.List.Perm.Basic

/-!
# Bulk assignment

Single assignments one after the other, up to the first that is refused, come to the same as the
assignment of all entries at once (`setEach_eq_setValues`): what is checked before an assignment
does not depend on the values assigned before. If no name is assigned twice, the order does not matter
either (`assignAll_perm`). So a mapping is accepted at once exactly if each of its entries is accepted
alone, and a refusal is that of the first entry that is refused alone (`setValues_agrees`).
-/

namespace EntityQuery
namespace Builder

open Outcome

variable {b : Builder} {es : Entries}

/-- The builder after single assignments in a row, all of which must be accepted. -/
def setEach (b : Builder) (es : Entries) : Except Error Builder := (Change.setEach es).result b

/-! ### One after the other -/

/-- **Single assignments in a row come to the same as all at once,** or fail with the same error. -/
theorem setEach_eq_setValues (b : Builder) (es : Entries) : b.setEach es = b.setValues es := by
  induction es generalizing b with
  | nil => rfl
  | cons e es ih =>
    rw [setEach, Change.result, Change.apply_setEach_cons, setValues_eq, checkAll]
    cases b.check e.1 e.2 with
    | error err => rfl
    | ok =>
      -- the checks of the other entries are those before the assignment
      have rest := ih (b.assign e.1 e.2)
      rw [setValues_eq, checkAll_assign] at rest
      exact rest

/-- **What is left of a refusal tells the two apart.** Of single assignments in a row, those before the
one that is refused stay made; all at once leave nothing. -/
theorem apply_setEach_of_refused {before after : Entries} {e : Value × Value} {err : Error}
    (passed : ∀ a ∈ before, b.check a.1 a.2 = .ok ()) (refused : b.check e.1 e.2 = .error err) :
    (Change.setEach (before ++ e :: after)).apply b = (.error err, b.assignAll before) ∧
      (Change.setValues (before ++ e :: after)).apply b = (.error err, b) := by
  have single : (Change.setEach (before ++ e :: after)).apply b =
      (.error err, b.assignAll before) := by
    induction before generalizing b with
    | nil => rw [List.nil_append, Change.apply_setEach_cons, refused]; rfl
    | cons a before ih =>
      obtain ⟨first, rest⟩ := List.forall_mem_cons.1 passed
      rw [List.cons_append, Change.apply_setEach_cons, first]
      refine ih (b := b.assign a.1 a.2) (fun x mem => ?_) ?_
      · rw [check_assign]
        exact rest x mem
      · rw [check_assign]
        exact refused
  have together : b.setValues (before ++ e :: after) = .error err := by
    rw [← setEach_eq_setValues, setEach, Change.result, single]
    rfl
  exact ⟨single, Change.apply_of_refused (Change.keeps_setValues _) together⟩

/-- A value is set exactly if it passes the check. -/
theorem exists_setValue_iff {name v : Value} :
    (∃ b', b.setValue name v = .ok b') ↔ b.check name v = .ok () := by
  rw [setValue_eq]
  cases b.check name v with
  | ok => exact ⟨fun _ => rfl, fun _ => ⟨_, rfl⟩⟩
  | error e => exact ⟨fun ⟨_, h⟩ => (nomatch h), fun h => (nomatch h)⟩

/-- Several values are set exactly if all pass the check. -/
theorem exists_setValues_iff : (∃ b', b.setValues es = .ok b') ↔ b.checkAll es = .ok () := by
  simp only [setValues_eq_ok, exists_and_left, exists_eq', and_true]

/-- All entries pass the check together exactly if each passes it alone. -/
theorem checkAll_eq_ok : b.checkAll es = .ok () ↔ ∀ e ∈ es, b.check e.1 e.2 = .ok () := by
  induction es with
  | nil => simp [checkAll]
  | cons e es ih =>
    rw [checkAll, bind_eq_ok, List.forall_mem_cons, ← ih]
    constructor
    · rintro ⟨⟨⟩, first, rest⟩
      exact ⟨first, rest⟩
    · rintro ⟨first, rest⟩
      exact ⟨(), first, rest⟩

/-- **The first entry that does not pass the check decides the error.** -/
theorem checkAll_eq_error {err : Error} (h : b.checkAll es = .error err) :
    ∃ before e after, es = before ++ e :: after ∧ (∀ a ∈ before, b.check a.1 a.2 = .ok ()) ∧
      b.check e.1 e.2 = .error err := by
  induction es with
  | nil => cases h
  | cons e es ih =>
    obtain first | ⟨⟨⟩, first, rest⟩ := bind_eq_error.1 h
    · exact ⟨[], e, es, rfl, by simp, first⟩
    · obtain ⟨before, refused, after, rfl, passed, err⟩ := ih rest
      exact ⟨e :: before, refused, after, rfl, List.forall_mem_cons.2 ⟨first, passed⟩, err⟩

/-! ### In any order -/

/-- Assignments to fields of different names can be swapped. -/
theorem assign_comm (b : Builder) {m n : Value} (v w : Value)
    (apart : ∀ s, m.text? = some s → n.text? ≠ some s) :
    (b.assign m v).assign n w = (b.assign n w).assign m v := by
  cases b with
  | fresh => rfl
  | ready e fs =>
    simp only [assign, put, List.map_map]
    congr 1
    refine List.map_congr_left fun f _ => ?_
    simp only [Function.comp_apply]
    by_cases hm : m.text? = some f.name
    · have hn := apart f.name hm
      simp [hm, hn]
    · by_cases hn : n.text? = some f.name
      · simp [hm, hn]
      · simp [hm, hn]

/-- Whether two assignments can be swapped, whatever the builder. -/
def CanSwap (x y : Value × Value) : Prop :=
  ∀ b : Builder, (b.assign x.1 x.2).assign y.1 y.2 = (b.assign y.1 y.2).assign x.1 x.2

instance : Std.Symm CanSwap := ⟨fun _ _ h b => (h b).symm⟩

/-- Any two entries of a mapping can be swapped. -/
theorem canSwap_of_distinct (distinct : es.Distinct) {x y : Value × Value} (hx : x ∈ es)
    (hy : y ∈ es) : CanSwap x y := by
  have pairs : es.Pairwise CanSwap := by
    refine distinct.imp fun {x y} differ b => assign_comm b x.2 y.2 fun s hx hy => ?_
    rw [Value.same_of_text? hy hx] at differ
    cases differ
  exact pairs.forall_of_forall (fun _ _ _ => rfl) hx hy

/-- **The entries of a mapping can be assigned in any order.** -/
theorem assignAll_perm (b : Builder) {order : Entries} (distinct : es.Distinct)
    (perm : order.Perm es) : b.assignAll order = b.assignAll es := by
  refine (List.Perm.foldl_eq' perm.symm (fun x hx y hy b => ?_) b).symm
  exact canSwap_of_distinct distinct hx hy b

/-! ### At once -/

/-- **Bulk assignment is single assignment of every entry.** A mapping is accepted exactly if each of
its entries is accepted alone in the same state. Then the builder is that of the single assignments,
in whatever order they are made. A refused mapping leaves the builder as it is and is refused with
the error of the first of its entries that is refused alone. -/
theorem setValues_agrees (b : Builder) {es : Entries} (distinct : es.Distinct) :
    ((∃ b', b.setValues es = .ok b') ↔ ∀ e ∈ es, ∃ b', b.setValue e.1 e.2 = .ok b') ∧
      (∀ b', b.setValues es = .ok b' → b.step (.setValues es) = (.ok .done, b') ∧
        ∀ order : Entries, order.Perm es → b.setEach order = .ok b') ∧
      ∀ err, b.setValues es = .error err → b.step (.setValues es) = (.error err, b) ∧
        ∃ before e after, es = before ++ e :: after ∧
          (∀ a ∈ before, ∃ b', b.setValue a.1 a.2 = .ok b') ∧ b.setValue e.1 e.2 = .error err := by
  simp only [exists_setValue_iff, exists_setValues_iff]
  refine ⟨checkAll_eq_ok, fun b' h => ⟨?_, fun order perm => ?_⟩, fun err h => ⟨?_, ?_⟩⟩
  · exact change_of_ok h
  · obtain ⟨checked, rfl⟩ := setValues_eq_ok.1 h
    have checked : b.checkAll order = .ok () :=
      checkAll_eq_ok.2 fun e he => checkAll_eq_ok.1 checked e (perm.mem_iff.1 he)
    rw [setEach_eq_setValues]
    exact setValues_eq_ok.2 ⟨checked, assignAll_perm b distinct perm⟩
  · exact change_of_error (Change.keeps_setValues es) h
  · obtain ⟨before, e, after, heq, passed, refused⟩ := checkAll_eq_error (setValues_eq_error.1 h)
    exact ⟨before, e, after, heq, passed, setValue_eq_error.2 refused⟩

/-- A mapping that sets one field and clears another can be assigned from its end as well; with a
value of a wrong kind in its middle it is refused, and the field before that keeps its value. -/
theorem setValues_agrees_customer :
    (Entries.ofList [(.text "name", .text "a"), (.text "city", .null)]).Distinct ∧
      (ofEntity customer).setEach [(.text "city", .null), (.text "name", .text "a")] =
        (ofEntity customer).setValues [(.text "name", .text "a"), (.text "city", .null)] ∧
      (Entries.ofList [(.text "name", .text "a"), (.text "active", .int 1)]).Distinct ∧
      ((ofEntity customer).step
        (.setValues [(.text "name", .text "a"), (.text "active", .int 1)])).2 =
          ofEntity customer := by
  have distinct := Entries.distinct_ofList [(.text "name", .text "a"), (.text "city", .null)]
  have distinct' := Entries.distinct_ofList [(.text "name", .text "a"), (.text "active", .int 1)]
  obtain ⟨-, together, -⟩ := setValues_agrees (ofEntity customer) distinct
  obtain ⟨-, -, refused⟩ := setValues_agrees (ofEntity customer) distinct'
  refine ⟨distinct, ?_, distinct', ?_⟩
  · obtain ⟨-, any⟩ := together _ rfl
    exact (any _ (List.Perm.swap ..)).trans rfl
  · obtain ⟨same, -⟩ := refused _ rfl
    exact congrArg Prod.snd same

end Builder
end EntityQuery
