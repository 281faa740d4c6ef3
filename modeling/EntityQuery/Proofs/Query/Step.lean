import EntityQuery.Proofs.Query.Change

/-!
# What one operation does to a builder

An operation that fails leaves the builder as it is (`step_of_refused`). One that succeeds starts
the builder with an entity, takes all values away, or makes its assignments one after the other, of
which an operation that only reads has none (`effect_of_accepted`). What is checked before an
assignment depends on the names and the types of the search fields alone (`check_congr`), which no
assignment changes (`declared_put`).
-/

namespace EntityQuery
namespace Builder

open Outcome

namespace Operation

/-- Whether an operation starts the builder. -/
def isStart : Operation → Bool
  | startFrom _ | start _ => true
  | _ => false

/-- The entity that an operation starts the builder with, if its description can be read. -/
def entity? : Operation → Option Entity
  | startFrom v => (Entity.read v).toOption
  | start e => some e
  | _ => none

/-- Whether an operation takes all values away. -/
def clears : Operation → Bool
  | reset => true
  | o => o.isStart

/-- The assignments of an operation, in their order. -/
def assignments : Operation → Entries
  | setValue name v => [(name, v)]
  | setValues es => es
  | _ => []

end Operation

/-- Whether a builder accepts an operation. -/
def accepts (b : Builder) (o : Operation) : Bool := (b.step o).1.isOk

/-- The operations of a history that were accepted, in their order. -/
def accepted (b : Builder) : List Operation → List Operation
  | [] => []
  | o :: os =>
    if b.accepts o then o :: accepted (b.step o).2 os else accepted (b.step o).2 os

/-! ### The effect of an operation -/

/-- What an accepted operation makes of a builder. -/
inductive Effect (b : Builder) : Operation → Builder → Prop
  | started {o : Operation} {e : Entity} (starts : o.isStart = true) (entity : o.entity? = some e)
      (named : e.name ≠ "") : Effect b o (ofEntity e)
  | cleared {e : Entity} {fs : List SearchField} (state : b = ready e fs) :
      Effect b .reset (ready e (fs.map .cleared))
  | assigned {o : Operation} (keeps : o.clears = false)
      (checked : b.checkAll o.assignments = .ok ()) : Effect b o (b.assignAll o.assignments)

/-- A single assignment is a bulk assignment of one entry. -/
theorem setValue_eq_setValues (b : Builder) (name v : Value) :
    b.setValue name v = b.setValues [(name, v)] := by
  rw [setValue_eq, setValues_eq, checkAll, checkAll]
  cases b.check name v <;> rfl

/-- A value is refused as the check refuses it. -/
theorem setValue_eq_error {b : Builder} {name v : Value} {e : Error} :
    b.setValue name v = .error e ↔ b.check name v = .error e := by
  rw [setValue_eq, map_eq_error]

/-- Several values are refused as the check of all of them refuses one. -/
theorem setValues_eq_error {b : Builder} {es : Entries} {e : Error} :
    b.setValues es = .error e ↔ b.checkAll es = .error e := by
  rw [setValues_eq, map_eq_error]

/-- Several values are set exactly if all pass the check. -/
theorem setValues_eq_ok {b b' : Builder} {es : Entries} :
    b.setValues es = .ok b' ↔ b.checkAll es = .ok () ∧ b.assignAll es = b' := by
  rw [setValues_eq, map_eq_ok]
  constructor
  · rintro ⟨⟨⟩, hc, hb⟩
    exact ⟨hc, hb⟩
  · rintro ⟨hc, hb⟩
    exact ⟨(), hc, hb⟩

/-- A builder is started with an entity that has a name. -/
theorem start_eq_ok {b b' : Builder} {e : Entity} :
    b.start e = .ok b' ↔ e.name ≠ "" ∧ ofEntity e = b' := by
  rw [start_eq]
  split
  · next h => simp [h]
  · next h => simp [h]

/-- A builder is started with a description that is read as an entity with a name. -/
theorem startFrom_eq_ok {b b' : Builder} {v : Value} :
    b.startFrom v = .ok b' ↔ ∃ e, Entity.read v = .ok e ∧ e.name ≠ "" ∧ ofEntity e = b' := by
  rw [startFrom_eq]
  split
  · next absent =>
    obtain rfl := Value.isNull_iff.1 absent
    simp [Entity.read]
  · simp [bind_eq_ok, start_eq_ok]

/-- The builder after a change that succeeds is the one that the change comes to. -/
theorem change_ok {b b' : Builder} {c : Change Unit} (h : (b.change c).1.isOk = true)
    (hb : (b.change c).2 = b') : c.result b = .ok b' := by
  obtain ⟨a, h⟩ := isOk_iff.1 h
  obtain ⟨⟨⟩, h, -⟩ := map_eq_ok.1 h
  exact Change.result_eq_ok.2 (Prod.ext h hb)

/-- A change that comes to a builder is an operation that succeeds with it. -/
theorem change_of_ok {b b' : Builder} {c : Change Unit} (h : c.result b = .ok b') :
    b.change c = (.ok .done, b') := by
  rw [change, Change.result_eq_ok.1 h]
  rfl

/-- A change that keeps the builder when it fails keeps it as an operation. -/
theorem change_of_error {b : Builder} {c : Change Unit} {e : Error} (keeps : c.Keeps)
    (h : c.result b = .error e) : b.change c = (.error e, b) := by
  rw [change, Change.apply_of_refused keeps h]
  rfl

/-- So the builder after an operation that fails is the one before it. -/
theorem change_of_keeps {b : Builder} {c : Change Unit} (keeps : c.Keeps)
    (h : (b.change c).1.isOk = false) : (b.change c).2 = b := by
  obtain ⟨err, h⟩ := isOk_eq_false_iff.1 h
  exact keeps b err (map_eq_error.1 h)

/-- **An operation that fails changes nothing.** -/
theorem step_of_refused {b : Builder} {o : Operation} (h : b.accepts o = false) :
    (b.step o).2 = b := by
  cases o with
  | startFrom v => exact change_of_keeps (Change.keeps_startFrom v) h
  | start e => exact change_of_keeps (Change.keeps_start e) h
  | setValue name v => exact change_of_keeps (Change.keeps_setValue name v) h
  | setValues es => exact change_of_keeps (Change.keeps_setValues es) h
  | reset => exact change_of_keeps Change.keeps_reset h
  | _ => rfl

/-- **An operation that succeeds has one of three effects.** -/
theorem effect_of_accepted {b : Builder} {o : Operation} (h : b.accepts o = true) :
    Effect b o (b.step o).2 := by
  -- an operation that only reads has no assignments
  have reads : ∀ {o : Operation}, o.clears = false → o.assignments = [] → Effect b o b := by
    intro o hc ha
    have := Effect.assigned (b := b) hc (by rw [ha]; rfl)
    rwa [ha] at this
  cases o with
  | startFrom v =>
    obtain ⟨e, he, hn, hb⟩ := startFrom_eq_ok.1 (change_ok h rfl)
    exact hb ▸ .started rfl (by simp [Operation.entity?, he, Except.toOption]) hn
  | start e =>
    obtain ⟨hn, hb⟩ := start_eq_ok.1 (change_ok h rfl)
    exact hb ▸ .started rfl rfl hn
  | setValue name v =>
    have hs := (setValue_eq_setValues b name v).symm.trans (change_ok h rfl)
    obtain ⟨hc, hb⟩ := setValues_eq_ok.1 hs
    exact hb ▸ .assigned (o := .setValue name v) rfl hc
  | setValues es =>
    obtain ⟨hc, hb⟩ := setValues_eq_ok.1 (change_ok h rfl)
    exact hb ▸ .assigned (o := .setValues es) rfl hc
  | reset =>
    cases b with
    | fresh => cases h
    | ready e fs => exact .cleared rfl
  | _ => exact reads rfl rfl

/-- Nothing can be assigned to a builder that is not ready. -/
theorem assignAll_fresh (es : Entries) : fresh.assignAll es = fresh := by
  induction es with
  | nil => rfl
  | cons a es ih => exact ih

/-- Assignments make no builder ready or fresh. -/
theorem isReady_assignAll (b : Builder) (es : Entries) : (b.assignAll es).isReady = b.isReady := by
  induction es generalizing b with
  | nil => rfl
  | cons a es ih =>
    have single : (b.assign a.1 a.2).isReady = b.isReady := by cases b <;> rfl
    exact (ih (b.assign a.1 a.2)).trans single

/-- Assignments keep the entity of a builder. -/
theorem entity?_assignAll (b : Builder) (es : Entries) : (b.assignAll es).entity? = b.entity? := by
  induction es generalizing b with
  | nil => rfl
  | cons a es ih =>
    have single : (b.assign a.1 a.2).entity? = b.entity? := by cases b <;> rfl
    exact (ih (b.assign a.1 a.2)).trans single

/-! ### Histories -/

/-- A history ends with its last operation. -/
theorem run_concat (b : Builder) (os : List Operation) (o : Operation) :
    b.run (os ++ [o]) = ((b.run os).step o).2 := by
  simp [run]

/-- A builder that is started last is the one that is ready for the entity. -/
theorem run_concat_start {b : Builder} (os : List Operation) {e : Entity} (named : e.name ≠ "") :
    b.run (os ++ [.start e]) = ofEntity e := by
  rw [run_concat, step, change_of_ok (start_eq_ok.2 ⟨named, rfl⟩)]

/-- The last operation of a history counts if it is accepted. -/
theorem accepted_concat (b : Builder) (os : List Operation) (o : Operation) :
    b.accepted (os ++ [o]) =
      b.accepted os ++ if (b.run os).accepts o then [o] else [] := by
  induction os generalizing b with
  | nil =>
    rw [List.nil_append, accepted, accepted, accepted, run_nil, List.nil_append]
  | cons p os ih =>
    simp only [List.cons_append, accepted, run_cons, ih]
    split <;> rfl

/-- **What every accepted operation keeps holds after every history.** -/
theorem run_induction {P : Builder → Prop} {b : Builder} (os : List Operation) (hb : P b)
    (hstep : ∀ {b o b'}, P b → Effect b o b' → P b') : P (b.run os) := by
  induction os generalizing b with
  | nil => exact hb
  | cons o os ih =>
    rw [run_cons]
    cases h : b.accepts o with
    | true => exact ih (hstep hb (effect_of_accepted h))
    | false => exact ih ((step_of_refused h).symm ▸ hb)

/-- An entity to try histories on. -/
def customer : Entity where
  name := "customer"
  fields := [⟨"name", .string, true⟩, ⟨"note", .string, false⟩, ⟨"active", .boolean, true⟩,
    ⟨"city", .string, true⟩]
  distinct := by decide

/-! ### What a check depends on -/

/-- The name and the type of a search field. -/
def declared (f : SearchField) : String × FieldType := (f.name, f.type)

/-- An assignment changes no name and no type. -/
@[simp] theorem declared_put (fs : List SearchField) (name v : Value) :
    (put fs name v).map declared = fs.map declared := by
  simp only [put, List.map_map]
  refine List.map_congr_left fun f _ => ?_
  simp only [Function.comp_apply]
  split <;> rfl

/-- Which field a name finds depends on the names alone. -/
theorem fieldOf?_map_declared (fs : List SearchField) (name : Value) :
    (fieldOf? fs name).map declared =
      name.text?.bind fun n => (fs.map declared).find? fun d => d.1 == n := by
  cases h : name.text? with
  | none => simp [fieldOf?, h]
  | some n => simp [fieldOf?, h, List.find?_map, declared, Function.comp_def]

/-- **A check depends on the names and the types of the fields alone.** -/
theorem check_congr {e : Entity} {fs gs : List SearchField}
    (h : fs.map declared = gs.map declared) (name v : Value) :
    (ready e fs).check name v = (ready e gs).check name v := by
  have hf := fieldOf?_map_declared fs name
  rw [h, ← fieldOf?_map_declared gs name] at hf
  simp only [check, field, lookUp]
  split
  · cases hfs : fieldOf? fs name <;> cases hgs : fieldOf? gs name <;>
      simp_all [declared, bind, Except.bind]
  · rfl

/-- So does the check of several values. -/
theorem checkAll_congr {e : Entity} {fs gs : List SearchField}
    (h : fs.map declared = gs.map declared) (es : Entries) :
    (ready e fs).checkAll es = (ready e gs).checkAll es := by
  induction es with
  | nil => rfl
  | cons a es ih => simp only [checkAll, check_congr h, ih]

/-- A check of a ready builder succeeds at the field of the name. -/
theorem check_eq_ok {e : Entity} {fs : List SearchField} {name v : Value} :
    (ready e fs).check name v = .ok () ↔ name.canBeKey = true ∧
      ∃ f, fieldOf? fs name = some f ∧ SearchField.check v f.type = .ok () := by
  simp only [check, field, lookUp, bind_eq_ok]
  split
  · next hk =>
    cases h : fieldOf? fs name <;> simp [hk]
  · next hk => simp [hk]

/-- A field that is found has the name. -/
theorem fieldOf?_eq_some {fs : List SearchField} {name : Value} {f : SearchField}
    (h : fieldOf? fs name = some f) : f ∈ fs ∧ name.text? = some f.name := by
  obtain ⟨n, hn, hf⟩ := Option.bind_eq_some_iff.1 h
  have := List.find?_some hf
  exact ⟨List.mem_of_find?_eq_some hf, by simp_all⟩

end Builder
end EntityQuery
