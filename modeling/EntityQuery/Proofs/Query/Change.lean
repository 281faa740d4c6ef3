import EntityQuery.Query.Operation
import EntityQuery.Proofs.Outcome

/-!
# Changes of a builder

A change looks at the builder and writes to it, step by step, and the builder is there after each step. So
that a change which fails leaves no trace has to be shown (`Keeps`): all that is looked at is looked at
before anything is written, and writing does not fail. Each change then comes to what is written if
everything looks well, and to the error of the first look otherwise (`apply_setValues` for several values).
Single assignments in a row have no such rule: those before the one that is refused stay
(`apply_setEach_of_refused`).
-/

namespace EntityQuery
namespace Builder

open Outcome

/-- Checks all entries in their order. -/
def checkAll (b : Builder) : Entries → Except Error Unit
  | [] => .ok ()
  | e :: es => b.check e.1 e.2 >>= fun _ => checkAll b es

/-- The builder with the values of all entries in their fields, without a check. -/
def assignAll (b : Builder) (es : Entries) : Builder := es.foldl (fun b e => b.assign e.1 e.2) b

namespace Change

/-- Sets the values of several fields one by one, each checked when it is its turn. -/
def setEach (es : Entries) : Change Unit := forM es fun e => setValue e.1 e.2

variable {α β : Type} {b b' : Builder} {e : Error} {c : Change Unit}

/-! ### Steps in a row -/

/-- A look does not change the builder. -/
@[simp] theorem apply_look (f : Builder → Except Error α) (b : Builder) :
    (look f).apply b = (f b, b) := rfl

/-- Writing does not fail. -/
@[simp] theorem apply_write (f : Builder → Builder) (b : Builder) :
    (write f).apply b = (.ok (), f b) := rfl

/-- What fails at once does not change the builder. -/
@[simp] theorem apply_throw (e : Error) (b : Builder) :
    (throw e : Change α).apply b = (.error e, b) := rfl

/-- What follows a step that succeeds goes on with the builder after it. -/
theorem apply_bind_of_ok {c : Change α} {f : α → Change β} {a : α} (h : c.apply b = (.ok a, b')) :
    (c >>= f).apply b = (f a).apply b' := by
  show ExceptT.bindCont f (c.apply b).1 (c.apply b).2 = _
  rw [h]
  rfl

/-- What follows a step that fails does not happen. -/
theorem apply_bind_of_error {c : Change α} {f : α → Change β} (h : c.apply b = (.error e, b')) :
    (c >>= f).apply b = (.error e, b') := by
  show ExceptT.bindCont f (c.apply b).1 (c.apply b).2 = _
  rw [h]
  rfl

/-- A look goes on with what it finds, or fails; the builder is the same. -/
theorem apply_look_bind (f : Builder → Except Error α) (g : α → Change β) (b : Builder) :
    (look f >>= g).apply b = match f b with
      | .ok a => (g a).apply b
      | .error e => (.error e, b) := by
  cases found : f b with
  | ok a => exact apply_bind_of_ok (by rw [apply_look, found])
  | error e => exact apply_bind_of_error (by rw [apply_look, found])

/-- What a look and a change behind it come to is what the change comes to with what is found. -/
theorem result_look_bind (f : Builder → Except Error α) (g : α → Change Unit) (b : Builder) :
    (look f >>= g).result b = f b >>= fun a => (g a).result b := by
  rw [result, apply_look_bind]
  cases f b <;> rfl

/-- **Looking for each entry** is checking all of them. -/
theorem apply_forM_look (es : Entries) (b : Builder) :
    (forM es fun e => look (·.check e.1 e.2)).apply b = (b.checkAll es, b) := by
  induction es with
  | nil => rfl
  | cons a es ih =>
    rw [List.forM_cons, apply_look_bind, checkAll]
    cases b.check a.1 a.2 with
    | ok => exact ih
    | error e => rfl

/-- **Writing for each entry** is assigning all of them. -/
theorem apply_forM_write (es : Entries) (b : Builder) :
    (forM es fun e => write (·.assign e.1 e.2)).apply b = (.ok (), b.assignAll es) := by
  induction es generalizing b with
  | nil => rfl
  | cons a es ih =>
    rw [List.forM_cons, apply_bind_of_ok (apply_write _ b), ih]
    rfl

/-! ### The changes -/

/-- A builder is started with an entity that has a name. -/
theorem apply_start (e : Entity) (b : Builder) : (start e).apply b =
    if e.name = "" then (.error (.metadata .noName), b) else (.ok (), ofEntity e) := by
  unfold start
  split <;> rfl

/-- It is started with a description if that is given and can be read. -/
theorem apply_startFrom (v : Value) (b : Builder) : (startFrom v).apply b =
    if v.isNull then (.error (.metadata .noMetadata), b)
    else match Entity.read v with
      | .ok e => (start e).apply b
      | .error e => (.error e, b) := by
  unfold startFrom
  cases v.isNull with
  | true => rfl
  | false =>
    refine (apply_look_bind (fun _ => Entity.read v) start b).trans ?_
    cases Entity.read v <;> rfl

/-- **A value is set if it passes the check,** and else nothing is written. -/
theorem apply_setValue (name v : Value) (b : Builder) : (setValue name v).apply b =
    match b.check name v with
    | .ok () => (.ok (), b.assign name v)
    | .error e => (.error e, b) := by
  rw [setValue, apply_look_bind]
  cases b.check name v <;> rfl

/-- **All values are set if all pass the check,** and else nothing is written. -/
theorem apply_setValues (es : Entries) (b : Builder) : (setValues es).apply b =
    match b.checkAll es with
    | .ok () => (.ok (), b.assignAll es)
    | .error e => (.error e, b) := by
  have looked := apply_forM_look es b
  unfold setValues
  cases checked : b.checkAll es with
  | ok =>
    rw [checked] at looked
    rw [apply_bind_of_ok looked, apply_forM_write]
  | error e =>
    rw [checked] at looked
    exact apply_bind_of_error looked

/-- The first entry is set before the next one is looked at. -/
theorem apply_setEach_cons (x : Value × Value) (es : Entries) (b : Builder) :
    (setEach (x :: es)).apply b = match b.check x.1 x.2 with
      | .ok () => (setEach es).apply (b.assign x.1 x.2)
      | .error e => (.error e, b) := by
  have first := apply_setValue x.1 x.2 b
  have unfolded : setEach (x :: es) = setValue x.1 x.2 >>= fun _ => setEach es := List.forM_cons
  rw [unfolded]
  cases checked : b.check x.1 x.2 with
  | ok =>
    rw [checked] at first
    exact apply_bind_of_ok first
  | error e =>
    rw [checked] at first
    exact apply_bind_of_error first

/-! ### What a failure leaves -/

/-- Whether a change that fails leaves the builder as it was. -/
def Keeps (c : Change Unit) : Prop := ∀ b e, (c.apply b).1 = .error e → (c.apply b).2 = b

/-- An entity without a name leaves no trace. -/
theorem keeps_start (e : Entity) : (start e).Keeps := by
  intro b err failed
  rw [apply_start] at failed ⊢
  split
  · rfl
  · next named =>
    rw [if_neg named] at failed
    cases failed

/-- Nor does a description that is refused. -/
theorem keeps_startFrom (v : Value) : (startFrom v).Keeps := by
  intro b err failed
  rw [apply_startFrom] at failed ⊢
  split
  · rfl
  · next given =>
    rw [if_neg given] at failed
    split
    · next e read =>
      rw [read] at failed
      exact keeps_start e b err failed
    · rfl

/-- Nor does a value that is refused. -/
theorem keeps_setValue (name v : Value) : (setValue name v).Keeps := by
  intro b err failed
  rw [apply_setValue] at failed ⊢
  split
  · next checked =>
    rw [checked] at failed
    cases failed
  · rfl

/-- **Several values that are refused leave no trace:** all are checked before the first is written. -/
theorem keeps_setValues (es : Entries) : (setValues es).Keeps := by
  intro b err failed
  rw [apply_setValues] at failed ⊢
  split
  · next checked =>
    rw [checked] at failed
    cases failed
  · rfl

/-- Nor does clearing a builder that is not ready. -/
theorem keeps_reset : reset.Keeps := by
  intro b err failed
  cases b with
  | fresh => rfl
  | ready => cases failed

/-- The builder that a change comes to is the one after it. -/
theorem result_eq_ok : c.result b = .ok b' ↔ c.apply b = (.ok (), b') := by
  rw [result, map_eq_ok]
  constructor
  · rintro ⟨⟨⟩, ok, rfl⟩
    exact Prod.ext ok rfl
  · intro h
    exact ⟨(), by rw [h], by rw [h]⟩

/-- A change fails to come to a builder if it fails. -/
theorem result_eq_error : c.result b = .error e ↔ (c.apply b).1 = .error e := map_eq_error

/-- **A change that keeps the builder leaves no trace of a refusal.** -/
theorem apply_of_refused (keeps : c.Keeps) (h : c.result b = .error e) : c.apply b = (.error e, b) :=
  have failed := result_eq_error.1 h
  Prod.ext failed (keeps b e failed)

end Change

/-! ### What the operations come to -/

/-- Starting with an entity comes to its builder, or to the error of an entity without a name. -/
theorem start_eq (e : Entity) (b : Builder) :
    b.start e = if e.name = "" then .error (.metadata .noName) else .ok (ofEntity e) := by
  rw [start, Change.result, Change.apply_start]
  split <;> rfl

/-- Starting with a description is starting with the entity that is read from it. -/
theorem startFrom_eq (v : Value) (b : Builder) : b.startFrom v =
    if v.isNull then .error (.metadata .noMetadata) else Entity.read v >>= fun e => b.start e := by
  rw [startFrom, Change.result, Change.apply_startFrom]
  split
  · rfl
  · cases Entity.read v <;> rfl

/-- A value that passes the check is assigned. -/
theorem setValue_eq (b : Builder) (name v : Value) :
    b.setValue name v = (fun _ => b.assign name v) <$> b.check name v := by
  rw [setValue, Change.result, Change.apply_setValue]
  cases b.check name v <;> rfl

/-- Values that all pass the check are assigned in their order. -/
theorem setValues_eq (b : Builder) (es : Entries) :
    b.setValues es = (fun _ => b.assignAll es) <$> b.checkAll es := by
  rw [setValues, Change.result, Change.apply_setValues]
  cases b.checkAll es <;> rfl

end Builder
end EntityQuery
