import EntityQuery.Proofs.Query.Step
import Mathlib.Data.List.Nodup

/-!
# What holds of every builder

Whatever the operations of a builder have been, it is fresh, or its search fields are the searchable
fields of its entity in their order, each with a value that is empty or has a literal of the type of
the field (`IsSound`). Every accepted operation keeps this (`IsSound.effect`), so it holds after every
history (`invariant_run`), and a ready builder always builds (`IsSound.exists_build`).

A builder is fresh as long as no operation that starts it has been accepted (`run_eq_fresh`). Until
then everything that needs an entity is refused (`refused_of_not_started`), but for the assignment of
no values at all: nothing is looked up then.
-/

namespace EntityQuery

/-- A value is empty if it is absent or the empty text. -/
theorem Value.isEmpty_iff {v : Value} : v.isEmpty = true ↔ v = .null ∨ v = .text "" := by
  cases v <;> simp [isEmpty]

/-- **A value can be set if it is empty or has a literal.** -/
theorem SearchField.check_eq_ok {v : Value} {t : FieldType} : SearchField.check v t = .ok () ↔
    v = .null ∨ v = .text "" ∨ ∃ literal, Literal.ofValue v t = .ok literal := by
  unfold SearchField.check
  rw [← or_assoc, ← Value.isEmpty_iff]
  split
  · next h => simp [h]
  · next h => simp [h, Outcome.map_eq_ok]

namespace Builder

open Outcome

/-- The fields of a builder are those of its entity, each with a value that was checked. -/
def IsSound : Builder → Prop
  | fresh => True
  | ready e fs => fs.map declared = e.searchable.map (fun f => (f.name, f.type)) ∧
      ∀ f ∈ fs, SearchField.check f.value f.type = .ok ()

/-! ### Every operation keeps it -/

/-- A builder that has just been started is sound. -/
theorem isSound_ofEntity (e : Entity) : (ofEntity e).IsSound := by
  refine ⟨by simp [declared, SearchField.ofField], fun f hf => ?_⟩
  obtain ⟨g, -, rfl⟩ := List.mem_map.1 hf
  rfl

/-- A sound builder stays sound when its values are taken away. -/
theorem IsSound.cleared {e : Entity} {fs : List SearchField} (h : (ready e fs).IsSound) :
    (ready e (fs.map .cleared)).IsSound := by
  refine ⟨?_, fun f hf => ?_⟩
  · rw [← h.1, List.map_map]
    rfl
  · obtain ⟨g, -, rfl⟩ := List.mem_map.1 hf
    rfl

/-- The fields of a sound builder have the names of the searchable fields. -/
theorem IsSound.names_eq {e : Entity} {fs : List SearchField} (h : (ready e fs).IsSound) :
    fs.map (·.name) = e.searchable.map (·.name) := by
  have names := congrArg (List.map Prod.fst) h.1
  rwa [List.map_map, List.map_map] at names

/-- The names of the fields of a sound builder are distinct. -/
theorem IsSound.nodup {e : Entity} {fs : List SearchField} (h : (ready e fs).IsSound) :
    (fs.map (·.name)).Nodup :=
  h.names_eq ▸ e.searchable_nodup

/-- A value that was checked can be assigned. -/
theorem IsSound.assign {b : Builder} {name v : Value} (h : b.IsSound)
    (hc : b.check name v = .ok ()) : (b.assign name v).IsSound := by
  cases b with
  | fresh => trivial
  | ready e fs =>
    refine ⟨(declared_put fs name v).trans h.1, fun f hf => ?_⟩
    obtain ⟨g, hg, rfl⟩ := List.mem_map.1 hf
    split
    · next hn =>
      -- names are distinct, so the field that gets the value is the one that was looked up
      obtain ⟨-, f, hf, hv⟩ := check_eq_ok.1 hc
      obtain ⟨hmem, hname⟩ := fieldOf?_eq_some hf
      obtain rfl : f = g := List.inj_on_of_nodup_map h.nodup hmem hg
        (Option.some.inj (hname.symm.trans hn))
      exact hv
    · exact h.2 g hg

/-- An assignment does not change what is checked later. -/
theorem check_assign (b : Builder) (name v name' v' : Value) :
    (b.assign name v).check name' v' = b.check name' v' := by
  cases b with
  | fresh => rfl
  | ready e fs => exact check_congr (declared_put fs name v) name' v'

/-- Nor does it change what is checked of several values. -/
theorem checkAll_assign (b : Builder) (name v : Value) (es : Entries) :
    (b.assign name v).checkAll es = b.checkAll es := by
  cases b with
  | fresh => rfl
  | ready e fs => exact checkAll_congr (declared_put fs name v) es

/-- Values that were checked together can be assigned one after the other. -/
theorem IsSound.assignAll {b : Builder} {es : Entries} (h : b.IsSound)
    (hc : b.checkAll es = .ok ()) : (b.assignAll es).IsSound := by
  induction es generalizing b with
  | nil => exact h
  | cons a es ih =>
    obtain ⟨⟨⟩, ha, hes⟩ := bind_eq_ok.1 hc
    exact ih (h.assign ha) ((checkAll_assign b a.1 a.2 es).trans hes)

/-- **Every accepted operation keeps a builder sound.** -/
theorem IsSound.effect {b b' : Builder} {o : Operation} (h : b.IsSound) (he : Effect b o b') :
    b'.IsSound := by
  cases he with
  | started => exact isSound_ofEntity _
  | cleared state => exact (state ▸ h).cleared
  | assigned _ checked => exact h.assignAll checked

/-- **A builder is sound after every history.** -/
theorem isSound_run (operations : List Operation) : (fresh.run operations).IsSound :=
  run_induction operations (P := IsSound) trivial fun h he => h.effect he

/-! ### What follows from it -/

/-- A field that is set has a clause. -/
theorem exists_clause {f : SearchField} (hs : f.isSet = true)
    (hc : SearchField.check f.value f.type = .ok ()) : ∃ text, f.clause = .ok text := by
  have hne : f.value.isEmpty = false := by simpa [SearchField.isSet] using hs
  rw [SearchField.check_eq_ok, ← or_assoc, ← Value.isEmpty_iff, hne] at hc
  obtain h | ⟨literal, hl⟩ := hc
  · exact absurd h Bool.false_ne_true
  · exact ⟨_, map_eq_ok.2 ⟨literal, hl, rfl⟩⟩

/-- **A sound builder that is ready builds.** -/
theorem IsSound.exists_build {e : Entity} {fs : List SearchField} (h : (ready e fs).IsSound) :
    ∃ query, (ready e fs).build = .ok query := by
  have clause : ∀ f ∈ fs.filter (·.isSet), ∃ text, f.clause = .ok text := by
    intro f hf
    obtain ⟨mem, set⟩ := List.mem_filter.1 hf
    exact exists_clause set (h.2 f mem)
  obtain ⟨texts, ht⟩ := exists_mapM clause
  exact ⟨_, map_eq_ok.2 ⟨texts, ht, rfl⟩⟩

/-- A sound builder builds if it is ready. -/
theorem IsSound.exists_build_of_isReady {b : Builder} (h : b.IsSound) (ready : b.isReady = true) :
    ∃ query, b.build = .ok query := by
  cases b with
  | fresh => cases ready
  | ready e fs => exact h.exists_build

/-- No operation makes a builder fresh again. -/
theorem isReady_effect {b b' : Builder} {o : Operation} (h : b.isReady = true)
    (he : Effect b o b') : b'.isReady = true := by
  cases he with
  | started => rfl
  | cleared => rfl
  | assigned => exact (isReady_assignAll b _).trans h

/-- **A builder that is ready stays so.** -/
theorem isReady_run {b : Builder} (h : b.isReady = true) (operations : List Operation) :
    (b.run operations).isReady = true :=
  run_induction operations (P := fun b => b.isReady = true) h isReady_effect

/-- **A builder is fresh and has no fields, or its fields are those of its entity with values that
can be written,** and then it builds and stays ready, whatever happened before and happens later. -/
theorem invariant_run (operations later : List Operation) :
    ((fresh.run operations = fresh ∧ (fresh.run operations).fields = []) ∨
      ∃ e fs, fresh.run operations = ready e fs ∧
        fs.map (fun f => (f.name, f.type)) = e.searchable.map (fun f => (f.name, f.type)) ∧
        (fs.map (·.name)).Nodup ∧
        (∀ f ∈ fs, f.value = .null ∨ f.value = .text "" ∨
          ∃ literal, Literal.ofValue f.value f.type = .ok literal) ∧
        ∃ query, (fresh.run operations).build = .ok query) ∧
    ((fresh.run operations).isReady = true →
      ((fresh.run operations).run later).isReady = true) := by
  have sound := isSound_run operations
  refine ⟨?_, fun h => isReady_run h later⟩
  cases hb : fresh.run operations with
  | fresh => exact .inl ⟨rfl, rfl⟩
  | ready e fs =>
    rw [hb] at sound
    exact .inr ⟨e, fs, rfl, sound.1, sound.nodup,
      fun f hf => SearchField.check_eq_ok.1 (sound.2 f hf), sound.exists_build⟩

/-! ### Before the start -/

/-- Whether an operation needs an entity. Starting does not, nor does asking for the entity. -/
def Operation.needsEntity : Operation → Bool
  | startFrom _ | start _ | metadata => false
  | _ => true

/-- A fresh builder stays fresh under an operation that does not start it. -/
theorem eq_fresh_of_effect {b : Builder} {o : Operation} (hs : o.isStart = false)
    (he : Effect fresh o b) : b = fresh := by
  cases he with
  | started starts => simp [hs] at starts
  | cleared state => cases state
  | assigned => exact assignAll_fresh _

/-- **A builder is fresh as long as nothing that starts it has been accepted.** -/
theorem run_eq_fresh {operations : List Operation}
    (h : ∀ p ∈ fresh.accepted operations, p.isStart = false) : fresh.run operations = fresh := by
  induction operations with
  | nil => rfl
  | cons o os ih =>
    rw [run_cons]
    cases ha : fresh.accepts o with
    | true =>
      simp only [accepted, ha, if_true, List.mem_cons, forall_eq_or_imp] at h
      have hf := eq_fresh_of_effect h.1 (effect_of_accepted ha)
      rw [hf] at h ⊢
      exact ih h.2
    | false =>
      simp only [accepted, ha, Bool.false_eq_true, if_false] at h
      rw [step_of_refused ha] at h ⊢
      exact ih h

/-- **Before the start everything that needs an entity is refused and changes nothing,** unless it
is the assignment of no values. -/
theorem refused_of_not_started {operations : List Operation} {o : Operation}
    (h : ∀ p ∈ fresh.accepted operations, p.isStart = false) (ho : o.needsEntity = true) :
    ((fresh.run operations).step o).2 = fresh ∧
      (((fresh.run operations).step o).1 = .error .notInitialized ↔ o ≠ .setValues []) := by
  rw [run_eq_fresh h]
  cases o with
  | startFrom | start | metadata => cases ho
  | setValues es =>
    cases es with
    | nil => exact ⟨rfl, nofun, fun h => absurd rfl h⟩
    | cons a es => exact ⟨rfl, fun _ => by simp, fun _ => rfl⟩
  | _ => exact ⟨rfl, fun _ => by simp, fun _ => rfl⟩

/-- A refused start leaves everything else refused: here the value of a field. -/
theorem refused_after_failed_start :
    (∀ p ∈ fresh.accepted [.startFrom .null, .start (.bare ""), .build], p.isStart = false) ∧
      Operation.needsEntity (.setValues [(.text "id", .null)]) = true ∧
      ((fresh.run [.startFrom .null, .start (.bare ""), .build]).step
        (.setValues [(.text "id", .null)])).1 = .error .notInitialized := by
  have none_accepted : ∀ p ∈ fresh.accepted [.startFrom .null, .start (.bare ""), .build],
      p.isStart = false := by
    rw [show fresh.accepted [.startFrom .null, .start (.bare ""), .build] = [] from rfl]
    simp
  exact ⟨none_accepted, rfl, (refused_of_not_started none_accepted rfl).2.2 (by simp)⟩

/-- Not everything that needs an entity is refused before the start: the assignment of no values is
accepted. -/
theorem exists_accepted_before_start :
    ¬ ∀ (operations : List Operation) (o : Operation),
      (∀ p ∈ fresh.accepted operations, p.isStart = false) → o.needsEntity = true →
        ((fresh.run operations).step o).1 = .error .notInitialized := by
  intro h
  have := h [] (.setValues []) (by simp [accepted]) rfl
  cases this

end Builder
end EntityQuery
