import EntityQuery.CommandLine.Run
import EntityQuery.Proofs.Literal.Input
import EntityQuery.Proofs.Session.Step

/-!
# What comes of filters

A filter that a user typed is taken or refused with an error of the library's own
(`Session.failsOwn_setText`). So the filters of a command line fail otherwise exactly if one of them is
an empty list and all before it are taken (`CommandLine.failsOwn_applyFilters`). If all are taken, the
query can be built (`CommandLine.exists_build_of_applyFilters`).
-/

namespace EntityQuery

open Outcome

namespace Literal

/-- What a user typed for a field is refused with an own error. -/
theorem failsOwn_ofInput (s : String) (t : FieldType) : FailsOwn (ofInput s t) := by
  intro e refused
  rw [Error.isOwn, kind_of_read_eq_error ((read_some s t).trans refused)]
  rfl

end Literal

namespace Session

variable {b b' : Builder} {name : Value}

/-- **What a user typed is set or refused with an own error.** -/
theorem failsOwn_setText (h : name.isText = true) (text? : Option String) :
    FailsOwn (setText b name text?) := by
  have set : ∀ {v : Value}, v.isWritable = true → FailsOwn (b.setValue name v) := by
    intro v writable
    rw [Builder.setValue_eq]
    exact failsOwn_map.2 ((Builder.failsOwn_check h).2 (.inl writable))
  rw [setText_eq]
  refine FailsOwn.bind (failsOwn_map.2 (b.failsOwn_field h)) fun type _ => ?_
  cases text? with
  | none => exact set rfl
  | some text =>
    exact (Literal.failsOwn_ofInput text type).bind fun v read =>
      set (Literal.isWritable_of_ofInput read)

/-- What a user typed keeps a builder sound and ready. -/
theorem isSound_setText {text? : Option String} (h : b.IsSound)
    (hb : setText b name text? = .ok b') : b'.IsSound ∧ b'.isReady = b.isReady := by
  obtain ⟨v, hv⟩ := setText_eq_ok hb
  rw [Builder.setValue_eq] at hv
  obtain ⟨⟨⟩, checked, rfl⟩ := map_eq_ok.1 hv
  exact ⟨h.assign checked, Builder.isReady_assignAll b [(name, v)]⟩

end Session

namespace CommandLine

variable {b b' : Builder} {filters : List (Option (String × String))}

/-- Filters keep a builder sound and ready. -/
theorem isSound_applyFilters (h : b.IsSound) (hb : applyFilters b filters = .ok b') :
    b'.IsSound ∧ b'.isReady = b.isReady := by
  induction filters generalizing b with
  | nil => exact Except.ok.inj hb ▸ ⟨h, rfl⟩
  | cons f fs ih =>
    cases f with
    | none => cases hb
    | some f =>
      obtain ⟨b₁, first, rest⟩ := bind_eq_ok.1 hb
      obtain ⟨sound, ready⟩ := Session.isSound_setText h first
      exact ready ▸ ih sound rest

/-- **If all filters are taken, the query can be built.** -/
theorem exists_build_of_applyFilters {e : Entity}
    (h : applyFilters (.ofEntity e) filters = .ok b) : ∃ query, b.build = .ok query := by
  obtain ⟨sound, ready⟩ := isSound_applyFilters (Builder.isSound_ofEntity e) h
  exact sound.exists_build_of_isReady ready

/-- **Filters fail with own errors only,** unless one is an empty list and all before it are taken. -/
theorem failsOwn_applyFilters : FailsOwn (applyFilters b filters) ↔
    ∀ before after, filters = before ++ none :: after → (applyFilters b before).isOk = false := by
  induction filters generalizing b with
  | nil => simp [applyFilters, failsOwn_ok]
  | cons f fs ih =>
    cases f with
    | none =>
      refine ⟨fun own => absurd (failsOwn_error.1 own) Bool.false_ne_true, fun refused => ?_⟩
      cases refused [] fs rfl
    | some f =>
      have own : FailsOwn (Session.setText b (.text f.1) (some f.2)) :=
        Session.failsOwn_setText rfl _
      -- an empty list stands behind this filter
      have behind : (∀ before after, some f :: fs = before ++ none :: after →
          (applyFilters b before).isOk = false) ↔ ∀ before after, fs = before ++ none :: after →
          (applyFilters b (some f :: before)).isOk = false := by
        constructor
        · rintro h before after rfl
          exact h _ after rfl
        · intro h before after split
          cases before with
          | nil => cases split
          | cons g before =>
            obtain ⟨rfl, rest⟩ := List.cons.inj split
            exact h before after rest
      rw [behind]
      simp only [applyFilters]
      cases first : Session.setText b (.text f.1) (some f.2) with
      | error e =>
        rw [first] at own
        exact ⟨fun _ _ _ _ => rfl, fun _ => own⟩
      | ok b₁ => exact ih

end CommandLine
end EntityQuery
