import EntityQuery.Proofs.Literal.Input
import EntityQuery.Proofs.Session.Step

/-!
# Setting what a user typed

A text that is typed into a field is read as a value of the type of the field and checked. So it is
stored as a value that has a literal, or clears the field, or is refused with a format error, which
leaves the session as it was (`TextEffect`, `textEffect_step`).
-/

namespace EntityQuery

open Outcome
open Literal (IsBlankInput IsOfKind IsInexpressible)
open Service (Reply)

namespace Builder

variable {b : Builder} {name v : Value} {f : SearchField} {fs : List SearchField}

/-- What is put into the field of a name is found there. -/
theorem fieldOf?_put (found : fieldOf? fs name = some f) (v : Value) :
    fieldOf? (put fs name v) name = some { f with value := v } := by
  obtain ⟨n, text, sought⟩ := Option.bind_eq_some_iff.1 found
  have named : name.text? = some f.name := (fieldOf?_eq_some found).2
  -- a value is put in place, so the search by name stops at the same field
  have names : ((fun f : SearchField => f.name == n) ∘ fun f =>
      if name.text? = some f.name then { f with value := v } else f) = fun f => f.name == n := by
    funext g
    simp only [Function.comp_apply]
    split <;> rfl
  rw [fieldOf?, text, Option.bind_some, put, List.find?_map, names, sought, Option.map_some,
    if_pos named]

/-- A value that is assigned is got back. -/
theorem getValue_assign (found : b.field name = .ok f) (v : Value) :
    (b.assign name v).getValue name = .ok v := by
  cases b with
  | fresh => cases found
  | ready e fs =>
    simp only [field, lookUp] at found
    split at found
    · next key =>
      split at found
      · next g sought =>
        simp only [getValue, assign, field, lookUp, if_pos key, fieldOf?_put sought]
        rfl
      · cases found
    · cases found

end Builder

namespace Session

variable {s : Session} {b : Builder} {name : Value} {f : SearchField}

/-- What setting the text of a field of a type comes to: the outcome, and the session after it. -/
inductive TextEffect (s : Session) (name : Value) (t : FieldType) (text? : Option String) :
    Except Error Answer → Session → Prop
  | cleared (blank : IsBlankInput text?)
      (empty : (s.builder.assign name .null).getValue name = .ok .null) :
      TextEffect s name t text? (.ok .done) { s with builder := s.builder.assign name .null }
  | stored {v : Value} {literal : List ℕ} (read : Literal.read text? (.fieldType t) = .ok v)
      (present : v ≠ .null) (written : Literal.format v (.fieldType t) = .ok literal)
      (holds : (s.builder.assign name v).getValue name = .ok v) :
      TextEffect s name t text? (.ok .done) { s with builder := s.builder.assign name v }
  | refused {err : Error} (format : err.kind = .format)
      (unfit : ∀ v, Literal.read text? (.fieldType t) = .ok v → IsInexpressible v t) :
      TextEffect s name t text? (.error err) s

/-- What a user typed into a field is read as a value of its type, checked and assigned. -/
theorem setText_of_found (found : b.field name = .ok f) (text? : Option String) :
    setText b name text? = Literal.read text? (.fieldType f.type) >>= fun v =>
      (fun _ => b.assign name v) <$> SearchField.check v f.type := by
  have set : ∀ v, b.setValue name v = (fun _ => b.assign name v) <$> SearchField.check v f.type := by
    intro v
    rw [Builder.setValue_eq, Builder.check, found]
    rfl
  have type : b.fieldType name = .ok f.type := by
    rw [Builder.fieldType, found]
    rfl
  cases text? with
  | none =>
    rw [setText_eq, type]
    exact set .null
  | some text =>
    rw [setText_eq, type, Literal.read_some]
    simp only [set]
    rfl

/-- What a user typed for no field is refused as the name of the field is. -/
theorem setText_of_missing {err : Error} (missing : b.field name = .error err)
    (text? : Option String) : setText b name text? = .error err := by
  rw [setText_eq, Builder.fieldType, missing]
  rfl

/-- **What a user typed into a field has one of three effects.** -/
theorem textEffect_step (found : s.builder.field name = .ok f) (reply : Reply)
    (text? : Option String) :
    TextEffect s name f.type text? (s.step reply (.setText name text?)).1.outcome
      (s.step reply (.setText name text?)).2 := by
  rw [step_setText, setText_of_found found]
  cases read : Literal.read text? (.fieldType f.type) with
  | error err =>
    refine .refused (Literal.kind_of_read_eq_error read) ?_
    intro v other
    cases read.symm.trans other
  | ok v =>
    by_cases present : v = .null
    · subst present
      exact .cleared (Literal.read_eq_null_iff.1 read) (Builder.getValue_assign found .null)
    · obtain ⟨expressible, format⟩ := Literal.read_expressible read present
      -- only the absent value would be set without a literal
      have solid : ¬ v.isEmpty = true := fun empty => present ((Literal.isEmpty_of_read read).1 empty)
      have format_v := Literal.format_eq (Literal.isOfKind_of_read read present).ne_ragged f.type
      rw [format_v] at expressible format
      simp only [SearchField.check, if_neg solid, bind, Except.bind]
      cases written : Literal.ofValue v f.type with
      | ok literal =>
        rw [written] at format_v
        exact .stored read present format_v (Builder.getValue_assign found v)
      | error err =>
        refine .refused (format err (by rw [written]; rfl)) fun w other => ?_
        obtain rfl := Except.ok.inj (read.symm.trans other)
        by_contra fits
        obtain ⟨literal, ok⟩ := expressible.2 fits
        rw [written] at ok
        cases ok

/-- A text for a name that is no field is refused as the name is. -/
theorem step_setText_of_missing {err : Error} (missing : s.builder.field name = .error err)
    (reply : Reply) (text? : Option String) :
    (s.step reply (.setText name text?)).1.outcome = .error err ∧
      (s.step reply (.setText name text?)).2 = s := by
  have failed : (s.step reply (.setText name text?)).1.outcome = .error err := by
    rw [step_setText, setText_of_missing missing]
    rfl
  exact ⟨failed, step_of_failed failed⟩

/-- **Typed input fits its type.** What is read as a type is absent exactly for blank input, and is a
value of the type otherwise. The value has a literal, unless it is a text with both quotes, a number that
is not finite, or a point in time with an offset or a fraction of a second; then it is refused with a
format error. So a text that is set for a field of a session, in whatever state, is stored as a value with
a literal, clears the field, or is refused with a format error and leaves the session as it was. -/
theorem read_fits_and_setText :
    (∀ (text? : Option String) (t : FieldType) (v : Value),
      Literal.read text? (.fieldType t) = .ok v → v ≠ .null → IsOfKind v t ∧
        ((∃ literal, Literal.format v (.fieldType t) = .ok literal) ↔ ¬ IsInexpressible v t) ∧
        ∀ e, Literal.format v (.fieldType t) = .error e → e.kind = .format) ∧
    (∀ (text? : Option String) (t : FieldType),
      Literal.read text? (.fieldType t) = .ok .null ↔ IsBlankInput text?) ∧
    ∀ (s : Session) (reply : Reply) (name : Value) (text? : Option String),
      match s.builder.field name with
      | .ok f => TextEffect s name f.type text? (s.step reply (.setText name text?)).1.outcome
          (s.step reply (.setText name text?)).2
      | .error err => (s.step reply (.setText name text?)).1.outcome = .error err ∧
          (s.step reply (.setText name text?)).2 = s := by
  refine ⟨fun text? t v read present => ?_, fun text? t => Literal.read_eq_null_iff, ?_⟩
  · exact ⟨Literal.isOfKind_of_read read present, Literal.read_expressible read present⟩
  · intro s reply name text?
    cases found : s.builder.field name with
    | ok f => exact textEffect_step found reply text?
    | error err => exact step_setText_of_missing found reply text?

/-- A truth value with blanks around it is stored. -/
theorem read_fits_and_setText_truth : ∃ s : Session, s.builder = .ofEntity Builder.customer ∧
    (s.step (.answered 200 "OK" []) (.setText (.text "active") (some " Yes "))).2.builder.getValue
      (.text "active") = .ok (.bool true) := by
  let client : Client :=
    ⟨⟨.http, .text "localhost", .int 7070, .text "/cosyan", .whole 5, rfl⟩, false⟩
  let s : Session := { start client "customer" with builder := .ofEntity Builder.customer }
  have truth : Literal.read (some " Yes ") (.fieldType .boolean) = .ok (.bool true) := rfl
  have effect := read_fits_and_setText.2.2 s (.answered 200 "OK" []) (.text "active") (some " Yes ")
  rw [show s.builder.field (.text "active") = .ok ⟨"active", .boolean, .null⟩ from rfl] at effect
  refine ⟨s, rfl, ?_⟩
  generalize (s.step _ _).1.outcome = outcome at effect
  generalize (s.step _ _).2 = after at effect ⊢
  cases effect with
  | cleared blank => cases (Literal.read_eq_null_iff.2 blank).symm.trans truth
  | stored read _ _ holds =>
    obtain rfl := Except.ok.inj (read.symm.trans truth)
    exact holds
  | refused _ unfit => cases unfit _ truth

end Session
end EntityQuery
