import EntityQuery.Proofs.CommandLine.Filters
import EntityQuery.Proofs.CommandLine.FilterTexts
import EntityQuery.Proofs.Query.History

/-!
# The query of filters

What a filter sets depends on the entity alone, not on the filters before it: the value of its text for
the searchable field of its name (`Entity.entryOf`). So filters are all taken (`applyFilters_ready`), or
refused with the error of the first that sets nothing (`applyFilters_eq_error`). The query of filters
that are taken has a clause for each searchable field whose last filter has a text that is not blank, in
the order of the fields (`build_applyFilters`).
-/

namespace EntityQuery

open Outcome

namespace Entity

/-- The type of the searchable field of a name. -/
def typeOf (e : Entity) (name : String) : Except Error FieldType :=
  match e.searchable.find? fun f => f.name == name with
  | none => .error (.unknownField (.text name) (.text e.name))
  | some f => .ok f.type

/-- What a filter sets: the value of its text, if a searchable field has its name and takes the value. -/
def entryOf (e : Entity) : Option (String × String) → Except Error (Value × Value)
  | none => .error .filterParts
  | some (name, text) => do
    let type ← e.typeOf name
    let v ← Literal.ofInput text type
    SearchField.check v type
    return (.text name, v)

/-- The type of a searchable field is the one that its name has. -/
theorem typeOf_name {e : Entity} {f : Field} (hf : f ∈ e.searchable) :
    e.typeOf f.name = .ok f.type := by
  have some_field : (e.searchable.find? fun g => g.name == f.name).isSome = true :=
    List.find?_isSome.2 ⟨f, hf, beq_self_eq_true _⟩
  obtain ⟨g, found⟩ := Option.isSome_iff_exists.1 some_field
  have same : g = f := List.inj_on_of_nodup_map e.searchable_nodup
    (List.mem_of_find?_eq_some found) hf (by simpa using List.find?_some found)
  rw [typeOf, found, same]

/-- **What a filter sets** is the value that its text is read as. -/
theorem entryOf_eq_ok_iff {e : Entity} {name text : String} {entry : Value × Value} :
    e.entryOf (some (name, text)) = .ok entry ↔ ∃ type v, e.typeOf name = .ok type ∧
      Literal.ofInput text type = .ok v ∧ SearchField.check v type = .ok () ∧
      entry = (.text name, v) := by
  simp only [entryOf, bind_eq_ok]
  constructor
  · rintro ⟨type, ht, v, hv, ⟨⟩, checked, h⟩
    exact ⟨type, v, ht, hv, checked, (Except.ok.inj h).symm⟩
  · rintro ⟨type, v, ht, hv, checked, rfl⟩
    exact ⟨type, ht, v, hv, (), checked, rfl⟩

end Entity

namespace Builder

/-- The search fields of a builder have the names and the types of those of its entity. -/
def Declares (fs : List SearchField) (e : Entity) : Prop :=
  fs.map declared = e.searchable.map fun f => (f.name, f.type)

variable {e : Entity} {fs : List SearchField}

/-- The fields of a builder that has just been started are those of its entity. -/
theorem declares_ofEntity (e : Entity) : Declares (e.searchable.map .ofField) e := by
  rw [Declares, List.map_map]
  rfl

/-- **A field has the type that its name has in the entity.** -/
theorem Declares.fieldType_eq (h : Declares fs e) (name : String) :
    (ready e fs).fieldType (.text name) = e.typeOf name := by
  have same : (fieldOf? fs (.text name)).map declared =
      (e.searchable.find? fun f => f.name == name).map fun f => (f.name, f.type) := by
    rw [fieldOf?_map_declared, h, Value.text?, Option.bind_some, List.find?_map]
    rfl
  have key : (Value.text name).canBeKey = true := rfl
  show (·.type) <$> lookUp e fs (.text name) = _
  rw [lookUp, if_pos key, Entity.typeOf]
  cases found : fieldOf? fs (.text name) <;>
    cases sought : e.searchable.find? fun f => f.name == name <;>
    simp_all [declared, Functor.map, Except.map]

/-- A value is checked against the type of the field. -/
theorem check_eq_bind (b : Builder) (name v : Value) :
    b.check name v = b.fieldType name >>= SearchField.check v := by
  unfold check Builder.fieldType
  cases b.field name <;> rfl

/-- **What a filter sets is set,** whatever was set before. -/
theorem Declares.setText_eq (h : Declares fs e) (name text : String) :
    Session.setText (ready e fs) (.text name) (some text) =
      (fun entry => (ready e fs).assign entry.1 entry.2) <$> e.entryOf (some (name, text)) := by
  simp only [Session.setText_eq, Session.typed, Entity.entryOf, setValue_eq, check_eq_bind,
    h.fieldType_eq]
  cases e.typeOf name with
  | error err => rfl
  | ok type =>
    simp only [bind, Except.bind]
    cases Literal.ofInput text type with
    | error err => rfl
    | ok v =>
      simp only
      cases SearchField.check v type <;> rfl

end Builder

namespace CommandLine

variable {e : Entity} {fs : List SearchField}

/-- **Filters come to the assignment of what each of them sets,** or to the first error. -/
theorem applyFilters_ready (h : Builder.Declares fs e) (filters : List (Option (String × String))) :
    applyFilters (.ready e fs) filters =
      (fun es => (Builder.ready e fs).assignAll es) <$> filters.mapM e.entryOf := by
  induction filters generalizing fs with
  | nil => rfl
  | cons f filters ih =>
    rw [List.mapM_cons]
    cases f with
    | none => rfl
    | some f =>
      rw [applyFilters, h.setText_eq]
      cases e.entryOf (some f) with
      | error err => rfl
      | ok entry =>
        have kept : Builder.Declares (Builder.put fs entry.1 entry.2) e :=
          (Builder.declared_put fs entry.1 entry.2).trans h
        show applyFilters (.ready e (Builder.put fs entry.1 entry.2)) filters = _ <$> (_ >>= _)
        rw [ih kept]
        cases filters.mapM e.entryOf <;> rfl

/-- The text of the last filter for a name. -/
def lastText? (filters : List (Option (String × String))) (name : String) : Option String :=
  (filters.filterMap id).reverse.lookup name

/-- A field with the text of its last filter, unless that is blank. -/
def searchedText? (filters : List (Option (String × String))) (f : Field) : Option (Field × String) :=
  ((lastText? filters f.name).filter fun text => Text.strip text ≠ "").map fun text => (f, text)

/-- The searchable fields whose last filter has a text that is not blank, in their order. -/
def searchedTexts (e : Entity) (filters : List (Option (String × String))) : List (Field × String) :=
  e.searchable.filterMap (searchedText? filters)

/-- A clause of a field, with the literal of the value that a text is read as. -/
def IsFilterClause (s : Field × String) (clause : String) : Prop :=
  ∃ v literal, Literal.ofInput s.2 s.1.type = .ok v ∧ Literal.ofValue v s.1.type = .ok literal ∧
    clause = s.1.name ++ "=" ++ literal

/-- The last text for a name is behind the first filter, or that of the first filter. -/
theorem lastText?_cons (name text : String) (filters : List (Option (String × String)))
    (sought : String) : lastText? (some (name, text) :: filters) sought =
      (lastText? filters sought).or (if sought = name then some text else none) := by
  by_cases h : sought = name
  · simp [lastText?, List.lookup_append, h]
  · simp [lastText?, List.lookup_append, List.lookup_cons, beq_false_of_ne h, h]

/-- The last value for a name is behind the first entry, or that of the first entry. -/
theorem lastFor?_cons (name : String) (v : Value) (es : Entries) (sought : String) :
    Builder.lastFor? ((.text name, v) :: es) sought =
      (Builder.lastFor? es sought).or (if sought = name then some v else none) := by
  rw [← List.singleton_append, Builder.lastFor?_append]
  congr 1
  by_cases h : sought = name
  · simp [Builder.lastFor?, Value.text?, h]
  · simp [Builder.lastFor?, Value.text?, h, Ne.symm h]

variable {filters : List (Option (String × String))} {es : Entries}

/-- **The last filter of a field decides what is set for it.** -/
theorem lastFor?_of_entries {name : String} {type : FieldType} (ht : e.typeOf name = .ok type)
    (h : List.Forall₂ (fun f entry => e.entryOf f = .ok entry) filters es) :
    match lastText? filters name with
    | none => Builder.lastFor? es name = none
    | some text => ∃ v, Literal.ofInput text type = .ok v ∧ Builder.lastFor? es name = some v := by
  induction h with
  | nil => rfl
  | @cons f entry filters es first rest ih =>
    cases f with
    | none => cases first
    | some f =>
      obtain ⟨type', v, ht', read, -, rfl⟩ := Entity.entryOf_eq_ok_iff.1 first
      rw [lastText?_cons, lastFor?_cons]
      cases later : lastText? filters name with
      | some text =>
        rw [later] at ih
        obtain ⟨w, hw, last⟩ := ih
        exact ⟨w, hw, by rw [last]; rfl⟩
      | none =>
        rw [later] at ih
        rw [ih]
        by_cases same : name = f.1
        · obtain rfl : type' = type := Except.ok.inj ((same ▸ ht').symm.trans ht)
          simp [same, read]
        · simp [same]

/-- Relations between elements of lists are followed one after the other. -/
theorem forall₂_comp {α β γ : Type} {R : α → β → Prop} {S : β → γ → Prop} {as : List α}
    {bs : List β} {cs : List γ} (h : List.Forall₂ R as bs) (h' : List.Forall₂ S bs cs) :
    List.Forall₂ (fun a c => ∃ b, R a b ∧ S b c) as cs := by
  induction h generalizing cs with
  | nil =>
    cases h'
    exact .nil
  | cons r _ ih =>
    cases h' with
    | cons s rest => exact .cons ⟨_, r, s⟩ (ih rest)

/-- The search field of a field after the filters. -/
def filteredField (es : Entries) (f : Field) : SearchField :=
  ⟨f.name, f.type, (Builder.lastFor? es f.name).getD .null⟩

/-- A search field has the value that a text for its field is read as. -/
def HoldsText (s : Field × String) (g : SearchField) : Prop :=
  ∃ v, Literal.ofInput s.2 s.1.type = .ok v ∧ g = ⟨s.1.name, s.1.type, v⟩

/-- **A field is set** exactly if its last filter has a text that is not blank. -/
theorem isSet_filteredField
    (h : List.Forall₂ (fun f entry => e.entryOf f = .ok entry) filters es) {f : Field}
    (hf : f ∈ e.searchable) :
    match searchedText? filters f with
    | none => (filteredField es f).isSet = false
    | some s => (filteredField es f).isSet = true ∧ HoldsText s (filteredField es f) := by
  have last := lastFor?_of_entries (Entity.typeOf_name hf) h
  cases given : lastText? filters f.name with
  | none =>
    rw [given] at last
    simp only [searchedText?, given, filteredField, last]
    rfl
  | some text =>
    rw [given] at last
    obtain ⟨v, read, last⟩ := last
    have value : filteredField es f = ⟨f.name, f.type, v⟩ := by rw [filteredField, last]; rfl
    have empty := Literal.isEmpty_of_ofInput read
    by_cases blank : Text.strip text = ""
    · have sought : searchedText? filters f = none := by simp [searchedText?, given, blank]
      simp only [sought, value, SearchField.isSet, empty.2 blank]
      rfl
    · have sought : searchedText? filters f = some (f, text) := by simp [searchedText?, given, blank]
      have filled : v.isEmpty = false := Bool.eq_false_iff.2 (mt empty.1 blank)
      simp only [sought, value, SearchField.isSet, filled]
      exact ⟨rfl, v, read, rfl⟩

/-- **The fields that are set,** in the order of the fields of the entity. -/
theorem forall₂_filteredField
    (h : List.Forall₂ (fun f entry => e.entryOf f = .ok entry) filters es) {fs : List Field}
    (mem : ∀ f ∈ fs, f ∈ e.searchable) :
    List.Forall₂ HoldsText (fs.filterMap (searchedText? filters))
      ((fs.map (filteredField es)).filter (·.isSet)) := by
  induction fs with
  | nil => exact .nil
  | cons f fs ih =>
    obtain ⟨hf, hfs⟩ := List.forall_mem_cons.1 mem
    have one := isSet_filteredField h hf
    rw [List.map_cons]
    cases given : searchedText? filters f with
    | none =>
      rw [given] at one
      rw [List.filterMap_cons_none given, List.filter_cons_of_neg (by simp [one])]
      exact ih hfs
    | some s =>
      rw [given] at one
      rw [List.filterMap_cons_some given, List.filter_cons_of_pos one.1]
      exact .cons one.2 (ih hfs)

/-- **The query of filters that are all taken** has a clause for each searchable field whose last filter
has a text that is not blank, in the order of the fields. -/
theorem build_applyFilters (h : ∀ f ∈ filters, ∃ entry, e.entryOf f = .ok entry) :
    ∃ b clauses, applyFilters (.ofEntity e) filters = .ok b ∧
      List.Forall₂ IsFilterClause (searchedTexts e filters) clauses ∧
      b.build = .ok (Builder.queryText e.name clauses) := by
  obtain ⟨es, entries⟩ := exists_mapM h
  have applied := applyFilters_ready (Builder.declares_ofEntity e) filters
  rw [entries] at applied
  have fields : (Builder.ready e (e.searchable.map .ofField)).assignAll es =
      .ready e (e.searchable.map (filteredField es)) := by
    rw [Builder.assignAll_ready, List.map_map]
    rfl
  have applied : applyFilters (.ofEntity e) filters =
      .ok (.ready e (e.searchable.map (filteredField es))) := by
    rw [Builder.ofEntity, applied, ← fields]
    rfl
  obtain ⟨query, built⟩ := exists_build_of_applyFilters applied
  obtain ⟨clauses, hc, rfl⟩ := map_eq_ok.1 built
  refine ⟨_, clauses, applied, ?_, built⟩
  have set := forall₂_filteredField (mapM_eq_ok.1 entries) fun f hf => hf
  refine (forall₂_comp set (mapM_eq_ok.1 hc)).imp ?_
  rintro s clause ⟨g, ⟨v, read, rfl⟩, written⟩
  obtain ⟨literal, hl, rfl⟩ := map_eq_ok.1 written
  exact ⟨v, literal, read, hl, rfl⟩

/-- **The first filter that sets nothing decides the error.** -/
theorem applyFilters_eq_error {before after : List (Option (String × String))}
    {f : Option (String × String)} {err : Error}
    (passed : ∀ g ∈ before, ∃ entry, e.entryOf g = .ok entry) (refused : e.entryOf f = .error err) :
    applyFilters (.ofEntity e) (before ++ f :: after) = .error err := by
  rw [Builder.ofEntity, applyFilters_ready (Builder.declares_ofEntity e), map_eq_error, mapM_eq_error]
  exact ⟨before, f, after, rfl, passed, refused⟩

/-- A filter is refused with an own error. -/
theorem isOwn_of_entryOf {f : String × String} {err : Error} (h : e.entryOf (some f) = .error err) :
    err.isOwn = true := by
  have refused := (Builder.declares_ofEntity e).setText_eq f.1 f.2
  rw [h] at refused
  exact Session.failsOwn_setText rfl (some f.2) err refused

end CommandLine
end EntityQuery
