import EntityQuery.Proofs.Query.Invariant
import EntityQuery.Proofs.Query.Token

/-!
# Queries are read back

A query that a builder builds is read from its first to its last character, and says what the builder
was told: its entity, and one clause for each field that is set, in the order of the fields, with a
literal that stands for its value (`read?_build`). The only conditions are on the names of the entity
and of the fields, which stand in a query without quotes. A text value has none: whatever its
characters are, it neither ends its literal nor adds a clause.
-/

namespace EntityQuery
namespace Query

/-- A word is dropped from the front of a text. -/
theorem dropWord?_append (word rest : List Char) : dropWord? word (word ++ rest) = some rest := by
  have front : word.isPrefixOf (word ++ rest) = true :=
    List.isPrefixOf_iff_prefix.2 (List.prefix_append word rest)
  rw [dropWord?, if_pos front, List.drop_left]

/-- A text that is read as a clause: a name, an equals sign and a literal. -/
def IsClause (cs : List Char) (clause : List Char × Token) : Prop :=
  ∃ literal, cs = clause.1 ++ '=' :: literal ∧ '=' ∉ clause.1 ∧ Reads literal clause.2

/-- The last clause is read up to the semicolon. -/
theorem readClauses?_last {cs : List Char} {clause : List Char × Token} (h : IsClause cs clause)
    (count : ℕ) : readClauses? (count + 1) (cs ++ [';']) = some [clause] := by
  obtain ⟨literal, rfl, name, reads⟩ := h
  have token := reads ';' [] rfl
  rw [List.append_assoc, List.cons_append, readClauses?, upTo?_append name]
  simp [token]

/-- A clause is read up to the word before the next one. -/
theorem readClauses?_and {cs : List Char} {clause : List Char × Token} (h : IsClause cs clause)
    (count : ℕ) (rest : List Char) : readClauses? (count + 1) (cs ++ " and ".toList ++ rest) =
      (readClauses? count rest).map (clause :: ·) := by
  obtain ⟨literal, rfl, name, reads⟩ := h
  have blank : " and ".toList ++ rest = ' ' :: ("and ".toList ++ rest) := rfl
  have token := reads ' ' ("and ".toList ++ rest) rfl
  have not_last : " and ".toList ++ rest ≠ [';'] := fun h => by cases h
  have word := dropWord?_append " and ".toList rest
  rw [List.append_assoc, List.append_assoc, List.cons_append, readClauses?, upTo?_append name]
  rw [← blank] at token
  simp only [Option.bind_eq_bind, Option.bind_some, token, if_neg not_last, word]
  cases readClauses? count rest <;> rfl

/-- A clause is not empty. -/
theorem length_pos_of_isClause {cs : List Char} {clause : List Char × Token}
    (h : IsClause cs clause) : 0 < cs.length := by
  obtain ⟨literal, rfl, -⟩ := h
  simp

/-- **Clauses in a row are read one by one,** each up to the word between them or the end. -/
theorem readClauses?_intercalate {texts : List (List Char)} {clauses : List (List Char × Token)}
    (h : List.Forall₂ IsClause texts clauses) (hne : texts ≠ []) {count : ℕ}
    (hc : (" and ".toList.intercalate texts).length ≤ count) :
    readClauses? count (" and ".toList.intercalate texts ++ [';']) = some clauses := by
  -- every clause is longer than the step it takes, so the count lasts to the end
  induction h generalizing count with
  | nil => exact absurd rfl hne
  | @cons text clause texts clauses first others ih =>
    have := length_pos_of_isClause first
    cases texts with
    | nil =>
      cases others
      rw [List.intercalate_singleton] at hc ⊢
      obtain ⟨count, rfl⟩ : ∃ n, count = n + 1 := ⟨count - 1, by omega⟩
      exact readClauses?_last first count
    | cons second texts =>
      rw [List.intercalate_cons_cons] at hc ⊢
      simp only [List.length_append] at hc
      obtain ⟨count, rfl⟩ : ∃ n, count = n + 1 := ⟨count - 1, by omega⟩
      rw [List.append_assoc, readClauses?_and first, ih (List.cons_ne_nil _ _) (by omega)]
      rfl

/-- The characters of a query without clauses. -/
theorem toList_queryText_nil (entity : String) : (Builder.queryText entity []).toList =
    "select * from ".toList ++ (entity.toList ++ [';']) := by
  show ("select * from " ++ entity ++ "" ++ ";").toList = _
  simp only [String.toList_append, List.append_assoc]
  rfl

/-- The characters of a query with clauses. -/
theorem toList_queryText {texts : List String} (hne : texts ≠ []) (entity : String) :
    (Builder.queryText entity texts).toList = "select * from ".toList ++ (entity.toList ++
      (" where ".toList ++ (" and ".toList.intercalate (texts.map String.toList) ++ [';']))) := by
  show ("select * from " ++ entity ++ (if texts = [] then "" else _) ++ ";").toList = _
  simp only [if_neg hne, String.toList_append, String.toList_intercalate, List.append_assoc]
  rfl

/-- **A query is read:** the name of its entity, and its clauses if it has any. -/
theorem read?_queryText {entity : String} (hn : ∀ c ∈ entity.toList, isEnd c = false)
    {texts : List String} {clauses : List (List Char × Token)}
    (h : List.Forall₂ IsClause (texts.map String.toList) clauses) :
    read? (Builder.queryText entity texts).toList = some ⟨entity.toList, clauses⟩ := by
  by_cases hne : texts = []
  · subst hne
    cases h
    obtain ⟨taken, left⟩ := takeWhile_isEnd hn (c := ';') rfl []
    rw [toList_queryText_nil, read?, dropWord?_append]
    simp only [Option.bind_eq_bind, Option.bind_some, taken, left]
  · rw [toList_queryText hne, read?, dropWord?_append]
    generalize hr : " and ".toList.intercalate (texts.map String.toList) ++ [';'] = rest
    have enough : (" and ".toList.intercalate (texts.map String.toList)).length ≤ rest.length := by
      rw [← hr, List.length_append]
      omega
    have read := readClauses?_intercalate h (by simpa using hne) enough
    rw [hr] at read
    have word := dropWord?_append " where ".toList rest
    have blank : " where ".toList ++ rest = ' ' :: ("where ".toList ++ rest) := rfl
    obtain ⟨taken, left⟩ := takeWhile_isEnd hn (c := ' ') rfl ("where ".toList ++ rest)
    rw [← blank] at taken left
    simp only [Option.bind_eq_bind, Option.bind_some, taken, left]
    split
    · next h => cases h
    · simp only [word, read, Option.bind_some]
      rfl

/-! ### What the query of a builder says -/

/-- A clause tells the name of a search field and a literal that stands for its value. -/
def Tells (f : SearchField) (clause : List Char × Token) : Prop :=
  clause.1 = f.name.toList ∧ ∃ a, clause.2.scalar? = some a ∧ a.Denotes f.value f.type

/-- The clause of a search field is read, and tells the field. -/
theorem isClause_clause {f : SearchField} {text : String} (h : f.clause = .ok text)
    (hn : '=' ∉ f.name.toList) : ∃ clause, IsClause text.toList clause ∧ Tells f clause := by
  obtain ⟨literal, hl, rfl⟩ := Outcome.map_eq_ok.1 h
  obtain ⟨token, a, reads, ha, denotes⟩ := reads_ofValue hl
  have split : (f.name ++ "=" ++ literal).toList = f.name.toList ++ '=' :: literal.toList := by
    simp only [String.toList_append, List.append_assoc]
    rfl
  exact ⟨(f.name.toList, token), ⟨literal.toList, split, hn, reads⟩, rfl, a, ha, denotes⟩

/-- So are the clauses of search fields in a row. -/
theorem exists_isClause {fs : List SearchField} {texts : List String}
    (h : List.Forall₂ (fun f text => f.clause = .ok text) fs texts)
    (hn : ∀ f ∈ fs, '=' ∉ f.name.toList) :
    ∃ clauses, List.Forall₂ IsClause (texts.map String.toList) clauses ∧
      List.Forall₂ Tells fs clauses := by
  induction h with
  | nil => exact ⟨[], .nil, .nil⟩
  | cons first _ ih =>
    obtain ⟨clause, reads, tells⟩ := isClause_clause first (hn _ (List.mem_cons_self ..))
    obtain ⟨clauses, all_read, all_tell⟩ := ih fun f hf => hn f (List.mem_cons_of_mem _ hf)
    exact ⟨clause :: clauses, .cons reads all_read, .cons tells all_tell⟩

/-- **The query of a builder is read back.** After every history, a builder that is ready builds a
query that says the name of its entity and, in the order of the searchable fields, the fields that
are set and their values, and nothing else. -/
theorem read?_build {operations : List Builder.Operation} {e : Entity} {fs : List SearchField}
    (hb : Builder.fresh.run operations = .ready e fs)
    (he : ' ' ∉ e.name.toList ∧ ';' ∉ e.name.toList)
    (hf : ∀ f ∈ e.searchable, '=' ∉ f.name.toList) :
    fs.map (fun f => (f.name, f.type)) = e.searchable.map (fun f => (f.name, f.type)) ∧
      ∃ query statement, (Builder.fresh.run operations).build = .ok query ∧
        read? query.toList = some statement ∧ statement.entity = e.name.toList ∧
        List.Forall₂ Tells (fs.filter (·.isSet)) statement.clauses := by
  have sound := Builder.isSound_run operations
  rw [hb] at sound ⊢
  refine ⟨sound.1, ?_⟩
  obtain ⟨query, hq⟩ := sound.exists_build
  obtain ⟨texts, ht, rfl⟩ := Outcome.map_eq_ok.1 hq
  have name_ends : ∀ c ∈ e.name.toList, isEnd c = false := by
    intro c hc
    have blank : c ≠ ' ' := fun h => he.1 (h ▸ hc)
    have semicolon : c ≠ ';' := fun h => he.2 (h ▸ hc)
    simp [isEnd, blank, semicolon]
  have names : ∀ f ∈ fs.filter (·.isSet), '=' ∉ f.name.toList := by
    intro f hm
    have declared : (f.name, f.type) ∈ e.searchable.map (fun f => (f.name, f.type)) :=
      sound.1 ▸ List.mem_map_of_mem (List.mem_filter.1 hm).1
    obtain ⟨g, hg, same⟩ := List.mem_map.1 declared
    obtain ⟨name, -⟩ := Prod.mk.inj same
    exact name ▸ hf g hg
  obtain ⟨clauses, reads, tells⟩ := exists_isClause (Outcome.mapM_eq_ok.1 ht) names
  exact ⟨_, ⟨e.name.toList, clauses⟩, hq, read?_queryText name_ends reads, rfl, tells⟩

/-- Search fields with texts that look like the end of a literal and another clause. -/
def trickyFields : List SearchField :=
  [⟨"name", .string, .text "x' and active=true and city='y';"⟩, ⟨"active", .boolean, .bool false⟩,
    ⟨"city", .string, .text "\" and name=\"z\";"⟩]

/-- A history that sets them. -/
def trickyHistory : List Builder.Operation :=
  [.start Builder.customer,
    .setValues [(.text "city", .text "\" and name=\"z\";"), (.text "active", .bool false)],
    .setValue (.text "name") (.text "x' and active=true and city='y';")]

/-- The texts are read back as texts. -/
theorem read?_build_trickyHistory :
    Builder.fresh.run trickyHistory = .ready Builder.customer trickyFields ∧
      (' ' ∉ Builder.customer.name.toList ∧ ';' ∉ Builder.customer.name.toList) ∧
      (∀ f ∈ Builder.customer.searchable, '=' ∉ f.name.toList) ∧
      ∃ query statement, (Builder.fresh.run trickyHistory).build = .ok query ∧
        read? query.toList = some statement ∧ statement.entity = "customer".toList ∧
        List.Forall₂ Tells trickyFields statement.clauses := by
  have ready : Builder.fresh.run trickyHistory = .ready Builder.customer trickyFields := rfl
  have entity : ' ' ∉ Builder.customer.name.toList ∧ ';' ∉ Builder.customer.name.toList := by
    decide
  have names : ∀ f ∈ Builder.customer.searchable, '=' ∉ f.name.toList := by decide
  obtain ⟨query, statement, built, read, said, told⟩ := (read?_build ready entity names).2
  exact ⟨ready, entity, names, query, statement, built, read, said, told⟩

end Query
end EntityQuery
