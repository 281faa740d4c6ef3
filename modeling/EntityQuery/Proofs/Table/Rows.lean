import EntityQuery.Proofs.Table.Forms
import EntityQuery.Value.Json

/-!
# What is taken for rows

Rows that name their cells are not checked to be mappings. A value that iterates over pairs is taken for
a row too (`Value.IsRow`): in JSON the empty text and arrays of pairs, a pair being an array of two, a
text of two characters, or an object with two keys (`Value.isRow_iff_of_isJson`). Nothing else is taken
(`exists_ofRows_iff`).

The header is collected from what the rows iterate over. For a mapping these are the names of its cells,
so every cell of a mapping has a column. For an array of pairs they are the pairs themselves, so its cells
may have none. A header that is given has a column for every cell (`Table.columns_of_response`).
-/

namespace EntityQuery

open Outcome

namespace Value

/-- What is taken for a name and a cell: a value that iterates over two, of which the first can be a
key. -/
def IsPair (v : Value) : Prop := ∃ name cell, v.items? = some [name, cell] ∧ name.canBeKey = true

/-- What is taken for a row: a mapping, or a value that iterates over pairs. -/
def IsRow (v : Value) : Prop :=
  (∃ es, v = .mapping es) ∨ ∃ xs, v.items? = some xs ∧ ∀ x ∈ xs, x.IsPair

/-- A row can be gone through. -/
theorem IsRow.isSome_items? {v : Value} (h : v.IsRow) : v.items?.isSome = true := by
  obtain ⟨es, rfl⟩ | ⟨xs, items, -⟩ := h
  · rfl
  · rw [items]
    rfl

/-! ### In JSON -/

/-- **The pairs of JSON** are the texts of two characters, the arrays of two of which the first is no
container, and the objects with two keys. -/
theorem isPair_iff_of_isJson {v : Value} (h : v.isJson = true) : v.IsPair ↔
    (∃ a b : Char, v = .text (String.ofList [a, b])) ∨
    (∃ name cell, v = .list [name, cell] ∧ name.canBeKey = true) ∨ ∃ e f, v = .mapping [e, f] := by
  cases v with
  | text s =>
    simp only [IsPair, items?, Option.some.injEq, text.injEq, reduceCtorEq, false_and, exists_false,
      or_false]
    constructor
    · rintro ⟨name, cell, items, -⟩
      obtain ⟨a, _, chars, -, items⟩ := List.map_eq_cons_iff.1 items
      obtain ⟨b, _, rfl, -, items⟩ := List.map_eq_cons_iff.1 items
      obtain rfl := List.map_eq_nil_iff.1 items
      exact ⟨a, b, by rw [← chars, String.ofList_toList]⟩
    · rintro ⟨a, b, rfl⟩
      exact ⟨_, _, by rw [String.toList_ofList]; rfl, rfl⟩
  | list xs => simp [IsPair, items?]
  | mapping es =>
    simp only [IsPair, items?, Option.some.injEq, mapping.injEq, reduceCtorEq, false_and,
      exists_false, false_or]
    rw [isJson, entriesJson_iff] at h
    constructor
    · rintro ⟨name, cell, items, -⟩
      obtain ⟨e, _, rfl, -, items⟩ := List.map_eq_cons_iff.1 items
      obtain ⟨f, _, rfl, -, items⟩ := List.map_eq_cons_iff.1 items
      obtain rfl := List.map_eq_nil_iff.1 items
      exact ⟨e, f, rfl⟩
    · rintro ⟨e, f, rfl⟩
      have text := (h e (List.mem_cons_self ..)).1
      refine ⟨e.1, f.1, rfl, canBeKey_of_isText ?_⟩
      unfold isPlainText at text
      split at text
      · next key => rw [key]; rfl
      · cases text
  | null | bool | int | float => simp [IsPair, items?]
  | ragged | bytes | date | timestamp | fieldType => cases h

/-- **The rows of JSON** are the objects, the empty text, and the arrays of pairs. -/
theorem isRow_iff_of_isJson {v : Value} (h : v.isJson = true) : v.IsRow ↔
    (∃ es, v = .mapping es) ∨ v = .text "" ∨ ∃ xs, v = .list xs ∧ ∀ x ∈ xs, x.IsPair := by
  cases v with
  | text s =>
    have no_pair : ∀ c : Char, ¬ (text (String.singleton c)).IsPair := by
      rintro c ⟨name, cell, items, -⟩
      simp [items?] at items
    simp only [IsRow, items?, Option.some.injEq, text.injEq, reduceCtorEq, false_and, exists_false,
      or_false, false_or]
    constructor
    · rintro ⟨xs, rfl, pairs⟩
      refine String.toList_inj.1 (List.eq_nil_iff_forall_not_mem.2 fun c hc => ?_)
      exact no_pair c (pairs _ (List.mem_map_of_mem hc))
    · rintro rfl
      exact ⟨[], rfl, List.forall_mem_nil _⟩
  | list xs => simp [IsRow, items?]
  | mapping es => exact iff_of_true (.inl ⟨es, rfl⟩) (.inl ⟨es, rfl⟩)
  | null | bool | int | float => simp [IsRow, items?]
  | ragged | bytes | date | timestamp | fieldType => cases h

end Value

namespace Table

/-! ### Which rows are accepted -/

/-- An element is read as an entry exactly if it has two items. -/
theorem entryOfElement_eq_ok {position : Nat} {v : Value} {e : Value × Value} :
    entryOfElement position v = .ok e ↔ v.items? = some [e.1, e.2] := by
  unfold entryOfElement
  split
  · next none => simp [none]
  · next name cell items => simp [items, Prod.ext_iff]
  · next xs other items =>
    rw [items]
    constructor
    · rintro ⟨⟩
    · intro two
      exact absurd (Option.some.inj two) (other _ _)

/-- Elements are set exactly if each is a pair. -/
theorem exists_insertElements_iff {m : Entries} {position : Nat} {vs : List Value} :
    (∃ row, insertElements m position vs = .ok row) ↔ ∀ v ∈ vs, v.IsPair := by
  induction vs generalizing m position with
  | nil => exact iff_of_true ⟨m, rfl⟩ (List.forall_mem_nil _)
  | cons v vs ih =>
    rw [List.forall_mem_cons, insertElements]
    split
    · next refused =>
      constructor
      · rintro ⟨row, ⟨⟩⟩
      · rintro ⟨⟨name, cell, items, -⟩, -⟩
        have read : entryOfElement position v = .ok (name, cell) := entryOfElement_eq_ok.2 items
        rw [read] at refused
        cases refused
    · next e read =>
      have items := entryOfElement_eq_ok.1 read
      split
      · next key => rw [ih, and_iff_right ⟨e.1, e.2, items, key⟩]
      · next noKey =>
        constructor
        · rintro ⟨row, ⟨⟩⟩
        · rintro ⟨⟨name, cell, items', key⟩, -⟩
          obtain ⟨rfl, -⟩ := List.cons.inj (Option.some.inj (items.symm.trans items'))
          exact absurd key noKey

/-- **A value is taken for a row exactly if it is a mapping or iterates over pairs.** -/
theorem exists_rowOfNamed_iff {v : Value} : (∃ row, rowOfNamed v = .ok row) ↔ v.IsRow := by
  unfold rowOfNamed
  split
  · next es => exact iff_of_true ⟨es, rfl⟩ (.inl ⟨es, rfl⟩)
  · next other =>
    have no_mapping : ¬ ∃ es, v = .mapping es := not_exists.2 other
    rw [Value.IsRow, or_iff_right no_mapping]
    constructor
    · rintro ⟨row, h⟩
      obtain ⟨xs, items, h⟩ := bind_eq_ok.1 h
      exact ⟨xs, Value.iterate_eq_ok.1 items, exists_insertElements_iff.1 ⟨row, h⟩⟩
    · rintro ⟨xs, items, pairs⟩
      obtain ⟨row, h⟩ := exists_insertElements_iff.2 pairs
      exact ⟨row, bind_eq_ok.2 ⟨xs, Value.iterate_eq_ok.2 items, h⟩⟩

/-- **A list of rows is accepted exactly if each of them is taken for one.** -/
theorem exists_ofRows_iff {rows : List Value} :
    (∃ t, ofRows rows = .ok t) ↔ ∀ v ∈ rows, v.IsRow := by
  constructor
  · rintro ⟨t, h⟩
    unfold ofRows at h
    split at h
    · cases h
    · obtain ⟨made, hmade, -⟩ := map_eq_ok.1 h
      exact fun v hv => exists_rowOfNamed_iff.1 (exists_mapM_iff.1 ⟨made, hmade⟩ v hv)
  · intro taken
    have header : headerOfRows [] rows = .ok _ :=
      headerOfRows_eq fun v hv => (taken v hv).isSome_items?
    obtain ⟨made, hmade⟩ := exists_mapM fun v hv => exists_rowOfNamed_iff.2 (taken v hv)
    rw [ofRows, header, hmade]
    exact ⟨_, rfl⟩

/-! ### Which cells have a column -/

/-- Whether a key is one of the header. -/
def HasColumn (t : Table) (key : Value) : Prop := t.header.any key.same = true

/-- What a table of rows holds: each row by itself, under names that are collected from all. -/
theorem of_ofRows {rows : List Value} {t : Table} (h : ofRows rows = .ok t) :
    t.header = extendHeader [] (rows.flatMap fun row => row.items?.getD []) ∧
      List.Forall₂ (fun v row => rowOfNamed v = .ok row) rows t.rows := by
  have header : headerOfRows [] rows = .ok _ :=
    headerOfRows_eq fun v hv => (exists_ofRows_iff.1 ⟨t, h⟩ v hv).isSome_items?
  rw [ofRows, header] at h
  obtain ⟨made, hmade, rfl⟩ := map_eq_ok.1 h
  exact ⟨rfl, mapM_eq_ok.1 hmade⟩

/-- **Every cell of a mapping has a column.** -/
theorem hasColumn_of_mapping {rows : List Value} {t : Table} {es : Entries}
    (h : ofRows rows = .ok t) (hes : .mapping es ∈ rows) : ∀ e ∈ es, t.HasColumn e.1 := by
  intro e he
  rw [HasColumn, (of_ofRows h).1]
  exact any_extendHeader_of_mem (List.mem_flatMap.2 ⟨_, hes, List.mem_map_of_mem he⟩)

/-- Entries that are all set are the mapping that is made of them. -/
theorem eq_ofList_of_insertAll {m row : Entries} {es : List (Value × Value)}
    (h : insertAll m es = .ok row) : row = es.foldl (fun m e => m.insert e.1 e.2) m := by
  induction es generalizing m with
  | nil => exact (Except.ok.inj h).symm
  | cons e es ih =>
    rw [insertAll] at h
    split at h
    · exact ih h
    · cases h

/-- The keys of a row of cells are names of the header. -/
theorem mem_header_of_rowOfCells {header : List Value} {v : Value} {row : Entries}
    (h : rowOfCells header v = .ok row) : ∀ e ∈ row, e.1 ∈ header := by
  unfold rowOfCells at h
  split at h
  · cases h
  · split at h
    · intro e he
      rw [eq_ofList_of_insertAll h] at he
      have key := Entries.mem_map_fst_ofList (List.mem_map_of_mem he)
      obtain ⟨pair, there, same⟩ := List.mem_map.1 key
      exact same ▸ (List.of_mem_zip there).1
    · cases h

/-- **Under a header that is given, every cell has a column.** -/
theorem hasColumn_of_ofStatement {es : Entries} {t : Table} (h : ofStatement es = .ok t) :
    ∀ row ∈ t.rows, ∀ e ∈ row, t.HasColumn e.1 := by
  unfold ofStatement at h
  split at h
  · obtain rfl := Except.ok.inj h
    exact fun _ hrow => absurd hrow List.not_mem_nil
  · obtain ⟨header, -, h⟩ := bind_eq_ok.1 h
    obtain ⟨vs, -, h⟩ := bind_eq_ok.1 h
    obtain ⟨rows, made, rfl⟩ := map_eq_ok.1 h
    intro row hrow e he
    obtain ⟨v, -, read⟩ := exists_of_mem_mapM made hrow
    exact List.any_eq_true.2 ⟨e.1, mem_header_of_rowOfCells read e he, e.1.same_refl⟩

/-- A mapping is a row of the table as it is, in its place. -/
theorem getElem?_of_mapping {rows : List Value} {t : Table} (h : ofRows rows = .ok t) {i : Nat}
    {fs : Entries} (hi : rows[i]? = some (.mapping fs)) : t.rows[i]? = some fs := by
  have made := (of_ofRows h).2
  obtain ⟨inside, hfs⟩ := List.getElem?_eq_some_iff.1 hi
  have inside' : i < t.rows.length := made.length_eq ▸ inside
  have row : rowOfNamed rows[i] = .ok t.rows[i] := made.get inside inside'
  rw [hfs] at row
  rw [List.getElem?_eq_getElem inside', Except.ok.inj row]

/-- **Which rows are taken, and which cells have a column.** A list of rows that name their cells is
accepted exactly if each is a mapping or a value that iterates over pairs. In JSON that is an object, the
empty text or an array of pairs, a pair being a text of two characters, an array of two of which the first
is no container, or an object with two keys. A mapping becomes the row in its place as it is, and each of
its cells has a column. Under a header that is given, every cell has one. -/
theorem columns_of_response (es : Entries) :
    (∀ rows others, es.get "result" = .list (.list rows :: others) →
      ((∃ t, ofResponse es = .ok t) ↔ ∀ v ∈ rows, v.IsRow) ∧
      ∀ t, ofResponse es = .ok t → t.rows.length = rows.length ∧
        ∀ (i : Nat) (fs : Entries), rows[i]? = some (.mapping fs) →
          t.rows[i]? = some fs ∧ ∀ e ∈ fs, t.HasColumn e.1) ∧
    (∀ statement others, es.get "result" = .list (.mapping statement :: others) →
      ∀ t, ofResponse es = .ok t → ∀ row ∈ t.rows, ∀ e ∈ row, t.HasColumn e.1) ∧
    ∀ v : Value, v.isJson = true → (v.IsRow ↔
      (∃ fs, v = .mapping fs) ∨ v = .text "" ∨ ∃ xs, v = .list xs ∧ ∀ x ∈ xs,
        (∃ a b : Char, x = .text (String.ofList [a, b])) ∨
        (∃ name cell, x = .list [name, cell] ∧ name.canBeKey = true) ∨ ∃ e f, x = .mapping [e, f]) := by
  refine ⟨fun rows others result => ?_, fun statement others result t h => ?_, fun v json => ?_⟩
  · have accepted : ∀ t, ofResponse es = .ok t ↔ ofRows rows = .ok t := fun t => by
      rw [ofResponse_of_rows result, mapError_eq_ok]
    simp only [accepted]
    refine ⟨exists_ofRows_iff, fun t h => ⟨(of_ofRows h).2.length_eq.symm, fun i fs hi => ?_⟩⟩
    exact ⟨getElem?_of_mapping h hi, hasColumn_of_mapping h (List.mem_of_getElem? hi)⟩
  · rw [ofResponse, result] at h
    exact hasColumn_of_ofStatement (mapError_eq_ok.1 h)
  · rw [Value.isRow_iff_of_isJson json]
    refine or_congr_right (or_congr_right (exists_congr fun xs => and_congr_right ?_))
    rintro rfl
    rw [Value.isJson, Value.itemsJson_iff] at json
    exact forall₂_congr fun x hx => Value.isPair_iff_of_isJson (json x hx)

/-- The address of the first of the uneven users has a column, although the second user has none. -/
theorem columns_of_unevenUsers : ∃ t, ofResponse (responseOfRows unevenUsers) = .ok t ∧
    t.HasColumn (.text "email") := by
  obtain ⟨rows, -, -⟩ := columns_of_response (responseOfRows unevenUsers)
  obtain ⟨accepted, kept⟩ := rows (unevenUsers.map .mapping) [] rfl
  obtain ⟨t, ht⟩ := accepted.2 (List.forall_mem_map.2 fun fs _ => .inl ⟨fs, rfl⟩)
  obtain ⟨-, first⟩ := (kept t ht).2 0 _ rfl
  exact ⟨t, ht, first (.text "email", .text "a@b.com") (by simp)⟩

/-- A response with one row, an array of one pair. -/
def responseOfPair : Entries :=
  [(.text "result", .list [.list [.list [.list [.text "a", .int 1]]]])]

/-- Not every row that is accepted is an object, and not every cell has a column: the name of the cell of
an array of one pair is none of the header, which holds the pair. -/
theorem exists_row_without_columns :
    (¬ ∀ (es : Entries) (rows others : List Value) (t : Table), (Value.mapping es).isJson = true →
      es.get "result" = .list (.list rows :: others) → ofResponse es = .ok t →
      ∀ v ∈ rows, ∃ fs, v = .mapping fs) ∧
    ¬ ∀ (es : Entries) (rows others : List Value) (t : Table), (Value.mapping es).isJson = true →
      es.get "result" = .list (.list rows :: others) → ofResponse es = .ok t →
      ∀ row ∈ t.rows, ∀ e ∈ row, t.HasColumn e.1 := by
  have read : ofResponse responseOfPair =
      .ok ⟨[.list [.text "a", .int 1]], [[(.text "a", .int 1)]]⟩ := rfl
  constructor
  · intro every
    obtain ⟨fs, h⟩ := every responseOfPair _ [] _ rfl rfl read _ (List.mem_singleton.2 rfl)
    cases h
  · intro every
    have column := every responseOfPair _ [] _ rfl rfl read _ (List.mem_singleton.2 rfl) _
      (List.mem_singleton.2 rfl)
    cases column

end Table
end EntityQuery
