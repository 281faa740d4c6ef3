import EntityQuery.Proofs.Table.Cells
import EntityQuery.Proofs.Table.Header

/-!
# The two forms of a result agree

A result may come as a header and rows of cells, or as rows that name their cells. The second form keeps
its rows as they are, and its header lists their names as they first occur (`ofRows_mappings`). So if the
names of a header are distinct and there is at least one row, it does not matter in which of the two
forms the rows come: the tables are equal (`Table.forms_agree`). Without a row there is nothing to collect
a header from.
-/

namespace EntityQuery
namespace Table

open Outcome

/-- The names of rows, row by row. -/
def namesOf (rows : List Entries) : List Value := rows.flatMap fun row => row.map (·.1)

/-! ### Rows that name their cells -/

/-- **Mappings are kept as they are,** under the names that are collected from them. -/
theorem ofRows_mappings (rows : List Entries) :
    ofRows (rows.map .mapping) = .ok ⟨extendHeader [] (namesOf rows), rows⟩ := by
  have names : (rows.map Value.mapping).flatMap (fun row => row.items?.getD []) = namesOf rows :=
    List.flatMap_map ..
  have header : headerOfRows [] (rows.map .mapping) = .ok (extendHeader [] (namesOf rows)) :=
    names ▸ headerOfRows_eq (List.forall_mem_map.2 fun _ _ => rfl)
  have kept : (rows.map Value.mapping).mapM rowOfNamed = .ok rows :=
    mapM_eq_ok.2 (List.forall₂_map_left_iff.2 (List.forall₂_same.2 fun _ _ => rfl))
  rw [ofRows, header, kept]
  rfl

/-- A response whose first result is a list is read as rows that name their cells. -/
theorem ofResponse_of_rows {es : Entries} {rows others : List Value}
    (result : es.get "result" = .list (.list rows :: others)) :
    ofResponse es = (ofRows rows).mapError .shape := by
  rw [ofResponse, result]

/-! ### Rows of cells -/

section

variable {header : List Value} {cells : List (List Value)}

/-- Rows that are as wide as the header have its names, each row all of them. -/
theorem namesOf_zip (widths : ∀ cs ∈ cells, cs.length = header.length) :
    namesOf (cells.map header.zip) = cells.flatMap fun _ => header := by
  rw [namesOf, List.flatMap_map]
  exact List.flatMap_congr fun cs hcs => List.map_fst_zip (Nat.le_of_eq (widths cs hcs).symm)

/-- **The header of distinct names is collected from its own rows,** if there are any. -/
theorem extendHeader_of_rows (distinct : header.Pairwise fun a b => b.same a = false)
    (some_row : cells ≠ []) : extendHeader [] (cells.flatMap fun _ => header) = header := by
  obtain ⟨cs, cells, rfl⟩ := List.exists_cons_of_ne_nil some_row
  -- the first row brings all names, the others none that is new
  have own : extendHeader [] header = header := extendHeader_of_distinct distinct
  rw [List.flatMap_cons, extendHeader_append, own]
  refine extendHeader_of_known fun name hname => ?_
  obtain ⟨_, -, there⟩ := List.mem_flatMap.1 hname
  exact List.any_eq_true.2 ⟨name, there, name.same_refl⟩

/-- A row of cells under distinct names is the mapping of the names to the cells. -/
theorem rowOfCells_of_distinct {cs : List Value} (texts : ∀ name ∈ header, name.isText = true)
    (distinct : header.Pairwise fun a b => b.same a = false) (width : cs.length = header.length) :
    rowOfCells header (.list cs) = .ok (header.zip cs) := by
  have apart : Entries.Distinct (header.zip cs) := by
    rw [Entries.distinct_iff, List.map_fst_zip (Nat.le_of_eq width.symm)]
    exact distinct
  rw [rowOfCells_list texts, if_pos width, Entries.ofList_of_distinct apart]

end

/-- **The two forms of a result agree.** Rows that name their cells by texts are kept as they are, and
their header lists the names as they first occur, each once. And a header of distinct texts with rows of
as many cells gives the same table as these rows give when they name their cells themselves, if there is
a row at all: the header is the same, in its order, and so are the rows. -/
theorem forms_agree :
    (∀ (es : Entries) (others : List Value) (rows : List Entries),
      es.get "result" = .list (.list (rows.map .mapping) :: others) →
      (∀ name ∈ namesOf rows, name.isText = true) →
      ∃ header, ofResponse es = .ok ⟨header, rows⟩ ∧ ListsFirst (namesOf rows) header) ∧
    ∀ (es fs statement : Entries) (others others' header : List Value) (cells : List (List Value)),
      es.get "result" = .list (.mapping statement :: others) →
      statement.get? "header" = some (.list header) →
      statement.get? "values" = some (.list (cells.map .list)) →
      fs.get "result" = .list (.list (cells.map fun cs => .mapping (header.zip cs)) :: others') →
      (∀ name ∈ header, name.isText = true) →
      header.Pairwise (fun a b => a.same b = false) →
      cells ≠ [] → (∀ cs ∈ cells, cs.length = header.length) →
      ofResponse es = .ok ⟨header, cells.map header.zip⟩ ∧ ofResponse fs = ofResponse es := by
  constructor
  · intro es others rows result texts
    refine ⟨extendHeader [] (namesOf rows), ?_, listsFirst_extendHeader texts⟩
    rw [ofResponse_of_rows result, ofRows_mappings]
    rfl
  · intro es fs statement others others' header cells result names values result' texts distinct
      some_row widths
    have distinct : header.Pairwise fun a b => b.same a = false :=
      distinct.imp_of_mem fun ha hb apart => Value.same_comm (texts _ hb) (texts _ ha) ▸ apart
    have given : ofResponse es = .ok ⟨header, cells.map header.zip⟩ := by
      refine (ofResponse_eq_ok result names values).2 ⟨rfl, ?_⟩
      exact List.forall₂_map_right_iff.2 (List.forall₂_same.2 fun cs hcs =>
        rowOfCells_of_distinct texts distinct (widths cs hcs))
    refine ⟨given, ?_⟩
    have rows : (cells.map fun cs => Value.mapping (header.zip cs)) =
        (cells.map header.zip).map .mapping := (List.map_map ..).symm
    rw [given, ofResponse_of_rows result', rows, ofRows_mappings, namesOf_zip widths,
      extendHeader_of_rows distinct some_row]
    rfl

/-- A response with one statement result of rows that name their cells. -/
def responseOfRows (rows : List Entries) : Entries :=
  [(.text "result", .list [.list (rows.map .mapping)])]

/-- The users of two rows, of which the second has an age and no address. -/
def unevenUsers : List Entries :=
  [[(.text "id", .int 1), (.text "email", .text "a@b.com")],
    [(.text "age", .int 30), (.text "id", .int 2)]]

/-- The two users with an address are the same in both forms, and the two uneven ones have three
columns. -/
theorem forms_agree_users :
    ofResponse (responseOfRows [[(.text "id", .int 1), (.text "email", .text "a@b.com")],
      [(.text "id", .int 2), (.text "email", .null)]]) = ofResponse twoUsers ∧
    ofResponse (responseOfRows unevenUsers) =
      .ok ⟨[.text "id", .text "email", .text "age"], unevenUsers⟩ ∧
    ListsFirst (namesOf unevenUsers) [.text "id", .text "email", .text "age"] := by
  obtain ⟨ofMappings, agree⟩ := forms_agree
  have users := agree twoUsers (responseOfRows [[(.text "id", .int 1), (.text "email", .text "a@b.com")],
      [(.text "id", .int 2), (.text "email", .null)]]) _ [] [] [.text "id", .text "email"]
    [[.int 1, .text "a@b.com"], [.int 2, .null]] rfl rfl rfl rfl (by decide)
    (by simp [Value.same, Value.text?]) (by simp) (by simp)
  obtain ⟨header, read, lists⟩ := ofMappings (responseOfRows unevenUsers) [] unevenUsers rfl (by decide)
  have shown : ofResponse (responseOfRows unevenUsers) =
      .ok ⟨[.text "id", .text "email", .text "age"], unevenUsers⟩ := rfl
  obtain ⟨rfl, -⟩ := Table.mk.inj (Except.ok.inj (shown.symm.trans read))
  exact ⟨users.2, shown, lists⟩

end Table
end EntityQuery
