import EntityQuery.Proofs.Outcome
import EntityQuery.Proofs.Value.Entries
import EntityQuery.Table

/-!
# Where the cells of a result go

A result with a header and rows of cells becomes a table exactly if every row has as many cells as the
header has names. A row of the table maps each name to the cell of the last column of that name
(`find?_of_rowOfCells`): if no name is repeated, that is the cell of the column itself, and otherwise
the cells of the columns before it are lost.
-/

namespace EntityQuery
namespace Table

open Outcome

/-- Whether a column is the last one of a name. -/
def isLastColumn (header : List Value) (name : Value) (k : Nat) : Bool :=
  header[k]?.any name.same && !(header.drop (k + 1)).any name.same

/-- If no name is repeated, every column is the last one of its name. -/
theorem isLastColumn_of_pairwise {header : List Value} {name : Value} {k : Nat}
    (text : name.isText = true) (distinct : header.Pairwise fun a b => a.same b = false)
    (h : header[k]? = some name) : isLastColumn header name k = true := by
  obtain ⟨hk, rfl⟩ := List.getElem?_eq_some_iff.1 h
  have behind : ∀ other ∈ header.drop (k + 1), header[k].same other = false := by
    rw [← List.take_append_drop k header, List.pairwise_append, List.drop_eq_getElem_cons hk,
      List.pairwise_cons] at distinct
    exact distinct.2.1.1
  simpa [isLastColumn, h, Value.same_self text] using behind

/-! ### One row -/

/-- Entries with texts as keys are set one after the other. -/
theorem insertAll_eq_ok {es : List (Value × Value)} (h : ∀ e ∈ es, e.1.isText = true)
    (m : Entries) : insertAll m es = .ok (es.foldl (fun m e => m.insert e.1 e.2) m) := by
  induction es generalizing m with
  | nil => rfl
  | cons e es ih =>
    rw [List.forall_mem_cons] at h
    rw [insertAll, if_pos (Value.canBeKey_of_isText h.1), ih h.2, List.foldl_cons]

/-- The names over cells are texts if all names are. -/
theorem isText_of_mem_zip {header cells : List Value} (h : ∀ name ∈ header, name.isText = true) :
    ∀ e ∈ header.zip cells, e.1.isText = true :=
  fun _ he => h _ (List.of_mem_zip he).1

/-- Under names, a row of cells is the mapping of its names and cells if there are as many of each,
and refused if not. -/
theorem rowOfCells_list {header cells : List Value}
    (texts : ∀ name ∈ header, name.isText = true) :
    rowOfCells header (.list cells) =
      if cells.length = header.length then .ok (Entries.ofList (header.zip cells))
      else .error (.rowWidth cells.length header.length) := by
  rw [rowOfCells, Value.items?]
  simp only [insertAll_eq_ok (isText_of_mem_zip texts)]
  rfl

/-- A row has as many cells as there are names. -/
theorem width_of_rowOfCells {header cells : List Value} {row : Entries}
    (texts : ∀ name ∈ header, name.isText = true) (h : rowOfCells header (.list cells) = .ok row) :
    cells.length = header.length := by
  by_contra other
  rw [rowOfCells_list texts, if_neg other] at h
  cases h

/-- Of names and cells side by side, a name has the cell of its last column last. -/
theorem find?_reverse_zip {header cells : List Value} {name : Value} {k : Nat}
    (width : cells.length = header.length) (h : isLastColumn header name k = true) :
    Entries.find? (header.zip cells).reverse name = cells[k]? := by
  rw [isLastColumn, Bool.and_eq_true, Bool.not_eq_true', Option.any_eq_true] at h
  obtain ⟨⟨last, hk, hit⟩, behind⟩ := h
  induction header generalizing cells k with
  | nil => cases hk
  | cons first header ih =>
    cases cells with
    | nil => cases width
    | cons cell cells =>
      have width : cells.length = header.length := Nat.succ.inj width
      rw [List.zip_cons_cons, List.reverse_cons, Entries.find?_append]
      cases k with
      | zero =>
        obtain rfl : first = last := Option.some.inj hk
        have missed : Entries.find? (header.zip cells).reverse name = none := by
          refine Entries.find?_eq_none fun e he => ?_
          rw [← Bool.not_eq_true]
          exact List.any_eq_false.1 behind e.1 (List.of_mem_zip (List.mem_reverse.1 he)).1
        rw [missed, Option.none_or, Entries.find?_cons, if_pos hit]
        rfl
      | succ k =>
        rw [ih width behind hk]
        have inside : k < cells.length :=
          width ▸ Nat.lt_of_succ_lt_succ (List.getElem?_eq_some_iff.1 hk).1
        rw [List.getElem?_cons_succ, List.getElem?_eq_getElem inside, Option.some_or]

/-- **A row maps a name to the cell of the last column of that name.** -/
theorem find?_of_rowOfCells {header cells : List Value} {row : Entries} {name : Value} {k : Nat}
    (texts : ∀ name ∈ header, name.isText = true) (h : rowOfCells header (.list cells) = .ok row)
    (text : name.isText = true) (last : isLastColumn header name k = true) :
    row.find? name = cells[k]? := by
  have width := width_of_rowOfCells texts h
  rw [rowOfCells_list texts, if_pos width] at h
  obtain rfl := Except.ok.inj h
  rw [Entries.find?_ofList (isText_of_mem_zip texts) text, find?_reverse_zip width last]

/-! ### The table -/

section

variable {es statement : Entries} {others header : List Value} {cells : List (List Value)}

/-- A response of cells is read as the table of its rows under its header. -/
theorem ofResponse_eq_ok {t : Table}
    (result : es.get "result" = .list (.mapping statement :: others))
    (names : statement.get? "header" = some (.list header))
    (values : statement.get? "values" = some (.list (cells.map .list))) :
    ofResponse es = .ok t ↔ t.header = header ∧
      List.Forall₂ (fun cs row => rowOfCells header (.list cs) = .ok row) cells t.rows := by
  have read : ofResponse es =
      (Table.mk header <$> (cells.map Value.list).mapM (rowOfCells header)).mapError .shape := by
    simp only [ofResponse, result, ofStatement, names, values, Option.getD_some]
    rfl
  rw [read, mapError_eq_ok, map_eq_ok]
  constructor
  · rintro ⟨rows, hrows, rfl⟩
    exact ⟨rfl, List.forall₂_map_left_iff.1 (mapM_eq_ok.1 hrows)⟩
  · rintro ⟨rfl, hrows⟩
    exact ⟨t.rows, mapM_eq_ok.2 (List.forall₂_map_left_iff.2 hrows), rfl⟩

/-- A response is accepted exactly if every row is as wide as the header. -/
theorem exists_ofResponse_iff (result : es.get "result" = .list (.mapping statement :: others))
    (names : statement.get? "header" = some (.list header))
    (texts : ∀ name ∈ header, name.isText = true)
    (values : statement.get? "values" = some (.list (cells.map .list))) :
    (∃ t, ofResponse es = .ok t) ↔ ∀ cs ∈ cells, cs.length = header.length := by
  constructor
  · rintro ⟨t, ht⟩
    obtain ⟨-, rows⟩ := (ofResponse_eq_ok result names values).1 ht
    have wide := rows.imp fun cs row h => And.intro (width_of_rowOfCells texts h) h
    exact ((List.forall₂_and_left ..).1 wide).1
  · intro widths
    have accepted : ∀ cs ∈ cells, ∃ row, rowOfCells header (.list cs) = .ok row := fun cs hcs =>
      ⟨_, (rowOfCells_list texts).trans (if_pos (widths cs hcs))⟩
    obtain ⟨rows, hrows⟩ := exists_mapM accepted
    exact ⟨⟨header, rows⟩, (ofResponse_eq_ok result names values).2 ⟨rfl, mapM_eq_ok.1 hrows⟩⟩

/-- **Where every cell of a response goes.** A response is accepted exactly if every row has as many
cells as the header has names. Then there is one row for each list of cells, in their order, and it
maps every name to the cell of the last column of that name; so it maps the name of every column to
the cell of the column if no name is repeated. -/
theorem find?_of_response (result : es.get "result" = .list (.mapping statement :: others))
    (names : statement.get? "header" = some (.list header))
    (texts : ∀ name ∈ header, name.isText = true)
    (values : statement.get? "values" = some (.list (cells.map .list))) :
    ((∃ t, ofResponse es = .ok t) ↔ ∀ cs ∈ cells, cs.length = header.length) ∧
      ∀ t, ofResponse es = .ok t → t.header = header ∧ t.rows.length = cells.length ∧
        ∀ (i : Nat) (row : Entries) (cs : List Value), t.rows[i]? = some row → cells[i]? = some cs →
          (∀ name ∈ header, ∀ k, isLastColumn header name k = true → row.find? name = cs[k]?) ∧
          (header.Pairwise (fun a b => a.same b = false) →
            ∀ (j : Nat) (name : Value), header[j]? = some name → row.find? name = cs[j]?) := by
  refine ⟨exists_ofResponse_iff result names texts values, fun t ht => ?_⟩
  obtain ⟨same, rows⟩ := (ofResponse_eq_ok result names values).1 ht
  refine ⟨same, rows.length_eq.symm, fun i row cs hrow hcs => ?_⟩
  have read : rowOfCells header (.list cs) = .ok row := by
    obtain ⟨hi, rfl⟩ := List.getElem?_eq_some_iff.1 hrow
    obtain ⟨hi', rfl⟩ := List.getElem?_eq_some_iff.1 hcs
    exact rows.get hi' hi
  refine ⟨fun name hname k last => find?_of_rowOfCells texts read (texts name hname) last,
    fun distinct j name hj => ?_⟩
  have text := texts name (List.mem_of_getElem? hj)
  exact find?_of_rowOfCells texts read text (isLastColumn_of_pairwise text distinct hj)

end

/-- A response with one statement result of these names and cells. -/
def response (header : List Value) (cells : List (List Value)) : Entries :=
  [(.text "result", .list [.mapping [(.text "header", .list header),
    (.text "values", .list (cells.map .list))]])]

/-- The users of two rows. -/
def twoUsers : Entries :=
  response [.text "id", .text "email"] [[.int 1, .text "a@b.com"], [.int 2, .null]]

/-- The address of the first user is where it belongs. -/
theorem find?_of_twoUsers :
    (∀ name ∈ [Value.text "id", .text "email"], name.isText = true) ∧
      ∃ t, ofResponse twoUsers = .ok t ∧
        ∀ row ∈ t.rows[0]?, Entries.find? row (.text "email") = some (.text "a@b.com") := by
  have texts : ∀ name ∈ [Value.text "id", .text "email"], name.isText = true := by
    simp [Value.isText]
  have distinct : [Value.text "id", .text "email"].Pairwise fun a b => a.same b = false := by
    simp [Value.same, Value.text?]
  have result : twoUsers.get "result" = .list [.mapping [
      (.text "header", .list [.text "id", .text "email"]),
      (.text "values", .list ([[.int 1, .text "a@b.com"], [.int 2, .null]].map .list))]] := rfl
  obtain ⟨accepted, cells⟩ := find?_of_response result rfl texts rfl
  obtain ⟨t, ht⟩ := accepted.2 (by simp)
  obtain ⟨-, -, found⟩ := cells t ht
  exact ⟨texts, t, ht, fun row hrow => (found 0 row _ hrow rfl).2 distinct 1 _ rfl⟩

/-- Not every cell of an accepted response is where it belongs: of two columns of one name, the first
is lost. -/
theorem exists_cell_lost :
    ¬ ∀ (es statement : Entries) (others header : List Value) (cells : List (List Value)),
      es.get "result" = .list (.mapping statement :: others) →
      statement.get? "header" = some (.list header) →
      (∀ name ∈ header, name.isText = true) →
      statement.get? "values" = some (.list (cells.map .list)) →
      ∀ t, ofResponse es = .ok t → t.rows.length = cells.length ∧
        ∀ (i : Nat) (row : Entries) (cs : List Value), t.rows[i]? = some row → cells[i]? = some cs →
          ∀ (j : Nat) (name : Value), header[j]? = some name → row.find? name = cs[j]? := by
  intro h
  obtain ⟨-, cell⟩ := h (response [.text "id", .text "id"] [[.int 1, .int 2]]) _ _ _ _ rfl rfl
    (by simp [Value.isText]) rfl ⟨[.text "id", .text "id"], [[(.text "id", .int 2)]]⟩ rfl
  cases cell 0 _ _ rfl rfl 0 _ rfl

end Table
end EntityQuery
