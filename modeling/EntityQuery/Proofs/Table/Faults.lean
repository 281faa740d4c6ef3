import EntityQuery.Proofs.Outcome
import EntityQuery.Table

/-!
# What can be wrong with a response

A response is a payload that nobody has looked at, so each step of reading it as a table can meet a
value that it cannot use. Whatever the step is and whatever the value, the fault is one of a value or of
the kind of a value: what should be iterated and cannot be is of the wrong kind, as is a key that cannot
be one; a row of the wrong width is a wrong value, as is an element that is no pair. No other kind of
error comes out of a response (`Table.kind_of_ofResponse`).
-/

namespace EntityQuery

open Outcome

/-- Whether a fault is one of a value or of the kind of a value. -/
def ShapeFault.IsOfPart (fault : ShapeFault) : Prop := fault.kind = .value ∨ fault.kind = .type

variable {fault : ShapeFault}

/-- What cannot be iterated is of the wrong kind. -/
theorem Value.kind_of_iterate {v : Value} (h : v.iterate = .error fault) : fault.kind = .type := by
  unfold iterate at h
  split at h
  · cases h
  · obtain rfl := Except.error.inj h
    rfl

namespace Table

/-! ### One row -/

/-- Entries are refused for a key of a kind that cannot be one, and for nothing else. -/
theorem kind_of_insertAll {m : Entries} {es : List (Value × Value)}
    (h : insertAll m es = .error fault) : fault.kind = .type := by
  induction es generalizing m with
  | nil => cases h
  | cons e es ih =>
    rw [insertAll] at h
    split at h
    · exact ih h
    · obtain rfl := Except.error.inj h
      rfl

/-- A row of cells is at fault in its part. -/
theorem isOfPart_of_rowOfCells {header : List Value} {v : Value}
    (h : rowOfCells header v = .error fault) : fault.IsOfPart := by
  unfold rowOfCells at h
  split at h
  · obtain rfl := Except.error.inj h
    exact .inr rfl
  · split at h
    · exact .inr (kind_of_insertAll h)
    · obtain rfl := Except.error.inj h
      exact .inl rfl

/-- So is an entry of a row. -/
theorem isOfPart_of_entryOfElement {position : Nat} {v : Value}
    (h : entryOfElement position v = .error fault) : fault.IsOfPart := by
  unfold entryOfElement at h
  split at h
  · obtain rfl := Except.error.inj h
    exact .inr rfl
  · cases h
  · obtain rfl := Except.error.inj h
    exact .inl rfl

/-- So are the entries of a row. -/
theorem isOfPart_of_insertElements {m : Entries} {position : Nat} {vs : List Value}
    (h : insertElements m position vs = .error fault) : fault.IsOfPart := by
  induction vs generalizing m position with
  | nil => cases h
  | cons v vs ih =>
    rw [insertElements] at h
    split at h
    · next refused =>
      obtain rfl := Except.error.inj h
      exact isOfPart_of_entryOfElement refused
    · split at h
      · exact ih h
      · obtain rfl := Except.error.inj h
        exact .inr rfl

/-- So is a row that names its cells. -/
theorem isOfPart_of_rowOfNamed {v : Value} (h : rowOfNamed v = .error fault) : fault.IsOfPart := by
  unfold rowOfNamed at h
  split at h
  · cases h
  · obtain h | ⟨vs, -, h⟩ := bind_eq_error.1 h
    · exact .inr (Value.kind_of_iterate h)
    · exact isOfPart_of_insertElements h

/-! ### All rows -/

/-- The names of rows are refused for a row that cannot be iterated. -/
theorem kind_of_headerOfRows {header rows : List Value}
    (h : headerOfRows header rows = .error fault) : fault.kind = .type := by
  induction rows generalizing header with
  | nil => cases h
  | cons row rows ih =>
    rw [headerOfRows] at h
    split at h
    · exact ih h
    · next refused =>
      obtain rfl := Except.error.inj h
      exact Value.kind_of_iterate refused

/-- Rows that are made one by one are refused as one of them is. -/
theorem isOfPart_of_mapM {f : Value → Except ShapeFault Entries} {header vs : List Value}
    (hf : ∀ v, f v = .error fault → fault.IsOfPart)
    (h : Table.mk header <$> vs.mapM f = .error fault) : fault.IsOfPart := by
  obtain ⟨_, v, _, -, -, refused⟩ := mapM_eq_error.1 (map_eq_error.1 h)
  exact hf v refused

/-- So are rows that name their cells. -/
theorem isOfPart_of_ofRows {rows : List Value} (h : ofRows rows = .error fault) :
    fault.IsOfPart := by
  unfold ofRows at h
  split at h
  · next refused =>
    obtain rfl := Except.error.inj h
    exact .inr (kind_of_headerOfRows refused)
  · exact isOfPart_of_mapM (fun _ => isOfPart_of_rowOfNamed) h

/-- So is a statement with its cells. -/
theorem isOfPart_of_ofStatement {es : Entries} (h : ofStatement es = .error fault) :
    fault.IsOfPart := by
  unfold ofStatement at h
  split at h
  · cases h
  · obtain h | ⟨header, -, h⟩ := bind_eq_error.1 h
    · exact .inr (Value.kind_of_iterate h)
    · obtain h | ⟨rows, -, h⟩ := bind_eq_error.1 h
      · exact .inr (Value.kind_of_iterate h)
      · exact isOfPart_of_mapM (fun _ => isOfPart_of_rowOfCells) h

/-- **A response is refused for a value or for the kind of a value,** whatever it is. -/
theorem kind_of_ofResponse {es : Entries} {e : Error} (h : ofResponse es = .error e) :
    e.kind = .value ∨ e.kind = .type := by
  unfold ofResponse at h
  split at h
  · obtain rfl := Except.error.inj h
    exact .inl rfl
  · cases h
  · obtain ⟨fault, refused, rfl⟩ := mapError_eq_error.1 h
    exact isOfPart_of_ofRows refused
  · obtain ⟨fault, refused, rfl⟩ := mapError_eq_error.1 h
    exact isOfPart_of_ofStatement refused
  · next first _ _ _ _ =>
    -- a value that cannot be shown is a wrong value too
    obtain rfl := Except.error.inj h
    cases first.inspect? with
    | some shown => exact .inl rfl
    | none => exact .inl rfl
  · obtain rfl := Except.error.inj h
    exact .inl rfl

end Table
end EntityQuery
