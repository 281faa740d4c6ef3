import EntityQuery.Proofs.Service.Payload
import EntityQuery.Table

/-!
# Which cells can be shown

Every reader of tables takes its cells from the value that it reads, or makes them of the characters
of a text and the numbers of bytes. So the rows of a table can be written if the response can
(`Table.entriesWritable_of_ofResponse`), and whatever a table is printed with has a text.
-/

namespace EntityQuery

open Outcome
open Value (entriesWritable entriesWritable_iff entriesWritable_insert itemsWritable
  itemsWritable_iff)

namespace Value

/-- A byte is a number of few digits. -/
theorem isWritable_byte (b : UInt8) : (int b.toNat).isWritable = true := by
  rw [isWritable_int, decide_eq_true_iff, Int.natAbs_natCast]
  calc b.toNat
      < 256 := b.toNat_lt
    _ ≤ tenTo 3 := by decide
    _ ≤ tenTo Reading.digitLimit := Decimal.tenTo_mono (by decide)

/-- What a value iterates over can be written if the value can. -/
theorem isWritable_of_items? {v : Value} {xs : List Value} (hv : v.isWritable = true)
    (h : v.items? = some xs) : ∀ x ∈ xs, x.isWritable = true := by
  cases v with
  | text | fieldType =>
    obtain rfl := Option.some.inj h
    exact List.forall_mem_map.2 fun _ _ => rfl
  | ragged =>
    obtain rfl := Option.some.inj h
    exact List.forall_mem_map.2 fun n _ => Payload.isWritable_ofPoints [n]
  | bytes =>
    obtain rfl := Option.some.inj h
    exact List.forall_mem_map.2 fun b _ => isWritable_byte b
  | list =>
    obtain rfl := Option.some.inj h
    rwa [isWritable, itemsWritable_iff] at hv
  | mapping =>
    obtain rfl := Option.some.inj h
    rw [isWritable, entriesWritable_iff] at hv
    exact List.forall_mem_map.2 fun e he => (hv e he).1
  | _ => cases h

/-- What can be written is gone through item by item, each of which can be. -/
theorem isWritable_of_iterate {v : Value} {xs : List Value} (hv : v.isWritable = true)
    (h : v.iterate = .ok xs) : ∀ x ∈ xs, x.isWritable = true := by
  unfold iterate at h
  split at h
  · next items => exact Except.ok.inj h ▸ isWritable_of_items? hv items
  · cases h

end Value

namespace Table

/-! ### One row -/

/-- Entries that can be written are set in a row that can be. -/
theorem entriesWritable_of_insertAll {m row : Entries} {es : List (Value × Value)}
    (hm : entriesWritable m = true) (hes : ∀ e ∈ es, e.1.isWritable = true ∧ e.2.isWritable = true)
    (h : insertAll m es = .ok row) : entriesWritable row = true := by
  induction es generalizing m with
  | nil => exact Except.ok.inj h ▸ hm
  | cons e es ih =>
    obtain ⟨⟨key, value⟩, rest⟩ := List.forall_mem_cons.1 hes
    rw [insertAll] at h
    split at h
    · exact ih (entriesWritable_insert hm key value) rest h
    · cases h

/-- A row of cells can be written. -/
theorem entriesWritable_of_rowOfCells {header : List Value} {v : Value} {row : Entries}
    (hheader : ∀ name ∈ header, name.isWritable = true) (hv : v.isWritable = true)
    (h : rowOfCells header v = .ok row) : entriesWritable row = true := by
  unfold rowOfCells at h
  split at h
  · cases h
  · next cells items =>
    split at h
    · refine entriesWritable_of_insertAll rfl (fun e he => ?_) h
      obtain ⟨name, cell⟩ := List.of_mem_zip he
      exact ⟨hheader _ name, Value.isWritable_of_items? hv items _ cell⟩
    · cases h

/-- The name and the cell of an element can be written if the element can. -/
theorem isWritable_of_entryOfElement {position : Nat} {v : Value} {e : Value × Value}
    (hv : v.isWritable = true) (h : entryOfElement position v = .ok e) :
    e.1.isWritable = true ∧ e.2.isWritable = true := by
  unfold entryOfElement at h
  split at h
  · cases h
  · next items =>
    have writable := Value.isWritable_of_items? hv items
    obtain rfl := Except.ok.inj h
    simpa using writable
  · cases h

/-- So can the entries of a row. -/
theorem entriesWritable_of_insertElements {m row : Entries} {position : Nat} {vs : List Value}
    (hm : entriesWritable m = true) (hvs : ∀ v ∈ vs, v.isWritable = true)
    (h : insertElements m position vs = .ok row) : entriesWritable row = true := by
  induction vs generalizing m position with
  | nil => exact Except.ok.inj h ▸ hm
  | cons v vs ih =>
    obtain ⟨hv, rest⟩ := List.forall_mem_cons.1 hvs
    rw [insertElements] at h
    split at h
    · cases h
    · next e he =>
      obtain ⟨key, value⟩ := isWritable_of_entryOfElement hv he
      split at h
      · exact ih (entriesWritable_insert hm key value) rest h
      · cases h

/-- So can a row that names its cells. -/
theorem entriesWritable_of_rowOfNamed {v : Value} {row : Entries} (hv : v.isWritable = true)
    (h : rowOfNamed v = .ok row) : entriesWritable row = true := by
  unfold rowOfNamed at h
  split at h
  · rw [Value.isWritable] at hv
    exact Except.ok.inj h ▸ hv
  · obtain ⟨vs, items, h⟩ := bind_eq_ok.1 h
    exact entriesWritable_of_insertElements rfl (Value.isWritable_of_iterate hv items) h

/-! ### All rows -/

/-- Rows that are made one by one can be written if each can. -/
theorem entriesWritable_of_mapM {f : Value → Except ShapeFault Entries} {header vs : List Value}
    {t : Table} (hf : ∀ v ∈ vs, ∀ row, f v = .ok row → entriesWritable row = true)
    (h : Table.mk header <$> vs.mapM f = .ok t) : ∀ row ∈ t.rows, entriesWritable row = true := by
  obtain ⟨rows, made, rfl⟩ := map_eq_ok.1 h
  intro row hrow
  obtain ⟨v, hv, hf'⟩ := exists_of_mem_mapM made hrow
  exact hf v hv row hf'

/-- So can rows that name their cells. -/
theorem entriesWritable_of_ofRows {vs : List Value} {t : Table}
    (hvs : ∀ v ∈ vs, v.isWritable = true) (h : ofRows vs = .ok t) :
    ∀ row ∈ t.rows, entriesWritable row = true := by
  unfold ofRows at h
  split at h
  · cases h
  · exact entriesWritable_of_mapM (fun v hv _ => entriesWritable_of_rowOfNamed (hvs v hv)) h

/-- So can those of a statement. -/
theorem entriesWritable_of_ofStatement {es : Entries} {t : Table}
    (hes : entriesWritable es = true) (h : ofStatement es = .ok t) :
    ∀ row ∈ t.rows, entriesWritable row = true := by
  unfold ofStatement at h
  split at h
  · obtain rfl := Except.ok.inj h
    exact fun _ hrow => absurd hrow List.not_mem_nil
  · next header found =>
    obtain ⟨names, hnames, h⟩ := bind_eq_ok.1 h
    obtain ⟨vs, hvs, h⟩ := bind_eq_ok.1 h
    have values : ((es.get? "values").getD (.list [])).isWritable = true := by
      cases hv : es.get? "values" with
      | none => rfl
      | some v => exact Value.isWritable_of_find? hes hv
    have writable := Value.isWritable_of_iterate (Value.isWritable_of_find? hes found) hnames
    exact entriesWritable_of_mapM (fun v hv _ => entriesWritable_of_rowOfCells writable
      (Value.isWritable_of_iterate values hvs v hv)) h

/-- **The rows of a table can be written if the response can.** -/
theorem entriesWritable_of_ofResponse {es : Entries} {t : Table} (hes : entriesWritable es = true)
    (h : ofResponse es = .ok t) : ∀ row ∈ t.rows, entriesWritable row = true := by
  have result := Value.isWritable_get hes "result"
  unfold ofResponse at h
  split at h
  · cases h
  · obtain rfl := Except.ok.inj h
    exact fun _ hrow => absurd hrow List.not_mem_nil
  · next rows others hv =>
    rw [hv, Value.isWritable, itemsWritable_iff, List.forall_mem_cons, Value.isWritable,
      itemsWritable_iff] at result
    exact entriesWritable_of_ofRows result.1 (mapError_eq_ok.1 h)
  · next statement others hv =>
    rw [hv, Value.isWritable, itemsWritable_iff, List.forall_mem_cons, Value.isWritable] at result
    exact entriesWritable_of_ofStatement result.1 (mapError_eq_ok.1 h)
  · cases h
  · cases h

end Table
end EntityQuery
