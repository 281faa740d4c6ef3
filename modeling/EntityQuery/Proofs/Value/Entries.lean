import EntityQuery.Value.Basic
import Mathlib.Data.List.Induction

/-!
# Looking up in a mapping

Two texts are the same key exactly if they are spelled the same (`Value.same_iff`), so texts as keys
behave as they should: what has been set under a name is found under it, and every other name finds
what it found before (`find?_insert`). In a mapping made of a list of entries, no key comes twice
(`distinct_ofList`), and a name finds the last of its entries (`find?_ofList`).
-/

namespace EntityQuery

namespace Value

/-- A text can be a key. -/
theorem canBeKey_of_isText {v : Value} (h : v.isText = true) : v.canBeKey = true := by
  cases v <;> first | rfl | cases h

/-- How a text is spelled: its characters, or its code points if they are no characters. -/
def spelling? : Value → Option (String ⊕ List Nat)
  | text s => some (.inl s)
  | fieldType t => some (.inl t.name)
  | ragged points => some (.inr points)
  | _ => none

/-- A value is spelled with characters exactly if it has that text. -/
theorem spelling?_eq_inl {v : Value} {s : String} :
    v.spelling? = some (.inl s) ↔ v.text? = some s := by
  cases v <;> simp [spelling?, text?]

/-- **Two texts are the same key exactly if they are spelled the same.** -/
theorem same_iff {name v : Value} (h : name.isText = true) :
    name.same v = true ↔ name.spelling? = v.spelling? := by
  cases name with
  | text s | fieldType t =>
    rw [same, beq_iff_eq, ← spelling?_eq_inl]
    exact eq_comm
  | ragged points => cases v <;> simp [same, spelling?]
  | _ => cases h

/-- A text is the same key as itself. -/
theorem same_self {name : Value} (h : name.isText = true) : name.same name = true :=
  (same_iff h).2 rfl

/-- Which of two texts comes first does not matter. -/
theorem same_comm {v w : Value} (hv : v.isText = true) (hw : w.isText = true) :
    v.same w = w.same v :=
  Bool.eq_iff_iff.2 (by rw [same_iff hv, same_iff hw, eq_comm])

mutual

/-- **Every value is the same as itself.** -/
theorem same_refl : ∀ v : Value, v.same v = true
  | null => rfl
  | bool b => by simp [same, isWhole, int?]
  | int n => by simp [same, isWhole, int?]
  | float x => by simp [same, Binary64.same]
  | text s => same_self rfl
  | ragged points => same_self rfl
  | bytes bs => by simp [same]
  | date d => by simp [same]
  | timestamp t => by
    rw [same, Calendar.Timestamp.same]
    cases t.offset <;> simp
  | fieldType t => same_self rfl
  | list xs => by
    rw [same]
    exact sameItems_refl xs
  | mapping es => by
    rw [same, beq_self_eq_true, Bool.true_and]
    exact sameEntries_of_subset es es fun _ he => he

/-- A list has the same items as itself. -/
theorem sameItems_refl : ∀ xs : List Value, sameItems xs xs = true
  | [] => rfl
  | x :: xs => by
    rw [sameItems, same_refl x, sameItems_refl xs]
    rfl

/-- Entries that are all found in a mapping are the same as those in it. -/
theorem sameEntries_of_subset : ∀ es fs : List (Value × Value), (∀ e ∈ es, e ∈ fs) →
    sameEntries es fs = true
  | [], _, _ => rfl
  | (k, v) :: es, fs, h => by
    rw [List.forall_mem_cons] at h
    rw [sameEntries, Bool.and_eq_true, List.any_eq_true]
    refine ⟨⟨(k, v), h.1, ?_⟩, sameEntries_of_subset es fs h.2⟩
    rw [same_refl k, same_refl v]
    rfl

end

/-- Values of one text are the same key. -/
theorem same_of_text? {v w : Value} {s : String} (hv : v.text? = some s) (hw : w.text? = some s) :
    v.same w = true := by
  have text : v.isText = true := by
    cases v with
    | text | fieldType => rfl
    | _ => cases hv
  rw [same_iff text, spelling?_eq_inl.2 hv, spelling?_eq_inl.2 hw]

end Value

namespace Entries

variable {name : Value}

/-- A key is found in the first entry, or behind it. -/
theorem find?_cons (e : Value × Value) (es : Entries) (name : Value) :
    find? (e :: es) name = if name.same e.1 then some e.2 else find? es name := by
  unfold find?
  rw [List.find?_cons]
  cases name.same e.1 <;> rfl

/-- A key is found in the first of two mappings, or else in the second. -/
theorem find?_append (es fs : Entries) (name : Value) :
    find? (es ++ fs) name = (find? es name).or (find? fs name) := by
  unfold find?
  rw [List.find?_append, Option.map_or]

/-- **Setting changes what is found under one name.** -/
theorem find?_insert {key : Value} (es : Entries) (v : Value) (hk : key.isText = true)
    (hn : name.isText = true) :
    find? (es.insert key v) name = if name.same key then some v else find? es name := by
  induction es with
  | nil => rw [insert, find?_cons]
  | cons e es ih =>
    rw [insert]
    split
    · next hit =>
      -- the entry that is replaced has a key of the same spelling
      have spelled := (Value.same_iff hk).1 hit
      have agree : name.same e.1 = name.same key :=
        Bool.eq_iff_iff.2 (by rw [Value.same_iff hn, Value.same_iff hn, spelled])
      rw [find?_cons, find?_cons, agree]
      split <;> rfl
    · next miss =>
      rw [find?_cons, find?_cons, ih]
      split
      · next found =>
        have other : ¬ name.same key = true := by
          rw [Value.same_iff hk] at miss
          rw [Value.same_iff hn] at found ⊢
          exact fun h => miss (h.symm.trans found)
        rw [if_neg other]
      · rfl

/-- **A name finds the last of its entries.** -/
theorem find?_ofList {es : List (Value × Value)} (hes : ∀ e ∈ es, e.1.isText = true)
    (hn : name.isText = true) : find? (ofList es) name = find? es.reverse name := by
  induction es using List.reverseRecOn with
  | nil => rfl
  | append_singleton es e ih =>
    rw [List.forall_mem_append, List.forall_mem_singleton] at hes
    rw [List.reverse_concat, find?_cons, ← ih hes.1, ofList, List.foldl_append]
    exact find?_insert _ _ hes.2 hn

/-- Whether no key of a mapping is the same as one before it. -/
def Distinct (es : Entries) : Prop := es.Pairwise fun e f => f.1.same e.1 = false

/-- A key is added at the end unless it is there. -/
theorem map_fst_insert (es : Entries) (key v : Value) : (es.insert key v).map (·.1) =
    if es.any (fun e => key.same e.1) then es.map (·.1) else es.map (·.1) ++ [key] := by
  induction es with
  | nil => rfl
  | cons e es ih =>
    rw [insert, List.any_cons]
    cases hit : key.same e.1 with
    | true => rfl
    | false =>
      rw [if_neg Bool.false_ne_true, List.map_cons, ih, Bool.false_or]
      split <;> rfl

/-- The keys of a mapping are distinct exactly if no two of them are the same. -/
theorem distinct_iff {es : Entries} :
    es.Distinct ↔ (es.map (·.1)).Pairwise fun k l => l.same k = false := by
  rw [Distinct, List.pairwise_map]

/-- Distinct keys stay distinct when an entry is set. -/
theorem Distinct.insert {es : Entries} (h : es.Distinct) (key v : Value) :
    (es.insert key v).Distinct := by
  rw [distinct_iff] at h ⊢
  rw [map_fst_insert]
  split
  · exact h
  · next absent =>
    rw [List.pairwise_append]
    refine ⟨h, List.pairwise_singleton .., fun k hk l hl => ?_⟩
    obtain rfl := List.mem_singleton.1 hl
    obtain ⟨e, he, rfl⟩ := List.mem_map.1 hk
    rw [List.any_eq_true] at absent
    exact Bool.eq_false_iff.2 fun hit => absent ⟨e, he, hit⟩

/-- **No key of a mapping made of a list of entries comes twice.** -/
theorem distinct_ofList (es : List (Value × Value)) : (ofList es).Distinct := by
  induction es using List.reverseRecOn with
  | nil => exact List.Pairwise.nil
  | append_singleton es e ih =>
    rw [ofList, List.foldl_append]
    exact ih.insert e.1 e.2

/-- What is set under a new key stands at the end. -/
theorem insert_of_absent {es : Entries} {key : Value} (h : ∀ e ∈ es, key.same e.1 = false)
    (v : Value) : es.insert key v = es ++ [(key, v)] := by
  induction es with
  | nil => rfl
  | cons e es ih =>
    rw [List.forall_mem_cons] at h
    rw [insert, h.1, if_neg Bool.false_ne_true, ih h.2]
    rfl

/-- **Entries of which no key comes twice are the mapping that is made of them.** -/
theorem ofList_of_distinct {es : Entries} (h : es.Distinct) : ofList es = es := by
  induction es using List.reverseRecOn with
  | nil => rfl
  | append_singleton es e ih =>
    rw [Distinct, List.pairwise_append] at h
    obtain ⟨before, -, absent⟩ := h
    rw [ofList, List.foldl_append]
    show (ofList es).insert e.1 e.2 = es ++ [e]
    rw [ih before]
    -- the key of the last entry is none of the keys before it
    exact insert_of_absent (fun f hf => absent f hf e (List.mem_singleton.2 rfl)) e.2

/-- The keys of a mapping that is made of entries are keys of these. -/
theorem mem_map_fst_ofList {es : List (Value × Value)} {key : Value}
    (h : key ∈ (ofList es).map (·.1)) : key ∈ es.map (·.1) := by
  induction es using List.reverseRecOn with
  | nil => cases h
  | append_singleton es e ih =>
    rw [ofList, List.foldl_append] at h
    rw [List.map_append, List.mem_append]
    change key ∈ ((ofList es).insert e.1 e.2).map (·.1) at h
    rw [map_fst_insert] at h
    split at h
    · exact .inl (ih h)
    · obtain h | h := List.mem_append.1 h
      · exact .inl (ih h)
      · exact .inr h

/-- A name that no entry has is not found. -/
theorem find?_eq_none {es : Entries} (h : ∀ e ∈ es, name.same e.1 = false) :
    find? es name = none := by
  rw [find?, Option.map_eq_none_iff, List.find?_eq_none]
  simpa using h

end Entries
end EntityQuery
