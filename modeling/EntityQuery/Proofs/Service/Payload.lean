import EntityQuery.Proofs.Number.DecimalText
import EntityQuery.Proofs.Outcome
import EntityQuery.Proofs.Value.Writable
import EntityQuery.Service.Payload

/-!
# What a payload holds

A whole number of a payload has at most as many digits as may be written, since more stop the reader.
So every value that a payload is can be written (`isWritable_of_ofBytes`), and whatever a message
shows of a payload has a text.
-/

namespace EntityQuery

namespace Value

/-- An entry that is set in a mapping that can be written can be written. -/
theorem entriesWritable_insert {es : Entries} {key v : Value} (h : entriesWritable es = true)
    (hk : key.isWritable = true) (hv : v.isWritable = true) :
    entriesWritable (es.insert key v) = true := by
  induction es with
  | nil => simp [Entries.insert, entriesWritable, hk, hv]
  | cons e es ih =>
    rw [entriesWritable_iff, List.forall_mem_cons, ← entriesWritable_iff] at h
    rw [Entries.insert]
    split
    · rw [entriesWritable_iff, List.forall_mem_cons, ← entriesWritable_iff]
      exact ⟨⟨h.1.1, hv⟩, h.2⟩
    · rw [entriesWritable_iff, List.forall_mem_cons, ← entriesWritable_iff]
      exact ⟨h.1, ih h.2⟩

/-- What is found in a mapping that can be written can be written. -/
theorem isWritable_of_find? {es : Entries} {key v : Value} (h : entriesWritable es = true)
    (hv : Entries.find? es key = some v) : v.isWritable = true := by
  obtain ⟨e, he, rfl⟩ := Option.map_eq_some_iff.1 hv
  exact (entriesWritable_iff.1 h e (List.mem_of_find?_eq_some he)).2

/-- What stands under a key of a mapping that can be written can be written. -/
theorem isWritable_get {es : Entries} (h : entriesWritable es = true) (key : String) :
    (Entries.get es key).isWritable = true := by
  unfold Entries.get
  cases hv : Entries.get? es key with
  | none => rfl
  | some v => exact isWritable_of_find? h hv

end Value

namespace Payload

open Value Outcome

/-! ### Texts and numbers -/

/-- A text of any code points can be written. -/
theorem isWritable_ofPoints (points : List Nat) : (ofPoints points).isWritable = true := by
  unfold ofPoints
  split <;> rfl

/-- A text that is read can be written. -/
theorem isWritable_of_readText {cs r : List Char} {v : Value} (h : readText cs = .ok (v, r)) :
    v.isWritable = true := by
  obtain ⟨⟨points, rest⟩, -, hp⟩ := map_eq_ok.1 h
  obtain ⟨rfl, rfl⟩ := Prod.mk.inj hp
  exact isWritable_ofPoints points

/-- The part of a number before its point consists of digits. -/
theorem isDigit_of_wholePart? {cs ds r : List Char} (h : wholePart? cs = some (ds, r)) :
    ∀ c ∈ ds, c.isDigit = true := by
  unfold wholePart? at h
  split at h
  · obtain ⟨rfl, rfl⟩ := Prod.mk.inj (Option.some.inj h)
    intro c hc
    rw [List.mem_singleton.1 hc]
    rfl
  · simp only at h
    split at h
    · cases h
    · obtain ⟨rfl, rfl⟩ := Prod.mk.inj (Option.some.inj h)
      exact fun c hc => List.all_eq_true.1 (List.all_takeWhile) c hc

/-- A number that is read can be written: a whole one has few enough digits. -/
theorem isWritable_of_readNumber {negative : Bool} {cs r : List Char} {v : Value}
    (h : readNumber negative cs = .ok (v, r)) : v.isWritable = true := by
  unfold readNumber at h
  split at h
  · cases h
  · next ds rest hw =>
    simp only at h
    split at h
    · split at h
      · cases h
      · next hlimit =>
        obtain ⟨rfl, rfl⟩ := Prod.mk.inj (Except.ok.inj h)
        have bound : Nat.ofDigitChars 10 ds 0 < tenTo Reading.digitLimit :=
          Decimal.ofDigitChars_lt_tenTo (isDigit_of_wholePart? hw) (Nat.le_of_not_lt hlimit)
        rw [isWritable_int, decide_eq_true_iff]
        cases negative <;> simpa using bound
    · obtain ⟨rfl, rfl⟩ := Prod.mk.inj (Except.ok.inj h)
      rfl

/-- So can any value that holds no others. -/
theorem isWritable_of_readScalar {cs r : List Char} {v : Value}
    (h : readScalar cs = .ok (v, r)) : v.isWritable = true := by
  unfold readScalar at h
  split at h
  · next w v' hw =>
    obtain ⟨rfl, rfl⟩ := Prod.mk.inj (Except.ok.inj h)
    have word : ∀ w ∈ words, w.2.isWritable = true := by simp [words, isWritable]
    exact word _ (List.mem_of_find?_eq_some hw)
  · split at h
    · exact isWritable_of_readNumber h
    · exact isWritable_of_readNumber h

/-! ### Arrays and objects -/

/-- What the readers give can be written, if what they are given can. -/
theorem isWritable_read (fuel : Nat) :
    (∀ {levels cs v r}, readValue fuel levels cs = .ok (v, r) → v.isWritable = true) ∧
    (∀ {levels before cs vs r}, itemsWritable before = true →
      readItems fuel levels before cs = .ok (vs, r) → itemsWritable vs = true) ∧
    (∀ {levels before cs es r}, entriesWritable before = true →
      readEntries fuel levels before cs = .ok (es, r) → entriesWritable es = true) := by
  induction fuel with
  | zero =>
    refine ⟨fun h => ?_, fun _ h => ?_, fun _ h => ?_⟩
    · cases h
    · cases h
    · cases h
  | succ fuel ih =>
    obtain ⟨value, items, entries⟩ := ih
    refine ⟨fun {levels cs v r} h => ?_, fun {levels before cs vs r} hb h => ?_,
      fun {levels before cs es r} hb h => ?_⟩
    · rw [readValue.eq_def] at h
      simp only at h
      split at h
      · exact isWritable_of_readText h
      · split at h
        · cases h
        · split at h
          · obtain ⟨rfl, rfl⟩ := Prod.mk.inj (Except.ok.inj h)
            rfl
          · obtain ⟨⟨vs, rest⟩, hvs, hp⟩ := map_eq_ok.1 h
            obtain ⟨rfl, rfl⟩ := Prod.mk.inj hp
            rw [isWritable]
            exact items rfl hvs
      · split at h
        · cases h
        · split at h
          · obtain ⟨rfl, rfl⟩ := Prod.mk.inj (Except.ok.inj h)
            rfl
          · obtain ⟨⟨es, rest⟩, hes, hp⟩ := map_eq_ok.1 h
            obtain ⟨rfl, rfl⟩ := Prod.mk.inj hp
            rw [isWritable]
            exact entries rfl hes
      · exact isWritable_of_readScalar h
    · rw [readItems] at h
      split at h
      · cases h
      · next v rest hv =>
        have grown : itemsWritable (v :: before) = true := by
          rw [itemsWritable, value hv, hb]
          rfl
        split at h
        · exact items grown h
        · obtain ⟨rfl, rfl⟩ := Prod.mk.inj (Except.ok.inj h)
          rw [itemsWritable_iff] at grown ⊢
          exact fun x hx => grown x (List.mem_reverse.1 hx)
        · cases h
    · rw [readEntries.eq_def] at h
      simp only at h
      split at h
      · split at h
        · cases h
        · next key rest hkey =>
          split at h
          · split at h
            · cases h
            · next v rest hv =>
              have grown := entriesWritable_insert hb (isWritable_of_readText hkey) (value hv)
              split at h
              · exact entries grown h
              · obtain ⟨rfl, rfl⟩ := Prod.mk.inj (Except.ok.inj h)
                exact grown
              · cases h
          · cases h
      · cases h

/-- The value of bytes is that of their text. -/
theorem ofBytes_eq_some_iff {bs : List UInt8} {levels : Nat} {v : Value} :
    ofBytes bs levels = .ok (some v) ↔
      ∃ s, Text.decode? bs = some s ∧ ofChars s.toList levels = .ok v := by
  unfold ofBytes
  cases Text.decode? bs with
  | none => simp
  | some s =>
    simp only [Option.some.injEq, exists_eq_left']
    cases ofChars s.toList levels with
    | ok => simp
    | error fault => cases fault <;> simp

/-- **Every value that bytes are can be written.** -/
theorem isWritable_of_ofBytes {bs : List UInt8} {levels : Nat} {v : Value}
    (h : ofBytes bs levels = .ok (some v)) : v.isWritable = true := by
  unfold ofBytes at h
  split at h
  · cases h
  · split at h
    · next v' hv =>
      obtain rfl := Option.some.inj (Except.ok.inj h)
      unfold ofChars at hv
      split at hv
      · cases hv
      · next hr =>
        split at hv
        · obtain rfl := Except.ok.inj hv
          exact (isWritable_read _).1 hr
        · cases hv
    · cases h
    · cases h

end Payload
end EntityQuery
