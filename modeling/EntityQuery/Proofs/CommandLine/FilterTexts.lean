import EntityQuery.Proofs.CommandLine.Arguments
import EntityQuery.Proofs.Literal.Input
import Mathlib.Data.List.TakeWhile

/-!
# The filters of a command line

A filter argument is accepted exactly if it has an equals sign and something before the first one that
is not blank; it is split there (`filterOf_eq_ok_iff`). Taking arguments adds the filters that they give
in their order (`filters_take`), so the filters of a command line that is read are those of its
arguments, each split (`Arguments.filters_of_ofList`). Only the text `--` in the same argument as the
option is not split: it is taken for an empty list.
-/

namespace EntityQuery
namespace CommandLine

/-! ### One filter -/

/-- Whether a text is split into a name, which is not blank, and what follows the first equals sign. -/
def Splits (s name text : String) : Prop :=
  ∃ front, s = front ++ "=" ++ text ∧ '=' ∉ front.toList ∧
    (∃ c ∈ front.toList, Text.isBlank c = false) ∧ name = Text.strip front

/-- **A text is split at its first equals sign.** -/
theorem splitEquals_eq_some_iff {s front text : String} :
    splitEquals s = some (front, text) ↔ s = front ++ "=" ++ text ∧ '=' ∉ front.toList := by
  constructor
  · intro h
    unfold splitEquals at h
    split at h
    · cases h
    · next c value dropped =>
      obtain ⟨rfl, rfl⟩ := Prod.mk.inj (Option.some.inj h)
      have sign : c = '=' := by
        have stops := Text.head?_dropWhile_false (show (s.toList.dropWhile _).head? = some c by
          rw [dropped]; rfl)
        simpa using stops
      have whole := List.takeWhile_append_dropWhile (p := (· != '=')) (l := s.toList)
      rw [dropped, sign] at whole
      refine ⟨String.toList_injective ?_, fun inside => ?_⟩
      · simpa using whole.symm
      · rw [String.toList_ofList] at inside
        simpa using List.mem_takeWhile_imp inside
  · rintro ⟨rfl, outside⟩
    have other : ∀ c ∈ front.toList, (c != '=') = true := by
      intro c hc
      rw [bne_iff_ne]
      rintro rfl
      exact outside hc
    have chars : (front ++ "=" ++ text).toList = front.toList ++ '=' :: text.toList := by simp
    rw [splitEquals, chars, List.takeWhile_append_of_pos other, List.dropWhile_append_of_pos other]
    simp

/-- **A filter argument is accepted** exactly if it has an equals sign with something before the first
one that is not blank, and it is split there. -/
theorem filterOf_eq_ok_iff {s name text : String} :
    filterOf s = .ok (name, text) ↔ Splits s name text := by
  unfold filterOf Splits
  cases found : splitEquals s with
  | none =>
    refine ⟨nofun, ?_⟩
    rintro ⟨front, split, outside, -⟩
    cases found.symm.trans (splitEquals_eq_some_iff.2 ⟨split, outside⟩)
  | some parts =>
    obtain ⟨front, value⟩ := parts
    have blank := Text.strip_eq_empty_iff (s := front)
    obtain ⟨split, outside⟩ := splitEquals_eq_some_iff.1 found
    have unique : ∀ front', s = front' ++ "=" ++ text → '=' ∉ front'.toList →
        front' = front ∧ text = value := by
      intro front' split' outside'
      have same := found.symm.trans (splitEquals_eq_some_iff.2 ⟨split', outside'⟩)
      exact ⟨congrArg Prod.fst (Option.some.inj same).symm,
        congrArg Prod.snd (Option.some.inj same).symm⟩
    simp only
    by_cases empty : Text.strip front = ""
    · rw [if_pos empty]
      refine ⟨nofun, ?_⟩
      rintro ⟨front', split', outside', ⟨c, hc, solid⟩, -⟩
      obtain ⟨rfl, -⟩ := unique front' split' outside'
      cases solid.symm.trans (blank.1 empty c hc)
    · rw [if_neg empty]
      constructor
      · intro h
        obtain ⟨rfl, rfl⟩ := Prod.mk.inj (Except.ok.inj h)
        refine ⟨front, split, outside, ?_, rfl⟩
        simpa [blank] using empty
      · rintro ⟨front', split', outside', -, rfl⟩
        obtain ⟨rfl, rfl⟩ := unique front' split' outside'
        rfl

/-! ### All filters -/

/-- What a filter is for a text in the same argument as the option: nothing for the text `--`, or else
the text. -/
def joinedFilter (text : String) : Option String := if text = "--" then none else some text

/-- The filters that the arguments give, one after the other. -/
def filtersOf : List Token → List (Option String)
  | .bare .filter :: .plain text :: ts => some text :: filtersOf ts
  | .joined .filter text :: ts => joinedFilter text :: filtersOf ts
  | .equals .filter text :: ts => joinedFilter text :: filtersOf ts
  | _ :: ts => filtersOf ts
  | [] => []

/-- A filter is what is given, split if it is a text. -/
def IsFilter : Option String → Option (String × String) → Prop
  | none, f => f = none
  | some s, f => ∃ name text, f = some (name, text) ∧ Splits s name text

namespace Arguments

variable {a b : Arguments}

/-- An option adds the filter that it gives. -/
theorem filters_setValue {s : Switch} {value : String} (h : a.setValue s value = .ok b) :
    if s = .filter then ∃ f, IsFilter (some value) f ∧ b.filters = a.filters ++ [f]
    else b.filters = a.filters := by
  cases s with
  | filter =>
    simp only [setValue] at h
    split at h
    · next f split =>
      obtain rfl := Except.ok.inj h
      exact ⟨some f, ⟨f.1, f.2, rfl, filterOf_eq_ok_iff.1 split⟩, rfl⟩
    · cases h
  | port | timeout | log =>
    simp only [setValue] at h
    split at h
    · exact Except.ok.inj h ▸ rfl
    · cases h
  | _ => exact Except.ok.inj h ▸ rfl

/-- A filter in the same argument as its option is appended. -/
theorem filters_setJoined {s : Switch} {value : String} (h : a.setJoined s value = .ok b) :
    if s = .filter then ∃ f, IsFilter (joinedFilter value) f ∧ b.filters = a.filters ++ [f]
    else b.filters = a.filters := by
  unfold setJoined at h
  unfold joinedFilter
  split at h
  · next empty =>
    obtain rfl := Except.ok.inj h
    rw [if_pos empty]
    cases s with
    | filter => exact ⟨none, rfl, rfl⟩
    | _ => rfl
  · next given =>
    rw [if_neg given]
    exact filters_setValue h

/-- A flag changes no filter. -/
theorem filters_setFlag {s : Switch} (h : a.setFlag s = .ok b) : b.filters = a.filters := by
  cases s with
  | help => cases h
  | _ => exact Except.ok.inj h ▸ rfl

end Arguments

/-- An option with its value gives a filter, or the filters are those of the rest. -/
theorem filters_option {s : Switch} {given : Option String} {all rest : List Token}
    {before middle last : List (Option (String × String))}
    (added : if s = .filter then ∃ f, IsFilter given f ∧ middle = before ++ [f] else middle = before)
    (gives : filtersOf all = if s = .filter then given :: filtersOf rest else filtersOf rest)
    (behind : ∃ fs, List.Forall₂ IsFilter (filtersOf rest) fs ∧ last = middle ++ fs) :
    ∃ fs, List.Forall₂ IsFilter (filtersOf all) fs ∧ last = before ++ fs := by
  obtain ⟨fs, others, rfl⟩ := behind
  rw [gives]
  by_cases filter : s = .filter
  · rw [if_pos filter] at added ⊢
    obtain ⟨f, first, rfl⟩ := added
    exact ⟨f :: fs, .cons first others, by simp⟩
  · rw [if_neg filter] at added ⊢
    exact ⟨fs, others, added ▸ rfl⟩

/-- **Taking arguments adds the filters that they give,** in their order. -/
theorem filters_take {p q : Progress} {afterEntity : Bool} {ts : List Token}
    (h : take p afterEntity ts = .ok q) :
    ∃ fs, List.Forall₂ IsFilter (filtersOf ts) fs ∧
      q.arguments.filters = p.arguments.filters ++ fs := by
  refine take_induction (P := fun a ts => ∃ fs, List.Forall₂ IsFilter (filtersOf ts) fs ∧
    q.arguments.filters = a.filters ++ fs) ⟨[], .nil, (List.append_nil _).symm⟩ ?_ ?_ ?_ ?_ h
  · intro a entity? t ts other behind
    cases t <;> first | exact behind | cases other
  · intro a b s text ts hb behind
    exact filters_option (Arguments.filters_setValue hb) (by cases s <;> rfl) behind
  · intro a b s ts valueless hb behind
    have none_given : filtersOf (.bare s :: ts) = filtersOf ts := by
      cases s <;> first | rfl | cases valueless
    rw [none_given, ← Arguments.filters_setFlag hb]
    exact behind
  · intro a b s text ts hb behind
    have added := Arguments.filters_setJoined hb
    exact ⟨filters_option added (by cases s <;> rfl) behind,
      filters_option added (by cases s <;> rfl) behind⟩

/-- **The filters of a command line** are those of its arguments. -/
theorem Arguments.filters_of_ofList {argv : List String} {a : Arguments} (h : ofList argv = .ok a) :
    ∃ ts, tokens argv = .ok ts ∧ List.Forall₂ IsFilter (filtersOf ts) a.filters := by
  obtain ⟨ts, p, read, taken, rfl⟩ := exists_take_of_ofList h
  obtain ⟨fs, given, added⟩ := filters_take taken
  exact ⟨ts, read, added ▸ given⟩

end CommandLine
end EntityQuery
