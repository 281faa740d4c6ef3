import EntityQuery.Logging.Logger

/-!
# The namespace of the library's logger

Which loggers exist changes the parent of a logger, but for most names not whether the library's logger
is among its ancestors. A name that goes on from the name of the library's logger with a single dot is
inside whatever loggers exist: that dot is always a place where the name of a parent may end, and each
parent before it goes on so as well (`isInside_of_isOwn`). A name that does not begin like this is
outside, and so is each of its parents (`isInside_of_isForeign`). Only of names with two dots in a row
behind the name of the library's logger neither is said.
-/

namespace EntityQuery
namespace Logging

/-- The name of the library's logger with a dot. -/
def packageFront : List Char := packageName.toList ++ ['.']

/-- The library's logger, and the names that go on from its name with one dot. -/
def IsOwn (name : String) : Prop :=
  name = packageName ∨ ∃ rest, name.toList = packageFront ++ rest ∧ rest.head? ≠ some '.'

/-- The names that do not go on from the name of the library's logger. -/
def IsForeign (name : String) : Prop := name ≠ packageName ∧ ¬ packageFront <+: name.toList

/-! ### Where the name of a parent ends -/

/-- At a place there is a dot, and not at the front. -/
theorem of_mem_places {cs : List Char} {n i : Nat} (h : i ∈ places cs n) :
    0 < i ∧ cs[i]? = some '.' := by
  fun_induction places cs n with
  | case1 => cases h
  | case2 => cases h
  | case3 n dot ih =>
    rcases List.mem_cons.1 h with rfl | h
    · exact ⟨Nat.succ_pos n, dot⟩
    · exact ih h
  | case4 n _ ih => exact ih h

/-- **A dot before no other dot is a place.** -/
theorem mem_places {cs : List Char} {n i : Nat} (hi : 0 < i) (hn : i < n) (dot : cs[i]? = some '.')
    (next : cs[i + 1]? ≠ some '.') : i ∈ places cs n := by
  fun_induction places cs n with
  | case1 => omega
  | case2 => omega
  | case3 n hdot ih =>
    by_cases h : i = n + 1
    · exact h ▸ List.mem_cons_self ..
    · -- the place before a dot is passed over, but no dot follows this one
      have : i ≠ n := by
        rintro rfl
        exact next hdot
      exact List.mem_cons_of_mem _ (ih (by omega))
  | case4 n hdot ih =>
    have : i ≠ n + 1 := by
      rintro rfl
      exact hdot dot
    exact ih (by omega)

/-- A parent is a known name or the library's logger, and ends at a place. -/
theorem of_parent? {known : List String} {name parent : String}
    (h : parent? known name = some parent) :
    ∃ i ∈ places name.toList name.length, parent = String.ofList (name.toList.take i) := by
  obtain ⟨i, hi, rfl⟩ := List.mem_map.1 (List.mem_of_find?_eq_some h)
  exact ⟨i, hi, rfl⟩

/-- A parent has a shorter name. -/
theorem length_of_parent? {known : List String} {name parent : String}
    (h : parent? known name = some parent) : parent.length < name.length := by
  obtain ⟨i, hi, rfl⟩ := of_parent? h
  have := lt_of_mem_places hi
  rw [String.length_ofList, List.length_take]
  omega

/-! ### Inside -/

/-- No dot stands in the name of the library's logger. -/
theorem le_of_dot {rest : List Char} {i : Nat} (dot : (packageFront ++ rest)[i]? = some '.') :
    12 ≤ i := by
  refine Nat.le_of_not_lt fun short => ?_
  have no_dot : ∀ i < 12, packageFront[i]? ≠ some '.' := by decide
  have inside : i < packageFront.length := Nat.lt_trans short (by decide)
  rw [List.getElem?_append_left inside] at dot
  exact no_dot i short dot

/-- The character behind the first dot. -/
theorem getElem?_behind_packageFront (rest : List Char) :
    (packageFront ++ rest)[13]? = rest.head? := by
  rw [List.getElem?_append_right (by decide), List.head?_eq_getElem?]
  rfl

/-- What ends at a place of an own name is an own name. -/
theorem isOwn_of_mem_places {name : String} {rest : List Char} {i n : Nat}
    (chars : name.toList = packageFront ++ rest) (single : rest.head? ≠ some '.')
    (hi : i ∈ places name.toList n) : IsOwn (String.ofList (name.toList.take i)) := by
  obtain ⟨-, dot⟩ := of_mem_places hi
  rw [chars] at dot ⊢
  have behind : i ≠ 13 := by
    rintro rfl
    exact single (getElem?_behind_packageFront rest ▸ dot)
  have low := le_of_dot dot
  rcases Nat.lt_or_ge 12 i with long | short
  · refine .inr ⟨rest.take (i - 13), ?_, ?_⟩
    · rw [String.toList_ofList, List.take_append, List.take_of_length_le]
      · rfl
      · exact Nat.le_trans (by decide) (show 13 ≤ i by omega)
    · rw [List.head?_take, if_neg (by omega)]
      exact single
  · obtain rfl : i = 12 := by omega
    exact .inl rfl

/-- **An own name has an own parent,** whatever loggers exist. -/
theorem exists_parent_of_isOwn (known : List String) {name : String} (h : IsOwn name)
    (hne : name ≠ packageName) : ∃ parent, parent? known name = some parent ∧ IsOwn parent := by
  obtain rfl | ⟨rest, chars, single⟩ := h
  · exact absurd rfl hne
  · have first : 12 ∈ places name.toList name.length := by
      refine mem_places (by decide) ?_ ?_ ?_
      · rw [← String.length_toList, chars, List.length_append]
        exact Nat.lt_add_right _ (by decide)
      · rw [chars, List.getElem?_append_left (by decide)]
        rfl
      · rw [chars, getElem?_behind_packageFront]
        exact single
    have some_parent : (parent? known name).isSome = true := by
      rw [parent?, List.find?_isSome]
      refine ⟨packageName, List.mem_map.2 ⟨12, first, ?_⟩, by simp⟩
      rw [chars]
      rfl
    obtain ⟨parent, hp⟩ := Option.isSome_iff_exists.1 some_parent
    obtain ⟨i, hi, rfl⟩ := of_parent? hp
    exact ⟨_, hp, isOwn_of_mem_places chars single hi⟩

/-- A name of the library's own is not empty. -/
theorem length_pos_of_isOwn {name : String} (h : IsOwn name) : 0 < name.length := by
  obtain rfl | ⟨rest, chars, -⟩ := h
  · decide
  · rw [← String.length_toList, chars, List.length_append]
    exact Nat.lt_add_right _ (by decide)

/-- **Own names are inside,** whatever loggers exist. -/
theorem isInside_of_isOwn (known : List String) {name : String} (h : IsOwn name) :
    isInside known name = true := by
  have within : ∀ n name, IsOwn name → name.length ≤ n → isWithin known n name = true := by
    intro n
    induction n with
    | zero => exact fun name h le => absurd (length_pos_of_isOwn h) (Nat.not_lt.2 le)
    | succ n ih =>
      intro name h le
      by_cases hne : name = packageName
      · simp [isWithin, hne]
      · obtain ⟨parent, hp, own⟩ := exists_parent_of_isOwn known h hne
        have shorter := length_of_parent? hp
        simp [isWithin, hp, ih parent own (by omega)]
  exact within _ name h (Nat.le_refl _)

/-! ### Outside -/

/-- **A foreign name has foreign parents.** -/
theorem isForeign_of_parent? {known : List String} {name parent : String} (h : IsForeign name)
    (hp : parent? known name = some parent) : IsForeign parent := by
  obtain ⟨i, hi, rfl⟩ := of_parent? hp
  obtain ⟨-, dot⟩ := of_mem_places hi
  refine ⟨fun same => h.2 ?_, fun front => h.2 ?_⟩
  · have chars : name.toList.take i = packageName.toList := by
      rw [← same, String.toList_ofList]
    have longer : name.toList.take (i + 1) = packageFront := by
      rw [List.take_add_one, chars, dot]
      rfl
    exact longer ▸ List.take_prefix _ _
  · rw [String.toList_ofList] at front
    exact front.trans (List.take_prefix _ _)

/-- **Foreign names are outside,** whatever loggers exist. -/
theorem isInside_of_isForeign (known : List String) {name : String} (h : IsForeign name) :
    isInside known name = false := by
  have not_within : ∀ n name, IsForeign name → isWithin known n name = false := by
    intro n
    induction n with
    | zero => exact fun name h => by simp [isWithin, h.1]
    | succ n ih =>
      intro name h
      cases hp : parent? known name with
      | none => simp [isWithin, h.1, hp]
      | some parent => simp [isWithin, h.1, hp, ih parent (isForeign_of_parent? h hp)]
  exact not_within _ name h

end Logging
end EntityQuery
