import EntityQuery.Proofs.Value.Entries
import EntityQuery.Table

/-!
# The header of rows that name their cells

Rows that name their cells come without a header, so it is collected from them. Every name of a row is
then one of the header (`any_extendHeader_of_mem`). Of names that are texts the header holds each where
it stands first: it leaves none out, repeats none, and keeps their order (`ListsFirst`). So a header of
distinct names is its own, and names that are known add nothing to it.
-/

namespace EntityQuery

/-- What can be gone through is gone through item by item. -/
theorem Value.iterate_eq_ok {v : Value} {xs : List Value} :
    v.iterate = .ok xs ↔ v.items? = some xs := by
  unfold iterate
  cases v.items? <;> simp

namespace Table

/-! ### Collecting names -/

/-- A name extends a header unless it is there. -/
theorem extendHeader_cons (header : List Value) (name : Value) (names : List Value) :
    extendHeader header (name :: names) =
      extendHeader (if header.any name.same then header else header ++ [name]) names := rfl

/-- A header is extended by names one after the other. -/
theorem extendHeader_append (header names others : List Value) :
    extendHeader header (names ++ others) = extendHeader (extendHeader header names) others :=
  List.foldl_append

/-- What is in a header stays there, in its place. -/
theorem prefix_extendHeader (header names : List Value) : header <+: extendHeader header names := by
  induction names generalizing header with
  | nil => exact List.prefix_rfl
  | cons name names ih =>
    rw [extendHeader_cons]
    split
    · exact ih header
    · exact (List.prefix_append header [name]).trans (ih _)

/-- **Every name that is collected is one of the header.** -/
theorem any_extendHeader_of_mem {header names : List Value} {name : Value} (h : name ∈ names) :
    (extendHeader header names).any name.same = true := by
  induction names generalizing header with
  | nil => cases h
  | cons first names ih =>
    rw [extendHeader_cons]
    obtain rfl | h := List.mem_cons.1 h
    · split
      · next known =>
        obtain ⟨other, there, same⟩ := List.any_eq_true.1 known
        exact List.any_eq_true.2 ⟨other, (prefix_extendHeader ..).subset there, same⟩
      · have there : name ∈ header ++ [name] := List.mem_append_right _ (List.mem_singleton.2 rfl)
        exact List.any_eq_true.2 ⟨name, (prefix_extendHeader ..).subset there, name.same_refl⟩
    · exact ih h

/-- Names that a header has add nothing to it. -/
theorem extendHeader_of_known {header names : List Value}
    (known : ∀ name ∈ names, header.any name.same = true) : extendHeader header names = header := by
  induction names with
  | nil => rfl
  | cons name names ih =>
    rw [List.forall_mem_cons] at known
    rw [extendHeader_cons, if_pos known.1, ih known.2]

/-- Names that are distinct, and none of the header, are added as they stand. -/
theorem extendHeader_of_distinct {header names : List Value}
    (distinct : (header ++ names).Pairwise fun a b => b.same a = false) :
    extendHeader header names = header ++ names := by
  induction names generalizing header with
  | nil => exact (List.append_nil header).symm
  | cons name names ih =>
    have new : ¬ header.any name.same = true := by
      rw [List.any_eq_true]
      rintro ⟨other, there, same⟩
      rw [List.pairwise_append] at distinct
      rw [distinct.2.2 other there name (List.mem_cons_self ..)] at same
      cases same
    rw [List.append_cons] at distinct
    rw [extendHeader_cons, if_neg new, ih distinct, ← List.append_cons]

/-! ### Where a name stands first -/

/-- **A header lists names as they first occur:** it leaves none out, holds each as it stands where it
stands first, repeats none, and has them in the order of these places. -/
structure ListsFirst (names header : List Value) : Prop where
  covers : ∀ name ∈ names, header.any name.same = true
  first : ∀ name ∈ header, names.find? name.same = some name
  distinct : header.Pairwise fun a b => b.same a = false
  ordered : header.Pairwise fun a b => names.findIdx a.same < names.findIdx b.same

namespace ListsFirst

variable {names header : List Value} {name : Value}

/-- What is listed is one of the names. -/
theorem mem (h : ListsFirst names header) (hn : name ∈ header) : name ∈ names :=
  List.mem_of_find?_eq_some (h.first name hn)

/-- The place of a name that is listed lies among the names. -/
theorem findIdx_lt (h : ListsFirst names header) (hn : name ∈ header) :
    names.findIdx name.same < names.length :=
  List.findIdx_lt_length_of_exists ⟨name, h.mem hn, name.same_refl⟩

/-- What comes behind does not change the place of a name that is listed. -/
theorem findIdx_append (h : ListsFirst names header) (hn : name ∈ header) (others : List Value) :
    (names ++ others).findIdx name.same = names.findIdx name.same := by
  rw [List.findIdx_append, if_pos (h.findIdx_lt hn)]

/-- The first of the names stay the first when others follow. -/
theorem first_append (h : ListsFirst names header) (others : List Value) :
    ∀ name ∈ header, (names ++ others).find? name.same = some name := by
  intro name hn
  rw [List.find?_append, h.first name hn, Option.some_or]

/-- Their order stays, too. -/
theorem ordered_append (h : ListsFirst names header) (others : List Value) :
    header.Pairwise fun a b =>
      (names ++ others).findIdx a.same < (names ++ others).findIdx b.same := by
  refine h.ordered.imp_of_mem fun ha hb lt => ?_
  rwa [h.findIdx_append ha, h.findIdx_append hb]

/-- A name that is known is listed already. -/
theorem append_known (h : ListsFirst names header) (known : header.any name.same = true) :
    ListsFirst (names ++ [name]) header where
  covers := List.forall_mem_append.2 ⟨h.covers, List.forall_mem_singleton.2 known⟩
  first := h.first_append [name]
  distinct := h.distinct
  ordered := h.ordered_append [name]

/-- A text that is not listed is none of the names. -/
theorem absent (h : ListsFirst names header) (texts : ∀ name ∈ names, name.isText = true)
    (text : name.isText = true) (new : header.any name.same = false) :
    ∀ other ∈ names, name.same other = false := by
  intro other hother
  by_contra hit
  rw [Bool.not_eq_false] at hit
  obtain ⟨listed, there, same⟩ := List.any_eq_true.1 (h.covers other hother)
  -- the one that is listed for the other name is spelled like this one
  have spelled := ((Value.same_iff text).1 hit).trans ((Value.same_iff (texts other hother)).1 same)
  exact List.any_eq_false.1 new listed there ((Value.same_iff text).2 spelled)

/-- A new name is listed behind the others. -/
theorem append_new (h : ListsFirst names header) (texts : ∀ name ∈ names, name.isText = true)
    (text : name.isText = true) (new : header.any name.same = false) :
    ListsFirst (names ++ [name]) (header ++ [name]) where
  covers := by
    refine List.forall_mem_append.2 ⟨fun other hother => ?_, List.forall_mem_singleton.2 ?_⟩
    · rw [List.any_append, h.covers other hother, Bool.true_or]
    · rw [List.any_append, List.any_cons, name.same_refl, Bool.true_or, Bool.or_true]
  first := by
    refine List.forall_mem_append.2 ⟨h.first_append [name], List.forall_mem_singleton.2 ?_⟩
    have missed : names.find? name.same = none := by
      simpa using h.absent texts text new
    rw [List.find?_append, missed, Option.none_or, List.find?_cons_of_pos name.same_refl]
  distinct := by
    rw [List.pairwise_append]
    refine ⟨h.distinct, List.pairwise_singleton .., fun other hother => ?_⟩
    rw [List.forall_mem_singleton]
    exact h.absent texts text new other (h.mem hother)
  ordered := by
    rw [List.pairwise_append]
    refine ⟨h.ordered_append [name], List.pairwise_singleton .., fun other hother => ?_⟩
    rw [List.forall_mem_singleton, h.findIdx_append hother]
    have place : (names ++ [name]).findIdx name.same = names.length := by
      have missed := List.findIdx_eq_length_of_false (h.absent texts text new)
      rw [List.findIdx_append, missed, if_neg (Nat.lt_irrefl _), List.findIdx_singleton,
        if_pos name.same_refl, Nat.zero_add]
    rw [place]
    exact h.findIdx_lt hother

end ListsFirst

/-- **The header that is collected lists names as they first occur.** -/
theorem listsFirst_extendHeader {names : List Value} (texts : ∀ name ∈ names, name.isText = true) :
    ListsFirst names (extendHeader [] names) := by
  induction names using List.reverseRecOn with
  | nil => exact ⟨List.forall_mem_nil _, List.forall_mem_nil _, .nil, .nil⟩
  | append_singleton names name ih =>
    rw [List.forall_mem_append, List.forall_mem_singleton] at texts
    obtain ⟨texts, text⟩ := texts
    rw [extendHeader_append, extendHeader_cons]
    split
    · next known => exact (ih texts).append_known known
    · next new => exact (ih texts).append_new texts text (Bool.eq_false_iff.2 new)

/-! ### The rows -/

/-- **The names of all rows are collected in a row,** if there are any: those of a mapping are its keys,
those of another value what it iterates over. -/
theorem headerOfRows_eq {header rows : List Value} (h : ∀ row ∈ rows, row.items?.isSome = true) :
    headerOfRows header rows =
      .ok (extendHeader header (rows.flatMap fun row => row.items?.getD [])) := by
  induction rows generalizing header with
  | nil => rfl
  | cons row rows ih =>
    rw [List.forall_mem_cons] at h
    obtain ⟨names, hnames⟩ := Option.isSome_iff_exists.1 h.1
    rw [headerOfRows, Value.iterate_eq_ok.2 hnames, List.flatMap_cons, extendHeader_append, hnames]
    exact ih h.2

end Table
end EntityQuery
