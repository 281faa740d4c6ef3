import EntityQuery.Table

/-!
# Data frames

A table can be turned into a data frame, which has its rows and its columns under labels. `Framing` is
what is assumed of a package of data frames: labels that are texts stay as they are. `Framing.arrays` is
the package that is run.

It keeps the column labels in an array of one kind where it can. Whole numbers and
fractions together become floating point numbers, and so do whole numbers beside an absent label,
which becomes not-a-number. It also becomes that among texts. Labels of any other kind leave all of
them as they are, and so do whole numbers that no array holds (`fits`).

The rows are looked up under the labels, so a label must be one that can be a key.

Labels that are all lists are the levels of a label in several parts: the first column takes the
first part of each, and so on. Every level is an array of the parts that differ, and equal parts
look like the first of them. Equal parts may be of several kinds, so what is left may be of one kind
where the level was not: of 1, true and 1.5 the first and the last are left, which are numbers.
-/

namespace EntityQuery

/-- A data frame: the labels of its columns and the number of its rows. -/
structure Frame where
  columns : List Value
  size : Nat

/-- **A package of data frames,** and what is assumed of it. -/
structure Framing where
  /-- The labels of the columns of a table. -/
  labels : Table → Except Error (List Value)
  /-- Texts stay as they are. -/
  labels_texts (names : List String) (rows : List Entries) :
    labels ⟨names.map .text, rows⟩ = .ok (names.map .text)

/-- **The data frame of a table.** -/
def Table.toFrame (framing : Framing) (t : Table) : Except Error Frame :=
  (fun labels => ⟨labels, t.size⟩) <$> framing.labels t

/-- **A table whose columns are texts becomes a frame** with these columns and all its rows, whatever the
package. -/
theorem Table.toFrame_texts (framing : Framing) (names : List String) (rows : List Entries) :
    toFrame framing ⟨names.map .text, rows⟩ = .ok ⟨names.map .text, rows.length⟩ := by
  rw [toFrame, framing.labels_texts]
  rfl

namespace Frame

/-- The number nearest to a whole number. -/
def ofWhole (n : Int) : Binary64 := Binary64.ofFraction (n < 0) n.natAbs 1

/-- A label as a floating point number, if it is a number or absent. -/
def float? : Value → Option Binary64
  | .null => some (.nan 0)
  | .int n => some (ofWhole n)
  | .float x => some x
  | _ => none

/-- Whether a label counts as absent. -/
def isAbsent : Value → Bool
  | .null | .float (.nan _) => true
  | _ => false

/-- The whole numbers among labels. -/
def wholes (labels : List Value) : List Int :=
  labels.filterMap fun
    | .int n => some n
    | _ => none

/-- The greatest whole number of 64 bits with a sign. -/
def greatestSigned : Int := 9223372036854775807

/-- The greatest whole number of 64 bits without a sign. -/
def greatestUnsigned : Int := 18446744073709551615

/-- Whether one array can hold whole numbers: all have 64 bits, with a sign or all without. -/
def fits (ns : List Int) : Bool :=
  ns.all (fun n => -greatestSigned - 1 ≤ n && n ≤ greatestUnsigned) &&
    !(ns.any (· < 0) && ns.any (greatestSigned < ·))

/-- Whether an array of labels is one of floating point numbers. -/
def isFloats (labels : List Value) : Bool :=
  labels.all (fun v => (float? v).isSome) && fits (wholes labels) &&
    (wholes labels).length < labels.length && labels.any fun v => !v.isNull

/-- A label as a floating point number, if it is a number. -/
def toFloat (v : Value) : Value := ((float? v).map .float).getD v

/-- Labels as floating point numbers. -/
def floats (labels : List Value) : List Value := labels.map toFloat

/-- Whether an array of labels is one of whole numbers. -/
def isWholes (labels : List Value) : Bool :=
  (wholes labels).length = labels.length && fits (wholes labels)

/-- Whether an array of labels is one of texts: there are texts, and apart from them only absent
labels. -/
def isTexts (labels : List Value) : Bool :=
  labels.all (fun v => v.isText || isAbsent v) && labels.any Value.isText

/-- The labels with not-a-number for every absent one. -/
def markAbsent (labels : List Value) : List Value :=
  labels.map fun v => if isAbsent v then .float (.nan 0) else v

/-- Labels of one part. -/
def simple (labels : List Value) : List Value :=
  if isFloats labels then floats labels
  else if isTexts labels then markAbsent labels
  else labels

/-- The first ones of equal parts. -/
def distinct (parts : List Value) : List Value :=
  parts.foldl (fun seen v => if seen.any v.same then seen else seen ++ [v]) []

/-- The array of the parts of a level that differ. Whole numbers cannot stand beside an absent part,
which makes them floating point numbers. -/
def shownParts (someAbsent : Bool) (parts : List Value) : List Value :=
  if isFloats parts || (someAbsent && isWholes parts) then floats parts else parts

/-- Whether parts that differ become equal in an array of floating point numbers. -/
def collide (parts : List Value) : Bool :=
  isFloats parts && (distinct (floats parts)).length < parts.length

/-- The parts of a level. They must be such that can be keys, and those that differ must do so in
their array. -/
def level (parts : List Value) : Except ShapeFault (List Value) :=
  let present := parts.filter fun v => !isAbsent v
  let kept (v : Value) : Value := if isFloats present then toFloat v else v
  let differing := distinct (present.map kept)
  let shown : Entries := differing.zip (shownParts (present.length < parts.length) differing)
  match parts.find? fun v => !v.canBeKey with
  | some v => .error (.unhashable v.kindName)
  | none =>
    if collide differing then .error .repeatedParts
    else .ok (markAbsent (parts.map fun v => (shown.find? (kept v)).getD v))

/-- The parts of labels that are all lists. -/
def parts? (labels : List Value) : Option (List (List Value)) :=
  labels.mapM fun
    | .list parts => some parts
    | _ => none

/-- Whether levels have one length. -/
def isEven (levels : List (List Value)) : Bool :=
  levels.all fun parts => parts.length == (levels.head?.getD []).length

/-- The labels that take their parts from levels of one length. -/
def compound (levels : List (List Value)) : List Value :=
  (List.range (levels.head?.getD []).length).map fun i =>
    .list (levels.filterMap fun parts => parts[i]?)

/-- The labels of levels, which must have one length. The first level that is none decides the
error. -/
def ofLevels (levels : List (List Value)) : Except ShapeFault (List Value) :=
  if isEven levels then compound <$> levels.mapM level else .error .levelLengths

/-- The labels of one part under which the rows of a table are looked up. Without rows there is
nothing to look up, and a label that cannot be a key is refused as such. -/
def ofHeader (t : Table) : Except Error (List Value) :=
  match t.header.find? fun v => !v.canBeKey with
  | none => .ok (simple t.header)
  | some v =>
    if t.isEmpty then .error (.showing v.display? fun shown => .shape (.notLabel shown))
    else .error (.shape (.unhashable v.kindName))

/-- **The labels of the columns of a table.** -/
def labels (t : Table) : Except Error (List Value) :=
  match parts? t.header with
  | some levels => (ofLevels levels).mapError .shape
  | none => ofHeader t

/-- Texts stay as they are. -/
theorem labels_texts (names : List String) (rows : List Entries) :
    labels ⟨names.map .text, rows⟩ = .ok (names.map .text) := by
  have key : ((names.map Value.text).find? fun v => !v.canBeKey) = none := by
    simp [Value.canBeKey]
  have same : markAbsent (names.map .text) = names.map .text := by
    simp [markAbsent, isAbsent]
  cases names with
  | nil => rfl
  | cons name names =>
    simp only [labels, ofHeader, key, simple, same]
    simp [parts?, isFloats, float?]

end Frame

/-- **The package that is run.** -/
def Framing.arrays : Framing := ⟨Frame.labels, Frame.labels_texts⟩

end EntityQuery
