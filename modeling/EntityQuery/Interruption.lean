import EntityQuery.Error

/-!
# Interruptions

Things happen one after the other until one of them is refused: the error of the refusal is the cause
that ends them, and what stands before it has happened. Nothing at all is refused by what takes
everything.
-/

namespace EntityQuery
namespace Interruption

variable {α : Type} (refuses : α → Option Error)

/-- The error of the first thing that is refused. -/
def cause? (xs : List α) : Option Error := xs.findSome? refuses

/-- What happens before the first thing that is refused. -/
def passed (xs : List α) : List α := xs.takeWhile fun x => (refuses x).isNone

/-- The outcome of things that would come to another one if none of them were refused. -/
def outcome {β : Type} (xs : List α) (r : Except Error β) : Except Error β :=
  match cause? refuses xs with
  | some e => .error e
  | none => r

end Interruption
end EntityQuery
