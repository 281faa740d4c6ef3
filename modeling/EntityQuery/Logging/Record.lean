import EntityQuery.Error

/-!
# Log records

What the library has to tell about its work is a record: the name of the logger that tells it, a
level, and a message. Records are shown as markup by some logs, so a log may refuse one: the error of
its markup then leaves the operation that told it, as nothing there takes such an error.
-/

namespace EntityQuery
namespace Logging

/-- The level of what is told for the search of faults. -/
def debug : Int := 10

/-- The level of what is told in passing. -/
def info : Int := 20

/-- The level of what may be a fault. -/
def warning : Int := 30

/-- The level of faults. -/
def error : Int := 40

/-- The level of faults that end the work. -/
def critical : Int := 50

/-- Something that has been told. -/
structure Record where
  logger : String
  level : Int
  message : String
deriving DecidableEq, Repr

/-- What takes records, or refuses them for their markup. -/
@[ext] structure Log where
  refuses : Record → Option Error
  kind_of_refuses : ∀ {r e}, refuses r = some e → e.kind = .markup

/-- The log that takes every record. -/
def Log.quiet : Log where
  refuses _ := none
  kind_of_refuses := by
    rintro r e ⟨⟩

end Logging
end EntityQuery
