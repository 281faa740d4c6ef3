import EntityQuery.Interruption
import EntityQuery.Logging.Record
import EntityQuery.Service.Config
import EntityQuery.Service.Payload

/-!
# Exchanges with the service

A request is an address and the seconds it waits. The service answers with a body, or refuses with a
status and a body, or the request fails on its way. An exchange is what an operation on the service
comes to: its outcome, and the requests that were sent and the records that were told in their order,
also if it failed. Exchanges follow one another up to the first failure. Telling a record fails if the
log refuses it, so an operation under a log does what it does without one up to there
(`Exchange.under`).
-/

namespace EntityQuery
namespace Service

/-- What the service is asked for. -/
inductive Endpoint where
  | metadata
  | execution
deriving DecidableEq, Repr

/-- The last part of the address of an endpoint. -/
def Endpoint.name : Endpoint → String
  | metadata => "entityMeta"
  | execution => "sql"

/-- A request. -/
structure Request where
  url : String
  timeout : Seconds
deriving DecidableEq

/-- Why a request failed on its way: the address could not be opened, or the system reported an
error, which may be of a kind of its own. Either comes with some arguments. -/
inductive Failure where
  | address (arguments : List Value)
  | system (ownKind : Bool) (arguments : List Value)

/-- Whether the number of a system error is that of an operation that would block. Only a whole
number is looked up, not what is equal to one. -/
def wouldBlock : Value → Bool
  | .int n => n = 11 || n = 114 || n = 115
  | _ => false

/-- What a system error is about that has these arguments behind its number and its text: nothing,
one thing, or two. -/
def subjects : List Value → List Value
  | [] | .null :: _ => []
  | subject :: rest => subject :: (rest.drop 1).filter fun v => !v.isNull

/-- What a system error about an operation that would block is about. A number in the place of the
subject is the size of what has been done, which is not told but must have the size of an index. -/
def subjectsOfBlocked : List Value → Except Error (List Value)
  | .float x :: _ => .error (.countKind (Value.float x).kindName)
  | subject :: rest =>
    match subject.int? with
    | some n => if Value.isIndexSized n then .ok [] else .error .countSize
    | none => .ok (subjects (subject :: rest))
  | [] => .ok []

/-- The wording of a system error of a number, a text, and what it is about. -/
def systemText? (number text : Value) (about : List Value) : Option String := do
  let about ← Value.inspectItems? about
  return "[Errno " ++ (← number.display?) ++ "] " ++ (← text.display?) ++
    (if about = [] then "" else ": " ++ " -> ".intercalate about)

/-- **The wording of a failure,** or the error of a failure that cannot be told: an address needs
one reason and takes at most a file besides, and the number of a system error is looked up unless
the error is of a kind of its own. -/
def Failure.text : Failure → Except Error String
  | address [reason] | address [reason, _] =>
    Error.written (reason.display?.map fun r => "<urlopen error " ++ r ++ ">")
  | address arguments => .error (.argumentCount "URLError" "reason" arguments.length)
  | system ownKind (number :: text :: rest) =>
    if 3 < rest.length then Error.written (Error.argumentsText? (number :: text :: rest))
    else if !ownKind && wouldBlock number then
      subjectsOfBlocked rest >>= fun about => Error.written (systemText? number text about)
    else Error.written (systemText? number text (subjects rest))
  | system _ arguments => Error.written (Error.argumentsText? arguments)

/-- How many containers of a payload may usually stand inside one another. How many it are depends on
how deep its reader itself is called. -/
def usualLevels : Nat := 986

/-- What comes of a request: a body that is taken as the answer, a refusal with a body of its own, or
nothing. So many containers of a body may stand inside one another when it is read. -/
inductive Reply where
  | good (body : List UInt8) (levels : Nat)
  | refused (status : Int) (reason : String) (body : List UInt8) (levels : Nat)
  | failed (failure : Failure)

/-- The reply of an answer with a status: those from 200 to 299 are good, all others refuse. -/
def Reply.answered (status : Int) (reason : String) (body : List UInt8)
    (levels : Nat := usualLevels) : Reply :=
  if 200 ≤ status ∧ status < 300 then .good body levels else .refused status reason body levels

/-- Nothing answers. -/
def Reply.none : Reply := .failed (.address [.text "no reply"])

/-- What an operation on the service does: it sends a request to an endpoint, or tells a record. -/
inductive Act where
  | sent (endpoint : Endpoint) (r : Request)
  | told (r : Logging.Record)
deriving DecidableEq

namespace Act

/-- The request that an act sends. -/
def request? : Act → Option Request
  | sent _ r => some r
  | told _ => none

/-- The record that an act tells. -/
def record? : Act → Option Logging.Record
  | sent .. => none
  | told r => some r

/-- Why a log refuses an act. -/
def refusal? (log : Logging.Log) (act : Act) : Option Error := act.record?.bind log.refuses

end Act

/-- What an operation on the service comes to. -/
@[ext] structure Exchange (α : Type) where
  outcome : Except Error α
  acts : List Act

namespace Exchange

/-- The requests of an exchange. -/
def requests {α : Type} (x : Exchange α) : List Request := x.acts.filterMap Act.request?

/-- The records of an exchange. -/
def records {α : Type} (x : Exchange α) : List Logging.Record := x.acts.filterMap Act.record?

/-- An outcome without a request. -/
def ofExcept {α : Type} (r : Except Error α) : Exchange α := ⟨r, []⟩

/-- A failure without a request. -/
def fail {α : Type} (e : Error) : Exchange α := ofExcept (.error e)

/-- A record, and nothing else, unless the log refuses it. -/
def tell (log : Logging.Log) (r : Logging.Record) : Exchange Unit :=
  match log.refuses r with
  | none => ⟨.ok (), [.told r]⟩
  | some e => fail e

/-- A request, and nothing else. -/
def send (endpoint : Endpoint) (r : Request) : Exchange Unit := ⟨.ok (), [.sent endpoint r]⟩

/-- What follows the success of an exchange. -/
def bind {α β : Type} (x : Exchange α) (f : α → Exchange β) : Exchange β :=
  match x.outcome with
  | .error e => ⟨.error e, x.acts⟩
  | .ok a =>
    let y := f a
    ⟨y.outcome, x.acts ++ y.acts⟩

instance : Monad Exchange where
  pure a := ofExcept (.ok a)
  bind := bind

/-- What is left of an exchange under a log: it ends where a record is refused. -/
def under {α : Type} (log : Logging.Log) (x : Exchange α) : Exchange α :=
  ⟨Interruption.outcome (Act.refusal? log) x.acts x.outcome,
    Interruption.passed (Act.refusal? log) x.acts⟩

end Exchange

end Service
end EntityQuery
