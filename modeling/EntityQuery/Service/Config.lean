import EntityQuery.Error
import EntityQuery.Text.Blank

/-!
# Connection settings

A service is reached under a base address, made of a scheme, a host, a port and a path. Slashes at
the ends of the path do not count. A request waits for a number of seconds that must not be zero or
less.

Settings are what a caller gives, and may be of any kind. A configuration is what has been
accepted: only the scheme and the seconds are looked at before the address is asked for. The host
and the port stand in the address as they are shown; a path that is no text gives no address.
-/

namespace EntityQuery
namespace Service

/-- The scheme of an address. -/
inductive Scheme where
  | http
  | https
deriving DecidableEq, Repr

/-- The written form of a scheme. -/
def Scheme.name : Scheme → String
  | http => "http"
  | https => "https"

/-- The scheme of exactly that written form. -/
def Scheme.ofName? (s : String) : Option Scheme :=
  if s = "http" then some .http else if s = "https" then some .https else none

/-- A number of seconds; a truth value serves as one. -/
inductive Seconds where
  | whole (n : Int)
  | float (x : Binary64)
  | truth (b : Bool)
deriving DecidableEq

/-- The seconds as a value. -/
def Seconds.value : Seconds → Value
  | whole n => .int n
  | float x => .float x
  | truth b => .bool b

/-- The seconds that a value stands for. -/
def Seconds.ofValue? : Value → Option Seconds
  | .int n => some (whole n)
  | .float x => some (float x)
  | .bool b => some (truth b)
  | _ => none

/-- Seconds are found again in their value. -/
@[simp] theorem Seconds.ofValue?_value (s : Seconds) : ofValue? s.value = some s := by
  cases s <;> rfl

/-- Whether a number of seconds is zero or less. -/
def Seconds.atMostZero : Seconds → Bool
  | whole n => n ≤ 0
  | float x => x.atMostZero
  | truth b => !b

/-- What a caller may set; the defaults reach a service on the same machine. -/
structure Settings where
  host : Value := .text "localhost"
  port : Value := .int 7070
  basePath : Value := .text "/cosyan"
  scheme : Value := .text "http"
  timeout : Value := .int 5

/-- Settings that have been accepted. -/
structure Config where
  scheme : Scheme
  host : Value
  port : Value
  basePath : Value
  timeout : Seconds
  accepted : timeout.atMostZero = false

/-- The scheme of a setting. -/
def schemeOf (v : Value) : Except Error Scheme :=
  match v.text?.bind Scheme.ofName? with
  | some scheme => .ok scheme
  | none => .error (.showing v.display? fun shown => .setting (.scheme shown))

/-- The seconds of a setting. -/
def secondsOf (v : Value) : Except Error Seconds :=
  match Seconds.ofValue? v with
  | some seconds => .ok seconds
  | none => .error (.setting (.timeoutKind v.fullKindName))

/-- **The configuration of settings.** The scheme is looked at before the timeout. -/
def Config.ofSettings (s : Settings) : Except Error Config := do
  let scheme ← schemeOf s.scheme
  let timeout ← secondsOf s.timeout
  if h : timeout.atMostZero = false then .ok ⟨scheme, s.host, s.port, s.basePath, timeout, h⟩
  else .error (.setting .timeout)

/-- A path as a part of an address: nothing, or the path after one slash. -/
def pathPart (path : String) : List Char :=
  match Text.trimChars (· = '/') path.toList with
  | [] => []
  | cs => '/' :: cs

/-- The path of a setting. -/
def pathOf (v : Value) : Except Error (List Char) :=
  match v.text?, v with
  | some path, _ => .ok (pathPart path)
  | none, .bytes _ => .error (.setting .pathBytes)
  | none, v => .error (.setting (.pathKind v.fullKindName))

/-- A setting as it is shown. -/
def shown (v : Value) : Except Error String := Error.written v.display?

/-- **The base address of a configuration.** -/
def Config.baseUrl (c : Config) : Except Error String := do
  let path ← pathOf c.basePath
  let host ← shown c.host
  let port ← shown c.port
  return c.scheme.name ++ "://" ++ host ++ ":" ++ port ++ String.ofList path

end Service
end EntityQuery
