import EntityQuery.Text.Blank
import EntityQuery.Text.Letter

/-!
# Markup

A console takes markup: a tag in brackets that begins with a small letter or one of `#`, `/`, `@`
changes the style of what follows and is not shown. A backslash before a tag makes it plain text,
and two backslashes before a tag stand for one. Text of unknown origin is escaped before it is put
between tags. Control codes that would move the cursor are not shown either.

A tag with a slash closes the last open tag of its style, or the last one of all if it names none.
Markup in which it closes nothing is at fault (`fault?`). Styles with two names, the parameters of
links and short names of pictures are left out.
-/

namespace EntityQuery
namespace Markup

/-- A character, or a tag with the number of backslashes before it. -/
inductive Piece where
  | char (c : Char)
  | tag (slashes : Nat) (body : List Char)
deriving DecidableEq, Repr

/-- Whether a character can begin a tag. -/
def isTagStart (c : Char) : Bool := ('a' ≤ c && c ≤ 'z') || c = '#' || c = '/' || c = '@'

/-- The body of a tag at the front of a text, and what follows the tag. -/
def tag? : List Char → Option (List Char × List Char)
  | '[' :: c :: r =>
    if isTagStart c then
      let body := r.takeWhile fun d => d != ']' && d != '['
      match r.dropWhile fun d => d != ']' && d != '[' with
      | ']' :: rest => some (c :: body, rest)
      | _ => none
    else none
  | _ => none

/-- The pieces of a text of at most so many characters. -/
def piecesUpTo : Nat → List Char → List Piece
  | 0, _ => []
  | _, [] => []
  | fuel + 1, c :: r =>
    let slashes := ((c :: r).takeWhile (· == '\\')).length
    match tag? ((c :: r).drop slashes) with
    | some (body, rest) => .tag slashes body :: piecesUpTo fuel rest
    | none => .char c :: piecesUpTo fuel r

/-- The pieces of a text. -/
def pieces (cs : List Char) : List Piece := piecesUpTo cs.length cs

/-- A piece as plain text in markup. -/
def Piece.escaped : Piece → List Char
  | char c => [c]
  | tag slashes body => List.replicate (2 * slashes + 1) '\\' ++ '[' :: body ++ [']']

/-- The markup that shows a text. A single backslash at the end is doubled. -/
def escape (s : String) : String :=
  let cs := (pieces s.toList).flatMap Piece.escaped
  let slashes := (cs.reverse.takeWhile (· == '\\')).length
  String.ofList (if slashes = 1 then cs ++ ['\\'] else cs)

/-- What is shown of pieces: a backslash before a bracket that begins no tag is dropped. -/
def shown : List Piece → List Char
  | [] => []
  | .char '\\' :: .char '[' :: r => '[' :: shown r
  | .char c :: r => c :: shown r
  | .tag slashes body :: r =>
    List.replicate (slashes / 2) '\\' ++
      (if slashes % 2 = 1 then '[' :: body ++ [']'] else []) ++ shown r

/-- Whether a character is a control code that is not shown: a bell, a backspace, a vertical tab, a
form feed or a carriage return. -/
def isControlCode (c : Char) : Bool :=
  c = '\x07' || c = '\x08' || c = '\x0b' || c = '\x0c' || c = '\r'

/-- What is seen of characters: all but the control codes. -/
def seen (cs : List Char) : List Char := cs.filter fun c => !isControlCode c

/-- The text that markup shows. -/
def plain (s : String) : String := String.ofList (seen (shown (pieces s.toList)))

/-- The text that a line shows which is no markup. -/
def line (s : String) : String := String.ofList (seen s.toList)

/-- The style that a tag names, without parameters. -/
def style (body : List Char) : String :=
  Text.lower (Text.strip (String.ofList (body.takeWhile (· != '='))))

/-- The styles that are still open when a tag closes one of them. -/
def close? (opened : List String) (style : String) : Option (List String) :=
  if style = "" then opened.tail? else if opened.contains style then some (opened.erase style) else none

/-- What is said of a closing tag that closes nothing. -/
def faultText (position : Nat) (body name : List Char) : String :=
  if style name = "" then "closing tag '[/]' at position " ++ position.repr ++ " has nothing to close"
  else "closing tag '[" ++ String.ofList body ++ "]' at position " ++ position.repr ++
    " doesn't match any open tag"

/-- What is wrong with pieces from a position on, where some styles are open. -/
def faultFrom? (position : Nat) (opened : List String) : List Piece → Option String
  | [] => none
  | .char _ :: r => faultFrom? (position + 1) opened r
  | .tag slashes body :: r =>
    let behind := position + slashes + body.length + 2
    if slashes % 2 = 1 then faultFrom? behind opened r
    else match body with
      | '/' :: name =>
        match close? opened (style name) with
        | some opened => faultFrom? behind opened r
        | none => some (faultText (position + slashes) body name)
      | _ => faultFrom? behind (style body :: opened) r

/-- What is wrong with markup: its first closing tag that closes nothing. -/
def fault? (s : String) : Option String := faultFrom? 0 [] (pieces s.toList)

example : fault? "[bold]a[/bold]" = none ∧ fault? "\\\\[/b]" =
    some "closing tag '[/b]' at position 2 doesn't match any open tag" := by decide +kernel

example : plain ("[bold red]Error:[/bold red] " ++ escape "no [a] \\[b] [0]") =
    "Error: no [a] \\[b] [0]" := by decide +kernel

end Markup
end EntityQuery
