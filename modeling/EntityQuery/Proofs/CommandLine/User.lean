import EntityQuery.Proofs.CommandLine.Arguments

/-!
# The user of a command line

The arguments give users one after the other (`usersOf`), each with the text that it is given or, for
the text `--` in the same argument, as an empty list is shown. Taking arguments keeps the last of them
(`user?_take`), so that is the user of a command line that is read (`Arguments.user?_of_ofList`).
-/

namespace EntityQuery
namespace CommandLine

/-- What the user is for a text in the same argument as the option: the empty list as it is shown for
the text `--`, or else the text itself. -/
def userOf (text : String) : String := if text = "--" then "[]" else text

/-- The users that the arguments give, one after the other. -/
def usersOf : List Token → List String
  | .bare .user :: .plain text :: ts => text :: usersOf ts
  | .joined .user text :: ts => userOf text :: usersOf ts
  | .equals .user text :: ts => userOf text :: usersOf ts
  | _ :: ts => usersOf ts
  | [] => []

/-! ### One option -/

namespace Arguments

variable {a b : Arguments}

/-- Only the option for the user changes the user. -/
theorem user?_setValue {s : Switch} {value : String} (h : a.setValue s value = .ok b) :
    b.user? = if s = .user then some value else a.user? := by
  cases s with
  | filter | port | timeout | log =>
    simp only [setValue] at h
    split at h
    · exact Except.ok.inj h ▸ rfl
    · cases h
  | _ => exact Except.ok.inj h ▸ rfl

/-- In the same argument as the option, one text stands for the empty list. -/
theorem user?_setJoined {s : Switch} {value : String} (h : a.setJoined s value = .ok b) :
    b.user? = if s = .user then some (userOf value) else a.user? := by
  unfold setJoined at h
  unfold userOf
  split at h
  · next empty =>
    obtain rfl := Except.ok.inj h
    rw [if_pos empty]
    cases s <;> rfl
  · next given =>
    rw [if_neg given]
    exact user?_setValue h

/-- A flag does not change the user. -/
theorem user?_setFlag {s : Switch} (h : a.setFlag s = .ok b) : b.user? = a.user? := by
  cases s with
  | help => cases h
  | _ => exact Except.ok.inj h ▸ rfl

end Arguments

/-! ### All arguments -/

/-- A user that is given takes the place of the one before. -/
theorem getLast?_cons_or {user : String} {users : List String} {user? : Option String} :
    (user :: users).getLast?.or user? = users.getLast?.or (some user) := by
  rw [List.getLast?_cons]
  cases users.getLast? <;> rfl

/-- **Taking arguments gives the user that was given last,** or leaves the user as it is. -/
theorem user?_take {p q : Progress} {afterEntity : Bool} {ts : List Token}
    (h : take p afterEntity ts = .ok q) :
    q.arguments.user? = (usersOf ts).getLast?.or p.arguments.user? := by
  refine take_induction (P := fun a ts => q.arguments.user? = (usersOf ts).getLast?.or a.user?)
    rfl ?_ ?_ ?_ ?_ h
  · intro a entity? t ts other last
    cases t <;> first | exact last | cases other
  · intro a b s text ts hb last
    rw [last, Arguments.user?_setValue hb]
    cases s <;> first | rfl | exact getLast?_cons_or.symm
  · intro a b s ts valueless hb last
    rw [last, Arguments.user?_setFlag hb]
    cases s <;> first | rfl | cases valueless
  · intro a b s text ts hb last
    rw [last, Arguments.user?_setJoined hb]
    cases s <;> first | exact ⟨rfl, rfl⟩ | exact ⟨getLast?_cons_or.symm, getLast?_cons_or.symm⟩

/-- **The user of a command line** is the one that was given last. -/
theorem Arguments.user?_of_ofList {argv : List String} {a : Arguments} (h : ofList argv = .ok a) :
    ∃ ts, tokens argv = .ok ts ∧ a.user? = (usersOf ts).getLast? := by
  obtain ⟨ts, p, read, taken, rfl⟩ := exists_take_of_ofList h
  exact ⟨ts, read, (user?_take taken).trans (Option.or_none ..)⟩

end CommandLine
end EntityQuery
