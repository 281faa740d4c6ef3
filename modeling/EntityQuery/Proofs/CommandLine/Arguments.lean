import EntityQuery.CommandLine.Arguments
import EntityQuery.Proofs.Reading.Number

/-!
# What the arguments of a command line can be

Whatever the command line is, its options hold what they were given or their defaults: the host and
the port can be written, the path and the level of the log are texts or the empty list, the level is
one of those that can be chosen, and the scheme cannot be given at all. Every option keeps this
(`Arguments.IsTyped`), so it holds of all arguments that are read (`Arguments.isTyped_ofList`). The
induction over the arguments is the same for whatever options keep or add (`take_induction`).
-/

namespace EntityQuery
namespace CommandLine

open Outcome

/-- What the options can hold. -/
structure Arguments.IsTyped (a : Arguments) : Prop where
  host : a.settings.host.isWritable = true
  port : a.settings.port.isWritable = true
  basePath : a.settings.basePath = .list [] ∨ ∃ path, a.settings.basePath = .text path
  scheme : a.settings.scheme = .text "http"
  logLevel : a.logLevel = .list [] ∨ ∃ level ∈ logLevels, a.logLevel = .text level

namespace Arguments

variable {a b : Arguments}

/-! ### One option -/

/-- The arguments that nothing was said about have their types. -/
theorem isTyped_default : ({} : Arguments).IsTyped where
  host := rfl
  port := by
    rw [Value.isWritable_int]
    decide +kernel
  basePath := .inr ⟨_, rfl⟩
  scheme := rfl
  logLevel := .inr ⟨"WARNING", by decide, rfl⟩

/-- The entity, the filters, the user and the flags do not matter. -/
theorem IsTyped.congr (h : a.IsTyped) (settings : b.settings = a.settings)
    (logLevel : b.logLevel = a.logLevel) : b.IsTyped := by
  obtain ⟨host, port, basePath, scheme, level⟩ := h
  rw [← settings] at host port basePath scheme
  rw [← logLevel] at level
  exact ⟨host, port, basePath, scheme, level⟩

/-- A value that an option takes keeps the types. -/
theorem IsTyped.setValue {s : Switch} {value : String} (h : a.IsTyped)
    (hb : a.setValue s value = .ok b) : b.IsTyped := by
  cases s with
  | filter =>
    simp only [Arguments.setValue] at hb
    split at hb
    · exact Except.ok.inj hb ▸ h.congr rfl rfl
    · cases hb
  | host => exact Except.ok.inj hb ▸ { h with host := rfl }
  | port =>
    simp only [Arguments.setValue] at hb
    split at hb
    · next n read =>
      exact Except.ok.inj hb ▸ { h with port := Reading.isWritable_of_whole read }
    · cases hb
  | basePath => exact Except.ok.inj hb ▸ { h with basePath := .inr ⟨_, rfl⟩ }
  | timeout =>
    simp only [Arguments.setValue] at hb
    split at hb
    · exact Except.ok.inj hb ▸ { h with }
    · cases hb
  | log =>
    simp only [Arguments.setValue] at hb
    split at hb
    · next chosen =>
      exact Except.ok.inj hb ▸ { h with logLevel := .inr ⟨_, List.contains_iff_mem.1 chosen, rfl⟩ }
    · cases hb
  | _ => exact Except.ok.inj hb ▸ h.congr rfl rfl

/-- So does the empty list. -/
theorem IsTyped.setEmpty (h : a.IsTyped) (s : Switch) : (a.setEmpty s).IsTyped := by
  cases s with
  | host => exact { h with host := rfl }
  | port => exact { h with port := rfl }
  | basePath => exact { h with basePath := .inl rfl }
  | timeout => exact { h with }
  | log => exact { h with logLevel := .inl rfl }
  | _ => exact h.congr rfl rfl

/-- So does a value in the same argument as its option. -/
theorem IsTyped.setJoined {s : Switch} {value : String} (h : a.IsTyped)
    (hb : a.setJoined s value = .ok b) : b.IsTyped := by
  unfold Arguments.setJoined at hb
  split at hb
  · exact Except.ok.inj hb ▸ h.setEmpty s
  · exact h.setValue hb

/-- So does a flag. -/
theorem IsTyped.setFlag {s : Switch} (h : a.IsTyped) (hb : a.setFlag s = .ok b) : b.IsTyped := by
  cases s with
  | help => cases hb
  | _ => exact Except.ok.inj hb ▸ h.congr rfl rfl

end Arguments

/-! ### All arguments -/

/-- Whether an argument is an option that is known. -/
def Token.isOption : Token → Bool
  | .bare _ | .joined _ _ | .equals _ _ => true
  | _ => false

/-- **What is true at the end is true from the start,** if it is carried back over each argument: an
argument that is no option changes nothing but the entity, and an option sets what it is given. -/
theorem take_induction {P : Arguments → List Token → Prop} {p q : Progress} {afterEntity : Bool}
    {ts : List Token} (done : P q.arguments [])
    (apart : ∀ a entity? t ts, t.isOption = false →
      P { a with entity? } ts → P a (t :: ts))
    (value : ∀ a b s text ts, a.setValue s text = .ok b → P b ts →
      P a (.bare s :: .plain text :: ts))
    (flag : ∀ a b s ts, s.takesValue = false → a.setFlag s = .ok b → P b ts → P a (.bare s :: ts))
    (inside : ∀ a b s text ts, a.setJoined s text = .ok b → P b ts →
      P a (.joined s text :: ts) ∧ P a (.equals s text :: ts))
    (h : take p afterEntity ts = .ok q) : P p.arguments ts := by
  fun_induction take p afterEntity ts with
  | case1 =>
    obtain rfl := Except.ok.inj h
    exact done
  | case2 p _ s ts ih =>
    obtain ⟨entity?, same⟩ : ∃ entity?, (p.plain s).arguments = { p.arguments with entity? } := by
      unfold Progress.plain
      split
      · exact ⟨_, rfl⟩
      · exact ⟨p.arguments.entity?, rfl⟩
    exact apart _ entity? _ _ rfl (same ▸ ih h)
  | case3 p afterEntity ts ih =>
    have same : (p.mark afterEntity).arguments = p.arguments := by
      unfold Progress.mark
      split <;> rfl
    exact apart _ p.arguments.entity? _ _ rfl (same ▸ ih h)
  | case4 p _ s ts ih => exact apart _ p.arguments.entity? _ _ rfl (ih h)
  -- an option that takes the next argument as its value
  | case5 p _ s _ text ts ih =>
    obtain ⟨b, hb, h⟩ := bind_eq_ok.1 h
    exact value _ b _ _ _ hb (ih b h)
  -- an option without a value
  | case7 p _ s ts valueless ih =>
    obtain ⟨b, hb, h⟩ := bind_eq_ok.1 h
    exact flag _ b _ _ (by simpa using valueless) hb (ih b h)
  -- an option with a value in the same argument, in its long and its short form
  | case8 p _ s text ts _ ih =>
    obtain ⟨b, hb, h⟩ := bind_eq_ok.1 h
    exact (inside _ b _ _ _ hb (ih b h)).2
  | case10 p _ s text ts _ ih =>
    obtain ⟨b, hb, h⟩ := bind_eq_ok.1 h
    exact (inside _ b _ _ _ hb (ih b h)).1
  | case6 | case9 | case11 | case12 => cases h

namespace Arguments

/-- **Taking arguments keeps it.** -/
theorem IsTyped.take {p q : Progress} {afterEntity : Bool} {ts : List Token}
    (h : p.arguments.IsTyped) (hq : take p afterEntity ts = .ok q) : q.arguments.IsTyped := by
  revert h
  refine take_induction (P := fun a _ => a.IsTyped → q.arguments.IsTyped) id ?_ ?_ ?_ ?_ hq
  · exact fun _ _ _ _ _ kept h => kept (h.congr rfl rfl)
  · exact fun _ _ _ _ _ hb kept h => kept (h.setValue hb)
  · exact fun _ _ _ _ _ hb kept h => kept (h.setFlag hb)
  · exact fun _ _ _ _ _ hb kept => ⟨fun h => kept (h.setJoined hb), fun h => kept (h.setJoined hb)⟩

/-- A command line that is read is taken as a whole. -/
theorem exists_take_of_ofList {argv : List String} (h : ofList argv = .ok a) :
    ∃ ts p, tokens argv = .ok ts ∧ CommandLine.take {} false ts = .ok p ∧ p.arguments = a := by
  obtain ⟨ts, read, h⟩ := bind_eq_ok.1 h
  obtain ⟨p, taken, h⟩ := bind_eq_ok.1 h
  split at h
  · exact ⟨ts, p, read, taken, Except.ok.inj h⟩
  · cases h

/-- **What every command line gives.** -/
theorem isTyped_ofList {argv : List String} (h : ofList argv = .ok a) : a.IsTyped := by
  obtain ⟨ts, p, -, taken, rfl⟩ := exists_take_of_ofList h
  exact isTyped_default.take taken

end Arguments
end CommandLine
end EntityQuery
