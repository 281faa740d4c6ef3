import EntityQuery.Proofs.Logging.Delivery
import EntityQuery.Proofs.Value.Writable

/-!
# Setups that are refused

A setup removes the handlers before it looks at the level, so it does so too if it is refused. What it
leaves of them depends on the setup alone (`Logger.handlers_setup`): the plain handler is put there before
the level is looked at, the one with markup only behind that, and neither if the level cannot be written.
Level, flag, names and decisions stay as they were. So after any history in which setups may fail the
handlers are those that the last setup left, while level and flag are those of the last one that was
accepted (`Logger.isConfigured_passAll`), and a setup that is refused changes nothing only by
coincidence: if the one before it left the same (`Logger.unchanged_iff_of_refused`).
-/

namespace EntityQuery
namespace Logging

open Outcome

/-- Whether the level of a setup is one, and can be written. -/
def Setup.isAccepted (s : Setup) : Bool := (levelOf s.level).isOk && s.level.isWritable

/-- The handlers after a setup, whether it is accepted or not. -/
def Setup.leaves (s : Setup) : List Handler :=
  if !s.level.isWritable then []
  else if s.pretty then (levelOf s.level).toOption.toList.map fun level => .pretty level.toInt
  else [.plain]

/-- The last setup of a history that is accepted. -/
def lastAccepted? (events : List Event) : Option Setup :=
  ((events.filterMap Event.setup?).filter Setup.isAccepted).getLast?

/-- An accepted setup leaves the handler that it chooses. -/
theorem Setup.leaves_of_isAccepted {s : Setup} {level : Level} (h : s.isAccepted = true)
    (hl : levelOf s.level = .ok level) : s.leaves = [s.handler level] := by
  rw [isAccepted, Bool.and_eq_true] at h
  unfold leaves handler
  rw [h.2, hl]
  cases s.pretty <;> rfl

/-- The last accepted setup of a history that goes on. -/
theorem lastAccepted?_append (events : List Event) (e : Event) :
    lastAccepted? (events ++ [e]) = (e.setup?.filter Setup.isAccepted).or (lastAccepted? events) := by
  rw [lastAccepted?, List.filterMap_append, List.filter_append, List.getLast?_append]
  cases he : e.setup? with
  | none => simp [lastAccepted?, he]
  | some s =>
    rw [Option.filter_some]
    cases hs : s.isAccepted <;> simp [lastAccepted?, he, hs]

namespace Logger

/-! ### One setup -/

/-- **What a setup does.** If it is accepted, the logger is as it says, and nothing but the names is
kept. If it is refused, nothing but the handlers is changed. -/
theorem setup_cases (l : Logger) (s : Setup) :
    (s.isAccepted = true ∧ (l.setup s).1 = .ok () ∧ ∃ level, levelOf s.level = .ok level ∧
      (l.setup s).2.1 = ⟨[s.handler level], level, s.propagate, l.known, []⟩) ∨
    (s.isAccepted = false ∧ (∃ e, (l.setup s).1 = .error e) ∧
      (l.setup s).2.1 = { l with handlers := s.leaves }) := by
  have shown := Value.isSome_display? s.level
  unfold setup Setup.isAccepted Setup.leaves
  rw [← shown]
  cases levelOf s.level with
  | error e =>
    refine .inr ⟨rfl, ?_⟩
    cases s.level.display? with
    | none => cases s.pretty <;> exact ⟨⟨e, rfl⟩, rfl⟩
    | some text => cases s.pretty <;> exact ⟨⟨e, rfl⟩, rfl⟩
  | ok level =>
    cases s.level.display? with
    | none => exact .inr ⟨rfl, ⟨_, rfl⟩, rfl⟩
    | some text =>
      simp only [emit_quiet]
      exact .inl ⟨rfl, trivial, level, rfl, rfl⟩

/-- **What is left of the handlers depends on the setup alone.** -/
theorem handlers_setup (l : Logger) (s : Setup) : (l.setup s).2.1.handlers = s.leaves := by
  obtain ⟨accepted, -, level, hl, after⟩ | ⟨-, -, after⟩ := setup_cases l s
  · rw [after, Setup.leaves_of_isAccepted accepted hl]
  · rw [after]

/-- A setup that is refused changes nothing but the handlers: it leaves the plain one if it is plain, and
none if it has markup or its level cannot be written. -/
theorem setup_of_refused {l : Logger} {s : Setup} {e : Error} (h : (l.setup s).1 = .error e) :
    (l.setup s).2.1 = { l with
      handlers := if s.pretty || !s.level.isWritable then [] else [.plain] } := by
  obtain ⟨-, ok, -⟩ | ⟨refused, -, after⟩ := setup_cases l s
  · rw [ok] at h
    cases h
  · rw [after, Setup.leaves]
    rw [Setup.isAccepted] at refused
    cases hw : s.level.isWritable with
    | false => cases s.pretty <;> rfl
    | true =>
      rw [hw, Bool.and_true, isOk_eq_false_iff] at refused
      obtain ⟨e, he⟩ := refused
      rw [he]
      cases s.pretty <;> rfl

/-! ### Histories in which setups may fail -/

/-- The logger after an event, whether it succeeds or not. -/
def pass (l : Logger) : Event → Logger
  | .setup s => (l.setup s).2.1
  | .ask name? => l.ask (resolveName name?)
  | .log name? level message => (l.log ⟨resolveName name?, level, message⟩).2.1

/-- The logger after a history of events that may fail. -/
def passAll (l : Logger) (events : List Event) : Logger := events.foldl pass l

/-- An event that succeeds does what it does in a history that must succeed. -/
theorem pass_of_after {l l' : Logger} {e : Event} (h : after .quiet l e = .ok l') :
    l.pass e = l' := by
  cases e with
  | setup s =>
    obtain ⟨_, -, rfl⟩ := map_eq_ok.1 h
    rfl
  | ask name? => exact Except.ok.inj h
  | log name? level message => exact Except.ok.inj h

/-- **Histories that succeed** are among those that may fail. -/
theorem passAll_of_run {l l' : Logger} {events : List Event} (h : l.run events = .ok l') :
    l.passAll events = l' := by
  induction events generalizing l with
  | nil => exact Except.ok.inj h
  | cons e events ih =>
    rw [run, List.foldlM_cons] at h
    obtain ⟨m, hm, h⟩ := bind_eq_ok.1 h
    rw [passAll, List.foldl_cons, pass_of_after hm]
    exact ih h

/-- The logger has the handlers that the last setup left, and the level and the flag of the last one that
was accepted. -/
structure IsConfigured (l : Logger) (last? accepted? : Option Setup) : Prop where
  handlers : l.handlers = last?.elim [.silent] Setup.leaves
  level : accepted?.elim (.ok (.number 0)) (fun s => levelOf s.level) = .ok l.level
  propagates : l.propagates = accepted?.elim true Setup.propagate

/-- **An event keeps what is configured,** or configures it anew as far as it is a setup. -/
theorem IsConfigured.pass {l : Logger} {last? accepted? : Option Setup}
    (h : l.IsConfigured last? accepted?) (e : Event) :
    (l.pass e).IsConfigured (e.setup?.or last?) ((e.setup?.filter Setup.isAccepted).or accepted?) := by
  cases e with
  | ask name? => exact ⟨h.handlers, h.level, h.propagates⟩
  | log name? level message => exact ⟨h.handlers, h.level, h.propagates⟩
  | setup s =>
    obtain ⟨accepted, -, level, hl, after⟩ | ⟨refused, -, after⟩ := setup_cases l s
    · have last : (Event.setup s).setup?.filter Setup.isAccepted = some s := by
        rw [Event.setup?, Option.filter_some, if_pos accepted]
      rw [last]
      refine ⟨handlers_setup l s, ?_, ?_⟩
      · rw [Logger.pass, after]
        exact hl
      · rw [Logger.pass, after]
        rfl
    · have last : (Event.setup s).setup?.filter Setup.isAccepted = none := by
        rw [Event.setup?, Option.filter_some, refused]
        rfl
      rw [last, Option.none_or]
      refine ⟨handlers_setup l s, ?_, ?_⟩
      · rw [Logger.pass, after]
        exact h.level
      · rw [Logger.pass, after]
        exact h.propagates

/-- **After any history** the handlers are those that the last setup left, accepted or not, and level and
flag are those of the last one that was accepted. -/
theorem isConfigured_passAll (events : List Event) :
    (initial.passAll events).IsConfigured (lastSetup? events) (lastAccepted? events) := by
  induction events using List.reverseRecOn with
  | nil => exact ⟨rfl, rfl, rfl⟩
  | append_singleton events e ih =>
    rw [lastSetup?_append, lastAccepted?_append, passAll, List.foldl_append]
    exact ih.pass e

/-- No setup leaves the handler that the logger had before any. -/
theorem leaves_ne_silent (s : Setup) : s.leaves ≠ [.silent] := by
  unfold Setup.leaves
  split_ifs
  · exact (List.cons_ne_nil _ _).symm
  · cases levelOf s.level with
    | error e => exact (List.cons_ne_nil _ _).symm
    | ok level => exact fun same => Handler.noConfusion (List.singleton_inj.1 same)
  · decide

/-- **A setup that is refused** leaves level, flag, names and decisions, but not the handlers: there is
none behind it if it has markup or its level cannot be written, and else the plain one. So it leaves the
logger as it was if and only if there was a setup before it and the last one, accepted or not, left the
same handlers. -/
theorem unchanged_iff_of_refused {events : List Event} {s : Setup} {e : Error}
    (h : ((initial.passAll events).setup s).1 = .error e) :
    (initial.passAll events).IsConfigured (lastSetup? events) (lastAccepted? events) ∧
    ((initial.passAll events).setup s).2.1 = { initial.passAll events with
      handlers := if s.pretty || !s.level.isWritable then [] else [.plain] } ∧
    (((initial.passAll events).setup s).2.1 = initial.passAll events ↔
      ∃ last, lastSetup? events = some last ∧ last.leaves = s.leaves) := by
  have configured := isConfigured_passAll events
  refine ⟨configured, setup_of_refused h, ?_⟩
  obtain ⟨-, ok, -⟩ | ⟨-, -, after⟩ := setup_cases (initial.passAll events) s
  · rw [ok] at h
    cases h
  have same : { initial.passAll events with handlers := s.leaves } = initial.passAll events ↔
      (initial.passAll events).handlers = s.leaves :=
    ⟨fun same => (congrArg handlers same).symm, fun same => same ▸ rfl⟩
  rw [after, same, configured.handlers]
  cases lastSetup? events with
  | none => simpa using (leaves_ne_silent s).symm
  | some last => simp

/-- A plain setup with the name of no level, behind another plain one. -/
theorem unchanged_after_plain :
    ((initial.passAll [.setup {}]).setup { level := .text "LOUD" }).2.1 =
      initial.passAll [.setup {}] := by
  have refused : ((initial.passAll [.setup {}]).setup { level := .text "LOUD" }).1 = .error _ := rfl
  exact (unchanged_iff_of_refused refused).2.2.2 ⟨{}, rfl, by decide +kernel⟩

/-- **Neither kind of setup** leaves the handlers as they were whenever it is refused. One with markup
takes away the plain handler that was there, and a plain one puts its handler in the place of the one
that keeps the library silent. -/
theorem exists_handlers_changed :
    (¬ ∀ events s e, s.pretty = true → ((initial.passAll events).setup s).1 = .error e →
      ((initial.passAll events).setup s).2.1.handlers = (initial.passAll events).handlers) ∧
    ¬ ∀ events s e, s.pretty = false → ((initial.passAll events).setup s).1 = .error e →
      ((initial.passAll events).setup s).2.1.handlers = (initial.passAll events).handlers := by
  constructor
  · intro every
    have claimed := every [.setup {}] { level := .text "LOUD", pretty := true } _ rfl rfl
    exact absurd claimed (by decide +kernel)
  · intro every
    have claimed := every [] { level := .text "LOUD" } _ rfl rfl
    exact absurd claimed (by decide +kernel)

end Logger

end Logging
end EntityQuery
