import EntityQuery.Proofs.Interruption
import EntityQuery.Proofs.Logging.Hierarchy
import EntityQuery.Proofs.Outcome
import Mathlib.Data.List.Induction
import Mathlib.Tactic.SplitIfs

/-!
# Every record is delivered once

A setup that succeeds leaves one handler, its level and its flag, whatever was there before, so after
any history of setups, names and records the logger is as the last setup left it (`isSetUp_of_run`). What
was decided about a name and a level is remembered until the next setup. For a name that is inside
whatever loggers exist, or outside whatever loggers exist, it is what would be decided again
(`IsConsistent`), so the history does not show in what is taken (`takes_of_isSettled`). Therefore a record
of the library's namespace is delivered to the one handler once or not at all, and to the root only behind
it (`log_after_run`). What the handler with markup does not take of it is not shown, fails the call, and
does not reach the root.
-/

namespace EntityQuery
namespace Logging

open Interruption
open Outcome

/-- A name is inside whatever loggers exist, or outside whatever loggers exist. -/
def IsSettled (name : String) (inside : Bool) : Prop := ∀ known, isInside known name = inside

/-! ### Histories -/

/-- Something that happens to the log: a setup, a name that is asked for, a record. -/
inductive Event where
  | setup (s : Setup)
  | ask (name? : Option String)
  | log (name? : Option String) (level : Int) (message : String)

/-- The setup that an event is. -/
def Event.setup? : Event → Option Setup
  | setup s => some s
  | _ => none

/-- The last setup of a history. -/
def lastSetup? (events : List Event) : Option Setup := (events.filterMap Event.setup?).getLast?

namespace Logger

/-- The logger after an event that is shown on a log. A setup must succeed; a record may be refused,
which leaves the logger as it is then. -/
def after (markup : Log) (l : Logger) : Event → Except Error Logger
  | .setup s => (fun _ => (l.setup s markup).2.1) <$> (l.setup s markup).1
  | .ask name? => .ok (l.ask (resolveName name?))
  | .log name? level message => .ok (l.log ⟨resolveName name?, level, message⟩ markup).2.1

/-- The logger after a history. -/
def run (l : Logger) (events : List Event) (markup : Log := .quiet) : Except Error Logger :=
  events.foldlM (after markup) l

/-- The logger is as a setup leaves it, or as it was before any. -/
def IsSetUp (l : Logger) : Option Setup → Prop
  | none => l.handlers = [.silent] ∧ l.level = .number 0 ∧ l.propagates = true
  | some s => ∃ level, levelOf s.level = .ok level ∧
      l.handlers = [s.handler level] ∧ l.level = level ∧ l.propagates = s.propagate

variable {markup : Log}

/-- **A setup that succeeds** leaves nothing of the logger but the names that exist. -/
theorem after_setup_eq_ok {l l' : Logger} {s : Setup} (h : after markup l (.setup s) = .ok l') :
    ∃ level, levelOf s.level = .ok level ∧
      l' = ⟨[s.handler level], level, s.propagate, l.known, []⟩ := by
  obtain ⟨_, ok, rfl⟩ := map_eq_ok.1 h
  cases hl : levelOf s.level with
  | error e =>
    simp only [setup, hl] at ok
    split at ok <;> cases ok
  | ok level =>
    cases hs : s.level.display? with
    | none => simp [setup, hl, hs] at ok
    | some shown => exact ⟨level, rfl, by simp only [setup, hl, hs, emit]⟩

/-- **An event that is no setup** leaves handlers, level and flag. -/
theorem after_of_setup?_eq_none {l l' : Logger} {e : Event} (he : e.setup? = none)
    (h : after markup l e = .ok l') :
    l'.handlers = l.handlers ∧ l'.level = l.level ∧ l'.propagates = l.propagates := by
  cases e with
  | setup s => cases he
  | ask name? =>
    obtain rfl := Except.ok.inj h
    exact ⟨rfl, rfl, rfl⟩
  | log name? level message =>
    obtain rfl := Except.ok.inj h
    exact ⟨rfl, rfl, rfl⟩

/-- A history that goes on has come to a logger before its last event. -/
theorem run_append {l l' : Logger} {events : List Event} {e : Event}
    (h : l.run (events ++ [e]) markup = .ok l') :
    ∃ m, l.run events markup = .ok m ∧ after markup m e = .ok l' := by
  rw [run, List.foldlM_append] at h
  obtain ⟨m, hm, h⟩ := bind_eq_ok.1 h
  rw [List.foldlM_cons] at h
  obtain ⟨n, hn, h⟩ := bind_eq_ok.1 h
  obtain rfl := Except.ok.inj h
  exact ⟨m, hm, hn⟩

/-- The last setup of a history that goes on. -/
theorem lastSetup?_append (events : List Event) (e : Event) :
    lastSetup? (events ++ [e]) = e.setup?.or (lastSetup? events) := by
  cases he : e.setup? <;> simp [lastSetup?, he]

/-- **After any history the logger is as the last setup left it.** -/
theorem isSetUp_of_run {events : List Event} {l : Logger}
    (h : initial.run events markup = .ok l) : l.IsSetUp (lastSetup? events) := by
  induction events using List.reverseRecOn generalizing l with
  | nil =>
    obtain rfl := Except.ok.inj h
    exact ⟨rfl, rfl, rfl⟩
  | append_singleton events e ih =>
    obtain ⟨m, hm, he⟩ := run_append h
    have before := ih hm
    rw [lastSetup?_append]
    cases hs : e.setup? with
    | some s =>
      cases e with
      | setup s' =>
        obtain rfl := Option.some.inj hs
        obtain ⟨level, hl, rfl⟩ := after_setup_eq_ok he
        exact ⟨level, hl, rfl, rfl, rfl⟩
      | _ => cases hs
    | none =>
      obtain ⟨handlers, level, propagates⟩ := after_of_setup?_eq_none hs he
      rw [Option.none_or]
      cases hlast : lastSetup? events with
      | none =>
        rw [hlast] at before
        exact ⟨handlers ▸ before.1, level ▸ before.2.1, propagates ▸ before.2.2⟩
      | some s =>
        rw [hlast] at before
        obtain ⟨n, hl, hh, hn, hp⟩ := before
        exact ⟨n, hl, handlers.trans hh, level.trans hn, propagates.trans hp⟩

/-! ### What is taken -/

/-- The level from which records of a name are taken, if it is settled whether the name is inside. -/
def settledThreshold (l : Logger) (inside : Bool) : Int :=
  if inside then l.effectiveLevel else rootLevel

/-- What is remembered of names that are settled is what would be decided now. -/
def IsConsistent (l : Logger) : Prop :=
  ∀ name level inside b, IsSettled name inside → l.decided.lookup (name, level) = some b →
    b = decide (0 < level ∧ l.settledThreshold inside ≤ level)

/-- **What is taken of a settled name** does not depend on what is remembered. -/
theorem takes_of_isSettled {l : Logger} {name : String} {inside : Bool} (h : l.IsConsistent)
    (settled : IsSettled name inside) (level : Int) :
    l.takes name level = decide (0 < level ∧ l.settledThreshold inside ≤ level) := by
  have at_once : l.threshold name = l.settledThreshold inside := by
    rw [threshold, settled l.known, settledThreshold]
  rw [takes, at_once, Bool.eq_iff_iff]
  cases found : l.decided.lookup (name, level) with
  | none => simp
  | some b => simp [h name level inside b settled found]

/-- A name that is asked for leaves the memory consistent. -/
theorem isConsistent_ask {l : Logger} (h : l.IsConsistent) (name : String) :
    (l.ask name).IsConsistent := h

/-- **A record leaves the memory consistent.** -/
theorem isConsistent_remember {l : Logger} (h : l.IsConsistent) (r : Record) :
    (l.remember r).IsConsistent := by
  intro name level inside b settled found
  rw [remember, List.lookup_cons] at found
  split at found
  · next same =>
    obtain ⟨rfl, rfl⟩ := Prod.mk.inj (eq_of_beq same)
    obtain rfl := Option.some.inj found
    exact takes_of_isSettled h settled r.level
  · exact h name level inside b settled found

/-- **Every event leaves the memory consistent.** -/
theorem isConsistent_after {l l' : Logger} {e : Event} (h : l.IsConsistent)
    (he : after markup l e = .ok l') : l'.IsConsistent := by
  cases e with
  | setup s =>
    obtain ⟨level, -, rfl⟩ := after_setup_eq_ok he
    rintro name n inside b - ⟨⟩
  | ask name? =>
    obtain rfl := Except.ok.inj he
    exact isConsistent_ask h _
  | log name? level message =>
    obtain rfl := Except.ok.inj he
    exact isConsistent_remember (isConsistent_ask h _) _

/-- The memory is consistent after any history. -/
theorem isConsistent_of_run {events : List Event} {l : Logger}
    (h : initial.run events markup = .ok l) : l.IsConsistent := by
  induction events using List.reverseRecOn generalizing l with
  | nil =>
    obtain rfl := Except.ok.inj h
    rintro name level inside b - ⟨⟩
  | append_singleton events e ih =>
    obtain ⟨m, hm, he⟩ := run_append h
    exact isConsistent_after (ih hm) he

/-! ### Where a record arrives -/

/-- The handlers of the library's logger that a record is delivered to. -/
def receivers (l : Logger) (r : Record) : List Handler :=
  if l.takes r.logger r.level && isInside l.known r.logger then l.handlers else []

/-- **A record arrives at the handlers it is delivered to,** and at the root if it is of another name
or the logger propagates. -/
theorem deliver_eq {l : Logger} (h : l.handlers ≠ []) (r : Record) :
    l.deliver r = (l.receivers r).flatMap (·.handle r) ++
      (if l.takes r.logger r.level && (!isInside l.known r.logger || l.propagates) then [.root r]
        else []) := by
  have some_handler : l.handlers.isEmpty = false := by simpa using h
  unfold deliver receivers
  rw [some_handler]
  cases l.takes r.logger r.level <;> cases isInside l.known r.logger <;> simp

end Logger

/-- What the handler of a setup makes of a record. -/
def Setup.output (s : Setup) (r : Record) : Output := if s.pretty then .pretty r else .plain r

/-- The handler with markup has the level of the logger, so it shows what the logger takes. -/
theorem Setup.handle_handler {l : Logger} {s : Setup} {r : Record} (pos : 0 < r.level)
    (h : l.effectiveLevel ≤ r.level) : (s.handler l.level).handle r = [s.output r] := by
  unfold Setup.handler Setup.output
  split
  · have taken : l.level.toInt ≤ r.level := by
      unfold Logger.effectiveLevel at h
      split at h <;> omega
    rw [Handler.handle, if_pos taken]
  · rfl

namespace Logger

/-- Outputs of a logger that is as a setup left it, of a record that is taken. -/
theorem IsSetUp.flatMap_handle {l : Logger} {last? : Option Setup} {r : Record}
    (h : l.IsSetUp last?) (pos : 0 < r.level) (enough : l.effectiveLevel ≤ r.level) :
    l.handlers.flatMap (·.handle r) = (last?.map (·.output r)).toList := by
  cases last? with
  | none =>
    rw [h.1]
    rfl
  | some s =>
    obtain ⟨level, -, handlers, rfl, -⟩ := h
    rw [handlers, List.flatMap_singleton, Setup.handle_handler pos enough]
    rfl

/-- There is one handler. -/
theorem IsSetUp.length_handlers {l : Logger} {last? : Option Setup} (h : l.IsSetUp last?) :
    l.handlers.length = 1 := by
  cases last? with
  | none => rw [h.1]; rfl
  | some s =>
    obtain ⟨level, -, handlers, -⟩ := h
    rw [handlers]
    rfl

/-- Names are asked for without a change of the setup. -/
theorem IsSetUp.ask {l : Logger} {last? : Option Setup} (h : l.IsSetUp last?) (name : String) :
    (l.ask name).IsSetUp last? := by
  cases last? <;> exact h

/-- A handler is there whenever a record is told. -/
theorem IsSetUp.handlers_ask_ne_nil {l : Logger} {last? : Option Setup} (h : l.IsSetUp last?)
    (name : String) : (l.ask name).handlers ≠ [] :=
  List.ne_nil_of_length_pos (by rw [(h.ask name).length_handlers]; decide)

/-- **Outputs that the log takes** all arrive. -/
theorem emit_of_taken (l : Logger) {outputs : List Output}
    (h : ∀ o ∈ outputs, o.refusal? markup = none) :
    l.emit markup outputs = (.ok (), l, outputs) := by
  have taken := cause?_eq_none_iff.2 h
  rw [emit, outcome_of_cause?_eq_none taken, passed_of_cause?_eq_none taken]

/-- The log that takes everything takes all outputs. -/
theorem emit_quiet (l : Logger) (outputs : List Output) :
    l.emit .quiet outputs = (.ok (), l, outputs) :=
  emit_of_taken l fun o _ => by cases o <;> rfl

/-- **An output that the log refuses** does not arrive, nor does anything behind it. -/
theorem emit_of_refused (l : Logger) {o : Output} (rest : List Output) {e : Error}
    (h : o.refusal? markup = some e) : l.emit markup (o :: rest) = (.error e, l, []) := by
  simp [emit, outcome, cause?, passed, h]

/-- What arrives at the root is not refused. -/
theorem refusal?_root (r : Record) : (Output.root r).refusal? markup = none := rfl

/-- Whether a record of the library's namespace is taken at its level. -/
def Suffices (l : Logger) (r : Record) : Prop := 0 < r.level ∧ l.effectiveLevel ≤ r.level

instance (l : Logger) (r : Record) : Decidable (l.Suffices r) :=
  inferInstanceAs (Decidable (_ ∧ _))

/-- **A record of the library's namespace** is delivered to the handler if its level is at least that of
the logger, and to the root behind it. -/
theorem deliver_of_isOwn {l : Logger} {last? : Option Setup} (set : l.IsSetUp last?)
    (consistent : l.IsConsistent) {r : Record} (own : IsOwn r.logger) :
    (l.ask r.logger).receivers r = (if l.Suffices r then l.handlers else []) ∧
    (l.ask r.logger).deliver r = if l.Suffices r then
      (last?.map (·.output r)).toList ++ (if l.propagates then [.root r] else []) else [] := by
  have takes : (l.ask r.logger).takes r.logger r.level =
      decide (0 < r.level ∧ l.effectiveLevel ≤ r.level) :=
    takes_of_isSettled (isConsistent_ask consistent r.logger)
      (fun known => isInside_of_isOwn known own) r.level
  have inside : isInside (l.ask r.logger).known r.logger = true := isInside_of_isOwn _ own
  have receivers : (l.ask r.logger).receivers r = if l.Suffices r then l.handlers else [] := by
    rw [Logger.receivers, takes, inside]
    by_cases taken : 0 < r.level ∧ l.effectiveLevel ≤ r.level <;> simp [Suffices, taken, ask]
  refine ⟨receivers, ?_⟩
  rw [deliver_eq (set.handlers_ask_ne_nil r.logger), receivers, takes, inside]
  by_cases taken : l.Suffices r
  · rw [if_pos taken, set.flatMap_handle taken.1 taken.2, if_pos taken]
    simp [show 0 < r.level ∧ l.effectiveLevel ≤ r.level from taken, ask]
  · simp [taken, show ¬ (0 < r.level ∧ l.effectiveLevel ≤ r.level) from taken]

/-- **A record of the library's namespace arrives** where it is delivered if the log takes it. Otherwise
telling it fails with the error of the log, and it arrives nowhere. -/
theorem log_of_isOwn {l : Logger} {last? : Option Setup} (set : l.IsSetUp last?)
    (consistent : l.IsConsistent) {r : Record} (own : IsOwn r.logger) :
    (l.ask r.logger).receivers r = (if l.Suffices r then l.handlers else []) ∧
    ((l.Suffices r → ∀ s ∈ last?, (s.output r).refusal? markup = none) →
      (l.log r markup).1 = .ok () ∧ (l.log r markup).2.2 = if l.Suffices r then
        (last?.map (·.output r)).toList ++ (if l.propagates then [.root r] else []) else []) ∧
    ∀ s ∈ last?, ∀ e, l.Suffices r → (s.output r).refusal? markup = some e →
      (l.log r markup).1 = .error e ∧ (l.log r markup).2.2 = [] := by
  obtain ⟨receivers, delivered⟩ := deliver_of_isOwn set consistent own
  refine ⟨receivers, fun taken => ?_, fun s last e enough refused => ?_⟩
  · have each : ∀ o ∈ (l.ask r.logger).deliver r, o.refusal? markup = none := by
      rw [delivered]
      intro o mem
      split at mem
      · next enough =>
        obtain mem | mem := List.mem_append.1 mem
        · obtain ⟨s, last, rfl⟩ := Option.map_eq_some_iff.1 (Option.mem_toList.1 mem)
          exact taken enough s last
        · split at mem
          · exact List.mem_singleton.1 mem ▸ refusal?_root r
          · cases mem
      · cases mem
    rw [log, emit_of_taken _ each, delivered]
    exact ⟨rfl, rfl⟩
  · obtain rfl := Option.mem_def.1 last
    rw [log, delivered, if_pos enough]
    show (emit _ markup (s.output r :: _)).1 = _ ∧ (emit _ markup (s.output r :: _)).2.2 = _
    rw [emit_of_refused _ _ refused]
    exact ⟨rfl, rfl⟩

/-- **A record of a foreign name** arrives at the root alone. -/
theorem log_of_isForeign {l : Logger} {last? : Option Setup} (set : l.IsSetUp last?)
    (consistent : l.IsConsistent) {r : Record} (foreign : IsForeign r.logger) :
    (l.ask r.logger).receivers r = [] ∧ (l.log r markup).1 = .ok () ∧
    (l.log r markup).2.2 = if 0 < r.level ∧ rootLevel ≤ r.level then [.root r] else [] := by
  have takes : (l.ask r.logger).takes r.logger r.level =
      decide (0 < r.level ∧ rootLevel ≤ r.level) :=
    takes_of_isSettled (isConsistent_ask consistent r.logger)
      (fun known => isInside_of_isForeign known foreign) r.level
  have outside : isInside (l.ask r.logger).known r.logger = false := isInside_of_isForeign _ foreign
  have receivers : (l.ask r.logger).receivers r = [] := by
    simp [Logger.receivers, outside]
  have delivered : (l.ask r.logger).deliver r =
      if 0 < r.level ∧ rootLevel ≤ r.level then [.root r] else [] := by
    rw [deliver_eq (set.handlers_ask_ne_nil r.logger), receivers, takes, outside]
    by_cases taken : 0 < r.level ∧ rootLevel ≤ r.level <;> simp [taken]
  have each : ∀ o ∈ (l.ask r.logger).deliver r, o.refusal? markup = none := by
    rw [delivered]
    intro o mem
    split at mem
    · exact List.mem_singleton.1 mem ▸ refusal?_root r
    · cases mem
  rw [log, emit_of_taken _ each]
  exact ⟨receivers, rfl, delivered⟩

/-- A handler sends nothing to the root. -/
theorem filterMap_root?_handle (h : Handler) (r : Record) :
    (h.handle r).filterMap Output.root? = [] := by
  cases h with
  | silent => rfl
  | pretty threshold =>
    rw [Handler.handle]
    split <;> rfl
  | plain => rfl

/-- **No record arrives twice,** whatever its name. -/
theorem log_at_most_once {l : Logger} {last? : Option Setup} (set : l.IsSetUp last?) (r : Record) :
    ((l.ask r.logger).receivers r).length ≤ 1 ∧
      ((l.log r markup).2.2.filterMap Output.root?).length ≤ 1 := by
  obtain ⟨h, one⟩ := List.length_eq_one_iff.1 (set.ask r.logger).length_handlers
  have few : (l.ask r.logger).receivers r = [] ∨ (l.ask r.logger).receivers r = [h] := by
    rw [receivers, one]
    split
    · exact .inr rfl
    · exact .inl rfl
  have no_root : (((l.ask r.logger).receivers r).flatMap (·.handle r)).filterMap Output.root? = [] := by
    rcases few with few | few
    · rw [few]
      rfl
    · rw [few, List.flatMap_singleton, filterMap_root?_handle]
  have roots : (((l.ask r.logger).deliver r).filterMap Output.root?).length ≤ 1 := by
    rw [deliver_eq (set.handlers_ask_ne_nil r.logger), List.filterMap_append, no_root]
    split <;> simp [Output.root?]
  refine ⟨by rcases few with few | few <;> simp [few], ?_⟩
  -- what arrives is the front of what is delivered
  have front := (List.takeWhile_prefix (l := (l.ask r.logger).deliver r)
    fun o => (o.refusal? markup).isNone).filterMap Output.root?
  exact front.length_le.trans roots

/-- **Every record is delivered at most once, and the right ones are.** After any history of setups that
succeed, of names that are asked for and of records, the logger has the one handler, the level and the
flag of the last setup. A record of its name or of a name that goes on from it with one dot is delivered
to the handler if its level is above 0 and at least that of the logger, or that of the root if the level
is 0. It is then shown once, unless nothing was set up, and reaches the root once if the logger
propagates; but if the log that it is shown on refuses its markup, telling it fails and it arrives
nowhere. A record of a foreign name is never delivered to the handler. No record is delivered twice. -/
theorem log_after_run {markup : Log} {events : List Event} {l : Logger}
    (h : initial.run events markup = .ok l) :
    l.IsSetUp (lastSetup? events) ∧
    (∀ r : Record, IsOwn r.logger →
      (l.ask r.logger).receivers r = (if l.Suffices r then l.handlers else []) ∧
      ((l.Suffices r → ∀ s ∈ lastSetup? events, (s.output r).refusal? markup = none) →
        (l.log r markup).1 = .ok () ∧ (l.log r markup).2.2 = if l.Suffices r then
          ((lastSetup? events).map (·.output r)).toList ++ (if l.propagates then [.root r] else [])
          else []) ∧
      ∀ s ∈ lastSetup? events, ∀ e, l.Suffices r → (s.output r).refusal? markup = some e →
        (l.log r markup).1 = .error e ∧ (l.log r markup).2.2 = []) ∧
    (∀ r : Record, IsForeign r.logger → (l.ask r.logger).receivers r = [] ∧
      (l.log r markup).1 = .ok () ∧
      (l.log r markup).2.2 = if 0 < r.level ∧ rootLevel ≤ r.level then [.root r] else []) ∧
    ∀ r : Record, ((l.ask r.logger).receivers r).length ≤ 1 ∧
      ((l.log r markup).2.2.filterMap Output.root?).length ≤ 1 :=
  have set := isSetUp_of_run h
  have consistent := isConsistent_of_run h
  ⟨set, fun _ own => log_of_isOwn set consistent own,
    fun _ foreign => log_of_isForeign set consistent foreign, log_at_most_once set⟩

/-- A second setup with markup, with a record before it that was too low for the first one. -/
theorem log_after_two_setups : ∃ l,
    initial.run [.setup {}, .log (some "entitysearch.comm") debug "a",
      .setup { level := .text "DEBUG", pretty := true, propagate := true }] = .ok l ∧
    (l.log ⟨"entitysearch.comm", debug, "b"⟩).2.2 =
      [.pretty ⟨"entitysearch.comm", debug, "b"⟩, .root ⟨"entitysearch.comm", debug, "b"⟩] := by
  have history : initial.run [.setup {}, .log (some "entitysearch.comm") debug "a",
      .setup { level := .text "DEBUG", pretty := true, propagate := true }] = .ok _ := rfl
  have arrived := ((log_after_run history).2.1 ⟨"entitysearch.comm", debug, "b"⟩
    (.inr ⟨"comm".toList, rfl, by decide⟩)).2.1
  exact ⟨_, history, (arrived fun _ s last => by cases last; rfl).2⟩

/-- **Neither condition can be left out.** A name with two dots behind the name of the library's logger
has the root for its parent, so its records are not delivered to the handler, however high their level.
And a record without a level is not, even if the logger has a level below 0. -/
theorem not_every_sufficient_record :
    (¬ ∀ events l, initial.run events = .ok l → ∀ r : Record, packageFront <+: r.logger.toList →
      0 < r.level → l.effectiveLevel ≤ r.level → (l.ask r.logger).receivers r = l.handlers) ∧
    ¬ ∀ events l, initial.run events = .ok l → ∀ r : Record, IsOwn r.logger →
      l.effectiveLevel ≤ r.level → (l.ask r.logger).receivers r = l.handlers := by
  constructor
  · intro every
    have claimed := every [.setup {}] _ rfl ⟨"entitysearch..a", error, "m"⟩ (by decide) (by decide)
      (by decide)
    exact absurd claimed (by decide +kernel)
  · intro every
    have shown : (Value.int (-1)).display? = some "-1" := by decide +kernel
    have below : initial.run [.setup { level := .int (-1) }] =
        .ok ⟨[.plain], .number (-1), false, [], []⟩ := by
      simp only [run, List.foldlM_cons, after, setup, levelOf, shown]
      rfl
    have claimed := every _ _ below ⟨packageName, 0, "n"⟩ (.inl rfl) (by decide)
    exact absurd claimed (by decide +kernel)

end Logger

end Logging
end EntityQuery
