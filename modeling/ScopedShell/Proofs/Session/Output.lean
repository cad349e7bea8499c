import ScopedShell.Proofs.Session.Configuration
import ScopedShell.Proofs.Session.KeptSettings

/-!
# Output of scripts

What a script does to logging is a sequence of configurations and records (`Session.history`). Of
these the output is computed with what came before carried along: a record is shown if there has
been a configuration and the record reaches the level of the latest one (`Logging.shownAfter`). The
state of logging reflects the sequence (`Logging.Reflects`), which every configuration that succeeds
and every record preserves, so where no configuration fails the output of a whole script is known
(`output_of_script`).
-/

namespace ScopedShell

namespace Logging

inductive Occurrence
  | configured (settings : Settings)
  | logged (record : Log.Record)

namespace Occurrence

def settings? : Occurrence → Option Settings
  | configured settings => some settings
  | logged _ => none

def record? : Occurrence → Option Log.Record
  | configured _ => none
  | logged record => some record

end Occurrence

def configurations (happened : List Occurrence) : List Settings :=
  happened.filterMap Occurrence.settings?

/-- The level in force: that of the latest configuration, and before there is one that of a logger
without a level. -/
def levelAfter (happened : List Occurrence) : Nat :=
  ((configurations happened).getLast?.bind fun latest =>
    levelNumber? (Text.upper latest.logLevel)).getD 0

/-- A record reaches a level. At level zero it is the root logger that lets it through or not. -/
def Reaches (root level : Nat) (r : Log.Record) : Prop :=
  if level = 0 then root ≤ r.level.number else level ≤ r.level.number

def IsShown (root : Nat) (before : List Occurrence) (r : Log.Record) : Prop :=
  configurations before ≠ [] ∧ Log.inFamily r.logger = true ∧ Reaches root (levelAfter before) r

instance (root level : Nat) (r : Log.Record) : Decidable (Reaches root level r) :=
  inferInstanceAs (Decidable (if level = 0 then _ else _))

instance (root : Nat) (before : List Occurrence) (r : Log.Record) :
    Decidable (IsShown root before r) :=
  inferInstanceAs (Decidable (_ ∧ _ ∧ _))

def shownAfter (root : Nat) : List Occurrence → List Occurrence → List Log.Record
  | _, [] => []
  | before, .configured settings :: rest => shownAfter root (before ++ [.configured settings]) rest
  | before, .logged r :: rest =>
    (if IsShown root before r then [r] else []) ++ shownAfter root (before ++ [.logged r]) rest

/-- The state of logging after something has happened: the format is that of the first
configuration, the level that of the latest one, and what is shown has been written in that
format. -/
structure Reflects (root : Nat) (happened : List Occurrence) (state : Logging) : Prop where
  rootThreshold_eq : state.rootThreshold = root
  format_eq : state.format =
    (configurations happened).head?.bind fun first => Log.format? first.logFormat
  isSome_format_iff : state.format.isSome = true ↔ configurations happened ≠ []
  level_eq : ∀ latest, (configurations happened).getLast? = some latest →
    levelNumber? (Text.upper latest.logLevel) = some state.threshold
  threshold_eq : state.threshold = levelAfter happened
  written_eq : state.written =
    (shownAfter root [] happened).flatMap fun r => r.line (state.format.getD [])

variable {root : Nat} {happened before : List Occurrence} {state : Logging} {settings : Settings}
  {r : Log.Record}

theorem configurations_append (front rest : List Occurrence) :
    configurations (front ++ rest) = configurations front ++ configurations rest :=
  List.filterMap_append

theorem reaches_iff (state : Logging) {r : Log.Record} (h : Log.inFamily r.logger = true) :
    Reaches state.rootThreshold state.threshold r ↔
      state.thresholdOf r.logger ≤ r.level.number := by
  rw [Reaches, thresholdOf]
  by_cases hzero : state.threshold = 0
  · rw [if_pos hzero, if_neg fun hown => hown.2 hzero]
  · rw [if_neg hzero, if_pos ⟨h, hzero⟩]

/-! ## What is shown -/

theorem shownAfter_append (root : Nat) (before front rest : List Occurrence) :
    shownAfter root before (front ++ rest) =
      shownAfter root before front ++ shownAfter root (before ++ front) rest := by
  induction front generalizing before with
  | nil => rw [List.append_nil]; rfl
  | cons first front ih =>
    rw [List.append_cons before first front, List.cons_append]
    cases first with
    | configured settings => exact ih _
    | logged r =>
      rw [shownAfter, shownAfter, ih]
      exact (List.append_assoc _ _ _).symm

theorem shownAfter_sublist (root : Nat) (before happened : List Occurrence) :
    (shownAfter root before happened).Sublist (happened.filterMap Occurrence.record?) := by
  induction happened generalizing before with
  | nil => exact List.Sublist.refl []
  | cons first rest ih =>
    cases first with
    | configured settings => exact ih _
    | logged r =>
      rw [shownAfter]
      split
      · exact (ih _).cons_cons r
      · exact (ih _).cons r

theorem inFamily_of_mem_shownAfter (h : r ∈ shownAfter root before happened) :
    Log.inFamily r.logger = true := by
  induction happened generalizing before with
  | nil => cases h
  | cons first rest ih =>
    cases first with
    | configured settings => exact ih h
    | logged other =>
      rw [shownAfter, List.mem_append] at h
      rcases h with h | h
      · split at h
        · next hshown =>
          rw [List.mem_singleton.1 h]
          exact hshown.2.1
        · cases h
      · exact ih h

theorem shownAfter_eq_nil (h : configurations (before ++ happened) = []) :
    shownAfter root before happened = [] := by
  induction happened generalizing before with
  | nil => rfl
  | cons first rest ih =>
    rw [List.append_cons] at h
    cases first with
    | configured settings => exact ih h
    | logged r =>
      have hbefore : configurations before = [] := by
        rw [configurations_append, configurations_append] at h
        simp_all
      rw [shownAfter, if_neg fun hshown => hshown.1 hbefore, ih h]
      rfl

/-! ## One step -/

theorem written_observe (state : Logging) (r : Log.Record) : (state.observe r).written =
    state.written ++ if state.format.isSome = true ∧ Log.inFamily r.logger = true ∧
      state.thresholdOf r.logger ≤ r.level.number then r.line (state.format.getD []) else [] := by
  rw [observe, passes, handled]
  cases state.format <;> cases Log.inFamily r.logger <;>
    by_cases hlevel : state.thresholdOf r.logger ≤ r.level.number <;> simp [hlevel]

theorem Reflects.init (root : Nat) : Reflects root [] { rootThreshold := root } where
  rootThreshold_eq := rfl
  format_eq := rfl
  isSome_format_iff := ⟨nofun, fun hne => absurd rfl hne⟩
  level_eq := nofun
  threshold_eq := rfl
  written_eq := rfl

theorem Reflects.logged (h : Reflects root happened state) (r : Log.Record) :
    Reflects root (happened ++ [.logged r]) (state.observe r) := by
  have hconfigurations : configurations (happened ++ [.logged r]) = configurations happened := by
    rw [configurations_append]
    exact List.append_nil _
  have hformat : (state.observe r).format = state.format := format_foldl_observe state [r]
  have hthreshold := state.threshold_observe r
  refine ⟨?_, ?_, ?_, ?_, ?_, ?_⟩
  · rw [state.rootThreshold_observe r, h.rootThreshold_eq]
  · rw [hformat, hconfigurations, h.format_eq]
  · rw [hformat, hconfigurations, h.isSome_format_iff]
  · rw [hthreshold, hconfigurations]
    exact h.level_eq
  · rw [hthreshold, h.threshold_eq, levelAfter, levelAfter, hconfigurations]
  · have hshown : (state.format.isSome = true ∧ Log.inFamily r.logger = true ∧
        state.thresholdOf r.logger ≤ r.level.number) ↔ IsShown root happened r := by
      rw [IsShown, ← h.threshold_eq, ← h.rootThreshold_eq, h.isSome_format_iff]
      exact and_congr_right fun _ => and_congr_right fun hfamily => (state.reaches_iff hfamily).symm
    rw [hformat, written_observe, h.written_eq, shownAfter_append, List.flatMap_append]
    simp only [hshown, shownAfter, List.nil_append, List.append_nil]
    split <;> simp

theorem Reflects.exists_format (h : Reflects root happened state) {first : Settings}
    (hfirst : (configurations happened).head? = some first) :
    ∃ format, Log.format? first.logFormat = some format ∧ state.format = some format := by
  have hsome := h.isSome_format_iff.2 (List.ne_nil_of_mem (List.mem_of_head? hfirst))
  obtain ⟨format, hformat⟩ := Option.isSome_iff_exists.1 hsome
  have hnew := h.format_eq
  rw [hfirst, Option.bind_some, hformat] at hnew
  exact ⟨format, hnew.symm, hformat⟩

theorem Reflects.configured (h : Reflects root happened state)
    (hok : (state.configure settings).1 = .ok ()) :
    Reflects root (happened ++ [.configured settings]) (state.configure settings).2 := by
  obtain ⟨format, number, hwith, hlevel, hafter⟩ := exists_of_configure_eq_ok hok
  have hconfigurations : configurations (happened ++ [.configured settings]) =
      configurations happened ++ [settings] := configurations_append _ _
  have hlast : (configurations happened ++ [settings]).getLast? = some settings :=
    List.getLast?_concat
  rw [hafter]
  refine ⟨h.rootThreshold_eq, ?_, ?_, ?_, ?_, ?_⟩
  · -- the format of the handler that is there comes first in both
    rw [hconfigurations, List.head?_append, ← hwith, formatWith, h.format_eq]
    cases hhead : (configurations happened).head? with
    | none => rfl
    | some first =>
      obtain ⟨old, hold, _⟩ := h.exists_format hhead
      rw [Option.some_or, Option.bind_some, hold]
      rfl
  · simp [hconfigurations]
  · intro latest hlatest
    rw [hconfigurations, hlast] at hlatest
    rw [← Option.some.inj hlatest, hlevel]
  · rw [levelAfter, hconfigurations, hlast, Option.bind_some, hlevel]
    rfl
  · have hshown : shownAfter root [] (happened ++ [.configured settings]) =
        shownAfter root [] happened := by
      rw [shownAfter_append]
      exact List.append_nil _
    change state.written = _
    rw [hshown, h.written_eq]
    cases hformat : state.format with
    | none =>
      have hnil : configurations happened = [] := by
        by_contra hne
        have hsome := h.isSome_format_iff.2 hne
        rw [hformat] at hsome
        cases hsome
      rw [@shownAfter_eq_nil root happened [] hnil]
      rfl
    | some old =>
      rw [formatWith, hformat, Option.some_or] at hwith
      rw [Option.some.inj hwith]

end Logging

namespace Session

/-- A configuration fails in the operation, in whatever thread. -/
def failsToConfigure : Operation → Session → Prop
  | .configureLogging entries, s =>
    ∃ fault, (perform (.configureLogging entries) s).1.outcome = .error fault
  | .inThread op, s => failsToConfigure op { s with scopes := [] }
  | _, _ => False

def configured? : Operation → Session → Option Settings
  | .configureLogging entries, s => (s.askedFor entries).1.toOption
  | .inThread op, s => configured? op { s with scopes := [] }
  | _, _ => none

def occurrencesOf (op : Operation) (s : Session) : List Logging.Occurrence :=
  if op.configures then (configured? op s).toList.map .configured
  else (recordsOf op s).map .logged

def history (script : List Operation) (start : Session) : List Logging.Occurrence :=
  (past script start).flatMap fun done => occurrencesOf done.1 done.2

variable {root : Nat} {s : Session} {happened : List Logging.Occurrence} {op : Operation}

theorem reflects_foldl {state : Logging} (h : Logging.Reflects root happened state)
    (records : List Log.Record) :
    Logging.Reflects root (happened ++ records.map .logged)
      (records.foldl Logging.observe state) := by
  induction records generalizing happened state with
  | nil => simpa using h
  | cons r records ih =>
    rw [List.map_cons, List.append_cons]
    exact ih (h.logged r)

theorem reflects_perform (h : Logging.Reflects root happened s.logging)
    (hop : ¬ failsToConfigure op s) :
    Logging.Reflects root (happened ++ occurrencesOf op s) (perform op s).2.logging := by
  cases hconfigures : op.configures with
  | false =>
    rw [occurrencesOf, if_neg (by simp [hconfigures]), logging_perform hconfigures]
    exact reflects_foldl h _
  | true =>
    rw [occurrencesOf, if_pos hconfigures]
    induction op generalizing s with
    | configureLogging entries =>
      change Logging.Reflects root
        (happened ++ (s.askedFor entries).1.toOption.toList.map .configured)
        (s.configureLogging entries).2.logging
      cases hasked : (s.askedFor entries).1 with
      | error fault =>
        exact (hop ⟨fault, congrArg (·.1.outcome) (configureLogging_of_error hasked)⟩).elim
      | ok settings =>
        rw [configureLogging_of_ok hasked]
        refine h.configured ?_
        cases hout : (s.logging.configure settings).1 with
        | ok => rfl
        | error fault =>
          refine (hop ⟨fault, ?_⟩).elim
          change (s.configureLogging entries).1.outcome = _
          rw [configureLogging_of_ok hasked, hout]
          rfl
    | inThread op ih => exact @ih { s with scopes := [] } h hop hconfigures
    | _ => cases hconfigures

theorem history_append_singleton (front : List Operation) (op : Operation) (start : Session) :
    history (front ++ [op]) start =
      history front start ++ occurrencesOf op (performAll front start).2 := by
  rw [history, past_append_singleton, List.flatMap_append]
  exact congrArg _ (List.append_nil _)

theorem reflects_performAll {start : Session} (hstart : start.logging = { rootThreshold := root })
    {script : List Operation}
    (hscript : ∀ done ∈ past script start, ¬ failsToConfigure done.1 done.2) :
    Logging.Reflects root (history script start) (performAll script start).2.logging := by
  induction script using List.reverseRecOn with
  | nil => exact hstart ▸ Logging.Reflects.init root
  | append_singleton front op ih =>
    rw [past_append_singleton, List.forall_mem_append] at hscript
    rw [history_append_singleton, performAll_append]
    exact reflects_perform (ih hscript.1) (hscript.2 _ List.mem_cons_self)

/-- Where no configuration fails, there is a handler exactly after the first one, with its format,
the level is that of the latest one, and what has been written is made of the lines of the records
that were shown, each of them once and in order. Records of the modules are shown by the same rule
as others of the family, and those outside the family never are. -/
theorem output_of_script {start : Session} (hstart : start.logging = { rootThreshold := root })
    {script : List Operation}
    (hscript : ∀ done ∈ past script start, ¬ failsToConfigure done.1 done.2) :
    let happened := history script start
    let shown := Logging.shownAfter root [] happened
    let after := (performAll script start).2.logging
    (Logging.configurations happened = [] →
      after.handlerCount = 0 ∧ after.threshold = 0 ∧ after.written = []) ∧
    (∀ first, (Logging.configurations happened).head? = some first →
      after.handlerCount = 1 ∧ ∃ format, Log.format? first.logFormat = some format ∧
        after.format = some format ∧ after.written = shown.flatMap fun r => r.line format) ∧
    (∀ latest, (Logging.configurations happened).getLast? = some latest →
      Logging.levelNumber? (Text.upper latest.logLevel) = some after.threshold) ∧
    shown.Sublist (happened.filterMap Logging.Occurrence.record?) ∧
    (∀ r ∈ shown, Log.inFamily r.logger = true) ∧
    (∀ logger ∈ Log.moduleLoggers, Log.inFamily logger = true) ∧
    ∀ done ∈ past script start, done.1.configures = false →
      ∀ r ∈ recordsOf done.1 done.2, r.logger ∈ done.1.loggers := by
  intro happened shown after
  have hreflects : Logging.Reflects root happened after := reflects_performAll hstart hscript
  refine ⟨fun hnone => ?_, fun first hfirst => ?_, hreflects.level_eq,
    Logging.shownAfter_sublist root [] happened, fun r hr => Logging.inFamily_of_mem_shownAfter hr,
    Log.inFamily_of_mem_moduleLoggers, fun done _ hop r hr => logger_mem_of_mem_recordsOf hop hr⟩
  · have hformat : after.format = none := by rw [hreflects.format_eq, hnone]; rfl
    refine ⟨?_, ?_, ?_⟩
    · rw [Logging.handlerCount, hformat]
      rfl
    · rw [hreflects.threshold_eq, Logging.levelAfter, hnone]
      rfl
    · rw [hreflects.written_eq, @Logging.shownAfter_eq_nil root happened [] hnone]
      rfl
  · obtain ⟨format, hnew, hformat⟩ := hreflects.exists_format hfirst
    refine ⟨by rw [Logging.handlerCount, hformat]; rfl, format, hnew, hformat, ?_⟩
    rw [hreflects.written_eq, hformat]
    rfl

/-- After the second configuration the root logger decides, and what it lets through is written in
the format of the first. -/
theorem output_of_script_of_two_configurations :
    let start : Session := { logging := { rootThreshold := 30 } }
    let configure (level format : Text) : Operation := .configureLogging (some
      [(.text "log_level", .text level), (.text "log_format", .text format)])
    let script : List Operation := [.enter (.spelled "a"), configure "debug" "%(message)s",
      .inThread (.enter (.spelled "b")), configure "notset" "%(name)s", .enter (.spelled "c"),
      .emit ⟨Log.family, .critical, "d"⟩, .emit ⟨"other", .critical, "e"⟩]
    let after := (performAll script start).2.logging
    start.logging = { rootThreshold := 30 } ∧
      (∀ done ∈ past script start, ¬ failsToConfigure done.1 done.2) ∧
      after.handlerCount = 1 ∧ after.threshold = 0 ∧ after.written = "cwd -> /b\nd\n".toList := by
  intro start configure script after
  have hscript : ∀ done ∈ past script start, ¬ failsToConfigure done.1 done.2 := by
    simp only [script, configure, past, List.forall_mem_cons, failsToConfigure, not_false_eq_true,
      true_and, List.not_mem_nil, false_implies, implies_true, and_true]
    refine ⟨?_, ?_⟩
    · rintro ⟨fault, hfault⟩
      cases hfault
    · rintro ⟨fault, hfault⟩
      cases hfault
  have hafter : (performAll script start).2.logging = after := rfl
  have hconfigurations : Logging.configurations (history script start) =
      [{ logLevel := "debug", logFormat := "%(message)s" },
        { logLevel := "notset", logFormat := "%(name)s" }] := rfl
  have hshown : (Logging.shownAfter 30 [] (history script start)).flatMap
      (fun r => r.line "%(message)s") = "cwd -> /b\nd\n".toList := by
    decide +kernel
  obtain ⟨_, hfirst, hlatest, _⟩ := @output_of_script 30 start rfl script hscript
  rw [hconfigurations] at hfirst hlatest
  obtain ⟨hcount, format, hnew, _, hwritten⟩ := hfirst _ rfl
  obtain rfl : ("%(message)s" : Text) = format := Option.some.inj hnew
  have hthreshold : some 0 = some after.threshold := hlatest _ rfl
  rw [hafter] at hcount hwritten
  exact ⟨rfl, hscript, hcount, (Option.some.inj hthreshold).symm, hwritten.trans hshown⟩

end Session

end ScopedShell
