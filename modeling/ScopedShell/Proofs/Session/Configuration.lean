import ScopedShell.Proofs.Session.DryRuns
import ScopedShell.Proofs.Session.Records

/-!
# Configurations of logging

A configuration takes three steps: it finds the settings (`Session.askedFor`), it installs a handler
with their format unless there is one (`Logging.formatWith`), and it sets the level that they name.
Each of them can fail. What the steps before it have done stays: settings that have been loaded are
kept, and so is the handler, so a level that is unknown is the only fault that can leave logging
changed (`session_of_failed_configuration`).
-/

namespace ScopedShell

namespace Logging

variable {state : Logging} {settings : Settings}

/-- The format of the handler once settings are applied: that of the handler that is there, or that
of the settings, if it is one. -/
def formatWith (state : Logging) (settings : Settings) : Option Text :=
  state.format.or (Log.format? settings.logFormat)

theorem configure_of_formatWith_eq_none (h : state.formatWith settings = none) :
    state.configure settings = (.error (.invalidFormat settings.logFormat), state) := by
  obtain ⟨hformat, hnew⟩ := Option.or_eq_none_iff.1 h
  simp only [configure, install, hformat, hnew]

theorem configure_of_formatWith_eq_some {format : Text}
    (h : state.formatWith settings = some format) :
    state.configure settings =
      match levelNumber? (Text.upper settings.logLevel) with
      | some number => (.ok (), { state with format := some format, threshold := number })
      | none => (.error (.unknownLevel (Text.upper settings.logLevel)),
          { state with format := some format }) := by
  have hinstall : state.install settings.logFormat = .ok { state with format := some format } := by
    rw [formatWith] at h
    cases hkept : state.format with
    | some old =>
      rw [hkept, Option.some_or] at h
      simp only [install, hkept]
      rw [← h, ← hkept]
    | none =>
      rw [hkept, Option.none_or] at h
      simp only [install, hkept, h]
  cases hlevel : levelNumber? (Text.upper settings.logLevel) with
  | some number => simp only [configure, hinstall, hlevel]
  | none => simp only [configure, hinstall, hlevel]

theorem exists_of_configure_eq_ok (h : (state.configure settings).1 = .ok ()) :
    ∃ format number, state.formatWith settings = some format ∧
      levelNumber? (Text.upper settings.logLevel) = some number ∧
      (state.configure settings).2 = { state with format := some format, threshold := number } := by
  cases hwith : state.formatWith settings with
  | none =>
    rw [configure_of_formatWith_eq_none hwith] at h
    cases h
  | some format =>
    rw [configure_of_formatWith_eq_some hwith] at h ⊢
    cases hlevel : levelNumber? (Text.upper settings.logLevel) with
    | none =>
      rw [hlevel] at h
      cases h
    | some number => exact ⟨format, number, rfl, rfl, rfl⟩

end Logging

namespace Session

variable {s : Session} {entries : Option (List (Data × Data))} {fault : Fault} {settings : Settings}

/-- The settings for which a configuration asks, and the session in which they have been found. -/
def askedFor (s : Session) (entries : Option (List (Data × Data))) :
    Except Fault Settings × Session :=
  match entries with
  | some entries => (Settings.validate entries, s)
  | none => s.currentSettings

theorem configureLogging_of_error (h : (s.askedFor entries).1 = .error fault) :
    s.configureLogging entries = (⟨.error fault, []⟩, s) := by
  cases entries with
  | some entries =>
    change Settings.validate entries = .error fault at h
    simp only [configureLogging, h]
    rfl
  | none =>
    simp only [configureLogging, currentSettings_of_error h]
    rfl

theorem configureLogging_of_ok (h : (s.askedFor entries).1 = .ok settings) :
    s.configureLogging entries =
      (⟨(s.logging.configure settings).1.map fun _ => .logger Log.family
          (s.logging.configure settings).2.threshold (s.logging.configure settings).2.handlerCount,
        []⟩,
      { (s.askedFor entries).2 with logging := (s.logging.configure settings).2 }) := by
  cases entries with
  | some entries =>
    change Settings.validate entries = .ok settings at h
    simp only [configureLogging, h]
    rfl
  | none =>
    have hasked : s.askedFor none = _ := currentSettings_of_ok h
    simp only [configureLogging, currentSettings_of_ok h, hasked]
    rfl

/-- Finding the settings loads them if none are kept, and changes nothing else. -/
theorem askedFor_cases (s : Session) (entries : Option (List (Data × Data))) :
    (s.askedFor entries).2 = s ∨ entries = none ∧ s.settings = none ∧ ∃ settings,
      Settings.load s.files s.environment none = .ok settings ∧
        (s.askedFor entries).2 = { s with settings := some settings } := by
  cases entries with
  | some entries => exact Or.inl rfl
  | none =>
    cases hkept : s.settings with
    | some settings =>
      left
      rw [askedFor, currentSettings, hkept]
    | none =>
      cases hload : Settings.load s.files s.environment none with
      | error fault =>
        left
        simp only [askedFor, currentSettings, hkept, hload]
      | ok settings =>
        refine Or.inr ⟨rfl, rfl, settings, rfl, ?_⟩
        simp only [askedFor, currentSettings, hkept, hload]

theorem logging_askedFor (s : Session) (entries : Option (List (Data × Data))) :
    (s.askedFor entries).2.logging = s.logging := by
  rcases s.askedFor_cases entries with hsame | ⟨_, _, settings, _, hframe⟩
  · rw [hsame]
  · rw [hframe]

/-! ## Handlers stay -/

def newFormat? (s : Session) (entries : Option (List (Data × Data))) : Option Text :=
  match s.logging.format, (s.askedFor entries).1 with
  | none, .ok settings => Log.format? settings.logFormat
  | _, _ => none

theorem newFormat?_eq_some_iff {format : Text} : s.newFormat? entries = some format ↔
    s.logging.format = none ∧ ∃ settings, (s.askedFor entries).1 = .ok settings ∧
      Log.format? settings.logFormat = some format := by
  rw [newFormat?]
  cases s.logging.format <;> cases (s.askedFor entries).1 <;> simp

theorem format_perform {format : Text} (op : Operation) (h : s.logging.format = some format) :
    (perform op s).2.logging.format = some format := by
  cases hop : op.configures with
  | false => rw [logging_perform hop, Logging.format_foldl_observe, h]
  | true =>
    induction op generalizing s with
    | configureLogging entries =>
      change (s.configureLogging entries).2.logging.format = some format
      cases hasked : (s.askedFor entries).1 with
      | error fault => rw [configureLogging_of_error hasked, h]
      | ok settings =>
        have hwith : s.logging.formatWith settings = some format := by
          rw [Logging.formatWith, h, Option.some_or]
        rw [configureLogging_of_ok hasked, Logging.configure_of_formatWith_eq_some hwith]
        dsimp only
        split <;> rfl
    | inThread op ih => exact @ih { s with scopes := [] } h hop
    | _ => cases hop

/-- Once there is a handler, its format is never another one. -/
theorem format_performAll {format : Text} (script : List Operation)
    (h : s.logging.format = some format) :
    (performAll script s).2.logging.format = some format := by
  induction script generalizing s with
  | nil => exact h
  | cons op rest ih => exact ih (format_perform op h)

/-! ## Configurations that fail -/

theorem or_newFormat? (h : (s.askedFor entries).1 = .ok settings) :
    s.logging.format.or (s.newFormat? entries) = s.logging.formatWith settings := by
  rw [Logging.formatWith, newFormat?, h]
  cases s.logging.format <;> rfl

theorem askedFor_of_error (h : (s.askedFor entries).1 = .error fault) :
    (s.askedFor entries).2 = s := by
  cases entries with
  | some entries => rfl
  | none => exact congrArg Prod.snd (currentSettings_of_error h)

/-- A configuration that fails leaves the settings that it has found and the handler that it has
installed, and nothing else. -/
theorem perform_of_failed_configuration
    (h : (perform (.configureLogging entries) s).1.outcome = .error fault) :
    perform (.configureLogging entries) s = (⟨.error fault, []⟩, { (s.askedFor entries).2 with
      logging := { s.logging with format := s.logging.format.or (s.newFormat? entries) } }) := by
  change (s.configureLogging entries).1.outcome = _ at h
  change s.configureLogging entries = _
  cases hasked : (s.askedFor entries).1 with
  | error other =>
    have hnew : s.newFormat? entries = none := by
      rw [newFormat?, hasked]
      cases s.logging.format <;> rfl
    rw [configureLogging_of_error hasked] at h ⊢
    rw [Except.error.inj h, askedFor_of_error hasked, hnew, Option.or_none]
  | ok settings =>
    rw [configureLogging_of_ok hasked] at h ⊢
    rw [or_newFormat? hasked]
    cases hwith : s.logging.formatWith settings with
    | none =>
      rw [Logging.configure_of_formatWith_eq_none hwith] at h ⊢
      rw [← (Option.or_eq_none_iff.1 hwith).1, ← Except.error.inj h]
      rfl
    | some format =>
      rw [Logging.configure_of_formatWith_eq_some hwith] at h ⊢
      cases hlevel : Logging.levelNumber? (Text.upper settings.logLevel) with
      | some number =>
        rw [hlevel] at h
        cases h
      | none =>
        rw [hlevel] at h
        rw [← Except.error.inj h]
        rfl

/-- Only a level that is unknown comes after the handler. -/
theorem fault_of_failed_configuration
    (h : (perform (.configureLogging entries) s).1.outcome = .error fault) {format : Text}
    (hnew : s.newFormat? entries = some format) :
    ∃ settings, (s.askedFor entries).1 = .ok settings ∧
      Log.format? settings.logFormat = some format ∧
      Logging.levelNumber? (Text.upper settings.logLevel) = none ∧
      fault = .unknownLevel (Text.upper settings.logLevel) := by
  obtain ⟨hnone, settings, hasked, hformat⟩ := newFormat?_eq_some_iff.1 hnew
  have hwith : s.logging.formatWith settings = some format := by
    rw [Logging.formatWith, hnone, Option.none_or, hformat]
  change (s.configureLogging entries).1.outcome = _ at h
  rw [configureLogging_of_ok hasked, Logging.configure_of_formatWith_eq_some hwith] at h
  cases hlevel : Logging.levelNumber? (Text.upper settings.logLevel) with
  | some number =>
    rw [hlevel] at h
    cases h
  | none =>
    rw [hlevel] at h
    exact ⟨settings, hasked, hformat, hlevel, (Except.error.inj h).symm⟩

/-- Where a configuration fails without having installed a handler, logging is what it was, and a
script goes on as if only the settings had been asked for, which changes something only if they had
to be loaded. A handler that has been installed stays with its format, whatever comes later; this
happens where there was none and only the level is unknown. -/
theorem session_of_failed_configuration
    (h : (perform (.configureLogging entries) s).1.outcome = .error fault) :
    let found := (s.askedFor entries).2
    let after := (perform (.configureLogging entries) s).2
    (found = s ∨ entries = none ∧ s.settings = none ∧ ∃ settings,
      Settings.load s.files s.environment none = .ok settings ∧
        found = { s with settings := some settings }) ∧
    (s.newFormat? entries = none →
      after.logging = s.logging ∧
      ∀ rest, performAll (.configureLogging entries :: rest) s =
        (⟨.error fault, []⟩ :: (performAll rest found).1, (performAll rest found).2)) ∧
    ∀ format, s.newFormat? entries = some format →
      (∃ settings, (s.askedFor entries).1 = .ok settings ∧
        Log.format? settings.logFormat = some format ∧
        Logging.levelNumber? (Text.upper settings.logLevel) = none ∧
        fault = .unknownLevel (Text.upper settings.logLevel)) ∧
      s.logging.format = none ∧
      after = { found with logging := { s.logging with format := some format } } ∧
      ∀ rest, (performAll rest after).2.logging.format = some format := by
  intro found after
  have hperform := perform_of_failed_configuration h
  have hfound : found.logging = s.logging := s.logging_askedFor entries
  refine ⟨s.askedFor_cases entries, fun hnew => ?_, fun format hnew => ?_⟩
  · rw [hnew, Option.or_none, ← hfound] at hperform
    have hafter : after = found := congrArg Prod.snd hperform
    refine ⟨hafter ▸ hfound, fun rest => ?_⟩
    rw [performAll, hperform]
  · have hnone := (newFormat?_eq_some_iff.1 hnew).1
    have hafter : after = { found with logging := { s.logging with format := some format } } := by
      rw [hnew, hnone, Option.none_or] at hperform
      exact congrArg Prod.snd hperform
    exact ⟨fault_of_failed_configuration h hnew, hnone, hafter,
      fun rest => format_performAll rest (hafter ▸ rfl)⟩

theorem session_of_failed_configuration_with_handler :
    let s : Session := { logging := { threshold := 20, format := some "%(message)s" } }
    let loud : Operation := .configureLogging (some [(.text "log_level", .text "loud")])
    let script : List Operation := [.emit ⟨Log.scopeLogger, .warning, "a"⟩]
    (perform loud s).1.outcome = .error (.unknownLevel "LOUD") ∧
      (perform loud s).2.logging = s.logging ∧
      (performAll (loud :: script) s).2 = (performAll script s).2 := by
  intro s loud script
  have hfails : (perform loud s).1.outcome = .error (.unknownLevel "LOUD") := rfl
  obtain ⟨_, hkept, _⟩ := session_of_failed_configuration hfails
  obtain ⟨hsame, hrest⟩ := hkept rfl
  have hscript := congrArg Prod.snd (hrest script)
  exact ⟨hfails, hsame, hscript⟩

/-- The first configuration fails for its level, and yet later records are written. -/
theorem written_of_unknown_level :
    let s : Session := {}
    let loud : Operation := .configureLogging (some [(.text "log_level", .text "LOUD")])
    let script : List Operation := [.emit ⟨Log.family, .info, "hi"⟩]
    (perform loud s).1.outcome = .error (.unknownLevel "LOUD") ∧
      s.logging.handlerCount = 0 ∧ (perform loud s).2.logging.handlerCount = 1 ∧
      (performAll script s).2.logging.written = [] ∧
      (performAll (loud :: script) s).2.logging.written = "INFO: hi\n".toList :=
  ⟨rfl, rfl, rfl, rfl, rfl⟩

end Session

end ScopedShell
