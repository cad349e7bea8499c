import Mathlib.Data.List.DropRight
import ScopedShell.Proofs.Session.DryRuns
import ScopedShell.Proofs.Session.Growth

/-!
# Settings that are kept

An operation that asks for the settings in force does what it does when these are given to it
(`perform_of_given`). In force are those that are kept; if none are, they are loaded from what is
there at that moment, and kept. Nothing else keeps settings, and only a reset forgets them
(`settings_perform`), so the settings that are kept at a point of a script are those that were
loaded first since the last reset (`firstLoaded`), whatever happened to the files and the
environment in between.
-/

namespace ScopedShell

namespace Settings

/-- The mapping that spells the settings out. -/
def entries (settings : Settings) : List (Data × Data) :=
  [(.text dryRunField, .flag settings.dryRun), (.text logLevelField, .text settings.logLevel),
    (.text logFormatField, .text settings.logFormat)]

theorem validate_entries (settings : Settings) : validate settings.entries = .ok settings := rfl

end Settings

namespace Operation

def forgetsSettings : Operation → Bool
  | resetSettings => true
  | inThread op => op.forgetsSettings
  | _ => false

/-- The operation with the settings spelled out for which it asks, if it asks for any. A command
asks for them only if its words are known. -/
def given? : Operation → Option (Settings → Operation)
  | currentSettings => some fun settings => validateSettings settings.entries
  | run request =>
    match request.source.arguments, request.dryRun with
    | .ok _, none => some fun settings => run { request with dryRun := some settings.dryRun }
    | _, _ => none
  | configureLogging none => some fun settings => configureLogging (some settings.entries)
  | inThread op => op.given?.map fun given settings => inThread (given settings)
  | _ => none

/-- The outcome of the operation where the settings cannot be had; a thread replies with it. -/
def failing : Operation → Fault → Except Fault Value
  | inThread op, fault => .ok (.reply (op.failing fault) [])
  | _, fault => .error fault

def setsVariable : Operation → Bool
  | setVariable _ _ => true
  | inThread op => op.setsVariable
  | _ => false

end Operation

namespace Session

variable {s : Session}

/-! ## Asking for the settings in force -/

theorem outcome_currentSettings (s : Session) : s.currentSettings.1 =
    match s.settings with
    | some settings => .ok settings
    | none => Settings.load s.files s.environment none := by
  rw [currentSettings]
  cases s.settings with
  | some settings => rfl
  | none => cases Settings.load s.files s.environment none <;> rfl

theorem outcome_currentSettings_congr {t : Session} (hsettings : t.settings = s.settings)
    (hfiles : t.files = s.files) (henvironment : t.environment = s.environment) :
    t.currentSettings.1 = s.currentSettings.1 := by
  rw [outcome_currentSettings, outcome_currentSettings, hsettings, hfiles, henvironment]

theorem given?_run_eq_some_iff {request : CommandRequest} {given : Settings → Operation} :
    (Operation.run request).given? = some given ↔
      (∃ arguments, request.source.arguments = .ok arguments) ∧ request.dryRun = none ∧
        given = fun settings => .run { request with dryRun := some settings.dryRun } := by
  rw [Operation.given?]
  cases request.source.arguments with
  | error fault => simp
  | ok arguments => cases request.dryRun with
    | some dryRun => simp
    | none => simp [eq_comm]

/-- Where settings are in force, an operation that asks for them does what it does when they are
given to it, and they are kept. -/
theorem perform_of_given {op : Operation} {given : Settings → Operation}
    (hop : op.given? = some given) {settings : Settings} (h : s.currentSettings.1 = .ok settings) :
    perform op s = ((perform (given settings) s).1,
      { (perform (given settings) s).2 with settings := some settings }) := by
  induction op generalizing s given with
  | currentSettings =>
    obtain rfl := Option.some.inj hop
    rw [perform, currentSettings_of_ok h]
    rfl
  | run request =>
    obtain ⟨⟨arguments, harguments⟩, hdryRun, rfl⟩ := given?_run_eq_some_iff.1 hop
    exact run_of_current harguments hdryRun h
  | configureLogging entries =>
    cases entries with
    | some entries => cases hop
    | none =>
      obtain rfl := Option.some.inj hop
      change s.configureLogging none = ((s.configureLogging (some settings.entries)).1, _)
      simp only [configureLogging, currentSettings_of_ok h, Settings.validate_entries]
      rfl
  | inThread op ih =>
    obtain ⟨inner, hinner, rfl⟩ := Option.map_eq_some_iff.1 hop
    have hfresh := @ih { s with scopes := [] } inner hinner
      (h ▸ outcome_currentSettings_congr rfl rfl rfl)
    simp only [perform, hfresh]
    rfl
  | _ => cases hop

/-- Where no settings are in force, an operation that asks for them fails and changes nothing. -/
theorem perform_of_unavailable {op : Operation} {given : Settings → Operation}
    (hop : op.given? = some given) {fault : Fault} (h : s.currentSettings.1 = .error fault) :
    perform op s = (⟨op.failing fault, []⟩, s) := by
  induction op generalizing s given with
  | currentSettings =>
    rw [perform, currentSettings_of_error h]
    rfl
  | run request =>
    obtain ⟨⟨arguments, harguments⟩, hdryRun, _⟩ := given?_run_eq_some_iff.1 hop
    refine run_of_unsettled harguments ?_
    rw [settleDryRun, hdryRun, h]
    rfl
  | configureLogging entries =>
    cases entries with
    | some entries => cases hop
    | none =>
      change s.configureLogging none = _
      simp only [configureLogging, currentSettings_of_error h]
      rfl
  | inThread op ih =>
    obtain ⟨inner, hinner, _⟩ := Option.map_eq_some_iff.1 hop
    have hfresh := @ih { s with scopes := [] } inner hinner
      (h ▸ outcome_currentSettings_congr rfl rfl rfl)
    simp only [perform, hfresh]
    rfl
  | _ => cases hop

/-! ## What is kept after an operation -/

theorem settings_configureLogging (entries : List (Data × Data)) :
    (s.configureLogging (some entries)).2.settings = s.settings := by
  simp only [configureLogging]
  split <;> rfl

theorem settings_leave : s.leave.settings = s.settings := by
  unfold leave
  split <;> rfl

theorem settings_run {request : CommandRequest} (h : (Operation.run request).given? = none) :
    (s.run request).2.settings = s.settings := by
  cases harguments : request.source.arguments with
  | error fault => rw [run_of_fault harguments]
  | ok arguments =>
    cases hdryRun : request.dryRun with
    | none =>
      have hgiven := given?_run_eq_some_iff.2 ⟨⟨arguments, harguments⟩, hdryRun, rfl⟩
      rw [h] at hgiven
      cases hgiven
    | some dryRun =>
      have hsettle : s.settleDryRun request = (.ok dryRun, s) := by rw [settleDryRun, hdryRun]
      rw [run_of_settleDryRun harguments hsettle]
      rfl

/-- An operation that does not ask for settings keeps none, and drops none unless it is told to. -/
theorem settings_perform_of_given?_eq_none {op : Operation} (hop : op.given? = none)
    (hforgets : op.forgetsSettings = false) : (perform op s).2.settings = s.settings := by
  induction op generalizing s with
  | inThread op ih => exact @ih { s with scopes := [] } (Option.map_eq_none_iff.1 hop) hforgets
  | leave raising => exact settings_leave
  | run request => exact settings_run hop
  | configureLogging entries =>
    cases entries with
    | none => cases hop
    | some entries => exact settings_configureLogging entries
  | currentSettings => cases hop
  | resetSettings => cases hforgets
  | _ => rfl

theorem settings_perform_of_forgetsSettings {op : Operation} (h : op.forgetsSettings = true) :
    (perform op s).2.settings = none := by
  induction op generalizing s with
  | inThread op ih => exact @ih { s with scopes := [] } h
  | resetSettings => rfl
  | _ => cases h

/-- The settings that an operation, if it asks for any, would load in the session in which it is
carried out. -/
def loaded? (op : Operation) (s : Session) : Option Settings :=
  if op.given?.isSome then (Settings.load s.files s.environment none).toOption else none

theorem settings_perform (op : Operation) (s : Session) : (perform op s).2.settings =
    if op.forgetsSettings then none else s.settings.or (loaded? op s) := by
  cases hforgets : op.forgetsSettings with
  | true => exact settings_perform_of_forgetsSettings hforgets
  | false =>
    cases hop : op.given? with
    | none =>
      rw [settings_perform_of_given?_eq_none hop hforgets]
      simp [loaded?, hop]
    | some given =>
      have hcurrent := s.outcome_currentSettings
      have hloaded : loaded? op s =
          (Settings.load s.files s.environment none).toOption := by simp [loaded?, hop]
      rw [hloaded]
      cases hkept : s.settings with
      | some settings =>
        rw [hkept] at hcurrent
        rw [perform_of_given hop hcurrent]
        rfl
      | none =>
        rw [hkept] at hcurrent
        cases hload : Settings.load s.files s.environment none with
        | ok settings =>
          rw [perform_of_given hop (hcurrent.trans hload)]
          rfl
        | error fault =>
          rw [perform_of_unavailable hop (hcurrent.trans hload)]
          exact hkept

/-! ## What is kept along a script -/

/-- Operations that have been carried out, each with the session in which it was; the first one
comes first. What is done in a thread counts as done by the operation that starts the thread. -/
abbrev Past := List (Operation × Session)

def past : List Operation → Session → Past
  | [], _ => []
  | op :: rest, s => (op, s) :: past rest (perform op s).2

theorem past_append_singleton (front : List Operation) (op : Operation) (s : Session) :
    past (front ++ [op]) s = past front s ++ [(op, (performAll front s).2)] := by
  induction front generalizing s with
  | nil => rfl
  | cons first front ih => exact congrArg ((first, s) :: ·) (ih (perform first s).2)

/-- The settings that were loaded first since settings were last forgotten, or since the start. -/
def firstLoaded (before : Past) : Option Settings :=
  (before.rtakeWhile fun done => !done.1.forgetsSettings).findSome?
    fun done => loaded? done.1 done.2

theorem firstLoaded_append_singleton (before : Past) (op : Operation) (s : Session) :
    firstLoaded (before ++ [(op, s)]) =
      if op.forgetsSettings then none else (firstLoaded before).or (loaded? op s) := by
  rw [firstLoaded, firstLoaded, List.rtakeWhile_concat]
  cases op.forgetsSettings with
  | true => rfl
  | false => simp [List.findSome?_append]

theorem settings_performAll {start : Session} (h : start.settings = none) (front : List Operation) :
    (performAll front start).2.settings = firstLoaded (past front start) := by
  induction front using List.reverseRecOn with
  | nil => exact h
  | append_singleton front op ih =>
    rw [performAll_append, past_append_singleton, firstLoaded_append_singleton, ← ih]
    exact settings_perform op _

theorem environment_perform {op : Operation} (h : op.setsVariable = false) (s : Session) :
    (perform op s).2.environment = s.environment := by
  induction op generalizing s with
  | inThread op ih => exact ih h { s with scopes := [] }
  | setVariable name value => cases h
  | leave raising =>
    change s.leave.environment = s.environment
    unfold leave
    split <;> rfl
  | currentSettings | configureLogging _ | run _ =>
    exact (s.agrees_perform_of_mayLoad (by rfl)).environment_eq
  | _ => rfl

theorem reply_currentSettings_congr {t : Session} (hsettings : t.settings = s.settings)
    (hfiles : t.files = s.files) (henvironment : t.environment = s.environment) :
    (perform .currentSettings t).1 = (perform .currentSettings s).1 := by
  have hreply : ∀ u : Session, (perform .currentSettings u).1 =
      ⟨u.currentSettings.1.map .settings, []⟩ := fun _ => rfl
  rw [hreply, hreply, outcome_currentSettings_congr hsettings hfiles henvironment]

/-- An operation that asks for the settings in force, in whatever thread, is given those that were
loaded first since the last reset, whatever has happened to the files in between. If there are none,
it is given those that can be loaded now, and they are kept; if none can be loaded it fails and
changes nothing. No other operation but a reset changes what is kept, so it matters for later
questions only through the files and the environment that it leaves behind. -/
theorem settings_of_script {start : Session} (hstart : start.settings = none)
    (front : List Operation) :
    let s := (performAll front start).2
    let first := firstLoaded (past front start)
    (∀ op given, op.given? = some given →
      (∀ settings,
        (first = some settings ∨
          first = none ∧ Settings.load s.files s.environment none = .ok settings) →
        perform op s = ((perform (given settings) s).1,
          { (perform (given settings) s).2 with settings := some settings })) ∧
      ∀ fault, first = none → Settings.load s.files s.environment none = .error fault →
        perform op s = (⟨op.failing fault, []⟩, s)) ∧
    (∀ op, op.given? = none → op.forgetsSettings = false →
      let after := (perform op s).2
      after.settings = first ∧
      (perform .currentSettings after).1 = (perform .currentSettings
        { s with files := after.files, environment := after.environment }).1 ∧
      (op.makesDirectories = false → op.isForeign = false → op.setsVariable = false →
        (perform .currentSettings after).1 = (perform .currentSettings s).1)) ∧
    ∀ op, op.forgetsSettings = true → (perform op s).2.settings = none := by
  intro s first
  have hkept : s.settings = first := settings_performAll hstart front
  have hcurrent := s.outcome_currentSettings
  rw [hkept] at hcurrent
  refine ⟨fun op given hop => ⟨fun settings hsettings => ?_, fun fault hfirst hload => ?_⟩,
    fun op hop hforgets => ?_, fun op => settings_perform_of_forgetsSettings⟩
  · refine perform_of_given hop (hcurrent.trans ?_)
    rcases hsettings with hfirst | ⟨hfirst, hload⟩
    · rw [hfirst]
    · rw [hfirst, hload]
  · refine perform_of_unavailable hop (hcurrent.trans ?_)
    rw [hfirst, hload]
  · have hsame := @settings_perform_of_given?_eq_none s op hop hforgets
    refine ⟨hsame.trans hkept, reply_currentSettings_congr hsame rfl rfl, ?_⟩
    intro hmakes hforeign hsets
    exact reply_currentSettings_congr hsame (s.files_perform hforeign hmakes)
      (environment_perform hsets s)

/-- The settings stay although their document has become a directory, which cannot be read. -/
theorem settings_of_script_with_directory :
    let start : Session := { environment := [("SHELLUTILS_CONFIG", "/c")] }
    let front : List Operation := [.currentSettings, .ensureDirectory (.spelled "/c")]
    let s := (performAll front start).2
    start.settings = none ∧ (∃ fault, Settings.load s.files s.environment none = .error fault) ∧
      (perform (.inThread .currentSettings) s).1.outcome =
        .ok (.reply (.ok (.settings {})) []) := by
  intro start front s
  obtain ⟨hasks, _⟩ := @settings_of_script start rfl front
  have hthread := (hasks (.inThread .currentSettings) _ rfl).1 {} (Or.inl rfl)
  refine ⟨rfl, ⟨_, rfl⟩, ?_⟩
  rw [hthread]
  rfl

end Session

end ScopedShell
