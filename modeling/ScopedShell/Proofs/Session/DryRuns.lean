import ScopedShell.Proofs.Session.Commands

/-!
# Dry runs

A command that is only shown leaves one record and starts nothing. Its words and its directory are
found in the same way as for the command that is run, so the two fail for the same words, and
otherwise they have results for the same words and the same directory, and the records of their
lines differ by a mark in front. Whether a command is only shown may be left to the settings in
force; it then does what it does when their answer is given with it (`run_of_current`).
-/

namespace ScopedShell

namespace Command

variable {env : Environment} {arguments : List Text} {directory : Path} {options : Options}
  {ending : Ending}

def lineRecord (mark : Text) (arguments : List Text) (directory : Path) : Log.Record :=
  ⟨Log.processLogger, .info, mark ++ shownLine arguments directory⟩

def dryMark : Text := "[dry-run] "

def shownResult (arguments : List Text) (directory : Path) : Result where
  arguments := arguments
  directory := directory.text
  exitCode := 0
  dryRun := true

theorem run_shown : run env arguments directory true options ending =
    ⟨.ok (shownResult arguments directory),
      [.logged (lineRecord dryMark arguments directory)]⟩ := rfl

/-- Of the events of a command that is run only the record of its line informs. -/
theorem shownEvents_eq_cons : ∃ others,
    shownEvents env arguments directory options ending =
      .logged (lineRecord [] arguments directory) :: others ∧
    ∀ record, .logged record ∈ others → record.level ≠ .info := by
  refine ⟨_, rfl, fun record hrecord => ?_⟩
  rcases List.mem_cons.1 hrecord with hlaunched | hrecord
  · cases hlaunched
  · split at hrecord
    · cases hrecord
    · obtain rfl := Event.logged.inj (List.mem_singleton.1 hrecord)
      exact Log.Level.noConfusion

theorem checked_cases (check : Bool) (result : Result) :
    checked check result = .ok result ∨ checked check result = .error (.commandFailed result) := by
  rw [checked]
  split
  · exact Or.inr rfl
  · exact Or.inl rfl

end Command

namespace Session

variable {s : Session} {request : CommandRequest} {arguments : List Text}

theorem run_of_settleDryRun (harguments : request.source.arguments = .ok arguments) {dryRun : Bool}
    {settled : Session} (h : s.settleDryRun request = (.ok dryRun, settled)) :
    s.run request = settled.answer (Value.command <$> Command.run s.environment arguments
      (s.workingDirectory request) dryRun request.options request.ending) := by
  rw [run_of_arguments harguments, h]

theorem exists_settleDryRun_eq {dryRun : Bool} (h : (s.settleDryRun request).1 = .ok dryRun) :
    ∃ settings, s.settleDryRun request = (.ok dryRun, { s with settings := settings }) := by
  rcases s.settleDryRun_cases request with ⟨other, settings, hsettle⟩ | ⟨fault, hsettle⟩
  · have hall := hsettle s.scopes s.logging
    rw [hall] at h
    obtain rfl := Except.ok.inj h
    exact ⟨settings, hall⟩
  · rw [hsettle s.scopes s.logging] at h
    cases h

theorem run_of_shown (harguments : request.source.arguments = .ok arguments)
    (h : (s.settleDryRun request).1 = .ok true) :
    ∃ settings, s.run request =
      (⟨.ok (.command (Command.shownResult arguments (s.workingDirectory request))), []⟩,
        { s with settings := settings }.observe [.logged
          (Command.lineRecord Command.dryMark arguments (s.workingDirectory request))]) := by
  obtain ⟨settings, hsettle⟩ := exists_settleDryRun_eq h
  refine ⟨settings, ?_⟩
  rw [run_of_settleDryRun harguments hsettle, Command.run_shown, Traced.map_eq]
  rfl

/-! ## Settings in force -/

theorem currentSettings_of_ok {settings : Settings} (h : s.currentSettings.1 = .ok settings) :
    s.currentSettings = (.ok settings, { s with settings := some settings }) := by
  rcases s.currentSettings_cases with ⟨other, hother⟩ | ⟨fault, hfault⟩
  · have hall := hother s.scopes s.logging
    rw [hall] at h
    obtain rfl := Except.ok.inj h
    exact hall
  · rw [hfault s.scopes s.logging] at h
    cases h

theorem currentSettings_of_error {fault : Fault} (h : s.currentSettings.1 = .error fault) :
    s.currentSettings = (.error fault, s) := by
  rcases s.currentSettings_cases with ⟨other, hother⟩ | ⟨other, hother⟩
  · rw [hother s.scopes s.logging] at h
    cases h
  · have hall := hother s.scopes s.logging
    rw [hall] at h
    obtain rfl := Except.error.inj h
    exact hall

/-- A command for which it is left to the settings in force whether it is only shown does what it
does when their answer is given with it, and they are kept. -/
theorem run_of_current (harguments : request.source.arguments = .ok arguments)
    (hdryRun : request.dryRun = none) {settings : Settings}
    (h : s.currentSettings.1 = .ok settings) :
    s.run request = ((s.run { request with dryRun := some settings.dryRun }).1,
      { (s.run { request with dryRun := some settings.dryRun }).2 with
        settings := some settings }) := by
  have hsettle : s.settleDryRun request =
      (.ok settings.dryRun, { s with settings := some settings }) := by
    rw [settleDryRun, hdryRun, currentSettings_of_ok h]
    rfl
  have htold := @run_of_settleDryRun s { request with dryRun := some settings.dryRun } _ harguments
    settings.dryRun s rfl
  rw [run_of_settleDryRun harguments hsettle, htold]
  rfl

/-! ## A dry run and the run that it stands for -/

/-- Whatever a command that is only shown comes to, it is not a failed command, nothing is started
for it, and files and scopes stay as they are. -/
theorem harmless_of_shown (h : (s.settleDryRun request).1 = .ok true) :
    (s.run request).1.launches = [] ∧ (s.run request).2.files = s.files ∧
      (s.run request).2.scopes = s.scopes ∧
      ∀ result, (s.run request).1.outcome ≠ .error (.commandFailed result) := by
  cases harguments : request.source.arguments with
  | error fault =>
    rw [run_of_fault harguments]
    refine ⟨rfl, rfl, rfl, fun result hfault => ?_⟩
    obtain rfl := Except.error.inj hfault
    rcases Command.fault_of_arguments harguments with hempty | ⟨_, _, _, _, hwords⟩
    · cases hempty
    · cases hwords
  | ok arguments =>
    obtain ⟨settings, hrun⟩ := run_of_shown harguments h
    rw [hrun]
    exact ⟨rfl, rfl, rfl, fun result => nofun⟩

/-- A command that is only shown, whether that is asked for or left to the settings in force, starts
nothing, touches neither files nor scopes, and is never taken for a failed command. Where its words
cannot be had it fails as it would if it were run. Otherwise it succeeds with the words and the
directory of the result that the run has, however the child ends, and leaves the record of the run's
line with a mark in front. Where the settings in force are asked, all that they do is to give their
answer. -/
theorem shown_of_request (s : Session) (request : CommandRequest) :
    ((s.settleDryRun request).1 = .ok true →
      let dry := s.run request
      let real := s.run { request with dryRun := some false }
      (dry.1.launches = [] ∧ dry.2.files = s.files ∧ dry.2.scopes = s.scopes ∧
        ∀ result, dry.1.outcome ≠ .error (.commandFailed result)) ∧
      (∀ fault, request.source.arguments = .error fault →
        dry = (⟨.error fault, []⟩, s) ∧ real = (⟨.error fault, []⟩, s)) ∧
      ∀ arguments, request.source.arguments = .ok arguments →
        ∃ shown result record others settings,
          (dry.1.outcome = .ok (.command shown) ∧ shown.exitCode = 0) ∧
          (real.1.outcome = .ok (.command result) ∨
            real.1.outcome = .error (.commandFailed result)) ∧
          (shown.arguments = result.arguments ∧ shown.directory = result.directory) ∧
          dry.2 = { s with settings := settings }.observe
            [.logged { record with text := ("[dry-run] " : Text) ++ record.text }] ∧
          real.2 = s.observe (.logged record :: others) ∧
          record.level = .info ∧ ∀ other, .logged other ∈ others → other.level ≠ .info) ∧
    ∀ settings, s.currentSettings.1 = .ok settings →
      let left := s.run { request with dryRun := none }
      let told := s.run { request with dryRun := some settings.dryRun }
      left.1 = told.1 ∧ left.2 = { told.2 with settings := left.2.settings } := by
  refine ⟨fun hdry => ⟨harmless_of_shown hdry, fun fault hfault => ?_, ?_⟩, ?_⟩
  · exact ⟨run_of_fault hfault,
      @run_of_fault s { request with dryRun := some false } fault hfault⟩
  · intro arguments harguments
    obtain ⟨settings, hshown⟩ := run_of_shown harguments hdry
    have hreal := @run_of_settled s { request with dryRun := some false } _ harguments rfl
    obtain ⟨others, hevents, hlevels⟩ := @Command.shownEvents_eq_cons s.environment arguments
      (s.workingDirectory request) request.options request.ending
    have hreports := @Command.reports_result arguments (s.workingDirectory request) request.ending
      request.options.timeout
    refine ⟨_, _, Command.lineRecord [] arguments (s.workingDirectory request), others, settings,
      ⟨congrArg (fun run => run.1.outcome) hshown, rfl⟩, ?_,
      ⟨hreports.arguments_eq.symm, hreports.directory_eq.symm⟩, congrArg Prod.snd hshown, ?_, rfl,
      hlevels⟩
    · rw [hreal]
      rcases Command.checked_cases request.options.check (request.ending.result arguments
        (s.workingDirectory request) request.options.timeout) with hpassed | hfailed
      · exact Or.inl (congrArg (Except.map Value.command) hpassed)
      · exact Or.inr (congrArg (Except.map Value.command) hfailed)
    · rw [hreal, ← hevents]
      rfl
  · intro settings hsettings left told
    cases harguments : request.source.arguments with
    | error fault =>
      have hleft : left = (⟨.error fault, []⟩, s) :=
        @run_of_fault s { request with dryRun := none } fault harguments
      have htold : told = (⟨.error fault, []⟩, s) :=
        @run_of_fault s { request with dryRun := some settings.dryRun } fault harguments
      rw [hleft, htold]
      exact ⟨rfl, rfl⟩
    | ok arguments =>
      have hleft : left = (told.1, { told.2 with settings := some settings }) :=
        @run_of_current s { request with dryRun := none } _ harguments rfl settings hsettings
      rw [hleft]
      exact ⟨rfl, rfl⟩

/-- The settings that are kept decide, and the run that is stood for fails its check. -/
theorem shown_of_request_by_settings :
    let s : Session := { settings := some { dryRun := true } }
    let request : CommandRequest :=
      { source := .line "rm 'a b'", options := { check := true }, ending := .exited 3 none none }
    (s.settleDryRun request).1 = .ok true ∧ ∃ shown result,
      (s.run request).1 = ⟨.ok (.command shown), []⟩ ∧ shown.exitCode = 0 ∧
      (s.run { request with dryRun := some false }).1.outcome = .error (.commandFailed result) ∧
      result.exitCode = 3 ∧ shown.arguments = result.arguments ∧
      shown.directory = result.directory := by
  intro s request
  obtain ⟨_, _, hshows⟩ := (shown_of_request s request).1 rfl
  obtain ⟨shown, result, _, _, _, ⟨hdry, hcode⟩, hreal, ⟨harguments, hdirectory⟩, _⟩ :=
    hshows ["rm", "a b"] rfl
  rcases hreal with hreal | hreal
  · cases hreal
  · obtain rfl := Fault.commandFailed.inj (Except.error.inj hreal)
    exact ⟨rfl, shown, _, congrArg (Reply.mk · []) hdry, hcode, hreal, rfl, harguments, hdirectory⟩

end Session

end ScopedShell
