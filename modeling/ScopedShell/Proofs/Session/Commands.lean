import ScopedShell.Proofs.Outcome
import ScopedShell.Session.Operation

/-!
# Commands of a session

A command is run in three steps: its words are read, then it is settled whether it is only shown
(`Session.settleDryRun`), and then it is run. The first two start nothing and record nothing, and
where one of them fails the session stays as it was (`run_of_fault`, `run_of_unsettled`). In the
third what can be seen of a command does not depend on whether its success is checked
(`Command.run_eq`), so checking changes the outcome only.
-/

namespace ScopedShell

namespace Command

/-- What can be seen of a command that is run: the record of the line, the start of the child, and
a record of its exit code if that is not zero. -/
def shownEvents (env : Environment) (arguments : List Text) (directory : Path) (options : Options)
    (ending : Ending) : List Event :=
  let result := ending.result arguments directory options.timeout
  .logged ⟨Log.processLogger, .info, shownLine arguments directory⟩ ::
    .launched (launch env arguments directory options) ::
    if result.exitCode = 0 then []
    else [.logged ⟨Log.processLogger, .debug, ("exit " : Text) ++ Text.ofInt result.exitCode ++
      (": " : Text) ++ joinWords arguments⟩]

/-- The outcome of a command that ends with a result: with `check` only success is none. -/
def checked (check : Bool) (result : Result) : Except Fault Result :=
  if check = true ∧ result.exitCode ≠ 0 then .error (.commandFailed result) else .ok result

variable {env : Environment} {arguments : List Text} {directory : Path} {options : Options}
  {ending : Ending}

theorem run_eq : run env arguments directory false options ending =
    ⟨checked options.check (ending.result arguments directory options.timeout),
      shownEvents env arguments directory options ending⟩ := by
  rw [run, checked, shownEvents]
  by_cases hcode : (ending.result arguments directory options.timeout).exitCode = 0
  · have hok : (ending.result arguments directory options.timeout).ok = true := beq_iff_eq.2 hcode
    simp only [hok, hcode, ne_eq, not_true, and_false, if_true, if_false]
    rfl
  · have hok : (ending.result arguments directory options.timeout).ok = false :=
      beq_eq_false_iff_ne.2 hcode
    simp only [hok, hcode, ne_eq, not_false_eq_true, and_true, if_false]
    cases options.check <;> rfl

theorem launches_shownEvents : (shownEvents env arguments directory options ending).filterMap
    Event.launch? = [launch env arguments directory options] := by
  rw [shownEvents]
  split <;> rfl

/-- The start of a child for a command in a directory, with the environment that was meant for it,
in which only `PWD` is another. -/
structure Launch.Starts (launch : Launch) (arguments : List Text) (directory : Path)
    (env : Environment) (timeout : Option Number) : Prop where
  arguments_eq : launch.arguments = arguments
  directory_eq : launch.directory = directory.text
  timeout_eq : launch.timeout = timeout
  isAbsolute : directory.isAbsolute = true
  get?_environment : ∀ name, launch.environment.get? name =
    if name = "PWD" then some directory.text else env.get? name

theorem starts_launch (h : directory.isAbsolute = true) :
    (launch env arguments directory options).Starts arguments directory
      (options.environment.getD env) options.timeout :=
  ⟨rfl, rfl, rfl, h, fun _ => Environment.get?_set _ _ _ _⟩

/-- The result of a command in a directory whose child ended in the given way. -/
structure Result.Reports (result : Result) (arguments : List Text) (directory : Path)
    (ending : Ending) : Prop where
  arguments_eq : result.arguments = arguments
  directory_eq : result.directory = directory.text
  dryRun_eq : result.dryRun = false
  of_exited : ∀ code output errors, ending = .exited code output errors →
    result.exitCode = code ∧ result.output = output.getD [] ∧ result.errors = errors.getD []
  of_timedOut : ending = .timedOut → result.exitCode = 124
  of_notStarted : ∀ number description path, ending = .notStarted number description path →
    result.exitCode = 127

theorem reports_result (timeout : Option Number) :
    (ending.result arguments directory timeout).Reports arguments directory ending := by
  cases ending with
  | exited code output errors =>
    exact ⟨rfl, rfl, rfl, by rintro _ _ _ ⟨⟩; exact ⟨rfl, rfl, rfl⟩, nofun, nofun⟩
  | timedOut => exact ⟨rfl, rfl, rfl, nofun, fun _ => rfl, nofun⟩
  | notStarted number description path => exact ⟨rfl, rfl, rfl, nofun, nofun, fun _ _ _ _ => rfl⟩

/-! ## Words -/

theorem parsed_of_arguments {source : Source} (h : source.arguments = .ok arguments) :
    arguments ≠ [] ∧ (∀ line, source = .line line → splitWords line = .ok arguments) ∧
      ∀ words, source = .words words → arguments = words.map PathArgument.text := by
  cases source with
  | line line =>
    rw [Source.arguments] at h
    split at h
    · cases h
    · cases h
    · next word others hwords =>
      obtain rfl := Except.ok.inj h
      refine ⟨List.cons_ne_nil _ _, ?_, nofun⟩
      rintro _ ⟨⟩
      exact hwords
  | words words =>
    cases words with
    | nil => cases h
    | cons word others =>
      obtain rfl := Except.ok.inj h
      refine ⟨List.cons_ne_nil _ _, nofun, ?_⟩
      rintro _ ⟨⟩
      rfl

theorem fault_of_arguments {source : Source} {fault : Fault} (h : source.arguments = .error fault) :
    fault = .emptyCommand ∨ ∃ line why, source = .line line ∧ splitWords line = .error why ∧
      fault = .unsplittable why := by
  cases source with
  | line line =>
    rw [Source.arguments] at h
    split at h
    · next why hwords => exact Or.inr ⟨line, why, rfl, hwords, (Except.error.inj h).symm⟩
    · exact Or.inl (Except.error.inj h).symm
    · cases h
  | words words =>
    cases words with
    | nil => exact Or.inl (Except.error.inj h).symm
    | cons word others => cases h

end Command

namespace Session

def workingDirectory (s : Session) (request : CommandRequest) : Path :=
  match request.directory with
  | some a => s.absolute a
  | none => s.directory

/-- Whether a command is only shown: as it was asked for, or else as the settings in force say. -/
def settleDryRun (s : Session) (request : CommandRequest) : Except Fault Bool × Session :=
  match request.dryRun with
  | some dryRun => (.ok dryRun, s)
  | none => (s.currentSettings.1.map Settings.dryRun, s.currentSettings.2)

variable {s : Session} {request : CommandRequest} {arguments : List Text}

theorem isAbsolute_workingDirectory (hs : s.directory.isAbsolute = true)
    (request : CommandRequest) :
    (s.workingDirectory request).isAbsolute = true := by
  rw [workingDirectory]
  split
  · exact Path.isAbsolute_join hs _
  · exact hs

/-- Looking at the settings keeps them, and changes nothing if they cannot be had. Scopes and
logging do not matter for it. -/
theorem currentSettings_cases (s : Session) :
    (∃ settings, ∀ scopes logging,
      { s with scopes := scopes, logging := logging }.currentSettings = (.ok settings,
        { s with scopes := scopes, settings := some settings, logging := logging })) ∨
    ∃ fault, ∀ scopes logging, { s with scopes := scopes, logging := logging }.currentSettings =
      (.error fault, { s with scopes := scopes, logging := logging }) := by
  cases hkept : s.settings with
  | some settings => exact Or.inl ⟨settings, fun _ _ => rfl⟩
  | none =>
    cases hload : Settings.load s.files s.environment none with
    | ok settings =>
      exact Or.inl ⟨settings, fun scopes logging => by simp only [currentSettings, hload]⟩
    | error fault =>
      exact Or.inr ⟨fault, fun scopes logging => by simp only [currentSettings, hload]⟩

theorem settleDryRun_cases (s : Session) (request : CommandRequest) :
    (∃ dryRun settings, ∀ scopes logging,
      { s with scopes := scopes, logging := logging }.settleDryRun request = (.ok dryRun,
        { s with scopes := scopes, settings := settings, logging := logging })) ∨
    ∃ fault, ∀ scopes logging,
      { s with scopes := scopes, logging := logging }.settleDryRun request =
        (.error fault, { s with scopes := scopes, logging := logging }) := by
  simp only [settleDryRun]
  cases request.dryRun with
  | some dryRun => exact Or.inl ⟨dryRun, s.settings, fun _ _ => rfl⟩
  | none =>
    rcases s.currentSettings_cases with ⟨settings, hsettings⟩ | ⟨fault, hfault⟩
    · exact Or.inl ⟨settings.dryRun, some settings, fun scopes logging => by rw [hsettings]; rfl⟩
    · exact Or.inr ⟨fault, fun scopes logging => by rw [hfault]; rfl⟩

theorem run_of_fault {fault : Fault} (h : request.source.arguments = .error fault) :
    s.run request = (⟨.error fault, []⟩, s) := by
  rw [run, h]
  rfl

theorem run_of_arguments (h : request.source.arguments = .ok arguments) :
    s.run request =
      match s.settleDryRun request with
      | (.ok dryRun, settled) => settled.answer (Value.command <$> Command.run s.environment
          arguments (s.workingDirectory request) dryRun request.options request.ending)
      | (.error fault, _) => (⟨.error fault, []⟩, s) := by
  rw [run, h, settleDryRun]
  dsimp only
  cases request.dryRun with
  | some dryRun => rfl
  | none =>
    rcases s.currentSettings_cases with ⟨settings, hsettings⟩ | ⟨fault, hfault⟩
    · rw [hsettings s.scopes s.logging]
      rfl
    · rw [hfault s.scopes s.logging]
      rfl

theorem run_of_unsettled {fault : Fault} (harguments : request.source.arguments = .ok arguments)
    (h : (s.settleDryRun request).1 = .error fault) : s.run request = (⟨.error fault, []⟩, s) := by
  rcases s.settleDryRun_cases request with ⟨dryRun, settings, hsettle⟩ | ⟨other, hsettle⟩
  · rw [hsettle s.scopes s.logging] at h
    cases h
  · rw [hsettle s.scopes s.logging] at h
    cases h
    rw [run_of_arguments harguments, hsettle s.scopes s.logging]

theorem run_of_settled (harguments : request.source.arguments = .ok arguments)
    (h : (s.settleDryRun request).1 = .ok false) :
    s.run request =
      (⟨(Command.checked request.options.check (request.ending.result arguments
          (s.workingDirectory request) request.options.timeout)).map Value.command,
        [Command.launch s.environment arguments (s.workingDirectory request) request.options]⟩,
      (s.settleDryRun request).2.observe (Command.shownEvents s.environment arguments
        (s.workingDirectory request) request.options request.ending)) := by
  rcases s.settleDryRun_cases request with ⟨dryRun, settings, hsettle⟩ | ⟨fault, hsettle⟩
  · rw [hsettle s.scopes s.logging] at h
    obtain rfl := Except.ok.inj h
    rw [run_of_arguments harguments, hsettle s.scopes s.logging]
    dsimp only
    rw [Command.run_eq, Traced.map_eq, answer, Command.launches_shownEvents]
  · rw [hsettle s.scopes s.logging] at h
    cases h

/-! ## What is left alone -/

theorem exists_currentSettings (s : Session) :
    ∃ settings, s.currentSettings.2 = { s with settings := settings } := by
  rcases s.currentSettings_cases with ⟨settings, hsettings⟩ | ⟨fault, hfault⟩
  · exact ⟨some settings, congrArg Prod.snd (hsettings s.scopes s.logging)⟩
  · exact ⟨s.settings, congrArg Prod.snd (hfault s.scopes s.logging)⟩

/-- A command may load the settings and leave records, and changes nothing else of the session. -/
theorem exists_run (s : Session) (request : CommandRequest) :
    ∃ settings logging,
      (s.run request).2 = { s with settings := settings, logging := logging } := by
  cases harguments : request.source.arguments with
  | error fault => exact ⟨s.settings, s.logging, congrArg Prod.snd (run_of_fault harguments)⟩
  | ok arguments =>
    rw [run_of_arguments harguments]
    rcases s.settleDryRun_cases request with ⟨dryRun, settings, hsettle⟩ | ⟨fault, hsettle⟩
    · rw [hsettle s.scopes s.logging]
      exact ⟨settings, _, rfl⟩
    · rw [hsettle s.scopes s.logging]
      exact ⟨s.settings, s.logging, rfl⟩

/-! ## Runs with and without a check -/

/-- A command whose words or settings cannot be had fails for that; nothing is started, and the
session stays as it was. Any other one that is not only shown starts one child, with its words, in
the absolute directory from which it is run. The end of the child becomes a result, and checking it
makes a fault of that result where its exit code is not zero, and changes nothing else. -/
theorem run_of_request (hs : s.directory.isAbsolute = true) (request : CommandRequest) :
    (∀ fault, request.source.arguments = .error fault →
      (fault = .emptyCommand ∨ ∃ line why, request.source = .line line ∧
        Command.splitWords line = .error why ∧ fault = .unsplittable why) ∧
      s.run request = (⟨.error fault, []⟩, s)) ∧
    (∀ arguments fault, request.source.arguments = .ok arguments →
      (s.settleDryRun request).1 = .error fault → s.run request = (⟨.error fault, []⟩, s)) ∧
    ∀ arguments, request.source.arguments = .ok arguments →
      (s.settleDryRun request).1 = .ok false →
      let directory := s.workingDirectory request
      let launch := Command.launch s.environment arguments directory request.options
      let result := request.ending.result arguments directory request.options.timeout
      let after := (s.settleDryRun request).2.observe
        (Command.shownEvents s.environment arguments directory request.options request.ending)
      let checking (check : Bool) : CommandRequest :=
        { request with options := { request.options with check := check } }
      (arguments ≠ [] ∧
        (∀ line, request.source = .line line → Command.splitWords line = .ok arguments) ∧
        ∀ words, request.source = .words words → arguments = words.map PathArgument.text) ∧
      launch.Starts arguments directory (request.options.environment.getD s.environment)
        request.options.timeout ∧
      result.Reports arguments directory request.ending ∧
      s.run (checking false) = (⟨.ok (.command result), [launch]⟩, after) ∧
      s.run (checking true) =
        (⟨if result.exitCode = 0 then .ok (.command result) else .error (.commandFailed result),
          [launch]⟩, after) := by
  refine ⟨fun fault hfault => ⟨Command.fault_of_arguments hfault, run_of_fault hfault⟩,
    fun arguments fault harguments hfault => run_of_unsettled harguments hfault, ?_⟩
  intro arguments harguments hsettled directory launch result after checking
  have hrun : ∀ check, s.run (checking check) =
      (⟨(Command.checked check result).map Value.command, [launch]⟩, after) :=
    fun check => @run_of_settled s (checking check) arguments harguments hsettled
  refine ⟨Command.parsed_of_arguments harguments,
    Command.starts_launch (isAbsolute_workingDirectory hs request),
    Command.reports_result _, hrun false, ?_⟩
  rw [hrun true, Command.checked]
  by_cases hcode : result.exitCode = 0
  · rw [if_pos hcode, if_neg fun h => h.2 hcode]
    rfl
  · rw [if_neg hcode, if_pos ⟨rfl, hcode⟩]
    rfl

theorem run_of_request_of_timeout :
    let s : Session := { scopes := [Path.ofText "/a"] }
    let request (check : Bool) : CommandRequest :=
      { source := .line "sleep '9 9'", directory := some (.spelled "b"), dryRun := some false,
        options := { check := check }, ending := .timedOut }
    s.directory.isAbsolute = true ∧ ∃ launch result,
      launch.Starts ["sleep", "9 9"] (Path.ofText "/a/b") [] none ∧ result.exitCode = 124 ∧
      (s.run (request false)).1 = ⟨.ok (.command result), [launch]⟩ ∧
      (s.run (request true)).1 = ⟨.error (.commandFailed result), [launch]⟩ := by
  intro s request
  obtain ⟨_, _, hruns⟩ := @run_of_request s rfl (request false)
  obtain ⟨_, hstarts, hreports, hplain, hchecked⟩ := hruns ["sleep", "9 9"] rfl rfl
  exact ⟨rfl, _, _, hstarts, hreports.of_timedOut rfl, congrArg Prod.fst hplain,
    congrArg Prod.fst hchecked⟩

end Session

end ScopedShell
