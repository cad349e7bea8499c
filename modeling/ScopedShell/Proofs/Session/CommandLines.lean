import ScopedShell.Proofs.Session.DryRuns

/-!
# Recorded lines

All that a run takes from what it is given are its words (`run_of_source`), and the line in its
record spells just these. So a recorded line can be given back in place of what was given, as a line
or as words, and nothing that can be seen of the run changes (`run_of_recorded_line`).
-/

namespace ScopedShell

namespace Command

theorem arguments_line_joinWords (words : List Text) :
    (Source.line (joinWords words)).arguments =
      if words = [] then .error .emptyCommand else .ok words := by
  rw [Source.arguments, splitWords_joinWords]
  cases words <;> rfl

theorem arguments_words (arguments : List PathArgument) :
    (Source.words arguments).arguments =
      if arguments.map PathArgument.text = [] then .error .emptyCommand
      else .ok (arguments.map PathArgument.text) := by
  cases arguments <;> rfl

end Command

namespace Session

variable {s : Session} {request : CommandRequest} {arguments : List Text}

theorem run_of_source {source : Command.Source}
    (h : source.arguments = request.source.arguments) :
    s.run { request with source := source } = s.run request := by
  rw [run, run, h]

/-- The first that a command leaves behind is the record of its line, with a mark in front if it is
only shown. -/
theorem exists_observe_lineRecord (harguments : request.source.arguments = .ok arguments)
    {dryRun : Bool} (h : (s.settleDryRun request).1 = .ok dryRun) :
    ∃ settings others, (s.run request).2 = { s with settings := settings }.observe
      (.logged (Command.lineRecord (if dryRun then Command.dryMark else []) arguments
        (s.workingDirectory request)) :: others) := by
  cases dryRun with
  | true =>
    obtain ⟨settings, hshown⟩ := run_of_shown harguments h
    exact ⟨settings, [], congrArg Prod.snd hshown⟩
  | false =>
    obtain ⟨settings, hsettle⟩ := exists_settleDryRun_eq h
    obtain ⟨others, hevents, _⟩ := @Command.shownEvents_eq_cons s.environment arguments
      (s.workingDirectory request) request.options request.ending
    refine ⟨settings, others, ?_⟩
    rw [run_of_settled harguments h, hsettle, hevents]
    rfl

/-- The line that spells a list of words is split into that list, whatever characters the words are
made of and also where some are empty. So a run of the line is the run of the words, in every
session and with any options: the same outcome, the same children and the same session afterwards,
with all that was recorded. Such a line is what a run records of its words, and it can be given back
in place of whatever they were read from. -/
theorem run_of_recorded_line (s : Session) (request : CommandRequest) :
    (∀ words, Command.splitWords (Command.joinWords words) = .ok words) ∧
    (∀ given : List PathArgument,
      s.run { request with source := .line (Command.joinWords (given.map PathArgument.text)) } =
        s.run { request with source := .words given }) ∧
    ∀ arguments, request.source.arguments = .ok arguments →
      let line := Command.joinWords arguments
      s.run { request with source := .line line } = s.run request ∧
      ∀ dryRun, (s.settleDryRun request).1 = .ok dryRun → ∃ settings others,
        (s.run request).2 = { s with settings := settings }.observe
          (.logged ⟨Log.processLogger, .info, (if dryRun then ("[dry-run] " : Text) else []) ++
            (("(cd " : Text) ++ (s.workingDirectory request).text ++ (" && " : Text) ++ line ++
              (")" : Text))⟩ :: others) := by
  refine ⟨Command.splitWords_joinWords, fun given => ?_, ?_⟩
  · have hsources :
        (Command.Source.line (Command.joinWords (given.map PathArgument.text))).arguments =
        (Command.Source.words given).arguments := by
      rw [Command.arguments_line_joinWords, Command.arguments_words]
    exact @run_of_source s { request with source := .words given } _ hsources
  · intro arguments harguments line
    have hne := (Command.parsed_of_arguments harguments).1
    refine ⟨run_of_source ?_, fun dryRun hdryRun => exists_observe_lineRecord harguments hdryRun⟩
    rw [Command.arguments_line_joinWords, if_neg hne, harguments]

/-- Words that have to be quoted, one of them empty. -/
theorem run_of_recorded_line_of_quoted :
    let s : Session := { scopes := [Path.ofText "/a"] }
    let words : List Text := ["", "it's", "\"\\ \n", "#$x", "é"]
    let request : CommandRequest :=
      { source := .words (words.map PathArgument.spelled), dryRun := some true }
    let line : Text := "'' 'it'\"'\"'s' '\"\\ \n' '#$x' 'é'"
    request.source.arguments = .ok words ∧
      s.run { request with source := .line line } = s.run request ∧
      ∃ settings others, (s.run request).2 = { s with settings := settings }.observe
        (.logged ⟨Log.processLogger, .info,
          ("[dry-run] (cd /a && " : Text) ++ line ++ (")" : Text)⟩ :: others) := by
  intro s words request line
  obtain ⟨_, _, hgives⟩ := run_of_recorded_line s request
  obtain ⟨hrun, hrecord⟩ := hgives words rfl
  exact ⟨rfl, hrun, hrecord true rfl⟩

end Session

end ScopedShell
