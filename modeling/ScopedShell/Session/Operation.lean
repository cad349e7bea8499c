import ScopedShell.Session
import ScopedShell.Path.Relative

/-!
# Operations

Everything that can be asked of a session, and the value with which it answers. An operation fails
or gives a value; whatever it logged and whatever it changed before it failed stays. An operation in
a thread of its own starts outside all scopes and leaves the scopes of its session alone.
-/

namespace ScopedShell

structure CommandRequest where
  source : Command.Source
  directory : Option PathArgument := none
  dryRun : Option Bool := none
  options : Command.Options := {}
  ending : Command.Ending := .exited 0 none none

inductive Operation
  | segmentRegex (segment : Text)
  | filterNames (segment : Text) (names : List Text)
  | filterFiles (segment : Text) (files : List PathArgument)
  | parsePattern (pattern : Text)
  | glob (pattern : PathArgument)
  | join (this : PathArgument) (that : Suffix)
  | absolute (path : PathArgument)
  | canonicalize (path : PathArgument)
  | parent (path : PathArgument)
  | isAbsolute (path : PathArgument)
  | isRelative (path : PathArgument)
  | baseName (path : PathArgument)
  | extension (path : PathArgument)
  | withoutExtension (path : PathArgument)
  | relativeTo (base path : PathArgument)
  | children (path : PathArgument)
  | ensureDirectory (path : PathArgument)
  | makeTemporary (beginning : Text) (names : List Text)
  | currentDirectory
  | enter (path : PathArgument)
  | leave (raising : Bool)
  | inThread (operation : Operation)
  | configPath (asked : Option PathArgument)
  | loadSettings (asked : Option PathArgument)
  | currentSettings
  | validateSettings (entries : List (Data × Data))
  | resetSettings
  | configureLogging (entries : Option (List (Data × Data)))
  | emit (record : Log.Record)
  | run (request : CommandRequest)
  | setVariable (name : Text) (value : Option Text)
  | declare (declaration : Declaration)
  | remove (path : Text)
  | tree

inductive Value
  | nothing
  | flag (value : Bool)
  | text (value : Text)
  | texts (values : List Text)
  | path (value : Path)
  | optionalPath (value : Option Path)
  | paths (values : List Path)
  | pattern (written : Text) (parsed : Glob.Pattern) (start : Path)
  | left (restored : Path) (raising : Bool)
  | settings (value : Settings)
  | logger (name : Text) (level handlers : Nat)
  | command (result : Command.Result)
  | tree (entries : List (Location × Node))
  | reply (outcome : Except Fault Value) (launches : List Command.Launch)

/-- The answer to an operation: its outcome, and the child processes that were started for it. -/
structure Reply where
  outcome : Except Fault Value
  launches : List Command.Launch := []

namespace Session

/-- Answers with a computation that changes nothing but what could be seen of it. -/
def answer (s : Session) (t : Traced Value) : Reply × Session :=
  (⟨t.outcome, t.events.filterMap Event.launch?⟩, s.observe t.events)

/-- Answers with an outcome that leaves the session alone. -/
def answerWith (s : Session) (outcome : Except Fault Value) : Reply × Session :=
  (⟨outcome, []⟩, s)

/-- Runs a command: its words are looked at first, then the settings if they have to decide whether
it is a dry run. -/
def run (s : Session) (request : CommandRequest) : Reply × Session :=
  match request.source.arguments with
  | .error fault => s.answerWith (.error fault)
  | .ok arguments =>
    let directory := match request.directory with
      | some a => s.absolute a
      | none => s.directory
    let go (s : Session) (dryRun : Bool) : Reply × Session :=
      s.answer (Value.command <$>
        Command.run s.environment arguments directory dryRun request.options request.ending)
    match request.dryRun with
    | some dryRun => go s dryRun
    | none =>
      match s.currentSettings with
      | (.ok settings, s) => go s settings.dryRun
      | (.error fault, s) => s.answerWith (.error fault)

/-- Configures logging with the given settings, or with those in force. -/
def configureLogging (s : Session) (entries : Option (List (Data × Data))) : Reply × Session :=
  let (settings, s) := match entries with
    | some entries => (Settings.validate entries, s)
    | none => s.currentSettings
  match settings with
  | .error fault => s.answerWith (.error fault)
  | .ok settings =>
    let (outcome, logging) := s.logging.configure settings
    let s := { s with logging := logging }
    s.answerWith (outcome.map fun _ => .logger Log.family logging.threshold logging.handlerCount)

def perform : Operation → Session → Reply × Session
  | .segmentRegex segment, s =>
    s.answerWith (((Glob.regexText segment).mapError (.invalidPattern segment)).map .text)
  | .filterNames segment names, s => s.answerWith ((Glob.filterNames segment names).map .texts)
  | .filterFiles segment files, s =>
    s.answerWith ((Glob.filterFiles segment (files.map PathArgument.toPath)).map .paths)
  | .parsePattern pattern, s =>
    let parsed := Glob.Pattern.ofText pattern
    s.answerWith ((parsed.startDirectory s.files s.environment s.directory).map
      (.pattern pattern parsed))
  | .glob pattern, s =>
    s.answer (Value.paths <$> Glob.glob s.files s.environment s.directory pattern.text)
  | .join this that, s => s.answerWith (.ok (.path (this.join that)))
  | .absolute path, s => s.answerWith (.ok (.path (s.absolute path)))
  | .canonicalize path, s =>
    s.answerWith ((s.files.canonicalize s.directory path.toPath).map .path)
  | .parent path, s => s.answerWith (.ok (.optionalPath (s.absolute path).parent?))
  | .isAbsolute path, s => s.answerWith (.ok (.flag path.toPath.isAbsolute))
  | .isRelative path, s => s.answerWith (.ok (.flag (!path.toPath.isAbsolute)))
  | .baseName path, s => s.answerWith (.ok (.text (s.absolute path).name))
  | .extension path, s => s.answerWith (.ok (.text path.extension))
  | .withoutExtension path, s => s.answerWith (.ok (.text path.withoutExtension))
  | .relativeTo base path, s =>
    s.answerWith (.ok (.path ((s.absolute base).relativeTo (s.absolute path))))
  | .children path, s => s.answer (Value.paths <$> s.files.children s.directory path.toPath)
  | .ensureDirectory path, s =>
    let (outcome, files) := s.files.ensureDirectory s.directory path.toPath
    { s with files := files }.answerWith (outcome.map .flag)
  | .makeTemporary beginning names, s =>
    let (outcome, files) := s.files.makeTemporary s.temporaryParent beginning names
    { s with files := files }.answerWith (outcome.map .path)
  | .currentDirectory, s => s.answerWith (.ok (.path s.directory))
  | .enter path, s =>
    let (target, s) := s.enter path
    s.answerWith (.ok (.path target))
  | .leave raising, s =>
    let s := s.leave
    s.answerWith (.ok (.left s.directory raising))
  | .inThread operation, s =>
    let (reply, after) := perform operation { s with scopes := [] }
    { after with scopes := s.scopes }.answerWith (.ok (.reply reply.outcome reply.launches))
  | .configPath asked, s => s.answerWith ((Settings.path s.environment asked).map .path)
  | .loadSettings asked, s =>
    s.answerWith ((Settings.load s.files s.environment asked).map .settings)
  | .currentSettings, s =>
    let (outcome, s) := s.currentSettings
    s.answerWith (outcome.map .settings)
  | .validateSettings entries, s => s.answerWith ((Settings.validate entries).map .settings)
  | .resetSettings, s => { s with settings := none }.answerWith (.ok .nothing)
  | .configureLogging entries, s => s.configureLogging entries
  | .emit record, s => s.answer (Traced.emit (.logged record) >>= fun _ => pure .nothing)
  | .run request, s => s.run request
  | .setVariable name value, s =>
    let environment := match value with
      | some value => s.environment.set name value
      | none => s.environment.unset name
    { s with environment := environment }.answerWith (.ok .nothing)
  | .declare declaration, s =>
    { s with files := s.files.declare declaration }.answerWith (.ok .nothing)
  | .remove path, s =>
    { s with files := s.files.remove (FileSystem.declaredLocation path) }.answerWith (.ok .nothing)
  | .tree, s => s.answerWith (.ok (.tree s.files.tree))

/-- Carries out operations one after the other; a fault does not stop them. -/
def performAll : List Operation → Session → List Reply × Session
  | [], s => ([], s)
  | operation :: rest, s =>
    let (reply, s) := perform operation s
    let (replies, s) := performAll rest s
    (reply :: replies, s)

end Session

end ScopedShell
