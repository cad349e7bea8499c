import ScopedShell.Proofs.Session.Commands

/-!
# Operations inside a scope

What an argument names inside a scope, it names outside of it once it is joined to the directory of
the scope (`absolute_outside`). Apart from the scopes and the records, the sessions inside and
outside are the same, so an operation that only asks for paths, for the files, for the environment
and for the settings does inside what its `Counterpart` does outside (`SameInside`): it gives the
same reply and leaves the same session, but for the two records of the scope itself.
-/

namespace ScopedShell

namespace Logging

theorem observeAll_append (state : Logging) (events later : List Event) :
    state.observeAll (events ++ later) = (state.observeAll events).observeAll later := by
  rw [observeAll, List.filterMap_append, List.foldl_append]
  rfl

end Logging

namespace FileSystem

/-! ## Scopes from which a path is the same -/

variable (fs : FileSystem) {scope scope' p p' : Path} (h : scope.join p = scope'.join p')

include h

theorem canonicalize_congr : fs.canonicalize scope p = fs.canonicalize scope' p' := by
  rw [canonicalize, canonicalize, h]

theorem children_congr : fs.children scope p = fs.children scope' p' := by
  rw [children, children, h]

theorem ensureDirectory_congr : fs.ensureDirectory scope p = fs.ensureDirectory scope' p' := by
  rw [ensureDirectory, ensureDirectory, h]

end FileSystem

namespace Session

variable (s : Session) (p : PathArgument)

def inside : Session := (perform (.enter p) s).2

def outside (q : PathArgument) : PathArgument :=
  .path ((PathArgument.path (s.absolute p)).join (.path q))

def entered : Event :=
  .logged ⟨Log.scopeLogger, .debug, ("cwd -> " : Text) ++ (s.absolute p).text⟩

def left : Event :=
  .logged ⟨Log.scopeLogger, .debug, ("cwd <- " : Text) ++ s.directory.text⟩

/-- An operation inside a scope, and the one outside of it whose paths are joined to the directory
of the scope. A command without a directory of its own is run in that of the scope. -/
inductive Counterpart : Operation → Operation → Prop
  | absolute (q : PathArgument) : Counterpart (.absolute q) (.absolute (s.outside p q))
  | canonicalize (q : PathArgument) : Counterpart (.canonicalize q) (.canonicalize (s.outside p q))
  | children (q : PathArgument) : Counterpart (.children q) (.children (s.outside p q))
  | ensureDirectory (q : PathArgument) :
      Counterpart (.ensureDirectory q) (.ensureDirectory (s.outside p q))
  | parent (q : PathArgument) : Counterpart (.parent q) (.parent (s.outside p q))
  | baseName (q : PathArgument) : Counterpart (.baseName q) (.baseName (s.outside p q))
  | relativeTo (base q : PathArgument) :
      Counterpart (.relativeTo base q) (.relativeTo (s.outside p base) (s.outside p q))
  | runIn (request : CommandRequest) (q : PathArgument) :
      Counterpart (.run { request with directory := some q })
        (.run { request with directory := some (s.outside p q) })
  | run (request : CommandRequest) :
      Counterpart (.run { request with directory := none })
        (.run { request with directory := some p })

/-- One operation inside a scope and another one outside of it give the same reply and leave the
same files behind. When the scope is left, the session is that outside with the two records of the
scope around those of the operation. -/
structure SameInside (inner outer : Operation) : Prop where
  reply_eq : (perform inner (s.inside p)).1 = (perform outer s).1
  files_eq : (perform inner (s.inside p)).2.files = (perform outer s).2.files
  exists_events : ∃ (t : Session) (events : List Event), t.logging = s.logging ∧
    t.scopes = s.scopes ∧ (perform outer s).2 = t.observe events ∧
    ∀ raising, (perform (.leave raising) (perform inner (s.inside p)).2).2 =
      t.observe (s.entered p :: events ++ [s.left])

variable {s} {p}

theorem absolute_outside (hs : s.directory.isAbsolute = true) (p q : PathArgument) :
    (s.inside p).absolute q = s.absolute (s.outside p q) := by
  have hjoined : (s.outside p q).toPath = (s.absolute p).join q.toPath :=
    PathArgument.join_path (.path (s.absolute p)) q
  have habsolute : (s.outside p q).toPath.isAbsolute = true := by
    rw [hjoined]
    exact Path.isAbsolute_join (Path.isAbsolute_join hs _) _
  rw [absolute, absolute, PathArgument.within, PathArgument.within,
    Path.join_of_isAbsolute habsolute, hjoined]
  rfl

/-- It is enough that both operations answer with the same computation, after the same change to the
files and the settings. -/
theorem sameInside_of_answer {inner outer : Operation} {files : FileSystem}
    {settings : Option Settings} {t : Traced Value}
    (hinner : perform inner (s.inside p) =
      { s.inside p with files := files, settings := settings }.answer t)
    (houter : perform outer s = { s with files := files, settings := settings }.answer t) :
    SameInside s p inner outer where
  reply_eq := by rw [hinner, houter]; rfl
  files_eq := by rw [hinner, houter]; rfl
  exists_events := by
    refine ⟨{ s with files := files, settings := settings }, t.events, rfl, rfl,
      by rw [houter]; rfl,
      fun raising => ?_⟩
    rw [hinner, observe, ← List.singleton_append, Logging.observeAll_append,
      Logging.observeAll_append]
    rfl

theorem sameInside_of_answerWith {inner outer : Operation} {outcome : Except Fault Value}
    (hinner : perform inner (s.inside p) = (s.inside p).answerWith outcome)
    (houter : perform outer s = s.answerWith outcome) : SameInside s p inner outer :=
  @sameInside_of_answer s p inner outer s.files s.settings ⟨outcome, []⟩ hinner houter

/-! ## Each operation -/

theorem perform_ensureDirectory (s : Session) (a : PathArgument) :
    perform (.ensureDirectory a) s =
      { s with files := (s.files.ensureDirectory s.directory a.toPath).2 }.answer
        ⟨(s.files.ensureDirectory s.directory a.toPath).1.map .flag, []⟩ := rfl

/-- Nothing of a command depends on the scopes but the directory from which it is run. -/
theorem sameInside_run (request : CommandRequest) {directory directory' : Option PathArgument}
    (h : (s.inside p).workingDirectory { request with directory := directory } =
      s.workingDirectory { request with directory := directory' }) :
    SameInside s p (.run { request with directory := directory })
      (.run { request with directory := directory' }) := by
  cases harguments : request.source.arguments with
  | error fault =>
    exact sameInside_of_answerWith (run_of_fault harguments) (run_of_fault harguments)
  | ok arguments =>
    have hinner :=
      @run_of_arguments (s.inside p) { request with directory := directory } _ harguments
    have houter := @run_of_arguments s { request with directory := directory' } _ harguments
    rw [h] at hinner
    -- inside the scope the same is settled, since only scopes and records are others
    rcases s.settleDryRun_cases request with ⟨dryRun, settings, hsettle⟩ | ⟨fault, hsettle⟩
    · have hsettleInner : (s.inside p).settleDryRun { request with directory := directory } =
          (.ok dryRun, { s.inside p with settings := settings }) := hsettle _ _
      have hsettleOuter : s.settleDryRun { request with directory := directory' } =
          (.ok dryRun, { s with settings := settings }) := hsettle _ _
      rw [hsettleInner] at hinner
      rw [hsettleOuter] at houter
      exact @sameInside_of_answer s p _ _ s.files settings _ hinner houter
    · have hsettleInner : (s.inside p).settleDryRun { request with directory := directory } =
          (.error fault, s.inside p) := hsettle _ _
      have hsettleOuter : s.settleDryRun { request with directory := directory' } =
          (.error fault, s) := hsettle _ _
      rw [hsettleInner] at hinner
      rw [hsettleOuter] at houter
      exact sameInside_of_answerWith hinner houter

theorem Counterpart.sameInside (hs : s.directory.isAbsolute = true) {inner outer : Operation}
    (h : Counterpart s p inner outer) : SameInside s p inner outer := by
  cases h with
  | absolute q =>
    refine sameInside_of_answerWith ?_ rfl
    rw [← absolute_outside hs p q]
    rfl
  | canonicalize q =>
    refine sameInside_of_answerWith ?_ rfl
    rw [← s.files.canonicalize_congr (absolute_outside hs p q)]
    rfl
  | children q =>
    have hchildren := s.files.children_congr (absolute_outside hs p q)
    exact @sameInside_of_answer s p _ _ s.files s.settings _ (by rw [← hchildren]; rfl) rfl
  | ensureDirectory q =>
    have hmade := s.files.ensureDirectory_congr (absolute_outside hs p q)
    refine sameInside_of_answer ?_ (perform_ensureDirectory s (s.outside p q))
    rw [perform_ensureDirectory, ← hmade]
    rfl
  | parent q =>
    refine sameInside_of_answerWith ?_ rfl
    rw [← absolute_outside hs p q]
    rfl
  | baseName q =>
    refine sameInside_of_answerWith ?_ rfl
    rw [← absolute_outside hs p q]
    rfl
  | relativeTo base q =>
    refine sameInside_of_answerWith ?_ rfl
    rw [← absolute_outside hs p base, ← absolute_outside hs p q]
    rfl
  | runIn request q => exact sameInside_run request (absolute_outside hs p q)
  | run request => exact sameInside_run request rfl

/-! ## Scopes inside a scope -/

theorem inside_eq (s : Session) (a : PathArgument) :
    s.inside a = { s with
      scopes := s.absolute a :: s.scopes, logging := s.logging.observeAll [s.entered a] } := rfl

/-- What an operation does inside a scope is what its counterpart does outside of it. A scope that
is entered inside of another one has the same directory as the one entered outside; files,
environment and settings are the same in both, and nothing but records is left of either of them in
the end. -/
theorem same_inside_scope (hs : s.directory.isAbsolute = true) (p : PathArgument) :
    (∀ inner outer, Counterpart s p inner outer → SameInside s p inner outer) ∧
    ∀ q, let joined := s.outside p q
      (perform (.enter q) (s.inside p)).1 = (perform (.enter joined) s).1 ∧
      s.inside joined = { s with
        scopes := s.absolute joined :: s.scopes
        logging := s.logging.observeAll [s.entered joined] } ∧
      (s.inside p).inside q = { s with
        scopes := s.absolute joined :: s.absolute p :: s.scopes
        logging := s.logging.observeAll [s.entered p, s.entered joined] } ∧
      (∀ raising, (perform (.leave raising) (s.inside joined)).2 =
        s.observe [s.entered joined, s.left]) ∧
      ∀ raising raising',
        (perform (.leave raising') (perform (.leave raising) ((s.inside p).inside q)).2).2 =
          s.observe [s.entered p, s.entered joined, (s.inside p).left, s.left] := by
  refine ⟨fun inner outer h => h.sameInside hs, fun q => ?_⟩
  have htarget := absolute_outside hs p q
  have hentered : (s.inside p).entered q = s.entered (s.outside p q) := by
    rw [entered, htarget]
    rfl
  have hinside : (s.inside p).inside q = { s with
      scopes := s.absolute (s.outside p q) :: s.absolute p :: s.scopes
      logging := s.logging.observeAll [s.entered p, s.entered (s.outside p q)] } := by
    rw [inside_eq (s.inside p), hentered, htarget]
    rfl
  refine ⟨?_, rfl, hinside, fun _ => rfl, fun _ _ => ?_⟩
  · change (⟨.ok (.path ((s.inside p).absolute q)), []⟩ : Reply) = _
    rw [htarget]
    rfl
  · have hevents : [s.entered p, s.entered (s.outside p q), (s.inside p).left, s.left] =
        [s.entered p, s.entered (s.outside p q)] ++ [(s.inside p).left] ++ [s.left] := rfl
    rw [hinside, hevents, observe, Logging.observeAll_append, Logging.observeAll_append]
    rfl

theorem same_inside_scope_of_command :
    let s : Session := {}
    let request : CommandRequest := { source := .words [.spelled "ls"], dryRun := some false }
    let directories (reply : Reply) := reply.launches.map Command.Launch.directory
    s.directory.isAbsolute = true ∧
      directories (perform (.run { request with directory := some (.spelled "a//b") }) s).1 =
        [("/a/b" : Text)] ∧
      directories (perform (.run request) (s.inside (.spelled "a//b"))).1 =
        [("/a/b" : Text)] := by
  intro s request directories
  have hsame := (@same_inside_scope s rfl (.spelled "a//b")).1 _ _ (.run request)
  refine ⟨rfl, rfl, ?_⟩
  change directories (perform (.run { request with directory := none }) _).1 = _
  rw [hsame.reply_eq]
  rfl

end Session

end ScopedShell
