import ScopedShell.Proofs.Session.Commands

/-!
# Records of operations

An operation that does not configure logging only adds records to it, and which ones does not depend
on what logging was before (`logging_perform`). They are logged on the loggers of the modules that
take part in the operation, all of which belong to the family (`logger_mem_of_mem_recordsOf`,
`inFamily_of_mem_moduleLoggers`); only a record that is emitted may be on any logger.
-/

namespace ScopedShell

namespace Log

def moduleLoggers : List Text := [globLogger, pathLogger, scopeLogger, processLogger]

theorem inFamily_of_mem_moduleLoggers : ∀ logger ∈ moduleLoggers, inFamily logger = true := by
  decide

end Log

namespace Traced

variable {α β : Type} {loggers others : List Text}

def LogsOn (loggers : List Text) (t : Traced α) : Prop :=
  ∀ r ∈ t.events.filterMap Event.record?, r.logger ∈ loggers

theorem logsOn_pure (a : α) : (pure a : Traced α).LogsOn loggers := nofun

theorem logsOn_ofExcept (outcome : Except Fault α) : (ofExcept outcome).LogsOn loggers := nofun

theorem logsOn_log {logger : Text} (h : logger ∈ loggers) (level : Log.Level) (text : Text) :
    (log logger level text).LogsOn loggers := by
  rintro r hr
  rw [List.mem_singleton.1 hr]
  exact h

theorem logsOn_launched (launch : Command.Launch) :
    (emit (.launched launch)).LogsOn loggers := nofun

theorem LogsOn.mono {t : Traced α} (h : t.LogsOn loggers) (hsub : loggers ⊆ others) :
    t.LogsOn others :=
  fun r hr => hsub (h r hr)

theorem LogsOn.bind {t : Traced α} {f : α → Traced β} (ht : t.LogsOn loggers)
    (hf : ∀ a, (f a).LogsOn loggers) : (t >>= f).LogsOn loggers := by
  cases hout : t.outcome with
  | error fault =>
    rw [bind_of_error hout]
    exact ht
  | ok a =>
    rw [bind_of_ok hout]
    intro r hr
    rw [List.filterMap_append, List.mem_append] at hr
    exact hr.elim (ht r) (hf a r)

theorem LogsOn.map {t : Traced α} (ht : t.LogsOn loggers) (f : α → β) :
    (f <$> t).LogsOn loggers :=
  ht.bind fun a => logsOn_pure (f a)

theorem LogsOn.collect {f : α → Traced (List β)} (hf : ∀ a, (f a).LogsOn loggers) (as : List α) :
    (collect f as).LogsOn loggers := by
  induction as with
  | nil => exact logsOn_pure []
  | cons a as ih => exact (hf a).bind fun _ => ih.bind fun _ => logsOn_pure _

end Traced

/-! ## Where computations log -/

theorem FileSystem.logsOn_children (fs : FileSystem) (scope p : Path) :
    (fs.children scope p).LogsOn [Log.pathLogger] := by
  rw [children]
  split
  · exact Traced.logsOn_pure _
  · exact Traced.logsOn_pure _
  · exact Traced.logsOn_pure _
  · exact Traced.logsOn_ofExcept _
  · exact (Traced.logsOn_log List.mem_cons_self _ _).bind fun _ => Traced.logsOn_pure _

namespace Glob

variable (fs : FileSystem) (scope : Path)

def loggers : List Text := [Log.globLogger, Log.pathLogger]

theorem logsOn_children (p : Path) : (fs.children scope p).LogsOn loggers :=
  (fs.logsOn_children scope p).mono (List.subset_cons_self _ _)

theorem logsOn_logSkipped (path : Text) (why : Refusal) : (logSkipped path why).LogsOn loggers :=
  Traced.logsOn_log List.mem_cons_self _ _

theorem logsOn_visit (bound : Nat) (isStart : Bool) (pending : List Path) :
    (visit fs scope bound isStart pending).LogsOn loggers := by
  induction bound generalizing isStart pending with
  | zero => cases pending <;> exact Traced.logsOn_pure _
  | succ bound ih =>
    cases pending with
    | nil => exact Traced.logsOn_pure _
    | cons current pending =>
      rw [visit]
      split
      · exact (logsOn_logSkipped _ _).bind fun _ => ih _ _
      · exact ih _ _
      · split
        · exact (logsOn_logSkipped _ _).bind fun _ => ih _ _
        · exact (ih _ _).bind fun _ => Traced.logsOn_pure _
        · exact (logsOn_children fs scope _).bind
            fun _ => (ih _ _).bind fun _ => Traced.logsOn_pure _

theorem logsOn_expand (candidates : List Path) (segment : Text) :
    (expand fs scope candidates segment).LogsOn loggers := by
  rw [expand]
  split
  · exact .collect (logsOn_children fs scope) _
  · split
    · exact Traced.logsOn_pure _
    · split
      · exact .collect (fun start => logsOn_visit fs scope _ _ [start]) _
      · exact (Traced.logsOn_ofExcept _).bind fun _ =>
          .collect (fun p => (logsOn_children fs scope p).bind fun _ => Traced.logsOn_pure _) _

theorem logsOn_expandAll (pattern : Text) (candidates : List Path) (segments : List Text) :
    (expandAll fs scope pattern candidates segments).LogsOn loggers := by
  induction segments generalizing candidates with
  | nil => exact Traced.logsOn_pure _
  | cons segment segments ih =>
    exact (logsOn_expand fs scope candidates segment).bind fun next =>
      (Traced.logsOn_log List.mem_cons_self _ _).bind fun _ => ih next

theorem logsOn_glob (env : Environment) (pattern : Text) :
    (glob fs env scope pattern).LogsOn loggers :=
  (Traced.logsOn_ofExcept _).bind fun start => logsOn_expandAll fs scope pattern [start] _

end Glob

theorem Command.logsOn_run (env : Environment) (arguments : List Text) (directory : Path)
    (dryRun : Bool) (options : Options) (ending : Ending) :
    (run env arguments directory dryRun options ending).LogsOn [Log.processLogger] := by
  have hlog := fun level text =>
    @Traced.logsOn_log [Log.processLogger] _ List.mem_cons_self level text
  rw [run]
  split
  · exact (hlog _ _).bind fun _ => Traced.logsOn_pure _
  · refine (hlog _ _).bind fun _ => (Traced.logsOn_launched _).bind fun _ => ?_
    dsimp only
    split
    · exact Traced.logsOn_pure _
    · refine (hlog _ _).bind fun _ => ?_
      split
      · exact Traced.logsOn_ofExcept _
      · exact Traced.logsOn_pure _

namespace Operation

def configures : Operation → Bool
  | configureLogging _ => true
  | inThread op => op.configures
  | _ => false

def loggers : Operation → List Text
  | glob _ => Glob.loggers
  | children _ => [Log.pathLogger]
  | enter _ => [Log.scopeLogger]
  | leave _ => [Log.scopeLogger]
  | run _ => [Log.processLogger]
  | emit record => [record.logger]
  | inThread op => op.loggers
  | _ => []

end Operation

namespace Logging

/-- Neither the root logger nor the family keeps anything back. -/
def IsPermissive (state : Logging) : Prop :=
  state.rootThreshold ≤ Log.Level.debug.number ∧ state.threshold = 0

theorem IsPermissive.passes {state : Logging} (h : state.IsPermissive) (r : Log.Record) :
    state.passes r = true := by
  have hleast : Log.Level.debug.number ≤ r.level.number := by cases r.level <;> decide
  have hthreshold : state.thresholdOf r.logger = state.rootThreshold :=
    if_neg fun hown => hown.2 h.2
  rw [Logging.passes, hthreshold]
  exact decide_eq_true (Nat.le_trans h.1 hleast)

theorem rootThreshold_observe (state : Logging) (r : Log.Record) :
    (state.observe r).rootThreshold = state.rootThreshold := by
  rw [observe]
  split <;> rfl

theorem threshold_observe (state : Logging) (r : Log.Record) :
    (state.observe r).threshold = state.threshold := by
  rw [observe]
  split <;> rfl

theorem IsPermissive.observe {state : Logging} (h : state.IsPermissive) (r : Log.Record) :
    (state.observe r).IsPermissive := by
  rw [IsPermissive, rootThreshold_observe, threshold_observe]
  exact h

theorem format_foldl_observe (state : Logging) (records : List Log.Record) :
    (records.foldl observe state).format = state.format := by
  induction records generalizing state with
  | nil => rfl
  | cons r records ih =>
    rw [List.foldl_cons, ih, observe]
    split <;> rfl

theorem journal_foldl_observe {state : Logging} (h : state.IsPermissive)
    (records : List Log.Record) :
    (records.foldl observe state).journal = state.journal ++ records := by
  induction records generalizing state with
  | nil => exact (List.append_nil _).symm
  | cons r records ih =>
    rw [List.foldl_cons, ih (h.observe r), observe, if_pos (h.passes r), List.append_assoc]
    rfl

theorem isPermissive_init : ({} : Logging).IsPermissive :=
  ⟨Nat.le_refl _, rfl⟩

end Logging

namespace Session

/-- Which records an operation adds does not depend on what logging was. -/
theorem exists_records_perform {op : Operation} (hop : op.configures = false) (s : Session) :
    ∃ records : List Log.Record, (∀ r ∈ records, r.logger ∈ op.loggers) ∧
      ∀ logging, (perform op { s with logging := logging }).2.logging =
        records.foldl Logging.observe logging := by
  have hnone : ∃ records : List Log.Record, (∀ r ∈ records, r.logger ∈ op.loggers) ∧
      ∀ logging, logging = records.foldl Logging.observe logging := ⟨[], nofun, fun _ => rfl⟩
  induction op generalizing s with
  | configureLogging entries => cases hop
  | inThread op ih => exact ih hop { s with scopes := [] } hnone
  | glob pattern =>
    exact ⟨_, (Glob.logsOn_glob s.files s.directory s.environment pattern.text).map Value.paths,
      fun _ => rfl⟩
  | children path =>
    exact ⟨_, (s.files.logsOn_children s.directory path.toPath).map Value.paths, fun _ => rfl⟩
  | enter path =>
    refine ⟨[⟨Log.scopeLogger, .debug, ("cwd -> " : Text) ++ (s.absolute path).text⟩], ?_,
      fun _ => rfl⟩
    exact List.forall_mem_singleton.2 List.mem_cons_self
  | leave raising =>
    cases hscopes : s.scopes with
    | nil =>
      refine ⟨[], nofun, fun logging => ?_⟩
      simp only [perform, leave]
      rfl
    | cons inner outer =>
      let restored : Session := { s with scopes := outer }
      refine ⟨[⟨Log.scopeLogger, .debug, ("cwd <- " : Text) ++ restored.directory.text⟩], ?_,
        fun logging => ?_⟩
      · exact List.forall_mem_singleton.2 List.mem_cons_self
      · simp only [perform, leave]
        rfl
  | emit record =>
    exact ⟨[record], List.forall_mem_singleton.2 List.mem_cons_self, fun _ => rfl⟩
  | currentSettings =>
    refine ⟨[], nofun, fun logging => ?_⟩
    obtain ⟨settings, hframe⟩ := { s with logging := logging }.exists_currentSettings
    exact congrArg Session.logging hframe
  | run request =>
    cases harguments : request.source.arguments with
    | error fault =>
      refine ⟨[], nofun, fun logging => ?_⟩
      exact congrArg (·.2.logging) (run_of_fault harguments)
    | ok arguments =>
      rcases s.settleDryRun_cases request with ⟨dryRun, settings, hsettle⟩ | ⟨fault, hsettle⟩
      · refine ⟨_, (Command.logsOn_run s.environment arguments (s.workingDirectory request) dryRun
          request.options request.ending).map Value.command, fun logging => ?_⟩
        change ({ s with logging := logging }.run request).2.logging = _
        rw [run_of_arguments harguments, hsettle s.scopes logging]
        rfl
      · refine ⟨[], nofun, fun logging => ?_⟩
        change ({ s with logging := logging }.run request).2.logging = _
        rw [run_of_arguments harguments, hsettle s.scopes logging]
        rfl
  | _ => exact hnone

/-- The records of an operation, as they are where logging keeps nothing back. -/
def recordsOf (op : Operation) (s : Session) : List Log.Record :=
  (perform op { s with logging := {} }).2.logging.journal

variable {op : Operation}

/-- All that an operation does to logging is that its records are observed. -/
theorem logging_perform (hop : op.configures = false) (s : Session) :
    (perform op s).2.logging = (recordsOf op s).foldl Logging.observe s.logging := by
  obtain ⟨records, _, hperform⟩ := exists_records_perform hop s
  have hrecords : recordsOf op s = records := by
    rw [recordsOf, hperform, Logging.journal_foldl_observe Logging.isPermissive_init]
    rfl
  rw [hrecords, ← hperform]

theorem logger_mem_of_mem_recordsOf (hop : op.configures = false) {s : Session} {r : Log.Record}
    (hr : r ∈ recordsOf op s) : r.logger ∈ op.loggers := by
  obtain ⟨records, hloggers, hperform⟩ := exists_records_perform hop s
  rw [recordsOf, hperform, Logging.journal_foldl_observe Logging.isPermissive_init] at hr
  exact hloggers r hr

end Session

end ScopedShell
