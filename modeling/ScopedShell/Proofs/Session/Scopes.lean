import ScopedShell.Proofs.Session.Commands

/-!
# Scopes of a session

The scopes that are open in a thread are the arguments with which they were entered, the innermost
first, each seen from the one around it (`joined`, `scopesOf`). Entering pushes one, leaving drops
the innermost, and nothing else touches them (`scopes_perform`), so the scoped directory at every
point of a script, also in the threads that it starts, is known from the operations before it
(`scopes_of_script`).
-/

namespace ScopedShell

namespace Operation

/-- Whether the operation opens or closes a scope in the thread in which it is carried out. -/
def isScoping : Operation → Bool
  | enter _ => true
  | leave _ => true
  | _ => false

/-- Whether the operation itself asks for the settings in force, if it is not given what it
needs. -/
def mayLoad : Operation → Bool
  | currentSettings => true
  | configureLogging _ => true
  | run _ => true
  | _ => false

def opened (args : List PathArgument) : Operation → List PathArgument
  | enter a => a :: args
  | leave _ => args.tail
  | _ => args

theorem opened_of_not_isScoping {op : Operation} (h : op.isScoping = false)
    (args : List PathArgument) : op.opened args = args := by
  cases op with
  | enter a => cases h
  | leave raising => cases h
  | _ => rfl

end Operation

namespace Session

/-! ## Directories of nested scopes -/

/-- The directory to which nested scopes lead: each argument is seen from the directory around it,
the outermost from the startup directory. -/
def joined (startup : Path) (args : List PathArgument) : Path :=
  args.foldr (fun a around => a.within around) startup

def scopesOf (startup : Path) : List PathArgument → List Path
  | [] => []
  | a :: outer => joined startup (a :: outer) :: scopesOf startup outer

theorem isAbsolute_joined {startup : Path} (h : startup.isAbsolute = true)
    (args : List PathArgument) : (joined startup args).isAbsolute = true := by
  induction args with
  | nil => exact h
  | cons a outer ih => exact Path.isAbsolute_join ih a.toPath

theorem joined_cons_of_isAbsolute {startup : Path} {a : PathArgument}
    (h : a.toPath.isAbsolute = true) (outer : List PathArgument) :
    joined startup (a :: outer) = a.toPath :=
  Path.join_of_isAbsolute h

theorem tail_scopesOf (startup : Path) (args : List PathArgument) :
    (scopesOf startup args).tail = scopesOf startup args.tail := by
  cases args <;> rfl

theorem directory_of_scopes {s : Session} {args : List PathArgument}
    (h : s.scopes = scopesOf s.startup args) : s.directory = joined s.startup args := by
  rw [directory, h]
  cases args <;> rfl

/-! ## One operation -/

/-- The sessions differ at most in what is kept of the settings and in the state of logging. -/
structure Agrees (s s' : Session) : Prop where
  files_eq : s'.files = s.files
  environment_eq : s'.environment = s.environment
  startup_eq : s'.startup = s.startup
  scopes_eq : s'.scopes = s.scopes

variable (s : Session)

/-- Configuring logging may load the settings, and changes nothing else but the state of logging. -/
theorem exists_configureLogging (entries : Option (List (Data × Data))) :
    ∃ settings logging, (s.configureLogging entries).2 =
      { s with settings := settings, logging := logging } := by
  unfold configureLogging
  cases entries with
  | some entries =>
    dsimp only
    split
    · exact ⟨s.settings, s.logging, rfl⟩
    · exact ⟨s.settings, _, rfl⟩
  | none =>
    obtain ⟨settings, hsettings⟩ := s.exists_currentSettings
    dsimp only
    rw [hsettings]
    split
    · exact ⟨settings, s.logging, rfl⟩
    · exact ⟨settings, _, rfl⟩

/-- Whatever may load the settings changes nothing but what is kept of them and the state of
logging. -/
theorem agrees_perform_of_mayLoad {op : Operation} (h : op.mayLoad = true) :
    s.Agrees (perform op s).2 := by
  have hframe : ∃ settings logging, (perform op s).2 =
      { s with settings := settings, logging := logging } := by
    cases op with
    | currentSettings =>
      obtain ⟨settings, hsettings⟩ := s.exists_currentSettings
      exact ⟨settings, s.logging, hsettings⟩
    | configureLogging entries => exact s.exists_configureLogging entries
    | run request => exact s.exists_run request
    | _ => cases h
  obtain ⟨settings, logging, hframe⟩ := hframe
  rw [hframe]
  exact ⟨rfl, rfl, rfl, rfl⟩

theorem scopes_leave : s.leave.scopes = s.scopes.tail := by
  unfold leave
  split <;> simp [observe, *]

/-- Whatever does not open or close a scope leaves all of them as they are, also where it fails. -/
theorem scopes_perform {op : Operation} (h : op.isScoping = false) :
    (perform op s).2.scopes = s.scopes := by
  cases op with
  | enter a => cases h
  | leave raising => cases h
  | currentSettings | configureLogging _ | run _ =>
    exact (s.agrees_perform_of_mayLoad (by rfl)).scopes_eq
  | _ => rfl

theorem startup_leave : s.leave.startup = s.startup := by
  unfold leave
  split <;> rfl

/-- No operation moves the directory in which the process was started. -/
theorem startup_perform (op : Operation) : (perform op s).2.startup = s.startup := by
  induction op generalizing s with
  | inThread op ih => exact ih { s with scopes := [] }
  | leave raising => exact s.startup_leave
  | currentSettings | configureLogging _ | run _ =>
    exact (s.agrees_perform_of_mayLoad (by rfl)).startup_eq
  | _ => rfl

theorem scopes_enter (a : PathArgument) :
    (perform (.enter a) s).2.scopes = a.within s.directory :: s.scopes := rfl

theorem perform_inThread (op : Operation) :
    (perform (.inThread op) s).1.outcome =
        .ok (.reply (perform op { s with scopes := [] }).1.outcome
          (perform op { s with scopes := [] }).1.launches) ∧
      (perform (.inThread op) s).2 =
        { (perform op { s with scopes := [] }).2 with scopes := s.scopes } :=
  ⟨rfl, rfl⟩

theorem scopes_perform_of_scopesOf {args : List PathArgument}
    (h : s.scopes = scopesOf s.startup args)
    (op : Operation) : (perform op s).2.scopes = scopesOf s.startup (op.opened args) := by
  cases hop : op.isScoping with
  | false => rw [s.scopes_perform hop, h, Operation.opened_of_not_isScoping hop]
  | true =>
    cases op with
    | enter a =>
      rw [scopes_enter, h, directory_of_scopes h]
      rfl
    | leave raising =>
      change s.leave.scopes = scopesOf s.startup args.tail
      rw [scopes_leave, h, tail_scopesOf]
    | _ => cases hop

/-! ## Scripts -/

theorem performAll_append (front rest : List Operation) :
    (performAll (front ++ rest) s).2 = (performAll rest (performAll front s).2).2 := by
  induction front generalizing s with
  | nil => rfl
  | cons op front ih => exact ih (perform op s).2

theorem startup_performAll (script : List Operation) :
    (performAll script s).2.startup = s.startup := by
  induction script generalizing s with
  | nil => rfl
  | cons op rest ih => exact (ih (perform op s).2).trans (s.startup_perform op)

def openedAll (script : List Operation) (args : List PathArgument) : List PathArgument :=
  script.foldl Operation.opened args

/-- A point in the run of a script: a thread has these operations still to carry out, the scopes
entered with these arguments are open in it, and it sees the session in this state. The script runs
in a thread with no scope open; an operation in a thread of its own is all the script of that
thread. -/
inductive At (script : List Operation) (start : Session) :
    List Operation → List PathArgument → Session → Prop
  | start : At script start script [] start
  | next {op : Operation} {rest : List Operation} {args : List PathArgument} {s : Session}
      (before : At script start (op :: rest) args s) :
      At script start rest (op.opened args) (perform op s).2
  | inThread {op : Operation} {rest : List Operation} {args : List PathArgument} {s : Session}
      (starter : At script start (.inThread op :: rest) args s) :
      At script start [op] [] { s with scopes := [] }

/-- Operations that leave every scope that they enter, and no other one. -/
inductive Nested : List Operation → Prop
  | nil : Nested []
  | cons {op : Operation} {rest : List Operation} (hop : op.isScoping = false)
      (hrest : Nested rest) : Nested (op :: rest)
  | scope (a : PathArgument) {body : List Operation} (raising : Bool) {rest : List Operation}
      (hbody : Nested body) (hrest : Nested rest) :
      Nested (.enter a :: (body ++ .leave raising :: rest))

variable {script : List Operation} {start : Session}

theorem At.startup {rest : List Operation} {args : List PathArgument} {s : Session}
    (h : At script start rest args s) : s.startup = start.startup := by
  induction h with
  | start => rfl
  | next before ih => rw [startup_perform, ih]
  | inThread starter ih => exact ih

theorem At.scopes (hstart : start.scopes = []) {rest : List Operation} {args : List PathArgument}
    {s : Session} (h : At script start rest args s) : s.scopes = scopesOf s.startup args := by
  induction h with
  | start => exact hstart
  | next before ih =>
    rw [startup_perform]
    exact scopes_perform_of_scopesOf _ ih _
  | inThread starter ih => rfl

theorem At.append {front rest : List Operation} {args : List PathArgument} {s : Session}
    (h : At script start (front ++ rest) args s) :
    At script start rest (openedAll front args) (performAll front s).2 := by
  induction front generalizing args s with
  | nil => exact h
  | cons op front ih => exact ih h.next

/-- A scope that is left after nested operations uncovers what was around it. -/
theorem scopes_leave_of_tail {s inner : Session} (hstartup : inner.startup = s.startup)
    (h : inner.scopes.tail = s.scopes) (raising : Bool) :
    (perform (.leave raising) inner).2.scopes = s.scopes ∧
      (perform (.leave raising) inner).1.outcome = .ok (.left s.directory raising) := by
  have hscopes : inner.leave.scopes = s.scopes := (scopes_leave inner).trans h
  have hdirectory : inner.leave.directory = s.directory := by
    rw [directory, hscopes, startup_leave, hstartup, directory]
  refine ⟨hscopes, ?_⟩
  rw [← hdirectory]
  rfl

theorem Nested.scopes {body : List Operation} (h : Nested body) (s : Session) :
    (performAll body s).2.scopes = s.scopes := by
  induction h generalizing s with
  | nil => rfl
  | cons hop _ ih => exact (ih _).trans (s.scopes_perform hop)
  | @scope a body raising rest _ _ ihbody ihrest =>
    change (performAll (body ++ .leave raising :: rest) (perform (.enter a) s).2).2.scopes = _
    rw [performAll_append]
    refine (ihrest _).trans (scopes_leave_of_tail ?_ ?_ raising).1
    · rw [startup_performAll, startup_perform]
    · rw [ihbody, scopes_enter, List.tail_cons]

/-- The scoped directory at every point of a script, in its own thread and in those that it starts,
is the startup directory joined with the arguments of the scopes that are open in the thread.
Leaving a scope uncovers what was around it, other operations touch no scope, and what is done in a
thread of its own starts without scopes and leaves those of its starter alone. -/
theorem scopes_of_script (hstart : start.scopes = []) :
    (∀ rest args s, At script start rest args s →
      s.directory = joined start.startup args ∧ s.directory.isAbsolute = true ∧
        s.scopes = scopesOf start.startup args) ∧
    (∀ front rest, script = front ++ rest →
      At script start rest (openedAll front []) (performAll front start).2) ∧
    (∀ (a : PathArgument) outer, a.toPath.isAbsolute = true →
      joined start.startup (a :: outer) = a.toPath) ∧
    (∀ s a body raising, Nested body →
      let inner := (performAll (.enter a :: body) s).2
      (perform (.leave raising) inner).2.scopes = s.scopes ∧
        (perform (.leave raising) inner).1.outcome = .ok (.left s.directory raising)) ∧
    (∀ s (op : Operation), op.isScoping = false → (perform op s).2.scopes = s.scopes) ∧
    (∀ s op,
      let fresh : Session := { s with scopes := [] }
      fresh.directory = s.startup ∧
        (perform (.inThread op) s).1.outcome =
          .ok (.reply (perform op fresh).1.outcome (perform op fresh).1.launches) ∧
        (perform (.inThread op) s).2 = { (perform op fresh).2 with scopes := s.scopes }) := by
  refine ⟨?_, ?_, fun a outer h => joined_cons_of_isAbsolute h outer, ?_,
    fun s op h => s.scopes_perform h, fun s op => ⟨rfl, s.perform_inThread op⟩⟩
  · intro rest args s hat
    have hscopes := hat.scopes hstart
    have hdirectory := directory_of_scopes hscopes
    have habsolute := isAbsolute_joined s.isAbsolute_startup args
    rw [hat.startup] at hscopes hdirectory habsolute
    exact ⟨hdirectory, hdirectory ▸ habsolute, hscopes⟩
  · rintro front rest rfl
    exact At.append .start
  · intro s a body raising hbody
    refine scopes_leave_of_tail (startup_performAll s _) ?_ raising
    change (performAll body (perform (.enter a) s).2).2.scopes.tail = s.scopes
    rw [hbody.scopes, scopes_enter, List.tail_cons]

theorem scopes_of_script_with_thread :
    let start : Session := { startup := Path.ofText "/d" }
    let front : List Operation := [.enter (.spelled "a"), .inThread (.enter (.spelled "b"))]
    start.scopes = [] ∧
      At (front ++ [.leave true]) start [.leave true] [.spelled "a"] (performAll front start).2 ∧
      (performAll front start).2.directory = Path.ofText "/d/a" ∧
      (perform (.leave true) (performAll front start).2).2.scopes = start.scopes := by
  intro start front
  obtain ⟨hdirectory, hpoint, _, hleave, _⟩ := @scopes_of_script (front ++ [.leave true]) start rfl
  have hat := hpoint front [.leave true] rfl
  have hnested : Nested [.inThread (.enter (.spelled "b"))] := .cons rfl .nil
  exact ⟨rfl, hat, (hdirectory _ _ _ hat).1.trans rfl,
    (hleave start (.spelled "a") [.inThread (.enter (.spelled "b"))] true hnested).1⟩

end Session

end ScopedShell
