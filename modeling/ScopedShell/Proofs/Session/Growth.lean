import ScopedShell.Proofs.FileSystem.Making
import ScopedShell.Proofs.Session.Scopes

/-!
# Growth of the files of a session

Of the operations only two make directories, each by itself or in a thread of its own; all others
leave the files as they are (`files_perform`). The files therefore only grow along a script in which
nothing is put there or taken away from outside (`grows_of_at`).

A temporary directory is new when it is made, so the location to which its path leads is none of
those that were there before, and no later one is made there again (`pairwise_temporaries`).
-/

namespace ScopedShell

namespace Operation

/-- Whether the operation puts something into the file system, or takes something away, from outside
of the session. -/
def isForeign : Operation → Bool
  | declare _ => true
  | remove _ => true
  | inThread op => op.isForeign
  | _ => false

def makesDirectories : Operation → Bool
  | ensureDirectory _ => true
  | makeTemporary _ _ => true
  | inThread op => op.makesDirectories
  | _ => false

def temporary? : Operation → Except Fault Value → Option Path
  | makeTemporary _ _, .ok (.path p) => some p
  | inThread op, .ok (.reply outcome _) => op.temporary? outcome
  | _, _ => none

end Operation

namespace Session

/-! ## One operation -/

variable (s : Session)

theorem files_leave : s.leave.files = s.files := by
  unfold leave
  split <;> rfl

/-- Whatever does not make directories leaves the files as they are, also where it fails. -/
theorem files_perform {op : Operation} (hforeign : op.isForeign = false)
    (hmakes : op.makesDirectories = false) : (perform op s).2.files = s.files := by
  induction op generalizing s with
  | inThread op ih => exact ih { s with scopes := [] } hforeign hmakes
  | leave raising => exact s.files_leave
  | currentSettings | configureLogging _ | run _ =>
    exact (s.agrees_perform_of_mayLoad (by rfl)).files_eq
  | declare declaration => cases hforeign
  | remove path => cases hforeign
  | ensureDirectory path => cases hmakes
  | makeTemporary beginning names => cases hmakes
  | _ => rfl

theorem grows_perform {op : Operation} (hforeign : op.isForeign = false) :
    s.files.Grows (perform op s).2.files := by
  induction op generalizing s with
  | inThread op ih => exact ih { s with scopes := [] } hforeign
  | ensureDirectory path => exact s.files.grows_ensureDirectory s.directory path.toPath
  | makeTemporary beginning names =>
    exact s.files.grows_makeTemporary s.temporaryParent beginning names
  | _ =>
    rw [s.files_perform hforeign rfl]
    exact .refl

/-- The path of a temporary directory was vacant, and the directory is all that was made. -/
theorem reserved_of_temporary {op : Operation} {p : Path}
    (h : op.temporary? (perform op s).1.outcome = some p) :
    ∃ l name, s.files.Reserved p l name ∧
      (perform op s).2.files = s.files.insert (l ++ [name]) (.directory {}) := by
  induction op generalizing s with
  | inThread op ih => exact ih { s with scopes := [] } h
  | makeTemporary beginning names =>
    cases hmade : s.files.makeTemporary s.temporaryParent beginning names with
    | mk outcome files =>
      cases outcome with
      | error fault => simp [perform, hmade, answerWith, Except.map, Operation.temporary?] at h
      | ok made =>
        simp only [perform, hmade, answerWith, Except.map, Operation.temporary?,
          Option.some.injEq] at h ⊢
        subst h
        exact FileSystem.exists_reserved_of_makeTemporary s.isAbsolute_temporaryParent hmade
  | _ => simp [Operation.temporary?] at h

/-! ## Scripts -/

variable {s} {script : List Operation} {start : Session}

theorem grows_performAll (hscript : ∀ op ∈ script, op.isForeign = false) (s : Session) :
    s.files.Grows (performAll script s).2.files := by
  induction script generalizing s with
  | nil => exact .refl
  | cons op rest ih =>
    rw [List.forall_mem_cons] at hscript
    exact (s.grows_perform hscript.1).trans (ih hscript.2 (perform op s).2)

theorem At.isForeign (hscript : ∀ op ∈ script, op.isForeign = false) {rest : List Operation}
    {args : List PathArgument} (h : At script start rest args s) :
    ∀ op ∈ rest, op.isForeign = false := by
  induction h with
  | start => exact hscript
  | next before ih => exact (List.forall_mem_cons.1 ih).2
  | inThread starter ih =>
    exact List.forall_mem_singleton.2 (List.forall_mem_cons.1 ih).1

/-- The files at a point of a script come from those at the start by making directories. -/
theorem grows_of_at (hscript : ∀ op ∈ script, op.isForeign = false) {rest : List Operation}
    {args : List PathArgument} (h : At script start rest args s) :
    start.files.Grows s.files := by
  induction h with
  | start => exact .refl
  | @next op rest args s before ih =>
    exact ih.trans (s.grows_perform ((before.isForeign hscript) op List.mem_cons_self))
  | inThread starter ih => exact ih

def temporaries (script : List Operation) (replies : List Reply) : List Path :=
  (List.zipWith (fun op reply => (op.temporary? reply.outcome).toList) script replies).flatten

theorem temporaries_performAll_cons (op : Operation) (rest : List Operation) (s : Session) :
    temporaries (op :: rest) (performAll (op :: rest) s).1 =
      (op.temporary? (perform op s).1.outcome).toList ++
        temporaries rest (performAll rest (perform op s).2).1 := rfl

/-- A temporary directory is still there at the end of the script, at a location at which there was
nothing at its start. -/
theorem exists_location_of_mem_temporaries (hscript : ∀ op ∈ script, op.isForeign = false)
    {s : Session} {p : Path} (h : p ∈ temporaries script (performAll script s).1) :
    ∃ l, s.files.node? l = none ∧ (performAll script s).2.files.locate true p.text = .ok l ∧
      (performAll script s).2.files.isDirectoryAt l = true := by
  induction script generalizing s with
  | nil => cases h
  | cons op rest ih =>
    rw [List.forall_mem_cons] at hscript
    rw [temporaries_performAll_cons, List.mem_append, Option.mem_toList] at h
    cases h with
    | inl hmade =>
      obtain ⟨l, name, hreserved, hfiles⟩ := s.reserved_of_temporary hmade
      have hgrows := grows_performAll hscript.2 (perform op s).2
      rw [hfiles] at hgrows
      refine ⟨l ++ [name], hreserved.vacant.node?_eq_none,
        hgrows.locate_eq_ok (hreserved.locate_eq true),
        hgrows.isDirectoryAt ?_⟩
      rw [FileSystem.isDirectoryAt_iff_exists_denied]
      exact ⟨{}, by rw [hreserved.vacant.node?_made]⟩
    | inr hlater =>
      obtain ⟨l, hnew, hlocate, hdirectory⟩ := ih hscript.2 hlater
      exact ⟨l, (s.grows_perform hscript.1).node?_eq_none hnew, hlocate, hdirectory⟩

/-- No two temporary directories of a script have the same path or are the same directory. -/
theorem pairwise_temporaries (hscript : ∀ op ∈ script, op.isForeign = false) (s : Session) :
    (temporaries script (performAll script s).1).Pairwise fun p q => p ≠ q ∧
      (performAll script s).2.files.locate true p.text ≠
        (performAll script s).2.files.locate true q.text := by
  induction script generalizing s with
  | nil => exact .nil
  | cons op rest ih =>
    rw [List.forall_mem_cons] at hscript
    rw [temporaries_performAll_cons, List.pairwise_append]
    refine ⟨by cases op.temporary? _ <;> simp, ih hscript.2 _, ?_⟩
    intro p hp q hq
    rw [Option.mem_toList] at hp
    obtain ⟨l, name, hreserved, hfiles⟩ := s.reserved_of_temporary hp
    obtain ⟨l', hnew, hlocate', _⟩ := exists_location_of_mem_temporaries hscript.2 hq
    have hlocate := (grows_performAll hscript.2 (perform op s).2).locate_eq_ok
      (hfiles ▸ hreserved.locate_eq true)
    have hother : l ++ [name] ≠ l' := by
      rintro rfl
      rw [hfiles, hreserved.vacant.node?_made] at hnew
      cases hnew
    have hdiffer : (performAll rest (perform op s).2).2.files.locate true p.text ≠
        (performAll rest (perform op s).2).2.files.locate true q.text := by
      rw [hlocate, hlocate']
      exact fun heq => hother (Except.ok.inj heq)
    exact ⟨fun heq => hdiffer (heq ▸ rfl), hdiffer⟩

/-- Along a script that has no operation from outside, in its own thread and in those that it
starts, the files only grow: every entry stays as it is, listings get longer at their end only, and
whatever is new was an empty directory when it was made. Only the operations that make directories
make any. The path of a temporary directory named nothing before, and names an empty directory right
after; all temporary directories of the script differ. -/
theorem files_of_script (hscript : ∀ op ∈ script, op.isForeign = false) :
    (∀ rest args s, At script start rest args s →
      ∀ rest' args' s', At rest s rest' args' s' →
        (∀ l node, s.files.node? l = some node → s'.files.node? l = some node) ∧
        (∀ l, s.files.namesIn l <+: s'.files.namesIn l) ∧
        (∀ p, s.files.listing p <+: s'.files.listing p) ∧
        ∀ l node, s.files.node? l = none → s'.files.node? l = some node →
          node = .directory {} ∧ ∃ before : FileSystem,
            s.files.Grows before ∧ before.node? l = none ∧
            (before.insert l (.directory {})).namesIn l = [] ∧
            (before.insert l (.directory {})).Grows s'.files) ∧
    (∀ op rest args s, At script start (op :: rest) args s →
      (op.makesDirectories = false → (perform op s).2.files = s.files) ∧
      (perform (.inThread op) s).2.files = (perform op { s with scopes := [] }).2.files ∧
      ∀ p, op.temporary? (perform op s).1.outcome = some p →
        p.isAbsolute = true ∧ s.files.linkStatus p.text = .error .missing ∧
        (perform op s).2.files.linkStatus p.text = .ok (.directory {}) ∧
        (perform op s).2.files.list p.text = .ok []) ∧
    let finished := performAll script start
    (∀ p ∈ temporaries script finished.1, ∃ l, start.files.node? l = none ∧
      finished.2.files.locate true p.text = .ok l ∧ finished.2.files.isDirectoryAt l = true) ∧
    (temporaries script finished.1).Pairwise fun p q => p ≠ q ∧
      finished.2.files.locate true p.text ≠ finished.2.files.locate true q.text := by
  refine ⟨?_, ?_, fun p hp => exists_location_of_mem_temporaries hscript hp,
    pairwise_temporaries hscript start⟩
  · intro rest args s hat rest' args' s' hlater
    have hgrows := grows_of_at (hat.isForeign hscript) hlater
    exact ⟨fun l node => hgrows.node?_eq_some, hgrows.namesIn_prefix, hgrows.listing_prefix,
      fun l node => hgrows.exists_moment⟩
  · intro op rest args s hat
    have hforeign := hat.isForeign hscript op List.mem_cons_self
    refine ⟨fun hmakes => s.files_perform hforeign hmakes, rfl, fun p hp => ?_⟩
    obtain ⟨l, name, hreserved, hfiles⟩ := s.reserved_of_temporary hp
    rw [hfiles]
    exact ⟨hreserved.isAbsolute, hreserved.linkStatus_eq, hreserved.linkStatus_made,
      hreserved.list_made⟩

theorem files_of_script_with_thread :
    let start : Session := { files := FileSystem.empty.insert ["tmp"] (.directory {}) }
    let script : List Operation :=
      [.inThread (.makeTemporary "a" ["x"]), .makeTemporary "a" ["x", "y"]]
    let finished := performAll script start
    (∀ op ∈ script, op.isForeign = false) ∧
      temporaries script finished.1 = [Path.ofText "/tmp/a_x", Path.ofText "/tmp/a_y"] ∧
      finished.2.files.locate true (Path.ofText "/tmp/a_x").text ≠
        finished.2.files.locate true (Path.ofText "/tmp/a_y").text := by
  intro start script finished
  have hscript : ∀ op ∈ script, op.isForeign = false := by decide
  obtain ⟨_, _, _, hdiffer⟩ := @files_of_script script start hscript
  have hfinished : performAll script start = finished := rfl
  have hpaths : temporaries script finished.1 =
      [Path.ofText "/tmp/a_x", Path.ofText "/tmp/a_y"] := by
    decide +kernel
  rw [hfinished, hpaths, List.pairwise_cons] at hdiffer
  exact ⟨hscript, hpaths, (hdiffer.1 _ List.mem_cons_self).2⟩

end Session

end ScopedShell
