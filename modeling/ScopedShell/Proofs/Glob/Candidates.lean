import Mathlib.Data.List.Basic
import ScopedShell.Proofs.Glob.Braces
import ScopedShell.Proofs.Glob.Routes
import ScopedShell.Proofs.Glob.Visits

/-!
# Candidates

`successors` are the candidates that one segment makes of one candidate, and `reached` those that
are left after several segments. Seen from an absolute scope there are only two ways in which an
expansion does not end with the candidates that are reached: a segment is not balanced
(`outcome_expandAll_of_imbalance`), or a candidate with a null character in its path would have to
be listed, and the expansion is `Stuck` there (`outcome_expandAll_of_stuck`). Whatever else a
directory may be refused for, it has no successors.
-/

namespace ScopedShell

namespace Glob

/-- The directories below a path, none if the walk fails. -/
def directories (fs : FileSystem) (scope p : Path) : List Path :=
  match (directoriesBelow fs scope p).outcome with
  | .ok paths => paths
  | .error _ => []

def successors (fs : FileSystem) (scope : Path) (segment : Text) (p : Path) : List Path :=
  if segment = parentPart then (scope.join p).parent?.toList
  else if segment = ['*', '*'] then directories fs scope p
  else (admitted fs segment (scope.join p)).map (scope.join p).child

def reached (fs : FileSystem) (scope : Path) : List Path → List Text → List Path
  | candidates, [] => candidates
  | candidates, segment :: segments =>
    reached fs scope (candidates.flatMap (successors fs scope segment)) segments

/-- The segment asks for the listing of a path with a null character. -/
def Blocks (fs : FileSystem) (scope : Path) (segment : Text) (p : Path) : Prop :=
  Balanced segment ∧ segment ≠ parentPart ∧ '\x00' ∈ (scope.join p).text ∧
    (segment = ['*', '*'] → fs.isDirectory p.text = .ok true)

/-- Some segment blocks one of the candidates that it meets. -/
def Stuck (fs : FileSystem) (scope : Path) (candidates : List Path) (segments : List Text) : Prop :=
  ∃ front segment rest, segments = front ++ segment :: rest ∧
    ∃ p ∈ reached fs scope candidates front, Blocks fs scope segment p

variable {fs : FileSystem} {scope : Path}

/-! ## Walks from any path -/

/-- What an absolute scope makes of a path is what it makes of the path seen from it. -/
theorem outcome_children_of_scope (hscope : scope.isAbsolute = true) (p : Path) :
    (fs.children scope p).outcome =
      if '\x00' ∈ (scope.join p).text then .error (.refused ⟨.nullCharacter, (scope.join p).text⟩)
      else .ok ((fs.listing (scope.join p)).map (scope.join p).child) := by
  have habsolute := Path.isAbsolute_join hscope p
  rw [← @FileSystem.outcome_children fs scope _ habsolute, FileSystem.children,
    FileSystem.children, Path.join_of_isAbsolute habsolute]

theorem exists_worksOff_children {q : Path} (habsolute : q.isAbsolute = true) :
    ∃ (bound : Path → Nat) (below : Path → List Path),
      FileSystem.total bound ((fs.listing q).map q.child) ≤ fs.entries.length ∧
      ∀ c ∈ (fs.listing q).map q.child, WorksOff fs scope (bound c) false c (below c) := by
  cases hlist : fs.locate true q.text with
  | error why =>
    have hnone : fs.listing q = [] := by
      rw [FileSystem.listing, FileSystem.list, hlist]
      rfl
    exact ⟨fun _ => 0, fun _ => [], by simp [hnone, FileSystem.total], by simp [hnone]⟩
  | ok l =>
    obtain ⟨hcheck, n, hn, hfollows⟩ := (FileSystem.locate_text_eq_ok_iff habsolute).1 hlist
    have hworks : ∀ c ∈ (fs.listing q).map q.child, ∃ given,
        WorksOff fs scope (fs.countBelow (l ++ [c.name])) false c given := by
      intro c hc
      obtain ⟨name, hname, rfl⟩ := List.mem_map.1 hc
      rw [q.name_child (FileSystem.isName_of_mem_listing hname).1]
      apply exists_worksOff_child habsolute hn hfollows hcheck hname
      intro hfollows' hcheck' hdirectory hlink
      exact exists_worksOff_of_directory (Path.isAbsolute_child habsolute name) hn hfollows' hcheck'
        hdirectory (Or.inr hlink)
    obtain ⟨below, hbelow⟩ := exists_forall_mem hworks
    refine ⟨_, below, ?_, hbelow⟩
    exact Nat.le_trans (Nat.le_of_lt (total_countBelow_children_lt hlist)) (fs.countBelow_le l)

/-- Seen from an absolute scope the loop comes to an end from any path, unless it would have to list
one with a null character. -/
theorem exists_worksOff (hscope : scope.isAbsolute = true) {p : Path}
    (h : ¬ Blocks fs scope ['*', '*'] p) :
    ∃ given, WorksOff fs scope (fs.entries.length + 1) true p given := by
  by_cases hp : fs.isDirectory p.text = .ok true
  · have hbalanced : Balanced ['*', '*'] := exists_compile_eq_ok_iff.1 ⟨_, rfl⟩
    have hnull : '\x00' ∉ (scope.join p).text := fun hmem =>
      h ⟨hbalanced, by decide, hmem, fun _ => hp⟩
    have hchildren := @outcome_children_of_scope fs scope hscope p
    rw [if_neg hnull] at hchildren
    obtain ⟨bound, below, htotal, hbelow⟩ :=
      @exists_worksOff_children fs scope (scope.join p) (Path.isAbsolute_join hscope p)
    exact ⟨_, (worksOff_of_entered hp (Or.inl rfl) hchildren hbelow).mono (Nat.succ_le_succ htotal)⟩
  · exact ⟨[], worksOff_of_absent (Nat.succ_pos _) hp⟩

theorem worksOff_directories (hscope : scope.isAbsolute = true) {p : Path}
    (h : ¬ Blocks fs scope ['*', '*'] p) :
    WorksOff fs scope (fs.entries.length + 1) true p (directories fs scope p) := by
  obtain ⟨given, hworks⟩ := exists_worksOff hscope h
  obtain ⟨turns, hturns, hvisits⟩ := hworks.exists_visits
  have hgiven : directories fs scope p = given := by
    rw [directories, directoriesBelow, outcome_visit hvisits hturns]
  rwa [hgiven]

theorem exists_visits_directories (hscope : scope.isAbsolute = true) {p : Path}
    (h : ¬ Blocks fs scope ['*', '*'] p) :
    (directoriesBelow fs scope p).outcome = .ok (directories fs scope p) ∧
      ∃ turns, Visits fs scope turns true [p] (directories fs scope p) := by
  obtain ⟨turns, hturns, hvisits⟩ := (worksOff_directories hscope h).exists_visits
  exact ⟨outcome_visit hvisits hturns, turns, hvisits⟩

/-! ## One candidate -/

def expandOne (fs : FileSystem) (scope : Path) (segment : Text) (p : Path) : Traced (List Path) :=
  if segment = parentPart then pure (scope.join p).parent?.toList
  else if segment = ['*', '*'] then directoriesBelow fs scope p
  else do
    let paths ← fs.children scope p
    return paths.filter fun c => admits segment c.name

theorem outcome_expandOne_of_blocks (hscope : scope.isAbsolute = true) {segment : Text} {p : Path}
    (h : Blocks fs scope segment p) :
    (expandOne fs scope segment p).outcome =
      .error (.refused ⟨.nullCharacter, (scope.join p).text⟩) := by
  obtain ⟨_, hparent, hnull, hdirectory⟩ := h
  have hchildren := @outcome_children_of_scope fs scope hscope p
  rw [if_pos hnull] at hchildren
  rw [expandOne, if_neg hparent]
  split
  · next hbelow =>
    rw [directoriesBelow, visit_succ, turn, hdirectory hbelow]
    simp only [if_true, Traced.outcome_bind, hchildren]
    rfl
  · rw [Traced.outcome_bind, hchildren]
    rfl

theorem directories_of_blocks (hscope : scope.isAbsolute = true) {p : Path}
    (h : Blocks fs scope ['*', '*'] p) : directories fs scope p = [] := by
  have hfails := outcome_expandOne_of_blocks hscope h
  rw [expandOne, if_neg (by decide), if_pos rfl] at hfails
  rw [directories, hfails]

theorem outcome_expandOne (hscope : scope.isAbsolute = true) {segment : Text} {p : Path}
    (hbalanced : Balanced segment) (h : ¬ Blocks fs scope segment p) :
    (expandOne fs scope segment p).outcome = .ok (successors fs scope segment p) := by
  rw [expandOne, successors]
  by_cases hparent : segment = parentPart
  · rw [if_pos hparent, if_pos hparent]
    rfl
  · rw [if_neg hparent, if_neg hparent]
    by_cases hbelow : segment = ['*', '*']
    · rw [if_pos hbelow, if_pos hbelow]
      exact (exists_visits_directories hscope (hbelow ▸ h)).1
    · have hnull : '\x00' ∉ (scope.join p).text := fun hmem =>
        h ⟨hbalanced, hparent, hmem, fun heq => (hbelow heq).elim⟩
      rw [if_neg hbelow, if_neg hbelow, Traced.outcome_bind, outcome_children_of_scope hscope,
        if_neg hnull]
      change Except.ok (((fs.listing _).map _).filter fun c : Path => admits segment c.name) = _
      rw [admitted, List.filter_map]
      congr 2
      apply List.filter_congr
      intro name hname
      exact congrArg (admits segment)
        (Path.name_child _ (FileSystem.isName_of_mem_listing hname).1)

theorem outcome_expand_eq_collect {segment : Text} (hbalanced : Balanced segment)
    (candidates : List Path) :
    (expand fs scope candidates segment).outcome =
      (Traced.collect (expandOne fs scope segment) candidates).outcome := by
  obtain ⟨accepts, hcompile⟩ := exists_compile_eq_ok_iff.2 hbalanced
  by_cases hdot : segment = ['.']
  · subst hdot
    have hall : ∀ c : Path, admits ['.'] c.name = true := fun c => admits_iff.2 (Or.inl rfl)
    rw [expand, if_pos rfl]
    apply Traced.outcome_collect_congr
    intro p
    rw [expandOne, if_neg (by decide), if_neg (by decide), Traced.outcome_bind]
    cases (fs.children scope p).outcome with
    | error fault => rfl
    | ok paths => exact congrArg Except.ok (List.filter_eq_self.2 fun c _ => hall c).symm
  · rw [expand, if_neg hdot]
    by_cases hparent : segment = parentPart
    · have hone : ∀ p ∈ candidates,
          (expandOne fs scope segment p).outcome = .ok (scope.join p).parent?.toList := by
        intro p _
        rw [expandOne, if_pos hparent]
        rfl
      rw [if_pos hparent, Traced.outcome_collect_of_ok hone, List.filterMap_eq_flatMap_toList]
      rfl
    · rw [if_neg hparent]
      by_cases hbelow : segment = ['*', '*']
      · rw [if_pos hbelow]
        apply Traced.outcome_collect_congr
        intro p
        rw [expandOne, if_neg hparent, if_pos hbelow]
      · rw [if_neg hbelow, Traced.outcome_bind, compileSegment, hcompile]
        apply Traced.outcome_collect_congr
        intro p
        rw [expandOne, if_neg hparent, if_neg hbelow]
        have hadmits : ∀ name, admits segment name = accepts name := fun name => by
          simp [admits, hdot, hcompile]
        simp only [hadmits]
        rfl

/-! ## All segments -/

theorem successors_of_not_balanced {segment : Text} (h : ¬ Balanced segment) (p : Path) :
    successors fs scope segment p = [] := by
  have hbalanced : ∀ special ∈ [['.'], parentPart, ['*', '*']], segment ≠ special := by
    rintro special hspecial rfl
    simp only [List.mem_cons, List.not_mem_nil, or_false] at hspecial
    rcases hspecial with rfl | rfl | rfl
    all_goals exact h (exists_compile_eq_ok_iff.1 ⟨_, rfl⟩)
  obtain ⟨imbalance, himbalance⟩ := not_balanced_iff.1 h
  have hadmits : ∀ name, admits segment name = false := by
    intro name
    rw [admits, compile_eq_error_iff.2 himbalance]
    simpa using hbalanced ['.'] (by simp)
  rw [successors, if_neg (hbalanced _ (by simp)), if_neg (hbalanced _ (by simp)), admitted]
  simp [hadmits]

theorem reached_nil (segments : List Text) : reached fs scope [] segments = [] := by
  induction segments with
  | nil => rfl
  | cons segment segments ih => exact ih

theorem not_stuck_nil (candidates : List Path) : ¬ Stuck fs scope candidates [] := by
  rintro ⟨front, segment, rest, heq, _⟩
  simp at heq

/-- An expansion is stuck at once or with the candidates to which the first segment leads. -/
theorem stuck_cons_iff {candidates : List Path} {segment : Text} {segments : List Text} :
    Stuck fs scope candidates (segment :: segments) ↔
      (∃ p ∈ candidates, Blocks fs scope segment p) ∨
        Stuck fs scope (candidates.flatMap (successors fs scope segment)) segments := by
  constructor
  · rintro ⟨front, other, rest, heq, hblocks⟩
    cases front with
    | nil =>
      obtain ⟨rfl, rfl⟩ := List.cons.inj heq
      exact Or.inl hblocks
    | cons first front =>
      obtain ⟨rfl, rfl⟩ := List.cons.inj heq
      exact Or.inr ⟨front, other, rest, rfl, hblocks⟩
  · rintro (hblocks | ⟨front, other, rest, rfl, hblocks⟩)
    · exact ⟨[], segment, segments, rfl, hblocks⟩
    · exact ⟨segment :: front, other, rest, rfl, hblocks⟩

theorem Stuck.balanced {candidates : List Path} {segment : Text} {segments : List Text}
    (h : Stuck fs scope candidates (segment :: segments)) : Balanced segment := by
  rcases stuck_cons_iff.1 h with ⟨p, _, hblocks⟩ | hstuck
  · exact hblocks.1
  · by_contra hbalanced
    obtain ⟨front, other, rest, _, p, hp, _⟩ := hstuck
    have hnone : candidates.flatMap (successors fs scope segment) = [] :=
      List.flatMap_eq_nil_iff.2 fun q _ => successors_of_not_balanced hbalanced q
    rw [hnone, reached_nil] at hp
    cases hp

theorem outcome_expand_of_blocks (hscope : scope.isAbsolute = true) {candidates : List Path}
    {segment : Text} (h : ∃ p ∈ candidates, Blocks fs scope segment p) :
    ∃ path, '\x00' ∈ path ∧ (expand fs scope candidates segment).outcome =
      .error (.refused ⟨.nullCharacter, path⟩) := by
  obtain ⟨p, hp, hblocks⟩ := h
  obtain ⟨q, _, fault, hfault, hcollect⟩ := Traced.outcome_collect_of_error
    ⟨p, hp, _, outcome_expandOne_of_blocks hscope hblocks⟩
  rw [outcome_expand_eq_collect hblocks.1, hcollect]
  by_cases hq : Blocks fs scope segment q
  · rw [outcome_expandOne_of_blocks hscope hq] at hfault
    exact ⟨_, hq.2.2.1, by rw [Except.error.inj hfault]⟩
  · rw [outcome_expandOne hscope hblocks.1 hq] at hfault
    cases hfault

theorem outcome_expand_eq_successors (hscope : scope.isAbsolute = true) {candidates : List Path}
    {segment : Text} (hbalanced : Balanced segment)
    (h : ∀ p ∈ candidates, ¬ Blocks fs scope segment p) :
    (expand fs scope candidates segment).outcome =
      .ok (candidates.flatMap (successors fs scope segment)) := by
  rw [outcome_expand_eq_collect hbalanced]
  exact Traced.outcome_collect_of_ok fun p hp => outcome_expandOne hscope hbalanced (h p hp)

theorem outcome_expand_of_imbalance {candidates : List Path} {segment : Text}
    {imbalance : Imbalance} (h : HasImbalance segment imbalance) :
    (expand fs scope candidates segment).outcome = .error (.invalidPattern segment imbalance) := by
  have hspecial : ∀ special, Balanced special → segment ≠ special := by
    rintro special hbalanced rfl
    exact h.not_balanced hbalanced
  rw [expand, if_neg (hspecial _ (exists_compile_eq_ok_iff.1 ⟨_, rfl⟩)),
    if_neg (hspecial _ (exists_compile_eq_ok_iff.1 ⟨_, rfl⟩)),
    if_neg (hspecial _ (exists_compile_eq_ok_iff.1 ⟨_, rfl⟩)), Traced.outcome_bind, compileSegment,
    compile_eq_error_iff.2 h]
  rfl

/-- One segment gives the successors of all candidates or, if it is not balanced or blocks one of
them, nothing at all. -/
theorem outcome_expand_eq_ok_iff (hscope : scope.isAbsolute = true) {candidates next : List Path}
    {segment : Text} : (expand fs scope candidates segment).outcome = .ok next ↔
      Balanced segment ∧ (∀ p ∈ candidates, ¬ Blocks fs scope segment p) ∧
        next = candidates.flatMap (successors fs scope segment) := by
  by_cases hbalanced : Balanced segment
  · by_cases hblocks : ∃ p ∈ candidates, Blocks fs scope segment p
    · obtain ⟨path, _, hfails⟩ := outcome_expand_of_blocks hscope hblocks
      rw [hfails]
      exact iff_of_false nofun fun ⟨_, hfree, _⟩ => hblocks.elim fun p ⟨hp, hp'⟩ => hfree p hp hp'
    · have hfree : ∀ p ∈ candidates, ¬ Blocks fs scope segment p :=
        fun p hp hp' => hblocks ⟨p, hp, hp'⟩
      rw [outcome_expand_eq_successors hscope hbalanced hfree, Except.ok.injEq]
      exact ⟨fun h => ⟨hbalanced, hfree, h.symm⟩, fun ⟨_, _, h⟩ => h.symm⟩
  · obtain ⟨imbalance, himbalance⟩ := not_balanced_iff.1 hbalanced
    rw [outcome_expand_of_imbalance himbalance]
    exact iff_of_false nofun fun ⟨h, _⟩ => hbalanced h

variable {pattern : Text} {candidates : List Path} {segments : List Text}

theorem outcome_glob_eq_outcome_expandAll {env : Environment} {d : Path}
    (hstart : (Pattern.ofText pattern).startDirectory fs env scope = .ok d) :
    (glob fs env scope pattern).outcome =
      (expandAll fs scope pattern [d] (Pattern.ofText pattern).segments).outcome := by
  rw [glob, Traced.outcome_bind, hstart]
  rfl

theorem outcome_expandAll_of_stuck (hscope : scope.isAbsolute = true)
    (h : Stuck fs scope candidates segments) :
    ∃ path, '\x00' ∈ path ∧ (expandAll fs scope pattern candidates segments).outcome =
      .error (.refused ⟨.nullCharacter, path⟩) := by
  induction segments generalizing candidates with
  | nil => exact (not_stuck_nil candidates h).elim
  | cons segment segments ih =>
    by_cases hblocks : ∃ p ∈ candidates, Blocks fs scope segment p
    · obtain ⟨path, hnull, hexpand⟩ := outcome_expand_of_blocks hscope hblocks
      refine ⟨path, hnull, ?_⟩
      rw [outcome_expandAll_cons, hexpand]
      rfl
    · have hfree : ∀ p ∈ candidates, ¬ Blocks fs scope segment p :=
        fun p hp hp' => hblocks ⟨p, hp, hp'⟩
      rw [outcome_expandAll_cons, outcome_expand_eq_successors hscope h.balanced hfree]
      exact ih ((stuck_cons_iff.1 h).resolve_left hblocks)

theorem outcome_expandAll_eq_reached (hscope : scope.isAbsolute = true)
    (hbalanced : ∀ segment ∈ segments, Balanced segment)
    (h : ¬ Stuck fs scope candidates segments) :
    (expandAll fs scope pattern candidates segments).outcome =
      .ok (reached fs scope candidates segments) := by
  induction segments generalizing candidates with
  | nil => rfl
  | cons segment segments ih =>
    rw [List.forall_mem_cons] at hbalanced
    rw [stuck_cons_iff, not_or, not_exists] at h
    rw [outcome_expandAll_cons, outcome_expand_eq_successors hscope hbalanced.1
      fun p hp hp' => h.1 p ⟨hp, hp'⟩]
    exact ih hbalanced.2 h.2

/-- Otherwise the first segment that is not balanced is the fault, whatever the candidates are when
it is met. -/
theorem outcome_expandAll_of_imbalance (hscope : scope.isAbsolute = true) {front rest : List Text}
    {segment : Text} {imbalance : Imbalance} (hfront : ∀ s ∈ front, Balanced s)
    (himbalance : HasImbalance segment imbalance)
    (h : ¬ Stuck fs scope candidates (front ++ segment :: rest)) :
    (expandAll fs scope pattern candidates (front ++ segment :: rest)).outcome =
      .error (.invalidPattern segment imbalance) := by
  induction front generalizing candidates with
  | nil =>
    rw [List.nil_append, outcome_expandAll_cons, outcome_expand_of_imbalance himbalance]
    rfl
  | cons first front ih =>
    rw [List.forall_mem_cons] at hfront
    rw [List.cons_append, stuck_cons_iff, not_or, not_exists] at h
    rw [List.cons_append, outcome_expandAll_cons, outcome_expand_eq_successors hscope hfront.1
      fun p hp hp' => h.1 p ⟨hp, hp'⟩]
    exact ih hfront.2 h.2

end Glob

end ScopedShell
