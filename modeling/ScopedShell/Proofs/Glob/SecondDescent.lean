import ScopedShell.Proofs.Glob.Existence
import ScopedShell.Proofs.Glob.Roots

/-!
# A second `**`

Where nothing is a link, every directory below a path is entered, also by the walk that starts from
it: what is below it is below the path (`Walks.subset_of_mem`), and it is below itself. Hence a
second `**` finds the directories that the first one has found, some of them more than once, and
neither fails where the other does not (`outcome_glob_of_second_descent`).

A link is where the two differ, since a walk enters the directory from which it starts even if it is
one.
-/

namespace ScopedShell

namespace FileSystem

def NoLinks (fs : FileSystem) : Prop :=
  ∀ entry ∈ fs.entries, entry.2.isLink = false

instance (fs : FileSystem) : Decidable fs.NoLinks :=
  inferInstanceAs (Decidable (∀ entry ∈ fs.entries, _))

theorem NoLinks.isLink_ne_true {fs : FileSystem} (h : fs.NoLinks) (path : Text) :
    fs.isLink path ≠ .ok true := by
  intro hlink
  obtain ⟨node, hstatus, hnode⟩ := answer_eq_true_iff.1 hlink
  obtain ⟨l, _, hl⟩ := linkStatus_eq_ok_iff.1 hstatus
  have hnot := h _ (node?_eq_some_iff.1 hl)
  rw [hnode] at hnot
  cases hnot

end FileSystem

namespace Glob

variable {fs : FileSystem} {env : Environment} {scope : Path}

/-! ## Walks without links -/

/-- Without links it makes no difference whether a walk starts from a path or comes by. -/
theorem Walks.restart (hlinks : fs.NoLinks) {isStart : Bool} (isStart' : Bool) {p : Path}
    {given : List Path} (h : Walks fs scope isStart p given) : Walks fs scope isStart' p given := by
  cases h with
  | absent h => exact .absent h
  | linked _ hlink => exact (hlinks.isLink_ne_true _ hlink).elim
  | entered h _ hchildren hbelow =>
    exact .entered h (Or.inr (hlinks.isLink_ne_true _)) hchildren hbelow

/-- The walk from a directory that a walk has given stays inside that walk. -/
theorem Walks.subset_of_mem (hlinks : fs.NoLinks) {isStart isStart' : Bool} {p q : Path}
    {given given' : List Path} (h : Walks fs scope isStart p given) (hq : q ∈ given)
    (h' : Walks fs scope isStart' q given') : given' ⊆ given := by
  induction h with
  | absent _ => cases hq
  | linked _ hlink => exact (hlinks.isLink_ne_true _ hlink).elim
  | @entered isStart p children below hdirectory hlink hchildren hbelow ih =>
    rcases List.mem_cons.1 hq with rfl | hq
    · have hsame := Walks.entered hdirectory hlink hchildren hbelow
      rw [hsame.unique (h'.restart hlinks isStart)]
      exact List.Subset.refl _
    · obtain ⟨c, hc, hq⟩ := List.mem_flatMap.1 hq
      intro r hr
      exact List.mem_cons_of_mem _ (List.mem_flatMap.2 ⟨c, hc, ih c hc hq hr⟩)

theorem Walks.mem_self {isStart : Bool} {p : Path} {given : List Path}
    (h : Walks fs scope isStart p given) (hdirectory : fs.isDirectory p.text = .ok true) :
    p ∈ given := by
  cases h with
  | absent habsent => exact (habsent hdirectory).elim
  | linked _ _ => exact List.mem_singleton_self p
  | entered _ _ _ _ => exact List.mem_cons_self

/-! ## Directories below directories -/

theorem not_blocks_of_mem_directories (hscope : scope.isAbsolute = true) {p q : Path}
    (hp : ¬ Blocks fs scope ['*', '*'] p) (hq : q ∈ directories fs scope p) :
    ¬ Blocks fs scope ['*', '*'] q := by
  obtain ⟨hdirectory, rfl | habsolute⟩ := isDirectory_of_mem_directories hscope hq
  · exact hp
  · rintro ⟨_, _, hnull, _⟩
    rw [Path.join_of_isAbsolute habsolute] at hnull
    exact isDirectory_ne_true hnull hdirectory

theorem mem_directories_self (hscope : scope.isAbsolute = true) {p : Path}
    (hp : ¬ Blocks fs scope ['*', '*'] p) (hdirectory : fs.isDirectory p.text = .ok true) :
    p ∈ directories fs scope p :=
  (worksOff_directories hscope hp).1.mem_self hdirectory

theorem directories_subset (hscope : scope.isAbsolute = true) (hlinks : fs.NoLinks) {p q : Path}
    (hp : ¬ Blocks fs scope ['*', '*'] p) (hq : q ∈ directories fs scope p) :
    directories fs scope q ⊆ directories fs scope p :=
  (worksOff_directories hscope hp).1.subset_of_mem hlinks hq
    (worksOff_directories hscope (not_blocks_of_mem_directories hscope hp hq)).1

theorem exists_expand_descents (hscope : scope.isAbsolute = true) (hlinks : fs.NoLinks)
    {candidates given : List Path}
    (h : (expand fs scope candidates ['*', '*']).outcome = .ok given) :
    ∃ given', (expand fs scope given ['*', '*']).outcome = .ok given' ∧
      ∀ q, q ∈ given' ↔ q ∈ given := by
  obtain ⟨hbalanced, hfree, rfl⟩ := (outcome_expand_eq_ok_iff hscope).1 h
  have hmem : ∀ {paths : List Path} {q : Path},
      q ∈ paths.flatMap (successors fs scope ['*', '*']) ↔
        ∃ p ∈ paths, q ∈ directories fs scope p := List.mem_flatMap
  have hfound : ∀ q ∈ candidates.flatMap (successors fs scope ['*', '*']),
      ¬ Blocks fs scope ['*', '*'] q := by
    intro q hq
    obtain ⟨p, hp, hq⟩ := hmem.1 hq
    exact not_blocks_of_mem_directories hscope (hfree p hp) hq
  refine ⟨_, outcome_expand_eq_successors hscope hbalanced hfound, fun q => ?_⟩
  constructor
  · intro hq
    obtain ⟨r, hr, hq⟩ := hmem.1 hq
    obtain ⟨p, hp, hr⟩ := hmem.1 hr
    exact hmem.2 ⟨p, hp, directories_subset hscope hlinks (hfree p hp) hr hq⟩
  · intro hq
    obtain ⟨p, hp, hbelow⟩ := hmem.1 hq
    have hdirectory := (isDirectory_of_mem_directories hscope hbelow).1
    exact hmem.2 ⟨q, hq, mem_directories_self hscope (hfound q hq) hdirectory⟩

/-! ## Globs -/

theorem outcome_expandAll_singleton (pattern : Text) (candidates : List Path) (segment : Text) :
    (expandAll fs scope pattern candidates [segment]).outcome =
      (expand fs scope candidates segment).outcome := by
  rw [outcome_expandAll_cons]
  cases (expand fs scope candidates segment).outcome <;> rfl

theorem outcome_glob_append_segment {pattern pattern' segment : Text}
    (hroot : (Pattern.ofText pattern').root = (Pattern.ofText pattern).root)
    (hsegments : (Pattern.ofText pattern').segments =
      (Pattern.ofText pattern).segments ++ [segment]) :
    (glob fs env scope pattern').outcome =
      ((glob fs env scope pattern).outcome >>= fun given =>
        (expand fs scope given segment).outcome) := by
  have hstart : (Pattern.ofText pattern').startDirectory fs env scope =
      (Pattern.ofText pattern).startDirectory fs env scope := by
    rw [Pattern.startDirectory, Pattern.startDirectory, hroot]
  cases hd : (Pattern.ofText pattern).startDirectory fs env scope with
  | error fault =>
    rw [glob, glob, Traced.outcome_bind, Traced.outcome_bind, hstart, hd]
    rfl
  | ok d =>
    rw [outcome_glob_eq_outcome_expandAll (hstart.trans hd), outcome_glob_eq_outcome_expandAll hd,
      hsegments, outcome_expandAll_append, outcome_expandAll_congr pattern' pattern]
    simp only [outcome_expandAll_singleton]

/-- In a file system without links a second `**` at the end of a pattern gives the same paths as the
first one alone, and fails where it fails. -/
theorem outcome_glob_of_second_descent (hscope : scope.isAbsolute = true) (hlinks : fs.NoLinks)
    {pattern pattern' : Text} {segments : List Text}
    (hroot : (Pattern.ofText pattern').root = (Pattern.ofText pattern).root)
    (hsegments : (Pattern.ofText pattern).segments = segments ++ [['*', '*']])
    (hsegments' : (Pattern.ofText pattern').segments = segments ++ [['*', '*'], ['*', '*']]) :
    (∀ fault, (glob fs env scope pattern').outcome = .error fault ↔
      (glob fs env scope pattern).outcome = .error fault) ∧
    ∀ given, (glob fs env scope pattern).outcome = .ok given →
      ∃ given', (glob fs env scope pattern').outcome = .ok given' ∧
        ∀ q, q ∈ given' ↔ q ∈ given := by
  have hlast : (Pattern.ofText pattern').segments =
      (Pattern.ofText pattern).segments ++ [['*', '*']] := by
    rw [hsegments', hsegments, List.append_assoc, List.singleton_append]
  have hsecond := @outcome_glob_append_segment fs env scope pattern pattern' _ hroot hlast
  have hfinds : ∀ given, (glob fs env scope pattern).outcome = .ok given →
      ∃ given', (glob fs env scope pattern').outcome = .ok given' ∧
        ∀ q, q ∈ given' ↔ q ∈ given := by
    intro given hgiven
    obtain ⟨d, hstart, _⟩ := exists_eq_reached_of_outcome_glob hscope hgiven
    have hfirst := hgiven
    rw [outcome_glob_eq_outcome_expandAll hstart, hsegments, outcome_expandAll_append] at hfirst
    obtain ⟨candidates, _, hexpand⟩ := bind_eq_ok_iff.1 hfirst
    rw [outcome_expandAll_singleton] at hexpand
    obtain ⟨given', hagain, hsame⟩ := exists_expand_descents hscope hlinks hexpand
    refine ⟨given', ?_, hsame⟩
    rw [hsecond, hgiven]
    exact hagain
  refine ⟨fun fault => ⟨fun hfails => ?_, fun hfails => ?_⟩, hfinds⟩
  · rcases bind_eq_error_iff.1 (hsecond.symm.trans hfails) with hfirst | ⟨given, hgiven, _⟩
    · exact hfirst
    · obtain ⟨given', hgiven', _⟩ := hfinds given hgiven
      rw [hgiven'] at hfails
      cases hfails
  · rw [hsecond, hfails]
    rfl

theorem outcome_glob_of_second_descent_of_unreadable :
    let fs := ((FileSystem.empty.insert ["a"] (.directory {})).insert ["a", "b"]
      (.directory { reading := true })).insert ["a", "b", "c"] (.directory {})
    let given := [Path.ofText "/a", Path.ofText "/a/b"]
    Path.rootDirectory.isAbsolute = true ∧ fs.NoLinks ∧
      (Pattern.ofText "/a/**/**").root = (Pattern.ofText "/a/**").root ∧
      (Pattern.ofText "/a/**").segments = ["a", "**"] ∧
      (Pattern.ofText "/a/**/**").segments = ["a", "**", "**"] ∧
      (glob fs [] .rootDirectory "/a/**").outcome = .ok given ∧
      ∃ given', (glob fs [] .rootDirectory "/a/**/**").outcome = .ok given' ∧
        ∀ q, q ∈ given' ↔ q ∈ given := by
  intro fs given
  have hlinks : fs.NoLinks := by decide
  have hgiven : (glob fs [] .rootDirectory "/a/**").outcome = .ok given := rfl
  have hsegments : (Pattern.ofText "/a/**").segments = [("a" : Text)] ++ [['*', '*']] := rfl
  have hsame := (@outcome_glob_of_second_descent fs [] .rootDirectory rfl hlinks "/a/**" "/a/**/**"
    [("a" : Text)] rfl hsegments rfl).2 given hgiven
  exact ⟨rfl, hlinks, rfl, hsegments, rfl, hgiven, hsame⟩

/-- A link to a directory is entered by the walk that starts from it, and by no other. -/
example :
    let fs := ((FileSystem.empty.insert ["a"] (.directory {})).insert ["a", "b"]
      (.directory {})).insert ["l"] (.link "a")
    let given := [Path.ofText "/", Path.ofText "/a", Path.ofText "/a/b", Path.ofText "/l"]
    let again := [Path.ofText "/a", Path.ofText "/a/b", Path.ofText "/a/b", Path.ofText "/l",
      Path.ofText "/l/b"]
    (glob fs [] .rootDirectory "/**").outcome = .ok given ∧
      (glob fs [] .rootDirectory "/**/**").outcome = .ok (given ++ again) :=
  ⟨rfl, rfl⟩

end Glob

end ScopedShell
