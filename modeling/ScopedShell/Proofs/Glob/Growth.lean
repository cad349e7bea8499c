import Mathlib.Data.List.Flatten
import ScopedShell.Proofs.FileSystem.Making
import ScopedShell.Proofs.Glob.Failure

/-!
# Globs of a growing file system

When directories are made, each segment leads from a candidate to the candidates to which it led
before, in the same order, with new ones between them (`successors_sublist`): names in a listing
come before new ones, and a path that was entered is entered again. So nothing that a pattern
reaches is lost (`reached_sublist`).

A glob that gave a list gives a longer one, unless it now has to list a candidate with a null
character in its path. Where no name holds a null character that needs a relative home directory in
a scope that holds one (`not_stuck_of_not_stuck`).
-/

namespace ScopedShell

namespace FileSystem

variable {fs fs' : FileSystem}

theorem NoNullNames.of_grows (h : fs.NoNullNames) (hgrows : fs.Grows fs') : fs'.NoNullNames := by
  induction hgrows with
  | refl => exact h
  | @made fs' l name _ hvacant ih =>
    obtain ⟨denied, hparent, _⟩ := hvacant.searchable
    intro entry hentry
    rw [hvacant.entries_insert, List.mem_append, List.mem_singleton] at hentry
    rcases hentry with hold | rfl
    · exact ih entry hold
    · rw [List.forall_mem_append, List.forall_mem_singleton]
      exact ⟨ih _ (node?_eq_some_iff.1 hparent), hvacant.noNull⟩

end FileSystem

namespace Glob

variable {fs fs' : FileSystem} {env : Environment} {scope : Path} {pattern : Text}

/-! ## Reached candidates stay reached -/

/-- The directories below a path stay in the order in which they were given. -/
theorem Walks.sublist (hscope : scope.isAbsolute = true) (hgrows : fs.Grows fs') {isStart : Bool}
    {p : Path} {given given' : List Path} (h : Walks fs scope isStart p given)
    (h' : Walks fs' scope isStart p given') : given.Sublist given' := by
  induction h generalizing given' with
  | absent h => exact List.nil_sublist _
  | @linked p h hlink =>
    rw [← hgrows.isLink_eq h] at hlink
    have hdirectory := hgrows.isDirectory_eq_true h
    cases h' with
    | absent habsent => exact (habsent hdirectory).elim
    | linked _ _ => exact List.Sublist.refl _
    | entered _ hopen _ _ => exact (hopen.resolve_left (by simp) hlink).elim
  | @entered isStart p children below h hopen hchildren _ ih =>
    rw [← hgrows.isLink_eq h] at hopen
    have hdirectory := hgrows.isDirectory_eq_true h
    cases h' with
    | absent habsent => exact (habsent hdirectory).elim
    | linked _ hlink => exact (hopen.resolve_left (by simp) hlink).elim
    | @entered _ _ children' below' _ _ hchildren' hbelow' =>
      rw [outcome_children_of_scope hscope] at hchildren hchildren'
      split at hchildren
      · cases hchildren
      · next hnull =>
        rw [if_neg hnull] at hchildren'
        obtain rfl := Except.ok.inj hchildren
        obtain rfl := Except.ok.inj hchildren'
        have hlisted := (hgrows.listing_prefix (scope.join p)).sublist.map (scope.join p).child
        apply List.Sublist.cons_cons
        refine (List.Sublist.flatMap_right _ fun c hc => ?_).trans (hlisted.flatMap below')
        exact ih c hc (hbelow' c (hlisted.subset hc))

theorem Blocks.mono (hgrows : fs.Grows fs') {segment : Text} {p : Path}
    (h : Blocks fs scope segment p) : Blocks fs' scope segment p :=
  ⟨h.1, h.2.1, h.2.2.1, fun hbelow => hgrows.isDirectory_eq_true (h.2.2.2 hbelow)⟩

theorem successors_sublist (hscope : scope.isAbsolute = true) (hgrows : fs.Grows fs')
    {segment : Text} {p : Path} (h : ¬ Blocks fs' scope segment p) :
    (successors fs scope segment p).Sublist (successors fs' scope segment p) := by
  rw [successors, successors]
  split
  · exact List.Sublist.refl _
  · split
    · next hbelow =>
      subst hbelow
      have hbefore : ¬ Blocks fs scope ['*', '*'] p := fun hblocks => h (hblocks.mono hgrows)
      exact (worksOff_directories hscope hbefore).1.sublist hscope hgrows
        (worksOff_directories hscope h).1
    · exact ((hgrows.listing_prefix _).sublist.filter _).map _

theorem reached_sublist (hscope : scope.isAbsolute = true) (hgrows : fs.Grows fs')
    {candidates candidates' : List Path} (hcandidates : candidates.Sublist candidates')
    {segments : List Text} (h : ¬ Stuck fs' scope candidates' segments) :
    (reached fs scope candidates segments).Sublist (reached fs' scope candidates' segments) := by
  induction segments generalizing candidates candidates' with
  | nil => exact hcandidates
  | cons segment segments ih =>
    rw [stuck_cons_iff, not_or, not_exists] at h
    refine ih ?_ h.2
    refine (List.Sublist.flatMap_right _ fun p hp => ?_).trans (hcandidates.flatMap _)
    exact successors_sublist hscope hgrows fun hblocks => h.1 p ⟨hcandidates.subset hp, hblocks⟩

/-! ## Null characters -/

theorem stuck_singleton_cons_iff {segment : Text} {segments : List Text} {p : Path} :
    Stuck fs scope [p] (segment :: segments) ↔
      Blocks fs scope segment p ∨ Stuck fs scope (successors fs scope segment p) segments := by
  rw [stuck_cons_iff, List.flatMap_singleton]
  simp

theorem not_stuck_of_no_candidates (segments : List Text) : ¬ Stuck fs scope [] segments := by
  rintro ⟨front, segment, rest, _, p, hp, _⟩
  rw [reached_nil] at hp
  cases hp

theorem isDirectory_ne_true {path : Text} (h : '\x00' ∈ path) : fs.isDirectory path ≠ .ok true := by
  intro hdirectory
  obtain ⟨l, hlocate, _⟩ := FileSystem.isDirectory_eq_true_iff.1 hdirectory
  rw [FileSystem.locate_eq_nullCharacter_iff.2 h] at hlocate
  cases hlocate

theorem directories_eq_nil (hscope : scope.isAbsolute = true) {p : Path}
    (h : fs.isDirectory p.text ≠ .ok true) : directories fs scope p = [] := by
  have hblocks : ¬ Blocks fs scope ['*', '*'] p := fun hblocks => h (hblocks.2.2.2 rfl)
  exact (worksOff_directories hscope hblocks).1.unique (.absent h)

/-- Where no name holds a null character, whether an expansion is stuck does not depend on the file
system: a path with one is left by `..` only. -/
theorem not_stuck_of_not_stuck (hscope : scope.isAbsolute = true) (hfs' : fs'.NoNullNames)
    {segments : List Text} {p : Path} (hp : '\x00' ∈ (scope.join p).text → '\x00' ∈ p.text)
    (h : ¬ Stuck fs scope [p] segments) : ¬ Stuck fs' scope [p] segments := by
  induction segments generalizing p with
  | nil => exact not_stuck_nil _
  | cons segment segments ih =>
    by_cases hnull : '\x00' ∈ (scope.join p).text
    · rw [stuck_singleton_cons_iff, not_or] at h ⊢
      by_cases hparent : segment = parentPart
      · refine ⟨fun hblocks => hblocks.2.1 hparent, ?_⟩
        rw [successors, if_pos hparent] at h ⊢
        cases hfound : (scope.join p).parent? with
        | none => exact not_stuck_of_no_candidates segments
        | some parent =>
          rw [hfound] at h
          obtain ⟨_, heq⟩ := Option.ite_none_left_eq_some.1 hfound
          obtain rfl := Option.some.inj heq
          have habsolute : (scope.join p).parent.isAbsolute = true := Path.isAbsolute_join hscope p
          exact ih (fun hjoin => Path.join_of_isAbsolute habsolute ▸ hjoin) h.2
      · by_cases hbelow : segment = ['*', '*']
        · subst hbelow
          have habsent := @isDirectory_ne_true fs' _ (hp hnull)
          refine ⟨fun hblocks => habsent (hblocks.2.2.2 rfl), ?_⟩
          rw [successors, if_neg hparent, if_pos rfl, directories_eq_nil hscope habsent]
          exact not_stuck_of_no_candidates segments
        · by_cases hbalanced : Balanced segment
          · exact (h.1 ⟨hbalanced, hparent, hnull, fun heq => (hbelow heq).elim⟩).elim
          · rw [successors_of_not_balanced hbalanced]
            exact ⟨fun hblocks => hbalanced hblocks.1, not_stuck_of_no_candidates segments⟩
    · exact not_stuck_of_isClear hscope hfs' (isClear_iff.2 hnull) _

/-! ## Globs before and after -/

theorem eq_reached_of_outcome_glob {d : Path} {given : List Path} (hscope : scope.isAbsolute = true)
    (hstart : (Pattern.ofText pattern).startDirectory fs env scope = .ok d)
    (h : (glob fs env scope pattern).outcome = .ok given) :
    (∀ segment ∈ (Pattern.ofText pattern).segments, Balanced segment) ∧
      ¬ Stuck fs scope [d] (Pattern.ofText pattern).segments ∧
      given = reached fs scope [d] (Pattern.ofText pattern).segments := by
  rw [outcome_glob_eq_outcome_expandAll hstart] at h
  have hstuck : ¬ Stuck fs scope [d] (Pattern.ofText pattern).segments := by
    intro hstuck
    obtain ⟨path, _, hfails⟩ := @outcome_expandAll_of_stuck fs scope pattern _ _ hscope hstuck
    rw [h] at hfails
    cases hfails
  have hbalanced : ∀ segment ∈ (Pattern.ofText pattern).segments, Balanced segment := by
    by_contra hnot
    obtain ⟨front, segment, rest, heq, hfront, hsegment⟩ := exists_first_not_balanced hnot
    obtain ⟨imbalance, himbalance⟩ := not_balanced_iff.1 hsegment
    rw [heq] at h hstuck
    rw [outcome_expandAll_of_imbalance hscope hfront himbalance hstuck] at h
    cases h
  rw [outcome_expandAll_eq_reached hscope hbalanced hstuck] at h
  exact ⟨hbalanced, hstuck, (Except.ok.inj h).symm⟩

theorem exists_eq_reached_of_outcome_glob {given : List Path} (hscope : scope.isAbsolute = true)
    (h : (glob fs env scope pattern).outcome = .ok given) :
    ∃ d, (Pattern.ofText pattern).startDirectory fs env scope = .ok d ∧
      given = reached fs scope [d] (Pattern.ofText pattern).segments := by
  have hglob := h
  rw [glob, Traced.outcome_bind] at hglob
  obtain ⟨d, hstart, _⟩ := bind_eq_ok_iff.1 hglob
  exact ⟨d, hstart, (eq_reached_of_outcome_glob hscope hstart h).2.2⟩

/-- The start stays the same, a canonical scope given. Only a home directory can be relative. -/
theorem exists_startDirectory_of_grows (hscope : scope.isAbsolute = true) (hgrows : fs.Grows fs')
    {parsed : Pattern} {d : Path} (hstart : parsed.startDirectory fs env scope = .ok d)
    (hrelative : parsed.root = .relative →
      ∃ c, fs.canonicalize scope (Path.ofText []) = .ok c) :
    parsed.startDirectory fs' env scope = .ok d ∧
      (parsed.root ≠ .home → d.isAbsolute = true) := by
  rw [Pattern.startDirectory] at hstart ⊢
  cases hkind : parsed.root with
  | absolute head =>
    rw [hkind] at hstart
    exact ⟨hstart, fun _ => Except.ok.inj hstart ▸ Path.isAbsolute_join hscope _⟩
  | home =>
    rw [hkind] at hstart
    exact ⟨hstart, fun hhome => (hhome rfl).elim⟩
  | relative =>
    obtain ⟨c, hc⟩ := hrelative hkind
    rw [hkind] at hstart
    simp only [hc] at hstart
    simp only [hgrows.canonicalize_eq_ok hc]
    obtain rfl := Except.ok.inj hstart
    exact ⟨hstart, fun _ => (FileSystem.isCanonical_of_canonicalize hc).isAbsolute⟩

/-- Making directories, for whatever path and also where it fails half-way, hides nothing that a
glob gave: afterwards it gives a list of which the earlier one is a sublist. The one thing that can
go wrong is that a candidate with a null character in its path is to be listed now; that does not
happen where no name holds one, except from a relative home directory in a scope that holds one. -/
theorem outcome_glob_of_made {given : List Path} (hscope : scope.isAbsolute = true)
    (hmade : (∃ scope' p, fs' = (fs.ensureDirectory scope' p).2) ∨
      ∃ parent beginning names, fs' = (fs.makeTemporary parent beginning names).2)
    (hrelative : (Pattern.ofText pattern).root = .relative →
      ∃ c, fs.canonicalize scope (Path.ofText []) = .ok c)
    (hgiven : (glob fs env scope pattern).outcome = .ok given) :
    ∃ d, (Pattern.ofText pattern).startDirectory fs env scope = .ok d ∧
      (Pattern.ofText pattern).startDirectory fs' env scope = .ok d ∧
      (¬ Stuck fs' scope [d] (Pattern.ofText pattern).segments →
        ∃ given', (glob fs' env scope pattern).outcome = .ok given' ∧ given.Sublist given') ∧
      (Stuck fs' scope [d] (Pattern.ofText pattern).segments →
        ∃ path, '\x00' ∈ path ∧
          (glob fs' env scope pattern).outcome = .error (.refused ⟨.nullCharacter, path⟩)) ∧
      ((Pattern.ofText pattern).root ≠ .home → d.isAbsolute = true) ∧
      (fs.NoNullNames → d.isAbsolute = true ∨ '\x00' ∉ scope.text →
        ¬ Stuck fs' scope [d] (Pattern.ofText pattern).segments) := by
  have hgrows : fs.Grows fs' := by
    rcases hmade with ⟨scope', p, rfl⟩ | ⟨parent, beginning, names, rfl⟩
    · exact fs.grows_ensureDirectory scope' p
    · exact fs.grows_makeTemporary parent beginning names
  obtain ⟨d, hstart⟩ : ∃ d, (Pattern.ofText pattern).startDirectory fs env scope = .ok d := by
    rw [glob, Traced.outcome_bind] at hgiven
    obtain ⟨d, hstart, _⟩ := bind_eq_ok_iff.1 hgiven
    exact ⟨d, hstart⟩
  obtain ⟨hbalanced, hstuck, rfl⟩ := eq_reached_of_outcome_glob hscope hstart hgiven
  obtain ⟨hstart', habsolute⟩ := exists_startDirectory_of_grows hscope hgrows hstart hrelative
  refine ⟨d, hstart, hstart', fun hstuck' => ?_, fun hstuck' => ?_, habsolute, fun hfs hnull => ?_⟩
  · refine ⟨reached fs' scope [d] (Pattern.ofText pattern).segments, ?_, ?_⟩
    · rw [outcome_glob_eq_outcome_expandAll hstart']
      exact outcome_expandAll_eq_reached hscope hbalanced hstuck'
    · exact reached_sublist hscope hgrows (List.Sublist.refl _) hstuck'
  · rw [outcome_glob_eq_outcome_expandAll hstart']
    exact outcome_expandAll_of_stuck hscope hstuck'
  · refine not_stuck_of_not_stuck hscope (hfs.of_grows hgrows) (fun hjoin => ?_) hstuck
    rcases hnull with habsolute | hnull
    · exact Path.join_of_isAbsolute habsolute ▸ hjoin
    · by_contra hd
      rw [Path.mem_text_iff (by decide) (by decide)] at hd
      refine isClear_iff.1 (isClear_join hnull fun part hpart hmem => ?_) hjoin
      exact hd ⟨part, hpart, hmem⟩

theorem outcome_glob_of_made_of_link :
    let fs := (FileSystem.empty.insert ["a"] (.link "gone")).insert ["b"] (.directory {})
    let fs' := (fs.ensureDirectory .rootDirectory (Path.ofText "gone/x")).2
    fs.NoNullNames ∧ (glob fs [] .rootDirectory "/**").outcome =
        .ok [Path.ofText "/", Path.ofText "/b"] ∧
      ∃ given', (glob fs' [] .rootDirectory "/**").outcome = .ok given' ∧
        [Path.ofText "/", Path.ofText "/b"].Sublist given' := by
  intro fs fs'
  have hnames : fs.NoNullNames := by unfold FileSystem.NoNullNames; decide
  have hgiven : (glob fs [] .rootDirectory "/**").outcome =
      .ok [Path.ofText "/", Path.ofText "/b"] := rfl
  obtain ⟨d, _, _, hgives, _, habsolute, hfree⟩ := @outcome_glob_of_made fs fs' [] .rootDirectory
    "/**" _ rfl (Or.inl ⟨_, _, rfl⟩) nofun hgiven
  exact ⟨hnames, hgiven, hgives (hfree hnames (Or.inl (habsolute nofun)))⟩

/-- A relative home directory that is made in a scope with a null character makes a glob fail. -/
theorem outcome_glob_of_made_home :
    let env : Environment := [("HOME", "rel")]
    let scope := Path.ofText "/s\x00"
    let fs' := (FileSystem.empty.ensureDirectory scope (Path.ofText "/rel")).2
    scope.isAbsolute = true ∧ (Pattern.ofText "~/**").root = .home ∧
      (glob .empty env scope "~/**").outcome = .ok [] ∧
      (glob fs' env scope "~/**").outcome =
        .error (.refused ⟨.nullCharacter, "/s\x00/rel"⟩) :=
  ⟨rfl, rfl, rfl, rfl⟩

end Glob

end ScopedShell
