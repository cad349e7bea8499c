import ScopedShell.Proofs.Glob.Distinct
import ScopedShell.Proofs.Path.Joining

/-!
# Taking paths apart

The parent and the name of a path are what it is joined of, and only a root has neither. Asking for
the parent again and again meets every path above, the nearest first, and then comes to an end
(`Session.ascends_iff`). The children of a directory have it as their parent, so a `..` behind a
segment that asks for children leads back to the candidates, from each child that the segment admits
(`Glob.outcome_glob_of_return`).
-/

namespace ScopedShell

namespace Path

/-- A path that is written with slashes only. -/
def IsRoot (p : Path) : Prop :=
  p.text = ['/'] ∨ p.text = ['/', '/']

theorem isRoot_iff {p : Path} (h : p.isAbsolute = true) : p.IsRoot ↔ p.parts = [] := by
  constructor
  · rintro (htext | htext)
    all_goals
      rw [← p.ofText_text, htext]
      rfl
  · intro hparts
    rw [IsRoot, text_of_isAbsolute h, hparts]
    cases hroot : p.root with
    | relative => simp [isAbsolute, hroot] at h
    | single => exact Or.inl rfl
    | double => exact Or.inr rfl

end Path

namespace Glob

/-- Every candidate as the scope sees it, once for each of its children that the segment admits. -/
def returned (fs : FileSystem) (scope : Path) (segment : Text) (candidates : List Path) :
    List Path :=
  candidates.flatMap fun p =>
    List.replicate (admitted fs segment (scope.join p)).length (scope.join p)

variable {fs : FileSystem} {env : Environment} {scope : Path} {pattern segment : Text}
  {candidates next : List Path}

theorem outcome_expand_parent : (expand fs scope candidates parentPart).outcome =
    .ok (candidates.filterMap fun p => (scope.join p).parent?) := by
  rw [expand, if_neg (by decide), if_pos rfl]
  rfl

theorem filterMap_parent_successors (hscope : scope.isAbsolute = true)
    (hparent : segment ≠ parentPart)
    (hbelow : segment ≠ ['*', '*']) (p : Path) :
    (successors fs scope segment p).filterMap (fun q => (scope.join q).parent?) =
      List.replicate (admitted fs segment (scope.join p)).length (scope.join p) := by
  have hback : ∀ q ∈ successors fs scope segment p,
      (scope.join q).parent? = some (scope.join p) := by
    intro q hq
    obtain ⟨name, hname, rfl, hseen⟩ := exists_child_of_mem_successors hscope hparent hbelow hq
    rw [hseen, Path.parent?_child _ (FileSystem.isName_of_mem_listing hname).1]
  rw [List.filterMap_congr hback, List.filterMap_eq_map', List.map_const',
    successors_of_children hparent hbelow, List.length_map]

theorem outcome_expand_parent_of_children (hscope : scope.isAbsolute = true)
    (hparent : segment ≠ parentPart) (hbelow : segment ≠ ['*', '*'])
    (h : (expand fs scope candidates segment).outcome = .ok next) :
    (expand fs scope next parentPart).outcome = .ok (returned fs scope segment candidates) := by
  obtain ⟨_, _, rfl⟩ := (outcome_expand_eq_ok_iff hscope).1 h
  rw [outcome_expand_parent, List.filterMap_flatMap]
  simp only [filterMap_parent_successors hscope hparent hbelow]
  rfl

/-- A segment that asks for children fails where it is not balanced or a candidate holds a null
character, and nowhere else. -/
theorem exists_outcome_expand_iff (hscope : scope.isAbsolute = true)
    (hparent : segment ≠ parentPart)
    (hbelow : segment ≠ ['*', '*']) :
    (∃ next, (expand fs scope candidates segment).outcome = .ok next) ↔
      Balanced segment ∧ ∀ p ∈ candidates, '\x00' ∉ (scope.join p).text := by
  simp only [outcome_expand_eq_ok_iff hscope]
  constructor
  · rintro ⟨_, hbalanced, hfree, _⟩
    exact ⟨hbalanced, fun p hp hnull =>
      hfree p hp ⟨hbalanced, hparent, hnull, fun heq => (hbelow heq).elim⟩⟩
  · rintro ⟨hbalanced, hnull⟩
    exact ⟨_, hbalanced, fun p hp hblocks => hnull p hp hblocks.2.2.1, rfl⟩

/-- A glob with a `..` behind a segment that asks for children goes on from the candidates before
both, once for every child that the segment admits; it fails where the segment does. -/
theorem outcome_glob_of_return (hscope : scope.isAbsolute = true) {front rest : List Text}
    (hsegments : (Pattern.ofText pattern).segments = front ++ segment :: parentPart :: rest)
    (hparent : segment ≠ parentPart) (hbelow : segment ≠ ['*', '*']) :
    (glob fs env scope pattern).outcome =
      ((Pattern.ofText pattern).startDirectory fs env scope >>= fun start =>
        (expandAll fs scope pattern [start] front).outcome >>= fun candidates =>
        (expand fs scope candidates segment).outcome >>= fun _ =>
        (expandAll fs scope pattern (returned fs scope segment candidates) rest).outcome) := by
  cases hstart : (Pattern.ofText pattern).startDirectory fs env scope with
  | error fault =>
    rw [glob, Traced.outcome_bind, hstart]
    rfl
  | ok start =>
    rw [outcome_glob_eq_outcome_expandAll hstart, hsegments, outcome_expandAll_append]
    change _ = (expandAll fs scope pattern [start] front).outcome >>= _
    congr 1
    funext candidates
    rw [outcome_expandAll_cons]
    cases hnext : (expand fs scope candidates segment).outcome with
    | error fault => rfl
    | ok next =>
      change (expandAll fs scope pattern next (parentPart :: rest)).outcome = _
      rw [outcome_expandAll_cons, outcome_expand_parent_of_children hscope hparent hbelow hnext]
      rfl

end Glob

namespace Session

/-- Asking for the parent of the argument, and then for that of each answer, is answered with these
paths in turn, and after them with none. -/
inductive Ascends (s : Session) : PathArgument → List Path → Prop
  | top {a : PathArgument} (htop : s.Gives (.parent a) (.optionalPath none)) : Ascends s a []
  | up {a : PathArgument} {parent : Path} {others : List Path}
      (hup : s.Gives (.parent a) (.optionalPath (some parent)))
      (hothers : Ascends s (.path parent) others) : Ascends s a (parent :: others)

variable {s : Session}

theorem gives_parent_iff {a : PathArgument} {answer : Option Path} :
    s.Gives (.parent a) (.optionalPath answer) ↔ (s.absolute a).parent? = answer := by
  constructor
  · intro h
    have houtcome := congrArg (fun result => result.1.outcome) h
    exact Value.optionalPath.inj (Except.ok.inj houtcome)
  · rintro rfl
    rfl

theorem isAbsolute_absolute (hs : s.directory.isAbsolute = true) (a : PathArgument) :
    (s.absolute a).isAbsolute = true :=
  Path.isAbsolute_join hs a.toPath

theorem absolute_of_isAbsolute {p : Path} (h : p.isAbsolute = true) : s.absolute (.path p) = p :=
  Path.join_of_isAbsolute h

theorem absolute_parent (hs : s.directory.isAbsolute = true) (a : PathArgument) :
    s.absolute (.path (s.absolute a).parent) = (s.absolute a).parent :=
  absolute_of_isAbsolute (isAbsolute_absolute hs a)

theorem absolute_child (hs : s.directory.isAbsolute = true) (a : PathArgument) (name : Text) :
    s.absolute (.path ((s.absolute a).child name)) = (s.absolute a).child name :=
  absolute_of_isAbsolute (Path.isAbsolute_child (isAbsolute_absolute hs a) name)

/-! ## Asking for parents -/

/-- Asking for parents meets the paths above, and nothing else. -/
theorem ascends_iff (hs : s.directory.isAbsolute = true) {a : PathArgument} {paths : List Path} :
    Ascends s a paths ↔ paths = (s.absolute a).above := by
  constructor
  · intro h
    induction h with
    | top htop =>
      have hparts := Path.parent?_eq_none_iff.1 (gives_parent_iff.1 htop)
      rw [Path.above_of_parts_eq_nil hparts]
    | @up a parent others hup hothers ih =>
      obtain ⟨hparts, rfl⟩ := Path.parent?_eq_some_iff.1 (gives_parent_iff.1 hup)
      rw [Path.above_of_parts_ne_nil hparts, ih, absolute_parent hs]
  · rintro rfl
    -- every answer has one part less, so the answers come to an end
    induction hlength : (s.absolute a).parts.length generalizing a with
    | zero =>
      have hparts := List.eq_nil_of_length_eq_zero hlength
      rw [Path.above_of_parts_eq_nil hparts]
      exact .top (gives_parent_iff.2 (Path.parent?_eq_none_iff.2 hparts))
    | succ n ih =>
      have hparts : (s.absolute a).parts ≠ [] := List.ne_nil_of_length_eq_add_one hlength
      have hshorter : (s.absolute a).parent.parts.length = n := by
        rw [Path.parts_eq_append_name hparts, List.length_append, List.length_singleton] at hlength
        exact Nat.succ.inj hlength
      have hothers := @ih (.path (s.absolute a).parent)
      rw [absolute_parent hs] at hothers
      rw [Path.above_of_parts_ne_nil hparts]
      exact .up (gives_parent_iff.2 (Path.parent?_eq_some_iff.2 ⟨hparts, rfl⟩)) (hothers hshorter)

theorem exists_parent_and_name {a : PathArgument} (h : (s.absolute a).parts ≠ []) :
    ∃ parent name, s.Gives (.parent a) (.optionalPath (some parent)) ∧
      s.Gives (.baseName a) (.text name) ∧ name ≠ [] ∧ '/' ∉ name ∧
      s.Gives (.join (.path parent) (.path (.spelled name))) (.path (s.absolute a)) := by
  have hpart := Path.isPart_name h
  exact ⟨(s.absolute a).parent, (s.absolute a).name,
    gives_parent_iff.2 (Path.parent?_eq_some_iff.2 ⟨h, rfl⟩), rfl, hpart.1, hpart.2.2,
    gives_join_iff.2 (Path.child_parent_name h)⟩

/-! ## Listed directories -/

/-- The children of a directory are absolute, have it as their parent, and are named as in its
listing. -/
theorem outcome_perform_children (hs : s.directory.isAbsolute = true) (d : PathArgument) :
    ('\x00' ∈ (s.absolute d).text → (perform (.children d) s).1.outcome =
      .error (.refused ⟨.nullCharacter, (s.absolute d).text⟩)) ∧
    ('\x00' ∉ (s.absolute d).text → ∃ paths,
      (perform (.children d) s).1.outcome = .ok (.paths paths) ∧
      (∀ c ∈ paths, c.isAbsolute = true ∧
        s.Gives (.parent (.path c)) (.optionalPath (some (s.absolute d)))) ∧
      List.Forall₂ (fun c name => s.Gives (.baseName (.path c)) (.text name)) paths
        (s.files.listing (s.absolute d))) := by
  have houtcome : (perform (.children d) s).1.outcome =
      (s.files.children s.directory d.toPath).outcome.map .paths :=
    congrArg Traced.outcome (Traced.map_eq Value.paths (s.files.children s.directory d.toPath))
  rw [Glob.outcome_children_of_scope hs] at houtcome
  have hpart : ∀ name ∈ s.files.listing (s.absolute d), IsPart name := fun name hname =>
    (FileSystem.isName_of_mem_listing hname).1
  constructor
  · intro hnull
    exact houtcome.trans (congrArg (Except.map Value.paths) (if_pos hnull))
  · intro hnull
    refine ⟨(s.files.listing (s.absolute d)).map (s.absolute d).child,
      houtcome.trans (congrArg (Except.map Value.paths) (if_neg hnull)), fun c hc => ?_, ?_⟩
    · obtain ⟨name, hname, rfl⟩ := List.mem_map.1 hc
      refine ⟨Path.isAbsolute_child (isAbsolute_absolute hs d) name, gives_parent_iff.2 ?_⟩
      rw [absolute_child hs, Path.parent?_child _ (hpart name hname)]
    · rw [List.forall₂_map_left_iff, List.forall₂_same]
      intro name hname
      have hname' : (s.absolute (.path ((s.absolute d).child name))).name = name := by
        rw [absolute_child hs, Path.name_child _ (hpart name hname)]
      exact congrArg (fun given : Text => ((⟨.ok (.text given), []⟩, s) : Reply × Session)) hname'

/-- What is no root is its parent joined with its name, which is one part. Asking for parents meets
the paths above, as many as the path has parts, and then a root, which has none. What is a child of
a directory has it as its parent and is named in its listing, and a `..` behind a segment that asks
for children leads back to the candidates themselves, as the scope sees them, from every child. -/
theorem parent_laws (hs : s.directory.isAbsolute = true) :
    (∀ a : PathArgument,
      (s.Gives (.parent a) (.optionalPath none) ↔ (s.absolute a).IsRoot) ∧
      (¬ (s.absolute a).IsRoot → ∃ parent name,
        s.Gives (.parent a) (.optionalPath (some parent)) ∧
        s.Gives (.baseName a) (.text name) ∧ name ≠ [] ∧ '/' ∉ name ∧
        s.Gives (.join (.path parent) (.path (.spelled name))) (.path (s.absolute a))) ∧
      (∀ paths, Ascends s a paths ↔ paths = (s.absolute a).above) ∧
      (s.absolute a).above.length = (s.absolute a).parts.length) ∧
    (∀ d : PathArgument,
      ('\x00' ∈ (s.absolute d).text → (perform (.children d) s).1.outcome =
        .error (.refused ⟨.nullCharacter, (s.absolute d).text⟩)) ∧
      ('\x00' ∉ (s.absolute d).text → ∃ paths,
        (perform (.children d) s).1.outcome = .ok (.paths paths) ∧
        (∀ c ∈ paths, c.isAbsolute = true ∧
          s.Gives (.parent (.path c)) (.optionalPath (some (s.absolute d)))) ∧
        List.Forall₂ (fun c name => s.Gives (.baseName (.path c)) (.text name)) paths
          (s.files.listing (s.absolute d)))) ∧
    ∀ segment, segment ≠ parentPart → segment ≠ ['*', '*'] →
      (∀ candidates,
        (∃ next, (Glob.expand s.files s.directory candidates segment).outcome = .ok next) ↔
          Glob.Balanced segment ∧ ∀ p ∈ candidates, '\x00' ∉ (s.absolute (.path p)).text) ∧
      ∀ (pattern : PathArgument) (front rest : List Text),
        let parsed := Glob.Pattern.ofText pattern.text
        parsed.segments = front ++ segment :: parentPart :: rest →
        (perform (.glob pattern) s).1.outcome = Except.map Value.paths
          (parsed.startDirectory s.files s.environment s.directory >>= fun start =>
            (Glob.expandAll s.files s.directory pattern.text [start] front).outcome >>=
              fun candidates =>
            (Glob.expand s.files s.directory candidates segment).outcome >>= fun _ =>
            (Glob.expandAll s.files s.directory pattern.text
              (Glob.returned s.files s.directory segment candidates) rest).outcome) := by
  refine ⟨fun a => ?_, outcome_perform_children hs,
    fun segment hparent hbelow => ⟨fun candidates => ?_,
    fun pattern front rest => ?_⟩⟩
  · have hroot := Path.isRoot_iff (isAbsolute_absolute hs a)
    refine ⟨?_, fun h => exists_parent_and_name (mt hroot.2 h), fun paths => ascends_iff hs,
      Path.length_above _⟩
    rw [gives_parent_iff, Path.parent?_eq_none_iff, hroot]
  · exact Glob.exists_outcome_expand_iff hs hparent hbelow
  · intro parsed hsegments
    have houtcome : (perform (.glob pattern) s).1.outcome =
        (Glob.glob s.files s.environment s.directory pattern.text).outcome.map .paths :=
      congrArg Traced.outcome (Traced.map_eq Value.paths _)
    rw [houtcome, Glob.outcome_glob_of_return hs hsegments hparent hbelow]

theorem parent_laws_of_scoped_directory :
    let fs := ((FileSystem.empty.insert ["a"] (.directory {})).insert ["a", "b"]
      (.directory {})).insert ["a", ".c"] (.link "b")
    let s : Session := { files := fs, scopes := [Path.ofText "/a"] }
    s.directory.isAbsolute = true ∧
      Ascends s (.spelled "b//./..") [Path.ofText "/a/b", Path.ofText "/a", Path.ofText "/"] ∧
      (∃ paths, (perform (.children (.spelled "b/..")) s).1.outcome = .ok (.paths paths) ∧
        List.Forall₂ (fun c name => s.Gives (.baseName (.path c)) (.text name)) paths ["b", ".c"]) ∧
      (perform (.glob (.spelled "./..")) s).1.outcome =
        .ok (.paths [Path.ofText "/a", Path.ofText "/a"]) := by
  intro fs s
  have hs : s.directory.isAbsolute = true := rfl
  obtain ⟨hpaths, hlisted, hback⟩ := parent_laws hs
  obtain ⟨paths, hgiven, _, hnames⟩ := (hlisted (.spelled "b/..")).2 (by decide)
  refine ⟨hs, ((hpaths _).2.2.1 _).2 rfl, ⟨paths, hgiven, hnames⟩, ?_⟩
  rw [(hback ['.'] (by decide) (by decide)).2 (.spelled "./..") [] [] rfl]
  rfl

end Session

end ScopedShell
