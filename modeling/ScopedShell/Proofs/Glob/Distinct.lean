import Mathlib.Data.List.Nodup
import ScopedShell.Proofs.Glob.Descendants
import ScopedShell.Proofs.Glob.Growth
import ScopedShell.Proofs.Path.Ascent

/-!
# Globs without repetition

Candidates are different if their paths are, seen from the scope. What one candidate gives is always
different (`nodup_successors`, `spreads_directories`), so a segment keeps candidates different as
soon as each of its results tells from which candidate it comes (`nodup_flatMap_of_back`). A child
tells it by its parent. A directory below tells it by its first parts, if all candidates have
equally many; that is so until `**` has been met, and not afterwards. Hence a pattern without `..`
and with at most one `**` gives no path twice (`nodup_of_outcome_glob`).
-/

namespace ScopedShell

namespace Glob

/-- The paths are different, seen from the scope, and lie at the path or below it. -/
structure Spreads (scope p : Path) (given : List Path) : Prop where
  nodup : (given.map scope.join).Nodup
  exists_descend : ∀ q ∈ given, ∃ names : List Text, (∀ name ∈ names, IsPart name) ∧
    scope.join q = (scope.join p).descend names

variable {fs : FileSystem} {env : Environment} {scope : Path} {pattern : Text}

theorem join_child (hscope : scope.isAbsolute = true) (p : Path) (name : Text) :
    scope.join ((scope.join p).child name) = (scope.join p).child name :=
  Path.join_of_isAbsolute (Path.isAbsolute_child (Path.isAbsolute_join hscope p) name)

/-! ## One candidate -/

theorem successors_of_children {segment : Text} (hparent : segment ≠ parentPart)
    (hbelow : segment ≠ ['*', '*']) (p : Path) : successors fs scope segment p =
      (admitted fs segment (scope.join p)).map (scope.join p).child := by
  rw [successors, if_neg hparent, if_neg hbelow]

theorem exists_child_of_mem_successors (hscope : scope.isAbsolute = true) {segment : Text}
    (hparent : segment ≠ parentPart) (hbelow : segment ≠ ['*', '*']) {p q : Path}
    (h : q ∈ successors fs scope segment p) :
    ∃ name ∈ fs.listing (scope.join p), q = (scope.join p).child name ∧ scope.join q = q := by
  rw [successors_of_children hparent hbelow] at h
  obtain ⟨name, hname, rfl⟩ := List.mem_map.1 h
  exact ⟨name, (List.mem_filter.1 hname).1, rfl, join_child hscope p name⟩

theorem nodup_successors (hscope : scope.isAbsolute = true) {segment : Text}
    (hparent : segment ≠ parentPart) (hbelow : segment ≠ ['*', '*']) (p : Path) :
    ((successors fs scope segment p).map scope.join).Nodup := by
  have hnames : (admitted fs segment (scope.join p)).Nodup := (fs.nodup_listing _).filter _
  rw [successors_of_children hparent hbelow, List.map_map]
  refine hnames.map_on fun name hname name' hname' heq => ?_
  rw [Function.comp_apply, Function.comp_apply, join_child hscope, join_child hscope] at heq
  rw [← Path.name_child (scope.join p) (isPart_of_mem_admitted hname), heq,
    Path.name_child _ (isPart_of_mem_admitted hname')]

/-- What is given for the children of a path lies below it, in the order of the positions on the
way. -/
theorem exists_ways_of_children {d : Path} (habsolute : d.isAbsolute = true)
    {below : Path → List Path}
    (h : ∀ c ∈ (fs.listing d).map d.child, Walks fs scope false c (below c)) :
    ∃ ways : List (List Text), ((fs.listing d).map d.child).flatMap below = ways.map d.descend ∧
      (∀ way ∈ ways, way ≠ [] ∧ ∀ name ∈ way, IsPart name) ∧
      ways.Pairwise fun a b => fs.positions d a < fs.positions d b := by
  have hways : ∀ name ∈ fs.listing d, ∃ ways : List (List Text),
      below (d.child name) = ways.map (d.child name).descend ∧
      (∀ names, names ∈ ways ↔ Reaches fs false (d.child name) names) ∧
      ways.Pairwise fun a b => fs.positions (d.child name) a < fs.positions (d.child name) b :=
    fun name hname => (h _ (List.mem_map_of_mem hname)).exists_ways
      (Path.isAbsolute_child habsolute name)
  obtain ⟨ways, hways⟩ := exists_forall_mem hways
  refine ⟨Path.through (fs.listing d) ways, ?_, fun way hway => ?_, ?_⟩
  · rw [Path.map_descend_through, List.flatMap_map]
    exact flatMap_congr_of_mem fun name hname => (hways name hname).1
  · obtain ⟨name, hname, rest, hrest, rfl⟩ := Path.mem_through_iff.1 hway
    have hparts := (((hways name hname).2.1 rest).1 hrest).isPart
    exact ⟨List.cons_ne_nil _ _,
      List.forall_mem_cons.2 ⟨(FileSystem.isName_of_mem_listing hname).1, hparts⟩⟩
  · exact FileSystem.pairwise_positions_through (List.Sublist.refl _)
      fun name hname => (hways name hname).2.2

theorem Walks.spreads (hscope : scope.isAbsolute = true) {isStart : Bool} {p : Path}
    {given : List Path} (h : Walks fs scope isStart p given) : Spreads scope p given := by
  cases h with
  | absent _ => exact ⟨List.nodup_nil, by simp⟩
  | linked _ _ => exact ⟨List.nodup_singleton _, fun q hq => ⟨[], by simp, by simp_all⟩⟩
  | @entered _ _ children below _ _ hchildren hbelow =>
    have habsolute := Path.isAbsolute_join hscope p
    rw [outcome_children_of_scope hscope] at hchildren
    split at hchildren
    · cases hchildren
    · obtain rfl := Except.ok.inj hchildren
      obtain ⟨ways, hways, hparts, horder⟩ := exists_ways_of_children habsolute hbelow
      have hseen : ∀ way, scope.join ((scope.join p).descend way) = (scope.join p).descend way :=
        fun way => Path.join_of_isAbsolute (Path.isAbsolute_descend habsolute way)
      rw [hways]
      refine ⟨?_, fun q hq => ?_⟩
      · have hnodup : (([] :: ways).map (scope.join p).descend).Nodup := by
          refine @FileSystem.nodup_map_descend fs _ _ ?_ (List.pairwise_cons.2 ⟨?_, horder⟩)
          · exact List.forall_mem_cons.2 ⟨by simp, fun way hway => (hparts way hway).2⟩
          · intro way hway
            obtain ⟨name, rest, rfl⟩ := List.exists_cons_of_ne_nil (hparts way hway).1
            exact List.nil_lt_cons _ _
        simpa [Function.comp_def, hseen] using hnodup
      · rcases List.mem_cons.1 hq with rfl | hq
        · exact ⟨[], by simp, rfl⟩
        · obtain ⟨way, hway, rfl⟩ := List.mem_map.1 hq
          exact ⟨way, (hparts way hway).2, hseen way⟩

theorem spreads_directories (hscope : scope.isAbsolute = true) (p : Path) :
    Spreads scope p (directories fs scope p) := by
  by_cases hblocks : Blocks fs scope ['*', '*'] p
  · rw [directories_of_blocks hscope hblocks]
    exact ⟨List.nodup_nil, by simp⟩
  · exact (worksOff_directories hscope hblocks).1.spreads hscope

/-! ## All candidates -/

/-- Candidates stay different where each result tells from which of them it comes. -/
theorem nodup_flatMap_of_back {candidates : List Path} {next : Path → List Path}
    (back : Path → Path) (h : (candidates.map scope.join).Nodup)
    (hnext : ∀ p ∈ candidates, ((next p).map scope.join).Nodup)
    (hback : ∀ p ∈ candidates, ∀ q ∈ next p, back (scope.join q) = scope.join p) :
    ((candidates.flatMap next).map scope.join).Nodup := by
  rw [List.map_flatMap, List.nodup_flatMap]
  refine ⟨hnext, ?_⟩
  rw [List.Nodup, List.pairwise_map] at h
  apply h.imp_of_mem
  intro p p' hp hp' hne
  apply List.disjoint_left.2
  intro seen hseen hseen'
  obtain ⟨q, hq, rfl⟩ := List.mem_map.1 hseen
  obtain ⟨q', hq', heq⟩ := List.mem_map.1 hseen'
  rw [← hback p hp q hq, ← hback p' hp' q' hq', heq] at hne
  exact hne rfl

theorem nodup_flatMap_successors (hscope : scope.isAbsolute = true) {segment : Text}
    (hparent : segment ≠ parentPart) (hbelow : segment ≠ ['*', '*']) {candidates : List Path}
    (h : (candidates.map scope.join).Nodup) :
    ((candidates.flatMap (successors fs scope segment)).map scope.join).Nodup := by
  refine nodup_flatMap_of_back Path.parent h
    (fun p _ => nodup_successors hscope hparent hbelow p) fun p _ q hq => ?_
  obtain ⟨name, hname, rfl, hseen⟩ := exists_child_of_mem_successors hscope hparent hbelow hq
  rw [hseen, Path.parent_child _ (FileSystem.isName_of_mem_listing hname).1]

theorem nodup_flatMap_directories (hscope : scope.isAbsolute = true) {candidates : List Path}
    (h : (candidates.map scope.join).Nodup) {depth : Nat}
    (hdepth : ∀ p ∈ candidates, (scope.join p).parts.length = depth) :
    ((candidates.flatMap (directories fs scope)).map scope.join).Nodup := by
  refine nodup_flatMap_of_back (Path.take depth) h
    (fun p _ => (spreads_directories hscope p).nodup) fun p hp q hq => ?_
  obtain ⟨names, hnames, hseen⟩ := (spreads_directories hscope p).exists_descend q hq
  rw [hseen, ← hdepth p hp, Path.take_descend _ hnames]

/-- Segments without `..` keep candidates different, also past one `**` if the candidates have one
depth before it. -/
theorem nodup_reached (hscope : scope.isAbsolute = true) {segments : List Text}
    (hparent : parentPart ∉ segments) (hcount : segments.count ['*', '*'] ≤ 1)
    {candidates : List Path} (h : (candidates.map scope.join).Nodup)
    (hdepth : ['*', '*'] ∈ segments →
      ∃ depth, ∀ p ∈ candidates, (scope.join p).parts.length = depth) :
    ((reached fs scope candidates segments).map scope.join).Nodup := by
  induction segments generalizing candidates with
  | nil => exact h
  | cons segment segments ih =>
    rw [List.mem_cons, not_or] at hparent
    by_cases hbelow : segment = ['*', '*']
    · subst hbelow
      -- behind the first `**` there is no other, so the depths no longer matter
      have hlast : ['*', '*'] ∉ segments := by
        rw [List.count_cons_self] at hcount
        exact List.count_eq_zero.1 (by omega)
      obtain ⟨depth, hdepth⟩ := hdepth List.mem_cons_self
      refine ih hparent.2 (by simp [List.count_eq_zero.2 hlast]) ?_ fun hmem => (hlast hmem).elim
      exact nodup_flatMap_directories hscope h hdepth
    · rw [List.count_cons_of_ne hbelow] at hcount
      refine ih hparent.2 hcount
        (nodup_flatMap_successors hscope (Ne.symm hparent.1) hbelow h) fun hmem => ?_
      obtain ⟨depth, hdepth⟩ := hdepth (List.mem_cons_of_mem _ hmem)
      refine ⟨depth + 1, fun q hq => ?_⟩
      obtain ⟨p, hp, hq⟩ := List.mem_flatMap.1 hq
      obtain ⟨name, hname, rfl, hseen⟩ :=
        exists_child_of_mem_successors hscope (Ne.symm hparent.1) hbelow hq
      rw [hseen, Path.parts_child _ (FileSystem.isName_of_mem_listing hname).1, List.length_append,
        hdepth p hp, List.length_singleton]

/-- A pattern without `..` and with at most one `**`, wherever that stands, gives no path twice, not
even in two spellings that mean the same seen from the scope. -/
theorem nodup_of_outcome_glob (hscope : scope.isAbsolute = true)
    (hparent : parentPart ∉ (Pattern.ofText pattern).segments)
    (hcount : (Pattern.ofText pattern).segments.count ['*', '*'] ≤ 1) {given : List Path}
    (h : (glob fs env scope pattern).outcome = .ok given) :
    given.Nodup ∧ (given.map scope.join).Nodup := by
  obtain ⟨d, _, rfl⟩ := exists_eq_reached_of_outcome_glob hscope h
  have hseen := @nodup_reached fs scope hscope _ hparent hcount [d] (List.nodup_singleton _)
    fun _ => ⟨_, fun p hp => by rw [List.mem_singleton.1 hp]⟩
  exact ⟨hseen.of_map _, hseen⟩

theorem nodup_of_outcome_glob_of_loop :
    let fs := (FileSystem.empty.insert ["a"] (.directory {})).insert ["a", "up"] (.link "..")
    let given := [Path.ofText "/a", Path.ofText "/a/up", Path.ofText "/a/up/a"]
    Path.rootDirectory.isAbsolute = true ∧ parentPart ∉ (Pattern.ofText "/**/*").segments ∧
      (Pattern.ofText "/**/*").segments.count ['*', '*'] ≤ 1 ∧
      (glob fs [] .rootDirectory "/**/*").outcome = .ok given ∧ given.Nodup := by
  intro fs given
  have hgiven : (glob fs [] .rootDirectory "/**/*").outcome = .ok given := rfl
  exact ⟨rfl, by decide, by decide, hgiven,
    (nodup_of_outcome_glob rfl (by decide) (by decide) hgiven).1⟩

/-- With a second `**` a directory is given once more from each directory above it. -/
example :
    (glob (FileSystem.empty.insert ["a"] (.directory {})) [] .rootDirectory "/**/**").outcome =
    .ok [Path.ofText "/", Path.ofText "/a", Path.ofText "/a"] := rfl

/-- With `..` a directory is given once from each of its children. -/
example : (glob ((FileSystem.empty.insert ["a"] (.directory {})).insert ["b"] (.link "a")) []
    .rootDirectory "/?/..").outcome = .ok [Path.ofText "/", Path.ofText "/"] := rfl

end Glob

end ScopedShell
