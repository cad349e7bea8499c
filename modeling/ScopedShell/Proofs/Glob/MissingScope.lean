import ScopedShell.Proofs.Glob.Existence
import ScopedShell.Proofs.Glob.Roots

/-!
# Relative globs in a missing scope

A relative pattern in a scope that is not there starts from the scope as it stands, a path that
leads nowhere. Every segment but `..` looks there and finds nothing (`successors_eq_nil`). `..` does
not look: it goes up on the path until there is something again, and from there the rest of the
pattern is followed as in any other place (`outcome_glob_of_missing_scope`).
-/

namespace ScopedShell

namespace FileSystem

variable {fs : FileSystem}

/-- What leads somewhere has a canonical path, or a call is turned down on the way. -/
theorem locate_ne_ok_of_missing {scope p q : Path} (hscope : scope.isAbsolute = true)
    (h : fs.canonicalize scope p = .error (.notFound q)) (l : Location) :
    fs.locate true (scope.join p).text ≠ .ok l := by
  intro hlocate
  rw [locate, targetStart_text (Path.isAbsolute_join hscope p), bind_eq_ok_iff] at hlocate
  obtain ⟨_, _, hwalk⟩ := hlocate
  rcases canonicalize_of_walk hwalk with ⟨c, hc, _⟩ | ⟨_, _, _, _, _, _, hrefused⟩
  · rw [h] at hc
    cases hc
  · rw [h] at hrefused
    cases hrefused

end FileSystem

namespace Glob

variable {fs : FileSystem} {env : Environment} {scope : Path} {pattern : Text}

/-! ## Candidates that lead nowhere -/

theorem successors_eq_nil (hscope : scope.isAbsolute = true) {segment : Text} {p : Path}
    (habsolute : p.isAbsolute = true) (hnowhere : ∀ l, fs.locate true p.text ≠ .ok l)
    (hparent : segment ≠ parentPart) : successors fs scope segment p = [] := by
  rw [successors, if_neg hparent]
  split
  · apply directories_eq_nil hscope
    intro hdirectory
    obtain ⟨l, hlocate, _⟩ := FileSystem.isDirectory_eq_true_iff.1 hdirectory
    exact hnowhere l hlocate
  · rw [Path.join_of_isAbsolute habsolute, List.map_eq_nil_iff, List.eq_nil_iff_forall_not_mem]
    intro name hname
    obtain ⟨⟨names, hlist, _⟩, _⟩ := mem_admitted_iff.1 hname
    obtain ⟨l, _, hlocate, _⟩ := FileSystem.list_eq_ok_iff.1 hlist
    exact hnowhere l hlocate

/-- One segment other than `..` leaves nothing of a path that leads nowhere. -/
theorem outcome_expandAll_of_nowhere (hscope : scope.isAbsolute = true) {segment : Text}
    {others : List Text} {p : Path} (habsolute : p.isAbsolute = true)
    (hnowhere : ∀ l, fs.locate true p.text ≠ .ok l)
    (hbalanced : ∀ s ∈ segment :: others, Balanced s) (hparent : segment ≠ parentPart)
    (hnull : '\x00' ∈ p.text → segment = ['*', '*']) :
    (expandAll fs scope pattern [p] (segment :: others)).outcome = .ok [] := by
  have hnone : successors fs scope segment p = [] :=
    successors_eq_nil hscope habsolute hnowhere hparent
  have hstuck : ¬ Stuck fs scope [p] (segment :: others) := by
    rw [stuck_singleton_cons_iff, hnone, not_or]
    refine ⟨fun hblocks => ?_, not_stuck_of_no_candidates others⟩
    -- `**` asks whether there is a directory before it lists it, and nowhere there is none
    obtain ⟨_, _, hmem, hdirectory⟩ := hblocks
    rw [Path.join_of_isAbsolute habsolute] at hmem
    exact isDirectory_ne_true hmem (hdirectory (hnull hmem))
  rw [outcome_expandAll_eq_reached hscope hbalanced hstuck, reached, List.flatMap_singleton, hnone,
    reached_nil]

/-! ## Segments `..` in front -/

theorem outcome_expandAll_replicate (hscope : scope.isAbsolute = true) {p : Path}
    (habsolute : p.isAbsolute = true) (ups : Nat) (rest : List Text) :
    (expandAll fs scope pattern [p] (List.replicate ups parentPart ++ rest)).outcome =
      (expandAll fs scope pattern (p.climb ups).toList rest).outcome := by
  have hbalanced : ∀ s ∈ List.replicate ups parentPart, Balanced s := by
    intro s hs
    rw [List.eq_of_mem_replicate hs]
    exact exists_compile_eq_ok_iff.1 ⟨_, rfl⟩
  have hstuck : ¬ Stuck fs scope [p] (List.replicate ups parentPart) := by
    rintro ⟨front, segment, others, heq, _, _, hblocks⟩
    have hsegment : segment ∈ List.replicate ups parentPart := by simp [heq]
    exact hblocks.2.1 (List.eq_of_mem_replicate hsegment)
  have hreached : reached fs scope [p] (List.replicate ups parentPart) = (p.climb ups).toList := by
    -- what is reached from an absolute path is absolute, so the scope sees it as it is
    have hseen : ∀ q ∈ reached fs scope [p] (List.replicate ups parentPart), scope.join q = q :=
      fun q hq => Path.join_of_isAbsolute
        (forall_mem_reached (isAbsolute_successors hscope) (by simpa using habsolute) _ q hq)
    have hclimb := @map_join_reached_replicate fs scope hscope ups p
    rwa [List.map_congr_left hseen, List.map_id', Path.join_of_isAbsolute habsolute] at hclimb
  rw [outcome_expandAll_append, outcome_expandAll_eq_reached hscope hbalanced hstuck, hreached]
  rfl

/-! ## Globs -/

theorem segments_ne_nil_of_relative (h : (Pattern.ofText pattern).root = .relative) :
    (Pattern.ofText pattern).segments ≠ [] := by
  obtain ⟨head, rest, _, ⟨hroot, _⟩ | ⟨hnone, _, hsegments⟩⟩ := ofText_cases pattern
  · exact (rootOf?_ne_relative head (h ▸ hroot)).elim
  · have hhead : head ≠ [] := by
      rintro rfl
      cases hnone
    simp [hsegments, segmentsOf, hhead]

/-- In a scope that is not there a relative pattern gives nothing, unless it starts with `..`.
Segments `..` in front lead up from the scope as it stands, and the rest of the pattern is followed
from there: alone they give that path, whatever is there, and where nothing is there any other
segment still gives nothing. A null character in the scope makes a glob fail instead, as soon as the
scope is to be listed. -/
theorem outcome_glob_of_missing_scope (hscope : scope.isAbsolute = true) {q : Path}
    (hmissing : fs.canonicalize scope (Path.ofText []) = .error (.notFound q))
    (hroot : (Pattern.ofText pattern).root = .relative)
    (hbalanced : ∀ segment ∈ (Pattern.ofText pattern).segments, Balanced segment) :
    ((Pattern.ofText pattern).segments.head? ≠ some parentPart →
      ('\x00' ∈ scope.text → (Pattern.ofText pattern).segments.head? = some ['*', '*']) →
        (glob fs env scope pattern).outcome = .ok []) ∧
    ((Pattern.ofText pattern).segments.head? ≠ some parentPart →
      (Pattern.ofText pattern).segments.head? ≠ some ['*', '*'] → '\x00' ∈ scope.text →
        ∃ path, '\x00' ∈ path ∧
          (glob fs env scope pattern).outcome = .error (.refused ⟨.nullCharacter, path⟩)) ∧
    (∀ ups rest, (Pattern.ofText pattern).segments = List.replicate ups parentPart ++ rest →
      (glob fs env scope pattern).outcome =
        (expandAll fs scope pattern (scope.climb ups).toList rest).outcome) ∧
    (∀ ups, (Pattern.ofText pattern).segments = List.replicate ups parentPart →
      (glob fs env scope pattern).outcome = .ok (scope.climb ups).toList) ∧
    ∀ ups segment others,
      (Pattern.ofText pattern).segments = List.replicate ups parentPart ++ segment :: others →
      segment ≠ parentPart →
      (∀ top, scope.climb ups = some top → (∀ l, fs.locate true top.text ≠ .ok l) ∧
        ('\x00' ∈ top.text → segment = ['*', '*'])) →
      (glob fs env scope pattern).outcome = .ok [] := by
  have hnowhere := FileSystem.locate_ne_ok_of_missing hscope hmissing
  rw [Path.join_ofText_nil] at hnowhere
  have hstart : (Pattern.ofText pattern).startDirectory fs env scope = .ok scope := by
    rw [Pattern.startDirectory, hroot]
    simp only [hmissing, Path.join_ofText_nil]
  obtain ⟨first, others, hsegments⟩ :=
    List.exists_cons_of_ne_nil (segments_ne_nil_of_relative hroot)
  have hups : ∀ ups rest,
      (Pattern.ofText pattern).segments = List.replicate ups parentPart ++ rest →
      (glob fs env scope pattern).outcome =
        (expandAll fs scope pattern (scope.climb ups).toList rest).outcome := by
    intro ups rest heq
    rw [outcome_glob_eq_outcome_expandAll hstart, heq]
    exact outcome_expandAll_replicate hscope hscope ups rest
  refine ⟨fun hfirst hnull => ?_, fun hfirst hbelow hnull => ?_, hups, fun ups heq => ?_,
    fun ups segment rest heq hparent htop => ?_⟩
  · rw [hsegments, List.head?_cons, ne_eq, Option.some.injEq] at hfirst
    rw [hsegments, List.head?_cons, Option.some.injEq] at hnull
    rw [outcome_glob_eq_outcome_expandAll hstart, hsegments]
    exact outcome_expandAll_of_nowhere hscope hscope hnowhere (hsegments ▸ hbalanced) hfirst hnull
  · rw [hsegments, List.head?_cons, ne_eq, Option.some.injEq] at hfirst hbelow
    have hblocks : Blocks fs scope first scope :=
      ⟨hbalanced first (by simp [hsegments]), hfirst, by rwa [Path.join_of_isAbsolute hscope],
        fun heq => (hbelow heq).elim⟩
    rw [outcome_glob_eq_outcome_expandAll hstart, hsegments]
    exact outcome_expandAll_of_stuck hscope (stuck_singleton_cons_iff.2 (Or.inl hblocks))
  · rw [hups ups [] (by rw [heq, List.append_nil])]
    rfl
  · rw [hups ups _ heq]
    have hrest : ∀ s ∈ segment :: rest, Balanced s := fun s hs =>
      hbalanced s (heq ▸ List.mem_append_right _ hs)
    cases hclimb : scope.climb ups with
    | none =>
      rw [Option.toList_none, outcome_expandAll_eq_reached hscope hrest
        (not_stuck_of_no_candidates _), reached_nil]
    | some top =>
      obtain ⟨hlost, hnull⟩ := htop top hclimb
      obtain ⟨_, rfl⟩ := Path.climb_eq_some_iff.1 hclimb
      exact outcome_expandAll_of_nowhere hscope hscope hlost hrest hparent hnull

theorem outcome_glob_of_missing_scope_of_nested :
    let scope := Path.ofText "/gone/a"
    FileSystem.empty.canonicalize scope (Path.ofText []) = .error (.notFound scope) ∧
      (∀ segment ∈ (Pattern.ofText "../*/../**").segments, Balanced segment) ∧
      (glob .empty [] scope "../*/../**").outcome = .ok [] := by
  intro scope
  have hmissing : FileSystem.empty.canonicalize scope (Path.ofText []) = .error (.notFound scope) :=
    rfl
  have hbalanced : ∀ segment ∈ (Pattern.ofText "../*/../**").segments, Balanced segment := by
    intro segment hsegment
    have hcases : segment = parentPart ∨ segment = ['*'] ∨ segment = ['*', '*'] := by
      revert segment
      decide
    rcases hcases with rfl | rfl | rfl
    all_goals exact exists_compile_eq_ok_iff.1 ⟨_, rfl⟩
  obtain ⟨_, _, _, _, hgives⟩ := @outcome_glob_of_missing_scope .empty [] scope "../*/../**" rfl
    scope hmissing rfl hbalanced
  refine ⟨hmissing, hbalanced, hgives 1 ['*'] [parentPart, ['*', '*']] rfl (by decide) ?_⟩
  intro top htop
  obtain rfl := Option.some.inj htop
  refine ⟨fun l hlocate => ?_, by decide⟩
  cases hlocate

/-- The parents of a scope that is not there are given, whether or not they are there. -/
theorem outcome_glob_of_missing_scope_of_parent :
    let scope := Path.ofText "/gone/a"
    FileSystem.empty.canonicalize scope (Path.ofText []) = .error (.notFound scope) ∧
      (Pattern.ofText "..").root = .relative ∧
      (∀ segment ∈ (Pattern.ofText "..").segments, Balanced segment) ∧
      (glob .empty [] scope "..").outcome = .ok [Path.ofText "/gone"] := by
  refine ⟨rfl, rfl, fun segment hsegment => ?_, rfl⟩
  obtain rfl := List.mem_singleton.1 hsegment
  exact exists_compile_eq_ok_iff.1 ⟨_, rfl⟩

end Glob

end ScopedShell
