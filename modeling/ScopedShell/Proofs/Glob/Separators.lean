import Mathlib.Logic.Relation
import ScopedShell.Proofs.Glob.Roots
import ScopedShell.Session.Operation

/-!
# Separators of a pattern

The root and the segments of a pattern are its runs of characters between separators, all of them
and in order (`cutsInto_iff`). Which separator stands between two parts, and how many of them, is
not recorded: a pattern that is respelled is taken apart in the same way (`ofText_of_respelled`), so
it gives the same paths or the same fault.
-/

namespace ScopedShell

namespace Glob

/-! ## Runs between separators -/

/-- Cuts a text into its longest runs of characters that are not separators. -/
inductive CutsInto : Text → List Text → Prop
  | nil : CutsInto [] []
  | separator {c : Char} {rest : Text} {runs : List Text} (hc : isSeparator c = true)
      (h : CutsInto rest runs) : CutsInto (c :: rest) runs
  | last {run : Text} (hrun : run ≠ []) (hbare : ∀ c ∈ run, isSeparator c = false) :
      CutsInto run [run]
  | run {run rest : Text} {c : Char} {runs : List Text} (hrun : run ≠ [])
      (hbare : ∀ c ∈ run, isSeparator c = false) (hc : isSeparator c = true)
      (h : CutsInto rest runs) : CutsInto (run ++ c :: rest) (run :: runs)

/-- One character in front of a text either stands alone or lengthens the first run. -/
theorem CutsInto.exists_cons (c : Char) {t : Text} {runs : List Text} (h : CutsInto t runs) :
    ∃ runs', CutsInto (c :: t) runs' := by
  cases hc : isSeparator c with
  | true => exact ⟨runs, .separator hc h⟩
  | false =>
    have hbare : ∀ run : Text, (∀ d ∈ run, isSeparator d = false) →
        ∀ d ∈ c :: run, isSeparator d = false := by
      intro run hrun
      exact List.forall_mem_cons.2 ⟨hc, hrun⟩
    cases h with
    | nil => exact ⟨_, .last (List.cons_ne_nil _ _) (hbare [] (by simp))⟩
    | separator hd hrest => exact ⟨_, .run (List.cons_ne_nil c []) (hbare [] (by simp)) hd hrest⟩
    | last _ hrun => exact ⟨_, .last (List.cons_ne_nil _ _) (hbare _ hrun)⟩
    | run _ hrun hd hrest => exact ⟨_, .run (List.cons_ne_nil c _) (hbare _ hrun) hd hrest⟩

theorem exists_cutsInto (t : Text) : ∃ runs, CutsInto t runs := by
  induction t with
  | nil => exact ⟨[], .nil⟩
  | cons c t ih =>
    obtain ⟨runs, h⟩ := ih
    exact h.exists_cons c

theorem segmentsIn_of_bare {run : Text} (hrun : run ≠ [])
    (hbare : ∀ c ∈ run, isSeparator c = false) : segmentsIn run = [run] := by
  rw [segmentsIn, Text.split_eq_singleton hbare]
  simp [segmentsOf, hrun]

theorem CutsInto.eq_segmentsIn {t : Text} {runs : List Text} (h : CutsInto t runs) :
    runs = segmentsIn t := by
  induction h with
  | nil => rfl
  | separator hc _ ih => exact ih.trans (@segmentsIn_append_separator [] _ _ hc).symm
  | last hrun hbare => exact (segmentsIn_of_bare hrun hbare).symm
  | run hrun hbare hc _ ih =>
    rw [segmentsIn_append_separator hc, segmentsIn_of_bare hrun hbare, ih, List.singleton_append]

theorem cutsInto_iff {t : Text} {runs : List Text} : CutsInto t runs ↔ runs = segmentsIn t := by
  constructor
  · exact CutsInto.eq_segmentsIn
  · rintro rfl
    obtain ⟨runs, h⟩ := exists_cutsInto t
    exact h.eq_segmentsIn ▸ h

/-! ## Taking a pattern apart -/

theorem text_of_rootOf? {head : Text} {root : PatternRoot} (h : rootOf? head = some root) :
    root.text = head := by
  unfold rootOf? at h
  split at h
  · rw [← Option.some.inj h, PatternRoot.text]
  · rw [← Option.some.inj h, PatternRoot.text]
  · rw [← Option.some.inj h, PatternRoot.text]
  · cases h

theorem root_cons_segments (pattern : Text) :
    ((Pattern.ofText pattern).root.text :: (Pattern.ofText pattern).segments).filter (· ≠ []) =
      segmentsIn pattern := by
  obtain ⟨head, rest, hsplit, ⟨hroot, hsegments⟩ | ⟨_, hroot, hsegments⟩⟩ := ofText_cases pattern
  · rw [text_of_rootOf? hroot, hsegments, segmentsIn, hsplit]
    simp [segmentsOf, List.filter_cons]
  · rw [hroot, hsegments, segmentsIn, hsplit]
    simp [PatternRoot.text, segmentsOf]

theorem segment_of_mem_segments {pattern segment : Text}
    (h : segment ∈ (Pattern.ofText pattern).segments) :
    segment ≠ [] ∧ ∀ c ∈ segment, isSeparator c = false := by
  have hparts : ∀ parts, (∀ part ∈ parts, part ∈ Text.split isSeparator pattern) →
      segment ∈ segmentsOf parts → segment ≠ [] ∧ ∀ c ∈ segment, isSeparator c = false :=
    fun parts hall hmem => ⟨segmentsOf_ne_nil hmem, fun c hc =>
      Text.not_isSeparator_of_mem_split (hall segment (List.mem_filter.1 hmem).1) hc⟩
  obtain ⟨head, rest, hsplit, ⟨_, hsegments⟩ | ⟨_, _, hsegments⟩⟩ := ofText_cases pattern
  · exact hparts rest (fun part hpart => hsplit ▸ List.mem_cons_of_mem _ hpart) (hsegments ▸ h)
  · exact hparts (head :: rest) (fun part hpart => hsplit ▸ hpart) (hsegments ▸ h)

/-- Only the first part of a pattern can be empty and count. -/
theorem ofText_eq_of_split {pattern pattern' head : Text} {rest rest' : List Text}
    (h : Text.split isSeparator pattern = head :: rest)
    (h' : Text.split isSeparator pattern' = head :: rest')
    (hrest : segmentsOf rest' = segmentsOf rest) :
    Pattern.ofText pattern' = Pattern.ofText pattern := by
  have hall : segmentsOf (head :: rest') = segmentsOf (head :: rest) := by
    simp only [segmentsOf, List.filter_cons] at hrest ⊢
    rw [hrest]
  rw [Pattern.ofText, Pattern.ofText, h, h']
  simp only [hrest, hall]

/-- A pattern with one separator written in another way: another separator in its place, a separator
repeated where one is, or a separator put at the end. -/
inductive Respelled : Text → Text → Prop
  | replaced (front rest : Text) {c d : Char} (hc : isSeparator c = true)
      (hd : isSeparator d = true) : Respelled (front ++ c :: rest) (front ++ d :: rest)
  | repeated (front rest : Text) {c : Char} (hc : isSeparator c = true) :
      Respelled (front ++ c :: rest) (front ++ c :: c :: rest)
  | closed (t : Text) {c : Char} (hc : isSeparator c = true) : Respelled t (t ++ [c])

theorem ofText_of_respelled {pattern pattern' : Text} (h : Respelled pattern pattern') :
    Pattern.ofText pattern' = Pattern.ofText pattern := by
  cases h with
  | replaced front rest hc hd =>
    rw [Pattern.ofText, Pattern.ofText, Text.split_append_cons hc, Text.split_append_cons hd]
  | @repeated front rest c hc =>
    obtain ⟨head, others, hfront⟩ := Text.exists_split_eq_cons isSeparator front
    have hrest : Text.split isSeparator (c :: rest) = [] :: Text.split isSeparator rest := by
      rw [Text.split, if_pos hc]
    have honce : Text.split isSeparator (front ++ c :: rest) =
        head :: (others ++ Text.split isSeparator rest) := by
      rw [Text.split_append_cons hc, hfront, List.cons_append]
    have htwice : Text.split isSeparator (front ++ c :: c :: rest) =
        head :: (others ++ [] :: Text.split isSeparator rest) := by
      rw [Text.split_append_cons hc, hfront, hrest, List.cons_append]
    exact ofText_eq_of_split honce htwice (by simp [segmentsOf])
  | @closed _ c hc =>
    obtain ⟨head, others, hsplit⟩ := Text.exists_split_eq_cons isSeparator pattern
    have hclosed : Text.split isSeparator (pattern ++ [c]) = head :: (others ++ [[]]) := by
      rw [Text.split_append_cons hc, hsplit, List.cons_append]
      rfl
    exact ofText_eq_of_split hsplit hclosed (by simp [segmentsOf])

theorem ofText_of_reflTransGen {pattern pattern' : Text}
    (h : Relation.ReflTransGen Respelled pattern pattern') :
    Pattern.ofText pattern' = Pattern.ofText pattern := by
  induction h with
  | refl => rfl
  | tail _ hstep ih => exact (ofText_of_respelled hstep).trans ih

/-- A glob depends on its pattern only as far as it is taken apart. -/
theorem outcome_glob_congr (fs : FileSystem) (env : Environment) (scope : Path)
    {pattern pattern' : Text} (h : Pattern.ofText pattern' = Pattern.ofText pattern) :
    (glob fs env scope pattern').outcome = (glob fs env scope pattern).outcome := by
  rw [glob, glob, h, Traced.outcome_bind, Traced.outcome_bind]
  simp only [outcome_expandAll_congr pattern' pattern]

end Glob

namespace Session

open Glob

/-- The root, if it has a text, and the segments of a pattern are its runs between separators, none
of them lost. Patterns that differ in the spelling of their separators have the same root and the
same segments, and in every session they give the same paths or fail in the same way. -/
theorem glob_of_respelled_pattern (pattern : Text) :
    (∀ segment ∈ (Pattern.ofText pattern).segments,
      segment ≠ [] ∧ ∀ c ∈ segment, isSeparator c = false) ∧
    (∀ runs, CutsInto pattern runs ↔
      runs = ((Pattern.ofText pattern).root.text :: (Pattern.ofText pattern).segments).filter
        (· ≠ [])) ∧
    ∀ pattern', Relation.ReflTransGen Respelled pattern pattern' →
      Pattern.ofText pattern' = Pattern.ofText pattern ∧
      ∀ s : Session, (s.perform (.glob (.spelled pattern'))).1.outcome =
        (s.perform (.glob (.spelled pattern))).1.outcome := by
  refine ⟨fun _ hsegment => segment_of_mem_segments hsegment, fun runs => ?_, fun pattern' h => ?_⟩
  · rw [root_cons_segments, cutsInto_iff]
  · have hparsed := ofText_of_reflTransGen h
    refine ⟨hparsed, fun s => ?_⟩
    simp only [perform, answer, PathArgument.text, Traced.map_eq,
      outcome_glob_congr s.files s.environment s.directory hparsed]

theorem glob_of_respelled_pattern_of_home :
    let s : Session := { files := FileSystem.empty.insert ["h"] (.directory {})
                         environment := [("HOME", "/h")] }
    Relation.ReflTransGen Respelled "~/." "~\\.//" ∧
      (Pattern.ofText "~\\.//").root = .home ∧
      (s.perform (.glob (.spelled "~\\.//"))).1.outcome =
        (s.perform (.glob (.spelled "~/."))).1.outcome := by
  intro s
  have hreplaced : Respelled "~/." "~\\." := .replaced ['~'] ['.'] rfl rfl
  have hclosed : Respelled "~\\." "~\\./" := .closed _ rfl
  have hrepeated : Respelled "~\\./" "~\\.//" := .repeated ['~', '\\', '.'] [] rfl
  have hrespelled := ((Relation.ReflTransGen.single hreplaced).tail hclosed).tail hrepeated
  obtain ⟨_, _, hsame⟩ := glob_of_respelled_pattern "~/."
  exact ⟨hrespelled, rfl, (hsame _ hrespelled).2 s⟩

/-- A separator in front of the first one is not redundant: what was the root becomes a segment. -/
example : (Pattern.ofText "~/a").root = .home ∧ (Pattern.ofText "/~/a").segments = ["~", "a"] :=
  ⟨rfl, rfl⟩

end Session

end ScopedShell
