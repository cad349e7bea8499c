import ScopedShell.Proofs.Glob.Language
import ScopedShell.Proofs.Regex.Meaning

/-!
# The expression of a wording

`Wording.extend` is the expression that a wording adds behind another one, and `Wording.expression`
the expression of a whole segment, with the look for a hidden name in front and the end of the text
behind it. The added expression matches what the wording describes
(`Wording.matches_extend_iff`), and the whole expression the names that it describes
(`Wording.fullMatch_expression_iff`).
-/

namespace ScopedShell

namespace Glob

def Sign.extend (dotFollows : Bool) : Sign → Regex → Regex
  | plain c, r => .seq r (.char c)
  | escaped c, r => .seq r (.char c)
  | run, r => .seq r (.run '/')
  | one, r => .seq r (.other '/')
  | slash, r =>
    if dotFollows then .seq r (.char '/')
    else .seq (.seq r (.char '/')) (.ahead (.seq .empty (.other '.')))

mutual

def Wording.extend : Wording → Regex → Regex
  | .done, r => r
  | .backslash, r => .seq r (.char '\\')
  | .sign s rest, r => rest.extend (s.extend (isDotSegment rest.spelled) r)
  | .braces choices rest, r => rest.extend (.seq r (choices.collect none))

/-- The expression of the choices after those that are collected already. -/
def Choices.collect : Choices → Option Regex → Regex
  | .last choice, earlier => Regex.close earlier (choice.extend .empty)
  | .more choice others, earlier =>
    others.collect (some (Regex.close earlier (choice.extend .empty)))

end

theorem Sign.matches_extend_iff (s : Sign) (dotFollows : Bool) {r : Regex}
    {before part after : Text} :
    (s.extend dotFollows r).Matches before part after ↔
      ∃ here there, part = here ++ there ∧ r.Matches before here (there ++ after) ∧
        s.Describes dotFollows there after := by
  cases s with
  | plain c =>
    simp only [extend, Describes, Regex.matches_seq_iff, Regex.matches_char_iff]
  | escaped c =>
    simp only [extend, Describes, Regex.matches_seq_iff, Regex.matches_char_iff]
  | run =>
    simp only [extend, Describes, Regex.matches_seq_iff, Regex.matches_run_iff]
  | one =>
    simp only [extend, Describes, Regex.matches_seq_iff, Regex.matches_other_iff]
  | slash =>
    cases dotFollows with
    | true =>
      simp only [extend, Describes, Regex.matches_seq_iff, Regex.matches_char_iff, if_true, true_or,
        and_true]
    | false =>
      simp only [extend, Describes, Bool.false_eq_true, if_false, false_or, IsVisible]
      constructor
      · intro h
        obtain ⟨_, _, rfl, hseq, hahead⟩ := Regex.matches_seq_iff.1 h
        obtain ⟨rfl, hvisible⟩ := Regex.matches_aheadOther_iff.1 hahead
        obtain ⟨here, there, rfl, hr, hslash⟩ := Regex.matches_seq_iff.1 hseq
        exact ⟨here, there, by simp, by simpa using hr, Regex.matches_char_iff.1 hslash, hvisible⟩
      · rintro ⟨here, there, rfl, hr, rfl, hvisible⟩
        refine Regex.matches_seq_iff.2 ⟨here ++ ['/'], [], by simp, ?_, ?_⟩
        · exact .seq hr (.char '/')
        · exact Regex.matches_aheadOther_iff.2 ⟨rfl, hvisible⟩

theorem exists_append_nil_iff {p : Text → Prop} {part : Text} :
    (∃ here there, part = here ++ there ∧ here = [] ∧ p there) ↔ p part := by
  constructor
  · rintro ⟨_, there, rfl, rfl, h⟩
    exact h
  · exact fun h => ⟨[], part, rfl, rfl, h⟩

mutual

theorem Wording.matches_extend_iff : ∀ (w : Wording) {r : Regex} {before part after : Text},
    (w.extend r).Matches before part after ↔
      ∃ here there, part = here ++ there ∧ r.Matches before here (there ++ after) ∧
        w.Describes there after
  | .done, r, before, part, after => by
    simp [Wording.extend, Wording.Describes]
  | .backslash, r, before, part, after => by
    simp only [Wording.extend, Wording.Describes, Regex.matches_seq_iff, Regex.matches_char_iff]
  | .sign s rest, r, before, part, after => by
    rw [Wording.extend, Wording.matches_extend_iff rest]
    constructor
    · rintro ⟨_, last, rfl, hs, hrest⟩
      obtain ⟨here, there, rfl, hr, hthere⟩ := (s.matches_extend_iff _).1 hs
      exact ⟨here, there ++ last, by simp, by simpa using hr, there, last, rfl, hthere, hrest⟩
    · rintro ⟨here, _, rfl, hr, there, last, rfl, hthere, hrest⟩
      refine ⟨here ++ there, last, by simp, ?_, hrest⟩
      exact (s.matches_extend_iff _).2 ⟨here, there, rfl, by simpa using hr, hthere⟩
  | .braces choices rest, r, before, part, after => by
    rw [Wording.extend, Wording.matches_extend_iff rest]
    constructor
    · rintro ⟨_, last, rfl, hseq, hrest⟩
      obtain ⟨here, there, rfl, hr, hchoices⟩ := Regex.matches_seq_iff.1 hseq
      obtain ⟨_, hnone, _⟩ | hthere := (Choices.matches_collect_iff choices).1 hchoices
      · cases hnone
      · exact ⟨here, there ++ last, by simp, by simpa using hr, there, last, rfl, hthere, hrest⟩
    · rintro ⟨here, _, rfl, hr, there, last, rfl, hthere, hrest⟩
      refine ⟨here ++ there, last, by simp, ?_, hrest⟩
      exact .seq (by simpa using hr) ((Choices.matches_collect_iff choices).2 (Or.inr hthere))

theorem Choices.matches_collect_iff : ∀ (choices : Choices) {earlier : Option Regex}
    {before part after : Text},
    (choices.collect earlier).Matches before part after ↔
      (∃ others, earlier = some others ∧ others.Matches before part after) ∨
        choices.Describes part after
  | .last choice, earlier, before, part, after => by
    have hchoice : (choice.extend .empty).Matches before part after ↔
        choice.Describes part after := by
      rw [Wording.matches_extend_iff choice]
      simp only [Regex.matches_empty_iff, exists_append_nil_iff]
    rw [Choices.collect, Regex.matches_close_iff, hchoice, Choices.Describes]
  | .more choice others, earlier, before, part, after => by
    have hchoice : (choice.extend .empty).Matches before part after ↔
        choice.Describes part after := by
      rw [Wording.matches_extend_iff choice]
      simp only [Regex.matches_empty_iff, exists_append_nil_iff]
    rw [Choices.collect, Choices.matches_collect_iff others, Choices.Describes]
    simp only [Option.some.injEq, exists_eq_left', Regex.matches_close_iff, hchoice, or_assoc]

end

/-! ## Whole segments -/

def opening (segment : Text) : Regex :=
  if isDotSegment segment then .seq .empty .start
  else .seq (.seq .empty .start) (.ahead (.seq .empty (.other '.')))

theorem matches_opening_iff {segment here after : Text} :
    (opening segment).Matches [] here after ↔
      here = [] ∧ (isDotSegment segment = false → IsVisible after) := by
  have hstart : ∀ {part rest : Text},
      (Regex.seq .empty .start).Matches [] part rest ↔ part = [] := by
    intro part rest
    constructor
    · intro h
      obtain ⟨_, _, rfl, hempty, hstart⟩ := Regex.matches_seq_iff.1 h
      obtain rfl := Regex.matches_empty_iff.1 hempty
      exact (Regex.matches_start_iff.1 hstart).2
    · rintro rfl
      exact Regex.matches_seq_iff.2 ⟨[], [], rfl, .empty, .start⟩
  rw [opening]
  cases isDotSegment segment with
  | true => simp [hstart]
  | false =>
    simp only [Bool.false_eq_true, if_false, forall_const, IsVisible]
    constructor
    · intro h
      obtain ⟨_, _, rfl, hbefore, hahead⟩ := Regex.matches_seq_iff.1 h
      obtain rfl := hstart.1 hbefore
      obtain ⟨rfl, hvisible⟩ := Regex.matches_aheadOther_iff.1 hahead
      exact ⟨rfl, hvisible⟩
    · rintro ⟨rfl, hvisible⟩
      exact Regex.matches_seq_iff.2
        ⟨[], [], rfl, hstart.2 rfl, Regex.matches_aheadOther_iff.2 ⟨rfl, hvisible⟩⟩

def Wording.expression (w : Wording) : Regex :=
  .seq (w.extend (opening w.spelled)) .finish

theorem Wording.fullMatch_expression_iff (w : Wording) (name : Text) :
    w.expression.fullMatch name = true ↔
      (isDotSegment w.spelled = false → IsVisible name) ∧ w.Describes name [] := by
  simp only [expression, Regex.fullMatch_iff, Regex.matches_seq_iff, Regex.matches_finish_iff,
    Wording.matches_extend_iff, matches_opening_iff]
  constructor
  · rintro ⟨_, _, rfl, ⟨_, there, rfl, ⟨rfl, hvisible⟩, hw⟩, rfl⟩
    exact ⟨by simpa using hvisible, by simpa using hw⟩
  · rintro ⟨hvisible, hw⟩
    exact ⟨name, [], by simp, ⟨[], name, rfl, ⟨rfl, by simpa using hvisible⟩, by simpa using hw⟩,
      rfl⟩

end Glob

end ScopedShell
