import ScopedShell.Regex.Reading

/-!
# What expressions match

The meaning of an expression, constructor by constructor, as equivalences. A choice that is
collected while an expression is read matches what one of its members matches, and a look for a
character that is not a dot matches where something visible follows.
-/

namespace ScopedShell

namespace Regex

variable {before part after : Text}

theorem matches_empty_iff : Matches empty before part after ↔ part = [] := by
  constructor
  · intro h
    cases h
    rfl
  · rintro rfl
    exact .empty

theorem matches_char_iff {c : Char} : Matches (char c) before part after ↔ part = [c] := by
  constructor
  · intro h
    cases h
    rfl
  · rintro rfl
    exact .char c

theorem matches_other_iff {c : Char} :
    Matches (other c) before part after ↔ ∃ d, d ≠ c ∧ part = [d] := by
  constructor
  · intro h
    cases h with
    | other hd => exact ⟨_, hd, rfl⟩
  · rintro ⟨d, hd, rfl⟩
    exact .other hd

theorem matches_run_iff {c : Char} : Matches (run c) before part after ↔ c ∉ part := by
  constructor
  · intro h
    cases h with
    | run hc => exact hc
  · exact .run

theorem matches_seq_iff {r s : Regex} :
    Matches (seq r s) before part after ↔
      ∃ here there, part = here ++ there ∧ r.Matches before here (there ++ after) ∧
        s.Matches (before ++ here) there after := by
  constructor
  · intro h
    cases h with
    | seq hr hs => exact ⟨_, _, rfl, hr, hs⟩
  · rintro ⟨here, there, rfl, hr, hs⟩
    exact .seq hr hs

theorem matches_alt_iff {r s : Regex} :
    Matches (alt r s) before part after ↔
      r.Matches before part after ∨ s.Matches before part after := by
  constructor
  · intro h
    cases h with
    | left hr => exact Or.inl hr
    | right hs => exact Or.inr hs
  · rintro (hr | hs)
    · exact .left hr
    · exact .right hs

theorem matches_ahead_iff {r : Regex} :
    Matches (ahead r) before part after ↔
      part = [] ∧ ∃ seen rest, after = seen ++ rest ∧ r.Matches before seen rest := by
  constructor
  · intro h
    cases h with
    | ahead hr => exact ⟨rfl, _, _, rfl, hr⟩
  · rintro ⟨rfl, seen, rest, rfl, hr⟩
    exact .ahead hr

theorem matches_start_iff : Matches start before part after ↔ before = [] ∧ part = [] := by
  constructor
  · intro h
    cases h
    exact ⟨rfl, rfl⟩
  · rintro ⟨rfl, rfl⟩
    exact .start

theorem matches_finish_iff : Matches finish before part [] ↔ part = [] := by
  constructor
  · intro h
    cases h
    rfl
  · rintro rfl
    exact .finish

theorem matches_close_iff {choices : Option Regex} {r : Regex} :
    (close choices r).Matches before part after ↔
      (∃ others, choices = some others ∧ others.Matches before part after) ∨
        r.Matches before part after := by
  cases choices with
  | none => simp [close]
  | some others => simp [close, matches_alt_iff]

theorem matches_aheadOther_iff {c : Char} :
    Matches (ahead (seq empty (other c))) before part after ↔
      part = [] ∧ after ≠ [] ∧ after.head? ≠ some c := by
  rw [matches_ahead_iff]
  apply and_congr_right
  intro _
  constructor
  · rintro ⟨seen, rest, rfl, h⟩
    obtain ⟨here, there, rfl, hempty, hother⟩ := matches_seq_iff.1 h
    obtain rfl := matches_empty_iff.1 hempty
    obtain ⟨d, hd, rfl⟩ := matches_other_iff.1 hother
    simpa using hd
  · rintro ⟨hne, hhead⟩
    obtain ⟨d, rest, rfl⟩ := List.exists_cons_of_ne_nil hne
    have hd : d ≠ c := by simpa using hhead
    exact ⟨[d], rest, rfl, matches_seq_iff.2 ⟨[], [d], rfl, .empty, .other hd⟩⟩

/-! ## Reading one character -/

theorem readIn_of_not_isSpecial {groups : List Group} {choices : Option Regex} {sequence : Regex}
    {c : Char} (hc : isSpecial c = false) (rest : Text) :
    readIn groups choices sequence (c :: rest) =
      readIn groups choices (.seq sequence (.char c)) rest := by
  rw [readIn, if_neg (by simp [hc])]
  all_goals
    intros
    subst_vars
    cases hc

theorem readIn_backslash {groups : List Group} {choices : Option Regex} {sequence : Regex}
    {c : Char} (hc : c.isAlphanum = false) (rest : Text) :
    readIn groups choices sequence ('\\' :: c :: rest) =
      readIn groups choices (.seq sequence (.char c)) rest := by
  rw [readIn, if_neg (by simp [hc])]

end Regex

end ScopedShell
