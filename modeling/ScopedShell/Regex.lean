import ScopedShell.Text

/-!
# Regular expressions

Expressions over texts with the constructs that patterns of names need: characters, any character
but one, runs of such characters, sequence, choice, a look at what follows, and the two ends of the
text. `Regex.Matches` is their meaning: it relates an expression to a part of a text together with
what stands before and after that part. `Regex.endings` computes what may be left after a match, and
each ending once, so that neighbouring runs do not multiply.

The end of the text also lies in front of a line feed that ends it.
-/

namespace ScopedShell

inductive Regex
  | empty
  | char (c : Char)
  | other (c : Char)
  | run (c : Char)
  | seq (first second : Regex)
  | alt (left right : Regex)
  | ahead (r : Regex)
  | start
  | finish
deriving DecidableEq, Repr

namespace Regex

/-- The meaning of an expression: `Matches r before part after` says that `r` matches `part` where
`before` precedes it and `after` follows. -/
inductive Matches : Regex → Text → Text → Text → Prop
  | empty {before after : Text} : Matches empty before [] after
  | char {before after : Text} (c : Char) : Matches (char c) before [c] after
  | other {before after : Text} {c d : Char} (h : d ≠ c) : Matches (other c) before [d] after
  | run {before part after : Text} {c : Char} (h : c ∉ part) : Matches (run c) before part after
  | seq {before part part' after : Text} {r s : Regex}
      (hr : Matches r before part (part' ++ after)) (hs : Matches s (before ++ part) part' after) :
      Matches (seq r s) before (part ++ part') after
  | left {before part after : Text} {r s : Regex} (h : Matches r before part after) :
      Matches (alt r s) before part after
  | right {before part after : Text} {r s : Regex} (h : Matches s before part after) :
      Matches (alt r s) before part after
  | ahead {before part after : Text} {r : Regex} (h : Matches r before part after) :
      Matches (ahead r) before [] (part ++ after)
  | start {after : Text} : Matches start [] [] after
  | finish {before : Text} : Matches finish before [] []
  | lastLine {before : Text} : Matches finish before [] ['\n']

/-- The texts of a list, each once. Lengths tell most of them apart. -/
def distinct (ts : List Text) : List Text :=
  ((ts.map fun t => (t.length, t)).eraseDups).map Prod.snd

def runEndings (c : Char) : Text → List Text
  | [] => [[]]
  | d :: rest => (d :: rest) :: if d = c then [] else runEndings c rest

/-- What may be left of a text after a match at its beginning; the text is the end of a text of the
given length. -/
def endings (total : Nat) : Regex → Text → List Text
  | empty, t => [t]
  | char c, t =>
    match t with
    | d :: rest => if d = c then [rest] else []
    | [] => []
  | other c, t =>
    match t with
    | d :: rest => if d = c then [] else [rest]
    | [] => []
  | run c, t => runEndings c t
  | seq r s, t => distinct ((r.endings total t).flatMap (s.endings total))
  | alt r s, t => distinct (r.endings total t ++ s.endings total t)
  | ahead r, t => if (r.endings total t).isEmpty then [] else [t]
  | start, t => if t.length = total then [t] else []
  | finish, t => if t = [] ∨ t = ['\n'] then [t] else []

def fullMatch (r : Regex) (t : Text) : Bool :=
  (r.endings t.length t).contains []

theorem mem_distinct {ts : List Text} {t : Text} : t ∈ distinct ts ↔ t ∈ ts := by
  simp [distinct, List.mem_eraseDups]

theorem mem_runEndings_iff {c : Char} {t rest : Text} :
    rest ∈ runEndings c t ↔ ∃ part, c ∉ part ∧ t = part ++ rest := by
  induction t with
  | nil =>
    simp only [runEndings, List.mem_singleton]
    constructor
    · rintro rfl
      exact ⟨[], by simp, rfl⟩
    · rintro ⟨part, _, h⟩
      exact (List.append_eq_nil_iff.1 h.symm).2
  | cons d t ih =>
    rw [runEndings, List.mem_cons]
    constructor
    · rintro (rfl | h)
      · exact ⟨[], by simp, rfl⟩
      · split at h
        · simp at h
        · next hd =>
          obtain ⟨part, hpart, rfl⟩ := ih.1 h
          exact ⟨d :: part, by simp [Ne.symm hd, hpart], rfl⟩
    · rintro ⟨part, hpart, h⟩
      cases part with
      | nil => exact Or.inl h.symm
      | cons e part =>
        obtain ⟨rfl, rfl⟩ := List.cons.inj h
        simp only [List.mem_cons, not_or] at hpart
        rw [if_neg (Ne.symm hpart.1)]
        exact Or.inr (ih.2 ⟨part, hpart.2, rfl⟩)

theorem mem_endings_iff {r : Regex} {before t rest : Text} :
    rest ∈ r.endings (before ++ t).length t ↔
      ∃ part, t = part ++ rest ∧ r.Matches before part rest := by
  induction r generalizing before t rest with
  | empty =>
    simp only [endings, List.mem_singleton]
    constructor
    · rintro rfl
      exact ⟨[], rfl, .empty⟩
    · rintro ⟨part, rfl, h⟩
      cases h
      rfl
  | char c =>
    cases t with
    | nil =>
      simp only [endings, List.not_mem_nil, false_iff]
      rintro ⟨part, h, hm⟩
      cases hm
      simp at h
    | cons d t =>
      simp only [endings]
      constructor
      · intro h
        split at h
        · next hd =>
          obtain rfl := List.mem_singleton.1 h
          exact ⟨[c], by simp [hd], .char c⟩
        · simp at h
      · rintro ⟨part, h, hm⟩
        cases hm
        simp_all
  | other c =>
    cases t with
    | nil =>
      simp only [endings, List.not_mem_nil, false_iff]
      rintro ⟨part, h, hm⟩
      cases hm
      simp at h
    | cons d t =>
      simp only [endings]
      constructor
      · intro h
        split at h
        · simp at h
        · next hd =>
          obtain rfl := List.mem_singleton.1 h
          exact ⟨[d], rfl, .other hd⟩
      · rintro ⟨part, h, hm⟩
        cases hm
        simp_all
  | run c =>
    rw [endings, mem_runEndings_iff]
    constructor
    · rintro ⟨part, hpart, rfl⟩
      exact ⟨part, rfl, .run hpart⟩
    · rintro ⟨part, rfl, hm⟩
      cases hm with
      | run h => exact ⟨part, h, rfl⟩
  | seq r s ihr ihs =>
    rw [endings, mem_distinct, List.mem_flatMap]
    constructor
    · rintro ⟨middle, hr, hs⟩
      obtain ⟨part, rfl, hmr⟩ := ihr.1 hr
      rw [← List.append_assoc] at hs
      obtain ⟨part', rfl, hms⟩ := ihs.1 hs
      exact ⟨part ++ part', by simp, .seq hmr hms⟩
    · rintro ⟨whole, rfl, hm⟩
      cases hm with
      | @seq _ part part' _ _ _ hmr hms =>
        refine ⟨part' ++ rest, ihr.2 ⟨part, by simp, hmr⟩, ?_⟩
        have hlength : before ++ (part ++ part' ++ rest) =
            (before ++ part) ++ (part' ++ rest) := by simp
        rw [hlength]
        exact ihs.2 ⟨part', rfl, hms⟩
  | alt r s ihr ihs =>
    rw [endings, mem_distinct, List.mem_append, ihr, ihs]
    constructor
    · rintro (⟨part, rfl, hm⟩ | ⟨part, rfl, hm⟩)
      · exact ⟨part, rfl, .left hm⟩
      · exact ⟨part, rfl, .right hm⟩
    · rintro ⟨part, rfl, hm⟩
      cases hm with
      | left h => exact Or.inl ⟨part, rfl, h⟩
      | right h => exact Or.inr ⟨part, rfl, h⟩
  | ahead r ih =>
    rw [endings]
    constructor
    · intro h
      split at h
      · simp at h
      · next hne =>
        obtain rfl := List.mem_singleton.1 h
        obtain ⟨after, hafter⟩ := List.exists_mem_of_ne_nil _ fun h => hne (List.isEmpty_iff.2 h)
        obtain ⟨part, heq, hm⟩ := ih.1 hafter
        exact ⟨[], rfl, heq ▸ .ahead hm⟩
    · rintro ⟨part, rfl, hm⟩
      cases hm with
      | @ahead _ seen after _ h =>
        have hmem := ih.2 ⟨seen, rfl, h⟩
        have hne : (r.endings (before ++ (seen ++ after)).length (seen ++ after)).isEmpty =
            false := by
          simpa using List.ne_nil_of_mem hmem
        simp only [List.nil_append, hne]
        exact List.mem_singleton_self _
  | start =>
    rw [endings]
    constructor
    · intro h
      split at h
      · next hlength =>
        obtain rfl := List.mem_singleton.1 h
        have hbefore : before = [] := by
          rw [List.length_append] at hlength
          exact List.eq_nil_of_length_eq_zero (by omega)
        exact ⟨[], rfl, hbefore ▸ .start⟩
      · simp at h
    · rintro ⟨part, rfl, hm⟩
      cases hm
      simp
  | finish =>
    rw [endings]
    constructor
    · intro h
      split at h
      · next hend =>
        obtain rfl := List.mem_singleton.1 h
        rcases hend with rfl | rfl
        · exact ⟨[], rfl, .finish⟩
        · exact ⟨[], rfl, .lastLine⟩
      · simp at h
    · rintro ⟨part, rfl, hm⟩
      cases hm <;> simp

/-- The matcher decides the meaning. -/
theorem fullMatch_iff {r : Regex} {t : Text} : r.fullMatch t = true ↔ r.Matches [] t [] := by
  have h := @mem_endings_iff r [] t []
  simp only [List.nil_append, List.append_nil] at h
  rw [fullMatch, List.contains_iff_mem, h]
  constructor
  · rintro ⟨part, rfl, hm⟩
    exact hm
  · exact fun hm => ⟨t, rfl, hm⟩

end Regex

end ScopedShell
