import ScopedShell.Glob.Expansion
import ScopedShell.Proofs.Outcome

/-!
# Balanced braces

A brace counts unless an odd number of backslashes stands directly in front of it. `Unmatched s i`
says that the closing brace at a position has no open one before it, and a text is `Balanced` if
there is no such position and no brace stays open. `HasImbalance` says what is wrong with any other
text, and where it shows.

All of this is said of positions in the whole text. The scanner sees the rest of the text and the
depth of open braces; `Scanned` relates the two, and a segment is compiled exactly if it is balanced
(`exists_compile_eq_ok_iff`, `compile_eq_error_iff`).
-/

namespace ScopedShell

namespace Glob

/-- An odd number of backslashes comes last, so the next character stands for itself. -/
def EndsInEscape (front : Text) : Prop :=
  (front.reverse.takeWhile (· == '\\')).length % 2 = 1

instance : DecidablePred EndsInEscape := fun _ => inferInstanceAs (Decidable (_ = _))

/-- The character stands at the position, and not for itself alone. -/
def Counts (s : Text) (c : Char) (i : Nat) : Prop :=
  s[i]? = some c ∧ ¬ EndsInEscape (s.take i)

instance (s : Text) (c : Char) : DecidablePred (Counts s c) :=
  fun _ => inferInstanceAs (Decidable (_ ∧ _))

def countBefore (s : Text) (c : Char) (i : Nat) : Nat :=
  (List.range i).countP (Counts s c ·)

def Unmatched (s : Text) (i : Nat) : Prop :=
  Counts s '}' i ∧ countBefore s '{' i ≤ countBefore s '}' i

def Balanced (s : Text) : Prop :=
  (∀ i, ¬ Unmatched s i) ∧ countBefore s '{' s.length = countBefore s '}' s.length

/-- The first closing brace without an open one, or the end of the text if a brace stays open. -/
inductive HasImbalance (s : Text) : Imbalance → Prop
  | unmatchedClose {i : Nat} (h : Unmatched s i) (hfirst : ∀ j < i, ¬ Unmatched s j) :
      HasImbalance s ⟨i, .unmatchedClose⟩
  | unclosedOpen (h : ∀ i, ¬ Unmatched s i)
      (hopen : countBefore s '}' s.length < countBefore s '{' s.length) :
      HasImbalance s ⟨s.length, .unclosedOpen⟩

variable {s : Text}

theorem HasImbalance.not_balanced {imbalance : Imbalance} (h : HasImbalance s imbalance) :
    ¬ Balanced s := by
  rintro ⟨hmatched, hclosed⟩
  cases h with
  | unmatchedClose h _ => exact hmatched _ h
  | unclosedOpen _ hopen => omega

theorem HasImbalance.unique {imbalance imbalance' : Imbalance} (h : HasImbalance s imbalance)
    (h' : HasImbalance s imbalance') : imbalance = imbalance' := by
  cases h with
  | @unmatchedClose i h hfirst =>
    cases h' with
    | @unmatchedClose j h' hfirst' =>
      obtain hlt | rfl | hlt := Nat.lt_trichotomy i j
      · exact (hfirst' i hlt h).elim
      · rfl
      · exact (hfirst j hlt h').elim
    | unclosedOpen h' _ => exact (h' i h).elim
  | unclosedOpen h _ =>
    cases h' with
    | unmatchedClose h' _ => exact (h _ h').elim
    | unclosedOpen _ _ => rfl

/-! ## Positions and scans -/

theorem endsInEscape_append_singleton {front : Text} {c : Char} :
    EndsInEscape (front ++ [c]) ↔ c = '\\' ∧ ¬ EndsInEscape front := by
  rw [EndsInEscape, EndsInEscape, List.reverse_append, List.reverse_singleton,
    List.singleton_append, List.takeWhile_cons]
  by_cases hc : c = '\\'
  · simp only [hc, beq_self_eq_true, if_true, List.length_cons, true_and]
    omega
  · simp [hc]

theorem countBefore_succ (s : Text) (c : Char) (i : Nat) :
    countBefore s c (i + 1) = countBefore s c i + if Counts s c i then 1 else 0 := by
  rw [countBefore, countBefore, List.range_succ, List.countP_append, List.countP_singleton]
  simp only [decide_eq_true_eq]

/-- A scanner that has come to a position with a number of braces open and `t` to read: it has met
no unmatched brace, and it takes the next character as it is. -/
structure Scanned (s : Text) (depth position : Nat) (t : Text) : Prop where
  rest : s.drop position = t
  position_le : position ≤ s.length
  takes : t ≠ [] → ¬ EndsInEscape (s.take position)
  depth_eq : countBefore s '{' position = countBefore s '}' position + depth
  matched : ∀ i < position, ¬ Unmatched s i

theorem scanned_start (s : Text) : Scanned s 0 0 s where
  rest := rfl
  position_le := Nat.zero_le _
  takes := fun _ => by simp [EndsInEscape]
  depth_eq := rfl
  matched := fun _ h => (Nat.not_lt_zero _ h).elim

variable {depth position : Nat} {t rest : Text} {c : Char}

theorem Scanned.getElem? (h : Scanned s depth position (c :: rest)) : s[position]? = some c := by
  have hhead := congrArg List.head? h.rest
  rwa [List.head?_drop] at hhead

theorem Scanned.position_lt (h : Scanned s depth position (c :: rest)) : position < s.length :=
  (List.getElem?_eq_some_iff.1 h.getElem?).1

theorem Scanned.take_succ (h : Scanned s depth position (c :: rest)) :
    s.take (position + 1) = s.take position ++ [c] := by
  rw [List.take_add_one, h.getElem?]
  rfl

theorem Scanned.drop_succ (h : Scanned s depth position (c :: rest)) :
    s.drop (position + 1) = rest := by
  rw [← List.tail_drop, h.rest, List.tail_cons]

theorem Scanned.counts_iff (h : Scanned s depth position (c :: rest)) (d : Char) :
    Counts s d position ↔ d = c := by
  rw [Counts, h.getElem?, Option.some.injEq, eq_comm,
    and_iff_left (h.takes (List.cons_ne_nil c rest))]

theorem Scanned.next {depth' : Nat} (h : Scanned s depth position (c :: rest))
    (hescape : c = '\\' → rest = []) (hclose : c = '}' → 0 < depth)
    (hdepth : depth + (if c = '{' then 1 else 0) = depth' + if c = '}' then 1 else 0) :
    Scanned s depth' (position + 1) rest where
  rest := h.drop_succ
  position_le := h.position_lt
  takes := by
    intro hrest
    rw [h.take_succ, endsInEscape_append_singleton]
    exact fun hboth => hrest (hescape hboth.1)
  depth_eq := by
    have heq := h.depth_eq
    simp only [countBefore_succ, h.counts_iff, @eq_comm _ _ c] at heq ⊢
    omega
  matched := by
    intro i hi
    rcases Nat.lt_succ_iff_lt_or_eq.1 hi with hi | rfl
    · exact h.matched i hi
    · rintro ⟨hcounts, hle⟩
      have hpos := hclose ((h.counts_iff '}').1 hcounts).symm
      have heq := h.depth_eq
      omega

/-- A backslash takes the character behind it along, and neither of them is a brace that counts. -/
theorem Scanned.skip (h : Scanned s depth position ('\\' :: c :: rest)) :
    Scanned s depth (position + 2) rest := by
  have hescape : EndsInEscape (s.take (position + 1)) := by
    rw [h.take_succ, endsInEscape_append_singleton]
    exact ⟨rfl, h.takes (by simp)⟩
  have htail : s.drop (position + 1) = c :: rest := h.drop_succ
  have hget : s[position + 1]? = some c := by
    rw [← List.head?_drop, htail]
    rfl
  have hfirst : ∀ d, d ≠ '\\' → ¬ Counts s d position := fun d hd hcounts =>
    hd ((h.counts_iff d).1 hcounts)
  have hsecond : ∀ d, ¬ Counts s d (position + 1) := fun d hcounts => hcounts.2 hescape
  constructor
  · rw [← List.tail_drop, htail, List.tail_cons]
  · exact (List.getElem?_eq_some_iff.1 hget).1
  · intro _
    rw [List.take_add_one, hget]
    exact fun hboth => (endsInEscape_append_singleton.1 hboth).2 hescape
  · have heq := h.depth_eq
    simp only [countBefore_succ, if_neg (hsecond _), if_neg (hfirst '{' (by decide)),
      if_neg (hfirst '}' (by decide))]
    omega
  · intro i hi hunmatched
    rcases Nat.lt_succ_iff_lt_or_eq.1 hi with hi | rfl
    · rcases Nat.lt_succ_iff_lt_or_eq.1 hi with hi | rfl
      · exact h.matched i hi hunmatched
      · exact hfirst '}' (by decide) hunmatched.1
    · exact hsecond '}' hunmatched.1

theorem Scanned.finish (h : Scanned s depth position []) :
    position = s.length ∧ ∀ i, ¬ Unmatched s i := by
  have hlength : s.length ≤ position := List.drop_eq_nil_iff.1 h.rest
  refine ⟨Nat.le_antisymm h.position_le hlength, fun i hunmatched => ?_⟩
  have hi := (List.getElem?_eq_some_iff.1 hunmatched.1.1).1
  exact h.matched i (Nat.lt_of_lt_of_le hi hlength) hunmatched

def Finds (s : Text) : Except Imbalance Text → Prop
  | .ok _ => Balanced s
  | .error imbalance => HasImbalance s imbalance

theorem Finds.bind {outcome : Except Imbalance Text} {f : Text → Except Imbalance Text}
    (h : Finds s outcome) (hf : ∀ written, ∃ more, f written = .ok more) :
    Finds s (outcome >>= f) := by
  cases outcome with
  | error imbalance => exact h
  | ok written =>
    obtain ⟨more, hmore⟩ := hf written
    change Finds s (f written)
    rw [hmore]
    exact h

theorem Scanned.finds (h : Scanned s depth position t) : Finds s (scan depth position t) := by
  induction depth, position, t using scan.induct with
  | case1 position =>
    obtain ⟨rfl, hmatched⟩ := h.finish
    rw [scan, if_pos rfl]
    exact ⟨hmatched, h.depth_eq⟩
  | case2 depth position hdepth =>
    obtain ⟨rfl, hmatched⟩ := h.finish
    rw [scan, if_neg hdepth]
    exact .unclosedOpen hmatched (by have := h.depth_eq; omega)
  | case3 depth position c rest ih =>
    rw [scan]
    exact (ih h.skip).bind fun _ => ⟨_, rfl⟩
  | case4 depth position rest ih =>
    rw [scan]
    exact (ih (h.next (by simp) (by simp) rfl)).bind fun _ => ⟨_, rfl⟩
  | case5 depth position rest ih =>
    rw [scan]
    exact (ih (h.next (by simp) (by simp) rfl)).bind fun _ => ⟨_, rfl⟩
  | case6 depth position rest ih =>
    rw [scan]
    exact (ih (h.next (by simp) (by simp) rfl)).bind fun _ => ⟨_, rfl⟩
  | case7 depth position rest ih =>
    rw [scan]
    exact (ih (h.next (by simp) (by simp) rfl)).bind fun _ => ⟨_, rfl⟩
  | case8 position rest =>
    rw [scan]
    refine .unmatchedClose ⟨(h.counts_iff '}').2 rfl, ?_⟩ h.matched
    exact Nat.le_of_eq h.depth_eq
  | case9 position rest depth ih =>
    rw [scan]
    exact (ih (h.next (by simp) (by simp) rfl)).bind fun _ => ⟨_, rfl⟩
  | case10 depth position c rest hescaped hslash hrun hone hopen hclose ih =>
    have hlone : c = '\\' → rest = [] := by
      intro hc
      cases rest with
      | nil => rfl
      | cons d rest => exact (hescaped d rest hc rfl).elim
    rw [scan.eq_9 _ _ _ _ hescaped hslash hrun hone hopen hclose]
    refine (ih (h.next hlone (fun hc => (hclose hc).elim) ?_)).bind fun written => ?_
    · rw [if_neg hopen, if_neg hclose]
    · split
      · exact ⟨_, rfl⟩
      · split
        · exact ⟨_, rfl⟩
        · exact ⟨_, rfl⟩

/-! ## Compiled segments -/

theorem compile_cases (segment : Text) :
    (Balanced segment ∧ ∃ accepts, compile segment = .ok accepts) ∨
      ∃ imbalance, HasImbalance segment imbalance ∧ compile segment = .error imbalance := by
  have hfinds := (scanned_start segment).finds
  cases hscan : scan 0 0 segment with
  | ok written =>
    rw [hscan] at hfinds
    refine Or.inl ⟨hfinds, ?_⟩
    simp only [compile, regex, regexText, hscan]
    exact ⟨_, rfl⟩
  | error imbalance =>
    rw [hscan] at hfinds
    refine Or.inr ⟨imbalance, hfinds, ?_⟩
    simp only [compile, regex, regexText, hscan]
    rfl

theorem exists_compile_eq_ok_iff {segment : Text} :
    (∃ accepts, compile segment = .ok accepts) ↔ Balanced segment := by
  rcases compile_cases segment with ⟨hbalanced, hcompile⟩ | ⟨imbalance, himbalance, hcompile⟩
  · exact iff_of_true hcompile hbalanced
  · refine iff_of_false ?_ himbalance.not_balanced
    rw [hcompile]
    rintro ⟨accepts, haccepts⟩
    cases haccepts

theorem compile_eq_error_iff {segment : Text} {imbalance : Imbalance} :
    compile segment = .error imbalance ↔ HasImbalance segment imbalance := by
  rcases compile_cases segment with ⟨hbalanced, accepts, hcompile⟩ | ⟨found, hfound, hcompile⟩
  · refine iff_of_false ?_ fun h => h.not_balanced hbalanced
    rw [hcompile]
    exact fun h => by cases h
  · rw [hcompile, Except.error.injEq]
    constructor
    · rintro rfl
      exact hfound
    · exact hfound.unique

theorem not_balanced_iff {segment : Text} :
    ¬ Balanced segment ↔ ∃ imbalance, HasImbalance segment imbalance := by
  rcases compile_cases segment with ⟨hbalanced, _⟩ | ⟨imbalance, himbalance, _⟩
  · exact iff_of_false (fun h => h hbalanced) fun ⟨_, h⟩ => h.not_balanced hbalanced
  · exact iff_of_true himbalance.not_balanced ⟨imbalance, himbalance⟩

end Glob

end ScopedShell
