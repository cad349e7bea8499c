import ScopedShell.Text

/-!
# Texts put together and cut

Where two texts are put together with a separator between them, their parts stand one behind the
other (`split_append_cons`). A text that holds a character is cut at its last occurrence: what
follows it does not hold the character (`exists_cutLast?_eq`).
-/

namespace ScopedShell

namespace Text

section Split

variable {isSeparator : Char → Bool}

theorem split_eq_singleton {t : Text} (h : ∀ c ∈ t, isSeparator c = false) :
    split isSeparator t = [t] := by
  induction t with
  | nil => rfl
  | cons c t ih =>
    rw [List.forall_mem_cons] at h
    simp [split, h.1, ih h.2]

theorem split_append_cons {t rest : Text} {c : Char} (hc : isSeparator c = true) :
    split isSeparator (t ++ c :: rest) = split isSeparator t ++ split isSeparator rest := by
  induction t with
  | nil => simp [split, hc]
  | cons d t ih =>
    rw [List.cons_append, split, split, ih]
    split
    · rfl
    · cases hsplit : Text.split isSeparator t with
      | nil => exact (split_ne_nil _ _ hsplit).elim
      | cons part parts => rfl

theorem exists_split_eq_cons (isSeparator : Char → Bool) (t : Text) :
    ∃ first others, split isSeparator t = first :: others :=
  List.exists_cons_of_ne_nil (split_ne_nil isSeparator t)

end Split

/-! ## The last occurrence of a character -/

theorem cutLast?_append {mark : Char} {stem suffix : Text} (h : mark ∉ suffix) :
    cutLast? mark (stem ++ mark :: suffix) = some (stem, suffix) := by
  have hother : ∀ c ∈ suffix.reverse, (c != mark) = true := by
    intro c hc
    rw [bne_iff_ne]
    rintro rfl
    exact h (List.mem_reverse.1 hc)
  have hreverse : (stem ++ mark :: suffix).reverse = suffix.reverse ++ mark :: stem.reverse := by
    rw [List.reverse_append, List.reverse_cons, List.append_assoc, List.singleton_append]
  rw [cutLast?, if_pos (List.mem_append_right _ List.mem_cons_self), hreverse,
    List.dropWhile_append_of_pos hother, List.takeWhile_append_of_pos hother]
  simp

theorem exists_cutLast?_eq {mark : Char} {t : Text} (h : mark ∈ t) :
    ∃ stem suffix, t = stem ++ mark :: suffix ∧ mark ∉ suffix ∧
      cutLast? mark t = some (stem, suffix) := by
  obtain ⟨suffix, stem, hreverse, hsuffix⟩ := List.eq_append_cons_of_mem (List.mem_reverse.2 h)
  have ht : t = stem.reverse ++ mark :: suffix.reverse := by
    rw [← List.reverse_reverse t, hreverse, List.reverse_append, List.reverse_cons,
      List.append_assoc, List.singleton_append]
  have hnot : mark ∉ suffix.reverse := fun hmem => hsuffix (List.mem_reverse.1 hmem)
  exact ⟨stem.reverse, suffix.reverse, ht, hnot, ht ▸ cutLast?_append hnot⟩

end Text

end ScopedShell
