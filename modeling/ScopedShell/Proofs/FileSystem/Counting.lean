import ScopedShell.Proofs.FileSystem.Listing

/-!
# Entries below a location

`countBelow` is the number of entries at a location and below it. The entries below the names of a
directory are all different and none of them is the directory (`total_countBelow_lt`), which is why
going down a file system comes to an end.
-/

namespace ScopedShell

namespace FileSystem

def total {α : Type} (count : α → Nat) : List α → Nat
  | [] => 0
  | a :: as => count a + total count as

def countBelow (fs : FileSystem) (l : Location) : Nat :=
  fs.entries.countP fun entry => l <+: entry.1

/-- Whatever satisfies one of several tests that exclude each other is counted once. -/
theorem total_countP_le {α β : Type} {items : List α} {tests : List β} {holds : β → α → Bool}
    {all : α → Bool} (hall : ∀ test ∈ tests, ∀ item, holds test item = true → all item = true)
    (hdisjoint : tests.Pairwise fun test other =>
      ∀ item, holds test item = true → holds other item = false) :
    total (fun test => items.countP (holds test)) tests ≤ items.countP all := by
  induction tests generalizing all with
  | nil => exact Nat.zero_le _
  | cons test tests ih =>
    rw [List.pairwise_cons] at hdisjoint
    rw [List.forall_mem_cons] at hall
    have hothers := @ih (fun item => all item && !holds test item)
      (fun other hother item hitem => by
        have hnot : holds test item = false := by
          cases htest : holds test item with
          | false => rfl
          | true => rw [hdisjoint.1 other hother item htest] at hitem; cases hitem
        simp [hall.2 other hother item hitem, hnot])
      hdisjoint.2
    have hfirst : items.countP (holds test) ≤
        items.countP fun item => all item && holds test item :=
      List.countP_mono_left fun item _ hitem => by simp [hall.1 item hitem, hitem]
    have hsplit := List.countP_eq_countP_filter_add items all (holds test)
    simp only [List.countP_filter] at hsplit
    rw [total]
    omega

theorem countP_lt_countP {α : Type} {items : List α} {stronger weaker : α → Bool}
    (h : ∀ item ∈ items, stronger item = true → weaker item = true) {item : α}
    (hitem : item ∈ items)
    (hweaker : weaker item = true) (hstronger : stronger item = false) :
    items.countP stronger < items.countP weaker := by
  obtain ⟨before, after, rfl⟩ := List.append_of_mem hitem
  have hbefore : before.countP stronger ≤ before.countP weaker :=
    List.countP_mono_left fun other hother => h other (List.mem_append_left _ hother)
  have hafter : after.countP stronger ≤ after.countP weaker :=
    List.countP_mono_left fun other hother =>
      h other (List.mem_append_right _ (List.mem_cons_of_mem _ hother))
  rw [List.countP_append, List.countP_append, List.countP_cons_of_pos hweaker,
    List.countP_cons_of_neg (by simp [hstronger])]
  omega

variable {fs : FileSystem}

theorem countBelow_pos {l : Location} {node : Node} (h : fs.node? l = some node) :
    0 < fs.countBelow l :=
  List.countP_pos_iff.2 ⟨_, node?_eq_some_iff.1 h, by simp⟩

theorem countBelow_le (fs : FileSystem) (l : Location) : fs.countBelow l ≤ fs.entries.length :=
  List.countP_le_length

theorem countBelow_append_singleton_lt {l : Location} {node : Node} (h : fs.node? l = some node)
    (name : Text) : fs.countBelow (l ++ [name]) < fs.countBelow l := by
  refine countP_lt_countP (fun entry _ hentry => ?_) (node?_eq_some_iff.1 h) (by simp) ?_
  · rw [decide_eq_true_iff] at hentry ⊢
    exact (List.prefix_append l [name]).trans hentry
  · rw [decide_eq_false_iff_not]
    intro hlonger
    have hlength : (l ++ [name]).length ≤ l.length := hlonger.length_le
    rw [List.length_append, List.length_singleton] at hlength
    omega

/-- The entries below the names of a directory are fewer than those at it and below it. -/
theorem total_countBelow_lt {l : Location} {node : Node} (h : fs.node? l = some node) :
    total (fun name => fs.countBelow (l ++ [name])) (fs.namesIn l) < fs.countBelow l := by
  have hnames : total (fun name => fs.countBelow (l ++ [name])) (fs.namesIn l) ≤
      fs.entries.countP fun entry => decide (l <+: entry.1) && decide (l ≠ entry.1) := by
    refine total_countP_le (fun name _ entry hentry => ?_) ?_
    · obtain ⟨rest, hrest⟩ := of_decide_eq_true hentry
      rw [← hrest]
      simp
    · apply (fs.nodup_namesIn l).imp
      intro name other hne entry hentry
      rw [decide_eq_true_iff] at hentry
      rw [decide_eq_false_iff_not]
      intro hother
      have heq := List.prefix_of_prefix_length_le hentry hother (by simp)
      have hsame : l ++ [name] = l ++ [other] := heq.eq_of_length (by simp)
      exact hne (List.singleton_inj.1 (List.append_cancel_left hsame))
  refine Nat.lt_of_le_of_lt hnames (countP_lt_countP (fun entry _ hentry => ?_)
    (node?_eq_some_iff.1 h) (by simp) (by simp))
  exact (Bool.and_eq_true _ _ ▸ hentry).1

end FileSystem

end ScopedShell
