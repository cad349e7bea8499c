import ScopedShell.Proofs.Path.Descent

/-!
# Going up from a path

`Path.climb` goes up a number of parents, as long as there are any, and `Path.take` keeps a number
of the first parts. Going up from a child leads back to the path (`parent_child`), and so does
keeping the parts that were there before going down (`take_descend`). A path with parts is the child
of its parent under its name (`child_parent_name`), so going up from it meets the path with one part
less each time, until there are none left (`above`).
-/

namespace ScopedShell

namespace Path

def take (n : Nat) (p : Path) : Path :=
  ⟨p.root, p.parts.take n, fun part h => p.isPart_of_mem part (List.mem_of_mem_take h)⟩

/-- The path a number of parents up, if there are that many. -/
def climb : Nat → Path → Option Path
  | 0, p => some p
  | ups + 1, p => p.parent?.bind (climb ups)

/-- The paths above a path, the nearest first: it loses its last part, then the one before, and so
on. -/
def above (p : Path) : List Path :=
  (List.range p.parts.length).reverse.map fun n => p.take n

theorem parent_child (p : Path) {name : Text} (h : IsPart name) : (p.child name).parent = p := by
  ext1
  · exact root_child p h
  · change (p.child name).parts.dropLast = p.parts
    rw [parts_child p h, List.dropLast_concat]

theorem parent_of_parts_eq_nil {p : Path} (h : p.parts = []) : p.parent = p := by
  ext1
  · rfl
  · simp [parent, h]

theorem take_descend (p : Path) {names : List Text} (h : ∀ name ∈ names, IsPart name) :
    (p.descend names).take p.parts.length = p := by
  ext1
  · exact root_descend p h
  · change (p.descend names).parts.take p.parts.length = p.parts
    rw [parts_descend p h, List.take_left]

@[simp] theorem take_length (p : Path) : p.take p.parts.length = p := by
  ext1
  · rfl
  · exact List.take_length

theorem take_parent {p : Path} {n : Nat} (h : n ≤ p.parts.length - 1) :
    p.parent.take n = p.take n := by
  ext1
  · rfl
  · change p.parts.dropLast.take n = p.parts.take n
    rw [List.dropLast_eq_take, List.take_take, Nat.min_eq_left h]

theorem parent?_eq_some_iff {p q : Path} : p.parent? = some q ↔ p.parts ≠ [] ∧ p.parent = q := by
  simp [parent?]

theorem isAbsolute_of_parent? {p q : Path} (h : p.isAbsolute = true) (hq : p.parent? = some q) :
    q.isAbsolute = true := by
  obtain ⟨_, rfl⟩ := parent?_eq_some_iff.1 hq
  exact h

theorem parent?_child (p : Path) {name : Text} (h : IsPart name) :
    (p.child name).parent? = some p :=
  parent?_eq_some_iff.2 ⟨by simp [parts_child p h], parent_child p h⟩

/-! ## The name of a path -/

theorem name_eq_getLast {p : Path} (h : p.parts ≠ []) : p.name = p.parts.getLast h := by
  rw [name, List.getLast?_eq_some_getLast h]
  rfl

theorem isPart_name {p : Path} (h : p.parts ≠ []) : IsPart p.name :=
  name_eq_getLast h ▸ p.isPart_of_mem _ (List.getLast_mem h)

theorem parts_eq_append_name {p : Path} (h : p.parts ≠ []) :
    p.parts = p.parent.parts ++ [p.name] := by
  rw [name_eq_getLast h]
  exact (List.dropLast_concat_getLast h).symm

theorem child_parent_name {p : Path} (h : p.parts ≠ []) : p.parent.child p.name = p := by
  ext1
  · exact root_child _ (isPart_name h)
  · rw [parts_child _ (isPart_name h), ← parts_eq_append_name h]

/-! ## The paths above a path -/

@[simp] theorem length_above (p : Path) : p.above.length = p.parts.length := by
  simp [above]

theorem above_of_parts_eq_nil {p : Path} (h : p.parts = []) : p.above = [] := by
  rw [above, h]
  rfl

theorem above_of_parts_ne_nil {p : Path} (h : p.parts ≠ []) :
    p.above = p.parent :: p.parent.above := by
  have hlength : p.parts.length = p.parent.parts.length + 1 := by
    rw [parts_eq_append_name h, List.length_append, List.length_singleton]
  have hnearest : p.take p.parent.parts.length = p.parent := by
    rw [← take_parent (by omega), take_length]
  rw [above, hlength, List.range_succ, List.reverse_append, List.reverse_singleton,
    List.singleton_append, List.map_cons, hnearest, above]
  congr 1
  apply List.map_congr_left
  intro n hn
  rw [List.mem_reverse, List.mem_range] at hn
  exact (take_parent (by omega)).symm

/-! ## Going up several times -/

theorem climb_eq_some_iff {ups : Nat} {p q : Path} :
    p.climb ups = some q ↔ ups ≤ p.parts.length ∧ p.take (p.parts.length - ups) = q := by
  induction ups generalizing p with
  | zero =>
    rw [climb, Option.some.injEq, Nat.sub_zero, take_length]
    exact (and_iff_right (Nat.zero_le _)).symm
  | succ ups ih =>
    rw [climb, Option.bind_eq_some_iff]
    simp only [parent?_eq_some_iff, ih]
    have hlength : p.parent.parts.length = p.parts.length - 1 := List.length_dropLast
    constructor
    · rintro ⟨_, ⟨hparts, rfl⟩, hups, rfl⟩
      have hpos := List.length_pos_iff.2 hparts
      rw [hlength] at hups ⊢
      refine ⟨by omega, ?_⟩
      rw [take_parent (by omega), Nat.sub_right_comm, Nat.sub_sub]
    · rintro ⟨hups, rfl⟩
      refine ⟨p.parent, ⟨List.length_pos_iff.1 (by omega), rfl⟩, by omega, ?_⟩
      rw [hlength, take_parent (by omega), Nat.sub_sub, Nat.add_comm]

end Path

end ScopedShell
