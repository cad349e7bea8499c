import ScopedShell.Path

/-!
# Going down from a path

`Path.descend` goes down from a path along a list of names, one child after the other. Where every
name is a part of a path, the names are the parts that are added, so different names lead to
different paths (`descend_inj`), and the parts of an absolute path are what its text is cut into.
-/

namespace ScopedShell

namespace Path

def descend (p : Path) (names : List Text) : Path :=
  names.foldl child p

@[simp] theorem descend_nil (p : Path) : p.descend [] = p := rfl

@[simp] theorem descend_cons (p : Path) (name : Text) (names : List Text) :
    p.descend (name :: names) = (p.child name).descend names := rfl

theorem isAbsolute_ofText_iff {t : Text} : (ofText t).isAbsolute = true ↔ t.head? = some '/' := by
  change (Root.ofText t != .relative) = true ↔ _
  rw [Root.ofText.eq_def, List.head?_eq_some_iff]
  split <;> simp_all

@[simp] theorem join_ofText_nil (p : Path) : p.join (ofText []) = p := by
  ext1
  · rfl
  · exact (parts_join p (ofText [])).trans (List.append_nil p.parts)

@[simp] theorem ofText_nil_join (p : Path) : (ofText []).join p = p := by
  by_cases hroot : p.root = .relative <;> ext1
  · rw [root_join, if_pos hroot, hroot]
    rfl
  · rw [parts_join, if_pos hroot]
    rfl
  · rw [root_join, if_neg hroot]
  · rw [parts_join, if_neg hroot]

theorem ofText_part {part : Text} (h : IsPart part) :
    (ofText part).root = .relative ∧ (ofText part).parts = [part] := by
  obtain ⟨c, rest, rfl⟩ := List.exists_cons_of_ne_nil h.1
  have hc : c ≠ '/' := fun hc => h.2.2 (hc ▸ List.mem_cons_self)
  constructor
  · simp [ofText, Root.ofText, hc]
  · simp [ofText, partsOf, split_part h.2.2, h]

@[simp] theorem root_child (p : Path) {name : Text} (h : IsPart name) :
    (p.child name).root = p.root := by
  rw [child, root_join, if_pos (ofText_part h).1]

@[simp] theorem parts_child (p : Path) {name : Text} (h : IsPart name) :
    (p.child name).parts = p.parts ++ [name] := by
  rw [child, parts_join, if_pos (ofText_part h).1, (ofText_part h).2]

theorem isAbsolute_child {p : Path} (h : p.isAbsolute = true) (name : Text) :
    (p.child name).isAbsolute = true :=
  isAbsolute_join h _

theorem isAbsolute_descend {p : Path} (h : p.isAbsolute = true) (names : List Text) :
    (p.descend names).isAbsolute = true := by
  induction names generalizing p with
  | nil => exact h
  | cons name names ih => exact ih (isAbsolute_child h name)

theorem name_child (p : Path) {name : Text} (h : IsPart name) : (p.child name).name = name := by
  rw [Path.name, parts_child p h, List.getLast?_append]
  rfl

theorem root_descend (p : Path) {names : List Text} (h : ∀ name ∈ names, IsPart name) :
    (p.descend names).root = p.root := by
  induction names generalizing p with
  | nil => rfl
  | cons name names ih =>
    rw [List.forall_mem_cons] at h
    rw [descend_cons, ih _ h.2, root_child p h.1]

theorem parts_descend (p : Path) {names : List Text} (h : ∀ name ∈ names, IsPart name) :
    (p.descend names).parts = p.parts ++ names := by
  induction names generalizing p with
  | nil => simp
  | cons name names ih =>
    rw [List.forall_mem_cons] at h
    rw [descend_cons, ih _ h.2, parts_child p h.1, List.append_assoc, List.singleton_append]

theorem descend_inj (p : Path) {names names' : List Text} (h : ∀ name ∈ names, IsPart name)
    (h' : ∀ name ∈ names', IsPart name) : p.descend names = p.descend names' ↔ names = names' := by
  constructor
  · intro heq
    have hparts := congrArg Path.parts heq
    rw [parts_descend p h, parts_descend p h'] at hparts
    exact List.append_cancel_left hparts
  · rintro rfl
    rfl

/-! ## Ways put together -/

/-- The ways that start with one of the names and go on as the name says. -/
def through (names : List Text) (onwards : Text → List (List Text)) : List (List Text) :=
  names.flatMap fun name => (onwards name).map (name :: ·)

theorem mem_through_iff {names way : List Text} {onwards : Text → List (List Text)} :
    way ∈ through names onwards ↔ ∃ name ∈ names, ∃ rest ∈ onwards name, way = name :: rest := by
  rw [through, List.mem_flatMap]
  apply exists_congr
  intro name
  rw [List.mem_map]
  apply and_congr_right
  intro _
  exact exists_congr fun rest => and_congr_right fun _ => eq_comm

theorem map_descend_through (p : Path) (names : List Text) (onwards : Text → List (List Text)) :
    (through names onwards).map p.descend =
      names.flatMap fun name => (onwards name).map (p.child name).descend := by
  rw [through, List.map_flatMap]
  congr 1
  funext name
  rw [List.map_map]
  rfl

/-! ## The text of a path -/

theorem root_of_isAbsolute_eq_false {p : Path} (h : p.isAbsolute = false) : p.root = .relative := by
  simpa [isAbsolute] using h

theorem text_of_parts {p : Path} (h : p.parts ≠ []) :
    p.text = p.root.text ++ Text.joinWith '/' p.parts := by
  obtain ⟨part, parts, hparts⟩ := List.exists_cons_of_ne_nil h
  cases hroot : p.root <;> simp [text, hroot, hparts]

theorem split_joinWith {part : Text} {parts : List Text} (h : ∀ q ∈ part :: parts, IsPart q) :
    Text.split (· == '/') (Text.joinWith '/' (part :: parts)) = part :: parts := by
  induction parts generalizing part with
  | nil => exact split_part (h part List.mem_cons_self).2.2
  | cons next parts ih =>
    rw [Text.joinWith, split_append_slash (h part List.mem_cons_self).2.2,
      ih fun q hq => h q (List.mem_cons_of_mem _ hq)]
    simp

theorem text_of_isAbsolute {p : Path} (h : p.isAbsolute = true) :
    p.text = p.root.text ++ Text.joinWith '/' p.parts := by
  cases hroot : p.root with
  | relative => simp [isAbsolute, hroot] at h
  | single => simp [text, hroot]
  | double => simp [text, hroot]

theorem prefix_joinWith (parts more : List Text) :
    Text.joinWith '/' parts <+: Text.joinWith '/' (parts ++ more) := by
  induction parts with
  | nil => exact List.nil_prefix
  | cons part parts ih =>
    cases parts with
    | nil =>
      cases more with
      | nil => exact List.prefix_refl _
      | cons next more => exact List.prefix_append _ _
    | cons next parts =>
      exact (List.prefix_append_right_inj part).2 (List.cons_prefix_cons.2 ⟨rfl, ih⟩)

theorem text_isPrefix_text_descend {p : Path} (h : p.isAbsolute = true) {names : List Text}
    (hnames : ∀ name ∈ names, IsPart name) : p.text <+: (p.descend names).text := by
  rw [text_of_isAbsolute h, text_of_isAbsolute (isAbsolute_descend h names), root_descend p hnames,
    parts_descend p hnames, List.prefix_append_right_inj]
  exact prefix_joinWith p.parts names

theorem mem_joinWith_iff {c : Char} (hc : c ≠ '/') {parts : List Text} :
    c ∈ Text.joinWith '/' parts ↔ ∃ part ∈ parts, c ∈ part := by
  induction parts with
  | nil => simp [Text.joinWith]
  | cons part parts ih =>
    cases parts with
    | nil => simp [Text.joinWith]
    | cons next parts =>
      rw [Text.joinWith, List.mem_append, List.mem_cons, ih]
      · simp [hc]
      · simp

theorem mem_of_mem_partsOf {t part : Text} {c : Char} (h : part ∈ partsOf t) (hc : c ∈ part) :
    c ∈ t := by
  have hslash : c ≠ '/' := fun heq => (isPart_of_mem_partsOf h).2.2 (heq ▸ hc)
  rw [← Text.joinWith_split '/' t, mem_joinWith_iff hslash]
  exact ⟨part, (List.mem_filter.1 h).1, hc⟩

/-- The text of a path adds slashes and dots to its parts, and nothing else. -/
theorem mem_text_iff {p : Path} {c : Char} (hslash : c ≠ '/') (hdot : c ≠ '.') :
    c ∈ p.text ↔ ∃ part ∈ p.parts, c ∈ part := by
  have hroot : c ∉ p.root.text := by cases p.root <;> simp [Root.text, hslash]
  have hjoin : c ∈ p.root.text ++ Text.joinWith '/' p.parts ↔ ∃ part ∈ p.parts, c ∈ part := by
    rw [List.mem_append, mem_joinWith_iff hslash]
    simp [hroot]
  rw [text]
  split
  · next hparts => simp [hparts, hdot]
  · exact hjoin

theorem split_text {p : Path} (h : p.isAbsolute = true) :
    ∃ empties : List Text, (∀ part ∈ empties, part = []) ∧
      Text.split (· == '/') p.text = empties ++ p.parts := by
  have hsplit : ∃ empties : List Text, (∀ part ∈ empties, part = []) ∧
      Text.split (· == '/') (Text.joinWith '/' p.parts) = empties ++ p.parts := by
    cases hparts : p.parts with
    | nil => exact ⟨[[]], by simp, rfl⟩
    | cons part parts =>
      exact ⟨[], by simp, split_joinWith (hparts ▸ p.isPart_of_mem)⟩
  obtain ⟨empties, hempties, hsplit⟩ := hsplit
  cases hroot : p.root with
  | relative => simp [isAbsolute, hroot] at h
  | single =>
    refine ⟨[] :: empties, by simpa using hempties, ?_⟩
    simp [text, hroot, Root.text, Text.split, hsplit]
  | double =>
    refine ⟨[] :: [] :: empties, by simpa using hempties, ?_⟩
    simp [text, hroot, Root.text, Text.split, hsplit]

end Path

end ScopedShell
