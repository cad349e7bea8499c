import ScopedShell.Text

/-!
# Paths

A path is a root and a list of parts, and it is kept in normal form: repeated slashes, parts `.`
and slashes at the end are gone, while `..` stays, since only a file system can tell where it leads.
A path may be relative, start at the root, or start at the root that is written with exactly two
slashes. `Path.ofText` brings a text into this form and `Path.text` writes it; the written form is
read back as the same path (`ofText_text`).
-/

namespace ScopedShell

inductive Root
  | relative
  | single
  | double
deriving DecidableEq, Repr

namespace Root

def text : Root → Text
  | relative => []
  | single => ['/']
  | double => ['/', '/']

/-- Exactly two slashes are a root of their own; three or more count as one. -/
def ofText : Text → Root
  | '/' :: '/' :: '/' :: _ => single
  | '/' :: '/' :: _ => double
  | '/' :: _ => single
  | _ => relative

end Root

/-- A part of a path is a non-empty text without a slash, and not a single dot. -/
def IsPart (t : Text) : Prop := t ≠ [] ∧ t ≠ ['.'] ∧ '/' ∉ t

instance : DecidablePred IsPart := fun _ => inferInstanceAs (Decidable (_ ∧ _ ∧ _))

def parentPart : Text := ['.', '.']

theorem isPart_parentPart : IsPart parentPart := by decide

/-- A path in normal form. -/
@[ext] structure Path where
  root : Root
  parts : List Text
  isPart_of_mem : ∀ part ∈ parts, IsPart part
deriving DecidableEq

namespace Path

def partsOf (t : Text) : List Text :=
  (Text.split (· == '/') t).filter (IsPart ·)

theorem isPart_of_mem_partsOf {t part : Text} (h : part ∈ partsOf t) : IsPart part := by
  simpa using (List.mem_filter.1 h).2

def ofText (t : Text) : Path :=
  ⟨Root.ofText t, partsOf t, fun _ => isPart_of_mem_partsOf⟩

/-- Writes a path; the path without root and parts is written as a dot. -/
def text (p : Path) : Text :=
  match p.root, p.parts with
  | .relative, [] => ['.']
  | root, parts => root.text ++ Text.joinWith '/' parts

def rootDirectory : Path := ⟨.single, [], by simp⟩

instance : Inhabited Path := ⟨rootDirectory⟩

def isAbsolute (p : Path) : Bool :=
  p.root != .relative

/-- The second path seen from the first: its parts follow, unless it is absolute and stands
alone. -/
def join (p q : Path) : Path :=
  if q.isAbsolute then q
  else ⟨p.root, p.parts ++ q.parts, fun part h =>
    (List.mem_append.1 h).elim (p.isPart_of_mem part) (q.isPart_of_mem part)⟩

def child (p : Path) (name : Text) : Path :=
  p.join (ofText name)

/-- The path without its last part; a path without parts stays. -/
def parent (p : Path) : Path :=
  ⟨p.root, p.parts.dropLast, fun part h => p.isPart_of_mem part (List.dropLast_subset _ h)⟩

def parent? (p : Path) : Option Path :=
  if p.parts.isEmpty then none else some p.parent

def name (p : Path) : Text :=
  p.parts.getLast?.getD []

theorem root_join (p q : Path) :
    (p.join q).root = if q.root = .relative then p.root else q.root := by
  by_cases h : q.root = .relative <;> simp [join, isAbsolute, h]

theorem parts_join (p q : Path) :
    (p.join q).parts = if q.root = .relative then p.parts ++ q.parts else q.parts := by
  by_cases h : q.root = .relative <;> simp [join, isAbsolute, h]

@[simp] theorem join_of_isAbsolute {p q : Path} (h : q.isAbsolute = true) : p.join q = q := by
  simp [join, h]

theorem join_assoc (p q r : Path) : (p.join q).join r = p.join (q.join r) := by
  by_cases hr : r.root = .relative <;> by_cases hq : q.root = .relative <;> ext1 <;>
    simp [root_join, parts_join, hr, hq]

theorem isAbsolute_join {p : Path} (h : p.isAbsolute = true) (q : Path) :
    (p.join q).isAbsolute = true := by
  rw [isAbsolute, root_join]
  split
  · exact h
  · next hq => simpa using hq

@[simp] theorem parent?_eq_none_iff {p : Path} : p.parent? = none ↔ p.parts = [] := by
  simp [parent?]

/-! ## The written form -/

theorem split_part {part : Text} (h : '/' ∉ part) : Text.split (· == '/') part = [part] := by
  induction part with
  | nil => rfl
  | cons c rest ih =>
    simp only [List.mem_cons, not_or] at h
    have hc : (c == '/') = false := by simpa using fun hc => h.1 hc.symm
    simp [Text.split, hc, ih h.2]

theorem split_append_slash {part : Text} (h : '/' ∉ part) (rest : Text) :
    Text.split (· == '/') (part ++ '/' :: rest) = part :: Text.split (· == '/') rest := by
  induction part with
  | nil => simp [Text.split]
  | cons c part ih =>
    simp only [List.mem_cons, not_or] at h
    have hc : (c == '/') = false := by simpa using fun hc => h.1 hc.symm
    simp [Text.split, hc, ih h.2]

theorem partsOf_cons_slash (t : Text) : partsOf ('/' :: t) = partsOf t := by
  simp [partsOf, Text.split, IsPart]

theorem partsOf_joinWith {parts : List Text} (h : ∀ part ∈ parts, IsPart part) :
    partsOf (Text.joinWith '/' parts) = parts := by
  induction parts with
  | nil => simp [Text.joinWith, partsOf, Text.split, IsPart]
  | cons part parts ih =>
    have hpart := h part List.mem_cons_self
    have hrest := ih fun q hq => h q (List.mem_cons_of_mem _ hq)
    cases parts with
    | nil => simp [Text.joinWith, partsOf, split_part hpart.2.2, hpart]
    | cons next others =>
      rw [Text.joinWith, partsOf, split_append_slash hpart.2.2, List.filter_cons_of_pos (by simpa)]
      · exact congrArg (part :: ·) hrest
      · simp

theorem root_joinWith {parts : List Text} (h : ∀ part ∈ parts, IsPart part) :
    Root.ofText (Text.joinWith '/' parts) = .relative ∧
      Root.ofText ('/' :: Text.joinWith '/' parts) = .single ∧
      Root.ofText ('/' :: '/' :: Text.joinWith '/' parts) = .double := by
  have hhead : ∀ t, Text.joinWith '/' parts ≠ '/' :: t := by
    cases parts with
    | nil => simp [Text.joinWith]
    | cons part parts =>
      have hpart := h part List.mem_cons_self
      obtain ⟨c, rest, rfl⟩ := List.exists_cons_of_ne_nil hpart.1
      have hc : c ≠ '/' := fun hc => hpart.2.2 (hc ▸ List.mem_cons_self)
      cases parts <;> simp [Text.joinWith, hc]
  cases hjoin : Text.joinWith '/' parts with
  | nil => simp [Root.ofText]
  | cons c t =>
    have hc : c ≠ '/' := fun hc => hhead t (hjoin.trans (by rw [hc]))
    simp [Root.ofText, hc]

theorem ofText_text (p : Path) : ofText p.text = p := by
  have hparts := partsOf_joinWith p.isPart_of_mem
  obtain ⟨hrelative, hsingle, hdouble⟩ := root_joinWith p.isPart_of_mem
  ext1
  · cases hroot : p.root with
    | relative =>
      cases hp : p.parts with
      | nil => simp [ofText, text, hroot, hp, Root.ofText]
      | cons part parts => simpa [ofText, text, hroot, hp, Root.text] using hp ▸ hrelative
    | single => simpa [ofText, text, hroot, Root.text] using hsingle
    | double => simpa [ofText, text, hroot, Root.text] using hdouble
  · cases hroot : p.root with
    | relative =>
      cases hp : p.parts with
      | nil => simp [ofText, text, hroot, hp, partsOf, Text.split, IsPart]
      | cons part parts => simpa [ofText, text, hroot, hp, Root.text] using hp ▸ hparts
    | single => simpa [ofText, text, hroot, Root.text, partsOf_cons_slash] using hparts
    | double => simpa [ofText, text, hroot, Root.text, partsOf_cons_slash] using hparts

end Path

end ScopedShell
