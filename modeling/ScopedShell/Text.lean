/-!
# Text

A text is the list of its code points. Positions and lengths therefore count code points, a text
is taken apart by recursion on its characters, and no operation below leaves the list view.

`split` cuts a text at its separators and always gives at least one part; `joinWith` puts the parts
together again (`joinWith_split`).
-/

namespace ScopedShell

/-- A text is the list of its code points. -/
abbrev Text := List Char

instance : Coe String Text := ⟨String.toList⟩

instance lawfulBEqText : LawfulBEq Text := List.instLawfulBEq

namespace Text

/-- The parts between the separators, in order; a text without a separator is its only part. -/
def split (isSeparator : Char → Bool) : Text → List Text
  | [] => [[]]
  | c :: rest =>
    if isSeparator c then [] :: split isSeparator rest
    else
      match split isSeparator rest with
      | [] => [[c]]
      | part :: parts => (c :: part) :: parts

def joinWith (separator : Char) : List Text → Text
  | [] => []
  | [part] => part
  | part :: parts => part ++ separator :: joinWith separator parts

theorem split_ne_nil (isSeparator : Char → Bool) (t : Text) : split isSeparator t ≠ [] := by
  cases t with
  | nil => simp [split]
  | cons c rest =>
    rw [split]
    split
    · simp
    · split <;> simp

theorem not_isSeparator_of_mem_split {isSeparator : Char → Bool} {t part : Text} {c : Char}
    (hpart : part ∈ split isSeparator t) (hc : c ∈ part) : isSeparator c = false := by
  induction t generalizing part with
  | nil => simp_all [split]
  | cons d rest ih =>
    rw [split] at hpart
    split at hpart
    · rcases List.mem_cons.1 hpart with rfl | h
      · simp at hc
      · exact ih h hc
    · next hd =>
      split at hpart
      · next h => exact absurd h (split_ne_nil _ _)
      · next first others h =>
        rcases List.mem_cons.1 hpart with rfl | hmem
        · rcases List.mem_cons.1 hc with rfl | hc
          · simpa using hd
          · exact ih (h ▸ List.mem_cons_self) hc
        · exact ih (h ▸ List.mem_cons_of_mem _ hmem) hc

theorem joinWith_split (separator : Char) (t : Text) :
    joinWith separator (split (· == separator) t) = t := by
  induction t with
  | nil => rfl
  | cons c rest ih =>
    rw [split]
    cases h : split (· == separator) rest with
    | nil => exact absurd h (split_ne_nil _ _)
    | cons part parts =>
      rw [h] at ih
      by_cases hc : c = separator
      · subst hc
        simp [joinWith, ih]
      · have : joinWith separator ((c :: part) :: parts) =
            c :: joinWith separator (part :: parts) := by
          cases parts <;> simp [joinWith]
        simp [hc, this, ih]

def strip (drop : Char → Bool) (t : Text) : Text :=
  ((t.dropWhile drop).reverse.dropWhile drop).reverse

def stripEnd (drop : Char → Bool) (t : Text) : Text :=
  (t.reverse.dropWhile drop).reverse

def utf8Size (t : Text) : Nat :=
  t.foldr (fun c size => c.utf8Size + size) 0

theorem utf8Size_append (t rest : Text) : utf8Size (t ++ rest) = utf8Size t + utf8Size rest := by
  induction t with
  | nil => simp [utf8Size]
  | cons c t ih =>
    simp only [utf8Size, List.cons_append, List.foldr_cons] at ih ⊢
    rw [ih, Nat.add_assoc]

def ofNat (n : Nat) : Text :=
  Nat.toDigits 10 n

def ofInt : Int → Text
  | .ofNat n => ofNat n
  | .negSucc n => '-' :: ofNat (n + 1)

/-- Capital letters of ASCII become small; everything else stays. -/
def lowerAscii (t : Text) : Text :=
  t.map Char.toLower

def inRanges (table : List (Nat × Nat)) (c : Char) : Bool :=
  table.any fun range => range.1 ≤ c.toNat && c.toNat ≤ range.2

/-- Cuts at the last occurrence of a character: what stands before it and what follows it. -/
def cutLast? (mark : Char) (t : Text) : Option (Text × Text) :=
  if mark ∈ t then
    some ((t.reverse.dropWhile (· != mark)).tail.reverse,
      (t.reverse.takeWhile (· != mark)).reverse)
  else none

end Text

end ScopedShell
