import ScopedShell.Path.Argument

/-!
# The way from one path to another

`Path.plainParts` takes the `..` parts of an absolute path away without looking at any file system:
each cancels the part before it, and at the root it changes nothing. `Path.relativeTo` climbs from
the base to the longest common beginning of the two plain paths and descends from there.
-/

namespace ScopedShell

namespace Path

def pushPlain (plain : List Text) (part : Text) : List Text :=
  if part = parentPart then plain.dropLast else plain ++ [part]

/-- The parts with every `..` carried out, in order. -/
def cancelParents (parts : List Text) : List Text :=
  parts.foldl pushPlain []

def plainParts (p : Path) : List Text :=
  cancelParents p.parts

def commonLength : List Text → List Text → Nat
  | a :: as, b :: bs => if a = b then commonLength as bs + 1 else 0
  | _, _ => 0

theorem mem_of_mem_foldl_pushPlain {parts plain : List Text} {part : Text}
    (h : part ∈ parts.foldl pushPlain plain) : part ∈ plain ∨ part ∈ parts := by
  induction parts generalizing plain with
  | nil => exact Or.inl h
  | cons q parts ih =>
    rcases ih h with h | h
    · rw [pushPlain] at h
      split at h
      · exact Or.inl (List.dropLast_subset _ h)
      · rcases List.mem_append.1 h with h | h
        · exact Or.inl h
        · exact Or.inr (by simp_all)
    · exact Or.inr (List.mem_cons_of_mem _ h)

theorem isPart_of_mem_plainParts {p : Path} {part : Text} (h : part ∈ p.plainParts) :
    IsPart part := by
  rcases mem_of_mem_foldl_pushPlain h with h | h
  · simp at h
  · exact p.isPart_of_mem part h

def relativeTo (base target : Path) : Path :=
  let common := commonLength base.plainParts target.plainParts
  ⟨.relative, List.replicate (base.plainParts.length - common) parentPart ++
      target.plainParts.drop common, fun part h => by
    rcases List.mem_append.1 h with h | h
    · exact (List.mem_replicate.1 h).2 ▸ isPart_parentPart
    · exact isPart_of_mem_plainParts (List.mem_of_mem_drop h)⟩

end Path

end ScopedShell
