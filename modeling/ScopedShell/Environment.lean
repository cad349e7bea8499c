import ScopedShell.Text

/-!
# The environment

The variables that a process sees, each with one value.
-/

namespace ScopedShell

/-- Variables with their values, in the order in which they were first set. -/
abbrev Environment := List (Text × Text)

namespace Environment

def get? (env : Environment) (name : Text) : Option Text :=
  env.lookup name

def unset (env : Environment) (name : Text) : Environment :=
  env.filter (·.1 ≠ name)

def set (env : Environment) (name value : Text) : Environment :=
  env.unset name ++ [(name, value)]

theorem get?_unset (env : Environment) (name other : Text) :
    (env.unset name).get? other = if other = name then none else env.get? other := by
  induction env with
  | nil => simp [unset, get?]
  | cons entry env ih =>
    obtain ⟨key, value⟩ := entry
    simp only [unset, get?, List.filter_cons, List.lookup_cons] at ih ⊢
    by_cases hkey : key = name
    · subst hkey
      by_cases h : other = key
      · simpa [h] using ih
      · simpa [h, beq_eq_false_iff_ne.2 h] using ih
    · by_cases h : other = key
      · subst h
        simp [hkey]
      · simpa [hkey, List.lookup_cons, beq_eq_false_iff_ne.2 h] using ih

theorem get?_set (env : Environment) (name value other : Text) :
    (env.set name value).get? other = if other = name then some value else env.get? other := by
  have hunset := get?_unset env name other
  simp only [get?] at hunset
  by_cases h : other = name
  · subst h
    simp [set, get?, List.lookup_append, hunset]
  · simp [set, get?, List.lookup_append, hunset, h, beq_eq_false_iff_ne.2 h]

end Environment

end ScopedShell
