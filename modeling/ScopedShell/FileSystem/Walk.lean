import ScopedShell.FileSystem
import ScopedShell.FileSystem.Refusal

/-!
# Walking a path

How the system finds what a path names. The path is cut at its slashes and walked part by part, from
the root or, if it is relative, from the directory of the process, with the location reached so far
carried along. Before each part the current node has to be a directory that may be searched; `..`
leads to the directory physically above; a link is replaced by the parts of its target, unless it
comes last and the call does not follow links. A part that is empty, as after a slash at the end,
only demands a directory.

`walkWith` walks up to the next link and hands the rest over; `walk` allows a number of links. The
walk always ends at an entry (`isSome_node?_of_walk`).
-/

namespace ScopedShell

namespace FileSystem

/-- Where a path begins that is met in a directory, as the target of a link is. -/
def targetStart (directory : Location) (target : Text) : Location :=
  if target.head? = some '/' then [] else directory

/-- Walks up to the next link that has to be followed; `jump` goes on from there. -/
def walkWith (fs : FileSystem) (followLast : Bool)
    (jump : Location → List Text → Except Refusal Location) :
    Location → List Text → Except Refusal Location
  | l, [] => .ok l
  | l, part :: rest =>
    match fs.node? l with
    | none => .error .missing
    | some (.directory denied) =>
      if part = [] then fs.walkWith followLast jump l rest
      else if denied.searching then .error .denied
      else if 255 < Text.utf8Size part then .error .tooLong
      else if part = ['.'] then fs.walkWith followLast jump l rest
      else if part = parentPart then fs.walkWith followLast jump l.dropLast rest
      else
        match fs.node? (l ++ [part]) with
        | none => .error .missing
        | some (.link target) =>
          if rest.isEmpty && !followLast then .ok (l ++ [part])
          else jump (targetStart l target) (Text.split (· == '/') target ++ rest)
        | some _ => fs.walkWith followLast jump (l ++ [part]) rest
    | some _ => .error .notDirectory

def walk (fs : FileSystem) (followLast : Bool) :
    Nat → Location → List Text → Except Refusal Location
  | 0 => fs.walkWith followLast fun _ _ => .error .tooManyLinks
  | links + 1 => fs.walkWith followLast (fs.walk followLast links)

/-- The number of links that one walk may follow. -/
def linkLimit : Nat := 40

/-- The number of bytes that a path may have. -/
def pathLimit : Nat := 4095

def checkPath (path : Text) : Except Refusal Unit :=
  if '\x00' ∈ path then .error .nullCharacter
  else if pathLimit < Text.utf8Size path then .error .tooLong
  else .ok ()

def locate (fs : FileSystem) (followLast : Bool) (path : Text) : Except Refusal Location := do
  checkPath path
  fs.walk followLast linkLimit (targetStart fs.processDirectory path) (Text.split (· == '/') path)

/-! ## A walk ends at an entry -/

theorem isSome_node?_dropLast {fs : FileSystem} {l : Location} (h : (fs.node? l).isSome = true) :
    (fs.node? l.dropLast).isSome = true := by
  obtain ⟨node, hnode⟩ := Option.isSome_iff_exists.1 h
  by_cases hl : l = []
  · subst hl
    simpa using h
  · obtain ⟨parent, hmem, _⟩ := fs.parent_mem _ (node?_eq_some_iff.1 hnode) hl
    exact Option.isSome_iff_exists.2 ⟨parent, node?_eq_some_iff.2 hmem⟩

theorem isSome_node?_root (fs : FileSystem) : (fs.node? []).isSome = true := by
  obtain ⟨node, hmem, _⟩ := fs.root_mem
  exact Option.isSome_iff_exists.2 ⟨node, node?_eq_some_iff.2 hmem⟩

theorem isSome_node?_targetStart {fs : FileSystem} {l : Location} (target : Text)
    (h : (fs.node? l).isSome = true) : (fs.node? (targetStart l target)).isSome = true := by
  rw [targetStart]
  split
  · exact fs.isSome_node?_root
  · exact h

theorem isSome_node?_of_walkWith {fs : FileSystem} {followLast : Bool}
    {jump : Location → List Text → Except Refusal Location}
    (hjump : ∀ l parts l', (fs.node? l).isSome = true → jump l parts = .ok l' →
      (fs.node? l').isSome = true)
    {parts : List Text} {l l' : Location} (hl : (fs.node? l).isSome = true)
    (h : fs.walkWith followLast jump l parts = .ok l') : (fs.node? l').isSome = true := by
  induction parts generalizing l with
  | nil =>
    cases h
    exact hl
  | cons part rest ih =>
    rw [walkWith] at h
    split at h
    · cases h
    · split at h
      · exact ih hl h
      · split at h
        · cases h
        · split at h
          · cases h
          · split at h
            · exact ih hl h
            · split at h
              · exact ih (isSome_node?_dropLast hl) h
              · split at h
                · cases h
                · next target hnode =>
                  split at h
                  · cases h
                    simp [hnode]
                  · exact hjump _ _ _ (isSome_node?_targetStart target hl) h
                · next node _ hnode => exact ih (by simp [hnode]) h
    · cases h

theorem isSome_node?_of_walk {fs : FileSystem} {followLast : Bool} {links : Nat}
    {parts : List Text} {l l' : Location} (hl : (fs.node? l).isSome = true)
    (h : fs.walk followLast links l parts = .ok l') : (fs.node? l').isSome = true := by
  induction links generalizing l parts l' with
  | zero => exact isSome_node?_of_walkWith (by simp) hl h
  | succ links ih => exact isSome_node?_of_walkWith (fun _ _ _ hl h => ih hl h) hl h

theorem isSome_node?_of_walk_cons {fs : FileSystem} {followLast : Bool} {links : Nat}
    {part : Text} {rest : List Text} {l l' : Location}
    (h : fs.walk followLast links l (part :: rest) = .ok l') : (fs.node? l).isSome = true := by
  cases hnode : fs.node? l with
  | some node => rfl
  | none => cases links <;> simp [walk, walkWith, hnode] at h

end FileSystem

end ScopedShell
