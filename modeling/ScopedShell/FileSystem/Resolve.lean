import ScopedShell.FileSystem.Access

/-!
# Resolving a path

The canonical location of what a path names, found on the written path: `..` drops the last part of
what is already resolved, whatever that is, every other part is looked at, and a link is replaced by
the resolution of its target. Links already resolved are remembered; a link that turns up during its
own resolution is a loop. Unlike a walk, resolving has no limit on the number of links, and the
links in progress are all different, so their depth is bounded by the number of entries.
-/

namespace ScopedShell

namespace FileSystem

/-- The links met so far, each with its resolution once that is complete. -/
abbrev Memo := List (Location × Option Location)

def spelledLocation (l : Location) : Text :=
  '/' :: Text.joinWith '/' l

/-- Resolves the parts below a resolved location; `deeper` resolves the target of a link. -/
def resolveWith (fs : FileSystem)
    (deeper : Memo → Location → List Text → Except Refused (Location × Memo)) :
    Memo → Location → List Text → Except Refused (Location × Memo)
  | memo, l, [] => .ok (l, memo)
  | memo, l, part :: rest =>
    if part = [] ∨ part = ['.'] then fs.resolveWith deeper memo l rest
    else if part = parentPart then fs.resolveWith deeper memo l.dropLast rest
    else
      let next := l ++ [part]
      match fs.linkStatus (spelledLocation next) with
      | .error why => .error ⟨why, spelledLocation next⟩
      | .ok (.link target) =>
        match memo.lookup next with
        | some (some resolved) => fs.resolveWith deeper memo resolved rest
        | some none =>
          match fs.status (spelledLocation next) with
          | .error why => .error ⟨why, spelledLocation next⟩
          | .ok _ => .error ⟨.tooManyLinks, spelledLocation next⟩
        | none =>
          match deeper ((next, none) :: memo) (targetStart l target)
            (Text.split (· == '/') target) with
          | .error refused => .error refused
          | .ok (resolved, memo) =>
            fs.resolveWith deeper ((next, some resolved) :: memo) resolved rest
      | .ok _ => fs.resolveWith deeper memo next rest

/-- Resolves the parts with at most the given number of links in progress. -/
def resolveWithin (fs : FileSystem) :
    Nat → Memo → Location → List Text → Except Refused (Location × Memo)
  | 0 => fs.resolveWith fun _ l _ => .error ⟨.tooManyLinks, spelledLocation l⟩
  | depth + 1 => fs.resolveWith (fs.resolveWithin depth)

def resolve (fs : FileSystem) (path : Text) : Except Refused Location :=
  (fs.resolveWithin fs.entries.length [] [] (Text.split (· == '/') path)).map Prod.fst

end FileSystem

end ScopedShell
