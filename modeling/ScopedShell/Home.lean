import ScopedShell.Environment
import ScopedShell.Fault

/-!
# The home directory

`HOME` names it. Slashes at its end do not count, and a value of slashes alone means the root; a
value that starts with a tilde means nothing. There is no list of users, so nobody else has a home
directory.
-/

namespace ScopedShell

def homeText? (env : Environment) : Option Text :=
  (env.get? "HOME").map fun value =>
    let stripped := Text.stripEnd (· == '/') value
    if stripped.isEmpty then ['/'] else stripped

def homeDirectory (env : Environment) : Except Fault Path :=
  match homeText? env with
  | some text => if text.head? = some '~' then .error .noHome else .ok (Path.ofText text)
  | none => .error .noHome

/-- The path with a tilde as its first part replaced by the home directory. -/
def expandHome (env : Environment) (p : Path) : Except Fault Path :=
  match p.root, p.parts with
  | .relative, ('~' :: user) :: rest =>
    if user.isEmpty then do
      let home ← homeDirectory env
      return home.join (Path.ofText (Text.joinWith '/' rest))
    else .error .noHome
  | _, _ => .ok p

end ScopedShell
