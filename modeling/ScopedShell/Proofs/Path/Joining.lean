import ScopedShell.Proofs.Path.Descent
import ScopedShell.Session.Operation

/-!
# Joining paths

A text can be passed as a path in several ways (`Passing`), and each of them stands for the path
that the text spells. Joining asks for nothing else of its arguments (`Session.gives_join_iff`), so
the laws of `Path.join` hold however the texts are passed, and for paths that were joined before and
are passed on (`Session.join_laws`).
-/

namespace ScopedShell

/-- The ways in which a text is passed where a path is expected: as it is, made into a path, made
into a path that knows of no file system, or held by something else that gives it when it is
asked. -/
inductive Passing
  | asText
  | asPath
  | asPurePath
  | asHolder
deriving DecidableEq, Repr

namespace Passing

/-- The argument as which a text arrives. A path without a file system is read again from its
text. -/
def argument : Passing → Text → PathArgument
  | asText, t => .spelled t
  | asPath, t => .path (Path.ofText t)
  | asPurePath, t => .path (Path.ofText (Path.ofText t).text)
  | asHolder, t => .spelled t

@[simp] theorem toPath_argument (way : Passing) (t : Text) :
    (way.argument t).toPath = Path.ofText t := by
  cases way with
  | asText => rfl
  | asPath => rfl
  | asPurePath => exact (Path.ofText t).ofText_text
  | asHolder => rfl

theorem toPath_argument_text (way : Passing) (p : Path) : (way.argument p.text).toPath = p :=
  (way.toPath_argument p.text).trans p.ofText_text

end Passing

namespace Session

/-- The operation is answered with a value, and nothing else can be seen of it. -/
def Gives (s : Session) (operation : Operation) (value : Value) : Prop :=
  perform operation s = (⟨.ok value, []⟩, s)

variable {s : Session}

theorem gives_join_iff {x y : PathArgument} {p : Path} :
    s.Gives (.join x (.path y)) (.path p) ↔ x.toPath.join y.toPath = p := by
  rw [← x.join_path y]
  constructor
  · intro h
    have houtcome := congrArg (fun result => result.1.outcome) h
    exact Value.path.inj (Except.ok.inj houtcome)
  · rintro rfl
    rfl

theorem gives_absolute (s : Session) (x : PathArgument) :
    s.Gives (.absolute x) (.path (s.directory.join x.toPath)) := rfl

/-- Joining two texts gives one path, however they are passed: that of the second text if it is
absolute, and otherwise the parts of both behind the root of the first. It is associative, the empty
text changes nothing on either side, a joined path is seen from the scope where its first path is
seen, and the text of every path is read as that path. -/
theorem join_laws (s : Session) (a b c : Text) :
    ∃ ab bc abc there below : Path,
      (∀ v w : Passing, s.Gives (.join (v.argument a) (.path (w.argument b))) (.path ab)) ∧
      (∀ v w : Passing, s.Gives (.join (v.argument b) (.path (w.argument c))) (.path bc)) ∧
      (∀ v w : Passing, s.Gives (.join (v.argument ab.text) (.path (w.argument c))) (.path abc)) ∧
      (∀ v w : Passing, s.Gives (.join (v.argument a) (.path (w.argument bc.text))) (.path abc)) ∧
      (∀ v w : Passing,
        s.Gives (.join (v.argument a) (.path (w.argument []))) (.path (Path.ofText a)) ∧
        s.Gives (.join (v.argument []) (.path (w.argument a))) (.path (Path.ofText a))) ∧
      (b.head? = some '/' → ab = Path.ofText b) ∧
      (b.head? ≠ some '/' →
        ab.root = Root.ofText a ∧ ab.parts = Path.partsOf a ++ Path.partsOf b) ∧
      (∀ v : Passing, s.Gives (.absolute (v.argument a)) (.path there)) ∧
      (∀ v : Passing, s.Gives (.absolute (v.argument ab.text)) (.path below)) ∧
      (∀ v w : Passing,
        s.Gives (.join (v.argument there.text) (.path (w.argument b))) (.path below)) ∧
      ∀ p : Path, Path.ofText p.text = p := by
  let p := Path.ofText a
  let q := Path.ofText b
  let r := Path.ofText c
  have habsolute : q.isAbsolute = true ↔ b.head? = some '/' := Path.isAbsolute_ofText_iff
  refine ⟨p.join q, q.join r, p.join (q.join r), s.directory.join p, s.directory.join (p.join q),
    fun v w => ?_, fun v w => ?_, fun v w => ?_, fun v w => ?_, fun v w => ⟨?_, ?_⟩, fun hb => ?_,
    fun hb => ?_, fun v => ?_, fun v => ?_, fun v w => ?_, Path.ofText_text⟩
  · rw [gives_join_iff, v.toPath_argument, w.toPath_argument]
  · rw [gives_join_iff, v.toPath_argument, w.toPath_argument]
  · rw [gives_join_iff, v.toPath_argument_text, w.toPath_argument, Path.join_assoc]
  · rw [gives_join_iff, v.toPath_argument, w.toPath_argument_text]
  · rw [gives_join_iff, v.toPath_argument, w.toPath_argument, Path.join_ofText_nil]
  · rw [gives_join_iff, v.toPath_argument, w.toPath_argument, Path.ofText_nil_join]
  · exact Path.join_of_isAbsolute (habsolute.2 hb)
  · have hrelative : q.root = .relative :=
      Path.root_of_isAbsolute_eq_false (Bool.eq_false_iff.2 (mt habsolute.1 hb))
    rw [Path.root_join, Path.parts_join, if_pos hrelative, if_pos hrelative]
    exact ⟨rfl, rfl⟩
  · have hthere := s.gives_absolute (v.argument a)
    rwa [v.toPath_argument] at hthere
  · have hbelow := s.gives_absolute (v.argument (p.join q).text)
    rwa [v.toPath_argument_text] at hbelow
  · rw [gives_join_iff, v.toPath_argument_text, w.toPath_argument, Path.join_assoc]

/-- Two slashes are a root of their own, three are read as one, and `..` stays. -/
example : ((Path.ofText "//a/./b//").join (Path.ofText "../c")).text = ("//a/b/../c" : Text) ∧
    ((Path.ofText "a").join (Path.ofText "///b/.")).text = ("/b" : Text) := by
  decide

end Session

end ScopedShell
