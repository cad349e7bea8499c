import ScopedShell.Proofs.Document.Plain
import ScopedShell.Proofs.FileSystem.Plain
import ScopedShell.Session.Operation

/-!
# Where settings are looked for

The path of a document decides what is found there (`documentAt`), and beyond that it matters only
where a fault names it (`settingsFrom`). It is followed from the directory of the process, whatever
directory is scoped (`SeenFromProcess.locate_eq`). So a path is loaded like the same path seen from
the scope if it is absolute, and otherwise where both lead to the same document
(`load_seen_from_scope`); a relative path inside a scope need not (`load_of_relative_path`).
-/

namespace ScopedShell

namespace FileSystem

variable {fs : FileSystem}

def processPath (fs : FileSystem) : Path :=
  Path.ofText (spelledLocation fs.processDirectory)

/-- Seen from the directory of the process a path is written in another way, and that is all: the
directory is found under its own path, and a call accepts the one path as it accepts the other. -/
structure SeenFromProcess (fs : FileSystem) (p : Path) : Prop where
  plain : fs.Plain fs.processDirectory
  checkPath_eq : checkPath (fs.processPath.join p).text = checkPath p.text

/-- Seen from the root a path has one more byte, which matters only if it has as many as it may
have. -/
theorem seenFromProcess_of_root {p : Path} (hroot : fs.processDirectory = [])
    (hp : p.isAbsolute = false) (hparts : p.parts ≠ []) (hsize : Text.utf8Size p.text ≠ pathLimit) :
    fs.SeenFromProcess p := by
  have hslash : (fs.processPath.join p).text = '/' :: p.text := by
    have hrelative := Path.root_of_isAbsolute_eq_false hp
    have hbelow : (Path.rootDirectory.join p).parts = p.parts := by
      rw [Path.parts_join, if_pos hrelative]
      rfl
    rw [processPath, hroot]
    change (Path.rootDirectory.join p).text = _
    rw [Path.text_of_isAbsolute (Path.isAbsolute_join rfl p), hbelow, Path.root_join,
      if_pos hrelative, Path.text_of_parts hparts, hrelative]
    rfl
  have hlonger : Text.utf8Size ('/' :: p.text) = 1 + Text.utf8Size p.text := rfl
  have hlong : pathLimit < Text.utf8Size ('/' :: p.text) ↔ pathLimit < Text.utf8Size p.text := by
    omega
  refine ⟨hroot ▸ fs.plain_root, ?_⟩
  simp only [hslash, checkPath, List.mem_cons, hlong]
  simp

/-- A relative path is followed from the directory of the process. -/
theorem SeenFromProcess.locate_eq {p : Path} (h : fs.SeenFromProcess p)
    (hp : p.isAbsolute = false) (hparts : p.parts ≠ []) (followLast : Bool) :
    fs.locate followLast p.text = fs.locate followLast (fs.processPath.join p).text := by
  have hrelative := Path.root_of_isAbsolute_eq_false hp
  have habsolute : (fs.processPath.join p).isAbsolute = true :=
    Path.isAbsolute_join (isAbsolute_ofText_spelledLocation h.plain.isPart) p
  have hbelow : (fs.processPath.join p).parts = fs.processDirectory ++ p.parts := by
    rw [Path.parts_join, if_pos hrelative, processPath,
      parts_ofText_spelledLocation h.plain.isPart]
  have hstart : targetStart fs.processDirectory p.text = fs.processDirectory := by
    rw [← Path.ofText_text p] at hp
    exact if_neg fun hslash => absurd (Path.isAbsolute_ofText_iff.2 hslash) (by simp [hp])
  have hsplit : Text.split (· == '/') p.text = p.parts := by
    obtain ⟨part, others, hcons⟩ := List.exists_cons_of_ne_nil hparts
    rw [Path.text_of_parts hparts, hrelative, hcons]
    exact Path.split_joinWith (hcons ▸ p.isPart_of_mem)
  rw [locate_text habsolute, hbelow, h.checkPath_eq, locate, hstart, hsplit]
  congr 1
  funext _
  exact (walk_append hparts h.plain.follows (Nat.zero_le linkLimit)).symm

end FileSystem

namespace Settings

variable {fs : FileSystem} {env : Environment} {p q : Path}

/-! ## Documents and their paths -/

/-- The bytes that are found where a document may be, or nothing. -/
def documentAt (fs : FileSystem) (path : Text) : Except Refusal (Option ByteArray) :=
  match fs.pathExists path with
  | .error why => .error why
  | .ok false => .ok none
  | .ok true => (fs.read path).map some

def entriesFrom (p : Path) :
    Except Refusal (Option ByteArray) → Except Fault (List (Data × Data))
  | .error why => .error (.refused ⟨why, p.text⟩)
  | .ok none => .ok []
  | .ok (some bytes) =>
    match String.fromUTF8? bytes with
    | none => .error .undecodableText
    | some content => do
      match ← Document.read content.toList with
      | .null => .ok []
      | .mapping entries => .ok entries
      | _ => .error (.noMapping p)

def settingsFrom (env : Environment) (p : Path) (found : Except Refusal (Option ByteArray)) :
    Except Fault Settings := do
  let entries ← entriesFrom p found
  validate (override env entries)

theorem load_eq_settingsFrom (fs : FileSystem) (env : Environment) (a : PathArgument) :
    load fs env (some a) = settingsFrom env a.toPath (documentAt fs a.toPath.text) := by
  have hentries : readEntries fs a.toPath = entriesFrom a.toPath (documentAt fs a.toPath.text) := by
    rw [readEntries, documentAt]
    cases fs.pathExists a.toPath.text with
    | error why => rfl
    | ok found =>
      cases found with
      | false => rfl
      | true => cases fs.read a.toPath.text <;> rfl
  rw [settingsFrom, ← hentries]
  rfl

/-- Two outcomes are the same but for the path that a fault names. -/
inductive Alike {α : Type} (p q : Path) : Except Fault α → Except Fault α → Prop
  | same (outcome : Except Fault α) : Alike p q outcome outcome
  | refused (why : Refusal) :
    Alike p q (.error (.refused ⟨why, p.text⟩)) (.error (.refused ⟨why, q.text⟩))
  | noMapping : Alike p q (.error (.noMapping p)) (.error (.noMapping q))

theorem Alike.bind {α β : Type} {x y : Except Fault α} (h : Alike p q x y)
    (f : α → Except Fault β) :
    Alike p q (x >>= f) (y >>= f) := by
  cases h with
  | same outcome => exact .same _
  | refused why => exact .refused why
  | noMapping => exact .noMapping

theorem Alike.eq_ok_iff {α : Type} {x y : Except Fault α} (h : Alike p q x y) (a : α) :
    x = .ok a ↔ y = .ok a := by
  cases h with
  | same outcome => exact Iff.rfl
  | refused why => exact iff_of_false nofun nofun
  | noMapping => exact iff_of_false nofun nofun

theorem alike_settingsFrom (found : Except Refusal (Option ByteArray)) :
    Alike p q (settingsFrom env p found) (settingsFrom env q found) := by
  refine Alike.bind ?_ _
  match found with
  | .error why => exact .refused why
  | .ok none => exact .same _
  | .ok (some bytes) =>
    simp only [entriesFrom]
    split
    · exact .same _
    · next content _ =>
      cases Document.read content.toList with
      | error fault => exact .same _
      | ok data =>
        cases data with
        | null => exact .same _
        | mapping entries => exact .same _
        | _ => exact .noMapping

theorem settingsFrom_of_switch (p : Path) :
    settingsFrom [] p (.ok (some ("dry_run: true" : String).toUTF8)) = .ok { dryRun := true } := by
  have hutf8 : String.fromUTF8? ("dry_run: true" : String).toUTF8 = some "dry_run: true" :=
    dif_pos (String.isValidUTF8 _)
  have hdocument : Document.read ("dry_run: true" : String).toList =
      .ok (.mapping [(.text "dry_run", .flag true)]) :=
    @Document.read_of_plain [("dry_run", "true")] .text (fun _ => .flag true) _ rfl
      ⟨List.forall_mem_singleton.2 (by decide), List.forall_mem_singleton.2 rfl,
        List.forall_mem_singleton.2 rfl⟩
  simp only [settingsFrom, entriesFrom, hutf8, hdocument]
  rfl

theorem documentAt_congr {path path' : Text} (h : fs.locate true path = fs.locate true path') :
    documentAt fs path = documentAt fs path' := by
  simp only [documentAt, FileSystem.pathExists, FileSystem.status, FileSystem.read, h]

end Settings

namespace Session

open FileSystem Settings

/-- A path is loaded from what is found when it is followed from the directory of the process, and
the same path seen from the scope from what is found there. Both are the same if the path is
absolute, and otherwise they are alike where the same is found, as it is where the directory of the
process is the scoped directory. If that is the root, only a path that is as long as a call accepts
is not followed in the same way. -/
theorem load_seen_from_scope (s : Session) (a : PathArgument) :
    let p := a.toPath
    let seen := s.absolute a
    let load (path : PathArgument) := Settings.load s.files s.environment (some path)
    load a = settingsFrom s.environment p (documentAt s.files p.text) ∧
    load (.path seen) = settingsFrom s.environment seen (documentAt s.files seen.text) ∧
    (p.isAbsolute = true → load (.path seen) = load a) ∧
    (documentAt s.files seen.text = documentAt s.files p.text →
      Alike p seen (load a) (load (.path seen))) ∧
    (p.isAbsolute = false → p.parts ≠ [] →
      (s.files.SeenFromProcess p →
        documentAt s.files p.text = documentAt s.files (s.files.processPath.join p).text ∧
        (s.directory = s.files.processPath → Alike p seen (load a) (load (.path seen)))) ∧
      (s.files.processDirectory = [] → Text.utf8Size p.text ≠ FileSystem.pathLimit →
        s.files.SeenFromProcess p)) := by
  intro p seen load
  have hgiven : load a = settingsFrom s.environment p (documentAt s.files p.text) :=
    load_eq_settingsFrom _ _ a
  have hseen : load (.path seen) = settingsFrom s.environment seen (documentAt s.files seen.text) :=
    load_eq_settingsFrom _ _ (.path seen)
  have halike (h : documentAt s.files seen.text = documentAt s.files p.text) :
      Alike p seen (load a) (load (.path seen)) := by
    rw [hgiven, hseen, h]
    exact alike_settingsFrom _
  refine ⟨hgiven, hseen, fun habsolute => ?_, halike, fun hrelative hparts =>
    ⟨fun hprocess => ?_, fun hroot => seenFromProcess_of_root hroot hrelative hparts⟩⟩
  · have hsame : seen = p := Path.join_of_isAbsolute habsolute
    rw [hgiven, hseen, hsame]
  · have hfound : documentAt s.files p.text =
        documentAt s.files (s.files.processPath.join p).text :=
      documentAt_congr (hprocess.locate_eq hrelative hparts true)
    refine ⟨hfound, fun hdirectory => halike ?_⟩
    have hjoin : seen = s.files.processPath.join p := congrArg (·.join p) hdirectory
    rw [hjoin, hfound]

/-- The scoped directory is a link to the root, so a relative path leads to the same document. -/
theorem load_seen_from_scope_of_link :
    let fs := (FileSystem.empty.insert ["d"] (.link "/")).insert ["c"]
      (.file ("dry_run: true" : String).toUTF8 {})
    let s : Session := { files := fs, scopes := [Path.ofText "/d"] }
    documentAt fs "c" = documentAt fs "/c" ∧ documentAt fs "/d/c" = documentAt fs "c" ∧
      Settings.load fs [] (some (.spelled "c")) = .ok { dryRun := true } ∧
      Settings.load fs [] (some (.path (s.absolute (.spelled "c")))) = .ok { dryRun := true } := by
  intro fs s
  obtain ⟨hgiven, _, _, halike, hrelative⟩ := s.load_seen_from_scope (.spelled "c")
  obtain ⟨hprocess, hroot⟩ := hrelative rfl (by decide)
  have hfound : documentAt fs "c" = documentAt fs "/c" := (hprocess (hroot rfl (by decide))).1
  have hsame : documentAt fs "/d/c" = documentAt fs "c" := rfl
  have hload := hgiven.trans (settingsFrom_of_switch _)
  exact ⟨hfound, hsame, hload, ((halike hsame).eq_ok_iff _).1 hload⟩

/-- The document is below the scoped directory, and a relative path does not lead there. -/
theorem load_of_relative_path :
    let fs := (FileSystem.empty.insert ["d"] (.directory {})).insert ["d", "c"]
      (.file ("dry_run: true" : String).toUTF8 {})
    let s : Session := { files := fs, scopes := [Path.ofText "/d"] }
    s.absolute (.spelled "c") = Path.ofText "/d/c" ∧
      Settings.load fs [] (some (.spelled "c")) = .ok {} ∧
      Settings.load fs [] (some (.path (s.absolute (.spelled "c")))) = .ok { dryRun := true } := by
  intro fs s
  refine ⟨rfl, rfl, ?_⟩
  exact (load_eq_settingsFrom fs [] _).trans (settingsFrom_of_switch _)

end Session

end ScopedShell
