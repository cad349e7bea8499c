import ScopedShell.Proofs.FileSystem.Making
import ScopedShell.Proofs.Path.Ascent

/-!
# Making sure that a directory is there

A directory that is missing is made, and its missing parents before it. What the call answers is
decided by what is there afterwards: it succeeds exactly where the path names a directory in the end
(`isDirectory_makeWithParents_iff`). Everything that it adds lies on the way: each new entry is an
empty directory, and a beginning of the path names it (`MadeAlong`). This holds also where the call
fails half-way and leaves parents behind, and where the path goes up through directories that are
only made by the call.
-/

namespace ScopedShell

namespace Path

theorem text_parent_prefix {p : Path} (h : p.isAbsolute = true) : p.parent.text <+: p.text := by
  by_cases hparts : p.parts = []
  · exact ⟨[], by rw [List.append_nil, parent_of_parts_eq_nil hparts]⟩
  · have hparent : p.parent.isAbsolute = true := h
    rw [text_of_isAbsolute hparent, text_of_isAbsolute h, parts_eq_append_name hparts]
    exact (List.prefix_append_right_inj _).2 (prefix_joinWith _ _)

end Path

namespace FileSystem

variable {fs fs' fs'' : FileSystem} {p : Path}

/-! ## Directories on the way to a directory -/

theorem Follows.isDirectoryAt {n : Nat} {l l' : Location} {part : Text} {rest : List Text}
    (h : fs.Follows n l (part :: rest) l') : fs.isDirectoryAt l = true := by
  cases h with
  | slash hl _ => exact hl
  | stay hl _ => exact hl.isDirectoryAt
  | up hl _ => exact hl.isDirectoryAt
  | enter hl _ _ _ _ => exact hl.isDirectoryAt
  | jump hl _ _ _ => exact hl.isDirectoryAt

theorem isDirectory_parent (hp : p.isAbsolute = true) (h : fs.isDirectory p.text = .ok true) :
    fs.isDirectory p.parent.text = .ok true := by
  by_cases hparts : p.parts = []
  · rwa [Path.parent_of_parts_eq_nil hparts]
  · obtain ⟨l, hlocate, _⟩ := isDirectory_eq_true_iff.1 h
    obtain ⟨hcheck, n, hn, hfollows⟩ := (locate_text_eq_ok_iff hp).1 hlocate
    rw [Path.parts_eq_append_name hparts, follows_append_iff] at hfollows
    obtain ⟨m, k, mid, rfl, hfront, hlast⟩ := hfollows
    refine isDirectory_eq_true_iff.2 ⟨mid, ?_, hlast.isDirectoryAt⟩
    exact (@locate_text_eq_ok_iff fs p.parent hp mid).2
      ⟨checkPath_mono (Path.text_parent_prefix hp) hcheck, m, by omega, hfront⟩

/-! ## One call -/

theorem writtenParts_text (hp : p.isAbsolute = true) : writtenParts p.text = p.parts := by
  obtain ⟨empties, hempties, hsplit⟩ := Path.split_text hp
  have hnone : empties.filter (· ≠ []) = [] :=
    List.filter_eq_nil_iff.2 fun part hpart => by simp [hempties part hpart]
  have hall : p.parts.filter (· ≠ []) = p.parts :=
    List.filter_eq_self.2 fun part hpart => by simpa using (p.isPart_of_mem part hpart).1
  rw [writtenParts, hsplit, List.filter_append, hnone, hall, List.nil_append]

/-- A directory that is there is not missed, whatever else the call is refused for. -/
theorem why_of_makeDirectory (hp : p.isAbsolute = true)
    (hdirectory : fs.isDirectory p.text = .ok true)
    {why : Refusal} (h : fs.makeDirectory p.text = .error why) :
    why ≠ .missing ∧ why ≠ .nullCharacter := by
  obtain ⟨l, hlocate, _⟩ := isDirectory_eq_true_iff.1 hdirectory
  obtain ⟨hcheck, n, hn, hfollows⟩ := (locate_text_eq_ok_iff hp).1 hlocate
  have hwritten := writtenParts_text hp
  rw [writtenParts] at hwritten
  rw [makeDirectory, hcheck, bind_eq_error_iff] at h
  obtain hfault | ⟨_, _, h⟩ := h
  · cases hfault
  simp only [hwritten] at h
  split at h
  · cases h
    decide
  · next name hlast =>
    obtain ⟨front, hparts⟩ := List.getLast?_eq_some_iff.1 hlast
    rw [hparts, follows_append_iff] at hfollows
    obtain ⟨m, k, mid, rfl, hfront, hname⟩ := hfollows
    have hwalk : fs.walk true linkLimit (targetStart fs.processDirectory p.text) p.parts.dropLast =
        .ok mid := by
      rw [targetStart_text hp, hparts, List.dropLast_concat]
      exact walk_eq_ok_iff.2 ⟨m, by omega, hfront⟩
    obtain ⟨denied, hnode⟩ := isDirectoryAt_iff_exists_denied.1 hname.isDirectoryAt
    rw [hwalk, bind_eq_error_iff] at h
    obtain hfault | ⟨_, hmid, h⟩ := h
    · cases hfault
    obtain rfl := Except.ok.inj hmid
    rw [hnode] at h
    dsimp only at h
    -- what is left to be refused for concerns the directory and the name in it
    split at h
    · cases h
      decide
    · split at h
      · cases h
        decide
      · split at h
        · cases h
          decide
        · split at h
          · cases h
            decide
          · cases h

theorem acceptDirectory_eq_ok_iff {path : Text} {why : Refusal} :
    fs.acceptDirectory path why = .ok () ↔
      why ≠ .nullCharacter ∧ fs.isDirectory path = .ok true := by
  rw [acceptDirectory]
  split
  · next h => simp [h]
  · next h =>
    split
    · next hdirectory => simp [h, hdirectory]
    · next hdirectory => simp [hdirectory]
    · next hdirectory => simp [hdirectory]

/-- A call that is refused leaves a directory only where one was there. -/
theorem isDirectory_iff_acceptDirectory (hp : p.isAbsolute = true) {why : Refusal}
    (h : fs.makeDirectory p.text = .error why) :
    fs.isDirectory p.text = .ok true ↔ fs.acceptDirectory p.text why = .ok () := by
  rw [acceptDirectory_eq_ok_iff]
  exact ⟨fun hdirectory => ⟨(why_of_makeDirectory hp hdirectory h).2, hdirectory⟩, And.right⟩

theorem exists_reserved_of_makeDirectory_text (hp : p.isAbsolute = true)
    (h : fs.makeDirectory p.text = .ok fs') :
    ∃ l name, fs.Reserved p l name ∧ fs' = fs.insert (l ++ [name]) (.directory {}) := by
  have hreserved := @exists_reserved_of_makeDirectory fs fs' p.text
  rw [p.ofText_text] at hreserved
  exact hreserved hp h

theorem isDirectory_of_makeDirectory (hp : p.isAbsolute = true)
    (h : fs.makeDirectory p.text = .ok fs') : fs'.isDirectory p.text = .ok true := by
  obtain ⟨l, name, hreserved, rfl⟩ := exists_reserved_of_makeDirectory_text hp h
  refine isDirectory_eq_true_iff.2 ⟨l ++ [name], hreserved.locate_eq true, ?_⟩
  exact isDirectoryAt_iff_exists_denied.2 ⟨_, hreserved.vacant.node?_made _⟩

/-! ## What is there afterwards -/

theorem isDirectory_makeOne_iff (hp : p.isAbsolute = true) :
    (fs.makeOne p.text).2.isDirectory p.text = .ok true ↔ (fs.makeOne p.text).1 = .ok () := by
  rw [makeOne]
  split
  · next hmake => simpa using isDirectory_of_makeDirectory hp hmake
  · next hmake =>
    have hnone : fs.isDirectory p.text ≠ .ok true := fun hdirectory =>
      (why_of_makeDirectory hp hdirectory hmake).1 rfl
    simpa using hnone
  · next hmake => exact isDirectory_iff_acceptDirectory hp hmake

/-- The call succeeds exactly where the path names a directory in the end. -/
theorem isDirectory_makeWithParents_iff (parents : Nat) (fs : FileSystem)
    (hp : p.isAbsolute = true) :
    (makeWithParents parents fs p).2.isDirectory p.text = .ok true ↔
      (makeWithParents parents fs p).1 = .ok () := by
  induction parents generalizing fs p with
  | zero =>
    rw [makeWithParents_zero]
    exact isDirectory_makeOne_iff hp
  | succ parents ih =>
    rw [makeWithParents]
    split
    · next hmake => simpa using isDirectory_of_makeDirectory hp hmake
    · have hparent := @ih p.parent fs hp
      split
      · next hmade => exact isDirectory_makeOne_iff hp
      · next made hfailed =>
        rw [hfailed] at hparent
        have hnone : made.isDirectory p.text ≠ .ok true := fun hdirectory =>
          absurd (hparent.1 (isDirectory_parent hp hdirectory)) (by simp)
        simpa using hnone
    · next hmake => exact isDirectory_iff_acceptDirectory hp hmake

/-! ## What is new -/

/-- Directories are made along a path: a beginning of the path names each of them. -/
structure MadeAlong (fs : FileSystem) (path : Text) (fs' : FileSystem) : Prop where
  grows : fs.Grows fs'
  exists_front : ∀ l node, fs.node? l = none → fs'.node? l = some node →
    ∃ front, front <+: path ∧ fs'.locate true front = .ok l

theorem MadeAlong.refl (fs : FileSystem) (path : Text) : fs.MadeAlong path fs where
  grows := .refl
  exists_front := by
    intro l node hold hnew
    rw [hold] at hnew
    cases hnew

theorem MadeAlong.trans {path : Text} (h : fs.MadeAlong path fs') (h' : fs'.MadeAlong path fs'') :
    fs.MadeAlong path fs'' where
  grows := h.grows.trans h'.grows
  exists_front := by
    intro l node hold hnew
    cases hmid : fs'.node? l with
    | none => exact h'.exists_front l node hmid hnew
    | some early =>
      obtain ⟨front, hfront, hlocate⟩ := h.exists_front l early hold hmid
      exact ⟨front, hfront, h'.grows.locate_eq_ok hlocate⟩

theorem MadeAlong.mono {front path : Text} (hfront : front <+: path) (h : fs.MadeAlong front fs') :
    fs.MadeAlong path fs' where
  grows := h.grows
  exists_front := by
    intro l node hold hnew
    obtain ⟨first, hfirst, hlocate⟩ := h.exists_front l node hold hnew
    exact ⟨first, hfirst.trans hfront, hlocate⟩

theorem madeAlong_of_makeDirectory (hp : p.isAbsolute = true)
    (h : fs.makeDirectory p.text = .ok fs') : fs.MadeAlong p.text fs' := by
  obtain ⟨l, name, hreserved, rfl⟩ := exists_reserved_of_makeDirectory_text hp h
  refine ⟨.made .refl hreserved.vacant, fun l' node hold hnew => ?_⟩
  rw [hreserved.vacant.node?_insert] at hnew
  split at hnew
  · next heq => exact ⟨p.text, List.prefix_refl _, heq ▸ hreserved.locate_eq true⟩
  · rw [hold] at hnew
    cases hnew

theorem madeAlong_makeWithParents (parents : Nat) (fs : FileSystem) (hp : p.isAbsolute = true) :
    fs.MadeAlong p.text (makeWithParents parents fs p).2 :=
  @makeWithParents_induction (fun p fs fs' => p.isAbsolute = true → fs.MadeAlong p.text fs')
    (fun _ fs _ => .refl fs _) (fun h h' hp => (h hp).trans (h' hp))
    (fun h hp => (h hp).mono (Path.text_parent_prefix hp))
    (fun h hp => madeAlong_of_makeDirectory hp h)
    parents fs p hp

theorem Grows.exists_new (h : fs.Grows fs') (hne : fs' ≠ fs) :
    ∃ l, fs.node? l = none ∧ fs'.node? l = some (.directory {}) := by
  cases h with
  | refl => exact absurd rfl hne
  | made hgrows hvacant =>
    exact ⟨_, hgrows.node?_eq_none hvacant.node?_eq_none, hvacant.node?_made _⟩

/-! ## The operation -/

variable {scope : Path}

theorem ensureDirectory_of_isDirectory (h : fs.isDirectory (scope.join p).text = .ok true) :
    fs.ensureDirectory scope p = (.ok false, fs) := by
  rw [ensureDirectory, h]

theorem ensureDirectory_of_not_isDirectory (h : fs.isDirectory (scope.join p).text = .ok false) :
    fs.ensureDirectory scope p =
      let made := makeWithParents (scope.join p).parts.length fs (scope.join p)
      ((made.1.mapError .refused).map fun _ => true, made.2) := by
  rw [ensureDirectory, h]
  dsimp only
  cases makeWithParents (scope.join p).parts.length fs (scope.join p) with
  | mk outcome made => cases outcome <;> rfl

theorem ensureDirectory_of_error {why : Refusal}
    (h : fs.isDirectory (scope.join p).text = .error why) :
    fs.ensureDirectory scope p = (.error (.refused ⟨why, (scope.join p).text⟩), fs) := by
  rw [ensureDirectory, h]

theorem madeAlong_ensureDirectory (fs : FileSystem) (hp : (scope.join p).isAbsolute = true) :
    fs.MadeAlong (scope.join p).text (fs.ensureDirectory scope p).2 := by
  cases h : fs.isDirectory (scope.join p).text with
  | error why =>
    rw [ensureDirectory_of_error h]
    exact .refl fs _
  | ok there =>
    cases there with
    | true =>
      rw [ensureDirectory_of_isDirectory h]
      exact .refl fs _
    | false =>
      rw [ensureDirectory_of_not_isDirectory h]
      exact madeAlong_makeWithParents _ fs hp

/-- The operation succeeds exactly where the path names a directory in the end, and it tells whether
the path named none before. -/
theorem isDirectory_ensureDirectory (fs : FileSystem) (hp : (scope.join p).isAbsolute = true) :
    (∀ made, (fs.ensureDirectory scope p).1 = .ok made →
      fs.isDirectory (scope.join p).text = .ok (!made) ∧
        (fs.ensureDirectory scope p).2.isDirectory (scope.join p).text = .ok true) ∧
    ∀ fault, (fs.ensureDirectory scope p).1 = .error fault →
      fs.isDirectory (scope.join p).text ≠ .ok true ∧
        (fs.ensureDirectory scope p).2.isDirectory (scope.join p).text ≠ .ok true := by
  cases h : fs.isDirectory (scope.join p).text with
  | error why =>
    rw [ensureDirectory_of_error h]
    simp [h]
  | ok there =>
    cases there with
    | true =>
      rw [ensureDirectory_of_isDirectory h]
      simp [h]
    | false =>
      have hiff := isDirectory_makeWithParents_iff (scope.join p).parts.length fs hp
      rw [ensureDirectory_of_not_isDirectory h]
      cases hmade : (makeWithParents (scope.join p).parts.length fs (scope.join p)).1 with
      | ok done =>
        have hanswer : ((Except.ok done).mapError Fault.refused).map (fun _ => true) = .ok true :=
          rfl
        simp [hmade, hiff, hanswer]
      | error refused =>
        have hanswer : ((Except.error refused : Except Refused Unit).mapError Fault.refused).map
          (fun _ => true) = .error (.refused refused) := rfl
        simp [hmade, hiff, hanswer]

/-- Making sure that a directory is there. The answer no means that it was there and that nothing is
changed; the answer yes means that it was not, and that it is there now with at least one new
directory; either way it is there the next time. A failure means that it is still not there. In
every case entries stay as they are and listings only get longer at their end, and whatever is new
was an empty directory when it was made, named by a beginning of the path. -/
theorem made_of_ensureDirectory (hscope : scope.isAbsolute = true) (fs : FileSystem) (p : Path) :
    let path := (scope.join p).text
    let answer := (fs.ensureDirectory scope p).1
    let fs' := (fs.ensureDirectory scope p).2
    (answer = .ok false → fs.isDirectory path = .ok true ∧ fs' = fs) ∧
    (answer = .ok true → fs.isDirectory path = .ok false ∧ fs'.isDirectory path = .ok true ∧
      ∃ l, fs.node? l = none ∧ fs'.node? l = some (.directory {})) ∧
    (∀ made, answer = .ok made → fs'.ensureDirectory scope p = (.ok false, fs')) ∧
    (∀ fault, answer = .error fault →
      fs.isDirectory path ≠ .ok true ∧ fs'.isDirectory path ≠ .ok true) ∧
    (∀ l node, fs.node? l = some node → fs'.node? l = some node) ∧
    (∀ l, fs.namesIn l <+: fs'.namesIn l) ∧
    ∀ l node, fs.node? l = none → fs'.node? l = some node →
      node = .directory {} ∧
      (∃ before : FileSystem, fs.Grows before ∧ before.node? l = none ∧
        (before.insert l (.directory {})).namesIn l = [] ∧
        (before.insert l (.directory {})).Grows fs') ∧
      ∃ front, front <+: path ∧ fs'.locate true front = .ok l := by
  intro path answer fs'
  have hp := Path.isAbsolute_join hscope p
  obtain ⟨hmade, hfailed⟩ := fs.isDirectory_ensureDirectory hp
  obtain ⟨hgrows, hfront⟩ := fs.madeAlong_ensureDirectory hp
  refine ⟨fun hanswer => ?_, fun hanswer => ?_, fun made hanswer => ?_, hfailed,
    fun l node => hgrows.node?_eq_some, hgrows.namesIn_prefix, fun l node hold hnew => ?_⟩
  · have hthere := (hmade false hanswer).1
    exact ⟨hthere, congrArg Prod.snd (ensureDirectory_of_isDirectory hthere)⟩
  · obtain ⟨hbefore, hafter⟩ := hmade true hanswer
    refine ⟨hbefore, hafter, hgrows.exists_new fun heq => ?_⟩
    rw [heq, hbefore] at hafter
    cases hafter
  · exact ensureDirectory_of_isDirectory (hmade made hanswer).2
  · obtain ⟨hnode, hmoment⟩ := hgrows.exists_moment hold hnew
    exact ⟨hnode, hmoment, hfront l node hold hnew⟩

/-- The path goes up through a directory that only the call makes. -/
theorem made_of_ensureDirectory_going_up :
    let scope := Path.rootDirectory
    let p := Path.ofText "new/../other"
    let fs' := (FileSystem.empty.ensureDirectory scope p).2
    scope.isAbsolute = true ∧ (FileSystem.empty.ensureDirectory scope p).1 = .ok true ∧
      fs'.namesIn [] = [("new" : Text), "other"] ∧ fs'.ensureDirectory scope p = (.ok false, fs') ∧
      ∃ front, front <+: ("/new/../other" : Text) ∧ fs'.locate true front = .ok ["new"] := by
  intro scope p fs'
  obtain ⟨_, _, hagain, _, _, _, hnew⟩ := @made_of_ensureDirectory scope rfl .empty p
  have hmade : (FileSystem.empty.ensureDirectory scope p).1 = .ok true := rfl
  have hnames : fs'.namesIn [] = [("new" : Text), "other"] := by decide +kernel
  have hnode : fs'.node? ["new"] = some (.directory {}) := by decide +kernel
  have hagain := hagain true hmade
  have hfront := (hnew ["new"] (.directory {}) rfl hnode).2.2
  exact ⟨rfl, hmade, hnames, hagain, hfront⟩

end FileSystem

end ScopedShell
