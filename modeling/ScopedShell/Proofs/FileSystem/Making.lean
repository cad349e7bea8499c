import ScopedShell.Proofs.FileSystem.Growth

/-!
# Making directories

A call that makes a directory follows the path up to its last part and puts an empty directory there
under a vacant name (`exists_vacant_of_makeDirectory`). The operations built from it, which make
missing parents or try one name after the other, make directories one after the other and change
nothing else, also where they fail (`grows_ensureDirectory`, `grows_makeTemporary`).

The path of a temporary directory is the normal form of the text with which the call was made. It
leads to the new directory as that text does (`Reserved`): nothing was there before, and an empty
directory is there afterwards.
-/

namespace ScopedShell

namespace Text

theorem utf8Size_le_of_sublist {t t' : Text} (h : t.Sublist t') : utf8Size t ≤ utf8Size t' := by
  induction h with
  | slnil => exact Nat.le_refl _
  | cons c _ ih => exact Nat.le_trans ih (Nat.le_add_left _ _)
  | cons_cons c _ ih => exact Nat.add_le_add_left ih _

theorem joinWith_sublist_cons (separator : Char) (part : Text) (parts : List Text) :
    (joinWith separator parts).Sublist (joinWith separator (part :: parts)) := by
  cases parts with
  | nil => exact List.nil_sublist _
  | cons next parts => exact ((List.sublist_cons_self _ _).trans (List.sublist_append_right _ _))

theorem joinWith_sublist {separator : Char} {parts parts' : List Text} (h : parts.Sublist parts') :
    (joinWith separator parts).Sublist (joinWith separator parts') := by
  induction h with
  | slnil => exact .slnil
  | cons part _ ih => exact ih.trans (joinWith_sublist_cons separator part _)
  | @cons_cons front rest part hrest ih =>
    cases front with
    | nil =>
      cases rest with
      | nil => exact List.Sublist.refl _
      | cons next rest => exact List.sublist_append_left _ _
    | cons next front =>
      obtain ⟨other, rest, rfl⟩ := List.exists_cons_of_ne_nil
        (List.ne_nil_of_mem (hrest.subset List.mem_cons_self))
      exact (ih.cons_cons separator).append_left part

end Text

namespace Path

theorem exists_eq_root_append (t : Text) :
    ∃ rest, t = (Root.ofText t).text ++ rest ∧ partsOf t = partsOf rest := by
  rw [Root.ofText.eq_def]
  split
  · exact ⟨_, rfl, partsOf_cons_slash _⟩
  · exact ⟨_, rfl, (partsOf_cons_slash _).trans (partsOf_cons_slash _)⟩
  · exact ⟨_, rfl, partsOf_cons_slash _⟩
  · exact ⟨t, rfl, rfl⟩

/-- Bringing an absolute path into its normal form only leaves characters out. -/
theorem text_ofText_sublist {t : Text} (h : (ofText t).isAbsolute = true) :
    (ofText t).text.Sublist t := by
  obtain ⟨rest, ht, hparts⟩ := exists_eq_root_append t
  have hjoin : (Text.joinWith '/' (partsOf rest)).Sublist rest := by
    conv => rhs; rw [← Text.joinWith_split '/' rest]
    exact Text.joinWith_sublist List.filter_sublist
  rw [text_of_isAbsolute h]
  change ((Root.ofText t).text ++ Text.joinWith '/' (partsOf t)).Sublist t
  rw [hparts]
  conv => rhs; rw [ht]
  exact hjoin.append_left _

end Path

namespace FileSystem

variable {fs fs' : FileSystem}

/-! ## The call -/

theorem checkPath_of_sublist {path path' : Text} (hsublist : path.Sublist path')
    (h : checkPath path' = .ok ()) : checkPath path = .ok () := by
  obtain ⟨hnull, hsize⟩ := checkPath_eq_ok_iff.1 h
  exact checkPath_eq_ok_iff.2 ⟨fun hmem => hnull (hsublist.subset hmem),
    Nat.le_trans (Text.utf8Size_le_of_sublist hsublist) hsize⟩

/-- The parts of a path as it is written, those that are a single dot included. -/
def writtenParts (path : Text) : List Text :=
  (Text.split (· == '/') path).filter (· ≠ [])

theorem mem_writtenParts {path part : Text} (h : part ∈ writtenParts path) :
    part ≠ [] ∧ '/' ∉ part ∧ ∀ c ∈ part, c ∈ path := by
  obtain ⟨hsplit, hne⟩ := List.mem_filter.1 h
  have hslash : '/' ∉ part := fun hmem => by cases Text.not_isSeparator_of_mem_split hsplit hmem
  refine ⟨by simpa using hne, hslash, fun c hc => ?_⟩
  rw [← Text.joinWith_split '/' path, Path.mem_joinWith_iff (fun heq => hslash (heq ▸ hc))]
  exact ⟨part, hsplit, hc⟩

/-- A directory is made under a vacant name, where the parts before the name lead. -/
theorem exists_vacant_of_makeDirectory {path : Text} (h : fs.makeDirectory path = .ok fs') :
    checkPath path = .ok () ∧ ∃ front name l n, writtenParts path = front ++ [name] ∧
      n ≤ linkLimit ∧ fs.Follows n (targetStart fs.processDirectory path) front l ∧
      fs.Vacant l name ∧
      fs' = fs.insert (l ++ [name]) (.directory {}) := by
  obtain ⟨_, hcheck, h⟩ := bind_eq_ok_iff.1 h
  refine ⟨hcheck, ?_⟩
  dsimp only at h
  split at h
  · cases h
  · next name hlast =>
    obtain ⟨front, hparts⟩ : ∃ front, writtenParts path = front ++ [name] :=
      List.getLast?_eq_some_iff.1 hlast
    obtain ⟨l, hwalk, h⟩ := bind_eq_ok_iff.1 h
    obtain ⟨n, hn, hfollows⟩ := walk_eq_ok_iff.1 hwalk
    rw [show ((Text.split (· == '/') path).filter (· ≠ [])) = front ++ [name] from hparts,
      List.dropLast_concat] at hfollows
    obtain ⟨hne, hslash, hchars⟩ :=
      mem_writtenParts (hparts ▸ List.mem_append_right _ List.mem_cons_self)
    split at h
    · cases h
    · next denied hparent =>
      split at h
      · cases h
      · next hsearching =>
        split at h
        · cases h
        · next hfree =>
          split at h
          · cases h
          · next hsize =>
            split at h
            · cases h
            · simp only [not_or, Option.not_isSome_iff_eq_none] at hfree
              refine ⟨front, name, l, n, hparts, hn, hfollows, ?_, (Except.ok.inj h).symm⟩
              exact {
                searchable := ⟨denied, hparent, by simpa using hsearching⟩
                isName := ⟨⟨hne, hfree.1, hslash⟩, hfree.2.1⟩
                fitsName := Nat.not_lt.1 hsize
                noNull := fun hmem => (checkPath_eq_ok_iff.1 hcheck).1 (hchars _ hmem)
                node?_eq_none := hfree.2.2 }
    · cases h

theorem grows_of_makeDirectory {path : Text} (h : fs.makeDirectory path = .ok fs') :
    fs.Grows fs' := by
  obtain ⟨_, front, name, l, n, _, _, _, hvacant, rfl⟩ := exists_vacant_of_makeDirectory h
  exact .made .refl hvacant

/-! ## Missing parents, and names that are taken -/

theorem makeWithParents_zero (fs : FileSystem) (p : Path) :
    makeWithParents 0 fs p = fs.makeOne p.text := by
  rw [makeWithParents, makeOne]

section Along

variable {R : Path → FileSystem → FileSystem → Prop}

theorem makeOne_induction (refl : ∀ p fs, R p fs fs)
    (made : ∀ {p fs fs'}, fs.makeDirectory p.text = .ok fs' → R p fs fs') (fs : FileSystem)
    (p : Path) : R p fs (fs.makeOne p.text).2 := by
  rw [makeOne]
  split
  · next hmake => exact made hmake
  · exact refl p fs
  · exact refl p fs

/-- Making a directory with its parents does what calls that make one directory do one after
another, each for the path or for one of its parents. -/
theorem makeWithParents_induction (refl : ∀ p fs, R p fs fs)
    (trans : ∀ {p fs fs' fs''}, R p fs fs' → R p fs' fs'' → R p fs fs'')
    (parent : ∀ {p fs fs'}, R p.parent fs fs' → R p fs fs')
    (made : ∀ {p fs fs'}, fs.makeDirectory p.text = .ok fs' → R p fs fs')
    (parents : Nat) (fs : FileSystem) (p : Path) : R p fs (makeWithParents parents fs p).2 := by
  induction parents generalizing fs p with
  | zero =>
    rw [makeWithParents_zero]
    exact makeOne_induction refl made fs p
  | succ parents ih =>
    rw [makeWithParents]
    split
    · next hmake => exact made hmake
    · have hparents := parent (ih fs p.parent)
      split
      · next between hmade =>
        rw [hmade] at hparents
        exact trans hparents (makeOne_induction refl made between p)
      · next hfailed =>
        rw [hfailed] at hparents
        exact hparents
    · exact refl p fs

end Along

theorem grows_makeWithParents (parents : Nat) (fs : FileSystem) (p : Path) :
    fs.Grows (makeWithParents parents fs p).2 :=
  @makeWithParents_induction (fun _ fs fs' => fs.Grows fs') (fun _ _ => .refl) .trans id
    grows_of_makeDirectory parents fs p

theorem grows_ensureDirectory (fs : FileSystem) (scope p : Path) :
    fs.Grows (fs.ensureDirectory scope p).2 := by
  have hmade := grows_makeWithParents (scope.join p).parts.length fs (scope.join p)
  rw [ensureDirectory]
  split
  · exact .refl
  · split
    · next hdone => rwa [hdone] at hmade
    · next hfailed => rwa [hfailed] at hmade
  · exact .refl

theorem exists_makeDirectory_of_makeTemporary {parent : Path} {beginning : Text}
    {names : List Text} {p : Path} (h : fs.makeTemporary parent beginning names = (.ok p, fs')) :
    ∃ name ∈ names, p = Path.ofText (temporaryPath parent beginning name) ∧
      fs.makeDirectory (temporaryPath parent beginning name) = .ok fs' := by
  induction names with
  | nil => cases h
  | cons name names ih =>
    rw [makeTemporary] at h
    split at h
    · next hmake =>
      obtain ⟨hp, rfl⟩ := Prod.mk.inj h
      exact ⟨name, List.mem_cons_self, (Except.ok.inj hp).symm, hmake⟩
    · obtain ⟨other, hother, hmake⟩ := ih h
      exact ⟨other, List.mem_cons_of_mem _ hother, hmake⟩
    · cases h

theorem grows_makeTemporary (fs : FileSystem) (parent : Path) (beginning : Text)
    (names : List Text) : fs.Grows (fs.makeTemporary parent beginning names).2 := by
  induction names with
  | nil => exact .refl
  | cons name names ih =>
    rw [makeTemporary]
    split
    · next hmake => exact grows_of_makeDirectory hmake
    · exact ih
    · exact .refl

/-! ## Paths of new directories -/

/-- An absolute path whose last part is a vacant name where the others lead. -/
structure Reserved (fs : FileSystem) (p : Path) (l : Location) (name : Text) : Prop where
  isAbsolute : p.isAbsolute = true
  checkPath_eq : checkPath p.text = .ok ()
  vacant : fs.Vacant l name
  exists_follows : ∃ front n, p.parts = front ++ [name] ∧ n ≤ linkLimit ∧ fs.Follows n [] front l

theorem Reserved.linkStatus_eq {p : Path} {l : Location} {name : Text} (h : fs.Reserved p l name) :
    fs.linkStatus p.text = .error .missing := by
  obtain ⟨front, n, hparts, hn, hfollows⟩ := h.exists_follows
  have hlookup : fs.walk false (linkLimit - n) l [name] = .error .missing := by
    rw [walk_eq_walkWith, walkWith_name h.vacant.searchable h.vacant.isName h.vacant.fitsName,
      h.vacant.node?_eq_none]
  rw [linkStatus, locate_text h.isAbsolute, h.checkPath_eq, hparts]
  change (fs.walk false linkLimit [] (front ++ [name]) >>= _) = _
  rw [walk_append (List.cons_ne_nil _ _) hfollows hn, hlookup]
  rfl

theorem Reserved.locate_eq {p : Path} {l : Location} {name : Text} (h : fs.Reserved p l name)
    (followLast : Bool) :
    (fs.insert (l ++ [name]) (.directory {})).locate followLast p.text = .ok (l ++ [name]) := by
  obtain ⟨front, n, hparts, hn, hfollows⟩ := h.exists_follows
  have hgrows : fs.Grows (fs.insert (l ++ [name]) (.directory {})) := .made .refl h.vacant
  rw [locate_text h.isAbsolute, h.checkPath_eq, hparts]
  change walk _ followLast linkLimit [] (front ++ [name]) = _
  rw [walk_append (List.cons_ne_nil _ _) (hgrows.follows hfollows) hn, walk_eq_walkWith,
    walkWith_name (hgrows.searchable h.vacant.searchable) h.vacant.isName h.vacant.fitsName,
    h.vacant.node?_made]
  rfl

theorem Reserved.linkStatus_made {p : Path} {l : Location} {name : Text}
    (h : fs.Reserved p l name) :
    (fs.insert (l ++ [name]) (.directory {})).linkStatus p.text = .ok (.directory {}) :=
  linkStatus_eq_ok_iff.2 ⟨_, h.locate_eq false, h.vacant.node?_made _⟩

theorem Reserved.list_made {p : Path} {l : Location} {name : Text} (h : fs.Reserved p l name) :
    (fs.insert (l ++ [name]) (.directory {})).list p.text = .ok [] :=
  list_eq_ok_iff.2
    ⟨_, {}, h.locate_eq true, h.vacant.node?_made _, rfl, (h.vacant.namesIn_made _).symm⟩

/-- Parts that are a single dot, or empty, may be left out of a way. -/
theorem Follows.filter_isPart {n : Nat} {l l' : Location} {parts : List Text}
    (h : fs.Follows n l parts l') (hslash : ∀ part ∈ parts, '/' ∉ part) :
    fs.Follows n l (parts.filter (IsPart ·)) l' := by
  induction parts generalizing n l with
  | nil => exact h
  | cons part parts ih =>
    rw [List.forall_mem_cons] at hslash
    by_cases hempty : part = []
    · subst hempty
      rw [List.filter_cons_of_neg (by decide)]
      exact ih (follows_slash_iff.1 h).2 hslash.2
    · by_cases hdot : part = ['.']
      · subst hdot
        rw [List.filter_cons_of_neg (by decide)]
        exact ih (follows_stay_iff.1 h).2 hslash.2
      · rw [List.filter_cons_of_pos (by simp [IsPart, hempty, hdot, hslash.1])]
        by_cases hparent : part = parentPart
        · subst hparent
          obtain ⟨hl, hrest⟩ := follows_up_iff.1 h
          exact .up hl (ih hrest hslash.2)
        · have hname : IsName part := ⟨⟨hempty, hdot, hslash.1⟩, hparent⟩
          obtain ⟨hl, hfits, ⟨node, hnode, hlink, hrest⟩ | ⟨target, m, rfl, hnode, hrest⟩⟩ :=
            (follows_name_iff hname).1 h
          · exact .enter hl hfits hnode hlink (ih hrest hslash.2)
          · obtain ⟨i, k, mid, rfl, htarget, hrest⟩ := follows_append_iff.1 hrest
            exact .jump hl hfits hnode (htarget.append (ih hrest hslash.2))

theorem filter_writtenParts (path : Text) :
    (writtenParts path).filter (IsPart ·) = Path.partsOf path := by
  rw [writtenParts, List.filter_filter, Path.partsOf]
  apply List.filter_congr
  intro part _
  by_cases hempty : part = [] <;> simp [hempty, IsPart]

theorem exists_reserved_of_makeDirectory {path : Text}
    (habsolute : (Path.ofText path).isAbsolute = true) (h : fs.makeDirectory path = .ok fs') :
    ∃ l name, fs.Reserved (Path.ofText path) l name ∧
      fs' = fs.insert (l ++ [name]) (.directory {}) := by
  obtain ⟨hcheck, front, name, l, n, hparts, hn, hfollows, hvacant, hmade⟩ :=
    exists_vacant_of_makeDirectory h
  rw [targetStart, if_pos (Path.isAbsolute_ofText_iff.1 habsolute)] at hfollows
  have hslash : ∀ part ∈ front, '/' ∉ part := fun part hpart =>
    (mem_writtenParts (hparts ▸ List.mem_append_left _ hpart)).2.1
  refine ⟨l, name, ⟨habsolute, ?_, hvacant, front.filter (IsPart ·), n, ?_, hn, ?_⟩, hmade⟩
  · exact checkPath_of_sublist (Path.text_ofText_sublist habsolute) hcheck
  · change Path.partsOf path = _
    rw [← filter_writtenParts, hparts, List.filter_append,
      List.filter_cons_of_pos (by simpa using hvacant.isName.1), List.filter_nil]
  · exact hfollows.filter_isPart hslash

theorem isAbsolute_temporaryPath {parent : Path} (h : parent.isAbsolute = true)
    (beginning name : Text) :
    (Path.ofText (temporaryPath parent beginning name)).isAbsolute = true := by
  rw [← parent.ofText_text, Path.isAbsolute_ofText_iff] at h
  have hhead (rest : Text) : (parent.text ++ rest).head? = some '/' := by
    rw [List.head?_append, h, Option.some_or]
  rw [Path.isAbsolute_ofText_iff, temporaryPath]
  split
  · next hlast => exact hlast
  · split
    · exact hhead _
    · exact hhead _

theorem exists_reserved_of_makeTemporary {parent : Path} (hparent : parent.isAbsolute = true)
    {beginning : Text} {names : List Text} {p : Path}
    (h : fs.makeTemporary parent beginning names = (.ok p, fs')) :
    ∃ l name, fs.Reserved p l name ∧ fs' = fs.insert (l ++ [name]) (.directory {}) := by
  obtain ⟨name, _, rfl, hmake⟩ := exists_makeDirectory_of_makeTemporary h
  exact exists_reserved_of_makeDirectory (isAbsolute_temporaryPath hparent beginning name) hmake

end FileSystem

end ScopedShell
