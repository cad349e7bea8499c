import ScopedShell.Directory
import ScopedShell.Proofs.FileSystem.Counting
import ScopedShell.Proofs.FileSystem.Resolution

/-!
# Canonical paths

Every resolution comes to an end (`Sound.exists_resolves`): each link that is being resolved is an
entry whose resolution was not in progress before, and there are fewer and fewer of them. For the
same reason the bound on the links in progress is never met (`Resolves.resolveWithin_eq`), so what
is known of resolutions without a bound holds of canonical paths.
-/

namespace ScopedShell

namespace FileSystem

variable {fs : FileSystem} {memo memo' : Memo} {l l' : Location} {name target : Text}
  {parts parts' rest : List Text} {outcome : Except Refused (Location × Memo)}

/-! ## Every resolution ends -/

def countIdle (fs : FileSystem) (memo : Memo) : Nat :=
  fs.entries.countP fun entry => memo.lookup entry.1 ≠ some none

theorem countIdle_le (fs : FileSystem) (memo : Memo) : fs.countIdle memo ≤ fs.entries.length :=
  List.countP_le_length

theorem countIdle_inner_lt (hmeets : fs.Meets memo l name target none) (hl : fs.Plain l) :
    fs.countIdle ((l ++ [name], none) :: memo) < fs.countIdle memo := by
  refine countP_lt_countP (fun entry _ hentry => ?_) (node?_eq_some_iff.1 (hmeets.node? hl))
    (by simp [hmeets.lookup_eq]) (by simp)
  rw [decide_eq_true_iff] at hentry ⊢
  intro hmemo
  by_cases hsame : entry.1 = l ++ [name]
  · exact hentry (lookup_cons_eq_iff.2 (Or.inl ⟨hsame, rfl⟩))
  · exact hentry (lookup_cons_eq_iff.2 (Or.inr ⟨hsame, hmemo⟩))

/-- After the resolution of a link the same entries are not in progress as before. -/
theorem countIdle_back (hmeets : fs.Meets memo l name target none)
    (hlands : fs.Lands ((l ++ [name], none) :: memo) (targetStart l target)
      (Text.split (· == '/') target) l' memo') :
    fs.countIdle ((l ++ [name], some l') :: memo') = fs.countIdle memo :=
  List.countP_congr fun entry _ => by simp [hlands.inProgress_cons_iff hmeets]

/-- What resolving does with the next part: it gets past it, or a call is refused, or it meets a
link that is in progress, or it meets a new one. -/
theorem Sound.next_part {part : Text} (h : fs.Sound memo l (part :: rest)) :
    (∃ l', fs.Moves memo l (part :: rest) l' rest) ∨
      (IsName part ∧ ∃ why, fs.linkStatus (spelledLocation (l ++ [part])) = .error why) ∨
      (∃ target, fs.Meets memo l part target (some none)) ∨
      ∃ target, fs.Meets memo l part target none := by
  by_cases hstay : part = [] ∨ part = ['.']
  · exact Or.inl ⟨l, .stay hstay⟩
  by_cases hup : part = parentPart
  · subst hup
    exact Or.inl ⟨l.dropLast, .up⟩
  rw [not_or] at hstay
  have hname : IsName part := ⟨⟨hstay.1, hstay.2, h.noSlash part List.mem_cons_self⟩, hup⟩
  cases hstatus : fs.linkStatus (spelledLocation (l ++ [part])) with
  | error why => exact Or.inr (Or.inl ⟨hname, why, rfl⟩)
  | ok node =>
    cases node with
    | directory denied => exact Or.inl ⟨_, .enter hname hstatus rfl⟩
    | file content denied => exact Or.inl ⟨_, .enter hname hstatus rfl⟩
    | link target =>
      cases hmemo : memo.lookup (l ++ [part]) with
      | none => exact Or.inr (Or.inr (Or.inr ⟨target, hname, hstatus, hmemo⟩))
      | some before =>
        cases before with
        | none => exact Or.inr (Or.inr (Or.inl ⟨target, hname, hstatus, hmemo⟩))
        | some l' => exact Or.inl ⟨l', .known ⟨hname, hstatus, hmemo⟩⟩

theorem Sound.exists_resolves (h : fs.Sound memo l parts) :
    ∃ outcome, fs.Resolves memo l parts outcome := by
  -- targets have fewer idle entries than before, and the parts behind a link are fewer
  induction hcount : fs.countIdle memo using Nat.strongRecOn generalizing memo l parts with
  | ind count ih =>
    induction parts generalizing memo l with
    | nil => exact ⟨_, .done⟩
    | cons part rest ihrest =>
      rcases h.next_part with
        ⟨l', hmove⟩ | ⟨hname, why, hwhy⟩ | ⟨target, hmeets⟩ | ⟨target, hmeets⟩
      · obtain ⟨outcome, hrest⟩ := ihrest (h.move hmove) hcount
        exact ⟨outcome, .move hmove hrest⟩
      · exact ⟨_, .refused hname hwhy⟩
      · obtain ⟨why, hwhy⟩ := h.exists_status_error hmeets
        exact ⟨_, .loop hmeets hwhy⟩
      · have hless := countIdle_inner_lt hmeets h.plain
        obtain ⟨inner, htarget⟩ := ih _ (hcount ▸ hless) (h.inner hmeets) rfl
        cases inner with
        | error refused => exact ⟨_, .lost hmeets htarget⟩
        | ok result =>
          have hlands := htarget.lands (h.inner hmeets) rfl
          have hback := countIdle_back hmeets hlands
          obtain ⟨outcome, hrest⟩ := ihrest (h.back hmeets hlands) (hback.trans hcount)
          exact ⟨outcome, .jump hmeets htarget hrest⟩

/-! ## The bound on the links in progress -/

/-- What resolving does with the target of a link when a number of links may be in progress. -/
def deeperWithin (fs : FileSystem) :
    Nat → Memo → Location → List Text → Except Refused (Location × Memo)
  | 0, _, l, _ => .error ⟨.tooManyLinks, spelledLocation l⟩
  | depth + 1, memo, l, parts => fs.resolveWithin depth memo l parts

theorem resolveWithin_eq_resolveWith (depth : Nat) :
    fs.resolveWithin depth = fs.resolveWith (fs.deeperWithin depth) := by
  cases depth <;> rfl

variable {deeper : Memo → Location → List Text → Except Refused (Location × Memo)}

theorem resolveWith_refused (hname : IsName name) {why : Refusal}
    (h : fs.linkStatus (spelledLocation (l ++ [name])) = .error why) :
    fs.resolveWith deeper memo l (name :: rest) = .error ⟨why, spelledLocation (l ++ [name])⟩ := by
  simp [resolveWith, hname.1.1, hname.1.2.1, hname.2, h]

theorem resolveWith_loop (hmeets : fs.Meets memo l name target (some none)) {why : Refusal}
    (h : fs.status (spelledLocation (l ++ [name])) = .error why) :
    fs.resolveWith deeper memo l (name :: rest) = .error ⟨why, spelledLocation (l ++ [name])⟩ := by
  obtain ⟨hname, hstatus, hlookup⟩ := hmeets
  simp [resolveWith, hname.1.1, hname.1.2.1, hname.2, hstatus, hlookup, h]

theorem resolveWith_lost (hmeets : fs.Meets memo l name target none) {refused : Refused}
    (h : deeper ((l ++ [name], none) :: memo) (targetStart l target)
      (Text.split (· == '/') target) =
      .error refused) : fs.resolveWith deeper memo l (name :: rest) = .error refused := by
  obtain ⟨hname, hstatus, hlookup⟩ := hmeets
  simp [resolveWith, hname.1.1, hname.1.2.1, hname.2, hstatus, hlookup, h]

theorem resolveWith_jump (hmeets : fs.Meets memo l name target none)
    (h : deeper ((l ++ [name], none) :: memo) (targetStart l target)
      (Text.split (· == '/') target) =
      .ok (l', memo')) :
    fs.resolveWith deeper memo l (name :: rest) =
      fs.resolveWith deeper ((l ++ [name], some l') :: memo') l' rest := by
  obtain ⟨hname, hstatus, hlookup⟩ := hmeets
  simp [resolveWith, hname.1.1, hname.1.2.1, hname.2, hstatus, hlookup, h]

theorem resolveWith_move (hmove : fs.Moves memo l parts l' parts') :
    fs.resolveWith deeper memo l parts = fs.resolveWith deeper memo l' parts' := by
  cases hmove with
  | stay hpart => rw [resolveWith, if_pos hpart]
  | up => rw [resolveWith, if_neg (by decide), if_pos rfl]
  | @enter name node rest hname hnode hlink =>
    cases node with
    | link target => cases hlink
    | directory denied => simp [resolveWith, hname.1.1, hname.1.2.1, hname.2, hnode]
    | file content denied => simp [resolveWith, hname.1.1, hname.1.2.1, hname.2, hnode]
  | known hmeets =>
    obtain ⟨hname, hstatus, hlookup⟩ := hmeets
    simp [resolveWith, hname.1.1, hname.1.2.1, hname.2, hstatus, hlookup]

/-- The bound does not matter where it is not less than the number of idle entries. -/
theorem Resolves.resolveWithin_eq (h : fs.Resolves memo l parts outcome)
    (hsound : fs.Sound memo l parts) {depth : Nat} (hdepth : fs.countIdle memo ≤ depth) :
    fs.resolveWithin depth memo l parts = outcome := by
  induction h generalizing depth with
  | done =>
    rw [resolveWithin_eq_resolveWith]
    rfl
  | move hmove h ih =>
    rw [resolveWithin_eq_resolveWith, resolveWith_move hmove, ← resolveWithin_eq_resolveWith]
    exact ih (hsound.move hmove) hdepth
  | refused hname h => rw [resolveWithin_eq_resolveWith, resolveWith_refused hname h]
  | loop hmeets h => rw [resolveWithin_eq_resolveWith, resolveWith_loop hmeets h]
  | lost hmeets h ih =>
    have hless := countIdle_inner_lt hmeets hsound.plain
    obtain ⟨depth, rfl⟩ := Nat.exists_eq_succ_of_ne_zero (by omega : depth ≠ 0)
    rw [resolveWithin_eq_resolveWith]
    apply resolveWith_lost hmeets
    exact ih (hsound.inner hmeets) (by omega)
  | jump hmeets htarget h ihtarget ih =>
    have hless := countIdle_inner_lt hmeets hsound.plain
    have hlands := htarget.lands (hsound.inner hmeets) rfl
    have hback := countIdle_back hmeets hlands
    obtain ⟨depth, rfl⟩ := Nat.exists_eq_succ_of_ne_zero (by omega : depth ≠ 0)
    have hinner := ihtarget (hsound.inner hmeets) (by omega : _ ≤ depth)
    have hrest := ih (hsound.back hmeets hlands) (by omega : _ ≤ depth + 1)
    exact (resolveWith_jump hmeets hinner).trans hrest

/-- Resolving a path comes to an end, and its bound plays no part in it. -/
theorem exists_resolve_eq (fs : FileSystem) (path : Text) :
    ∃ outcome, fs.Resolves [] [] (Text.split (· == '/') path) outcome ∧
      fs.resolve path = outcome.map Prod.fst := by
  have hsound := fs.sound_start (noSlash_split path)
  obtain ⟨outcome, houtcome⟩ := hsound.exists_resolves
  refine ⟨outcome, houtcome, ?_⟩
  rw [resolve, houtcome.resolveWithin_eq hsound (fs.countIdle_le [])]

theorem resolve_of_resolves {path : Text}
    (h : fs.Resolves [] [] (Text.split (· == '/') path) outcome) :
    fs.resolve path = outcome.map Prod.fst := by
  rw [resolve, h.resolveWithin_eq (fs.sound_start (noSlash_split path)) (fs.countIdle_le [])]

/-! ## Canonical paths -/

/-- An absolute path without dots that exists; no call finds a link on it or anything but
directories before its end, it leads where it says, and it is its own canonical path. -/
structure IsCanonical (fs : FileSystem) (c : Path) : Prop where
  isAbsolute : c.isAbsolute = true
  noDots : ['.'] ∉ c.parts ∧ parentPart ∉ c.parts
  pathExists_eq : fs.pathExists c.text = .ok true
  locate_eq : fs.locate true c.text = .ok c.parts
  linkStatus_front : ∀ front rest, c.parts = front ++ rest →
    ∃ node, fs.linkStatus (spelledLocation front) = .ok node ∧ node.isLink = false ∧
      (rest ≠ [] → node.isDirectory = true)
  canonicalize_eq : ∀ scope, fs.canonicalize scope c = .ok c

theorem canonicalize_of_resolve_eq_ok {scope p : Path}
    (h : fs.resolve (scope.join p).text = .ok l) :
    fs.canonicalize scope p = .ok (Path.ofText (spelledLocation l)) := by
  rw [canonicalize, h]

theorem canonicalize_of_resolve_eq_error {scope p : Path} {refused : Refused}
    (h : fs.resolve (scope.join p).text = .error refused) :
    fs.canonicalize scope p =
      .error (if refused.why ∈ [Refusal.missing, .notDirectory, .tooManyLinks]
        then .notFound (scope.join p) else .refused refused) := by
  rw [canonicalize, h]
  obtain ⟨why, path⟩ := refused
  cases why <;> rfl

theorem Plain.resolves {names : List Text} (h : fs.Plain (l ++ names)) :
    fs.Resolves memo l names (.ok (l ++ names, memo)) := by
  induction names generalizing l with
  | nil =>
    rw [List.append_nil]
    exact .done
  | cons name names ih =>
    rw [← List.singleton_append, ← List.append_assoc] at h ⊢
    have hnext := h.of_append
    obtain ⟨hl, hsearchable, hfits, hcheck, node, hnode, hlink⟩ :=
      plain_append_singleton_iff.1 hnext
    have hname := isName_of_node? hnode
    refine .move (.enter hname ?_ hlink) (ih h)
    exact (linkStatus_spelledLocation_iff hl hname).2 ⟨hcheck, hsearchable, hfits, hnode⟩

theorem resolves_append_of_forall_eq_nil {empties : List Text} (h : ∀ part ∈ empties, part = [])
    (hparts : fs.Resolves memo l parts outcome) :
    fs.Resolves memo l (empties ++ parts) outcome := by
  induction empties with
  | nil => exact hparts
  | cons part empties ih =>
    rw [List.forall_mem_cons] at h
    exact .move (.stay (Or.inl h.1)) (ih h.2)

theorem Plain.isCanonical (h : fs.Plain l) : fs.IsCanonical (Path.ofText (spelledLocation l)) := by
  have hparts := parts_ofText_spelledLocation h.isPart
  have htext := text_ofText_spelledLocation h.isPart
  have habsolute := isAbsolute_ofText_spelledLocation h.isPart
  refine ⟨habsolute, ?_, ?_, ?_, fun front rest hfront => ?_, fun scope => ?_⟩
  · rw [hparts]
    exact ⟨fun hdot => not_isName_dot (h.isName _ hdot),
      fun hparent => not_isName_parentPart (h.isName _ hparent)⟩
  · obtain ⟨node, hnode, _⟩ := h.node?
    have hstatus : fs.status (spelledLocation l) = .ok node :=
      status_eq_ok_iff.2 ⟨l, h.locate, hnode⟩
    rw [htext, pathExists, hstatus]
    rfl
  · rw [htext, hparts]
    exact h.locate
  · rw [hparts] at hfront
    subst hfront
    obtain ⟨node, hstatus, hnode, hlink⟩ := h.of_append.linkStatus
    refine ⟨node, hstatus, hlink, fun hrest => ?_⟩
    obtain ⟨name, rest, rfl⟩ := List.exists_cons_of_ne_nil hrest
    rw [← List.singleton_append, ← List.append_assoc] at h
    obtain ⟨_, ⟨denied, hdirectory, _⟩, _⟩ := plain_append_singleton_iff.1 h.of_append
    rw [hnode] at hdirectory
    cases hdirectory
    rfl
  · obtain ⟨empties, hempties, hsplit⟩ := Path.split_text habsolute
    have hresolves :
        fs.Resolves [] [] (Text.split (· == '/') (spelledLocation l)) (.ok (l, [])) := by
      rw [← htext, hsplit, hparts]
      exact resolves_append_of_forall_eq_nil hempties (Plain.resolves (l := []) h)
    apply canonicalize_of_resolve_eq_ok
    rw [Path.join_of_isAbsolute habsolute, htext, resolve_of_resolves hresolves]
    rfl

theorem eq_tooLong_or_nullCharacter_of_checkPath {path : Text} {why : Refusal}
    (h : checkPath path = .error why) : why = .nullCharacter ∨ why = .tooLong := by
  rw [checkPath] at h
  split at h
  · exact Or.inl (Except.error.inj h).symm
  · split at h
    · exact Or.inr (Except.error.inj h).symm
    · cases h

/-! ## What resolving a path comes to -/

theorem exists_resolves_of_canonicalize {scope p c : Path} (h : fs.canonicalize scope p = .ok c) :
    ∃ l memo, fs.Resolves [] [] (Text.split (· == '/') (scope.join p).text) (.ok (l, memo)) ∧
      c = Path.ofText (spelledLocation l) := by
  obtain ⟨outcome, hresolves, hresolve⟩ := fs.exists_resolve_eq (scope.join p).text
  cases outcome with
  | ok result =>
    rw [canonicalize_of_resolve_eq_ok hresolve] at h
    exact ⟨result.1, result.2, hresolves, (Except.ok.inj h).symm⟩
  | error refused =>
    rw [canonicalize_of_resolve_eq_error hresolve] at h
    cases h

theorem isCanonical_of_canonicalize {scope p c : Path} (h : fs.canonicalize scope p = .ok c) :
    fs.IsCanonical c := by
  obtain ⟨l, memo, hresolves, rfl⟩ := exists_resolves_of_canonicalize h
  have hlands := hresolves.lands (fs.sound_start (noSlash_split _)) rfl
  exact hlands.plain.isCanonical

/-- Where the system can follow a path, its canonical path leads to the same place, unless a call is
turned down for the path of an entry on the way. -/
theorem canonicalize_of_walk {scope p : Path} {links : Nat}
    (h : fs.walk true links [] (Text.split (· == '/') (scope.join p).text) = .ok l) :
    (∃ c, fs.canonicalize scope p = .ok c ∧ fs.locate true c.text = .ok l) ∨
      ∃ q node why, fs.LooksAt (Text.split (· == '/') (scope.join p).text) q ∧
        fs.node? q = some node ∧ checkPath (spelledLocation q) = .error why ∧
        fs.canonicalize scope p = .error (.refused ⟨why, spelledLocation q⟩) := by
  have hslash := noSlash_split (scope.join p).text
  obtain ⟨n, _, hfollows⟩ := walk_eq_ok_iff.1 h
  obtain ⟨outcome, hresolves, hresolve⟩ := fs.exists_resolve_eq (scope.join p).text
  rcases hresolves.complete .start hslash hfollows with
    ⟨memo, rfl⟩ | ⟨q, node, why, hlooks, hnode, hcheck, rfl⟩
  · have hlands := hresolves.lands (fs.sound_start hslash) rfl
    refine Or.inl ⟨_, canonicalize_of_resolve_eq_ok hresolve, ?_⟩
    rw [text_ofText_spelledLocation hlands.plain.isPart]
    exact hlands.plain.locate
  · refine Or.inr ⟨q, node, why, hlooks, hnode, hcheck, ?_⟩
    rw [canonicalize_of_resolve_eq_error hresolve]
    rcases eq_tooLong_or_nullCharacter_of_checkPath hcheck with rfl | rfl <;> rfl

/-- Where there is no canonical path, a call was refused for the path of a location looked at. -/
theorem exists_call_of_canonicalize {scope p : Path} {fault : Fault}
    (h : fs.canonicalize scope p = .error fault) :
    ∃ q why, fs.LooksAt (Text.split (· == '/') (scope.join p).text) q ∧
      (fs.linkStatus (spelledLocation q) = .error why ∨
        fs.status (spelledLocation q) = .error why) ∧
      fault = if why ∈ [Refusal.missing, .notDirectory, .tooManyLinks]
        then .notFound (scope.join p) else .refused ⟨why, spelledLocation q⟩ := by
  obtain ⟨outcome, hresolves, hresolve⟩ := fs.exists_resolve_eq (scope.join p).text
  cases outcome with
  | ok result =>
    rw [canonicalize_of_resolve_eq_ok hresolve] at h
    cases h
  | error refused =>
    rw [canonicalize_of_resolve_eq_error hresolve] at h
    obtain ⟨q, hlooks, hpath, hcall⟩ := hresolves.exists_call .start rfl
    refine ⟨q, refused.why, hlooks, hcall, ?_⟩
    rw [← hpath]
    exact (Except.error.inj h).symm

theorem why_of_locate {followLast : Bool} {path : Text} {why : Refusal}
    (h : fs.locate followLast path = .error why) : why ∈ Refusal.nullCharacter :: walkRefusals := by
  rw [locate] at h
  cases hcheck : checkPath path with
  | error refusal =>
    rw [hcheck] at h
    obtain rfl : refusal = why := Except.error.inj h
    rcases eq_tooLong_or_nullCharacter_of_checkPath hcheck with rfl | rfl
    · decide
    · decide
  | ok _ =>
    rw [hcheck] at h
    exact List.mem_cons_of_mem _ (why_of_walk h)

theorem why_of_status {path : Text} {why : Refusal}
    (h : fs.status path = .error why ∨ fs.linkStatus path = .error why) :
    why ∈ Refusal.nullCharacter :: walkRefusals := by
  -- a path that is located names something, so only locating it can have been refused
  have hnode : ∀ {followLast : Bool} {l : Location}, fs.locate followLast path = .ok l →
      ∃ node, fs.node? l = some node :=
    fun hlocate => Option.isSome_iff_exists.1 (isSome_node?_of_locate hlocate)
  rcases h with h | h
  · cases hlocate : fs.locate true path with
    | error refusal =>
      rw [status, hlocate] at h
      exact Except.error.inj h ▸ why_of_locate hlocate
    | ok l =>
      obtain ⟨node, hnode⟩ := hnode hlocate
      rw [status_eq_ok_iff.2 ⟨l, hlocate, hnode⟩] at h
      cases h
  · cases hlocate : fs.locate false path with
    | error refusal =>
      rw [linkStatus, hlocate] at h
      exact Except.error.inj h ▸ why_of_locate hlocate
    | ok l =>
      obtain ⟨node, hnode⟩ := hnode hlocate
      rw [linkStatus_eq_ok_iff.2 ⟨l, hlocate, hnode⟩] at h
      cases h

/-- A refusal that does not mean absence or a loop comes out as it is, and there are three of
them. -/
theorem why_of_canonicalize {scope p : Path} {refused : Refused}
    (h : fs.canonicalize scope p = .error (.refused refused)) :
    refused.why = .denied ∨ refused.why = .tooLong ∨ refused.why = .nullCharacter := by
  obtain ⟨q, why, _, hcall, hfault⟩ := exists_call_of_canonicalize h
  have hwhy := why_of_status hcall.symm
  split at hfault
  · cases hfault
  · next hloud =>
    obtain rfl := Fault.refused.inj hfault
    simp only [walkRefusals, List.mem_cons, List.not_mem_nil, or_false] at hwhy hloud
    rcases hwhy with rfl | rfl | rfl | rfl | rfl | rfl
    all_goals simp_all

theorem canonicalize_of_inProgress {scope p : Path}
    (hpasses : fs.Passes (Text.split (· == '/') (scope.join p).text) memo l (name :: rest))
    (hmeets : fs.Meets memo l name target (some none)) :
    ∃ why, fs.status (spelledLocation (l ++ [name])) = .error why ∧
      fs.canonicalize scope p = .error (if why ∈ [Refusal.missing, .notDirectory, .tooManyLinks]
        then .notFound (scope.join p) else .refused ⟨why, spelledLocation (l ++ [name])⟩) := by
  obtain ⟨why, hwhy⟩ := (hpasses.sound (noSlash_split _)).exists_status_error hmeets
  have herror := hpasses.resolves_error (.loop hmeets hwhy)
  exact ⟨why, hwhy, canonicalize_of_resolve_eq_error (resolve_of_resolves herror)⟩

/-- Resolving a path comes to an end, however many links it meets. What it comes to is canonical.
Where the system can follow the path, with any number of links, it comes to the same place, unless
the path of an entry that it looks at is not accepted by any call. It fails with what a call on
such a location is refused for, and says that nothing was found where that means absence or a loop;
it always fails at a link that turns up in its own resolution. -/
theorem canonicalize_spec (fs : FileSystem) (scope p : Path) :
    let start := Text.split (· == '/') (scope.join p).text
    (∃ outcome, fs.Resolves [] [] start outcome ∧
      fs.resolve (scope.join p).text = outcome.map Prod.fst) ∧
    (∀ c, fs.canonicalize scope p = .ok c → fs.IsCanonical c) ∧
    (∀ links l, fs.walk true links [] start = .ok l →
      (∃ c, fs.canonicalize scope p = .ok c ∧ fs.locate true c.text = .ok l) ∨
      ∃ q node why, fs.LooksAt start q ∧ fs.node? q = some node ∧
        checkPath (spelledLocation q) = .error why ∧
        fs.canonicalize scope p = .error (.refused ⟨why, spelledLocation q⟩)) ∧
    (∀ fault, fs.canonicalize scope p = .error fault → ∃ q why, fs.LooksAt start q ∧
      (fs.linkStatus (spelledLocation q) = .error why ∨
        fs.status (spelledLocation q) = .error why) ∧
      fault = if why ∈ [Refusal.missing, .notDirectory, .tooManyLinks]
        then .notFound (scope.join p) else .refused ⟨why, spelledLocation q⟩) ∧
    (∀ memo l name target rest, fs.Passes start memo l (name :: rest) →
      fs.Meets memo l name target (some none) →
      ∃ why, fs.status (spelledLocation (l ++ [name])) = .error why ∧
        fs.canonicalize scope p = .error (if why ∈ [Refusal.missing, .notDirectory, .tooManyLinks]
          then .notFound (scope.join p) else .refused ⟨why, spelledLocation (l ++ [name])⟩)) := by
  refine ⟨fs.exists_resolve_eq _, ?_, ?_, ?_, ?_⟩
  · intro c hc
    exact isCanonical_of_canonicalize hc
  · intro links l hwalk
    exact canonicalize_of_walk hwalk
  · intro fault hfault
    exact exists_call_of_canonicalize hfault
  · intro memo l name target rest hpasses hmeets
    exact canonicalize_of_inProgress hpasses hmeets

end FileSystem

end ScopedShell
