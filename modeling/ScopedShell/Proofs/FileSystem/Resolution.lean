import ScopedShell.Proofs.FileSystem.Plain

/-!
# Resolving without a bound

`Resolves fs memo l parts outcome` says what resolving the parts from `l` comes to, where the memo
holds the links met before. It has no bound on the links in progress, and no outcome for a link that
turns up in its own resolution although it has a status: there is none
(`Sound.exists_status_error`).

What is known at every state of a resolution is `Sound`: it stands at a plain location, the links
resolved so far are resolved right, and wherever the target of a link in progress can be followed,
the parts that are left can be followed with no more links. A state that can be followed is resolved
to the same place (`Resolves.lands`, `Resolves.complete`).
-/

namespace ScopedShell

namespace FileSystem

/-- The next part is a link, and the memo says whether it was met before. -/
structure Meets (fs : FileSystem) (memo : Memo) (l : Location) (name target : Text)
    (before : Option (Option Location)) : Prop where
  isName : IsName name
  linkStatus_eq : fs.linkStatus (spelledLocation (l ++ [name])) = .ok (.link target)
  lookup_eq : memo.lookup (l ++ [name]) = before

/-- Resolving gets past the next part without resolving a link. -/
inductive Moves (fs : FileSystem) (memo : Memo) :
    Location → List Text → Location → List Text → Prop
  | stay {l : Location} {part : Text} {rest : List Text} (hpart : part = [] ∨ part = ['.']) :
      Moves fs memo l (part :: rest) l rest
  | up {l : Location} {rest : List Text} : Moves fs memo l (parentPart :: rest) l.dropLast rest
  | enter {l : Location} {name : Text} {node : Node} {rest : List Text} (hname : IsName name)
      (hnode : fs.linkStatus (spelledLocation (l ++ [name])) = .ok node)
      (hlink : node.isLink = false) : Moves fs memo l (name :: rest) (l ++ [name]) rest
  | known {l l' : Location} {name target : Text} {rest : List Text}
      (hmeets : fs.Meets memo l name target (some (some l'))) :
      Moves fs memo l (name :: rest) l' rest

/-- What resolving parts from a location comes to when the memo holds the links met before. -/
inductive Resolves (fs : FileSystem) :
    Memo → Location → List Text → Except Refused (Location × Memo) → Prop
  | done {memo : Memo} {l : Location} : Resolves fs memo l [] (.ok (l, memo))
  | move {memo : Memo} {l l' : Location} {parts parts' : List Text}
      {outcome : Except Refused (Location × Memo)} (hmove : fs.Moves memo l parts l' parts')
      (h : Resolves fs memo l' parts' outcome) : Resolves fs memo l parts outcome
  | refused {memo : Memo} {l : Location} {name : Text} {rest : List Text} {why : Refusal}
      (hname : IsName name) (h : fs.linkStatus (spelledLocation (l ++ [name])) = .error why) :
      Resolves fs memo l (name :: rest) (.error ⟨why, spelledLocation (l ++ [name])⟩)
  | loop {memo : Memo} {l : Location} {name target : Text} {rest : List Text} {why : Refusal}
      (hmeets : fs.Meets memo l name target (some none))
      (h : fs.status (spelledLocation (l ++ [name])) = .error why) :
      Resolves fs memo l (name :: rest) (.error ⟨why, spelledLocation (l ++ [name])⟩)
  | lost {memo : Memo} {l : Location} {name target : Text} {rest : List Text} {refused : Refused}
      (hmeets : fs.Meets memo l name target none)
      (h : Resolves fs ((l ++ [name], none) :: memo) (targetStart l target)
        (Text.split (· == '/') target) (.error refused)) :
      Resolves fs memo l (name :: rest) (.error refused)
  | jump {memo memo' : Memo} {l l' : Location} {name target : Text} {rest : List Text}
      {outcome : Except Refused (Location × Memo)} (hmeets : fs.Meets memo l name target none)
      (htarget : Resolves fs ((l ++ [name], none) :: memo) (targetStart l target)
        (Text.split (· == '/') target) (.ok (l', memo')))
      (h : Resolves fs ((l ++ [name], some l') :: memo') l' rest outcome) :
      Resolves fs memo l (name :: rest) outcome

/-- The states that a resolution from the root comes through. -/
inductive Passes (fs : FileSystem) (start : List Text) : Memo → Location → List Text → Prop
  | start : Passes fs start [] [] start
  | move {memo : Memo} {l l' : Location} {parts parts' : List Text}
      (h : Passes fs start memo l parts) (hmove : fs.Moves memo l parts l' parts') :
      Passes fs start memo l' parts'
  | inner {memo : Memo} {l : Location} {name target : Text} {rest : List Text}
      (h : Passes fs start memo l (name :: rest)) (hmeets : fs.Meets memo l name target none) :
      Passes fs start ((l ++ [name], none) :: memo) (targetStart l target)
        (Text.split (· == '/') target)
  | back {memo memo' : Memo} {l l' : Location} {name target : Text} {rest : List Text}
      (h : Passes fs start memo l (name :: rest)) (hmeets : fs.Meets memo l name target none)
      (htarget : fs.Resolves ((l ++ [name], none) :: memo) (targetStart l target)
        (Text.split (· == '/') target) (.ok (l', memo'))) :
      Passes fs start ((l ++ [name], some l') :: memo') l' rest

/-- A location that a resolution from the root looks at. -/
def LooksAt (fs : FileSystem) (start : List Text) (q : Location) : Prop :=
  ∃ memo l name rest, fs.Passes start memo l (name :: rest) ∧ IsName name ∧ q = l ++ [name]

/-- The links that the memo holds as resolved are plain where they lead, and lead there. -/
def Knows (fs : FileSystem) (memo : Memo) : Prop :=
  ∀ q l', memo.lookup q = some (some l') → fs.Plain l' ∧
    ∀ target n mid, fs.node? q = some (.link target) →
      fs.Follows n (targetStart q.dropLast target) (Text.split (· == '/') target) mid → mid = l'

/-- Wherever the target of a link in progress can be followed, the parts can be followed with no
more links. -/
def Continues (fs : FileSystem) (memo : Memo) (l : Location) (parts : List Text) : Prop :=
  ∀ q, memo.lookup q = some none → ∀ target n mid, fs.node? q = some (.link target) →
    fs.Follows n (targetStart q.dropLast target) (Text.split (· == '/') target) mid →
      ∃ k ≤ n, ∃ l', fs.Follows k l parts l'

/-- What is known at every state of a resolution. -/
structure Sound (fs : FileSystem) (memo : Memo) (l : Location) (parts : List Text) : Prop where
  plain : fs.Plain l
  noSlash : ∀ part ∈ parts, '/' ∉ part
  knows : fs.Knows memo
  continues : fs.Continues memo l parts

/-- What is known where resolving has come to an end. -/
structure Lands (fs : FileSystem) (memo : Memo) (l : Location) (parts : List Text) (l' : Location)
    (memo' : Memo) : Prop where
  plain : fs.Plain l'
  knows : fs.Knows memo'
  agrees : ∀ n mid, fs.Follows n l parts mid → mid = l'
  inProgress_iff : ∀ q, memo'.lookup q = some none ↔ memo.lookup q = some none

variable {fs : FileSystem} {memo memo' : Memo} {l l' : Location} {parts parts' : List Text}

theorem lookup_cons_eq_iff {q q' : Location} {seen : Option Location}
    {before : Option (Option Location)} :
    ((q, seen) :: memo).lookup q' = before ↔
      (q' = q ∧ before = some seen) ∨ (q' ≠ q ∧ memo.lookup q' = before) := by
  rw [List.lookup_cons]
  by_cases h : q' = q
  · simp [h, eq_comm]
  · simp [h, beq_eq_false_iff_ne.2 h]

theorem noSlash_split (t : Text) : ∀ part ∈ Text.split (· == '/') t, '/' ∉ part := by
  intro part hpart hslash
  cases Text.not_isSeparator_of_mem_split hpart hslash

theorem sound_start (fs : FileSystem) {parts : List Text} (h : ∀ part ∈ parts, '/' ∉ part) :
    fs.Sound [] [] parts where
  plain := fs.plain_root
  noSlash := h
  knows := fun _ _ h => by cases h
  continues := fun _ h => by cases h

theorem Meets.node? {name target : Text} {before : Option (Option Location)}
    (h : fs.Meets memo l name target before) (hl : fs.Plain l) :
    fs.node? (l ++ [name]) = some (.link target) :=
  ((linkStatus_spelledLocation_iff hl h.isName).1 h.linkStatus_eq).2.2.2

/-! ## One step of a resolution -/

theorem Moves.follows (hmove : fs.Moves memo l parts l' parts') (hl : fs.Plain l)
    (hknows : fs.Knows memo) {n : Nat} {mid : Location} (h : fs.Follows n l parts mid) :
    ∃ k ≤ n, fs.Follows k l' parts' mid := by
  cases hmove with
  | stay hpart =>
    rcases hpart with rfl | rfl
    · exact ⟨n, Nat.le_refl n, (follows_slash_iff.1 h).2⟩
    · exact ⟨n, Nat.le_refl n, (follows_stay_iff.1 h).2⟩
  | up => exact ⟨n, Nat.le_refl n, (follows_up_iff.1 h).2⟩
  | enter hname hnode hlink =>
    obtain ⟨_, _, _, hnode⟩ := (linkStatus_spelledLocation_iff hl hname).1 hnode
    obtain ⟨_, _, ⟨_, _, _, hrest⟩ | ⟨_, _, _, hnode', _⟩⟩ := (follows_name_iff hname).1 h
    · exact ⟨n, Nat.le_refl n, hrest⟩
    · rw [hnode] at hnode'
      cases hnode'
      cases hlink
  | known hmeets =>
    have hnode := hmeets.node? hl
    obtain ⟨_, _, m, k, mid', rfl, htarget, hrest⟩ := (follows_link_iff hnode).1 h
    have hmid : mid' = l' := by
      refine (hknows _ _ hmeets.lookup_eq).2 _ m mid' hnode ?_
      rw [List.dropLast_concat]
      exact htarget
    exact ⟨k, by omega, hmid ▸ hrest⟩

theorem Moves.subset (hmove : fs.Moves memo l parts l' parts') : parts' ⊆ parts := by
  cases hmove <;> exact List.subset_cons_self _ _

theorem Moves.plain (hmove : fs.Moves memo l parts l' parts') (hl : fs.Plain l)
    (hknows : fs.Knows memo) : fs.Plain l' := by
  cases hmove with
  | stay _ => exact hl
  | up => exact hl.dropLast
  | enter hname hnode hlink =>
    obtain ⟨hcheck, hsearchable, hfits, hnode⟩ := (linkStatus_spelledLocation_iff hl hname).1 hnode
    exact plain_append_singleton_iff.2 ⟨hl, hsearchable, hfits, hcheck, _, hnode, hlink⟩
  | known hmeets => exact (hknows _ _ hmeets.lookup_eq).1

theorem Sound.move (h : fs.Sound memo l parts) (hmove : fs.Moves memo l parts l' parts') :
    fs.Sound memo l' parts' where
  plain := hmove.plain h.plain h.knows
  noSlash := fun part hpart => h.noSlash part (hmove.subset hpart)
  knows := h.knows
  continues := by
    intro q hq target n mid hnode htarget
    obtain ⟨k, hk, mid', hfollows⟩ := h.continues q hq target n mid hnode htarget
    obtain ⟨i, hi, hfollows'⟩ := hmove.follows h.plain h.knows hfollows
    exact ⟨i, Nat.le_trans hi hk, mid', hfollows'⟩

variable {name target : Text} {rest : List Text}

theorem Sound.inner (h : fs.Sound memo l (name :: rest))
    (hmeets : fs.Meets memo l name target none) :
    fs.Sound ((l ++ [name], none) :: memo) (targetStart l target)
      (Text.split (· == '/') target) where
  plain := by
    rw [targetStart]
    split
    · exact fs.plain_root
    · exact h.plain
  noSlash := noSlash_split target
  knows := by
    intro q l' hq
    rcases lookup_cons_eq_iff.1 hq with ⟨_, hnone⟩ | ⟨_, hq⟩
    · cases hnone
    · exact h.knows q l' hq
  continues := by
    intro q hq target' n mid hnode htarget
    have hlink := hmeets.node? h.plain
    rcases lookup_cons_eq_iff.1 hq with ⟨rfl, _⟩ | ⟨_, hq⟩
    · rw [hlink] at hnode
      cases hnode
      rw [List.dropLast_concat] at htarget
      exact ⟨n, Nat.le_refl n, mid, htarget⟩
    · obtain ⟨k, hk, _, hfollows⟩ := h.continues q hq target' n mid hnode htarget
      obtain ⟨_, _, m, i, mid', rfl, htarget', _⟩ := (follows_link_iff hlink).1 hfollows
      exact ⟨m, by omega, mid', htarget'⟩

/-- After the resolution of a target the links in progress are those from before. -/
theorem Lands.inProgress_cons_iff (hmeets : fs.Meets memo l name target none)
    (hlands : fs.Lands ((l ++ [name], none) :: memo) (targetStart l target)
      (Text.split (· == '/') target) l' memo') (q : Location) :
    ((l ++ [name], some l') :: memo').lookup q = some none ↔ memo.lookup q = some none := by
  rw [lookup_cons_eq_iff, hlands.inProgress_iff q, lookup_cons_eq_iff]
  by_cases hq : q = l ++ [name]
  · subst hq
    simp [hmeets.lookup_eq]
  · simp [hq]

theorem Sound.back (h : fs.Sound memo l (name :: rest)) (hmeets : fs.Meets memo l name target none)
    (hlands : fs.Lands ((l ++ [name], none) :: memo) (targetStart l target)
      (Text.split (· == '/') target) l' memo') :
    fs.Sound ((l ++ [name], some l') :: memo') l' rest where
  plain := hlands.plain
  noSlash := fun part hpart => h.noSlash part (List.mem_cons_of_mem _ hpart)
  knows := by
    intro q resolved hq
    rcases lookup_cons_eq_iff.1 hq with ⟨rfl, hresolved⟩ | ⟨_, hq⟩
    · obtain rfl : resolved = l' := Option.some.inj (Option.some.inj hresolved)
      refine ⟨hlands.plain, fun target' n mid hnode htarget => ?_⟩
      rw [hmeets.node? h.plain] at hnode
      cases hnode
      rw [List.dropLast_concat] at htarget
      exact hlands.agrees n mid htarget
    · exact hlands.knows q resolved hq
  continues := by
    intro q hq target' n mid hnode htarget
    rw [hlands.inProgress_cons_iff hmeets] at hq
    obtain ⟨k, hk, _, hfollows⟩ := h.continues q hq target' n mid hnode htarget
    obtain ⟨_, _, m, i, mid', rfl, htarget', hrest⟩ :=
      (follows_link_iff (hmeets.node? h.plain)).1 hfollows
    obtain rfl := hlands.agrees m mid' htarget'
    exact ⟨i, by omega, _, hrest⟩

/-! ## Links in progress -/

/-- The target of a link that turns up in its own resolution cannot be followed. -/
theorem Sound.not_follows_of_inProgress (h : fs.Sound memo l (name :: rest))
    (hmeets : fs.Meets memo l name target (some none)) {n : Nat} {mid : Location} :
    ¬ fs.Follows n (targetStart l target) (Text.split (· == '/') target) mid := by
  intro htarget
  have hnode := hmeets.node? h.plain
  have hdirectory : (l ++ [name]).dropLast = l := List.dropLast_concat
  obtain ⟨k, hk, _, hfollows⟩ :=
    h.continues _ hmeets.lookup_eq target n mid hnode (hdirectory.symm ▸ htarget)
  obtain ⟨_, _, m, i, mid', rfl, htarget', _⟩ := (follows_link_iff hnode).1 hfollows
  -- the link itself would have to be passed once more on the way through its target
  obtain ⟨rfl, _⟩ := htarget'.unique htarget
  omega

/-- A link that turns up in its own resolution has no status. -/
theorem Sound.exists_status_error (h : fs.Sound memo l (name :: rest))
    (hmeets : fs.Meets memo l name target (some none)) :
    ∃ why, fs.status (spelledLocation (l ++ [name])) = .error why := by
  cases hstatus : fs.status (spelledLocation (l ++ [name])) with
  | error why => exact ⟨why, rfl⟩
  | ok node =>
    obtain ⟨n, mid, htarget⟩ := exists_follows_of_status h.plain (hmeets.node? h.plain) hstatus
    exact (h.not_follows_of_inProgress hmeets htarget).elim

/-! ## Whole resolutions -/

variable {outcome : Except Refused (Location × Memo)}

/-- Resolving ends at a plain location, where following the parts would end too. -/
theorem Resolves.lands (h : fs.Resolves memo l parts outcome) (hsound : fs.Sound memo l parts)
    (houtcome : outcome = .ok (l', memo')) : fs.Lands memo l parts l' memo' := by
  induction h generalizing l' memo' with
  | done =>
    cases houtcome
    refine ⟨hsound.plain, hsound.knows, fun n mid hfollows => ?_, fun q => Iff.rfl⟩
    exact (follows_nil_iff.1 hfollows).2.symm
  | move hmove h ih =>
    have hlands := ih (hsound.move hmove) houtcome
    refine ⟨hlands.plain, hlands.knows, fun n mid hfollows => ?_, hlands.inProgress_iff⟩
    obtain ⟨k, _, hrest⟩ := hmove.follows hsound.plain hsound.knows hfollows
    exact hlands.agrees k mid hrest
  | refused _ _ => cases houtcome
  | loop _ _ => cases houtcome
  | lost _ _ _ => cases houtcome
  | jump hmeets htarget h ihtarget ih =>
    have hinner := ihtarget (hsound.inner hmeets) rfl
    have hlands := ih (hsound.back hmeets hinner) houtcome
    refine ⟨hlands.plain, hlands.knows, fun n mid hfollows => ?_, fun q => ?_⟩
    · obtain ⟨_, _, m, k, mid', rfl, htarget', hrest⟩ :=
        (follows_link_iff (hmeets.node? hsound.plain)).1 hfollows
      obtain rfl := hinner.agrees m mid' htarget'
      exact hlands.agrees k mid hrest
    · rw [hlands.inProgress_iff q, hinner.inProgress_cons_iff hmeets q]

variable {start : List Text}

theorem Passes.sound (hstart : ∀ part ∈ start, '/' ∉ part)
    (h : fs.Passes start memo l parts) : fs.Sound memo l parts := by
  induction h with
  | start => exact fs.sound_start hstart
  | move _ hmove ih => exact ih.move hmove
  | inner _ hmeets ih => exact ih.inner hmeets
  | back _ hmeets htarget ih => exact ih.back hmeets (htarget.lands (ih.inner hmeets) rfl)

theorem Passes.resolves_error {refused : Refused} (h : fs.Passes start memo l parts)
    (hresolves : fs.Resolves memo l parts (.error refused)) :
    fs.Resolves [] [] start (.error refused) := by
  induction h with
  | start => exact hresolves
  | move _ hmove ih => exact ih (.move hmove hresolves)
  | inner _ hmeets ih => exact ih (.lost hmeets hresolves)
  | back _ hmeets htarget ih => exact ih (.jump hmeets htarget hresolves)

/-- Where the parts can be followed, resolving them ends at the same place, unless a call is turned
down for the path of an entry that it looks at. -/
theorem Resolves.complete (h : fs.Resolves memo l parts outcome)
    (hpasses : fs.Passes start memo l parts) (hstart : ∀ part ∈ start, '/' ∉ part)
    {n : Nat} {mid : Location} (hfollows : fs.Follows n l parts mid) :
    (∃ memo', outcome = .ok (mid, memo')) ∨ ∃ q node why, fs.LooksAt start q ∧
      fs.node? q = some node ∧ checkPath (spelledLocation q) = .error why ∧
      outcome = .error ⟨why, spelledLocation q⟩ := by
  have hsound := hpasses.sound hstart
  induction h generalizing n mid with
  | done =>
    obtain ⟨_, rfl⟩ := follows_nil_iff.1 hfollows
    exact Or.inl ⟨_, rfl⟩
  | move hmove h ih =>
    obtain ⟨k, _, hrest⟩ := hmove.follows hsound.plain hsound.knows hfollows
    exact ih (hpasses.move hmove) hrest (hsound.move hmove)
  | refused hname h =>
    obtain ⟨hsearchable, hfits, node, hnode⟩ := hfollows.exists_node? hname
    have hcheck :=
      linkStatus_spelledLocation_of_searchable hsound.plain hsearchable hfits hnode h
    exact Or.inr ⟨_, node, _, ⟨_, _, _, _, hpasses, hname, rfl⟩, hnode, hcheck, rfl⟩
  | loop hmeets h =>
    obtain ⟨_, _, m, k, mid', _, htarget, _⟩ :=
      (follows_link_iff (hmeets.node? hsound.plain)).1 hfollows
    exact (hsound.not_follows_of_inProgress hmeets htarget).elim
  | lost hmeets h ih =>
    obtain ⟨_, _, m, k, mid', _, htarget, _⟩ :=
      (follows_link_iff (hmeets.node? hsound.plain)).1 hfollows
    rcases ih (hpasses.inner hmeets) htarget (hsound.inner hmeets) with
      ⟨_, hok⟩ | ⟨q, node, why, hlooks, hnode, hcheck, herror⟩
    · cases hok
    · exact Or.inr ⟨q, node, why, hlooks, hnode, hcheck, by rw [Except.error.inj herror]⟩
  | jump hmeets htarget h ihtarget ih =>
    obtain ⟨_, _, m, k, mid', _, htarget', hrest⟩ :=
      (follows_link_iff (hmeets.node? hsound.plain)).1 hfollows
    have hinner := htarget.lands (hsound.inner hmeets) rfl
    obtain rfl := hinner.agrees m mid' htarget'
    exact ih (hpasses.back hmeets htarget) hrest (hsound.back hmeets hinner)

/-- Resolving fails with the refusal of a call on a location that it looks at. -/
theorem Resolves.exists_call (h : fs.Resolves memo l parts outcome)
    (hpasses : fs.Passes start memo l parts) {refused : Refused}
    (houtcome : outcome = .error refused) :
    ∃ q, fs.LooksAt start q ∧ refused.path = spelledLocation q ∧
      (fs.linkStatus (spelledLocation q) = .error refused.why ∨
        fs.status (spelledLocation q) = .error refused.why) := by
  induction h with
  | done => cases houtcome
  | move hmove _ ih => exact ih (hpasses.move hmove) houtcome
  | refused hname h =>
    cases houtcome
    exact ⟨_, ⟨_, _, _, _, hpasses, hname, rfl⟩, rfl, Or.inl h⟩
  | loop hmeets h =>
    cases houtcome
    exact ⟨_, ⟨_, _, _, _, hpasses, hmeets.isName, rfl⟩, rfl, Or.inr h⟩
  | lost hmeets _ ih =>
    cases houtcome
    exact ih (hpasses.inner hmeets) rfl
  | jump hmeets htarget _ _ ih => exact ih (hpasses.back hmeets htarget) houtcome

end FileSystem

end ScopedShell
