import ScopedShell.Proofs.FileSystem.Canonical
import ScopedShell.Proofs.FileSystem.Listing

/-!
# Growing file systems

`Grows fs fs'` says that `fs'` comes from `fs` by making empty directories, one after the other,
each under a name that is vacant at that moment. Whatever is in `fs` is in `fs'` as it was
(`Grows.node?_eq_some`), listings only get longer at their end (`Grows.namesIn_prefix`), and what is
new was an empty directory when it was made (`Grows.exists_moment`).

A walk that leads somewhere keeps leading there (`Grows.walk_eq_ok`), so every call that was
answered by something that is there is answered so again: `Grows.locate_eq_ok`,
`Grows.isDirectory_eq_true`, `Grows.listing_prefix`, `Grows.isLink_eq`, and a canonical path stays
the same (`Grows.canonicalize_eq_ok`). A call that was refused may come to be answered.
-/

namespace ScopedShell

namespace FileSystem

/-- A name under which a directory can be made at a location. -/
structure Vacant (fs : FileSystem) (l : Location) (name : Text) : Prop where
  searchable : fs.Searchable l
  isName : IsName name
  fitsName : FitsName name
  noNull : '\x00' ∉ name
  node?_eq_none : fs.node? (l ++ [name]) = none

/-- Empty directories are made, one after the other. -/
inductive Grows (fs : FileSystem) : FileSystem → Prop
  | refl : Grows fs fs
  | made {fs' : FileSystem} {l : Location} {name : Text} (h : Grows fs fs')
      (hvacant : fs'.Vacant l name) : Grows fs (fs'.insert (l ++ [name]) (.directory {}))

variable {fs fs' fs'' : FileSystem}

/-! ## One new directory -/

section Vacant

variable {l : Location} {name : Text} (h : fs.Vacant l name) (node : Node)

include h

theorem Vacant.entries_insert :
    (fs.insert (l ++ [name]) node).entries = fs.entries ++ [(l ++ [name], node)] := by
  obtain ⟨denied, hparent, _⟩ := h.searchable
  have hnames : ∀ part ∈ l ++ [name], IsName part := by
    rw [List.forall_mem_append]
    exact ⟨fs.isName_of_mem _ (node?_eq_some_iff.1 hparent), by simpa using h.isName⟩
  have hdirectory : fs.isDirectoryAt (l ++ [name]).dropLast = true := by
    rw [List.dropLast_concat]
    exact h.searchable.isDirectoryAt
  rw [insert, dif_pos ⟨by simp, h.node?_eq_none, hdirectory, hnames⟩]

theorem Vacant.node?_insert (l' : Location) :
    (fs.insert (l ++ [name]) node).node? l' =
      if l' = l ++ [name] then some node else fs.node? l' := by
  rw [node?, h.entries_insert, List.lookup_append]
  by_cases heq : l' = l ++ [name]
  · have hnone : fs.entries.lookup l' = none := heq ▸ h.node?_eq_none
    simp [heq ▸ hnone, heq]
  · rw [if_neg heq, List.lookup_cons, beq_eq_false_iff_ne.2 heq]
    exact Option.or_none

theorem Vacant.node?_made : (fs.insert (l ++ [name]) node).node? (l ++ [name]) = some node := by
  rw [h.node?_insert, if_pos rfl]

theorem Vacant.namesIn_insert (directory : Location) :
    (fs.insert (l ++ [name]) node).namesIn directory =
      fs.namesIn directory ++ (nameIn? directory (l ++ [name])).toList := by
  rw [namesIn, h.entries_insert, List.filterMap_append]
  congr 1

end Vacant

theorem isSome_node?_of_append {l rest : Location} (h : (fs.node? (l ++ rest)).isSome = true) :
    (fs.node? l).isSome = true := by
  induction rest generalizing l with
  | nil => simpa using h
  | cons name rest ih =>
    rw [← List.singleton_append, ← List.append_assoc] at h
    simpa using isSome_node?_dropLast (ih h)

theorem namesIn_eq_nil_of_node?_eq_none {l : Location} (h : fs.node? l = none) :
    fs.namesIn l = [] := by
  rw [List.eq_nil_iff_forall_not_mem]
  intro name hname
  have hsome := isSome_node?_of_append (mem_namesIn_iff.1 hname)
  rw [h] at hsome
  cases hsome

theorem Vacant.namesIn_made {l : Location} {name : Text} (h : fs.Vacant l name) (node : Node) :
    (fs.insert (l ++ [name]) node).namesIn (l ++ [name]) = [] := by
  rw [h.namesIn_insert, namesIn_eq_nil_of_node?_eq_none h.node?_eq_none, List.nil_append]
  cases hname : nameIn? (l ++ [name]) (l ++ [name]) with
  | none => rfl
  | some other => simpa using nameIn?_eq_some_iff.1 hname

/-! ## What stays and what is new -/

theorem Grows.trans (h : fs.Grows fs') (h' : fs'.Grows fs'') : fs.Grows fs'' := by
  induction h' with
  | refl => exact h
  | made _ hvacant ih => exact .made ih hvacant

theorem Grows.processDirectory_eq (h : fs.Grows fs') :
    fs'.processDirectory = fs.processDirectory := by
  induction h with
  | refl => rfl
  | made _ _ ih => rw [processDirectory_insert, ih]

theorem Grows.node?_eq_some (h : fs.Grows fs') {l : Location} {node : Node}
    (hnode : fs.node? l = some node) : fs'.node? l = some node := by
  induction h with
  | refl => exact hnode
  | @made fs' parent name _ hvacant ih =>
    have hother : l ≠ parent ++ [name] := by
      rintro rfl
      rw [hvacant.node?_eq_none] at ih
      cases ih
    rw [hvacant.node?_insert, if_neg hother, ih]

theorem Grows.node?_eq_none (h : fs.Grows fs') {l : Location} (hnode : fs'.node? l = none) :
    fs.node? l = none := by
  cases hold : fs.node? l with
  | none => rfl
  | some node =>
    rw [h.node?_eq_some hold] at hnode
    cases hnode

theorem Grows.namesIn_prefix (h : fs.Grows fs') (l : Location) :
    fs.namesIn l <+: fs'.namesIn l := by
  induction h with
  | refl => exact List.prefix_refl _
  | made _ hvacant ih =>
    rw [hvacant.namesIn_insert]
    exact ih.trans (List.prefix_append _ _)

/-- What is new is a directory, and there is a moment at which it was made and was empty. -/
theorem Grows.exists_moment (h : fs.Grows fs') {l : Location} {node : Node}
    (hold : fs.node? l = none) (hnew : fs'.node? l = some node) :
    node = .directory {} ∧ ∃ before : FileSystem, fs.Grows before ∧ before.node? l = none ∧
      (before.insert l (.directory {})).namesIn l = [] ∧
      (before.insert l (.directory {})).Grows fs' := by
  induction h with
  | refl =>
    rw [hold] at hnew
    cases hnew
  | @made fs' parent name hgrows hvacant ih =>
    rw [hvacant.node?_insert] at hnew
    split at hnew
    · next heq =>
      subst heq
      exact ⟨(Option.some.inj hnew).symm, fs', hgrows, hvacant.node?_eq_none,
        hvacant.namesIn_made _, .refl⟩
    · obtain ⟨hnode, before, hfront, hbefore, hempty, hafter⟩ := ih hnew
      exact ⟨hnode, before, hfront, hbefore, hempty, .made hafter hvacant⟩

/-! ## Walks keep leading where they lead -/

theorem Grows.isDirectoryAt (h : fs.Grows fs') {l : Location} (hl : fs.isDirectoryAt l = true) :
    fs'.isDirectoryAt l = true := by
  obtain ⟨denied, hnode⟩ := isDirectoryAt_iff_exists_denied.1 hl
  exact isDirectoryAt_iff_exists_denied.2 ⟨denied, h.node?_eq_some hnode⟩

theorem Grows.searchable (h : fs.Grows fs') {l : Location} (hl : fs.Searchable l) :
    fs'.Searchable l := by
  obtain ⟨denied, hnode, hsearching⟩ := hl
  exact ⟨denied, h.node?_eq_some hnode, hsearching⟩

theorem Grows.follows (h : fs.Grows fs') {n : Nat} {l l' : Location} {parts : List Text}
    (hfollows : fs.Follows n l parts l') : fs'.Follows n l parts l' := by
  induction hfollows with
  | done => exact .done
  | slash hl _ ih => exact .slash (h.isDirectoryAt hl) ih
  | stay hl _ ih => exact .stay (h.searchable hl) ih
  | up hl _ ih => exact .up (h.searchable hl) ih
  | enter hl hfits hnode hlink _ ih =>
    exact .enter (h.searchable hl) hfits (h.node?_eq_some hnode) hlink ih
  | jump hl hfits hnode _ ih => exact .jump (h.searchable hl) hfits (h.node?_eq_some hnode) ih

theorem Grows.walkWith_eq_ok (h : fs.Grows fs') {followLast : Bool}
    {jump jump' : Location → List Text → Except Refusal Location}
    (hjump : ∀ l parts l', jump l parts = .ok l' → jump' l parts = .ok l') {parts : List Text}
    {l l' : Location} (hwalk : fs.walkWith followLast jump l parts = .ok l') :
    fs'.walkWith followLast jump' l parts = .ok l' := by
  induction parts generalizing l with
  | nil => exact hwalk
  | cons part rest ih =>
    rw [walkWith] at hwalk ⊢
    split at hwalk
    · cases hwalk
    · next denied hnode =>
      rw [h.node?_eq_some hnode]
      dsimp only
      -- the checks of the part do not look at the file system, except for the entry it names
      split at hwalk
      · next hpart => rw [if_pos hpart, ih hwalk]
      · next hpart =>
        rw [if_neg hpart]
        split at hwalk
        · cases hwalk
        · next hsearching =>
          rw [if_neg hsearching]
          split at hwalk
          · cases hwalk
          · next hsize =>
            rw [if_neg hsize]
            split at hwalk
            · next hdot => rw [if_pos hdot, ih hwalk]
            · next hdot =>
              rw [if_neg hdot]
              split at hwalk
              · next hparent => rw [if_pos hparent, ih hwalk]
              · next hparent =>
                rw [if_neg hparent]
                split at hwalk
                · cases hwalk
                · next target htarget =>
                  rw [h.node?_eq_some htarget]
                  dsimp only
                  split at hwalk
                  · next hlast => rw [if_pos hlast, hwalk]
                  · next hlast => rw [if_neg hlast, hjump _ _ _ hwalk]
                · next node hnotLink hentry =>
                  rw [h.node?_eq_some hentry]
                  cases node with
                  | link target => exact (hnotLink target rfl).elim
                  | directory denied => exact ih hwalk
                  | file content denied => exact ih hwalk
    · cases hwalk

theorem Grows.walk_eq_ok (h : fs.Grows fs') {followLast : Bool} {links : Nat} {parts : List Text}
    {l l' : Location} (hwalk : fs.walk followLast links l parts = .ok l') :
    fs'.walk followLast links l parts = .ok l' := by
  induction links generalizing l parts l' with
  | zero => exact h.walkWith_eq_ok (fun _ _ _ h => by cases h) hwalk
  | succ links ih => exact h.walkWith_eq_ok (fun _ _ _ hjump => ih hjump) hwalk

/-- A way that leads somewhere also does if the last link on it is not followed. -/
theorem Follows.exists_walk_false {n links : Nat} {l l' : Location} {parts : List Text}
    (h : fs.Follows n l parts l') (hn : n ≤ links) :
    ∃ l'', fs.walk false links l parts = .ok l'' := by
  induction h generalizing links with
  | done => exact ⟨_, by rw [walk_eq_walkWith]; rfl⟩
  | slash hl _ ih => rw [walk_eq_walkWith, walkWith_slash hl, ← walk_eq_walkWith]; exact ih hn
  | stay hl _ ih => rw [walk_eq_walkWith, walkWith_stay hl, ← walk_eq_walkWith]; exact ih hn
  | up hl _ ih => rw [walk_eq_walkWith, walkWith_up hl, ← walk_eq_walkWith]; exact ih hn
  | @enter n l l' name node rest hl hfits hnode hlink _ ih =>
    rw [walk_eq_walkWith, walkWith_name hl (isName_of_node? hnode) hfits, hnode]
    cases node with
    | link target => cases hlink
    | directory denied => exact @walk_eq_walkWith fs false links ▸ ih hn
    | file content denied => exact @walk_eq_walkWith fs false links ▸ ih hn
  | @jump n l l' name target rest hl hfits hnode _ ih =>
    rw [walk_eq_walkWith, walkWith_name hl (isName_of_node? hnode) hfits, hnode]
    cases rest with
    | nil => exact ⟨_, rfl⟩
    | cons next rest =>
      cases links with
      | zero => exact absurd hn (Nat.not_succ_le_zero _)
      | succ links => exact ih (Nat.le_of_succ_le_succ hn)

/-! ## Calls that are answered stay answered -/

theorem Grows.locate_eq_ok (h : fs.Grows fs') {followLast : Bool} {path : Text} {l : Location}
    (hlocate : fs.locate followLast path = .ok l) : fs'.locate followLast path = .ok l := by
  obtain ⟨_, hcheck, hwalk⟩ := bind_eq_ok_iff.1 hlocate
  rw [← h.processDirectory_eq] at hwalk
  exact bind_eq_ok_iff.2 ⟨_, hcheck, h.walk_eq_ok hwalk⟩

theorem Grows.linkStatus_eq_ok (h : fs.Grows fs') {path : Text} {node : Node}
    (hstatus : fs.linkStatus path = .ok node) : fs'.linkStatus path = .ok node := by
  obtain ⟨l, hlocate, hnode⟩ := linkStatus_eq_ok_iff.1 hstatus
  exact linkStatus_eq_ok_iff.2 ⟨l, h.locate_eq_ok hlocate, h.node?_eq_some hnode⟩

theorem Grows.isDirectory_eq_true (h : fs.Grows fs') {path : Text}
    (hdirectory : fs.isDirectory path = .ok true) : fs'.isDirectory path = .ok true := by
  obtain ⟨l, hlocate, hl⟩ := isDirectory_eq_true_iff.1 hdirectory
  exact isDirectory_eq_true_iff.2 ⟨l, h.locate_eq_ok hlocate, h.isDirectoryAt hl⟩

/-- A listing gets longer at its end only, and one that was refused counts as empty. -/
theorem Grows.listing_prefix (h : fs.Grows fs') (p : Path) : fs.listing p <+: fs'.listing p := by
  rw [listing]
  cases hlist : fs.list p.text with
  | error why => exact List.nil_prefix
  | ok names =>
    obtain ⟨l, denied, hlocate, hnode, hreading, rfl⟩ := list_eq_ok_iff.1 hlist
    have hlater : fs'.list p.text = .ok (fs'.namesIn l) := list_eq_ok_iff.2
      ⟨l, denied, h.locate_eq_ok hlocate, h.node?_eq_some hnode, hreading, rfl⟩
    rw [listing, hlater]
    exact h.namesIn_prefix l

theorem exists_linkStatus_of_isDirectory {path : Text} (h : fs.isDirectory path = .ok true) :
    ∃ node, fs.linkStatus path = .ok node := by
  obtain ⟨l, hlocate, _⟩ := isDirectory_eq_true_iff.1 h
  obtain ⟨_, hcheck, hwalk⟩ := bind_eq_ok_iff.1 hlocate
  obtain ⟨n, hn, hfollows⟩ := walk_eq_ok_iff.1 hwalk
  obtain ⟨l', hwalk'⟩ := hfollows.exists_walk_false hn
  have hlocate' : fs.locate false path = .ok l' := bind_eq_ok_iff.2 ⟨_, hcheck, hwalk'⟩
  obtain ⟨node, hnode⟩ := Option.isSome_iff_exists.1 (isSome_node?_of_locate hlocate')
  exact ⟨node, linkStatus_eq_ok_iff.2 ⟨l', hlocate', hnode⟩⟩

theorem Grows.isLink_eq (h : fs.Grows fs') {path : Text}
    (hdirectory : fs.isDirectory path = .ok true) : fs'.isLink path = fs.isLink path := by
  obtain ⟨node, hstatus⟩ := exists_linkStatus_of_isDirectory hdirectory
  rw [isLink, isLink, hstatus, h.linkStatus_eq_ok hstatus]

/-! ## Canonical paths stay the same -/

section Resolving

variable {memo : Memo} {l : Location}

theorem Grows.meets (h : fs.Grows fs') {name target : Text} {before : Option (Option Location)}
    (hmeets : fs.Meets memo l name target before) : fs'.Meets memo l name target before :=
  ⟨hmeets.isName, h.linkStatus_eq_ok hmeets.linkStatus_eq, hmeets.lookup_eq⟩

theorem Grows.moves (h : fs.Grows fs') {l' : Location} {parts parts' : List Text}
    (hmove : fs.Moves memo l parts l' parts') : fs'.Moves memo l parts l' parts' := by
  cases hmove with
  | stay hpart => exact .stay hpart
  | up => exact .up
  | enter hname hnode hlink => exact .enter hname (h.linkStatus_eq_ok hnode) hlink
  | known hmeets => exact .known (h.meets hmeets)

/-- A resolution that ends at a location meets nothing on its way that was refused. -/
theorem Grows.resolves (h : fs.Grows fs') {parts : List Text}
    {outcome : Except Refused (Location × Memo)} (hresolves : fs.Resolves memo l parts outcome)
    {found : Location × Memo} (hfound : outcome = .ok found) :
    fs'.Resolves memo l parts outcome := by
  induction hresolves generalizing found with
  | done => exact .done
  | move hmove _ ih => exact .move (h.moves hmove) (ih hfound)
  | refused _ _ => cases hfound
  | loop _ _ => cases hfound
  | lost _ _ _ => cases hfound
  | jump hmeets _ _ ihtarget ih => exact .jump (h.meets hmeets) (ihtarget rfl) (ih hfound)

theorem Grows.canonicalize_eq_ok (h : fs.Grows fs') {scope p c : Path}
    (hc : fs.canonicalize scope p = .ok c) : fs'.canonicalize scope p = .ok c := by
  obtain ⟨l, memo, hresolves, rfl⟩ := exists_resolves_of_canonicalize hc
  apply canonicalize_of_resolve_eq_ok
  rw [resolve_of_resolves (h.resolves hresolves rfl)]
  rfl

end Resolving

end FileSystem

end ScopedShell
