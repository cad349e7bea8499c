import ScopedShell.Proofs.FileSystem.Following
import ScopedShell.Proofs.Outcome

/-!
# What an absolute path names

A call on an absolute path checks its text and follows its parts from the root (`locate_text`).
From there the calls that look at a path are described by where it leads: `status_eq_ok_iff`,
`isDirectory_eq_true_iff`, `list_eq_ok_iff`. A name added to a path that leads somewhere is looked
up there (`locate_child`), so what a child names is decided by its entry.
-/

namespace ScopedShell

namespace FileSystem

variable {fs : FileSystem}

theorem checkPath_eq_ok_iff {path : Text} :
    checkPath path = .ok () ↔ '\x00' ∉ path ∧ Text.utf8Size path ≤ pathLimit := by
  rw [checkPath]
  split
  · next h => simp [h]
  · next h =>
    split
    · next hlong => simp [Nat.not_le.2 hlong]
    · next hshort => simpa [h] using hshort

theorem checkPath_mono {front path : Text} (hfront : front <+: path)
    (h : checkPath path = .ok ()) : checkPath front = .ok () := by
  obtain ⟨rest, rfl⟩ := hfront
  obtain ⟨hnull, hsize⟩ := checkPath_eq_ok_iff.1 h
  rw [Text.utf8Size_append] at hsize
  exact checkPath_eq_ok_iff.2
    ⟨fun hmem => hnull (List.mem_append_left _ hmem), Nat.le_trans (Nat.le_add_right _ _) hsize⟩

theorem walk_append_of_forall_eq_nil {followLast : Bool} {links : Nat} {empties parts : List Text}
    (h : ∀ part ∈ empties, part = []) :
    fs.walk followLast links [] (empties ++ parts) = fs.walk followLast links [] parts := by
  induction empties with
  | nil => rfl
  | cons part empties ih =>
    rw [List.forall_mem_cons] at h
    rw [List.cons_append, h.1, walk_eq_walkWith, walkWith_slash fs.isDirectoryAt_root,
      ← walk_eq_walkWith, ih h.2]

/-- An absolute path begins at the root, wherever it is met. -/
theorem targetStart_text {p : Path} (h : p.isAbsolute = true) (l : Location) :
    targetStart l p.text = [] := by
  rw [← Path.ofText_text p, Path.isAbsolute_ofText_iff] at h
  exact if_pos h

theorem locate_text {followLast : Bool} {p : Path} (h : p.isAbsolute = true) :
    fs.locate followLast p.text =
      (checkPath p.text >>= fun _ => fs.walk followLast linkLimit [] p.parts) := by
  obtain ⟨empties, hempties, hsplit⟩ := Path.split_text h
  rw [locate, targetStart_text h, hsplit]
  congr 1
  funext _
  exact walk_append_of_forall_eq_nil hempties

theorem locate_text_eq_ok_iff {p : Path} (h : p.isAbsolute = true) {l : Location} :
    fs.locate true p.text = .ok l ↔
      checkPath p.text = .ok () ∧ ∃ n, n ≤ linkLimit ∧ fs.Follows n [] p.parts l := by
  rw [locate_text h, bind_eq_ok_iff]
  simp only [walk_eq_ok_iff]
  constructor
  · rintro ⟨_, hcheck, hfollows⟩
    exact ⟨hcheck, hfollows⟩
  · rintro ⟨hcheck, hfollows⟩
    exact ⟨(), hcheck, hfollows⟩

/-! ## Questions about a path -/

theorem isSome_node?_of_locate {followLast : Bool} {path : Text} {l : Location}
    (h : fs.locate followLast path = .ok l) : (fs.node? l).isSome = true := by
  obtain ⟨_, _, hwalk⟩ := bind_eq_ok_iff.1 h
  obtain ⟨part, rest, hsplit⟩ := List.exists_cons_of_ne_nil (Text.split_ne_nil (· == '/') path)
  rw [hsplit] at hwalk
  exact isSome_node?_of_walk (isSome_node?_of_walk_cons hwalk) hwalk

theorem status_eq_ok_iff {path : Text} {node : Node} :
    fs.status path = .ok node ↔ ∃ l, fs.locate true path = .ok l ∧ fs.node? l = some node := by
  rw [status, bind_eq_ok_iff]
  apply exists_congr
  intro l
  apply and_congr_right
  intro _
  cases fs.node? l with
  | none => simp
  | some other => simp

theorem linkStatus_eq_ok_iff {path : Text} {node : Node} :
    fs.linkStatus path = .ok node ↔
      ∃ l, fs.locate false path = .ok l ∧ fs.node? l = some node := by
  rw [linkStatus, bind_eq_ok_iff]
  apply exists_congr
  intro l
  apply and_congr_right
  intro _
  cases fs.node? l with
  | none => simp
  | some other => simp

theorem answer_eq_true_iff {question : Node → Bool} {asked : Except Refusal Node} :
    answer question asked = .ok true ↔ ∃ node, asked = .ok node ∧ question node = true := by
  cases asked with
  | error why =>
    rw [answer]
    split <;> simp
  | ok node => simp [answer]

theorem isDirectory_eq_true_iff {path : Text} :
    fs.isDirectory path = .ok true ↔
      ∃ l, fs.locate true path = .ok l ∧ fs.isDirectoryAt l = true := by
  rw [isDirectory, answer_eq_true_iff]
  simp only [status_eq_ok_iff, isDirectoryAt, Option.any_eq_true]
  constructor
  · rintro ⟨node, ⟨l, hlocate, hnode⟩, hdirectory⟩
    exact ⟨l, hlocate, node, hnode, hdirectory⟩
  · rintro ⟨l, hlocate, node, hnode, hdirectory⟩
    exact ⟨node, ⟨l, hlocate, hnode⟩, hdirectory⟩

theorem list_eq_ok_iff {path : Text} {names : List Text} :
    fs.list path = .ok names ↔ ∃ l denied, fs.locate true path = .ok l ∧
      fs.node? l = some (.directory denied) ∧ denied.reading = false ∧ names = fs.namesIn l := by
  rw [list, bind_eq_ok_iff]
  constructor
  · rintro ⟨l, hlocate, h⟩
    split at h
    · next denied hnode =>
      split at h
      · cases h
      · next hreading =>
        exact ⟨l, denied, hlocate, hnode, by simpa using hreading, (Except.ok.inj h).symm⟩
    · cases h
  · rintro ⟨l, denied, hlocate, hnode, hreading, rfl⟩
    refine ⟨l, hlocate, ?_⟩
    rw [hnode]
    simp [hreading]

/-! ## Children -/

/-- A name added to a path that leads somewhere is looked up there. -/
theorem locate_child {followLast : Bool} {p : Path} (h : p.isAbsolute = true) {name : Text}
    (hname : IsPart name) {n : Nat} {l : Location} (hn : n ≤ linkLimit)
    (hfollows : fs.Follows n [] p.parts l) :
    fs.locate followLast (p.child name).text =
      (checkPath (p.child name).text >>= fun _ => fs.walk followLast (linkLimit - n) l [name]) := by
  rw [locate_text (Path.isAbsolute_child h name), Path.parts_child p hname]
  congr 1
  funext _
  exact walk_append (List.cons_ne_nil _ _) hfollows hn

theorem locate_child_of_directory {p : Path} (h : p.isAbsolute = true) {name : Text} {n : Nat}
    {l : Location} (hn : n ≤ linkLimit) (hfollows : fs.Follows n [] p.parts l)
    (hl : fs.Searchable l) (hcheck : checkPath (p.child name).text = .ok ())
    (hfits : FitsName name) (hdirectory : fs.isDirectoryAt (l ++ [name]) = true) :
    fs.Follows n [] (p.child name).parts (l ++ [name]) ∧
      fs.isDirectory (p.child name).text = .ok true ∧
        fs.isLink (p.child name).text = .ok false := by
  obtain ⟨denied, hnode⟩ := isDirectoryAt_iff_exists_denied.1 hdirectory
  have hname := isName_of_node? hnode
  have hchild : fs.Follows n [] (p.child name).parts (l ++ [name]) := by
    rw [Path.parts_child p hname.1]
    exact hfollows.append (.enter hl hfits hnode rfl .done)
  refine ⟨hchild, isDirectory_eq_true_iff.2 ⟨_, ?_, hdirectory⟩, ?_⟩
  · exact (locate_text_eq_ok_iff (Path.isAbsolute_child h name)).2 ⟨hcheck, n, hn, hchild⟩
  · have hlink : fs.linkStatus (p.child name).text = .ok (.directory denied) := by
      refine linkStatus_eq_ok_iff.2 ⟨l ++ [name], ?_, hnode⟩
      rw [locate_child h hname.1 hn hfollows, hcheck]
      exact (walk_name_eq_ok_iff hname).2 ⟨hl, hfits, by simp [hnode], rfl⟩
    rw [isLink, hlink]
    rfl

theorem directory_or_link_of_child {p : Path} (h : p.isAbsolute = true) {name : Text} {n : Nat}
    {l : Location} (hn : n ≤ linkLimit) (hfollows : fs.Follows n [] p.parts l) {node : Node}
    (hnode : fs.node? (l ++ [name]) = some node)
    (hdirectory : fs.isDirectory (p.child name).text = .ok true) :
    fs.Searchable l ∧ FitsName name ∧ checkPath (p.child name).text = .ok () ∧
      (fs.isLink (p.child name).text = .ok true ∧ node.isLink = true ∨
        fs.isDirectoryAt (l ++ [name]) = true) := by
  have hname := isName_of_node? hnode
  have habsolute := Path.isAbsolute_child h name
  obtain ⟨l', hlocate, hl'⟩ := isDirectory_eq_true_iff.1 hdirectory
  obtain ⟨hcheck, m, _, hchild⟩ := (locate_text_eq_ok_iff habsolute).1 hlocate
  rw [Path.parts_child p hname.1] at hchild
  obtain ⟨_, k, mid, _, hp, hlast⟩ := follows_append_iff.1 hchild
  obtain ⟨_, rfl⟩ := hp.unique hfollows
  obtain ⟨hsearchable, hfits, hcases⟩ := (follows_name_iff hname).1 hlast
  refine ⟨hsearchable, hfits, hcheck, ?_⟩
  rcases hcases with ⟨_, _, _, hdone⟩ | ⟨target, _, _, htarget, _⟩
  · obtain ⟨_, rfl⟩ := follows_nil_iff.1 hdone
    exact Or.inr hl'
  · obtain rfl : Node.link target = node := Option.some.inj (htarget.symm.trans hnode)
    refine Or.inl ⟨?_, rfl⟩
    have hlink : fs.linkStatus (p.child name).text = .ok (.link target) := by
      refine linkStatus_eq_ok_iff.2 ⟨mid ++ [name], ?_, hnode⟩
      rw [locate_child h hname.1 hn hfollows, hcheck]
      exact (walk_name_eq_ok_iff hname).2 ⟨hsearchable, hfits, by simp [hnode], rfl⟩
    rw [isLink, hlink]
    rfl

end FileSystem

end ScopedShell
