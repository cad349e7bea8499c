import ScopedShell.FileSystem.Resolve
import ScopedShell.Proofs.FileSystem.Locating

/-!
# Plain locations

A location is plain when its path, as it is spelled, leads there without a link and is accepted by
every call. What a call says about a name in a plain location is decided by the directory there
(`linkStatus_spelledLocation_iff`), and all that lies on the way to a plain location is plain
(`Plain.of_append`).
-/

namespace ScopedShell

namespace FileSystem

/-- The path of the location leads there without a link. -/
structure Plain (fs : FileSystem) (l : Location) : Prop where
  follows : fs.Follows 0 [] l l
  checkPath_eq : checkPath (spelledLocation l) = .ok ()

variable {fs : FileSystem}

theorem plain_root (fs : FileSystem) : fs.Plain [] :=
  ⟨.done, rfl⟩

/-! ## Spelled locations -/

theorem root_ofText_spelledLocation {l : Location} (h : ∀ name ∈ l, IsPart name) :
    (Path.ofText (spelledLocation l)).root = .single :=
  (Path.root_joinWith h).2.1

theorem parts_ofText_spelledLocation {l : Location} (h : ∀ name ∈ l, IsPart name) :
    (Path.ofText (spelledLocation l)).parts = l :=
  (Path.partsOf_cons_slash _).trans (Path.partsOf_joinWith h)

theorem text_ofText_spelledLocation {l : Location} (h : ∀ name ∈ l, IsPart name) :
    (Path.ofText (spelledLocation l)).text = spelledLocation l := by
  have hroot := root_ofText_spelledLocation h
  rw [Path.text_of_isAbsolute (by rw [Path.isAbsolute, hroot]; rfl), hroot,
    parts_ofText_spelledLocation h]
  rfl

theorem isAbsolute_ofText_spelledLocation {l : Location} (h : ∀ name ∈ l, IsPart name) :
    (Path.ofText (spelledLocation l)).isAbsolute = true := by
  rw [Path.isAbsolute, root_ofText_spelledLocation h]
  rfl

theorem prefix_spelledLocation (l l' : Location) :
    spelledLocation l <+: spelledLocation (l ++ l') :=
  List.cons_prefix_cons.2 ⟨rfl, Path.prefix_joinWith l l'⟩

theorem locate_spelledLocation {followLast : Bool} {l : Location} (h : ∀ name ∈ l, IsPart name) :
    fs.locate followLast (spelledLocation l) =
      (checkPath (spelledLocation l) >>= fun _ => fs.walk followLast linkLimit [] l) := by
  have hlocate := @locate_text fs followLast _ (isAbsolute_ofText_spelledLocation h)
  rwa [text_ofText_spelledLocation h, parts_ofText_spelledLocation h] at hlocate

/-! ## Ways without links -/

theorem isSome_node?_of_follows {n : Nat} {parts : List Text} {l : Location}
    (h : fs.Follows n [] parts l) : (fs.node? l).isSome = true :=
  isSome_node?_of_walk fs.isSome_node?_root (walk_eq_ok_iff.2 ⟨n, Nat.le_refl n, h⟩)

theorem Follows.eq_append {l l' names : List Text} (h : fs.Follows 0 l names l')
    (hnames : ∀ name ∈ names, IsName name) : l' = l ++ names := by
  induction names generalizing l with
  | nil =>
    obtain ⟨_, rfl⟩ := follows_nil_iff.1 h
    exact (List.append_nil l).symm
  | cons name names ih =>
    rw [List.forall_mem_cons] at hnames
    obtain ⟨_, _, ⟨_, _, _, hrest⟩ | ⟨_, _, hzero, _⟩⟩ := (follows_name_iff hnames.1).1 h
    · rw [ih hrest hnames.2, List.append_assoc, List.singleton_append]
    · cases hzero

theorem Plain.isName {l : Location} (h : fs.Plain l) : ∀ name ∈ l, IsName name := by
  obtain ⟨node, hnode⟩ := Option.isSome_iff_exists.1 (isSome_node?_of_follows h.follows)
  exact fs.isName_of_mem _ (node?_eq_some_iff.1 hnode)

theorem Plain.isPart {l : Location} (h : fs.Plain l) : ∀ name ∈ l, IsPart name :=
  fun name hname => (h.isName name hname).1

theorem Plain.split {l l' : Location} (h : fs.Plain (l ++ l')) :
    fs.Plain l ∧ fs.Follows 0 l l' (l ++ l') := by
  obtain ⟨m, k, mid, hzero, hfront, hrest⟩ := follows_append_iff.1 h.follows
  obtain ⟨rfl, rfl⟩ : m = 0 ∧ k = 0 := by omega
  have hnames : ∀ name ∈ l, IsName name :=
    fun name hname => h.isName name (List.mem_append_left _ hname)
  obtain rfl : mid = l := hfront.eq_append hnames
  exact ⟨⟨hfront, checkPath_mono (prefix_spelledLocation mid l') h.checkPath_eq⟩, hrest⟩

theorem Plain.of_append {l l' : Location} (h : fs.Plain (l ++ l')) : fs.Plain l :=
  h.split.1

theorem Plain.dropLast {l : Location} (h : fs.Plain l) : fs.Plain l.dropLast := by
  obtain ⟨rest, hrest⟩ := List.dropLast_prefix l
  rw [← hrest] at h
  exact h.of_append

theorem plain_append_singleton_iff {l : Location} {name : Text} :
    fs.Plain (l ++ [name]) ↔ fs.Plain l ∧ fs.Searchable l ∧ FitsName name ∧
      checkPath (spelledLocation (l ++ [name])) = .ok () ∧
      ∃ node, fs.node? (l ++ [name]) = some node ∧ node.isLink = false := by
  constructor
  · intro h
    obtain ⟨hl, hname⟩ := h.split
    obtain ⟨hsearchable, hfits, ⟨node, hnode, hlink, _⟩ | ⟨_, _, hzero, _⟩⟩ :=
      (follows_name_iff (h.isName name (by simp))).1 hname
    · exact ⟨hl, hsearchable, hfits, h.checkPath_eq, node, hnode, hlink⟩
    · cases hzero
  · rintro ⟨hl, hsearchable, hfits, hcheck, node, hnode, hlink⟩
    exact ⟨hl.follows.append (.enter hsearchable hfits hnode hlink .done), hcheck⟩

theorem Plain.node? {l : Location} (h : fs.Plain l) :
    ∃ node, fs.node? l = some node ∧ node.isLink = false := by
  rcases List.eq_nil_or_concat l with rfl | ⟨front, name, rfl⟩
  · obtain ⟨denied, hnode⟩ := isDirectoryAt_iff_exists_denied.1 fs.isDirectoryAt_root
    exact ⟨_, hnode, rfl⟩
  · rw [List.concat_eq_append] at h ⊢
    obtain ⟨_, _, _, _, hnode⟩ := plain_append_singleton_iff.1 h
    exact hnode

/-! ## Calls on names in a plain location -/

theorem isPart_append_singleton {l : Location} {name : Text} (hl : fs.Plain l)
    (hname : IsName name) : ∀ part ∈ l ++ [name], IsPart part := by
  intro part hpart
  rcases List.mem_append.1 hpart with hpart | hpart
  · exact hl.isPart part hpart
  · exact List.mem_singleton.1 hpart ▸ hname.1

/-- What a name in a plain location is said to be is what lies there. -/
theorem linkStatus_spelledLocation_iff {l : Location} (hl : fs.Plain l) {name : Text}
    (hname : IsName name) {node : Node} :
    fs.linkStatus (spelledLocation (l ++ [name])) = .ok node ↔
      checkPath (spelledLocation (l ++ [name])) = .ok () ∧ fs.Searchable l ∧ FitsName name ∧
        fs.node? (l ++ [name]) = some node := by
  rw [linkStatus_eq_ok_iff, locate_spelledLocation (isPart_append_singleton hl hname)]
  simp only [bind_eq_ok_iff, walk_append (List.cons_ne_nil _ _) hl.follows (Nat.zero_le linkLimit),
    walk_name_eq_ok_iff hname]
  constructor
  · rintro ⟨_, ⟨_, hcheck, hsearchable, hfits, _, rfl⟩, hnode⟩
    exact ⟨hcheck, hsearchable, hfits, hnode⟩
  · rintro ⟨hcheck, hsearchable, hfits, hnode⟩
    exact ⟨_, ⟨(), hcheck, hsearchable, hfits, by simp [hnode], rfl⟩, hnode⟩

/-- What a plain location is said to be is what lies there, and that is no link. -/
theorem Plain.linkStatus {l : Location} (h : fs.Plain l) :
    ∃ node, fs.linkStatus (spelledLocation l) = .ok node ∧ fs.node? l = some node ∧
      node.isLink = false := by
  rcases List.eq_nil_or_concat l with rfl | ⟨front, name, rfl⟩
  · obtain ⟨node, hnode, hlink⟩ := h.node?
    refine ⟨node, linkStatus_eq_ok_iff.2 ⟨[], ?_, hnode⟩, hnode, hlink⟩
    rw [locate_spelledLocation h.isPart, h.checkPath_eq]
    rfl
  · rw [List.concat_eq_append] at h ⊢
    obtain ⟨hfront, hsearchable, hfits, hcheck, node, hnode, hlink⟩ :=
      plain_append_singleton_iff.1 h
    exact ⟨node, (linkStatus_spelledLocation_iff hfront (isName_of_node? hnode)).2
      ⟨hcheck, hsearchable, hfits, hnode⟩, hnode, hlink⟩

theorem Plain.locate {l : Location} (h : fs.Plain l) :
    fs.locate true (spelledLocation l) = .ok l := by
  rw [locate_spelledLocation h.isPart, h.checkPath_eq]
  exact walk_eq_ok_iff.2 ⟨0, Nat.zero_le linkLimit, h.follows⟩

/-- A name that can be looked up is only refused for its path. -/
theorem linkStatus_spelledLocation_of_searchable {l : Location} (hl : fs.Plain l) {name : Text}
    (hsearchable : fs.Searchable l) (hfits : FitsName name) {node : Node}
    (hnode : fs.node? (l ++ [name]) = some node) {why : Refusal}
    (h : fs.linkStatus (spelledLocation (l ++ [name])) = .error why) :
    checkPath (spelledLocation (l ++ [name])) = .error why := by
  cases hcheck : checkPath (spelledLocation (l ++ [name])) with
  | error other =>
    have hparts := isPart_append_singleton hl (isName_of_node? hnode)
    rw [linkStatus, locate_spelledLocation hparts, hcheck] at h
    exact congrArg Except.error (Except.error.inj h)
  | ok _ =>
    have hok := (linkStatus_spelledLocation_iff hl (isName_of_node? hnode)).2
      ⟨hcheck, hsearchable, hfits, hnode⟩
    rw [hok] at h
    cases h

theorem exists_follows_of_status {l : Location} (hl : fs.Plain l) {name target : Text}
    (hnode : fs.node? (l ++ [name]) = some (.link target)) {node : Node}
    (h : fs.status (spelledLocation (l ++ [name])) = .ok node) :
    ∃ n l', fs.Follows n (targetStart l target) (Text.split (· == '/') target) l' := by
  have hname := isName_of_node? hnode
  obtain ⟨l', hlocate, _⟩ := status_eq_ok_iff.1 h
  rw [locate_spelledLocation (isPart_append_singleton hl hname), bind_eq_ok_iff] at hlocate
  obtain ⟨_, _, hwalk⟩ := hlocate
  obtain ⟨_, _, hfollows⟩ := walk_eq_ok_iff.1 hwalk
  obtain ⟨_, _, mid, _, hfront, hlast⟩ := follows_append_iff.1 hfollows
  obtain ⟨_, rfl⟩ := hfront.unique hl.follows
  obtain ⟨_, _, ⟨node, hnode', hlink, _⟩ | ⟨target', n, _, hnode', htarget⟩⟩ :=
    (follows_name_iff hname).1 hlast
  · rw [hnode] at hnode'
    cases hnode'
    cases hlink
  · rw [hnode] at hnode'
    cases hnode'
    rw [List.append_nil] at htarget
    exact ⟨n, l', htarget⟩

end FileSystem

end ScopedShell
