import ScopedShell.Directory
import ScopedShell.Proofs.FileSystem.Locating

/-!
# Listings

A directory is listed with different names, each of which can be a name in a path. `listing` is what
a path lists, or nothing where it cannot be listed, and the children of an absolute path are the
paths of its listing (`outcome_children`). Only a path with a null character has none: the call is
turned down before the system sees it.

Names on the way down from a path have positions in the listings on that way. Ways whose positions
grow lead to different paths (`nodup_map_descend`), and ways put together name by name, in the order
of a listing, are in the order of their positions (`pairwise_positions_through`).
-/

namespace ScopedShell

namespace FileSystem

variable {fs : FileSystem}

theorem isName_of_mem_namesIn {directory : Location} {name : Text}
    (h : name ∈ fs.namesIn directory) : IsName name := by
  obtain ⟨node, hnode⟩ := Option.isSome_iff_exists.1 (mem_namesIn_iff.1 h)
  exact isName_of_node? hnode

theorem nodup_namesIn (fs : FileSystem) (directory : Location) : (fs.namesIn directory).Nodup := by
  have hentries : fs.entries.Pairwise fun a b => a.1 ≠ b.1 := List.pairwise_map.1 fs.nodup
  refine List.Pairwise.filterMap _ (fun a b hne name hname name' hname' heq => ?_) hentries
  rw [nameIn?_eq_some_iff] at hname hname'
  exact hne (hname.trans (heq ▸ hname'.symm))

/-- The names that a path lists, none where it cannot be listed. -/
def listing (fs : FileSystem) (p : Path) : List Text :=
  match fs.list p.text with
  | .ok names => names
  | .error _ => []

theorem mem_listing_iff {p : Path} {name : Text} :
    name ∈ fs.listing p ↔ ∃ names, fs.list p.text = .ok names ∧ name ∈ names := by
  rw [listing]
  cases fs.list p.text with
  | ok names => simp
  | error why => simp

theorem exists_listing_eq (fs : FileSystem) (p : Path) :
    fs.listing p = [] ∨ ∃ l, fs.listing p = fs.namesIn l := by
  rw [listing]
  split
  · next names hlist =>
    obtain ⟨l, _, _, _, _, rfl⟩ := list_eq_ok_iff.1 hlist
    exact Or.inr ⟨l, rfl⟩
  · exact Or.inl rfl

theorem isName_of_mem_listing {p : Path} {name : Text} (h : name ∈ fs.listing p) : IsName name := by
  rcases fs.exists_listing_eq p with heq | ⟨l, heq⟩
  · rw [heq] at h
    cases h
  · exact isName_of_mem_namesIn (heq ▸ h)

theorem nodup_listing (fs : FileSystem) (p : Path) : (fs.listing p).Nodup := by
  rcases fs.exists_listing_eq p with heq | ⟨l, heq⟩
  · rw [heq]
    exact List.nodup_nil
  · exact heq ▸ fs.nodup_namesIn l

theorem listing_of_locate {p : Path} {l : Location} (h : fs.locate true p.text = .ok l) :
    fs.listing p = [] ∨ fs.listing p = fs.namesIn l := by
  rw [listing]
  split
  · next names hlist =>
    obtain ⟨l', _, hlocate, _, _, rfl⟩ := list_eq_ok_iff.1 hlist
    obtain rfl : l' = l := Except.ok.inj (hlocate.symm.trans h)
    exact Or.inr rfl
  · exact Or.inl rfl

theorem exists_node?_of_mem_listing {p : Path} {l : Location}
    (hlocate : fs.locate true p.text = .ok l) {name : Text} (h : name ∈ fs.listing p) :
    ∃ node, fs.node? (l ++ [name]) = some node := by
  rcases listing_of_locate hlocate with hempty | hnames
  · rw [hempty] at h
    cases h
  · rw [hnames, mem_namesIn_iff] at h
    exact Option.isSome_iff_exists.1 h

theorem mem_listing_of_node? {p : Path} {l : Location} (hlocate : fs.locate true p.text = .ok l)
    {denied : Denied} (hl : fs.node? l = some (.directory denied))
    (hreading : denied.reading = false)
    {name : Text} {node : Node} (hnode : fs.node? (l ++ [name]) = some node) :
    name ∈ fs.listing p := by
  refine mem_listing_iff.2 ⟨fs.namesIn l, ?_, ?_⟩
  · exact list_eq_ok_iff.2 ⟨l, denied, hlocate, hl, hreading, rfl⟩
  · rw [mem_namesIn_iff, hnode]
    rfl

/-- A listed child that is found to be a directory is a link, or the directory where it is
listed. -/
theorem isLink_or_isDirectoryAt_of_mem_listing {p : Path} (habsolute : p.isAbsolute = true)
    {n : Nat}
    {l : Location} (hn : n ≤ linkLimit) (hfollows : fs.Follows n [] p.parts l)
    (hcheck : checkPath p.text = .ok ()) {name : Text} (hlisted : name ∈ fs.listing p)
    (hchild : fs.isDirectory (p.child name).text = .ok true) :
    fs.isLink (p.child name).text = .ok true ∨
      (fs.isLink (p.child name).text = .ok false ∧
        fs.Follows n [] (p.child name).parts (l ++ [name]) ∧
        checkPath (p.child name).text = .ok () ∧ fs.isDirectoryAt (l ++ [name]) = true) := by
  have hlocate : fs.locate true p.text = .ok l :=
    (locate_text_eq_ok_iff habsolute).2 ⟨hcheck, n, hn, hfollows⟩
  obtain ⟨node, hnode⟩ := exists_node?_of_mem_listing hlocate hlisted
  obtain ⟨hsearchable, hfits, hcheck', ⟨hlink, _⟩ | hdirectory⟩ :=
    directory_or_link_of_child habsolute hn hfollows hnode hchild
  · exact Or.inl hlink
  · obtain ⟨hfollows', _, hlink⟩ :=
      locate_child_of_directory habsolute hn hfollows hsearchable hcheck' hfits hdirectory
    exact Or.inr ⟨hlink, hfollows', hcheck', hdirectory⟩

/-! ## Positions in listings -/

def positions (fs : FileSystem) : Path → List Text → List Nat
  | _, [] => []
  | d, name :: names => (fs.listing d).idxOf name :: fs.positions (d.child name) names

theorem pairwise_idxOf_lt {names : List Text} (h : names.Nodup) :
    names.Pairwise fun a b => names.idxOf a < names.idxOf b := by
  rw [List.pairwise_iff_getElem]
  intro i j hi hj hij
  rw [h.idxOf_getElem i hi, h.idxOf_getElem j hj]
  exact hij

/-- Ways put together name by name, in the order of a listing, are in the order of their
positions. -/
theorem pairwise_positions_through {d : Path} {names : List Text}
    (hnames : names.Sublist (fs.listing d)) {onwards : Text → List (List Text)}
    (honwards : ∀ name ∈ names, (onwards name).Pairwise fun a b =>
      fs.positions (d.child name) a < fs.positions (d.child name) b) :
    (Path.through names onwards).Pairwise fun a b => fs.positions d a < fs.positions d b := by
  have horder := (pairwise_idxOf_lt (fs.nodup_listing d)).sublist hnames
  rw [Path.through, List.pairwise_flatMap]
  constructor
  · intro name hname
    rw [List.pairwise_map]
    apply (honwards name hname).imp
    intro rest rest' hlt
    rw [positions, positions, List.cons_lt_cons_iff]
    exact Or.inr ⟨rfl, hlt⟩
  · apply horder.imp
    intro name name' hlt way hway way' hway'
    obtain ⟨rest, _, rfl⟩ := List.mem_map.1 hway
    obtain ⟨rest', _, rfl⟩ := List.mem_map.1 hway'
    rw [positions, positions, List.cons_lt_cons_iff]
    exact Or.inl hlt

theorem nodup_map_descend {d : Path} {ways : List (List Text)}
    (hparts : ∀ way ∈ ways, ∀ name ∈ way, IsPart name)
    (h : ways.Pairwise fun a b => fs.positions d a < fs.positions d b) :
    (ways.map d.descend).Nodup := by
  rw [List.Nodup, List.pairwise_map]
  apply h.imp_of_mem
  intro way way' hway hway' hlt heq
  obtain rfl := (d.descend_inj (hparts way hway) (hparts way' hway')).1 heq
  exact List.lt_irrefl _ hlt

/-! ## What a walk is refused for -/

def walkRefusals : List Refusal := [.missing, .denied, .notDirectory, .tooLong, .tooManyLinks]

theorem why_of_walkWith {followLast : Bool} {jump : Location → List Text → Except Refusal Location}
    (hjump : ∀ l parts why, jump l parts = .error why → why ∈ walkRefusals) {why : Refusal}
    (parts : List Text) (l : Location) (h : fs.walkWith followLast jump l parts = .error why) :
    why ∈ walkRefusals := by
  induction parts generalizing l with
  | nil => cases h
  | cons part rest ih =>
    rw [walkWith] at h
    split at h
    · cases h
      decide
    · split at h
      · exact ih l h
      · split at h
        · cases h
          decide
        · split at h
          · cases h
            decide
          · split at h
            · exact ih l h
            · split at h
              · exact ih _ h
              · split at h
                · cases h
                  decide
                · split at h
                  · cases h
                  · exact hjump _ _ _ h
                · exact ih _ h
    · cases h
      decide

theorem why_of_walk {followLast : Bool} {links : Nat} {l : Location} {parts : List Text}
    {why : Refusal} (h : fs.walk followLast links l parts = .error why) : why ∈ walkRefusals := by
  induction links generalizing l parts why with
  | zero => exact why_of_walkWith (fun _ _ _ h => by cases h; decide) parts l h
  | succ links ih => exact why_of_walkWith (fun _ _ _ h => ih h) parts l h

/-! ## Paths with a null character -/

theorem walk_ne_nullCharacter (followLast : Bool) (links : Nat) (l : Location) (parts : List Text) :
    fs.walk followLast links l parts ≠ .error .nullCharacter :=
  fun h => absurd (why_of_walk h) (by decide)

theorem locate_eq_nullCharacter_iff {followLast : Bool} {path : Text} :
    fs.locate followLast path = .error .nullCharacter ↔ '\x00' ∈ path := by
  rw [locate, checkPath]
  split
  · next h => simpa [bind, Except.bind] using h
  · next h =>
    split
    · simpa [bind, Except.bind] using h
    · simpa [h, bind, Except.bind] using fs.walk_ne_nullCharacter followLast linkLimit _ _

theorem list_eq_nullCharacter_iff {path : Text} :
    fs.list path = .error .nullCharacter ↔ '\x00' ∈ path := by
  rw [← @locate_eq_nullCharacter_iff fs true, list]
  cases fs.locate true path with
  | error why => simp [bind, Except.bind]
  | ok l =>
    simp only [bind, Except.bind, reduceCtorEq, iff_false]
    split
    · split <;> simp
    · simp

theorem outcome_children {scope p : Path} (h : p.isAbsolute = true) :
    (fs.children scope p).outcome =
      if '\x00' ∈ p.text then .error (.refused ⟨.nullCharacter, p.text⟩)
      else .ok ((fs.listing p).map p.child) := by
  have hnull := @list_eq_nullCharacter_iff fs p.text
  rw [children, listing, Path.join_of_isAbsolute h]
  cases hlist : fs.list p.text with
  | ok names =>
    rw [if_neg fun hmem => by rw [hlist] at hnull; cases hnull.2 hmem]
    rfl
  | error why =>
    rw [hlist, Except.error.injEq] at hnull
    by_cases hwhy : why = .nullCharacter
    · rw [if_pos (hnull.1 hwhy), hwhy]
      rfl
    · rw [if_neg fun hmem => hwhy (hnull.2 hmem)]
      cases why <;> first | rfl | exact absurd rfl hwhy

end FileSystem

end ScopedShell
