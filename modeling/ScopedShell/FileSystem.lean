import ScopedShell.Path

/-!
# The file system

A file system is the list of its entries in the order in which their names were created, each with
its location, the names on the way to it from the root. Every entry but the root lies in a
directory of the list, no location occurs twice, and names are such as a path can hold; these facts
are part of the type. The listing of a directory is the list of the entries that lie in it. One
location is that of the process that looks at the file system.

Three operations change a file system, and each of them keeps it unchanged where it does not apply:
`insert` adds a new entry at the end, `replace` puts a file or a link in the place of an entry and
drops what lay below, `remove` drops an entry with all below it. `restrict` changes what an entry
denies.
-/

namespace ScopedShell

/-- The permissions taken away from an entry. -/
structure Denied where
  /-- Nobody may list the directory or read the file. -/
  reading : Bool := false
  /-- Nobody may look up anything inside the directory. -/
  searching : Bool := false
  /-- Nobody may create anything inside the directory. -/
  creating : Bool := false
deriving DecidableEq, Repr

instance decidableEqContent : DecidableEq ByteArray := ByteArray.instDecidableEq

/-- What a name in a directory stands for. -/
inductive Node
  | directory (denied : Denied)
  | file (content : ByteArray) (denied : Denied)
  | link (target : Text)
deriving DecidableEq

namespace Node

def isDirectory : Node → Bool
  | directory _ => true
  | _ => false

def isLink : Node → Bool
  | link _ => true
  | _ => false

/-- The node with other permissions taken away; a link has none to take. -/
def restrict (denied : Denied) : Node → Node
  | directory _ => directory denied
  | file content _ => file content denied
  | link target => link target

theorem isDirectory_iff {node : Node} :
    node.isDirectory = true ↔ ∃ denied, node = directory denied := by
  cases node <;> simp [isDirectory]

@[simp] theorem isDirectory_restrict (denied : Denied) (node : Node) :
    (node.restrict denied).isDirectory = node.isDirectory := by
  cases node <;> rfl

end Node

/-- A name is a part of a path that does not lead to a parent. -/
def IsName (t : Text) : Prop := IsPart t ∧ t ≠ parentPart

instance : DecidablePred IsName := fun _ => inferInstanceAs (Decidable (_ ∧ _))

/-- The names on the way from the root to an entry. -/
abbrev Location := List Text

/-- A finite file system, its entries in order of creation. -/
structure FileSystem where
  entries : List (Location × Node)
  nodup : (entries.map Prod.fst).Nodup
  root_mem : ∃ node, ([], node) ∈ entries ∧ node.isDirectory = true
  parent_mem : ∀ entry ∈ entries, entry.1 ≠ [] →
    ∃ node, (entry.1.dropLast, node) ∈ entries ∧ node.isDirectory = true
  isName_of_mem : ∀ entry ∈ entries, ∀ name ∈ entry.1, IsName name
  /-- Where relative paths begin. Nothing keeps this directory from being removed. -/
  processDirectory : Location := []

namespace FileSystem

def empty : FileSystem where
  entries := [([], .directory {})]
  nodup := by simp
  root_mem := ⟨_, List.mem_singleton_self _, rfl⟩
  parent_mem := by simp
  isName_of_mem := by simp

instance : Inhabited FileSystem := ⟨empty⟩

def node? (fs : FileSystem) (l : Location) : Option Node :=
  fs.entries.lookup l

def isDirectoryAt (fs : FileSystem) (l : Location) : Bool :=
  (fs.node? l).any Node.isDirectory

def nameIn? : Location → Location → Option Text
  | [], [name] => some name
  | name :: directory, other :: l => if name = other then nameIn? directory l else none
  | _, _ => none

def namesIn (fs : FileSystem) (directory : Location) : List Text :=
  fs.entries.filterMap fun entry => nameIn? directory entry.1

theorem mem_of_lookup_eq_some {entries : List (Location × Node)} {l : Location} {node : Node}
    (h : entries.lookup l = some node) : (l, node) ∈ entries := by
  obtain ⟨before, after, rfl, _⟩ := List.lookup_eq_some_iff.1 h
  simp

theorem lookup_eq_some_of_mem {entries : List (Location × Node)} {l : Location} {node : Node}
    (hnodup : (entries.map Prod.fst).Nodup) (h : (l, node) ∈ entries) :
    entries.lookup l = some node := by
  obtain ⟨before, after, rfl⟩ := List.append_of_mem h
  refine List.lookup_eq_some_iff.2 ⟨before, after, rfl, fun entry hentry => ?_⟩
  have hne : entry.1 ≠ l := by
    rintro rfl
    simp only [List.map_append, List.map_cons] at hnodup
    exact (List.nodup_append.1 hnodup).2.2 _ (List.mem_map_of_mem hentry) _ List.mem_cons_self rfl
  simpa [bne_iff_ne] using fun heq => hne heq.symm

theorem node?_eq_some_iff {fs : FileSystem} {l : Location} {node : Node} :
    fs.node? l = some node ↔ (l, node) ∈ fs.entries :=
  ⟨mem_of_lookup_eq_some, lookup_eq_some_of_mem fs.nodup⟩

theorem node?_eq_none_iff {fs : FileSystem} {l : Location} :
    fs.node? l = none ↔ l ∉ fs.entries.map Prod.fst := by
  cases h : fs.node? l with
  | none =>
    simp only [true_iff, List.mem_map, not_exists, not_and]
    rintro ⟨l', node⟩ hmem rfl
    rw [node?_eq_some_iff.2 hmem] at h
    exact absurd h (by simp)
  | some node =>
    simp only [reduceCtorEq, false_iff]
    exact fun hnew => hnew (List.mem_map.2 ⟨_, node?_eq_some_iff.1 h, rfl⟩)

theorem isDirectoryAt_iff {fs : FileSystem} {l : Location} :
    fs.isDirectoryAt l = true ↔ ∃ node, (l, node) ∈ fs.entries ∧ node.isDirectory = true := by
  rw [isDirectoryAt, Option.any_eq_true]
  simp only [node?_eq_some_iff]

theorem nameIn?_eq_some_iff {directory l : Location} {name : Text} :
    nameIn? directory l = some name ↔ l = directory ++ [name] := by
  induction directory generalizing l with
  | nil =>
    match l with
    | [] | _ :: _ :: _ => simp [nameIn?]
    | [other] => simp [nameIn?]
  | cons d directory ih =>
    cases l with
    | nil => simp [nameIn?]
    | cons other l =>
      rw [nameIn?, List.cons_append, List.cons.injEq]
      split
      · next h => simp [h, ih]
      · next h => simp [Ne.symm h]

theorem mem_namesIn_iff {fs : FileSystem} {directory : Location} {name : Text} :
    name ∈ fs.namesIn directory ↔ (fs.node? (directory ++ [name])).isSome = true := by
  rw [namesIn, List.mem_filterMap, Option.isSome_iff_exists]
  simp only [nameIn?_eq_some_iff, node?_eq_some_iff]
  constructor
  · rintro ⟨⟨l, node⟩, h, rfl⟩
    exact ⟨node, h⟩
  · rintro ⟨node, h⟩
    exact ⟨_, h, rfl⟩

/-- Adds a node at the end, where nothing lies yet and the parent is a directory. -/
def insert (fs : FileSystem) (l : Location) (node : Node) : FileSystem :=
  if h : l ≠ [] ∧ fs.node? l = none ∧ fs.isDirectoryAt l.dropLast = true ∧
      ∀ name ∈ l, IsName name then
    { entries := fs.entries ++ [(l, node)]
      nodup := by
        have hnew := node?_eq_none_iff.1 h.2.1
        rw [List.map_append, List.nodup_append]
        refine ⟨fs.nodup, by simp, ?_⟩
        rintro a ha b hb rfl
        simp only [List.map_cons, List.map_nil, List.mem_singleton] at hb
        exact hnew (hb ▸ ha)
      root_mem := by
        obtain ⟨node, hmem, hdir⟩ := fs.root_mem
        exact ⟨node, List.mem_append_left _ hmem, hdir⟩
      parent_mem := by
        intro entry hentry hne
        rcases List.mem_append.1 hentry with hold | hnew
        · obtain ⟨node, hmem, hdir⟩ := fs.parent_mem entry hold hne
          exact ⟨node, List.mem_append_left _ hmem, hdir⟩
        · obtain rfl := List.mem_singleton.1 hnew
          obtain ⟨node, hmem, hdir⟩ := isDirectoryAt_iff.1 h.2.2.1
          exact ⟨node, List.mem_append_left _ hmem, hdir⟩
      isName_of_mem := by
        intro entry hentry
        rcases List.mem_append.1 hentry with hold | hnew
        · exact fs.isName_of_mem entry hold
        · obtain rfl := List.mem_singleton.1 hnew
          exact h.2.2.2
      processDirectory := fs.processDirectory }
  else fs

@[simp] theorem processDirectory_insert (fs : FileSystem) (l : Location) (node : Node) :
    (fs.insert l node).processDirectory = fs.processDirectory := by
  rw [insert]
  split <;> rfl

def restrict (fs : FileSystem) (l : Location) (denied : Denied) : FileSystem where
  entries := fs.entries.map fun entry =>
    (entry.1, if entry.1 = l then entry.2.restrict denied else entry.2)
  nodup := by simpa [List.map_map, Function.comp_def] using fs.nodup
  root_mem := by
    obtain ⟨node, hmem, hdir⟩ := fs.root_mem
    exact ⟨_, List.mem_map_of_mem hmem, by dsimp only; split <;> simpa using hdir⟩
  parent_mem := by
    intro entry hentry hne
    obtain ⟨old, hold, rfl⟩ := List.mem_map.1 hentry
    obtain ⟨node, hmem, hdir⟩ := fs.parent_mem old hold hne
    exact ⟨_, List.mem_map_of_mem hmem, by dsimp only; split <;> simpa using hdir⟩
  isName_of_mem := by
    intro entry hentry
    obtain ⟨old, hold, rfl⟩ := List.mem_map.1 hentry
    exact fs.isName_of_mem old hold
  processDirectory := fs.processDirectory

/-- What becomes of an entry when another node is put at a location. -/
def replaceEntry (l : Location) (node : Node) (entry : Location × Node) :
    Option (Location × Node) :=
  if entry.1 = l then some (l, node)
  else if l <+: entry.1 then none
  else some entry

/-- Whatever lies on the way to the parent of a location lies on the way to the location. -/
theorem below_of_below_dropLast {l m : Location} (h : l <+: m.dropLast) : l <+: m :=
  h.trans <| List.dropLast_prefix m

theorem fst_of_replaceEntry {l : Location} {node : Node} {entry entry' : Location × Node}
    (h : replaceEntry l node entry = some entry') : entry'.1 = entry.1 := by
  rw [replaceEntry] at h
  split at h
  · next heq =>
    obtain rfl := Option.some.inj h
    exact heq.symm
  · split at h
    · cases h
    · exact congrArg Prod.fst (Option.some.inj h).symm

/-- Locations are kept apart by whatever keeps some entries and leaves their locations alone. -/
theorem nodup_filterMap {f : Location × Node → Option (Location × Node)}
    (hf : ∀ entry entry', f entry = some entry' → entry'.1 = entry.1)
    {entries : List (Location × Node)} (h : (entries.map Prod.fst).Nodup) :
    ((entries.filterMap f).map Prod.fst).Nodup := by
  induction entries with
  | nil => simp
  | cons entry entries ih =>
    simp only [List.map_cons, List.nodup_cons] at h
    cases hentry : f entry with
    | none => simpa [List.filterMap_cons, hentry] using ih h.2
    | some entry' =>
      simp only [List.filterMap_cons, hentry, List.map_cons, List.nodup_cons]
      refine ⟨fun hmem => h.1 ?_, ih h.2⟩
      obtain ⟨other', hother', heq⟩ := List.mem_map.1 hmem
      obtain ⟨other, hother, hf'⟩ := List.mem_filterMap.1 hother'
      rw [← hf _ _ hentry, ← heq, hf _ _ hf']
      exact List.mem_map_of_mem hother

/-- Puts a file or a link in the place of an entry other than the root. -/
def replace (fs : FileSystem) (l : Location) (node : Node) : FileSystem :=
  if h : l ≠ [] then
    { entries := fs.entries.filterMap (replaceEntry l node)
      nodup := nodup_filterMap (fun _ _ => fst_of_replaceEntry) fs.nodup
      root_mem := by
        obtain ⟨root, hmem, hdir⟩ := fs.root_mem
        refine ⟨root, List.mem_filterMap.2 ⟨_, hmem, ?_⟩, hdir⟩
        simp [replaceEntry, h, Ne.symm h]
      parent_mem := by
        intro entry hentry hne
        obtain ⟨old, hold, hkeep⟩ := List.mem_filterMap.1 hentry
        have hfst := fst_of_replaceEntry hkeep
        obtain ⟨parent, hmem, hdir⟩ := fs.parent_mem old hold (hfst ▸ hne)
        refine ⟨parent, List.mem_filterMap.2 ⟨_, hmem, ?_⟩, hdir⟩
        have hnot : ¬ l <+: old.1.dropLast := by
          intro habove
          have hbelow : l <+: old.1 := below_of_below_dropLast habove
          have hlength : l.length < old.1.length := by
            have hle := habove.length_le
            have hpos : 0 < old.1.length := List.length_pos_iff.2 (hfst ▸ hne)
            rw [List.length_dropLast] at hle
            omega
          have hother : old.1 ≠ l := fun heq => by rw [heq] at hlength; omega
          rw [replaceEntry, if_neg hother, if_pos hbelow] at hkeep
          exact absurd hkeep (by simp)
        have hother : old.1.dropLast ≠ l := fun heq => hnot (heq ▸ List.prefix_refl _)
        rw [replaceEntry, if_neg hother, if_neg hnot, hfst]
      isName_of_mem := by
        intro entry hentry
        obtain ⟨old, hold, hkeep⟩ := List.mem_filterMap.1 hentry
        rw [fst_of_replaceEntry hkeep]
        exact fs.isName_of_mem old hold
      processDirectory := fs.processDirectory }
  else fs

/-- Drops an entry other than the root, and all that lies below it. -/
def remove (fs : FileSystem) (l : Location) : FileSystem :=
  if h : l ≠ [] then
    { entries := fs.entries.filter fun entry => ¬ l <+: entry.1
      nodup := fs.nodup.sublist (List.Sublist.map _ List.filter_sublist)
      root_mem := by
        obtain ⟨root, hmem, hdir⟩ := fs.root_mem
        exact ⟨root, List.mem_filter.2 ⟨hmem, by simpa using h⟩, hdir⟩
      parent_mem := by
        intro entry hentry hne
        obtain ⟨hold, hkeep⟩ := List.mem_filter.1 hentry
        obtain ⟨parent, hmem, hdir⟩ := fs.parent_mem entry hold hne
        refine ⟨parent, List.mem_filter.2 ⟨hmem, ?_⟩, hdir⟩
        simp only [decide_not, Bool.not_eq_true', decide_eq_false_iff_not] at hkeep ⊢
        exact fun habove => hkeep (below_of_below_dropLast habove)
      isName_of_mem := fun entry hentry => fs.isName_of_mem entry (List.mem_filter.1 hentry).1
      processDirectory := fs.processDirectory }
  else fs

/-- The entries below a location in pre-order: each directory is followed by what it holds. The
bound limits the depth. -/
def below (fs : FileSystem) : Nat → Location → List (Location × Node)
  | 0, _ => []
  | bound + 1, l => (fs.namesIn l).flatMap fun name =>
    match fs.node? (l ++ [name]) with
    | some node => (l ++ [name], node) :: fs.below bound (l ++ [name])
    | none => []

/-- All entries but the root in pre-order; no location is longer than the list of entries. -/
def tree (fs : FileSystem) : List (Location × Node) :=
  fs.below fs.entries.length []

end FileSystem

end ScopedShell
