import ScopedShell.Proofs.Glob.Visits

/-!
# The directories below a path

`Reaches fs isStart p names` says that going down the names from `p` leads to a directory, with
every name listed on the way and without passing a link, except at the start. The paths below a
path are the ends of these ways (`Walks.exists_ways`), in the order of the positions on the way,
where a way comes before those that go on from its end.
-/

namespace ScopedShell

namespace Glob

/-- Going down the names from a path leads to a directory and passes no link but the start. -/
def Reaches (fs : FileSystem) : Bool → Path → List Text → Prop
  | _, p, [] => fs.isDirectory p.text = .ok true
  | isStart, p, name :: names => fs.isDirectory p.text = .ok true ∧
    (isStart = true ∨ fs.isLink p.text ≠ .ok true) ∧ name ∈ fs.listing p ∧
    Reaches fs false (p.child name) names

/-- A directory that may be listed and searched. -/
def IsOpenAt (fs : FileSystem) (l : Location) : Prop :=
  ∃ denied, fs.node? l = some (.directory denied) ∧ denied.reading = false ∧
    denied.searching = false

variable {fs : FileSystem} {scope : Path}

theorem Reaches.isDirectory {isStart : Bool} {p : Path} {names : List Text}
    (h : Reaches fs isStart p names) : fs.isDirectory (p.descend names).text = .ok true := by
  induction names generalizing isStart p with
  | nil => exact h
  | cons name names ih => exact ih h.2.2.2

theorem Reaches.isDirectory_start {isStart : Bool} {p : Path} {names : List Text}
    (h : Reaches fs isStart p names) : fs.isDirectory p.text = .ok true := by
  cases names with
  | nil => exact h
  | cons name names => exact h.1

theorem Reaches.isPart {isStart : Bool} {p : Path} {names : List Text}
    (h : Reaches fs isStart p names) : ∀ name ∈ names, IsPart name := by
  induction names generalizing isStart p with
  | nil => simp
  | cons name names ih =>
    obtain ⟨_, _, hlisted, hrest⟩ := h
    exact List.forall_mem_cons.2 ⟨(FileSystem.isName_of_mem_listing hlisted).1, ih hrest⟩

theorem Reaches.isLink_descend {isStart : Bool} {p : Path} (habsolute : p.isAbsolute = true)
    {front rest : List Text} (h : Reaches fs isStart p (front ++ rest)) (hfront : front ≠ [])
    (hrest : rest ≠ []) : fs.isLink (p.descend front).text = .ok false := by
  induction front generalizing isStart p with
  | nil => exact (hfront rfl).elim
  | cons name front ih =>
    obtain ⟨hp, _, hlisted, hreaches⟩ := h
    cases front with
    | cons next front => exact ih (Path.isAbsolute_child habsolute name) hreaches (by simp)
    | nil =>
      obtain ⟨next, rest, rfl⟩ := List.exists_cons_of_ne_nil hrest
      obtain ⟨hchild, hlink, _⟩ := hreaches
      obtain ⟨l, hlocate, _⟩ := FileSystem.isDirectory_eq_true_iff.1 hp
      obtain ⟨hcheck, n, hn, hfollows⟩ := (FileSystem.locate_text_eq_ok_iff habsolute).1 hlocate
      rcases FileSystem.isLink_or_isDirectoryAt_of_mem_listing habsolute hn hfollows hcheck hlisted
        hchild with htrue | ⟨hfalse, _⟩
      · exact (hlink.resolve_left (by simp) htrue).elim
      · exact hfalse

/-- The recursion gives the ends of the ways on which it goes down, each before those that go on
from there. -/
theorem Walks.exists_ways {isStart : Bool} {p : Path} {given : List Path}
    (h : Walks fs scope isStart p given) (habsolute : p.isAbsolute = true) :
    ∃ ways : List (List Text), given = ways.map p.descend ∧
      (∀ names, names ∈ ways ↔ Reaches fs isStart p names) ∧
      ways.Pairwise fun a b => fs.positions p a < fs.positions p b := by
  induction h with
  | absent h =>
    refine ⟨[], rfl, fun names => ?_, .nil⟩
    simpa using fun hreaches : Reaches fs _ _ names => h hreaches.isDirectory_start
  | linked h hlink =>
    refine ⟨[[]], rfl, fun names => ?_, List.pairwise_singleton _ _⟩
    rw [List.mem_singleton]
    constructor
    · rintro rfl
      exact h
    · intro hreaches
      cases names with
      | nil => rfl
      | cons name names => exact (hreaches.2.1.resolve_left (by simp) hlink).elim
  | @entered isStart p children below h hlink hchildren _ ih =>
    rw [FileSystem.outcome_children habsolute] at hchildren
    split at hchildren
    · cases hchildren
    · obtain rfl := Except.ok.inj hchildren
      have hways : ∀ name ∈ fs.listing p, ∃ ways : List (List Text),
          below (p.child name) = ways.map (p.child name).descend ∧
          (∀ names, names ∈ ways ↔ Reaches fs false (p.child name) names) ∧
          ways.Pairwise fun a b =>
            fs.positions (p.child name) a < fs.positions (p.child name) b :=
        fun name hname => ih _ (List.mem_map_of_mem hname) (Path.isAbsolute_child habsolute name)
      obtain ⟨ways, hways⟩ := exists_forall_mem hways
      refine ⟨[] :: Path.through (fs.listing p) ways, ?_, fun names => ?_, ?_⟩
      · rw [List.map_cons, Path.map_descend_through, List.flatMap_map]
        apply congrArg (p :: ·)
        exact flatMap_congr_of_mem fun name hname => (hways name hname).1
      · rw [List.mem_cons, Path.mem_through_iff]
        constructor
        · rintro (rfl | ⟨name, hname, rest, hrest, rfl⟩)
          · exact h
          · exact ⟨h, hlink, hname, ((hways name hname).2.1 rest).1 hrest⟩
        · intro hnames
          cases names with
          | nil => exact Or.inl rfl
          | cons name rest =>
            obtain ⟨_, _, hname, hrest⟩ := hnames
            exact Or.inr ⟨name, hname, rest, ((hways name hname).2.1 rest).2 hrest, rfl⟩
      · rw [List.pairwise_cons]
        constructor
        · intro way hway
          obtain ⟨name, _, rest, _, rfl⟩ := Path.mem_through_iff.1 hway
          exact List.nil_lt_cons _ _
        · apply FileSystem.pairwise_positions_through (List.Sublist.refl _)
          exact fun name hname => (hways name hname).2.2

theorem isDirectoryAt_of_isOpenAt {l : Location} {name : Text} {names : List Text}
    (hopen : ∀ front next rest, name :: names = front ++ next :: rest → IsOpenAt fs (l ++ front))
    (hl : fs.isDirectoryAt (l ++ name :: names) = true) :
    fs.isDirectoryAt (l ++ [name]) = true := by
  cases names with
  | nil => exact hl
  | cons next names =>
    obtain ⟨denied, hnode, _⟩ := hopen [name] next names rfl
    exact FileSystem.isDirectoryAt_iff_exists_denied.2 ⟨denied, hnode⟩

/-- Going down real directories that are open reaches the directory at the end, unless its path or
one of the names is too long. -/
theorem reaches_of_isOpenAt {isStart : Bool} {p : Path} (habsolute : p.isAbsolute = true) {n : Nat}
    {l : Location} (hn : n ≤ FileSystem.linkLimit) (hfollows : fs.Follows n [] p.parts l)
    {names : List Text} (hlink : isStart = true ∨ fs.isLink p.text = .ok false)
    (hopen : ∀ front name rest, names = front ++ name :: rest → IsOpenAt fs (l ++ front))
    (hl : fs.isDirectoryAt (l ++ names) = true) (hfits : ∀ name ∈ names, FileSystem.FitsName name)
    (hcheck : FileSystem.checkPath (p.descend names).text = .ok ()) :
    Reaches fs isStart p names := by
  induction names generalizing isStart p l with
  | nil =>
    rw [List.append_nil] at hl
    exact FileSystem.isDirectory_eq_true_iff.2
      ⟨l, (FileSystem.locate_text_eq_ok_iff habsolute).2 ⟨hcheck, n, hn, hfollows⟩, hl⟩
  | cons name names ih =>
    rw [List.forall_mem_cons] at hfits
    obtain ⟨denied, hnode, hreading, hsearching⟩ := by simpa using hopen [] name names rfl
    have hparts : ∀ part ∈ name :: names, IsPart part := by
      obtain ⟨node, hmem, _⟩ := FileSystem.isDirectoryAt_iff.1 hl
      exact fun part hpart => (fs.isName_of_mem _ hmem part (List.mem_append_right _ hpart)).1
    have hp : FileSystem.checkPath p.text = .ok () :=
      FileSystem.checkPath_mono (Path.text_isPrefix_text_descend habsolute hparts) hcheck
    have hchild : FileSystem.checkPath (p.child name).text = .ok () :=
      FileSystem.checkPath_mono (Path.text_isPrefix_text_descend
        (Path.isAbsolute_child habsolute name) (List.forall_mem_cons.1 hparts).2) hcheck
    have hlocate : fs.locate true p.text = .ok l :=
      (FileSystem.locate_text_eq_ok_iff habsolute).2 ⟨hp, n, hn, hfollows⟩
    have hdirectory := isDirectoryAt_of_isOpenAt hopen hl
    obtain ⟨inner, hinner⟩ := FileSystem.isDirectoryAt_iff_exists_denied.1 hdirectory
    obtain ⟨hfollows', _, hlink'⟩ := FileSystem.locate_child_of_directory habsolute hn hfollows
      ⟨denied, hnode, hsearching⟩ hchild hfits.1 hdirectory
    refine ⟨FileSystem.isDirectory_eq_true_iff.2 ⟨l, hlocate, ?_⟩, ?_,
      FileSystem.mem_listing_of_node? hlocate hnode hreading hinner, ?_⟩
    · exact FileSystem.isDirectoryAt_iff_exists_denied.2 ⟨denied, hnode⟩
    · apply hlink.imp id
      intro hfalse htrue
      rw [hfalse] at htrue
      cases htrue
    · apply ih (Path.isAbsolute_child habsolute name) hfollows' (Or.inr hlink') _ _ hfits.2 hcheck
      · intro front next rest hnames
        rw [List.append_assoc]
        exact hopen (name :: front) next rest (by rw [hnames]; rfl)
      · rw [List.append_assoc]
        exact hl

/-- From an absolute path the loop over pending paths comes to an end and gives exactly what the
recursion gives: directories only, none twice, each before those below it and in the order of the
listings, and none through a link below the start. Every real directory is among them to which open
real directories lead, unless its path or one of the names is too long. -/
theorem outcome_directoriesBelow (fs : FileSystem) (scope : Path) {root : Path}
    (habsolute : root.isAbsolute = true) :
    ∃ (turns : Nat) (ways : List (List Text)),
      Visits fs scope turns true [root] (ways.map root.descend) ∧
      (directoriesBelow fs scope root).outcome = .ok (ways.map root.descend) ∧
      (∀ given, Walks fs scope true root given ↔ given = ways.map root.descend) ∧
      (ways.Pairwise fun a b => fs.positions root a < fs.positions root b) ∧
      (ways.map root.descend).Nodup ∧
      (∀ names ∈ ways, fs.isDirectory (root.descend names).text = .ok true) ∧
      (∀ front rest, front ++ rest ∈ ways → front ≠ [] → rest ≠ [] →
        fs.isLink (root.descend front).text = .ok false) ∧
      ∀ l names, fs.locate true root.text = .ok l →
        (∀ front name rest, names = front ++ name :: rest → IsOpenAt fs (l ++ front)) →
        fs.isDirectoryAt (l ++ names) = true → (∀ name ∈ names, FileSystem.FitsName name) →
        FileSystem.checkPath (root.descend names).text = .ok () → names ∈ ways := by
  obtain ⟨turns, hturns, given, hvisits, hwalks⟩ := exists_visits fs scope habsolute
  obtain ⟨ways, rfl, hways, horder⟩ := hwalks.exists_ways habsolute
  refine ⟨turns, ways, hvisits, outcome_visit hvisits hturns, fun given => ?_, horder, ?_, ?_, ?_,
    ?_⟩
  · constructor
    · exact fun hgiven => hgiven.unique hwalks
    · rintro rfl
      exact hwalks
  · exact FileSystem.nodup_map_descend (fun names hnames => ((hways names).1 hnames).isPart) horder
  · exact fun names hnames => ((hways names).1 hnames).isDirectory
  · exact fun front rest hnames => ((hways _).1 hnames).isLink_descend habsolute
  · intro l names hlocate hopen hl hfits hcheck
    obtain ⟨_, n, hn, hfollows⟩ := (FileSystem.locate_text_eq_ok_iff habsolute).1 hlocate
    exact (hways names).2
      (reaches_of_isOpenAt habsolute hn hfollows (Or.inl rfl) hopen hl hfits hcheck)

theorem outcome_directoriesBelow_of_loop :
    let fs := (FileSystem.empty.insert ["a"] (.directory {})).insert ["a", "up"] (.link "..")
    Path.rootDirectory.isAbsolute = true ∧
      ∃ turns, Visits fs .rootDirectory turns true [.rootDirectory]
        [Path.ofText "/", Path.ofText "/a", Path.ofText "/a/up"] := by
  intro fs
  obtain ⟨turns, ways, hvisits, houtcome, _⟩ :=
    @outcome_directoriesBelow fs .rootDirectory .rootDirectory rfl
  have hways : ways.map Path.rootDirectory.descend =
      [Path.ofText "/", Path.ofText "/a", Path.ofText "/a/up"] :=
    Except.ok.inj (houtcome.symm.trans rfl)
  exact ⟨rfl, turns, hways ▸ hvisits⟩

end Glob

end ScopedShell
