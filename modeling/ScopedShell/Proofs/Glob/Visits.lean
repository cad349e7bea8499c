import ScopedShell.Glob.Expansion
import ScopedShell.Proofs.FileSystem.Counting

/-!
# Visiting directories

`turn` is what the loop over pending paths does with the first of them, and `Visits` is a run of the
loop that comes to an end, with its number of turns; neither has a bound. `Walks` gives the paths
below a path by recursion: a path that is no directory gives nothing, a linked one gives itself, and
any other one gives itself and then what its children give.

The loop comes to an end and gives what the recursion gives (`exists_visits`). It takes no more
turns than there are entries, so the bound of `visit` is never met (`outcome_visit`).
-/

namespace ScopedShell

namespace Glob

/-- What the loop does with the first pending path: the paths that it gives, and those that are
then pending before the others. -/
def turn (fs : FileSystem) (scope : Path) (isStart : Bool) (current : Path) :
    Traced (List Path × List Path) :=
  match fs.isDirectory current.text with
  | .error why => do
    logSkipped current.text why
    return ([], [])
  | .ok false => pure ([], [])
  | .ok true =>
    match if isStart then .ok false else fs.isLink current.text with
    | .error why => do
      logSkipped current.text why
      return ([], [])
    | .ok true => pure ([current], [])
    | .ok false => do
      let below ← fs.children scope current
      return ([current], below)

/-- The loop comes to an end after a number of turns and has given a list of paths. -/
inductive Visits (fs : FileSystem) (scope : Path) : Nat → Bool → List Path → List Path → Prop
  | finished {isStart : Bool} : Visits fs scope 0 isStart [] []
  | turned {turns : Nat} {isStart : Bool} {current : Path} {pending given below others : List Path}
      (hturn : (turn fs scope isStart current).outcome = .ok (given, below))
      (h : Visits fs scope turns false (below ++ pending) others) :
      Visits fs scope (turns + 1) isStart (current :: pending) (given ++ others)

/-- The paths below a path, by recursion over the children in the order of the listings. -/
inductive Walks (fs : FileSystem) (scope : Path) : Bool → Path → List Path → Prop
  | absent {isStart : Bool} {p : Path} (h : fs.isDirectory p.text ≠ .ok true) :
      Walks fs scope isStart p []
  | linked {p : Path} (h : fs.isDirectory p.text = .ok true)
      (hlink : fs.isLink p.text = .ok true) : Walks fs scope false p [p]
  | entered {isStart : Bool} {p : Path} {children : List Path} {below : Path → List Path}
      (h : fs.isDirectory p.text = .ok true)
      (hlink : isStart = true ∨ fs.isLink p.text ≠ .ok true)
      (hchildren : (fs.children scope p).outcome = .ok children)
      (hbelow : ∀ c ∈ children, Walks fs scope false c (below c)) :
      Walks fs scope isStart p (p :: children.flatMap below)

variable {fs : FileSystem} {scope : Path}

theorem Walks.unique {isStart : Bool} {p : Path} {given given' : List Path}
    (h : Walks fs scope isStart p given) (h' : Walks fs scope isStart p given') :
    given = given' := by
  induction h generalizing given' with
  | absent h =>
    cases h' with
    | absent _ => rfl
    | linked h' _ => exact (h h').elim
    | entered h' _ _ _ => exact (h h').elim
  | linked h hlink =>
    cases h' with
    | absent h' => exact (h' h).elim
    | linked _ _ => rfl
    | entered _ hlink' _ _ => exact (hlink'.resolve_left (by simp) hlink).elim
  | @entered isStart p children below h hlink hchildren _ ih =>
    cases h' with
    | absent h' => exact (h' h).elim
    | linked _ hlink' => exact (hlink.resolve_left (by simp) hlink').elim
    | @entered _ _ children' below' _ _ hchildren' hbelow' =>
      obtain rfl : children = children' := Except.ok.inj (hchildren.symm.trans hchildren')
      rw [flatMap_congr_of_mem fun c hc => ih c hc (hbelow' c hc)]

/-! ## Turns -/

theorem visit_succ {bound : Nat} {isStart : Bool} {current : Path} {pending : List Path} :
    (visit fs scope (bound + 1) isStart (current :: pending)).outcome =
      ((turn fs scope isStart current).outcome >>= fun result =>
        (visit fs scope bound false (result.2 ++ pending)).outcome.map (result.1 ++ ·)) := by
  have hmap : ∀ paths, (visit fs scope bound false paths).outcome =
      (visit fs scope bound false paths).outcome.map ([] ++ ·) := by
    intro paths
    cases (visit fs scope bound false paths).outcome <;> rfl
  rw [visit, turn]
  cases fs.isDirectory current.text with
  | error why => exact hmap pending
  | ok isDirectory =>
    cases isDirectory with
    | false => exact hmap pending
    | true =>
      cases (if isStart = true then Except.ok false else fs.isLink current.text) with
      | error why => exact hmap pending
      | ok isLink =>
        cases isLink with
        | true =>
          change ((visit fs scope bound false pending >>= fun others => pure (current :: others))
            : Traced _).outcome = _
          rw [Traced.outcome_bind]
          rfl
        | false =>
          change ((fs.children scope current >>= fun below =>
            visit fs scope bound false (below ++ pending) >>= fun others =>
              pure (current :: others)) : Traced _).outcome = _
          simp only [Traced.outcome_bind]
          cases (fs.children scope current).outcome <;> rfl

/-- The bound of the loop does not matter where it is not less than the number of turns. -/
theorem outcome_visit {turns bound : Nat} {isStart : Bool} {pending given : List Path}
    (h : Visits fs scope turns isStart pending given) (hbound : turns ≤ bound) :
    (visit fs scope bound isStart pending).outcome = .ok given := by
  induction h generalizing bound with
  | finished => cases bound <;> rfl
  | turned hturn h ih =>
    obtain ⟨bound, rfl⟩ := Nat.exists_eq_add_of_le' hbound
    rw [← Nat.add_assoc, visit_succ, hturn]
    change (visit fs scope _ false _).outcome.map _ = _
    rw [ih (Nat.le_add_left _ _)]
    rfl

theorem outcome_turn_of_absent {isStart : Bool} {p : Path}
    (h : fs.isDirectory p.text ≠ .ok true) : (turn fs scope isStart p).outcome = .ok ([], []) := by
  rw [turn]
  split
  · rfl
  · rfl
  · next hdirectory => exact (h hdirectory).elim

theorem outcome_turn_of_linked {p : Path} (h : fs.isDirectory p.text = .ok true)
    (hlink : fs.isLink p.text = .ok true) : (turn fs scope false p).outcome = .ok ([p], []) := by
  simp [turn, h, hlink]

theorem outcome_turn_of_entered {isStart : Bool} {p : Path} {children : List Path}
    (h : fs.isDirectory p.text = .ok true) (hlink : isStart = true ∨ fs.isLink p.text = .ok false)
    (hchildren : (fs.children scope p).outcome = .ok children) :
    (turn fs scope isStart p).outcome = .ok ([p], children) := by
  have hopen : (if isStart = true then .ok false else fs.isLink p.text) = .ok false := by
    rcases hlink with rfl | hlink
    · rfl
    · rw [hlink, ite_self]
  rw [turn, h]
  simp only [hopen, Traced.outcome_bind, hchildren]
  rfl

/-! ## The loop follows the recursion -/

/-- The loop gives what the recursion gives for a path, in at most a number of turns, and goes on
with what was pending behind the path. -/
def WorksOff (fs : FileSystem) (scope : Path) (bound : Nat) (isStart : Bool) (p : Path)
    (given : List Path) : Prop :=
  Walks fs scope isStart p given ∧ ∃ turns ≤ bound, ∀ later pending others,
    Visits fs scope later false pending others →
      Visits fs scope (turns + later) isStart (p :: pending) (given ++ others)

theorem worksOff_of_absent {bound : Nat} {isStart : Bool} {p : Path} (hbound : 0 < bound)
    (h : fs.isDirectory p.text ≠ .ok true) : WorksOff fs scope bound isStart p [] := by
  refine ⟨.absent h, 1, hbound, fun later pending others hlater => ?_⟩
  rw [Nat.add_comm]
  exact .turned (outcome_turn_of_absent h) hlater

theorem worksOff_of_linked {bound : Nat} {p : Path} (hbound : 0 < bound)
    (h : fs.isDirectory p.text = .ok true) (hlink : fs.isLink p.text = .ok true) :
    WorksOff fs scope bound false p [p] := by
  refine ⟨.linked h hlink, 1, hbound, fun later pending others hlater => ?_⟩
  rw [Nat.add_comm]
  exact .turned (outcome_turn_of_linked h hlink) hlater

theorem exists_visits_append {children : List Path} {bound : Path → Nat}
    {below : Path → List Path}
    (h : ∀ c ∈ children, WorksOff fs scope (bound c) false c (below c)) :
    ∃ turns ≤ FileSystem.total bound children, ∀ later pending others,
      Visits fs scope later false pending others →
        Visits fs scope (turns + later) false (children ++ pending)
          (children.flatMap below ++ others) := by
  induction children with
  | nil => exact ⟨0, Nat.le_refl _, fun later pending others hlater => by simpa using hlater⟩
  | cons c children ih =>
    rw [List.forall_mem_cons] at h
    obtain ⟨⟨_, first, hfirst, hc⟩, hchildren⟩ := h
    obtain ⟨turns, hturns, hrest⟩ := ih hchildren
    refine ⟨first + turns, ?_, fun later pending others hlater => ?_⟩
    · rw [FileSystem.total]
      exact Nat.add_le_add hfirst hturns
    · rw [Nat.add_assoc, List.cons_append, List.flatMap_cons, List.append_assoc]
      exact hc _ _ _ (hrest _ _ _ hlater)

theorem worksOff_of_entered {bound : Path → Nat} {isStart : Bool} {p : Path} {children : List Path}
    {below : Path → List Path} (h : fs.isDirectory p.text = .ok true)
    (hlink : isStart = true ∨ fs.isLink p.text = .ok false)
    (hchildren : (fs.children scope p).outcome = .ok children)
    (hbelow : ∀ c ∈ children, WorksOff fs scope (bound c) false c (below c)) :
    WorksOff fs scope (FileSystem.total bound children + 1) isStart p
      (p :: children.flatMap below) := by
  have hopen : isStart = true ∨ fs.isLink p.text ≠ .ok true :=
    hlink.imp id fun hlink htrue => by rw [hlink] at htrue; cases htrue
  obtain ⟨turns, hturns, hvisits⟩ := exists_visits_append hbelow
  refine ⟨.entered h hopen hchildren fun c hc => (hbelow c hc).1, turns + 1,
    Nat.add_le_add_right hturns 1, fun later pending others hlater => ?_⟩
  rw [Nat.add_right_comm]
  change Visits fs scope _ isStart (p :: pending) ([p] ++ (children.flatMap below ++ others))
  exact .turned (outcome_turn_of_entered h hlink hchildren) (hvisits _ _ _ hlater)

theorem WorksOff.mono {bound bound' : Nat} {isStart : Bool} {p : Path} {given : List Path}
    (h : WorksOff fs scope bound isStart p given) (hbound : bound ≤ bound') :
    WorksOff fs scope bound' isStart p given := by
  obtain ⟨hwalks, turns, hturns, hvisits⟩ := h
  exact ⟨hwalks, turns, Nat.le_trans hturns hbound, hvisits⟩

theorem WorksOff.exists_visits {bound : Nat} {isStart : Bool} {p : Path} {given : List Path}
    (h : WorksOff fs scope bound isStart p given) :
    ∃ turns ≤ bound, Visits fs scope turns isStart [p] given := by
  obtain ⟨_, turns, hturns, hvisits⟩ := h
  exact ⟨turns, hturns, by simpa using hvisits 0 [] [] .finished⟩

theorem total_countBelow_children_lt {p : Path} {l : Location}
    (hlocate : fs.locate true p.text = .ok l) :
    FileSystem.total (fun c => fs.countBelow (l ++ [c.name])) ((fs.listing p).map p.child) <
      fs.countBelow l := by
  obtain ⟨node, hnode⟩ := Option.isSome_iff_exists.1 (FileSystem.isSome_node?_of_locate hlocate)
  have hchildren : ∀ names ⊆ fs.listing p,
      FileSystem.total (fun c => fs.countBelow (l ++ [c.name])) (names.map p.child) =
        FileSystem.total (fun name => fs.countBelow (l ++ [name])) names := by
    intro names hnames
    induction names with
    | nil => rfl
    | cons name names ih =>
      rw [List.cons_subset] at hnames
      rw [List.map_cons, FileSystem.total, FileSystem.total, ih hnames.2,
        p.name_child (FileSystem.isName_of_mem_listing hnames.1).1]
  rw [hchildren _ (List.Subset.refl _)]
  rcases FileSystem.listing_of_locate hlocate with hempty | hlisting
  · rw [hempty]
    exact FileSystem.countBelow_pos hnode
  · rw [hlisting]
    exact FileSystem.total_countBelow_lt hnode

/-- A listed child is worked off if it is where it is listed a directory that can be. -/
theorem exists_worksOff_child {p : Path} (habsolute : p.isAbsolute = true) {n : Nat} {l : Location}
    (hn : n ≤ FileSystem.linkLimit) (hfollows : fs.Follows n [] p.parts l)
    (hcheck : FileSystem.checkPath p.text = .ok ()) {name : Text} (hname : name ∈ fs.listing p)
    (hinner : fs.Follows n [] (p.child name).parts (l ++ [name]) →
      FileSystem.checkPath (p.child name).text = .ok () → fs.isDirectoryAt (l ++ [name]) = true →
      fs.isLink (p.child name).text = .ok false →
      ∃ given, WorksOff fs scope (fs.countBelow (l ++ [name])) false (p.child name) given) :
    ∃ given, WorksOff fs scope (fs.countBelow (l ++ [name])) false (p.child name) given := by
  have hlocate : fs.locate true p.text = .ok l :=
    (FileSystem.locate_text_eq_ok_iff habsolute).2 ⟨hcheck, n, hn, hfollows⟩
  obtain ⟨node, hnode⟩ := FileSystem.exists_node?_of_mem_listing hlocate hname
  have hpos := FileSystem.countBelow_pos hnode
  by_cases hchild : fs.isDirectory (p.child name).text = .ok true
  · obtain hlink | ⟨hlink, hfollows', hcheck', hdirectory⟩ :=
      FileSystem.isLink_or_isDirectoryAt_of_mem_listing habsolute hn hfollows hcheck hname hchild
    · exact ⟨_, worksOff_of_linked hpos hchild hlink⟩
    · exact hinner hfollows' hcheck' hdirectory hlink
  · exact ⟨[], worksOff_of_absent hpos hchild⟩

/-- A path that leads to a directory is worked off in no more turns than there are entries there and
below. -/
theorem exists_worksOff_of_directory {p : Path} (habsolute : p.isAbsolute = true) {n : Nat}
    {l : Location} (hn : n ≤ FileSystem.linkLimit) (hfollows : fs.Follows n [] p.parts l)
    (hcheck : FileSystem.checkPath p.text = .ok ()) (hl : fs.isDirectoryAt l = true)
    {isStart : Bool} (hlink : isStart = true ∨ fs.isLink p.text = .ok false) :
    ∃ given, WorksOff fs scope (fs.countBelow l) isStart p given := by
  -- the induction is on what is below: a child that is entered is a directory with fewer entries
  induction hcount : fs.countBelow l using Nat.strongRecOn generalizing p l isStart with
  | ind count ih =>
    have hnull : '\x00' ∉ p.text := (FileSystem.checkPath_eq_ok_iff.1 hcheck).1
    have hchildren : (fs.children scope p).outcome = .ok ((fs.listing p).map p.child) := by
      rw [FileSystem.outcome_children habsolute, if_neg hnull]
    have hlocate : fs.locate true p.text = .ok l :=
      (FileSystem.locate_text_eq_ok_iff habsolute).2 ⟨hcheck, n, hn, hfollows⟩
    have hdirectory : fs.isDirectory p.text = .ok true :=
      FileSystem.isDirectory_eq_true_iff.2 ⟨l, hlocate, hl⟩
    have hbelow : ∀ c ∈ (fs.listing p).map p.child, ∃ given,
        WorksOff fs scope (fs.countBelow (l ++ [c.name])) false c given := by
      intro c hc
      obtain ⟨name, hname, rfl⟩ := List.mem_map.1 hc
      rw [p.name_child (FileSystem.isName_of_mem_listing hname).1]
      apply exists_worksOff_child habsolute hn hfollows hcheck hname
      intro hfollows' hcheck' hdirectory' hlink'
      obtain ⟨denied, hnode⟩ := FileSystem.isDirectoryAt_iff_exists_denied.1 hl
      have hless := FileSystem.countBelow_append_singleton_lt hnode name
      rw [hcount] at hless
      exact ih _ hless (Path.isAbsolute_child habsolute name) hfollows' hcheck' hdirectory'
        (Or.inr hlink') rfl
    obtain ⟨below, hbelow⟩ := exists_forall_mem hbelow
    have hworks := worksOff_of_entered hdirectory hlink hchildren hbelow
    rw [← hcount]
    exact ⟨_, hworks.mono (total_countBelow_children_lt hlocate)⟩

/-- From an absolute path the loop comes to an end, after at most one turn more than there are
entries, and gives what the recursion gives. -/
theorem exists_visits (fs : FileSystem) (scope : Path) {root : Path}
    (habsolute : root.isAbsolute = true) :
    ∃ turns ≤ fs.entries.length + 1, ∃ given,
      Visits fs scope turns true [root] given ∧ Walks fs scope true root given := by
  have hworks : ∃ given, WorksOff fs scope (fs.entries.length + 1) true root given := by
    by_cases hroot : fs.isDirectory root.text = .ok true
    · obtain ⟨l, hlocate, hl⟩ := FileSystem.isDirectory_eq_true_iff.1 hroot
      obtain ⟨hcheck, n, hn, hfollows⟩ := (FileSystem.locate_text_eq_ok_iff habsolute).1 hlocate
      obtain ⟨given, hgiven⟩ :=
        exists_worksOff_of_directory habsolute hn hfollows hcheck hl (Or.inl rfl)
      exact ⟨given, hgiven.mono (Nat.le_succ_of_le (fs.countBelow_le l))⟩
    · exact ⟨[], worksOff_of_absent (Nat.succ_pos _) hroot⟩
  obtain ⟨given, hgiven⟩ := hworks
  obtain ⟨turns, hturns, hvisits⟩ := hgiven.exists_visits
  exact ⟨turns, hturns, given, hvisits, hgiven.1⟩

end Glob

end ScopedShell
