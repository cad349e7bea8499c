import ScopedShell.Proofs.Glob.Distinct

/-!
# Globs and what is there

A path has an entry if each of its parts is a name in the directory to which the parts before it
lead, or `..` there (`HasEntry`). What is listed has one, and so have the directories below a path
and the parents of a path that has one itself. `..` is the only segment that gives a path without
looking for anything: where a pattern starts with a path that has no entry, `..` alone leads to the
paths above it as they stand (`map_join_reached_replicate`), and any other segment gives only paths
with an entry (`hasEntry_of_outcome_glob`).
-/

namespace ScopedShell

namespace FileSystem

/-- Each part of the path is a name in the directory to which the parts before it lead, or the way
back from there. -/
def HasEntry (fs : FileSystem) (p : Path) : Prop :=
  ∀ front part rest, p.parts = front ++ part :: rest →
    ∃ n ≤ linkLimit, ∃ l, fs.Follows n [] front l ∧ fs.isDirectoryAt l = true ∧
      (part = parentPart ∨ ∃ node, fs.node? (l ++ [part]) = some node)

variable {fs : FileSystem}

theorem hasEntry_of_parts_eq_nil {p : Path} (h : p.parts = []) : fs.HasEntry p := by
  intro front part rest heq
  rw [h] at heq
  simp at heq

theorem HasEntry.of_isPrefix {p q : Path} (h : fs.HasEntry p) (hparts : q.parts <+: p.parts) :
    fs.HasEntry q := by
  obtain ⟨more, hmore⟩ := hparts
  intro front part rest heq
  apply h front part (rest ++ more)
  rw [← hmore, heq, List.append_assoc, List.cons_append]

theorem HasEntry.parent {p : Path} (h : fs.HasEntry p) : fs.HasEntry p.parent :=
  h.of_isPrefix (List.dropLast_prefix p.parts)

theorem hasEntry_of_locate {p : Path} (habsolute : p.isAbsolute = true) {l : Location}
    (h : fs.locate true p.text = .ok l) : fs.HasEntry p := by
  obtain ⟨_, n, hn, hfollows⟩ := (locate_text_eq_ok_iff habsolute).1 h
  intro front part rest hparts
  rw [hparts] at hfollows
  obtain ⟨m, k, mid, rfl, hfront, hrest⟩ := follows_append_iff.1 hfollows
  refine ⟨m, Nat.le_trans (Nat.le_add_right m k) hn, mid, hfront, ?_⟩
  by_cases hup : part = parentPart
  · subst hup
    exact ⟨(follows_up_iff.1 hrest).1.isDirectoryAt, Or.inl rfl⟩
  · have hname : IsName part := ⟨p.isPart_of_mem part (by simp [hparts]), hup⟩
    obtain ⟨hmid, _, hnode⟩ := hrest.exists_node? hname
    exact ⟨hmid.isDirectoryAt, Or.inr hnode⟩

theorem hasEntry_of_isDirectory {p : Path} (habsolute : p.isAbsolute = true)
    (h : fs.isDirectory p.text = .ok true) : fs.HasEntry p := by
  obtain ⟨l, hlocate, _⟩ := isDirectory_eq_true_iff.1 h
  exact hasEntry_of_locate habsolute hlocate

/-- A listed child has an entry, even if it may not be looked up or is a link to nothing. -/
theorem hasEntry_child {p : Path} (habsolute : p.isAbsolute = true) {name : Text}
    (h : name ∈ fs.listing p) : fs.HasEntry (p.child name) := by
  obtain ⟨names, hlist, _⟩ := mem_listing_iff.1 h
  obtain ⟨l, denied, hlocate, hl, _⟩ := list_eq_ok_iff.1 hlist
  have hp := hasEntry_of_locate habsolute hlocate
  obtain ⟨_, n, hn, hfollows⟩ := (locate_text_eq_ok_iff habsolute).1 hlocate
  intro front part rest hparts
  rw [Path.parts_child p (isName_of_mem_listing h).1] at hparts
  rcases List.eq_nil_or_concat rest with rfl | ⟨others, last, rfl⟩
  · obtain ⟨hfront, hpart⟩ := List.append_inj' hparts rfl
    obtain rfl := List.head_eq_of_cons_eq hpart
    rw [← hfront]
    exact ⟨n, hn, l, hfollows, isDirectoryAt_iff_exists_denied.2 ⟨denied, hl⟩,
      Or.inr (exists_node?_of_mem_listing hlocate h)⟩
  · rw [List.concat_eq_append, ← List.cons_append, ← List.append_assoc] at hparts
    exact hp front part others (List.append_inj' hparts rfl).1

/-- A last part that is there can only be withheld. -/
theorem why_of_walk_singleton {links : Nat} {l : Location} {part : Text} (hpart : IsPart part)
    (hl : fs.isDirectoryAt l = true)
    (hentry : part = parentPart ∨ ∃ node, fs.node? (l ++ [part]) = some node) {why : Refusal}
    (h : fs.walk false links l [part] = .error why) : why = .denied ∨ why = .tooLong := by
  obtain ⟨denied, hnode⟩ := isDirectoryAt_iff_exists_denied.1 hl
  by_cases hsearching : denied.searching = true
  · rw [walk_eq_walkWith, walkWith, hnode] at h
    simp only [if_neg hpart.1, if_pos hsearching] at h
    exact Or.inl (Except.error.inj h).symm
  · have hsearchable : fs.Searchable l := ⟨denied, hnode, by simpa using hsearching⟩
    by_cases hsize : 255 < Text.utf8Size part
    · rw [walk_eq_walkWith, walkWith, hnode] at h
      simp only [if_neg hpart.1, if_neg hsearching, if_pos hsize] at h
      exact Or.inr (Except.error.inj h).symm
    · rcases hentry with rfl | ⟨node, hentry⟩
      · rw [walk_eq_walkWith, walkWith_up hsearchable] at h
        cases h
      · have hfound : fs.walk false links l [part] = .ok (l ++ [part]) :=
          (walk_name_eq_ok_iff (isName_of_node? hentry)).2
            ⟨hsearchable, Nat.not_lt.1 hsize, by simp [hentry], rfl⟩
        rw [hfound] at h
        cases h

/-- A call on a path that has an entry is not refused for want of one. -/
theorem HasEntry.why_of_linkStatus {p : Path} (h : fs.HasEntry p) (habsolute : p.isAbsolute = true)
    {why : Refusal} (hwhy : fs.linkStatus p.text = .error why) :
    why = .denied ∨ why = .tooLong ∨ why = .nullCharacter := by
  have hlocate : fs.locate false p.text = .error why := by
    cases hlocate : fs.locate false p.text with
    | error other =>
      rw [linkStatus, hlocate] at hwhy
      exact congrArg Except.error (Except.error.inj hwhy)
    | ok l =>
      obtain ⟨node, hnode⟩ := Option.isSome_iff_exists.1 (isSome_node?_of_locate hlocate)
      rw [linkStatus_eq_ok_iff.2 ⟨l, hlocate, hnode⟩] at hwhy
      cases hwhy
  rw [locate_text habsolute, bind_eq_error_iff] at hlocate
  rcases hlocate with hcheck | ⟨_, _, hwalk⟩
  · exact Or.inr (eq_tooLong_or_nullCharacter_of_checkPath hcheck).symm
  · rcases List.eq_nil_or_concat p.parts with hnil | ⟨front, part, hparts⟩
    · rw [hnil] at hwalk
      cases hwalk
    · rw [List.concat_eq_append] at hparts
      obtain ⟨n, hn, l, hfollows, hl, hentry⟩ := h front part [] hparts
      rw [hparts, walk_append (List.cons_ne_nil _ _) hfollows hn] at hwalk
      have hpart := p.isPart_of_mem part (by simp [hparts])
      exact (why_of_walk_singleton hpart hl hentry hwalk).imp id Or.inl

end FileSystem

namespace Glob

variable {fs : FileSystem} {env : Environment} {scope : Path} {pattern : Text}

/-! ## Reached candidates -/

theorem reached_append (candidates : List Path) (front rest : List Text) :
    reached fs scope candidates (front ++ rest) =
      reached fs scope (reached fs scope candidates front) rest := by
  induction front generalizing candidates with
  | nil => rfl
  | cons segment front ih => exact ih _

theorem forall_mem_reached {P : Path → Prop}
    (hstep : ∀ segment p, P p → ∀ q ∈ successors fs scope segment p, P q)
    {candidates : List Path} (h : ∀ p ∈ candidates, P p) (segments : List Text) :
    ∀ q ∈ reached fs scope candidates segments, P q := by
  induction segments generalizing candidates with
  | nil => exact h
  | cons segment segments ih =>
    apply ih
    intro q hq
    obtain ⟨p, hp, hq⟩ := List.mem_flatMap.1 hq
    exact hstep segment p (h p hp) q hq

/-- Seen from the scope, `..` alone leads up on the path as it stands. -/
theorem map_join_reached_replicate (hscope : scope.isAbsolute = true) (ups : Nat) (p : Path) :
    (reached fs scope [p] (List.replicate ups parentPart)).map scope.join =
      ((scope.join p).climb ups).toList := by
  induction ups generalizing p with
  | zero => rfl
  | succ ups ih =>
    rw [List.replicate_succ, reached, List.flatMap_singleton, successors, if_pos rfl, Path.climb]
    cases hparent : (scope.join p).parent? with
    | none => simp [reached_nil]
    | some q =>
      have habsolute := Path.isAbsolute_of_parent? (Path.isAbsolute_join hscope p) hparent
      rw [Option.toList_some, ih, Path.join_of_isAbsolute habsolute]
      rfl

/-! ## Directories below a path -/

theorem Walks.isDirectory (hscope : scope.isAbsolute = true) {isStart : Bool} {p : Path}
    {given : List Path} (h : Walks fs scope isStart p given) :
    ∀ q ∈ given, fs.isDirectory q.text = .ok true ∧ (q = p ∨ q.isAbsolute = true) := by
  induction h with
  | absent _ => simp
  | linked h _ => simpa using h
  | @entered isStart p children below h _ hchildren _ ih =>
    rw [outcome_children_of_scope hscope] at hchildren
    split at hchildren
    · cases hchildren
    · obtain rfl := Except.ok.inj hchildren
      refine List.forall_mem_cons.2 ⟨⟨h, Or.inl rfl⟩, fun q hq => ?_⟩
      obtain ⟨c, hc, hq⟩ := List.mem_flatMap.1 hq
      obtain ⟨hdirectory, rfl | habsolute⟩ := ih c hc q hq
      · obtain ⟨name, _, rfl⟩ := List.mem_map.1 hc
        exact ⟨hdirectory, Or.inr (Path.isAbsolute_child (Path.isAbsolute_join hscope p) name)⟩
      · exact ⟨hdirectory, Or.inr habsolute⟩

theorem isDirectory_of_mem_directories (hscope : scope.isAbsolute = true) {p q : Path}
    (h : q ∈ directories fs scope p) :
    fs.isDirectory q.text = .ok true ∧ (q = p ∨ q.isAbsolute = true) := by
  by_cases hblocks : Blocks fs scope ['*', '*'] p
  · rw [directories_of_blocks hscope hblocks] at h
    cases h
  · exact (worksOff_directories hscope hblocks).1.isDirectory hscope q h

/-! ## One segment -/

theorem isAbsolute_successors (hscope : scope.isAbsolute = true) (segment : Text) (p : Path)
    (hp : p.isAbsolute = true) : ∀ q ∈ successors fs scope segment p, q.isAbsolute = true := by
  intro q hq
  by_cases hparent : segment = parentPart
  · rw [successors, if_pos hparent] at hq
    exact Path.isAbsolute_of_parent? (Path.isAbsolute_join hscope p) (Option.mem_toList.1 hq)
  · by_cases hbelow : segment = ['*', '*']
    · rw [successors, if_neg hparent, if_pos hbelow] at hq
      obtain ⟨_, rfl | habsolute⟩ := isDirectory_of_mem_directories hscope hq
      · exact hp
      · exact habsolute
    · obtain ⟨name, _, rfl, _⟩ := exists_child_of_mem_successors hscope hparent hbelow hq
      exact Path.isAbsolute_child (Path.isAbsolute_join hscope p) name

/-- A segment other than `..` looks for what it gives; only a relative path is looked for
elsewhere. -/
theorem hasEntry_successors_of_ne_parent (hscope : scope.isAbsolute = true) {segment : Text}
    (hparent : segment ≠ parentPart) {p : Path}
    (hp : segment = ['*', '*'] → p.isAbsolute = true ∨ fs.HasEntry (scope.join p)) :
    ∀ q ∈ successors fs scope segment p, fs.HasEntry (scope.join q) := by
  intro q hq
  by_cases hbelow : segment = ['*', '*']
  · rw [successors, if_neg hparent, if_pos hbelow] at hq
    obtain ⟨hdirectory, hcases⟩ := isDirectory_of_mem_directories hscope hq
    by_cases habsolute : q.isAbsolute = true
    · rw [Path.join_of_isAbsolute habsolute]
      exact FileSystem.hasEntry_of_isDirectory habsolute hdirectory
    · obtain rfl := hcases.resolve_right habsolute
      exact (hp hbelow).resolve_left habsolute
  · obtain ⟨name, hname, rfl, hseen⟩ := exists_child_of_mem_successors hscope hparent hbelow hq
    rw [hseen]
    exact FileSystem.hasEntry_child (Path.isAbsolute_join hscope p) hname

theorem hasEntry_successors (hscope : scope.isAbsolute = true) (segment : Text) (p : Path)
    (hp : fs.HasEntry (scope.join p)) :
    ∀ q ∈ successors fs scope segment p, fs.HasEntry (scope.join q) := by
  by_cases hparent : segment = parentPart
  · intro q hq
    rw [successors, if_pos hparent, Option.mem_toList] at hq
    rw [Path.join_of_isAbsolute (Path.isAbsolute_of_parent? (Path.isAbsolute_join hscope p) hq)]
    obtain ⟨_, rfl⟩ := Path.parent?_eq_some_iff.1 hq
    exact hp.parent
  · exact hasEntry_successors_of_ne_parent hscope hparent fun _ => Or.inr hp

/-! ## All segments -/

theorem hasEntry_of_mem_reached (hscope : scope.isAbsolute = true) {d : Path} {segments : List Text}
    (h : fs.HasEntry (scope.join d) ∨ ∃ segment ∈ segments, segment ≠ parentPart ∧
      (segment = ['*', '*'] → d.isAbsolute = true)) :
    ∀ q ∈ reached fs scope [d] segments, fs.HasEntry (scope.join q) := by
  rcases h with hd | ⟨segment, hsegment, hparent, hbelow⟩
  · exact forall_mem_reached (hasEntry_successors hscope) (by simpa using hd) segments
  · -- whatever the segments before it reach, this one looks for what it gives, and those behind
    -- keep it
    obtain ⟨front, rest, rfl⟩ := List.append_of_mem hsegment
    rw [reached_append]
    refine forall_mem_reached (hasEntry_successors hscope) (fun q hq => ?_) rest
    obtain ⟨p, hp, hq⟩ := List.mem_flatMap.1 hq
    refine hasEntry_successors_of_ne_parent hscope hparent (fun heq => Or.inl ?_) q hq
    exact forall_mem_reached (isAbsolute_successors hscope) (by simpa using hbelow heq) front p hp

/-- The root of the file system has an entry, and so has a scope that has a canonical path. Only a
home directory can be relative. -/
theorem hasEntry_startDirectory (hscope : scope.isAbsolute = true) {parsed : Pattern} {d : Path}
    (hstart : parsed.startDirectory fs env scope = .ok d) :
    (parsed.root ≠ .home → d.isAbsolute = true) ∧
      (parsed.root = .absolute [] ∨
          (parsed.root = .relative ∧ ∃ c, fs.canonicalize scope (Path.ofText []) = .ok c) →
        fs.HasEntry (scope.join d)) := by
  rw [Pattern.startDirectory] at hstart
  cases hkind : parsed.root with
  | absolute head =>
    rw [hkind] at hstart
    obtain rfl := Except.ok.inj hstart
    refine ⟨fun _ => Path.isAbsolute_join hscope _, ?_⟩
    rintro (hhead | ⟨hrelative, _⟩)
    · obtain rfl := PatternRoot.absolute.inj hhead
      exact FileSystem.hasEntry_of_parts_eq_nil rfl
    · cases hrelative
  | home => exact ⟨fun hhome => (hhome rfl).elim, by simp⟩
  | relative =>
    rw [hkind] at hstart
    have hcanonical : ∀ c, fs.canonicalize scope (Path.ofText []) = .ok c →
        c.isAbsolute = true ∧ fs.HasEntry (scope.join c) := by
      intro c hc
      have hc := FileSystem.isCanonical_of_canonicalize hc
      rw [Path.join_of_isAbsolute hc.isAbsolute]
      exact ⟨hc.isAbsolute, FileSystem.hasEntry_of_locate hc.isAbsolute hc.locate_eq⟩
    dsimp only at hstart
    split at hstart
    · next hmissing =>
      obtain rfl := Except.ok.inj hstart
      refine ⟨fun _ => Path.isAbsolute_join hscope _, ?_⟩
      rintro (hhead | ⟨_, c, hc⟩)
      · cases hhead
      · rw [hmissing] at hc
        cases hc
    · exact ⟨fun _ => (hcanonical d hstart).1, fun _ => (hcanonical d hstart).2⟩

/-- Every path that a glob gives has an entry, and a call on it is not refused for want of one, as
soon as the pattern holds a segment other than `..`, or its start has an entry. The start always has
one where the pattern starts with a separator, and where it is relative to a scope that is there. A
pattern of `..` alone gives the path that many parents above its start, whatever is there. From a
relative home directory `**` looks for the start in another place, and does not count. -/
theorem hasEntry_of_outcome_glob (hscope : scope.isAbsolute = true) {given : List Path}
    (h : (glob fs env scope pattern).outcome = .ok given) :
    ∃ d, (Pattern.ofText pattern).startDirectory fs env scope = .ok d ∧
      ((Pattern.ofText pattern).root ≠ .home → d.isAbsolute = true) ∧
      ((Pattern.ofText pattern).root = .absolute [] ∨ ((Pattern.ofText pattern).root = .relative ∧
        ∃ c, fs.canonicalize scope (Path.ofText []) = .ok c) → fs.HasEntry (scope.join d)) ∧
      (fs.HasEntry (scope.join d) ∨ (∃ segment ∈ (Pattern.ofText pattern).segments,
          segment ≠ parentPart ∧ (segment = ['*', '*'] → d.isAbsolute = true)) →
        ∀ q ∈ given, fs.HasEntry (scope.join q) ∧
          ∀ why, fs.linkStatus (scope.join q).text = .error why →
            why = .denied ∨ why = .tooLong ∨ why = .nullCharacter) ∧
      ∀ ups, (Pattern.ofText pattern).segments = List.replicate ups parentPart →
        given.map scope.join = ((scope.join d).climb ups).toList := by
  obtain ⟨d, hstart, rfl⟩ := exists_eq_reached_of_outcome_glob hscope h
  obtain ⟨habsolute, hfound⟩ := hasEntry_startDirectory hscope hstart
  refine ⟨d, hstart, habsolute, hfound, fun hlooks q hq => ?_, fun ups hups => ?_⟩
  · have hentry := hasEntry_of_mem_reached hscope hlooks q hq
    exact ⟨hentry, fun why => hentry.why_of_linkStatus (Path.isAbsolute_join hscope q)⟩
  · rw [hups]
    exact map_join_reached_replicate hscope ups d

theorem hasEntry_of_outcome_glob_of_dangling :
    let fs := (FileSystem.empty.insert ["d"] (.directory { searching := true })).insert ["d", "f"]
      (.link "gone")
    Path.rootDirectory.isAbsolute = true ∧
      (glob fs [] .rootDirectory "/d/?").outcome = .ok [Path.ofText "/d/f"] ∧
      fs.HasEntry (Path.ofText "/d/f") := by
  intro fs
  have hgiven : (glob fs [] .rootDirectory "/d/?").outcome = .ok [Path.ofText "/d/f"] := rfl
  obtain ⟨d, _, _, hfound, hgives, _⟩ := @hasEntry_of_outcome_glob fs [] .rootDirectory "/d/?" rfl _
    hgiven
  have hentries := hgives (Or.inl (hfound (Or.inl rfl)))
  exact ⟨rfl, hgiven, (hentries _ (List.mem_singleton_self _)).1⟩

/-- A home directory that is missing is given for its tilde, and not for its name. -/
theorem outcome_glob_of_missing_home :
    let env : Environment := [("HOME", "/gone")]
    (glob .empty env .rootDirectory "~").outcome = .ok [Path.ofText "/gone"] ∧
      (glob .empty env .rootDirectory "/gone").outcome = .ok [] ∧
      ¬ FileSystem.empty.HasEntry (Path.ofText "/gone") := by
  refine ⟨rfl, rfl, fun hentry => ?_⟩
  obtain ⟨_, _, l, hfollows, _, hup | ⟨node, hnode⟩⟩ := hentry [] "gone" [] rfl
  · cases hup
  · obtain ⟨_, rfl⟩ := FileSystem.follows_nil_iff.1 hfollows
    cases hnode

end Glob

end ScopedShell
