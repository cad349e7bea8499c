import ScopedShell.Proofs.FileSystem.Canonical
import ScopedShell.Proofs.Glob.Candidates

/-!
# When a glob fails

A glob fails before it looks at any segment if it has no start. From a start it fails for the first
segment that is not balanced, and for nothing else (`outcome_glob_eq_invalidPattern_iff`), unless a
candidate with a null character in its path has to be listed before. A system in which no name holds
a null character has no such candidates if the start is not one (`not_stuck_of_isClear`).

A pattern of balanced segments gives the candidates that it reaches, whatever is missing and
whatever may not be read. Only the start of a relative pattern is looked up in a way that can be
refused (`outcome_glob_of_balanced`).
-/

namespace ScopedShell

namespace FileSystem

/-- No name holds a null character, as on any system that ends its names with one. -/
def NoNullNames (fs : FileSystem) : Prop :=
  ∀ entry ∈ fs.entries, ∀ name ∈ entry.1, '\x00' ∉ name

variable {fs : FileSystem}

theorem NoNullNames.of_mem_listing (h : fs.NoNullNames) {p : Path} {name : Text}
    (hname : name ∈ fs.listing p) : '\x00' ∉ name := by
  rcases fs.exists_listing_eq p with heq | ⟨l, heq⟩
  · rw [heq] at hname
    cases hname
  · rw [heq, mem_namesIn_iff] at hname
    obtain ⟨node, hnode⟩ := Option.isSome_iff_exists.1 hname
    exact h _ (node?_eq_some_iff.1 hnode) name (by simp)

theorem NoNullNames.of_isCanonical (h : fs.NoNullNames) {c : Path} (hc : fs.IsCanonical c) :
    ∀ part ∈ c.parts, '\x00' ∉ part := by
  obtain ⟨node, hnode⟩ := Option.isSome_iff_exists.1 (isSome_node?_of_locate hc.locate_eq)
  exact h _ (node?_eq_some_iff.1 hnode)

end FileSystem

namespace Glob

variable {fs : FileSystem} {env : Environment} {scope : Path} {pattern : Text}

/-! ## Candidates without null characters -/

/-- Seen from the scope, no part of the path holds a null character. -/
def IsClear (scope p : Path) : Prop := ∀ part ∈ (scope.join p).parts, '\x00' ∉ part

theorem isClear_of_isAbsolute {p : Path} (habsolute : p.isAbsolute = true) :
    IsClear scope p ↔ ∀ part ∈ p.parts, '\x00' ∉ part := by
  rw [IsClear, Path.join_of_isAbsolute habsolute]

theorem isClear_iff {p : Path} : IsClear scope p ↔ '\x00' ∉ (scope.join p).text := by
  rw [Path.mem_text_iff (by decide) (by decide), IsClear]
  push Not
  rfl

theorem IsClear.child (hscope : scope.isAbsolute = true) {p : Path} {name : Text}
    (h : IsClear scope p) (hname : IsPart name) (hnull : '\x00' ∉ name) :
    IsClear scope ((scope.join p).child name) := by
  rw [isClear_of_isAbsolute (Path.isAbsolute_child (Path.isAbsolute_join hscope p) name),
    Path.parts_child _ hname]
  intro part hpart
  rcases List.mem_append.1 hpart with hpart | hpart
  · exact h part hpart
  · exact List.mem_singleton.1 hpart ▸ hnull

theorem IsClear.of_mem_listing (hscope : scope.isAbsolute = true) (hfs : fs.NoNullNames) {p : Path}
    (h : IsClear scope p) {name : Text} (hname : name ∈ fs.listing (scope.join p)) :
    IsClear scope ((scope.join p).child name) :=
  h.child hscope (FileSystem.isName_of_mem_listing hname).1 (hfs.of_mem_listing hname)

theorem IsClear.turn (hscope : scope.isAbsolute = true) (hfs : fs.NoNullNames) {isStart : Bool}
    {p : Path} {given below : List Path} (h : IsClear scope p)
    (hturn : (turn fs scope isStart p).outcome = .ok (given, below)) :
    ∀ q ∈ given ++ below, IsClear scope q := by
  have hnone : ∀ q ∈ ([] ++ [] : List Path), IsClear scope q := by simp
  rw [Glob.turn] at hturn
  split at hturn
  · cases hturn
    exact hnone
  · cases hturn
    exact hnone
  · split at hturn
    · cases hturn
      exact hnone
    · cases hturn
      simpa using h
    · rw [Traced.outcome_bind, outcome_children_of_scope hscope, if_neg (isClear_iff.1 h)] at hturn
      cases hturn
      intro q hq
      rcases List.mem_cons.1 hq with rfl | hq
      · exact h
      · obtain ⟨name, hname, rfl⟩ := List.mem_map.1 hq
        exact h.of_mem_listing hscope hfs hname

theorem isClear_of_visits (hscope : scope.isAbsolute = true) (hfs : fs.NoNullNames) {turns : Nat}
    {isStart : Bool} {pending given : List Path} (h : Visits fs scope turns isStart pending given)
    (hpending : ∀ p ∈ pending, IsClear scope p) : ∀ p ∈ given, IsClear scope p := by
  induction h with
  | finished => exact hpending
  | turned hturn h ih =>
    rw [List.forall_mem_cons] at hpending
    have hnext := hpending.1.turn hscope hfs hturn
    rw [List.forall_mem_append] at hnext ⊢
    refine ⟨hnext.1, ih ?_⟩
    rw [List.forall_mem_append]
    exact ⟨hnext.2, hpending.2⟩

theorem IsClear.not_blocks {p : Path} (h : IsClear scope p) (segment : Text) :
    ¬ Blocks fs scope segment p :=
  fun hblocks => isClear_iff.1 h hblocks.2.2.1

theorem IsClear.successors (hscope : scope.isAbsolute = true) (hfs : fs.NoNullNames) {p : Path}
    (h : IsClear scope p) (segment : Text) :
    ∀ q ∈ successors fs scope segment p, IsClear scope q := by
  intro q hq
  rw [Glob.successors] at hq
  split at hq
  · obtain ⟨_, hparent⟩ := Option.ite_none_left_eq_some.1 (Option.mem_toList.1 hq)
    obtain rfl := Option.some.inj hparent
    have habsolute : (scope.join p).parent.isAbsolute = true := Path.isAbsolute_join hscope p
    rw [isClear_of_isAbsolute habsolute]
    exact fun part hpart => h part (List.dropLast_subset _ hpart)
  · split at hq
    · have hblocks : ¬ Blocks fs scope ['*', '*'] p := h.not_blocks _
      obtain ⟨_, turns, hvisits⟩ := exists_visits_directories hscope hblocks
      exact isClear_of_visits hscope hfs hvisits (by simpa using h) q hq
    · obtain ⟨name, hname, rfl⟩ := List.mem_map.1 hq
      exact h.of_mem_listing hscope hfs (List.mem_filter.1 hname).1

theorem isClear_of_mem_reached (hscope : scope.isAbsolute = true) (hfs : fs.NoNullNames)
    {candidates : List Path} {segments : List Text} (h : ∀ p ∈ candidates, IsClear scope p) :
    ∀ p ∈ reached fs scope candidates segments, IsClear scope p := by
  induction segments generalizing candidates with
  | nil => exact h
  | cons segment segments ih =>
    apply ih
    intro q hq
    obtain ⟨p, hp, hq⟩ := List.mem_flatMap.1 hq
    exact (h p hp).successors hscope hfs segment q hq

theorem not_stuck_of_isClear (hscope : scope.isAbsolute = true) (hfs : fs.NoNullNames) {d : Path}
    (h : IsClear scope d) (segments : List Text) : ¬ Stuck fs scope [d] segments := by
  rintro ⟨front, segment, rest, _, p, hp, hblocks⟩
  exact (isClear_of_mem_reached hscope hfs (by simpa using h) p hp).not_blocks segment hblocks

/-! ## Starts -/

theorem isClear_join {p : Path} (hnull : '\x00' ∉ scope.text)
    (hp : ∀ part ∈ p.parts, '\x00' ∉ part) : IsClear scope p := by
  rw [Path.mem_text_iff (by decide) (by decide)] at hnull
  intro part hpart hmem
  rw [Path.parts_join] at hpart
  split at hpart
  · rcases List.mem_append.1 hpart with hpart | hpart
    · exact hnull ⟨part, hpart, hmem⟩
    · exact hp part hpart hmem
  · exact hp part hpart hmem

/-- A start without null characters: none in the scope, in the home directory or in the root of the
pattern, and no name that holds one. -/
theorem isClear_startDirectory (hscope : scope.isAbsolute = true) (hnull : '\x00' ∉ scope.text)
    (hfs : fs.NoNullNames) {parsed : Pattern} {d : Path}
    (hhome : parsed.root = .home → ∀ home, homeDirectory env = .ok home → '\x00' ∉ home.text)
    (hroot : '\x00' ∉ parsed.root.text) (hstart : parsed.startDirectory fs env scope = .ok d) :
    IsClear scope d := by
  rw [Pattern.startDirectory] at hstart
  cases hkind : parsed.root with
  | absolute head =>
    rw [hkind] at hstart hroot
    obtain rfl := Except.ok.inj hstart
    have hpath : IsClear scope (Path.ofText (head ++ ['/'])) := by
      apply isClear_join hnull
      intro part hpart hmem
      have hhead := Path.mem_of_mem_partsOf hpart hmem
      rw [List.mem_append] at hhead
      exact hhead.elim hroot (by decide)
    exact (isClear_of_isAbsolute (Path.isAbsolute_join hscope _)).2 hpath
  | home =>
    rw [hkind] at hstart
    have hclear := hhome hkind d hstart
    rw [Path.mem_text_iff (by decide) (by decide)] at hclear
    exact isClear_join hnull fun part hpart hmem => hclear ⟨part, hpart, hmem⟩
  | relative =>
    rw [hkind] at hstart
    have hcanonical : ∀ c, fs.canonicalize scope (Path.ofText []) = .ok c → IsClear scope c := by
      intro c hc
      have hc := FileSystem.isCanonical_of_canonicalize hc
      exact (isClear_of_isAbsolute hc.isAbsolute).2 (hfs.of_isCanonical hc)
    dsimp only at hstart
    split at hstart
    · obtain rfl := Except.ok.inj hstart
      rw [isClear_of_isAbsolute (Path.isAbsolute_join hscope _)]
      exact isClear_join hnull (by decide)
    · exact hcanonical d hstart

/-- Only the start of a relative pattern can be refused. -/
theorem exists_startDirectory {parsed : Pattern}
    (hhome : parsed.root = .home → ∃ home, homeDirectory env = .ok home)
    (hrelative : parsed.root = .relative →
      ∀ refused, fs.canonicalize scope (Path.ofText []) ≠ .error (.refused refused)) :
    ∃ d, parsed.startDirectory fs env scope = .ok d := by
  rw [Pattern.startDirectory]
  cases hkind : parsed.root with
  | absolute head => exact ⟨_, rfl⟩
  | home => exact hhome hkind
  | relative =>
    cases hcanonical : fs.canonicalize scope (Path.ofText []) with
    | ok c => exact ⟨c, rfl⟩
    | error fault =>
      obtain ⟨q, why, _, _, rfl⟩ := FileSystem.exists_call_of_canonicalize hcanonical
      split at hcanonical
      · next hwhy => simp [hwhy]
      · exact (hrelative hkind _ hcanonical).elim

/-! ## Segments that are not balanced -/

theorem exists_first_not_balanced {segments : List Text}
    (h : ¬ ∀ segment ∈ segments, Balanced segment) :
    ∃ front segment rest, segments = front ++ segment :: rest ∧ (∀ s ∈ front, Balanced s) ∧
      ¬ Balanced segment := by
  induction segments with
  | nil => simp at h
  | cons segment segments ih =>
    by_cases hfirst : Balanced segment
    · rw [List.forall_mem_cons, not_and] at h
      obtain ⟨front, other, rest, rfl, hfront, hother⟩ := ih (h hfirst)
      exact ⟨segment :: front, other, rest, rfl, List.forall_mem_cons.2 ⟨hfirst, hfront⟩, hother⟩
    · exact ⟨[], segment, segments, rfl, by simp, hfirst⟩

/-- An expansion that is not stuck fails exactly if some segment is not balanced, and then for the
first one, wherever it stands and whatever candidates are left when it is met. -/
theorem outcome_expandAll_eq_invalidPattern_iff (hscope : scope.isAbsolute = true)
    {candidates : List Path} {segments : List Text} (h : ¬ Stuck fs scope candidates segments)
    {segment : Text} {imbalance : Imbalance} :
    (expandAll fs scope pattern candidates segments).outcome =
        .error (.invalidPattern segment imbalance) ↔
      ∃ front rest, segments = front ++ segment :: rest ∧ (∀ s ∈ front, Balanced s) ∧
        HasImbalance segment imbalance := by
  constructor
  · intro hfails
    by_cases hbalanced : ∀ s ∈ segments, Balanced s
    · rw [outcome_expandAll_eq_reached hscope hbalanced h] at hfails
      cases hfails
    · obtain ⟨front, first, rest, rfl, hfront, hfirst⟩ := exists_first_not_balanced hbalanced
      obtain ⟨found, hfound⟩ := not_balanced_iff.1 hfirst
      rw [outcome_expandAll_of_imbalance hscope hfront hfound h] at hfails
      cases hfails
      exact ⟨front, rest, rfl, hfront, hfound⟩
  · rintro ⟨front, rest, rfl, hfront, himbalance⟩
    exact outcome_expandAll_of_imbalance hscope hfront himbalance h

theorem compileSegment_eq_error_iff {segment : Text} {fault : Fault} :
    compileSegment segment = .error fault ↔
      ∃ imbalance, HasImbalance segment imbalance ∧ fault = .invalidPattern segment imbalance := by
  rw [compileSegment]
  rcases compile_cases segment with ⟨hbalanced, accepts, hcompile⟩ | ⟨found, hfound, hcompile⟩
  · rw [hcompile]
    refine iff_of_false (fun h => by cases h) ?_
    rintro ⟨imbalance, himbalance, _⟩
    exact himbalance.not_balanced hbalanced
  · rw [hcompile]
    constructor
    · intro h
      exact ⟨found, hfound, (Except.error.inj h).symm⟩
    · rintro ⟨imbalance, himbalance, rfl⟩
      rw [himbalance.unique hfound]
      rfl

/-- A segment is refused exactly if its braces are not balanced, for the first closing brace that
has no open one before it, or else for its end. From a start, a glob is refused exactly if some
segment is, and for the first of them, whatever lies in the file system; only a candidate with a
null character that has to be listed before makes it fail for that path instead. -/
theorem outcome_glob_eq_invalidPattern_iff {d : Path} (hscope : scope.isAbsolute = true)
    (hstart : (Pattern.ofText pattern).startDirectory fs env scope = .ok d) :
    (∀ segment, ((∃ fault, compileSegment segment = .error fault) ↔ ¬ Balanced segment) ∧
      ∀ fault, compileSegment segment = .error fault ↔
        ∃ imbalance, HasImbalance segment imbalance ∧ fault = .invalidPattern segment imbalance) ∧
    (¬ Stuck fs scope [d] (Pattern.ofText pattern).segments →
      ((∃ segment imbalance, (glob fs env scope pattern).outcome =
          .error (.invalidPattern segment imbalance)) ↔
        ∃ segment ∈ (Pattern.ofText pattern).segments, ¬ Balanced segment) ∧
      ∀ segment imbalance, (glob fs env scope pattern).outcome =
          .error (.invalidPattern segment imbalance) ↔
        ∃ front rest, (Pattern.ofText pattern).segments = front ++ segment :: rest ∧
          (∀ s ∈ front, Balanced s) ∧ HasImbalance segment imbalance) ∧
    (Stuck fs scope [d] (Pattern.ofText pattern).segments →
      ∃ path, '\x00' ∈ path ∧
        (glob fs env scope pattern).outcome = .error (.refused ⟨.nullCharacter, path⟩)) := by
  rw [outcome_glob_eq_outcome_expandAll hstart]
  refine ⟨fun segment => ⟨?_, fun fault => compileSegment_eq_error_iff⟩, fun hstuck => ?_,
    fun hstuck => outcome_expandAll_of_stuck hscope hstuck⟩
  · rw [not_balanced_iff]
    simp only [compileSegment_eq_error_iff]
    constructor
    · rintro ⟨_, imbalance, himbalance, _⟩
      exact ⟨imbalance, himbalance⟩
    · rintro ⟨imbalance, himbalance⟩
      exact ⟨_, imbalance, himbalance, rfl⟩
  · refine ⟨?_, fun segment imbalance => outcome_expandAll_eq_invalidPattern_iff hscope hstuck⟩
    simp only [outcome_expandAll_eq_invalidPattern_iff hscope hstuck]
    constructor
    · rintro ⟨segment, imbalance, front, rest, heq, _, himbalance⟩
      exact ⟨segment, by simp [heq], himbalance.not_balanced⟩
    · rintro ⟨segment, hsegment, hnot⟩
      obtain ⟨front, first, rest, heq, hfront, hfirst⟩ :=
        exists_first_not_balanced fun hall => hnot (hall segment hsegment)
      obtain ⟨imbalance, himbalance⟩ := not_balanced_iff.1 hfirst
      exact ⟨first, imbalance, front, rest, heq, hfront, himbalance⟩

theorem outcome_glob_eq_invalidPattern_iff_of_missing :
    Path.rootDirectory.isAbsolute = true ∧
      (Pattern.ofText "gone/**/a\x7d").startDirectory .empty [] .rootDirectory =
        .ok .rootDirectory ∧
      ¬ Stuck .empty .rootDirectory [.rootDirectory] ["gone", "**", "a\x7d"] ∧
      (glob .empty [] .rootDirectory "gone/**/a\x7d").outcome =
        .error (.invalidPattern "a\x7d" ⟨1, .unmatchedClose⟩) := by
  have hnames : FileSystem.empty.NoNullNames := by unfold FileSystem.NoNullNames; decide
  have hstuck : ¬ Stuck .empty .rootDirectory [.rootDirectory] ["gone", "**", "a\x7d"] :=
    not_stuck_of_isClear rfl hnames (isClear_iff.2 (by decide)) _
  obtain ⟨_, hfails, _⟩ := @outcome_glob_eq_invalidPattern_iff .empty [] .rootDirectory
    "gone/**/a\x7d" .rootDirectory rfl rfl
  refine ⟨rfl, rfl, hstuck, ?_⟩
  refine ((hfails hstuck).2 _ _).2 ⟨["gone", "**"], [], rfl, ?_, compile_eq_error_iff.1 rfl⟩
  intro segment hsegment
  simp only [List.mem_cons, List.not_mem_nil, or_false] at hsegment
  rcases hsegment with rfl | rfl
  all_goals exact exists_compile_eq_ok_iff.1 ⟨_, rfl⟩

/-- A start with a null character hides a segment that is not balanced. -/
theorem outcome_glob_of_null_before_imbalance :
    (Pattern.ofText "x:\x00/a/\x7b").startDirectory .empty [] .rootDirectory =
        .ok (Path.ofText "/x:\x00") ∧
      (∃ segment ∈ (Pattern.ofText "x:\x00/a/\x7b").segments, ¬ Balanced segment) ∧
      ¬ ∃ segment imbalance, (glob .empty [] .rootDirectory "x:\x00/a/\x7b").outcome =
        .error (.invalidPattern segment imbalance) := by
  refine ⟨rfl, ⟨"\x7b", by decide, ?_⟩, ?_⟩
  · exact not_balanced_iff.2 ⟨_, compile_eq_error_iff.1 rfl⟩
  · rintro ⟨segment, imbalance, hfails⟩
    have hnull : (glob .empty [] .rootDirectory "x:\x00/a/\x7b").outcome =
        .error (.refused ⟨.nullCharacter, "/x:\x00"⟩) := rfl
    rw [hnull] at hfails
    cases hfails

/-! ## Patterns of balanced segments -/

/-- A pattern of balanced segments whose start can be had gives the candidates that it reaches: what
is missing or may not be read only makes them fewer. A start is refused only to a relative pattern,
where looking up the scope is refused for another reason than absence, and that refusal comes out of
the glob. Null characters, which no real system has in its names, apart, nothing else fails; and
the walks for `**` come to an end by themselves. -/
theorem outcome_glob_of_balanced (hscope : scope.isAbsolute = true) (hnull : '\x00' ∉ scope.text)
    (hbalanced : ∀ segment ∈ (Pattern.ofText pattern).segments, Balanced segment)
    (hhome : (Pattern.ofText pattern).root = .home →
      ∃ home, homeDirectory env = .ok home ∧ '\x00' ∉ home.text) :
    (∀ refused, (Pattern.ofText pattern).root = .relative →
      fs.canonicalize scope (Path.ofText []) = .error (.refused refused) →
        (refused.why = .denied ∨ refused.why = .tooLong ∨ refused.why = .nullCharacter) ∧
        (glob fs env scope pattern).outcome = .error (.refused refused)) ∧
    (((Pattern.ofText pattern).root = .relative →
        ∀ refused, fs.canonicalize scope (Path.ofText []) ≠ .error (.refused refused)) →
      ∃ d, (Pattern.ofText pattern).startDirectory fs env scope = .ok d ∧
        (¬ Stuck fs scope [d] (Pattern.ofText pattern).segments →
          (glob fs env scope pattern).outcome =
            .ok (reached fs scope [d] (Pattern.ofText pattern).segments)) ∧
        (Stuck fs scope [d] (Pattern.ofText pattern).segments →
          ∃ path, '\x00' ∈ path ∧
            (glob fs env scope pattern).outcome = .error (.refused ⟨.nullCharacter, path⟩)) ∧
        (fs.NoNullNames → '\x00' ∉ (Pattern.ofText pattern).root.text →
          ¬ Stuck fs scope [d] (Pattern.ofText pattern).segments)) ∧
    ∀ p given, (directoriesBelow fs scope p).outcome = .ok given →
      ∃ turns, Visits fs scope turns true [p] given := by
  refine ⟨fun refused hroot hrefused => ⟨FileSystem.why_of_canonicalize hrefused, ?_⟩,
    fun hrelative => ?_, fun p given hgiven => ?_⟩
  · rw [glob, Traced.outcome_bind, Pattern.startDirectory, hroot]
    simp only [hrefused]
    rfl
  · have hdetermined : (Pattern.ofText pattern).root = .home →
        ∃ home, homeDirectory env = .ok home :=
      fun hroot => (hhome hroot).imp fun _ h => h.1
    obtain ⟨d, hstart⟩ := exists_startDirectory hdetermined hrelative
    refine ⟨d, hstart, fun hstuck => ?_, fun hstuck => ?_, fun hfs hroot => ?_⟩
    · rw [outcome_glob_eq_outcome_expandAll hstart]
      exact outcome_expandAll_eq_reached hscope hbalanced hstuck
    · rw [outcome_glob_eq_outcome_expandAll hstart]
      exact outcome_expandAll_of_stuck hscope hstuck
    · apply not_stuck_of_isClear hscope hfs
      refine isClear_startDirectory hscope hnull hfs (fun hkind home hhome' => ?_) hroot hstart
      obtain ⟨_, hfound, hclear⟩ := hhome hkind
      exact Except.ok.inj (hfound.symm.trans hhome') ▸ hclear
  · by_cases hblocks : Blocks fs scope ['*', '*'] p
    · have hfails := outcome_expandOne_of_blocks hscope hblocks
      rw [expandOne, if_neg (by decide), if_pos rfl, hgiven] at hfails
      cases hfails
    · obtain ⟨houtcome, hvisits⟩ := exists_visits_directories hscope hblocks
      exact Except.ok.inj (houtcome.symm.trans hgiven) ▸ hvisits

theorem outcome_glob_of_balanced_of_unreadable :
    let fs := FileSystem.empty.insert ["a"] (.directory { reading := true })
    let scope := Path.ofText "/a"
    scope.isAbsolute = true ∧ '\x00' ∉ scope.text ∧
      (∀ segment ∈ (Pattern.ofText "*/..").segments, Balanced segment) ∧
      (Pattern.ofText "*/..").root = .relative ∧
      (Pattern.ofText "*/..").startDirectory fs [] scope = .ok scope ∧
      ¬ Stuck fs scope [scope] (Pattern.ofText "*/..").segments ∧
      (glob fs [] scope "*/..").outcome =
        .ok (reached fs scope [scope] (Pattern.ofText "*/..").segments) ∧
      reached fs scope [scope] (Pattern.ofText "*/..").segments = [] := by
  intro fs scope
  have hbalanced : ∀ segment ∈ (Pattern.ofText "*/..").segments, Balanced segment := by
    intro segment hsegment
    rcases List.mem_cons.1 hsegment with rfl | hsegment
    · exact exists_compile_eq_ok_iff.1 ⟨_, rfl⟩
    · exact List.mem_singleton.1 hsegment ▸ exists_compile_eq_ok_iff.1 ⟨_, rfl⟩
  have hrelative : (Pattern.ofText "*/..").root = .relative →
      ∀ refused, fs.canonicalize scope (Path.ofText []) ≠ .error (.refused refused) := by
    intro _ refused hrefused
    cases hrefused
  have hnames : fs.NoNullNames := by unfold FileSystem.NoNullNames; decide
  have hstuck : ¬ Stuck fs scope [scope] (Pattern.ofText "*/..").segments :=
    not_stuck_of_isClear rfl hnames (isClear_iff.2 (by decide)) _
  obtain ⟨_, hgives, _⟩ := @outcome_glob_of_balanced fs [] scope "*/.." rfl (by decide) hbalanced
    fun hhome => by cases hhome
  obtain ⟨d, hstart, hreached, _⟩ := hgives hrelative
  obtain rfl : scope = d := Except.ok.inj hstart
  exact ⟨rfl, by decide, hbalanced, rfl, hstart, hstuck, hreached hstuck, rfl⟩

/-- Below a directory that may not be searched, a relative pattern fails instead of giving no
path. -/
theorem outcome_glob_of_unsearchable_scope :
    let fs := (FileSystem.empty.insert ["d"] (.directory { searching := true })).insert ["d", "x"]
      (.directory {})
    (Path.ofText "/d/x").isAbsolute = true ∧ '\x00' ∉ (Path.ofText "/d/x").text ∧
      (∀ segment ∈ (Pattern.ofText "*").segments, Balanced segment) ∧
      (Pattern.ofText "*").root = .relative ∧
      (glob fs [] (Path.ofText "/d/x") "*").outcome = .error (.refused ⟨.denied, "/d/x"⟩) := by
  refine ⟨rfl, by decide, fun segment hsegment => ?_, rfl, rfl⟩
  exact List.mem_singleton.1 hsegment ▸ exists_compile_eq_ok_iff.1 ⟨_, rfl⟩

end Glob

end ScopedShell
