import ScopedShell.Glob.Expansion
import ScopedShell.Proofs.FileSystem.Listing

/-!
# The routes of a pattern

A segment that stands for children takes every candidate one name further down. A pattern of such
segments leads from its start along routes, one name for each segment: every name is listed where
the route has come to, and the segment admits it. `routes` lists them, and a glob gives the paths
at their ends (`outcome_expandAll`), in the order of the positions that the names have in their
listings (`pairwise_positions_routes`).

A route that comes to a path with a null character cannot go on, and the whole glob fails there
(`outcome_expandAll_of_meetsNull`).
-/

namespace ScopedShell

namespace Glob

/-- A segment that takes a candidate to some of its children. -/
def StandsForChildren (segment : Text) : Prop :=
  segment ≠ parentPart ∧ segment ≠ ['*', '*'] ∧ ∃ accepts, compile segment = .ok accepts

def Admits (segment name : Text) : Prop :=
  segment = ['.'] ∨ ∃ accepts, compile segment = .ok accepts ∧ accepts name = true

/-- Names lead from a directory through the segments: each is listed where the names before it
lead, and its segment admits it. -/
def Leads (fs : FileSystem) : Path → List Text → List Text → Prop
  | _, [], [] => True
  | d, segment :: segments, name :: names =>
    (∃ listed, fs.list d.text = .ok listed ∧ name ∈ listed) ∧ Admits segment name ∧
      Leads fs (d.child name) segments names
  | _, _, _ => False

/-- Before the last segment, names lead to a path that holds a null character. -/
def MeetsNull (fs : FileSystem) (d : Path) (segments : List Text) : Prop :=
  ∃ front rest names, segments = front ++ rest ∧ rest ≠ [] ∧ Leads fs d front names ∧
    '\x00' ∈ (d.descend names).text

/-! ## The routes -/

def admits (segment name : Text) : Bool :=
  segment = ['.'] || match compile segment with
    | .ok accepts => accepts name
    | .error _ => false

theorem admits_iff {segment name : Text} : admits segment name = true ↔ Admits segment name := by
  rw [admits, Admits, Bool.or_eq_true, decide_eq_true_iff]
  cases compile segment with
  | ok accepts => simp
  | error imbalance => simp

/-- The names through which a segment leads from a directory, in the order of the listing. -/
def admitted (fs : FileSystem) (segment : Text) (d : Path) : List Text :=
  (fs.listing d).filter (admits segment)

def routes (fs : FileSystem) : Path → List Text → List (List Text)
  | _, [] => [[]]
  | d, segment :: segments =>
    Path.through (admitted fs segment d) fun name => routes fs (d.child name) segments

variable {fs : FileSystem}

theorem mem_admitted_iff {segment name : Text} {d : Path} :
    name ∈ admitted fs segment d ↔
      (∃ listed, fs.list d.text = .ok listed ∧ name ∈ listed) ∧ Admits segment name := by
  rw [admitted, List.mem_filter, FileSystem.mem_listing_iff, admits_iff]

theorem isPart_of_mem_admitted {segment name : Text} {d : Path}
    (h : name ∈ admitted fs segment d) : IsPart name :=
  (FileSystem.isName_of_mem_listing (List.mem_filter.1 h).1).1

theorem mem_routes_iff {segments names : List Text} {d : Path} :
    names ∈ routes fs d segments ↔ Leads fs d segments names := by
  induction segments generalizing d names with
  | nil => cases names <;> simp [routes, Leads]
  | cons segment segments ih =>
    rw [routes, Path.mem_through_iff]
    constructor
    · rintro ⟨name, hname, names, hroute, rfl⟩
      obtain ⟨hlisted, hadmits⟩ := mem_admitted_iff.1 hname
      exact ⟨hlisted, hadmits, ih.1 hroute⟩
    · intro h
      cases names with
      | nil => exact h.elim
      | cons name names =>
        obtain ⟨hlisted, hadmits, hleads⟩ := h
        exact ⟨name, mem_admitted_iff.2 ⟨hlisted, hadmits⟩, names, ih.2 hleads, rfl⟩

theorem isPart_of_leads {segments names : List Text} {d : Path} (h : Leads fs d segments names) :
    ∀ name ∈ names, IsPart name := by
  induction segments generalizing d names with
  | nil =>
    cases names with
    | nil => simp
    | cons name names => exact h.elim
  | cons segment segments ih =>
    cases names with
    | nil => exact h.elim
    | cons name names =>
      obtain ⟨hlisted, hadmits, hleads⟩ := h
      exact List.forall_mem_cons.2
        ⟨isPart_of_mem_admitted (mem_admitted_iff.2 ⟨hlisted, hadmits⟩), ih hleads⟩

theorem pairwise_positions_routes (fs : FileSystem) (d : Path) (segments : List Text) :
    (routes fs d segments).Pairwise fun a b => fs.positions d a < fs.positions d b := by
  induction segments generalizing d with
  | nil => exact List.pairwise_singleton _ _
  | cons segment segments ih =>
    exact FileSystem.pairwise_positions_through List.filter_sublist fun name _ => ih (d.child name)

theorem nodup_map_descend_routes (fs : FileSystem) (d : Path) (segments : List Text) :
    ((routes fs d segments).map d.descend).Nodup :=
  FileSystem.nodup_map_descend (fun _ hway => isPart_of_leads (mem_routes_iff.1 hway))
    (pairwise_positions_routes fs d segments)

/-! ## Expansion along routes -/

/-- A segment leads a path to the children that it admits, unless the path holds a null
character. -/
theorem exists_expand_eq_collect {segment : Text} (hsegment : StandsForChildren segment)
    (fs : FileSystem) (scope : Path) :
    ∃ below : Path → Traced (List Path),
      (∀ candidates, (expand fs scope candidates segment).outcome =
        (Traced.collect below candidates).outcome) ∧
      ∀ d : Path, d.isAbsolute = true → (below d).outcome =
        if '\x00' ∈ d.text then .error (.refused ⟨.nullCharacter, d.text⟩)
        else .ok ((admitted fs segment d).map d.child) := by
  obtain ⟨hparent, hbelow, accepts, hcompile⟩ := hsegment
  by_cases hdot : segment = ['.']
  · refine ⟨fs.children scope, fun candidates => by rw [expand, if_pos hdot], fun d hd => ?_⟩
    have hall : admitted fs segment d = fs.listing d :=
      List.filter_eq_self.2 fun name _ => admits_iff.2 (Or.inl hdot)
    rw [FileSystem.outcome_children hd, hall]
  · refine ⟨fun d => fs.children scope d >>= fun paths => pure (filterByName accepts paths),
      fun candidates => ?_, fun d hd => ?_⟩
    · rw [expand, if_neg hdot, if_neg hparent, if_neg hbelow, Traced.outcome_bind, compileSegment,
        hcompile]
      rfl
    · have hadmitted : admitted fs segment d = (fs.listing d).filter accepts := by
        apply List.filter_congr
        intro name _
        simp [admits, hdot, hcompile]
      rw [Traced.outcome_bind, FileSystem.outcome_children hd]
      split
      · rfl
      · change Except.ok (((fs.listing d).map d.child).filter fun p => accepts p.name) = _
        rw [hadmitted, List.filter_map]
        congr 2
        apply List.filter_congr
        intro name hname
        exact congrArg accepts (d.name_child (FileSystem.isName_of_mem_listing hname).1)

theorem outcome_expand {scope : Path} {candidates : List Path} {segment : Text}
    (hsegment : StandsForChildren segment) (habsolute : ∀ d ∈ candidates, d.isAbsolute = true)
    (hnull : ∀ d ∈ candidates, '\x00' ∉ d.text) :
    (expand fs scope candidates segment).outcome =
      .ok (candidates.flatMap fun d => (admitted fs segment d).map d.child) := by
  obtain ⟨below, hexpand, hbelow⟩ := exists_expand_eq_collect hsegment fs scope
  rw [hexpand]
  apply Traced.outcome_collect_of_ok
  intro d hd
  rw [hbelow d (habsolute d hd), if_neg (hnull d hd)]

theorem outcome_expand_of_null {scope : Path} {candidates : List Path} {segment : Text}
    (hsegment : StandsForChildren segment) (habsolute : ∀ d ∈ candidates, d.isAbsolute = true)
    (hnull : ∃ d ∈ candidates, '\x00' ∈ d.text) :
    ∃ path, '\x00' ∈ path ∧ (expand fs scope candidates segment).outcome =
      .error (.refused ⟨.nullCharacter, path⟩) := by
  obtain ⟨below, hexpand, hbelow⟩ := exists_expand_eq_collect hsegment fs scope
  have hfails : ∃ d ∈ candidates, ∃ fault, (below d).outcome = .error fault := by
    obtain ⟨d, hd, hmem⟩ := hnull
    exact ⟨d, hd, _, by rw [hbelow d (habsolute d hd), if_pos hmem]⟩
  obtain ⟨d, hd, fault, hfault, hcollect⟩ := Traced.outcome_collect_of_error hfails
  rw [hbelow d (habsolute d hd)] at hfault
  split at hfault
  · next hmem =>
    cases hfault
    exact ⟨d.text, hmem, by rw [hexpand, hcollect]⟩
  · cases hfault

theorem meetsNull_cons_iff {d : Path} {segment : Text} {segments : List Text} :
    MeetsNull fs d (segment :: segments) ↔
      '\x00' ∈ d.text ∨ ∃ name ∈ admitted fs segment d, MeetsNull fs (d.child name) segments := by
  constructor
  · rintro ⟨front, rest, names, heq, hrest, hleads, hnull⟩
    cases front with
    | nil =>
      cases names with
      | nil => exact Or.inl hnull
      | cons name names => exact hleads.elim
    | cons first front =>
      obtain ⟨rfl, rfl⟩ := List.cons.inj heq
      cases names with
      | nil => exact hleads.elim
      | cons name names =>
        obtain ⟨hlisted, hadmits, hleads⟩ := hleads
        exact Or.inr ⟨name, mem_admitted_iff.2 ⟨hlisted, hadmits⟩, front, rest, names, rfl, hrest,
          hleads, hnull⟩
  · rintro (hnull | ⟨name, hname, front, rest, names, rfl, hrest, hleads, hnull⟩)
    · exact ⟨[], segment :: segments, [], rfl, by simp, trivial, hnull⟩
    · obtain ⟨hlisted, hadmits⟩ := mem_admitted_iff.1 hname
      exact ⟨segment :: front, rest, name :: names, rfl, hrest, ⟨hlisted, hadmits, hleads⟩, hnull⟩

theorem not_meetsNull_nil (d : Path) : ¬ MeetsNull fs d [] := by
  rintro ⟨front, rest, names, heq, hrest, _⟩
  exact hrest (List.append_eq_nil_iff.1 heq.symm).2

theorem mem_next_iff {candidates : List Path} {segment : Text} {c : Path} :
    c ∈ (candidates.flatMap fun d => (admitted fs segment d).map d.child) ↔
      ∃ d ∈ candidates, ∃ name ∈ admitted fs segment d, d.child name = c := by
  simp only [List.mem_flatMap, List.mem_map]

theorem isAbsolute_of_mem_next {candidates : List Path} {segment : Text}
    (habsolute : ∀ d ∈ candidates, d.isAbsolute = true) :
    ∀ c ∈ (candidates.flatMap fun d => (admitted fs segment d).map d.child),
      c.isAbsolute = true := by
  intro c hc
  obtain ⟨d, hd, name, _, rfl⟩ := mem_next_iff.1 hc
  exact Path.isAbsolute_child (habsolute d hd) name

theorem outcome_expandAll_cons {scope : Path} {pattern : Text} {candidates : List Path}
    {segment : Text} {segments : List Text} :
    (expandAll fs scope pattern candidates (segment :: segments)).outcome =
      ((expand fs scope candidates segment).outcome >>= fun next =>
        (expandAll fs scope pattern next segments).outcome) := by
  rw [expandAll, Traced.outcome_bind]
  rfl

theorem outcome_expandAll_append {scope : Path} {pattern : Text} {candidates : List Path}
    {front rest : List Text} :
    (expandAll fs scope pattern candidates (front ++ rest)).outcome =
      ((expandAll fs scope pattern candidates front).outcome >>= fun next =>
        (expandAll fs scope pattern next rest).outcome) := by
  induction front generalizing candidates with
  | nil => rfl
  | cons segment front ih =>
    rw [List.cons_append, outcome_expandAll_cons, outcome_expandAll_cons]
    cases (expand fs scope candidates segment).outcome with
    | error fault => rfl
    | ok next => exact ih

/-- Where no way meets a null character, the candidates expand to the ends of their routes. -/
theorem outcome_expandAll {scope : Path} {pattern : Text} {candidates : List Path}
    {segments : List Text} (hsegments : ∀ segment ∈ segments, StandsForChildren segment)
    (habsolute : ∀ d ∈ candidates, d.isAbsolute = true)
    (hnull : ∀ d ∈ candidates, ¬ MeetsNull fs d segments) :
    (expandAll fs scope pattern candidates segments).outcome =
      .ok (candidates.flatMap fun d => (routes fs d segments).map d.descend) := by
  induction segments generalizing candidates with
  | nil => simp [expandAll, routes]
  | cons segment segments ih =>
    rw [List.forall_mem_cons] at hsegments
    have hexpand := @outcome_expand fs scope candidates segment hsegments.1 habsolute
      fun d hd hmem => hnull d hd (meetsNull_cons_iff.2 (Or.inl hmem))
    have hnext : ∀ c ∈ (candidates.flatMap fun d => (admitted fs segment d).map d.child),
        ¬ MeetsNull fs c segments := by
      intro c hc hmeets
      obtain ⟨d, hd, name, hname, rfl⟩ := mem_next_iff.1 hc
      exact hnull d hd (meetsNull_cons_iff.2 (Or.inr ⟨name, hname, hmeets⟩))
    rw [outcome_expandAll_cons, hexpand]
    apply (ih hsegments.2 (isAbsolute_of_mem_next habsolute) hnext).trans
    simp only [routes, Path.map_descend_through, List.flatMap_assoc, List.flatMap_map]

/-- Where some way meets a null character, the expansion fails for a path that holds one. -/
theorem outcome_expandAll_of_meetsNull {scope : Path} {pattern : Text} {candidates : List Path}
    {segments : List Text} (hsegments : ∀ segment ∈ segments, StandsForChildren segment)
    (habsolute : ∀ d ∈ candidates, d.isAbsolute = true)
    (hmeets : ∃ d ∈ candidates, MeetsNull fs d segments) :
    ∃ path, '\x00' ∈ path ∧ (expandAll fs scope pattern candidates segments).outcome =
      .error (.refused ⟨.nullCharacter, path⟩) := by
  induction segments generalizing candidates with
  | nil =>
    obtain ⟨d, _, hmeets⟩ := hmeets
    exact (not_meetsNull_nil d hmeets).elim
  | cons segment segments ih =>
    rw [List.forall_mem_cons] at hsegments
    by_cases hnull : ∃ d ∈ candidates, '\x00' ∈ d.text
    · obtain ⟨path, hpath, hexpand⟩ :=
        @outcome_expand_of_null fs scope _ _ hsegments.1 habsolute hnull
      refine ⟨path, hpath, ?_⟩
      rw [outcome_expandAll_cons, hexpand]
      rfl
    · have hexpand := @outcome_expand fs scope candidates segment hsegments.1 habsolute
        fun d hd hmem => hnull ⟨d, hd, hmem⟩
      rw [outcome_expandAll_cons, hexpand]
      apply ih hsegments.2 (isAbsolute_of_mem_next habsolute)
      obtain ⟨d, hd, hmeets⟩ := hmeets
      rcases meetsNull_cons_iff.1 hmeets with hmem | ⟨name, hname, hmeets⟩
      · exact (hnull ⟨d, hd, hmem⟩).elim
      · exact ⟨d.child name, mem_next_iff.2 ⟨d, hd, name, hname, rfl⟩, hmeets⟩

/-! ## Globs -/

/-- From an absolute start, a pattern of segments that stand for children gives the ends of its
routes: one path for every way that leads through the segments, none twice, in the order of the
positions on the way. It fails exactly where some way meets a null character. -/
theorem outcome_glob_of_standsForChildren {fs : FileSystem} {env : Environment} {scope d : Path}
    {pattern : Text}
    (hstart : (Pattern.ofText pattern).startDirectory fs env scope = .ok d)
    (habsolute : d.isAbsolute = true)
    (hsegments : ∀ segment ∈ (Pattern.ofText pattern).segments, StandsForChildren segment) :
    (¬ MeetsNull fs d (Pattern.ofText pattern).segments →
      ∃ ways : List (List Text),
        (glob fs env scope pattern).outcome = .ok (ways.map d.descend) ∧
        (∀ names, names ∈ ways ↔ Leads fs d (Pattern.ofText pattern).segments names) ∧
        (ways.map d.descend).Nodup ∧
        ways.Pairwise fun a b => fs.positions d a < fs.positions d b) ∧
    (MeetsNull fs d (Pattern.ofText pattern).segments →
      ∃ path, '\x00' ∈ path ∧
        (glob fs env scope pattern).outcome = .error (.refused ⟨.nullCharacter, path⟩)) := by
  have hglob : (glob fs env scope pattern).outcome =
      (expandAll fs scope pattern [d] (Pattern.ofText pattern).segments).outcome := by
    rw [glob, Traced.outcome_bind, hstart]
    rfl
  have hd : ∀ c ∈ [d], c.isAbsolute = true := by simpa using habsolute
  rw [hglob]
  constructor
  · intro hnull
    refine ⟨routes fs d (Pattern.ofText pattern).segments, ?_, fun names => mem_routes_iff,
      nodup_map_descend_routes fs d _, pairwise_positions_routes fs d _⟩
    rw [outcome_expandAll hsegments hd (by simpa using hnull)]
    simp
  · intro hmeets
    exact outcome_expandAll_of_meetsNull hsegments hd ⟨d, List.mem_singleton_self d, hmeets⟩

theorem outcome_glob_of_any_character :
    let fs := (FileSystem.empty.insert ["a"] (.directory {})).insert ["a", "b"] (.directory {})
    let segments := (Pattern.ofText "/?/.").segments
    (Pattern.ofText "/?/.").startDirectory fs [] .rootDirectory = .ok .rootDirectory ∧
      (∀ segment ∈ segments, StandsForChildren segment) ∧
      ¬ MeetsNull fs .rootDirectory segments ∧
      (glob fs [] .rootDirectory "/?/.").outcome = .ok [Path.ofText "/a/b"] ∧
      ∃ ways : List (List Text),
        (glob fs [] .rootDirectory "/?/.").outcome = .ok (ways.map Path.rootDirectory.descend) ∧
        (∀ names, names ∈ ways ↔ Leads fs .rootDirectory segments names) ∧
        (ways.map Path.rootDirectory.descend).Nodup ∧
        ways.Pairwise fun a b =>
          fs.positions .rootDirectory a < fs.positions .rootDirectory b := by
  intro fs segments
  have hcut : segments = [['?'], ['.']] := by decide
  have hsegments : ∀ segment ∈ segments, StandsForChildren segment := by
    simp only [hcut, List.forall_mem_cons]
    exact ⟨⟨by decide, by decide, _, rfl⟩, ⟨by decide, by decide, _, rfl⟩, nofun⟩
  have hnull : ¬ MeetsNull fs .rootDirectory segments := by
    rw [hcut, meetsNull_cons_iff]
    rintro (hmem | ⟨name, hname, hmeets⟩)
    · revert hmem
      decide
    · have hadmitted : admitted fs ['?'] .rootDirectory = [['a']] := rfl
      rw [hadmitted, List.mem_singleton] at hname
      rw [hname, meetsNull_cons_iff] at hmeets
      rcases hmeets with hmem | ⟨_, _, hmeets⟩
      · revert hmem
        decide
      · exact not_meetsNull_nil _ hmeets
  obtain ⟨hgives, _⟩ := @outcome_glob_of_standsForChildren fs [] .rootDirectory .rootDirectory
    "/?/." rfl rfl hsegments
  exact ⟨rfl, hsegments, hnull, rfl, hgives hnull⟩

/-- A start that holds a null character is not taken for an unreadable directory: no way leads from
it, and the glob fails instead of giving no path. -/
theorem outcome_glob_of_null_start :
    let segments := (Pattern.ofText "x:\x00/a").segments
    (Pattern.ofText "x:\x00/a").startDirectory .empty [] .rootDirectory =
        .ok (Path.ofText "/x:\x00") ∧
      (Path.ofText "/x:\x00").isAbsolute = true ∧
      (∀ segment ∈ segments, StandsForChildren segment) ∧
      (∀ names, ¬ Leads .empty (Path.ofText "/x:\x00") segments names) ∧
      (glob .empty [] .rootDirectory "x:\x00/a").outcome =
        .error (.refused ⟨.nullCharacter, "/x:\x00"⟩) := by
  refine ⟨rfl, rfl, fun segment hsegment => ?_, fun names hleads => ?_, rfl⟩
  · obtain rfl := List.mem_singleton.1 hsegment
    exact ⟨by decide, by decide, _, rfl⟩
  · cases names with
    | nil => exact hleads
    | cons name names =>
      obtain ⟨⟨listed, hlisted, _⟩, _⟩ := hleads
      cases hlisted

end Glob

end ScopedShell
