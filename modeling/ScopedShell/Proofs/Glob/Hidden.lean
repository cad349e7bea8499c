import ScopedShell.Proofs.Glob.Compilation
import ScopedShell.Proofs.Glob.Existence

/-!
# Globs and hidden names

A name that starts with a dot is hidden. A segment that does not start with a dot itself admits no
hidden name (`isVisible_of_admits`), so it adds none to a path. `**` does not look at names: it goes
down through whatever directories there are. So a hidden name below the start of a pattern is one by
which some `**` went down, and every path to which the rest of the pattern leads from there is given
(`hidden_of_outcome_glob_iff`).
-/

namespace ScopedShell

namespace Path

theorem descend_append (p : Path) (front rest : List Text) :
    p.descend (front ++ rest) = (p.descend front).descend rest :=
  List.foldl_append

end Path

namespace Glob

def IsHidden (name : Text) : Prop := name.head? = some '.'

/-- The names on the way from a path down to another one, both as they are seen from the scope. -/
def namesBelow (scope p q : Path) : List Text :=
  (scope.join q).parts.drop (scope.join p).parts.length

/-- Seen from the scope, names lead from a path down to another one. -/
def LiesBelow (scope p q : Path) : Prop :=
  ∃ names : List Text, (∀ name ∈ names, IsPart name) ∧ scope.join q = (scope.join p).descend names

/-- The pattern holds a `**` that leads to a directory `mid` below one of its candidates `p`, and
the rest of the pattern leads from there to `q`. -/
def LeadsThrough (fs : FileSystem) (scope d : Path) (segments : List Text) (p mid q : Path) :
    Prop :=
  ∃ front rest, segments = front ++ ['*', '*'] :: rest ∧ p ∈ reached fs scope [d] front ∧
    mid ∈ directories fs scope p ∧ q ∈ reached fs scope [mid] rest

variable {fs : FileSystem} {env : Environment} {scope : Path} {pattern : Text}

/-! ## Ways down -/

theorem namesBelow_eq {p q : Path} {names : List Text} (hnames : ∀ name ∈ names, IsPart name)
    (h : scope.join q = (scope.join p).descend names) : namesBelow scope p q = names := by
  rw [namesBelow, h, Path.parts_descend _ hnames, List.drop_left]

theorem namesBelow_self (p : Path) : namesBelow scope p p = [] :=
  List.drop_length

theorem LiesBelow.refl (p : Path) : LiesBelow scope p p := ⟨[], by simp, rfl⟩

theorem LiesBelow.trans {p q r : Path} (hpq : LiesBelow scope p q) (hqr : LiesBelow scope q r) :
    LiesBelow scope p r := by
  obtain ⟨front, hfront, hq⟩ := hpq
  obtain ⟨rest, hrest, hr⟩ := hqr
  exact ⟨front ++ rest, List.forall_mem_append.2 ⟨hfront, hrest⟩,
    by rw [hr, hq, Path.descend_append]⟩

theorem LiesBelow.join_eq {p q : Path} (h : LiesBelow scope p q) :
    scope.join q = (scope.join p).descend (namesBelow scope p q) := by
  obtain ⟨names, hnames, hq⟩ := h
  rw [namesBelow_eq hnames hq, hq]

theorem namesBelow_trans {p q r : Path} (hpq : LiesBelow scope p q) (hqr : LiesBelow scope q r) :
    namesBelow scope p r = namesBelow scope p q ++ namesBelow scope q r := by
  obtain ⟨front, hfront, hq⟩ := hpq
  obtain ⟨rest, hrest, hr⟩ := hqr
  rw [namesBelow_eq hfront hq, namesBelow_eq hrest hr]
  exact namesBelow_eq (List.forall_mem_append.2 ⟨hfront, hrest⟩)
    (by rw [hr, hq, Path.descend_append])

/-! ## One segment -/

/-- A segment that does not start with a dot admits visible names only, whatever stands between its
braces. -/
theorem isVisible_of_admits {segment name : Text} (hsegment : isDotSegment segment = false)
    (h : Admits segment name) : IsVisible name := by
  rcases h with rfl | ⟨accepts, hcompile, hname⟩
  · cases hsegment
  · cases hwritten : regexText segment with
    | error imbalance =>
      rw [compile, regex, hwritten] at hcompile
      cases hcompile
    | ok written =>
      obtain ⟨w, hfits, rfl⟩ := exists_wording_of_regexText hwritten
      rw [Wording.compile_spelled hfits hwritten] at hcompile
      obtain rfl := Except.ok.inj hcompile
      exact ((w.fullMatch_expression_iff name).1 hname).1 hsegment

theorem ne_parentPart_of_not_isDotSegment {segment : Text} (h : isDotSegment segment = false) :
    segment ≠ parentPart := by
  rintro rfl
  cases h

theorem liesBelow_of_mem_successors (hscope : scope.isAbsolute = true) {segment : Text}
    (hparent : segment ≠ parentPart) {p q : Path} (h : q ∈ successors fs scope segment p) :
    LiesBelow scope p q := by
  by_cases hbelow : segment = ['*', '*']
  · rw [successors, if_neg hparent, if_pos hbelow] at h
    exact (spreads_directories hscope p).exists_descend q h
  · obtain ⟨name, hname, rfl, hseen⟩ := exists_child_of_mem_successors hscope hparent hbelow h
    exact ⟨[name], by simpa using (FileSystem.isName_of_mem_listing hname).1, hseen⟩

/-- Only `**` goes down by a hidden name. -/
theorem not_isHidden_of_mem_successors (hscope : scope.isAbsolute = true) {segment : Text}
    (hsegment : isDotSegment segment = false) (hbelow : segment ≠ ['*', '*']) {p q : Path}
    (h : q ∈ successors fs scope segment p) : ∀ name ∈ namesBelow scope p q, ¬ IsHidden name := by
  rw [successors_of_children (ne_parentPart_of_not_isDotSegment hsegment) hbelow] at h
  obtain ⟨name, hname, rfl⟩ := List.mem_map.1 h
  have hway : namesBelow scope p ((scope.join p).child name) = [name] :=
    namesBelow_eq (by simpa using isPart_of_mem_admitted hname) (join_child hscope p name)
  rw [hway]
  simpa [IsHidden] using (isVisible_of_admits hsegment (mem_admitted_iff.1 hname).2).2

/-! ## All segments -/

theorem reached_eq_flatMap (candidates : List Path) (segments : List Text) :
    reached fs scope candidates segments =
      candidates.flatMap fun p => reached fs scope [p] segments := by
  induction segments generalizing candidates with
  | nil => simp [reached]
  | cons segment segments ih =>
    simp only [reached, List.flatMap_singleton]
    rw [ih, List.flatMap_assoc]
    congr 1
    funext p
    exact (ih _).symm

theorem mem_reached_cons_iff {segment : Text} {segments : List Text} {p q : Path} :
    q ∈ reached fs scope [p] (segment :: segments) ↔
      ∃ mid ∈ successors fs scope segment p, q ∈ reached fs scope [mid] segments := by
  rw [reached, List.flatMap_singleton, reached_eq_flatMap, List.mem_flatMap]

theorem liesBelow_of_mem_reached (hscope : scope.isAbsolute = true) {segments : List Text}
    (hparent : ∀ segment ∈ segments, segment ≠ parentPart) {p q : Path}
    (h : q ∈ reached fs scope [p] segments) : LiesBelow scope p q := by
  induction segments generalizing p with
  | nil =>
    rw [List.mem_singleton.1 h]
    exact .refl p
  | cons segment segments ih =>
    rw [List.forall_mem_cons] at hparent
    obtain ⟨mid, hmid, hq⟩ := mem_reached_cons_iff.1 h
    exact (liesBelow_of_mem_successors hscope hparent.1 hmid).trans (ih hparent.2 hq)

variable {d p mid q : Path} {segments : List Text}

theorem LeadsThrough.mem_reached (h : LeadsThrough fs scope d segments p mid q) :
    q ∈ reached fs scope [d] segments := by
  obtain ⟨front, rest, rfl, hp, hmid, hq⟩ := h
  rw [reached_append, reached_eq_flatMap, List.mem_flatMap]
  refine ⟨p, hp, mem_reached_cons_iff.2 ⟨mid, ?_, hq⟩⟩
  rwa [successors, if_neg (by decide), if_pos rfl]

theorem LeadsThrough.namesBelow_subset (hscope : scope.isAbsolute = true)
    (hparent : ∀ segment ∈ segments, segment ≠ parentPart)
    (h : LeadsThrough fs scope d segments p mid q) :
    namesBelow scope p mid ⊆ namesBelow scope d q := by
  obtain ⟨front, rest, rfl, hp, hmid, hq⟩ := h
  rw [List.forall_mem_append, List.forall_mem_cons] at hparent
  have hdp := liesBelow_of_mem_reached hscope hparent.1 hp
  have hpmid : LiesBelow scope p mid := (spreads_directories hscope p).exists_descend mid hmid
  have hmidq := liesBelow_of_mem_reached hscope hparent.2.2 hq
  rw [namesBelow_trans hdp (hpmid.trans hmidq), namesBelow_trans hpmid hmidq]
  exact List.Subset.trans (List.subset_append_left _ _) (List.subset_append_right _ _)

theorem LeadsThrough.cons {segment : Text} (hmid : p ∈ successors fs scope segment d)
    {above below : Path} (h : LeadsThrough fs scope p segments above below q) :
    LeadsThrough fs scope d (segment :: segments) above below q := by
  obtain ⟨front, rest, rfl, habove, hbelow, hq⟩ := h
  exact ⟨segment :: front, rest, rfl, mem_reached_cons_iff.2 ⟨p, hmid, habove⟩, hbelow, hq⟩

/-- A hidden name below the start is one by which `**` went down. -/
theorem exists_leadsThrough (hscope : scope.isAbsolute = true)
    (hsegments : ∀ segment ∈ segments, isDotSegment segment = false)
    (hq : q ∈ reached fs scope [d] segments) {name : Text} (hname : name ∈ namesBelow scope d q)
    (hhidden : IsHidden name) :
    ∃ p mid, LeadsThrough fs scope d segments p mid q ∧ name ∈ namesBelow scope p mid := by
  induction segments generalizing d with
  | nil =>
    rw [List.mem_singleton.1 hq, namesBelow_self] at hname
    cases hname
  | cons segment segments ih =>
    rw [List.forall_mem_cons] at hsegments
    obtain ⟨mid, hmid, hrest⟩ := mem_reached_cons_iff.1 hq
    have hparent := ne_parentPart_of_not_isDotSegment hsegments.1
    have hway := namesBelow_trans (liesBelow_of_mem_successors hscope hparent hmid)
      (liesBelow_of_mem_reached hscope
        (fun s hs => ne_parentPart_of_not_isDotSegment (hsegments.2 s hs)) hrest)
    rw [hway, List.mem_append] at hname
    rcases hname with hname | hname
    · -- the first segment goes down by the name, so it is `**`
      by_cases hbelow : segment = ['*', '*']
      · subst hbelow
        rw [successors, if_neg hparent, if_pos rfl] at hmid
        exact ⟨d, mid, ⟨[], segments, rfl, List.mem_singleton_self d, hmid, hrest⟩, hname⟩
      · exact (not_isHidden_of_mem_successors hscope hsegments.1 hbelow hmid name hname
          hhidden).elim
    · obtain ⟨above, below, hleads, hname⟩ := ih hsegments.2 hrest hname
      exact ⟨above, below, hleads.cons hmid, hname⟩

/-! ## Globs -/

/-- Where no segment starts with a dot, every path that a glob gives lies below the start, and a
name on the way there is hidden exactly where a `**` went down by it. So no path has a hidden name
where `**` meets no directory with one, and in particular where the pattern holds no `**`. -/
theorem hidden_of_outcome_glob_iff (hscope : scope.isAbsolute = true)
    (hsegments : ∀ segment ∈ (Pattern.ofText pattern).segments, isDotSegment segment = false)
    {given : List Path} (h : (glob fs env scope pattern).outcome = .ok given) :
    ∃ d, (Pattern.ofText pattern).startDirectory fs env scope = .ok d ∧
      (∀ q ∈ given, scope.join q = (scope.join d).descend (namesBelow scope d q)) ∧
      (∀ q name, IsHidden name →
        (q ∈ given ∧ name ∈ namesBelow scope d q ↔
          ∃ p mid, LeadsThrough fs scope d (Pattern.ofText pattern).segments p mid q ∧
            name ∈ namesBelow scope p mid)) ∧
      ((∀ p mid q, LeadsThrough fs scope d (Pattern.ofText pattern).segments p mid q →
          ∀ name ∈ namesBelow scope p mid, ¬ IsHidden name) →
        ∀ q ∈ given, ∀ name ∈ namesBelow scope d q, ¬ IsHidden name) ∧
      (['*', '*'] ∉ (Pattern.ofText pattern).segments →
        ∀ q ∈ given, ∀ name ∈ namesBelow scope d q, ¬ IsHidden name) := by
  obtain ⟨d, hstart, rfl⟩ := exists_eq_reached_of_outcome_glob hscope h
  have hparent : ∀ segment ∈ (Pattern.ofText pattern).segments, segment ≠ parentPart :=
    fun segment hsegment => ne_parentPart_of_not_isDotSegment (hsegments segment hsegment)
  refine ⟨d, hstart, fun q hq => (liesBelow_of_mem_reached hscope hparent hq).join_eq,
    fun q name hhidden => ⟨fun ⟨hq, hname⟩ => ?_, fun ⟨p, mid, hleads, hname⟩ => ?_⟩,
    fun hclear q hq name hname hhidden => ?_, fun hnone q hq name hname hhidden => ?_⟩
  · exact exists_leadsThrough hscope hsegments hq hname hhidden
  · exact ⟨hleads.mem_reached, hleads.namesBelow_subset hscope hparent hname⟩
  · obtain ⟨p, mid, hleads, hname⟩ := exists_leadsThrough hscope hsegments hq hname hhidden
    exact hclear p mid q hleads name hname hhidden
  · obtain ⟨_, _, ⟨front, rest, heq, _⟩, _⟩ :=
      exists_leadsThrough hscope hsegments hq hname hhidden
    exact hnone (by simp [heq])

theorem hidden_of_outcome_glob_iff_of_directory :
    let fs := (FileSystem.empty.insert [".h"] (.directory {})).insert [".h", "a"] (.directory {})
    let segments := (Pattern.ofText "/**/?").segments
    Path.rootDirectory.isAbsolute = true ∧
      (∀ segment ∈ segments, isDotSegment segment = false) ∧
      (glob fs [] .rootDirectory "/**/?").outcome = .ok [Path.ofText "/.h/a"] ∧
      ∃ p mid, LeadsThrough fs .rootDirectory .rootDirectory segments p mid (Path.ofText "/.h/a") ∧
        (".h" : Text) ∈ namesBelow .rootDirectory p mid := by
  intro fs segments
  have hsegments : ∀ segment ∈ segments, isDotSegment segment = false := by decide
  have hgiven : (glob fs [] .rootDirectory "/**/?").outcome = .ok [Path.ofText "/.h/a"] := rfl
  obtain ⟨d, hstart, _, hhidden, _⟩ := hidden_of_outcome_glob_iff rfl hsegments hgiven
  obtain rfl := Except.ok.inj hstart
  have hmem : (".h" : Text) ∈ namesBelow .rootDirectory .rootDirectory (Path.ofText "/.h/a") := by
    decide
  have hstarts : IsHidden ".h" := rfl
  exact ⟨rfl, hsegments, hgiven, (hhidden _ _ hstarts).1 ⟨List.mem_singleton_self _, hmem⟩⟩

/-- `**` looks into a directory with a hidden name, and gives it. -/
theorem outcome_glob_of_hidden_directory :
    let fs := FileSystem.empty.insert [".h"] (.directory {})
    (∀ segment ∈ (Pattern.ofText "/**").segments, isDotSegment segment = false) ∧
      (Pattern.ofText "/**").startDirectory fs [] .rootDirectory = .ok .rootDirectory ∧
      (glob fs [] .rootDirectory "/**").outcome = .ok [Path.ofText "/", Path.ofText "/.h"] ∧
      namesBelow .rootDirectory .rootDirectory (Path.ofText "/.h") = [".h"] ∧ IsHidden ".h" :=
  ⟨by decide, rfl, rfl, rfl, rfl⟩

end Glob

end ScopedShell
