import Mathlib.Data.List.Nodup
import ScopedShell.Proofs.Glob.Candidates
import ScopedShell.Proofs.Glob.Compilation
import ScopedShell.Proofs.Text.Splitting

/-!
# The roots of a pattern

The segments in front of a separator and those behind it are the segments of a pattern
(`segmentsIn_append_separator`). A name without signs describes itself alone, so a pattern that
spells the way to a listed path out is expanded to that path (`outcome_expandAll_names`). Hence a
pattern under the home directory, or under the scoped one, is the absolute pattern that spells its
start in front of it (`outcome_glob_of_spelled_start`).
-/

namespace ScopedShell

namespace Glob

/-! ## Segments between separators -/

def segmentsIn (t : Text) : List Text :=
  segmentsOf (Text.split isSeparator t)

theorem segmentsIn_append_separator {t rest : Text} {c : Char} (hc : isSeparator c = true) :
    segmentsIn (t ++ c :: rest) = segmentsIn t ++ segmentsIn rest := by
  rw [segmentsIn, Text.split_append_cons hc, segmentsOf, List.filter_append]
  rfl

theorem segmentsIn_joinWith {parts : List Text}
    (h : ∀ part ∈ parts, part ≠ [] ∧ ∀ c ∈ part, isSeparator c = false) :
    segmentsIn (Text.joinWith '/' parts) = parts := by
  induction parts with
  | nil => rfl
  | cons part parts ih =>
    rw [List.forall_mem_cons] at h
    have hpart : segmentsIn part = [part] := by
      rw [segmentsIn, Text.split_eq_singleton h.1.2]
      simp [segmentsOf, h.1.1]
    cases parts with
    | nil => exact hpart
    | cons next parts =>
      rw [Text.joinWith, segmentsIn_append_separator rfl, hpart, ih h.2]
      · rfl
      · simp

theorem rootOf?_ne_relative (head : Text) : rootOf? head ≠ some .relative := by
  unfold rootOf?
  split <;> simp

theorem eq_of_rootOf?_eq_home {head : Text} (h : rootOf? head = some .home) : head = ['~'] := by
  unfold rootOf? at h
  split at h <;> simp_all

/-- The first part of a pattern is its root, or the pattern is relative and every part counts. -/
theorem ofText_cases (pattern : Text) :
    ∃ head rest, Text.split isSeparator pattern = head :: rest ∧
      (rootOf? head = some (Pattern.ofText pattern).root ∧
          (Pattern.ofText pattern).segments = segmentsOf rest ∨
        rootOf? head = none ∧ (Pattern.ofText pattern).root = .relative ∧
          (Pattern.ofText pattern).segments = segmentsOf (head :: rest)) := by
  obtain ⟨head, rest, hsplit⟩ := Text.exists_split_eq_cons isSeparator pattern
  refine ⟨head, rest, hsplit, ?_⟩
  rw [Pattern.ofText, hsplit]
  cases hroot : rootOf? head with
  | none => exact Or.inr (by simp only [hroot, and_self])
  | some root => exact Or.inl (by simp only [hroot, and_self])

theorem segments_of_relative {pattern : Text} (h : (Pattern.ofText pattern).root = .relative) :
    (Pattern.ofText pattern).segments = segmentsIn pattern := by
  obtain ⟨head, rest, hsplit, ⟨hroot, _⟩ | ⟨_, _, hsegments⟩⟩ := ofText_cases pattern
  · exact (rootOf?_ne_relative head (h ▸ hroot)).elim
  · rw [hsegments, segmentsIn, hsplit]

theorem segments_of_home {rest : Text} (h : (Pattern.ofText ('~' :: rest)).root = .home) :
    (Pattern.ofText ('~' :: rest)).segments = segmentsIn rest := by
  obtain ⟨part, parts, hrest⟩ := Text.exists_split_eq_cons isSeparator rest
  have hpattern : Text.split isSeparator ('~' :: rest) = ('~' :: part) :: parts := by
    rw [Text.split, if_neg (by decide), hrest]
  obtain ⟨head, others, hsplit, ⟨hroot, hsegments⟩ | ⟨_, hrelative, _⟩⟩ :=
    ofText_cases ('~' :: rest)
  · obtain ⟨rfl, rfl⟩ := List.cons.inj (hpattern.symm.trans hsplit)
    obtain rfl : part = [] := List.tail_eq_of_cons_eq (eq_of_rootOf?_eq_home (h ▸ hroot))
    rw [hsegments, segmentsIn, hrest]
    rfl
  · rw [h] at hrelative
    cases hrelative

theorem absolute_pattern (fs : FileSystem) (env : Environment) (scope : Path) (rest : Text) :
    (Pattern.ofText ('/' :: rest)).segments = segmentsIn rest ∧
      (Pattern.ofText ('/' :: rest)).startDirectory fs env scope = .ok .rootDirectory := by
  have hsplit : Text.split isSeparator ('/' :: rest) = [] :: Text.split isSeparator rest := rfl
  rw [Pattern.ofText, hsplit]
  refine ⟨rfl, ?_⟩
  change Except.ok (scope.join (Path.ofText ['/'])) = _
  rw [Path.join_of_isAbsolute rfl]
  rfl

/-! ## Names without signs -/

/-- Nothing in the name has a meaning of its own. -/
def IsPlain (name : Text) : Prop := ∀ c ∈ name, c ∉ ("*?\x7b\x7d\\" : Text)

def Wording.ofPlain : Text → Wording
  | [] => .done
  | c :: rest => .sign (.plain c) (ofPlain rest)

theorem Wording.spelled_ofPlain (t : Text) : (ofPlain t).spelled = t := by
  induction t with
  | nil => rfl
  | cons c t ih => rw [ofPlain, Wording.spelled, ih, Sign.spelled, List.singleton_append]

theorem Wording.describes_ofPlain_iff {t part after : Text} :
    (ofPlain t).Describes part after ↔ part = t := by
  induction t generalizing part with
  | nil => rfl
  | cons c t ih =>
    simp only [ofPlain, Wording.Describes, Sign.Describes, ih]
    constructor
    · rintro ⟨_, _, rfl, rfl, rfl⟩
      rfl
    · rintro rfl
      exact ⟨[c], t, rfl, rfl, rfl⟩

theorem Wording.fits_ofPlain {t : Text} (h : IsPlain t) (hslash : '/' ∉ t) :
    (ofPlain t).Fits false := by
  induction t with
  | nil => trivial
  | cons c t ih =>
    rw [IsPlain, List.forall_mem_cons] at h
    rw [List.mem_cons, not_or] at hslash
    refine ⟨⟨?_, by simp⟩, ih h.2 hslash.2⟩
    have hplain := h.1
    have hsigns : ("*?\x7b\x7d\\" : Text) = ['*', '?', '{', '}', '\\'] := rfl
    have hmarks : ("\\*?/\x7b\x7d" : Text) = ['\\', '*', '?', '/', '{', '}'] := rfl
    simp only [hsigns, hmarks, List.mem_cons, List.not_mem_nil, or_false, not_or] at hplain ⊢
    obtain ⟨hrun, hone, hopen, hclose, hlone⟩ := hplain
    exact ⟨hlone, hrun, hone, Ne.symm hslash.1, hopen, hclose⟩

theorem exists_compile_plain {name : Text} (hname : IsPart name) (h : IsPlain name) :
    ∃ accepts, compile name = .ok accepts ∧ ∀ other, accepts other = true ↔ other = name := by
  have hfits := Wording.fits_ofPlain h hname.2.2
  obtain ⟨whole, hwhole, _⟩ := @Wording.exists_scans (.ofPlain name) 0 [] [] hfits rfl scans_nil
  have htext : ∃ written, regexText (Wording.ofPlain name).spelled = .ok written := by
    rw [List.append_nil] at hwhole
    rw [regexText, hwhole.1 0]
    exact ⟨_, rfl⟩
  obtain ⟨written, hwritten⟩ := htext
  have hcompile := Wording.compile_spelled hfits hwritten
  rw [Wording.spelled_ofPlain] at hcompile
  refine ⟨_, hcompile, fun other => ?_⟩
  rw [Wording.fullMatch_expression_iff, Wording.describes_ofPlain_iff, Wording.spelled_ofPlain]
  constructor
  · exact fun hboth => hboth.2
  · rintro rfl
    exact ⟨fun hdot => ⟨hname.1, by simpa [isDotSegment] using hdot⟩, rfl⟩

variable {fs : FileSystem} {env : Environment} {scope : Path}

/-- A listed name without signs leads to itself alone. -/
theorem admitted_plain {name : Text} (hname : IsPart name) (h : IsPlain name) {p : Path}
    (hlisted : name ∈ fs.listing p) : admitted fs name p = [name] := by
  obtain ⟨accepts, hcompile, haccepts⟩ := exists_compile_plain hname h
  have hadmits : ∀ other, admits name other = decide (other = name) := by
    intro other
    rw [admits, hcompile, decide_eq_false hname.2.1, Bool.false_or]
    exact Bool.eq_iff_iff.2 ((haccepts other).trans decide_eq_true_iff.symm)
  rw [admitted, funext hadmits, List.filter_eq,
    List.count_eq_one_of_mem (fs.nodup_listing p) hlisted]
  rfl

theorem standsForChildren_plain {name : Text} (hname : IsPart name) (hparent : name ≠ parentPart)
    (h : IsPlain name) : StandsForChildren name := by
  obtain ⟨accepts, hcompile, _⟩ := exists_compile_plain hname h
  refine ⟨hparent, ?_, accepts, hcompile⟩
  rintro rfl
  exact h '*' (by simp) (by decide)

/-! ## Spelled starts -/

/-- The pattern is only written into the records. -/
theorem outcome_expandAll_congr (pattern pattern' : Text) (candidates : List Path)
    (segments : List Text) :
    (expandAll fs scope pattern candidates segments).outcome =
      (expandAll fs scope pattern' candidates segments).outcome := by
  induction segments generalizing candidates with
  | nil => rfl
  | cons segment segments ih => simp only [outcome_expandAll_cons, ih]

theorem outcome_expandAll_names {p : Path} (habsolute : p.isAbsolute = true) {names : List Text}
    (hnames : ∀ name ∈ names, IsPart name ∧ name ≠ parentPart ∧ IsPlain name)
    (hlisted : ∀ front name rest, names = front ++ name :: rest →
      name ∈ fs.listing (p.descend front))
    (pattern : Text) (segments : List Text) :
    (expandAll fs scope pattern [p] (names ++ segments)).outcome =
      (expandAll fs scope pattern [p.descend names] segments).outcome := by
  induction names generalizing p with
  | nil => rfl
  | cons name names ih =>
    rw [List.forall_mem_cons] at hnames
    obtain ⟨hname, hparent, hplain⟩ := hnames.1
    have hfirst : name ∈ fs.listing p := hlisted [] name names rfl
    have hnull : '\x00' ∉ p.text := by
      obtain ⟨listed, hlist, _⟩ := FileSystem.mem_listing_iff.1 hfirst
      intro hmem
      rw [FileSystem.list_eq_nullCharacter_iff.2 hmem] at hlist
      cases hlist
    have hexpand := @outcome_expand fs scope [p] name (standsForChildren_plain hname hparent hplain)
      (by simpa using habsolute) (by simpa using hnull)
    rw [List.flatMap_singleton, admitted_plain hname hplain hfirst] at hexpand
    rw [List.cons_append, outcome_expandAll_cons, hexpand]
    refine ih (Path.isAbsolute_child habsolute name) hnames.2 fun front other rest hnames => ?_
    exact hlisted (name :: front) other rest (by rw [hnames, List.cons_append])

/-- A relative pattern, and one under the home directory, gives what the absolute pattern gives that
spells the start in front of it, if every part of the start is listed where it lies and has no sign
in it: the same paths in the same order, or the same fault. -/
theorem outcome_glob_of_spelled_start {pattern rest : Text} {d : Path}
    (hrest : (Pattern.ofText pattern).root = .relative ∧ rest = pattern ∨
      (Pattern.ofText pattern).root = .home ∧ pattern = '~' :: rest)
    (hstart : (Pattern.ofText pattern).startDirectory fs env scope = .ok d)
    (hroot : d.root = .single) (hparts : ∀ part ∈ d.parts, part ≠ parentPart ∧ IsPlain part)
    (hlisted : ∀ front name others, d.parts = front ++ name :: others →
      name ∈ fs.listing (Path.rootDirectory.descend front)) :
    (glob fs env scope (d.text ++ '/' :: rest)).outcome = (glob fs env scope pattern).outcome := by
  have hsegments : (Pattern.ofText pattern).segments = segmentsIn rest := by
    rcases hrest with ⟨hrelative, rfl⟩ | ⟨hhome, rfl⟩
    · exact segments_of_relative hrelative
    · exact segments_of_home hhome
  have hd : Path.rootDirectory.descend d.parts = d := by
    ext1
    · rw [Path.root_descend _ d.isPart_of_mem, hroot]
      rfl
    · exact Path.parts_descend _ d.isPart_of_mem
  have hspelled : segmentsIn (Text.joinWith '/' d.parts) = d.parts := by
    refine segmentsIn_joinWith fun part hpart => ⟨(d.isPart_of_mem part hpart).1, fun c hc => ?_⟩
    have hslash : c ≠ '/' := fun heq => (d.isPart_of_mem part hpart).2.2 (heq ▸ hc)
    have hbackslash : c ≠ '\\' := fun heq => (hparts part hpart).2 c hc (by rw [heq]; decide)
    simp [isSeparator, hslash, hbackslash]
  have htext : d.text = '/' :: Text.joinWith '/' d.parts := by
    rw [Path.text_of_isAbsolute (by rw [Path.isAbsolute, hroot]; rfl), hroot]
    rfl
  obtain ⟨habsolute, hbegin⟩ :=
    absolute_pattern fs env scope (Text.joinWith '/' d.parts ++ '/' :: rest)
  rw [segmentsIn_append_separator rfl, hspelled] at habsolute
  rw [outcome_glob_eq_outcome_expandAll hstart, hsegments, htext, List.cons_append,
    outcome_glob_eq_outcome_expandAll hbegin, habsolute,
    outcome_expandAll_names rfl (fun name hname => ⟨d.isPart_of_mem name hname, hparts name hname⟩)
      hlisted, hd]
  exact outcome_expandAll_congr _ _ _ _

theorem outcome_glob_of_spelled_start_home :
    let fs := FileSystem.empty.insert ["a"] (.directory {})
    let env : Environment := [("HOME", "/a")]
    (Pattern.ofText "~/.").root = .home ∧
      (Pattern.ofText "~/.").startDirectory fs env .rootDirectory = .ok (Path.ofText "/a") ∧
      (Path.ofText "/a").root = .single ∧
      (∀ part ∈ (Path.ofText "/a").parts, part ≠ parentPart ∧ IsPlain part) ∧
      (∀ front name others, (Path.ofText "/a").parts = front ++ name :: others →
        name ∈ fs.listing (Path.rootDirectory.descend front)) ∧
      (glob fs env .rootDirectory "/a//.").outcome =
        (glob fs env .rootDirectory "~/.").outcome := by
  intro fs env
  have hparts : ∀ part ∈ (Path.ofText "/a").parts, part ≠ parentPart ∧ IsPlain part := by
    rintro _ (_ | _)
    · refine ⟨by decide, fun c hc => ?_⟩
      obtain rfl := List.mem_singleton.1 hc
      decide
    · contradiction
  have hlisted : ∀ front name others, (Path.ofText "/a").parts = front ++ name :: others →
      name ∈ fs.listing (Path.rootDirectory.descend front) := by
    intro front name others heq
    rw [show (Path.ofText "/a").parts = [("a" : Text)] from rfl,
      List.singleton_eq_append_iff] at heq
    rcases heq with ⟨rfl, heq⟩ | ⟨_, heq⟩
    · obtain ⟨rfl, _⟩ := List.cons.inj heq
      decide
    · cases heq
  exact ⟨rfl, rfl, rfl, hparts, hlisted,
    outcome_glob_of_spelled_start (Or.inr ⟨rfl, rfl⟩) rfl rfl hparts hlisted⟩

end Glob

end ScopedShell
