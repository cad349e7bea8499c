import ScopedShell.Proofs.Document.Entries
import ScopedShell.Settings.Basic

/-!
# Validation of settings

A mapping either gives settings (`Gives`) or has problems (`Wrong`). Settings come out in the first
case (`ofEntries_eq_ok_iff`) and exactly the problems in the second (`exists_problems_iff`). The
problems are sorted by texts that tell them apart, so the outcome depends on the values of the
fields and on which problems the keys have, but not on the order of the entries (`ofEntries_congr`).
-/

namespace ScopedShell.Settings

/-! ## The order of problems -/

section Texts

variable {a b c : List Text}

theorem textsAtMost_iff : textsAtMost a b = true ↔ ¬b < a := by
  rw [textsAtMost, Bool.not_eq_true', decide_eq_false_iff_not]

theorem textsAtMost_trans (hab : textsAtMost a b = true) (hbc : textsAtMost b c = true) :
    textsAtMost a c = true := by
  rw [textsAtMost_iff] at hab hbc ⊢
  exact List.not_lt.2 (List.le_trans (List.not_lt.1 hab) (List.not_lt.1 hbc))

theorem textsAtMost_total (a b : List Text) : textsAtMost a b = true ∨ textsAtMost b a = true := by
  rw [textsAtMost_iff, textsAtMost_iff]
  exact (List.le_total a b).imp List.not_lt.2 List.not_lt.2

theorem textsAtMost_antisymm (hab : textsAtMost a b = true) (hba : textsAtMost b a = true) :
    a = b := by
  rw [textsAtMost_iff] at hab hba
  exact List.le_antisymm (List.not_lt.1 hab) (List.not_lt.1 hba)

end Texts

theorem ProblemKind.code_injective {a b : ProblemKind} (h : a.code = b.code) : a = b := by
  revert h
  cases a <;> cases b <;> decide

theorem Problem.texts_injective {p q : Problem} (h : p.texts = q.texts) : p = q := by
  obtain ⟨field, kind⟩ := p
  obtain ⟨field', kind'⟩ := q
  rw [Problem.texts, Problem.texts, List.cons.injEq, List.cons.injEq] at h
  obtain ⟨hfield, hcode, -⟩ := h
  exact (Problem.mk.injEq _ _ _ _).mpr ⟨hfield, ProblemKind.code_injective hcode⟩

/-- Problems come in the same order however they were found. -/
theorem sortProblems_eq_of_perm {problems problems' : List Problem}
    (h : problems.Perm problems') : sortProblems problems = sortProblems problems' := by
  have hsorted : ∀ list,
      (sortProblems list).Pairwise fun p q => textsAtMost p.texts q.texts = true :=
    List.pairwise_mergeSort (fun _ _ _ => textsAtMost_trans) fun p q =>
      Bool.or_eq_true _ _ ▸ textsAtMost_total p.texts q.texts
  refine List.Perm.eq_of_pairwise (fun p q _ _ hpq hqp => ?_) (hsorted problems)
    (hsorted problems') ?_
  · exact Problem.texts_injective (textsAtMost_antisymm hpq hqp)
  · exact (List.mergeSort_perm _ _).trans (h.trans (List.mergeSort_perm _ _).symm)

theorem mem_sortProblems {problems : List Problem} {problem : Problem} :
    problem ∈ sortProblems problems ↔ problem ∈ problems :=
  List.mem_mergeSort

/-! ## What is asked of a mapping -/

def fieldNames : List Text := [dryRunField, logLevelField, logFormatField]

/-- The fields with these values, and these keys, give settings: every value can be read, a field
without a value has its default, and every key is the name of a field. -/
structure Gives (value? : Text → Option Data) (keys : List Data) (settings : Settings) : Prop where
  dryRun : (value? dryRunField).elim (.ok ({} : Settings).dryRun) truthOf = .ok settings.dryRun
  logLevel : (value? logLevelField).elim (.ok ({} : Settings).logLevel) textOf =
    .ok settings.logLevel
  logFormat :
    (value? logFormatField).elim (.ok ({} : Settings).logFormat) textOf = .ok settings.logFormat
  keys : ∀ key ∈ keys, ∃ name ∈ fieldNames, key = .text name

/-- What is wrong with fields that have these values and with these keys. -/
inductive Wrong (value? : Text → Option Data) (keys : List Data) : Problem → Prop
  | truth {value : Data} {kind : ProblemKind} :
    value? dryRunField = some value → truthOf value = .error kind →
    Wrong value? keys ⟨dryRunField, kind⟩
  | text {name : Text} {value : Data} {kind : ProblemKind} :
    name ∈ [logLevelField, logFormatField] → value? name = some value →
    textOf value = .error kind → Wrong value? keys ⟨name, kind⟩
  | unknownKey {name : Text} :
    Data.text name ∈ keys → name ∉ fieldNames → Wrong value? keys ⟨name, .unknownKey⟩
  | keyNoText {key : Data} :
    key ∈ keys → (∀ name, key ≠ .text name) → Wrong value? keys ⟨keyName key, .keyNoText⟩

section Keys

variable {value? : Text → Option Data} {keys keys' : List Data}

/-- Of the keys only those matter that are no fields. -/
theorem Gives.of_keys {settings : Settings} (hgives : Gives value? keys settings)
    (h : ∀ key, (∀ name ∈ fieldNames, key ≠ .text name) → key ∈ keys' → key ∈ keys) :
    Gives value? keys' settings := by
  refine ⟨hgives.dryRun, hgives.logLevel, hgives.logFormat, fun key hkey => ?_⟩
  by_cases hfield : ∃ name ∈ fieldNames, key = .text name
  · exact hfield
  · exact hgives.keys key (h key (fun name hname heq => hfield ⟨name, hname, heq⟩) hkey)

theorem Wrong.of_keys {problem : Problem} (hwrong : Wrong value? keys problem)
    (h : ∀ key, (∀ name ∈ fieldNames, key ≠ .text name) → key ∈ keys → key ∈ keys') :
    Wrong value? keys' problem := by
  cases hwrong with
  | truth hvalue hread => exact .truth hvalue hread
  | text hname hvalue hread => exact .text hname hvalue hread
  | unknownKey hkey hname =>
    refine .unknownKey (h _ (fun field hfield heq => hname ?_) hkey) hname
    rw [Data.text.inj heq]
    exact hfield
  | keyNoText hkey htext => exact .keyNoText (h _ (fun name _ => htext name) hkey) htext

end Keys

/-! ## Problems of a mapping -/

variable {entries : List (Data × Data)} {settings : Settings} {problem : Problem}

def keyProblems (entries : List (Data × Data)) : List Problem :=
  entries.filterMap fun entry => keyProblem? entry.1

/-- The problems of the fields, then those of the keys. -/
def problemsOf (entries : List (Data × Data)) : List Problem :=
  problemOf (readField dryRunField ({} : Settings).dryRun truthOf entries) ++
  problemOf (readField logLevelField ({} : Settings).logLevel textOf entries) ++
  problemOf (readField logFormatField ({} : Settings).logFormat textOf entries) ++
    keyProblems entries

section Fields

variable {α : Type} {name : Text} {default : α} {read : Data → Except ProblemKind α}

theorem readField_eq_ok_iff {a : α} : readField name default read entries = .ok a ↔
    (Data.field? name entries).elim (.ok default) read = .ok a := by
  rw [readField]
  cases Data.field? name entries with
  | none => rw [Option.elim_none, Except.ok.injEq, Except.ok.injEq]
  | some value => exact mapError_eq_ok_iff

theorem problemOf_eq_nil_iff {outcome : Except Problem α} :
    problemOf outcome = [] ↔ ∃ a, outcome = .ok a := by
  cases outcome <;> simp [problemOf]

theorem mem_problemOf_iff {outcome : Except Problem α} :
    problem ∈ problemOf outcome ↔ outcome = .error problem := by
  cases outcome <;> simp [problemOf, eq_comm]

theorem mem_problemOf_readField_iff : problem ∈ problemOf (readField name default read entries) ↔
    ∃ value kind, Data.field? name entries = some value ∧ read value = .error kind ∧
      ⟨name, kind⟩ = problem := by
  rw [mem_problemOf_iff, readField]
  cases Data.field? name entries with
  | none => simp
  | some value => simp [mapError_eq_error_iff]

end Fields

theorem keyProblem?_eq_none_iff {key : Data} :
    keyProblem? key = none ↔ ∃ name ∈ fieldNames, key = .text name := by
  cases key with
  | text name =>
    rw [keyProblem?]
    split
    · next hname => exact iff_of_true rfl ⟨name, hname, rfl⟩
    · next hname =>
      exact iff_of_false nofun fun ⟨_, hother, heq⟩ => hname (Data.text.inj heq ▸ hother)
  | _ => simp [keyProblem?]

theorem keyProblem?_eq_some_iff {key : Data} : keyProblem? key = some problem ↔
    (∃ name, key = .text name ∧ name ∉ fieldNames ∧ problem = ⟨name, .unknownKey⟩) ∨
    ((∀ name, key ≠ .text name) ∧ problem = ⟨keyName key, .keyNoText⟩) := by
  cases key with
  | text name => simp [keyProblem?, fieldNames, eq_comm]
  | _ => simp [keyProblem?, eq_comm]

theorem mem_problemsOf_iff : problem ∈ problemsOf entries ↔
    Wrong (Data.field? · entries) (entries.map Prod.fst) problem := by
  simp only [problemsOf, keyProblems, List.mem_append, mem_problemOf_readField_iff,
    List.mem_filterMap, keyProblem?_eq_some_iff]
  constructor
  · rintro (((⟨value, kind, hvalue, hread, rfl⟩ | ⟨value, kind, hvalue, hread, rfl⟩) |
      ⟨value, kind, hvalue, hread, rfl⟩) |
      ⟨entry, hentry, ⟨name, hkey, hname, rfl⟩ | ⟨hkey, rfl⟩⟩)
    · exact .truth hvalue hread
    · exact .text (by simp) hvalue hread
    · exact .text (by simp) hvalue hread
    · exact .unknownKey (hkey ▸ List.mem_map_of_mem hentry) hname
    · exact .keyNoText (List.mem_map_of_mem hentry) hkey
  · rintro (⟨hvalue, hread⟩ | ⟨hname, hvalue, hread⟩ | ⟨hkey, hname⟩ | ⟨hkey, htext⟩)
    · exact Or.inl (Or.inl (Or.inl ⟨_, _, hvalue, hread, rfl⟩))
    · rw [List.mem_cons, List.mem_singleton] at hname
      rcases hname with rfl | rfl
      · exact Or.inl (Or.inl (Or.inr ⟨_, _, hvalue, hread, rfl⟩))
      · exact Or.inl (Or.inr ⟨_, _, hvalue, hread, rfl⟩)
    · obtain ⟨entry, hentry, hfst⟩ := List.mem_map.1 hkey
      exact Or.inr ⟨entry, hentry, Or.inl ⟨_, hfst, hname, rfl⟩⟩
    · obtain ⟨entry, hentry, rfl⟩ := List.mem_map.1 hkey
      exact Or.inr ⟨entry, hentry, Or.inr ⟨htext, rfl⟩⟩

theorem keyProblems_eq_nil_iff : keyProblems entries = [] ↔
    ∀ key ∈ entries.map Prod.fst, ∃ name ∈ fieldNames, key = .text name := by
  simp only [keyProblems, List.filterMap_eq_nil_iff, keyProblem?_eq_none_iff, List.forall_mem_map]

theorem ofEntries_of_problemsOf_eq_nil (h : problemsOf entries = []) :
    ∃ settings, ofEntries entries = .ok settings := by
  simp only [problemsOf, List.append_eq_nil_iff, problemOf_eq_nil_iff, keyProblems] at h
  obtain ⟨⟨⟨⟨dryRun, hdryRun⟩, logLevel, hlogLevel⟩, logFormat, hlogFormat⟩, hkeys⟩ := h
  exact ⟨⟨dryRun, logLevel, logFormat⟩,
    by simp only [ofEntries, hdryRun, hlogLevel, hlogFormat, hkeys]⟩

theorem ofEntries_of_problemsOf_ne_nil (h : problemsOf entries ≠ []) :
    ofEntries entries = .error (sortProblems (problemsOf entries)) := by
  rw [ofEntries]
  split
  · next hdryRun hlogLevel hlogFormat hkeys =>
    refine (h ?_).elim
    rw [problemsOf, hdryRun, hlogLevel, hlogFormat, keyProblems, hkeys]
    rfl
  · rfl

theorem ofEntries_eq_ok_iff : ofEntries entries = .ok settings ↔
    Gives (Data.field? · entries) (entries.map Prod.fst) settings := by
  constructor
  · intro h
    rw [ofEntries] at h
    split at h
    · next hdryRun hlogLevel hlogFormat hkeys =>
      obtain rfl := Except.ok.inj h
      exact ⟨readField_eq_ok_iff.1 hdryRun, readField_eq_ok_iff.1 hlogLevel,
        readField_eq_ok_iff.1 hlogFormat, keyProblems_eq_nil_iff.1 hkeys⟩
    · cases h
  · intro h
    have hdryRun := readField_eq_ok_iff.2 h.dryRun
    have hlogLevel := readField_eq_ok_iff.2 h.logLevel
    have hlogFormat := readField_eq_ok_iff.2 h.logFormat
    have hkeys := keyProblems_eq_nil_iff.2 h.keys
    rw [keyProblems] at hkeys
    simp only [ofEntries, hdryRun, hlogLevel, hlogFormat, hkeys]

theorem exists_problems_iff :
    (∃ problems, ofEntries entries = .error problems ∧ problem ∈ problems) ↔
      Wrong (Data.field? · entries) (entries.map Prod.fst) problem := by
  rw [← mem_problemsOf_iff]
  by_cases h : problemsOf entries = []
  · obtain ⟨settings, hsettings⟩ := ofEntries_of_problemsOf_eq_nil h
    simp [hsettings, h]
  · simp [ofEntries_of_problemsOf_ne_nil h, mem_sortProblems]

theorem exists_settings_or_wrong (entries : List (Data × Data)) :
    (∃ settings, ofEntries entries = .ok settings) ∨
      ∃ problem, Wrong (Data.field? · entries) (entries.map Prod.fst) problem := by
  cases h : problemsOf entries with
  | nil => exact Or.inl (ofEntries_of_problemsOf_eq_nil h)
  | cons problem problems =>
    exact Or.inr ⟨problem, mem_problemsOf_iff.1 (h ▸ List.mem_cons_self)⟩

/-- The values of the fields and the problems of the keys, in any order, determine the outcome. -/
theorem ofEntries_congr {entries' : List (Data × Data)}
    (hfield : ∀ name, Data.field? name entries = Data.field? name entries')
    (hkeys : (keyProblems entries).Perm (keyProblems entries')) :
    ofEntries entries = ofEntries entries' := by
  have hread : ∀ {α : Type} (name : Text) (default : α) (read : Data → Except ProblemKind α),
      readField name default read entries = readField name default read entries' := by
    intro α name default read
    rw [readField, readField, hfield]
  have hproblems : (problemsOf entries).Perm (problemsOf entries') := by
    rw [problemsOf, problemsOf, hread, hread, hread]
    exact hkeys.append_left _
  by_cases h : problemsOf entries = []
  · have hnil : keyProblems entries = [] := (List.append_eq_nil_iff.1 h).2
    have hnil' : keyProblems entries' = [] := (hnil ▸ hkeys).nil_eq.symm
    rw [keyProblems] at hnil hnil'
    simp only [ofEntries, hread, hnil, hnil']
  · have h' : problemsOf entries' ≠ [] := fun hnil => h (hnil ▸ hproblems).eq_nil
    rw [ofEntries_of_problemsOf_ne_nil h, ofEntries_of_problemsOf_ne_nil h',
      sortProblems_eq_of_perm hproblems]

end ScopedShell.Settings
