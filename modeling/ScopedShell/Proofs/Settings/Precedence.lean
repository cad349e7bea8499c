import Mathlib.Data.List.TakeWhile
import ScopedShell.Proofs.Document.Plain
import ScopedShell.Proofs.Settings.Validation
import ScopedShell.Settings.Source

/-!
# Precedence of settings

A field has the value that the environment gives it, or else the one of the document, or else its
default. Overriding replaces the entries of some fields and keeps all others (`field?_override`,
`filter_override`), so two documents with the same other entries are loaded in the same way, and
what is wrong with another entry is reported whatever the environment says
(`exists_problems_override_iff`).
-/

namespace ScopedShell.Settings

open Data

variable {env : Environment} {entries : List (Data × Data)} {name : Text}

/-! ## Values of the environment -/

def overriding? (env : Environment) (name : Text) : Option Data :=
  if name = dryRunField then
    (valueOf? env dryRunVariable).map fun value => .flag (Text.lowerAscii value ∈ switchWords)
  else if name = logLevelField then (valueOf? env logLevelVariable).map .text
  else none

/-- The value of a field: that of the environment or, if there is none, that of the document. -/
def inForce? (env : Environment) (entries : List (Data × Data)) (name : Text) : Option Data :=
  (overriding? env name).or (field? name entries)

/-- Whether the key of an entry is no field to which the environment gives a value. -/
def isKept (env : Environment) (entry : Data × Data) : Bool :=
  match entry.1 with
  | .text name => (overriding? env name).isNone
  | _ => true

theorem isKept_text (value : Data) :
    isKept env (.text name, value) = (overriding? env name).isNone :=
  rfl

theorem isKept_of_not_mem_fieldNames {entry : Data × Data}
    (h : ∀ name ∈ fieldNames, entry.1 ≠ .text name) : isKept env entry = true := by
  obtain ⟨key, value⟩ := entry
  cases key with
  | text name =>
    rw [isKept_text, overriding?, if_neg, if_neg, Option.isNone_none]
    · exact fun hname => h logLevelField (by simp [fieldNames]) (congrArg Data.text hname)
    · exact fun hname => h dryRunField (by simp [fieldNames]) (congrArg Data.text hname)
  | _ => rfl

/-! ## Overriding -/

def putGiven (name : Text) (value? : Option Data) (entries : List (Data × Data)) :
    List (Data × Data) :=
  match value? with
  | some value => putField name value entries
  | none => entries

theorem override_eq : override env entries =
    putGiven logLevelField (overriding? env logLevelField)
      (putGiven dryRunField (overriding? env dryRunField) entries) := by
  have hother : logLevelField ≠ dryRunField := by decide
  rw [override, overriding?, overriding?, if_neg hother, if_pos rfl, if_pos rfl]
  cases valueOf? env dryRunVariable <;> cases valueOf? env logLevelVariable <;> rfl

theorem field?_putGiven_self {value? : Option Data} :
    field? name (putGiven name value? entries) = value?.or (field? name entries) := by
  cases value? with
  | none => rfl
  | some value => exact field?_putField_self

theorem field?_putGiven_of_ne {other : Text} (h : name ≠ other) {value? : Option Data} :
    field? name (putGiven other value? entries) = field? name entries := by
  cases value? with
  | none => rfl
  | some value => exact field?_putField_of_ne h

theorem filter_putGiven :
    (putGiven name (overriding? env name) entries).filter (isKept env) =
      entries.filter (isKept env) := by
  cases h : overriding? env name with
  | none => rfl
  | some value =>
    refine filter_putField fun other => ?_
    rw [isKept_text, h, Option.isNone_some]

theorem field?_override : field? name (override env entries) = inForce? env entries name := by
  rw [override_eq, inForce?]
  by_cases hlogLevel : name = logLevelField
  · subst hlogLevel
    rw [field?_putGiven_self, field?_putGiven_of_ne (by decide)]
  · rw [field?_putGiven_of_ne hlogLevel]
    by_cases hdryRun : name = dryRunField
    · subst hdryRun
      rw [field?_putGiven_self]
    · rw [field?_putGiven_of_ne hdryRun, overriding?, if_neg hdryRun, if_neg hlogLevel,
        Option.none_or]

theorem filter_override :
    (override env entries).filter (isKept env) = entries.filter (isKept env) := by
  rw [override_eq, filter_putGiven, filter_putGiven]

theorem mem_override_iff {entry : Data × Data} (h : isKept env entry = true) :
    entry ∈ override env entries ↔ entry ∈ entries := by
  rw [← and_iff_left h (a := entry ∈ override env entries), ← List.mem_filter, filter_override,
    List.mem_filter, and_iff_left h]

theorem mem_keys_override_iff {key : Data} (h : ∀ name ∈ fieldNames, key ≠ .text name) :
    key ∈ (override env entries).map Prod.fst ↔ key ∈ entries.map Prod.fst := by
  rw [List.mem_map, List.mem_map]
  refine exists_congr fun entry => and_congr_left fun hkey => mem_override_iff ?_
  exact isKept_of_not_mem_fieldNames (hkey ▸ h)

theorem keyProblems_filter_isKept :
    keyProblems (entries.filter (isKept env)) = keyProblems entries := by
  rw [keyProblems, keyProblems, List.filterMap_filter]
  refine congrArg (List.filterMap · entries) (funext fun entry => ?_)
  split
  · rfl
  · next hhidden =>
    by_contra hproblem
    refine hhidden (isKept_of_not_mem_fieldNames fun name hname hkey => hproblem ?_)
    exact (keyProblem?_eq_none_iff.2 ⟨name, hname, hkey⟩).symm

theorem keyProblems_override : keyProblems (override env entries) = keyProblems entries := by
  rw [← keyProblems_filter_isKept, filter_override, keyProblems_filter_isKept]

/-! ## Blank variables -/

theorem trim_eq_nil_of_blank {value : Text} (h : ∀ c ∈ value, Text.isBlank c = true) :
    Text.trim value = [] := by
  rw [Text.trim, Text.strip, List.dropWhile_eq_nil_iff.2 h]
  rfl

/-- A blank variable has no value, as if it were unset. -/
theorem valueOf?_unset_of_blank {value : Text} (hget : env.get? name = some value)
    (hblank : ∀ c ∈ value, Text.isBlank c = true) (other : Text) :
    valueOf? (env.unset name) other = valueOf? env other := by
  rw [valueOf?, valueOf?, Environment.get?_unset]
  by_cases hother : other = name
  · subst hother
    simp only [hget, trim_eq_nil_of_blank hblank, ↓reduceIte]
  · rw [if_neg hother]

/-- The environment matters for loading by the values of three variables and by the home
directory. -/
theorem load_congr {env' : Environment} (hvalue : ∀ name, valueOf? env' name = valueOf? env name)
    (hhome : env'.get? "HOME" = env.get? "HOME") (fs : FileSystem) (asked : Option PathArgument) :
    load fs env' asked = load fs env asked := by
  have hexpand : ∀ p, expandHome env' p = expandHome env p := by
    intro p
    simp only [expandHome, homeDirectory, homeText?, hhome]
  have hoverride : ∀ entries, override env' entries = override env entries := by
    intro entries
    rw [override, override, hvalue, hvalue]
  simp only [load, path, hvalue, hexpand, hoverride]

/-! ## Documents -/

/-- The document at a path is missing, is empty, or is a mapping with the entries. -/
inductive Holds (fs : FileSystem) (p : Path) : List (Data × Data) → Prop
  | missing : fs.pathExists p.text = .ok false → Holds fs p []
  | empty {bytes : ByteArray} {content : String} :
    fs.pathExists p.text = .ok true → fs.read p.text = .ok bytes →
    String.fromUTF8? bytes = some content → Document.read content.toList = .ok .null → Holds fs p []
  | mapping {bytes : ByteArray} {content : String} {entries : List (Data × Data)} :
    fs.pathExists p.text = .ok true → fs.read p.text = .ok bytes →
    String.fromUTF8? bytes = some content →
    Document.read content.toList = .ok (.mapping entries) → Holds fs p entries

section Loading

variable {fs : FileSystem} {p : Path} {asked : Option PathArgument}

theorem Holds.readEntries (h : Holds fs p entries) : readEntries fs p = .ok entries := by
  cases h with
  | missing hexists => rw [Settings.readEntries, hexists]
  | empty hexists hread hcontent hdocument =>
    simp only [Settings.readEntries, hexists, hread, hcontent, hdocument]
    rfl
  | mapping hexists hread hcontent hdocument =>
    simp only [Settings.readEntries, hexists, hread, hcontent, hdocument]
    rfl

theorem Holds.distinctKeys (h : Holds fs p entries) : DistinctKeys entries := by
  cases h with
  | missing _ => exact List.Pairwise.nil
  | empty _ _ _ _ => exact List.Pairwise.nil
  | mapping _ _ _ hdocument => exact Document.distinctKeys_of_read hdocument

theorem load_eq_validate (hpath : path env asked = .ok p) (h : Holds fs p entries) :
    load fs env asked = validate (override env entries) := by
  rw [load, hpath]
  change (Settings.readEntries fs p >>= fun entries => validate (override env entries)) = _
  rw [h.readEntries]
  rfl

/-- Documents with the same kept entries, in any order, are validated in the same way. -/
theorem validate_override_congr {entries' : List (Data × Data)} (h : DistinctKeys entries)
    (h' : DistinctKeys entries')
    (hkept : (entries.filter (isKept env)).Perm (entries'.filter (isKept env))) :
    validate (override env entries) = validate (override env entries') := by
  refine congrArg (Except.mapError Fault.invalidSettings) (ofEntries_congr (fun name => ?_) ?_)
  · rw [field?_override, field?_override, inForce?, inForce?]
    cases hvalue : overriding? env name with
    | some value => rfl
    | none =>
      rw [Option.none_or, Option.none_or]
      refine field?_eq_of_mem_iff h h' fun value => ?_
      have hmem := hkept.mem_iff (a := (.text name, value))
      rw [List.mem_filter, List.mem_filter, isKept_text, hvalue] at hmem
      simpa using hmem
  · rw [keyProblems_override, keyProblems_override, ← @keyProblems_filter_isKept env entries,
      ← @keyProblems_filter_isKept env entries']
    exact hkept.filterMap _

/-! ## Loading -/

/-- The settings of which the environment gives some fields and the others have their defaults. -/
def overDefaults (env : Environment) : Settings where
  dryRun := (valueOf? env dryRunVariable).elim ({} : Settings).dryRun
    fun value => Text.lowerAscii value ∈ switchWords
  logLevel := (valueOf? env logLevelVariable).getD ({} : Settings).logLevel
  logFormat := ({} : Settings).logFormat

/-- How the outcome of loading comes from the environment and from the entries of a document. -/
structure Precedence (env : Environment) (entries : List (Data × Data))
    (outcome : Except Fault Settings) : Prop where
  /-- What is validated are the entries with the values of the environment put in. -/
  validated : outcome = validate (override env entries)
  fields : ∀ name, field? name (override env entries) = inForce? env entries name
  others : (override env entries).filter (isKept env) = entries.filter (isKept env)
  loaded_iff : ∀ settings, outcome = .ok settings ↔
    Gives (inForce? env entries) (entries.map Prod.fst) settings
  /-- Everything that is wrong is reported, and nothing else. -/
  reported_iff : ∀ problem,
    (∃ problems, outcome = .error (.invalidSettings problems) ∧ problem ∈ problems) ↔
      Wrong (inForce? env entries) (entries.map Prod.fst) problem
  loaded_or_wrong : (∃ settings, outcome = .ok settings) ∨
    ∃ problem, Wrong (inForce? env entries) (entries.map Prod.fst) problem
  /-- Without entries every field has the value of the environment or its default. -/
  defaults : entries = [] → outcome = .ok (overDefaults env)

theorem validate_eq_ok_iff {settings : Settings} :
    validate entries = .ok settings ↔ ofEntries entries = .ok settings :=
  mapError_eq_ok_iff

theorem validate_eq_error_iff {problems : List Problem} :
    validate entries = .error (.invalidSettings problems) ↔
      ofEntries entries = .error problems := by
  rw [validate, mapError_eq_error_iff]
  simp

theorem validate_override_eq_ok_iff {settings : Settings} :
    validate (override env entries) = .ok settings ↔
      Gives (inForce? env entries) (entries.map Prod.fst) settings := by
  rw [validate_eq_ok_iff, ofEntries_eq_ok_iff, funext fun _ => field?_override]
  exact ⟨fun h => h.of_keys fun _ hkey => (mem_keys_override_iff hkey).2,
    fun h => h.of_keys fun _ hkey => (mem_keys_override_iff hkey).1⟩

theorem exists_problems_override_iff {problem : Problem} :
    (∃ problems, validate (override env entries) = .error (.invalidSettings problems) ∧
      problem ∈ problems) ↔ Wrong (inForce? env entries) (entries.map Prod.fst) problem := by
  simp only [validate_eq_error_iff]
  rw [exists_problems_iff, funext fun _ => field?_override]
  exact ⟨fun h => h.of_keys fun _ hkey => (mem_keys_override_iff hkey).1,
    fun h => h.of_keys fun _ hkey => (mem_keys_override_iff hkey).2⟩

theorem gives_overDefaults : Gives (inForce? env []) [] (overDefaults env) := by
  have hnone : ∀ name, inForce? env [] name = overriding? env name := fun _ => Option.or_none
  refine ⟨?_, ?_, ?_, nofun⟩
  · rw [hnone, overriding?, if_pos rfl, overDefaults]
    cases valueOf? env dryRunVariable <;> rfl
  · rw [hnone, overriding?, if_neg (by decide), if_pos rfl, overDefaults]
    cases valueOf? env logLevelVariable <;> rfl
  · rw [hnone, overriding?, if_neg (by decide), if_neg (by decide)]
    rfl

theorem precedence_validate_override :
    Precedence env entries (validate (override env entries)) where
  validated := rfl
  fields _ := field?_override
  others := filter_override
  loaded_iff _ := validate_override_eq_ok_iff
  reported_iff _ := exists_problems_override_iff
  loaded_or_wrong := by
    rcases exists_settings_or_wrong (override env entries) with ⟨settings, h⟩ | ⟨problem, h⟩
    · exact Or.inl ⟨settings, validate_eq_ok_iff.2 h⟩
    · rw [← exists_problems_iff] at h
      simp only [← validate_eq_error_iff] at h
      exact Or.inr ⟨problem, exists_problems_override_iff.1 h⟩
  defaults := by
    rintro rfl
    exact validate_override_eq_ok_iff.2 gives_overDefaults

end Loading

/-- Settings are what the entries of the document give together with the values of the environment,
which hide the entries of their fields and nothing else. A blank variable acts as if it were
unset. -/
theorem load_precedence (fs : FileSystem) (env : Environment) (asked : Option PathArgument) :
    (∀ p entries, path env asked = .ok p → Holds fs p entries →
      Precedence env entries (load fs env asked) ∧
      ∀ fs' asked' p' entries', path env asked' = .ok p' → Holds fs' p' entries' →
        (entries'.filter (isKept env)).Perm (entries.filter (isKept env)) →
        load fs' env asked' = load fs env asked) ∧
    ∀ name ∈ [pathVariable, dryRunVariable, logLevelVariable], ∀ value,
      env.get? name = some value → (∀ c ∈ value, Text.isBlank c = true) →
      load fs (env.unset name) asked = load fs env asked := by
  refine ⟨fun p entries hpath hholds => ⟨?_, ?_⟩, ?_⟩
  · rw [load_eq_validate hpath hholds]
    exact precedence_validate_override
  · intro fs' asked' p' entries' hpath' hholds' hkept
    rw [load_eq_validate hpath hholds, load_eq_validate hpath' hholds']
    exact validate_override_congr hholds'.distinctKeys hholds.distinctKeys hkept
  · intro name hname value hget hblank
    refine load_congr (valueOf?_unset_of_blank hget hblank) ?_ fs asked
    rw [Environment.get?_unset, if_neg]
    rintro rfl
    revert hname
    decide

/-- The environment hides a number that is no truth value, and one of its variables is blank. -/
theorem load_precedence_over_number :
    let document : String := "dry_run: 7"
    let fs := FileSystem.empty.insert ["c"] (.file document.toUTF8 {})
    let env : Environment := [("SHELLUTILS_CONFIG", "/c"), ("SHELLUTILS_DRY_RUN", " Yes "),
      ("SHELLUTILS_LOG_LEVEL", " ")]
    load fs env none = .ok { dryRun := true } ∧
      load fs (env.unset logLevelVariable) none = load fs env none ∧
      ∃ problems, load fs (env.unset dryRunVariable) none = .error (.invalidSettings problems) ∧
        ⟨dryRunField, .unclearTruthValue⟩ ∈ problems := by
  intro document fs env
  have hutf8 : String.fromUTF8? document.toUTF8 = some document := dif_pos document.isValidUTF8
  have hdocument : Document.read ("dry_run: 7" : String).toList =
      .ok (.mapping [(.text "dry_run", .number (.integer 7))]) :=
    @Document.read_of_plain [("dry_run", "7")] .text (fun _ => .number (.integer 7)) _ rfl
      ⟨List.forall_mem_singleton.2 (by decide), List.forall_mem_singleton.2 rfl,
        List.forall_mem_singleton.2 rfl⟩
  have hholds := @Holds.mapping fs (Path.ofText "/c") _ _ _ rfl rfl hutf8 hdocument
  obtain ⟨hload, hblank⟩ := load_precedence fs env none
  obtain ⟨hunset, _⟩ := load_precedence fs (env.unset dryRunVariable) none
  obtain ⟨hprecedence, _⟩ := hload _ _ rfl hholds
  obtain ⟨hwithout, _⟩ := hunset (Path.ofText "/c") _ rfl hholds
  have hkeys : ∀ key ∈ [Data.text "dry_run"], ∃ name ∈ fieldNames, key = .text name :=
    List.forall_mem_singleton.2 ⟨dryRunField, List.mem_cons_self, rfl⟩
  have hnumber : truthOf (.number (.integer 7)) = .error .unclearTruthValue := rfl
  refine ⟨(hprecedence.loaded_iff _).2 ⟨rfl, rfl, rfl, hkeys⟩, ?_, ?_⟩
  · exact hblank logLevelVariable (by decide) " " rfl (List.forall_mem_singleton.2 rfl)
  · exact (hwithout.reported_iff _).2 (.truth rfl hnumber)

end ScopedShell.Settings
