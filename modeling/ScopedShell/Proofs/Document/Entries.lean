import ScopedShell.Document
import ScopedShell.Proofs.Outcome

/-!
# Entries of a mapping

The keys of a mapping that a document describes are different from each other
(`distinctKeys_of_read`), so its entries can be taken in any order: a field has the value with which
it is entered (`field?_eq_some_iff`). Giving a field a value changes that field and no other entry
(`field?_putField_self`, `filter_putField`).
-/

namespace ScopedShell

namespace Data

variable {key : Data} {name other : Text} {value : Data} {entries : List (Data × Data)}

theorem sameKey_text_iff : key.sameKey (text name) = true ↔ key = text name := by
  cases key with
  | text t => exact beq_iff_eq.trans (text.injEq t name).symm.to_iff
  | _ => exact iff_of_false Bool.false_ne_true Data.noConfusion

def DistinctKeys (entries : List (Data × Data)) : Prop :=
  entries.Pairwise fun a b => a.1.sameKey b.1 = false

theorem field?_cons_of_eq (h : key = text name) (value : Data) (rest : List (Data × Data)) :
    field? name ((key, value) :: rest) = some value := by
  rw [field?, List.find?_cons, sameKey_text_iff.2 h]
  rfl

theorem field?_cons_of_ne (h : key ≠ text name) (value : Data) (rest : List (Data × Data)) :
    field? name ((key, value) :: rest) = field? name rest := by
  rw [field?, List.find?_cons, Bool.eq_false_iff.2 fun hsame => h (sameKey_text_iff.1 hsame),
    field?]

theorem field?_eq_some_iff (h : DistinctKeys entries) :
    field? name entries = some value ↔ (text name, value) ∈ entries := by
  induction entries with
  | nil => simp [field?]
  | cons entry rest ih =>
    obtain ⟨key, first⟩ := entry
    rw [DistinctKeys, List.pairwise_cons] at h
    rw [List.mem_cons]
    by_cases hkey : key = text name
    · have hrest : (text name, value) ∉ rest := fun hmem => by
        have hdistinct := h.1 _ hmem
        rw [sameKey_text_iff.2 hkey] at hdistinct
        cases hdistinct
      rw [field?_cons_of_eq hkey, or_iff_left hrest, Option.some.injEq, Prod.mk.injEq]
      simp [hkey, eq_comm]
    · have hentry : (text name, value) ≠ (key, first) :=
        fun heq => hkey (congrArg Prod.fst heq).symm
      rw [field?_cons_of_ne hkey, or_iff_right hentry, ih h.2]

theorem field?_eq_of_mem_iff {entries' : List (Data × Data)} (h : DistinctKeys entries)
    (h' : DistinctKeys entries')
    (hmem : ∀ value, (text name, value) ∈ entries ↔ (text name, value) ∈ entries') :
    field? name entries = field? name entries' := by
  apply Option.ext
  intro value
  rw [field?_eq_some_iff h, field?_eq_some_iff h', hmem]

theorem field?_putField_self : field? name (putField name value entries) = some value := by
  induction entries with
  | nil => exact field?_cons_of_eq rfl value []
  | cons entry rest ih =>
    obtain ⟨key, old⟩ := entry
    rw [putField, put]
    split
    · next hsame => exact field?_cons_of_eq (sameKey_text_iff.1 hsame) value rest
    · next hother =>
      rw [field?_cons_of_ne fun hkey => hother (sameKey_text_iff.2 hkey)]
      exact ih

theorem field?_putField_of_ne (h : name ≠ other) :
    field? name (putField other value entries) = field? name entries := by
  have hne : text other ≠ text name := fun heq => h (text.inj heq).symm
  induction entries with
  | nil => exact field?_cons_of_ne hne value []
  | cons entry rest ih =>
    obtain ⟨key, old⟩ := entry
    rw [putField, put]
    split
    · next hsame =>
      have hkey : key ≠ text name := (sameKey_text_iff.1 hsame : key = text other) ▸ hne
      rw [field?_cons_of_ne hkey, field?_cons_of_ne hkey]
    · by_cases hkey : key = text name
      · rw [field?_cons_of_eq hkey, field?_cons_of_eq hkey]
      · rw [field?_cons_of_ne hkey, field?_cons_of_ne hkey]
        exact ih

/-- The entries of which the field is none stay as they are. -/
theorem filter_putField {keep : Data × Data → Bool} (h : ∀ value, keep (text name, value) = false) :
    (putField name value entries).filter keep = entries.filter keep := by
  induction entries with
  | nil => simp [putField, put, h]
  | cons entry rest ih =>
    rw [putField, put]
    split
    · next hsame =>
      rw [sameKey_text_iff] at hsame
      have hold : keep entry = false := by
        rw [← h entry.2, ← hsame]
      simp [hsame, h, hold]
    · rw [List.filter_cons, List.filter_cons, ← putField, ih]

theorem exists_key_of_mem_put {entry : Data × Data} (h : entry ∈ put key value entries) :
    entry.1 = key ∨ ∃ old ∈ entries, old.1 = entry.1 := by
  induction entries with
  | nil => exact Or.inl (congrArg Prod.fst (List.mem_singleton.1 h))
  | cons first rest ih =>
    rw [put] at h
    split at h
    · rcases List.mem_cons.1 h with rfl | h
      · exact Or.inr ⟨first, List.mem_cons_self, rfl⟩
      · exact Or.inr ⟨entry, List.mem_cons_of_mem _ h, rfl⟩
    · rcases List.mem_cons.1 h with rfl | h
      · exact Or.inr ⟨entry, List.mem_cons_self, rfl⟩
      · rcases ih h with hkey | ⟨old, hold, hkey⟩
        · exact Or.inl hkey
        · exact Or.inr ⟨old, List.mem_cons_of_mem _ hold, hkey⟩

theorem DistinctKeys.put (h : DistinctKeys entries) (key value : Data) :
    DistinctKeys (put key value entries) := by
  induction entries with
  | nil => exact List.pairwise_singleton _ _
  | cons first rest ih =>
    rw [DistinctKeys, List.pairwise_cons] at h
    rw [Data.put]
    split
    · exact List.pairwise_cons.2 h
    · next hother =>
      refine List.pairwise_cons.2 ⟨fun entry hentry => ?_, ih h.2⟩
      rcases exists_key_of_mem_put hentry with hkey | ⟨old, hold, hkey⟩
      · rw [hkey]
        exact Bool.not_eq_true _ ▸ hother
      · rw [← hkey]
        exact h.1 old hold

theorem DistinctKeys.foldl_put (h : DistinctKeys entries) (pairs : List (Data × Data)) :
    DistinctKeys (pairs.foldl (fun done entry => Data.put entry.1 entry.2 done) entries) := by
  induction pairs generalizing entries with
  | nil => exact h
  | cons pair pairs ih => exact ih (h.put pair.1 pair.2)

end Data

namespace Document

open Data

variable {entries : List (Data × Data)}

theorem readScalar_ne_mapping (t : Text) : readScalar t ≠ .ok (.mapping entries) := by
  have hmap : ∀ {α : Type} (outcome : Except Fault α) (data : α → Data),
      (∀ a, data a ≠ .mapping entries) → outcome.map data ≠ .ok (.mapping entries) := by
    intro α outcome data hdata
    cases outcome with
    | error fault => exact nofun
    | ok a => exact fun h => hdata a (Except.ok.inj h)
  rw [readScalar]
  iterate 4
    split
    · exact nofun
  split
  · exact hmap _ _ fun _ => nofun
  · exact hmap _ _ fun _ => nofun
  · exact hmap _ _ fun _ => nofun
  · exact nofun

theorem taggedScalar_ne_mapping (tag t : Text) : taggedScalar tag t ≠ .ok (.mapping entries) := by
  rw [taggedScalar]
  split
  · exact nofun
  · iterate 3
      split
      · exact nofun
    split
    · exact nofun
    · split
      · split <;> exact nofun
      · split <;> exact nofun
      · split <;> exact nofun
      · split <;> exact nofun
      · exact nofun

theorem scalarValue_ne_mapping (isKey : Bool) (t : Text) (plain : Bool) (tag : Option Text) :
    scalarValue isKey t plain tag ≠ .ok (.mapping entries) := by
  cases tag with
  | some tag => exact taggedScalar_ne_mapping tag t
  | none =>
    rw [scalarValue]
    split
    · split
      · exact nofun
      · exact readScalar_ne_mapping t
    · exact nofun

theorem distinctKeys_of_mappingOf {pairs : List (Data × Data)}
    (h : mappingOf pairs = .mapping entries) : DistinctKeys entries := by
  rw [← Data.mapping.inj h]
  exact DistinctKeys.foldl_put List.Pairwise.nil pairs

theorem distinctKeys_of_dataOf {depth : Nat} {isKey : Bool} {node : Node}
    (h : dataOf depth isKey node = .ok (.mapping entries)) : DistinctKeys entries := by
  cases node with
  | scalar t plain tag =>
    rw [dataOf] at h
    exact (scalarValue_ne_mapping isKey t plain tag h).elim
  | sequence items tag =>
    cases depth with
    | zero => cases h
    | succ depth =>
      rw [dataOf] at h
      cases hitems : items.mapM (dataOf depth false) with
      | error fault =>
        rw [hitems] at h
        cases h
      | ok data =>
        rw [hitems] at h
        cases h
  | mapping nodes tag =>
    cases depth with
    | zero => cases h
    | succ depth =>
      rw [dataOf, bind_eq_ok_iff] at h
      obtain ⟨merged, -, h⟩ := h
      obtain ⟨pairs, -, h⟩ := bind_eq_ok_iff.1 h
      exact distinctKeys_of_mappingOf (Except.ok.inj h)

/-- A mapping that a document describes has every key once. -/
theorem distinctKeys_of_read {t : Text} (h : read t = .ok (.mapping entries)) :
    DistinctKeys entries := by
  obtain ⟨node?, -, h⟩ := bind_eq_ok_iff.1 h
  cases node? with
  | none => cases h
  | some node =>
    obtain ⟨later, -, h⟩ := bind_eq_ok_iff.1 h
    obtain ⟨_, -, h⟩ := bind_eq_ok_iff.1 h
    exact distinctKeys_of_dataOf h

end Document

end ScopedShell
