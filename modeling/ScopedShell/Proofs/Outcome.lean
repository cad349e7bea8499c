import ScopedShell.Traced

/-!
# Outcomes of computations

How the outcome of a computation made of several steps comes about, and how results that exist for
the elements of a list are chosen for all of them at once.
-/

namespace ScopedShell

theorem bind_eq_ok_iff {ε α β : Type} {x : Except ε α} {f : α → Except ε β} {b : β} :
    (x >>= f) = .ok b ↔ ∃ a, x = .ok a ∧ f a = .ok b := by
  cases x with
  | error e => simp [bind, Except.bind]
  | ok a => simp [bind, Except.bind]

theorem bind_eq_error_iff {ε α β : Type} {x : Except ε α} {f : α → Except ε β} {e : ε} :
    (x >>= f) = .error e ↔ x = .error e ∨ ∃ a, x = .ok a ∧ f a = .error e := by
  cases x with
  | error e => simp [bind, Except.bind]
  | ok a => simp [bind, Except.bind]

theorem mapError_eq_ok_iff {ε ε' α : Type} {x : Except ε α} {f : ε → ε'} {a : α} :
    x.mapError f = .ok a ↔ x = .ok a := by
  cases x with
  | error e => exact iff_of_false nofun nofun
  | ok b => exact ⟨fun h => congrArg _ (Except.ok.inj h), fun h => congrArg _ (Except.ok.inj h)⟩

theorem mapError_eq_error_iff {ε ε' α : Type} {x : Except ε α} {f : ε → ε'} {e' : ε'} :
    x.mapError f = .error e' ↔ ∃ e, x = .error e ∧ f e = e' := by
  cases x with
  | error e =>
    exact ⟨fun h => ⟨e, rfl, Except.error.inj h⟩, fun ⟨_, he, hf⟩ =>
      congrArg _ (Except.error.inj he ▸ hf)⟩
  | ok a => exact iff_of_false nofun nofun

theorem mapM_map_eq_ok {ε α β γ : Type} {as : List α} {f : α → β} {g : β → Except ε γ} {h : α → γ}
    (hresults : ∀ a ∈ as, g (f a) = .ok (h a)) : (as.map f).mapM g = .ok (as.map h) := by
  induction as with
  | nil => rfl
  | cons a as ih =>
    rw [List.forall_mem_cons] at hresults
    rw [List.map_cons, List.mapM_cons, hresults.1, ih hresults.2]
    rfl

/-- Results that exist for the elements of a list are those of one function. -/
theorem exists_forall_mem {α β : Type} [Inhabited β] {as : List α} {P : α → β → Prop}
    (h : ∀ a ∈ as, ∃ b, P a b) : ∃ f : α → β, ∀ a ∈ as, P a (f a) := by
  have hall : ∀ a, ∃ b, a ∈ as → P a b := by
    intro a
    by_cases ha : a ∈ as
    · obtain ⟨b, hb⟩ := h a ha
      exact ⟨b, fun _ => hb⟩
    · exact ⟨default, fun hmem => (ha hmem).elim⟩
  exact Classical.skolem.1 hall

theorem flatMap_congr_of_mem {α β : Type} {as : List α} {f g : α → List β}
    (h : ∀ a ∈ as, f a = g a) : as.flatMap f = as.flatMap g := by
  rw [List.flatMap_def, List.flatMap_def, List.map_congr_left h]

namespace Traced

@[simp] theorem outcome_bind {α β : Type} (x : Traced α) (f : α → Traced β) :
    (x >>= f).outcome = x.outcome >>= fun a => (f a).outcome := by
  cases h : x.outcome with
  | error fault => rw [bind_of_error h]; rfl
  | ok a => rw [bind_of_ok h]; rfl

theorem map_eq {α β : Type} (f : α → β) (x : Traced α) :
    f <$> x = ⟨x.outcome.map f, x.events⟩ := by
  change x >>= (pure ∘ f) = _
  cases h : x.outcome with
  | error fault => exact bind_of_error h _
  | ok a =>
    rw [bind_of_ok h, Function.comp_apply, events_pure, List.append_nil]
    rfl

theorem outcome_collect_congr {α β : Type} {f g : α → Traced (List β)}
    (h : ∀ a, (f a).outcome = (g a).outcome) (as : List α) :
    (collect f as).outcome = (collect g as).outcome := by
  induction as with
  | nil => rfl
  | cons a as ih =>
    simp only [collect, outcome_bind, h, ih]

theorem outcome_collect_of_ok {α β : Type} {f : α → Traced (List β)} {results : α → List β}
    {as : List α} (h : ∀ a ∈ as, (f a).outcome = .ok (results a)) :
    (collect f as).outcome = .ok (as.flatMap results) := by
  induction as with
  | nil => rfl
  | cons a as ih =>
    rw [List.forall_mem_cons] at h
    rw [collect, outcome_bind, h.1]
    change ((collect f as >>= fun there => pure (results a ++ there)) : Traced _).outcome = _
    rw [outcome_bind, ih h.2]
    rfl

/-- Where some element has no result, the fault is that of one of the elements. -/
theorem outcome_collect_of_error {α β : Type} {f : α → Traced (List β)} {as : List α}
    (h : ∃ a ∈ as, ∃ fault, (f a).outcome = .error fault) :
    ∃ a ∈ as, ∃ fault, (f a).outcome = .error fault ∧ (collect f as).outcome = .error fault := by
  induction as with
  | nil =>
    obtain ⟨a, ha, _⟩ := h
    cases ha
  | cons a as ih =>
    cases hfirst : (f a).outcome with
    | error fault =>
      refine ⟨a, List.mem_cons_self, fault, hfirst, ?_⟩
      rw [collect, outcome_bind, hfirst]
      rfl
    | ok here =>
      have hlater : ∃ b ∈ as, ∃ fault, (f b).outcome = .error fault := by
        obtain ⟨b, hb, fault, hfault⟩ := h
        rcases List.mem_cons.1 hb with rfl | hb
        · rw [hfirst] at hfault
          cases hfault
        · exact ⟨b, hb, fault, hfault⟩
      obtain ⟨b, hb, fault, hfault, hcollect⟩ := ih hlater
      refine ⟨b, List.mem_cons_of_mem _ hb, fault, hfault, ?_⟩
      rw [collect, outcome_bind, hfirst]
      change ((collect f as >>= fun there => pure (here ++ there)) : Traced _).outcome = _
      rw [outcome_bind, hcollect]
      rfl

end Traced

end ScopedShell
