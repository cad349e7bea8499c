import ScopedShell.Fault
import ScopedShell.Log.Record

/-!
# Traced computations

A computation that may fail and does two things that can be seen from outside on its way: it logs
records and starts child processes. A traced computation is its outcome together with all of these
events in order; what happened before a fault stays.
-/

namespace ScopedShell

/-- Something that can be seen from outside. -/
inductive Event
  | logged (record : Log.Record)
  | launched (launch : Command.Launch)

namespace Event

/-- The record of an event that is one. -/
def record? : Event → Option Log.Record
  | logged record => some record
  | launched _ => none

/-- The launch of an event that is one. -/
def launch? : Event → Option Command.Launch
  | logged _ => none
  | launched launch => some launch

end Event

/-- The outcome of a computation and what could be seen of it. -/
structure Traced (α : Type) where
  outcome : Except Fault α
  events : List Event

namespace Traced

instance : Monad Traced where
  pure a := ⟨.ok a, []⟩
  bind x f :=
    match x.outcome with
    | .error fault => ⟨.error fault, x.events⟩
    | .ok a => ⟨(f a).outcome, x.events ++ (f a).events⟩

/-- A computation that leaves no trace. -/
def ofExcept {α : Type} (outcome : Except Fault α) : Traced α := ⟨outcome, []⟩

/-- Fails. -/
def fail {α : Type} (fault : Fault) : Traced α := ⟨.error fault, []⟩

/-- Does one thing that can be seen. -/
def emit (event : Event) : Traced Unit := ⟨.ok (), [event]⟩

/-- Logs one record. -/
def log (logger : Text) (level : Log.Level) (text : Text) : Traced Unit :=
  emit (.logged ⟨logger, level, text⟩)

/-- The results for all elements, one after the other. -/
def collect {α β : Type} (f : α → Traced (List β)) : List α → Traced (List β)
  | [] => pure []
  | a :: rest => do
    let here ← f a
    let there ← collect f rest
    return here ++ there

@[simp] theorem outcome_pure {α : Type} (a : α) : (pure a : Traced α).outcome = .ok a := rfl

@[simp] theorem events_pure {α : Type} (a : α) : (pure a : Traced α).events = [] := rfl

theorem bind_of_ok {α β : Type} {x : Traced α} {a : α} (h : x.outcome = .ok a) (f : α → Traced β) :
    x >>= f = ⟨(f a).outcome, x.events ++ (f a).events⟩ := by
  simp only [bind, h]

theorem bind_of_error {α β : Type} {x : Traced α} {fault : Fault} (h : x.outcome = .error fault)
    (f : α → Traced β) : x >>= f = ⟨.error fault, x.events⟩ := by
  simp only [bind, h]

end Traced

end ScopedShell
