import IntentSelect.Condition
import IntentSelect.Event

/-!
# Traces

What an evaluation does besides giving a result: the calls of matchers and the events, in the order
in which they happen.  `Traced α` is a result together with its trace; it is a monad in which traces
are appended.
-/
namespace IntentSelect

/-- One thing that an evaluation does. -/
inductive Step where
  /-- The matcher registered for the kind is called. -/
  | call (kind : String) (c : Condition)
  | log (e : Event)
deriving DecidableEq

namespace Step

def event? : Step → Option Event
  | .call .. => none
  | .log e => some e

def call? : Step → Option (String × Condition)
  | .call kind c => some (kind, c)
  | .log _ => none

end Step

/-- A result and what was done on the way to it. -/
structure Traced (α : Type) where
  result : α
  trace : List Step
deriving DecidableEq

namespace Traced
variable {α β : Type}

protected def pure (x : α) : Traced α := ⟨x, []⟩

protected def bind (t : Traced α) (f : α → Traced β) : Traced β :=
  ⟨(f t.result).result, t.trace ++ (f t.result).trace⟩

instance : Monad Traced where
  pure := Traced.pure
  bind := Traced.bind

protected theorem ext {a b : Traced α} (h : a.result = b.result) (h' : a.trace = b.trace) :
    a = b := by
  cases a; cases b; simp_all

@[simp] theorem result_pure (x : α) : (pure x : Traced α).result = x := rfl

@[simp] theorem trace_pure (x : α) : (pure x : Traced α).trace = [] := rfl

@[simp] theorem result_bind (t : Traced α) (f : α → Traced β) :
    (t >>= f).result = (f t.result).result := rfl

@[simp] theorem trace_bind (t : Traced α) (f : α → Traced β) :
    (t >>= f).trace = t.trace ++ (f t.result).trace := rfl

@[simp] theorem result_map (f : α → β) (t : Traced α) : (f <$> t).result = f t.result := rfl

@[simp] theorem trace_map (f : α → β) (t : Traced α) : (f <$> t).trace = t.trace :=
  List.append_nil _

instance : LawfulMonad Traced :=
  LawfulMonad.mk' Traced (fun _ => Traced.ext rfl (List.append_nil _)) (fun _ _ => rfl)
    (fun _ _ _ => Traced.ext rfl (List.append_assoc ..))

/-- What follows a result depends on that result alone. -/
theorem bind_congr_result {t : Traced α} {f g : α → Traced β} (h : f t.result = g t.result) :
    t >>= f = t >>= g :=
  Traced.ext (by rw [result_bind, result_bind, h]) (by rw [trace_bind, trace_bind, h])

/-- Does one thing. -/
def step (s : Step) : Traced Unit := ⟨(), [s]⟩

/-- Reports an event. -/
def log (e : Event) : Traced Unit := step (.log e)

/-- The events of a trace. -/
def events (t : Traced α) : List Event := t.trace.filterMap Step.event?

/-- The calls of a trace. -/
def calls (t : Traced α) : List (String × Condition) := t.trace.filterMap Step.call?

end Traced

end IntentSelect
