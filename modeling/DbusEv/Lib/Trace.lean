/-
**Traces, newest event first.**

`Throughout P trace` says that every event satisfies `P` together with the events before it. One new
event extends it, so a program keeps it if every event it emits satisfies `P` at the moment it is
emitted.
-/

import Mathlib.Tactic.Common

set_option autoImplicit false

namespace DbusEv

variable {ε : Type}

/-- Every event satisfies `P` with the events before it. -/
def Throughout (P : ε → List ε → Prop) : List ε → Prop
  | [] => True
  | event :: earlier => P event earlier ∧ Throughout P earlier

/-- What holds throughout a trace held throughout what came first. -/
theorem Throughout.suffix {P : ε → List ε → Prop} {trace earlier : List ε}
    (suffix : earlier <:+ trace) (law : Throughout P trace) : Throughout P earlier := by
  obtain ⟨later, rfl⟩ := suffix
  induction later with
  | nil => exact law
  | cons event rest ih => exact ih law.2

theorem Throughout.mono {P Q : ε → List ε → Prop} {trace : List ε} (law : Throughout P trace)
    (weaker : ∀ event earlier, P event earlier → Q event earlier) : Throughout Q trace := by
  induction trace with
  | nil => trivial
  | cons event earlier ih => exact ⟨weaker event earlier law.1, ih law.2⟩

/-- A law that can be decided for one event can be decided for a trace. -/
instance decidableThroughout (P : ε → List ε → Prop)
    [∀ event earlier, Decidable (P event earlier)] :
    (trace : List ε) → Decidable (Throughout P trace)
  | [] => isTrue trivial
  | event :: earlier =>
    have := decidableThroughout P earlier
    inferInstanceAs (Decidable (P event earlier ∧ Throughout P earlier))

end DbusEv
