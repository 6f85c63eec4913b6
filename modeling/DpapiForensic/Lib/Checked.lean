import DpapiForensic.Lib.Outcome

/-!
# Two builds of one program

With overflow checks a build panics where the other one wraps, and the two do not differ otherwise. So
the checked call is *below* the unchecked one: it panics, or it ends in the same way. The order goes
through sequencing, and a checked call that is known not to panic settles what the other one does. A call
over an allocator that refuses is below the same call over one that does not.
-/

namespace DpapiForensic

namespace Outcome

variable {ε ε' α β : Type}

/-- The first call panics, or ends as the second does. -/
def Below (x y : Outcome ε α) : Prop := x = .panic ∨ x = y

namespace Below

variable {x y : Outcome ε α}

theorem refl (x : Outcome ε α) : Below x x := Or.inr rfl

theorem of_eq (h : x = y) : Below x y := Or.inr h

theorem eq_of_ne_panic (h : Below x y) (hx : x ≠ .panic) : x = y := h.resolve_left hx

/-- What follows need only be below where the checked call gets to it. -/
theorem bind {f g : α → Outcome ε β} (h : Below x y) (hf : ∀ a, x = .ok a → Below (f a) (g a)) :
    Below (x >>= f) (y >>= g) := by
  rcases h with rfl | rfl
  · exact Or.inl rfl
  · cases x with
    | ok a => exact hf a rfl
    | err e => exact refl _
    | panic => exact refl _

theorem bind_right {f g : α → Outcome ε β} (hf : ∀ a, Below (f a) (g a)) :
    Below (x >>= f) (x >>= g) :=
  (refl x).bind fun a _ => hf a

theorem mapErr {f : ε → ε'} (h : Below x y) : Below (Outcome.mapErr f x) (Outcome.mapErr f y) := by
  rcases h with rfl | rfl
  · exact Or.inl rfl
  · exact refl _

theorem toOption {x y : Outcome Unit α} (h : Below x y) :
    Below (Outcome.toOption x : Outcome ε (Option α)) (Outcome.toOption y) := by
  rcases h with rfl | rfl
  · exact Or.inl rfl
  · exact refl _

end Below

end Outcome

section Words

open Outcome

variable {ε : Type}

theorem below_withCapacityFrom (grants : Nat → Bool) (capacity : Nat) :
    Below (withCapacityFrom grants capacity : Outcome ε Unit) (withCapacity capacity) := by
  by_cases h : capacity = 0 ∨ grants capacity
  · exact .of_eq (withCapacityFrom_of_granted h)
  · exact Or.inl (withCapacityFrom_of_refused h)

end Words

end DpapiForensic
