/-!
# What goes wrong with files

The causes for which a path cannot be resolved, read or written, and what is needed of
results that may be such a cause.
-/

namespace Emend

/-- The causes for which a path cannot be resolved, read or written. -/
inductive Fault
  | notFound
  | notADirectory
  | isADirectory
  | linkLoop
  | busy
  | invalidText
  deriving DecidableEq, Repr

/-- A cause in words; the system's own ones have numbers. -/
def Fault.message : Fault → String
  | notFound => "No such file or directory (os error 2)"
  | notADirectory => "Not a directory (os error 20)"
  | isADirectory => "Is a directory (os error 21)"
  | linkLoop => "Too many levels of symbolic links (os error 40)"
  | busy => "Device or resource busy (os error 16)"
  | invalidText => "stream did not contain valid UTF-8"

/-! ## Results -/

section

variable {α β ε ε' : Type}

@[simp] theorem mapError_ok (f : ε → ε') (a : α) : (Except.ok a).mapError f = .ok a := rfl

@[simp] theorem mapError_error (f : ε → ε') (err : ε) :
    (Except.error err : Except ε α).mapError f = .error (f err) := rfl

theorem mapError_eq_ok_iff {f : ε → ε'} {r : Except ε α} {a : α} :
    r.mapError f = .ok a ↔ r = .ok a := by
  cases r <;> simp

theorem map_eq_ok_iff {f : α → β} {r : Except ε α} {b : β} :
    r.map f = .ok b ↔ ∃ a, r = .ok a ∧ f a = b := by
  cases r <;> simp [Except.map]

theorem bind_eq_ok_iff {f : α → Except ε β} {r : Except ε α} {b : β} :
    (r >>= f) = .ok b ↔ ∃ a, r = .ok a ∧ f a = .ok b := by
  cases r <;> simp [bind, Except.bind]

/-- Results can be compared if what they hold can be. -/
instance decidableEqResult [DecidableEq α] [DecidableEq ε] : DecidableEq (Except ε α)
  | .ok a, .ok b => decidable_of_iff (a = b) (by simp)
  | .error a, .error b => decidable_of_iff (a = b) (by simp)
  | .ok _, .error _ => isFalse (by simp)
  | .error _, .ok _ => isFalse (by simp)

end

end Emend
