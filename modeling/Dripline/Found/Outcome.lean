/-!
# Computations that may fail

One step after the other, in `Except`.

* `bind_eq_ok` — a sequence succeeds through its first step.
* `ok_bind`, `error_bind` — the first step is known.
-/

namespace Dripline.Found

variable {ε α β : Type}

theorem bind_eq_ok {x : Except ε α} {f : α → Except ε β} {b : β} :
    x >>= f = .ok b ↔ ∃ a, x = .ok a ∧ f a = .ok b := by
  cases x <;> simp [bind, Except.bind]

@[simp] theorem ok_bind (a : α) (f : α → Except ε β) : (.ok a >>= f) = f a := rfl

@[simp] theorem error_bind (e : ε) (f : α → Except ε β) :
    ((.error e : Except ε α) >>= f) = .error e := rfl

end Dripline.Found
