/-!
# Computations that may be suspended

A `Future S α` goes on in steps over a state `S` until it is done. It may be suspended
between two steps, and a step may do nothing but wait. `complete` takes all steps one
after the other. To complete one future and then the next is to complete both in one
(`complete_bind`), and a future over a part of the state leaves the rest alone
(`complete_within`).
-/

namespace FlowRules

/-- A computation that may be suspended between its steps. A step changes the state, and
what it finds there decides how to go on. -/
inductive Future (S α : Type) where
  | done (a : α)
  | step (change : S → S) (next : S → Future S α)

/-- A part of a state that can be read and replaced. -/
structure Part (S P : Type) where
  get : S → P
  put : P → S → S
  get_put : ∀ p s, get (put p s) = p := by intros; rfl
  put_get : ∀ s, put (get s) s = s := by intros; rfl
  put_put : ∀ p q s, put q (put p s) = put q s := by intros; rfl

namespace Future

variable {S P α β : Type}

/-- The result after all steps, and the state then. -/
def complete : Future S α → S → α × S
  | done a, s => (a, s)
  | step change next, s => (next s).complete (change s)

/-- A future, and what follows its result. -/
protected def bind : Future S α → (α → Future S β) → Future S β
  | done a, f => f a
  | step change next, f => step change fun s => (next s).bind f

instance : Monad (Future S) where
  pure := done
  bind := Future.bind

/-- A computation in one step. -/
def now (run : S → α × S) : Future S α := step (fun s => (run s).2) fun s => done (run s).1

/-- A future over a part of the state. -/
def within (part : Part S P) : Future P α → Future S α
  | done a => done a
  | step change next =>
    step (fun s => part.put (change (part.get s)) s) fun s => (next (part.get s)).within part

theorem complete_now (run : S → α × S) (s : S) : (now run).complete s = run s := rfl

theorem complete_bind (f : Future S α) (g : α → Future S β) (s : S) :
    (f >>= g).complete s = (g (f.complete s).1).complete (f.complete s).2 := by
  induction f generalizing s with
  | done a => rfl
  | step change next ih => exact ih s (change s)

theorem complete_within (part : Part S P) (f : Future P α) (s : S) :
    (f.within part).complete s =
      ((f.complete (part.get s)).1, part.put (f.complete (part.get s)).2 s) := by
  induction f generalizing s with
  | done a => rw [within, complete, complete, part.put_get]
  | step change next ih =>
    rw [within, complete, complete, ih, part.get_put, part.put_put]

end Future

end FlowRules
