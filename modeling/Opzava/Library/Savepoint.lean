import Mathlib

/-!
Mutations behind a savepoint.

A mutation is a computation in `EStateM ε σ`: it runs from a state, and when it
throws, the state it has reached so far is still there. `savepoint` runs it the
way a transaction does: the state of a mutation that throws is thrown away and
the snapshot taken before it comes back.

* `bind_eq_ok`: a sequence of mutations that succeeds ran each of its parts
  successfully, one after the other.
* `orNull`, `orThrow`: mutations given by a function that answers nothing, or
  fails, without touching the state.
* `savepoint_eq_ok`, `savepoint_eq_error`: what a savepoint leaves behind.
-/

namespace Opzava.Library

variable {ε σ α β : Type}

/-- A sequence of two mutations succeeds iff both do, in order. -/
lemma bind_eq_ok {x : EStateM ε σ α} {f : α → EStateM ε σ β} {s s' : σ} {b : β} :
    (x >>= f) s = .ok b s' ↔ ∃ a s₁, x s = .ok a s₁ ∧ f a s₁ = .ok b s' := by
  show EStateM.bind x f s = _ ↔ _
  unfold EStateM.bind
  cases x s with
  | ok a s₁ => simp
  | error e s₁ => simp

lemma pure_eq_ok {a b : α} {s s' : σ} :
    (pure a : EStateM ε σ α) s = .ok b s' ↔ a = b ∧ s = s' := by
  show EStateM.Result.ok a s = _ ↔ _
  simp

/-- A mutation that throws has no result. -/
lemma throw_eq_ok {e : ε} {b : β} {s s' : σ} :
    (throw e : EStateM ε σ β) s = .ok b s' ↔ False := by
  show EStateM.Result.error e s = _ ↔ _
  simp

/-- A function that answers nothing without touching the state, as a mutation. -/
def orNull (f : σ → Option (α × σ)) : EStateM ε σ (Option α) := fun s =>
  match f s with
  | none => .ok none s
  | some (a, s') => .ok (some a) s'

/-- A function that fails without touching the state, as a mutation. -/
def orThrow (f : σ → Except ε (α × σ)) : EStateM ε σ α := fun s =>
  match f s with
  | .error e => .error e s
  | .ok (a, s') => .ok a s'

lemma orNull_eq_some {f : σ → Option (α × σ)} {s s' : σ} {a : α} :
    (orNull f : EStateM ε σ (Option α)) s = .ok (some a) s' ↔ f s = some (a, s') := by
  rw [orNull]
  cases f s with
  | none => simp
  | some p => simp [Prod.ext_iff]

lemma orNull_eq_none {f : σ → Option (α × σ)} {s s' : σ} :
    (orNull f : EStateM ε σ (Option α)) s = .ok none s' ↔ f s = none ∧ s = s' := by
  rw [orNull]
  cases f s with
  | none => simp
  | some p => simp

lemma orThrow_eq_ok {f : σ → Except ε (α × σ)} {s s' : σ} {a : α} :
    orThrow f s = .ok a s' ↔ f s = .ok (a, s') := by
  rw [orThrow]
  cases f s with
  | error e => simp
  | ok p => simp [Prod.ext_iff]

/-- Run a mutation behind a savepoint: a throw brings the snapshot back. -/
def savepoint (mutation : EStateM ε σ α) (snapshot : σ) : Except ε α × σ :=
  match mutation snapshot with
  | .ok a s => (.ok a, s)
  | .error e _ => (.error e, snapshot)

lemma savepoint_eq_ok {mutation : EStateM ε σ α} {s s' : σ} {a : α} :
    savepoint mutation s = (.ok a, s') ↔ mutation s = .ok a s' := by
  rw [savepoint]
  cases mutation s with
  | ok b s₁ => simp
  | error e s₁ => simp

/-- A mutation that throws leaves the state before it. -/
lemma savepoint_eq_error {mutation : EStateM ε σ α} {s s' : σ} {e : ε}
    (h : savepoint mutation s = (.error e, s')) : s' = s := by
  rw [savepoint] at h
  cases hm : mutation s with
  | ok b s₁ => simp [hm] at h
  | error e' s₁ =>
      rw [hm] at h
      exact (congrArg Prod.snd h).symm

end Opzava.Library
