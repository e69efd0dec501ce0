import Mathlib

/-!
A counter of failures that locks what it guards.

From a limit on, every failure locks for a while. The counter is not cleared when a lock ends, and
a failure is recorded with the time at which its attempt has begun, which may be long ago.

* `FailureCounter`: the counter and its lock.
* `Lockout.Step`: failing attempts, one at a time.
* `Lockout.starts_bounded`: how many attempts that have begun up to some time can fail.
-/

namespace Opzava.Library

structure FailureCounter where
  count : ℕ
  lockedUntil : Option ℕ
  deriving DecidableEq

namespace FailureCounter

def clear : FailureCounter := ⟨0, none⟩

/-- The lock does not end before `now`. -/
def lockedAt (counter : FailureCounter) (now : ℕ) : Bool := counter.lockedUntil.any (now < ·)

/-- A failure at `now`. -/
def fail (limit pause : ℕ) (counter : FailureCounter) (now : ℕ) : FailureCounter :=
  ⟨counter.count + 1,
    if limit ≤ counter.count + 1 then some (now + pause) else counter.lockedUntil⟩

end FailureCounter

/-- The counter, the attempt that has failed and is not recorded yet, and when the attempts that
have failed have begun, the last one first. -/
structure Lockout where
  counter : FailureCounter
  pending : Option ℕ
  starts : List ℕ

namespace Lockout

variable {limit pause begin : ℕ}

/-- What happens: an attempt fails, it is recorded, or something else is recorded as a failure. -/
inductive Step (limit pause begin : ℕ) : Lockout → Lockout → Prop
  | wrong (s : Lockout) (start : ℕ) (hbegin : begin ≤ start) (alone : s.pending = none)
      (unlocked : s.counter.lockedAt start = false) :
      Step limit pause begin s { s with pending := some start, starts := start :: s.starts }
  | record (s : Lockout) (start : ℕ) (pending : s.pending = some start) :
      Step limit pause begin s
        { s with counter := s.counter.fail limit pause start, pending := none }
  | other (s : Lockout) (start : ℕ) (alone : s.pending = none)
      (unlocked : s.counter.lockedAt start = false) :
      Step limit pause begin s { s with counter := s.counter.fail limit pause start }

/-- The `n`-th failing attempt begins `n - limit` pauses later than the first one can. -/
def Paced (limit pause begin : ℕ) : List ℕ → Prop
  | [] => True
  | start :: starts =>
      begin + pause * (starts.length + 1 - limit) ≤ start ∧ Paced limit pause begin starts

/-- There was a failure before the next one for which the lock has to end first. -/
structure Guarded (limit pause begin : ℕ) (s : Lockout) : Prop where
  paced : Paced limit pause begin s.starts
  counted : s.starts.length ≤ s.counter.count + s.pending.toList.length
  pending : ∀ start, s.pending = some start → s.starts.head? = some start
  locked : s.pending = none → limit ≤ s.starts.length →
    ∃ stop, s.counter.lockedUntil = some stop ∧
      begin + pause * (s.starts.length + 1 - limit) ≤ stop

lemma le_of_lockedAt {counter : FailureCounter} {stop now : ℕ}
    (h : counter.lockedAt now = false) (hlocked : counter.lockedUntil = some stop) :
    stop ≤ now := by
  rw [FailureCounter.lockedAt, hlocked, Option.any_some] at h
  exact not_lt.mp (of_decide_eq_false h)

/-- A pause after the `n`-th attempt. -/
lemma add_pause_le {n start : ℕ} (hlimit : limit ≤ n + 1)
    (h : begin + pause * (n + 1 - limit) ≤ start) :
    begin + pause * (n + 1 + 1 - limit) ≤ start + pause := by
  rw [Nat.sub_add_comm hlimit, Nat.mul_add, Nat.mul_one, ← Nat.add_assoc]
  exact Nat.add_le_add_right h pause

lemma Guarded.step {s s' : Lockout} (hs : Guarded limit pause begin s)
    (h : Step limit pause begin s s') : Guarded limit pause begin s' := by
  cases h with
  | wrong start hbegin alone unlocked =>
      have hcounted := hs.counted
      rw [alone] at hcounted
      refine ⟨⟨?_, hs.paced⟩, Nat.succ_le_succ hcounted, fun _ heq => heq, nofun⟩
      by_cases hlimit : limit ≤ s.starts.length
      · obtain ⟨stop, hlocked, hle⟩ := hs.locked alone hlimit
        exact hle.trans (le_of_lockedAt unlocked hlocked)
      · rwa [Nat.sub_eq_zero_of_le (by omega), Nat.mul_zero, Nat.add_zero]
  | record start pending =>
      have hcounted := hs.counted
      rw [pending] at hcounted
      refine ⟨hs.paced, hcounted, nofun, fun _ hlimit => ⟨start + pause, ?_, ?_⟩⟩
      · exact if_pos (le_trans hlimit hcounted)
      · obtain ⟨starts, hstarts⟩ := List.head?_eq_some_iff.mp (hs.pending start pending)
        have hpaced := hs.paced
        rw [hstarts] at hpaced
        rw [hstarts, List.length_cons] at hlimit ⊢
        exact add_pause_le hlimit hpaced.1
  | other start alone unlocked =>
      have hcounted := hs.counted
      rw [alone] at hcounted
      refine ⟨hs.paced, ?_, hs.pending, fun _ hlimit => ⟨start + pause, ?_, ?_⟩⟩
      · rw [alone]
        exact Nat.le_succ_of_le hcounted
      · exact if_pos (le_trans hlimit (Nat.le_succ_of_le hcounted))
      · obtain ⟨stop, hlocked, hle⟩ := hs.locked alone hlimit
        exact (hle.trans (le_of_lockedAt unlocked hlocked)).trans (Nat.le_add_right _ _)

/-- The attempts that have begun up to some time are no later than the last one that can. -/
lemma countP_of_paced (hpause : 0 < pause) {starts : List ℕ} (t : ℕ)
    (h : Paced limit pause begin starts) :
    starts.countP (· ≤ t) ≤ limit + (t - begin) / pause := by
  induction starts with
  | nil => exact Nat.zero_le _
  | cons start starts ih =>
      by_cases hstart : start ≤ t
      · have hspan : pause * (starts.length + 1 - limit) ≤ t - begin := by
          have hpaced := h.1
          omega
        have hlength : starts.length + 1 - limit ≤ (t - begin) / pause := by
          rw [Nat.le_div_iff_mul_le hpause, Nat.mul_comm]
          exact hspan
        have hcount : (start :: starts).countP (· ≤ t) ≤ (start :: starts).length :=
          List.countP_le_length
        rw [List.length_cons] at hcount
        omega
      · rw [List.countP_cons_of_neg (by simpa using hstart)]
        exact ih h.2

/-- **The attempts that fail**: whatever the counter is at first, of those that have begun up to
some time there are no more than the limit and one for every pause. -/
theorem starts_bounded (hlimit : 0 < limit) (hpause : 0 < pause) {counter : FailureCounter}
    {s : Lockout} (h : Relation.ReflTransGen (Step limit pause begin) ⟨counter, none, []⟩ s)
    (t : ℕ) : s.starts.countP (· ≤ t) ≤ limit + (t - begin) / pause := by
  have hguarded : Guarded limit pause begin s := by
    induction h with
    | refl =>
        refine ⟨trivial, Nat.zero_le _, nofun, fun _ hnone => ?_⟩
        exact absurd hlimit (not_lt.mpr hnone)
    | tail _ hstep ih => exact ih.step hstep
  exact countP_of_paced hpause t hguarded.paced

end Lockout

end Opzava.Library
