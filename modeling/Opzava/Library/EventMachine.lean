import Mathlib

/-!
A machine that is driven by events: what holds in every state of a run, and what is asked of
every event of it.

* `always_of_invariant`, `always_of_eachStep`: the invariant rules.
* `exists_step_of_outcome`: the event with which something has come true.
* `always_iff_eachStep`: a condition that is exact at every step is exact for the runs.
-/

namespace Opzava.Library

/-- A machine: the state after an event. An event that cannot happen changes nothing. -/
structure EventMachine (σ ε : Type*) where
  step : σ → ε → σ

namespace EventMachine

variable {σ ε : Type*} (machine : EventMachine σ ε)

/-- The state after the events of a run. -/
def outcome (s : σ) (events : List ε) : σ := events.foldl machine.step s

/-- The property holds in every state of the run. -/
def Always (P : σ → Prop) : σ → List ε → Prop
  | s, [] => P s
  | s, event :: events => P s ∧ Always P (machine.step s event) events

/-- The condition holds of every event of the run, in the state it happens in. -/
def EachStep (C : σ → ε → Prop) : σ → List ε → Prop
  | _, [] => True
  | s, event :: events => C s event ∧ EachStep C (machine.step s event) events

instance decidableEachStep {C : σ → ε → Prop} [∀ s event, Decidable (C s event)] :
    ∀ s events, Decidable (machine.EachStep C s events)
  | _, [] => isTrue trivial
  | s, event :: events =>
      have : Decidable (machine.EachStep C (machine.step s event) events) :=
        decidableEachStep _ events
      inferInstanceAs (Decidable (C s event ∧ machine.EachStep C (machine.step s event) events))

variable {machine} {P Q I : σ → Prop} {C : σ → ε → Prop} {s : σ} {events : List ε}

lemma Always.outcome (h : machine.Always P s events) : P (machine.outcome s events) := by
  induction events generalizing s with
  | nil => exact h
  | cons event events ih => exact ih h.2

lemma Always.mono (hPQ : ∀ s, P s → Q s) (h : machine.Always P s events) :
    machine.Always Q s events := by
  induction events generalizing s with
  | nil => exact hPQ s h
  | cons event events ih => exact ⟨hPQ s h.1, ih h.2⟩

/-- The invariant rule. -/
lemma always_of_invariant (hstep : ∀ s event, I s → I (machine.step s event)) (hs : I s) :
    machine.Always I s events := by
  induction events generalizing s with
  | nil => exact hs
  | cons event events ih => exact ⟨hs, ih (hstep s event hs)⟩

/-- The invariant rule for the runs whose events meet a condition. -/
lemma always_of_eachStep (hstep : ∀ s event, I s → C s event → I (machine.step s event))
    (hs : I s) (h : machine.EachStep C s events) : machine.Always I s events := by
  induction events generalizing s with
  | nil => exact hs
  | cons event events ih => exact ⟨hs, ih (hstep s event hs h.1) h.2⟩

/-- What every event does where an invariant holds. -/
lemma eachStep_of_invariant (hstep : ∀ s event, I s → I (machine.step s event))
    (hevent : ∀ s event, I s → C s event) (hs : I s) : machine.EachStep C s events := by
  induction events generalizing s with
  | nil => trivial
  | cons event events ih => exact ⟨hevent s event hs, ih (hstep s event hs)⟩

/-- What the events of such a run do. -/
lemma eachStep_of_eachStep {D : σ → ε → Prop}
    (hstep : ∀ s event, I s → C s event → I (machine.step s event))
    (hevent : ∀ s event, I s → C s event → D s event) (hs : I s)
    (h : machine.EachStep C s events) : machine.EachStep D s events := by
  induction events generalizing s with
  | nil => trivial
  | cons event events ih => exact ⟨hevent s event hs h.1, ih (hstep s event hs h.1) h.2⟩

lemma Always.head (h : machine.Always P s events) : P s := by
  cases events with
  | nil => exact h
  | cons event events => exact h.1

/-- What every event does that leaves the property true. -/
lemma Always.eachStep (hI : ∀ s event, I s → I (machine.step s event))
    (hstep : ∀ s event, I s → P (machine.step s event) → C s event) (hi : I s)
    (h : machine.Always P s events) : machine.EachStep C s events := by
  induction events generalizing s with
  | nil => trivial
  | cons event events ih => exact ⟨hstep s event hi h.2.head, ih (hI s event hi) h.2⟩

/-- What holds at the end of a run and did not at its beginning has come true with one of its
events. -/
lemma exists_step_of_outcome (hs : ¬ P s) (h : P (machine.outcome s events)) :
    ∃ before event after, events = before ++ event :: after ∧ ¬ P (machine.outcome s before) ∧
      P (machine.step (machine.outcome s before) event) := by
  induction events generalizing s with
  | nil => exact absurd h hs
  | cons event events ih =>
      by_cases hnext : P (machine.step s event)
      · exact ⟨[], event, events, rfl, hs, hnext⟩
      · obtain ⟨before, event', after, rfl, hbefore, hafter⟩ := ih hnext h
        exact ⟨event :: before, event', after, rfl, hbefore, hafter⟩

/-- Where an invariant holds and the property held before, an event keeps the property if and
only if it meets the condition: then a run keeps it if and only if all its events do. -/
lemma always_iff_eachStep (hI : ∀ s event, I s → I (machine.step s event))
    (hstep : ∀ s event, I s → P s → (P (machine.step s event) ↔ C s event))
    (hi : I s) (hs : P s) : machine.Always P s events ↔ machine.EachStep C s events := by
  induction events generalizing s with
  | nil => exact ⟨fun _ => trivial, fun _ => hs⟩
  | cons event events ih =>
      constructor
      · rintro ⟨-, h⟩
        have hnext : P (machine.step s event) := h.head
        exact ⟨(hstep s event hi hs).mp hnext, (ih (hI s event hi) hnext).mp h⟩
      · rintro ⟨hC, h⟩
        have hnext : P (machine.step s event) := (hstep s event hi hs).mpr hC
        exact ⟨hs, (ih (hI s event hi) hnext).mpr h⟩

/-- Not every event meets the condition: one of them does not. -/
lemma not_eachStep_iff : ¬ machine.EachStep C s events ↔
    ∃ before event after, events = before ++ event :: after ∧
      ¬ C (machine.outcome s before) event := by
  induction events generalizing s with
  | nil => simp [EachStep]
  | cons event events ih =>
      constructor
      · intro h
        by_cases hevent : C s event
        · obtain ⟨before, event', after, rfl, hnot⟩ := ih.mp fun hrest => h ⟨hevent, hrest⟩
          exact ⟨event :: before, event', after, rfl, hnot⟩
        · exact ⟨[], event, events, rfl, hevent⟩
      · rintro ⟨before, event', after, heq, hnot⟩ ⟨hevent, hrest⟩
        cases before with
        | nil =>
            obtain ⟨rfl, rfl⟩ := List.cons.inj heq
            exact hnot hevent
        | cons first before =>
            obtain ⟨rfl, rfl⟩ := List.cons.inj heq
            exact ih.mpr ⟨before, event', after, rfl, hnot⟩ hrest

lemma outcome_append (events' : List ε) :
    machine.outcome s (events ++ events') = machine.outcome (machine.outcome s events) events' :=
  List.foldl_append

end EventMachine

end Opzava.Library
