import Mathlib

/-!
Transactions at the isolation level `READ COMMITTED`, statement by statement.

A transaction carries its own writes and the locks of the rows it has written. A
statement is one step: it reads what is committed, and what its transaction has written.
It waits for a lock that another running transaction holds. Locks are held until the
transaction commits or aborts.

* `Program`: the statements, the locks and the commit of a kind of transactions.
* `Step`: one step of any number of running transactions.
* `Run`: the runs, those in which transactions that conflict do not overlap when one of
  them commits.
* `Step.exclusive`: no two running transactions hold a lock together.
* `Invariant.run`: an invariant of the tables and of each running transaction, proved per
  statement and per commit, holds along every run.
* `Invariant.run_tables`: so does a relation between the tables before and after a commit.
* `run_of_executeAll`: a schedule that can be executed is a run.
-/

namespace Opzava.Library.ReadCommitted

/-- Transactions `τ` on tables `σ`, with locks `κ`. -/
structure Program (σ τ κ : Type) where
  initial : σ → τ → Bool
  statement : σ → τ → τ
  locks : τ → List κ
  finished : τ → Bool
  commit : τ → σ → σ

/-- The committed tables and the running transactions. -/
structure Running (σ τ : Type) where
  tables : σ
  txs : ℕ → Option τ

namespace Running

variable {σ τ : Type}

/-- No transaction is running. -/
def idle (tables : σ) : Running σ τ := ⟨tables, fun _ => none⟩

/-- A transaction is where it is now. -/
def set (s : Running σ τ) (p : ℕ) (tx : Option τ) : Running σ τ :=
  { s with txs := Function.update s.txs p tx }

lemma set_txs {s : Running σ τ} {p q : ℕ} {tx : Option τ} {tx' : τ}
    (h : (s.set p tx).txs q = some tx') :
    (q = p ∧ tx = some tx') ∨ (q ≠ p ∧ s.txs q = some tx') := by
  have h' : Function.update s.txs p tx q = some tx' := h
  rw [Function.update_apply] at h'
  split_ifs at h' with hq
  · exact .inl ⟨hq, h'⟩
  · exact .inr ⟨hq, h'⟩

end Running

variable {σ τ κ : Type} (P : Program σ τ κ)

/-- The statement needs no lock that another transaction holds. -/
def Free (s : Running σ τ) (p : ℕ) (tx : τ) : Prop :=
  ∀ q tx', q ≠ p → s.txs q = some tx' → ∀ lock ∈ P.locks (P.statement s.tables tx),
    lock ∈ P.locks tx' → lock ∈ P.locks tx

/-- What happens in a step. -/
inductive Event (τ : Type) where
  | start (p : ℕ) (tx : τ)
  | statement (p : ℕ)
  | commit (p : ℕ)
  | abort (p : ℕ)

/-- One step. -/
inductive Step : Running σ τ → Event τ → Running σ τ → Prop
  | start (s : Running σ τ) (p : ℕ) (tx : τ) (new : s.txs p = none)
      (initial : P.initial s.tables tx = true) (unlocked : P.locks tx = []) : Step s (.start p tx) (s.set p (some tx))
  | statement (s : Running σ τ) (p : ℕ) (tx : τ) (running : s.txs p = some tx)
      (unfinished : P.finished tx = false) (free : Free P s p tx) :
      Step s (.statement p) (s.set p (some (P.statement s.tables tx)))
  | commit (s : Running σ τ) (p : ℕ) (tx : τ) (running : s.txs p = some tx)
      (finished : P.finished tx = true) :
      Step s (.commit p) { s.set p none with tables := P.commit tx s.tables }
  | abort (s : Running σ τ) (p : ℕ) (tx : τ) (running : s.txs p = some tx) :
      Step s (.abort p) (s.set p none)

/-- A transaction that commits does so beside no transaction it conflicts with. -/
def Apart (conflict : τ → τ → Bool) (s : Running σ τ) (event : Event τ) : Prop :=
  ∀ p q tx tx', event = .commit p → s.txs p = some tx → s.txs q = some tx' → q ≠ p →
    conflict tx tx' = false

/-- Transactions that do not conflict: they overlap freely. -/
def noConflict (_ _ : τ) : Bool := false

/-- The runs in which no transaction commits beside one it conflicts with. -/
def Run (conflict : τ → τ → Bool) : Running σ τ → Running σ τ → Prop :=
  Relation.ReflTransGen fun s s' => ∃ event, Apart conflict s event ∧ Step P s event s'

/-- No two running transactions hold a lock together. -/
def Exclusive (s : Running σ τ) : Prop :=
  ∀ p q tx tx', s.txs p = some tx → s.txs q = some tx' → ∀ lock ∈ P.locks tx,
    lock ∈ P.locks tx' → p = q

variable {P}

lemma Step.exclusive {s s' : Running σ τ} {event : Event τ} (hs : Exclusive P s)
    (h : Step P s event s') : Exclusive P s' := by
  intro q r tx tx' hq hr lock hlock hlock'
  cases h with
  | start p new _ _ unlocked =>
      rcases Running.set_txs hq with ⟨rfl, heq⟩ | ⟨-, hq'⟩
      · cases heq
        rw [unlocked] at hlock
        cases hlock
      · rcases Running.set_txs hr with ⟨rfl, heq⟩ | ⟨-, hr'⟩
        · cases heq
          rw [unlocked] at hlock'
          cases hlock'
        · exact hs q r tx tx' hq' hr' lock hlock hlock'
  | statement p old running _ free =>
      rcases Running.set_txs hq with ⟨rfl, heq⟩ | ⟨hqp, hq'⟩
      · cases heq
        rcases Running.set_txs hr with ⟨rfl, -⟩ | ⟨hrp, hr'⟩
        · rfl
        · exact hs q r old tx' running hr' lock (free r tx' hrp hr' lock hlock hlock') hlock'
      · rcases Running.set_txs hr with ⟨rfl, heq⟩ | ⟨-, hr'⟩
        · cases heq
          exact hs q r tx old hq' running lock hlock (free q tx hqp hq' lock hlock' hlock)
        · exact hs q r tx tx' hq' hr' lock hlock hlock'
  | commit p old running _ =>
      rcases Running.set_txs (s := s) hq with ⟨-, heq⟩ | ⟨-, hq'⟩
      · cases heq
      · rcases Running.set_txs (s := s) hr with ⟨-, heq⟩ | ⟨-, hr'⟩
        · cases heq
        · exact hs q r tx tx' hq' hr' lock hlock hlock'
  | abort p old running =>
      rcases Running.set_txs hq with ⟨-, heq⟩ | ⟨-, hq'⟩
      · cases heq
      · rcases Running.set_txs hr with ⟨-, heq⟩ | ⟨-, hr'⟩
        · cases heq
        · exact hs q r tx tx' hq' hr' lock hlock hlock'

/-- What has to be shown of an invariant of the tables and of each transaction. -/
structure Invariant (P : Program σ τ κ) (conflict : τ → τ → Bool)
    (ok : σ → Prop) (okTx : σ → τ → Prop) : Prop where
  start : ∀ {tables tx}, ok tables → P.initial tables tx = true → okTx tables tx
  statement : ∀ {tables tx}, ok tables → okTx tables tx → P.finished tx = false →
    okTx tables (P.statement tables tx)
  commit : ∀ {tables tx}, ok tables → okTx tables tx → P.finished tx = true →
    ok (P.commit tx tables)
  others : ∀ {tables tx tx'}, ok tables → okTx tables tx → P.finished tx = true →
    okTx tables tx' → conflict tx tx' = false →
    (∀ lock ∈ P.locks tx, lock ∉ P.locks tx') → okTx (P.commit tx tables) tx'

/-- The invariant, of a whole state. -/
structure Holds (P : Program σ τ κ) (ok : σ → Prop) (okTx : σ → τ → Prop) (s : Running σ τ) :
    Prop where
  tables : ok s.tables
  txs : ∀ q tx, s.txs q = some tx → okTx s.tables tx
  exclusive : Exclusive P s

variable {conflict : τ → τ → Bool} {ok : σ → Prop} {okTx : σ → τ → Prop}

lemma Holds.idle {tables : σ} (h : ok tables) : Holds P ok okTx (.idle tables) := by
  refine ⟨h, ?_, ?_⟩
  · intro q tx htx
    cases htx
  · intro p q tx tx' htx
    cases htx

lemma Invariant.step (hinv : Invariant P conflict ok okTx) {s s' : Running σ τ} {event : Event τ}
    (hs : Holds P ok okTx s) (hapart : Apart conflict s event) (h : Step P s event s') :
    Holds P ok okTx s' := by
  have hexclusive := h.exclusive hs.exclusive
  cases h with
  | start p tx new initial unlocked =>
      refine ⟨hs.tables, fun q tx' hq => ?_, hexclusive⟩
      rcases Running.set_txs hq with ⟨-, heq⟩ | ⟨-, hq'⟩
      · cases heq
        exact hinv.start hs.tables initial
      · exact hs.txs q tx' hq'
  | statement p tx running unfinished free =>
      refine ⟨hs.tables, fun q tx' hq => ?_, hexclusive⟩
      rcases Running.set_txs hq with ⟨-, heq⟩ | ⟨-, hq'⟩
      · cases heq
        exact hinv.statement hs.tables (hs.txs p tx running) unfinished
      · exact hs.txs q tx' hq'
  | commit p tx running finished =>
      have htx := hs.txs p tx running
      refine ⟨hinv.commit hs.tables htx finished, fun q tx' hq => ?_, hexclusive⟩
      rcases Running.set_txs (s := s) hq with ⟨-, heq⟩ | ⟨hqp, hq'⟩
      · cases heq
      · refine hinv.others hs.tables htx finished (hs.txs q tx' hq')
          (hapart p q tx tx' rfl running hq' hqp) ?_
        exact fun lock hlock hlock' =>
          hqp (hs.exclusive p q tx tx' running hq' lock hlock hlock').symm
  | abort p tx running =>
      refine ⟨hs.tables, fun q tx' hq => ?_, hexclusive⟩
      rcases Running.set_txs hq with ⟨-, heq⟩ | ⟨-, hq'⟩
      · cases heq
      · exact hs.txs q tx' hq'

/-- **An invariant holds along every run**. -/
theorem Invariant.run (hinv : Invariant P conflict ok okTx) {s s' : Running σ τ}
    (hs : Holds P ok okTx s) (h : Run P conflict s s') : Holds P ok okTx s' := by
  induction h with
  | refl => exact hs
  | tail _ hstep ih =>
      obtain ⟨event, hapart, hstep⟩ := hstep
      exact hinv.step ih hapart hstep

/-- **What every commit does, a run does**: a reflexive and transitive relation between the
tables before and after. -/
theorem Invariant.run_tables (hinv : Invariant P conflict ok okTx) {R : σ → σ → Prop}
    (hrefl : ∀ tables, R tables tables)
    (htrans : ∀ {tables tables' tables''}, R tables tables' → R tables' tables'' →
      R tables tables'')
    (hcommit : ∀ {tables tx}, ok tables → okTx tables tx → P.finished tx = true →
      R tables (P.commit tx tables)) {s s' : Running σ τ} (hs : Holds P ok okTx s)
    (h : Run P conflict s s') : R s.tables s'.tables := by
  induction h with
  | refl => exact hrefl _
  | tail hrun hstep ih =>
      obtain ⟨event, -, hstep⟩ := hstep
      have hmiddle := hinv.run hs hrun
      refine htrans ih ?_
      cases hstep with
      | start p tx _ _ _ => exact hrefl _
      | statement p tx _ _ _ => exact hrefl _
      | commit p tx running finished =>
          exact hcommit hmiddle.tables (hmiddle.txs p tx running) finished
      | abort p tx _ => exact hrefl _

/-! ### Schedules

A schedule is a list of events. It is executed with a bound on the names of the
transactions, so that the locks of all the others can be looked through. -/

/-- All running transactions have names below the bound. -/
def Bounded (bound : ℕ) (s : Running σ τ) : Prop := ∀ p tx, s.txs p = some tx → p < bound

variable [DecidableEq κ] (P) (conflict)

/-- One event, if it can happen, and no transaction commits beside a conflict. -/
def execute (bound : ℕ) (s : Running σ τ) : Event τ → Option (Running σ τ)
  | .start p tx =>
      if p < bound ∧ (s.txs p).isNone ∧ P.initial s.tables tx ∧ P.locks tx = [] then
        some (s.set p (some tx))
      else none
  | .statement p =>
      match s.txs p with
      | none => none
      | some tx =>
          let next := P.statement s.tables tx
          if !P.finished tx ∧ (List.range bound).all fun q => q = p ∨
              ((s.txs q).all fun tx' => (P.locks next).all fun lock =>
                lock ∉ P.locks tx' ∨ lock ∈ P.locks tx) then
            some (s.set p (some next))
          else none
  | .commit p =>
      match s.txs p with
      | none => none
      | some tx =>
          if P.finished tx ∧ (List.range bound).all fun q => q = p ∨
              ((s.txs q).all fun tx' => !conflict tx tx') then
            some { s.set p none with tables := P.commit tx s.tables }
          else none
  | .abort p => if (s.txs p).isSome then some (s.set p none) else none

/-- A schedule. -/
def executeAll (bound : ℕ) (s : Running σ τ) : List (Event τ) → Option (Running σ τ)
  | [] => some s
  | event :: rest => (execute P conflict bound s event).bind fun s' => executeAll bound s' rest

variable {P} {conflict}

lemma Bounded.set {bound p : ℕ} {s : Running σ τ} {tx : Option τ} (hs : Bounded bound s)
    (hp : p < bound) : Bounded bound (s.set p tx) := by
  intro q tx' hq
  rcases Running.set_txs hq with ⟨rfl, -⟩ | ⟨-, hq'⟩
  · exact hp
  · exact hs q tx' hq'

/-- A test of every other transaction below the bound is a test of every other one. -/
lemma Bounded.all_others {bound p : ℕ} {s : Running σ τ} (hs : Bounded bound s) {f : τ → Bool}
    (h : ((List.range bound).all fun q => q = p ∨ (s.txs q).all f) = true) {q : ℕ} {tx : τ}
    (hq : s.txs q = some tx) (hqp : q ≠ p) : f tx = true := by
  have hmem : q ∈ List.range bound := List.mem_range.mpr (hs q tx hq)
  have htest := List.all_eq_true.mp h q hmem
  rw [hq] at htest
  simpa [hqp] using htest

lemma execute_step {bound : ℕ} {s s' : Running σ τ} {event : Event τ} (hs : Bounded bound s)
    (h : execute P conflict bound s event = some s') :
    Bounded bound s' ∧ Apart conflict s event ∧ Step P s event s' := by
  cases event with
  | start p tx =>
      simp only [execute, Option.ite_none_right_eq_some, Option.some.injEq] at h
      obtain ⟨⟨hp, hnew, hinitial, hunlocked⟩, rfl⟩ := h
      refine ⟨hs.set hp, ?_, .start s p tx (Option.isNone_iff_eq_none.mp hnew) hinitial hunlocked⟩
      intro p' q tx' tx'' hevent
      cases hevent
  | statement p =>
      cases hrunning : s.txs p with
      | none => simp [execute, hrunning] at h
      | some tx =>
          simp only [execute, hrunning, Option.ite_none_right_eq_some, Option.some.injEq] at h
          obtain ⟨⟨hunfinished, hothers⟩, rfl⟩ := h
          refine ⟨hs.set (hs p tx hrunning), ?_, .statement s p tx hrunning (by simpa using
            hunfinished) ?_⟩
          · intro p' q tx' tx'' hevent
            cases hevent
          · intro q tx' hqp hq lock hlock hlock'
            have htest := List.all_eq_true.mp (hs.all_others hothers hq hqp) lock hlock
            simpa [hlock'] using htest
  | commit p =>
      cases hrunning : s.txs p with
      | none => simp [execute, hrunning] at h
      | some tx =>
          simp only [execute, hrunning, Option.ite_none_right_eq_some, Option.some.injEq] at h
          obtain ⟨⟨hfinished, hothers⟩, rfl⟩ := h
          refine ⟨hs.set (hs p tx hrunning), ?_, .commit s p tx hrunning hfinished⟩
          intro p' q tx' tx'' hevent hp hq hqp
          cases hevent
          obtain rfl : tx = tx' := Option.some.inj (hrunning.symm.trans hp)
          simpa using hs.all_others hothers hq hqp
  | abort p =>
      simp only [execute, Option.ite_none_right_eq_some, Option.some.injEq] at h
      obtain ⟨hsome, rfl⟩ := h
      obtain ⟨tx, hrunning⟩ := Option.isSome_iff_exists.mp hsome
      refine ⟨hs.set (hs p tx hrunning), ?_, .abort s p tx hrunning⟩
      intro p' q tx' tx'' hevent
      cases hevent

/-- **A schedule that is executed is a run**. -/
theorem run_of_executeAll {bound : ℕ} {events : List (Event τ)} {s s' : Running σ τ}
    (hs : Bounded bound s) (h : executeAll P conflict bound s events = some s') :
    Bounded bound s' ∧ Run P conflict s s' := by
  induction events generalizing s with
  | nil =>
      obtain rfl : s = s' := Option.some.inj h
      exact ⟨hs, .refl⟩
  | cons event rest ih =>
      obtain ⟨middle, hevent, hrest⟩ := Option.bind_eq_some_iff.mp h
      obtain ⟨hmiddle, hapart, hstep⟩ := execute_step hs hevent
      obtain ⟨hbounded, hrun⟩ := ih hmiddle hrest
      exact ⟨hbounded, .head ⟨event, hapart, hstep⟩ hrun⟩

variable (P) (conflict) in
/-- The state after a schedule, or the one before it if the schedule cannot be executed. -/
def outcome (bound : ℕ) (s : Running σ τ) (events : List (Event τ)) : Running σ τ :=
  (executeAll P conflict bound s events).getD s

variable (P) (conflict) in
/-- A schedule that can be executed is a run to its outcome. -/
lemma run_outcome (events : List (Event τ)) {bound : ℕ} {s : Running σ τ}
    (hs : Bounded bound s) (h : (executeAll P conflict bound s events).isSome = true) :
    Bounded bound (outcome P conflict bound s events) ∧
      Run P conflict s (outcome P conflict bound s events) := by
  obtain ⟨s', hs'⟩ := Option.isSome_iff_exists.mp h
  rw [outcome, hs']
  exact run_of_executeAll hs hs'

lemma Bounded.idle (bound : ℕ) (tables : σ) : Bounded bound (.idle tables : Running σ τ) :=
  fun _ _ h => nomatch h

/-- No transaction runs, if none runs below the bound. -/
lemma Bounded.all_none {bound : ℕ} {s : Running σ τ} (hs : Bounded bound s)
    (h : ((List.range bound).all fun p => (s.txs p).isNone) = true) (p : ℕ) :
    s.txs p = none := by
  cases hp : s.txs p with
  | none => rfl
  | some tx =>
      have hnone := List.all_eq_true.mp h p (List.mem_range.mpr (hs p tx hp))
      rw [hp] at hnone
      cases hnone

end Opzava.Library.ReadCommitted
