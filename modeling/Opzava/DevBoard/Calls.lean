import Opzava.DevBoard.Bodies

/-!
One call around its body: what `reserve` answers, and what becomes of the call.

* `Reserved` (`reserve_spec`): the four answers of `reserve`.
* `CallCase` (`execute_spec`): the call is unauthorized, answered from its receipt,
  or runs its body.
* `execute_accepted`, `execute_rejected`: the effect of a call that returns a result
  for the first time, and of a call that returns an error.
-/

namespace Opzava.DevBoard

open Opzava.Library

/-! ### Reservation -/

section Reservation

variable {e : CommandEnvelope} {receipts : Receipts}

/-- The receipt of the call is new, or still reserved for the same request. -/
def Opened (e : CommandEnvelope) (receipts : Receipts) : Prop :=
  ∀ receipt, receipts.get (receiptKey e) = some receipt →
    receipt.requestHash = e.requestHash ∧ receipt.state = .reserved

/-- The receipts once the receipt of the call is reserved. -/
def openReceipts (e : CommandEnvelope) (receipts : Receipts) : Receipts :=
  if (receipts.get (receiptKey e)).isSome = true then receipts
  else receipts.set (receiptKey e) (newReceipt e)

/-- The answers of `reserve`. -/
inductive Reserved (e : CommandEnvelope) (receipts : Receipts) :
    Option Outcome × Receipts → Prop
  | conflict {receipt : CommandReceiptRecord} (found : receipts.get (receiptKey e) = some receipt)
      (other : receipt.requestHash ≠ e.requestHash) :
      Reserved e receipts (some (.returned (.error idempotencyConflict)), receipts)
  | replayed {receipt : CommandReceiptRecord} (found : receipts.get (receiptKey e) = some receipt)
      (same : receipt.requestHash = e.requestHash) (finalized : receipt.state ≠ .reserved) :
      Reserved e receipts (some (.returned (replay receipt)), receipts)
  | refused {error : DomainError} (opened : Opened e receipts)
      (actor : parseCommandActorRef e.actorRef = .error error) :
      Reserved e receipts
        (some (finalizeOrThrow (rejectInput e error.code error.message [] none) (.error error)
            (openReceipts e receipts)).1,
          (finalizeOrThrow (rejectInput e error.code error.message [] none) (.error error)
            (openReceipts e receipts)).2)
  | opened (opened : Opened e receipts)
      (actor : ∀ error, parseCommandActorRef e.actorRef ≠ .error error) :
      Reserved e receipts (none, openReceipts e receipts)

/-- The two answers of `reserve` for an open receipt. -/
lemma reserve_of_opened (receipt : CommandReceiptRecord) (hopened : Opened e receipts)
    (hreserve : reserveOrReplay e receipts = (.ok receipt, openReceipts e receipts))
    (hstate : receipt.state = .reserved) : Reserved e receipts (reserve e receipts) := by
  simp only [reserve, hreserve, hstate, ne_eq, not_true_eq_false, if_false]
  cases hactor : parseCommandActorRef e.actorRef with
  | error error => exact .refused hopened hactor
  | ok actor => exact .opened hopened fun error herror => by simp [hactor] at herror

lemma reserve_spec (e : CommandEnvelope) (receipts : Receipts) :
    Reserved e receipts (reserve e receipts) := by
  cases hget : receipts.get (receiptKey e) with
  | none =>
      refine reserve_of_opened (newReceipt e) ?_ ?_ rfl
      · intro receipt hreceipt
        rw [hget] at hreceipt
        cases hreceipt
      · simp [reserveOrReplay, openReceipts, hget]
  | some receipt =>
      by_cases hhash : receipt.requestHash = e.requestHash
      · have hreserve : reserveOrReplay e receipts = (.ok receipt, receipts) := by
          simp [reserveOrReplay, hget, hhash]
        by_cases hstate : receipt.state = .reserved
        · refine reserve_of_opened receipt ?_ (hreserve.trans (by simp [openReceipts, hget])) hstate
          intro receipt' hreceipt'
          rw [hget] at hreceipt'
          cases hreceipt'
          exact ⟨hhash, hstate⟩
        · rw [reserve, hreserve]
          simp only [if_pos hstate]
          exact .replayed hget hhash hstate
      · have hreserve : reserveOrReplay e receipts = (.error idempotencyConflict, receipts) := by
          simp [reserveOrReplay, hget, hhash]
        rw [reserve, hreserve]
        exact .conflict hget hhash

/-! ### Settlement -/

lemma finalizeOrThrow_returned {input : FinalizeCommandReceiptInput}
    {result result' : Except DomainError CommandResult}
    (h : (finalizeOrThrow input result receipts).1 = .returned result') : result' = result := by
  rw [finalizeOrThrow] at h
  split at h
  · cases h
  · cases h
    rfl

/-- Only an acceptance is returned as a result. -/
lemma settle_returned_ok {verdict : Verdict} {result : CommandResult}
    (h : (settle e receipts verdict).1 = .returned (.ok result)) :
    ∃ outcomeCode resultRef resultingVersions ids,
      verdict = .accept outcomeCode resultRef resultingVersions ids := by
  cases verdict with
  | accept outcomeCode resultRef resultingVersions ids => exact ⟨_, _, _, _, rfl⟩
  | reject code message extra resultRef => cases finalizeOrThrow_returned h
  | throws error => cases h

/-- Only a rejection is returned as an error. -/
lemma settle_returned_error {verdict : Verdict} {error : DomainError}
    (h : (settle e receipts verdict).1 = .returned (.error error)) :
    ∃ code message extra resultRef, verdict = .reject code message extra resultRef := by
  cases verdict with
  | accept outcomeCode resultRef resultingVersions ids => cases finalizeOrThrow_returned h
  | reject code message extra resultRef => exact ⟨_, _, _, _, rfl⟩
  | throws error => cases h

end Reservation

variable [Platform]

/-! ### Calls -/

/-- The world after the body of a call and the settlement of its receipt. -/
def ranWorld (call : Call) (w : World) : Outcome × World :=
  ((settle call.envelope (openReceipts call.envelope w.receipts)
      (call.command.body (call.context w) w.tables w.ledger).verdict).1,
    { w with
      tables := (call.command.body (call.context w) w.tables w.ledger).tables
      ledger := (call.command.body (call.context w) w.tables w.ledger).ledger
      receipts := (settle call.envelope (openReceipts call.envelope w.receipts)
        (call.command.body (call.context w) w.tables w.ledger).verdict).2 })

/-- What becomes of a call. -/
inductive CallCase (call : Call) (w : World) : Outcome × World → Prop
  | unauthorized {error : DomainError}
      (admission : call.command.admission (call.context w) = some error) :
      CallCase call w (.returned (.error error), w)
  | answered {outcome : Outcome} {receipts : Receipts}
      (admission : call.command.admission (call.context w) = none)
      (reserved : Reserved call.envelope w.receipts (some outcome, receipts)) :
      CallCase call w (outcome, { w with receipts := receipts })
  | ran (admission : call.command.admission (call.context w) = none)
      (opened : Opened call.envelope w.receipts)
      (actor : ∀ error, parseCommandActorRef call.envelope.actorRef ≠ .error error) :
      CallCase call w (ranWorld call w)

lemma execute_spec (call : Call) (w : World) : CallCase call w (execute call w) := by
  unfold execute
  cases hadmission : call.command.admission (call.context w) with
  | some error => exact .unauthorized hadmission
  | none =>
      have hreserved := reserve_spec call.envelope w.receipts
      dsimp only
      generalize reserve call.envelope w.receipts = answer at hreserved
      cases hreserved with
      | conflict found other => exact .answered hadmission (.conflict found other)
      | replayed found same finalized =>
          exact .answered hadmission (.replayed found same finalized)
      | refused opened actor => exact .answered hadmission (.refused opened actor)
      | opened opened actor => exact .ran hadmission opened actor

/-- A call that is admitted, whose receipt is open and whose actor is valid runs its
body. -/
lemma execute_opened {call : Call} {w : World}
    (hadmission : call.command.admission (call.context w) = none)
    (hopened : Opened call.envelope w.receipts)
    (hactor : ∀ error, parseCommandActorRef call.envelope.actorRef ≠ .error error) :
    execute call w = ranWorld call w := by
  have hcase := execute_spec call w
  generalize execute call w = result at hcase
  cases hcase with
  | unauthorized admission =>
      rw [hadmission] at admission
      cases admission
  | answered admission reserved =>
      cases reserved with
      | conflict found other => exact absurd (hopened _ found).1 other
      | replayed found same finalized => exact absurd (hopened _ found).2 finalized
      | refused opened actor => exact absurd actor (hactor _)
  | ran => rfl

/-- A finalized receipt is stored under the key of the call. -/
def Replayed (call : Call) (w : World) : Prop :=
  ∃ receipt, w.receipts.get (receiptKey call.envelope) = some receipt ∧ receipt.state ≠ .reserved

/-- A call that finds its receipt finalized changes nothing. -/
lemma execute_replayed {call : Call} {w : World} (h : Replayed call w) :
    (execute call w).2 = w := by
  obtain ⟨receipt, hget, hstate⟩ := h
  have hclosed : ¬Opened call.envelope w.receipts := fun hopened =>
    hstate (hopened receipt hget).2
  have hcase := execute_spec call w
  generalize execute call w = result at hcase
  cases hcase with
  | unauthorized => rfl
  | answered admission reserved =>
      cases reserved with
      | conflict => rfl
      | replayed => rfl
      | refused opened => exact absurd opened hclosed
  | ran admission opened => exact absurd opened hclosed

/-- **The effect of a call**, whatever its outcome: at most the header of its queue, or
one effect of the command with its records or without. -/
theorem execute_effect {w : World} (hk : Keyed w.tables) (call : Call) :
    ∃ t, HeaderStep (call.context w) w.tables t ∧
      (((execute call w).2.tables = t ∧ (execute call w).2.ledger = w.ledger) ∨
        ∃ r, Applied (call.context w) t call.command (execute call w).2.tables r ∧
          ((execute call w).2.ledger = w.ledger ∨
            Appended call.envelope r w.ledger (execute call w).2.ledger)) := by
  have hcase := execute_spec call w
  generalize execute call w = answer at hcase
  cases hcase with
  | unauthorized => exact ⟨_, .refl, .inl ⟨rfl, rfl⟩⟩
  | answered => exact ⟨_, .refl, .inl ⟨rfl, rfl⟩⟩
  | ran =>
      have hends := body_ends hk (call.context w) call.command w.ledger
      rw [ranWorld]
      generalize call.command.body (call.context w) w.tables w.ledger = exit at hends
      cases hends with
      | rejected locked => exact ⟨_, locked, .inl ⟨rfl, rfl⟩⟩
      | accepted locked applied appended => exact ⟨_, locked, .inr ⟨_, applied, .inr appended⟩⟩
      | threw locked => exact ⟨_, locked, .inl ⟨rfl, rfl⟩⟩
      | threwAfter locked applied => exact ⟨_, locked, .inr ⟨_, applied, .inl rfl⟩⟩

/-- **An accepted call**: a result returned for the first time comes with one effect
of the command and its records. -/
theorem execute_accepted {call : Call} {w : World} (hk : Keyed w.tables) {result : CommandResult}
    (hout : (execute call w).1 = .returned (.ok result)) (hnew : ¬Replayed call w) :
    ∃ t r, HeaderStep (call.context w) w.tables t ∧
      Applied (call.context w) t call.command (execute call w).2.tables r ∧
      Appended call.envelope r w.ledger (execute call w).2.ledger := by
  have hcase := execute_spec call w
  generalize execute call w = answer at hcase hout ⊢
  cases hcase with
  | unauthorized => cases hout
  | answered admission reserved =>
      cases reserved with
      | conflict => cases hout
      | replayed found same finalized => exact absurd ⟨_, found, finalized⟩ hnew
      | refused => cases finalizeOrThrow_returned hout
  | ran =>
      obtain ⟨_, _, _, _, hverdict⟩ := settle_returned_ok hout
      have hends := body_ends hk (call.context w) call.command w.ledger
      rw [ranWorld]
      generalize call.command.body (call.context w) w.tables w.ledger = exit at hends hverdict ⊢
      cases hends with
      | rejected => cases hverdict
      | accepted locked applied appended => exact ⟨_, _, locked, applied, appended⟩
      | threw => cases hverdict
      | threwAfter => cases hverdict

/-- **A rejected call** leaves the ledgers, and the tables but for a missing header
of its Todo queue. -/
theorem execute_rejected {call : Call} {w : World} (hk : Keyed w.tables) {error : DomainError}
    (hout : (execute call w).1 = .returned (.error error)) :
    HeaderStep (call.context w) w.tables (execute call w).2.tables ∧
      (execute call w).2.ledger = w.ledger := by
  have hcase := execute_spec call w
  generalize execute call w = answer at hcase hout ⊢
  cases hcase with
  | unauthorized => exact ⟨.refl, rfl⟩
  | answered => exact ⟨.refl, rfl⟩
  | ran =>
      obtain ⟨_, _, _, _, hverdict⟩ := settle_returned_error hout
      have hends := body_ends hk (call.context w) call.command w.ledger
      rw [ranWorld]
      generalize call.command.body (call.context w) w.tables w.ledger = exit at hends hverdict ⊢
      cases hends with
      | rejected locked => exact ⟨locked, rfl⟩
      | accepted => cases hverdict
      | threw => cases hverdict
      | threwAfter => cases hverdict

end Opzava.DevBoard
