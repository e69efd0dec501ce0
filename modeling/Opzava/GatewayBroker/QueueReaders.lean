import Opzava.Library.EventMachine
import Opzava.GatewayBroker.Streams

/-!
The readers of a queue (`rpc/async-queue.ts`): which call of `next` is answered with which value.

* `QueueReaders.push`, `close`, `next`: the queue with its waiting readers.
* `channelReply`: the call of number `n` is answered with the value of number `n`.
* `Follows.push`, `Follows.close`, `Follows.next`: the queue answers like that.
* `queue_is_fifo`: what this says of every run.
* `erase_push`, `erase_close`, `erase_next`: the queue of the streams is this one less its readers.
-/

namespace Opzava.GatewayBroker

open Opzava.Library

/-! ### The queue -/

/-- `IteratorResult`: a value, or the end. -/
inductive IteratorResult (α : Type)
  | value (value : α)
  | done
  deriving DecidableEq

/-- The value of a result, if there is one. -/
def IteratorResult.toOption {α : Type} : IteratorResult α → Option α
  | .value x => some x
  | .done => none

/-- `AsyncQueue`, with the answers to the calls of `next` by their numbers, and the values that were
pushed before the queue was closed. -/
structure QueueReaders (α : Type) where
  values : List α
  waiters : List ℕ
  closed : Bool
  calls : ℕ
  answers : ℕ → Option (IteratorResult α)
  pushed : List α

namespace QueueReaders

variable {α : Type}

def empty : QueueReaders α := ⟨[], [], false, 0, fun _ => none, []⟩

/-- A call that waits is answered. -/
def resolve (queue : QueueReaders α) (call : ℕ) (result : IteratorResult α) : QueueReaders α :=
  { queue with answers := fun n => if n = call then some result else queue.answers n }

def push (queue : QueueReaders α) (value : α) : QueueReaders α :=
  if queue.closed then queue
  else
    match queue.waiters with
    | waiter :: waiters =>
        { queue.resolve waiter (.value value) with
          waiters := waiters, pushed := queue.pushed ++ [value] }
    | [] => { queue with values := queue.values ++ [value], pushed := queue.pushed ++ [value] }

def close (queue : QueueReaders α) : QueueReaders α :=
  if queue.closed then queue
  else
    { queue.waiters.foldl (fun queue waiter => queue.resolve waiter .done) queue with
      closed := true, waiters := [] }

/-- A call of `next`, with the number of the calls so far. -/
def next (queue : QueueReaders α) : QueueReaders α :=
  let called := { queue with calls := queue.calls + 1 }
  match queue.values with
  | value :: values => { called.resolve queue.calls (.value value) with values := values }
  | [] =>
      if queue.closed then called.resolve queue.calls .done
      else { called with waiters := queue.waiters ++ [queue.calls] }

end QueueReaders

/-- What is done with a queue; all its iterators share its values and its waiters. -/
inductive QueueEvent (α : Type)
  | push (value : α)
  | close
  | next (iterator : ℕ)

def queueReaders (α : Type) : EventMachine (QueueReaders α) (QueueEvent α) where
  step queue
    | .push value => queue.push value
    | .close => queue.close
    | .next _ => queue.next

/-! ### The channel -/

section Channel

variable {α : Type} {pushed : List α} {closed : Bool} {n : ℕ}

/-- The answer to a call: the value with its number, or the end, when there is none and the channel
is closed. -/
def channelReply (pushed : List α) (closed : Bool) (n : ℕ) : Option (IteratorResult α) :=
  match pushed[n]? with
  | some value => some (.value value)
  | none => if closed then some .done else none

/-- What is kept of a queue: it answers like the channel, it has the values that no call was made
for, and the calls wait for which there is no value. -/
structure Follows (queue : QueueReaders α) : Prop where
  values : queue.values = queue.pushed.drop queue.calls
  waiters : queue.waiters =
    if queue.closed then [] else (List.range queue.calls).drop queue.pushed.length
  answers : ∀ n, queue.answers n =
    if n < queue.calls then channelReply queue.pushed queue.closed n else none

variable {queue : QueueReaders α} {value : α}

lemma follows_empty : Follows (.empty : QueueReaders α) :=
  ⟨rfl, rfl, fun _ => rfl⟩

lemma channelReply_append : channelReply (pushed ++ [value]) closed n =
    if n = pushed.length then some (.value value) else channelReply pushed closed n := by
  unfold channelReply
  rcases Nat.lt_trichotomy n pushed.length with hlt | rfl | hgt
  · rw [List.getElem?_append_left hlt, if_neg hlt.ne]
  · rw [List.getElem?_concat_length, if_pos rfl]
  · rw [if_neg hgt.ne', List.getElem?_eq_none (by simp; omega), List.getElem?_eq_none hgt.le]

/-- A value that nobody waits for is kept, and one that somebody waits for is given to the first. -/
lemma Follows.push (h : Follows queue) (value : α) : Follows (queue.push value) := by
  unfold QueueReaders.push
  split
  · exact h
  · next hopen =>
      have hwaiters := h.waiters
      rw [if_neg hopen] at hwaiters
      split
      · next waiter waiters hcons =>
          rw [hcons] at hwaiters
          have hlt : queue.pushed.length < queue.calls := by
            by_contra hle
            rw [List.drop_eq_nil_of_le (by rw [List.length_range]; omega)] at hwaiters
            cases hwaiters
          rw [List.drop_eq_getElem_cons (by rw [List.length_range]; exact hlt),
            List.getElem_range] at hwaiters
          obtain ⟨rfl, rfl⟩ := List.cons.inj hwaiters
          refine ⟨?_, ?_, fun n => ?_⟩
          · change queue.values = (queue.pushed ++ [value]).drop queue.calls
            rw [h.values, List.drop_eq_nil_of_le hlt.le, List.drop_eq_nil_of_le (by simp; omega)]
          · change _ = if queue.closed = true then [] else
              (List.range queue.calls).drop (queue.pushed ++ [value]).length
            rw [if_neg hopen, List.length_append, List.length_singleton]
          · change (if n = queue.pushed.length then _ else queue.answers n) =
              if n < queue.calls then
                channelReply (queue.pushed ++ [value]) queue.closed n else none
            rw [channelReply_append, h.answers]
            by_cases hn : n = queue.pushed.length
            · rw [if_pos hn, if_pos hn, if_pos (hn ▸ hlt)]
            · rw [if_neg hn, if_neg hn]
      · next hnil =>
          rw [hnil] at hwaiters
          have hle : queue.calls ≤ queue.pushed.length := by
            have hlength := congrArg List.length hwaiters
            rw [List.length_drop, List.length_range, List.length_nil] at hlength
            omega
          refine ⟨?_, ?_, fun n => ?_⟩
          · change queue.values ++ [value] = (queue.pushed ++ [value]).drop queue.calls
            rw [h.values, List.drop_append_of_le_length hle]
          · change queue.waiters = if queue.closed = true then [] else
              (List.range queue.calls).drop (queue.pushed ++ [value]).length
            rw [if_neg hopen, hnil, List.drop_eq_nil_of_le (by simp; omega)]
          · change queue.answers n = if n < queue.calls then
              channelReply (queue.pushed ++ [value]) queue.closed n else none
            rw [channelReply_append, h.answers]
            by_cases hn : n < queue.calls
            · rw [if_pos hn, if_pos hn, if_neg (by omega)]
            · rw [if_neg hn, if_neg hn]

lemma mem_drop_range {m k : ℕ} : n ∈ (List.range k).drop m ↔ m ≤ n ∧ n < k := by
  rw [List.mem_iff_getElem?]
  simp only [List.getElem?_drop]
  constructor
  · rintro ⟨i, hi⟩
    obtain ⟨hlt, heq⟩ := List.getElem?_eq_some_iff.mp hi
    rw [List.getElem_range] at heq
    rw [List.length_range] at hlt
    omega
  · rintro ⟨hm, hk⟩
    exact ⟨n - m, by rw [List.getElem?_range (by omega)]; congr 1; omega⟩

lemma answers_foldl_resolve {waiters : List ℕ} (n : ℕ) :
    (waiters.foldl (fun queue waiter => queue.resolve waiter .done) queue).answers n =
      if n ∈ waiters then some .done else queue.answers n := by
  induction waiters generalizing queue with
  | nil => rfl
  | cons waiter waiters ih =>
      rw [List.foldl_cons, ih]
      change (if n ∈ waiters then _ else if n = waiter then _ else _) = _
      by_cases hn : n ∈ waiters
      · rw [if_pos hn, if_pos (List.mem_cons_of_mem _ hn)]
      · rw [if_neg hn]
        exact if_congr ⟨fun heq => heq ▸ List.mem_cons_self,
          fun h => (List.mem_cons.mp h).resolve_right hn⟩ rfl rfl

lemma foldl_resolve_fields {waiters : List ℕ} :
    (waiters.foldl (fun queue waiter => queue.resolve waiter .done) queue).values = queue.values ∧
      (waiters.foldl (fun queue waiter => queue.resolve waiter .done) queue).calls = queue.calls ∧
      (waiters.foldl (fun queue waiter => queue.resolve waiter .done) queue).pushed =
        queue.pushed := by
  induction waiters generalizing queue with
  | nil => exact ⟨rfl, rfl, rfl⟩
  | cons waiter waiters ih => exact ih

/-- The end is given to everybody who waits. -/
lemma Follows.close (h : Follows queue) : Follows queue.close := by
  unfold QueueReaders.close
  split
  · exact h
  · next hopen =>
      obtain ⟨hvalues, hcalls, hpushed⟩ := @foldl_resolve_fields α queue queue.waiters
      refine ⟨?_, rfl, fun n => ?_⟩
      · change _ = List.drop (List.foldl _ queue queue.waiters).calls
          (List.foldl _ queue queue.waiters).pushed
        rw [hvalues, hcalls, hpushed, h.values]
      · change (List.foldl _ queue queue.waiters).answers n =
          if n < (List.foldl _ queue queue.waiters).calls then
            channelReply (List.foldl _ queue queue.waiters).pushed true n else none
        rw [answers_foldl_resolve, hcalls, hpushed, h.answers, h.waiters, if_neg hopen]
        by_cases hcall : n < queue.calls
        · rw [if_pos hcall, if_pos hcall]
          by_cases hwaits : queue.pushed.length ≤ n
          · rw [if_pos (mem_drop_range.mpr ⟨hwaits, hcall⟩), channelReply,
              List.getElem?_eq_none hwaits]
            rfl
          · rw [if_neg fun hmem => hwaits (mem_drop_range.mp hmem).1, channelReply, channelReply,
              List.getElem?_eq_getElem (not_le.mp hwaits)]
        · rw [if_neg hcall, if_neg hcall, if_neg fun hmem => hcall (mem_drop_range.mp hmem).2]

/-- A call is answered at once, if there is a value or the queue is closed, and waits otherwise. -/
lemma Follows.next (h : Follows queue) : Follows queue.next := by
  have hwaiters := h.waiters
  unfold QueueReaders.next
  dsimp only
  split
  · next value values hcons =>
      have hvalues := h.values
      rw [hcons] at hvalues
      have hlt : queue.calls < queue.pushed.length := by
        by_contra hle
        rw [List.drop_eq_nil_of_le (not_lt.mp hle)] at hvalues
        cases hvalues
      rw [List.drop_eq_getElem_cons hlt] at hvalues
      obtain ⟨rfl, rfl⟩ := List.cons.inj hvalues
      refine ⟨rfl, ?_, fun n => ?_⟩
      · change queue.waiters = if queue.closed = true then [] else
          (List.range (queue.calls + 1)).drop queue.pushed.length
        rw [hwaiters, List.drop_eq_nil_of_le (by rw [List.length_range]; omega),
          List.drop_eq_nil_of_le (by rw [List.length_range]; omega)]
      · change (if n = queue.calls then _ else queue.answers n) = if n < queue.calls + 1 then
          channelReply queue.pushed queue.closed n else none
        rw [h.answers]
        by_cases hn : n = queue.calls
        · rw [if_pos hn, if_pos (by omega), channelReply, hn, List.getElem?_eq_getElem hlt]
        · rw [if_neg hn]
          exact if_congr (by omega) rfl rfl
  · next hnil =>
      have hle : queue.pushed.length ≤ queue.calls := by
        have hlength := congrArg List.length (h.values.symm.trans hnil)
        rw [List.length_drop, List.length_nil] at hlength
        omega
      have hreply : channelReply queue.pushed queue.closed queue.calls =
          if queue.closed then some .done else none := by
        rw [channelReply, List.getElem?_eq_none hle]
      have hanswers : ∀ result, (if queue.closed = true then some IteratorResult.done else none) =
          result → ∀ n, (if n = queue.calls then result else queue.answers n) =
            if n < queue.calls + 1 then channelReply queue.pushed queue.closed n else none := by
        rintro result rfl n
        rw [h.answers]
        by_cases hn : n = queue.calls
        · rw [if_pos hn, hn, if_pos (Nat.lt_succ_self _), hreply]
        · rw [if_neg hn]
          exact if_congr (by omega) rfl rfl
      have hvalues : queue.values = queue.pushed.drop (queue.calls + 1) := by
        rw [hnil, List.drop_eq_nil_of_le (by omega)]
      split
      · next hclosed =>
          rw [if_pos hclosed] at hwaiters
          refine ⟨hvalues, ?_, hanswers _ (if_pos hclosed)⟩
          change queue.waiters = if queue.closed = true then [] else _
          rw [hwaiters, if_pos hclosed]
      · next hopen =>
          rw [if_neg hopen] at hwaiters
          refine ⟨hvalues, ?_, fun n => ?_⟩
          · change queue.waiters ++ [queue.calls] = if queue.closed = true then [] else
              (List.range (queue.calls + 1)).drop queue.pushed.length
            rw [if_neg hopen, hwaiters, List.range_succ,
              List.drop_append_of_le_length (by rwa [List.length_range])]
          · -- The new call is not answered yet.
            have hnone := hanswers none (if_neg hopen) n
            change queue.answers n = _
            rw [← hnone]
            split
            · next hn => rw [h.answers, if_neg (by omega)]
            · rfl

lemma follows_step (event : QueueEvent α) (h : Follows queue) :
    Follows ((queueReaders α).step queue event) := by
  cases event with
  | push value => exact h.push value
  | close => exact h.close
  | next iterator => exact h.next

end Channel

/-! ### The runs -/

section Runs

variable {α : Type} {queue : QueueReaders α}

/-- The values that were given to calls, in the order in which the calls were made. -/
def QueueReaders.delivered (queue : QueueReaders α) : List α :=
  (List.range queue.calls).filterMap fun n => (queue.answers n).bind IteratorResult.toOption

/-- The values that are pushed before a queue is closed. -/
def pushedBeforeClose : List (QueueEvent α) → List α
  | [] => []
  | .push value :: events => value :: pushedBeforeClose events
  | .close :: _ => []
  | .next _ :: events => pushedBeforeClose events

/-- The queue is a channel: each call gets the value with its number, and the end when there is no
such value and will not be. -/
structure Fifo (queue : QueueReaders α) (events : List (QueueEvent α)) : Prop where
  delivered : queue.delivered <+: pushedBeforeClose events
  numbered : ∀ n value, queue.answers n = some (.value value) →
    (pushedBeforeClose events)[n]? = some value
  ended : ∀ n, queue.answers n = some .done →
    QueueEvent.close ∈ events ∧ queue.delivered = pushedBeforeClose events
  unbuffered : queue.waiters ≠ [] → queue.values = []
  waiting : ∀ n, n ∈ queue.waiters ↔ n < queue.calls ∧ queue.answers n = none
  answered : QueueEvent.close ∈ events → ∀ n < queue.calls, queue.answers n ≠ none

lemma filterMap_range_getElem? (values : List α) (k : ℕ) :
    (List.range k).filterMap (values[·]?) = values.take k := by
  induction k with
  | zero => rfl
  | succ k ih =>
      rw [List.range_succ, List.filterMap_append, ih, List.take_add_one, List.filterMap_cons]
      cases values[k]? <;> rfl

lemma delivered_of_follows (h : Follows queue) :
    queue.delivered = queue.pushed.take queue.calls := by
  rw [QueueReaders.delivered, ← filterMap_range_getElem?]
  refine List.filterMap_congr fun n hn => ?_
  rw [h.answers, if_pos (List.mem_range.mp hn), channelReply]
  cases queue.pushed[n]? with
  | some value => rfl
  | none => cases queue.closed <;> rfl

lemma push_fields (value : α) : (queue.push value).closed = queue.closed ∧
    (queue.push value).pushed =
      if queue.closed then queue.pushed else queue.pushed ++ [value] := by
  unfold QueueReaders.push
  split
  · exact ⟨rfl, rfl⟩
  · split
    · exact ⟨rfl, rfl⟩
    · exact ⟨rfl, rfl⟩

lemma close_fields : queue.close.closed = true ∧ queue.close.pushed = queue.pushed := by
  unfold QueueReaders.close
  split
  · next hclosed => exact ⟨hclosed, rfl⟩
  · exact ⟨rfl, (@foldl_resolve_fields α queue queue.waiters).2.2⟩

lemma next_fields : queue.next.closed = queue.closed ∧ queue.next.pushed = queue.pushed := by
  unfold QueueReaders.next
  dsimp only
  split
  · exact ⟨rfl, rfl⟩
  · split
    · exact ⟨rfl, rfl⟩
    · exact ⟨rfl, rfl⟩

/-- What was pushed before the queue was closed, and whether it is. -/
lemma outcome_fields (events : List (QueueEvent α)) :
    ((queueReaders α).outcome queue events).pushed =
        (if queue.closed then queue.pushed else queue.pushed ++ pushedBeforeClose events) ∧
      (((queueReaders α).outcome queue events).closed = true ↔
        queue.closed = true ∨ QueueEvent.close ∈ events) := by
  induction events generalizing queue with
  | nil => simp [EventMachine.outcome, pushedBeforeClose]
  | cons event events ih =>
      obtain ⟨hpushed, hclosed⟩ := @ih ((queueReaders α).step queue event)
      change ((queueReaders α).outcome ((queueReaders α).step queue event) events).pushed = _ ∧
        (((queueReaders α).outcome ((queueReaders α).step queue event) events).closed = true ↔ _)
      rw [hpushed, hclosed]
      cases event with
      | push value =>
          obtain ⟨hsame, hvalues⟩ := @push_fields α queue value
          change (if (queue.push value).closed = true then (queue.push value).pushed else
            (queue.push value).pushed ++ _) = _ ∧ ((queue.push value).closed = true ∨ _ ↔ _)
          rw [hsame, hvalues, pushedBeforeClose]
          cases queue.closed <;> simp
      | close =>
          obtain ⟨hsame, hvalues⟩ := @close_fields α queue
          change (if queue.close.closed = true then queue.close.pushed else _) = _ ∧
            (queue.close.closed = true ∨ _ ↔ _)
          rw [hsame, hvalues, pushedBeforeClose]
          cases queue.closed <;> simp
      | next iterator =>
          obtain ⟨hsame, hvalues⟩ := @next_fields α queue
          change (if queue.next.closed = true then queue.next.pushed else
            queue.next.pushed ++ _) = _ ∧ (queue.next.closed = true ∨ _ ↔ _)
          rw [hsame, hvalues, pushedBeforeClose]
          cases queue.closed <;> simp

lemma follows_outcome (events : List (QueueEvent α)) :
    Follows ((queueReaders α).outcome .empty events) :=
  (EventMachine.always_of_invariant (fun _ event h => follows_step event h)
    follows_empty).outcome

/-- **A queue is a channel** in every run of pushes, closes and calls. -/
theorem queue_is_fifo (events : List (QueueEvent α)) :
    Fifo ((queueReaders α).outcome .empty events) events := by
  have h := follows_outcome events
  obtain ⟨hpushed, hclosed⟩ := @outcome_fields α .empty events
  generalize (queueReaders α).outcome .empty events = queue at h hpushed hclosed
  have hpushed : queue.pushed = pushedBeforeClose events := hpushed
  have hclosed : queue.closed = true ↔ QueueEvent.close ∈ events :=
    hclosed.trans ⟨fun h => h.resolve_left nofun, .inr⟩
  have hdelivered := delivered_of_follows h
  rw [hpushed] at hdelivered
  refine ⟨hdelivered ▸ List.take_prefix _ _, fun n value hn => ?_, fun n hn => ?_,
    fun hwaiters => ?_, fun n => ?_, fun hclose n hn => ?_⟩
  · rw [h.answers, hpushed] at hn
    split at hn
    · unfold channelReply at hn
      split at hn
      · next hvalue =>
          cases hn
          exact hvalue
      · split at hn <;> cases hn
    · cases hn
  · rw [h.answers, hpushed] at hn
    split at hn
    · next hcall =>
        unfold channelReply at hn
        split at hn
        · cases hn
        · next hnone =>
            split at hn
            · next hend =>
                have hle := List.getElem?_eq_none_iff.mp hnone
                exact ⟨hclosed.mp hend, by rw [hdelivered, List.take_of_length_le (by omega)]⟩
            · cases hn
    · cases hn
  · rw [h.values]
    refine List.drop_eq_nil_of_le ?_
    by_contra hlt
    refine hwaiters ?_
    rw [h.waiters]
    split
    · rfl
    · exact List.drop_eq_nil_of_le (by rw [List.length_range]; omega)
  · rw [h.waiters, h.answers]
    unfold channelReply
    by_cases hcall : n < queue.calls
    · cases hvalue : queue.pushed[n]? with
      | some value =>
          obtain ⟨hlt, -⟩ := List.getElem?_eq_some_iff.mp hvalue
          refine iff_of_false (fun hmem => ?_) fun hnone => by simp [hcall] at hnone
          split at hmem
          · cases hmem
          · exact absurd (mem_drop_range.mp hmem).1 (by omega)
      | none =>
          have hle := List.getElem?_eq_none_iff.mp hvalue
          cases queue.closed with
          | true => simp [hcall]
          | false => simp [hcall, mem_drop_range, hle]
    · refine iff_of_false (fun hmem => ?_) fun hnone => hcall hnone.1
      split at hmem
      · cases hmem
      · exact hcall (mem_drop_range.mp hmem).2
  · rw [h.answers, if_pos hn, channelReply, hclosed.mpr hclose]
    split <;> nofun

end Runs

/-! ### The queue of the streams -/

section Streams

variable {α : Type} {queue : QueueReaders α}

lemma waits_of_follows (h : Follows queue) (hwaiters : queue.waiters.length ≠ 0) :
    queue.values = [] := by
  rw [h.values]
  refine List.drop_eq_nil_of_le ?_
  by_contra hlt
  refine hwaiters ?_
  rw [h.waiters]
  split
  · rfl
  · rw [List.length_drop, List.length_range]
    omega

/-- The queue, with the number of its waiters and what it has delivered. -/
def QueueReaders.erase (queue : QueueReaders α) (h : Follows queue) : AsyncQueue α where
  values := queue.values
  waiters := queue.waiters.length
  closed := queue.closed
  delivered := queue.pushed.take queue.calls
  waits := waits_of_follows h

lemma asyncQueue_ext {queue queue' : AsyncQueue α} (hvalues : queue.values = queue'.values)
    (hwaiters : queue.waiters = queue'.waiters) (hclosed : queue.closed = queue'.closed)
    (hdelivered : queue.delivered = queue'.delivered) : queue = queue' := by
  cases queue
  cases queue'
  cases hvalues
  cases hwaiters
  cases hclosed
  cases hdelivered
  rfl

lemma erase_of_eq {queue' : QueueReaders α} (h : Follows queue) (h' : Follows queue')
    (heq : queue = queue') : queue.erase h = queue'.erase h' := by
  subst heq
  rfl

lemma calls_le_of_waiters_nil (h : Follows queue) (hopen : queue.closed = false)
    (hnil : queue.waiters = []) : queue.calls ≤ queue.pushed.length := by
  have hwaiters := h.waiters
  rw [hnil, hopen, if_neg nofun] at hwaiters
  have hlength := congrArg List.length hwaiters
  rw [List.length_nil, List.length_drop, List.length_range] at hlength
  omega

lemma erase_push (h : Follows queue) (value : α) :
    (queue.push value).erase (h.push value) = (queue.erase h).push value := by
  cases hclosed : queue.closed with
  | true =>
      have hsame : queue.push value = queue := if_pos hclosed
      have hclosed' : (queue.erase h).closed = true := hclosed
      rw [AsyncQueue.push, if_pos hclosed']
      exact erase_of_eq _ _ hsame
  | false =>
      have hopen : ¬ queue.closed = true := Bool.eq_false_iff.mp hclosed
      have hopen' : ¬ (queue.erase h).closed = true := hopen
      cases hwaiters : queue.waiters with
      | nil =>
          have hle := calls_le_of_waiters_nil h hclosed hwaiters
          have hpush : queue.push value =
              { queue with
                values := queue.values ++ [value], pushed := queue.pushed ++ [value] } := by
            rw [QueueReaders.push, if_neg hopen, hwaiters]
          have hzero : (queue.erase h).waiters = 0 := congrArg List.length hwaiters
          rw [AsyncQueue.push, if_neg hopen', dif_pos hzero]
          refine asyncQueue_ext ?_ ?_ ?_ ?_
          · exact (congrArg QueueReaders.values hpush).trans rfl
          · exact congrArg (·.waiters.length) hpush
          · exact (congrArg QueueReaders.closed hpush).trans rfl
          · change (queue.push value).pushed.take (queue.push value).calls =
              queue.pushed.take queue.calls
            rw [hpush, List.take_append_of_le_length hle]
      | cons waiter waiters =>
          have hpush : queue.push value = { queue.resolve waiter (.value value) with
              waiters := waiters, pushed := queue.pushed ++ [value] } := by
            rw [QueueReaders.push, if_neg hopen, hwaiters]
          have hlength : (queue.erase h).waiters = waiters.length + 1 :=
            congrArg List.length hwaiters
          have hlt : queue.pushed.length < queue.calls := by
            by_contra hle
            have hnil := h.waiters
            rw [hwaiters, if_neg hopen, List.drop_eq_nil_of_le (by simp; omega)] at hnil
            cases hnil
          rw [AsyncQueue.push, if_neg hopen', dif_neg (by rw [hlength]; exact Nat.succ_ne_zero _)]
          refine asyncQueue_ext ?_ ?_ ?_ ?_
          · exact (congrArg QueueReaders.values hpush).trans rfl
          · change (queue.push value).waiters.length = (queue.erase h).waiters - 1
            rw [hpush, hlength]
            rfl
          · exact (congrArg QueueReaders.closed hpush).trans rfl
          · change (queue.push value).pushed.take (queue.push value).calls =
              queue.pushed.take queue.calls ++ [value]
            rw [hpush]
            change (queue.pushed ++ [value]).take queue.calls = _
            rw [List.take_of_length_le hlt.le, List.take_of_length_le (by simp; omega)]

lemma erase_close (h : Follows queue) : queue.close.erase h.close = (queue.erase h).close := by
  obtain ⟨hvalues, hcalls, hpushed⟩ := @foldl_resolve_fields α queue queue.waiters
  cases hclosed : queue.closed with
  | true =>
      have hsame : queue.close = queue := if_pos hclosed
      have hnil := h.waiters
      rw [if_pos hclosed] at hnil
      rw [erase_of_eq _ h hsame]
      exact asyncQueue_ext rfl (congrArg List.length hnil) hclosed rfl
  | false =>
      have hopen : ¬ queue.closed = true := by rw [hclosed]; nofun
      have hclose : queue.close = { queue.waiters.foldl
          (fun queue waiter => queue.resolve waiter .done) queue with
          closed := true, waiters := [] } := if_neg hopen
      refine asyncQueue_ext ?_ ?_ ?_ ?_
      · exact (congrArg QueueReaders.values hclose).trans hvalues
      · exact congrArg (·.waiters.length) hclose
      · exact congrArg QueueReaders.closed hclose
      · change queue.close.pushed.take queue.close.calls = queue.pushed.take queue.calls
        rw [hclose]
        change List.take (List.foldl _ queue queue.waiters).calls
          (List.foldl _ queue queue.waiters).pushed = _
        rw [hcalls, hpushed]

lemma next_of_cons {queue : AsyncQueue α} {value : α} {values : List α}
    (hvalues : queue.values = value :: values) :
    queue.next.values = values ∧ queue.next.waiters = queue.waiters ∧
      queue.next.closed = queue.closed ∧ queue.next.delivered = queue.delivered ++ [value] := by
  unfold AsyncQueue.next
  split
  · next hcons =>
      rw [hvalues] at hcons
      obtain ⟨rfl, rfl⟩ := List.cons.inj hcons
      exact ⟨rfl, rfl, rfl, rfl⟩
  · next hnil => exact absurd (hvalues.symm.trans hnil) nofun

lemma next_of_nil {queue : AsyncQueue α} (hvalues : queue.values = []) :
    queue.next.values = [] ∧
      queue.next.waiters = (if queue.closed then queue.waiters else queue.waiters + 1) ∧
      queue.next.closed = queue.closed ∧ queue.next.delivered = queue.delivered := by
  unfold AsyncQueue.next
  split
  · next hcons => exact absurd (hvalues.symm.trans hcons) nofun
  · split_ifs
    · exact ⟨hvalues, rfl, rfl, rfl⟩
    · exact ⟨hvalues, rfl, rfl, rfl⟩

lemma erase_next (h : Follows queue) : queue.next.erase h.next = (queue.erase h).next := by
  have hdrop := h.values
  cases hvalues : queue.values with
  | cons value values =>
      have hnext : queue.next = { { queue with calls := queue.calls + 1 }.resolve queue.calls
          (.value value) with values := values } := by
        rw [QueueReaders.next, hvalues]
      rw [hvalues] at hdrop
      have hlt : queue.calls < queue.pushed.length := by
        by_contra hle
        rw [List.drop_eq_nil_of_le (not_lt.mp hle)] at hdrop
        cases hdrop
      rw [List.drop_eq_getElem_cons hlt] at hdrop
      obtain ⟨rfl, -⟩ := List.cons.inj hdrop
      have hcons : (queue.erase h).values = queue.pushed[queue.calls] :: values := hvalues
      obtain ⟨hvalues', hwaiters', hclosed', hdelivered'⟩ := next_of_cons hcons
      refine asyncQueue_ext ?_ ?_ ?_ ?_
      · exact (congrArg QueueReaders.values hnext).trans hvalues'.symm
      · exact (congrArg (·.waiters.length) hnext).trans hwaiters'.symm
      · exact (congrArg QueueReaders.closed hnext).trans hclosed'.symm
      · rw [hdelivered']
        change queue.next.pushed.take queue.next.calls = queue.pushed.take queue.calls ++ _
        rw [hnext]
        exact List.take_succ_eq_append_getElem hlt
  | nil =>
      have hnil : (queue.erase h).values = [] := hvalues
      obtain ⟨hvalues', hwaiters', hclosed', hdelivered'⟩ := next_of_nil hnil
      have hle : queue.pushed.length ≤ queue.calls := by
        have hlength := congrArg List.length (hdrop.symm.trans hvalues)
        rw [List.length_drop, List.length_nil] at hlength
        omega
      have hnext : queue.next = if queue.closed
          then { queue with calls := queue.calls + 1 }.resolve queue.calls .done
          else { queue with
            calls := queue.calls + 1, waiters := queue.waiters ++ [queue.calls] } := by
        rw [QueueReaders.next, hvalues]
      have htake : queue.pushed.take (queue.calls + 1) = queue.pushed.take queue.calls := by
        rw [List.take_of_length_le hle, List.take_of_length_le (by omega)]
      cases hclosed : queue.closed with
      | true =>
          replace hnext := hnext.trans (if_pos hclosed)
          have hclosed'' : (queue.erase h).closed = true := hclosed
          rw [if_pos hclosed''] at hwaiters'
          refine asyncQueue_ext ?_ ?_ ?_ ?_
          · exact (congrArg QueueReaders.values hnext).trans (hvalues.trans hvalues'.symm)
          · exact (congrArg (·.waiters.length) hnext).trans hwaiters'.symm
          · exact (congrArg QueueReaders.closed hnext).trans hclosed'.symm
          · rw [hdelivered']
            change queue.next.pushed.take queue.next.calls = _
            rw [hnext]
            exact htake
      | false =>
          have hopen : ¬ queue.closed = true := by rw [hclosed]; nofun
          have hopen' : ¬ (queue.erase h).closed = true := hopen
          replace hnext := hnext.trans (if_neg hopen)
          rw [if_neg hopen'] at hwaiters'
          refine asyncQueue_ext ?_ ?_ ?_ ?_
          · exact (congrArg QueueReaders.values hnext).trans (hvalues.trans hvalues'.symm)
          · refine (congrArg (·.waiters.length) hnext).trans (.trans ?_ hwaiters'.symm)
            exact List.length_append.trans rfl
          · exact (congrArg QueueReaders.closed hnext).trans hclosed'.symm
          · rw [hdelivered']
            change queue.next.pushed.take queue.next.calls = _
            rw [hnext]
            exact htake

end Streams

end Opzava.GatewayBroker
