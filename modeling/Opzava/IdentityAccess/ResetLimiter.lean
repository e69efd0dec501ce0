import Opzava.Library.EventMachine
import Opzava.Library.JavaScript
import Opzava.Library.MapUpdates

/-!
The limit on public password reset requests (`adapters/better-auth/auth-port-adapter.ts`), with a
record of every call.

* `consumePublicResetRequest`: a call, with the prunes and the eviction it makes room by.
* `acceptedSince`: the calls of a key that were accepted since its last capacity eviction.
* `Tracks.consume`: the map remembers of every key those that a later call will count.
* `reset_limiter_is_sliding_window`: the limiter is an exact sliding window.
-/

namespace Opzava.IdentityAccess

open Opzava.Library

/-! ### The code -/

def passwordResetWindowMs : ℤ := 60 * 60 * 1000

def maximumPublicRateLimitKeys : ℕ := 10000

def rightmostForwardedForHop (value : Option String) : String :=
  match value with
  | some value =>
      let hop := jsTrim ((value.toList.splitOn ',').getLastD [])
      if hop = [] then "unknown" else String.ofList hop
  | none => "unknown"

/-- The arguments of `consumePublicResetRequest`. -/
structure ResetCall where
  ipAddress : Option String
  scope : String
  subject : Option String
  limit : ℕ
  now : ℤ

def ResetCall.key (call : ResetCall) : String :=
  rightmostForwardedForHop call.ipAddress ++ ":" ++ call.scope ++
    match call.subject with
    | some subject => ":" ++ subject
    | none => ""

/-- A call, what it was answered, and the key that was evicted for it. -/
structure ResetRecord where
  call : ResetCall
  accepted : Bool
  evicted : Option String

/-- The variables of the module, and the calls so far, the last one first. -/
structure ResetLimiter where
  passwordResetRequests : OrderedMap String (List ℤ)
  lastPublicRateLimitPruneAt : ℤ
  history : List ResetRecord

namespace ResetLimiter

def start : ResetLimiter := ⟨.empty, 0, []⟩

/-- The times of a window that ends now. -/
def recent (now : ℤ) (requests : List ℤ) : List ℤ :=
  requests.filter fun requestedAt => requestedAt > now - passwordResetWindowMs

def prunePublicRateLimits (limiter : ResetLimiter) (now : ℤ) (force : Bool) : ResetLimiter :=
  if !force && now - limiter.lastPublicRateLimitPruneAt < 60000 then limiter
  else
    { limiter with
      lastPublicRateLimitPruneAt := now
      passwordResetRequests := limiter.passwordResetRequests.updateAll fun _ requests =>
        let current := recent now requests
        if current.length = 0 then none else some current }

/-- The requests a key holds, none if it holds nothing. -/
def requestsOf (limiter : ResetLimiter) (key : String) : List ℤ :=
  (limiter.passwordResetRequests.get key).getD []

/-- `(requests[0] ?? now)`. -/
def firstRequest (now : ℤ) (requests : List ℤ) : ℤ := requests.head?.getD now

/-- The candidate after one more entry. -/
def older (limiter : ResetLimiter) (now : ℤ) (candidate : Option String)
    (entry : String × List ℤ) : Option String :=
  match candidate with
  | none => some entry.1
  | some key =>
      if firstRequest now entry.2 < firstRequest now (limiter.requestsOf key) then some entry.1
      else some key

/-- `oldest`, the key whose first request is the earliest. -/
def oldest (limiter : ResetLimiter) (now : ℤ) : Option String :=
  limiter.passwordResetRequests.entries.foldl (limiter.older now) none

/-- The room that is made for a new key, and the key that is evicted for it. -/
def makeRoom (limiter : ResetLimiter) (key : String) (now : ℤ) : ResetLimiter × Option String :=
  if !limiter.passwordResetRequests.has key &&
      maximumPublicRateLimitKeys ≤ limiter.passwordResetRequests.size then
    let pruned := limiter.prunePublicRateLimits now true
    if maximumPublicRateLimitKeys ≤ pruned.passwordResetRequests.size then
      match pruned.oldest now with
      | some oldest =>
          ({ pruned with passwordResetRequests := pruned.passwordResetRequests.delete oldest },
            some oldest)
      | none => (pruned, none)
    else (pruned, none)
  else (limiter, none)

def consumePublicResetRequest (limiter : ResetLimiter) (call : ResetCall) : ResetLimiter × Bool :=
  let pruned := limiter.prunePublicRateLimits call.now false
  let current := recent call.now (pruned.requestsOf call.key)
  if call.limit ≤ current.length then
    ({ pruned with history := ⟨call, false, none⟩ :: pruned.history }, false)
  else
    let room := pruned.makeRoom call.key call.now
    ({ room.1 with
        passwordResetRequests := room.1.passwordResetRequests.set call.key (current ++ [call.now])
        history := ⟨call, true, room.2⟩ :: pruned.history }, true)

end ResetLimiter

open ResetLimiter

def resetLimiter : EventMachine ResetLimiter ResetCall where
  step limiter call := (limiter.consumePublicResetRequest call).1

/-! ### What the map remembers -/

/-- The times of the calls of a key that were accepted since its last capacity eviction. -/
def acceptedSince (key : String) : List ResetRecord → List ℤ
  | [] => []
  | record :: earlier =>
      if record.evicted = some key then []
      else if record.call.key = key ∧ record.accepted = true then
        acceptedSince key earlier ++ [record.call.now]
      else acceptedSince key earlier

/-- What is kept of a limiter: of every key it remembers the accepted calls of the window that ends
at a time, and it has no more keys than it may. -/
structure Tracks (now : ℤ) (limiter : ResetLimiter) : Prop where
  requests : ∀ key, recent now (limiter.requestsOf key) =
    recent now (acceptedSince key limiter.history)
  size : limiter.passwordResetRequests.size ≤ maximumPublicRateLimitKeys

section Steps

variable {limiter : ResetLimiter} {now later : ℤ} {key : String} {force : Bool} {call : ResetCall}

lemma recent_recent (h : now ≤ later) (requests : List ℤ) :
    recent later (recent now requests) = recent later requests := by
  rw [recent, recent, recent, List.filter_filter]
  refine List.filter_congr fun requestedAt _ => ?_
  rw [← Bool.decide_and]
  exact decide_eq_decide.mpr ⟨And.left, fun hlater => ⟨hlater, by omega⟩⟩

lemma Tracks.mono (h : Tracks now limiter) (hle : now ≤ later) : Tracks later limiter where
  requests key := by
    rw [← recent_recent hle, h.requests key, recent_recent hle]
  size := h.size

lemma history_prune : (limiter.prunePublicRateLimits now force).history = limiter.history := by
  unfold prunePublicRateLimits
  split <;> rfl

lemma recent_requestsOf_prune : recent now ((limiter.prunePublicRateLimits now force).requestsOf
    key) = recent now (limiter.requestsOf key) := by
  unfold prunePublicRateLimits
  split
  · rfl
  · rw [requestsOf, OrderedMap.get_updateAll, requestsOf]
    cases limiter.passwordResetRequests.get key with
    | none => rfl
    | some requests =>
        rw [Option.bind_some, Option.getD_some]
        dsimp only
        split
        · next hnil => exact (List.length_eq_zero_iff.mp hnil).symm
        · exact recent_recent le_rfl requests

lemma get_prune_of_none (h : limiter.passwordResetRequests.get key = none) :
    (limiter.prunePublicRateLimits now force).passwordResetRequests.get key = none := by
  unfold prunePublicRateLimits
  split
  · exact h
  · rw [OrderedMap.get_updateAll, h]
    rfl

lemma size_prune_le : (limiter.prunePublicRateLimits now force).passwordResetRequests.size ≤
    limiter.passwordResetRequests.size := by
  unfold prunePublicRateLimits
  split
  · exact le_rfl
  · exact OrderedMap.size_updateAll_le

/-- A prune forgets nothing that will be counted. -/
lemma Tracks.prune (h : Tracks now limiter) (force : Bool) :
    Tracks now (limiter.prunePublicRateLimits now force) where
  requests key := by rw [recent_requestsOf_prune, history_prune, h.requests key]
  size := size_prune_le.trans h.size

lemma mem_of_foldl_older (entries : List (String × List ℤ)) (candidate : Option String)
    (h : entries.foldl (limiter.older now) candidate = some key) :
    candidate = some key ∨ key ∈ entries.map Prod.fst := by
  induction entries generalizing candidate with
  | nil => exact .inl h
  | cons entry entries ih =>
      rcases ih _ h with hnext | hrest
      · unfold older at hnext
        split at hnext
        · exact .inr (Option.some.inj hnext ▸ List.mem_cons_self)
        · split at hnext
          · exact .inr (Option.some.inj hnext ▸ List.mem_cons_self)
          · exact .inl hnext
      · exact .inr (List.mem_cons_of_mem _ hrest)

/-- The key that is found holds requests. -/
lemma has_of_oldest (h : limiter.oldest now = some key) :
    limiter.passwordResetRequests.has key = true :=
  OrderedMap.mem_keys_iff_has.mp ((mem_of_foldl_older _ none h).resolve_left nofun)

lemma foldl_older_ne_none (entries : List (String × List ℤ)) (candidate : Option String)
    (h : entries ≠ [] ∨ candidate ≠ none) :
    entries.foldl (limiter.older now) candidate ≠ none := by
  induction entries generalizing candidate with
  | nil => exact h.resolve_left fun hne => hne rfl
  | cons entry entries ih =>
      refine ih _ (.inr ?_)
      unfold older
      split
      · nofun
      · split <;> nofun

lemma oldest_ne_none (h : 0 < limiter.passwordResetRequests.size) :
    limiter.oldest now ≠ none :=
  foldl_older_ne_none _ none (.inl (List.ne_nil_of_length_pos h))

/-- What is done to make room for a key: nothing that will be counted is forgotten but of the
evicted key, and there is room. -/
structure MakesRoom (limiter : ResetLimiter) (key : String) (now : ℤ)
    (room : ResetLimiter × Option String) : Prop where
  kept : ∀ other, room.2 ≠ some other →
    recent now (room.1.requestsOf other) = recent now (limiter.requestsOf other)
  evicted : ∀ other, room.2 = some other → other ≠ key ∧ room.1.requestsOf other = []
  size : room.1.passwordResetRequests.size ≤ maximumPublicRateLimitKeys
  room : room.1.passwordResetRequests.has key = true ∨
    room.1.passwordResetRequests.size < maximumPublicRateLimitKeys

lemma makesRoom (hsize : limiter.passwordResetRequests.size ≤ maximumPublicRateLimitKeys)
    (key : String) (now : ℤ) : MakesRoom limiter key now (limiter.makeRoom key now) := by
  have hpruned := (@size_prune_le limiter now true).trans hsize
  unfold makeRoom
  split
  · next hfull =>
      obtain ⟨hnew, -⟩ := Bool.and_eq_true_iff.mp hfull
      have hnone : limiter.passwordResetRequests.get key = none :=
        OrderedMap.has_eq_false.mp ((Bool.not_eq_true' _).mp hnew)
      dsimp only
      split
      · next hstill =>
          cases holdest : (limiter.prunePublicRateLimits now true).oldest now with
          | none =>
              have hpos : 0 < maximumPublicRateLimitKeys := by decide
              exact absurd holdest (oldest_ne_none (hpos.trans_le hstill))
          | some oldest =>
              have hhas := has_of_oldest holdest
              refine ⟨fun other hother => ?_, fun other hother => ?_, ?_, .inr ?_⟩
              · have hne : other ≠ oldest := fun heq => hother (congrArg some heq.symm)
                rw [requestsOf, OrderedMap.get_delete_of_ne _ hne]
                exact recent_requestsOf_prune
              · obtain rfl := Option.some.inj hother
                refine ⟨?_, ?_⟩
                · rintro rfl
                  rw [OrderedMap.has, get_prune_of_none hnone] at hhas
                  cases hhas
                · rw [requestsOf, OrderedMap.get_delete_self]
                  rfl
              · exact OrderedMap.size_delete_le.trans hpruned
              · exact (OrderedMap.size_delete_lt hhas).trans_le hpruned
      · next hless =>
          exact ⟨fun _ _ => recent_requestsOf_prune, fun _ hevicted => (by cases hevicted), hpruned,
            .inr (not_le.mp hless)⟩
  · next hfree =>
      refine ⟨fun _ _ => rfl, fun _ hevicted => (by cases hevicted), hsize, ?_⟩
      by_cases hhas : limiter.passwordResetRequests.has key = true
      · exact .inl hhas
      · refine .inr (not_le.mp fun hle => hfree ?_)
        rw [Bool.not_eq_true] at hhas
        rw [hhas, decide_eq_true hle]
        rfl

/-- A call is answered as the window says. -/
def Exact : List ResetRecord → Prop
  | [] => True
  | record :: earlier =>
      (record.accepted = false ↔ record.call.limit ≤
        (recent record.call.now (acceptedSince record.call.key earlier)).length) ∧ Exact earlier

lemma exact_of_append {later earlier : List ResetRecord} (h : Exact (later ++ earlier)) :
    Exact earlier := by
  induction later with
  | nil => exact h
  | cons record later ih => exact ih h.2

/-- A call records itself, with its answer. -/
lemma history_consume (limiter : ResetLimiter) (call : ResetCall) :
    ∃ evicted, (limiter.consumePublicResetRequest call).1.history =
      ⟨call, (limiter.consumePublicResetRequest call).2, evicted⟩ :: limiter.history := by
  unfold consumePublicResetRequest
  dsimp only
  split
  · exact ⟨none, congrArg _ history_prune⟩
  · exact ⟨_, congrArg _ history_prune⟩

lemma Tracks.consume (h : Tracks call.now limiter) :
    Tracks call.now (limiter.consumePublicResetRequest call).1 := by
  have hpruned := h.prune false
  unfold consumePublicResetRequest
  generalize limiter.prunePublicRateLimits call.now false = pruned at hpruned
  dsimp only
  split
  · refine ⟨fun key => ?_, hpruned.size⟩
    change recent _ (pruned.requestsOf key) =
      recent _ (acceptedSince key (⟨call, false, none⟩ :: pruned.history))
    rw [acceptedSince, if_neg nofun, if_neg fun hand => Bool.false_ne_true hand.2]
    exact hpruned.requests key
  · have hroom := makesRoom hpruned.size call.key call.now
    generalize pruned.makeRoom call.key call.now = room at hroom
    refine ⟨fun key => ?_, ?_⟩
    · change recent _ (((room.1.passwordResetRequests.set call.key _).get key).getD []) =
        recent _ (acceptedSince key (⟨call, true, room.2⟩ :: pruned.history))
      rw [OrderedMap.get_set, acceptedSince]
      by_cases hkey : key = call.key
      · have hevicted : room.2 ≠ some key := fun hevicted =>
          (hroom.evicted key hevicted).1 hkey
        rw [if_pos hkey, if_neg hevicted, if_pos ⟨hkey.symm, rfl⟩, Option.getD_some, ← hkey]
        have hrequests := hpruned.requests key
        have hrecent := @recent_recent call.now call.now le_rfl (pruned.requestsOf key)
        unfold recent at hrequests hrecent ⊢
        rw [List.filter_append, List.filter_append, hrecent, hrequests]
      · rw [if_neg hkey]
        by_cases hevicted : room.2 = some key
        · rw [if_pos hevicted]
          exact congrArg _ (hroom.evicted key hevicted).2
        · rw [if_neg hevicted, if_neg fun hand => hkey hand.1.symm]
          exact (hroom.kept key hevicted).trans (hpruned.requests key)
    · change (room.1.passwordResetRequests.set call.key _).size ≤ _
      rw [OrderedMap.size_set]
      rcases hroom.room with hhas | hlt
      · rw [if_pos hhas]
        exact hroom.size
      · split
        · exact hroom.size
        · exact hlt

/-- The answer to a call. -/
lemma refused_iff (h : Tracks call.now limiter) :
    (limiter.consumePublicResetRequest call).2 = false ↔
      call.limit ≤ (recent call.now (acceptedSince call.key limiter.history)).length := by
  rw [← h.requests call.key, ← @recent_requestsOf_prune limiter call.now call.key false]
  unfold consumePublicResetRequest
  dsimp only
  split
  · next hle => exact iff_of_true rfl hle
  · next hgt => exact iff_of_false nofun hgt

lemma Exact.consume (h : Tracks call.now limiter) (hexact : Exact limiter.history) :
    Exact (limiter.consumePublicResetRequest call).1.history := by
  obtain ⟨evicted, hhistory⟩ := history_consume limiter call
  rw [hhistory]
  exact ⟨refused_iff h, hexact⟩

end Steps

/-! ### The runs -/

section Runs

variable {limiter : ResetLimiter} {calls : List ResetCall}

lemma tracks_start (now : ℤ) : Tracks now .start := ⟨fun _ => rfl, Nat.zero_le _⟩

/-- The calls of a run at times that do not go back. -/
lemma run_of_tracks {now : ℤ} (h : Tracks now limiter) (hexact : Exact limiter.history)
    (hfrom : ∀ call ∈ calls, now ≤ call.now)
    (hsorted : calls.Pairwise fun call later => call.now ≤ later.now) :
    resetLimiter.Always (fun limiter =>
        limiter.passwordResetRequests.size ≤ maximumPublicRateLimitKeys) limiter calls ∧
      Exact (resetLimiter.outcome limiter calls).history := by
  induction calls generalizing limiter now with
  | nil => exact ⟨h.size, hexact⟩
  | cons call calls ih =>
      obtain ⟨hafter, hsorted⟩ := List.pairwise_cons.mp hsorted
      have hnow := h.mono (hfrom call List.mem_cons_self)
      obtain ⟨hsizes, hcalls⟩ := ih hnow.consume (hexact.consume hnow) hafter hsorted
      exact ⟨⟨h.size, hsizes⟩, hcalls⟩

lemma calls_outcome : (resetLimiter.outcome limiter calls).history.map (·.call) =
    calls.reverse ++ limiter.history.map (·.call) := by
  induction calls generalizing limiter with
  | nil => rfl
  | cons call calls ih =>
      obtain ⟨evicted, hhistory⟩ := history_consume limiter call
      change ((resetLimiter.outcome (limiter.consumePublicResetRequest call).1 calls).history.map
        _) = _
      rw [ih, hhistory, List.reverse_cons, List.append_assoc]
      rfl

/-- The times of the accepted calls of a key. -/
def acceptedTimes (key : String) (records : List ResetRecord) : List ℤ :=
  (records.filter fun record => record.call.key = key && record.accepted).map (·.call.now)

/-- The times of a window that ends at `x`. -/
def inWindow (x : ℤ) (times : List ℤ) : List ℤ :=
  times.filter fun time => x - passwordResetWindowMs < time && time ≤ x

/-- Calls after which the key was not evicted are among those since its last eviction. -/
lemma length_acceptedTimes_le {key : String} {segment earlier : List ResetRecord} {x now : ℤ}
    (hkept : ∀ record ∈ segment, record.evicted ≠ some key) (hnow : now ≤ x) :
    (inWindow x (acceptedTimes key segment)).length ≤
      (recent now (acceptedSince key (segment ++ earlier))).length := by
  induction segment with
  | nil => exact Nat.zero_le _
  | cons record segment ih =>
      have hle := ih fun other hother => hkept other (List.mem_cons_of_mem _ hother)
      rw [List.cons_append, acceptedSince, if_neg (hkept record List.mem_cons_self), acceptedTimes,
        List.filter_cons]
      by_cases haccepted : record.call.key = key ∧ record.accepted = true
      · rw [if_pos (by simpa using haccepted), if_pos haccepted, List.map_cons, inWindow,
          List.filter_cons, recent, List.filter_append, List.length_append]
        split
        · next hwindow =>
            obtain ⟨hafter, -⟩ := Bool.and_eq_true_iff.mp hwindow
            have hafter := of_decide_eq_true hafter
            have hrecent : List.filter (fun requestedAt =>
                decide (requestedAt > now - passwordResetWindowMs)) [record.call.now] =
                  [record.call.now] :=
              List.filter_cons_of_pos (decide_eq_true (by omega))
            rw [hrecent]
            exact Nat.succ_le_succ hle
        · exact hle.trans (Nat.le_add_right _ _)
      · rw [if_neg (by simpa using haccepted), if_neg haccepted]
        exact hle

/-- No window without an eviction of a key has more accepted calls of the key than its limit. -/
lemma length_inWindow_le {limit : ℕ} {key : String} {x : ℤ} {segment earlier : List ResetRecord}
    (hexact : Exact (segment ++ earlier))
    (hlimit : ∀ record ∈ segment, record.call.key = key → record.call.limit = limit)
    (hkept : ∀ record ∈ segment, record.evicted ≠ some key) :
    (inWindow x (acceptedTimes key segment)).length ≤ limit := by
  induction segment with
  | nil => exact Nat.zero_le _
  | cons record segment ih =>
      have hle := ih hexact.2 (fun other hother => hlimit other (List.mem_cons_of_mem _ hother))
        fun other hother => hkept other (List.mem_cons_of_mem _ hother)
      rw [acceptedTimes, List.filter_cons]
      split
      · next haccepted =>
          obtain ⟨hkey, haccepted⟩ := Bool.and_eq_true_iff.mp haccepted
          have hkey : record.call.key = key := of_decide_eq_true hkey
          rw [List.map_cons, inWindow, List.filter_cons]
          split
          · next hwindow =>
              -- The call was accepted, so fewer calls than the limit were counted before it.
              have hlast : record.call.now ≤ x :=
                of_decide_eq_true (Bool.and_eq_true_iff.mp hwindow).2
              have hcounted := not_le.mp (mt hexact.1.mpr (by rw [haccepted]; nofun))
              rw [hlimit record List.mem_cons_self hkey, hkey] at hcounted
              have hbefore := @length_acceptedTimes_le key segment earlier x record.call.now
                (fun other hother => hkept other (List.mem_cons_of_mem _ hother)) hlast
              exact Nat.succ_le_of_lt (hbefore.trans_lt hcounted)
          · exact hle
      · exact hle

/-- What the limiter is: the records are those of the calls, it never has more keys than it may,
its answers are exact, and a window without an eviction of a key keeps to the limit of the key. -/
structure SlidingWindow (limits : String → ℕ) (calls : List ResetCall) : Prop where
  records : (resetLimiter.outcome .start calls).history.map (·.call) = calls.reverse
  bounded : resetLimiter.Always (fun limiter =>
    limiter.passwordResetRequests.size ≤ maximumPublicRateLimitKeys) .start calls
  exact : Exact (resetLimiter.outcome .start calls).history
  limited : ∀ key x segment, segment <:+: (resetLimiter.outcome .start calls).history →
    (∀ record ∈ segment, record.evicted ≠ some key) →
    (inWindow x (acceptedTimes key segment)).length ≤ limits key

/-- **The limiter is an exact sliding window**, at times that do not go back and with one limit per
key. -/
theorem reset_limiter_is_sliding_window {limits : String → ℕ}
    (hsorted : calls.Pairwise fun call later => call.now ≤ later.now)
    (hlimits : ∀ call ∈ calls, call.limit = limits call.key) : SlidingWindow limits calls := by
  obtain ⟨now, hfrom⟩ : ∃ now, ∀ call ∈ calls, now ≤ call.now := by
    cases calls with
    | nil => exact ⟨0, nofun⟩
    | cons call calls =>
        refine ⟨call.now, fun other hother => ?_⟩
        rcases List.mem_cons.mp hother with rfl | hafter
        · exact le_rfl
        · exact (List.pairwise_cons.mp hsorted).1 other hafter
  obtain ⟨hsizes, hexact⟩ := run_of_tracks (tracks_start now) trivial hfrom hsorted
  have hrecords : (resetLimiter.outcome .start calls).history.map (·.call) = calls.reverse :=
    calls_outcome.trans (List.append_nil _)
  refine ⟨hrecords, hsizes, hexact, fun key x segment hsegment hkept => ?_⟩
  obtain ⟨later, earlier, heq⟩ := hsegment
  have hlimit : ∀ record ∈ segment, record.call.key = key → record.call.limit = limits key := by
    rintro record hrecord rfl
    refine hlimits record.call (List.mem_reverse.mp (hrecords ▸ List.mem_map.mpr ⟨record, ?_, rfl⟩))
    rw [← heq]
    exact List.mem_append_left _ (List.mem_append_right _ hrecord)
  rw [← heq, List.append_assoc] at hexact
  exact length_inWindow_le (exact_of_append hexact) hlimit hkept

/-- A second request a minute later, with a limit of one. -/
theorem reset_limiter_is_sliding_window_two :
    SlidingWindow (fun _ => 1) [⟨some "10.0.0.1, 192.0.2.7", "forgot", none, 1, 1000⟩,
      ⟨some "192.0.2.7", "forgot", none, 1, 61000⟩] :=
  reset_limiter_is_sliding_window (by decide) (by decide)

end Runs

end Opzava.IdentityAccess
