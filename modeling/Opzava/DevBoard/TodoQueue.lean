import Opzava.DevBoard.Runs
import Opzava.Library.RankedList

/-!
The Todo queue of a workspace as a list.

`listTodoQueueRanks` filters the memberships by the text their keys start with and
sorts them by rank. `Listed` says which list that is without the text and the
sort: the ranks ascend along it, and its elements are the memberships stored under
the keys of the workspace.

* `listTodoQueueRanks_eq`: the store lists the `Listed` list.
* `listed_congr`, `listed_dropMembership`, `listed_putMembership`: the list after
  the writes of the queue.
* `rebalanced_get`: the ranks a rebalance of the band writes.
-/

namespace Opzava.DevBoard

open Opzava.Library

variable {t t' : Tables} {o w : ScopeId}

/-! ### Memberships of a workspace -/

/-- A key starts with the text of a workspace iff it is a key of that workspace. -/
lemma startsWith_key_iff (o w o' w' : ScopeId) (id : String) :
    jsStartsWith (key o' w' id) (o.text ++ ":" ++ w.text ++ ":") = true ↔ o' = o ∧ w' = w := by
  rw [jsStartsWith, List.isPrefixOf_iff_prefix]
  simp only [key, String.toList_append, List.append_assoc]
  constructor
  · rintro ⟨rest, hrest⟩
    simp only [List.append_assoc] at hrest
    obtain ⟨ho, hw⟩ := append_colon_inj o.noColon o'.noColon hrest
    obtain ⟨hw, -⟩ := append_colon_inj w.noColon w'.noColon hw
    exact ⟨ScopeId.ext (String.toList_inj.mp ho.symm), ScopeId.ext (String.toList_inj.mp hw.symm)⟩
  · rintro ⟨rfl, rfl⟩
    exact ⟨id.toList, by simp⟩

lemma Keyed.membership_id (hk : Keyed t) {id : String} {row : TodoQueueMembershipRow}
    (h : t.todoQueueMemberships.get (key o w id) = some row) : row.devTicketId = id := by
  obtain ⟨o', w', hkey⟩ := hk.memberships h
  exact (key_injective hkey).2.2.symm

lemma mem_todoQueueRows (hk : Keyed t) {row : TodoQueueMembershipRow} :
    row ∈ t.todoQueueRows o w ↔
      t.todoQueueMemberships.get (key o w row.devTicketId) = some row := by
  simp only [Tables.todoQueueRows, List.mem_map, List.mem_filter, Prod.exists,
    exists_eq_right, OrderedMap.mem_entries_iff]
  constructor
  · rintro ⟨k, hget, hstart⟩
    obtain ⟨o', w', rfl⟩ := hk.memberships hget
    obtain ⟨rfl, rfl⟩ := (startsWith_key_iff o w o' w' _).mp hstart
    exact hget
  · intro hget
    exact ⟨_, hget, (startsWith_key_iff o w o w _).mpr ⟨rfl, rfl⟩⟩

/-- A ticket is in the listing of a workspace iff it has a membership there. -/
lemma mem_todoQueueRows_ids (hk : Keyed t) {id : String} :
    id ∈ (t.todoQueueRows o w).map (·.devTicketId) ↔
      t.todoQueueMemberships.get (key o w id) ≠ none := by
  rw [List.mem_map]
  constructor
  · rintro ⟨row, hrow, rfl⟩
    rw [(mem_todoQueueRows hk).mp hrow]
    exact Option.some_ne_none row
  · intro hne
    obtain ⟨row, hget⟩ := Option.ne_none_iff_exists'.mp hne
    obtain rfl := hk.membership_id hget
    exact ⟨row, (mem_todoQueueRows hk).mpr hget, rfl⟩

/-- No ticket has two memberships in the listing of a workspace. -/
lemma nodup_todoQueueRows_ids (hk : Keyed t) :
    ((t.todoQueueRows o w).map (·.devTicketId)).Nodup := by
  have hkeys : ((t.todoQueueRows o w).map fun row => key o w row.devTicketId).Nodup := by
    have hnodup := t.todoQueueMemberships.nodupKeys.sublist
      ((List.filter_sublist (p := fun entry => jsStartsWith entry.1
        (o.text ++ ":" ++ w.text ++ ":"))).map Prod.fst)
    convert hnodup using 1
    rw [Tables.todoQueueRows, List.map_map]
    refine List.map_congr_left fun entry hentry => ?_
    obtain ⟨hentry, hstart⟩ := List.mem_filter.mp hentry
    obtain ⟨o', w', hkey⟩ := hk.memberships (OrderedMap.mem_entries_iff.mp hentry)
    rw [hkey] at hstart
    obtain ⟨rfl, rfl⟩ := (startsWith_key_iff o w o' w' _).mp hstart
    exact hkey.symm
  rw [← Function.comp_def, ← List.map_map] at hkeys
  exact hkeys.of_map _

/-! ### The listed queue -/

/-- The memberships of a workspace in the order of their ranks. -/
structure Listed (t : Tables) (o w : ScopeId) (l : List TodoQueueMembershipRow) : Prop where
  ranked : Ranked (·.rank) l
  mem : ∀ row, row ∈ l ↔ t.todoQueueMemberships.get (key o w row.devTicketId) = some row

/-- The ids of the Todo queue of a workspace, in order. -/
def todoOrder [Platform] (t : Tables) (o w : ScopeId) : List String :=
  (t.listTodoQueueRanks o w).map (·.devTicketId)

/-- **The listing**: the store lists the memberships in the order of their ranks,
whatever the collation does on ties. -/
theorem listTodoQueueRanks_eq [Platform] (hk : Keyed t) {l : List TodoQueueMembershipRow}
    (h : Listed t o w l) : t.listTodoQueueRanks o w = l := by
  refine insertionSort_eq_of_ranked h.ranked (nodup_todoQueueRows_ids hk).of_map
    (fun row => (mem_todoQueueRows hk).trans (h.mem row).symm) fun a b hne => ?_
  rw [Tables.rankLe, if_neg hne, decide_eq_true_eq]

/-- The list depends on the memberships of the workspace only. -/
lemma listed_congr {l : List TodoQueueMembershipRow} (h : Listed t o w l)
    (hget : ∀ id, t'.todoQueueMemberships.get (key o w id) =
      t.todoQueueMemberships.get (key o w id)) : Listed t' o w l :=
  ⟨h.ranked, fun row => by rw [hget, h.mem]⟩

lemma listed_empty (o w : ScopeId) : Listed Tables.empty o w [] :=
  ⟨List.Pairwise.nil, fun row => by simp [Tables.empty]⟩

/-- The ids of a listed queue do not repeat. -/
lemma Listed.nodup_ids {l : List TodoQueueMembershipRow} (h : Listed t o w l) :
    (l.map (·.devTicketId)).Nodup := by
  refine (List.nodup_map_iff_inj_on h.ranked.nodup).mpr fun a ha b hb hid => ?_
  have hgetA := (h.mem a).mp ha
  rw [hid, (h.mem b).mp hb] at hgetA
  exact (Option.some.inj hgetA).symm

lemma Listed.mem_ids {l : List TodoQueueMembershipRow} (h : Listed t o w l) (hk : Keyed t)
    {id : String} :
    id ∈ l.map (·.devTicketId) ↔ t.todoQueueMemberships.get (key o w id) ≠ none := by
  rw [← mem_todoQueueRows_ids hk, List.mem_map, List.mem_map]
  exact exists_congr fun row => and_congr_left' ((h.mem row).trans (mem_todoQueueRows hk).symm)

/-- The members other than one ticket. -/
def without (id : String) (l : List TodoQueueMembershipRow) : List TodoQueueMembershipRow :=
  l.filter fun row => decide (row.devTicketId ≠ id)

lemma map_without (id : String) {l : List TodoQueueMembershipRow}
    (h : (l.map (·.devTicketId)).Nodup) :
    (without id l).map (·.devTicketId) = (l.map (·.devTicketId)).erase id := by
  rw [List.Nodup.erase_eq_filter h, without, List.filter_map]
  refine congrArg _ (List.filter_congr fun row _ => ?_)
  by_cases hid : row.devTicketId = id <;> simp [hid]

/-! ### Writes of the queue -/

/-- The queue after a ticket has left it. -/
lemma listed_dropMembership {l : List TodoQueueMembershipRow} (h : Listed t o w l) (id : String)
    (hget : ∀ id', t'.todoQueueMemberships.get (key o w id') =
      if id' = id then none else t.todoQueueMemberships.get (key o w id')) :
    Listed t' o w (without id l) := by
  refine ⟨h.ranked.filter _, fun row => ?_⟩
  rw [without, List.mem_filter, h.mem, hget]
  by_cases hid : row.devTicketId = id
  · simp [hid]
  · simp [hid]

/-- The queue after a ticket has been written at a rank between two of the other
members. -/
lemma listed_putMembership {l : List TodoQueueMembershipRow} (h : Listed t o w l) (id : String)
    (rank : ℤ) (index : ℕ) (hindex : index ≤ (without id l).length)
    (hlower : ∀ row, 0 < index → (without id l)[index - 1]? = some row → row.rank < rank)
    (hupper : ∀ row, (without id l)[index]? = some row → rank < row.rank)
    (hget : ∀ id', t'.todoQueueMemberships.get (key o w id') =
      if id' = id then some ⟨id, rank⟩ else t.todoQueueMemberships.get (key o w id')) :
    Listed t' o w ((without id l).take index ++ ⟨id, rank⟩ :: (without id l).drop index) := by
  refine ⟨(h.ranked.filter _).splice index hlower hupper hindex, fun row => ?_⟩
  have hsplit : row ∈ (without id l).take index ++ ⟨id, rank⟩ :: (without id l).drop index ↔
      row = ⟨id, rank⟩ ∨ row ∈ without id l := by
    conv_rhs => rw [← List.take_append_drop index (without id l)]
    simp only [List.mem_append, List.mem_cons]
    tauto
  rw [hsplit, hget, without, List.mem_filter, h.mem]
  by_cases hid : row.devTicketId = id
  · simp only [hid, ne_eq, not_true_eq_false, decide_false, Bool.false_eq_true, and_false, or_false,
      if_true, Option.some.injEq]
    exact eq_comm
  · have hne : row ≠ ⟨id, rank⟩ := fun heq => hid (congrArg (·.devTicketId) heq)
    simp [hid, hne]

/-! ### Rebalancing the band -/

/-- The memberships a rebalance writes, from an index on. -/
def renumberFrom : ℕ → List String → List TodoQueueMembershipRow
  | _, [] => []
  | index, id :: rest => ⟨id, (index + 2) * 1000000⟩ :: renumberFrom (index + 1) rest

lemma map_renumberFrom : ∀ (index : ℕ) (ids : List String),
    (renumberFrom index ids).map (·.devTicketId) = ids
  | _, [] => rfl
  | index, id :: rest => by rw [renumberFrom, List.map_cons, map_renumberFrom]

lemma rank_mem_renumberFrom : ∀ {index : ℕ} {ids : List String} {row : TodoQueueMembershipRow},
    row ∈ renumberFrom index ids →
      (index + 2) * 1000000 ≤ row.rank ∧ row.rank < (index + ids.length + 2) * 1000000
  | _, [], _, h => by cases h
  | index, id :: rest, row, h => by
      rw [renumberFrom] at h
      rcases List.mem_cons.mp h with rfl | h
      · simp only [List.length_cons]
        omega
      · have hrest := rank_mem_renumberFrom h
        simp only [List.length_cons]
        omega

lemma ranked_renumberFrom : ∀ (index : ℕ) (ids : List String),
    Ranked (·.rank) (renumberFrom index ids)
  | _, [] => List.Pairwise.nil
  | index, id :: rest => by
      refine List.pairwise_cons.mpr ⟨fun row hrow => ?_, ranked_renumberFrom (index + 1) rest⟩
      have hrank := (rank_mem_renumberFrom hrow).1
      show ((index : ℤ) + 2) * 1000000 < row.rank
      omega

/-- A rebalance writes the new ranks of the band and nothing else. -/
lemma rebalanceFrom_get (o w : ScopeId) : ∀ (index : ℕ) (ids : List String) (t : Tables),
    ids.Nodup → (∀ id ∈ ids, t.todoQueueMemberships.get (key o w id) ≠ none) →
      (∀ row ∈ renumberFrom index ids,
        (Tables.rebalanceFrom o w index ids t).todoQueueMemberships.get
          (key o w row.devTicketId) = some row) ∧
      ∀ k, (∀ id ∈ ids, k ≠ key o w id) →
        (Tables.rebalanceFrom o w index ids t).todoQueueMemberships.get k =
          t.todoQueueMemberships.get k
  | _, [], _, _, _ => ⟨fun _ h => (List.not_mem_nil h).elim, fun _ _ => rfl⟩
  | index, id :: rest, t, hnd, hmember => by
      obtain ⟨hnotin, hnd⟩ := List.nodup_cons.mp hnd
      obtain ⟨row, hrow⟩ := Option.ne_none_iff_exists'.mp (hmember id List.mem_cons_self)
      have hhead : ∀ k, (t.updateTodoQueueMembershipRank o w id
          ((index + 2) * 1000000)).2.todoQueueMemberships.get k =
            if k = key o w id then some ⟨id, (index + 2) * 1000000⟩
            else t.todoQueueMemberships.get k := by
        intro k
        rw [Tables.updateTodoQueueMembershipRank,
          if_pos (OrderedMap.has_eq_true.mpr ⟨row, hrow⟩)]
        exact OrderedMap.get_set _ _ _ _
      obtain ⟨hwritten, hkept⟩ := rebalanceFrom_get o w (index + 1) rest
        (t.updateTodoQueueMembershipRank o w id ((index + 2) * 1000000)).2 hnd fun id' hid' => by
          rw [hhead]
          split_ifs
          · exact Option.some_ne_none _
          · exact hmember id' (List.mem_cons_of_mem _ hid')
      rw [Tables.rebalanceFrom]
      refine ⟨fun row' hrow' => ?_, fun k hk => ?_⟩
      · rw [renumberFrom] at hrow'
        rcases List.mem_cons.mp hrow' with rfl | hrow'
        · have hother : ∀ id' ∈ rest, key o w id ≠ key o w id' := fun id' hid' heq =>
            hnotin ((key_injective heq).2.2 ▸ hid')
          rw [hkept _ hother, hhead, if_pos rfl]
        · exact hwritten row' hrow'
      · rw [hkept k fun id' hid' => hk id' (List.mem_cons_of_mem _ hid'), hhead,
          if_neg (hk id List.mem_cons_self)]

/-- The queue after a rebalance of all its members in a new order. -/
lemma listed_rebalanceTodoBand {ids : List String} (hnd : ids.Nodup)
    (hmember : ∀ id, id ∈ ids ↔ t.todoQueueMemberships.get (key o w id) ≠ none) :
    Listed (t.rebalanceTodoBand o w ids) o w (renumberFrom 0 ids) := by
  obtain ⟨hwritten, hkept⟩ := rebalanceFrom_get o w 0 ids t hnd fun id hid => (hmember id).mp hid
  refine ⟨ranked_renumberFrom 0 ids, fun row => ⟨hwritten row, fun hget => ?_⟩⟩
  have hid : row.devTicketId ∈ ids := by
    by_contra hnotin
    have hold := hkept (key o w row.devTicketId) fun id hid heq =>
      hnotin ((key_injective heq).2.2 ▸ hid)
    rw [Tables.rebalanceTodoBand, hold] at hget
    exact hnotin ((hmember _).mpr (by rw [hget]; exact Option.some_ne_none row))
  rw [← map_renumberFrom 0 ids, List.mem_map] at hid
  obtain ⟨row', hrow', hid'⟩ := hid
  have hget' := hwritten row' hrow'
  rw [hid', ← Tables.rebalanceTodoBand, hget] at hget'
  cases hget'
  exact hrow'

end Opzava.DevBoard
