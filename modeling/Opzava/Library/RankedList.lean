import Mathlib

/-!
Lists that are kept by rank.

An order can be stored as one number per element and read back by sorting. What
is read back is the list itself as long as the numbers ascend strictly along it,
whatever the comparator does on ties.

* `Ranked`: the ranks ascend strictly along the list.
* `insertionSort_eq_of_ranked`: sorting any listing of the elements gives the
  ranked list back.
* `Ranked.splice`: an element with a rank between its two neighbours can be put
  between them.
* `insertBefore`, `insertAfter`: insertion next to an element, and the splice at
  the index of that element.
-/

namespace Opzava.Library

variable {α : Type*}

/-! ### Ranked lists -/

/-- The ranks ascend strictly along the list. -/
def Ranked (rank : α → ℤ) (l : List α) : Prop := l.Pairwise fun a b => rank a < rank b

namespace Ranked

variable {rank : α → ℤ} {l l' : List α}

lemma nodup (h : Ranked rank l) : l.Nodup := List.Pairwise.imp (fun hlt heq => by simp [heq] at hlt) h

/-- Elements of a ranked list with the same rank are the same. -/
lemma eq_of_rank_eq (h : Ranked rank l) {a b : α} (ha : a ∈ l) (hb : b ∈ l)
    (hrank : rank a = rank b) : a = b := by
  by_contra hne
  have hcases := List.Pairwise.forall_of_forall_of_flip (R := fun a b => a ≠ b → rank a ≠ rank b)
    (fun _ _ hne => absurd rfl hne) (h.imp fun hlt _ => hlt.ne) (h.imp fun hlt _ => hlt.ne') ha hb
  exact hcases hne hrank

lemma filter (h : Ranked rank l) (p : α → Bool) : Ranked rank (l.filter p) := List.Pairwise.filter p h

/-- The last element of a ranked list has the greatest rank. -/
lemma le_getLast (h : Ranked rank l) {a last : α} (hlast : l.getLast? = some last) (ha : a ∈ l) :
    rank a ≤ rank last := by
  obtain ⟨front, rfl⟩ := List.getLast?_eq_some_iff.mp hlast
  rcases List.mem_append.mp ha with ha | ha
  · exact ((List.pairwise_append.mp h).2.2 a ha last (List.mem_singleton_self last)).le
  · rw [List.mem_singleton.mp ha]

/-- A ranked list is determined by its elements. -/
lemma eq_of_mem_iff (h : Ranked rank l) (h' : Ranked rank l') (hmem : ∀ a, a ∈ l ↔ a ∈ l') :
    l = l' :=
  haveI : Std.Irrefl fun a b : α => rank a < rank b := ⟨fun _ => lt_irrefl _⟩
  haveI : Std.Antisymm fun a b : α => rank a < rank b :=
    ⟨fun _ _ hab hba => absurd hba (not_lt_of_gt hab)⟩
  List.Pairwise.eq_of_mem_iff h h' hmem

end Ranked

/-- Insertion into a ranked list by a comparator that follows the ranks. -/
lemma ranked_orderedInsert {rank : α → ℤ} {le : α → α → Prop} [DecidableRel le] {a : α} :
    ∀ {l : List α}, Ranked rank l → (∀ b ∈ l, rank a ≠ rank b ∧ (le a b ↔ rank a < rank b)) →
      Ranked rank (l.orderedInsert le a)
  | [], _, _ => List.pairwise_singleton _ _
  | b :: l, h, ha => by
      obtain ⟨hb, hl⟩ := List.pairwise_cons.mp h
      obtain ⟨hne, hle⟩ := ha b List.mem_cons_self
      by_cases hab : le a b
      · rw [List.orderedInsert_cons_of_le _ _ hab]
        refine List.pairwise_cons.mpr ⟨fun x hx => ?_, h⟩
        rcases List.mem_cons.mp hx with rfl | hx
        · exact hle.mp hab
        · exact (hle.mp hab).trans (hb x hx)
      · rw [List.orderedInsert_of_not_le _ _ hab]
        have hba : rank b < rank a := lt_of_le_of_ne (not_lt.mp fun hlt => hab (hle.mpr hlt)) hne.symm
        refine List.pairwise_cons.mpr ⟨fun x hx => ?_,
          ranked_orderedInsert hl fun x hx => ha x (List.mem_cons_of_mem _ hx)⟩
        rcases (List.mem_orderedInsert le).mp hx with rfl | hx
        · exact hba
        · exact hb x hx

/-- Sorting a listing without repetition of elements of distinct ranks. -/
lemma ranked_insertionSort {rank : α → ℤ} {le : α → α → Prop} [DecidableRel le] :
    ∀ {l : List α}, l.Nodup →
      (∀ a ∈ l, ∀ b ∈ l, a ≠ b → rank a ≠ rank b ∧ (le a b ↔ rank a < rank b)) →
      Ranked rank (l.insertionSort le)
  | [], _, _ => List.Pairwise.nil
  | a :: l, hnd, h => by
      obtain ⟨hnotin, hnd⟩ := List.nodup_cons.mp hnd
      refine ranked_orderedInsert (ranked_insertionSort hnd fun x hx y hy =>
        h x (List.mem_cons_of_mem _ hx) y (List.mem_cons_of_mem _ hy)) fun b hb => ?_
      have hb := (List.mem_insertionSort le).mp hb
      exact h a List.mem_cons_self b (List.mem_cons_of_mem _ hb) fun heq => hnotin (heq ▸ hb)

/-- **Reading a ranked list back**: sorting any listing of its elements gives it
back, by any comparator that orders elements of different ranks by their ranks. -/
theorem insertionSort_eq_of_ranked {rank : α → ℤ} {le : α → α → Prop} [DecidableRel le]
    {listing l : List α} (hl : Ranked rank l) (hnd : listing.Nodup)
    (hmem : ∀ a, a ∈ listing ↔ a ∈ l)
    (hle : ∀ a b, rank a ≠ rank b → (le a b ↔ rank a < rank b)) :
    listing.insertionSort le = l := by
  refine Ranked.eq_of_mem_iff (ranked_insertionSort hnd fun a ha b hb hne => ?_) hl
    fun a => (List.mem_insertionSort le).trans (hmem a)
  have hrank : rank a ≠ rank b := fun heq =>
    hne (hl.eq_of_rank_eq ((hmem a).mp ha) ((hmem b).mp hb) heq)
  exact ⟨hrank, hle a b hrank⟩

/-! ### Splicing -/

/-- An element whose rank lies between its neighbours at an index keeps the list
ranked. -/
lemma Ranked.splice {rank : α → ℤ} {l : List α} (h : Ranked rank l) (index : ℕ) {x : α}
    (hlower : ∀ a, 0 < index → l[index - 1]? = some a → rank a < rank x)
    (hupper : ∀ a, l[index]? = some a → rank x < rank a) (hindex : index ≤ l.length) :
    Ranked rank (l.take index ++ x :: l.drop index) := by
  induction l generalizing index with
  | nil => simp [Ranked]
  | cons b l ih =>
      obtain ⟨hb, hl⟩ := List.pairwise_cons.mp h
      cases index with
      | zero =>
          have hxb := hupper b rfl
          refine List.pairwise_cons.mpr ⟨fun a ha => ?_, h⟩
          rcases List.mem_cons.mp ha with rfl | ha
          · exact hxb
          · exact hxb.trans (hb a ha)
      | succ index =>
          rw [List.length_cons, Nat.add_le_add_iff_right] at hindex
          have hrest := ih hl index (fun a hpos ha => hlower a (Nat.succ_pos _) (by
              obtain ⟨k, rfl⟩ := Nat.exists_eq_succ_of_ne_zero hpos.ne'
              simpa using ha)) (fun a ha => hupper a (by simpa using ha)) hindex
          have hbx : rank b < rank x := by
            cases index with
            | zero => exact hlower b (Nat.succ_pos _) rfl
            | succ k =>
                have hk : k < l.length := hindex
                have hlow := hlower l[k] (Nat.succ_pos _) (by simp [hk])
                exact (hb _ (List.getElem_mem hk)).trans hlow
          refine List.pairwise_cons.mpr ⟨fun a ha => ?_, hrest⟩
          rcases List.mem_append.mp ha with ha | ha
          · exact hb a (List.mem_of_mem_take ha)
          · rcases List.mem_cons.mp ha with rfl | ha
            · exact hbx
            · exact hb a (List.mem_of_mem_drop ha)

variable [DecidableEq α]

/-- The list with an element put right before the first occurrence of another. -/
def insertBefore (neighbor x : α) : List α → List α
  | [] => []
  | a :: l => if a = neighbor then x :: a :: l else a :: insertBefore neighbor x l

/-- The list with an element put right after the first occurrence of another. -/
def insertAfter (neighbor x : α) : List α → List α
  | [] => []
  | a :: l => if a = neighbor then a :: x :: l else a :: insertAfter neighbor x l

/-- Splicing at the index of the neighbour, or at the next one. -/
lemma splice_at_neighbor (neighbor x : α) : ∀ (l : List α) (index : ℕ),
    l.findIdx? (fun a => decide (a = neighbor)) = some index →
      l.take index ++ x :: l.drop index = insertBefore neighbor x l ∧
      l.take (index + 1) ++ x :: l.drop (index + 1) = insertAfter neighbor x l ∧
      index < l.length
  | [], _, h => by simp at h
  | a :: l, index, h => by
      rw [List.findIdx?_cons] at h
      by_cases ha : a = neighbor
      · rw [if_pos (by simpa using ha)] at h
        cases h
        simp [insertBefore, insertAfter, ha]
      · rw [if_neg (by simpa using ha), Option.map_eq_some_iff] at h
        obtain ⟨k, hk, rfl⟩ := h
        obtain ⟨hbefore, hafter, hlt⟩ := splice_at_neighbor neighbor x l k hk
        refine ⟨?_, ?_, by simpa using hlt⟩
        · rw [insertBefore, if_neg ha, ← hbefore]
          rfl
        · rw [insertAfter, if_neg ha, ← hafter]
          rfl

end Opzava.Library
