import Mathlib

/-!
The objects of a program, by the numbers they were made with.

* `Objects.add`: a new object, with the next number.
* `Objects.modify`, `Objects.modifyAll`: a change of one object, and of all.
* `Objects.count`: how many objects have a property.
-/

namespace Opzava.Library

/-- The objects that were made so far; a number that was not given out has no object. -/
structure Objects (α : Type*) where
  get : ℕ → Option α
  next : ℕ
  fresh : ∀ n, next ≤ n → get n = none

namespace Objects

variable {α : Type*} {objects : Objects α} {n m : ℕ} {x y : α} {f : α → α}

def empty : Objects α := ⟨fun _ => none, 0, fun _ _ => rfl⟩

@[simp] lemma get_empty : (empty : Objects α).get n = none := rfl

/-- A new object. -/
def add (objects : Objects α) (x : α) : Objects α where
  get n := if n = objects.next then some x else objects.get n
  next := objects.next + 1
  fresh n hn := by rw [if_neg (by omega), objects.fresh n (by omega)]

/-- A change of one object. -/
def modify (objects : Objects α) (m : ℕ) (f : α → α) : Objects α where
  get n := if n = m then (objects.get n).map f else objects.get n
  next := objects.next
  fresh n hn := by rw [objects.fresh n hn, Option.map_none, ite_self]

/-- A change of all the objects. -/
def modifyAll (objects : Objects α) (f : ℕ → α → α) : Objects α where
  get n := (objects.get n).map (f n)
  next := objects.next
  fresh n hn := by rw [objects.fresh n hn, Option.map_none]

@[simp] lemma next_add : (objects.add x).next = objects.next + 1 := rfl

@[simp] lemma next_modify : (objects.modify m f).next = objects.next := rfl

@[simp] lemma get_add_next : (objects.add x).get objects.next = some x := if_pos rfl

lemma get_add_of_ne (h : n ≠ objects.next) : (objects.add x).get n = objects.get n := if_neg h

lemma lt_next (h : objects.get n = some x) : n < objects.next := by
  by_contra hn
  rw [objects.fresh n (not_lt.mp hn)] at h
  exact absurd h (by simp)

lemma get_add_of_some (h : objects.get n = some x) : (objects.add y).get n = some x :=
  (get_add_of_ne (lt_next h).ne).trans h

lemma get_add_eq_some (h : (objects.add x).get n = some y) :
    (n = objects.next ∧ y = x) ∨ objects.get n = some y := by
  by_cases hn : n = objects.next
  · subst hn
    rw [get_add_next, Option.some.injEq] at h
    exact .inl ⟨rfl, h.symm⟩
  · rw [get_add_of_ne hn] at h
    exact .inr h

@[simp] lemma get_modify_self : (objects.modify n f).get n = (objects.get n).map f := if_pos rfl

lemma get_modify_of_ne (h : n ≠ m) : (objects.modify m f).get n = objects.get n := if_neg h

lemma get_modify_of_some (h : objects.get n = some x) :
    (objects.modify n f).get n = some (f x) := by
  rw [get_modify_self, h, Option.map_some]

/-- A change of one object removes none. -/
lemma exists_get_modify (h : objects.get n = some x) :
    ∃ y, (objects.modify m f).get n = some y := by
  by_cases hn : n = m
  · subst hn
    exact ⟨f x, get_modify_of_some h⟩
  · exact ⟨x, (get_modify_of_ne hn).trans h⟩

lemma get_modify_eq_some (h : (objects.modify m f).get n = some y) :
    ∃ x, objects.get n = some x ∧ y = if n = m then f x else x := by
  by_cases hn : n = m
  · subst hn
    rw [get_modify_self] at h
    obtain ⟨x, hx, rfl⟩ := Option.map_eq_some_iff.mp h
    exact ⟨x, hx, (if_pos rfl).symm⟩
  · rw [get_modify_of_ne hn] at h
    exact ⟨y, h, (if_neg hn).symm⟩

/-- A change of one object that keeps a relation to what was there keeps it for all of them. -/
lemma rel_modify {R : α → α → Prop} (hrefl : ∀ x, R x x)
    (hchange : ∀ x, objects.get m = some x → R x (f x)) (n : ℕ) :
    Option.Rel R (objects.get n) ((objects.modify m f).get n) := by
  by_cases hn : n = m
  · subst hn
    rw [get_modify_self]
    cases hx : objects.get n with
    | none => exact .none
    | some x => exact .some (hchange x hx)
  · rw [get_modify_of_ne hn]
    cases objects.get n with
    | none => exact .none
    | some x => exact .some (hrefl x)

@[simp] lemma get_modifyAll {f : ℕ → α → α} :
    (objects.modifyAll f).get n = (objects.get n).map (f n) := rfl

lemma get_modifyAll_eq_some {f : ℕ → α → α} (h : (objects.modifyAll f).get n = some y) :
    ∃ x, objects.get n = some x ∧ y = f n x := by
  obtain ⟨x, hx, rfl⟩ := Option.map_eq_some_iff.mp h
  exact ⟨x, hx, rfl⟩

/-! ### Counting -/

variable {p q : α → Bool}

/-- How many objects have a property. -/
def count (objects : Objects α) (p : α → Bool) : ℕ :=
  (List.range objects.next).countP fun n => (objects.get n).any p

@[simp] lemma count_empty : (empty : Objects α).count p = 0 := rfl

lemma count_add : (objects.add x).count p = objects.count p + if p x then 1 else 0 := by
  have hold : (List.range objects.next).countP (fun n => ((objects.add x).get n).any p) =
      objects.count p := by
    refine List.countP_congr fun n hn => ?_
    rw [get_add_of_ne (List.mem_range.mp hn).ne]
  rw [count, next_add, List.range_succ, List.countP_append, hold, List.countP_singleton,
    get_add_next, Option.any_some]

/-- Two counts over a list without repetitions that differ at most in one place. -/
lemma countP_update {l : List ℕ} (hl : l.Nodup) {a b : ℕ → Bool} (hm : m ∈ l)
    (hother : ∀ n, n ≠ m → a n = b n) :
    l.countP a + (if b m then 1 else 0) = l.countP b + if a m then 1 else 0 := by
  induction l with
  | nil => cases hm
  | cons first rest ih =>
      obtain ⟨hfirst, hrest⟩ := List.nodup_cons.mp hl
      rw [List.countP_cons, List.countP_cons]
      rcases List.mem_cons.mp hm with rfl | hmem
      · have heq : rest.countP a = rest.countP b :=
          List.countP_congr fun n hn => by rw [hother n fun h => hfirst (h ▸ hn)]
        omega
      · have hne : first ≠ m := fun h => hfirst (h ▸ hmem)
        have hstep := ih hrest hmem
        rw [hother first hne]
        omega

lemma count_modify (h : objects.get m = some x) :
    (objects.modify m f).count p + (if p x then 1 else 0) =
      objects.count p + if p (f x) then 1 else 0 := by
  have hstep := countP_update List.nodup_range (List.mem_range.mpr (lt_next h))
    (a := fun n => ((objects.modify m f).get n).any p) (b := fun n => (objects.get n).any p)
    fun n hn => by rw [get_modify_of_ne hn]
  simpa only [count, next_modify, get_modify_of_some h, h, Option.any_some] using hstep

/-- A change that does not matter for the property. -/
lemma count_modify_of_eq (h : ∀ x, objects.get m = some x → p (f x) = p x) :
    (objects.modify m f).count p = objects.count p := by
  cases hx : objects.get m with
  | none =>
      refine List.countP_congr fun n _ => ?_
      by_cases hn : n = m
      · rw [hn, get_modify_self, hx, Option.map_none]
      · rw [get_modify_of_ne hn]
  | some x =>
      have hcount := count_modify (f := f) (p := p) hx
      rw [h x hx] at hcount
      omega

/-- A change that gives the property to nothing. -/
lemma count_modify_le (h : ∀ x, objects.get m = some x → p (f x) = true → p x = true) :
    (objects.modify m f).count p ≤ objects.count p := by
  cases hx : objects.get m with
  | none =>
      refine (count_modify_of_eq fun x hget => ?_).le
      rw [hx] at hget
      cases hget
  | some x =>
      have hcount := count_modify (f := f) (p := p) hx
      by_cases hp : p (f x) = true
      · rw [if_pos (h x hx hp), if_pos hp] at hcount
        omega
      · rw [if_neg hp] at hcount
        omega

lemma count_mono (h : ∀ x, p x = true → q x = true) : objects.count p ≤ objects.count q := by
  refine List.countP_mono_left fun n _ hn => ?_
  obtain ⟨x, hx, hp⟩ := (Option.any_eq_true _ _).mp hn
  exact (Option.any_eq_true _ _).mpr ⟨x, hx, h x hp⟩

lemma count_eq_zero : objects.count p = 0 ↔ ∀ n x, objects.get n = some x → p x = false := by
  rw [count, List.countP_eq_zero]
  constructor
  · intro h n x hx
    have hn := h n (List.mem_range.mpr (lt_next hx))
    rwa [hx, Option.any_some, Bool.not_eq_true] at hn
  · intro h n _ hn
    obtain ⟨x, hx, hp⟩ := (Option.any_eq_true _ _).mp hn
    rw [h n x hx] at hp
    exact Bool.false_ne_true hp

lemma count_pos (h : objects.get n = some x) (hp : p x = true) : 0 < objects.count p := by
  refine Nat.pos_of_ne_zero fun hzero => ?_
  rw [count_eq_zero.mp hzero n x h] at hp
  exact Bool.false_ne_true hp

/-- Where at most one object has the property, two that have it are the same. -/
lemma eq_of_count_le_one (h : objects.count p ≤ 1) (hx : objects.get n = some x)
    (hpx : p x = true) (hy : objects.get m = some y) (hpy : p y = true) : n = m := by
  by_contra hne
  -- The property of all but the object n still counts the object m.
  have hcount := countP_update List.nodup_range (List.mem_range.mpr (lt_next hx))
    (a := fun k => k ≠ n ∧ (objects.get k).any p = true)
    (b := fun k => (objects.get k).any p) fun k hk => by simp [hk]
  have hpos : 0 < (List.range objects.next).countP
      fun k => k ≠ n ∧ (objects.get k).any p = true :=
    List.countP_pos_iff.mpr ⟨m, List.mem_range.mpr (lt_next hy), by
      simp [Ne.symm hne, hy, hpy]⟩
  simp only [count] at h
  simp only [hx, Option.any_some, hpx, if_true, ne_eq, not_true_eq_false, false_and,
    decide_false, Bool.false_eq_true, if_false] at hcount hpos
  omega

end Objects

end Opzava.Library
