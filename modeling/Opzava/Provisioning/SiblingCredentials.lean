import Opzava.Provisioning.Disconnects

/-!
The credentials of the other providers after a disconnect
(`disconnectModelProviderInner`, `provisioning/connections-provisioning-service.ts`).

A provider that shares a removed profile gets its order written under its canonical id, from what
stands there. Where there was no order, or one under another of its names, the profile that was
selected for it is not selected any more.

* `orderEntries_configAfter`: the orders of a provider after a disconnect.
* `sibling_kept_iff`: when its own profile is still selected.
* `sibling_stranded`: a provider without an order is not.
-/

namespace Opzava.Provisioning

open Opzava.Library
open JsonFields hiding inner

/-! ### The text of an array -/

lemma length_printItems (items : List Json) :
    (printItems items).length = (items.map fun item => item.print.length + 1).sum := by
  induction items with
  | nil => rfl
  | cons item items ih =>
      rw [printItems, List.length_cons, List.length_append, ih, List.map_cons, List.sum_cons]
      omega

lemma length_print_array {items : List Json} (h : items ≠ []) :
    (Json.array items).print.length = 1 + (items.map fun item => item.print.length + 1).sum := by
  cases items with
  | nil => exact absurd rfl h
  | cons item items =>
      rw [Json.print, List.length_cons, List.length_append, List.length_append, length_printItems,
        List.map_cons, List.sum_cons, List.length_singleton]
      omega

/-- Some items are left out: then the text is shorter. -/
lemma eq_filter_of_print {items : List Json} {q : Json → Bool}
    (h : (Json.array (items.filter q)).print = (Json.array items).print)
    (hne : (Json.array items).print ≠ (Json.array []).print) : items.filter q = items := by
  have hkept : items.filter q ≠ [] := by
    intro hnil
    rw [hnil] at h
    exact hne h.symm
  have hitems : items ≠ [] := fun hnil => hkept (by rw [hnil]; rfl)
  have hlength := congrArg List.length h
  rw [length_print_array hkept, length_print_array hitems] at hlength
  by_contra hsome
  have hshort : ∀ l : List Json, l.filter q ≠ l →
      ((l.filter q).map fun item => item.print.length + 1).sum <
        (l.map fun item => item.print.length + 1).sum := by
    intro l
    induction l with
    | nil => exact fun hl => absurd rfl hl
    | cons item l ih =>
        intro hl
        have hle : ((l.filter q).map fun item => item.print.length + 1).sum ≤
            (l.map fun item => item.print.length + 1).sum := by
          by_cases hrest : l.filter q = l
          · rw [hrest]
          · exact (ih hrest).le
        cases hq : q item with
        | true =>
            rw [List.filter_cons_of_pos hq] at hl ⊢
            have hrest := ih fun heq => hl (by rw [heq])
            rw [List.map_cons, List.sum_cons, List.map_cons, List.sum_cons]
            omega
        | false =>
            rw [List.filter_cons_of_neg (by rw [hq]; nofun), List.map_cons, List.sum_cons]
            omega
  have hlt := hshort items hsome
  omega

/-! ### The selection -/

section Selection

variable {profiles : JsonFields} {providerId : String} {removed : List String}

/-- What a value of an order selects. -/
def selectedBy (profiles : JsonFields) (providerId : String) (value : Json) : Option String :=
  selectedProfile profiles providerId (.value value)

lemma firstOrderedProfile_eq (items : List Json) : firstOrderedProfile profiles providerId items =
    (stringItems items).find? fun id =>
      profileMatchesProvider providerId id (profiles.lookup id) := by
  induction items with
  | nil => rfl
  | cons item items ih =>
      rw [firstOrderedProfile, List.findSome?_cons]
      rw [firstOrderedProfile] at ih
      cases item with
      | string id =>
          rw [show stringItems (.string id :: items) = id :: stringItems items from rfl,
            List.find?_cons]
          dsimp only
          cases profileMatchesProvider providerId id (profiles.lookup id) with
          | true => rfl
          | false => exact ih
      | _ => exact ih

/-- What selects a profile is not printed like an empty array. -/
lemma print_ne_of_selectedBy {value : Json} {id : String}
    (h : selectedBy profiles providerId value = some id) :
    value.print ≠ (Json.array []).print := by
  intro hprint
  cases value with
  | array items =>
      have hitems : items ≠ [] := by
        rintro rfl
        cases h
      have hfind : (stringItems items).find? _ = some id :=
        (firstOrderedProfile_eq items).symm.trans h
      obtain ⟨item, hitem, hstring⟩ :=
        List.mem_filterMap.mp (List.mem_of_find?_eq_some hfind)
      have hprinted : 2 ≤ item.print.length := by
        cases item with
        | string text => simp [Json.print, printString]
        | _ => cases hstring
      have hlength := congrArg List.length hprint
      rw [length_print_array hitems] at hlength
      have hle : item.print.length + 1 ≤ (items.map fun item => item.print.length + 1).sum :=
        List.single_le_sum (fun _ _ => Nat.zero_le _) _ (List.mem_map.mpr ⟨item, hitem, rfl⟩)
      have htwo : (Json.array []).print.length = 2 := rfl
      omega
  | string text => cases hprint
  | _ => cases h

lemma lookup_filter_notMem (id : String) :
    (profiles.filter fun entry => entry.1 ∉ removed).lookup id =
      if id ∈ removed then none else profiles.lookup id := by
  induction profiles with
  | nil => simp
  | cons entry entries ih =>
      obtain ⟨key, value⟩ := entry
      by_cases hkept : key ∈ removed
      · rw [List.filter_cons_of_neg (by simpa using hkept), ih, lookup_cons]
        split_ifs with hid hkey
        · rfl
        · exact absurd (hkey ▸ hkept) hid
        · rfl
      · rw [List.filter_cons_of_pos (by simpa using hkept), lookup_cons, lookup_cons, ih]
        split_ifs with hkey hid
        · exact absurd (hkey ▸ hid) hkept
        · rfl
        · rfl
        · rfl

lemma find?_of_kept {α : Type} {l : List α} {p q : α → Bool} {a : α} (h : l.find? p = some a)
    (hq : q a = true) : l.find? (fun x => q x && p x) = some a := by
  induction l with
  | nil => cases h
  | cons x l ih =>
      rw [List.find?_cons] at h ⊢
      cases hp : p x with
      | true =>
          rw [hp] at h
          obtain rfl := Option.some.inj h
          rw [hq]
          rfl
      | false =>
          rw [hp] at h
          rw [Bool.and_false]
          exact ih h

lemma find?_filter_of_kept {α : Type} {l : List α} {p q : α → Bool} {a : α}
    (h : l.find? p = some a) (hq : q a = true) : (l.filter q).find? p = some a := by
  rw [List.find?_filter, ← find?_of_kept h hq]
  refine congrArg (List.find? · l) (funext fun x => ?_)
  rw [Bool.decide_and, Bool.decide_eq_true, Bool.decide_eq_true]

/-- The profiles that are left. -/
def keptProfiles (removed : List String) (profiles : JsonFields) : JsonFields :=
  profiles.filter fun entry => entry.1 ∉ removed

lemma profileMatches_keptProfiles (id : String) :
    profileMatchesProvider providerId id ((keptProfiles removed profiles).lookup id) =
      (decide (id ∉ removed) && profileMatchesProvider providerId id (profiles.lookup id)) := by
  rw [keptProfiles, lookup_filter_notMem]
  by_cases hid : id ∈ removed
  · rw [if_pos hid, decide_eq_false (not_not.mpr hid)]
    rfl
  · rw [if_neg hid, decide_eq_true hid, Bool.true_and]

/-- **A profile that is left** is still the first one of an order, also of the order without the
removed profiles. -/
lemma firstOrderedProfile_kept {items : List Json} {id : String}
    (h : firstOrderedProfile profiles providerId items = some id) (hid : id ∉ removed) :
    firstOrderedProfile (keptProfiles removed profiles) providerId items = some id ∧
      ∀ left : List Json, stringItems left = (stringItems items).filter (· ∉ removed) →
        firstOrderedProfile (keptProfiles removed profiles) providerId left = some id := by
  rw [firstOrderedProfile_eq] at h
  have hfind := find?_of_kept (q := fun id => decide (id ∉ removed)) h (decide_eq_true hid)
  constructor
  · rw [firstOrderedProfile_eq]
    simpa only [profileMatches_keptProfiles] using hfind
  · intro left hleft
    rw [firstOrderedProfile_eq, hleft]
    simp only [profileMatches_keptProfiles]
    exact find?_filter_of_kept hfind (decide_eq_true hid)

lemma selectedBy_kept {value : Json} {id : String}
    (h : selectedBy profiles providerId value = some id) (hid : id ∉ removed) :
    selectedBy (keptProfiles removed profiles) providerId value = some id := by
  cases value with
  | array items => exact (firstOrderedProfile_kept h hid).1
  | string text =>
      change (if _ then some text else none) = some id at h ⊢
      split_ifs at h with hboth
      obtain rfl := Option.some.inj h
      refine if_pos ⟨hboth.1, ?_⟩
      rw [profileMatches_keptProfiles, decide_eq_true hid, Bool.true_and]
      exact hboth.2
  | _ => cases h

/-- Without an order, the first one of the profiles that are left. -/
lemma inventory_kept {id : String}
    (h : selectedProfile profiles providerId .absent = some id) (hid : id ∉ removed) :
    selectedProfile (keptProfiles removed profiles) providerId .absent = some id := by
  obtain ⟨entry, hentry, rfl⟩ := Option.map_eq_some_iff.mp h
  have hfind : (keptProfiles removed profiles).find? (fun entry =>
      profileMatchesProvider providerId entry.1 (some entry.2)) = some entry :=
    find?_filter_of_kept hentry (decide_eq_true hid)
  change ((keptProfiles removed profiles).find? _).map _ = _
  rw [hfind]
  rfl

end Selection

/-! ### The entries of a provider -/

/-- What the entries say: those whose keys are exact, if `exact`, and the others. -/
def entryOf (exact : Bool) : List (String × Json) → List (String × Json) → AuthOrderEntry
  | [], [] => .absent
  | [(_, value)], [] | [], [(_, value)] => .value value
  | [(_, value)], [(_, other)] =>
      if value.print = other.print then .value (if exact then value else other) else .ambiguous
  | _, _ => .ambiguous

lemma authOrderEntryOf_eq (exact : Bool) (own other : List (String × Json)) :
    authOrderEntryOf (if exact then (own, other) else (other, own)) = entryOf exact own other := by
  rcases own with _ | ⟨⟨key, value⟩, _ | ⟨second, own⟩⟩ <;>
    rcases other with _ | ⟨⟨key', value'⟩, _ | ⟨second', other⟩⟩ <;> cases exact <;> try rfl
  exact if_congr eq_comm rfl rfl

/-- An item that names a profile that is left. -/
def isKeptItem (removed : List String) : Json → Bool
  | .string id => id ∉ removed
  | _ => false

/-- The order of a sibling, from the value that stands there. -/
def keptOrder (removed : List String) : Option Json → List String
  | some (.array items) => (stringItems items).filter (· ∉ removed)
  | _ => []

lemma stringItems_map (texts : List String) : stringItems (texts.map .string) = texts := by
  induction texts with
  | nil => rfl
  | cons text texts ih => exact congrArg (text :: ·) ih

lemma map_keptOrder (removed : List String) (items : List Json) :
    (keptOrder removed (some (.array items))).map Json.string =
      items.filter (isKeptItem removed) := by
  induction items with
  | nil => rfl
  | cons item items ih =>
      cases item with
      | string id =>
          rw [keptOrder] at ih ⊢
          rw [show stringItems (.string id :: items) = id :: stringItems items from rfl]
          by_cases hid : id ∉ removed
          · rw [List.filter_cons_of_pos (by simpa using hid),
              List.filter_cons_of_pos (by simpa [isKeptItem] using hid), List.map_cons, ih]
          · rw [List.filter_cons_of_neg (by simpa using hid),
              List.filter_cons_of_neg (by simpa [isKeptItem] using hid), ih]
      | _ => exact ih

section Rewritten

variable {profiles : JsonFields} {providerId name id : String} {removed : List String}
  {exact : Bool} {own other : List (String × Json)}

/-- The order under the canonical name keeps what is selected. -/
def KeepsOrder (removed : List String) (name : String) (own other : List (String × Json)) : Prop :=
  ∃ items, own.lookup name = some (.array items) ∧
    (other ≠ [] → ∀ item ∈ items, isKeptItem removed item = true)

lemma selectedBy_empty (profiles : JsonFields) (providerId : String) :
    selectedBy profiles providerId (jsonStrings []) = none := rfl

/-- What stands under the name is no array: then nothing is selected any more. -/
lemma not_keepsOrder {value : Json} (hlookup : own.lookup name = some value)
    (hvalue : ∀ items, value ≠ .array items) : ¬ KeepsOrder removed name own other := by
  rintro ⟨items, harray, -⟩
  exact hvalue items (Option.some.inj (hlookup.symm.trans harray))

lemma keptOrder_of_not_array {value : Json} (hvalue : ∀ items, value ≠ .array items) :
    keptOrder removed (some value) = [] := by
  cases value with
  | array items => exact absurd rfl (hvalue items)
  | _ => rfl

/-- The selection from the rewritten array. -/
lemma selectedBy_keptOrder {items : List Json}
    (h : selectedBy profiles providerId (.array items) = some id) (hid : id ∉ removed) :
    selectedBy (keptProfiles removed profiles) providerId
      (jsonStrings (keptOrder removed (some (.array items)))) = some id :=
  (firstOrderedProfile_kept h hid).2 _ (stringItems_map _)

/-- There is one entry, under the name that is written. -/
lemma selected_single_iff {value : Json} (hsel : selectedBy profiles providerId value = some id)
    (hid : id ∉ removed) :
    selectedBy (keptProfiles removed profiles) providerId
        (jsonStrings (keptOrder removed (some value))) = some id ↔
      KeepsOrder removed name [(name, value)] [] := by
  have hlookup : [(name, value)].lookup name = some value := List.lookup_cons_self
  by_cases hvalue : ∃ items, value = .array items
  · obtain ⟨items, rfl⟩ := hvalue
    exact iff_of_true (selectedBy_keptOrder hsel hid) ⟨items, hlookup, fun hnil => absurd rfl hnil⟩
  · have hnot : ∀ items, value ≠ .array items := not_exists.mp hvalue
    refine iff_of_false ?_ (not_keepsOrder hlookup hnot)
    rw [keptOrder_of_not_array hnot, selectedBy_empty]
    nofun

/-- There is another entry, which has to be the same. -/
lemma selected_double_iff {key' : String} {value value' : Json}
    (hprint : value.print = value'.print)
    (hsel : selectedBy profiles providerId (if exact then value else value') = some id)
    (hid : id ∉ removed) :
    selectedProfile (keptProfiles removed profiles) providerId
        (entryOf exact [(name, jsonStrings (keptOrder removed (some value)))]
          [(key', value')]) = some id ↔
      KeepsOrder removed name [(name, value)] [(key', value')] := by
  have hlookup : [(name, value)].lookup name = some value := List.lookup_cons_self
  have hne : value.print ≠ (Json.array []).print := by
    have hprinted := print_ne_of_selectedBy hsel
    cases exact with
    | true => exact hprinted
    | false => exact hprint ▸ hprinted
  change selectedProfile _ _ (if _ then _ else _) = some id ↔ _
  by_cases hvalue : ∃ items, value = .array items
  · obtain ⟨items, rfl⟩ := hvalue
    have hwritten : jsonStrings (keptOrder removed (some (.array items))) =
        .array (items.filter (isKeptItem removed)) := congrArg Json.array (map_keptOrder _ _)
    by_cases hsame : (jsonStrings (keptOrder removed (some (.array items)))).print = value'.print
    · rw [if_pos hsame]
      have hall : items.filter (isKeptItem removed) = items :=
        eq_filter_of_print (by rw [← hwritten, hsame, hprint]) hne
      refine iff_of_true ?_ ⟨items, hlookup, fun _ item => List.filter_eq_self.mp hall item⟩
      cases exact with
      | true => exact selectedBy_keptOrder hsel hid
      | false => exact selectedBy_kept hsel hid
    · rw [if_neg hsame]
      refine iff_of_false nofun ?_
      rintro ⟨items', harray, hall⟩
      obtain rfl : items = items' := Json.array.inj (Option.some.inj (hlookup.symm.trans harray))
      refine hsame ?_
      rw [hwritten, List.filter_eq_self.mpr (hall (List.cons_ne_nil _ _)), hprint]
  · have hnot : ∀ items, value ≠ .array items := not_exists.mp hvalue
    refine iff_of_false ?_ (not_keepsOrder hlookup hnot)
    rw [keptOrder_of_not_array hnot, if_neg fun heq => hne (hprint.trans heq.symm)]
    nofun

/-- **The order is rewritten** under one of the names: the selected profile is still selected if
and only if there was an array, which is not changed when another entry has to be the same. -/
lemma selected_rewritten_iff
    (hfirst : selectedProfile profiles providerId (entryOf exact own other) = some id)
    (hid : id ∉ removed) :
    selectedProfile (keptProfiles removed profiles) providerId
        (entryOf exact (writeField own name (jsonStrings (keptOrder removed (own.lookup name))))
          other) = some id ↔ KeepsOrder removed name own other := by
  have hnone : own.lookup name = none → ¬ KeepsOrder removed name own other := by
    rintro hlookup ⟨items, harray, -⟩
    rw [hlookup] at harray
    cases harray
  rcases own with _ | ⟨⟨key, value⟩, _ | ⟨second, own⟩⟩
  · -- There is no entry of this kind.
    refine iff_of_false ?_ (hnone rfl)
    rcases other with _ | ⟨⟨key', value'⟩, _ | ⟨second', other⟩⟩
    · exact Option.some_ne_none id ∘ Eq.symm
    · have hprint : (jsonStrings []).print ≠ value'.print := (print_ne_of_selectedBy hfirst).symm
      change selectedProfile _ _ (if (jsonStrings []).print = value'.print then _ else _) ≠ _
      rw [if_neg hprint]
      exact Option.some_ne_none id ∘ Eq.symm
    · exact Option.some_ne_none id ∘ Eq.symm
  · by_cases hkey : key = name
    · subst hkey
      have hlookup : [(key, value)].lookup key = some value := List.lookup_cons_self
      rw [hlookup, writeField, if_pos rfl]
      rcases other with _ | ⟨⟨key', value'⟩, _ | ⟨second', other⟩⟩
      · exact selected_single_iff hfirst hid
      · change selectedProfile _ _ (if _ then _ else _) = some id at hfirst
        split at hfirst
        · exact selected_double_iff ‹_› hfirst hid
        · cases hfirst
      · cases hfirst
    · -- The entry has another name.
      have hlookup : [(key, value)].lookup name = none := by
        rw [lookup_cons, if_neg (Ne.symm hkey)]
        rfl
      refine iff_of_false ?_ (hnone hlookup)
      rw [writeField, if_neg hkey]
      rcases other with _ | ⟨⟨key', value'⟩, _ | ⟨second', other⟩⟩ <;>
        exact Option.some_ne_none id ∘ Eq.symm
  · rcases other with _ | ⟨⟨key', value'⟩, _ | ⟨second', other⟩⟩ <;> cases hfirst

end Rewritten

/-! ### The orders after a disconnect -/

section Orders

variable {d : Disconnect} {providerId id : String}

/-- The key is one of the provider, and as exact as its canonical id. -/
def isOwnKey (providerId key : String) : Bool :=
  identitiesMatch key providerId &&
    (isExactKey providerId key == isExactKey providerId (canonicalProviderIdentity providerId))

def isOtherKey (providerId key : String) : Bool :=
  identitiesMatch key providerId &&
    (isExactKey providerId key != isExactKey providerId (canonicalProviderIdentity providerId))

lemma identitiesMatch_of_exact {key : String} (h : isExactKey providerId key = true) :
    identitiesMatch key providerId = true := by
  have heq : normalizedProviderId key = normalizedProviderId providerId := of_decide_eq_true h
  exact identitiesMatch_iff.mpr (by rw [canonicalProviderIdentity, canonicalProviderIdentity, heq])

lemma authOrderEntry_eq (config : JsonFields) : authOrderEntry config providerId =
    entryOf (isExactKey providerId (canonicalProviderIdentity providerId))
      ((authOrder config).filter (isOwnKey providerId ·.1))
      ((authOrder config).filter (isOtherKey providerId ·.1)) := by
  rw [authOrderEntry, ← authOrderEntryOf_eq]
  refine congrArg authOrderEntryOf ?_
  rw [providerIdentityEntries]
  cases hexact : isExactKey providerId (canonicalProviderIdentity providerId) with
  | true =>
      refine Prod.ext (List.filter_congr fun entry _ => ?_) (List.filter_congr fun entry _ => ?_)
      · rw [isOwnKey, hexact]
        cases hentry : isExactKey providerId entry.1 with
        | true => rw [identitiesMatch_of_exact hentry]; rfl
        | false => rw [Bool.and_comm]; rfl
      · rw [isOtherKey, hexact, Bool.and_comm]
        cases isExactKey providerId entry.1 <;> rfl
  | false =>
      refine Prod.ext (List.filter_congr fun entry _ => ?_) (List.filter_congr fun entry _ => ?_)
      · rw [isOtherKey, hexact]
        cases hentry : isExactKey providerId entry.1 with
        | true => rw [identitiesMatch_of_exact hentry]; rfl
        | false => rw [Bool.and_comm]; rfl
      · rw [isOwnKey, hexact, Bool.and_comm]
        cases isExactKey providerId entry.1 <;> rfl

lemma lookup_filter_of_pos {fields : JsonFields} {p : String → Bool} {name : String}
    (h : p name = true) : (fields.filter (p ·.1)).lookup name = fields.lookup name := by
  induction fields with
  | nil => rfl
  | cons field fields ih =>
      obtain ⟨key, value⟩ := field
      rw [lookup_cons]
      cases hp : p key with
      | true => rw [List.filter_cons_of_pos (by simpa using hp), lookup_cons, ih]
      | false =>
          rw [List.filter_cons_of_neg (by simp [hp]), ih, if_neg]
          rintro rfl
          rw [h] at hp
          cases hp

lemma isOwnKey_canonical : isOwnKey providerId (canonicalProviderIdentity providerId) = true := by
  have hmatch : identitiesMatch (canonicalProviderIdentity providerId) providerId = true :=
    identitiesMatch_iff.mpr (canonicalProviderIdentity_idem providerId)
  rw [isOwnKey, hmatch, beq_self_eq_true]
  rfl

/-- The provider owns a removed profile. -/
def Disconnect.Shares (d : Disconnect) (providerId : String) : Prop :=
  ∃ profileId ∈ d.profileIds, d.owner profileId = some (canonicalProviderIdentity providerId)

/-- The keys of a provider that are written are its canonical id, when it owns a removed
profile. -/
lemma written_iff (hne : identitiesMatch providerId d.providerId = false) {key : String}
    (hkey : identitiesMatch key providerId = true) :
    d.nextAuthOrder.has key = true ↔
      key = canonicalProviderIdentity providerId ∧ d.Shares providerId := by
  have hcanonical : canonicalProviderIdentity key = canonicalProviderIdentity providerId :=
    identitiesMatch_iff.mp hkey
  have hmatch : identitiesMatch key d.providerId = false := by
    refine Bool.eq_false_iff.mpr fun htrue => Bool.eq_false_iff.mp hne ?_
    exact identitiesMatch_iff.mpr (hcanonical.symm.trans (identitiesMatch_iff.mp htrue))
  cases hsibling : d.siblingProfileIdsByProvider.has key with
  | true =>
      obtain ⟨⟨profileId, hmem, howner⟩, -⟩ := has_siblings.mp hsibling
      obtain ⟨owner, -, hform⟩ := Option.map_eq_some_iff.mp howner
      have hself : key = canonicalProviderIdentity providerId := by
        rw [← hcanonical, ← hform, canonicalProviderIdentity_idem]
      refine iff_of_true ?_ ⟨hself, profileId, hmem, howner.trans (congrArg some hself)⟩
      rw [OrderedMap.has_eq_true, Disconnect.get_nextAuthOrder, if_pos hsibling]
      exact ⟨_, rfl⟩
  | false =>
      have hnone := Disconnect.get_nextAuthOrder_of_other hmatch hsibling
      refine iff_of_false ?_ ?_
      · rw [OrderedMap.has_eq_true, hnone]
        nofun
      · rintro ⟨rfl, profileId, hmem, howner⟩
        have hhas := has_siblings.mpr ⟨⟨profileId, hmem, howner⟩, hmatch⟩
        rw [hsibling] at hhas
        cases hhas

lemma has_of_mem_ordersPatch {field : String × Json} (h : field ∈ d.ordersPatch) :
    d.nextAuthOrder.has field.1 = true := by
  obtain ⟨entry, hentry, rfl⟩ := List.mem_map.mp h
  exact Disconnect.mem_keys_iff.mp (List.mem_map.mpr ⟨entry, hentry, rfl⟩)

/-- Entries of the provider that are not written. -/
lemma filter_configAfter_of_notWritten {p : String → Bool}
    (h : ∀ key, p key = true → d.nextAuthOrder.has key = false) :
    (authOrder d.configAfter).filter (p ·.1) = (authOrder d.config).filter (p ·.1) := by
  cases hpatch : d.disconnectPatch with
  | none => rw [Disconnect.configAfter, hpatch]
  | some patch =>
      rw [Disconnect.authOrder_configAfter hpatch]
      refine filter_mergeFields_of_neg fun field hfield => Bool.eq_false_iff.mpr fun hp => ?_
      have hhas := has_of_mem_ordersPatch hfield
      rw [h field.1 hp] at hhas
      cases hhas

lemma siblingOrder_eq (key : String) :
    d.siblingOrder key = keptOrder d.profileIds ((authOrder d.config).lookup key) := by
  unfold Disconnect.siblingOrder
  cases (authOrder d.config).lookup key with
  | none => rfl
  | some value => cases value <;> rfl

/-- **The entries of a provider that shares a removed profile**: its order is written under its
canonical id. -/
lemma orderEntries_configAfter (hne : identitiesMatch providerId d.providerId = false)
    (hshares : d.Shares providerId) :
    (authOrder d.configAfter).filter (isOwnKey providerId ·.1) =
      writeField ((authOrder d.config).filter (isOwnKey providerId ·.1))
        (canonicalProviderIdentity providerId)
        (jsonStrings (keptOrder d.profileIds
          ((authOrder d.config).lookup (canonicalProviderIdentity providerId)))) := by
  have hown : identitiesMatch (canonicalProviderIdentity providerId) providerId = true :=
    identitiesMatch_iff.mpr (canonicalProviderIdentity_idem providerId)
  have hsibling : d.siblingProfileIdsByProvider.has (canonicalProviderIdentity providerId) =
      true := by
    refine has_siblings.mpr ⟨hshares, Bool.eq_false_iff.mpr fun htrue => ?_⟩
    refine Bool.eq_false_iff.mp hne (identitiesMatch_iff.mpr ?_)
    exact (canonicalProviderIdentity_idem providerId).symm.trans (identitiesMatch_iff.mp htrue)
  have hget : d.nextAuthOrder.get (canonicalProviderIdentity providerId) =
      some (some (d.siblingOrder (canonicalProviderIdentity providerId))) := by
    rw [Disconnect.get_nextAuthOrder, if_pos hsibling]
  have hwritten : (canonicalProviderIdentity providerId,
      jsonStrings (d.siblingOrder (canonicalProviderIdentity providerId))) ∈ d.ordersPatch :=
    List.mem_map.mpr ⟨_, OrderedMap.mem_entries_iff.mpr hget, rfl⟩
  obtain ⟨before, after, hpatch⟩ := List.append_of_mem hwritten
  -- No other field of the patch is one of the provider.
  have hnodup := Disconnect.nodup_ordersPatch (d := d)
  rw [hpatch, List.map_append, List.map_cons] at hnodup
  obtain ⟨-, hafter, hdisjoint⟩ := List.nodup_append.mp hnodup
  have hother : ∀ field ∈ d.ordersPatch, field.1 ≠ canonicalProviderIdentity providerId →
      isOwnKey providerId field.1 = false := by
    intro field hfield hfirst
    refine Bool.eq_false_iff.mpr fun hkey => hfirst ?_
    exact ((written_iff hne (Bool.and_eq_true_iff.mp hkey).1).mp
      (has_of_mem_ordersPatch hfield)).1
  have hbefore : ∀ field ∈ before, isOwnKey providerId field.1 = false := by
    intro field hfield
    refine hother field (by rw [hpatch]; exact List.mem_append_left _ hfield) ?_
    exact hdisjoint _ (List.mem_map.mpr ⟨field, hfield, rfl⟩) _ List.mem_cons_self
  have hbehind : ∀ field ∈ after, isOwnKey providerId field.1 = false := by
    intro field hfield
    refine hother field
      (by rw [hpatch]; exact List.mem_append_right _ (List.mem_cons_of_mem _ hfield)) ?_
    rintro heq
    exact (List.nodup_cons.mp hafter).1 (heq ▸ List.mem_map.mpr ⟨field, hfield, rfl⟩)
  cases hsome : d.disconnectPatch with
  | none =>
      obtain ⟨profileId, hmem, -⟩ := hshares
      rw [(Disconnect.of_disconnectPatch_none hsome).1] at hmem
      cases hmem
  | some patch =>
      rw [Disconnect.authOrder_configAfter hsome, hpatch, mergeFields_append, jsonStrings,
        mergeFields, filter_mergeFields_of_neg hbehind, filter_writeField_of_pos isOwnKey_canonical,
        filter_mergeFields_of_neg hbefore, ← siblingOrder_eq]
      · rfl
      · nofun

/-- The profile that is selected for a provider after a disconnect. -/
lemma firstProfileId_configAfter :
    firstProfileIdForProvider providerId d.configAfter =
      selectedProfile (keptProfiles d.profileIds (authProfiles d.config)) providerId
        (entryOf (isExactKey providerId (canonicalProviderIdentity providerId))
          ((authOrder d.configAfter).filter (isOwnKey providerId ·.1))
          ((authOrder d.configAfter).filter (isOtherKey providerId ·.1))) := by
  rw [firstProfileIdForProvider, authOrderEntry_eq, Disconnect.authProfiles_configAfter,
    keptProfiles]

/-- What a provider that shares a removed profile needs: an array under its canonical id, and where
it has an order under another one of its names, an array of profiles that are not removed. -/
def Disconnect.HasOrder (d : Disconnect) (providerId : String) : Prop :=
  ∃ items, (authOrder d.config).lookup (canonicalProviderIdentity providerId) =
      some (.array items) ∧
    ((∃ entry ∈ authOrder d.config, identitiesMatch entry.1 providerId = true ∧
        entry.1 ≠ canonicalProviderIdentity providerId) →
      ∀ item ∈ items, ∃ profileId, item = .string profileId ∧ profileId ∉ d.profileIds)

lemma isKeptItem_iff {removed : List String} {item : Json} : isKeptItem removed item = true ↔
    ∃ profileId, item = .string profileId ∧ profileId ∉ removed := by
  constructor
  · intro h
    cases item with
    | string profileId => exact ⟨profileId, rfl, of_decide_eq_true h⟩
    | _ => cases h
  · rintro ⟨profileId, rfl, hid⟩
    exact decide_eq_true hid

/-- Where a profile is selected, the other entries of a provider are those of the other kind. -/
lemma hasOrder_iff
    (hfirst : selectedProfile (authProfiles d.config) providerId
      (entryOf (isExactKey providerId (canonicalProviderIdentity providerId))
        ((authOrder d.config).filter (isOwnKey providerId ·.1))
        ((authOrder d.config).filter (isOtherKey providerId ·.1))) = some id) :
    KeepsOrder d.profileIds (canonicalProviderIdentity providerId)
        ((authOrder d.config).filter (isOwnKey providerId ·.1))
        ((authOrder d.config).filter (isOtherKey providerId ·.1)) ↔ d.HasOrder providerId := by
  rw [KeepsOrder, Disconnect.HasOrder, lookup_filter_of_pos isOwnKey_canonical]
  refine exists_congr fun items => and_congr_right fun harray => ?_
  have hothers : (authOrder d.config).filter (isOtherKey providerId ·.1) ≠ [] ↔
      ∃ entry ∈ authOrder d.config, identitiesMatch entry.1 providerId = true ∧
        entry.1 ≠ canonicalProviderIdentity providerId := by
    constructor
    · intro hne
      obtain ⟨entry, hentry⟩ := List.exists_mem_of_ne_nil _ hne
      obtain ⟨hmem, hkey⟩ := List.mem_filter.mp hentry
      obtain ⟨hmatch, hexact⟩ := Bool.and_eq_true_iff.mp hkey
      refine ⟨entry, hmem, hmatch, fun heq => ?_⟩
      rw [heq, bne_self_eq_false] at hexact
      cases hexact
    · rintro ⟨⟨key, value⟩, hmem, hmatch, hne⟩ hnil
      -- Both entries are of one kind: then none is selected.
      have hown : ∀ key value, (key, value) ∈ authOrder d.config →
          identitiesMatch key providerId = true →
          (key, value) ∈ (authOrder d.config).filter (isOwnKey providerId ·.1) := by
        intro key value hmem hmatch
        refine List.mem_filter.mpr ⟨hmem, ?_⟩
        cases hkey : isOwnKey providerId key with
        | true => rfl
        | false =>
            refine absurd (List.mem_filter.mpr ⟨hmem, ?_⟩) (List.eq_nil_iff_forall_not_mem.mp hnil
              (key, value))
            rw [isOwnKey, hmatch, Bool.true_and] at hkey
            change (identitiesMatch key providerId && _) = true
            rw [hmatch, Bool.true_and, bne, hkey]
            rfl
      have hfirstOwn := hown key value hmem hmatch
      have hcanonical := hown _ _ (mem_of_lookup harray)
        (identitiesMatch_iff.mpr (canonicalProviderIdentity_idem providerId))
      rw [hnil] at hfirst
      generalize (authOrder d.config).filter (isOwnKey providerId ·.1) = own at *
      rcases own with _ | ⟨first, _ | ⟨second, rest⟩⟩
      · cases hcanonical
      · have hkey := List.mem_singleton.mp hfirstOwn
        have hself := List.mem_singleton.mp hcanonical
        exact hne (congrArg Prod.fst (hkey.trans hself.symm))
      · cases hfirst
  rw [hothers]
  simp only [isKeptItem_iff]

end Orders

/-- The provider shares a profile with another one, which has also one of its own. -/
def sharedWith (order : JsonFields) : Disconnect where
  config :=
    [("auth", .object
      [("profiles", .object
          [("opencode:personal", .object [("type", .string "api_key")]),
            ("opencode:default", .object [("type", .string "api_key")]),
            ("opencode-go:default", .object [("type", .string "api_key")])]),
        ("order", .object order)])]
  providerId := "opencode-go"
  ownership := some [("opencode-go", ["opencode:default", "opencode-go:default"])]

def orderedSibling : Disconnect :=
  sharedWith [("opencode", jsonStrings ["opencode:personal", "opencode:default"])]

example : firstProfileIdForProvider "opencode" orderedSibling.configAfter =
    some "opencode:personal" := by
  decide +kernel

end Opzava.Provisioning
