import Opzava.Library.LowerCase
import Opzava.Provisioning.ConfigFrames
import Opzava.Provisioning.ProviderConnections

/-!
What the plan of a disconnect covers, and what it leaves alone
(`disconnectModelProviderInner`, `provisioning/connections-provisioning-service.ts`).

* `authProfiles_configAfter`, `lookup_authOrder_configAfter`: the configuration after the patch.
* `countP_logoutParams`: each provider is logged out once everywhere.
* `disconnect_plan`: the plan is complete and minimal.
-/

namespace Opzava.Library.OrderedMap

variable {κ ν μ : Type} [DecidableEq κ]

/-- A map is read as the list of its entries. -/
lemma lookup_map_entries (m : OrderedMap String ν) (g : ν → μ) (k : String) :
    (m.entries.map fun entry => (entry.1, g entry.2)).lookup k = (m.get k).map g := by
  rw [OrderedMap.get]
  induction m.entries with
  | nil => rfl
  | cons entry entries ih =>
      by_cases hk : entry.1 = k
      · subst hk
        rw [List.map_cons, List.lookup_cons_self, List.find?_cons_of_pos (by simp)]
        rfl
      · rw [List.map_cons, List.lookup, beq_eq_false_iff_ne.mpr (Ne.symm hk),
          List.find?_cons_of_neg (by simpa using hk), ih]

/-- Values are set for the keys of a list. -/
lemma get_foldl_set (f : κ → ν) (keys : List κ) (m : OrderedMap κ ν) (k : κ) :
    (keys.foldl (fun m key => m.set key (f key)) m).get k =
      if k ∈ keys then some (f k) else m.get k := by
  induction keys generalizing m with
  | nil => simp
  | cons key keys ih =>
      rw [List.foldl_cons, ih, get_set]
      by_cases hk : k = key
      · simp [hk]
      · simp [hk]

end Opzava.Library.OrderedMap

namespace Opzava.Provisioning

open Opzava.Library
open JsonFields hiding inner

/-! ### Identities -/

lemma normalizedProviderId_normalizedProviderId (providerId : String) :
    normalizedProviderId (normalizedProviderId providerId) = normalizedProviderId providerId := by
  refine String.toList_injective ?_
  rw [normalizedProviderId, normalizedProviderId, toList_toLower, String.toList_ofList,
    toList_toLower, String.toList_ofList, jsTrim_map_toLower, jsTrim_jsTrim, List.map_map]
  exact List.map_congr_left fun c _ => charToLower_charToLower c

/-- No alias stands for another one. -/
lemma canonicalProviderIdentity_alias {name canonical : String}
    (h : (name, canonical) ∈ modelProviderAuthAliases) :
    canonicalProviderIdentity canonical = canonical := by
  have hall : (modelProviderAuthAliases.all fun entry =>
      canonicalProviderIdentity entry.2 = entry.2) = true := by
    decide +kernel
  exact of_decide_eq_true (List.all_eq_true.mp hall (name, canonical) h)

lemma canonicalProviderIdentity_idem (providerId : String) :
    canonicalProviderIdentity (canonicalProviderIdentity providerId) =
      canonicalProviderIdentity providerId := by
  cases halias : modelProviderAuthAliases.lookup (normalizedProviderId providerId) with
  | some canonical =>
      have hself : canonicalProviderIdentity providerId = canonical := by
        rw [canonicalProviderIdentity, halias]
        rfl
      obtain ⟨before, after, hentries, -⟩ := List.lookup_eq_some_iff.mp halias
      have hmem : (normalizedProviderId providerId, canonical) ∈ modelProviderAuthAliases := by
        rw [hentries]
        exact List.mem_append_right before List.mem_cons_self
      rw [hself, canonicalProviderIdentity_alias hmem]
  | none =>
      have hself : canonicalProviderIdentity providerId = normalizedProviderId providerId := by
        rw [canonicalProviderIdentity, halias]
        rfl
      rw [hself, canonicalProviderIdentity, normalizedProviderId_normalizedProviderId, halias]
      rfl

lemma identitiesMatch_iff {left right : String} : identitiesMatch left right = true ↔
    canonicalProviderIdentity left = canonicalProviderIdentity right := decide_eq_true_iff

/-- The entries of a provider are those with an identity that is its own. -/
lemma mem_providerIdentityEntries {α : Type} {record : List (String × α)} {providerId : String}
    {entry : String × α} :
    entry ∈ (providerIdentityEntries record providerId).1 ++
        (providerIdentityEntries record providerId).2 ↔
      entry ∈ record ∧ identitiesMatch entry.1 providerId = true := by
  rw [List.mem_append, providerIdentityEntries, List.mem_filter, List.mem_filter]
  constructor
  · rintro (⟨hmem, hexact⟩ | ⟨hmem, halias⟩)
    · have heq : normalizedProviderId entry.1 = normalizedProviderId providerId :=
        of_decide_eq_true hexact
      exact ⟨hmem, identitiesMatch_iff.mpr (by
        rw [canonicalProviderIdentity, canonicalProviderIdentity, heq])⟩
    · exact ⟨hmem, (Bool.and_eq_true_iff.mp halias).2⟩
  · rintro ⟨hmem, hmatch⟩
    cases hexact : isExactKey providerId entry.1 with
    | true => exact .inl ⟨hmem, rfl⟩
    | false => exact .inr ⟨hmem, by rw [hmatch]; rfl⟩

/-! ### The siblings -/

section Siblings

variable {d : Disconnect} {owners : List (String × String)} {providerId key : String}
  {siblings : OrderedMap String (List String)}

/-- The profiles of an owner that is not the disconnected provider itself. -/
def ownedBy (providerId key : String) (owners : List (String × String)) : List String :=
  (owners.filter fun owned =>
    canonicalProviderIdentity owned.2 = key && !identitiesMatch key providerId).map (·.1)

lemma get_addSibling (owned : String × String) :
    (addSibling providerId siblings owned).get key =
      if canonicalProviderIdentity owned.2 = key ∧ identitiesMatch key providerId = false then
        some ((siblings.get key).getD [] ++ [owned.1])
      else siblings.get key := by
  unfold addSibling
  dsimp only
  by_cases hkey : canonicalProviderIdentity owned.2 = key
  · subst hkey
    cases hmatch : identitiesMatch (canonicalProviderIdentity owned.2) providerId with
    | true => rw [if_pos rfl, if_neg fun h => Bool.noConfusion h.2]
    | false => rw [if_neg Bool.false_ne_true, if_pos ⟨rfl, rfl⟩, OrderedMap.get_set_self]
  · have hnot : ¬ (canonicalProviderIdentity owned.2 = key ∧
        identitiesMatch key providerId = false) := fun h => hkey h.1
    rw [if_neg hnot]
    split
    · rfl
    · rw [OrderedMap.get_set_of_ne _ _ (Ne.symm hkey)]

/-- What is listed for an owner: its profiles, behind those that are listed already. -/
lemma get_foldl_addSibling : (owners.foldl (addSibling providerId) siblings).get key =
    if ownedBy providerId key owners = [] then siblings.get key
    else some ((siblings.get key).getD [] ++ ownedBy providerId key owners) := by
  induction owners generalizing siblings with
  | nil => rfl
  | cons owned owners ih =>
      rw [List.foldl_cons, ih, get_addSibling]
      by_cases howned : canonicalProviderIdentity owned.2 = key ∧
          identitiesMatch key providerId = false
      · have hcons : ownedBy providerId key (owned :: owners) =
            owned.1 :: ownedBy providerId key owners := by
          rw [ownedBy, List.filter_cons_of_pos (by simp [howned.1, howned.2])]
          rfl
        rw [if_pos howned, hcons, if_neg (List.cons_ne_nil _ _), Option.getD_some]
        split_ifs with hrest
        · rw [hrest]
        · rw [List.append_assoc]
          rfl
      · have hcons : ownedBy providerId key (owned :: owners) = ownedBy providerId key owners := by
          rw [ownedBy, List.filter_cons_of_neg (by simpa using howned)]
          rfl
        rw [if_neg howned, hcons]

/-- The owner of a removed profile, in the canonical form. -/
def Disconnect.owner (d : Disconnect) (profileId : String) : Option String :=
  (profileOwner d.config d.ownership d.providerId profileId).map canonicalProviderIdentity

lemma mem_ownedBy {profileIds : List String} {profileId : String} :
    profileId ∈ ownedBy providerId key
        (profileOwnersForDisconnect d.config profileIds d.ownership d.providerId) ↔
      profileId ∈ profileIds ∧ d.owner profileId = some key ∧
        identitiesMatch key providerId = false := by
  simp only [ownedBy, profileOwnersForDisconnect, Disconnect.owner, List.mem_map, List.mem_filter,
    List.mem_filterMap, Option.map_eq_some_iff, Bool.and_eq_true, decide_eq_true_eq,
    Bool.not_eq_true']
  constructor
  · rintro ⟨_, ⟨⟨id, hid, owner, howner, rfl⟩, hkey, hnot⟩, rfl⟩
    exact ⟨hid, ⟨owner, howner, hkey⟩, hnot⟩
  · rintro ⟨hid, ⟨owner, howner, hkey⟩, hnot⟩
    exact ⟨(profileId, owner), ⟨⟨profileId, hid, owner, howner, rfl⟩, hkey, hnot⟩, rfl⟩

/-- **A sibling** is listed with the removed profiles that it owns. -/
lemma get_siblings {sharedProfileIds : List String}
    (h : d.siblingProfileIdsByProvider.get key = some sharedProfileIds) {profileId : String} :
    profileId ∈ sharedProfileIds ↔ profileId ∈ d.profileIds ∧ d.owner profileId = some key := by
  rw [Disconnect.siblingProfileIdsByProvider, get_foldl_addSibling] at h
  split_ifs at h with hnil
  · cases h
  obtain rfl := Option.some.inj h
  obtain ⟨first, hfirst⟩ := List.exists_mem_of_ne_nil _ hnil
  have hnot := (mem_ownedBy.mp hfirst).2.2
  rw [OrderedMap.get_empty, Option.getD_none, List.nil_append, mem_ownedBy]
  exact ⟨fun hmem => ⟨hmem.1, hmem.2.1⟩, fun hmem => ⟨hmem.1, hmem.2, hnot⟩⟩

lemma has_siblings : d.siblingProfileIdsByProvider.has key = true ↔
    (∃ profileId ∈ d.profileIds, d.owner profileId = some key) ∧
      identitiesMatch key d.providerId = false := by
  rw [OrderedMap.has_eq_true, Disconnect.siblingProfileIdsByProvider, get_foldl_addSibling]
  constructor
  · intro h
    split_ifs at h with hnil
    · obtain ⟨_, hnone⟩ := h
      cases hnone
    · obtain ⟨first, hfirst⟩ := List.exists_mem_of_ne_nil _ hnil
      obtain ⟨hmem, howner, hnot⟩ := mem_ownedBy.mp hfirst
      exact ⟨⟨first, hmem, howner⟩, hnot⟩
  · rintro ⟨⟨profileId, hmem, howner⟩, hnot⟩
    have hin := mem_ownedBy.mpr ⟨hmem, howner, hnot⟩
    exact ⟨_, if_neg (List.ne_nil_of_mem hin)⟩

end Siblings

/-! ### The configuration after the patch -/

section ConfigAfter

lemma authProfiles_eq (config : JsonFields) :
    authProfiles config = JsonFields.inner (JsonFields.inner config "auth") "profiles" := by
  rw [authProfiles, getD_recordValue, authConfig, getD_recordValue, JsonFields.inner,
    JsonFields.inner]

lemma authOrder_eq (config : JsonFields) :
    authOrder config = JsonFields.inner (JsonFields.inner config "auth") "order" := by
  rw [authOrder, getD_recordValue, authConfig, getD_recordValue, JsonFields.inner,
    JsonFields.inner]

variable {config auth agents : JsonFields}

namespace Disconnect

variable {d : Disconnect}

def ordersPatch (d : Disconnect) : JsonFields :=
  d.nextAuthOrder.entries.map fun entry => (entry.1, orderPatch entry.2)

def modelsPatch (d : Disconnect) : JsonFields :=
  objectFromEntries (d.prunedModelKeys.map (·, .null))

/-- The `auth` of the patch. -/
def authPatch (d : Disconnect) : JsonFields :=
  [("profiles", .object (d.profileIds.map (·, .null))), ("order", .object d.ordersPatch)]

/-- The `agents` of the patch. -/
def agentsPatch (d : Disconnect) : JsonFields :=
  [("defaults", .object [("models", .object d.modelsPatch)])]

lemma disconnectPatch_eq {patch : JsonFields} (h : d.disconnectPatch = some patch) :
    patch = [("auth", .object d.authPatch)] ∧ d.prunedModelKeys = [] ∨
      patch = [("auth", .object d.authPatch), ("agents", .object d.agentsPatch)] ∧
        d.prunedModelKeys ≠ [] := by
  unfold disconnectPatch at h
  split at h
  · obtain rfl := Option.some.inj h
    by_cases hpruned : d.prunedModelKeys = []
    · exact .inl ⟨by rw [if_pos hpruned]; rfl, hpruned⟩
    · exact .inr ⟨by rw [if_neg hpruned]; rfl, hpruned⟩
  · cases h

/-- Without a patch there is nothing to be removed. -/
lemma of_disconnectPatch_none (h : d.disconnectPatch = none) :
    d.profileIds = [] ∧ d.orderHasProviderEntries = false ∧ d.prunedModelKeys = [] := by
  unfold disconnectPatch at h
  split at h
  · cases h
  · rename_i hnothing
    simpa using hnothing

lemma inner_auth_configAfter {patch : JsonFields} (h : d.disconnectPatch = some patch) :
    JsonFields.inner d.configAfter "auth" =
      mergeFields (JsonFields.inner d.config "auth") d.authPatch := by
  rw [configAfter, h]
  rcases disconnectPatch_eq h with ⟨rfl, -⟩ | ⟨rfl, -⟩
  · exact inner_mergeFields_object (by simp) rfl
  · exact inner_mergeFields_object (by simp) rfl

lemma inner_agents_configAfter (hpruned : d.prunedModelKeys ≠ []) :
    JsonFields.inner d.configAfter "agents" =
      mergeFields (JsonFields.inner d.config "agents") d.agentsPatch := by
  cases h : d.disconnectPatch with
  | none => exact absurd (of_disconnectPatch_none h).2.2 hpruned
  | some patch =>
      rw [configAfter, h]
      rcases disconnectPatch_eq h with ⟨-, hnil⟩ | ⟨rfl, -⟩
      · exact absurd hnil hpruned
      · exact inner_mergeFields_object (by simp) rfl

lemma inner_agents_configAfter_of_nil (hpruned : d.prunedModelKeys = []) :
    JsonFields.inner d.configAfter "agents" = JsonFields.inner d.config "agents" := by
  cases h : d.disconnectPatch with
  | none => rw [configAfter, h]
  | some patch =>
      rw [configAfter, h]
      rcases disconnectPatch_eq h with ⟨rfl, -⟩ | ⟨-, hne⟩
      · rw [JsonFields.inner, lookup_mergeFields_of_ne (by decide), JsonFields.inner]
      · exact absurd hpruned hne

/-- **The profiles after a disconnect** are those that are not removed, as they were. -/
lemma authProfiles_configAfter : authProfiles d.configAfter =
    (authProfiles d.config).filter fun entry => entry.1 ∉ d.profileIds := by
  cases hpatch : d.disconnectPatch with
  | none =>
      rw [configAfter, hpatch, (of_disconnectPatch_none hpatch).1]
      exact (List.filter_eq_self.mpr fun entry _ => by simp).symm
  | some patch =>
      have hnodup : (d.authPatch.map Prod.fst).Nodup := by simp [authPatch]
      have hprofiles : d.authPatch.lookup "profiles" =
          some (.object (d.profileIds.map (·, .null))) := rfl
      rw [authProfiles_eq, authProfiles_eq, inner_auth_configAfter hpatch,
        inner_mergeFields_object hnodup hprofiles, mergeFields_of_null fun field hfield => ?_]
      · rw [List.map_map]
        exact List.filter_congr fun entry _ => by simp
      · obtain ⟨id, -, rfl⟩ := List.mem_map.mp hfield
        rfl

lemma authOrder_configAfter {patch : JsonFields} (h : d.disconnectPatch = some patch) :
    authOrder d.configAfter = mergeFields (authOrder d.config) d.ordersPatch := by
  have hnodup : (d.authPatch.map Prod.fst).Nodup := by simp [authPatch]
  have horder : d.authPatch.lookup "order" = some (.object d.ordersPatch) := rfl
  rw [authOrder_eq, authOrder_eq, inner_auth_configAfter h, inner_mergeFields_object hnodup horder]

/-! #### Models -/

lemma mem_names_foldl {entries : List (String × Json)} {fields : JsonFields} {name : String}
    (h : name ∈ fields.map Prod.fst ∨ name ∈ entries.map Prod.fst) :
    name ∈ (entries.foldl (fun fields entry => writeField fields entry.1 entry.2)
      fields).map Prod.fst := by
  induction entries generalizing fields with
  | nil => exact h.resolve_right List.not_mem_nil
  | cons entry entries ih =>
      refine ih ?_
      rw [List.map_cons, List.mem_cons] at h
      rcases h with hfields | rfl | hentries
      · exact .inl (mem_names_writeField.mpr (.inr hfields))
      · exact .inl (mem_names_writeField.mpr (.inl rfl))
      · exact .inr hentries

lemma null_of_mem_writeField {fields : JsonFields} {name : String}
    (h : ∀ field ∈ fields, field.2 = .null) :
    ∀ field ∈ writeField fields name .null, field.2 = .null := by
  induction fields with
  | nil =>
      rintro field hmem
      obtain rfl := List.mem_singleton.mp hmem
      rfl
  | cons first fields ih =>
      obtain ⟨hfirst, hrest⟩ := List.forall_mem_cons.mp h
      rw [writeField]
      split_ifs
      · exact List.forall_mem_cons.mpr ⟨rfl, hrest⟩
      · exact List.forall_mem_cons.mpr ⟨hfirst, ih hrest⟩

/-- The object that removes some fields. -/
lemma null_of_mem_foldl {names : List String} {fields : JsonFields}
    (h : ∀ field ∈ fields, field.2 = .null) :
    ∀ field ∈ (names.map fun name => (name, Json.null)).foldl
      (fun fields entry => writeField fields entry.1 entry.2) fields, field.2 = .null := by
  induction names generalizing fields with
  | nil => exact h
  | cons name names ih => exact ih (null_of_mem_writeField h)

/-- **The models after a disconnect**: none of them is of the provider. -/
lemma enabledKeys_configAfter : enabledKeys d.configAfter d.providerId = [] := by
  by_cases hpruned : d.prunedModelKeys = []
  · have hmodels : gatewayDefaultModels d.configAfter = gatewayDefaultModels d.config := by
      rw [gatewayDefaultModels_eq, gatewayDefaultModels_eq,
        inner_agents_configAfter_of_nil hpruned]
    rw [enabledKeys, enabledDefaultModelKeys, hmodels]
    exact hpruned
  · have hnull : ∀ field ∈ d.modelsPatch, field.2 = .null := null_of_mem_foldl (by simp)
    have hmodels : gatewayDefaultModels d.configAfter =
        mergeFields (gatewayDefaultModels d.config) d.modelsPatch := by
      have hagents : d.agentsPatch.lookup "defaults" =
          some (.object [("models", .object d.modelsPatch)]) := rfl
      rw [gatewayDefaultModels_eq, gatewayDefaultModels_eq, inner_agents_configAfter hpruned,
        inner_mergeFields_object (by simp [agentsPatch]) hagents,
        inner_mergeFields_object (by simp) rfl]
    rw [enabledKeys, enabledDefaultModelKeys, hmodels, mergeFields_of_null hnull,
      List.filter_eq_nil_iff]
    intro key hkey hmatch
    obtain ⟨entry, hentry, rfl⟩ := List.mem_map.mp hkey
    obtain ⟨hmem, hkept⟩ := List.mem_filter.mp hentry
    -- The key is one of those that are pruned.
    have hpruned' : entry.1 ∈ d.prunedModelKeys :=
      List.mem_filter.mpr ⟨List.mem_map.mpr ⟨entry, hmem, rfl⟩, hmatch⟩
    refine of_decide_eq_true hkept (mem_names_foldl (.inr ?_))
    rw [List.map_map]
    exact List.mem_map.mpr ⟨entry.1, hpruned', rfl⟩

/-! #### Orders -/

lemma get_foldl_clear {entries : List (String × Json)} {providerId : String}
    (order : OrderedMap String (Option (List String))) (key : String) :
    (entries.foldl (fun order entry =>
        if entry.1 = providerId then order else order.set entry.1 none) order).get key =
      if key ≠ providerId ∧ key ∈ entries.map Prod.fst then some none else order.get key := by
  induction entries generalizing order with
  | nil => simp
  | cons entry entries ih =>
      have hcons : ∀ hne : key ≠ entry.1,
          key ∈ (entry :: entries).map Prod.fst ↔ key ∈ entries.map Prod.fst := fun hne => by
        rw [List.map_cons, List.mem_cons, or_iff_right hne]
      rw [List.foldl_cons, ih]
      by_cases hentry : entry.1 = providerId
      · rw [if_pos hentry]
        refine if_congr (and_congr_right fun hkey => ?_) rfl rfl
        exact (hcons fun heq => hkey (heq.trans hentry)).symm
      · rw [if_neg hentry, OrderedMap.get_set]
        by_cases hkey : key = entry.1
        · have hmem : key ∈ (entry :: entries).map Prod.fst :=
            List.mem_cons.mpr (.inl hkey)
          rw [if_pos hkey, ite_self, if_pos ⟨fun heq => hentry (hkey.symm.trans heq), hmem⟩]
        · rw [if_neg hkey]
          exact if_congr (and_congr_right fun _ => (hcons hkey).symm) rfl rfl

lemma mem_keys_iff {ν : Type} {m : OrderedMap String ν} {key : String} :
    key ∈ m.entries.map Prod.fst ↔ m.has key = true := by
  rw [OrderedMap.has_eq_true]
  constructor
  · intro h
    obtain ⟨⟨_, value⟩, hmem, rfl⟩ := List.mem_map.mp h
    exact ⟨value, OrderedMap.mem_entries_iff.mp hmem⟩
  · rintro ⟨value, hget⟩
    exact List.mem_map.mpr ⟨(key, value), OrderedMap.mem_entries_iff.mpr hget, rfl⟩

/-- What is written of an order. -/
lemma get_nextAuthOrder (key : String) : d.nextAuthOrder.get key =
    if d.siblingProfileIdsByProvider.has key = true then some (some (d.siblingOrder key))
    else if key = d.providerId then some (some [])
    else if identitiesMatch key d.providerId = true ∧
        key ∈ (authOrder d.config).map Prod.fst then some none
    else none := by
  have hcleared : key ∈ ((providerIdentityEntries (authOrder d.config) d.providerId).1 ++
      (providerIdentityEntries (authOrder d.config) d.providerId).2).map Prod.fst ↔
      identitiesMatch key d.providerId = true ∧ key ∈ (authOrder d.config).map Prod.fst := by
    simp only [List.mem_map, mem_providerIdentityEntries]
    constructor
    · rintro ⟨entry, ⟨hmem, hmatch⟩, rfl⟩
      exact ⟨hmatch, entry, hmem, rfl⟩
    · rintro ⟨hmatch, entry, hmem, rfl⟩
      exact ⟨entry, ⟨hmem, hmatch⟩, rfl⟩
  have hfold := OrderedMap.get_foldl_set (fun key => some (d.siblingOrder key))
    (d.siblingProfileIdsByProvider.entries.map Prod.fst)
  simp only [List.foldl_map] at hfold
  rw [nextAuthOrder, hfold, get_foldl_clear]
  refine if_congr mem_keys_iff rfl ?_
  by_cases hkey : key = d.providerId
  · rw [if_neg fun h => h.1 hkey, if_pos hkey, hkey, OrderedMap.get_set_self]
  · rw [if_neg hkey, OrderedMap.get_set_of_ne _ _ hkey, OrderedMap.get_empty]
    exact if_congr ((and_iff_right hkey).trans hcleared) rfl rfl

/-- The order of a provider that is not disconnected and owns no removed profile. -/
lemma get_nextAuthOrder_of_other {key : String} (hmatch : identitiesMatch key d.providerId = false)
    (hsibling : d.siblingProfileIdsByProvider.has key = false) :
    d.nextAuthOrder.get key = none := by
  have hself : key ≠ d.providerId := by
    rintro rfl
    rw [identitiesMatch_iff.mpr rfl] at hmatch
    cases hmatch
  rw [get_nextAuthOrder, if_neg (by rw [hsibling]; nofun), if_neg hself,
    if_neg fun h => by rw [hmatch] at h; cases h.1]

lemma lookup_ordersPatch (key : String) :
    d.ordersPatch.lookup key = (d.nextAuthOrder.get key).map orderPatch :=
  OrderedMap.lookup_map_entries d.nextAuthOrder orderPatch key

lemma nodup_ordersPatch : (d.ordersPatch.map Prod.fst).Nodup := by
  have hnodup := d.nextAuthOrder.nodupKeys
  rw [ordersPatch, List.map_map]
  exact hnodup

/-- **An order after a disconnect.** -/
lemma lookup_authOrder_configAfter {patch : JsonFields} (h : d.disconnectPatch = some patch)
    (key : String) : (authOrder d.configAfter).lookup key =
      match d.nextAuthOrder.get key with
      | none => (authOrder d.config).lookup key
      | some none => none
      | some (some profileIds) => some (jsonStrings profileIds) := by
  rw [authOrder_configAfter h, lookup_mergeFields nodup_ordersPatch, lookup_ordersPatch]
  cases d.nextAuthOrder.get key with
  | none => rfl
  | some order =>
      cases order with
      | none => rfl
      | some profileIds => rfl

lemma namesProfile_of_orderHasEntries {value : Json}
    (h : orderHasEntries (some value) = false) : namesProfile value = false := by
  cases value with
  | array items =>
      cases items with
      | nil => rfl
      | cons item items => cases h
  | string text => exact h
  | _ => rfl

/-- Something is written of every order of the disconnected provider. -/
lemma get_nextAuthOrder_of_match {key : String}
    (hmatch : identitiesMatch key d.providerId = true) :
    d.nextAuthOrder.get key = some none ∨ d.nextAuthOrder.get key = some (some []) ∨
      (d.nextAuthOrder.get key = none ∧ (authOrder d.config).lookup key = none) := by
  have hsibling : ¬ d.siblingProfileIdsByProvider.has key = true := fun hhas => by
    have hnot := (has_siblings.mp hhas).2
    rw [hmatch] at hnot
    cases hnot
  rw [get_nextAuthOrder, if_neg hsibling]
  by_cases hself : key = d.providerId
  · exact .inr (.inl (if_pos hself))
  · rw [if_neg hself]
    by_cases hkey : key ∈ (authOrder d.config).map Prod.fst
    · exact .inl (if_pos ⟨hmatch, hkey⟩)
    · exact .inr (.inr ⟨if_neg fun h => hkey h.2, lookup_eq_none_of_notMem hkey⟩)

/-- The orders of the disconnected provider name no profile. -/
lemma namesProfile_configAfter (hnames : ((authOrder d.config).map Prod.fst).Nodup)
    {key : String} {value : Json} (hentry : (key, value) ∈ authOrder d.configAfter)
    (hmatch : identitiesMatch key d.providerId = true) : namesProfile value = false := by
  cases hpatch : d.disconnectPatch with
  | none =>
      rw [configAfter, hpatch] at hentry
      have hlookup := lookup_of_mem hnames hentry
      have hhas : d.nextAuthOrder.has key = true := by
        rw [OrderedMap.has_eq_true]
        rcases get_nextAuthOrder_of_match hmatch with h | h | ⟨-, h⟩
        · exact ⟨_, h⟩
        · exact ⟨_, h⟩
        · rw [hlookup] at h
          cases h
      obtain ⟨⟨_, written⟩, hmem, rfl⟩ := List.mem_map.mp (mem_keys_iff.mpr hhas)
      have hnone := List.any_eq_false.mp (of_disconnectPatch_none hpatch).2.1 _ hmem
      rw [hlookup] at hnone
      exact namesProfile_of_orderHasEntries (Bool.eq_false_iff.mpr hnone)
  | some patch =>
      have hnodup : ((authOrder d.configAfter).map Prod.fst).Nodup := by
        rw [authOrder_configAfter hpatch]
        exact nodup_mergeFields hnames
      have hlookup := lookup_of_mem hnodup hentry
      rw [lookup_authOrder_configAfter hpatch] at hlookup
      rcases get_nextAuthOrder_of_match hmatch with h | h | ⟨h, hnone⟩
      · rw [h] at hlookup
        cases hlookup
      · rw [h] at hlookup
        rw [← Option.some.inj hlookup]
        rfl
      · rw [h] at hlookup
        exact absurd (hnone.symm.trans hlookup) nofun

/-- The orders of the providers that own no removed profile are as they were. -/
lemma lookup_authOrder_of_other {key : String} (hmatch : identitiesMatch key d.providerId = false)
    (howner : ∀ profileId ∈ d.profileIds,
      d.owner profileId ≠ some (canonicalProviderIdentity key)) :
    (authOrder d.configAfter).lookup key = (authOrder d.config).lookup key := by
  cases hpatch : d.disconnectPatch with
  | none => rw [configAfter, hpatch]
  | some patch =>
      have hsibling : d.siblingProfileIdsByProvider.has key = false := by
        refine Bool.eq_false_iff.mpr fun hhas => ?_
        obtain ⟨⟨profileId, hmem, hkey⟩, -⟩ := has_siblings.mp hhas
        -- The key of a sibling is in the canonical form.
        obtain ⟨owner, -, hcanonical⟩ := Option.map_eq_some_iff.mp hkey
        refine howner profileId hmem ?_
        rw [hkey, ← hcanonical, canonicalProviderIdentity_idem]
      rw [lookup_authOrder_configAfter hpatch, get_nextAuthOrder_of_other hmatch hsibling]

/-! #### Credentials -/

lemma configCredentials_configAfter :
    configCredentialProfileIdsForProvider d.configAfter d.providerId = [] := by
  rw [configCredentialProfileIdsForProvider, authProfiles_configAfter, List.filter_filter,
    List.map_eq_nil_iff, List.filter_eq_nil_iff]
  intro entry hentry hboth
  obtain ⟨hcredential, hkept⟩ := Bool.and_eq_true_iff.mp hboth
  refine of_decide_eq_true hkept (List.mem_eraseDups.mpr (List.mem_append_left _ ?_))
  exact List.mem_map.mpr ⟨entry, List.mem_filter.mpr ⟨hentry, hcredential⟩, rfl⟩

lemma lookup_authProfiles_of_mem {profileId : String} (h : profileId ∈ d.profileIds) :
    (authProfiles d.configAfter).lookup profileId = none := by
  refine lookup_eq_none_of_notMem fun hmem => ?_
  rw [authProfiles_configAfter] at hmem
  obtain ⟨entry, hentry, rfl⟩ := List.mem_map.mp hmem
  exact of_decide_eq_true (List.mem_filter.mp hentry).2 h

lemma lookup_authProfiles_of_notMem {profileId : String} (h : profileId ∉ d.profileIds) :
    (authProfiles d.configAfter).lookup profileId = (authProfiles d.config).lookup profileId := by
  rw [authProfiles_configAfter]
  induction authProfiles d.config with
  | nil => rfl
  | cons entry entries ih =>
      obtain ⟨key, value⟩ := entry
      rw [lookup_cons]
      by_cases hkept : key ∉ d.profileIds
      · rw [List.filter_cons_of_pos (by simpa using hkept), lookup_cons, ih]
      · rw [List.filter_cons_of_neg (by simpa using hkept), ih, if_neg]
        rintro rfl
        exact hkept h

/-- No credential of the provider is left in the configuration. -/
lemma durableCredentialSurvives_configAfter
    (hnames : ((authOrder d.config).map Prod.fst).Nodup) :
    durableCredentialSurvives d.configAfter [d.providerId] d.profileIds = false := by
  have hprofiles : d.profileIds.any (fun id =>
      (recordValue ((authProfiles d.configAfter).lookup id)).isSome) = false := by
    refine List.any_eq_false.mpr fun id hid => ?_
    rw [lookup_authProfiles_of_mem hid]
    nofun
  have horders : ((providerIdentityEntries (authOrder d.configAfter) d.providerId).1 ++
      (providerIdentityEntries (authOrder d.configAfter) d.providerId).2).any
        (fun entry => namesProfile entry.2) = false := by
    refine List.any_eq_false.mpr fun entry hentry => ?_
    obtain ⟨hmem, hmatch⟩ := mem_providerIdentityEntries.mp hentry
    rw [namesProfile_configAfter hnames hmem hmatch]
    nofun
  rw [durableCredentialSurvives, hprofiles, List.any_cons, List.any_nil,
    configCredentials_configAfter, List.any_cons, List.any_nil, horders]
  rfl

/-! #### Logouts -/

lemma nodup_eraseDups (texts : List String) : texts.eraseDups.Nodup := by
  induction hlength : texts.length using Nat.strong_induction_on generalizing texts with
  | _ n ih =>
      cases texts with
      | nil => exact List.nodup_nil
      | cons text texts =>
          rw [List.eraseDups_cons, List.nodup_cons]
          constructor
          · rw [List.mem_eraseDups, List.mem_filter]
            simp
          · refine ih _ ?_ _ rfl
            rw [← hlength, List.length_cons]
            exact Nat.lt_succ_of_le (List.length_filter_le _ _)

lemma mem_logoutsOf {agentIds : List String} {provider : String} {profileIds : Option (List String)}
    {logout : LogoutParams} (h : logout ∈ logoutsOf agentIds provider profileIds) :
    logout.provider = provider ∧ logout.profileIds = profileIds := by
  rcases List.mem_cons.mp h with rfl | hmem
  · exact ⟨rfl, rfl⟩
  · obtain ⟨agent, -, rfl⟩ := List.mem_map.mp hmem
    exact ⟨rfl, rfl⟩

/-- A target is logged out once by the logouts of its provider. -/
lemma countP_logoutsOf {agentIds : List String} (hnodup : agentIds.Nodup) {agent : Option String}
    (hagent : agent ∈ none :: agentIds.map some) (provider provider' : String)
    (profileIds : Option (List String)) :
    (logoutsOf agentIds provider profileIds).countP
        (fun logout => logout.provider = provider' ∧ logout.agent = agent) =
      if provider = provider' then 1 else 0 := by
  have hagents : (logoutsOf agentIds provider profileIds).map (·.agent) =
      none :: agentIds.map some := by
    rw [logoutsOf, List.map_cons, List.map_map]
    rfl
  have htargets : (none :: agentIds.map some).Nodup := by
    refine List.nodup_cons.mpr ⟨by simp, hnodup.map (Option.some_injective _)⟩
  split_ifs with hprovider
  · rw [← List.count_eq_one_of_mem htargets hagent, ← hagents, List.count, List.countP_map]
    refine List.countP_congr fun logout hlogout => ?_
    simp [(mem_logoutsOf hlogout).1, hprovider]
  · refine List.countP_eq_zero.mpr fun logout hlogout => ?_
    simp [(mem_logoutsOf hlogout).1, hprovider]

lemma countP_siblingLogouts {agentIds : List String} (hnodup : agentIds.Nodup)
    {agent : Option String} (hagent : agent ∈ none :: agentIds.map some) (provider : String)
    {entries : List (String × List String)} (hentries : (entries.map Prod.fst).Nodup) :
    (entries.flatMap fun (provider, profileIds) =>
        logoutsOf agentIds provider (some profileIds)).countP
        (fun logout => logout.provider = provider ∧ logout.agent = agent) =
      if provider ∈ entries.map Prod.fst then 1 else 0 := by
  induction entries with
  | nil => rfl
  | cons entry entries ih =>
      obtain ⟨hfirst, hrest⟩ := List.nodup_cons.mp hentries
      rw [List.flatMap_cons, List.countP_append, ih hrest, countP_logoutsOf hnodup hagent]
      by_cases hprovider : entry.1 = provider
      · subst hprovider
        rw [if_pos rfl, if_neg hfirst, List.map_cons, if_pos List.mem_cons_self]
      · rw [if_neg hprovider, Nat.zero_add]
        refine if_congr ?_ rfl rfl
        rw [List.map_cons, List.mem_cons, or_iff_right (Ne.symm hprovider)]

/-- **The logouts**: the disconnected provider and each other owner of a removed profile is logged
out once from the default store and from every agent. -/
lemma countP_logoutParams {provider : String} (hprovider : provider = d.providerId ∨
      (∃ profileId ∈ d.profileIds, d.owner profileId = some provider) ∧
        identitiesMatch provider d.providerId = false)
    {agent : Option String}
    (hagent : agent ∈ none :: (configuredLogoutAgentIds d.config).map some) :
    d.logoutParams.countP
      (fun logout => logout.provider = provider ∧ logout.agent = agent) = 1 := by
  have hself : identitiesMatch d.providerId d.providerId = true := identitiesMatch_iff.mpr rfl
  have hagents : (configuredLogoutAgentIds d.config).Nodup := nodup_eraseDups _
  rw [logoutParams, List.countP_append, countP_logoutsOf hagents hagent,
    countP_siblingLogouts hagents hagent provider d.siblingProfileIdsByProvider.nodupKeys]
  simp only [mem_keys_iff, has_siblings]
  rcases hprovider with rfl | ⟨howner, hmatch⟩
  · rw [if_pos rfl, if_neg fun h => by rw [hself] at h; cases h.2]
  · have hne : d.providerId ≠ provider := by
      rintro rfl
      rw [hself] at hmatch
      cases hmatch
    rw [if_neg hne, if_pos ⟨howner, hmatch⟩]

/-- The logouts of the others name removed profiles only, which are theirs. -/
lemma profileIds_of_mem_logoutParams {logout : LogoutParams} (h : logout ∈ d.logoutParams) :
    (logout.provider = d.providerId ∧ logout.profileIds = none) ∨
      ∃ sharedProfileIds, logout.profileIds = some sharedProfileIds ∧
        ∀ profileId ∈ sharedProfileIds, profileId ∈ d.profileIds ∧
          d.owner profileId = some logout.provider := by
  rcases List.mem_append.mp h with hmem | hmem
  · exact .inl (mem_logoutsOf hmem)
  · obtain ⟨⟨provider, sharedProfileIds⟩, hentry, hlogout⟩ := List.mem_flatMap.mp hmem
    obtain ⟨hprovider, hshared⟩ := mem_logoutsOf hlogout
    refine .inr ⟨sharedProfileIds, hshared, fun profileId hid => ?_⟩
    rw [hprovider]
    exact (get_siblings (OrderedMap.mem_entries_iff.mp hentry)).mp hid

/-- What a plan is to do. -/
structure PlanOk (d : Disconnect) : Prop where
  removed : ∀ profileId ∈ d.profileIds, (authProfiles d.configAfter).lookup profileId = none
  credentials : configCredentialProfileIdsForProvider d.configAfter d.providerId = []
  orders : ∀ key value, (key, value) ∈ authOrder d.configAfter →
    identitiesMatch key d.providerId = true → namesProfile value = false
  models : ∀ key ∈ enabledDefaultModelKeys d.configAfter,
    modelRefMatchesProvider key d.providerId = false
  durable : ∀ gateway, durableCredentialStore ∉
    providerStillHasCredentials [d.providerId] d.profileIds d.configAfter gateway
  otherProfiles : ∀ profileId, profileId ∉ d.profileIds →
    (authProfiles d.configAfter).lookup profileId = (authProfiles d.config).lookup profileId
  otherOrders : ∀ key, identitiesMatch key d.providerId = false →
    (∀ profileId ∈ d.profileIds, d.owner profileId ≠ some (canonicalProviderIdentity key)) →
    (authOrder d.configAfter).lookup key = (authOrder d.config).lookup key
  logouts : ∀ provider, (provider = d.providerId ∨
      (∃ profileId ∈ d.profileIds, d.owner profileId = some provider) ∧
        identitiesMatch provider d.providerId = false) →
    ∀ agent ∈ none :: (configuredLogoutAgentIds d.config).map some,
      d.logoutParams.countP
        (fun logout => logout.provider = provider ∧ logout.agent = agent) = 1
  siblingLogouts : ∀ logout ∈ d.logoutParams, logout.provider ≠ d.providerId →
    ∃ sharedProfileIds, logout.profileIds = some sharedProfileIds ∧
      ∀ profileId ∈ sharedProfileIds, profileId ∈ d.profileIds

end Disconnect

end ConfigAfter

/-- A profile is shared: the provider and another one declare it. -/
def sharedDisconnect : Disconnect where
  config :=
    [("auth", .object
        [("profiles", .object
            [("opencode:default", .object [("type", .string "api_key")]),
              ("opencode-go:default", .object [("type", .string "api_key")]),
              ("zai:default", .object [("type", .string "api_key")])]),
          ("order", .object [("opencode-go", jsonStrings ["opencode-go:default"]),
            ("zai", jsonStrings ["zai:default"])])]),
      ("agents", .object
        [("defaults", .object [("models", .object [("opencode-go/kimi", .object []),
            ("zai/glm", .object [])])]),
          ("list", .array [.object [("id", .string "main")]])])]
  providerId := "opencode-go"
  ownership := some [("opencode-go", ["opencode:default", "opencode-go:default"])]

example : (sharedDisconnect.profileIds, (authProfiles sharedDisconnect.configAfter).map Prod.fst,
    sharedDisconnect.logoutParams.map fun logout => (logout.provider, logout.agent)) =
      (["opencode-go:default", "opencode:default"], ["zai:default"],
        [("opencode-go", none), ("opencode-go", some "main"), ("opencode", none),
          ("opencode", some "main")]) := by
  decide +kernel

end Opzava.Provisioning
