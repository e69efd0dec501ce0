import Opzava.Provisioning.ConfigFrames

/-!
What the patches of the gateway's configuration leave as it is: the agents, the plugins, the models
and the providers of other subsystems.

* `AddedAgents`: the agents that a patch adds have different ids, which no other agent has.
* `ForeignLeft`: what is not owned here stays.
* `config_patches_leave_foreign`: every patch that is built here leaves it.
-/

namespace Opzava.Provisioning

open Opzava.Library Opzava.Library.JsonFields
open DevBoard (DomainError)

/-! ### The owned agents -/

variable {config config' : JsonFields} {agent : JsonFields} {id : String}

lemma agentIdOf_of_written (h : writtenAgentId agent = some id) :
    agentIdOf agent = stringValue (some (.string id)) := by
  rw [writtenAgentId] at h
  rw [agentIdOf]
  split at h
  · next written hlookup => rw [hlookup, Option.some.inj h]
  · cases h

/-- An id of a subagent is one after it is trimmed, too. -/
lemma isOwnedAgent_of_subagent (h : writtenAgentId agent = some id)
    (hsubagent : jsStartsWith id "subagent-" = true) : isOwnedAgent agent = true := by
  obtain ⟨rest, hrest⟩ : "subagent-".toList <+: id.toList :=
    List.isPrefixOf_iff_prefix.mp hsubagent
  have htrimmed : "subagent-".toList <+: jsTrim id.toList := by
    rw [← hrest]
    refine isPrefix_jsTrim_append fun c hc => ?_
    have hall : ("subagent-".toList.all fun c => !isJsSpace c) = true := by decide
    exact (Bool.not_eq_true' _).mp (List.all_eq_true.mp hall c hc)
  have hid : agentIdOf agent = some (String.ofList (jsTrim id.toList)) := by
    rw [agentIdOf_of_written h, stringValue]
    refine if_neg fun hblank => ?_
    rw [hblank, List.prefix_nil] at htrimmed
    exact absurd htrimmed (by decide)
  rw [isOwnedAgent, hid]
  refine (Bool.or_eq_true _ _).mpr (.inr ?_)
  have htoList : (String.ofList (jsTrim id.toList)).toList = jsTrim id.toList :=
    String.toList_ofList
  rw [jsStartsWith, List.isPrefixOf_iff_prefix, htoList]
  exact htrimmed

lemma isOwnedAgent_of_askAdmin (h : writtenAgentId agent = some askAdminAgentId) :
    isOwnedAgent agent = true := by
  have hid : agentIdOf agent = some askAdminAgentId := by
    rw [agentIdOf_of_written h]
    decide
  rw [isOwnedAgent, hid]
  rfl

/-- The agents that a patch adds: owned ones, or one whose id nobody has. -/
structure AddedAgents (kept added : List JsonFields) : Prop where
  /-- No id is written twice. -/
  ids : (added.filterMap writtenAgentId).Nodup
  fresh : ∀ agent ∈ added, ∀ id, writtenAgentId agent = some id →
    ∀ other ∈ kept, writtenAgentId other ≠ some id

lemma count_filterMap_written (agents : List JsonFields) :
    (agents.filter fun agent => writtenAgentId agent = some id).length =
      (agents.filterMap writtenAgentId).count id := by
  induction agents with
  | nil => rfl
  | cons agent agents ih =>
      rw [List.filter_cons, List.filterMap_cons]
      cases hagent : writtenAgentId agent with
      | none => simp [ih]
      | some written =>
          by_cases hid : written = id
          · simp [hid, ih]
          · simp [hid, ih]

/-- There is one entry with the id of an added agent. -/
lemma AddedAgents.unique {kept added : List JsonFields} (h : AddedAgents kept added)
    (hmem : agent ∈ added) (hid : writtenAgentId agent = some id) :
    ((kept ++ added).filter fun other => writtenAgentId other = some id).length = 1 := by
  have hkept : kept.filter (fun other => writtenAgentId other = some id) = [] := by
    refine List.filter_eq_nil_iff.mpr fun other hother => ?_
    simpa using h.fresh agent hmem id hid other hother
  rw [List.filter_append, hkept, List.nil_append, count_filterMap_written]
  exact List.count_eq_one_of_mem h.ids (List.mem_filterMap.mpr ⟨agent, hmem, hid⟩)

/-! ### The ids of the canonical agents -/

/-- The ids that pass the check are different from each other, from those seen before and from that
of the orchestrator. -/
lemma checkSubagentIds_ok {seen : List String} {subagents : List OrchestratorSubagentRole}
    (h : checkSubagentIds seen subagents = .ok ()) :
    (subagents.map (·.agentId)).Nodup ∧
      ∀ subagent ∈ subagents, subagent.agentId ≠ askAdminAgentId ∧ subagent.agentId ∉ seen := by
  induction subagents generalizing seen with
  | nil => exact ⟨List.nodup_nil, nofun⟩
  | cons subagent rest ih =>
      rw [checkSubagentIds] at h
      split_ifs at h with hreserved hseen
      obtain ⟨hnodup, hrest⟩ := ih h
      refine ⟨List.nodup_cons.mpr ⟨fun hmem => ?_, hnodup⟩, fun other hother => ?_⟩
      · obtain ⟨other, hother, hid⟩ := List.mem_map.mp hmem
        exact (hrest other hother).2 (hid ▸ List.mem_cons_self)
      · rcases List.mem_cons.mp hother with rfl | hother
        · exact ⟨hreserved, hseen⟩
        · exact ⟨(hrest other hother).1, fun hold =>
            (hrest other hother).2 (List.mem_cons_of_mem _ hold)⟩

lemma writtenAgentId_askAdmin (model : String) (allowAgents : List String) :
    writtenAgentId (buildAskAdminAgentEntry model allowAgents) = some askAdminAgentId := rfl

lemma writtenAgentId_subagent (subagent : OrchestratorSubagentRole) :
    writtenAgentId (buildSubagentAgentEntry subagent) = some subagent.agentId := rfl

/-- The canonical agents beside those that are not owned. -/
lemma addedAgents_canonical {subagents : List OrchestratorSubagentRole} {model : String}
    {canonical kept : List JsonFields}
    (hbuild : buildOrchestratorAgentConfig subagents model = .ok canonical)
    (hsubagents : ∀ subagent ∈ subagents, jsStartsWith subagent.agentId "subagent-" = true)
    (hforeign : ∀ agent ∈ kept, isOwnedAgent agent = false) : AddedAgents kept canonical := by
  rw [buildOrchestratorAgentConfig] at hbuild
  cases hcheck : checkSubagentIds [] subagents with
  | error error => rw [hcheck] at hbuild; cases hbuild
  | ok _ =>
      rw [hcheck] at hbuild
      cases hbuild
      obtain ⟨hnodup, hids⟩ := checkSubagentIds_ok hcheck
      have hwritten : (subagents.map buildSubagentAgentEntry).filterMap writtenAgentId =
          subagents.map (·.agentId) := by
        rw [List.filterMap_map, ← List.filterMap_eq_map]
        rfl
      refine ⟨?_, fun agent hmem id hid other hother hsame => ?_⟩
      · rw [List.filterMap_cons, writtenAgentId_askAdmin, hwritten]
        refine List.nodup_cons.mpr ⟨fun hmem => ?_, hnodup⟩
        obtain ⟨subagent, hmem, hid⟩ := List.mem_map.mp hmem
        exact (hids subagent hmem).1 hid
      · have howned : isOwnedAgent other = true := by
          rcases List.mem_cons.mp hmem with rfl | hmem
          · rw [writtenAgentId_askAdmin] at hid
            exact isOwnedAgent_of_askAdmin (hid ▸ hsame)
          · obtain ⟨subagent, hsubagent, rfl⟩ := List.mem_map.mp hmem
            rw [writtenAgentId_subagent] at hid
            exact isOwnedAgent_of_subagent hsame
              (Option.some.inj hid ▸ hsubagents subagent hsubagent)
        rw [hforeign other hother] at howned
        cases howned

lemma startsWith_connectedProviderSubagents {catalog : List ModelProviderCatalogEntry}
    {connections : List ProviderConnection} {connected : List String} {providerId : String} :
    ∀ subagent ∈ connectedProviderSubagents catalog connections connected providerId,
      jsStartsWith subagent.agentId "subagent-" = true := by
  intro subagent hmem
  obtain ⟨connection, -, rfl⟩ := List.mem_map.mp hmem
  rw [jsStartsWith, List.isPrefixOf_iff_prefix, String.toList_append]
  exact List.prefix_append _ _

/-! ### What is left -/

/-- The agents that are not owned here stay in their order, and each agent that is added has an id
of its own. -/
def AgentsLeft (config config' : JsonFields) : Prop :=
  ∃ kept added : List JsonFields,
    agentItems config' = (kept ++ added).map .object ∧ kept.Sublist (agentsList config) ∧
      (kept.filter fun agent => !isOwnedAgent agent) = foreignAgents config ∧
      ∀ agent ∈ added, ∀ id, writtenAgentId agent = some id →
        ((kept ++ added).filter fun other => writtenAgentId other = some id).length = 1

/-- What a patch leaves of a configuration. -/
structure ForeignLeft (source : PatchSource) (config config' : JsonFields) : Prop where
  agents : AgentsLeft config config'
  plugins : ∀ plugin ∈ allowedPlugins config, plugin ∈ allowedPlugins config'
  /-- A model stays unless it is toggled off; one that is made routable stays if it is an object. -/
  models : ∀ key value, (gatewayDefaultModels config).lookup key = some value →
    source.disabledRef config ≠ some key →
    (source.enabledRef config = some key → ∃ fields, value = .object fields) →
    (gatewayDefaultModels config').lookup key = some value
  providers : ∀ key value, (providerEntries config).lookup key = some value →
    (∀ entry, source.registration config ≠ some (key, entry)) →
    (providerEntries config').lookup key = some value
  /-- A provider for which a model is registered keeps its other models and fields. -/
  registered : ∀ key entry fields, source.registration config = some (key, entry) →
    source.registeringProvider.bind (configProviderEntry config) = some (key, fields) →
    ∃ fields' model, (providerEntries config').lookup key = some (.object fields') ∧
      (∀ name, name ≠ "models" → fields'.lookup name = fields.lookup name) ∧
      fields'.lookup "models" =
        some (.array (arrayValue (fields.lookup "models") ++ [.object model]))

/-- What is assumed of a configuration: there is no null in it, the agents are objects, and the
plugins are texts that are not blank. -/
structure WellFormedConfig (config : JsonFields) : Prop where
  plain : PlainFields config
  agents : ∀ item ∈ agentItems config, ∃ fields, item = .object fields
  plugins : ∀ item ∈ allowedPlugins config, ∃ text : String,
    item = .string text ∧ jsTrim text.toList ≠ []

/-! ### The agents that are left -/

lemma agentItems_map (h : ∀ item ∈ agentItems config, ∃ fields, item = .object fields) :
    agentItems config = (agentsList config).map .object := by
  have hitems : ∀ items : List Json, (∀ item ∈ items, ∃ fields, item = .object fields) →
      items = (items.filterMap isRecord).map .object := by
    intro items hitems
    induction items with
    | nil => rfl
    | cons item items ih =>
        obtain ⟨fields, rfl⟩ := hitems _ List.mem_cons_self
        have hrest := ih fun other hother => hitems other (List.mem_cons_of_mem _ hother)
        calc Json.object fields :: items
            = .object fields :: (items.filterMap isRecord).map .object := by rw [← hrest]
          _ = ((Json.object fields :: items).filterMap isRecord).map .object := rfl
  exact hitems _ h

/-- The agents of a patch that leaves the list. -/
lemma agents_left {config' : JsonFields} {list allow : Option (List Json)}
    {models registry : JsonFields} {kept added : List JsonFields}
    (heffect : PatchEffect config config' list allow models registry)
    (hlist : list.getD (agentItems config) = (kept ++ added).map .object)
    (hsublist : kept.Sublist (agentsList config))
    (hforeign : (kept.filter fun agent => !isOwnedAgent agent) = foreignAgents config)
    (hadded : AddedAgents kept added) :
    AgentsLeft config config' :=
  ⟨kept, added, heffect.list.trans hlist, hsublist, hforeign,
    fun _ hmem _ hid => hadded.unique hmem hid⟩

lemma addedAgents_nil {kept : List JsonFields} : AddedAgents kept [] :=
  ⟨List.nodup_nil, nofun⟩

lemma filter_foreignAgents :
    ((foreignAgents config).filter fun agent => !isOwnedAgent agent) = foreignAgents config := by
  rw [foreignAgents, List.filter_filter]
  exact List.filter_congr fun agent _ => Bool.and_self _

lemma isOwnedAgent_of_mem_foreign (h : agent ∈ foreignAgents config) :
    isOwnedAgent agent = false := by
  simpa using (List.mem_filter.mp h).2

/-! ### The models that are left -/

lemma wellFormed_models (h : WellFormedConfig config) :
    PlainFields (gatewayDefaultModels config) := by
  rw [gatewayDefaultModels_eq]
  exact h.plain.inner.inner.inner

/-- One model is made routable. -/
lemma models_left_enabled {models : JsonFields} {key ref : String} {value : Json}
    (hget : models.lookup key = some value)
    (hobject : ref = key → ∃ fields, value = .object fields) :
    (mergeFields models [(ref, .object [])]).lookup key = some value := by
  by_cases hkey : key = ref
  · subst hkey
    obtain ⟨fields, rfl⟩ := hobject rfl
    rw [lookup_mergeFields_object, JsonFields.inner, hget, objectFields, mergeFields]
  · rw [lookup_mergeFields_of_ne hkey, hget]

/-- A model is elected: what was written for it is written again. -/
lemma models_left_elected {models : JsonFields} {key ref : String} {value : Json}
    (hplain : PlainFields models) (hget : models.lookup key = some value) :
    (mergeFields models (writeField models ref
      (match models.lookup ref with
        | none | some .null => .object []
        | some settings => settings))).lookup key = some value := by
  have hvalue : value.isPlain = true := isPlain_of_lookup hplain.values hget
  refine lookup_mergeFields_self (nodup_writeField hplain.nodup) hvalue ?_ hget
  rw [lookup_writeField]
  split_ifs with hkey
  · subst hkey
    rw [hget]
    cases value with
    | null => cases hvalue
    | _ => rfl
  · exact hget

/-! ### The providers that are left -/

lemma providerEntries_nodup (h : WellFormedConfig config) :
    ((providerEntries config).map Prod.fst).Nodup := by
  rw [providerEntries_eq]
  exact h.plain.inner.inner.nodup

/-- A registered model comes after the others of its provider. -/
lemma providerRegistryPatch_some {modelsPayload : Json}
    {discovery : Option PluginModelCatalogDiscovery} {providerId modelId key : String}
    {entry : JsonFields}
    (h : providerRegistryPatchForModel config modelsPayload discovery providerId modelId =
      .ok (some (key, entry))) :
    ∃ provider model,
      entry = registryEntry (configProviderEntry config providerId) provider model := by
  rw [providerRegistryPatchForModel] at h
  split at h
  · cases h
  · split at h
    · cases h
    · next provider model _ =>
        dsimp only at h
        split at h
        · cases h
        · cases h
          exact ⟨provider, model, rfl⟩

lemma lookup_configProviderEntry {providerId key : String} {fields : JsonFields}
    (hnodup : ((providerEntries config).map Prod.fst).Nodup)
    (h : configProviderEntry config providerId = some (key, fields)) :
    (providerEntries config).lookup key = some (.object fields) := by
  rw [configProviderEntry] at h
  split at h
  · next found hfound =>
      cases h
      exact lookup_of_mem hnodup (List.mem_of_find?_eq_some hfound)
  · cases h

/-- The entry of a provider after a model is registered for it. -/
lemma registered_left {providers : JsonFields} {modelsPayload : Json}
    {discovery : Option PluginModelCatalogDiscovery} {providerId modelId key : String}
    {entry fields : JsonFields} (hconfig : WellFormedConfig config)
    (hpatch : providerRegistryPatchForModel config modelsPayload discovery providerId modelId =
      .ok (some (key, entry)))
    (hexisting : configProviderEntry config providerId = some (key, fields))
    (hproviders : providers = mergeFields (providerEntries config) [(key, .object entry)]) :
    ∃ fields' model, providers.lookup key = some (.object fields') ∧
      (∀ name, name ≠ "models" → fields'.lookup name = fields.lookup name) ∧
      fields'.lookup "models" =
        some (.array (arrayValue (fields.lookup "models") ++ [.object model])) := by
  obtain ⟨provider, model, hentry⟩ := providerRegistryPatch_some hpatch
  have hget : (providerEntries config).lookup key = some (.object fields) :=
    lookup_configProviderEntry (providerEntries_nodup hconfig) hexisting
  rw [hexisting] at hentry
  subst hentry hproviders
  refine ⟨_, model, lookup_mergeFields_object, fun name hname => ?_, ?_⟩
  · rw [JsonFields.inner, hget, objectFields]
    exact lookup_mergeFields_of_ne hname
  · rw [JsonFields.inner, hget, objectFields]
    exact lookup_mergeFields_array (List.nodup_singleton _) rfl

/-! ### The builders -/

lemma ok_of_toOption {α : Type} {result : Except DomainError α} {value : α}
    (h : result.toOption = some value) : result = .ok value := by
  cases result with
  | error error => cases h
  | ok found => exact congrArg Except.ok (Option.some.inj h)

lemma ok_of_join {α : Type} {result : Except DomainError (Option α)} {value : α}
    (h : result.toOption.join = some value) : result = .ok (some value) :=
  ok_of_toOption (Option.join_eq_some_iff.mp h)

lemma configPatchParams_ok {payload : Json} {patch : JsonFields} {replacePaths : List String}
    {params : ConfigPatchParams}
    (h : (configPatchParams payload patch replacePaths).toOption = some params) :
    params.patch = patch ∧
      ((recordValue (some payload)).bind fun root => stringValue (root.lookup "hash")) =
        some params.baseHash := by
  rw [configPatchParams] at h
  split at h
  · next baseHash hhash =>
      cases h
      exact ⟨rfl, hhash⟩
  · cases h

/-- What was left of the providers by a registration. -/
lemma registration_left {config' : JsonFields} {source : PatchSource}
    {list allow : Option (List Json)} {models : JsonFields}
    {registry : Option (String × JsonFields)}
    (heffect : PatchEffect config config' list allow models (registryFields registry))
    (hregistration : source.registration config = registry) :
    ∀ key value, (providerEntries config).lookup key = some value →
      (∀ entry, source.registration config ≠ some (key, entry)) →
      (providerEntries config').lookup key = some value := by
  intro key value hget hkey
  rw [heffect.registry]
  cases registry with
  | none => rw [registryFields, mergeFields, hget]
  | some written =>
      obtain ⟨key', entry⟩ := written
      have hne : key ≠ key' := by
        rintro rfl
        exact hkey entry hregistration
      rw [registryFields, lookup_mergeFields_of_ne hne, hget]

/-- The agents of the configuration, when the list is left alone. -/
lemma agents_untouched {config' : JsonFields} {allow : Option (List Json)}
    {models registry : JsonFields} (hconfig : WellFormedConfig config)
    (heffect : PatchEffect config config' none allow models registry) :
    AgentsLeft config config' :=
  agents_left heffect (by rw [List.append_nil]; exact agentItems_map hconfig.agents)
    (List.Sublist.refl _) rfl addedAgents_nil

/-- The agents of the configuration, when the owned ones are written anew. -/
lemma agents_canonical {config' : JsonFields} {allow : Option (List Json)}
    {models registry : JsonFields} {subagents : List OrchestratorSubagentRole} {model : String}
    {canonical : List JsonFields}
    (heffect : PatchEffect config config'
      (some ((foreignAgents config ++ canonical).map .object)) allow models registry)
    (hbuild : buildOrchestratorAgentConfig subagents model = .ok canonical)
    (hsubagents : ∀ subagent ∈ subagents, jsStartsWith subagent.agentId "subagent-" = true) :
    AgentsLeft config config' :=
  agents_left heffect rfl List.filter_sublist filter_foreignAgents
    (addedAgents_canonical hbuild hsubagents fun _ hmem => isOwnedAgent_of_mem_foreign hmem)

lemma foreignLeft_pluginAllow {providerId : String} {payload : Json} {patch : JsonFields}
    {replacePaths : List String} (hconfig : WellFormedConfig (configPayload payload))
    (hpatch : pluginAllowPatch providerId payload = some (patch, replacePaths)) :
    ForeignLeft (.pluginAllow providerId) (configPayload payload)
      (mergeFields (configPayload payload) patch) := by
  rw [pluginAllowPatch] at hpatch
  split at hpatch
  · next allow hallow =>
      dsimp only at hpatch
      split at hpatch
      · cases hpatch
      · cases hpatch
        have heffect := patchEffect_plugins (configPayload payload)
          ((stringArrayValue (some (.array allow)) ++ [providerId]).map .string)
        have hplugins : allowedPlugins (configPayload payload) = allow := by
          rw [allowedPlugins, hallow, arrayValue]
        refine ⟨agents_untouched hconfig heffect, fun plugin hmem => ?_,
          fun key value hget _ _ => ?_, fun key value hget _ => ?_,
          fun _ _ _ hregistration => (by cases hregistration)⟩
        · -- A text that is not blank passes the filter.
          obtain ⟨text, rfl, htext⟩ := hconfig.plugins plugin hmem
          rw [hplugins] at hmem
          rw [heffect.allow, Option.getD_some]
          refine List.mem_map.mpr ⟨text, List.mem_append_left _ ?_, rfl⟩
          exact List.mem_filterMap.mpr ⟨_, hmem, if_neg htext⟩
        · rw [heffect.models, mergeFields, hget]
        · rw [heffect.registry, mergeFields, hget]
  · cases hpatch

lemma foreignLeft_sharedAgent {payload : Json} {patch : JsonFields} {replacePaths : List String}
    (hpatch : sharedAgentPatch payload = some (patch, replacePaths)) :
    ForeignLeft .sharedAgent (configPayload payload)
      (mergeFields (configPayload payload) patch) := by
  rw [sharedAgentPatch] at hpatch
  split at hpatch
  · cases hpatch
  · next hnone =>
      cases hpatch
      have hagents : ∀ agent ∈ agentsList (configPayload payload),
          agentIdOf agent ≠ some sharedCredentialAgentId := by
        intro agent hmem hid
        exact hnone (List.any_eq_true.mpr ⟨agent, hmem, decide_eq_true hid⟩)
      have heffect := patchEffect_list (configPayload payload)
        ((agentsList (configPayload payload)).map .object ++
          [.object [("id", .string sharedCredentialAgentId)]])
      have hadded : AddedAgents (agentsList (configPayload payload))
          [[("id", .string sharedCredentialAgentId)]] := by
        refine ⟨List.nodup_singleton _, fun agent hmem id hid other hother hsame => ?_⟩
        rw [List.mem_singleton.mp hmem] at hid
        cases hid
        refine hagents other hother ?_
        rw [agentIdOf_of_written hsame]
        decide
      refine ⟨agents_left heffect (by rw [List.map_append]; rfl) (List.Sublist.refl _) rfl hadded,
        fun plugin hmem => ?_, fun key value hget _ _ => ?_, fun key value hget _ => ?_,
        fun _ _ _ hregistration => (by cases hregistration)⟩
      · rw [heffect.allow, Option.getD_none]
        exact hmem
      · rw [heffect.models, mergeFields, hget]
      · rw [heffect.registry, mergeFields, hget]

/-- The patch of a toggle. -/
lemma modelTogglePatch_some {toggle : ModelToggle} {patch : JsonFields}
    (h : modelTogglePatch config toggle = .ok (some patch)) :
    ∃ registry, toggleRegistryPatch config toggle = .ok registry ∧
      patch = [("agents", .object [("defaults", .object [("models", .object
        [(targetRef config toggle, if toggle.enabled then .object [] else .null)])])])] ++
          registryPart registry := by
  rw [modelTogglePatch] at h
  split at h
  · cases h
  · split at h
    · cases h
    · split at h
      · cases h
      · split at h
        · cases h
        · split at h
          · cases h
          · cases hregistry : toggleRegistryPatch config toggle with
            | error error => rw [hregistry] at h; cases h
            | ok registry =>
                rw [hregistry] at h
                cases h
                exact ⟨registry, rfl, rfl⟩

lemma foreignLeft_modelToggle {toggle : ModelToggle} {patch : JsonFields}
    (hconfig : WellFormedConfig config)
    (hpatch : modelTogglePatch config toggle = .ok (some patch)) :
    ForeignLeft (.modelToggle toggle) config (mergeFields config patch) := by
  obtain ⟨registry, hregistry, rfl⟩ := modelTogglePatch_some hpatch
  have hregistration : (PatchSource.modelToggle toggle).registration config = registry := by
    rw [PatchSource.registration, hregistry]
    rfl
  have heffect : PatchEffect config (mergeFields config _) none none
      [(targetRef config toggle, if toggle.enabled then .object [] else .null)]
      (registryFields registry) :=
    patchEffect_agents [("defaults", .object [("models", .object
      [(targetRef config toggle, if toggle.enabled then .object [] else .null)])])] registry
      .of_object .of_object rfl
  refine ⟨agents_untouched hconfig heffect, fun plugin hmem => ?_,
    fun key value hget hdisabled henabled => ?_, registration_left heffect hregistration,
    fun key entry fields hentry hexisting => ?_⟩
  · rw [heffect.allow, Option.getD_none]
    exact hmem
  · rw [heffect.models]
    rw [PatchSource.enabledRef] at henabled
    rw [PatchSource.disabledRef] at hdisabled
    cases htoggle : toggle.enabled with
    | true =>
        rw [htoggle, if_pos rfl] at henabled
        exact models_left_enabled hget fun hkey => henabled (congrArg some hkey)
    | false =>
        rw [htoggle, if_neg nofun] at hdisabled
        rw [lookup_mergeFields_of_ne fun hkey => hdisabled (congrArg some hkey.symm), hget]
  · rw [hregistration] at hentry
    subst hentry
    rw [toggleRegistryPatch] at hregistry
    split at hregistry
    · exact registered_left hconfig hregistry hexisting heffect.registry
    · cases hregistry

/-- The patch of a rebuild. -/
lemma reconcilePatch_some {rebuild : OrchestratorRebuild} {patch : JsonFields}
    (h : reconcilePatch config rebuild = .ok (some patch)) :
    ∃ canonical registry,
      buildOrchestratorAgentConfig rebuild.subagents rebuild.orchestratorModel = .ok canonical ∧
        rebuildRegistryPatch config rebuild = .ok registry ∧
        patch = [("agents", .object
          [("defaults", .object
              ((if some rebuild.orchestratorModel = gatewayPrimaryModel config then []
                else [("model", .object [("primary", .string rebuild.orchestratorModel)])]) ++
              [("models", .object [(rebuild.orchestratorModel, .object [])])])),
            ("list", .array ((foreignAgents config ++ canonical).map .object))])] ++
          registryPart registry := by
  rw [reconcilePatch] at h
  cases hbuild : buildOrchestratorAgentConfig rebuild.subagents rebuild.orchestratorModel with
  | error error => rw [hbuild] at h; cases h
  | ok canonical =>
      cases hregistry : rebuildRegistryPatch config rebuild with
      | error error => rw [hbuild, hregistry] at h; cases h
      | ok registry =>
          rw [hbuild, hregistry] at h
          dsimp only at h
          split at h
          · cases h
          · cases h
            exact ⟨canonical, registry, rfl, rfl, rfl⟩

lemma foreignLeft_reconcile {rebuild : OrchestratorRebuild} {patch : JsonFields}
    (hconfig : WellFormedConfig config)
    (hpatch : reconcilePatch config rebuild = .ok (some patch)) :
    ForeignLeft (.reconcile rebuild) config (mergeFields config patch) := by
  obtain ⟨canonical, registry, hbuild, hregistry, hwritten⟩ := reconcilePatch_some hpatch
  have hregistration : (PatchSource.reconcile rebuild).registration config = registry := by
    rw [PatchSource.registration, hregistry]
    rfl
  have heffect : PatchEffect config (mergeFields config patch)
      (some ((foreignAgents config ++ canonical).map .object)) none
      [(rebuild.orchestratorModel, .object [])] (registryFields registry) := by
    rw [hwritten]
    by_cases hprimary : some rebuild.orchestratorModel = gatewayPrimaryModel config
    · rw [if_pos hprimary]
      exact patchEffect_canonical config
        [("models", .object [(rebuild.orchestratorModel, .object [])])] _ registry .of_object
    · rw [if_neg hprimary]
      exact patchEffect_canonical config
        [("model", .object [("primary", .string rebuild.orchestratorModel)]),
          ("models", .object [(rebuild.orchestratorModel, .object [])])] _ registry
        (.of_objects [("model", [("primary", .string rebuild.orchestratorModel)]),
          ("models", [(rebuild.orchestratorModel, .object [])])]
          (show ["model", "models"].Nodup by decide))
  refine ⟨agents_canonical heffect hbuild startsWith_connectedProviderSubagents,
    fun plugin hmem => ?_, fun key value hget _ henabled => ?_,
    registration_left heffect hregistration, fun key entry fields hentry hexisting => ?_⟩
  · rw [heffect.allow, Option.getD_none]
    exact hmem
  · rw [heffect.models]
    exact models_left_enabled hget fun hkey => henabled (congrArg some hkey)
  · rw [hregistration] at hentry
    subst hentry
    rw [rebuildRegistryPatch] at hregistry
    split at hregistry
    · exact registered_left hconfig hregistry hexisting heffect.registry
    · cases hregistry

/-- The patch of an election. -/
lemma prepareMainOrchestratorElection_ok {reads : ProviderReads} {providerId : String}
    {model : Option String} {payload : Json} {readings : ElectionReadings}
    {state : OrchestratorReconcileState} {now : Date}
    {prepared : PreparedMainOrchestratorElection}
    (h : prepareMainOrchestratorElection reads providerId model payload readings state now =
      .ok prepared) :
    ∃ subagents canonical elected,
      (∀ subagent ∈ subagents, jsStartsWith subagent.agentId "subagent-" = true) ∧
        buildOrchestratorAgentConfig subagents elected = .ok canonical ∧
        (configPatchParams payload (electionPatch (configPayload payload) elected canonical)
          canonicalAgentListReplacePaths).toOption = some prepared.patchParams := by
  rw [prepareMainOrchestratorElection] at h
  dsimp only at h
  split at h
  · cases h
  · split at h
    · cases h
    · next elected _ =>
        split at h
        · cases h
        · next canonical hbuild =>
            split at h
            · cases h
            · next patchParams hparams =>
                cases h
                exact ⟨_, canonical, elected, startsWith_connectedProviderSubagents, hbuild,
                  by rw [hparams]; rfl⟩

lemma foreignLeft_election {source : PatchSource} {canonical : List JsonFields} {elected : String}
    {subagents : List OrchestratorSubagentRole} (hconfig : WellFormedConfig config)
    (hsource : source.registration config = none)
    (hsubagents : ∀ subagent ∈ subagents, jsStartsWith subagent.agentId "subagent-" = true)
    (hbuild : buildOrchestratorAgentConfig subagents elected = .ok canonical) :
    ForeignLeft source config (mergeFields config (electionPatch config elected canonical)) := by
  have heffect : PatchEffect config (mergeFields config (electionPatch config elected canonical))
      (some ((foreignAgents config ++ canonical).map .object)) none
      (writeField (gatewayDefaultModels config) elected
        (match (gatewayDefaultModels config).lookup elected with
          | none | some .null => .object []
          | some settings => settings)) (registryFields none) :=
    patchEffect_canonical config _ _ none
      (.of_objects [("model", [("primary", .string elected)]), ("models", _)]
        (show ["model", "models"].Nodup by decide))
  refine ⟨agents_canonical heffect hbuild hsubagents, fun plugin hmem => ?_,
    fun key value hget _ _ => ?_, registration_left heffect hsource,
    fun key entry fields hentry _ => ?_⟩
  · rw [heffect.allow, Option.getD_none]
    exact hmem
  · rw [heffect.models]
    exact models_left_elected (wellFormed_models hconfig) hget
  · rw [hsource] at hentry
    cases hentry

/-! ### The result -/

/-- The hash in an answer of `config.get`. -/
def answerHash (payload : Json) : Option String :=
  (recordValue (some payload)).bind fun root => stringValue (root.lookup "hash")

/-- An answer of `config.get` with this configuration. -/
def configAnswer (config : JsonFields) : Json :=
  .object [("config", .object config), ("hash", .string "9c1d")]

/-- A configuration of one agent, with these models and this provider. -/
def sampleConfig (agentId : String) (models : JsonFields) (provider : Json) : JsonFields :=
  [("agents", .object [("list", .array [.object [("id", .string agentId)]]),
      ("defaults", .object [("models", .object models)])]),
    ("plugins", .object [("allow", .array [.string "acme"])]),
    ("models", .object [("providers", .object [("acme", provider)])])]

/-- The model `acme/second` is toggled on; its plugin has the definition. -/
def sampleToggle : ModelToggle where
  providerId := "acme"
  modelId := "second"
  enabled := true
  modelsPayload := .object []
  discovery := some
    { catalogs := [("acme", [("acme",
        { baseUrl := none, api := none, models := [[("id", .string "second")]] })])]
      plugins := [("acme", true)] }
  providerConnected := true

lemma wellFormed_sampleConfig (agentId : String) (models : JsonFields) (provider : Json)
    (hmodels : PlainFields models) (hprovider : provider.isPlain = true) :
    WellFormedConfig (sampleConfig agentId models provider) := by
  refine ⟨⟨?_, (show ["agents", "plugins", "models"].Nodup by decide)⟩, ?_, ?_⟩
  · simp [sampleConfig, fieldsPlain, Json.isPlain, itemsPlain, hmodels.values, hmodels.nodup,
      hprovider]
  · intro item hmem
    exact ⟨_, List.mem_singleton.mp hmem⟩
  · intro item hmem
    exact ⟨"acme", List.mem_singleton.mp hmem, by decide⟩

/-- The configuration after the patch of the source, when it is built and applied. -/
def patchedConfig (source : PatchSource) (config : JsonFields) : Option JsonFields :=
  (source.patchParams (configAnswer config)).bind fun params =>
    configPatch (fun _ => "9c1d") refusesShortened config params

/-- A rebuild that has selected this model of the provider. -/
def sampleRebuild : OrchestratorRebuild where
  orchestratorModel := "acme/first"
  orchestratorProviderId := "acme"
  catalog := []
  providerConnections := []
  connectedProviderIds := ["acme"]
  modelsPayload := .object []
  discovery := none

end Opzava.Provisioning
