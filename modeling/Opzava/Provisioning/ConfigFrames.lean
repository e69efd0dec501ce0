import Opzava.Library.MergePatch
import Opzava.Provisioning.ModelRegistry

/-!
The gateway's `config.patch`, the patches that are built here, and what they do to the agents, the
plugins, the models and the providers of a configuration.

* `configPatch`, `refusesShortened`: how the gateway applies a patch.
* `PatchSource`: what a patch is built for, and the parameters it is sent with.
* `PatchEffect`: what a patch does to the parts of a configuration.
-/

namespace Opzava.Provisioning

open Opzava.Library Opzava.Library.JsonFields
open DevBoard (DomainError)

/-! ### The gateway -/

mutual

/-- A patch replaces an array by a shorter one, at a path that is not to be replaced. -/
def shortensArray (replacePaths : List String) (path : String) (target : Option Json) :
    Json → Bool
  | .object patch => shortensArrayIn replacePaths path (objectFields target) patch
  | .array items =>
      items.length < (arrayValue target).length && path ∉ replacePaths
  | _ => false

def shortensArrayIn (replacePaths : List String) (path : String) (fields : JsonFields) :
    List (String × Json) → Bool
  | [] => false
  | (name, value) :: patch =>
      shortensArray replacePaths (if path = "" then name else path ++ "." ++ name)
        (fields.lookup name) value || shortensArrayIn replacePaths path fields patch

end

/-- The gateway refuses a patch that shortens an array unless the path is to be replaced. -/
def refusesShortened (live : JsonFields) (params : ConfigPatchParams) : Bool :=
  shortensArrayIn params.replacePaths "" live params.patch

/-- `config.patch`: it is applied if its base is the current configuration, by the hash, and there
is nothing to refuse in it. -/
def configPatch (configHash : JsonFields → String) (refuses : JsonFields → ConfigPatchParams → Bool)
    (live : JsonFields) (params : ConfigPatchParams) : Option JsonFields :=
  if params.baseHash = configHash live ∧ refuses live params = false then
    some (mergeFields live params.patch)
  else none

/-- What a patch is built for. -/
inductive PatchSource
  | pluginAllow (providerId : String)
  | sharedAgent
  | modelToggle (toggle : ModelToggle)
  | reconcile (rebuild : OrchestratorRebuild)
  | election (reads : ProviderReads) (providerId : String) (model : Option String)
      (readings : ElectionReadings) (state : OrchestratorReconcileState) (now : Date)

namespace PatchSource

/-- The patch that is built from an answer of `config.get`, with its replaced paths; there is none
when nothing is to be written or when it cannot be built. -/
def patchParams (payload : Json) : PatchSource → Option ConfigPatchParams
  | .pluginAllow providerId =>
      (pluginAllowPatch providerId payload).bind fun (patch, replacePaths) =>
        (configPatchParams payload patch replacePaths).toOption
  | .sharedAgent =>
      (sharedAgentPatch payload).bind fun (patch, replacePaths) =>
        (configPatchParams payload patch replacePaths).toOption
  | .modelToggle toggle =>
      (modelTogglePatch (configPayload payload) toggle).toOption.join.bind fun patch =>
        (configPatchParams payload patch []).toOption
  | .reconcile rebuild =>
      (reconcilePatch (configPayload payload) rebuild).toOption.join.bind fun patch =>
        (configPatchParams payload patch canonicalAgentListReplacePaths).toOption
  | .election reads providerId model readings state now =>
      (prepareMainOrchestratorElection reads providerId model payload readings state
        now).toOption.map (·.patchParams)

/-- The model that a patch makes routable, whatever was written for it. -/
def enabledRef (config : JsonFields) : PatchSource → Option String
  | .modelToggle toggle => if toggle.enabled then some (targetRef config toggle) else none
  | .reconcile rebuild => some rebuild.orchestratorModel
  | _ => none

/-- The model that is toggled off. -/
def disabledRef (config : JsonFields) : PatchSource → Option String
  | .modelToggle toggle => if toggle.enabled then none else some (targetRef config toggle)
  | _ => none

/-- The provider for which a patch may register a model. -/
def registeringProvider : PatchSource → Option String
  | .modelToggle toggle => some toggle.providerId
  | .reconcile rebuild => some rebuild.orchestratorProviderId
  | _ => none

/-- The entry of `models.providers` that a patch writes. -/
def registration (config : JsonFields) : PatchSource → Option (String × JsonFields)
  | .modelToggle toggle => (toggleRegistryPatch config toggle).toOption.join
  | .reconcile rebuild => (rebuildRegistryPatch config rebuild).toOption.join
  | _ => none

end PatchSource

/-! ### The parts of a configuration -/

/-- `agents.list`. -/
def agentItems (config : JsonFields) : List Json :=
  arrayValue (fieldOf (recordValue (config.lookup "agents")) "list")

/-- `plugins.allow`. -/
def allowedPlugins (config : JsonFields) : List Json :=
  arrayValue (fieldOf (recordValue (config.lookup "plugins")) "allow")

/-- The entries of `models.providers`. -/
def providerEntries (config : JsonFields) : JsonFields := (modelProviders config).getD []

/-- The `id` of an agent, as it is written. -/
def writtenAgentId (agent : JsonFields) : Option String :=
  match agent.lookup "id" with
  | some (.string id) => some id
  | _ => none

section Parts

variable {config : JsonFields} {value : Option Json} {name : String}

lemma fieldOf_recordValue :
    fieldOf (recordValue value) name = (objectFields value).lookup name := by
  rcases value with _ | (_ | _ | _ | _ | _ | fields) <;> rfl

lemma getD_recordValue : (recordValue value).getD [] = objectFields value := by
  rcases value with _ | (_ | _ | _ | _ | _ | fields) <;> rfl

lemma agentItems_eq : agentItems config = arrayValue ((inner config "agents").lookup "list") := by
  rw [agentItems, fieldOf_recordValue, JsonFields.inner]

lemma allowedPlugins_eq :
    allowedPlugins config = arrayValue ((inner config "plugins").lookup "allow") := by
  rw [allowedPlugins, fieldOf_recordValue, JsonFields.inner]

lemma gatewayDefaultModels_eq :
    gatewayDefaultModels config = inner (inner (inner config "agents") "defaults") "models" := by
  rw [gatewayDefaultModels, getD_recordValue, agentDefaults, fieldOf_recordValue,
    fieldOf_recordValue, JsonFields.inner, JsonFields.inner, JsonFields.inner]

lemma providerEntries_eq :
    providerEntries config = inner (inner config "models") "providers" := by
  rw [providerEntries, modelProviders, getD_recordValue, fieldOf_recordValue, JsonFields.inner,
    JsonFields.inner]

end Parts

/-! ### The effect of a patch -/

/-- What a patch does to the parts: it replaces two lists, or leaves them, and merges into the
models and the providers. -/
structure PatchEffect (config config' : JsonFields) (list allow : Option (List Json))
    (models registry : JsonFields) : Prop where
  list : agentItems config' = list.getD (agentItems config)
  allow : allowedPlugins config' = allow.getD (allowedPlugins config)
  models : gatewayDefaultModels config' = mergeFields (gatewayDefaultModels config) models
  registry : providerEntries config' = mergeFields (providerEntries config) registry

/-- A list that a patch has, or does not say anything about. -/
def PatchesList (fields : JsonFields) (name : String) : Option (List Json) → Prop
  | some items => fields.lookup name = some (.array items)
  | none => fields.lookup name = none

/-- The fields of an object have different names, and a field of this name is an object. -/
structure PatchesObject (fields : JsonFields) (name : String) : Prop where
  nodup : (fields.map Prod.fst).Nodup
  object : ∀ value, fields.lookup name = some value → ∃ inside, value = .object inside

variable {config patch : JsonFields} {list allow : Option (List Json)} {name : String}

lemma PatchesObject.inner_merge (h : PatchesObject patch name) :
    inner (mergeFields config patch) name = mergeFields (inner config name) (inner patch name) :=
  inner_mergeFields h.nodup h.object

lemma PatchesList.arrayValue_merge (h : PatchesList patch name list)
    (hnodup : (patch.map Prod.fst).Nodup) :
    arrayValue ((mergeFields config patch).lookup name) =
      list.getD (arrayValue (config.lookup name)) := by
  cases list with
  | none => rw [lookup_mergeFields_of_none hnodup h, Option.getD_none]
  | some items => rw [lookup_mergeFields_array hnodup h, Option.getD_some, arrayValue]

/-- The effect of a patch, from its parts. -/
lemma patchEffect_of_parts (hagents : PatchesObject patch "agents")
    (hplugins : PatchesObject patch "plugins") (hmodels : PatchesObject patch "models")
    (hdefaults : PatchesObject (inner patch "agents") "defaults")
    (hdefaultModels : PatchesObject (inner (inner patch "agents") "defaults") "models")
    (hproviders : PatchesObject (inner patch "models") "providers")
    (hpluginNames : ((inner patch "plugins").map Prod.fst).Nodup)
    (hlist : PatchesList (inner patch "agents") "list" list)
    (hallow : PatchesList (inner patch "plugins") "allow" allow) :
    PatchEffect config (mergeFields config patch) list allow
      (inner (inner (inner patch "agents") "defaults") "models")
      (inner (inner patch "models") "providers") where
  list := by
    rw [agentItems_eq, agentItems_eq, hagents.inner_merge, hlist.arrayValue_merge hdefaults.nodup]
  allow := by
    rw [allowedPlugins_eq, allowedPlugins_eq, hplugins.inner_merge,
      hallow.arrayValue_merge hpluginNames]
  models := by
    rw [gatewayDefaultModels_eq, gatewayDefaultModels_eq, hagents.inner_merge,
      hdefaults.inner_merge, hdefaultModels.inner_merge]
  registry := by
    rw [providerEntries_eq, providerEntries_eq, hmodels.inner_merge, hproviders.inner_merge]

lemma PatchesObject.nil : PatchesObject [] name := ⟨List.nodup_nil, nofun⟩

/-- What a registration merges into the providers. -/
def registryFields : Option (String × JsonFields) → JsonFields
  | some (key, entry) => [(key, .object entry)]
  | none => []

/-- A patch of objects. -/
lemma PatchesObject.of_objects (objects : List (String × JsonFields))
    (hnodup : (objects.map Prod.fst).Nodup) :
    PatchesObject (objects.map fun field => (field.1, .object field.2)) name := by
  refine ⟨by rwa [List.map_map], fun value hlookup => ?_⟩
  obtain ⟨field, -, hfield⟩ := List.mem_map.mp (mem_of_lookup hlookup)
  exact ⟨field.2, (congrArg Prod.snd hfield).symm⟩

lemma PatchesObject.of_object {key : String} {inside : JsonFields} :
    PatchesObject [(key, .object inside)] name :=
  of_objects [(key, inside)] (List.nodup_singleton key)

/-- The effect of a patch of the list of plugins. -/
lemma patchEffect_plugins (config : JsonFields) (items : List Json) :
    PatchEffect config (mergeFields config [("plugins", .object [("allow", .array items)])]) none
      (some items) [] [] :=
  patchEffect_of_parts .of_object .of_object .of_object .nil .nil .nil
    (List.nodup_singleton _) rfl rfl

/-- The effect of a patch of the agents, with a registration if there is one. -/
lemma patchEffect_agents (agents : JsonFields) (registry : Option (String × JsonFields))
    (hdefaults : PatchesObject agents "defaults")
    (hmodels : PatchesObject (inner agents "defaults") "models")
    (hlist : PatchesList agents "list" list) :
    PatchEffect config (mergeFields config ([("agents", .object agents)] ++ registryPart registry))
      list none (inner (inner agents "defaults") "models") (registryFields registry) := by
  cases registry with
  | none =>
      exact patchEffect_of_parts .of_object .of_object .of_object hdefaults hmodels .nil
        List.nodup_nil hlist rfl
  | some registered =>
      obtain ⟨key, entry⟩ := registered
      have hpatch : ∀ name, PatchesObject [("agents", .object agents),
          ("models", .object [("providers", .object [(key, .object entry)])])] name :=
        fun name => .of_objects
          [("agents", agents), ("models", [("providers", .object [(key, .object entry)])])]
          (show ["agents", "models"].Nodup by decide)
      exact patchEffect_of_parts (hpatch _) (hpatch _) (hpatch _) hdefaults hmodels .of_object
        List.nodup_nil hlist rfl

/-- The effect of a patch of the list of agents. -/
lemma patchEffect_list (config : JsonFields) (items : List Json) :
    PatchEffect config (mergeFields config [("agents", .object [("list", .array items)])])
      (some items) none [] [] :=
  patchEffect_agents [("list", .array items)] none ⟨List.nodup_singleton _, nofun⟩ .nil rfl

/-- The effect of a patch of the defaults and of the list of agents. -/
lemma patchEffect_canonical (config defaults : JsonFields) (items : List Json)
    (registry : Option (String × JsonFields)) (hmodels : PatchesObject defaults "models") :
    PatchEffect config (mergeFields config
        ([("agents", .object [("defaults", .object defaults), ("list", .array items)])] ++
          registryPart registry))
      (some items) none (inner defaults "models") (registryFields registry) := by
  have hnames : ["defaults", "list"].Nodup := by decide
  exact patchEffect_agents [("defaults", .object defaults), ("list", .array items)] registry
    ⟨hnames, fun value h => ⟨defaults, (Option.some.inj h).symm⟩⟩ hmodels rfl

end Opzava.Provisioning
