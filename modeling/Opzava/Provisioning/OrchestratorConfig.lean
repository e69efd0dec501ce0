import Opzava.Provisioning.ConfigPatches

/-!
The configuration of the orchestrator and of its subagents (`provisioning/ask-admin-agent.ts`,
`connections.ts` and `provider-read-model.ts`).

* `buildOrchestratorAgentConfig`: the entries of `agents.list` that are owned here.
* `orchestratorConfigIsCurrent`: the configuration has them, and the model of the orchestrator.
* `prepareMainOrchestratorElection`: what an election is to write.
-/

namespace Opzava.Provisioning

open Opzava.Library
open DevBoard (DomainError)

/-! ### The owned agents -/

def askAdminAgentId : String := "ask-admin-opzava"

def askAdminToolPolicyAllow : List String :=
  ["opzava_tasks_list", "opzava_tasks_create", "opzava_tasks_update"]

def askAdminToolPolicyDeny : List String :=
  ["group:runtime", "write", "edit", "apply_patch", "group:fs"]

def askAdminDelegationToolAllow : List String := ["sessions_spawn", "subagents", "group:sessions"]

def subagentToolPolicyAllow : List String := []

def subagentToolPolicyDeny : List String := askAdminToolPolicyDeny

structure OrchestratorSubagentRole where
  agentId : String
  providerId : String
  providerLabel : String
  model : String
  strength : String
  whenToUse : String

def jsonStrings (texts : List String) : Json := .array (texts.map .string)

/-- The `tools` of an owned agent. -/
def toolPolicy (allow deny : List String) : Json :=
  .object [("profile", .string "minimal"), ("allow", jsonStrings allow),
    ("deny", jsonStrings deny)]

/-- `buildAskAdminAgentEntry` with a model and a delegation. -/
def buildAskAdminAgentEntry (model : String) (allowAgents : List String) : JsonFields :=
  [("id", .string askAdminAgentId),
    ("name", .string "Ask Admin Opzava"),
    ("workspace", .string "/home/node/.openclaw/workspace/ask-admin-opzava"),
    ("agentDir", .string "/home/node/.openclaw/agents/ask-admin-opzava/agent"),
    ("skills", .array []),
    ("contextInjection", .string "always"),
    ("bootstrapMaxChars", .number "20000"),
    ("default", .boolean true),
    ("tools", toolPolicy (askAdminToolPolicyAllow ++ askAdminDelegationToolAllow)
      askAdminToolPolicyDeny),
    ("model", .string model),
    ("subagents", .object [("delegationMode", .string "prefer"),
      ("allowAgents", jsonStrings allowAgents)])]

def buildSubagentAgentEntry (subagent : OrchestratorSubagentRole) : JsonFields :=
  [("id", .string subagent.agentId), ("model", .string subagent.model),
    ("tools", toolPolicy subagentToolPolicyAllow subagentToolPolicyDeny)]

def reservedSubagentAgentId : DomainError :=
  ⟨"provisioning.connections.reservedSubagentAgentId",
    "A subagent cannot use the canonical Ask Admin agent id."⟩

def duplicateSubagentAgentId : DomainError :=
  ⟨"provisioning.connections.duplicateSubagentAgentId",
    "Each configured subagent must have a unique agent id."⟩

/-- The first id of a subagent that cannot be used, after those already seen. -/
def checkSubagentIds (seen : List String) : List OrchestratorSubagentRole → Except DomainError Unit
  | [] => .ok ()
  | subagent :: rest =>
      if subagent.agentId = askAdminAgentId then .error reservedSubagentAgentId
      else if subagent.agentId ∈ seen then .error duplicateSubagentAgentId
      else checkSubagentIds (subagent.agentId :: seen) rest

/-- `buildOrchestratorAgentConfig`: its `agents.list`. -/
def buildOrchestratorAgentConfig (subagents : List OrchestratorSubagentRole)
    (orchestratorModel : String) : Except DomainError (List JsonFields) :=
  match checkSubagentIds [] subagents with
  | .error error => .error error
  | .ok _ =>
      .ok (buildAskAdminAgentEntry orchestratorModel (subagents.map (·.agentId)) ::
        subagents.map buildSubagentAgentEntry)

/-! ### Models -/

/-- A model is named by its provider and its id, unless the id names the provider. -/
def providerModelRef (providerId modelId : String) : String :=
  if '/' ∈ modelId.toList then modelId else providerId ++ "/" ++ modelId

def modelSelectorPrimary : Option Json → Option String
  | some (.string s) => stringValue (some (.string s))
  | some (.object fields) => stringValue (fields.lookup "primary")
  | _ => none

/-- `agents.defaults`. -/
def agentDefaults (config : JsonFields) : Option JsonFields :=
  recordValue (fieldOf (recordValue (config.lookup "agents")) "defaults")

def gatewayPrimaryModel (config : JsonFields) : Option String :=
  modelSelectorPrimary (fieldOf (agentDefaults config) "model")

def gatewayDefaultModels (config : JsonFields) : JsonFields :=
  (recordValue (fieldOf (agentDefaults config) "models")).getD []

/-- `enabledDefaultModelEntries`, its keys. -/
def enabledDefaultModelKeys (config : JsonFields) : List String :=
  (gatewayDefaultModels config).map Prod.fst

/-! ### The owned fields are current -/

/-- `Object.keys(record).sort()`. -/
def sortedKeys (fields : JsonFields) : List String :=
  (fields.map Prod.fst).mergeSort jsStringLe

mutual

/-- Equal values; the order of the fields of an object does not matter. -/
def ownedConfigValueEquals : Json → Json → Bool
  | .null, .null => true
  | .boolean a, .boolean b => a = b
  | .number a, .number b => a = b
  | .string a, .string b => a = b
  | .array left, .array right => ownedItemsEqual left right
  | .object left, .object right =>
      sortedKeys left = sortedKeys right && ownedFieldsEqual left right
  | _, _ => false

def ownedItemsEqual : List Json → List Json → Bool
  | [], [] => true
  | a :: as, b :: bs => ownedConfigValueEquals a b && ownedItemsEqual as bs
  | _, _ => false

/-- The fields on the left are those of the same names on the right. -/
def ownedFieldsEqual : List (String × Json) → List (String × Json) → Bool
  | [], _ => true
  | (name, value) :: rest, right =>
      (match right.lookup name with
        | some other => ownedConfigValueEquals value other
        | none => false) && ownedFieldsEqual rest right

end

/-- The fields of an agent other than `tools`. -/
def withoutTools (agent : JsonFields) : JsonFields := agent.filter fun field => field.1 ≠ "tools"

def ownedAgentRowEquals (live wanted : JsonFields) : Bool :=
  ownedConfigValueEquals (.object (withoutTools live)) (.object (withoutTools wanted))

def ownedAgentConfigEquals (live wanted : JsonFields) : Bool :=
  ownedAgentRowEquals live wanted &&
    match recordValue (live.lookup "tools"), recordValue (wanted.lookup "tools") with
    | some left, some right => ownedConfigValueEquals (.object left) (.object right)
    | none, none => true
    | _, _ => false

/-- The id of an entry of `agents.list`. -/
def agentIdOf (agent : JsonFields) : Option String := stringValue (agent.lookup "id")

/-- The agents that are owned here: the orchestrator and its subagents. -/
def isOwnedAgent (agent : JsonFields) : Bool :=
  match agentIdOf agent with
  | some id => id = askAdminAgentId || jsStartsWith id "subagent-"
  | none => false

def orchestratorConfigIsCurrent (config : JsonFields) (orchestratorModel : String)
    (primaryModel : Option String) (subagents : List OrchestratorSubagentRole) : Bool :=
  if some orchestratorModel ≠ primaryModel then false
  else if (enabledDefaultModelKeys config).all
      fun key => key.toLower ≠ orchestratorModel.toLower then false
  else
    match buildOrchestratorAgentConfig subagents orchestratorModel with
    | .error _ => false
    | .ok canonical =>
        let liveOwned := (agentsList config).filter isOwnedAgent
        let ownedIds := canonical.map agentIdOf
        liveOwned.length = canonical.length &&
          liveOwned.all (fun agent => (agentIdOf agent).isSome && agentIdOf agent ∈ ownedIds) &&
          canonical.all fun wanted =>
            match liveOwned.find? fun agent => agentIdOf agent = agentIdOf wanted with
            | some live => ownedAgentConfigEquals live wanted
            | none => false

/-! ### The state of the orchestrator -/

inductive CredentialChange
  | disconnect
  | connect
  deriving DecidableEq

inductive ElectionPhase
  | queued
  | verifying
  | committing
  deriving DecidableEq

/-- The running state of an election: `reason: "set-main"`. -/
structure ElectionTracking where
  phase : ElectionPhase
  requestId : String
  providerId : String
  model : String
  startedAt : Date

/-- `OrchestratorReconcileState`; the states of an election have the reason `set-main`. -/
inductive OrchestratorReconcileState
  | idle
  | running (reason : CredentialChange) (providerId : String) (startedAt : Date)
  | electing (tracking : ElectionTracking)
  | failed (reason : CredentialChange) (providerId : String) (failure : DomainError)
      (startedAt : Date)
  | electionFailed (requestId providerId model : String) (failure : DomainError) (startedAt : Date)

namespace OrchestratorReconcileState

/-- The status is `failed`. -/
def isFailed : OrchestratorReconcileState → Bool
  | .failed .. | .electionFailed .. => true
  | _ => false

/-- The status is `running`. -/
def isRunning : OrchestratorReconcileState → Bool
  | .running .. | .electing _ => true
  | _ => false

end OrchestratorReconcileState

/-- `OrchestratorDelegationState`, without its constant fields and its receipt. -/
structure OrchestratorDelegationState where
  orchestratorModel : Option String
  orchestratorProviderId : Option String
  allowAgents : List String
  subagents : List OrchestratorSubagentRole
  reconcile : OrchestratorReconcileState
  updatedAt : Option Date

def orchestratorDelegationState (orchestratorModel orchestratorProviderId : Option String)
    (subagents : List OrchestratorSubagentRole) (now : Date) : OrchestratorDelegationState where
  orchestratorModel := orchestratorModel
  orchestratorProviderId := orchestratorProviderId
  allowAgents := subagents.map (·.agentId)
  subagents := subagents
  reconcile := .idle
  updatedAt := some now

/-- `ModelProviderCatalogEntry`, the fields that are read here; models by their ids. -/
structure ModelProviderCatalogEntry where
  id : String
  label : String
  suggestedModel : String
  roleStrength : String
  whenToUse : String
  models : Option (List String)
  catalogModels : Option (List String)

/-- `ProviderConnectionState`, the fields that are read here. -/
structure ProviderConnection where
  providerId : String
  status : String
  model : Option String

/-- The results of `models.list` and of the model status, when they were ok, and the state of the
authorization. -/
structure ElectionReadings where
  models : Option Json
  modelStatus : Option Json
  authStatus : Json

/-- How the catalog and the connections are read (`provider-read-model.ts`), what the delay in a
refused `config.patch` is, and how messages are redacted. -/
structure ProviderReads where
  providerCatalogFromModels : Json → JsonFields → List ModelProviderCatalogEntry
  providerConnectionFromConnectionSources :
    ModelProviderCatalogEntry → JsonFields → Option Json → Json → Date → ProviderConnection
  configuredModelForProvider : String → JsonFields → Option (List String) → Option String
  preferredConnectedOrchestratorSelection :
    JsonFields → List ProviderConnection → Option (String × String)
  rateLimitRetryAfterMs : DomainError → Option ℕ
  redactDeviceCodeLog : String → String

/-- A subagent for each connected provider but that of the orchestrator. -/
def connectedProviderSubagents (catalog : List ModelProviderCatalogEntry)
    (providerConnections : List ProviderConnection) (connectedProviderIds : List String)
    (orchestratorProviderId : String) : List OrchestratorSubagentRole :=
  (providerConnections.filter fun connection =>
    connection.status = "connected" && connection.providerId ∈ connectedProviderIds &&
      connection.providerId ≠ orchestratorProviderId).map fun connection =>
    let provider := catalog.find? fun entry => entry.id = connection.providerId
    { agentId := "subagent-" ++ connection.providerId
      providerId := connection.providerId
      providerLabel := (provider.map (·.label)).getD connection.providerId
      model := (connection.model.orElse fun _ => provider.map (·.suggestedModel)).getD
        connection.providerId
      strength := (provider.map (·.roleStrength)).getD "Connected provider"
      whenToUse := (provider.map (·.whenToUse)).getD
        "Use when this connected model is appropriate." }

/-- The subagent of an entry of `agents.list`; its provider is what follows in its id. -/
def subagentOfEntry (catalog : List ModelProviderCatalogEntry) (agent : JsonFields) :
    Option OrchestratorSubagentRole :=
  (agentIdOf agent).bind fun agentId =>
    if jsStartsWith agentId "subagent-" then
      let providerId := String.ofList (agentId.toList.drop "subagent-".length)
      let provider := catalog.find? fun entry => entry.id = providerId
      some
        { agentId := agentId
          providerId := providerId
          providerLabel := (provider.map (·.label)).getD providerId
          model := ((stringValue (agent.lookup "model")).orElse fun _ =>
            provider.map (·.suggestedModel)).getD providerId
          strength := (provider.map (·.roleStrength)).getD "Connected provider"
          whenToUse := (provider.map (·.whenToUse)).getD
            "Use when this connected model is appropriate." }
    else none

def currentOrchestratorState (reads : ProviderReads) (config : JsonFields)
    (catalog : List ModelProviderCatalogEntry) (providerConnections : List ProviderConnection)
    (reconcile : OrchestratorReconcileState) (now : Date) : OrchestratorDelegationState :=
  let askAdmin := (agentsList config).find? fun agent => agentIdOf agent = some askAdminAgentId
  let selection := reads.preferredConnectedOrchestratorSelection config providerConnections
  { orchestratorModel := selection.map (·.1)
    orchestratorProviderId := selection.map (·.2)
    allowAgents := stringArrayValue
      (fieldOf (recordValue (fieldOf askAdmin "subagents")) "allowAgents")
    subagents := (agentsList config).filterMap (subagentOfEntry catalog)
    reconcile := reconcile
    updatedAt := askAdmin.map fun _ => now }

/-! ### An election -/

structure SetMainOrchestratorInput where
  principal : ConnectionProvisioningPrincipal
  requestId : String
  providerId : String
  model : Option String

structure PreparedMainOrchestratorElection where
  orchestratorModel : String
  baselineModel : Option String
  desiredState : OrchestratorDelegationState
  persistedState : OrchestratorDelegationState
  patchParams : ConfigPatchParams
  alreadyCurrent : Bool

/-- The arrays that a patch with the owned agents replaces. -/
def canonicalAgentListReplacePaths : List String :=
  ["agents.list", "agents.list[].skills", "agents.list[].tools.allow", "agents.list[].tools.deny",
    "agents.list[].subagents.allowAgents"]

/-- `existingAgents`: the agents that are not owned here. -/
def foreignAgents (config : JsonFields) : List JsonFields :=
  (agentsList config).filter fun agent => !isOwnedAgent agent

/-- The patch of an election. -/
def electionPatch (config : JsonFields) (orchestratorModel : String)
    (canonical : List JsonFields) : JsonFields :=
  let models := gatewayDefaultModels config
  [("agents", .object
    [("defaults", .object
        [("model", .object [("primary", .string orchestratorModel)]),
          ("models", .object (writeField models orchestratorModel
            (match models.lookup orchestratorModel with
              | none | some .null => .object []
              | some settings => settings)))]),
      ("list", .array ((foreignAgents config ++ canonical).map .object))])]

def orchestratorProviderNotConnected : DomainError :=
  ⟨"provisioning.connections.orchestratorProviderNotConnected",
    "The selected main orchestrator provider is not connected."⟩

def orchestratorModelUnknown : DomainError :=
  ⟨"provisioning.connections.orchestratorModelUnknown",
    "The selected model is not in this provider's catalog."⟩

def orchestratorModelUnavailable : DomainError :=
  ⟨"provisioning.connections.orchestratorModelUnavailable",
    "The selected main orchestrator provider has no routable model."⟩

/-- The model that is configured for the provider, or else the one that is suggested. -/
def derivedElectionModel (reads : ProviderReads) (providerId : String) (config : JsonFields)
    (provider : Option ModelProviderCatalogEntry) : Option String :=
  match reads.configuredModelForProvider providerId config (provider.bind (·.models)) with
  | some configuredModel => some (providerModelRef providerId configuredModel)
  | none => provider.map fun entry => providerModelRef providerId entry.suggestedModel

/-- The catalog, or the derived model, vouches for a selected model. -/
def electionModelKnown (providerId electedModel : String) (derivedModel : Option String)
    (provider : Option ModelProviderCatalogEntry) : Bool :=
  derivedModel.map (·.toLower) = some (providerModelRef providerId electedModel).toLower ||
    ((provider.bind fun entry => entry.catalogModels.orElse fun _ => entry.models).getD []).any
      fun id => (String.ofList (jsTrim id.toList)).toLower = electedModel.toLower ||
        (providerModelRef providerId id).toLower = electedModel.toLower

/-- The model that is elected: the selected one, trimmed, if there is any, or the derived one. -/
def electionModel (providerId : String) (model derivedModel : Option String)
    (provider : Option ModelProviderCatalogEntry) : Except DomainError String :=
  let electedModel := model.map fun selected => String.ofList (jsTrim selected.toList)
  match electedModel.filter (· ≠ "") with
  | some selected =>
      if electionModelKnown providerId selected derivedModel provider then
        .ok (providerModelRef providerId selected)
      else .error orchestratorModelUnknown
  | none =>
      match derivedModel with
      | some derived => .ok derived
      | none => .error orchestratorModelUnavailable

/-- `prepareMainOrchestratorElection`, once its requests are answered. -/
def prepareMainOrchestratorElection (reads : ProviderReads) (providerId : String)
    (model : Option String) (configGetPayload : Json) (readings : ElectionReadings)
    (reconcile : OrchestratorReconcileState) (now : Date) :
    Except DomainError PreparedMainOrchestratorElection :=
  let config := configPayload configGetPayload
  let catalog := reads.providerCatalogFromModels (readings.models.getD (.object [])) config
  let providerConnections := catalog.map fun provider =>
    reads.providerConnectionFromConnectionSources provider config readings.modelStatus
      readings.authStatus now
  let connection := providerConnections.find? fun entry => entry.providerId = providerId
  if connection.map (·.status) ≠ some "connected" then .error orchestratorProviderNotConnected
  else
    let provider := catalog.find? fun entry => entry.id = providerId
    match electionModel providerId model (derivedElectionModel reads providerId config provider)
      provider with
    | .error error => .error error
    | .ok orchestratorModel =>
        let connectedProviders := (providerConnections.filter fun entry =>
          entry.status = "connected").map (·.providerId)
        let subagents := connectedProviderSubagents catalog providerConnections connectedProviders
          providerId
        match buildOrchestratorAgentConfig subagents orchestratorModel with
        | .error error => .error error
        | .ok canonical =>
            match configPatchParams configGetPayload
              (electionPatch config orchestratorModel canonical)
              canonicalAgentListReplacePaths with
            | .error error => .error error
            | .ok patchParams =>
                .ok
                  { orchestratorModel := orchestratorModel
                    baselineModel := gatewayPrimaryModel config
                    desiredState := orchestratorDelegationState (some orchestratorModel)
                      (some providerId) subagents now
                    persistedState := currentOrchestratorState reads config catalog
                      providerConnections reconcile now
                    patchParams := patchParams
                    alreadyCurrent := orchestratorConfigIsCurrent config orchestratorModel
                      (gatewayPrimaryModel config) subagents }

end Opzava.Provisioning
