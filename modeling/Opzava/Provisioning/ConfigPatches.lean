import Opzava.Provisioning.Values

/-!
The patches of the gateway's configuration (`provisioning/gateway-config-mutation.ts` and the
builders in `connections-provisioning-service.ts`).

* `configPatchParams`: the parameters of `config.patch`.
* `pluginAllowPatch`, `sharedAgentPatch`: the patches of a credential write.
-/

namespace Opzava.Provisioning

open Opzava.Library
open DevBoard (DomainError)

/-- The parameters of `config.patch`; `raw` is the text of the patch. -/
structure ConfigPatchParams where
  patch : JsonFields
  baseHash : String
  replacePaths : List String

def configPatchParams (configGetPayload : Json) (patch : JsonFields) (replacePaths : List String) :
    Except DomainError ConfigPatchParams :=
  match (recordValue (some configGetPayload)).bind fun root => stringValue (root.lookup "hash") with
  | some baseHash => .ok ⟨patch, baseHash, replacePaths⟩
  | none =>
      .error ⟨"provisioning.connections.configBaseHashMissing",
        "Opzava Gateway config.get did not return the base hash required by config.patch."⟩

/-- A field of a field that is an object. -/
def fieldOf (record : Option JsonFields) (name : String) : Option Json :=
  record.bind fun fields => fields.lookup name

def isRecord : Json → Option JsonFields
  | .object fields => some fields
  | _ => none

/-- `agentsList`. -/
def agentsList (config : JsonFields) : List JsonFields :=
  (arrayValue (fieldOf (recordValue (config.lookup "agents")) "list")).filterMap isRecord

/-- `pluginAllowPatch` with its replaced paths: there is none without a list of plugins, or when
the plugin is in it. -/
def pluginAllowPatch (providerId : String) (configGetPayload : Json) :
    Option (JsonFields × List String) :=
  match fieldOf (recordValue ((configPayload configGetPayload).lookup "plugins")) "allow" with
  | some (.array allow) =>
      let current := stringArrayValue (some (.array allow))
      if providerId ∈ current then none
      else
        some ([("plugins", .object [("allow", .array ((current ++ [providerId]).map .string))])],
          ["plugins.allow"])
  | _ => none

def sharedCredentialAgentId : String := "main"

/-- The patch of `ensureSharedCredentialAgent`: there is none when the agent is configured. -/
def sharedAgentPatch (configGetPayload : Json) : Option (JsonFields × List String) :=
  let agents := agentsList (configPayload configGetPayload)
  if agents.any fun agent => stringValue (agent.lookup "id") = some sharedCredentialAgentId then
    none
  else
    some ([("agents", .object [("list", .array (agents.map .object ++
      [.object [("id", .string sharedCredentialAgentId)]]))])], ["agents.list"])

end Opzava.Provisioning
