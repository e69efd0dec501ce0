import Opzava.DevBoard.Domain
import Opzava.Library.JsonFields

/-!
The readers of foreign values (`provisioning/provider-read-model.ts`) and the principal of a call.

* `recordValue`, `arrayValue`, `stringValue`, `stringArrayValue`, `splitScope`: the readers.
* `configPayload`: the configuration in an answer of `config.get`.
-/

namespace Opzava.Provisioning

open Opzava.Library
open DevBoard (DomainError)

/-- Who makes a call. -/
structure ConnectionProvisioningPrincipal where
  orgId : String
  workspaceId : String
  actorUserId : String
  roleKeys : List String
  deriving DecidableEq

/-- What an awaited call comes to: a result, a reported error, or an exception. -/
inductive Answer (α : Type)
  | ok (value : α)
  | err (error : DomainError)
  | threw

/-- `configWriteKey`: the organization, for the reservations. -/
def configWriteKey (orgId : String) : String := orgId.toLower

def recordValue : Option Json → Option JsonFields
  | some (.object fields) => some fields
  | _ => none

def arrayValue : Option Json → List Json
  | some (.array items) => items
  | _ => []

/-- The trimmed text, unless nothing is left of it. -/
def stringValue : Option Json → Option String
  | some (.string s) =>
      let trimmed := jsTrim s.toList
      if trimmed = [] then none else some (String.ofList trimmed)
  | _ => none

/-- The strings among the items of an array that are not blank. -/
def stringArrayValue (value : Option Json) : List String :=
  (arrayValue value).filterMap fun item =>
    match item with
    | .string s => if jsTrim s.toList = [] then none else some s
    | _ => none

/-- A list of scopes, as a text with commas and blanks or as an array. -/
def splitScope : Option Json → List String
  | some (.string s) =>
      ((s.toList.splitOnP fun c => c = ',' ∨ isJsSpace c).map fun scope =>
        String.ofList (jsTrim scope)).filter (· ≠ "")
  | value => stringArrayValue value

/-- The configuration is the field of that name, or the whole answer. -/
def configPayload (payload : Json) : JsonFields :=
  match recordValue (some payload) with
  | none => []
  | some root => (recordValue (root.lookup "config")).getD root

end Opzava.Provisioning
