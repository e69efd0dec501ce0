import Opzava.Library.Json
import Opzava.Library.Patterns

/-!
The texts of failures (`acl/openclaw/errors.ts`, and `sanitizedStreamCode` of
`acl/openclaw/operator-client.ts`).

A failure that crosses to the web application has a message without the detail of the
infrastructure, or a fallback, and a code made of letters.

* `FailureTexts.sanitizeFailureMessage`: the message of a text.
* `FailureTexts.sanitizedStreamCode`: the code of a text.
-/

namespace Opzava.GatewayBroker.FailureTexts

open Opzava.Library Pattern

/-! ### Patterns -/

/-- `[A-Za-z0-9-]`. -/
def isRayChar (c : Char) : Bool := c.isAlphanum || c = '-'

/-- `[A-Za-z0-9_-]`. -/
def isIdChar (c : Char) : Bool := c.isAlphanum || c = '_' || c = '-'

/-- `[A-Za-z0-9._-]`. -/
def isTokenChar (c : Char) : Bool := c.isAlphanum || c = '.' || c = '_' || c = '-'

/-- A character of a URL: no space, and none of `,`, `)`, `"`, `'`, `<` and `>`. -/
def isUrlChar (c : Char) : Bool := !isJsSpace c && c ∉ [',', ')', '"', '\'', '<', '>']

/-- `[^\s,]`. -/
def isValueChar (c : Char) : Bool := !isJsSpace c && c ≠ ','

/-- `[A-Z_]`. -/
def isConstantChar (c : Char) : Bool := c.isUpper || c = '_'

/-- `https?` and two slashes, with what comes after them. -/
def urlPattern : Pattern :=
  literalIgnoringCase "http" ++ [optional fun c => c.toLower = 's'] ++ literal "://" ++
    [plus isUrlChar]

/-- A URL with its label. -/
def labelledUrl : Regex :=
  [.boundary :: (literalIgnoringCase "url:" ++ [star isJsSpace] ++ urlPattern)]

/-- A URL. -/
def bareUrl : Regex := [.boundary :: urlPattern]

/-- `\bcf[-_]?ray:\s*[A-Za-z0-9-]+`. -/
def cfRay : Regex :=
  [.boundary :: (literalIgnoringCase "cf" ++ [optional fun c => c = '-' || c = '_'] ++
    literalIgnoringCase "ray:" ++ [star isJsSpace, plus isRayChar])]

/-- `\brequest id:\s*[A-Za-z0-9_-]+`. -/
def requestId : Regex :=
  [.boundary :: (literalIgnoringCase "request id:" ++ [star isJsSpace, plus isIdChar])]

/-- `\bx-request-id:\s*[^\s,]+`. -/
def requestIdHeader : Regex :=
  [.boundary :: (literalIgnoringCase "x-request-id:" ++ [star isJsSpace, plus isValueChar])]

/-- `\breq_[A-Za-z0-9]{8,}`. -/
def bareRequestId : Regex :=
  [.boundary :: (literal "req_" ++ [.chars Char.isAlphanum 8 none])]

/-- `\bbearer\s+[A-Za-z0-9._-]{8,}`. -/
def bearerToken : Regex :=
  [.boundary :: (literalIgnoringCase "bearer" ++ [plus isJsSpace, .chars isTokenChar 8 none])]

/-- `\bsk-[A-Za-z0-9]{16,}`. -/
def secretKey : Regex := [.boundary :: (literal "sk-" ++ [.chars Char.isAlphanum 16 none])]

/-- `\bapi[_-]?key\s*[:=]\s*['"]?[A-Za-z0-9._-]{8,}`. -/
def apiKey : Regex :=
  [.boundary :: (literalIgnoringCase "api" ++ [optional fun c => c = '_' || c = '-'] ++
    literalIgnoringCase "key" ++ [star isJsSpace, .chars (fun c => c = ':' || c = '=') 1 (some 1),
      star isJsSpace, optional fun c => c = '\'' || c = '"', .chars isTokenChar 8 none])]

/-- `\bx-api-key:\s*[^\s,]+`. -/
def apiKeyHeader : Regex :=
  [.boundary :: (literalIgnoringCase "x-api-key:" ++ [star isJsSpace, plus isValueChar])]

/-- `FAILURE_INFRA_TOKEN_PATTERNS`. -/
def failureInfraTokenPatterns : List Regex :=
  [labelledUrl, bareUrl, cfRay, requestId, requestIdHeader, bareRequestId, bearerToken, secretKey,
    apiKey, apiKeyHeader]

/-- The codes of the network. -/
def networkCode : Regex :=
  (["ECONNRESET", "ECONNREFUSED", "ETIMEDOUT", "ENOTFOUND", "EAI_AGAIN", "EPIPE", "EHOSTUNREACH",
    "ENETUNREACH"].map fun code => .boundary :: (literal code ++ [.boundary])) ++
    [.boundary :: (literal "UND_ERR_" ++ [plus isConstantChar, .boundary])]

/-- `TRANSPORT_NOISE_PATTERNS`. -/
def transportNoisePatterns : List Regex :=
  [networkCode, [literalIgnoringCase "socket hang up"], [literalIgnoringCase "app-server client"],
    [literalIgnoringCase "client closed before"]]

/-! ### Vendor blobs -/

/-- A text that is not blank. -/
def nonBlank (text : String) : Option String :=
  if jsTrim text.toList = [] then none else some text

/-- The string of a field, when it is not blank. -/
def stringField (fields : List (String × Json)) (name : String) : Option String :=
  match fields.lookup name with
  | some (.string text) => nonBlank text
  | _ => none

mutual

/-- `pickSemanticMessage` of the fields of a record. -/
def pickFields (fields : List (String × Json)) : Option String :=
  (pickError fields).orElse fun _ => stringField fields "message"

/-- What the field `error` gives. -/
def pickError : List (String × Json) → Option String
  | [] => none
  | field :: fields =>
      if field.1 = "error" then pickErrorField field else pickError fields

/-- What a field gives as the `error`. -/
def pickErrorField : String × Json → Option String
  | (_, .string text) => nonBlank text
  | (_, .object fields) => pickFields fields
  | _ => none

end

/-- `pickSemanticMessage`. -/
def pickSemanticMessage : Json → Option String
  | .string text => nonBlank text
  | .object fields => pickFields fields
  | _ => none

/-- `extractSemanticFromJsonBlob`. The numbers of a blob are not read. -/
def extractSemanticFromJsonBlob (text : List Char) : Option String :=
  let trimmed := jsTrim text
  if trimmed.head? = some '\x7b' ∨ trimmed.head? = some '[' then
    (jsonParse String.ofList trimmed).map fun parsed => (pickSemanticMessage parsed).getD ""
  else none

/-! ### Messages -/

/-- `[\s,:]`. -/
def isEdgeChar (c : Char) : Bool := isJsSpace c || c = ',' || c = ':'

/-- `tidyFailureText`. A group of commas with the spaces after them is a comma, and any commas and
spaces. -/
def tidyFailureText (text : List Char) : List Char :=
  let text := Regex.replaceAll [[.chars isJsSpace 2 none]] [' '] text
  let text := Regex.replaceAll [[star isJsSpace, char ',', star isJsSpace]] [',', ' '] text
  let text := Regex.replaceAll [[char ',', star fun c => c = ',' || isJsSpace c]] [',', ' '] text
  let text := Regex.replaceAll [[.start, plus isEdgeChar], [plus isEdgeChar, .stop]] [] text
  jsTrim text

/-- `sanitizeFailureMessage` of a text. -/
def sanitizeFailureMessage (rawMessage fallback : String) : String :=
  let text := jsTrim rawMessage.toList
  if text = [] then fallback
  else
    let text := match extractSemanticFromJsonBlob text with
      | some semantic => jsTrim semantic.toList
      | none => text
    if text = [] then fallback
    else
      let text := failureInfraTokenPatterns.foldl (fun text regex => regex.replaceAll [' '] text)
        text
      if transportNoisePatterns.any fun regex => regex.test text then fallback
      else
        let text := tidyFailureText text
        if text = [] then fallback else String.ofList text

example : sanitizeFailureMessage ("unexpected status 401 Unauthorized: Missing bearer or basic " ++
    "authentication in header, url: https://api.openai.com/v1/responses, cf-ray: " ++
    "a1b22d857c3484a5-HKG, request id: req_73d0a1881cf9490d88ca96376ebe7926") "failed" =
    "unexpected status 401 Unauthorized: Missing bearer or basic authentication in header" := by
  decide +kernel

/-! ### Codes -/

/-- `[a-z0-9._-]`. -/
def isCodeChar (c : Char) : Bool := c.isLower || c.isDigit || c = '.' || c = '_' || c = '-'

/-- `sanitizedStreamCode` of a text. -/
def sanitizedStreamCode (value fallback : String) : String :=
  if jsTrim value.toList = [] then fallback
  else
    let text := (jsTrim value.toList).flatMap lowerChars
    let text := Regex.replaceAll [[plus fun c => !isCodeChar c]] ['_'] text
    let text := Regex.replaceAll [[.start, plus (· = '_')], [plus (· = '_'), .stop]] [] text
    if text = [] then fallback else String.ofList text

end Opzava.GatewayBroker.FailureTexts
