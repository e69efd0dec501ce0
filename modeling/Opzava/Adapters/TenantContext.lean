import Mathlib

/-!
The identifiers of tenants: the texts that `withTenant` admits, and how the database reads and
writes a `uuid`.
-/

namespace Opzava.Adapters

/-- A `uuid` in the form in which the database writes it. -/
def uuidText (text : String) : String := String.ofList (text.toList.map Char.toLower)

/-- `/^[0-9a-f]{8}-[0-9a-f]{4}-[1-5][0-9a-f]{3}-[89ab][0-9a-f]{3}-[0-9a-f]{12}$/i`. -/
def isTenantUuid (text : String) : Bool :=
  text.toList.length = 36 && (text.toList.map Char.toLower).zipIdx.all fun (c, i) =>
    if i ∈ [8, 13, 18, 23] then c = '-'
    else if i = 14 then '1' ≤ c ∧ c ≤ '5'
    else if i = 19 then c ∈ ['8', '9', 'a', 'b']
    else ('0' ≤ c ∧ c ≤ '9') ∨ ('a' ≤ c ∧ c ≤ 'f')

/-- A hexadecimal digit, in lower case. -/
def hexDigit? (c : Char) : Option Char :=
  if ('0' ≤ c ∧ c ≤ '9') ∨ ('a' ≤ c.toLower ∧ c.toLower ≤ 'f') then some c.toLower else none

/-- The digits of the given number of groups of four, with or without a hyphen between two groups,
and what follows them. -/
def hexGroups : ℕ → List Char → Option (List Char × List Char)
  | 0, text => some ([], text)
  | groups + 1, text => do
      let digits ← (text.take 4).mapM hexDigit?
      if digits.length = 4 then
        let rest := text.drop 4
        let (more, last) ← hexGroups groups
          (if groups ≠ 0 ∧ rest.head? = some '-' then rest.tail else rest)
        return (digits ++ more, last)
      else none

/-- The form in which the database writes the digits of a `uuid`. -/
def hyphenated (digits : List Char) : String :=
  String.ofList (digits.take 8 ++ '-' :: (digits.drop 8).take 4 ++ '-' :: (digits.drop 12).take 4 ++
    '-' :: (digits.drop 16).take 4 ++ '-' :: digits.drop 20)

/-- The `uuid` that the database reads from a text, which may stand in braces. -/
def readUuid (text : String) : Option String := do
  let inBraces := text.toList.head? = some '\x7b'
  let (digits, rest) ← hexGroups 8 (if inBraces then text.toList.tail else text.toList)
  if rest = (if inBraces then ['\x7d'] else []) then some (hyphenated digits) else none

example : readUuid "\x7b00000000000040008000-00000000000A\x7d" =
    some "00000000-0000-4000-8000-00000000000a" := by decide

end Opzava.Adapters
