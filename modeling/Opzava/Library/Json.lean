import Opzava.Library.JavaScript
import Opzava.Library.Utf8

/-!
`JSON.parse` and `JSON.stringify`.

A text is read character by character, with the containers that are open on a stack, so that what
has been read of a text is a state and what is still to come does not matter.

* `Json.print`: the text of a value.
* `JsonReader.step`, `jsonParse`: the reader.
* `jsonParse_print`: a text that was printed is read back.
* `jsonParse_beginning`: the beginning of the text of an object is no text of a value.
-/

namespace Opzava.Library

/-! ### Values and their texts -/

/-- The values JSON has. A number is kept as the text that is printed for it. -/
inductive Json where
  | null
  | boolean (b : Bool)
  | number (text : String)
  | string (s : String)
  | array (items : List Json)
  | object (fields : List (String × Json))

/-- The text of a string. -/
def printString (s : String) : List Char := '"' :: (s.toList.flatMap jsonEscape ++ ['"'])

mutual

/-- `JSON.stringify`. -/
def Json.print : Json → List Char
  | .null => "null".toList
  | .boolean true => "true".toList
  | .boolean false => "false".toList
  | .number text => text.toList
  | .string s => printString s
  | .array [] => ['[', ']']
  | .array (item :: items) => '[' :: (item.print ++ printItems items ++ [']'])
  | .object [] => ['\x7b', '\x7d']
  | .object (field :: fields) =>
      '\x7b' :: (printField field ++ printFields fields ++ ['\x7d'])

/-- The items after the first. -/
def printItems : List Json → List Char
  | [] => []
  | item :: items => ',' :: (item.print ++ printItems items)

/-- One field. -/
def printField : String × Json → List Char
  | (name, value) => printString name ++ ':' :: value.print

/-- The fields after the first. -/
def printFields : List (String × Json) → List Char
  | [] => []
  | field :: fields => ',' :: (printField field ++ printFields fields)

end

/-! ### The reader -/

/-- The white space of JSON. -/
def isJsonSpace (c : Char) : Bool := c = ' ' ∨ c = '\t' ∨ c = '\n' ∨ c = '\r'

/-- The characters of a number, or of `true`, `false` and `null`. -/
def isTokenChar (c : Char) : Bool := c.isAlphanum ∨ c = '+' ∨ c = '-' ∨ c = '.'

/-- The digits at the beginning of a text, of which there must be one, are left out. -/
def dropDigits (text : List Char) : Option (List Char) :=
  if text.head?.any Char.isDigit then some (text.dropWhile Char.isDigit) else none

/-- An exponent, or nothing. -/
def isExponent : List Char → Bool
  | [] => true
  | c :: rest =>
      (c = 'e' ∨ c = 'E') ∧ dropDigits (if rest.head? = some '+' ∨ rest.head? = some '-' then
        rest.tail else rest) = some []

/-- A fraction and an exponent, or less. -/
def isFraction : List Char → Bool
  | [] => true
  | c :: rest => if c = '.' then (dropDigits rest).any isExponent else isExponent (c :: rest)

/-- A number: a sign, digits without a zero before them, a fraction and an exponent. -/
def isNumeral (text : List Char) : Bool :=
  let unsigned := if text.head? = some '-' then text.tail else text
  if unsigned.head? = some '0' then isFraction unsigned.tail
  else (dropDigits unsigned).any isFraction

/-- The unit a hexadecimal digit stands for. -/
def hexValue (c : Char) : Option ℕ :=
  if c.isDigit then some (c.toNat - 48)
  else if 'a' ≤ c ∧ c ≤ 'f' then some (c.toNat - 87)
  else if 'A' ≤ c ∧ c ≤ 'F' then some (c.toNat - 55)
  else none

/-- The character of one code unit. A surrogate that stands alone is no character of a `String`. -/
def charOfUnit (unit : ℕ) : Char :=
  if 0xD800 ≤ unit ∧ unit ≤ 0xDFFF then replacementChar else Char.ofNat unit

/-- The characters of UTF-16 code units. -/
def fromUtf16 : List ℕ → List Char
  | [] => []
  | [unit] => [charOfUnit unit]
  | unit :: unit' :: units =>
      if 0xD800 ≤ unit ∧ unit ≤ 0xDBFF ∧ 0xDC00 ≤ unit' ∧ unit' ≤ 0xDFFF then
        Char.ofNat (0x10000 + (unit - 0xD800) * 0x400 + (unit' - 0xDC00)) :: fromUtf16 units
      else charOfUnit unit :: fromUtf16 (unit' :: units)

/-- A container that is open: the items that were read, or the fields and the name of the next. -/
inductive JsonFrame
  | array (items : List Json)
  | object (fields : List (String × Json)) (name : String)

/-- What is being read. -/
inductive JsonMode
  | value
  | firstItem
  | firstName
  | name
  | colon
  | string (isName : Bool) (units : List ℕ)
  | escape (isName : Bool) (units : List ℕ)
  | unicode (isName : Bool) (units : List ℕ) (digits unit : ℕ)
  | token (text : List Char)
  | after
  | done (value : Json)

structure JsonReader where
  stack : List JsonFrame
  mode : JsonMode

/-- A field is written, in place when the name is there. -/
def writeField (fields : List (String × Json)) (name : String) (value : Json) :
    List (String × Json) :=
  match fields with
  | [] => [(name, value)]
  | field :: rest =>
      if field.1 = name then (name, value) :: rest else field :: writeField rest name value

namespace JsonReader

/-- A value is complete. -/
def put (stack : List JsonFrame) (value : Json) : JsonReader :=
  match stack with
  | [] => ⟨[], .done value⟩
  | .array items :: rest => ⟨.array (items ++ [value]) :: rest, .after⟩
  | .object fields name :: rest => ⟨.object (writeField fields name value) "" :: rest, .after⟩

/-- A string is complete. -/
def putString (stack : List JsonFrame) (isName : Bool) (units : List ℕ) : Option JsonReader :=
  let text := String.ofList (fromUtf16 units)
  match isName, stack with
  | true, .object fields _ :: rest => some ⟨.object fields text :: rest, .colon⟩
  | true, _ => none
  | false, stack => some (put stack (.string text))

/-- The value of a token. `canonical` is the text that is printed for the number of a numeral. -/
def tokenValue (canonical : List Char → String) (text : List Char) : Option Json :=
  if text = "null".toList then some .null
  else if text = "true".toList then some (.boolean true)
  else if text = "false".toList then some (.boolean false)
  else if isNumeral text then some (.number (canonical text))
  else none

/-- The first character of a value. -/
def beginValue (stack : List JsonFrame) (c : Char) : Option JsonReader :=
  if c = '"' then some ⟨stack, .string false []⟩
  else if c = '[' then some ⟨.array [] :: stack, .firstItem⟩
  else if c = '\x7b' then some ⟨.object [] "" :: stack, .firstName⟩
  else if isTokenChar c then some ⟨stack, .token [c]⟩
  else none

/-- The end of a container. -/
def endContainer (stack : List JsonFrame) (c : Char) : Option JsonReader :=
  match stack with
  | .array items :: rest => if c = ']' then some (put rest (.array items)) else none
  | .object fields _ :: rest => if c = '\x7d' then some (put rest (.object fields)) else none
  | [] => none

/-- A character after a value. -/
def afterValue (reader : JsonReader) (c : Char) : Option JsonReader :=
  if isJsonSpace c then some reader
  else if c = ',' then
    match reader.stack with
    | .array _ :: _ => some ⟨reader.stack, .value⟩
    | .object _ _ :: _ => some ⟨reader.stack, .name⟩
    | [] => none
  else endContainer reader.stack c

/-- The unit an escape stands for. -/
def escapeUnit (c : Char) : Option ℕ :=
  match c with
  | '"' => some 0x22
  | '\\' => some 0x5C
  | '/' => some 0x2F
  | 'b' => some 0x08
  | 'f' => some 0x0C
  | 'n' => some 0x0A
  | 'r' => some 0x0D
  | 't' => some 0x09
  | _ => none

/-- One character; nothing when the text is not JSON. -/
def step (canonical : List Char → String) (reader : JsonReader) (c : Char) : Option JsonReader :=
  match reader.mode with
  | .value => if isJsonSpace c then some reader else beginValue reader.stack c
  | .firstItem =>
      if isJsonSpace c then some reader
      else if c = ']' then endContainer reader.stack c
      else beginValue reader.stack c
  | .firstName =>
      if isJsonSpace c then some reader
      else if c = '"' then some ⟨reader.stack, .string true []⟩
      else endContainer reader.stack c
  | .name =>
      if isJsonSpace c then some reader
      else if c = '"' then some ⟨reader.stack, .string true []⟩
      else none
  | .colon =>
      if isJsonSpace c then some reader
      else if c = ':' then some ⟨reader.stack, .value⟩
      else none
  | .string isName units =>
      if c = '"' then putString reader.stack isName units
      else if c = '\\' then some ⟨reader.stack, .escape isName units⟩
      else if c.toNat < 0x20 then none
      else some ⟨reader.stack, .string isName (units ++ utf16Units c)⟩
  | .escape isName units =>
      if c = 'u' then some ⟨reader.stack, .unicode isName units 0 0⟩
      else (escapeUnit c).map fun unit => ⟨reader.stack, .string isName (units ++ [unit])⟩
  | .unicode isName units digits unit =>
      (hexValue c).map fun value =>
        if digits = 3 then ⟨reader.stack, .string isName (units ++ [unit * 16 + value])⟩
        else ⟨reader.stack, .unicode isName units (digits + 1) (unit * 16 + value)⟩
  | .token text =>
      if isTokenChar c then some ⟨reader.stack, .token (text ++ [c])⟩
      else (tokenValue canonical text).bind fun value => afterValue (put reader.stack value) c
  | .after => afterValue reader c
  | .done _ => afterValue reader c

/-- The characters of a text. -/
def run (canonical : List Char → String) (reader : JsonReader) : List Char → Option JsonReader
  | [] => some reader
  | c :: rest => (reader.step canonical c).bind fun next => next.run canonical rest

/-- The value, when the text may end here. -/
def result (canonical : List Char → String) (reader : JsonReader) : Option Json :=
  match reader.stack, reader.mode with
  | [], .done value => some value
  | [], .token text => tokenValue canonical text
  | _, _ => none

end JsonReader

/-- `JSON.parse`; nothing when it throws. -/
def jsonParse (canonical : List Char → String) (text : List Char) : Option Json :=
  (JsonReader.run canonical ⟨[], .value⟩ text).bind fun reader => reader.result canonical

/-! ### What is read after a value -/

namespace JsonReader

variable {canonical : List Char → String} {reader reader' : JsonReader} {c : Char}
  {stack : List JsonFrame} {text : List Char}

lemma run_append (canonical : List Char → String) (reader : JsonReader) (text text' : List Char) :
    reader.run canonical (text ++ text') =
      (reader.run canonical text).bind fun next => next.run canonical text' := by
  induction text generalizing reader with
  | nil => rfl
  | cons c text ih =>
      rw [List.cons_append, run, run]
      cases reader.step canonical c with
      | none => rfl
      | some next => exact ih next

/-- The whole value was read: at most more of a token, and white space, may follow. -/
def Closed (reader : JsonReader) : Prop :=
  reader.stack = [] ∧ ((∃ value, reader.mode = .done value) ∨ ∃ text, reader.mode = .token text)

lemma closed_of_result {value : Json} (h : reader.result canonical = some value) :
    reader.Closed := by
  obtain ⟨stack, mode⟩ := reader
  unfold result at h
  split at h
  · next value hstack hmode => exact ⟨hstack, .inl ⟨value, hmode⟩⟩
  · next text hstack hmode => exact ⟨hstack, .inr ⟨text, hmode⟩⟩
  · exact absurd h (by simp)

lemma afterValue_done {value : Json} (h : afterValue ⟨[], .done value⟩ c = some reader') :
    c ≠ '\x7d' ∧ reader' = ⟨[], .done value⟩ := by
  rw [afterValue] at h
  split_ifs at h with hspace hcomma
  · refine ⟨?_, (Option.some.inj h).symm⟩
    rintro rfl
    exact absurd hspace (by decide)
  · exact absurd h (by simp [endContainer])

/-- A brace cannot follow a value that is complete. -/
lemma Closed.step (h : reader.Closed) (hstep : reader.step canonical c = some reader') :
    c ≠ '\x7d' ∧ reader'.Closed := by
  obtain ⟨stack, mode⟩ := reader
  obtain ⟨rfl, ⟨value, rfl⟩ | ⟨text, rfl⟩⟩ := h
  · obtain ⟨hc, rfl⟩ := afterValue_done hstep
    exact ⟨hc, rfl, .inl ⟨value, rfl⟩⟩
  · simp only [JsonReader.step] at hstep
    split_ifs at hstep with htoken
    · obtain rfl := Option.some.inj hstep
      refine ⟨?_, rfl, .inr ⟨_, rfl⟩⟩
      rintro rfl
      exact absurd htoken (by decide)
    · obtain ⟨value, -, hafter⟩ := Option.bind_eq_some_iff.mp hstep
      obtain ⟨hc, rfl⟩ := afterValue_done hafter
      exact ⟨hc, rfl, .inl ⟨value, rfl⟩⟩

lemma Closed.run (h : reader.Closed) (hrun : reader.run canonical text = some reader') :
    '\x7d' ∉ text := by
  induction text generalizing reader with
  | nil => exact List.not_mem_nil
  | cons c text ih =>
      rw [JsonReader.run] at hrun
      obtain ⟨next, hstep, hrest⟩ := Option.bind_eq_some_iff.mp hrun
      obtain ⟨hc, hnext⟩ := h.step hstep
      rw [List.mem_cons, not_or]
      exact ⟨hc.symm, ih hnext hrest⟩

/-- What stands for bytes that are no character belongs to a string. -/
lemma step_replacementChar (h : reader.step canonical replacementChar = some reader') :
    ∃ isName units, reader'.mode = .string isName units := by
  have hspace : isJsonSpace replacementChar = false := by decide
  have htoken : isTokenChar replacementChar = false := by decide
  have hhex : hexValue replacementChar = none := by decide
  have hescape : escapeUnit replacementChar = none := by decide
  have hquote : replacementChar ≠ '"' := by decide
  have hu : replacementChar ≠ 'u' := by decide
  have hcolon : replacementChar ≠ ':' := by decide
  have hcomma : replacementChar ≠ ',' := by decide
  have hbracket : replacementChar ≠ ']' := by decide
  have hbegin : ∀ stack, beginValue stack replacementChar = none := by
    intro stack
    rw [beginValue, if_neg hquote, if_neg (by decide), if_neg (by decide), htoken]
    rfl
  have hend : ∀ stack, endContainer stack replacementChar = none := by
    intro stack
    unfold endContainer
    split
    · exact if_neg hbracket
    · exact if_neg (by decide)
    · rfl
  have hafter : ∀ reader, afterValue reader replacementChar = none := by
    intro reader
    rw [afterValue, hspace, if_neg (by decide), if_neg hcomma, hend]
  obtain ⟨stack, mode⟩ := reader
  cases mode with
  | value => simp [step, hspace, hbegin] at h
  | firstItem => simp [step, hspace, hbegin, hend] at h
  | firstName => simp [step, hspace, hend, hquote] at h
  | name => simp [step, hspace, hquote] at h
  | colon => simp [step, hspace, hcolon] at h
  | string isName units =>
      simp only [step, if_neg hquote] at h
      rw [if_neg (by decide), if_neg (by decide)] at h
      exact ⟨isName, _, congrArg mode (Option.some.inj h).symm⟩
  | escape isName units => simp [step, hu, hescape] at h
  | unicode isName units digits unit => simp [step, hhex] at h
  | token text => simp [step, htoken, hafter] at h
  | after => simp [step, hafter] at h
  | done value => simp [step, hafter] at h

end JsonReader

/-- No text of a value ends with what stands for bytes that are no character. -/
lemma jsonParse_replacementChar (canonical : List Char → String) (text : List Char) :
    jsonParse canonical (text ++ [replacementChar]) = none := by
  rw [jsonParse, JsonReader.run_append]
  cases JsonReader.run canonical ⟨[], .value⟩ text with
  | none => rfl
  | some reader =>
      rw [Option.bind_some, JsonReader.run]
      cases hstep : reader.step canonical replacementChar with
      | none => rfl
      | some next =>
          obtain ⟨isName, units, hmode⟩ := JsonReader.step_replacementChar hstep
          simp only [Option.bind_some, JsonReader.run, JsonReader.result, hmode]
          cases next.stack with
          | nil => rfl
          | cons frame rest => rfl

/-- The beginning of a text that ends with a brace and is read to its end is no text of a value. -/
lemma jsonParse_beginning {canonical : List Char → String} {text : List Char} {value : Json}
    (h : jsonParse canonical (text ++ ['\x7d']) = some value) {beginning : List Char}
    (hbegins : beginning <+: text ++ ['\x7d']) (hne : beginning ≠ text ++ ['\x7d']) :
    jsonParse canonical beginning = none := by
  obtain ⟨rest, hrest⟩ := hbegins
  rw [jsonParse, ← hrest, JsonReader.run_append] at h
  rw [jsonParse]
  cases hrun : JsonReader.run canonical ⟨[], .value⟩ beginning with
  | none => rfl
  | some reader =>
      rw [Option.bind_some]
      cases hresult : reader.result canonical with
      | none => rfl
      | some value' =>
          rw [hrun, Option.bind_some] at h
          obtain ⟨last, hlast, -⟩ := Option.bind_eq_some_iff.mp h
          -- The rest is not empty, and ends with the brace, which cannot follow.
          have hmem : '\x7d' ∈ rest := by
            rcases List.eq_nil_or_concat rest with rfl | ⟨init, c, rfl⟩
            · exact absurd (by rw [← hrest, List.append_nil]) hne
            · rw [List.concat_eq_append, ← List.append_assoc] at hrest
              obtain ⟨-, hc⟩ := List.append_inj' hrest rfl
              rw [List.concat_eq_append, hc]
              exact List.mem_append_right _ List.mem_cons_self
          exact absurd hmem ((JsonReader.closed_of_result hresult).run hlast)

/-! ### What was printed is read back -/

section Strings

lemma fromUtf16_char (c : Char) (units : List ℕ) :
    fromUtf16 (utf16Units c ++ units) = c :: fromUtf16 units := by
  have hvalid : c.toNat < 0xD800 ∨ (0xDFFF < c.toNat ∧ c.toNat < 0x110000) := c.valid
  have hchar : Char.ofNat c.toNat = c := Char.ofNat_toNat c
  rw [utf16Units]
  split_ifs with hsmall
  · have hunit : charOfUnit c.toNat = c := by rw [charOfUnit, if_neg (by omega), hchar]
    cases units with
    | nil => exact congrArg (fun char => [char]) hunit
    | cons unit units =>
        rw [List.singleton_append, fromUtf16, if_neg (by omega), hunit]
  · rw [List.cons_append, List.singleton_append, fromUtf16, if_pos (by omega)]
    rw [show 0x10000 + (0xD800 + (c.toNat - 0x10000) / 0x400 - 0xD800) * 0x400 +
      (0xDC00 + (c.toNat - 0x10000) % 0x400 - 0xDC00) = c.toNat by omega, hchar]

/-- The code units of a text give the text. -/
lemma fromUtf16_utf16Units (text : List Char) : fromUtf16 (text.flatMap utf16Units) = text := by
  induction text with
  | nil => rfl
  | cons c text ih => rw [List.flatMap_cons, fromUtf16_char, ih]

lemma hexValue_hexDigit : ∀ n < 16, hexValue (hexDigit n) = some n := by decide

variable {canonical : List Char → String} {stack : List JsonFrame} {isName : Bool} {units : List ℕ}

lemma run_cons {reader next : JsonReader} {c : Char} {text : List Char}
    (h : reader.step canonical c = some next) :
    reader.run canonical (c :: text) = next.run canonical text := by
  rw [JsonReader.run, h, Option.bind_some]

/-- An escape of one letter. -/
lemma run_escape {c : Char} {unit : ℕ} (hc : c ≠ 'u')
    (hunit : JsonReader.escapeUnit c = some unit) :
    (⟨stack, .string isName units⟩ : JsonReader).run canonical ['\\', c] =
      some ⟨stack, .string isName (units ++ [unit])⟩ := by
  have hfirst : (⟨stack, .string isName units⟩ : JsonReader).step canonical '\\' =
      some ⟨stack, .escape isName units⟩ := rfl
  have hsecond : (⟨stack, .escape isName units⟩ : JsonReader).step canonical c =
      some ⟨stack, .string isName (units ++ [unit])⟩ := by
    simp only [JsonReader.step, if_neg hc, hunit, Option.map_some]
  rw [run_cons hfirst, run_cons hsecond]
  rfl

/-- The escape of a control character. -/
lemma run_unicode {n : ℕ} (hn : n < 0x20) :
    (⟨stack, .string isName units⟩ : JsonReader).run canonical
        ['\\', 'u', '0', '0', hexDigit (n / 16), hexDigit (n % 16)] =
      some ⟨stack, .string isName (units ++ [n])⟩ := by
  have hdigit : ∀ digits unit value c, hexValue c = some value → digits ≠ 3 →
      (⟨stack, .unicode isName units digits unit⟩ : JsonReader).step canonical c =
        some ⟨stack, .unicode isName units (digits + 1) (unit * 16 + value)⟩ := by
    intro digits unit value c hc hdigits
    simp only [JsonReader.step, hc, Option.map_some, if_neg hdigits]
  have hlast : ∀ unit value c, hexValue c = some value →
      (⟨stack, .unicode isName units 3 unit⟩ : JsonReader).step canonical c =
        some ⟨stack, .string isName (units ++ [unit * 16 + value])⟩ := by
    intro unit value c hc
    simp only [JsonReader.step, hc, Option.map_some, if_true]
  have hzero : hexValue '0' = some 0 := by decide
  rw [run_cons (show _ = some (⟨stack, .escape isName units⟩ : JsonReader) from rfl),
    run_cons (show _ = some (⟨stack, .unicode isName units 0 0⟩ : JsonReader) from rfl),
    run_cons (hdigit 0 0 0 '0' hzero (by decide)), run_cons (hdigit 1 0 0 '0' hzero (by decide)),
    run_cons (hdigit 2 0 _ _ (hexValue_hexDigit (n / 16) (by omega)) (by decide)),
    run_cons (hlast _ _ _ (hexValue_hexDigit (n % 16) (by omega)))]
  rw [JsonReader.run, show (0 * 16 + n / 16) * 16 + n % 16 = n by omega]

/-- A character of a string. -/
lemma run_jsonEscape (c : Char) :
    (⟨stack, .string isName units⟩ : JsonReader).run canonical (jsonEscape c) =
      some ⟨stack, .string isName (units ++ utf16Units c)⟩ := by
  have hsmall : c.toNat < 0x10000 → utf16Units c = [c.toNat] := fun h => if_pos h
  unfold jsonEscape
  split
  · next h => rw [hsmall (by omega), h]; exact run_escape (by decide) rfl
  · next h => rw [hsmall (by omega), h]; exact run_escape (by decide) rfl
  · next h => rw [hsmall (by omega), h]; exact run_escape (by decide) rfl
  · next h => rw [hsmall (by omega), h]; exact run_escape (by decide) rfl
  · next h => rw [hsmall (by omega), h]; exact run_escape (by decide) rfl
  · next h => rw [hsmall (by omega), h]; exact run_escape (by decide) rfl
  · next h => rw [hsmall (by omega), h]; exact run_escape (by decide) rfl
  · next hquote hbackslash _ _ _ _ _ =>
      split_ifs with hcontrol
      · rw [hsmall (by omega)]
        exact run_unicode hcontrol
      · have hstep : (⟨stack, .string isName units⟩ : JsonReader).step canonical c =
            some ⟨stack, .string isName (units ++ utf16Units c)⟩ := by
          simp only [JsonReader.step]
          rw [if_neg, if_neg, if_neg hcontrol]
          · rintro rfl
            exact hbackslash rfl
          · rintro rfl
            exact hquote rfl
        rw [run_cons hstep]
        rfl

/-- The characters of a string. -/
lemma run_jsonEscapes (text : List Char) (units : List ℕ) :
    (⟨stack, .string isName units⟩ : JsonReader).run canonical (text.flatMap jsonEscape) =
      some ⟨stack, .string isName (units ++ text.flatMap utf16Units)⟩ := by
  induction text generalizing units with
  | nil => rw [List.flatMap_nil, List.flatMap_nil, List.append_nil]; rfl
  | cons c text ih =>
      rw [List.flatMap_cons, JsonReader.run_append, run_jsonEscape, Option.bind_some, ih,
        List.flatMap_cons, List.append_assoc]

/-- A string is read back. -/
lemma run_printString (s : String) {reader : JsonReader}
    (hquote : reader.step canonical '"' = some ⟨stack, .string isName []⟩) :
    reader.run canonical (printString s) =
      JsonReader.putString stack isName (s.toList.flatMap utf16Units) := by
  rw [printString, run_cons hquote, JsonReader.run_append, run_jsonEscapes, Option.bind_some,
    List.nil_append, JsonReader.run]
  simp only [JsonReader.step, if_true, JsonReader.run]
  cases JsonReader.putString stack isName (s.toList.flatMap utf16Units) with
  | none => rfl
  | some next => rfl

end Strings

section Tokens

variable {canonical : List Char → String} {stack : List JsonFrame} {text rest : List Char}

lemma isTokenChar_of_isDigit {c : Char} (h : c.isDigit = true) : isTokenChar c = true := by
  simp [isTokenChar, Char.isAlphanum, h]

/-- The characters before what is left when the digits are dropped. -/
lemma all_of_dropDigits (h : dropDigits text = some rest)
    (hrest : ∀ c ∈ rest, isTokenChar c = true) : ∀ c ∈ text, isTokenChar c = true := by
  rw [dropDigits] at h
  split_ifs at h with hdigit
  obtain rfl := Option.some.inj h
  intro c hc
  rw [← List.takeWhile_append_dropWhile (p := Char.isDigit) (l := text), List.mem_append] at hc
  rcases hc with hc | hc
  · exact isTokenChar_of_isDigit (List.mem_takeWhile_imp hc)
  · exact hrest c hc

/-- A first character that may be left out. -/
lemma all_of_tail {L : Prop} [Decidable L]
    (hleft : L → ∀ c, text.head? = some c → isTokenChar c = true)
    (h : ∀ c ∈ (if L then text.tail else text), isTokenChar c = true) :
    ∀ c ∈ text, isTokenChar c = true := by
  split_ifs at h with hl
  · cases text with
    | nil => exact fun c hc => absurd hc List.not_mem_nil
    | cons d rest =>
        intro c hc
        rcases List.mem_cons.mp hc with rfl | hc
        · exact hleft hl c rfl
        · exact h c hc
  · exact h

lemma all_of_isExponent (h : isExponent text = true) : ∀ c ∈ text, isTokenChar c = true := by
  cases text with
  | nil => exact fun c hc => absurd hc List.not_mem_nil
  | cons d rest =>
      simp only [isExponent, decide_eq_true_eq] at h
      obtain ⟨hd, hdigits⟩ := h
      intro c hc
      rcases List.mem_cons.mp hc with rfl | hc
      · rcases hd with rfl | rfl
        · decide
        · decide
      · refine all_of_tail (fun hsign c hc => ?_)
          (all_of_dropDigits hdigits fun c hc => absurd hc List.not_mem_nil) c hc
        rcases hsign with hsign | hsign
        · obtain rfl := Option.some.inj (hsign.symm.trans hc)
          decide
        · obtain rfl := Option.some.inj (hsign.symm.trans hc)
          decide

lemma all_of_isFraction (h : isFraction text = true) : ∀ c ∈ text, isTokenChar c = true := by
  cases text with
  | nil => exact fun c hc => absurd hc List.not_mem_nil
  | cons d rest =>
      simp only [isFraction] at h
      split_ifs at h with hd
      · obtain ⟨digits, hdigits, hexponent⟩ := (Option.any_eq_true _ _).mp h
        intro c hc
        rcases List.mem_cons.mp hc with rfl | hc
        · subst hd
          decide
        · exact all_of_dropDigits hdigits (all_of_isExponent hexponent) c hc
      · exact all_of_isExponent h

/-- A number is made of the characters of a token. -/
lemma all_of_isNumeral (h : isNumeral text = true) : ∀ c ∈ text, isTokenChar c = true := by
  rw [isNumeral] at h
  refine all_of_tail (L := text.head? = some '-') (fun hsign c hc => ?_) ?_
  · obtain rfl := Option.some.inj (hsign.symm.trans hc)
    decide
  · generalize (if text.head? = some '-' then text.tail else text) = unsigned at h ⊢
    split_ifs at h with hzero
    · refine all_of_tail (L := unsigned.head? = some '0') (fun hzero c hc => ?_) ?_
      · obtain rfl := Option.some.inj (hzero.symm.trans hc)
        decide
      · rw [if_pos hzero]
        exact all_of_isFraction h
    · obtain ⟨digits, hdigits, hfraction⟩ := (Option.any_eq_true _ _).mp h
      exact all_of_dropDigits hdigits (all_of_isFraction hfraction)

lemma ne_nil_of_isNumeral (h : isNumeral text = true) : text ≠ [] := by
  rintro rfl
  exact absurd h (by decide)

/-- The characters of a token. -/
lemma run_token (beginning : List Char) (h : ∀ c ∈ text, isTokenChar c = true) :
    (⟨stack, .token beginning⟩ : JsonReader).run canonical text =
      some ⟨stack, .token (beginning ++ text)⟩ := by
  induction text generalizing beginning with
  | nil => rw [List.append_nil]; rfl
  | cons c text ih =>
      have hstep : (⟨stack, .token beginning⟩ : JsonReader).step canonical c =
          some ⟨stack, .token (beginning ++ [c])⟩ := if_pos (h c List.mem_cons_self)
      rw [run_cons hstep, ih _ fun d hd => h d (List.mem_cons_of_mem _ hd), List.append_assoc]
      rfl

lemma isJsonSpace_of_isTokenChar {c : Char} (h : isTokenChar c = true) : isJsonSpace c = false := by
  have hother : ∀ d, isTokenChar d = false → c ≠ d := by
    rintro d hd rfl
    rw [hd] at h
    exact absurd h (by decide)
  simp only [isJsonSpace, hother ' ' (by decide), hother '\t' (by decide), hother '\n' (by decide),
    hother '\r' (by decide), or_self, decide_false]

/-- A token where a value is expected. -/
lemma run_value_token (hne : text ≠ []) (h : ∀ c ∈ text, isTokenChar c = true) :
    (⟨stack, .value⟩ : JsonReader).run canonical text = some ⟨stack, .token text⟩ := by
  cases text with
  | nil => exact absurd rfl hne
  | cons c text =>
      have htoken : isTokenChar c = true := h c List.mem_cons_self
      have hother : ∀ d, isTokenChar d = false → c ≠ d := by
        rintro d hd rfl
        rw [hd] at htoken
        exact absurd htoken (by decide)
      have hstep : (⟨stack, .value⟩ : JsonReader).step canonical c = some ⟨stack, .token [c]⟩ := by
        simp only [JsonReader.step, isJsonSpace_of_isTokenChar htoken, Bool.false_eq_true,
          if_false, JsonReader.beginValue]
        rw [if_neg (hother '"' (by decide)), if_neg (hother '[' (by decide)),
          if_neg (hother '\x7b' (by decide)), if_pos htoken]
      rw [run_cons hstep, run_token _ fun d hd => h d (List.mem_cons_of_mem _ hd)]
      rfl

end Tokens

/-! ### Values -/

mutual

/-- A value that can be printed: its numbers are printed as they are, and the names of each object
are different. -/
def Json.Ok (canonical : List Char → String) : Json → Prop
  | .number text => isNumeral text.toList = true ∧ canonical text.toList = text
  | .array items => ItemsOk canonical items
  | .object fields => FieldsOk canonical fields ∧ (fields.map Prod.fst).Nodup
  | _ => True

/-- The items of an array. -/
def ItemsOk (canonical : List Char → String) : List Json → Prop
  | [] => True
  | item :: items => item.Ok canonical ∧ ItemsOk canonical items

/-- The fields of an object. -/
def FieldsOk (canonical : List Char → String) : List (String × Json) → Prop
  | [] => True
  | field :: fields => FieldOk canonical field ∧ FieldsOk canonical fields

/-- One field. -/
def FieldOk (canonical : List Char → String) : String × Json → Prop
  | (_, value) => value.Ok canonical

end

section Values

variable {canonical : List Char → String} {stack : List JsonFrame} {value : Json}
  {reader : JsonReader}

/-- The reader has read a value, or the characters of its token. -/
def Delivers (canonical : List Char → String) (stack : List JsonFrame) (value : Json)
    (reader : JsonReader) : Prop :=
  reader = JsonReader.put stack value ∨ ∃ text, reader = ⟨stack, .token text⟩ ∧
    JsonReader.tokenValue canonical text = some value

lemma step_put (c : Char) : (JsonReader.put stack value).step canonical c =
    JsonReader.afterValue (JsonReader.put stack value) c := by
  unfold JsonReader.put
  split
  · rfl
  · rfl
  · rfl

/-- What comes after a value. -/
lemma Delivers.step (h : Delivers canonical stack value reader) {c : Char}
    (hc : isTokenChar c = false) :
    reader.step canonical c = JsonReader.afterValue (JsonReader.put stack value) c := by
  rcases h with rfl | ⟨text, rfl, hvalue⟩
  · exact step_put c
  · simp only [JsonReader.step, hc, Bool.false_eq_true, if_false, hvalue, Option.bind_some]

lemma Delivers.result (h : Delivers canonical [] value reader) :
    reader.result canonical = some value := by
  rcases h with rfl | ⟨text, rfl, hvalue⟩
  · rfl
  · exact hvalue

lemma tokenValue_of_isNumeral {text : List Char} (h : isNumeral text = true) :
    JsonReader.tokenValue canonical text = some (.number (canonical text)) := by
  have hne : ∀ word, isNumeral word = false → text ≠ word := by
    rintro word hword rfl
    rw [hword] at h
    exact absurd h (by decide)
  rw [JsonReader.tokenValue, if_neg (hne _ (by decide)), if_neg (hne _ (by decide)),
    if_neg (hne _ (by decide)), if_pos h]

lemma writeField_of_notMem (value : Json) {fields : List (String × Json)} {name : String}
    (h : name ∉ fields.map Prod.fst) :
    writeField fields name value = fields ++ [(name, value)] := by
  induction fields with
  | nil => rfl
  | cons field rest ih =>
      rw [List.map_cons, List.mem_cons, not_or] at h
      rw [writeField, if_neg (Ne.symm h.1), ih h.2]
      rfl

lemma notMem_of_nodup {before after : List (String × Json)} {field : String × Json}
    (h : ((before ++ field :: after).map Prod.fst).Nodup) : field.1 ∉ before.map Prod.fst := by
  rw [List.map_append, List.map_cons] at h
  intro hmem
  exact (List.nodup_append.mp h).2.2 _ hmem _ List.mem_cons_self rfl

/-- The first character of a value is no white space, and does not end an array. -/
lemma print_head (hvalue : value.Ok canonical) :
    ∃ c text, value.print = c :: text ∧ c ≠ ']' ∧ isJsonSpace c = false := by
  cases value with
  | null => exact ⟨'n', _, rfl, by decide, by decide⟩
  | boolean b =>
      cases b with
      | true => exact ⟨'t', _, rfl, by decide, by decide⟩
      | false => exact ⟨'f', _, rfl, by decide, by decide⟩
  | string s => exact ⟨'"', _, rfl, by decide, by decide⟩
  | array items =>
      cases items with
      | nil => exact ⟨'[', _, rfl, by decide, by decide⟩
      | cons item items => exact ⟨'[', _, rfl, by decide, by decide⟩
  | object fields =>
      cases fields with
      | nil => exact ⟨'\x7b', _, rfl, by decide, by decide⟩
      | cons field fields => exact ⟨'\x7b', _, rfl, by decide, by decide⟩
  | number text =>
      have hall := all_of_isNumeral hvalue.1
      have hne := ne_nil_of_isNumeral hvalue.1
      rw [Json.print]
      cases htext : text.toList with
      | nil => exact absurd htext hne
      | cons c rest =>
          have htoken : isTokenChar c = true := hall c (htext ▸ List.mem_cons_self)
          refine ⟨c, rest, rfl, ?_, isJsonSpace_of_isTokenChar htoken⟩
          rintro rfl
          exact absurd htoken (by decide)

/-- The first item of an array. -/
lemma run_firstItem (hvalue : value.Ok canonical) :
    (⟨stack, .firstItem⟩ : JsonReader).run canonical value.print =
      (⟨stack, .value⟩ : JsonReader).run canonical value.print := by
  obtain ⟨c, text, hprint, hc, hspace⟩ := print_head hvalue
  rw [hprint]
  simp only [JsonReader.run, JsonReader.step, if_neg hc, hspace, Bool.false_eq_true, if_false]

lemma run_printToken {text : List Char} (hne : text ≠ []) (h : ∀ c ∈ text, isTokenChar c = true)
    (hvalue : JsonReader.tokenValue canonical text = some value) :
    ∃ reader, (⟨stack, .value⟩ : JsonReader).run canonical text = some reader ∧
      Delivers canonical stack value reader :=
  ⟨_, run_value_token hne h, .inr ⟨text, rfl, hvalue⟩⟩

/-- The name of a field. -/
lemma run_name {fields : List (String × Json)} {last : String} (name : String)
    (hquote : reader.step canonical '"' = some ⟨.object fields last :: stack, .string true []⟩)
    (text : List Char) :
    reader.run canonical (printString name ++ ':' :: text) =
      (⟨.object fields name :: stack, .value⟩ : JsonReader).run canonical text := by
  rw [JsonReader.run_append, run_printString name hquote, JsonReader.putString,
    fromUtf16_utf16Units, String.ofList_toList, Option.bind_some, run_cons]
  rfl

mutual

/-- A value is read back. -/
theorem run_print : ∀ (value : Json), value.Ok canonical → ∀ stack : List JsonFrame,
    ∃ reader, (⟨stack, .value⟩ : JsonReader).run canonical value.print = some reader ∧
      Delivers canonical stack value reader
  | .null, _, _ => run_printToken (by decide) (List.all_eq_true.mp rfl) rfl
  | .boolean true, _, _ => run_printToken (by decide) (List.all_eq_true.mp rfl) rfl
  | .boolean false, _, _ => run_printToken (by decide) (List.all_eq_true.mp rfl) rfl
  | .number text, hvalue, _ => by
      refine run_printToken (ne_nil_of_isNumeral hvalue.1) (all_of_isNumeral hvalue.1) ?_
      rw [Json.print, tokenValue_of_isNumeral hvalue.1, hvalue.2]
  | .string s, _, stack => by
      refine ⟨JsonReader.put stack (.string s), ?_, .inl rfl⟩
      have hquote : (⟨stack, .value⟩ : JsonReader).step canonical '"' =
          some ⟨stack, .string false []⟩ := rfl
      rw [Json.print, run_printString s hquote, JsonReader.putString, fromUtf16_utf16Units,
        String.ofList_toList]
  | .array [], _, stack => ⟨JsonReader.put stack (.array []), rfl, .inl rfl⟩
  | .array (item :: items), hvalue, stack => by
      refine ⟨JsonReader.put stack (.array (item :: items)), ?_, .inl rfl⟩
      obtain ⟨reader, hrun, hdelivers⟩ := run_print item hvalue.1 (.array [] :: stack)
      have hopen : (⟨stack, .value⟩ : JsonReader).step canonical '[' =
          some ⟨.array [] :: stack, .firstItem⟩ := rfl
      rw [Json.print, run_cons hopen, List.append_assoc, JsonReader.run_append, run_firstItem hvalue.1, hrun, Option.bind_some]
      exact run_printItems items hvalue.2 stack [] item reader hdelivers
  | .object [], _, stack => ⟨JsonReader.put stack (.object []), rfl, .inl rfl⟩
  | .object (field :: fields), hvalue, stack => by
      refine ⟨JsonReader.put stack (.object (field :: fields)), ?_, .inl rfl⟩
      obtain ⟨reader, hrun, hdelivers⟩ := run_printField field hvalue.1.1 stack [] "" .firstName rfl
      rw [Json.print,
        run_cons (show _ = some (⟨.object [] "" :: stack, .firstName⟩ : JsonReader) from rfl),
        List.append_assoc, JsonReader.run_append, hrun, Option.bind_some]
      exact run_printFields fields hvalue.1.2 stack [] field hvalue.2 reader hdelivers

/-- The items after one that was read. -/
theorem run_printItems : ∀ (items : List Json), ItemsOk canonical items →
    ∀ (stack : List JsonFrame) (before : List Json) (item : Json) (reader : JsonReader),
      Delivers canonical (.array before :: stack) item reader →
      reader.run canonical (printItems items ++ [']']) =
        some (JsonReader.put stack (.array (before ++ item :: items)))
  | [], _, stack, before, item, reader, hdelivers => by
      rw [printItems, List.nil_append, run_cons (hdelivers.step (by decide))]
      rfl
  | next :: items, hitems, stack, before, item, reader, hdelivers => by
      obtain ⟨reader', hrun, hdelivers'⟩ :=
        run_print next hitems.1 (.array (before ++ [item]) :: stack)
      have hcomma : reader.step canonical ',' =
          some ⟨.array (before ++ [item]) :: stack, .value⟩ := hdelivers.step (by decide)
      rw [printItems, List.cons_append, run_cons hcomma, List.append_assoc, JsonReader.run_append,
        hrun, Option.bind_some,
        run_printItems items hitems.2 stack (before ++ [item]) next reader' hdelivers',
        List.append_assoc]
      rfl

/-- A field, where the first or another one is expected. -/
theorem run_printField : ∀ (field : String × Json), FieldOk canonical field →
    ∀ (stack : List JsonFrame) (before : List (String × Json)) (last : String) (mode : JsonMode),
      (⟨.object before last :: stack, mode⟩ : JsonReader).step canonical '"' =
        some ⟨.object before last :: stack, .string true []⟩ →
      ∃ reader, (⟨.object before last :: stack, mode⟩ : JsonReader).run canonical
          (printField field) = some reader ∧
        Delivers canonical (.object before field.1 :: stack) field.2 reader
  | (name, value), hfield, stack, before, last, mode, hquote => by
      rw [printField, run_name name hquote]
      exact run_print value hfield (.object before name :: stack)

/-- The fields after one that was read. -/
theorem run_printFields : ∀ (fields : List (String × Json)), FieldsOk canonical fields →
    ∀ (stack : List JsonFrame) (before : List (String × Json)) (field : String × Json),
      ((before ++ field :: fields).map Prod.fst).Nodup → ∀ reader : JsonReader,
      Delivers canonical (.object before field.1 :: stack) field.2 reader →
      reader.run canonical (printFields fields ++ ['\x7d']) =
        some (JsonReader.put stack (.object (before ++ field :: fields)))
  | [], _, stack, before, field, hnodup, reader, hdelivers => by
      have hwrite := writeField_of_notMem field.2 (notMem_of_nodup hnodup)
      rw [printFields, List.nil_append, run_cons (hdelivers.step (by decide))]
      exact congrArg (fun fields => some (JsonReader.put stack (.object fields))) hwrite
  | next :: fields, hfields, stack, before, field, hnodup, reader, hdelivers => by
      have hwrite := writeField_of_notMem field.2 (notMem_of_nodup hnodup)
      have hcomma : reader.step canonical ',' =
          some ⟨.object (before ++ [field]) "" :: stack, .name⟩ := by
        rw [hdelivers.step (by decide)]
        exact
          congrArg (fun fields => some (⟨.object fields "" :: stack, .name⟩ : JsonReader)) hwrite
      obtain ⟨reader', hrun, hdelivers'⟩ :=
        run_printField next hfields.1 stack (before ++ [field]) "" .name rfl
      have hnodup' : ((before ++ [field] ++ next :: fields).map Prod.fst).Nodup := by
        rw [List.append_assoc]
        exact hnodup
      rw [printFields, List.cons_append, run_cons hcomma, List.append_assoc, JsonReader.run_append,
        hrun, Option.bind_some,
        run_printFields fields hfields.2 stack (before ++ [field]) next hnodup' reader' hdelivers',
        List.append_assoc]
      rfl

end

/-- A text that was printed is read back. -/
lemma jsonParse_print (h : value.Ok canonical) : jsonParse canonical value.print = some value := by
  obtain ⟨reader, hrun, hdelivers⟩ := run_print value h []
  rw [jsonParse, hrun, Option.bind_some, hdelivers.result]

/-- The text of an object begins and ends with a brace. -/
lemma print_object (fields : List (String × Json)) :
    ∃ text, (Json.object fields).print = '\x7b' :: text ++ ['\x7d'] := by
  cases fields with
  | nil => exact ⟨[], rfl⟩
  | cons field fields => exact ⟨printField field ++ printFields fields, rfl⟩

end Values

/-! ### The characters of a text -/

section Characters

variable {canonical : List Char → String}

/-- Control characters are no characters of a token. -/
lemma le_of_isTokenChar {c : Char} (h : isTokenChar c = true) : 0x20 ≤ c.toNat := by
  have hcontrol : ∀ n < 0x20, isTokenChar (Char.ofNat n) = false := by decide
  by_contra hlt
  have hfalse := hcontrol c.toNat (not_le.mp hlt)
  rw [Char.ofNat_toNat, h] at hfalse
  exact absurd hfalse (by decide)

/-- Control characters are escaped. -/
lemma le_of_mem_jsonEscape {c d : Char} (h : d ∈ jsonEscape c) : 0x20 ≤ d.toNat := by
  have hhex : ∀ n < 16, 0x20 ≤ (hexDigit n).toNat := by decide
  have htwo : ∀ e : Char, 0x20 ≤ e.toNat → d ∈ ['\\', e] → 0x20 ≤ d.toNat := by
    intro e he hd
    rcases List.mem_cons.mp hd with rfl | hd
    · decide
    · rw [List.mem_singleton.mp hd]
      exact he
  unfold jsonEscape at h
  split at h
  · exact htwo _ (by decide) h
  · exact htwo _ (by decide) h
  · exact htwo _ (by decide) h
  · exact htwo _ (by decide) h
  · exact htwo _ (by decide) h
  · exact htwo _ (by decide) h
  · exact htwo _ (by decide) h
  · split_ifs at h with hcontrol
    · simp only [List.mem_cons, List.not_mem_nil, or_false] at h
      rcases h with rfl | rfl | rfl | rfl | rfl | rfl
      · decide
      · decide
      · decide
      · decide
      · exact hhex _ (by omega)
      · exact hhex _ (by omega)
    · rw [List.mem_singleton.mp h]
      exact not_lt.mp hcontrol

lemma le_of_mem_printString {s : String} {c : Char} (h : c ∈ printString s) : 0x20 ≤ c.toNat := by
  rw [printString, List.mem_cons, List.mem_append, List.mem_singleton, List.mem_flatMap] at h
  rcases h with rfl | ⟨d, -, hc⟩ | rfl
  · decide
  · exact le_of_mem_jsonEscape hc
  · decide

/-- A text that is written out and has no control characters. -/
lemma le_of_all {text : List Char} (h : text.all (fun c => 0x20 ≤ c.toNat) = true) :
    ∀ c ∈ text, 0x20 ≤ c.toNat := fun c hc => of_decide_eq_true (List.all_eq_true.mp h c hc)

mutual

/-- The text of a value has no control characters. -/
theorem le_of_mem_print : ∀ value : Json, value.Ok canonical → ∀ c ∈ value.print, 0x20 ≤ c.toNat
  | .null, _ => le_of_all rfl
  | .boolean true, _ => le_of_all rfl
  | .boolean false, _ => le_of_all rfl
  | .number text, hvalue => fun c hc => le_of_isTokenChar (all_of_isNumeral hvalue.1 c hc)
  | .string s, _ => fun c hc => le_of_mem_printString hc
  | .array [], _ => le_of_all rfl
  | .array (item :: items), hvalue => by
      intro c hc
      simp only [Json.print, List.mem_cons, List.mem_append, List.not_mem_nil, or_false] at hc
      rcases hc with rfl | (hc | hc) | rfl
      · decide
      · exact le_of_mem_print item hvalue.1 c hc
      · exact le_of_mem_printItems items hvalue.2 c hc
      · decide
  | .object [], _ => le_of_all rfl
  | .object (field :: fields), hvalue => by
      intro c hc
      simp only [Json.print, List.mem_cons, List.mem_append, List.not_mem_nil, or_false] at hc
      rcases hc with rfl | (hc | hc) | rfl
      · decide
      · exact le_of_mem_printField field hvalue.1.1 c hc
      · exact le_of_mem_printFields fields hvalue.1.2 c hc
      · decide

theorem le_of_mem_printItems : ∀ items : List Json, ItemsOk canonical items →
    ∀ c ∈ printItems items, 0x20 ≤ c.toNat
  | [], _ => le_of_all rfl
  | item :: items, hitems => by
      intro c hc
      rw [printItems, List.mem_cons, List.mem_append] at hc
      rcases hc with rfl | hc | hc
      · decide
      · exact le_of_mem_print item hitems.1 c hc
      · exact le_of_mem_printItems items hitems.2 c hc

theorem le_of_mem_printField : ∀ field : String × Json, FieldOk canonical field →
    ∀ c ∈ printField field, 0x20 ≤ c.toNat
  | (name, value), hfield => by
      intro c hc
      rw [printField, List.mem_append, List.mem_cons] at hc
      rcases hc with hc | rfl | hc
      · exact le_of_mem_printString hc
      · decide
      · exact le_of_mem_print value hfield c hc

theorem le_of_mem_printFields : ∀ fields : List (String × Json), FieldsOk canonical fields →
    ∀ c ∈ printFields fields, 0x20 ≤ c.toNat
  | [], _ => le_of_all rfl
  | field :: fields, hfields => by
      intro c hc
      rw [printFields, List.mem_cons, List.mem_append] at hc
      rcases hc with rfl | hc | hc
      · decide
      · exact le_of_mem_printField field hfields.1 c hc
      · exact le_of_mem_printFields fields hfields.2 c hc

end

end Characters

end Opzava.Library
