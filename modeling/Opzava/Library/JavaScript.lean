import Mathlib

/-!
The parts of the JavaScript standard library that the modelled code computes
with: string length and order over UTF-16 code units, `trim` and the whitespace
class `\s`, `JSON.stringify` of a string, `Date.prototype.toISOString`, and the
values a dynamically typed argument may hold.

A finite number is kept as the decimal text `JSON.stringify` prints for it, so
`number "1.5"` is `1.5`; `nonFinite` stands for the values it refuses to print,
and `other` for functions, symbols and big integers. The fields of an object
stand in their own order, each name once.
-/

namespace Opzava.Library

/-! ### Strings -/

/-- The UTF-16 code units of one character. -/
def utf16Units (c : Char) : List ℕ :=
  if c.toNat < 0x10000 then [c.toNat]
  else [0xD800 + (c.toNat - 0x10000) / 0x400, 0xDC00 + (c.toNat - 0x10000) % 0x400]

/-- `s.length`: the number of UTF-16 code units. -/
def jsLength (s : String) : ℕ := (s.toList.flatMap utf16Units).length

/-- Lexicographic comparison of code-unit sequences. -/
def unitsLe : List ℕ → List ℕ → Bool
  | [], _ => true
  | _ :: _, [] => false
  | a :: as, b :: bs => if a < b then true else if b < a then false else unitsLe as bs

/-- The order in which `Array.prototype.sort` puts strings without a comparator. -/
def jsStringLe (a b : String) : Bool :=
  unitsLe (a.toList.flatMap utf16Units) (b.toList.flatMap utf16Units)

/-- The characters matched by `\s` and removed by `trim`. -/
def isJsSpace (c : Char) : Bool :=
  c.toNat ∈ [0x9, 0xA, 0xB, 0xC, 0xD, 0x20, 0xA0, 0x1680, 0x2028, 0x2029, 0x202F, 0x205F, 0x3000,
    0xFEFF] || (0x2000 ≤ c.toNat && c.toNat ≤ 0x200A)

/-- `s.trim()` on characters. -/
def jsTrim (cs : List Char) : List Char :=
  ((cs.dropWhile isJsSpace).reverse.dropWhile isJsSpace).reverse

lemma dropWhile_of_forall {α : Type} {p : α → Bool} {l : List α} (h : ∀ a ∈ l, p a = false) :
    l.dropWhile p = l := by
  cases l with
  | nil => rfl
  | cons a rest => rw [List.dropWhile_cons, if_neg (Bool.not_eq_true _ ▸ h a List.mem_cons_self)]

/-- A text without spaces is trimmed already. -/
lemma jsTrim_of_forall {cs : List Char} (h : ∀ c ∈ cs, isJsSpace c = false) : jsTrim cs = cs := by
  rw [jsTrim, dropWhile_of_forall h, dropWhile_of_forall, List.reverse_reverse]
  exact fun c hc => h c (List.mem_reverse.mp hc)

/-- A beginning without spaces is not trimmed away. -/
lemma isPrefix_jsTrim_append {cs rest : List Char} (h : ∀ c ∈ cs, isJsSpace c = false) :
    cs <+: jsTrim (cs ++ rest) := by
  cases cs with
  | nil => exact List.nil_prefix
  | cons c cs =>
      have hbegins : ((c :: cs) ++ rest).dropWhile isJsSpace = (c :: cs) ++ rest :=
        List.dropWhile_cons_of_neg (Bool.eq_false_iff.mp (h c List.mem_cons_self))
      have hends : (c :: cs).reverse.dropWhile isJsSpace = (c :: cs).reverse :=
        dropWhile_of_forall fun d hd => h d (List.mem_reverse.mp hd)
      rw [jsTrim, hbegins, List.reverse_append, List.dropWhile_append, hends]
      split_ifs with hspaces
      · exact ⟨[], by rw [List.reverse_reverse, List.append_nil]⟩
      · rw [List.reverse_append, List.reverse_reverse]
        exact List.prefix_append _ _

/-- A text that is trimmed is trimmed already. -/
lemma jsTrim_jsTrim (cs : List Char) : jsTrim (jsTrim cs) = jsTrim cs := by
  have hends : jsTrim cs = (cs.dropWhile isJsSpace).rdropWhile isJsSpace := rfl
  have hbegins : (jsTrim cs).dropWhile isJsSpace = jsTrim cs := by
    rw [List.dropWhile_eq_self_iff]
    intro hlength hspace
    obtain ⟨rest, hrest⟩ : jsTrim cs <+: cs.dropWhile isJsSpace := hends ▸ List.rdropWhile_prefix _ _
    have hpos : 0 < (cs.dropWhile isJsSpace).length := by
      rw [← hrest, List.length_append]
      omega
    have hhead : (cs.dropWhile isJsSpace)[0] = (jsTrim cs)[0] := by
      simp only [← hrest, List.getElem_append_left hlength]
    exact List.dropWhile_get_zero_not isJsSpace cs hpos (by
      rw [List.get_eq_getElem]
      exact hhead ▸ hspace)
  rw [show jsTrim (jsTrim cs) = ((jsTrim cs).dropWhile isJsSpace).rdropWhile isJsSpace from rfl,
    hbegins, hends]
  exact List.rdropWhile_idempotent isJsSpace _

/-- `s.replace(/\s+/g, " ")` on characters; the flag says whether the previous
character belongs to the run being replaced. -/
def collapseSpaces : Bool → List Char → List Char
  | _, [] => []
  | inRun, c :: cs =>
      if isJsSpace c then
        if inRun then collapseSpaces true cs else ' ' :: collapseSpaces true cs
      else c :: collapseSpaces false cs

/-- `s.trim().replace(/\s+/g, " ")`. -/
def normalizeSpaces (s : String) : String :=
  String.ofList (collapseSpaces false (jsTrim s.toList))

lemma collapseSpaces_true (cs : List Char) :
    collapseSpaces true cs = collapseSpaces false (cs.dropWhile isJsSpace) := by
  induction cs with
  | nil => rfl
  | cons c rest ih =>
      by_cases hc : isJsSpace c = true
      · rw [List.dropWhile_cons, if_pos hc, ← ih]
        simp [collapseSpaces, hc]
      · rw [List.dropWhile_cons, if_neg hc]
        simp [collapseSpaces, hc]

lemma collapseSpaces_collapseSpaces (inRun : Bool) (cs : List Char) :
    collapseSpaces inRun (collapseSpaces inRun cs) = collapseSpaces inRun cs := by
  induction cs generalizing inRun with
  | nil => rfl
  | cons c rest ih =>
      by_cases hc : isJsSpace c = true
      · cases inRun with
        | true =>
            have hstep : collapseSpaces true (c :: rest) = collapseSpaces true rest := by
              simp [collapseSpaces, hc]
            rw [hstep, ih true]
        | false =>
            have hstep : collapseSpaces false (c :: rest) = ' ' :: collapseSpaces true rest := by
              simp [collapseSpaces, hc]
            have hspace : isJsSpace ' ' = true := by decide
            rw [hstep]
            simp [collapseSpaces, hspace, ih true]
      · have hstep : ∀ inRun, collapseSpaces inRun (c :: rest) = c :: collapseSpaces false rest := by
          intro inRun
          simp [collapseSpaces, hc]
        rw [hstep]
        simp [collapseSpaces, hc, ih false]

/-- A text with no space at its end has none there when its spaces are collapsed. -/
lemma collapseSpaces_concat (inRun : Bool) (cs : List Char) {c : Char} (hc : isJsSpace c = false) :
    ∃ rest, collapseSpaces inRun (cs ++ [c]) = rest ++ [c] := by
  induction cs generalizing inRun with
  | nil => exact ⟨[], by simp [collapseSpaces, hc]⟩
  | cons d cs ih =>
      obtain ⟨inside, hinside⟩ := ih true
      obtain ⟨outside, houtside⟩ := ih false
      rw [List.cons_append, collapseSpaces]
      split_ifs
      · exact ⟨inside, hinside⟩
      · exact ⟨' ' :: inside, by rw [hinside, List.cons_append]⟩
      · exact ⟨d :: outside, by rw [houtside, List.cons_append]⟩

/-- The ends of a trimmed text are no spaces. -/
lemma jsTrim_cases (cs : List Char) : jsTrim cs = [] ∨
    (∃ c rest, jsTrim cs = c :: rest ∧ isJsSpace c = false) ∧
      ∃ rest c, jsTrim cs = rest ++ [c] ∧ isJsSpace c = false := by
  rcases List.eq_nil_or_concat (jsTrim cs) with hnil | ⟨rest, last, hconcat⟩
  · exact .inl hnil
  · rw [List.concat_eq_append] at hconcat
    refine .inr ⟨?_, rest, last, hconcat, ?_⟩
    · have htwice := jsTrim_jsTrim cs
      cases hcons : jsTrim cs with
      | nil => simp [hcons] at hconcat
      | cons c tail =>
          refine ⟨c, tail, rfl, ?_⟩
          by_contra hspace
          rw [Bool.not_eq_false] at hspace
          have hshort : (jsTrim (c :: tail)).length ≤ tail.length := by
            rw [jsTrim, List.dropWhile_cons, if_pos hspace, List.length_reverse]
            refine (List.dropWhile_suffix _).length_le.trans ?_
            rw [List.length_reverse]
            exact (List.dropWhile_suffix _).length_le
          rw [← hcons, htwice, hcons, List.length_cons] at hshort
          omega
    · by_contra hspace
      rw [Bool.not_eq_false] at hspace
      have hlast := List.rdropWhile_last_not isJsSpace (cs.dropWhile isJsSpace)
      have hends : (cs.dropWhile isJsSpace).rdropWhile isJsSpace = rest ++ [last] := hconcat
      have hne : (cs.dropWhile isJsSpace).rdropWhile isJsSpace ≠ [] := by simp [hends]
      refine hlast hne ?_
      simpa [hends] using hspace

/-- A text that is normalized is normalized already. -/
lemma normalizeSpaces_normalizeSpaces (s : String) :
    normalizeSpaces (normalizeSpaces s) = normalizeSpaces s := by
  have htrimmed : jsTrim (collapseSpaces false (jsTrim s.toList)) =
      collapseSpaces false (jsTrim s.toList) := by
    rcases jsTrim_cases s.toList with hnil | ⟨⟨first, rest, hfirst, hfirstSpace⟩, init, last, hlast,
      hlastSpace⟩
    · rw [hnil]
      rfl
    · obtain ⟨front, hfront⟩ := collapseSpaces_concat false init hlastSpace
      have hhead : collapseSpaces false (jsTrim s.toList) = first :: collapseSpaces false rest := by
        rw [hfirst]
        simp [collapseSpaces, hfirstSpace]
      rw [← hlast] at hfront
      rw [jsTrim, hhead, List.dropWhile_cons, if_neg (Bool.not_eq_true _ ▸ hfirstSpace), ← hhead,
        hfront, List.reverse_append]
      simp [hlastSpace]
  rw [normalizeSpaces, normalizeSpaces, String.toList_ofList, htrimmed,
    collapseSpaces_collapseSpaces]

/-- `s.startsWith(start)`. -/
def jsStartsWith (s start : String) : Bool := start.toList.isPrefixOf s.toList

/-- One hexadecimal digit in lower case. -/
def hexDigit (n : ℕ) : Char := if n < 10 then Char.ofNat (48 + n) else Char.ofNat (87 + n)

/-- The escape `JSON.stringify` writes for a character of a string. -/
def jsonEscape (c : Char) : List Char :=
  match c.toNat with
  | 0x22 => ['\\', '"']
  | 0x5C => ['\\', '\\']
  | 0x08 => ['\\', 'b']
  | 0x0C => ['\\', 'f']
  | 0x0A => ['\\', 'n']
  | 0x0D => ['\\', 'r']
  | 0x09 => ['\\', 't']
  | n => if n < 0x20 then ['\\', 'u', '0', '0', hexDigit (n / 16), hexDigit (n % 16)] else [c]

/-- `JSON.stringify` of a string. -/
def jsonString (s : String) : String :=
  String.ofList ('"' :: (s.toList.flatMap jsonEscape ++ ['"']))

/-! ### Dates -/

/-- A date as its number of milliseconds since the epoch. -/
abbrev Date := ℤ

/-- A natural number in decimal, padded with zeros to a width. -/
def padded (width n : ℕ) : String :=
  let digits := (toString n).toList
  String.ofList (List.replicate (width - digits.length) '0' ++ digits)

/-- Year, month and day of the proleptic Gregorian calendar, from the number of
days since the epoch. -/
def civilFromDays (days : ℤ) : ℤ × ℕ × ℕ :=
  let z := days + 719468
  let era := z / 146097
  let doe := (z - era * 146097).toNat
  let yoe := (doe - doe / 1460 + doe / 36524 - doe / 146096) / 365
  let doy := doe - (365 * yoe + yoe / 4 - yoe / 100)
  let mp := (5 * doy + 2) / 153
  let month := if mp < 10 then mp + 3 else mp - 9
  (yoe + era * 400 + (if month ≤ 2 then 1 else 0), month, doy - (153 * mp + 2) / 5 + 1)

/-- `Date.prototype.toISOString`. -/
def toISOString (date : Date) : String :=
  let (year, month, day) := civilFromDays (date / 86400000)
  let rest := (date % 86400000).toNat
  let yearText :=
    if 0 ≤ year ∧ year ≤ 9999 then padded 4 year.toNat
    else (if year < 0 then "-" else "+") ++ padded 6 year.natAbs
  yearText ++ "-" ++ padded 2 month ++ "-" ++ padded 2 day ++ "T" ++
    padded 2 (rest / 3600000) ++ ":" ++ padded 2 (rest / 60000 % 60) ++ ":" ++
    padded 2 (rest / 1000 % 60) ++ "." ++ padded 3 (rest % 1000) ++ "Z"

example : toISOString 1767312000000 = "2026-01-02T00:00:00.000Z" := by decide

/-! ### Values -/

/-- The values an argument of type `unknown` may hold. -/
inductive JsValue where
  | undefined
  | null
  | boolean (b : Bool)
  | number (text : String)
  | nonFinite
  | string (s : String)
  | array (items : List JsValue)
  | object (fields : List (String × JsValue))
  | other

/-- An object by its fields, in order. -/
abbrev JsRecord := List (String × JsValue)

/-- A natural number as a value. -/
def JsValue.nat (n : ℕ) : JsValue := .number (toString n)

/-- A nullable string as a value. -/
def JsValue.nullable : Option String → JsValue
  | none => .null
  | some s => .string s

namespace JsRecord

/-- `record[name]`: `undefined` when the name is absent. -/
def read (record : JsRecord) (name : String) : JsValue :=
  match record.find? fun field => field.1 = name with
  | some field => field.2
  | none => .undefined

/-- Write one field, in place when the name is present. -/
def write (record : JsRecord) (name : String) (value : JsValue) : JsRecord :=
  match record with
  | [] => [(name, value)]
  | field :: rest =>
      if field.1 = name then (name, value) :: rest else field :: write rest name value

/-- The object spread `{ ...record, ...extra }`. -/
def spread (record extra : JsRecord) : JsRecord :=
  extra.foldl (fun acc field => write acc field.1 field.2) record

lemma read_write (record : JsRecord) (name name' : String) (value : JsValue) :
    read (write record name value) name' = if name' = name then value else read record name' := by
  induction record with
  | nil =>
      by_cases h : name = name'
      · simp [read, write, h]
      · simp [read, write, h, Ne.symm h]
  | cons field rest ih =>
      by_cases hf : field.1 = name
      · by_cases hn : name' = name
        · simp [read, write, hf, hn]
        · simp [read, write, hf, hn, Ne.symm hn]
      · by_cases hf' : field.1 = name'
        · have hn : name' ≠ name := hf' ▸ hf
          simp [read, write, hf', hn]
        · simp only [read, write, if_neg hf, List.find?_cons, decide_eq_false hf'] at ih ⊢
          exact ih

/-- A name the extra fields do not use is read from the record itself. -/
lemma read_spread_of_notMem (record : JsRecord) (name : String) : ∀ extra : JsRecord,
    name ∉ extra.map Prod.fst → read (spread record extra) name = read record name := by
  intro extra
  induction extra generalizing record with
  | nil => intro _; rfl
  | cons field rest ih =>
      intro h
      rw [List.map_cons, List.mem_cons, not_or] at h
      have hrest := ih (write record field.1 field.2) h.2
      rw [read_write, if_neg h.1] at hrest
      exact hrest

end JsRecord

end Opzava.Library
