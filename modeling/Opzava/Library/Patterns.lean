import Opzava.Library.JavaScript

/-!
Regular expressions, as far as they are sequences of character classes.

A pattern is a row of atoms: a class of characters with the bounds of its repetition, or a condition
on the place. A repetition takes as many characters as it can and gives them back one by one.

* `Pattern.matchLength`: the length of the match at a place, when there is one.
* `Regex.replaceAll`, `Regex.allMatches`, `Regex.test`: `text.replace(regex, …)` and
  `text.match(regex)` with the flag `g`, and `regex.test`.
* `Pattern.matchLength_one`, `Pattern.matchLength_optional`, `Pattern.matchLength_greedy`: the
  atoms without a choice.
* `Regex.replaceAll_match`, `Regex.replaceAll_none`: the replacement, match by match.
-/

namespace Opzava.Library

/-- `\w`. -/
def isWordChar (c : Char) : Bool := c.isAlphanum || c = '_'

lemma isDigit_iff {c : Char} : c.isDigit = true ↔ 48 ≤ c.val.toNat ∧ c.val.toNat ≤ 57 := by
  simp [Char.isDigit, UInt32.le_iff_toNat_le]

lemma isAlpha_iff {c : Char} : c.isAlpha = true ↔
    (65 ≤ c.val.toNat ∧ c.val.toNat ≤ 90) ∨ (97 ≤ c.val.toNat ∧ c.val.toNat ≤ 122) := by
  simp [Char.isAlpha, Char.isUpper, Char.isLower, UInt32.le_iff_toNat_le]

/-- An element of a pattern: `p{least,most}`, `\b`, `^` and `$`. -/
inductive Atom
  | chars (p : Char → Bool) (least : ℕ) (most : Option ℕ)
  | boundary
  | start
  | stop

abbrev Pattern := List Atom

/-- The place between two characters is a boundary of a word. -/
def isBoundary (prev next : Option Char) : Bool :=
  prev.any isWordChar != next.any isWordChar

namespace Pattern

/-- The lengths a repetition may have, the greatest one first. -/
def lengths (p : Char → Bool) (least : ℕ) (most : Option ℕ) (text : List Char) : List ℕ :=
  let longest := (text.takeWhile p).length
  let longest := match most with
    | some most => min most longest
    | none => longest
  ((List.range (longest + 1)).filter (least ≤ ·)).reverse

/-- The last character before the place that is `n` characters further. -/
def charBefore (prev : Option Char) (text : List Char) (n : ℕ) : Option Char :=
  (text.take n).getLast?.or prev

/-- The length of the match at the beginning of a text, which stands after `prev`. -/
def matchLength : Pattern → Option Char → List Char → Option ℕ
  | [], _, _ => some 0
  | .chars p least most :: pattern, prev, text =>
      (lengths p least most text).findSome? fun n =>
        (matchLength pattern (charBefore prev text n) (text.drop n)).map (n + ·)
  | .boundary :: pattern, prev, text =>
      if isBoundary prev text.head? then matchLength pattern prev text else none
  | .start :: pattern, prev, text => if prev.isNone then matchLength pattern prev text else none
  | .stop :: pattern, prev, text => if text.isEmpty then matchLength pattern prev text else none

/-! ### Parts of patterns -/

/-- A character. -/
def char (c : Char) : Atom := .chars (· = c) 1 (some 1)

/-- A text. -/
def literal (text : String) : Pattern := text.toList.map char

/-- A text, with the flag `i`. -/
def literalIgnoringCase (text : String) : Pattern :=
  text.toList.map fun c => .chars (fun d => d.toLower = c.toLower) 1 (some 1)

/-- `p?`. -/
def optional (p : Char → Bool) : Atom := .chars p 0 (some 1)

/-- `p*`. -/
def star (p : Char → Bool) : Atom := .chars p 0 none

/-- `p+`. -/
def plus (p : Char → Bool) : Atom := .chars p 1 none

/-! ### Atoms without a choice -/

section Atoms

variable {p : Char → Bool} {pattern : Pattern} {prev : Option Char} {c : Char} {text : List Char}

lemma matchLength_one_nil : matchLength (.chars p 1 (some 1) :: pattern) prev [] = none := rfl

/-- One character of a class. -/
lemma matchLength_one : matchLength (.chars p 1 (some 1) :: pattern) prev (c :: text) =
    if p c = true then (matchLength pattern (some c) text).map (1 + ·) else none := by
  have hlengths : lengths p 1 (some 1) (c :: text) = if p c = true then [1] else [] := by
    rw [lengths, List.takeWhile_cons]
    split
    · rw [List.length_cons, Nat.min_eq_left (by omega)]
      rfl
    · rfl
  rw [matchLength, hlengths]
  split
  · rw [List.findSome?_cons, List.findSome?_nil, List.drop_one, List.tail_cons]
    cases hrest : matchLength pattern (charBefore prev (c :: text) 1) text with
    | none =>
        change matchLength pattern (some c) text = none at hrest
        rw [hrest]
        rfl
    | some n =>
        change matchLength pattern (some c) text = some n at hrest
        rw [hrest]
        rfl
  · rfl

/-- A character of a class at the end, if there is one. -/
lemma matchLength_optional : matchLength [optional p] prev text =
    some (if text.head?.any p = true then 1 else 0) := by
  cases text with
  | nil => rfl
  | cons c text =>
      rw [optional, matchLength, lengths, List.takeWhile_cons, List.head?_cons, Option.any_some]
      split
      · rw [List.length_cons, Nat.min_eq_left (by omega)]
        rfl
      · rfl

/-- A repetition before what begins with no character of its class takes all it can. -/
lemma matchLength_greedy
    (h : ∀ prev c text, p c = true → matchLength pattern prev (c :: text) = none) :
    matchLength (star p :: pattern) prev text =
      (matchLength pattern (charBefore prev text (text.takeWhile p).length)
        (text.dropWhile p)).map ((text.takeWhile p).length + ·) := by
  have hlengths : lengths p 0 none text =
      (text.takeWhile p).length :: (List.range (text.takeWhile p).length).reverse := by
    have hall : ∀ n ∈ List.range ((text.takeWhile p).length + 1), decide (0 ≤ n) = true :=
      fun n _ => decide_eq_true (Nat.zero_le n)
    rw [lengths, List.filter_eq_self.mpr hall, List.range_succ, List.reverse_append]
    rfl
  have hdrop : text.drop (text.takeWhile p).length = text.dropWhile p := by
    have htext : (text.takeWhile p ++ text.dropWhile p).drop (text.takeWhile p).length =
        text.dropWhile p := List.drop_left
    rwa [List.takeWhile_append_dropWhile] at htext
  rw [star, matchLength, hlengths, List.findSome?_cons, hdrop]
  split
  · rename_i hfirst
    exact hfirst.symm
  · rename_i hfirst
    rw [hfirst]
    refine List.findSome?_eq_none_iff.mpr fun n hn => ?_
    -- What was given back is of the class.
    have hlt : n < (text.takeWhile p).length := List.mem_range.mp (List.mem_reverse.mp hn)
    have hbegins := List.takeWhile_prefix (l := text) p
    have hle := hbegins.length_le
    have hmem := List.getElem_mem hlt
    rw [hbegins.getElem hlt] at hmem
    rw [List.drop_eq_getElem_cons (by omega), h _ _ _ (List.mem_takeWhile_imp hmem)]
    rfl

end Atoms

end Pattern

/-- Alternatives, the first one that matches being taken. -/
abbrev Regex := List Pattern

namespace Regex

def matchLength (regex : Regex) (prev : Option Char) (text : List Char) : Option ℕ :=
  regex.findSome? fun pattern => pattern.matchLength prev text

/-- The text after `prev`, of which `skip` characters belong to a match. A regex that is replaced
here matches no empty text. -/
def replaceFrom (regex : Regex) (new : List Char) : ℕ → Option Char → List Char → List Char
  | _, _, [] => []
  | skip + 1, _, c :: text => replaceFrom regex new skip (some c) text
  | 0, prev, c :: text =>
      match regex.matchLength prev (c :: text) with
      | some (n + 1) => new ++ replaceFrom regex new n (some c) text
      | _ => c :: replaceFrom regex new 0 (some c) text

/-- `text.replace(regex, new)` with the flag `g`. -/
def replaceAll (regex : Regex) (new text : List Char) : List Char :=
  regex.replaceFrom new 0 none text

/-- The matches in the text after `prev`, of which `skip` characters belong to one already. -/
def matchesFrom (regex : Regex) : ℕ → Option Char → List Char → List (List Char)
  | _, _, [] => []
  | skip + 1, _, c :: text => matchesFrom regex skip (some c) text
  | 0, prev, c :: text =>
      match regex.matchLength prev (c :: text) with
      | some (n + 1) => (c :: text.take n) :: matchesFrom regex n (some c) text
      | _ => matchesFrom regex 0 (some c) text

/-- `text.match(regex)` with the flag `g`. -/
def allMatches (regex : Regex) (text : List Char) : List (List Char) :=
  regex.matchesFrom 0 none text

/-- There is a match at some place of the text after `prev`. -/
def testFrom (regex : Regex) : Option Char → List Char → Bool
  | prev, [] => (regex.matchLength prev []).isSome
  | prev, c :: text => (regex.matchLength prev (c :: text)).isSome || testFrom regex (some c) text

/-- `regex.test(text)`. -/
def test (regex : Regex) (text : List Char) : Bool := regex.testFrom none text

/-! ### Replacements, match by match -/

section Replace

/-- What stands before a place does not decide about a match. -/
def IgnoresBefore (regex : Regex) : Prop :=
  ∀ prev prev' text, regex.matchLength prev text = regex.matchLength prev' text

variable {regex : Regex} {new : List Char} {c : Char} {text : List Char}

lemma replaceFrom_before (h : regex.IgnoresBefore) (skip : ℕ) (prev prev' : Option Char)
    (text : List Char) :
    regex.replaceFrom new skip prev text = regex.replaceFrom new skip prev' text := by
  cases text with
  | nil => cases skip <;> rfl
  | cons c text =>
      cases skip with
      | zero => rw [replaceFrom, replaceFrom, h prev prev']
      | succ skip => rfl

lemma replaceFrom_skip (h : regex.IgnoresBefore) (skip : ℕ) (prev : Option Char)
    (text : List Char) :
    regex.replaceFrom new skip prev text = regex.replaceAll new (text.drop skip) := by
  induction skip generalizing prev text with
  | zero => exact replaceFrom_before h 0 prev none text
  | succ skip ih =>
      cases text with
      | nil => rfl
      | cons c text => exact ih (some c) text

/-- At a match. -/
lemma replaceAll_match (h : regex.IgnoresBefore) {n : ℕ}
    (hmatch : regex.matchLength none (c :: text) = some (n + 1)) :
    regex.replaceAll new (c :: text) = new ++ regex.replaceAll new (text.drop n) := by
  rw [replaceAll, replaceFrom, hmatch]
  exact congrArg (new ++ ·) (replaceFrom_skip h n (some c) text)

/-- At no match. -/
lemma replaceAll_none (h : regex.IgnoresBefore)
    (hmatch : regex.matchLength none (c :: text) = none) :
    regex.replaceAll new (c :: text) = c :: regex.replaceAll new text := by
  rw [replaceAll, replaceFrom, hmatch]
  exact congrArg (c :: ·) (replaceFrom_before h 0 (some c) none text)

end Replace

end Regex

/-! ### Lower case -/

/-- A character of `text.toLowerCase()`, as far as it can be one of ASCII: of the letters outside of
ASCII, the Kelvin sign becomes a `k`, and the capital I with a dot an `i` with a dot above it. -/
def lowerChars (c : Char) : List Char :=
  if c.toNat = 0x212A then ['k']
  else if c.toNat = 0x130 then ['i', Char.ofNat 0x307]
  else [c.toLower]

end Opzava.Library
