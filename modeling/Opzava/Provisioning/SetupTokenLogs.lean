import Opzava.Library.Patterns
import Opzava.Provisioning.SetupTokenFlow

/-!
The log of a setup-token login (`provisioning/docker-gateway-runtime.ts`), which is read while the
command line still writes it.

* `stripAnsi`, `terminalLines`: the lines of a terminal.
* `setupTokenLoginStateFromLog`: what a log says.
* `stripAnsi_escape`, `Grows.stripAnsi`, `Grows.newlines`: the sequences and the lines of a log
  that grows.
-/

namespace Opzava.Provisioning

open Opzava.Library Pattern

/-! ### Lines -/

/-- `[0-9;?]`. -/
def isAnsiParameter (c : Char) : Bool := c.isDigit || c = ';' || c = '?'

/-- An escape, `[`, `[0-9;?]*` and `[a-zA-Z]`. -/
def ansiSequence : Regex :=
  [[char '\x1b', char '[', star isAnsiParameter, .chars Char.isAlpha 1 (some 1)]]

def stripAnsi (value : List Char) : List Char := ansiSequence.replaceAll [] value

/-- `\r\n?`. -/
def carriageReturn : Regex := [[char '\r', optional (· = '\n')]]

/-- `value.replace(/\r\n?/g, "\n")`. -/
def newlines (value : List Char) : List Char := carriageReturn.replaceAll ['\n'] value

def interactiveLoginText (value : List Char) : List Char := newlines (stripAnsi value)

def terminalLines (value : List Char) : List (List Char) :=
  (newlines (stripAnsi value)).splitOn '\n'

/-! ### The token -/

def setupTokenLength : ℕ := 108

/-- `[A-Za-z0-9_-]`. -/
def isSetupTokenChar (c : Char) : Bool := c.isAlphanum || c = '_' || c = '-'

/-- `(sk-ant-oat01-[A-Za-z0-9_-]+)(?=\s|$)` at a place: the token, and what is behind it. A shorter
token would have one of its characters behind it. -/
def setupTokenAt (text : List Char) : Option (List Char × List Char) :=
  let marker := "sk-ant-oat01-".toList
  if marker.isPrefixOf text then
    let token := (text.drop marker.length).takeWhile isSetupTokenChar
    let behind := (text.drop marker.length).dropWhile isSetupTokenChar
    if token ≠ [] ∧ behind.head?.all isJsSpace = true then some (marker ++ token, behind) else none
  else none

/-- `line.match(setupTokenPattern)`, from a place of the line on, which may be its `start`. -/
def setupTokenMatch : Bool → List Char → Option (List Char × List Char)
  | _, [] => none
  | start, c :: text =>
      (if start then setupTokenAt (c :: text) else none).or
        ((if isJsSpace c then setupTokenAt text else none).or (setupTokenMatch false text))

/-- The token of a line. -/
def setupTokenOfLine (line : List Char) : Option String :=
  match setupTokenMatch true line with
  | some (token, _) => if token.length = setupTokenLength then some (String.ofList token) else none
  | none => none

def setupTokenFromLog (value : List Char) : Option String :=
  (terminalLines value).findSome? setupTokenOfLine

/-! ### The other states -/

/-- `https?`, a colon and two slashes. -/
def webScheme : Pattern :=
  literalIgnoringCase "http" ++ [optional fun c => c.toLower = 's'] ++ literal "://"

/-- What a hyperlink points to, at its place, and its length. -/
def hyperlinkAt : List Char → Option (List Char × ℕ)
  | '\x1b' :: ']' :: '8' :: ';' :: text =>
      let id := text.takeWhile (· ≠ ';')
      let target := ((text.dropWhile (· ≠ ';')).drop 1).takeWhile fun c => c ≠ '\x07' ∧ c ≠ '\x1b'
      if target = [] then none
      else
        match ((text.dropWhile (· ≠ ';')).drop 1).dropWhile fun c => c ≠ '\x07' ∧ c ≠ '\x1b' with
        | '\x07' :: _ => some (target, id.length + target.length + 6)
        | '\x1b' :: '\\' :: _ => some (target, id.length + target.length + 7)
        | _ => none
  | _ => none

/-- The hyperlinks of a text, of which `skip` characters belong to one already. -/
def hyperlinksFrom : ℕ → List Char → List (List Char)
  | _, [] => []
  | skip + 1, _ :: text => hyperlinksFrom skip text
  | 0, c :: text =>
      match hyperlinkAt (c :: text) with
      | some (target, n + 1) => target :: hyperlinksFrom n text
      | _ => hyperlinksFrom 0 text

local instance lawfulBEqText : LawfulBEq (List Char) := inferInstance

def hyperlinkTargets (value : List Char) : List (List Char) :=
  (hyperlinksFrom 0 value).foldl (fun targets target =>
    if jsTrim target ≠ [] ∧ jsTrim target ∉ targets then targets ++ [jsTrim target] else targets) []

/-- `oauth|claude\.ai|claude\.com|anthropic\.com`. -/
def authorizeHost : Regex :=
  ["oauth", "claude.ai", "claude.com", "anthropic.com"].map literalIgnoringCase

/-- `[^\s"'<>)]`. -/
def isLinkChar (c : Char) : Bool := !isJsSpace c && c ∉ ['"', '\'', '<', '>', ')']

def setupTokenAuthorizeUrl (value : List Char) : Option String :=
  match (hyperlinkTargets value).find? fun target =>
      Regex.test [.start :: webScheme] target && authorizeHost.test target with
  | some linked => some (String.ofList linked)
  | none =>
      (terminalLines value).findSome? fun line =>
        ((Regex.allMatches [webScheme ++ [plus isLinkChar]] line).find? fun candidate =>
          authorizeHost.test (line ++ ' ' :: candidate)).map String.ofList

/-- A character that `.` matches. -/
def isLineChar (c : Char) : Bool := c.toNat ∉ [0xA, 0xD, 0x2028, 0x2029]

/-- `setup[- ]token.*(failed|error|denied)`. -/
def setupTokenFailed : Regex :=
  ["failed", "error", "denied"].map fun word =>
    literalIgnoringCase "setup" ++ [.chars (fun c => c = '-' || c = ' ') 1 (some 1)] ++
      literalIgnoringCase "token" ++ [star isLineChar] ++ literalIgnoringCase word

/-- `\binvalid[ _](authorization[ _])?(code|grant|request)\b`. -/
def invalidCode : Regex :=
  let gap : Atom := .chars (fun c => c = ' ' || c = '_') 1 (some 1)
  ["code", "grant", "request"].flatMap fun word =>
    [literalIgnoringCase "authorization" ++ [gap], []].map fun authorization =>
      [.boundary] ++ literalIgnoringCase "invalid" ++ [gap] ++ authorization ++
        literalIgnoringCase word ++ [.boundary]

def setupTokenTerminalFailure (value : List Char) : Bool :=
  let text := stripAnsi value
  setupTokenFailed.test text || invalidCode.test text ||
    Regex.test [literalIgnoringCase "login failed"] text

def setupTokenLoginStateFromLog (value : String) : SetupTokenLoginState :=
  let text := interactiveLoginText value.toList
  match setupTokenFromLog text with
  | some setupToken => .completed setupToken
  | none =>
      if setupTokenTerminalFailure text then
        .terminalFailure "The provider rejected the setup-token login."
      else
        match setupTokenAuthorizeUrl value.toList with
        | some authorizeUrl => .awaitingCode authorizeUrl
        | none => .pending

/-! ### Escape sequences -/

section Ansi

variable {text params rest pending : List Char} {c letter : Char}

lemma isAlpha_of_parameter (h : isAnsiParameter c = true) : c.isAlpha = false := by
  rcases Bool.or_eq_true _ _ ▸ h with h | h
  · rcases Bool.or_eq_true _ _ ▸ h with h | h
    · refine Bool.eq_false_iff.mpr fun halpha => ?_
      have hdigit := isDigit_iff.mp h
      have hletter := isAlpha_iff.mp halpha
      omega
    · rw [of_decide_eq_true h]
      rfl
  · rw [of_decide_eq_true h]
    rfl

/-- The pattern of a sequence, whose atoms have no choice. -/
lemma ansiSequence_pattern (prev : Option Char) (text : List Char) :
    ansiSequence.matchLength prev text = Pattern.matchLength
      [.chars (· = '\x1b') 1 (some 1), .chars (· = '[') 1 (some 1), star isAnsiParameter,
        .chars Char.isAlpha 1 (some 1)] prev text := by
  rw [ansiSequence, Regex.matchLength, List.findSome?_cons, List.findSome?_nil]
  cases hmatch : Pattern.matchLength
      [char '\x1b', char '[', star isAnsiParameter, .chars Char.isAlpha 1 (some 1)] prev text with
  | none => exact hmatch.symm
  | some n => exact hmatch.symm

/-- Nothing but `\x1b[` begins a sequence. -/
lemma ansiSequence_other (prev : Option Char) (h : ∀ rest, text ≠ '\x1b' :: '[' :: rest) :
    ansiSequence.matchLength prev text = none := by
  rw [ansiSequence_pattern]
  cases text with
  | nil => rfl
  | cons c text =>
      rw [matchLength_one]
      by_cases hc : c = '\x1b'
      · cases text with
        | nil => rw [matchLength_one_nil, Option.map_none, ite_self]
        | cons d text =>
            have hd : d ≠ '[' := by
              rintro rfl
              exact h text (hc ▸ rfl)
            have hno : ¬ decide (d = '[') = true := fun heq => hd (of_decide_eq_true heq)
            rw [matchLength_one, if_neg hno, Option.map_none, ite_self]
      · rw [if_neg fun heq => hc (of_decide_eq_true heq)]

lemma ansiSequence_begun (prev : Option Char) (text : List Char) :
    ansiSequence.matchLength prev ('\x1b' :: '[' :: text) =
      if (text.dropWhile isAnsiParameter).head?.any Char.isAlpha = true then
        some ((text.takeWhile isAnsiParameter).length + 3)
      else none := by
  have hletter : ∀ prev c text, isAnsiParameter c = true →
      Pattern.matchLength [.chars Char.isAlpha 1 (some 1)] prev (c :: text) = none := by
    intro prev c text hparameter
    rw [matchLength_one, isAlpha_of_parameter hparameter]
    rfl
  rw [ansiSequence_pattern, matchLength_one, if_pos (by decide), matchLength_one,
    if_pos (by decide), matchLength_greedy hletter]
  cases hbehind : text.dropWhile isAnsiParameter with
  | nil => rfl
  | cons c behind =>
      rw [matchLength_one, List.head?_cons, Option.any_some]
      split
      · simp only [Pattern.matchLength, Option.map_some]
        exact congrArg some (by omega)
      · rfl

lemma ansiSequence_ignoresBefore : ansiSequence.IgnoresBefore := by
  intro prev prev' text
  by_cases hbegun : ∃ rest, text = '\x1b' :: '[' :: rest
  · obtain ⟨rest, rfl⟩ := hbegun
    rw [ansiSequence_begun, ansiSequence_begun]
  · have hother : ∀ rest, text ≠ '\x1b' :: '[' :: rest := fun rest heq => hbegun ⟨rest, heq⟩
    rw [ansiSequence_other _ hother, ansiSequence_other _ hother]

lemma stripAnsi_none (h : ansiSequence.matchLength none (c :: text) = none) :
    stripAnsi (c :: text) = c :: stripAnsi text :=
  Regex.replaceAll_none ansiSequence_ignoresBefore h

lemma stripAnsi_of_ne (h : c ≠ '\x1b') : stripAnsi (c :: text) = c :: stripAnsi text :=
  stripAnsi_none (ansiSequence_other none fun _ heq => h (List.cons.inj heq).1)

/-- A sequence is taken out. -/
lemma stripAnsi_sequence (hparams : ∀ c ∈ params, isAnsiParameter c = true)
    (hletter : letter.isAlpha = true) :
    stripAnsi ('\x1b' :: '[' :: (params ++ letter :: rest)) = stripAnsi rest := by
  have hparameter : ¬ isAnsiParameter letter = true := by
    intro h
    rw [isAlpha_of_parameter h] at hletter
    cases hletter
  have hmatch : ansiSequence.matchLength none ('\x1b' :: '[' :: (params ++ letter :: rest)) =
      some (params.length + 2 + 1) := by
    rw [ansiSequence_begun, List.dropWhile_append_of_pos hparams,
      List.takeWhile_append_of_pos hparams, List.dropWhile_cons_of_neg hparameter,
      List.takeWhile_cons_of_neg hparameter, List.append_nil, List.head?_cons, Option.any_some,
      if_pos hletter]
  have hdrop : ('[' :: (params ++ letter :: rest)).drop (params.length + 2) = rest := by
    have htext : '[' :: (params ++ letter :: rest) = ('[' :: (params ++ [letter])) ++ rest := by
      rw [List.cons_append, List.append_assoc, List.singleton_append]
    rw [htext]
    exact List.drop_left' (by simp)
  refine (Regex.replaceAll_match ansiSequence_ignoresBefore hmatch).trans ?_
  rw [hdrop]
  rfl

/-- **What an escape begins**: a sequence, something that may become one, or neither. -/
lemma escape_cases (text : List Char) :
    (∃ params letter rest, text = '[' :: (params ++ letter :: rest) ∧
      (∀ c ∈ params, isAnsiParameter c = true) ∧ letter.isAlpha = true) ∨
    (ansiSequence.matchLength none ('\x1b' :: text) = none ∧
      ((text = [] ∨ ∃ params, text = '[' :: params ∧ ∀ c ∈ params, isAnsiParameter c = true) ∨
        ∀ more, ansiSequence.matchLength none ('\x1b' :: (text ++ more)) = none)) := by
  cases text with
  | nil => exact .inr ⟨ansiSequence_other none (by simp), .inl (.inl rfl)⟩
  | cons d text =>
      by_cases hd : d = '['
      · subst hd
        have htext := List.takeWhile_append_dropWhile (p := isAnsiParameter) (l := text)
        have hparams : ∀ c ∈ text.takeWhile isAnsiParameter, isAnsiParameter c = true :=
          fun c hc => List.mem_takeWhile_imp hc
        cases hbehind : text.dropWhile isAnsiParameter with
        | nil =>
            rw [hbehind, List.append_nil] at htext
            rw [htext] at hparams
            refine .inr ⟨?_, .inl (.inr ⟨text, rfl, hparams⟩)⟩
            rw [ansiSequence_begun, hbehind]
            rfl
        | cons letter rest =>
            rw [hbehind] at htext
            cases hletter : letter.isAlpha with
            | true => exact .inl ⟨_, letter, rest, by rw [htext], hparams, hletter⟩
            | false =>
                have hno : ¬ isAnsiParameter letter = true := by
                  have hhead := List.head?_dropWhile_not isAnsiParameter text
                  rw [hbehind] at hhead
                  simpa using hhead
                have hnone : ∀ more,
                    ansiSequence.matchLength none ('\x1b' :: '[' :: (text ++ more)) = none := by
                  intro more
                  rw [ansiSequence_begun, ← htext, List.append_assoc,
                    List.dropWhile_append_of_pos hparams, List.cons_append,
                    List.dropWhile_cons_of_neg hno, List.head?_cons, Option.any_some, hletter]
                  rfl
                have hself := hnone []
                rw [List.append_nil] at hself
                exact .inr ⟨hself, .inr hnone⟩
      · have hnone : ∀ more, ansiSequence.matchLength none ('\x1b' :: (d :: text ++ more)) = none :=
          fun more => ansiSequence_other none fun _ heq =>
            hd (List.cons.inj (List.cons.inj heq).2).1
        have hself := hnone []
        rw [List.append_nil] at hself
        exact .inr ⟨hself, .inr hnone⟩

/-- An escape is no part of a sequence that has begun before it. -/
lemma stripAnsi_escape (text rest : List Char) :
    stripAnsi (text ++ '\x1b' :: rest) = stripAnsi text ++ stripAnsi ('\x1b' :: rest) := by
  induction hn : text.length using Nat.strong_induction_on generalizing text with
  | _ n ih =>
  subst hn
  cases text with
  | nil => rfl
  | cons c text =>
      have ihTail := ih text.length (Nat.lt_succ_self _) text rfl
      by_cases hc : c = '\x1b'
      · subst hc
        rcases escape_cases text with ⟨params, letter, after, rfl, hparams, hletter⟩ |
          ⟨hself, hmore⟩
        · have htext : '\x1b' :: '[' :: (params ++ letter :: after) ++ '\x1b' :: rest =
              '\x1b' :: '[' :: (params ++ letter :: (after ++ '\x1b' :: rest)) := by
            rw [List.cons_append, List.cons_append, List.append_assoc, List.cons_append]
          rw [htext, stripAnsi_sequence hparams hletter, stripAnsi_sequence hparams hletter]
          exact ih after.length (by simp; omega) after rfl
        · have hnone : ansiSequence.matchLength none ('\x1b' :: (text ++ '\x1b' :: rest)) =
              none := by
            rcases hmore with (rfl | ⟨params, rfl, hparams⟩) | hmore
            · exact ansiSequence_other none (by simp)
            · have hnot : ¬ isAnsiParameter '\x1b' = true := by decide
              rw [List.cons_append, ansiSequence_begun, List.dropWhile_append_of_pos hparams,
                List.dropWhile_cons_of_neg hnot]
              rfl
            · exact hmore ('\x1b' :: rest)
          rw [List.cons_append, stripAnsi_none hnone, stripAnsi_none hself, ihTail]
          rfl
      · rw [List.cons_append, stripAnsi_of_ne hc, stripAnsi_of_ne hc, ihTail]
        rfl

/-! ### A log that grows -/

/-- A character of a sequence before its letter. -/
def isPendingChar (c : Char) : Bool := c = '\x1b' || c = '[' || isAnsiParameter c

/-- Escapes and what they begin, none of it being a sequence. -/
structure Pending (pending : List Char) : Prop where
  escape : pending = [] ∨ pending.head? = some '\x1b'
  chars : ∀ c ∈ pending, isPendingChar c = true

/-- `text'` begins as `text` does, up to what is pending there. -/
def Grows (text text' : List Char) : Prop :=
  ∃ common pending more, text = common ++ pending ∧ text' = common ++ more ∧ Pending pending

lemma pending_nil : Pending [] := ⟨.inl rfl, nofun⟩

lemma Pending.append {pending pending' : List Char} (h : Pending pending)
    (h' : Pending pending') : Pending (pending ++ pending') := by
  refine ⟨?_, fun c hc => (List.mem_append.mp hc).elim (h.chars c) (h'.chars c)⟩
  rcases h.escape with rfl | hescape
  · exact h'.escape
  · exact .inr (by rw [List.head?_append, hescape]; rfl)

lemma isAlpha_of_pending (h : isPendingChar c = true) : c.isAlpha = false := by
  rcases Bool.or_eq_true _ _ ▸ h with h | h
  · rcases Bool.or_eq_true _ _ ▸ h with h | h
    · rw [of_decide_eq_true h]
      rfl
    · rw [of_decide_eq_true h]
      rfl
  · exact isAlpha_of_parameter h

lemma stripAnsi_pending {pending : List Char} (h : ∀ c ∈ pending, isPendingChar c = true) :
    stripAnsi pending = pending := by
  induction pending with
  | nil => rfl
  | cons c pending ih =>
      have htail := ih fun d hd => h d (List.mem_cons_of_mem c hd)
      by_cases hc : c = '\x1b'
      · subst hc
        rcases escape_cases pending with ⟨params, letter, rest, rfl, -, hletter⟩ | ⟨hnone, -⟩
        · have hmem : letter ∈ '\x1b' :: '[' :: (params ++ letter :: rest) := by simp
          rw [isAlpha_of_pending (h letter hmem)] at hletter
          cases hletter
        · rw [stripAnsi_none hnone, htail]
      · rw [stripAnsi_of_ne hc, htail]

lemma Grows.cons {text text' : List Char} (c : Char) (h : Grows text text') :
    Grows (c :: text) (c :: text') := by
  obtain ⟨common, pending, more, rfl, rfl, hpending⟩ := h
  exact ⟨c :: common, pending, more, rfl, rfl, hpending⟩

/-- A text with more behind it. -/
lemma stripAnsi_append (text more : List Char) :
    Grows (stripAnsi text) (stripAnsi (text ++ more)) := by
  induction hn : text.length using Nat.strong_induction_on generalizing text with
  | _ n ih =>
  subst hn
  cases text with
  | nil => exact ⟨[], [], stripAnsi more, rfl, rfl, pending_nil⟩
  | cons c text =>
      have ihTail := ih text.length (Nat.lt_succ_self _) text rfl
      by_cases hc : c = '\x1b'
      · subst hc
        rcases escape_cases text with ⟨params, letter, rest, rfl, hparams, hletter⟩ |
          ⟨hself, hmore⟩
        · have htext : '\x1b' :: '[' :: (params ++ letter :: rest) ++ more =
              '\x1b' :: '[' :: (params ++ letter :: (rest ++ more)) := by
            rw [List.cons_append, List.cons_append, List.append_assoc, List.cons_append]
          rw [htext, stripAnsi_sequence hparams hletter, stripAnsi_sequence hparams hletter]
          exact ih rest.length (by simp; omega) rest rfl
        · rcases hmore with hpending | hmore
          · -- What is pending may become a sequence, or not.
            have hchars : ∀ c ∈ '\x1b' :: text, isPendingChar c = true := by
              rcases hpending with rfl | ⟨params, rfl, hparams⟩
              · simp [isPendingChar]
              · intro c hc
                rcases List.mem_cons.mp hc with rfl | hc
                · rfl
                · rcases List.mem_cons.mp hc with rfl | hc
                  · rfl
                  · exact Bool.or_eq_true _ _ ▸ .inr (hparams c hc)
            rw [stripAnsi_pending hchars]
            exact ⟨[], _, stripAnsi ('\x1b' :: text ++ more), rfl, rfl, .inr rfl, hchars⟩
          · rw [List.cons_append, stripAnsi_none hself, stripAnsi_none (hmore more)]
            exact ihTail.cons _
      · rw [List.cons_append, stripAnsi_of_ne hc, stripAnsi_of_ne hc]
        exact ihTail.cons c

/-- **The sequences** of a text that grows. -/
lemma Grows.stripAnsi {text text' : List Char} (h : Grows text text') :
    Grows (stripAnsi text) (Provisioning.stripAnsi text') := by
  obtain ⟨common, pending, more, rfl, rfl, hpending⟩ := h
  obtain ⟨common', pending', more', hcommon, hmore, hpending'⟩ := stripAnsi_append common more
  refine ⟨common', pending' ++ pending, more', ?_, hmore, hpending'.append hpending⟩
  cases pending with
  | nil => rw [List.append_nil, List.append_nil, hcommon]
  | cons c pending =>
      have hc : c = '\x1b' := by
        rcases hpending.escape with h | h
        · cases h
        · exact Option.some.inj h
      subst hc
      rw [stripAnsi_escape, hcommon, stripAnsi_pending hpending.chars, List.append_assoc]

/-! ### Ends of lines -/

lemma carriageReturn_pattern (prev : Option Char) (text : List Char) :
    carriageReturn.matchLength prev text = Pattern.matchLength
      [.chars (· = '\r') 1 (some 1), optional (· = '\n')] prev text := by
  rw [carriageReturn, Regex.matchLength, List.findSome?_cons, List.findSome?_nil]
  cases hmatch : Pattern.matchLength [char '\r', optional (· = '\n')] prev text with
  | none => exact hmatch.symm
  | some n => exact hmatch.symm

lemma carriageReturn_of_ne (prev : Option Char) (h : c ≠ '\r') :
    carriageReturn.matchLength prev (c :: text) = none := by
  rw [carriageReturn_pattern, matchLength_one, if_neg fun heq => h (of_decide_eq_true heq)]

lemma carriageReturn_newline (prev : Option Char) (text : List Char) :
    carriageReturn.matchLength prev ('\r' :: '\n' :: text) = some 2 := by
  rw [carriageReturn_pattern, matchLength_one, if_pos (by decide), matchLength_optional,
    List.head?_cons, Option.any_some, if_pos (by decide)]
  rfl

lemma carriageReturn_alone (prev : Option Char) (h : text.head? ≠ some '\n') :
    carriageReturn.matchLength prev ('\r' :: text) = some 1 := by
  have hnone : ¬ text.head?.any (fun c => decide (c = '\n')) = true := by
    cases text with
    | nil => nofun
    | cons c text => exact fun heq => h (congrArg some (of_decide_eq_true heq))
  rw [carriageReturn_pattern, matchLength_one, if_pos (by decide), matchLength_optional,
    if_neg hnone]
  rfl

lemma carriageReturn_ignoresBefore : carriageReturn.IgnoresBefore := by
  intro prev prev' text
  cases text with
  | nil => rfl
  | cons c text =>
      by_cases hc : c = '\r'
      · subst hc
        by_cases hnewline : text.head? = some '\n'
        · obtain ⟨rest, rfl⟩ := List.head?_eq_some_iff.mp hnewline
          rw [carriageReturn_newline, carriageReturn_newline]
        · rw [carriageReturn_alone _ hnewline, carriageReturn_alone _ hnewline]
      · rw [carriageReturn_of_ne _ hc, carriageReturn_of_ne _ hc]

lemma newlines_of_ne (h : c ≠ '\r') : newlines (c :: text) = c :: newlines text :=
  Regex.replaceAll_none carriageReturn_ignoresBefore (carriageReturn_of_ne none h)

lemma newlines_newline (text : List Char) :
    newlines ('\r' :: '\n' :: text) = '\n' :: newlines text :=
  Regex.replaceAll_match carriageReturn_ignoresBefore (carriageReturn_newline none text)

lemma newlines_alone (h : text.head? ≠ some '\n') :
    newlines ('\r' :: text) = '\n' :: newlines text :=
  Regex.replaceAll_match carriageReturn_ignoresBefore (carriageReturn_alone none h)

lemma newlines_self (h : '\r' ∉ text) : newlines text = text := by
  induction text with
  | nil => rfl
  | cons c text ih =>
      rw [newlines_of_ne (List.ne_of_not_mem_cons h).symm, ih (List.not_mem_of_not_mem_cons h)]

/-- A text with more behind it, of which a first `\n` may belong to what is before. -/
lemma newlines_append (text more : List Char) : newlines text <+: newlines (text ++ more) ∧
    (more.head? ≠ some '\n' → newlines (text ++ more) = newlines text ++ newlines more) := by
  induction hn : text.length using Nat.strong_induction_on generalizing text with
  | _ n ih =>
  subst hn
  cases text with
  | nil => exact ⟨List.nil_prefix, fun _ => rfl⟩
  | cons c text =>
      obtain ⟨hbegins, happend⟩ := ih text.length (Nat.lt_succ_self _) text rfl
      have hcons : ∀ d, d :: newlines text <+: d :: newlines (text ++ more) ∧
          (more.head? ≠ some '\n' →
            d :: newlines (text ++ more) = d :: newlines text ++ newlines more) :=
        fun d => ⟨List.cons_prefix_cons.mpr ⟨rfl, hbegins⟩,
          fun hmore => congrArg (d :: ·) (happend hmore)⟩
      by_cases hc : c = '\r'
      · subst hc
        cases text with
        | nil =>
            have hnil : newlines ['\r'] = ['\n'] := newlines_alone (by decide)
            rw [hnil, List.cons_append, List.nil_append]
            refine ⟨?_, fun hmore => newlines_alone hmore⟩
            by_cases hmore : more.head? = some '\n'
            · obtain ⟨rest, rfl⟩ := List.head?_eq_some_iff.mp hmore
              rw [newlines_newline]
              exact List.prefix_append _ _
            · rw [newlines_alone hmore]
              exact List.prefix_append _ _
        | cons d text =>
            by_cases hd : d = '\n'
            · subst hd
              obtain ⟨hbegins', happend'⟩ :=
                ih text.length (by simp only [List.length_cons]; omega) text rfl
              rw [List.cons_append, List.cons_append, newlines_newline, newlines_newline]
              exact ⟨List.cons_prefix_cons.mpr ⟨rfl, hbegins'⟩,
                fun hmore => congrArg ('\n' :: ·) (happend' hmore)⟩
            · have hne : ∀ rest : List Char, (d :: rest).head? ≠ some '\n' :=
                fun _ heq => hd (Option.some.inj heq)
              rw [newlines_alone (hne text), List.cons_append, List.cons_append,
                newlines_alone (hne (text ++ more))]
              exact hcons '\n'
      · rw [List.cons_append, newlines_of_ne hc, newlines_of_ne hc]
        exact hcons c

/-- **The lines** of a text that grows. -/
lemma Grows.newlines {text text' : List Char} (h : Grows text text') :
    Grows (newlines text) (Provisioning.newlines text') := by
  obtain ⟨common, pending, more, rfl, rfl, hpending⟩ := h
  have hpendingHead : pending.head? ≠ some '\n' := by
    rcases hpending.escape with rfl | hescape
    · nofun
    · rw [hescape]
      decide
  have hreturn : '\r' ∉ pending := fun hmem => absurd (hpending.chars _ hmem) (by decide)
  obtain ⟨rest, hrest⟩ := (newlines_append common more).1
  refine ⟨Provisioning.newlines common, pending, rest, ?_, hrest.symm, hpending⟩
  rw [(newlines_append common pending).2 hpendingHead, newlines_self hreturn]

/-- What is displayed of a log that grows. -/
lemma Grows.displayed {text text' : List Char} (h : Grows text text') :
    Grows (Provisioning.newlines (Provisioning.stripAnsi (interactiveLoginText text)))
      (Provisioning.newlines (Provisioning.stripAnsi (interactiveLoginText text'))) :=
  h.stripAnsi.newlines.stripAnsi.newlines

end Ansi

end Opzava.Provisioning
