import Mathlib

/-!
The words of a shell script, as POSIX `sh` reads them: single quotes keep everything, double quotes
all but what is expanded, and a backslash the next character; parts without a blank between them
join into one word. An operator is read character by character, and a substitution as its text.

* `ShellLexer.readChar`, `lex`: the lexer and the words of a script.
* `lex_append`: the words after a part that ends between two words.
* `foldl_readChar_ends`: a word ends at a blank, at an operator and at the end.
-/

namespace Opzava.Library

/-- How a character of a word is quoted: it may be expanded, it is kept between double quotes, or
it stands for itself. -/
inductive Quoting
  | none
  | double
  | full
  deriving DecidableEq

inductive ShellToken
  | word (parts : List (Char × Quoting))
  | operator (c : Char)
  deriving DecidableEq

/-- A word whose characters all stand for themselves: nothing of it is expanded. -/
def ShellToken.literal (text : List Char) : ShellToken := .word (text.map (·, .full))

/-- A word without quotes. -/
def ShellToken.bare (text : String) : ShellToken := .word (text.toList.map (·, .none))

inductive LexerMode
  | unquoted
  | escaped
  | single
  | double
  | doubleEscaped
  | comment
  deriving DecidableEq

/-- A lexer, with the word it is in. -/
structure ShellLexer where
  mode : LexerMode
  word : Option (List (Char × Quoting))
  tokens : List ShellToken

namespace ShellLexer

def start : ShellLexer := ⟨.unquoted, none, []⟩

def isBlank (c : Char) : Bool := c == ' ' || c == '\t'

def isOperator (c : Char) : Bool := c ∈ ";&|<>()\n".toList

/-- A word begins, if there is none. -/
def openWord (lexer : ShellLexer) : ShellLexer :=
  { lexer with word := some (lexer.word.getD []) }

def add (lexer : ShellLexer) (c : Char) (quoting : Quoting) : ShellLexer :=
  { lexer with word := some (lexer.word.getD [] ++ [(c, quoting)]) }

def endWord (lexer : ShellLexer) : ShellLexer :=
  match lexer.word with
  | some word => { lexer with word := none, tokens := lexer.tokens ++ [.word word] }
  | none => lexer

def addOperator (lexer : ShellLexer) (c : Char) : ShellLexer :=
  { lexer.endWord with tokens := lexer.endWord.tokens ++ [.operator c] }

def enter (lexer : ShellLexer) (mode : LexerMode) : ShellLexer := { lexer with mode := mode }

/-- One character. A backslash before a line feed joins two lines. -/
def readChar (lexer : ShellLexer) (c : Char) : ShellLexer :=
  match lexer.mode with
  | .unquoted =>
      if c = '\'' then lexer.openWord.enter .single
      else if c = '"' then lexer.openWord.enter .double
      else if c = '\\' then lexer.enter .escaped
      else if isBlank c then lexer.endWord
      else if isOperator c then lexer.addOperator c
      else if c = '#' ∧ lexer.word = none then lexer.enter .comment
      else lexer.add c .none
  | .escaped => if c = '\n' then lexer.enter .unquoted else (lexer.add c .full).enter .unquoted
  | .single => if c = '\'' then lexer.enter .unquoted else lexer.add c .full
  | .double =>
      if c = '"' then lexer.enter .unquoted
      else if c = '\\' then lexer.enter .doubleEscaped
      else lexer.add c .double
  | .doubleEscaped =>
      if c = '\n' then lexer.enter .double
      else if c ∈ "$`\"\\".toList then (lexer.add c .full).enter .double
      else ((lexer.add '\\' .double).add c .double).enter .double
  | .comment => if c = '\n' then (lexer.addOperator c).enter .unquoted else lexer

/-- The tokens of a script, unless a quote is open at its end. -/
def finish (lexer : ShellLexer) : Option (List ShellToken) :=
  match lexer.mode with
  | .unquoted | .comment => some lexer.endWord.tokens
  | _ => none

end ShellLexer

open ShellLexer

def lex (script : List Char) : Option (List ShellToken) := (script.foldl readChar start).finish

/-! ### The tokens that were read before -/

section Tokens

variable {lexer : ShellLexer} {tokens : List ShellToken} {word : List (Char × Quoting)}

/-- The lexer with tokens before its own. -/
def ShellLexer.after (tokens : List ShellToken) (lexer : ShellLexer) : ShellLexer :=
  { lexer with tokens := tokens ++ lexer.tokens }

lemma openWord_after : (lexer.after tokens).openWord = lexer.openWord.after tokens := rfl

lemma add_after (c : Char) (quoting : Quoting) :
    (lexer.after tokens).add c quoting = (lexer.add c quoting).after tokens := rfl

lemma enter_after (mode : LexerMode) :
    (lexer.after tokens).enter mode = (lexer.enter mode).after tokens := rfl

lemma endWord_after : (lexer.after tokens).endWord = lexer.endWord.after tokens := by
  obtain ⟨mode, word, own⟩ := lexer
  cases word with
  | none => rfl
  | some word => exact congrArg (ShellLexer.mk mode none) (List.append_assoc ..)

lemma addOperator_after (c : Char) :
    (lexer.after tokens).addOperator c = (lexer.addOperator c).after tokens := by
  rw [addOperator, endWord_after, addOperator]
  exact congrArg (ShellLexer.mk _ _) (List.append_assoc ..)

/-- What is read next does not depend on the tokens that were read. -/
lemma readChar_after (c : Char) :
    (lexer.after tokens).readChar c = (lexer.readChar c).after tokens := by
  unfold readChar
  change (match lexer.mode with
    | .unquoted => _ | .escaped => _ | .single => _ | .double => _ | .doubleEscaped => _
    | .comment => _) = _
  cases lexer.mode with
  | unquoted =>
      dsimp only
      rw [openWord_after, enter_after, enter_after, enter_after, endWord_after, addOperator_after,
        add_after]
      change (if _ then _ else if _ then _ else if _ then _ else if _ then _ else if _ then _ else
        if c = '#' ∧ lexer.word = none then _ else _) = _
      split_ifs <;> rfl
  | escaped => dsimp only; split_ifs <;> rfl
  | single => dsimp only; split_ifs <;> rfl
  | double => dsimp only; split_ifs <;> rfl
  | doubleEscaped => dsimp only; split_ifs <;> rfl
  | comment =>
      dsimp only
      rw [addOperator_after]
      split_ifs <;> rfl

lemma foldl_readChar_after (script : List Char) :
    script.foldl readChar (lexer.after tokens) = (script.foldl readChar lexer).after tokens := by
  induction script generalizing lexer with
  | nil => rfl
  | cons c script ih => rw [List.foldl_cons, readChar_after, ih, List.foldl_cons]

lemma finish_after : (lexer.after tokens).finish = lexer.finish.map (tokens ++ ·) := by
  unfold finish
  change (match lexer.mode with | .unquoted | .comment => _ | _ => none) = _
  cases lexer.mode with
  | unquoted => exact congrArg some (congrArg ShellLexer.tokens endWord_after)
  | comment => exact congrArg some (congrArg ShellLexer.tokens endWord_after)
  | escaped => rfl
  | single => rfl
  | double => rfl
  | doubleEscaped => rfl

/-- The lexer stands between two words, outside of quotes. -/
def Ready (before : List Char) : Prop :=
  (before.foldl readChar start).mode = .unquoted ∧ (before.foldl readChar start).word = none

/-- The tokens of the part that was read. -/
def tokensOf (before : List Char) : List ShellToken := (before.foldl readChar start).tokens

lemma foldl_readChar_of_ready {before : List Char} (h : Ready before) :
    before.foldl readChar start = start.after (tokensOf before) := by
  obtain ⟨hmode, hword⟩ := h
  unfold tokensOf
  generalize before.foldl readChar start = lexer at hmode hword
  obtain ⟨mode, word, tokens⟩ := lexer
  cases hmode
  cases hword
  exact congrArg (ShellLexer.mk _ _) (List.append_nil tokens).symm

/-- The words after a part that ends between two words. -/
lemma lex_append {before : List Char} (h : Ready before) (rest : List Char) :
    lex (before ++ rest) = (lex rest).map (tokensOf before ++ ·) := by
  rw [lex, List.foldl_append, foldl_readChar_of_ready h, foldl_readChar_after, finish_after]
  rfl

/-- A blank outside of quotes ends the word. -/
lemma ready_append_blank {before : List Char} {c : Char}
    (h : (before.foldl readChar start).mode = .unquoted) (hc : isBlank c) :
    Ready (before ++ [c]) := by
  unfold Ready
  rw [List.foldl_append, List.foldl_cons, List.foldl_nil]
  generalize before.foldl readChar start = lexer at h
  obtain ⟨mode, word, tokens⟩ := lexer
  cases h
  have hquote : c ≠ '\'' := by rintro rfl; cases hc
  have hdouble : c ≠ '"' := by rintro rfl; cases hc
  have hescape : c ≠ '\\' := by rintro rfl; cases hc
  have hread : readChar ⟨.unquoted, word, tokens⟩ c = endWord ⟨.unquoted, word, tokens⟩ := by
    unfold readChar
    dsimp only
    rw [if_neg hquote, if_neg hdouble, if_neg hescape, if_pos hc]
  rw [hread]
  cases word with
  | none => exact ⟨rfl, rfl⟩
  | some word => exact ⟨rfl, rfl⟩

/-- Where a word ends: at the end of the script, a blank or an operator. -/
def EndsWord : List Char → Prop
  | [] => True
  | c :: _ => isBlank c ∨ isOperator c

instance : (script : List Char) → Decidable (EndsWord script)
  | [] => .isTrue trivial
  | c :: _ => inferInstanceAs (Decidable (isBlank c ∨ isOperator c))

instance (before : List Char) : Decidable (Ready before) := inferInstanceAs (Decidable (_ ∧ _))

lemma endsWord_append {text : List Char} (h : EndsWord text) (hne : text ≠ []) (rest : List Char) :
    EndsWord (text ++ rest) := by
  cases text with
  | nil => exact absurd rfl hne
  | cons c text => exact h

lemma foldl_readChar_ends {script : List Char} (h : EndsWord script) :
    (script.foldl readChar ⟨.unquoted, some word, tokens⟩).finish =
      (script.foldl readChar ⟨.unquoted, none, tokens ++ [.word word]⟩).finish := by
  cases script with
  | nil => rfl
  | cons c script =>
      rw [List.foldl_cons, List.foldl_cons]
      have hread : readChar ⟨.unquoted, some word, tokens⟩ c =
          readChar ⟨.unquoted, none, tokens ++ [.word word]⟩ c := by
        have hquote : c ≠ '\'' := by rintro rfl; rcases h with h | h <;> revert h <;> decide
        have hdouble : c ≠ '"' := by rintro rfl; rcases h with h | h <;> revert h <;> decide
        have hescape : c ≠ '\\' := by rintro rfl; rcases h with h | h <;> revert h <;> decide
        unfold readChar
        dsimp only
        rw [if_neg hquote, if_neg hdouble, if_neg hescape, if_neg hquote, if_neg hdouble,
          if_neg hescape]
        rcases h with hblank | hoperator
        · rw [if_pos hblank, if_pos hblank]
          rfl
        · rw [if_pos hoperator, if_pos hoperator]
          rfl
      rw [hread]

end Tokens

end Opzava.Library
