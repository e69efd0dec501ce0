import Opzava.Library.ShellWords

/-!
The scripts that are built from quoted texts (`docker-gateway-runtime.ts`).

* `shellQuote`, `ptySized`, `sessionWrappedCommand`, `deviceLoginSession`: the scripts.
* `lex_shellQuote`: a quoted text is one word between two words of any script.
* `lex_sessionWrappedCommand`, `lex_sessionCommand`: what a wrapped command is to the shell.
* `shell_quoting_is_injection_free`: this at every depth.
* `device_login_words`: the ids of a login are words of the innermost script.
-/

namespace Opzava.Provisioning

open Opzava.Library ShellLexer

/-! ### The code -/

def shellQuote (value : List Char) : List Char :=
  "'".toList ++ value.flatMap (fun c => if c = '\'' then "'\\''".toList else [c]) ++ "'".toList

def ptySized (command : List Char) : List Char :=
  "stty cols 200 rows 50 >/dev/null 2>&1 || true; ".toList ++ command

def temporaryControlPath (controlPath : List Char) : List Char := controlPath ++ ".tmp".toList

/-- `sessionCommand`, the script of the inner shell. -/
def sessionCommand (controlPath command : List Char) : List Char :=
  "; ".toList.intercalate
    ["set -eu".toList,
      "umask 077".toList,
      "printf '%s\\n' \"$$\" > ".toList ++ shellQuote (temporaryControlPath controlPath),
      "chmod 600 ".toList ++ shellQuote (temporaryControlPath controlPath),
      "mv ".toList ++ shellQuote (temporaryControlPath controlPath) ++ " ".toList ++
        shellQuote controlPath,
      command]

def sessionWrappedCommand (controlPath command : List Char) : List Char :=
  "setsid sh -c ".toList ++ shellQuote (sessionCommand controlPath command) ++
    " & session_pid=$!; wait \"$session_pid\"".toList

/-- The `command` of `startDeviceLogin`. -/
def deviceLoginCommand (agentId providerId : List Char) : List Char :=
  "node openclaw.mjs models auth --agent ".toList ++ shellQuote agentId ++
    " login --provider ".toList ++ shellQuote providerId ++ " --device-code".toList

/-- What `startDeviceLogin` runs in its session; `redaction` is the script of its `redactor`. -/
def deviceLoginSession (redaction logPath agentId providerId : List Char) : List Char :=
  "/usr/bin/script -qfc ".toList ++ shellQuote (ptySized (deviceLoginCommand agentId providerId)) ++
    " /dev/null | sed -u -E ".toList ++ shellQuote redaction ++ " >> ".toList ++ shellQuote logPath

/-! ### A quoted text -/

section Quoting

variable {tokens : List ShellToken} {word : List (Char × Quoting)} {value before after : List Char}

/-- Between the quotes every character is kept, and a quote is written outside of them. -/
lemma foldl_quoted (value : List Char) :
    (value.flatMap fun c => if c = '\'' then "'\\''".toList else [c]).foldl readChar
        ⟨.single, some word, tokens⟩ =
      ⟨.single, some (word ++ value.map (·, .full)), tokens⟩ := by
  induction value generalizing word with
  | nil => rw [List.map_nil, List.append_nil]; rfl
  | cons c value ih =>
      have hchar : (if c = '\'' then "'\\''".toList else [c]).foldl readChar
          ⟨.single, some word, tokens⟩ = ⟨.single, some (word ++ [(c, .full)]), tokens⟩ := by
        split
        · next hquote =>
            rw [hquote]
            rfl
        · next hne =>
            rw [List.foldl_cons, List.foldl_nil]
            exact if_neg hne
      rw [List.flatMap_cons, List.foldl_append, hchar, ih, List.append_assoc]
      rfl

lemma foldl_shellQuote (value : List Char) :
    (shellQuote value).foldl readChar ⟨.unquoted, none, tokens⟩ =
      ⟨.unquoted, some (value.map (·, .full)), tokens⟩ := by
  have hopen : "'".toList.foldl readChar ⟨.unquoted, none, tokens⟩ = ⟨.single, some [], tokens⟩ :=
    rfl
  rw [shellQuote, List.foldl_append, List.foldl_append, hopen, foldl_quoted, List.nil_append]
  rfl

/-- **A quoted text is one word**, and nothing of it is expanded. -/
lemma lex_shellQuote (hbefore : Ready before) (hafter : EndsWord after) :
    lex (before ++ (shellQuote value ++ after)) =
      (lex after).map (tokensOf before ++ .literal value :: ·) := by
  have hquote : lex (shellQuote value ++ after) = (lex after).map (.literal value :: ·) := by
    have hword : start.after [.literal value] = ⟨.unquoted, none, [.literal value]⟩ := rfl
    rw [lex, List.foldl_append, start, foldl_shellQuote, foldl_readChar_ends hafter,
      List.nil_append]
    change (after.foldl readChar (start.after [.literal value])).finish = _
    rw [foldl_readChar_after, finish_after]
    rfl
  rw [lex_append hbefore, hquote, Option.map_map]
  rfl

end Quoting

/-! ### A wrapped command -/

/-- The tokens of a session's script before its command. -/
def sessionTokens (controlPath : List Char) : List ShellToken :=
  [.bare "set", .bare "-eu", .operator ';', .bare "umask", .bare "077", .operator ';',
    .bare "printf", .literal "%s\\n".toList, .word [('$', .double), ('$', .double)],
    .operator '>', .literal (temporaryControlPath controlPath), .operator ';',
    .bare "chmod", .bare "600", .literal (temporaryControlPath controlPath), .operator ';',
    .bare "mv", .literal (temporaryControlPath controlPath), .literal controlPath, .operator ';']

/-- The tokens of a wrapped command, whose fourth word is a script. -/
def wrapperTokens (script : List Char) : List ShellToken :=
  [.bare "setsid", .bare "sh", .bare "-c", .literal script, .operator '&',
    .bare "session_pid=$!", .operator ';', .bare "wait",
    .word ("$session_pid".toList.map (·, .double))]

lemma lex_wrapper (script : List Char) :
    lex ("setsid sh -c ".toList ++ shellQuote script ++
      " & session_pid=$!; wait \"$session_pid\"".toList) = some (wrapperTokens script) := by
  have hready : Ready "setsid sh -c ".toList := by decide
  have hends : EndsWord " & session_pid=$!; wait \"$session_pid\"".toList := by decide
  have hbefore : tokensOf "setsid sh -c ".toList = [.bare "setsid", .bare "sh", .bare "-c"] := by
    decide
  have hafter : lex " & session_pid=$!; wait \"$session_pid\"".toList =
      some [.operator '&', .bare "session_pid=$!", .operator ';', .bare "wait",
        .word ("$session_pid".toList.map (·, .double))] := by
    decide
  rw [List.append_assoc, lex_shellQuote hready hends, hbefore, hafter]
  rfl

lemma lex_sessionWrappedCommand (controlPath command : List Char) :
    lex (sessionWrappedCommand controlPath command) =
      some (wrapperTokens (sessionCommand controlPath command)) :=
  lex_wrapper (sessionCommand controlPath command)

lemma intercalate_six (separator a b c d e f : List Char) :
    separator.intercalate [a, b, c, d, e, f] = a ++ (separator ++ (b ++ (separator ++ (c ++
      (separator ++ (d ++ (separator ++ (e ++ (separator ++ f))))))))) := by
  simp [List.intercalate]

/-- The script of a session, cut at its quoted paths. -/
lemma sessionCommand_eq (controlPath command : List Char) :
    sessionCommand controlPath command =
      "set -eu; umask 077; printf '%s\\n' \"$$\" > ".toList ++
        (shellQuote (temporaryControlPath controlPath) ++ ("; chmod 600 ".toList ++
        (shellQuote (temporaryControlPath controlPath) ++ ("; mv ".toList ++
        (shellQuote (temporaryControlPath controlPath) ++ (" ".toList ++
        (shellQuote controlPath ++ ("; ".toList ++ command)))))))) := by
  have hbefore : "set -eu; umask 077; printf '%s\\n' \"$$\" > ".toList = "set -eu".toList ++
      ("; ".toList ++ ("umask 077".toList ++ ("; ".toList ++
        "printf '%s\\n' \"$$\" > ".toList))) := by decide
  have hchmod : "; chmod 600 ".toList = "; ".toList ++ "chmod 600 ".toList := by decide
  have hmv : "; mv ".toList = "; ".toList ++ "mv ".toList := by decide
  rw [sessionCommand, intercalate_six, hbefore, hchmod, hmv]
  simp only [List.append_assoc]

lemma lex_sessionCommand (controlPath command : List Char) :
    lex (sessionCommand controlPath command) =
      (lex command).map (sessionTokens controlPath ++ ·) := by
  have hprintf : tokensOf "set -eu; umask 077; printf '%s\\n' \"$$\" > ".toList =
      [.bare "set", .bare "-eu", .operator ';', .bare "umask", .bare "077", .operator ';',
        .bare "printf", .literal "%s\\n".toList, .word [('$', .double), ('$', .double)],
        .operator '>'] := by
    decide
  have hchmod : tokensOf "; chmod 600 ".toList = [.operator ';', .bare "chmod", .bare "600"] := by
    decide
  have hmv : tokensOf "; mv ".toList = [.operator ';', .bare "mv"] := by decide
  have hblank : tokensOf " ".toList = [] := by decide
  have hend : tokensOf "; ".toList = [.operator ';'] := by decide
  rw [sessionCommand_eq, lex_shellQuote (by decide) (endsWord_append (by decide) (by decide) _),
    hprintf, lex_shellQuote (by decide) (endsWord_append (by decide) (by decide) _), hchmod,
    lex_shellQuote (by decide) (endsWord_append (by decide) (by decide) _), hmv,
    lex_shellQuote (by decide) (endsWord_append (by decide) (by decide) _), hblank,
    lex_append (by decide), hend]
  cases lex command with
  | none => rfl
  | some tokens => rfl

/-- Shells unwrap a script: the word after `sh -c` is the script of a session, which is its own part
and the next command. -/
def Unwraps : List (List Char) → List Char → List Char → Prop
  | [], script, command => script = command
  | controlPath :: controlPaths, script, command =>
      ∃ inner next, lex script = some (wrapperTokens inner) ∧
        inner = sessionCommand controlPath next ∧
        lex inner = (lex next).map (sessionTokens controlPath ++ ·) ∧
        Unwraps controlPaths next command

lemma unwraps_foldr (controlPaths : List (List Char)) (command : List Char) :
    Unwraps controlPaths (controlPaths.foldr sessionWrappedCommand command) command := by
  induction controlPaths with
  | nil => rfl
  | cons controlPath controlPaths ih =>
      exact ⟨_, _, lex_sessionWrappedCommand controlPath _, rfl,
        lex_sessionCommand controlPath _, ih⟩

/-- **Quoting is free of injections**: a quoted text is one word of any script, and a command that
is wrapped any number of times is unwrapped to itself. -/
theorem shell_quoting_is_injection_free :
    (∀ value before after, Ready before → EndsWord after →
      lex (before ++ shellQuote value ++ after) =
        (lex after).map (tokensOf before ++ .literal value :: ·)) ∧
      ∀ controlPaths command,
        Unwraps controlPaths (controlPaths.foldr sessionWrappedCommand command) command :=
  ⟨fun _ _ _ hbefore hafter => by rw [List.append_assoc, lex_shellQuote hbefore hafter],
    unwraps_foldr⟩

/-! ### A device login -/

/-- The tokens before the command of a terminal. -/
def ptyTokens : List ShellToken :=
  [.bare "stty", .bare "cols", .bare "200", .bare "rows", .bare "50", .operator '>',
    .bare "/dev/null", .bare "2", .operator '>', .operator '&', .bare "1", .operator '|',
    .operator '|', .bare "true", .operator ';']

lemma lex_ptySized (command : List Char) :
    lex (ptySized command) = (lex command).map (ptyTokens ++ ·) := by
  have hready : Ready "stty cols 200 rows 50 >/dev/null 2>&1 || true; ".toList := by
    decide
  have htokens : tokensOf "stty cols 200 rows 50 >/dev/null 2>&1 || true; ".toList = ptyTokens := by
    decide
  unfold ptySized
  rw [lex_append hready, htokens]

/-- The tokens of a login. -/
def deviceLoginTokens (agentId providerId : List Char) : List ShellToken :=
  [.bare "node", .bare "openclaw.mjs", .bare "models", .bare "auth", .bare "--agent",
    .literal agentId, .bare "login", .bare "--provider", .literal providerId,
    .bare "--device-code"]

lemma lex_deviceLoginCommand (agentId providerId : List Char) :
    lex (deviceLoginCommand agentId providerId) = some (deviceLoginTokens agentId providerId) := by
  have hready : Ready "node openclaw.mjs models auth --agent ".toList := by decide
  have hready' : Ready " login --provider ".toList := by decide
  have hagent : tokensOf "node openclaw.mjs models auth --agent ".toList =
      [.bare "node", .bare "openclaw.mjs", .bare "models", .bare "auth", .bare "--agent"] := by
    decide
  have hprovider : tokensOf " login --provider ".toList = [.bare "login", .bare "--provider"] := by
    decide
  have hend : lex " --device-code".toList = some [.bare "--device-code"] := by decide
  unfold deviceLoginCommand
  rw [List.append_assoc, List.append_assoc, List.append_assoc,
    lex_shellQuote hready (endsWord_append (by decide) (by decide) _), hagent,
    lex_shellQuote hready' (by decide), hprovider, hend]
  rfl

/-- The tokens of the session of a login, whose third word is the script of its terminal. -/
def deviceSessionTokens (redaction logPath terminal : List Char) : List ShellToken :=
  [.bare "/usr/bin/script", .bare "-qfc", .literal terminal, .bare "/dev/null", .operator '|',
    .bare "sed", .bare "-u", .bare "-E", .literal redaction, .operator '>', .operator '>',
    .literal logPath]

lemma lex_deviceLoginSession (redaction logPath agentId providerId : List Char) :
    lex (deviceLoginSession redaction logPath agentId providerId) =
      some (deviceSessionTokens redaction logPath
        (ptySized (deviceLoginCommand agentId providerId))) := by
  have hready : Ready "/usr/bin/script -qfc ".toList := by decide
  have hready' : Ready " /dev/null | sed -u -E ".toList := by decide
  have hscript : tokensOf "/usr/bin/script -qfc ".toList =
      [.bare "/usr/bin/script", .bare "-qfc"] := by
    decide
  have hsed : tokensOf " /dev/null | sed -u -E ".toList =
      [.bare "/dev/null", .operator '|', .bare "sed", .bare "-u", .bare "-E"] := by
    decide
  have hlog : tokensOf " >> ".toList = [.operator '>', .operator '>'] := by decide
  have hquote : lex (" >> ".toList ++ shellQuote logPath) =
      some [.operator '>', .operator '>', .literal logPath] := by
    have hlast := @lex_shellQuote logPath " >> ".toList [] (by decide) trivial
    rw [List.append_nil, hlog] at hlast
    exact hlast
  unfold deviceLoginSession
  rw [List.append_assoc, List.append_assoc, List.append_assoc, List.append_assoc,
    lex_shellQuote hready (endsWord_append (by decide) (by decide) _), hscript,
    lex_shellQuote hready' (endsWord_append (by decide) (by decide) _), hsed, hquote]
  rfl

/-- **The ids of a device login are words** of the script that its terminal runs, three quotes
deep. -/
theorem device_login_words (controlPath redaction logPath agentId providerId : List Char) :
    ∃ session terminal,
      lex (sessionWrappedCommand controlPath
        (deviceLoginSession redaction logPath agentId providerId)) =
          some (wrapperTokens session) ∧
      lex session = some (sessionTokens controlPath ++
        deviceSessionTokens redaction logPath terminal) ∧
      lex terminal = some (ptyTokens ++ deviceLoginTokens agentId providerId) := by
  refine ⟨_, ptySized (deviceLoginCommand agentId providerId),
    lex_sessionWrappedCommand controlPath _, ?_, ?_⟩
  · rw [lex_sessionCommand, lex_deviceLoginSession, Option.map_some]
  · rw [lex_ptySized, lex_deviceLoginCommand, Option.map_some]

end Opzava.Provisioning
