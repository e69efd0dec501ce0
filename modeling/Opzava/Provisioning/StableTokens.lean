import Opzava.Provisioning.SetupTokenLogs

/-!
The setup token of a log that grows (`provisioning/docker-gateway-runtime.ts`).

* `setupTokenAt_append`, `setupTokenMatch_stays`: a token with a space behind it stays.
* `setupTokenMatch_longer`: a token at the end of a line becomes longer.
* `EndsInToken`: the log ends in its token.
* `setupToken_stays_iff`: the token stays when the log grows, unless the log ends in it.
-/

namespace Opzava.Provisioning

open Opzava.Library

/-! ### A token at its place -/

section Line

variable {text line pending more token behind : List Char} {c : Char} {start : Bool}

lemma toNat_of_space (h : isJsSpace c = true) : c.toNat ≤ 32 ∨ 160 ≤ c.toNat := by
  simp only [isJsSpace, List.mem_cons, List.not_mem_nil, or_false, Bool.or_eq_true,
    Bool.and_eq_true, decide_eq_true_eq] at h
  omega

lemma isSetupTokenChar_of_space (h : isJsSpace c = true) : isSetupTokenChar c = false := by
  refine Bool.eq_false_iff.mpr fun htoken => ?_
  have hval : c.toNat = c.val.toNat := rfl
  have hspace := toNat_of_space h
  have hchar : 45 ≤ c.toNat ∧ c.toNat ≤ 122 := by
    simp only [isSetupTokenChar, Char.isAlphanum, Bool.or_eq_true, decide_eq_true_eq, isAlpha_iff,
      isDigit_iff] at htoken
    rcases htoken with ((halpha | hdigit) | rfl) | rfl
    · omega
    · omega
    · decide
    · decide
  omega

lemma not_space_of_pending (h : isPendingChar c = true) : ¬ isJsSpace c = true := by
  intro hspace
  have hval : c.toNat = c.val.toNat := rfl
  simp only [isPendingChar, isAnsiParameter, Bool.or_eq_true, decide_eq_true_eq, isDigit_iff] at h
  rcases h with (rfl | rfl) | (hdigit | rfl) | rfl
  · exact absurd hspace (by decide)
  · exact absurd hspace (by decide)
  · have hnumber := toNat_of_space hspace
    omega
  · exact absurd hspace (by decide)
  · exact absurd hspace (by decide)

lemma marker_chars : ∀ c ∈ "sk-ant-oat01-".toList, isSetupTokenChar c = true :=
  List.all_eq_true.mp (by decide)

/-- The marker of a token with what is behind it. -/
lemma setupTokenAt_marker (rest : List Char) : setupTokenAt ("sk-ant-oat01-".toList ++ rest) =
    if rest.takeWhile isSetupTokenChar ≠ [] ∧
      (rest.dropWhile isSetupTokenChar).head?.all isJsSpace = true then
      some ("sk-ant-oat01-".toList ++ rest.takeWhile isSetupTokenChar,
        rest.dropWhile isSetupTokenChar)
    else none := by
  have hmarker : "sk-ant-oat01-".toList.isPrefixOf ("sk-ant-oat01-".toList ++ rest) = true :=
    List.isPrefixOf_iff_prefix.mpr (List.prefix_append _ _)
  rw [setupTokenAt, if_pos hmarker, List.drop_left]

lemma setupTokenAt_none (h : ¬ "sk-ant-oat01-".toList <+: text) : setupTokenAt text = none :=
  if_neg fun hmarker => h (List.isPrefixOf_iff_prefix.mp hmarker)

/-- The parts of a token. -/
lemma setupTokenAt_eq_some (h : setupTokenAt text = some (token, behind)) :
    text = token ++ behind ∧ token ≠ [] ∧ behind.head?.all isJsSpace = true := by
  by_cases hmarker : "sk-ant-oat01-".toList <+: text
  · obtain ⟨rest, rfl⟩ := hmarker
    rw [setupTokenAt_marker] at h
    split at h
    · rename_i hbehind
      cases h
      refine ⟨?_, List.cons_ne_nil _ _, hbehind.2⟩
      rw [List.append_assoc, List.takeWhile_append_dropWhile]
    · cases h
  · rw [setupTokenAt_none hmarker] at h
    cases h

/-- A space ends whatever token there is. -/
lemma setupTokenAt_append (hspace : ∃ c ∈ text, isJsSpace c = true) (more : List Char) :
    setupTokenAt (text ++ more) = (setupTokenAt text).map fun (token, behind) =>
      (token, behind ++ more) := by
  obtain ⟨c, hc, hspace⟩ := hspace
  by_cases hmarker : "sk-ant-oat01-".toList <+: text
  · obtain ⟨rest, rfl⟩ := hmarker
    have hrest : c ∈ rest := by
      rcases List.mem_append.mp hc with hc | hc
      · have htoken := marker_chars c hc
        rw [isSetupTokenChar_of_space hspace] at htoken
        cases htoken
      · exact hc
    have hends : rest.dropWhile isSetupTokenChar ≠ [] := by
      intro hnil
      have htoken := List.dropWhile_eq_nil_iff.mp hnil c hrest
      rw [isSetupTokenChar_of_space hspace] at htoken
      cases htoken
    have hlength : (rest.takeWhile isSetupTokenChar).length ≠ rest.length := by
      intro heq
      have htext := congrArg List.length
        (List.takeWhile_append_dropWhile (p := isSetupTokenChar) (l := rest))
      rw [List.length_append] at htext
      exact hends (List.length_eq_zero_iff.mp (by omega))
    have hempty : ¬ (rest.dropWhile isSetupTokenChar).isEmpty = true :=
      fun heq => hends (List.isEmpty_iff.mp heq)
    obtain ⟨d, behind, hbehind⟩ := List.exists_cons_of_ne_nil hends
    rw [List.append_assoc, setupTokenAt_marker, setupTokenAt_marker, List.takeWhile_append,
      if_neg hlength, List.dropWhile_append, if_neg hempty, hbehind, List.cons_append,
      List.head?_cons, List.head?_cons]
    split_ifs
    · rfl
    · rfl
  · have hmarker' : ¬ "sk-ant-oat01-".toList <+: text ++ more := by
      intro hsame
      rcases prefix_append_cases hsame with ⟨h, -⟩ | ⟨rest, heq, -⟩
      · exact hmarker h
      · have htoken := marker_chars c (heq ▸ List.mem_append_left rest hc)
        rw [isSetupTokenChar_of_space hspace] at htoken
        cases htoken
    rw [setupTokenAt_none hmarker, setupTokenAt_none hmarker']
    rfl

lemma setupTokenAt_longer (h : setupTokenAt text = some (token, [])) :
    setupTokenAt (text ++ ['x']) = some (token ++ ['x'], []) := by
  by_cases hmarker : "sk-ant-oat01-".toList <+: text
  · obtain ⟨rest, rfl⟩ := hmarker
    rw [setupTokenAt_marker] at h
    split at h
    · rename_i hbehind
      obtain ⟨htoken, hnil⟩ := Prod.mk.inj (Option.some.inj h)
      subst htoken
      have hall : ∀ c ∈ rest ++ ['x'], isSetupTokenChar c = true := by
        intro c hc
        rcases List.mem_append.mp hc with hc | hc
        · exact List.dropWhile_eq_nil_iff.mp hnil c hc
        · rw [List.mem_singleton.mp hc]
          rfl
      have hrest : rest.takeWhile isSetupTokenChar = rest :=
        List.takeWhile_eq_self_iff.mpr (List.dropWhile_eq_nil_iff.mp hnil)
      rw [List.append_assoc, setupTokenAt_marker, List.takeWhile_eq_self_iff.mpr hall,
        List.dropWhile_eq_nil_iff.mpr hall, hrest, List.append_assoc]
      exact if_pos ⟨by simp, rfl⟩
    · cases h
  · rw [setupTokenAt_none hmarker] at h
    cases h

/-! ### A token in a line -/

lemma setupTokenMatch_cons : setupTokenMatch start (c :: text) =
    (if start then setupTokenAt (c :: text) else none).or
      ((if isJsSpace c then setupTokenAt text else none).or (setupTokenMatch false text)) := rfl

/-- A token that does not begin its line has a space before it. -/
lemma exists_space_of_match (h : setupTokenMatch false text = some (token, behind)) :
    ∃ c ∈ text, isJsSpace c = true := by
  induction text with
  | nil => cases h
  | cons c text ih =>
      rw [setupTokenMatch_cons, if_neg Bool.false_ne_true, Option.none_or] at h
      by_cases hc : isJsSpace c = true
      · exact ⟨c, List.mem_cons_self, hc⟩
      · rw [if_neg hc, Option.none_or] at h
        obtain ⟨d, hd, hspace⟩ := ih h
        exact ⟨d, List.mem_cons_of_mem c hd, hspace⟩

/-- What is behind a token begins with a space. -/
lemma exists_space_behind (h : setupTokenMatch start text = some (token, behind))
    (hbehind : behind ≠ []) : ∃ c ∈ behind, isJsSpace c = true ∧ c ∈ text.tail := by
  have hhere : ∀ {text}, setupTokenAt text = some (token, behind) →
      ∃ c ∈ behind, isJsSpace c = true ∧ c ∈ text.tail := by
    intro text h
    obtain ⟨rfl, hne, hspace⟩ := setupTokenAt_eq_some h
    obtain ⟨c, behind, rfl⟩ := List.exists_cons_of_ne_nil hbehind
    obtain ⟨d, token, rfl⟩ := List.exists_cons_of_ne_nil hne
    exact ⟨c, List.mem_cons_self, hspace,
      List.mem_append_right token List.mem_cons_self⟩
  induction text generalizing start with
  | nil => cases h
  | cons c text ih =>
      rw [setupTokenMatch_cons] at h
      rcases Option.or_eq_some_iff.mp h with h | ⟨-, h⟩
      · split at h
        · exact hhere h
        · cases h
      · have htail : ∃ d ∈ behind, isJsSpace d = true ∧ d ∈ text.tail := by
          rcases Option.or_eq_some_iff.mp h with h | ⟨-, h⟩
          · split at h
            · exact hhere h
            · cases h
          · exact ih h
        obtain ⟨d, hd, hspace, hmem⟩ := htail
        exact ⟨d, hd, hspace, List.mem_of_mem_tail hmem⟩

/-- **A token with a space behind it** is the token of the line whatever comes after what is
pending. -/
lemma setupTokenMatch_stays (hpending : ∀ c ∈ pending, isPendingChar c = true) (hne : behind ≠ [])
    (h : setupTokenMatch start (line ++ pending) = some (token, behind)) (more : List Char) :
    ∃ behind', setupTokenMatch start (line ++ more) = some (token, behind') := by
  induction line generalizing start with
  | nil =>
      obtain ⟨c, -, hspace, hc⟩ := exists_space_behind h hne
      exact absurd hspace (not_space_of_pending (hpending c (List.mem_of_mem_tail hc)))
  | cons c line ih =>
      obtain ⟨d, -, hspace, hd⟩ := exists_space_behind h hne
      have hline : ∃ c ∈ line, isJsSpace c = true := by
        rcases List.mem_append.mp hd with hd | hd
        · exact ⟨d, hd, hspace⟩
        · exact absurd hspace (not_space_of_pending (hpending d hd))
      have hcons : ∃ e ∈ c :: line, isJsSpace e = true := by
        obtain ⟨e, he, hspace⟩ := hline
        exact ⟨e, List.mem_cons_of_mem c he, hspace⟩
      rw [List.cons_append, setupTokenMatch_cons, ← List.cons_append, setupTokenAt_append hcons,
        setupTokenAt_append hline] at h ⊢
      -- Both lines have the same token here, or none.
      rcases Option.or_eq_some_iff.mp h with h | ⟨hnone, h⟩
      · split at h
        · rename_i hstart
          obtain ⟨⟨token', behind'⟩, hhere, heq⟩ := Option.map_eq_some_iff.mp h
          cases heq
          rw [hhere, if_pos hstart]
          exact ⟨behind' ++ more, rfl⟩
        · cases h
      · have hnone' : (if start = true then (setupTokenAt (c :: line)).map
            fun (token, behind) => (token, behind ++ more) else none) = none := by
          split at hnone
          · rw [Option.map_eq_none_iff] at hnone
            rw [hnone, Option.map_none, ite_self]
          · exact if_neg ‹_›
        rw [hnone', Option.none_or]
        rcases Option.or_eq_some_iff.mp h with h | ⟨hnone, h⟩
        · split at h
          · obtain ⟨⟨token', behind'⟩, hhere, heq⟩ := Option.map_eq_some_iff.mp h
            cases heq
            rw [if_pos ‹_›, hhere]
            exact ⟨behind' ++ more, rfl⟩
          · cases h
        · have hnone' : (if isJsSpace c = true then (setupTokenAt line).map
              fun (token, behind) => (token, behind ++ more) else none) = none := by
            split at hnone
            · rw [Option.map_eq_none_iff] at hnone
              rw [hnone, Option.map_none, ite_self]
            · exact if_neg ‹_›
          rw [hnone', Option.none_or]
          exact ih h

/-- **A token at the end of a line** becomes longer. -/
lemma setupTokenMatch_longer (h : setupTokenMatch start line = some (token, [])) :
    setupTokenMatch start (line ++ ['x']) = some (token ++ ['x'], []) := by
  induction line generalizing start with
  | nil => cases h
  | cons c line ih =>
      rw [setupTokenMatch_cons] at h
      rw [List.cons_append, setupTokenMatch_cons, ← List.cons_append]
      rcases Option.or_eq_some_iff.mp h with h | ⟨hnone, h⟩
      · split at h
        · rename_i hstart
          rw [setupTokenAt_longer h, if_pos hstart]
          rfl
        · cases h
      · have hspace : ∃ d ∈ c :: line, isJsSpace d = true := by
          have hmatch : setupTokenMatch false (c :: line) = some (token, []) := by
            rw [setupTokenMatch_cons, if_neg Bool.false_ne_true, Option.none_or]
            exact h
          exact exists_space_of_match hmatch
        have hnone' : (if start = true then setupTokenAt (c :: line ++ ['x']) else none) =
            none := by
          split at hnone
          · rw [setupTokenAt_append hspace, hnone, Option.map_none, ite_self]
          · exact if_neg ‹_›
        rw [hnone', Option.none_or]
        rcases Option.or_eq_some_iff.mp h with h | ⟨hnone, h⟩
        · split at h
          · rw [setupTokenAt_longer h, if_pos ‹_›]
            rfl
          · cases h
        · have hnone' : (if isJsSpace c = true then setupTokenAt (line ++ ['x']) else none) =
              none := by
            split at hnone
            · rw [setupTokenAt_append (exists_space_of_match h), hnone, Option.map_none, ite_self]
            · exact if_neg ‹_›
          rw [hnone', Option.none_or]
          exact ih h

end Line

/-! ### A token in a log -/

/-- The log ends in its token: no line but the last one has a token, and there it is at the end. -/
def EndsInToken (value : String) : Prop :=
  ∃ before last token,
    terminalLines (interactiveLoginText value.toList) = before ++ [last] ∧
      (∀ line ∈ before, setupTokenOfLine line = none) ∧
      setupTokenMatch true last = some (token, []) ∧ token.length = setupTokenLength

lemma completed_iff {value token : String} :
    setupTokenLoginStateFromLog value = .completed token ↔
      setupTokenFromLog (interactiveLoginText value.toList) = some token := by
  rw [setupTokenLoginStateFromLog]
  cases setupTokenFromLog (interactiveLoginText value.toList) with
  | some found => simp
  | none =>
      dsimp only
      refine ⟨fun h => ?_, nofun⟩
      split at h
      · cases h
      · split at h <;> cases h

/-- The lines of a log, and those of the log with more behind it. -/
lemma terminalLines_append (text more : List Char) :
    ∃ before last pending rest lines,
      (∀ c ∈ pending, isPendingChar c = true) ∧
      terminalLines (interactiveLoginText text) = before ++ [last ++ pending] ∧
      terminalLines (interactiveLoginText (text ++ more)) = before ++ (last ++ rest) :: lines := by
  have hgrows : Grows text (text ++ more) := ⟨text, [], more, (List.append_nil _).symm, rfl,
    pending_nil⟩
  obtain ⟨common, pending, rest, hcommon, hrest, hpending⟩ := hgrows.displayed
  obtain ⟨before, last, hsplit⟩ := splitOn_append_last '\n' common
  have hnewline : '\n' ∉ pending := fun hmem => absurd (hpending.chars _ hmem) (by decide)
  obtain ⟨line, lines, hlines⟩ := List.exists_cons_of_ne_nil (List.splitOn_ne_nil '\n' rest)
  refine ⟨before, last, pending, line, lines, hpending.chars, ?_, ?_⟩
  · rw [terminalLines, hcommon, hsplit, List.splitOn_eq_singleton hnewline]
    rfl
  · rw [terminalLines, hrest, hsplit, hlines]
    rfl

/-- A log with an `x` behind it that no sequence takes away: the first escape sequence leaves a
second one, which is taken out after it. -/
lemma terminalLines_x (text : List Char) :
    terminalLines (interactiveLoginText (text ++ "\x1b\x1b[0m[0mx".toList)) =
      (newlines (stripAnsi (interactiveLoginText text)) ++ ['x']).splitOn '\n' := by
  have hinner : stripAnsi "\x1b\x1b[0m[0mx".toList = "\x1b[0mx".toList := by decide
  have houter : stripAnsi "\x1b[0mx".toList = ['x'] := by decide
  have hplain : newlines "\x1b[0mx".toList = "\x1b[0mx".toList := by decide
  have hx : newlines ['x'] = ['x'] := by decide
  have hstrip : stripAnsi (text ++ "\x1b\x1b[0m[0mx".toList) =
      stripAnsi text ++ "\x1b[0mx".toList := by
    rw [← hinner]
    exact stripAnsi_escape text "\x1b[0m[0mx".toList
  have hlogin : interactiveLoginText (text ++ "\x1b\x1b[0m[0mx".toList) =
      interactiveLoginText text ++ "\x1b[0mx".toList := by
    rw [interactiveLoginText, hstrip, (newlines_append _ _).2 (by decide), hplain]
    rfl
  have hstrip' : stripAnsi (interactiveLoginText text ++ "\x1b[0mx".toList) =
      stripAnsi (interactiveLoginText text) ++ ['x'] := by
    rw [← houter]
    exact stripAnsi_escape (interactiveLoginText text) "[0mx".toList
  rw [hlogin, terminalLines, hstrip', (newlines_append _ _).2 (by decide), hx]

lemma setupTokenOfLine_eq_some {line : List Char} {token : String}
    (h : setupTokenOfLine line = some token) :
    ∃ chars behind, setupTokenMatch true line = some (chars, behind) ∧
      chars.length = setupTokenLength ∧ token = String.ofList chars := by
  rw [setupTokenOfLine] at h
  cases hmatch : setupTokenMatch true line with
  | none =>
      rw [hmatch] at h
      cases h
  | some found =>
      obtain ⟨chars, behind⟩ := found
      rw [hmatch] at h
      dsimp only at h
      split at h
      · cases h
        exact ⟨chars, behind, rfl, ‹_›, rfl⟩
      · cases h

lemma setupTokenOfLine_of_match {line chars behind : List Char}
    (h : setupTokenMatch true line = some (chars, behind)) :
    setupTokenOfLine line =
      if chars.length = setupTokenLength then some (String.ofList chars) else none := by
  rw [setupTokenOfLine, h]

/-- **The token of a growing log** stays for every log that begins with this one, if and only if
the log does not end in its token. -/
theorem setupToken_stays_iff (value : String) :
    (∀ more token, setupTokenLoginStateFromLog value = .completed token →
      setupTokenLoginStateFromLog (value ++ more) = .completed token) ↔ ¬ EndsInToken value := by
  constructor
  · rintro hstays ⟨before, last, token, hlines, hbefore, hmatch, hlength⟩
    have hnone : before.findSome? setupTokenOfLine = none :=
      List.findSome?_eq_none_iff.mpr hbefore
    have hcompleted : setupTokenLoginStateFromLog value = .completed (String.ofList token) := by
      rw [completed_iff, setupTokenFromLog, hlines, List.findSome?_append, hnone, Option.none_or,
        List.findSome?_cons, setupTokenOfLine_of_match hmatch, if_pos hlength]
    have hlonger := hstays (String.ofList "\x1b\x1b[0m[0mx".toList) _ hcompleted
    rw [completed_iff, String.toList_append, String.toList_ofList, setupTokenFromLog,
      terminalLines_x] at hlonger
    obtain ⟨before', last', hsplit⟩ := splitOn_append_last '\n'
      (newlines (stripAnsi (interactiveLoginText value.toList)))
    have hself : before ++ [last] = before' ++ [last'] := by
      have hsplit := hsplit []
      rw [List.append_nil, ← terminalLines, hlines, List.splitOn_nil, List.modifyHead_cons,
        List.append_nil] at hsplit
      exact hsplit
    obtain ⟨rfl, hlast⟩ := List.append_inj' hself rfl
    obtain rfl := List.singleton_inj.mp hlast
    -- The line of the token is longer now.
    have hx : (['x'] : List Char).splitOn '\n' = [['x']] := List.splitOn_eq_singleton (by decide)
    have hlong : (token ++ ['x']).length ≠ setupTokenLength := by
      rw [List.length_append, hlength]
      decide
    rw [hsplit, hx, List.modifyHead_cons, List.findSome?_append, hnone, Option.none_or,
      List.findSome?_cons, setupTokenOfLine_of_match (setupTokenMatch_longer hmatch),
      if_neg hlong] at hlonger
    cases hlonger
  · intro hends more token hcompleted
    rw [completed_iff] at hcompleted ⊢
    obtain ⟨before, last, pending, rest, lines, hpending, hlines, hmore⟩ :=
      terminalLines_append value.toList more.toList
    rw [String.toList_append, setupTokenFromLog, hmore, List.findSome?_append]
    rw [setupTokenFromLog, hlines, List.findSome?_append] at hcompleted
    rcases Option.or_eq_some_iff.mp hcompleted with hbefore | ⟨hbefore, hlast⟩
    · rw [hbefore]
      rfl
    · -- The last line completes the login, and has a space behind its token.
      rw [List.findSome?_cons, List.findSome?_nil] at hlast
      have hline : setupTokenOfLine (last ++ pending) = some token := by
        split at hlast
        · rename_i hline
          rw [hline, hlast]
        · cases hlast
      obtain ⟨chars, behind, hmatch, hlength, rfl⟩ := setupTokenOfLine_eq_some hline
      have hne : behind ≠ [] := by
        rintro rfl
        exact hends ⟨before, last ++ pending, chars, hlines,
          List.findSome?_eq_none_iff.mp hbefore, hmatch, hlength⟩
      obtain ⟨behind', hstays⟩ := setupTokenMatch_stays hpending hne hmatch rest
      rw [hbefore, Option.none_or, List.findSome?_cons, setupTokenOfLine_of_match hstays,
        if_pos hlength]

/-- A token of the right length that is still being written. -/
theorem overlong_token_completed : ¬ ∀ (value more token : String),
    setupTokenLoginStateFromLog value = .completed token →
      setupTokenLoginStateFromLog (value ++ more) = .completed token := by
  intro h
  have hcompleted : setupTokenFromLog (interactiveLoginText
      ("sk-ant-oat01-".toList ++ List.replicate 95 'a')) =
        some (String.ofList ("sk-ant-oat01-".toList ++ List.replicate 95 'a')) := by
    decide
  have hlonger : setupTokenFromLog (interactiveLoginText
      ("sk-ant-oat01-".toList ++ List.replicate 95 'a' ++ ['x'])) = none := by
    decide
  have hstays := h (String.ofList ("sk-ant-oat01-".toList ++ List.replicate 95 'a')) "x" _
    (completed_iff.mpr (by rw [String.toList_ofList]; exact hcompleted))
  rw [completed_iff, String.toList_append, String.toList_ofList] at hstays
  cases hlonger.symm.trans hstays

end Opzava.Provisioning
