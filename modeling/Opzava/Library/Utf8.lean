import Opzava.Library.Texts

/-!
The UTF-8 decoder of the Encoding Standard, which a `TextDecoder` runs byte by byte.

* `decodeBytes`: the characters of a chunk, and what is left of the last one.
* `gives_utf8EncodeChar`: the bytes of a character, and some of them.
* `decodeBytes_prefix`: the beginning of the bytes of a text gives the beginning of the text.
* `bufferText`: the text of a whole buffer.
* `TextDecoder`: the streaming decoder, which drops a byte order mark.
* `TextDecoder.decodeAll_eq`: how the bytes are cut into chunks does not matter.
-/

namespace Opzava.Library

/-- The UTF-8 bytes of a text. -/
def utf8Bytes (text : List Char) : List UInt8 := text.flatMap String.utf8EncodeChar

/-- What stands for bytes that are no character. -/
def replacementChar : Char := Char.ofNat 0xFFFD

def byteOrderMark : Char := Char.ofNat 0xFEFF

/-- The decoder between two bytes. -/
structure Utf8State where
  codePoint : ℕ := 0
  bytesSeen : ℕ := 0
  bytesNeeded : ℕ := 0
  lowerBoundary : ℕ := 0x80
  upperBoundary : ℕ := 0xBF

namespace Utf8State

/-- The first byte of a character. -/
def first (byte : ℕ) : List Char × Utf8State :=
  if byte ≤ 0x7F then ([Char.ofNat byte], {})
  else if 0xC2 ≤ byte ∧ byte ≤ 0xDF then
    ([], { codePoint := byte % 0x20, bytesNeeded := 1 })
  else if 0xE0 ≤ byte ∧ byte ≤ 0xEF then
    ([], { codePoint := byte % 0x10
           bytesNeeded := 2
           lowerBoundary := if byte = 0xE0 then 0xA0 else 0x80
           upperBoundary := if byte = 0xED then 0x9F else 0xBF })
  else if 0xF0 ≤ byte ∧ byte ≤ 0xF4 then
    ([], { codePoint := byte % 0x8
           bytesNeeded := 3
           lowerBoundary := if byte = 0xF0 then 0x90 else 0x80
           upperBoundary := if byte = 0xF4 then 0x8F else 0xBF })
  else ([replacementChar], {})

/-- One byte: the characters it completes, and the decoder after it. A byte that cannot continue a
character is read again as a first one. -/
def step (state : Utf8State) (byte : ℕ) : List Char × Utf8State :=
  if state.bytesNeeded = 0 then first byte
  else if byte < state.lowerBoundary ∨ state.upperBoundary < byte then
    (replacementChar :: (first byte).1, (first byte).2)
  else if state.bytesSeen + 1 = state.bytesNeeded then
    ([Char.ofNat (state.codePoint * 0x40 + byte % 0x40)], {})
  else
    ([], { codePoint := state.codePoint * 0x40 + byte % 0x40
           bytesSeen := state.bytesSeen + 1
           bytesNeeded := state.bytesNeeded })

end Utf8State

/-- The characters that some bytes complete, and the decoder after them. -/
def decodeBytes (state : Utf8State) : List UInt8 → List Char × Utf8State
  | [] => ([], state)
  | byte :: bytes =>
      let (chars, next) := state.step byte.toNat
      let (rest, last) := decodeBytes next bytes
      (chars ++ rest, last)

lemma decodeBytes_append (state : Utf8State) (bytes bytes' : List UInt8) :
    decodeBytes state (bytes ++ bytes') =
      ((decodeBytes state bytes).1 ++ (decodeBytes (decodeBytes state bytes).2 bytes').1,
        (decodeBytes (decodeBytes state bytes).2 bytes').2) := by
  induction bytes generalizing state with
  | nil => rfl
  | cons byte bytes ih =>
      simp only [List.cons_append, decodeBytes, ih, List.append_assoc]

/-! ### The bytes of one character -/

section Char

lemma toNat_ofNat_of_lt {n : ℕ} (h : n < 256) : (UInt8.ofNat n).toNat = n :=
  UInt8.toNat_ofNat_of_lt' h

lemma step_first {n : ℕ} : ({} : Utf8State).step n = Utf8State.first n := rfl

lemma step_last {state : Utf8State} {n : ℕ} (hneeded : state.bytesSeen + 1 = state.bytesNeeded)
    (hlower : state.lowerBoundary ≤ n) (hupper : n ≤ state.upperBoundary) :
    state.step n = ([Char.ofNat (state.codePoint * 0x40 + n % 0x40)], {}) := by
  rw [Utf8State.step, if_neg (by omega), if_neg (by omega), if_pos hneeded]

lemma step_more {state : Utf8State} {n : ℕ} (hneeded : state.bytesSeen + 1 < state.bytesNeeded)
    (hlower : state.lowerBoundary ≤ n) (hupper : n ≤ state.upperBoundary) :
    state.step n = ([], { codePoint := state.codePoint * 0x40 + n % 0x40
                          bytesSeen := state.bytesSeen + 1
                          bytesNeeded := state.bytesNeeded }) := by
  rw [Utf8State.step, if_neg (by omega), if_neg (by omega), if_neg (by omega)]

/-- From a state, the bytes give the character with the last of them, and nothing before. -/
def Gives (state : Utf8State) (bytes : List UInt8) (c : Char) : Prop :=
  decodeBytes state bytes = ([c], {}) ∧
    ∀ some : List UInt8, some <+: bytes → some ≠ bytes → (decodeBytes state some).1 = []

/-- The last byte. -/
lemma gives_last {state : Utf8State} {n : ℕ} {c : Char} (hn : n < 256)
    (hstep : state.step n = ([c], {})) : Gives state [UInt8.ofNat n] c := by
  constructor
  · simp only [decodeBytes]
    rw [toNat_ofNat_of_lt hn, hstep]
    rfl
  · intro some hsome hne
    rcases List.prefix_cons_iff.mp hsome with rfl | ⟨rest, rfl, hrest⟩
    · rfl
    · rw [List.prefix_nil.mp hrest] at hne
      exact absurd rfl hne

/-- A byte that is not the last. -/
lemma gives_cons {state state' : Utf8State} {n : ℕ} {bytes : List UInt8} {c : Char} (hn : n < 256)
    (hstep : state.step n = ([], state')) (h : Gives state' bytes c) :
    Gives state (UInt8.ofNat n :: bytes) c := by
  constructor
  · simp only [decodeBytes]
    rw [toNat_ofNat_of_lt hn, hstep]
    simp only [h.1, List.nil_append]
  · intro some hsome hne
    rcases List.prefix_cons_iff.mp hsome with rfl | ⟨rest, rfl, hrest⟩
    · rfl
    · simp only [decodeBytes]
      rw [toNat_ofNat_of_lt hn, hstep, List.nil_append]
      exact h.2 rest hrest fun heq => hne (by rw [heq])

lemma gives_two {n : ℕ} (hlow : 0x7F < n) (hhigh : n ≤ 0x7FF) :
    Gives {} [UInt8.ofNat (n / 64 % 0x20 + 0xC0), UInt8.ofNat (n % 0x40 + 0x80)]
      (Char.ofNat n) := by
  have hfirst : ({} : Utf8State).step (n / 64 % 0x20 + 0xC0) =
      ([], { codePoint := (n / 64 % 0x20 + 0xC0) % 0x20, bytesNeeded := 1 }) := by
    rw [step_first, Utf8State.first, if_neg (by omega), if_pos (by omega)]
  refine gives_cons (by omega) hfirst (gives_last (by omega) ?_)
  rw [step_last rfl (by dsimp only; omega) (by dsimp only; omega)]
  dsimp only
  rw [show (n / 64 % 0x20 + 0xC0) % 0x20 * 0x40 + (n % 0x40 + 0x80) % 0x40 = n by omega]

lemma gives_three {n : ℕ} (hlow : 0x7FF < n) (hhigh : n ≤ 0xFFFF)
    (hvalid : n < 0xD800 ∨ 0xDFFF < n) :
    Gives {} [UInt8.ofNat (n / 4096 % 0x10 + 0xE0), UInt8.ofNat (n / 64 % 0x40 + 0x80),
      UInt8.ofNat (n % 0x40 + 0x80)] (Char.ofNat n) := by
  have hfirst : ({} : Utf8State).step (n / 4096 % 0x10 + 0xE0) =
      ([], { codePoint := (n / 4096 % 0x10 + 0xE0) % 0x10
             bytesNeeded := 2
             lowerBoundary := if n / 4096 % 0x10 + 0xE0 = 0xE0 then 0xA0 else 0x80
             upperBoundary := if n / 4096 % 0x10 + 0xE0 = 0xED then 0x9F else 0xBF }) := by
    rw [step_first, Utf8State.first, if_neg (by omega), if_neg (by omega), if_pos (by omega)]
  -- The boundaries of the second byte leave out what has fewer bytes, and the surrogates.
  refine gives_cons (by omega) hfirst
    (gives_cons (by omega) (step_more (by dsimp only; omega) ?_ ?_) ?_)
  · dsimp only
    split_ifs
    · omega
    · omega
  · dsimp only
    split_ifs
    · omega
    · omega
  · refine gives_last (by omega) ?_
    rw [step_last rfl (by dsimp only; omega) (by dsimp only; omega)]
    dsimp only
    rw [show ((n / 4096 % 0x10 + 0xE0) % 0x10 * 0x40 + (n / 64 % 0x40 + 0x80) % 0x40) * 0x40 +
      (n % 0x40 + 0x80) % 0x40 = n by omega]

lemma gives_four {n : ℕ} (hlow : 0xFFFF < n) (hhigh : n < 0x110000) :
    Gives {} [UInt8.ofNat (n / 262144 % 0x08 + 0xF0), UInt8.ofNat (n / 4096 % 0x40 + 0x80),
      UInt8.ofNat (n / 64 % 0x40 + 0x80), UInt8.ofNat (n % 0x40 + 0x80)] (Char.ofNat n) := by
  have hfirst : ({} : Utf8State).step (n / 262144 % 0x08 + 0xF0) =
      ([], { codePoint := (n / 262144 % 0x08 + 0xF0) % 0x8
             bytesNeeded := 3
             lowerBoundary := if n / 262144 % 0x08 + 0xF0 = 0xF0 then 0x90 else 0x80
             upperBoundary := if n / 262144 % 0x08 + 0xF0 = 0xF4 then 0x8F else 0xBF }) := by
    rw [step_first, Utf8State.first, if_neg (by omega), if_neg (by omega), if_neg (by omega),
      if_pos (by omega)]
  refine gives_cons (by omega) hfirst
    (gives_cons (by omega) (step_more (by dsimp only; omega) ?_ ?_) ?_)
  · dsimp only
    split_ifs
    · omega
    · omega
  · dsimp only
    split_ifs
    · omega
    · omega
  · refine gives_cons (by omega) (step_more (by dsimp only; omega) (by dsimp only; omega)
      (by dsimp only; omega)) (gives_last (by omega) ?_)
    rw [step_last rfl (by dsimp only; omega) (by dsimp only; omega)]
    dsimp only
    rw [show (((n / 262144 % 0x08 + 0xF0) % 0x8 * 0x40 + (n / 4096 % 0x40 + 0x80) % 0x40) * 0x40 +
      (n / 64 % 0x40 + 0x80) % 0x40) * 0x40 + (n % 0x40 + 0x80) % 0x40 = n by omega]

lemma gives_utf8EncodeChar (c : Char) : Gives {} (String.utf8EncodeChar c) c := by
  have hvalid : c.val.toNat < 0xD800 ∨ (0xDFFF < c.val.toNat ∧ c.val.toNat < 0x110000) := c.valid
  have hchar : Char.ofNat c.val.toNat = c := Char.ofNat_toNat c
  rw [String.utf8EncodeChar]
  generalize c.val.toNat = n at hvalid hchar
  subst hchar
  split_ifs with h₁ h₂ h₃
  · refine gives_last (by omega) ?_
    rw [step_first, Utf8State.first, if_pos h₁]
  · exact gives_two (by omega) h₂
  · exact gives_three (by omega) h₃ (by omega)
  · exact gives_four (by omega) (by omega)

end Char

/-! ### The bytes of a text -/

section Text

variable {bytes : List UInt8}

/-- The bytes of a character, and what follows. -/
lemma decodeBytes_char (c : Char) (rest : List UInt8) :
    decodeBytes {} (String.utf8EncodeChar c ++ rest) =
      (c :: (decodeBytes {} rest).1, (decodeBytes {} rest).2) := by
  rw [decodeBytes_append, (gives_utf8EncodeChar c).1]
  rfl

lemma utf8Bytes_cons (c : Char) (text : List Char) :
    utf8Bytes (c :: text) = String.utf8EncodeChar c ++ utf8Bytes text := List.flatMap_cons

lemma utf8Bytes_append (text text' : List Char) :
    utf8Bytes (text ++ text') = utf8Bytes text ++ utf8Bytes text' := List.flatMap_append

/-- A byte of ASCII stands for itself only. -/
lemma toNat_of_mem_utf8EncodeChar {c : Char} {byte : UInt8} (hascii : byte.toNat < 0x80)
    (h : byte ∈ String.utf8EncodeChar c) : c.toNat = byte.toNat := by
  change c.val.toNat = _
  rw [String.utf8EncodeChar] at h
  generalize c.val.toNat = n at h
  have high : ∀ {n : ℕ}, n < 256 → 0x80 ≤ n → byte ≠ UInt8.ofNat n := by
    rintro n hn hle rfl
    rw [toNat_ofNat_of_lt hn] at hascii
    omega
  split_ifs at h with h₁ h₂ h₃
  · obtain rfl := List.mem_singleton.mp h
    exact (toNat_ofNat_of_lt (by omega)).symm
  · simp only [List.mem_cons, List.not_mem_nil, or_false] at h
    rcases h with h | h
    · exact absurd h (high (by omega) (by omega))
    · exact absurd h (high (by omega) (by omega))
  · simp only [List.mem_cons, List.not_mem_nil, or_false] at h
    rcases h with h | h | h
    · exact absurd h (high (by omega) (by omega))
    · exact absurd h (high (by omega) (by omega))
    · exact absurd h (high (by omega) (by omega))
  · simp only [List.mem_cons, List.not_mem_nil, or_false] at h
    rcases h with h | h | h | h
    · exact absurd h (high (by omega) (by omega))
    · exact absurd h (high (by omega) (by omega))
    · exact absurd h (high (by omega) (by omega))
    · exact absurd h (high (by omega) (by omega))

/-- The bytes of a text give the text. -/
lemma decodeBytes_utf8Bytes (text : List Char) : decodeBytes {} (utf8Bytes text) = (text, {}) := by
  induction text with
  | nil => rfl
  | cons c text ih => rw [utf8Bytes_cons, decodeBytes_char, ih]

/-- The beginning of the bytes of a text gives the beginning of the text. -/
lemma decodeBytes_prefix (text : List Char) (h : bytes <+: utf8Bytes text) :
    (decodeBytes {} bytes).1 <+: text := by
  induction text generalizing bytes with
  | nil =>
      rw [List.prefix_nil.mp h]
      exact List.nil_prefix
  | cons c text ih =>
      rw [utf8Bytes_cons] at h
      rcases prefix_append_cases h with ⟨hsome, hne⟩ | ⟨rest, rfl, hrest⟩
      · rw [(gives_utf8EncodeChar c).2 bytes hsome hne]
        exact List.nil_prefix
      · rw [decodeBytes_char]
        exact List.cons_prefix_cons.mpr ⟨rfl, ih hrest⟩

/-- A text whose bytes are the beginning of those of another one is the beginning of it. -/
lemma prefix_of_utf8Bytes {text text' : List Char} (h : utf8Bytes text <+: utf8Bytes text') :
    text <+: text' := by
  have hdecoded := decodeBytes_prefix text' h
  rwa [decodeBytes_utf8Bytes] at hdecoded

end Text

/-- `buffer.toString("utf8")`: what is left of a character at the end is no character. -/
def bufferText (bytes : List UInt8) : String :=
  let (text, last) := decodeBytes {} bytes
  String.ofList (text ++ if last.bytesNeeded = 0 then [] else [replacementChar])

lemma bufferText_utf8Bytes (text : List Char) :
    bufferText (utf8Bytes text) = String.ofList text := by
  rw [bufferText, decodeBytes_utf8Bytes]
  exact congrArg String.ofList (List.append_nil text)

/-! ### The streaming decoder -/

/-- A `TextDecoder`: the decoder, and whether a first character was seen. -/
structure TextDecoder where
  state : Utf8State := {}
  bomSeen : Bool := false

namespace TextDecoder

/-- The characters that are handed out: a byte order mark at the very beginning is not. -/
def serialize (bomSeen : Bool) (chars : List Char) : List Char :=
  match bomSeen, chars with
  | false, c :: rest => if c = byteOrderMark then rest else c :: rest
  | _, chars => chars

/-- `decoder.decode(chunk, { stream: true })`. -/
def decode (decoder : TextDecoder) (chunk : List UInt8) : List Char × TextDecoder :=
  let (chars, state) := decodeBytes decoder.state chunk
  (serialize decoder.bomSeen chars, ⟨state, decoder.bomSeen || !chars.isEmpty⟩)

/-- `decoder.decode()`: what is left of a character is no character. -/
def finish (decoder : TextDecoder) : List Char :=
  if decoder.state.bytesNeeded = 0 then [] else serialize decoder.bomSeen [replacementChar]

/-- The text of the chunks, one after the other, and the decoder after them. -/
def decodeAll (decoder : TextDecoder) : List (List UInt8) → List Char × TextDecoder
  | [] => ([], decoder)
  | chunk :: chunks =>
      let (text, next) := decoder.decode chunk
      let (rest, last) := next.decodeAll chunks
      (text ++ rest, last)

lemma finish_cases (decoder : TextDecoder) :
    decoder.finish = [] ∨ decoder.finish = [replacementChar] := by
  unfold finish
  split_ifs
  · exact .inl rfl
  · refine .inr ?_
    cases decoder.bomSeen with
    | true => rfl
    | false =>
        rw [serialize, if_neg (show ¬ replacementChar = byteOrderMark by decide)]

/-- How the bytes are cut into chunks does not matter, if their text does not begin with a byte
order mark. -/
lemma decodeAll_eq (decoder : TextDecoder) (chunks : List (List UInt8))
    (hmark : decoder.bomSeen = false →
      (decodeBytes decoder.state chunks.flatten).1.head? ≠ some byteOrderMark) :
    (decoder.decodeAll chunks).1 = (decodeBytes decoder.state chunks.flatten).1 ∧
      (decoder.decodeAll chunks).2.state = (decodeBytes decoder.state chunks.flatten).2 := by
  induction chunks generalizing decoder with
  | nil => exact ⟨rfl, rfl⟩
  | cons chunk chunks ih =>
      rw [List.flatten_cons, decodeBytes_append] at hmark ⊢
      dsimp only at hmark ⊢
      have htext : serialize decoder.bomSeen (decodeBytes decoder.state chunk).1 =
          (decodeBytes decoder.state chunk).1 := by
        cases hseen : decoder.bomSeen with
        | true => rfl
        | false =>
            cases hchars : (decodeBytes decoder.state chunk).1 with
            | nil => rfl
            | cons c rest =>
                refine if_neg fun hc => hmark hseen ?_
                rw [hchars, hc]
                rfl
      have hnext := ih (decoder.decode chunk).2 (fun hseen => ?_)
      · simp only [decodeAll]
        refine ⟨?_, hnext.2⟩
        rw [hnext.1]
        exact congrArg (· ++ _) htext
      · simp only [decode, Bool.or_eq_false_iff, Bool.not_eq_false', List.isEmpty_iff] at hseen
        have hmark' := hmark hseen.1
        rw [hseen.2, List.nil_append] at hmark'
        exact hmark'

end TextDecoder

end Opzava.Library
