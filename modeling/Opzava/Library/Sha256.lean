import Mathlib

/-!
SHA-256 on texts, as `createHash("sha256").update(text).digest("hex")` computes it:
the UTF-8 bytes of the text, padded and compressed block by block, in hexadecimal.

Words are natural numbers below `2 ^ 32`, so that digests of short texts evaluate in
the kernel.
-/

namespace Opzava.Library.Sha256

/-! ### Words -/

/-- A number modulo `2 ^ 32`. -/
def word (n : ℕ) : ℕ := n % 4294967296

/-- The rotation of a word to the right. -/
def rotr (x n : ℕ) : ℕ := (x >>> n) ||| word (x <<< (32 - n))

def smallSigma0 (x : ℕ) : ℕ := rotr x 7 ^^^ rotr x 18 ^^^ (x >>> 3)

def smallSigma1 (x : ℕ) : ℕ := rotr x 17 ^^^ rotr x 19 ^^^ (x >>> 10)

def bigSigma0 (x : ℕ) : ℕ := rotr x 2 ^^^ rotr x 13 ^^^ rotr x 22

def bigSigma1 (x : ℕ) : ℕ := rotr x 6 ^^^ rotr x 11 ^^^ rotr x 25

/-- The choice function. -/
def ch (x y z : ℕ) : ℕ := (x &&& y) ^^^ ((4294967295 ^^^ x) &&& z)

/-- The majority function. -/
def maj (x y z : ℕ) : ℕ := (x &&& y) ^^^ (x &&& z) ^^^ (y &&& z)

/-- The constants of the sixty-four rounds. -/
def roundConstants : List ℕ :=
  [0x428a2f98, 0x71374491, 0xb5c0fbcf, 0xe9b5dba5, 0x3956c25b, 0x59f111f1, 0x923f82a4, 0xab1c5ed5,
    0xd807aa98, 0x12835b01, 0x243185be, 0x550c7dc3, 0x72be5d74, 0x80deb1fe, 0x9bdc06a7, 0xc19bf174,
    0xe49b69c1, 0xefbe4786, 0x0fc19dc6, 0x240ca1cc, 0x2de92c6f, 0x4a7484aa, 0x5cb0a9dc, 0x76f988da,
    0x983e5152, 0xa831c66d, 0xb00327c8, 0xbf597fc7, 0xc6e00bf3, 0xd5a79147, 0x06ca6351, 0x14292967,
    0x27b70a85, 0x2e1b2138, 0x4d2c6dfc, 0x53380d13, 0x650a7354, 0x766a0abb, 0x81c2c92e, 0x92722c85,
    0xa2bfe8a1, 0xa81a664b, 0xc24b8b70, 0xc76c51a3, 0xd192e819, 0xd6990624, 0xf40e3585, 0x106aa070,
    0x19a4c116, 0x1e376c08, 0x2748774c, 0x34b0bcb5, 0x391c0cb3, 0x4ed8aa4a, 0x5b9cca4f, 0x682e6ff3,
    0x748f82ee, 0x78a5636f, 0x84c87814, 0x8cc70208, 0x90befffa, 0xa4506ceb, 0xbef9a3f7, 0xc67178f2]

/-! ### Compression -/

/-- The eight working words. -/
structure State where
  a : ℕ
  b : ℕ
  c : ℕ
  d : ℕ
  e : ℕ
  f : ℕ
  g : ℕ
  h : ℕ

/-- The words before the first block. -/
def State.initial : State :=
  ⟨0x6a09e667, 0xbb67ae85, 0x3c6ef372, 0xa54ff53a, 0x510e527f, 0x9b05688c, 0x1f83d9ab, 0x5be0cd19⟩

/-- One round, with its constant and its word of the schedule. -/
def State.round (s : State) (k w : ℕ) : State :=
  let t₁ := s.h + bigSigma1 s.e + ch s.e s.f s.g + k + w
  let t₂ := bigSigma0 s.a + maj s.a s.b s.c
  ⟨word (t₁ + t₂), s.a, s.b, s.c, word (s.d + t₁), s.e, s.f, s.g⟩

/-- The schedule of a block, newest word first, longer by the given number of words. -/
def schedule : ℕ → List ℕ → List ℕ
  | 0, ws => ws
  | n + 1, ws => schedule n (word (smallSigma1 (ws.getD 1 0) + ws.getD 6 0 +
      smallSigma0 (ws.getD 14 0) + ws.getD 15 0) :: ws)

/-- The rounds with the given constants and words. -/
def rounds : List ℕ → List ℕ → State → State
  | k :: ks, w :: ws, s => rounds ks ws (s.round k w)
  | _, _, s => s

/-- One block of sixteen words. -/
def State.compress (s : State) (block : List ℕ) : State :=
  let r := rounds roundConstants (schedule 48 block.reverse).reverse s
  ⟨word (s.a + r.a), word (s.b + r.b), word (s.c + r.c), word (s.d + r.d), word (s.e + r.e),
    word (s.f + r.f), word (s.g + r.g), word (s.h + r.h)⟩

/-- The given number of blocks. -/
def compressBlocks : ℕ → List ℕ → State → State
  | 0, _, s => s
  | n + 1, words, s => compressBlocks n (words.drop 16) (s.compress (words.take 16))

/-! ### Texts -/

/-- The UTF-8 bytes of a text. -/
def utf8 (text : String) : List ℕ := text.toByteArray.data.toList.map UInt8.toNat

/-- The bytes of a number, most significant first. -/
def bigEndian (width n : ℕ) : List ℕ :=
  (List.range width).map fun i => n / 256 ^ (width - 1 - i) % 256

/-- The padding of a message to whole blocks. -/
def pad (bytes : List ℕ) : List ℕ :=
  bytes ++ 0x80 :: List.replicate ((119 - bytes.length % 64) % 64) 0 ++
    bigEndian 8 (bytes.length * 8)

/-- The words of a padded message. -/
def words : List ℕ → List ℕ
  | a :: b :: c :: d :: rest => (a * 16777216 + b * 65536 + c * 256 + d) :: words rest
  | _ => []

def hexDigit (n : ℕ) : Char := if n < 10 then Char.ofNat (48 + n) else Char.ofNat (87 + n)

def hexWord (n : ℕ) : List Char := (List.range 8).map fun i => hexDigit (n / 16 ^ (7 - i) % 16)

/-- The hexadecimal digest of a text. -/
def hexDigest (text : String) : String :=
  let message := words (pad (utf8 text))
  let r := compressBlocks (message.length / 16) message .initial
  String.ofList ([r.a, r.b, r.c, r.d, r.e, r.f, r.g, r.h].flatMap hexWord)

example : hexDigest "abc" =
    "ba7816bf8f01cfea414140de5dae2223b00361a396177a9cb410ff61f20015ad" := by
  decide

end Opzava.Library.Sha256
