/-
Lobby/Digest/Sha256.lean

The hash function SHA-256 on rows of bytes.

The message is padded to blocks of 64 bytes, each block is stretched to 64 words, and 64 rounds
mix them into eight words of state.
-/
import Lobby.Text.Hex
import Lobby.Text.Utf8

namespace Lobby.Digest.Sha256

/-- The eight words of state. -/
structure State where
  a : UInt32
  b : UInt32
  c : UInt32
  d : UInt32
  e : UInt32
  f : UInt32
  g : UInt32
  h : UInt32

/-- The state before the first block: fractional parts of the square roots of the first eight
primes. -/
def start : State :=
  ⟨0x6A09E667, 0xBB67AE85, 0x3C6EF372, 0xA54FF53A, 0x510E527F, 0x9B05688C, 0x1F83D9AB, 0x5BE0CD19⟩

/-- The constants of the rounds: fractional parts of the cube roots of the first 64 primes. -/
def constants : List UInt32 :=
  [0x428A2F98, 0x71374491, 0xB5C0FBCF, 0xE9B5DBA5, 0x3956C25B, 0x59F111F1, 0x923F82A4, 0xAB1C5ED5,
    0xD807AA98, 0x12835B01, 0x243185BE, 0x550C7DC3, 0x72BE5D74, 0x80DEB1FE, 0x9BDC06A7, 0xC19BF174,
    0xE49B69C1, 0xEFBE4786, 0x0FC19DC6, 0x240CA1CC, 0x2DE92C6F, 0x4A7484AA, 0x5CB0A9DC, 0x76F988DA,
    0x983E5152, 0xA831C66D, 0xB00327C8, 0xBF597FC7, 0xC6E00BF3, 0xD5A79147, 0x06CA6351, 0x14292967,
    0x27B70A85, 0x2E1B2138, 0x4D2C6DFC, 0x53380D13, 0x650A7354, 0x766A0ABB, 0x81C2C92E, 0x92722C85,
    0xA2BFE8A1, 0xA81A664B, 0xC24B8B70, 0xC76C51A3, 0xD192E819, 0xD6990624, 0xF40E3585, 0x106AA070,
    0x19A4C116, 0x1E376C08, 0x2748774C, 0x34B0BCB5, 0x391C0CB3, 0x4ED8AA4A, 0x5B9CCA4F, 0x682E6FF3,
    0x748F82EE, 0x78A5636F, 0x84C87814, 0x8CC70208, 0x90BEFFFA, 0xA4506CEB, 0xBEF9A3F7, 0xC67178F2]

/-- Turns a word to the right. -/
def turn (x n : UInt32) : UInt32 := (x >>> n) ||| (x <<< (32 - n))

/-- One round with its constant and its word of the block. -/
def round (s : State) (k w : UInt32) : State :=
  let high := turn s.e 6 ^^^ turn s.e 11 ^^^ turn s.e 25
  let choice := (s.e &&& s.f) ^^^ (~~~s.e &&& s.g)
  let first := s.h + high + choice + k + w
  let low := turn s.a 2 ^^^ turn s.a 13 ^^^ turn s.a 22
  let majority := (s.a &&& s.b) ^^^ (s.a &&& s.c) ^^^ (s.b &&& s.c)
  ⟨first + (low + majority), s.a, s.b, s.c, s.d + first, s.e, s.f, s.g⟩

/-- A word from its bytes, the highest first. -/
def word (a b c d : UInt8) : UInt32 :=
  (a.toUInt32 <<< 24) ||| (b.toUInt32 <<< 16) ||| (c.toUInt32 <<< 8) ||| d.toUInt32

/-- The bytes of a word, the highest first. -/
def bytes (w : UInt32) : List UInt8 :=
  [(w >>> 24).toUInt8, (w >>> 16).toUInt8, (w >>> 8).toUInt8, w.toUInt8]

/-- The words of a block. -/
def words : List UInt8 → List UInt32
  | a :: b :: c :: d :: rest => word a b c d :: words rest
  | _ => []

/-- The next word of the stretched block, from the sixteen words before it, latest first. -/
def next (window : List UInt32) : UInt32 :=
  let w2 := window.getD 1 0
  let w7 := window.getD 6 0
  let w15 := window.getD 14 0
  let w16 := window.getD 15 0
  (turn w2 17 ^^^ turn w2 19 ^^^ (w2 >>> 10)) + w7
    + (turn w15 7 ^^^ turn w15 18 ^^^ (w15 >>> 3)) + w16

/-- Stretches a block by a number of words; the words stand latest first. -/
def stretch : Nat → List UInt32 → List UInt32
  | 0, ws => ws
  | n + 1, ws => stretch n (next ws :: ws)

/-- One block. -/
def block (s : State) (bs : List UInt8) : State :=
  let ws := (stretch 48 (words bs).reverse).reverse
  let t := (constants.zip ws).foldl (fun t kw => round t kw.1 kw.2) s
  ⟨s.a + t.a, s.b + t.b, s.c + t.c, s.d + t.d, s.e + t.e, s.f + t.f, s.g + t.g, s.h + t.h⟩

/-- The bytes of a length in bits, in 64 bits. -/
def lengthBytes (n : Nat) : List UInt8 :=
  let bits := 8 * n
  (List.range 8).map fun i => UInt8.ofNat (bits >>> (8 * (7 - i)) % 256)

/-- A message with its end mark, zeros and its length, a whole number of blocks. -/
def padded (bs : List UInt8) : List UInt8 :=
  bs ++ 0x80 :: List.replicate ((119 - bs.length % 64) % 64) 0 ++ lengthBytes bs.length

/-- All blocks of a padded message; `count` of them. -/
def blocks : Nat → State → List UInt8 → State
  | 0, s, _ => s
  | count + 1, s, bs => blocks count (block s (bs.take 64)) (bs.drop 64)

/-- The 32 bytes of the hash of a message. -/
def hash (bs : List UInt8) : List UInt8 :=
  let message := padded bs
  let s := blocks (message.length / 64) start message
  [s.a, s.b, s.c, s.d, s.e, s.f, s.g, s.h].flatMap bytes

end Lobby.Digest.Sha256

namespace Lobby

/-- The hash of a text in lower-case hexadecimal.  Passwords and e-mail addresses are stored and
compared in this form only. -/
def digest (s : String) : String :=
  Text.Hex.ofBytes (Digest.Sha256.hash (Text.Utf8.encode s.toList))

end Lobby
