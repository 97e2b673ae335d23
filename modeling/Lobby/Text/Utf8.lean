/-
Lobby/Text/Utf8.lean

Characters as bytes.

A character is read by **proposing and checking**: the first byte says how many bytes to take,
their low bits propose a character, and the proposal stands only if writing it gives those very
bytes.  So overlong forms, surrogates and numbers past the last character are refused without a
rule of their own, and what is read is always what was written.
-/
namespace Lobby.Text.Utf8

/-- The bytes of one character. -/
def bytesOf (c : Char) : List UInt8 := String.utf8EncodeChar c

/-- The bytes of a text. -/
def encode (cs : List Char) : List UInt8 := cs.flatMap bytesOf

/-- How many bytes a character has whose first byte is `b`. -/
def width (b : UInt8) : Nat :=
  if b < 0x80 then 1 else if b < 0xE0 then 2 else if b < 0xF0 then 3 else 4

/-- The number that the low bits of the bytes of one character spell. -/
def proposal : List UInt8 → Nat
  | [a] => a.toNat
  | [a, b] => a.toNat % 32 * 64 + b.toNat % 64
  | [a, b, c] => (a.toNat % 16 * 64 + b.toNat % 64) * 64 + c.toNat % 64
  | [a, b, c, d] => ((a.toNat % 8 * 64 + b.toNat % 64) * 64 + c.toNat % 64) * 64 + d.toNat % 64
  | _ => 0

/-- The first character of a row of bytes, and the bytes after it. -/
def readChar (bs : List UInt8) : Option (Char × List UInt8) :=
  match bs with
  | [] => none
  | b :: _ =>
    let c := Char.ofNat (proposal (bs.take (width b)))
    if bytesOf c = bs.take (width b) then some (c, bs.drop (width b)) else none

theorem width_pos (b : UInt8) : 0 < width b := by
  unfold width
  split
  · omega
  · split
    · omega
    · split <;> omega

/-- What is read is what was written: the bytes are those of the character and the rest. -/
theorem eq_append_of_readChar {bs rest : List UInt8} {c : Char}
    (h : readChar bs = some (c, rest)) : bs = bytesOf c ++ rest := by
  cases bs with
  | nil => simp [readChar] at h
  | cons b tail =>
    simp only [readChar] at h
    split at h
    · rename_i hb
      obtain ⟨rfl, rfl⟩ := Prod.mk.inj (Option.some.inj h)
      rw [hb, List.take_append_drop]
    · exact absurd h (by simp)

theorem readChar_length_lt {bs rest : List UInt8} {c : Char}
    (h : readChar bs = some (c, rest)) : rest.length < bs.length := by
  cases bs with
  | nil => simp [readChar] at h
  | cons b tail =>
    simp only [readChar] at h
    split at h
    · obtain ⟨-, rfl⟩ := Prod.mk.inj (Option.some.inj h)
      have := width_pos b
      simp only [List.length_drop, List.length_cons]
      omega
    · exact absurd h (by simp)

end Lobby.Text.Utf8
