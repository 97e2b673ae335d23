/-
Lobby/Json/Literal.lean

What stands between the quotes of a JSON string, and the text it denotes.

A literal is a row of bytes: characters in UTF-8 and escapes.  `scan` finds where a literal ends
and asks only that its escapes are spelled right; `text?` says which text it denotes, if any: a
surrogate that stands alone denotes nothing, nor do bytes that are not UTF-8.  `ofText` writes a
text, escaping the quote, the backslash and the characters below U+0020 and nothing else.
-/
import Lobby.Text.Utf8
import Lobby.Text.Hex

namespace Lobby.Json

open Lobby.Text

/-- A string literal without its quotes, as it stands in the text. -/
abbrev Literal := List UInt8

namespace Literal

/-! ### Finding the end of a literal -/

/-- The bytes that may follow a backslash, the four-digit form apart. -/
def shortEscape? (b : UInt8) : Option Char :=
  if b = 0x22 then some '"'
  else if b = 0x5C then some '\\'
  else if b = 0x2F then some '/'
  else if b = 0x62 then some '\x08'
  else if b = 0x66 then some '\x0C'
  else if b = 0x6E then some '\n'
  else if b = 0x72 then some '\r'
  else if b = 0x74 then some '\t'
  else none

/-- The number that four hexadecimal digits spell, and the bytes after them. -/
def unit? : List UInt8 → Option (Nat × List UInt8)
  | a :: b :: c :: d :: rest =>
    match Hex.value? a, Hex.value? b, Hex.value? c, Hex.value? d with
    | some a, some b, some c, some d => some (((a * 16 + b) * 16 + c) * 16 + d, rest)
    | _, _, _, _ => none
  | _ => none

/-- Splits the bytes after an opening quote into the literal and what follows the closing quote.
A control character ends in refusal, and so does an escape that is not spelled right. -/
def scan : List UInt8 → Option (Literal × List UInt8)
  | [] => none
  | b :: rest =>
    if b = 0x22 then some ([], rest)
    else if b < 0x20 then none
    else if b = 0x5C then
      match rest with
      | [] => none
      | e :: rest =>
        if e = 0x75 then
          match rest with
          | p :: q :: r :: s :: rest =>
            if (unit? [p, q, r, s]).isSome then
              (scan rest).map fun (l, after) => (b :: e :: p :: q :: r :: s :: l, after)
            else none
          | _ => none
        else if (shortEscape? e).isSome then
          (scan rest).map fun (l, after) => (b :: e :: l, after)
        else none
    else (scan rest).map fun (l, after) => (b :: l, after)

theorem scan_length_lt {bs after : List UInt8} {l : Literal} (h : scan bs = some (l, after)) :
    after.length < bs.length := by
  fun_induction scan bs generalizing l after with
  | case1 => exact absurd h (by simp)
  | case2 rest =>
    obtain ⟨-, rfl⟩ := Prod.mk.inj (Option.some.inj h)
    simp
  | case3 => exact absurd h (by simp)
  | case4 => exact absurd h (by simp)
  | case5 =>
    rename_i ih
    obtain ⟨⟨m, r⟩, hm, he⟩ := Option.map_eq_some_iff.mp h
    obtain ⟨-, rfl⟩ := Prod.mk.inj he
    have := ih hm
    simp only [List.length_cons]
    omega
  | case6 => exact absurd h (by simp)
  | case7 => exact absurd h (by simp)
  | case8 =>
    rename_i ih
    obtain ⟨⟨m, r⟩, hm, he⟩ := Option.map_eq_some_iff.mp h
    obtain ⟨-, rfl⟩ := Prod.mk.inj he
    have := ih hm
    simp only [List.length_cons]
    omega
  | case9 => exact absurd h (by simp)
  | case10 =>
    rename_i ih
    obtain ⟨⟨m, r⟩, hm, he⟩ := Option.map_eq_some_iff.mp h
    obtain ⟨-, rfl⟩ := Prod.mk.inj he
    have := ih hm
    simp only [List.length_cons]
    omega

/-! ### What a literal denotes -/

/-- The character of an escape with four digits, and the bytes after it: a leading surrogate
needs a trailing one in the next escape, and a trailing one never comes first. -/
def unicodeEscape? (bs : List UInt8) : Option (Char × List UInt8) :=
  match unit? bs with
  | none => none
  | some (u, rest) =>
    if 0xDC00 ≤ u ∧ u ≤ 0xDFFF then none
    else if 0xD800 ≤ u ∧ u ≤ 0xDBFF then
      match rest with
      | 0x5C :: 0x75 :: rest =>
        match unit? rest with
        | none => none
        | some (v, rest) =>
          if 0xDC00 ≤ v ∧ v ≤ 0xDFFF then
            some (Char.ofNat (0x10000 + (u - 0xD800) * 0x400 + (v - 0xDC00)), rest)
          else none
      | _ => none
    else some (Char.ofNat u, rest)

/-- The first character that a literal denotes, and the bytes after it. -/
def firstChar? : Literal → Option (Char × List UInt8)
  | 0x5C :: 0x75 :: rest => unicodeEscape? rest
  | 0x5C :: e :: rest => (shortEscape? e).map fun c => (c, rest)
  | bs => Utf8.readChar bs

theorem unit?_length {bs rest : List UInt8} {u : Nat} (h : unit? bs = some (u, rest)) :
    bs.length = rest.length + 4 := by
  unfold unit? at h
  split at h
  · split at h
    · obtain ⟨-, rfl⟩ := Prod.mk.inj (Option.some.inj h)
      simp
    · exact absurd h (by simp)
  · exact absurd h (by simp)

theorem unicodeEscape?_length_lt {bs rest : List UInt8} {c : Char}
    (h : unicodeEscape? bs = some (c, rest)) : rest.length < bs.length := by
  unfold unicodeEscape? at h
  split at h
  · exact absurd h (by simp)
  · rename_i u mid hu
    have hmid := unit?_length hu
    split at h
    · exact absurd h (by simp)
    · split at h
      · split at h
        · split at h
          · exact absurd h (by simp)
          · rename_i hv
            have hend := unit?_length hv
            split at h
            · obtain ⟨-, rfl⟩ := Prod.mk.inj (Option.some.inj h)
              simp only [List.length_cons] at hmid
              omega
            · exact absurd h (by simp)
        · exact absurd h (by simp)
      · obtain ⟨-, rfl⟩ := Prod.mk.inj (Option.some.inj h)
        omega

theorem firstChar?_length_lt {bs rest : List UInt8} {c : Char}
    (h : firstChar? bs = some (c, rest)) : rest.length < bs.length := by
  unfold firstChar? at h
  split at h
  · have := unicodeEscape?_length_lt h
    simp only [List.length_cons]
    omega
  · obtain ⟨d, -, hd⟩ := Option.map_eq_some_iff.mp h
    obtain ⟨-, rfl⟩ := Prod.mk.inj hd
    simp only [List.length_cons]
    omega
  · exact Utf8.readChar_length_lt h

/-- The characters that a literal denotes. -/
def chars? (l : Literal) : Option (List Char) :=
  match l with
  | [] => some []
  | b :: bs =>
    match _h : firstChar? (b :: bs) with
    | none => none
    | some (c, rest) => (chars? rest).map (c :: ·)
termination_by l.length
decreasing_by exact firstChar?_length_lt _h

/-- The text that a literal denotes. -/
def text? (l : Literal) : Option String := (chars? l).map String.ofList

/-! ### Writing a literal -/

/-- One character of a literal. -/
def escape (c : Char) : List UInt8 :=
  if c = '"' then [0x5C, 0x22]
  else if c = '\\' then [0x5C, 0x5C]
  else if c = '\x08' then [0x5C, 0x62]
  else if c = '\x0C' then [0x5C, 0x66]
  else if c = '\n' then [0x5C, 0x6E]
  else if c = '\r' then [0x5C, 0x72]
  else if c = '\t' then [0x5C, 0x74]
  else if c.toNat < 0x20 then
    [0x5C, 0x75, 0x30, 0x30] ++ Utf8.encode (Hex.pair (UInt8.ofNat c.toNat))
  else Utf8.bytesOf c

/-- The literal of a row of characters. -/
def ofChars (cs : List Char) : Literal := cs.flatMap escape

/-- The literal of a text. -/
def ofText (s : String) : Literal := ofChars s.toList

end Literal

end Lobby.Json
