/-
Lobby/Text/Blank.lean

White space in the sense of the Unicode property White_Space: twenty-five characters, among them
the two line ends U+0085 and U+2028 that an ASCII rule would miss.
-/
namespace Lobby.Text

/-- The characters of the Unicode property White_Space, as closed ranges of code points. -/
def blankRanges : List (Nat × Nat) :=
  [(0x9, 0xD), (0x20, 0x20), (0x85, 0x85), (0xA0, 0xA0), (0x1680, 0x1680), (0x2000, 0x200A),
    (0x2028, 0x2029), (0x202F, 0x202F), (0x205F, 0x205F), (0x3000, 0x3000)]

/-- Whether a character is white space. -/
def isBlank (c : Char) : Bool :=
  blankRanges.any fun r => r.1 ≤ c.toNat && c.toNat ≤ r.2

end Lobby.Text
