/-
Lobby/Json/Token.lean

The tokens of a JSON text: the six marks, the three words, numbers and strings, with blanks
between them.

`scanAll` cuts a text into tokens.  It is lenient about what literals denote: a string is cut at
its closing quote and a number after its last digit.  `sound` asks for more, that every literal
denotes something and that brackets nest at most `maxNesting` deep.
-/
import Lobby.Json.Literal
import Lobby.Json.Number

namespace Lobby.Json

/-- A token of a JSON text. -/
inductive Token where
  | openObject
  | closeObject
  | openArray
  | closeArray
  | comma
  | colon
  | null
  | bool (b : Bool)
  | number (n : Number)
  | string (l : Literal)
deriving DecidableEq, Repr

namespace Token

/-! ### Cutting a text into tokens -/

/-- The blanks between tokens: space, tab, line feed and carriage return. -/
def isBlank (b : UInt8) : Bool := b == 0x20 || b == 0x09 || b == 0x0A || b == 0x0D

/-- The bytes after a given word, if the row starts with it. -/
def afterWord? (word bs : List UInt8) : Option (List UInt8) :=
  if bs.take word.length = word then some (bs.drop word.length) else none

/-- The mark that a byte stands for. -/
def mark? (b : UInt8) : Option Token :=
  if b = 0x7B then some .openObject
  else if b = 0x7D then some .closeObject
  else if b = 0x5B then some .openArray
  else if b = 0x5D then some .closeArray
  else if b = 0x2C then some .comma
  else if b = 0x3A then some .colon
  else none

/-- The token that starts with the byte `b`, and the bytes after it. -/
def scan (b : UInt8) (rest : List UInt8) : Option (Token × List UInt8) :=
  match mark? b with
  | some t => some (t, rest)
  | none =>
    if b = 0x6E then (afterWord? [0x75, 0x6C, 0x6C] rest).map (.null, ·)
    else if b = 0x74 then (afterWord? [0x72, 0x75, 0x65] rest).map (.bool true, ·)
    else if b = 0x66 then (afterWord? [0x61, 0x6C, 0x73, 0x65] rest).map (.bool false, ·)
    else if b = 0x22 then (Literal.scan rest).map fun (l, after) => (.string l, after)
    else (Number.scan (b :: rest)).map fun (n, after) => (.number n, after)

theorem afterWord?_length_le {word bs rest : List UInt8} (h : afterWord? word bs = some rest) :
    rest.length ≤ bs.length := by
  unfold afterWord? at h
  split at h
  · obtain rfl := Option.some.inj h
    simp only [List.length_drop]
    omega
  · exact absurd h (by simp)

theorem scan_length_le {b : UInt8} {rest after : List UInt8} {t : Token}
    (h : scan b rest = some (t, after)) : after.length ≤ rest.length := by
  unfold scan at h
  split at h
  · obtain ⟨-, rfl⟩ := Prod.mk.inj (Option.some.inj h)
    exact Nat.le_refl _
  · split at h
    · obtain ⟨r, hr, he⟩ := Option.map_eq_some_iff.mp h
      obtain ⟨-, rfl⟩ := Prod.mk.inj he
      exact afterWord?_length_le hr
    · split at h
      · obtain ⟨r, hr, he⟩ := Option.map_eq_some_iff.mp h
        obtain ⟨-, rfl⟩ := Prod.mk.inj he
        exact afterWord?_length_le hr
      · split at h
        · obtain ⟨r, hr, he⟩ := Option.map_eq_some_iff.mp h
          obtain ⟨-, rfl⟩ := Prod.mk.inj he
          exact afterWord?_length_le hr
        · split at h
          · obtain ⟨⟨l, r⟩, hr, he⟩ := Option.map_eq_some_iff.mp h
            obtain ⟨-, rfl⟩ := Prod.mk.inj he
            exact Nat.le_of_lt (Literal.scan_length_lt hr)
          · obtain ⟨⟨n, r⟩, hr, he⟩ := Option.map_eq_some_iff.mp h
            obtain ⟨-, rfl⟩ := Prod.mk.inj he
            have := Number.scan_length_lt hr
            simp only [List.length_cons] at this
            omega

/-- The tokens of a text, `none` if it cannot be cut into tokens. -/
def scanAll (bs : List UInt8) : Option (List Token) :=
  match bs with
  | [] => some []
  | b :: rest =>
    if isBlank b then scanAll rest
    else
      match _h : scan b rest with
      | none => none
      | some (t, after) => (scanAll after).map (t :: ·)
termination_by bs.length
decreasing_by
  · simp
  · have := scan_length_le _h
    simp only [List.length_cons]
    omega

/-! ### Soundness -/

/-- How deep brackets may nest where a whole text is kept. -/
def maxNesting : Nat := 127

/-- Whether no bracket opens inside `maxNesting` open ones, when `depth` are open already. -/
def nestsWithin (depth : Nat) : List Token → Bool
  | [] => true
  | .openObject :: ts => depth < maxNesting && nestsWithin (depth + 1) ts
  | .openArray :: ts => depth < maxNesting && nestsWithin (depth + 1) ts
  | .closeObject :: ts => nestsWithin (depth - 1) ts
  | .closeArray :: ts => nestsWithin (depth - 1) ts
  | _ :: ts => nestsWithin depth ts

/-- Whether a literal denotes something. -/
def denotes : Token → Bool
  | .number n => n.inRange
  | .string l => l.text?.isSome
  | _ => true

/-- Whether a whole text can be kept: every literal denotes something and brackets do not nest
too deep. -/
def sound (ts : List Token) : Bool := ts.all denotes && nestsWithin 0 ts

/-! ### Writing -/

/-- The bytes of a token. -/
def render : Token → List UInt8
  | .openObject => [0x7B]
  | .closeObject => [0x7D]
  | .openArray => [0x5B]
  | .closeArray => [0x5D]
  | .comma => [0x2C]
  | .colon => [0x3A]
  | .null => [0x6E, 0x75, 0x6C, 0x6C]
  | .bool true => [0x74, 0x72, 0x75, 0x65]
  | .bool false => [0x66, 0x61, 0x6C, 0x73, 0x65]
  | .number n => n.render
  | .string l => 0x22 :: l ++ [0x22]

end Token

end Lobby.Json
