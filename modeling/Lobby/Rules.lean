/-
Lobby/Rules.lean

The rules for what clients may choose: names, passwords, e-mail addresses, looks and attributes.
Lengths count characters, not bytes.
-/
import Lobby.Character
import Lobby.Status
import Lobby.Text.Blank

namespace Lobby.Rules

/-! ### Texts -/

/-- Whether a text holds a double quote, which no name or password may. -/
def hasQuote (s : String) : Bool := s.toList.contains '"'

/-- Whether a text has at least and at most so many characters. -/
def lengthWithin (s : String) (least most : Nat) : Bool :=
  least ≤ s.length && s.length ≤ most

/-- Usernames have 4 to 16 characters. -/
def validUsername (s : String) : Bool := !hasQuote s && lengthWithin s 4 16

/-- Passwords have 4 to 25 characters. -/
def validPassword (s : String) : Bool := !hasQuote s && lengthWithin s 4 25

/-- Names of characters have 4 to 25 characters. -/
def validCharacterName (s : String) : Bool := !hasQuote s && lengthWithin s 4 25

/-! ### E-mail addresses -/

/-- Splits a row at the first place of a character, which is dropped. -/
def splitAtFirst? (sep : Char) : List Char → Option (List Char × List Char)
  | [] => none
  | c :: cs => if c = sep then some ([], cs) else (splitAtFirst? sep cs).map fun (a, b) => (c :: a, b)

/-- The parts of a row between the places of a character; there is one more part than places. -/
def labels (sep : Char) : List Char → List (List Char)
  | [] => [[]]
  | c :: cs =>
    if c = sep then [] :: labels sep cs
    else
      match labels sep cs with
      | [] => [[c]]
      | l :: ls => (c :: l) :: ls

/-- E-mail addresses: no quote, no white space, something before the first at sign, and after it a
domain without another at sign that has at least one dot and no empty label. -/
def validEmail (s : String) : Bool :=
  !hasQuote s && !s.toList.any Text.isBlank &&
    match splitAtFirst? '@' s.toList with
    | none => false
    | some (localPart, domain) =>
      !localPart.isEmpty && !domain.contains '@' && domain.contains '.' &&
        (labels '.' domain).all fun l => !l.isEmpty

/-! ### Looks and attributes -/

/-- The first rule that the looks of a new character break. -/
def checkAppearance (hairStyle hairColor gender : UInt8) : Except Status Unit :=
  if 7 < hairStyle then .error .invalidHairStyle
  else if 11 < hairColor then .error .invalidHairColor
  else if 1 < gender then .error .invalidGender
  else .ok ()

/-- The sum of all attributes. -/
def attributeSum (a : Attributes) : Nat := a.toList.foldl (fun sum x => sum + x.toNat) 0

/-- The sum that the attributes of a new character have. -/
def startingPoints : Nat := 60

/-- The first rule that the attributes of a new character break. -/
def checkAttributes (a : Attributes) : Except Status Unit :=
  if startingPoints < attributeSum a then .error .attributesTooHigh
  else if attributeSum a < startingPoints then .error .attributesTooLow
  else if a.toList.contains 0 then .error .attributeZero
  else .ok ()

end Lobby.Rules
