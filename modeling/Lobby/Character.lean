/-
Lobby/Character.lean

Characters, and what a client sees of them.
-/
import Lobby.Place

namespace Lobby

open Json (Codec Shape)

/-- The six attributes: strength, agility, dexterity, vitality, intelligence, willpower. -/
abbrev Attributes := Vector UInt16 6

/-- A character. -/
structure Character where
  name : String
  gender : UInt8
  hairStyle : UInt8
  hairColor : UInt8
  level : UInt8
  experience : UInt32
  /-- Points that may still be spent on attributes. -/
  correctionPoints : UInt16
  money : UInt32
  attributes : Attributes
  map : MapId
  position : Position
deriving DecidableEq, Repr

/-- What a client sees of a character, and the slot it is listed under. -/
structure CharacterSummary where
  slot : UInt8
  name : String
  gender : UInt8
  hairStyle : UInt8
  hairColor : UInt8
  level : UInt8
  experience : UInt32
  correctionPoints : UInt16
  money : UInt32
  attributes : Attributes
deriving DecidableEq, Repr

/-- What a client sees of a character in a slot. -/
def Character.summary (c : Character) (slot : UInt8) : CharacterSummary :=
  ⟨slot, c.name, c.gender, c.hairStyle, c.hairColor, c.level, c.experience, c.correctionPoints,
    c.money, c.attributes⟩

/-! ### On the wire -/

/-- How a character is written. -/
def Character.shape : Shape :=
  ⟨["name", "gender", "hair_style", "hair_color", "level", "experience", "correction_points",
    "money", "attributes", "map", "position"], false, false⟩

instance : Codec Character where
  write c := .record Character.shape
    [Json.write c.name, Json.write c.gender, Json.write c.hairStyle, Json.write c.hairColor,
      Json.write c.level, Json.write c.experience, Json.write c.correctionPoints,
      Json.write c.money, Json.write c.attributes, Json.write c.map, Json.write c.position]
  read? t := do
    let [name, gender, hairStyle, hairColor, level, experience, correctionPoints, money,
      attributes, map, position] ← t.slots? Character.shape | none
    return ⟨← Json.required name, ← Json.required gender, ← Json.required hairStyle,
      ← Json.required hairColor, ← Json.required level, ← Json.required experience,
      ← Json.required correctionPoints, ← Json.required money, ← Json.required attributes,
      ← Json.required map, ← Json.required position⟩

/-- How a summary is written. -/
def CharacterSummary.shape : Shape :=
  ⟨["slot", "name", "gender", "hair_style", "hair_color", "level", "experience",
    "correction_points", "money", "attributes"], false, false⟩

instance : Codec CharacterSummary where
  write c := .record CharacterSummary.shape
    [Json.write c.slot, Json.write c.name, Json.write c.gender, Json.write c.hairStyle,
      Json.write c.hairColor, Json.write c.level, Json.write c.experience,
      Json.write c.correctionPoints, Json.write c.money, Json.write c.attributes]
  read? t := do
    let [slot, name, gender, hairStyle, hairColor, level, experience, correctionPoints, money,
      attributes] ← t.slots? CharacterSummary.shape | none
    return ⟨← Json.required slot, ← Json.required name, ← Json.required gender,
      ← Json.required hairStyle, ← Json.required hairColor, ← Json.required level,
      ← Json.required experience, ← Json.required correctionPoints, ← Json.required money,
      ← Json.required attributes⟩

end Lobby
