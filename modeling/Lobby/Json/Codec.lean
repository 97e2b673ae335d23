/-
Lobby/Json/Codec.lean

How the values of a type are written as JSON and read back.

Records are described once, by the names of their fields, and may be read in two forms: as an
object, whose members come in any order, and as an array of the values in the order of the fields.
`Tree.slots?` brings both into one form, a row with one slot for every field; a record's reader
then takes each slot as required, optional or defaulted.

Values with a tag (`Tree.tagged`, `Tree.tag?`) are kept whole while they are read: for those every
literal of the text has to denote something and nesting is limited, also in members nobody reads.
-/
import Lobby.Json.Tree

namespace Lobby.Json

/-- A type whose values are written as JSON and read back. -/
class Codec (α : Type) where
  /-- The JSON value of a value. -/
  write : α → Tree
  /-- The value that a JSON value spells, if it spells one. -/
  read? : Tree → Option α
  /-- Whether a text is kept whole while a value is read from it. -/
  keepsWhole : Bool := false

export Codec (write read?)

/-- The text of a value. -/
def encode {α : Type} [Codec α] (a : α) : List UInt8 := (write a).render

/-- The value that a text spells. -/
def decode (α : Type) [Codec α] (text : List UInt8) : Option α :=
  match Token.scanAll text with
  | none => none
  | some ts =>
    if Codec.keepsWhole α && !Token.sound ts then none
    else (Tree.ofTokens? ts).bind read?

/-! ### Plain values -/

namespace Tree

/-- The integer that a value spells. -/
def int? : Tree → Option Int
  | .number n => n.int?
  | _ => none

/-- The natural number below a bound that a value spells. -/
def natBelow? (bound : Nat) (t : Tree) : Option Nat :=
  t.int?.bind fun i => if 0 ≤ i ∧ i < bound then some i.toNat else none

/-- The text that a value spells. -/
def text? : Tree → Option String
  | .string l => l.text?
  | _ => none

/-- A text as a value. -/
def ofText (s : String) : Tree := .string (.ofText s)

/-- An integer as a value. -/
def ofInt (i : Int) : Tree := .number (.ofInt i)

end Tree

instance : Codec String := ⟨Tree.ofText, Tree.text?, false⟩

instance : Codec UInt8 :=
  ⟨fun n => .ofInt n.toNat, fun t => (t.natBelow? UInt8.size).map UInt8.ofNat, false⟩

instance : Codec UInt16 :=
  ⟨fun n => .ofInt n.toNat, fun t => (t.natBelow? UInt16.size).map UInt16.ofNat, false⟩

instance : Codec UInt32 :=
  ⟨fun n => .ofInt n.toNat, fun t => (t.natBelow? UInt32.size).map UInt32.ofNat, false⟩

instance : Codec UInt64 :=
  ⟨fun n => .ofInt n.toNat, fun t => (t.natBelow? UInt64.size).map UInt64.ofNat, false⟩

instance : Codec Int32 where
  write i := .ofInt i.toInt
  read? t := t.int?.bind fun i =>
    if Int32.minValue.toInt ≤ i ∧ i ≤ Int32.maxValue.toInt then some (Int32.ofInt i) else none

/-- An absent value is a `null`. -/
instance {α : Type} [Codec α] : Codec (Option α) where
  write
    | none => .null
    | some a => write a
  read?
    | .null => some none
    | t => (read? t).map some

instance {α : Type} [Codec α] : Codec (List α) where
  write as := .array (as.map write)
  read?
    | .array items => items.mapM read?
    | _ => none

/-- A row of fixed length. -/
instance {α : Type} [Codec α] {n : Nat} : Codec (Vector α n) where
  write v := .array (v.toList.map write)
  read?
    | .array items =>
      (items.mapM read?).bind fun as => if h : as.length = n then some ⟨as.toArray, h⟩ else none
    | _ => none

/-! ### Records -/

/-- What a record looks like: its fields in order, whether members of other names are refused, and
whether the last items of its array form may be missing. -/
structure Shape where
  fields : List String
  refusesOthers : Bool := false
  mayEndEarly : Bool := false

/-- Gives every member the text of its name. -/
def named? (members : List (Literal × Tree)) : Option (List (String × Tree)) :=
  members.mapM fun m => m.1.text?.map (·, m.2)

/-- What an object holds under a name: nothing, or one value.  Two are refused. -/
def slot? (members : List (String × Tree)) (name : String) : Option (Option Tree) :=
  match members.filter (·.1 = name) with
  | [] => some none
  | [m] => some (some m.2)
  | _ => none

/-- One slot for every field of a record, filled where the value has something for the field. -/
def Tree.slots? (t : Tree) (shape : Shape) : Option (List (Option Tree)) :=
  match t with
  | .array items =>
    if items.length = shape.fields.length then some (items.map some)
    else if shape.mayEndEarly && decide (items.length < shape.fields.length) then
      some (items.map some ++ List.replicate (shape.fields.length - items.length) none)
    else none
  | .object members =>
    match named? members with
    | none => none
    | some named =>
      if shape.refusesOthers && named.any (fun m => !shape.fields.contains m.1) then none
      else shape.fields.mapM (slot? named)
  | _ => none

/-- A record as an object with its fields in order. -/
def Tree.record (shape : Shape) (values : List Tree) : Tree :=
  .object ((shape.fields.map Literal.ofText).zip values)

/-- The value of a field that has to be there. -/
def required {α : Type} [Codec α] (slot : Option Tree) : Option α := slot.bind read?

/-- The value of a field that is absent when it is missing. -/
def optional {α : Type} [Codec α] (slot : Option Tree) : Option (Option α) :=
  match slot with
  | none => some none
  | some t => read? t

/-- The value of a field that has a default. -/
def defaulted {α : Type} [Codec α] (default : α) (slot : Option Tree) : Option α :=
  match slot with
  | none => some default
  | some t => read? t

/-! ### Values with a tag, and names -/

/-- A value with a tag: an object whose first member is the tag. -/
def Tree.tagged (tag : String) (fields : List String) (values : List Tree) : Tree :=
  .object ((Literal.ofText "type", .ofText tag) :: (fields.map Literal.ofText).zip values)

/-- The tag of a value, and the rest of the value.  The tag of an object is its member `type`,
wherever it stands; that of an array is its first item. -/
def Tree.tag? : Tree → Option (String × Tree)
  | .array (tag :: items) => tag.text?.map (·, .array items)
  | .object members =>
    match named? members with
    | none => none
    | some named =>
      match slot? named "type" with
      | some (some tag) =>
        tag.text?.map (·, .object (members.filter fun m => m.1.text? != some "type"))
      | _ => none
  | _ => none

/-- The name that a value spells where one of several names is asked for: a text, or an object
that holds `null` under that name.  Where values are kept whole an empty object does for the
`null`. -/
def Tree.name? (keptWhole : Bool) : Tree → Option String
  | .string l => l.text?
  | .object [(key, .null)] => key.text?
  | .object [(key, .object [])] => if keptWhole then key.text? else none
  | _ => none

end Lobby.Json
