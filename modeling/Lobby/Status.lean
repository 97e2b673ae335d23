/-
Lobby/Status.lean

The outcome that every response carries.
-/
import Lobby.Json.Codec

namespace Lobby

open Json (Codec Tree)

/-- The outcome of a request. -/
inductive Status where
  /-- The request succeeded. -/
  | ok
  /-- Wrong state of the session, wrong old password, no server for a map, or storage failed. -/
  | failure
  /-- The request needs a session that is logged in. -/
  | noLogin
  /-- Malformed or out of range, or credentials that do not match. -/
  | invalidArgument
  /-- The client is older than the oldest one admitted. -/
  | invalidVersion
  /-- As many sessions are logged in as are allowed. -/
  | serverFull
  /-- The account is banned. -/
  | banned
  /-- The username of a new account is taken. -/
  | usernameTaken
  /-- The e-mail address is in use. -/
  | emailTaken
  /-- The name of a new character is taken. -/
  | nameTaken
  /-- The account holds as many characters as it may. -/
  | tooManyCharacters
  | invalidHairStyle
  | invalidHairColor
  | invalidGender
  /-- The attributes of a new character sum up to more than it may have. -/
  | attributesTooHigh
  /-- The attributes of a new character sum up to less than it should have. -/
  | attributesTooLow
  /-- An attribute of a new character is zero. -/
  | attributeZero
deriving DecidableEq, Repr

namespace Status

/-- Whether the request succeeded. -/
def isOk (s : Status) : Bool := s = .ok

/-- All outcomes. -/
def all : List Status :=
  [ok, failure, noLogin, invalidArgument, invalidVersion, serverFull, banned, usernameTaken,
    emailTaken, nameTaken, tooManyCharacters, invalidHairStyle, invalidHairColor, invalidGender,
    attributesTooHigh, attributesTooLow, attributeZero]

/-- The name of an outcome on the wire. -/
def name : Status → String
  | ok => "Ok"
  | failure => "Failure"
  | noLogin => "NoLogin"
  | invalidArgument => "InvalidArgument"
  | invalidVersion => "InvalidVersion"
  | serverFull => "ServerFull"
  | banned => "Banned"
  | usernameTaken => "UsernameTaken"
  | emailTaken => "EmailTaken"
  | nameTaken => "NameTaken"
  | tooManyCharacters => "TooManyCharacters"
  | invalidHairStyle => "InvalidHairStyle"
  | invalidHairColor => "InvalidHairColor"
  | invalidGender => "InvalidGender"
  | attributesTooHigh => "AttributesTooHigh"
  | attributesTooLow => "AttributesTooLow"
  | attributeZero => "AttributeZero"

/-- The outcome of a given name. -/
def ofName? (s : String) : Option Status := all.find? (·.name = s)

theorem ofName?_name (s : Status) : ofName? s.name = some s := by
  cases s <;> decide

/-- The outcome that a value spells, where the whole text is kept or not. -/
def ofTree? (keptWhole : Bool) (t : Tree) : Option Status := (t.name? keptWhole).bind ofName?

instance : Codec Status where
  write s := .ofText s.name
  read? := ofTree? false

end Status

end Lobby
