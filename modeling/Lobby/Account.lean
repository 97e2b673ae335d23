/-
Lobby/Account.lean

Accounts.  The storage owns the records; whoever needs one looks it up by its number again.
-/
import Lobby.Character
import Lobby.Digest.Sha256
import Lobby.Time

namespace Lobby

open Json (Codec Tree Shape)

/-! ### Access levels -/

/-- What an account may do, from least to most. -/
inductive AccessLevel where
  | banned
  | restricted
  | normal
  | gameMaster
  | admin
deriving DecidableEq, Repr

namespace AccessLevel

/-- All levels, from least to most. -/
def all : List AccessLevel := [banned, restricted, normal, gameMaster, admin]

/-- The name of a level on the wire. -/
def name : AccessLevel → String
  | banned => "Banned"
  | restricted => "Restricted"
  | normal => "Normal"
  | gameMaster => "GameMaster"
  | admin => "Admin"

/-- The level of a given name. -/
def ofName? (s : String) : Option AccessLevel := all.find? (·.name = s)

theorem ofName?_name (l : AccessLevel) : ofName? l.name = some l := by
  cases l <;> decide

/-- The place of a level in the order. -/
def rank : AccessLevel → Nat
  | banned => 0
  | restricted => 1
  | normal => 2
  | gameMaster => 3
  | admin => 4

instance : Ord AccessLevel := ⟨fun a b => compare a.rank b.rank⟩

/-- The level of a new account. -/
instance : Inhabited AccessLevel := ⟨normal⟩

instance : Codec AccessLevel where
  write l := .ofText l.name
  read? t := (t.name? false).bind ofName?

end AccessLevel

/-! ### Accounts -/

/-- How many characters an account may hold. -/
def maxCharacters : Nat := 5

/-- The record of an account. -/
structure Account where
  id : AccountId
  name : String
  passwordDigest : String
  emailDigest : String
  level : AccessLevel
  /-- The characters; the place of a character is its slot. -/
  characters : List Character
  registeredAt : Timestamp
  lastLogin : Option Timestamp
deriving DecidableEq, Repr

namespace Account

/-- A new account.  Its number is a placeholder until the storage gives it one. -/
def create (name password email : String) (now : Timestamp) : Account :=
  ⟨⟨0⟩, name, digest password, digest email, default, [], now, none⟩

/-- Whether a password is that of the account. -/
def checkPassword (a : Account) (password : String) : Bool := a.passwordDigest = digest password

/-- The account with another password. -/
def setPassword (a : Account) (password : String) : Account :=
  { a with passwordDigest := digest password }

/-- The account with another e-mail address. -/
def setEmail (a : Account) (email : String) : Account := { a with emailDigest := digest email }

/-- Whether the account is banned. -/
def isBanned (a : Account) : Bool := a.level = .banned

/-- One summary for every slot, in the order of the slots.  Slots have eight bits. -/
def summaries (a : Account) : List CharacterSummary :=
  a.characters.mapIdx fun slot c => c.summary (UInt8.ofNat slot)

/-- How an account is written. -/
def shape : Shape :=
  ⟨["id", "name", "password_digest", "email_digest", "level", "characters", "registered_at",
    "last_login"], false, false⟩

instance : Codec Account where
  write a := .record shape
    [Json.write a.id, Json.write a.name, Json.write a.passwordDigest, Json.write a.emailDigest,
      Json.write a.level, Json.write a.characters, Json.write a.registeredAt,
      Json.write a.lastLogin]
  read? t := do
    let [id, name, passwordDigest, emailDigest, level, characters, registeredAt, lastLogin] ←
      t.slots? shape | none
    return ⟨← Json.required id, ← Json.required name, ← Json.required passwordDigest,
      ← Json.required emailDigest, ← Json.required level, ← Json.required characters,
      ← Json.required registeredAt, ← Json.optional lastLogin⟩

end Account

end Lobby
