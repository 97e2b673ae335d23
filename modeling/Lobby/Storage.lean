/-
Lobby/Storage.lean

Where accounts are kept.

`Backend` is what the lobby asks of a store.  A store may refuse to add, delete or write back; a
refusal comes without a new store, so it changes nothing.  `Storage` keeps accounts in memory,
with an index of their names beside the records.
-/
import Lobby.Account
import Lobby.Text.Quoted

namespace Lobby

/-! ### What is asked of a store -/

/-- Why a store refuses. -/
inductive StorageError where
  | notFound (a : AccountId)
  | nameTaken (name : String)
  | backend (reason : String)
deriving DecidableEq, Repr

/-- The text of a refusal. -/
def StorageError.message : StorageError → String
  | notFound a => "account " ++ a.text ++ " not found"
  | nameTaken name => "username " ++ Text.quoted name ++ " is taken"
  | backend reason => "backend failure: " ++ reason

/-- A store of accounts. -/
class Backend (σ : Type) where
  /-- The account of a name. -/
  findByName : σ → String → Option Account
  /-- The account of a number. -/
  findById : σ → AccountId → Option Account
  /-- Whether an account has an e-mail address. -/
  emailExists : σ → String → Bool
  /-- Whether a character of any account has a name. -/
  characterNameExists : σ → String → Bool
  /-- Keeps a new account under a new number. -/
  add : σ → Account → Except StorageError (AccountId × σ)
  /-- Deletes an account. -/
  delete : σ → AccountId → Except StorageError (Account × σ)
  /-- Writes an account back under its number. -/
  persist : σ → Account → Except StorageError σ

/-- The account of a name, if a password is its password. -/
def Backend.verify {σ : Type} [Backend σ] (s : σ) (name password : String) : Option Account :=
  (findByName s name).filter (·.checkPassword password)

/-- The characters of an account. -/
def Backend.characters {σ : Type} [Backend σ] (s : σ) (a : AccountId) : Option (List Character) :=
  (findById s a).map Account.characters

/-! ### A store in memory -/

/-- The accounts by number, the numbers by name, and the last number given.  That number goes up by one
with each account that is kept and never wraps: 64 bits last for more accounts than can be added. -/
structure Storage where
  accounts : KeyedList AccountId Account
  byName : KeyedList String AccountId
  lastId : Nat

namespace Storage

/-- No accounts. -/
def empty : Storage := ⟨.empty, .empty, 0⟩

/-- How many accounts there are. -/
def size (s : Storage) : Nat := s.accounts.size

/-- Whether there are no accounts. -/
def isEmpty (s : Storage) : Bool := s.accounts.isEmpty

/-- The account that the index has under a name. -/
def findByName (s : Storage) (name : String) : Option Account :=
  (s.byName.get? name).bind s.accounts.get?

/-- Whether an account has an e-mail address: addresses are compared by their digests. -/
def emailExists (s : Storage) (email : String) : Bool :=
  s.accounts.values.any fun a => a.emailDigest = digest email

/-- Whether a character of any account has a name. -/
def characterNameExists (s : Storage) (name : String) : Bool :=
  s.accounts.values.any fun a => a.characters.any fun c => c.name = name

/-- Keeps a new account under the next number, unless the index has its name. -/
def add (s : Storage) (a : Account) : Except StorageError (AccountId × Storage) :=
  if s.byName.contains a.name then .error (.nameTaken a.name)
  else
    let id : AccountId := ⟨s.lastId + 1⟩
    .ok (id,
      { accounts := s.accounts.insert id { a with id }
        byName := s.byName.insert a.name id
        lastId := s.lastId + 1 })

/-- Deletes an account, and its name from the index. -/
def delete (s : Storage) (id : AccountId) : Except StorageError (Account × Storage) :=
  match s.accounts.get? id with
  | none => .error (.notFound id)
  | some a =>
    .ok (a, { s with accounts := s.accounts.erase id, byName := s.byName.erase a.name })

/-- Writes an account back under its number.  The index of names stays as it is. -/
def persist (s : Storage) (a : Account) : Except StorageError Storage :=
  match s.accounts.get? a.id with
  | none => .error (.notFound a.id)
  | some _ => .ok { s with accounts := s.accounts.insert a.id a }

instance : Backend Storage where
  findByName := findByName
  findById s id := s.accounts.get? id
  emailExists := emailExists
  characterNameExists := characterNameExists
  add := add
  delete := delete
  persist := persist

end Storage

end Lobby
