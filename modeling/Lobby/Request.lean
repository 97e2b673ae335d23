/-
Lobby/Request.lean

What a client may ask for.

On the wire a request carries its kind as a tag, so its text is kept whole while it is read: an
ill-spelled literal or too deep a nesting refuses the request even in a member that it does not
have.
-/
import Lobby.Character

namespace Lobby

open Json (Codec Tree Shape)

/-- A request of a client. -/
inductive Request where
  | login (clientVersion : UInt32) (username password : String)
  | logout
  /-- Resumes an account's session with a token handed out elsewhere. -/
  | reconnect (token : String)
  | register (clientVersion : UInt32) (username password email : String)
  /-- Deletes an account, from a session that is logged out. -/
  | unregister (username password : String)
  | emailChange (email : String)
  | emailGet
  | passwordChange (oldPassword newPassword : String)
  | characterCreate (name : String) (hairStyle hairColor gender : UInt8) (attributes : Attributes)
  | characterSelect (slot : UInt8)
  | characterDelete (slot : UInt8)
deriving DecidableEq, Repr

namespace Request

/-- The kind of a request: its tag on the wire. -/
def kind : Request → String
  | login .. => "Login"
  | logout => "Logout"
  | reconnect .. => "Reconnect"
  | register .. => "Register"
  | unregister .. => "Unregister"
  | emailChange .. => "EmailChange"
  | emailGet => "EmailGet"
  | passwordChange .. => "PasswordChange"
  | characterCreate .. => "CharacterCreate"
  | characterSelect .. => "CharacterSelect"
  | characterDelete .. => "CharacterDelete"

/-- The fields of the requests of a kind. -/
def fields : String → List String
  | "Login" => ["client_version", "username", "password"]
  | "Reconnect" => ["token"]
  | "Register" => ["client_version", "username", "password", "email"]
  | "Unregister" => ["username", "password"]
  | "EmailChange" => ["email"]
  | "PasswordChange" => ["old_password", "new_password"]
  | "CharacterCreate" => ["name", "hair_style", "hair_color", "gender", "attributes"]
  | "CharacterSelect" => ["slot"]
  | "CharacterDelete" => ["slot"]
  | _ => []

/-- The values of a request's fields. -/
def values : Request → List Tree
  | login v u p => [Json.write v, Json.write u, Json.write p]
  | logout => []
  | reconnect t => [Json.write t]
  | register v u p e => [Json.write v, Json.write u, Json.write p, Json.write e]
  | unregister u p => [Json.write u, Json.write p]
  | emailChange e => [Json.write e]
  | emailGet => []
  | passwordChange o n => [Json.write o, Json.write n]
  | characterCreate n s c g a =>
    [Json.write n, Json.write s, Json.write c, Json.write g, Json.write a]
  | characterSelect s => [Json.write s]
  | characterDelete s => [Json.write s]

/-- The request of a kind whose fields are filled from a row of slots. -/
def ofSlots? (kind : String) (slots : List (Option Tree)) : Option Request :=
  match kind, slots with
  | "Login", [v, u, p] => do
    return login (← Json.required v) (← Json.required u) (← Json.required p)
  | "Logout", [] => some logout
  | "Reconnect", [t] => do return reconnect (← Json.required t)
  | "Register", [v, u, p, e] => do
    return register (← Json.required v) (← Json.required u) (← Json.required p)
      (← Json.required e)
  | "Unregister", [u, p] => do return unregister (← Json.required u) (← Json.required p)
  | "EmailChange", [e] => do return emailChange (← Json.required e)
  | "EmailGet", [] => some emailGet
  | "PasswordChange", [o, n] => do
    return passwordChange (← Json.required o) (← Json.required n)
  | "CharacterCreate", [n, s, c, g, a] => do
    return characterCreate (← Json.required n) (← Json.required s) (← Json.required c)
      (← Json.required g) (← Json.required a)
  | "CharacterSelect", [s] => do return characterSelect (← Json.required s)
  | "CharacterDelete", [s] => do return characterDelete (← Json.required s)
  | _, _ => none

instance : Codec Request where
  write r := .tagged r.kind (fields r.kind) r.values
  read? t := do
    let (kind, body) ← t.tag?
    ofSlots? kind (← body.slots? ⟨fields kind, false, false⟩)
  keepsWhole := true

end Request

end Lobby
