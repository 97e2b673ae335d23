/-
Lobby/Message.lean

What the lobby sends to its clients.
-/
import Lobby.Character
import Lobby.Status

namespace Lobby

open Json (Codec Tree Shape)

/-- What a client gets when it selects a character: it opens its next connection to the game
server, one more to the chat server, and presents the token there instead of credentials. -/
structure Ticket where
  token : String
  gameServer : ServerAddress
  chatServer : ServerAddress
deriving DecidableEq, Repr

/-- How a ticket is written. -/
def Ticket.shape : Shape := ⟨["token", "game_server", "chat_server"], false, false⟩

instance : Codec Ticket where
  write t := .record Ticket.shape
    [Json.write t.token, Json.write t.gameServer, Json.write t.chatServer]
  read? t := do
    let [token, gameServer, chatServer] ← t.slots? Ticket.shape | none
    return ⟨← Json.required token, ← Json.required gameServer, ← Json.required chatServer⟩

/-- A message to a client. -/
inductive Message where
  | loginResponse (status : Status)
  | logoutResponse (status : Status)
  | reconnectResponse (status : Status)
  | registerResponse (status : Status)
  | unregisterResponse (status : Status)
  | emailChangeResponse (status : Status)
  | emailGetResponse (status : Status) (email : Option String)
  | passwordChangeResponse (status : Status)
  | characterCreateResponse (status : Status)
  | characterSelectResponse (status : Status) (ticket : Option Ticket)
  | characterDeleteResponse (status : Status)
  /-- One character of the account that is logged in. -/
  | characterInfo (character : CharacterSummary)
  /-- Comes right before the end of a connection whose token found no payload in time. -/
  | connectionTimedOut
  /-- The last frame was no request. -/
  | invalid
deriving DecidableEq, Repr

namespace Message

/-- The kind of a message: its tag on the wire. -/
def kind : Message → String
  | loginResponse .. => "LoginResponse"
  | logoutResponse .. => "LogoutResponse"
  | reconnectResponse .. => "ReconnectResponse"
  | registerResponse .. => "RegisterResponse"
  | unregisterResponse .. => "UnregisterResponse"
  | emailChangeResponse .. => "EmailChangeResponse"
  | emailGetResponse .. => "EmailGetResponse"
  | passwordChangeResponse .. => "PasswordChangeResponse"
  | characterCreateResponse .. => "CharacterCreateResponse"
  | characterSelectResponse .. => "CharacterSelectResponse"
  | characterDeleteResponse .. => "CharacterDeleteResponse"
  | characterInfo .. => "CharacterInfo"
  | connectionTimedOut => "ConnectionTimedOut"
  | invalid => "Invalid"

/-- The fields of the messages of a kind. -/
def fields : String → List String
  | "LoginResponse" => ["status"]
  | "LogoutResponse" => ["status"]
  | "ReconnectResponse" => ["status"]
  | "RegisterResponse" => ["status"]
  | "UnregisterResponse" => ["status"]
  | "EmailChangeResponse" => ["status"]
  | "EmailGetResponse" => ["status", "email"]
  | "PasswordChangeResponse" => ["status"]
  | "CharacterCreateResponse" => ["status"]
  | "CharacterSelectResponse" => ["status", "ticket"]
  | "CharacterDeleteResponse" => ["status"]
  | "CharacterInfo" => ["character"]
  | _ => []

/-- The values of a message's fields. -/
def values : Message → List Tree
  | loginResponse s => [Json.write s]
  | logoutResponse s => [Json.write s]
  | reconnectResponse s => [Json.write s]
  | registerResponse s => [Json.write s]
  | unregisterResponse s => [Json.write s]
  | emailChangeResponse s => [Json.write s]
  | emailGetResponse s e => [Json.write s, Json.write e]
  | passwordChangeResponse s => [Json.write s]
  | characterCreateResponse s => [Json.write s]
  | characterSelectResponse s t => [Json.write s, Json.write t]
  | characterDeleteResponse s => [Json.write s]
  | characterInfo c => [Json.write c]
  | connectionTimedOut => []
  | invalid => []

/-- The outcome in a slot of a text that is kept whole. -/
def status? (slot : Option Tree) : Option Status := slot.bind (Status.ofTree? true)

/-- The message of a kind whose fields are filled from a row of slots. -/
def ofSlots? (kind : String) (slots : List (Option Tree)) : Option Message :=
  match kind, slots with
  | "LoginResponse", [s] => (status? s).map loginResponse
  | "LogoutResponse", [s] => (status? s).map logoutResponse
  | "ReconnectResponse", [s] => (status? s).map reconnectResponse
  | "RegisterResponse", [s] => (status? s).map registerResponse
  | "UnregisterResponse", [s] => (status? s).map unregisterResponse
  | "EmailChangeResponse", [s] => (status? s).map emailChangeResponse
  | "EmailGetResponse", [s, e] => do return emailGetResponse (← status? s) (← Json.optional e)
  | "PasswordChangeResponse", [s] => (status? s).map passwordChangeResponse
  | "CharacterCreateResponse", [s] => (status? s).map characterCreateResponse
  | "CharacterSelectResponse", [s, t] => do
    return characterSelectResponse (← status? s) (← Json.optional t)
  | "CharacterDeleteResponse", [s] => (status? s).map characterDeleteResponse
  | "CharacterInfo", [c] => do return characterInfo (← Json.required c)
  | "ConnectionTimedOut", [] => some connectionTimedOut
  | "Invalid", [] => some invalid
  | _, _ => none

instance : Codec Message where
  write m := .tagged m.kind (fields m.kind) m.values
  read? t := do
    let (kind, body) ← t.tag?
    ofSlots? kind (← body.slots? ⟨fields kind, false, false⟩)
  keepsWhole := true

end Message

end Lobby
