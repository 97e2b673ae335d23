/-
Lobby/Handoff.lean

Handing clients over.

A client that selects a character gets a **ticket**: a fresh token, on which a payload naming the
account and the character is left, and the addresses of the servers to go to.  The servers are
told in announcements.  A client that presents a token is logged in as the account of the payload
that it meets, if that account is still stored and not banned; the handoff desk answers for the
meeting and queues what the client is sent.
-/
import Lobby.Message
import Lobby.Rendezvous.Token
import Lobby.Session
import Lobby.Storage

namespace Lobby

/-! ### What is queued and announced -/

/-- Something for a connection: a message, or the end of the connection. -/
inductive Delivery where
  | send (connection : ConnectionId) (message : Message)
  | disconnect (connection : ConnectionId) (reason : String)
deriving DecidableEq, Repr

/-- The connection that a delivery is for. -/
def Delivery.connection : Delivery → ConnectionId
  | send c _ => c
  | disconnect c _ => c

/-- What other servers are told about a client that is coming. -/
inductive Announcement where
  | game (token character : String) (map : MapId)
  | chat (token name : String) (level : AccessLevel)
deriving DecidableEq, Repr

/-- What waits on the token of a ticket: the account to log in as, and the character that was
selected. -/
structure HandoffPayload where
  account : AccountId
  character : Option String
deriving DecidableEq, Repr

/-- Why no ticket is issued. -/
inductive HandoffError where
  | notLoggedIn (c : ConnectionId)
  | unknownAccount (a : AccountId)
  | noSuchCharacter (a : AccountId) (slot : UInt8)
  | noServerForMap (map : MapId)
  /-- Every token that was drawn is waited on. -/
  | noFreshToken
deriving DecidableEq, Repr

namespace HandoffError

/-- The text of a refusal. -/
def message : HandoffError → String
  | notLoggedIn c => c.text ++ " is not logged in"
  | unknownAccount a => "account " ++ a.text ++ " no longer exists"
  | noSuchCharacter a slot =>
    "account " ++ a.text ++ " has no character in slot " ++ Text.Decimal.text slot.toNat
  | noServerForMap map => "no game server for " ++ map.text
  | noFreshToken => "no fresh token was drawn"

/-- The outcome that the client is told. -/
def status : HandoffError → Status
  | notLoggedIn _ => .noLogin
  | unknownAccount _ => .noLogin
  | noSuchCharacter _ _ => .invalidArgument
  | noServerForMap _ => .failure
  | noFreshToken => .failure

end HandoffError

/-! ### The desk -/

/-- The store, the servers of the maps, the chat server, what is queued for the connections and
what has been announced. -/
structure Desk (σ : Type) where
  storage : σ
  servers : MapTable
  chatServer : ServerAddress
  outbox : List Delivery
  announced : List Announcement

namespace Desk

variable {σ : Type}

/-- A desk with nothing queued and nothing announced. -/
def create (storage : σ) (servers : MapTable) (chatServer : ServerAddress) : Desk σ :=
  ⟨storage, servers, chatServer, [], []⟩

/-- Queues a message. -/
def send (d : Desk σ) (c : ConnectionId) (m : Message) : Desk σ :=
  { d with outbox := d.outbox ++ [.send c m] }

/-- Queues the end of a connection. -/
def disconnect (d : Desk σ) (c : ConnectionId) (reason : String) : Desk σ :=
  { d with outbox := d.outbox ++ [.disconnect c reason] }

/-- Queues an account's list of characters, in the order of the slots. -/
def sendCharacters (d : Desk σ) (c : ConnectionId) (a : Account) : Desk σ :=
  a.summaries.foldl (fun d s => d.send c (.characterInfo s)) d

/-- Tells the other servers something. -/
def announce (d : Desk σ) (a : Announcement) : Desk σ := { d with announced := d.announced ++ [a] }

/-- Takes what is queued. -/
def takeOutbox (d : Desk σ) : List Delivery × Desk σ := (d.outbox, { d with outbox := [] })

variable [Backend σ]

/-- Writes an account back.  A store that refuses is left as it is. -/
def tryPersist (d : Desk σ) (a : Account) : Desk σ :=
  match Backend.persist d.storage a with
  | .ok storage => { d with storage }
  | .error _ => d

/-- The account that a payload names, if it may be logged in as. -/
def admitted (d : Desk σ) (p : HandoffPayload) : Except Status Account :=
  match Backend.findById d.storage p.account with
  | none => .error .failure
  | some a => if a.isBanned then .error .banned else .ok a

/-- Answers a meeting.  The account is looked up as it is stored now; if it may be logged in as,
its last login is set and the client gets the list of its characters. -/
def claimMatched (now : Timestamp) (c : ConnectionId) (p : HandoffPayload) (d : Desk σ) :
    Option AccountId × Desk σ :=
  match d.admitted p with
  | .error status => (none, d.send c (.reconnectResponse status))
  | .ok a =>
    let d := d.tryPersist { a with lastLogin := some now }
    (some a.id, (d.send c (.reconnectResponse .ok)).sendCharacters c a)

/-- A client whose token found no payload in time is told so and cut off. -/
def claimTimedOut (c : ConnectionId) (d : Desk σ) : Desk σ :=
  (d.send c .connectionTimedOut).disconnect c "reconnect token timed out"

/-- The desk as the one who answers for meetings and waits, at a point in time. -/
def sink (now : Timestamp) : Sink HandoffPayload (Desk σ) where
  claimMatched c _ p d := claimMatched now c p d
  claimTimedOut c _ d := claimTimedOut c d
  payloadExpired _ _ d := d

/-! ### Tickets -/

/-- What a ticket is issued for. -/
structure Selection where
  /-- The account that the session is logged in as. -/
  holder : AccountId
  account : Account
  character : Character
  server : ServerAddress

/-- What a connection selects with a slot: the account that it is logged in as, the character in
that slot, and the server that hosts the character's map. -/
def select (d : Desk σ) (s : Sessions HandoffPayload) (c : ConnectionId) (slot : UInt8) :
    Except HandoffError Selection :=
  match s.accountOf? c with
  | none => .error (.notLoggedIn c)
  | some holder =>
    match Backend.findById d.storage holder with
    | none => .error (.unknownAccount holder)
    | some account =>
      match account.characters[slot.toNat]? with
      | none => .error (.noSuchCharacter holder slot)
      | some character =>
        match d.servers.resolve character.map with
        | none => .error (.noServerForMap character.map)
        | some server => .ok ⟨holder, account, character, server⟩

/-- Issues a ticket: leaves a payload on a fresh token and announces the client to the game server
and to the chat server. -/
def issue (now : Nat) (wall : Timestamp) (draws : List Draw) (d : Desk σ)
    (s : Sessions HandoffPayload) (c : ConnectionId) (slot : UInt8) :
    Except HandoffError (Ticket × Sessions HandoffPayload × Desk σ) :=
  match d.select s c slot with
  | .error e => .error e
  | .ok chosen =>
    match s.rendezvous.freshToken? draws with
    | none => .error .noFreshToken
    | some token =>
      let (_, s, d) :=
        s.expectPayload (sink wall) d now token ⟨chosen.holder, some chosen.character.name⟩
      let d := d.announce (.game token chosen.character.name chosen.character.map)
      let d := d.announce (.chat token chosen.character.name chosen.account.level)
      .ok (⟨token, chosen.server, d.chatServer⟩, s, d)

/-- Another server announces that a client of an account will come with a token.  Says whether
somebody waited for it. -/
def expectReconnect (now : Nat) (wall : Timestamp) (d : Desk σ) (s : Sessions HandoffPayload)
    (token : String) (a : AccountId) : Bool × Sessions HandoffPayload × Desk σ :=
  s.expectPayload (sink wall) d now token ⟨a, none⟩

end Desk

end Lobby
