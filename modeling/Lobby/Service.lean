/-
Lobby/Service.lean

The account service: one reply for every request.

Each request is checked in a fixed order, and the first rule that it breaks decides its outcome.
A request that is refused changes nothing and queues its response only.  Resuming a session is the
exception: it is answered by the meeting on its token, which may come later or never.
-/
import Lobby.Config
import Lobby.Handoff
import Lobby.Request
import Lobby.Rules

namespace Lobby

/-- When something happens: by the steady clock, in nanoseconds, and by the calendar. -/
structure Moment where
  steady : Nat
  calendar : Timestamp

/-- The settings, the sessions, and the handoff desk with the store. -/
structure Service (σ : Type) where
  config : AccountConfig
  sessions : Sessions HandoffPayload
  desk : Desk σ

namespace Service

variable {σ : Type}

/-- A service without sessions. -/
def create (config : AccountConfig) (rendezvous : RendezvousConfig) (storage : σ)
    (servers : MapTable) : Service σ :=
  ⟨config, .empty rendezvous.timeout.toNanos, Desk.create storage servers config.chatServer⟩

/-- Queues a message. -/
def reply (s : Service σ) (c : ConnectionId) (m : Message) : Service σ :=
  { s with desk := s.desk.send c m }

/-- The service with another store. -/
def withStorage (s : Service σ) (storage : σ) : Service σ :=
  { s with desk := { s.desk with storage } }

/-- Whether a connection has a session that is logged out. -/
def isLoggedOut (s : Service σ) (c : ConnectionId) : Bool :=
  s.sessions.get? c = some .unauthenticated

/-- Whether as many sessions are logged in as may be. -/
def isFull (s : Service σ) : Bool := s.config.maxClients.toNat ≤ s.sessions.authenticatedCount

/-- Takes what is queued. -/
def takeOutbox (s : Service σ) : List Delivery × Service σ :=
  let (deliveries, desk) := s.desk.takeOutbox
  (deliveries, { s with desk })

variable [Backend σ]

/-- The account that a connection is logged in as, as it is stored now. -/
def currentAccount? (s : Service σ) (c : ConnectionId) : Option Account :=
  (s.sessions.accountOf? c).bind (Backend.findById s.desk.storage)

/-- Writes an account back. -/
def persist (s : Service σ) (a : Account) : Except Status (Service σ) :=
  match Backend.persist s.desk.storage a with
  | .ok storage => .ok (s.withStorage storage)
  | .error _ => .error .failure

/-! ### Logging in and out -/

/-- Logs a session in with credentials, and sets the account's last login. -/
def login (s : Service σ) (now : Moment) (c : ConnectionId) (clientVersion : UInt32)
    (username password : String) : Except Status (Service σ) :=
  if !s.isLoggedOut c then .error .failure
  else if clientVersion < s.config.minClientVersion then .error .invalidVersion
  else if Rules.hasQuote username then .error .invalidArgument
  else if s.isFull then .error .serverFull
  else
    match Backend.verify s.desk.storage username password with
    | none => .error .invalidArgument
    | some a =>
      if a.isBanned then .error .banned
      else
        match s.sessions.login c a.id with
        | .error _ => .error .failure
        | .ok sessions =>
          .ok { s with
            sessions
            desk := s.desk.tryPersist { a with lastLogin := some now.calendar } }

/-- Logs a session out, or ends its wait. -/
def logout (s : Service σ) (c : ConnectionId) : Except Status (Service σ) :=
  match s.sessions.logout c with
  | .ok (_, sessions) => .ok { s with sessions }
  | .error _ => .error .noLogin

/-- Makes a new account and logs the session in as it. -/
def register (s : Service σ) (now : Moment) (c : ConnectionId) (clientVersion : UInt32)
    (username password email : String) : Except Status (Service σ) :=
  if !s.isLoggedOut c then .error .failure
  else if clientVersion < s.config.minClientVersion then .error .invalidVersion
  else if !(Rules.validUsername username && Rules.validPassword password
      && Rules.validEmail email) then .error .invalidArgument
  else if (Backend.findByName s.desk.storage username).isSome then .error .usernameTaken
  else if Backend.emailExists s.desk.storage email then .error .emailTaken
  else
    match Backend.add s.desk.storage (Account.create username password email now.calendar) with
    | .error _ => .error .failure
    | .ok (id, storage) =>
      let s := s.withStorage storage
      match s.sessions.login c id with
      | .ok sessions => .ok { s with sessions }
      | .error _ => .ok s

/-- Deletes the account of some credentials. -/
def unregister (s : Service σ) (c : ConnectionId) (username password : String) :
    Except Status (Service σ) :=
  if !s.isLoggedOut c then .error .failure
  else if Rules.hasQuote username then .error .invalidArgument
  else
    match Backend.verify s.desk.storage username password with
    | none => .error .invalidArgument
    | some a =>
      match Backend.delete s.desk.storage a.id with
      | .ok (_, storage) => .ok (s.withStorage storage)
      | .error _ => .error .failure

/-! ### Changing the account -/

/-- Changes the e-mail address of the current account. -/
def changeEmail (s : Service σ) (c : ConnectionId) (email : String) : Except Status (Service σ) :=
  match s.currentAccount? c with
  | none => .error .noLogin
  | some a =>
    if !Rules.validEmail email then .error .invalidArgument
    else if Backend.emailExists s.desk.storage email then .error .emailTaken
    else s.persist (a.setEmail email)

/-- Changes the password of the current account. -/
def changePassword (s : Service σ) (c : ConnectionId) (oldPassword newPassword : String) :
    Except Status (Service σ) :=
  match s.currentAccount? c with
  | none => .error .noLogin
  | some a =>
    if !Rules.validPassword newPassword then .error .invalidArgument
    else if !a.checkPassword oldPassword then .error .failure
    else s.persist (a.setPassword newPassword)

/-! ### Characters -/

/-- A new character: at the first level, on the start tile, with nothing. -/
def newCharacter (config : AccountConfig) (name : String) (hairStyle hairColor gender : UInt8)
    (attributes : Attributes) : Character :=
  { name, gender, hairStyle, hairColor, level := 1, experience := 0, correctionPoints := 0,
    money := 0, attributes, map := config.defaultMap, position := config.startPosition }

/-- The first rule that a new character breaks. -/
def checkCharacter (s : Service σ) (a : Account) (name : String)
    (hairStyle hairColor gender : UInt8) (attributes : Attributes) : Except Status Unit := do
  if Rules.hasQuote name then throw .invalidArgument
  Rules.checkAppearance hairStyle hairColor gender
  if !Rules.validCharacterName name then throw .invalidArgument
  if Backend.characterNameExists s.desk.storage name then throw .nameTaken
  if maxCharacters ≤ a.characters.length then throw .tooManyCharacters
  Rules.checkAttributes attributes

/-- Gives the current account a new character, and says in which slot it is. -/
def createCharacter (s : Service σ) (c : ConnectionId) (name : String)
    (hairStyle hairColor gender : UInt8) (attributes : Attributes) :
    Except Status (UInt8 × Service σ) :=
  match s.currentAccount? c with
  | none => .error .noLogin
  | some a =>
    match s.checkCharacter a name hairStyle hairColor gender attributes with
    | .error status => .error status
    | .ok _ =>
      let character := newCharacter s.config name hairStyle hairColor gender attributes
      match s.persist { a with characters := a.characters ++ [character] } with
      | .error status => .error status
      | .ok s => .ok (UInt8.ofNat a.characters.length, s)

/-- Deletes a character of the current account; later ones move up by one slot. -/
def deleteCharacter (s : Service σ) (c : ConnectionId) (slot : UInt8) :
    Except Status (Service σ) :=
  match s.currentAccount? c with
  | none => .error .noLogin
  | some a =>
    if a.characters.length ≤ slot.toNat then .error .invalidArgument
    else s.persist { a with characters := a.characters.eraseIdx slot.toNat }

/-! ### Requests -/

/-- The list of the current account's characters is queued. -/
def sendCharacters (s : Service σ) (c : ConnectionId) : Service σ :=
  match s.currentAccount? c with
  | none => s
  | some a => { s with desk := s.desk.sendCharacters c a }

/-- The summary of the current account's character in a slot is queued. -/
def sendCharacter (s : Service σ) (c : ConnectionId) (slot : UInt8) : Service σ :=
  match (s.currentAccount? c).bind (·.characters[slot.toNat]?) with
  | none => s
  | some character => s.reply c (.characterInfo (character.summary slot))

/-- Replies with the outcome of an operation. -/
def conclude (s : Service σ) (c : ConnectionId) (response : Status → Message)
    (result : Except Status (Service σ)) : Service σ :=
  match result with
  | .ok s => s.reply c (response .ok)
  | .error status => s.reply c (response status)

/-- Answers a request. -/
def handle (s : Service σ) (now : Moment) (draws : List Draw) (c : ConnectionId) :
    Request → Service σ
  | .login clientVersion username password =>
    match s.login now c clientVersion username password with
    | .ok s => (s.reply c (.loginResponse .ok)).sendCharacters c
    | .error status => s.reply c (.loginResponse status)
  | .logout => s.conclude c .logoutResponse (s.logout c)
  | .reconnect token =>
    match s.sessions.reconnect (Desk.sink now.calendar) s.desk now.steady c token with
    | .ok (_, sessions, desk) => { s with sessions, desk }
    | .error _ => s
  | .register clientVersion username password email =>
    s.conclude c .registerResponse (s.register now c clientVersion username password email)
  | .unregister username password =>
    s.conclude c .unregisterResponse (s.unregister c username password)
  | .emailChange email => s.conclude c .emailChangeResponse (s.changeEmail c email)
  | .emailGet =>
    match s.currentAccount? c with
    | none => s.reply c (.emailGetResponse .noLogin none)
    | some a => s.reply c (.emailGetResponse .ok (some a.emailDigest))
  | .passwordChange oldPassword newPassword =>
    s.conclude c .passwordChangeResponse (s.changePassword c oldPassword newPassword)
  | .characterCreate name hairStyle hairColor gender attributes =>
    match s.createCharacter c name hairStyle hairColor gender attributes with
    | .ok (slot, s) => (s.reply c (.characterCreateResponse .ok)).sendCharacter c slot
    | .error status => s.reply c (.characterCreateResponse status)
  | .characterSelect slot =>
    match s.desk.issue now.steady now.calendar draws s.sessions c slot with
    | .ok (ticket, sessions, desk) =>
      { s with sessions, desk }.reply c (.characterSelectResponse .ok (some ticket))
    | .error e => s.reply c (.characterSelectResponse e.status none)
  | .characterDelete slot => s.conclude c .characterDeleteResponse (s.deleteCharacter c slot)

/-- Answers a frame: the request that it spells, or a complaint if it spells none. -/
def handleFrame (s : Service σ) (now : Moment) (draws : List Draw) (c : ConnectionId)
    (frame : List UInt8) : Service σ :=
  match Json.decode Request frame with
  | some r => s.handle now draws c r
  | none => s.reply c .invalid

/-! ### Everything else that happens -/

omit [Backend σ] in
/-- A connection comes. -/
def connect (s : Service σ) (c : ConnectionId) : Except SessionError (Service σ) :=
  (s.sessions.connect c).map fun sessions => { s with sessions }

omit [Backend σ] in
/-- A connection goes. -/
def disconnect (s : Service σ) (c : ConnectionId) : Service σ :=
  { s with sessions := (s.sessions.disconnect c).2 }

/-- Another server announces a client.  Says whether somebody waited for it. -/
def expectReconnect (s : Service σ) (now : Moment) (token : String) (a : AccountId) :
    Bool × Service σ :=
  let (met, sessions, desk) :=
    s.desk.expectReconnect now.steady now.calendar s.sessions token a
  (met, { s with sessions, desk })

/-- Whoever waited too long at a time is told so.  Says how many waits ended. -/
def sweep (s : Service σ) (now : Moment) : Nat × Service σ :=
  let (count, sessions, desk) := s.sessions.sweep (Desk.sink now.calendar) s.desk now.steady
  (count, { s with sessions, desk })

end Service

end Lobby
