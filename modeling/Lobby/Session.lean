/-
Lobby/Session.lean

Sessions: what a connection stands for.

A session is logged out, logged in as an account, or waits on a token.  Waiting sessions are the
claimants of a rendezvous; when a payload comes to the token, or the wait ends, a **sink** is
asked or told.  The sink answers a meeting with the account that the session is logged in as from
then on, or with none.  It has a state of its own, which every operation hands on.
-/
import Lobby.Identity
import Lobby.Rendezvous

namespace Lobby

/-! ### Sessions -/

/-- What a connection stands for. -/
inductive Session where
  | unauthenticated
  | authenticated (account : AccountId)
  | awaitingToken (token : String)
deriving DecidableEq, Repr

namespace Session

/-- The account that a session is logged in as. -/
def account? : Session → Option AccountId
  | authenticated a => some a
  | _ => none

/-- Whether a session is logged in. -/
def isAuthenticated : Session → Bool
  | authenticated _ => true
  | _ => false

/-- The name of a session's state. -/
def status : Session → String
  | unauthenticated => "Unauthenticated"
  | authenticated _ => "Authenticated"
  | awaitingToken _ => "AwaitingToken"

/-- A session that was answered with an account, or with none. -/
def ofAccount? : Option AccountId → Session
  | some a => authenticated a
  | none => unauthenticated

end Session

/-- Why an operation on a session is refused. -/
inductive SessionError where
  | notFound (c : ConnectionId)
  | alreadyExists (c : ConnectionId)
  /-- A login of a session that is not logged out. -/
  | loginNotAllowed (c : ConnectionId) (session : Session)
  | notLoggedIn (c : ConnectionId)
deriving DecidableEq, Repr

/-- The text of a refusal. -/
def SessionError.message : SessionError → String
  | notFound c => "no session for " ++ c.text
  | alreadyExists c => "session for " ++ c.text ++ " already exists"
  | loginNotAllowed c s => "login not allowed for " ++ c.text ++ " while " ++ s.status
  | notLoggedIn c => c.text ++ " is not logged in"

/-- What became of a request to resume a session. -/
inductive ReconnectOutcome where
  /-- The session was not logged out. -/
  | ignored
  | waiting
  | matched (account : AccountId)
  | rejected
deriving DecidableEq, Repr

/-- What a logout ended. -/
inductive LogoutOutcome where
  | loggedOut (account : AccountId)
  | claimCancelled
deriving DecidableEq, Repr

/-- Who is asked about meetings and told about waits that ended; `ω` is its state. -/
structure Sink (π ω : Type) where
  claimMatched : ConnectionId → String → π → ω → Option AccountId × ω
  claimTimedOut : ConnectionId → String → ω → ω
  payloadExpired : String → π → ω → ω

/-! ### The table of sessions -/

/-- The sessions of all connections, and the rendezvous on which some of them wait. -/
structure Sessions (π : Type) where
  table : KeyedList ConnectionId Session
  rendezvous : Rendezvous ConnectionId π

namespace Sessions

variable {π ω : Type}

/-- No sessions, and nobody waits. -/
def empty (timeout : Nat) : Sessions π := ⟨.empty, .empty timeout⟩

/-- The session of a connection. -/
def get? (s : Sessions π) (c : ConnectionId) : Option Session := s.table.get? c

/-- The account that a connection is logged in as. -/
def accountOf? (s : Sessions π) (c : ConnectionId) : Option AccountId :=
  (s.get? c).bind Session.account?

/-- The connections that are logged in as an account. -/
def connectionsFor (s : Sessions π) (a : AccountId) : List ConnectionId :=
  (s.table.entries.filter fun e => e.2.account? = some a).map Prod.fst

/-- How many sessions are logged in. -/
def authenticatedCount (s : Sessions π) : Nat := s.table.values.countP Session.isAuthenticated

/-- Gives a connection a session. -/
def set (s : Sessions π) (c : ConnectionId) (session : Session) : Sessions π :=
  { s with table := s.table.insert c session }

/-! ### What the rendezvous brings about -/

/-- A meeting reaches the session that waits; one that does not wait is passed over. -/
def settle (sink : Sink π ω) (s : Sessions π) (w : ω) (m : Meeting ConnectionId π) :
    Sessions π × ω :=
  match s.get? m.claimant with
  | some (.awaitingToken _) =>
    let (account, w) := sink.claimMatched m.claimant m.token m.payload w
    (s.set m.claimant (.ofAccount? account), w)
  | _ => (s, w)

/-- The end of a wait reaches the session that waited; one that does not wait is passed over. -/
def expire (sink : Sink π ω) (s : Sessions π) (w : ω) (e : Expiry ConnectionId π) :
    Sessions π × ω :=
  match e.waiting with
  | .payload p => (s, sink.payloadExpired e.token p w)
  | .claimant c =>
    match s.get? c with
    | some (.awaitingToken _) => (s.set c .unauthenticated, sink.claimTimedOut c e.token w)
    | _ => (s, w)

/-- A session that waits on a token is released, if it is that of another connection. -/
def release (s : Sessions π) (c : ConnectionId) (rival : Option ConnectionId) : Sessions π :=
  match rival with
  | none => s
  | some r => if r = c ∨ s.get? r = none then s else s.set r .unauthenticated

/-! ### The operations -/

/-- A connection gets a session, logged out. -/
def connect (s : Sessions π) (c : ConnectionId) : Except SessionError (Sessions π) :=
  match s.get? c with
  | some _ => .error (.alreadyExists c)
  | none => .ok (s.set c .unauthenticated)

/-- A session that is logged out logs in. -/
def login (s : Sessions π) (c : ConnectionId) (a : AccountId) : Except SessionError (Sessions π) :=
  match s.get? c with
  | none => .error (.notFound c)
  | some .unauthenticated => .ok (s.set c (.authenticated a))
  | some session => .error (.loginNotAllowed c session)

/-- A session that is logged out presents a token.  If a payload waits there the sink answers for
it; otherwise the session waits, and whoever waited there before is released. -/
def reconnect (sink : Sink π ω) (s : Sessions π) (w : ω) (now : Nat) (c : ConnectionId)
    (token : String) : Except SessionError (ReconnectOutcome × Sessions π × ω) :=
  match s.get? c with
  | none => .error (.notFound c)
  | some .unauthenticated =>
    let s := (s.set c (.awaitingToken token)).release c (s.rendezvous.claimant? token)
    let (rendezvous, meeting) := s.rendezvous.registerClaimant now token c
    let s := { s with rendezvous }
    match meeting with
    | none => .ok (.waiting, s, w)
    | some m =>
      let (s, w) := s.settle sink w m
      match s.accountOf? c with
      | some a => .ok (.matched a, s, w)
      | none => .ok (.rejected, s, w)
  | some _ => .ok (.ignored, s, w)

/-- A claimant that is no longer wanted leaves the rendezvous. -/
def cancelClaim (s : Sessions π) (c : ConnectionId) : Sessions π :=
  { s with rendezvous := (s.rendezvous.cancelClaimant c).1 }

/-- A session logs out, or gives up waiting. -/
def logout (s : Sessions π) (c : ConnectionId) :
    Except SessionError (LogoutOutcome × Sessions π) :=
  match s.get? c with
  | none => .error (.notFound c)
  | some .unauthenticated => .error (.notLoggedIn c)
  | some (.authenticated a) => .ok (.loggedOut a, s.set c .unauthenticated)
  | some (.awaitingToken _) => .ok (.claimCancelled, (s.set c .unauthenticated).cancelClaim c)

/-- The session of a connection ends.  Says which one it was. -/
def disconnect (s : Sessions π) (c : ConnectionId) : Option Session × Sessions π :=
  match s.get? c with
  | none => (none, s)
  | some session =>
    let rest := { s with table := s.table.erase c }
    match session with
    | .awaitingToken _ => (some session, rest.cancelClaim c)
    | _ => (some session, rest)

/-- A payload is left on a token.  Says whether somebody waited there. -/
def expectPayload (sink : Sink π ω) (s : Sessions π) (w : ω) (now : Nat) (token : String) (p : π) :
    Bool × Sessions π × ω :=
  let (rendezvous, meeting) := s.rendezvous.registerPayload now token p
  let s := { s with rendezvous }
  match meeting with
  | none => (false, s, w)
  | some m => (true, s.settle sink w m)

/-- Whoever waited too long stops waiting.  Says how many they were. -/
def sweep (sink : Sink π ω) (s : Sessions π) (w : ω) (now : Nat) : Nat × Sessions π × ω :=
  let (rendezvous, expired) := s.rendezvous.sweep now
  let s := { s with rendezvous }
  (expired.length, expired.foldl (fun sw e => expire sink sw.1 sw.2 e) (s, w))

end Sessions

end Lobby
