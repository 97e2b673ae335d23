/-
Lobby/Rendezvous.lean

Meetings on tokens.

A **claimant** comes to a token to be given something, a **payload** is left there for whoever
comes.  Whichever arrives first waits; the other one's arrival is the meeting, after which the
token is free again.  At most one party waits on a token, and a claimant waits on at most one
token, which the second map (`claimants`) looks up.

An operation returns the new table and what happened in it: the meeting it brought about, or the
parties it swept away.
-/
import Lobby.KeyedList

namespace Lobby

/-- The two parties of a meeting. -/
inductive Side where
  | claimant
  | payload
deriving DecidableEq, Repr

/-- Who waits on a token. -/
inductive Waiting (γ π : Type) where
  | claimant (c : γ)
  | payload (p : π)
deriving DecidableEq, Repr

/-- Which party waits. -/
def Waiting.side {γ π : Type} : Waiting γ π → Side
  | .claimant _ => .claimant
  | .payload _ => .payload

/-- Who waits on a token, and since when. -/
structure Entry (γ π : Type) where
  waiting : Waiting γ π
  since : Nat
deriving DecidableEq, Repr

/-- A claimant and a payload that came to the same token. -/
structure Meeting (γ π : Type) where
  token : String
  claimant : γ
  payload : π
deriving DecidableEq, Repr

/-- A party that waited too long. -/
structure Expiry (γ π : Type) where
  token : String
  waiting : Waiting γ π
deriving DecidableEq, Repr

/-- Who waits on which token, on which token a claimant waits, and how long anybody may wait.
Times are in nanoseconds. -/
structure Rendezvous (γ π : Type) where
  entries : KeyedList String (Entry γ π)
  claimants : KeyedList γ String
  timeout : Nat

namespace Rendezvous

variable {γ π : Type}

/-- Nobody waits. -/
def empty (timeout : Nat) : Rendezvous γ π := ⟨.empty, .empty, timeout⟩

/-! ### Looking -/

/-- Whether anybody waits on a token. -/
def contains (r : Rendezvous γ π) (token : String) : Bool := r.entries.contains token

/-- Which party waits on a token. -/
def side? (r : Rendezvous γ π) (token : String) : Option Side :=
  (r.entries.get? token).map fun e => e.waiting.side

/-- The claimant that waits on a token. -/
def claimant? (r : Rendezvous γ π) (token : String) : Option γ :=
  match r.entries.get? token with
  | some ⟨.claimant c, _⟩ => some c
  | _ => none

/-- The payload that waits on a token. -/
def payload? (r : Rendezvous γ π) (token : String) : Option π :=
  match r.entries.get? token with
  | some ⟨.payload p, _⟩ => some p
  | _ => none

/-- How many tokens are waited on. -/
def size (r : Rendezvous γ π) : Nat := r.entries.size

/-- Whether nobody waits. -/
def isEmpty (r : Rendezvous γ π) : Bool := r.entries.isEmpty

variable [DecidableEq γ]

/-- The token that a claimant waits on. -/
def tokenOf? (r : Rendezvous γ π) (c : γ) : Option String := r.claimants.get? c

/-! ### Arriving -/

/-- A claimant leaves the token it waits on, unless it is the given one. -/
def leaveOther (r : Rendezvous γ π) (token : String) (c : γ) : Rendezvous γ π :=
  match r.claimants.get? c with
  | none => r
  | some previous =>
    if previous = token then r
    else { r with entries := r.entries.erase previous, claimants := r.claimants.erase c }

/-- A claimant starts to wait on a token. -/
def awaitPayload (r : Rendezvous γ π) (now : Nat) (token : String) (c : γ) : Rendezvous γ π :=
  { r with
    entries := r.entries.insert token ⟨.claimant c, now⟩
    claimants := r.claimants.insert c token }

/-- A claimant comes to a token.  It leaves any other token first.  If a payload waits they meet;
another claimant is replaced; otherwise the claimant waits. -/
def registerClaimant (r : Rendezvous γ π) (now : Nat) (token : String) (c : γ) :
    Rendezvous γ π × Option (Meeting γ π) :=
  let r := r.leaveOther token c
  match r.entries.get? token with
  | some ⟨.payload p, _⟩ => ({ r with entries := r.entries.erase token }, some ⟨token, c, p⟩)
  | some ⟨.claimant replaced, _⟩ =>
    ({ r with claimants := r.claimants.erase replaced }.awaitPayload now token c, none)
  | none => (r.awaitPayload now token c, none)

/-- A payload comes to a token.  If a claimant waits they meet; otherwise the payload waits, in
the place of any payload before it. -/
def registerPayload (r : Rendezvous γ π) (now : Nat) (token : String) (p : π) :
    Rendezvous γ π × Option (Meeting γ π) :=
  match r.entries.get? token with
  | some ⟨.claimant c, _⟩ =>
    ({ r with entries := r.entries.erase token, claimants := r.claimants.erase c },
      some ⟨token, c, p⟩)
  | _ => ({ r with entries := r.entries.insert token ⟨.payload p, now⟩ }, none)

/-! ### Leaving -/

/-- A claimant no longer waits.  Says whether it did. -/
def cancelClaimant (r : Rendezvous γ π) (c : γ) : Rendezvous γ π × Bool :=
  match r.claimants.get? c with
  | none => (r, false)
  | some token =>
    let claimants := r.claimants.erase c
    if r.claimant? token = some c then
      ({ r with entries := r.entries.erase token, claimants }, true)
    else ({ r with claimants }, false)

/-- Whether a party that waits since some time has waited too long; a time to come counts as no
time at all. -/
def overdue (r : Rendezvous γ π) (now : Nat) (e : Entry γ π) : Bool := r.timeout < now - e.since

/-- Everyone who has waited too long leaves. -/
def sweep (r : Rendezvous γ π) (now : Nat) : Rendezvous γ π × List (Expiry γ π) :=
  let evicted := r.entries.entries.filter fun e => r.overdue now e.2
  let claimants := evicted.foldl
    (fun claimants e =>
      match e.2.waiting with
      | .claimant c => claimants.erase c
      | .payload _ => claimants)
    r.claimants
  ({ r with entries := r.entries.filter fun e => !r.overdue now e.2, claimants },
    evicted.map fun e => ⟨e.1, e.2.waiting⟩)

end Rendezvous

end Lobby
