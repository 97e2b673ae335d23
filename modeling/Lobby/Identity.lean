/-
Lobby/Identity.lean

The numbers by which accounts, maps and connections are known, and how they are shown.
-/
import Lobby.Json.Codec

namespace Lobby

open Json (Codec Tree)

/-- The number of an account, given by the storage.  Sessions hold the number and never the
record: a number that is no longer stored finds nothing.  Numbers have 64 bits and are given one at a
time, from one on, so that they do not run out before 2⁶⁴ accounts have been kept; the bound plays no part
but on the wire. -/
structure AccountId where
  val : Nat
deriving DecidableEq, Repr

/-- The number of a map.  Game servers host whole maps. -/
structure MapId where
  val : UInt16
deriving DecidableEq, Repr

/-- The number of a client's connection.  It is only ever compared with others. -/
structure ConnectionId where
  val : Nat
deriving DecidableEq, Repr

/-- How an account is named in texts. -/
def AccountId.text (a : AccountId) : String := "A-" ++ Text.Decimal.text a.val

/-- How a map is named in texts. -/
def MapId.text (m : MapId) : String := "map-" ++ Text.Decimal.text m.val.toNat

/-- How a connection is named in texts. -/
def ConnectionId.text (c : ConnectionId) : String := "conn-" ++ Text.Decimal.text c.val

/-- On the wire the number of an account has 64 bits. -/
instance : Codec AccountId where
  write a := .ofInt a.val
  read? t := (t.natBelow? UInt64.size).map AccountId.mk

instance : Codec MapId where
  write m := Json.write m.val
  read? t := (Json.read? t).map MapId.mk

end Lobby
