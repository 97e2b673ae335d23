/-
Lobby/Place.lean

Where things are: positions on a map, addresses of servers, and the table that says which server
hosts which map.
-/
import Lobby.Identity
import Lobby.KeyedList

namespace Lobby

open Json (Codec Tree Shape Literal)

/-! ### Positions and addresses -/

/-- A tile of a map. -/
structure Position where
  x : Int32
  y : Int32
deriving DecidableEq, Repr

/-- How a position is written. -/
def Position.shape : Shape := ⟨["x", "y"], false, false⟩

instance : Codec Position where
  write p := .record Position.shape [Json.write p.x, Json.write p.y]
  read? t := do
    let [x, y] ← t.slots? Position.shape | none
    return ⟨← Json.required x, ← Json.required y⟩

/-- Where a client opens its next connection. -/
structure ServerAddress where
  host : String
  port : UInt16
deriving DecidableEq, Repr

/-- How an address is shown. -/
def ServerAddress.text (a : ServerAddress) : String :=
  a.host ++ ":" ++ Text.Decimal.text a.port.toNat

/-- How an address is written. -/
def ServerAddress.shape : Shape := ⟨["host", "port"], false, false⟩

instance : Codec ServerAddress where
  write a := .record ServerAddress.shape [Json.write a.host, Json.write a.port]
  read? t := do
    let [host, port] ← t.slots? ServerAddress.shape | none
    return ⟨← Json.required host, ← Json.required port⟩

/-! ### Which server hosts which map -/

/-- The servers of the maps, and a server for all other maps if there is one. -/
structure MapTable where
  maps : KeyedList MapId ServerAddress
  fallback : Option ServerAddress

namespace MapTable

/-- The table without maps. -/
def empty : MapTable := ⟨.empty, none⟩

/-- The server that hosts a map, if any does. -/
def resolve (t : MapTable) (map : MapId) : Option ServerAddress := (t.maps.get? map).or t.fallback

/-- Gives a map to a server. -/
def insert (t : MapTable) (map : MapId) (server : ServerAddress) : MapTable :=
  { t with maps := t.maps.insert map server }

/-- Takes a map off the table. -/
def remove (t : MapTable) (map : MapId) : MapTable := { t with maps := t.maps.erase map }

/-- The map that a member's name spells: its number, written as an integer literal and without
escapes. -/
def mapOfName? (name : Literal) : Option MapId :=
  match Json.Number.scan name with
  | some (n, []) => (Tree.natBelow? UInt16.size (.number n)).map fun m => ⟨UInt16.ofNat m⟩
  | _ => none

/-- Reads members as pairs of maps and servers, the last of several for one map. -/
def readMaps? (members : List (Literal × Tree)) : Option (KeyedList MapId ServerAddress) :=
  members.foldlM (fun maps m => do return maps.insert (← mapOfName? m.1) (← Json.read? m.2)) .empty

/-- How a table is written. -/
def shape : Shape := ⟨["maps", "fallback"], false, false⟩

instance : Codec MapTable where
  write t := .record shape
    [.object (t.maps.entries.map fun e => (Text.Decimal.digits e.1.val.toNat, Json.write e.2)),
      Json.write t.fallback]
  read? t := do
    let [some (.object members), fallback] ← t.slots? shape | none
    return ⟨← readMaps? members, ← Json.optional fallback⟩

end MapTable

end Lobby
