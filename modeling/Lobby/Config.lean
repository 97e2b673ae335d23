/-
Lobby/Config.lean

What a deployment may set.  A setting that is left out has its default, except the time that a
token waits: a record of rendezvous settings always says it.
-/
import Lobby.Place
import Lobby.Time

namespace Lobby

open Json (Codec Shape)

/-- The port the lobby listens on unless told otherwise. -/
def defaultPort : Nat := 9601

/-! ### Accounts -/

/-- How the lobby treats accounts. -/
structure AccountConfig where
  /-- Older clients are turned away when they log in or register. -/
  minClientVersion : UInt32
  /-- How many sessions may be logged in; more are turned away when they log in. -/
  maxClients : UInt64
  /-- The map on which new characters start. -/
  defaultMap : MapId
  /-- The tile on which new characters start. -/
  startPosition : Position
  /-- The chat server that a ticket names. -/
  chatServer : ServerAddress
deriving DecidableEq, Repr

namespace AccountConfig

/-- The settings when none are given. -/
def standard : AccountConfig :=
  ⟨0, 1000, ⟨1⟩, ⟨512, 512⟩, ⟨"localhost", UInt16.ofNat (defaultPort + 2)⟩⟩

/-- How the settings are written. -/
def shape : Shape :=
  ⟨["min_client_version", "max_clients", "default_map", "start_position", "chat_server"],
    false, true⟩

instance : Codec AccountConfig where
  write c := .record shape
    [Json.write c.minClientVersion, Json.write c.maxClients, Json.write c.defaultMap,
      Json.write c.startPosition, Json.write c.chatServer]
  read? t := do
    let [minClientVersion, maxClients, defaultMap, startPosition, chatServer] ←
      t.slots? shape | none
    return ⟨← Json.defaulted standard.minClientVersion minClientVersion,
      ← Json.defaulted standard.maxClients maxClients,
      ← Json.defaulted standard.defaultMap defaultMap,
      ← Json.defaulted standard.startPosition startPosition,
      ← Json.defaulted standard.chatServer chatServer⟩

end AccountConfig

/-! ### Rendezvous -/

/-- How tokens are waited on. -/
structure RendezvousConfig where
  /-- What waits longer than this is swept away. -/
  timeout : Span
deriving DecidableEq, Repr

namespace RendezvousConfig

/-- The settings when none are given: half a minute. -/
def standard : RendezvousConfig := ⟨Span.ofSeconds 30 (by decide)⟩

/-- How the settings are written. -/
def shape : Shape := ⟨["timeout"], false, false⟩

instance : Codec RendezvousConfig where
  write c := .record shape [Json.write c.timeout]
  read? t := do
    let [timeout] ← t.slots? shape | none
    return ⟨← Json.required timeout⟩

end RendezvousConfig

/-! ### The whole server -/

/-- Everything a server is told. -/
structure ServerConfig where
  bindAddress : String
  account : AccountConfig
  rendezvous : RendezvousConfig
  /-- How often stale tokens are swept, in hertz; zero means never. -/
  sweepRate : UInt32
  /-- A connection that sends nothing for this long is closed, if a time is set. -/
  requestTimeout : Option Span
deriving DecidableEq, Repr

namespace ServerConfig

/-- The settings when none are given. -/
def standard : ServerConfig :=
  ⟨"127.0.0.1:" ++ Text.Decimal.text defaultPort, AccountConfig.standard,
    RendezvousConfig.standard, 1, some (Span.ofSeconds 300 (by decide))⟩

/-- How the settings are written. -/
def shape : Shape :=
  ⟨["bind_addr", "account", "rendezvous", "sweep_rate_hz", "request_timeout"], false, true⟩

instance : Codec ServerConfig where
  write c := .record shape
    [Json.write c.bindAddress, Json.write c.account, Json.write c.rendezvous,
      Json.write c.sweepRate, Json.write c.requestTimeout]
  read? t := do
    let [bindAddress, account, rendezvous, sweepRate, requestTimeout] ← t.slots? shape | none
    return ⟨← Json.defaulted standard.bindAddress bindAddress,
      ← Json.defaulted standard.account account,
      ← Json.defaulted standard.rendezvous rendezvous,
      ← Json.defaulted standard.sweepRate sweepRate,
      ← Json.defaulted standard.requestTimeout requestTimeout⟩

end ServerConfig

end Lobby
