import Lobby.Server
import Lobby.Storage.Outage
import Lobby.Tick
import Lobby.Proofs.Rendezvous.Coherence
import Lobby.Proofs.History
import Lobby.Proofs.Rendezvous.Fate
import Lobby.Proofs.Session.Lockstep
import Lobby.Proofs.Session.Effects
import Lobby.Proofs.Account
import Lobby.Proofs.Service.Run
import Lobby.Proofs.Service.Provenance
import Lobby.Proofs.Service.Redemption
import Lobby.Proofs.Service.Replies
import Lobby.Proofs.Service.Journal
import Lobby.Proofs.Service.Uniqueness
import Lobby.Proofs.Service.Deliveries
import Lobby.Proofs.Service.Claims
import Lobby.Proofs.KeyedList
import Lobby.Proofs.Session.Count
import Lobby.Proofs.Service.Capacity
import Lobby.Proofs.Storage.Alike
import Lobby.Proofs.Service.Arrival
import Lobby.Proofs.Service.Confinement
import Lobby.Proofs.Service.Deletion
import Lobby.Proofs.Session.Operations
import Lobby.Proofs.Session.Independence
import Lobby.Proofs.Service.Addressees
import Lobby.Proofs.Server.Delivery
import Lobby.Proofs.Json.Literal
import Lobby.Proofs.Json.Text
import Lobby.Proofs.Json.Codec
import Lobby.Proofs.RoundTrip
import Lobby.Proofs.Rendezvous.Scan
import Lobby.Proofs.Frames
import Lobby.Proofs.Rendezvous.Sweep
import Lobby.Proofs.Storage.Names
import Lobby.Proofs.Rules
import Lobby.Proofs.Service.Tickets
import Lobby.Proofs.Service.Creation
import Lobby.Proofs.Service.Validity
import Lobby.Proofs.Service.Slots
import Lobby.Proofs.Tick.Keeping
import Lobby.Proofs.Tick.Waits
import Lobby.Proofs.Rules.Email
import Lobby.Proofs.Rendezvous.Token
import Lobby.Proofs.Service.Draws
