/-
Lobby/Storage/Outage.lean

A store with outages: each kind of write can be switched off, and is refused while it is.
-/
import Lobby.Storage

namespace Lobby

/-- A store, and which of its writes are switched off. -/
structure Outage (σ : Type) where
  store : σ
  refusesAdd : Bool
  refusesDelete : Bool
  refusesPersist : Bool

namespace Outage

variable {σ : Type}

/-- A store none of whose writes is switched off. -/
def healthy (store : σ) : Outage σ := ⟨store, false, false, false⟩

instance [Backend σ] : Backend (Outage σ) where
  findByName o name := Backend.findByName o.store name
  findById o id := Backend.findById o.store id
  emailExists o email := Backend.emailExists o.store email
  characterNameExists o name := Backend.characterNameExists o.store name
  add o a :=
    if o.refusesAdd then .error (.backend "add refused")
    else (Backend.add o.store a).map fun (id, store) => (id, { o with store })
  delete o id :=
    if o.refusesDelete then .error (.backend "delete refused")
    else (Backend.delete o.store id).map fun (a, store) => (a, { o with store })
  persist o a :=
    if o.refusesPersist then .error (.backend "persist refused")
    else (Backend.persist o.store a).map fun store => { o with store }

end Outage

end Lobby
