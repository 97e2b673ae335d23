/-
Lobby/Proofs/Storage/Alike.lean

Stores that look alike.

A login writes the time of the day into a record, so that two stores that were used in the same way
differ in such times at least.  `Alike` stores answer every question in the same way, up to the time of
a last login; of the last login itself it only shows whether there has been one.  A store is `Timeless`
if writing back records that differ in that time leaves stores that are alike: the store in memory is,
and so is every store with outages that has such a store inside.
-/
import Lobby.Proofs.KeyedList
import Lobby.Proofs.Storage.Edits

namespace Lobby

variable {σ : Type} [Backend σ]

/-- An account without the time of its last login, and whether there has been a login. -/
def Account.timeless (r : Account) : Account × Bool :=
  ({ r with lastLogin := none }, r.lastLogin.isSome)

/-- Two stores answer all questions in the same way, up to the times of last logins. -/
structure Alike (st st' : σ) : Prop where
  byId : ∀ a, (Backend.findById st a).map Account.timeless
    = (Backend.findById st' a).map Account.timeless
  byName : ∀ name, (Backend.findByName st name).map Account.timeless
    = (Backend.findByName st' name).map Account.timeless
  email : ∀ address, Backend.emailExists st address = Backend.emailExists st' address
  character : ∀ name, Backend.characterNameExists st name = Backend.characterNameExists st' name

theorem Alike.refl (st : σ) : Alike st st := ⟨fun _ => rfl, fun _ => rfl, fun _ => rfl, fun _ => rfl⟩

/-- The store after a login was written into a record at some time. -/
def stamp (st : σ) (r : Account) (on : Timestamp) : σ :=
  (Edit.persist { r with lastLogin := some on }).apply st

/-- It does not show in a store at what time a login was written into a record. -/
def Backend.Timeless (σ : Type) [Backend σ] : Prop :=
  ∀ (st : σ) (r : Account) (on on' : Timestamp), Alike (stamp st r on) (stamp st r on')

namespace Storage

theorem timeless : Backend.Timeless Storage := by
  intro st r on on'
  simp only [stamp, apply_persist]
  split
  · have hget : ∀ a,
        ((st.accounts.insert r.id { r with lastLogin := some on }).get? a).map Account.timeless
          = ((st.accounts.insert r.id { r with lastLogin := some on' }).get? a).map
            Account.timeless := by
      intro a
      rw [KeyedList.get?_insert, KeyedList.get?_insert]
      split <;> rfl
    refine ⟨hget, fun name => ?_, fun address => ?_, fun name => ?_⟩
    · -- the index of names is the same, and so the records that it leads to are alike
      show ((st.byName.get? name).bind _).map _ = ((st.byName.get? name).bind _).map _
      rcases st.byName.get? name with - | a
      · rfl
      · exact hget a
    · -- neither address nor characters are the last login
      refine KeyedList.any_insert ?_ st.accounts r.id
      rfl
    · refine KeyedList.any_insert ?_ st.accounts r.id
      rfl
  · exact .refl st

end Storage

namespace Outage

/-- A store with outages either refuses the record or hands it on. -/
theorem stamp_eq (o : Outage σ) (r : Account) (on : Timestamp) :
    stamp o r on = if o.refusesPersist then o else { o with store := stamp o.store r on } := by
  obtain ⟨st, refusesAdd, refusesDelete, refusesPersist⟩ := o
  cases refusesPersist with
  | true => rfl
  | false =>
    have hattempt : (Edit.persist { r with lastLogin := some on }).attempt
          (⟨st, refusesAdd, refusesDelete, false⟩ : Outage σ)
        = (Backend.persist st { r with lastLogin := some on }).map
          fun store => ⟨store, refusesAdd, refusesDelete, false⟩ := rfl
    simp only [stamp, Edit.apply, hattempt]
    simp only [Edit.attempt]
    rcases Backend.persist st { r with lastLogin := some on } with x | st' <;> rfl

theorem timeless (h : Backend.Timeless σ) : Backend.Timeless (Outage σ) := by
  intro o r on on'
  rw [stamp_eq, stamp_eq]
  split
  · exact .refl o
  · obtain ⟨hid, hname, hemail, hcharacter⟩ := h o.store r on on'
    exact ⟨hid, hname, hemail, hcharacter⟩

end Outage

end Lobby
