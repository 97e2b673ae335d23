/-
Lobby/Proofs/Storage/Edits.lean

What a store is written to, and what it keeps.

Whoever uses a store changes it by its own operations only.  An `Edit` is one use of one of them, and
a store is `Faithful` if edits keep every record under the record's own number.  The store in memory
is faithful (`Storage.Sound`), and so is every store with outages that has a faithful one inside.
-/
import Lobby.Storage.Outage

namespace Lobby

variable {σ : Type} [Backend σ]

/-! ### Edits -/

/-- One use of an operation that changes a store. -/
inductive Edit where
  | add (a : Account)
  | delete (a : AccountId)
  | persist (a : Account)

/-- The store that an edit leads to, unless it is refused. -/
def Edit.attempt (st : σ) : Edit → Except StorageError σ
  | add a => (Backend.add st a).map Prod.snd
  | delete a => (Backend.delete st a).map Prod.snd
  | persist a => Backend.persist st a

/-- A store after an edit.  An edit that the store refuses changes nothing. -/
def Edit.apply (st : σ) (e : Edit) : σ :=
  match e.attempt st with
  | .ok st' => st'
  | .error _ => st

/-- A store is as it was, or was edited once. -/
def Edited (st st' : σ) : Prop := st' = st ∨ ∃ e : Edit, e.attempt st = .ok st'

theorem Edited.refl (st : σ) : Edited st st := .inl rfl

theorem edited_apply (st : σ) (e : Edit) : Edited st (e.apply st) := by
  simp only [Edit.apply]
  rcases h : e.attempt st with x | st'
  · exact .inl rfl
  · exact .inr ⟨e, h⟩

theorem exists_of_map_eq_ok {ε α β : Type} {r : Except ε α} {f : α → β} {b : β}
    (h : r.map f = .ok b) : ∃ a, r = .ok a ∧ f a = b := by
  cases r with
  | error e => cases h
  | ok a =>
    cases h
    exact ⟨a, rfl, rfl⟩

theorem edited_add {st st' : σ} {a : Account} {id : AccountId}
    (h : Backend.add st a = .ok (id, st')) : Edited st st' := by
  refine .inr ⟨.add a, ?_⟩
  show (Backend.add st a).map Prod.snd = _
  rw [h]
  rfl

theorem edited_delete {st st' : σ} {a : AccountId} {r : Account}
    (h : Backend.delete st a = .ok (r, st')) : Edited st st' := by
  refine .inr ⟨.delete a, ?_⟩
  show (Backend.delete st a).map Prod.snd = _
  rw [h]
  rfl

theorem edited_persist {st st' : σ} {a : Account} (h : Backend.persist st a = .ok st') :
    Edited st st' := .inr ⟨.persist a, h⟩

/-! ### Faithful stores -/

/-- A store that has every record under the record's own number, in all states that are sound;
edits lead from sound states to sound ones. -/
class Backend.Faithful (σ : Type) [Backend σ] where
  Sound : σ → Prop
  sound_attempt : ∀ {st st' : σ} (e : Edit), Sound st → e.attempt st = .ok st' → Sound st'
  id_of_findById : ∀ {st : σ} {a : AccountId} {r : Account},
    Sound st → Backend.findById st a = some r → r.id = a

theorem Edited.sound [Backend.Faithful σ] {st st' : σ} (h : Edited st st')
    (hst : Backend.Faithful.Sound st) : Backend.Faithful.Sound st' := by
  rcases h with rfl | ⟨e, he⟩
  · exact hst
  · exact Backend.Faithful.sound_attempt e hst he

/-! ### The store in memory -/

namespace Storage

/-- Every record stands under its own number, and no number is above the last one given. -/
structure Sound (st : Storage) : Prop where
  own : ∀ a r, st.accounts.get? a = some r → r.id = a
  given : ∀ a r, st.accounts.get? a = some r → a.val ≤ st.lastId

theorem sound_empty : Sound empty where
  own := by rintro a r ⟨⟩
  given := by rintro a r ⟨⟩

theorem Sound.get?_id {st : Storage} (h : st.Sound) {a : AccountId} {r : Account}
    (hget : st.accounts.get? a = some r) : st.accounts.get? r.id = some r := by
  rw [h.own a r hget]
  exact hget

/-- Credentials are those of a record that the index has under the name, and is kept under its own
number. -/
theorem Sound.of_verify {st : Storage} (h : st.Sound) {name password : String} {a : Account}
    (hverify : Backend.verify st name password = some a) :
    st.byName.get? name = some a.id ∧ st.accounts.get? a.id = some a ∧
      a.passwordDigest = digest password := by
  obtain ⟨hfind, hpassword⟩ := Option.filter_eq_some_iff.mp hverify
  obtain ⟨i, hname, hget⟩ := Option.bind_eq_some_iff.mp hfind
  obtain rfl : a.id = i := h.own i a hget
  exact ⟨hname, hget, of_decide_eq_true hpassword⟩

/-- The next number is not in use. -/
theorem Sound.next_unused {st : Storage} (h : st.Sound) :
    st.accounts.get? ⟨st.lastId + 1⟩ = none := by
  rcases hr : st.accounts.get? ⟨st.lastId + 1⟩ with - | r
  · rfl
  · exact absurd (h.given _ r hr) (Nat.not_succ_le_self _)

/-- A new account, whose name the index does not have, gets the next number and is kept under it. -/
theorem add_eq {st st' : Storage} {a : Account} {id : AccountId} (h : st.add a = .ok (id, st')) :
    st.byName.get? a.name = none ∧ id = ⟨st.lastId + 1⟩ ∧
      st' = ⟨st.accounts.insert id { a with id }, st.byName.insert a.name id, st.lastId + 1⟩ := by
  simp only [add] at h
  split at h <;> cases h
  rename_i hnew
  exact ⟨by simpa [KeyedList.contains] using hnew, rfl, rfl⟩

/-- An account that is deleted was kept, and goes together with its name. -/
theorem delete_eq {st st' : Storage} {a : AccountId} {r : Account}
    (h : st.delete a = .ok (r, st')) :
    st.accounts.get? a = some r ∧
      st' = { st with accounts := st.accounts.erase a, byName := st.byName.erase r.name } := by
  simp only [delete] at h
  split at h <;> cases h
  exact ⟨‹_›, rfl⟩

/-- A record is written back in the place of another one with its number. -/
theorem persist_eq {st st' : Storage} {a : Account} (h : st.persist a = .ok st') :
    (∃ old, st.accounts.get? a.id = some old) ∧
      st' = { st with accounts := st.accounts.insert a.id a } := by
  simp only [persist] at h
  split at h <;> cases h
  exact ⟨⟨_, ‹_›⟩, rfl⟩

theorem persist_of_stored {st : Storage} {a old : Account} (h : st.accounts.get? a.id = some old) :
    st.persist a = .ok { st with accounts := st.accounts.insert a.id a } := by
  simp only [persist, h]

/-- A record is written back if there is one under its number. -/
theorem apply_persist (st : Storage) (r : Account) :
    (Edit.persist r).apply st
      = if st.accounts.contains r.id then { st with accounts := st.accounts.insert r.id r }
        else st := by
  have hattempt : (Edit.persist r).attempt st = st.persist r := rfl
  simp only [Edit.apply, hattempt]
  rcases h : st.accounts.get? r.id with - | old <;> simp [persist, KeyedList.contains, h]

theorem get?_apply_persist (st : Storage) (r : Account) (a : AccountId) :
    ((Edit.persist r).apply st).accounts.get? a
      = if r.id = a then (st.accounts.get? a).map (fun _ => r) else st.accounts.get? a := by
  rw [apply_persist]
  by_cases ha : r.id = a
  · subst ha
    rcases h : st.accounts.get? r.id with - | old <;> simp [KeyedList.contains, h]
  · rw [if_neg ha]
    split
    · rw [KeyedList.get?_insert, if_neg ha]
    · rfl

theorem sound_add {st st' : Storage} (hst : st.Sound) {a : Account} {id : AccountId}
    (h : st.add a = .ok (id, st')) : st'.Sound := by
  obtain ⟨-, rfl, rfl⟩ := add_eq h
  refine ⟨fun i r hr => ?_, fun i r hr => ?_⟩ <;>
    rw [KeyedList.get?_insert] at hr <;> split at hr
  · rename_i hi
    cases hr
    exact hi
  · exact hst.own i r hr
  · rename_i hi
    subst hi
    exact Nat.le_refl _
  · exact Nat.le_succ_of_le (hst.given i r hr)

theorem sound_delete {st st' : Storage} (hst : st.Sound) {a : AccountId} {r : Account}
    (h : st.delete a = .ok (r, st')) : st'.Sound := by
  obtain ⟨-, rfl⟩ := delete_eq h
  have hleft : ∀ i r, (st.accounts.erase a).get? i = some r → st.accounts.get? i = some r := by
    intro i r hr
    rw [KeyedList.get?_erase] at hr
    split at hr
    · cases hr
    · exact hr
  exact ⟨fun i r hr => hst.own i r (hleft i r hr), fun i r hr => hst.given i r (hleft i r hr)⟩

theorem sound_persist {st st' : Storage} (hst : st.Sound) {a : Account}
    (h : st.persist a = .ok st') : st'.Sound := by
  obtain ⟨⟨old, hold⟩, rfl⟩ := persist_eq h
  refine ⟨fun i r hr => ?_, fun i r hr => ?_⟩ <;>
    rw [KeyedList.get?_insert] at hr <;> split at hr
  · rename_i hi
    cases hr
    exact hi
  · exact hst.own i r hr
  · -- the number has been in use before
    rename_i hi
    rw [← hi]
    exact hst.given a.id old hold
  · exact hst.given i r hr

instance : Backend.Faithful Storage where
  Sound := Sound
  sound_attempt := by
    intro st st' e hst h
    cases e with
    | add a =>
      obtain ⟨⟨id, st''⟩, hadd, rfl⟩ := exists_of_map_eq_ok h
      exact sound_add hst hadd
    | delete a =>
      obtain ⟨⟨r, st''⟩, hdelete, rfl⟩ := exists_of_map_eq_ok h
      exact sound_delete hst hdelete
    | persist a => exact sound_persist hst h
  id_of_findById := fun hst h => hst.own _ _ h

/-- The store that edits make of an empty one.  The fields of a store are its own, so that every store
in memory is made like this. -/
def ofEdits (edits : List Edit) : Storage := edits.foldl Edit.apply empty

theorem sound_ofEdits (edits : List Edit) : (ofEdits edits).Sound :=
  List.foldlRecOn edits Edit.apply sound_empty fun st hst e _ => (edited_apply st e).sound hst

end Storage

/-! ### Stores with outages -/

namespace Outage

/-- What a store with outages takes is taken by the store inside. -/
theorem attempt_store {o o' : Outage σ} {e : Edit} (h : e.attempt o = .ok o') :
    e.attempt o.store = .ok o'.store := by
  cases e with
  | add a =>
    obtain ⟨⟨id, o''⟩, hadd, rfl⟩ := exists_of_map_eq_ok h
    change (if o.refusesAdd then _ else _) = _ at hadd
    split at hadd
    · cases hadd
    · obtain ⟨⟨id', st⟩, hinner, heq⟩ := exists_of_map_eq_ok hadd
      cases heq
      show (Backend.add o.store a).map Prod.snd = _
      rw [hinner]
      rfl
  | delete a =>
    obtain ⟨⟨r, o''⟩, hdelete, rfl⟩ := exists_of_map_eq_ok h
    change (if o.refusesDelete then _ else _) = _ at hdelete
    split at hdelete
    · cases hdelete
    · obtain ⟨⟨r', st⟩, hinner, heq⟩ := exists_of_map_eq_ok hdelete
      cases heq
      show (Backend.delete o.store a).map Prod.snd = _
      rw [hinner]
      rfl
  | persist a =>
    change (if o.refusesPersist then _ else _) = _ at h
    split at h
    · cases h
    · obtain ⟨st, hinner, heq⟩ := exists_of_map_eq_ok h
      cases heq
      exact hinner

instance [Backend.Faithful σ] : Backend.Faithful (Outage σ) where
  Sound o := Backend.Faithful.Sound o.store
  sound_attempt := fun e hst h => Backend.Faithful.sound_attempt e hst (attempt_store h)
  id_of_findById := fun hst h =>
    Backend.Faithful.id_of_findById hst (show Backend.findById _ _ = _ from h)

end Outage

end Lobby
