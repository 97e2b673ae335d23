/-
Lobby/Proofs/Storage/Changes.lean

Changes of the accounts, and the writes that make them.

The store in memory keeps an index of names beside the records and takes back whatever record it is
given.  What a change means does not depend on that: `Change.apply` makes it on a plain map from
numbers to records.  `Written` says with which write, and on which terms, the store makes a change.

While the index is that of the records (`Storage.Indexed`, kept by `Written.indexed`), a write does to
the records what its change does to the plain map (`Written.records`).
-/
import Lobby.Proofs.Storage.Edits

namespace Lobby

/-! ### Changes -/

/-- What may be changed in the record of an account. -/
inductive Amendment where
  | email (address : String)
  | password (secret : String)
  /-- A new character comes after all the others. -/
  | gain (x : Character)
  /-- The character in a slot goes; later ones move up. -/
  | lose (slot : Nat)
  | login (on : Timestamp)
deriving DecidableEq, Repr

/-- The record with the change. -/
def Amendment.apply : Amendment → Account → Account
  | email address, r => { r with emailDigest := digest address }
  | password secret, r => { r with passwordDigest := digest secret }
  | gain x, r => { r with characters := r.characters ++ [x] }
  | lose slot, r => { r with characters := r.characters.eraseIdx slot }
  | login on, r => { r with lastLogin := some on }

@[simp] theorem Amendment.id_apply (x : Amendment) (r : Account) : (x.apply r).id = r.id := by
  cases x <;> rfl

@[simp] theorem Amendment.name_apply (x : Amendment) (r : Account) : (x.apply r).name = r.name := by
  cases x <;> rfl

/-- A change of the accounts. -/
inductive Change where
  | registered (a : AccountId) (name password email : String) (on : Timestamp)
  | unregistered (name : String)
  | amended (a : AccountId) (x : Amendment)
deriving DecidableEq, Repr

/-- The accounts as a plain map. -/
abbrev Records := AccountId → Option Account

/-- The accounts after a change. -/
def Change.apply (m : Records) : Change → Records
  | registered a name password email on => fun b =>
    if a = b then some ⟨a, name, digest password, digest email, .normal, [], on, none⟩ else m b
  | unregistered name => fun b => (m b).filter (·.name ≠ name)
  | amended a x => fun b => if a = b then (m b).map x.apply else m b

/-- The number that a change gives to a new account. -/
def Change.newId? : Change → Option AccountId
  | registered a .. => some a
  | _ => none

/-! ### The index of names -/

namespace Storage

variable {st st' : Storage} {a b : AccountId} {r r' : Account} {name : String}

/-- Every record stands under its own number, which has been given, and the index has an account under
a name exactly if the account is stored and has the name. -/
structure Indexed (st : Storage) : Prop extends st.Sound where
  named : ∀ n a, st.byName.get? n = some a ↔ ∃ r, st.accounts.get? a = some r ∧ r.name = n

/-- No two accounts have one name. -/
theorem Indexed.unique (h : st.Indexed) (ha : st.accounts.get? a = some r)
    (hb : st.accounts.get? b = some r') (hname : r.name = r'.name) : a = b := by
  have hr := (h.named r.name a).mpr ⟨r, ha, rfl⟩
  have hr' := (h.named r.name b).mpr ⟨r', hb, hname.symm⟩
  exact Option.some.inj (hr.symm.trans hr')

/-- The account that is found under a name is the one that has it. -/
theorem Indexed.findByName_eq_some_iff (h : st.Indexed) :
    st.findByName name = some r ↔ ∃ a, st.accounts.get? a = some r ∧ r.name = name := by
  constructor
  · intro hfind
    obtain ⟨a, hindex, hget⟩ := Option.bind_eq_some_iff.mp hfind
    obtain ⟨r', hget', hname⟩ := (h.named name a).mp hindex
    cases hget.symm.trans hget'
    exact ⟨a, hget, hname⟩
  · rintro ⟨a, hget, hname⟩
    exact Option.bind_eq_some_iff.mpr ⟨a, (h.named name a).mpr ⟨r, hget, hname⟩, hget⟩

theorem indexed_empty : empty.Indexed where
  toSound := sound_empty
  named := by
    intro n a
    constructor
    · rintro ⟨⟩
    · rintro ⟨r, hr, -⟩
      cases hr

/-- The index has the name of a new account from then on. -/
theorem Indexed.add (hst : st.Indexed) (h : st.add r = .ok (a, st')) : st'.Indexed := by
  refine ⟨sound_add hst.toSound h, ?_⟩
  obtain ⟨hnew, rfl, rfl⟩ := add_eq h
  intro n b
  simp only [KeyedList.get?_insert]
  by_cases hn : r.name = n
  · subst hn
    rw [if_pos rfl]
    constructor
    · rintro ⟨⟩
      exact ⟨_, if_pos rfl, rfl⟩
    · rintro ⟨r', hr', hname⟩
      split at hr'
      · rename_i hb
        exact congrArg some hb
      · -- nobody else has the name, or the index would have had it
        have htaken := (hst.named r.name b).mpr ⟨r', hr', hname⟩
        rw [hnew] at htaken
        cases htaken
  · rw [if_neg hn, hst.named n b]
    constructor
    · rintro ⟨r', hr', hname⟩
      -- the next number is not that of an account that is there
      have hother : (⟨st.lastId + 1⟩ : AccountId) ≠ b := by
        rintro rfl
        rw [hst.next_unused] at hr'
        cases hr'
      exact ⟨r', (if_neg hother).trans hr', hname⟩
    · rintro ⟨r', hr', hname⟩
      split at hr'
      · cases hr'
        exact absurd hname hn
      · exact ⟨r', hr', hname⟩

/-- The name of an account that is deleted goes from the index, and no other one does. -/
theorem Indexed.delete (hst : st.Indexed) (h : st.delete a = .ok (r, st')) : st'.Indexed := by
  refine ⟨sound_delete hst.toSound h, ?_⟩
  obtain ⟨hget, rfl⟩ := delete_eq h
  intro n b
  simp only [KeyedList.get?_erase]
  by_cases hn : r.name = n
  · subst hn
    rw [if_pos rfl]
    constructor
    · rintro ⟨⟩
    · -- nobody else has had the name
      rintro ⟨r', hr', hname⟩
      split at hr'
      · cases hr'
      · rename_i hother
        exact absurd (hst.unique hget hr' hname.symm) hother
  · rw [if_neg hn, hst.named n b]
    constructor
    · rintro ⟨r', hr', hname⟩
      have hother : a ≠ b := by
        rintro rfl
        cases hget.symm.trans hr'
        exact absurd hname hn
      exact ⟨r', (if_neg hother).trans hr', hname⟩
    · rintro ⟨r', hr', hname⟩
      split at hr'
      · cases hr'
      · exact ⟨r', hr', hname⟩

/-- The index need not hear of a record that is written back under its name. -/
theorem Indexed.persist (hst : st.Indexed) (hget : st.accounts.get? r'.id = some r)
    (hname : r'.name = r.name) (h : st.persist r' = .ok st') : st'.Indexed := by
  refine ⟨sound_persist hst.toSound h, ?_⟩
  obtain ⟨-, rfl⟩ := persist_eq h
  intro n b
  simp only [KeyedList.get?_insert]
  rw [hst.named n b]
  -- whether a record has the name is what it was, for the one that is written back as for the others
  by_cases hb : r'.id = b
  · subst hb
    simp [hget, hname]
  · simp [hb]

/-- A new account is refused, or kept. -/
theorem apply_add_cases (st : Storage) (a : Account) :
    Edit.apply st (.add a) = st ∨ ∃ id, st.add a = .ok (id, Edit.apply st (.add a)) := by
  rcases h : Backend.add st a with e | ⟨id, st'⟩ <;> simp only [Edit.apply, Edit.attempt, h]
  · exact .inl rfl
  · exact .inr ⟨id, h⟩

/-- A store to which accounts have been added, and nothing else has been done, is indexed. -/
theorem indexed_ofEdits_add (accounts : List Account) : (ofEdits (accounts.map .add)).Indexed := by
  refine List.foldlRecOn _ Edit.apply indexed_empty ?_
  intro st hst e he
  obtain ⟨a, -, rfl⟩ := List.mem_map.mp he
  rcases apply_add_cases st a with hkept | ⟨id, hadd⟩
  · rw [hkept]
    exact hst
  · exact hst.add hadd

/-! ### The writes -/

/-- Whether nobody has the e-mail address or the name that an amendment would give away. -/
def Allows (st : Storage) : Amendment → Prop
  | .email address => st.emailExists address = false
  | .gain x => st.characterNameExists x.name = false
  | _ => True

/-- The store is written to at most once, which makes a change. -/
inductive Written (st : Storage) : Storage → List Change → Prop where
  | kept : Written st st []
  | registered {st' : Storage} {a : AccountId} {name password email : String} {on : Timestamp} :
      st.emailExists email = false →
      st.add (Account.create name password email on) = .ok (a, st') →
      Written st st' [.registered a name password email on]
  | unregistered {st' : Storage} {a : AccountId} {r : Account} {name : String} :
      st.byName.get? name = some a → st.delete a = .ok (r, st') →
      Written st st' [.unregistered name]
  | amended {st' : Storage} {r : Account} {x : Amendment} :
      st.accounts.get? r.id = some r → st.Allows x → st.persist (x.apply r) = .ok st' →
      Written st st' [.amended r.id x]

/-- A write leaves the index that of the records. -/
theorem Written.indexed {changes : List Change} (h : Written st st' changes) (hst : st.Indexed) :
    st'.Indexed := by
  cases h with
  | kept => exact hst
  | registered _ hadd => exact hst.add hadd
  | unregistered _ hdelete => exact hst.delete hdelete
  | @amended _ r x hget _ hpersist =>
    refine hst.persist ?_ (x.name_apply r) hpersist
    rw [x.id_apply]
    exact hget

/-- The store has the records that the changes make of those that it had. -/
theorem Written.records {changes : List Change} (h : Written st st' changes) (hst : st.Indexed) :
    st'.accounts.get? = changes.foldl Change.apply st.accounts.get? := by
  funext b
  cases h with
  | kept => rfl
  | registered _ hadd =>
    obtain ⟨-, -, rfl⟩ := add_eq hadd
    exact KeyedList.get?_insert ..
  | @unregistered _ a r name hindex hdelete =>
    obtain ⟨hget, rfl⟩ := delete_eq hdelete
    obtain ⟨r', hget', hname⟩ := (hst.named name a).mp hindex
    cases hget.symm.trans hget'
    show (st.accounts.erase a).get? b = (st.accounts.get? b).filter (·.name ≠ name)
    rw [KeyedList.get?_erase]
    rcases hb : st.accounts.get? b with - | r'
    · simp
    · -- the account of the name is the one that is deleted
      by_cases hab : a = b
      · subst hab
        cases hget.symm.trans hb
        simp [hname, Option.filter]
      · have hother : r'.name ≠ name := by
          intro hsame
          exact hab (hst.unique hget hb (hname.trans hsame.symm))
        simp [hab, hother, Option.filter]
  | @amended _ r x hget _ hpersist =>
    obtain ⟨-, rfl⟩ := persist_eq hpersist
    show (st.accounts.insert (x.apply r).id (x.apply r)).get? b
      = if r.id = b then (st.accounts.get? b).map x.apply else st.accounts.get? b
    rw [KeyedList.get?_insert, x.id_apply]
    by_cases hb : r.id = b
    · subst hb
      simp [hget]
    · simp [hb]

/-- A new account gets the next number. -/
theorem Written.newIds {changes : List Change} (h : Written st st' changes) :
    changes.filterMap Change.newId? = [] ∧ st'.lastId = st.lastId ∨
      changes.filterMap Change.newId? = [⟨st.lastId + 1⟩] ∧ st'.lastId = st.lastId + 1 := by
  cases h with
  | kept => exact .inl ⟨rfl, rfl⟩
  | registered _ hadd =>
    obtain ⟨-, rfl, rfl⟩ := add_eq hadd
    exact .inr ⟨rfl, rfl⟩
  | unregistered _ hdelete =>
    obtain ⟨-, rfl⟩ := delete_eq hdelete
    exact .inl ⟨rfl, rfl⟩
  | amended _ _ hpersist =>
    obtain ⟨-, rfl⟩ := persist_eq hpersist
    exact .inl ⟨rfl, rfl⟩

/-- The store is written to time and again. -/
inductive Writes : Storage → Storage → List Change → Prop where
  | nil (st : Storage) : Writes st st []
  | cons {st st₁ st' : Storage} {changes later : List Change} :
      Written st st₁ changes → Writes st₁ st' later → Writes st st' (changes ++ later)

theorem Writes.indexed {changes : List Change} (h : Writes st st' changes) (hst : st.Indexed) :
    st'.Indexed := by
  induction h with
  | nil => exact hst
  | cons hwritten _ ih => exact ih (hwritten.indexed hst)

/-- Over any number of writes, the records are those that the changes make on a plain map. -/
theorem Writes.records {changes : List Change} (h : Writes st st' changes) (hst : st.Indexed) :
    st'.accounts.get? = changes.foldl Change.apply st.accounts.get? := by
  induction h with
  | nil => rfl
  | cons hwritten _ ih =>
    rw [ih (hwritten.indexed hst), hwritten.records hst, List.foldl_append]

/-- Every new account gets a number above all that have been given before it. -/
theorem Writes.newIds {changes : List Change} (h : Writes st st' changes) :
    (∀ a ∈ changes.filterMap Change.newId?, st.lastId < a.val) ∧
      (changes.filterMap Change.newId?).Pairwise (·.val < ·.val) := by
  induction h with
  | nil => exact ⟨nofun, .nil⟩
  | cons hwritten _ ih =>
    obtain ⟨habove, hincrease⟩ := ih
    rw [List.filterMap_append]
    rcases hwritten.newIds with ⟨hnone, hlast⟩ | ⟨hone, hlast⟩ <;> rw [hlast] at habove
    · rw [hnone, List.nil_append]
      exact ⟨habove, hincrease⟩
    · -- later numbers are above the new one, which is above all that were given before
      rw [hone, List.singleton_append]
      refine ⟨?_, List.pairwise_cons.mpr ⟨habove, hincrease⟩⟩
      intro a ha
      rcases List.mem_cons.mp ha with rfl | ha
      · exact Nat.lt_succ_self _
      · exact Nat.lt_of_succ_lt (habove a ha)

end Storage

end Lobby
