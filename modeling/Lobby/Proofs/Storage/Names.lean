/-
Lobby/Proofs/Storage/Names.lean

What the index of names knows.

The index is written to by two of the three operations that change a store: an account that is added
enters it under its name, and with an account that is deleted the name goes that the record has by then.
A record that is written back leaves the index alone, also if it comes back under another name.  So the
index has the names under which accounts were added, until an account that is called so is deleted
(`byName_storeAt_iff`), and in a run that renames nobody these are the names of the accounts
(`NamesRight`, `index_is_right_without_renaming`).

After a renaming they are not (`renaming_breaks_the_index`): the account cannot be found under its new
name, is found under the old one, and a later deletion takes the new name from the index, where it may be
somebody else's, and leaves the old one.
-/
import Lobby.Proofs.History
import Lobby.Proofs.Storage.Changes

namespace Lobby

/-- An edit is refused, or made. -/
theorem Edit.apply_cases {σ : Type} [Backend σ] (st : σ) (e : Edit) :
    e.apply st = st ∨ e.attempt st = .ok (e.apply st) := by
  unfold Edit.apply
  cases e.attempt st with
  | error _ => exact .inl rfl
  | ok _ => exact .inr rfl

namespace Storage

variable {st st' : Storage} {a b : AccountId} {r r' : Account} {name : String}

/-! ### What an edit does to the index -/

/-- An edit adds an account under a name. -/
inductive Adds (st : Storage) : Edit → String → AccountId → Prop where
  | intro {x : Account} {a : AccountId} {st' : Storage} :
      st.add x = .ok (a, st') → Adds st (.add x) x.name a

/-- An edit deletes an account that is called by a name. -/
inductive Frees (st : Storage) : Edit → String → Prop where
  | intro {a : AccountId} {r : Account} {st' : Storage} :
      st.delete a = .ok (r, st') → Frees st (.delete a) r.name

theorem not_adds_delete : ¬ st.Adds (.delete b) name a := by rintro ⟨⟩

theorem not_adds_persist : ¬ st.Adds (.persist r) name a := by rintro ⟨⟩

theorem not_frees_add : ¬ st.Frees (.add r) name := by rintro ⟨⟩

theorem not_frees_persist : ¬ st.Frees (.persist r) name := by rintro ⟨⟩

/-- An edit that succeeds makes the store that it returns. -/
theorem apply_of_ok {e : Edit} (h : e.attempt st = .ok st') : e.apply st = st' := by
  rw [Edit.apply, h]

/-- An edit that fails leaves the store as it was. -/
theorem apply_of_error {e : Edit} {err : StorageError} (h : e.attempt st = .error err) :
    e.apply st = st := by
  rw [Edit.apply, h]

/-- What an addition and a deletion try is to make the store, whatever else they return. -/
theorem attempt_add (st : Storage) (x : Account) :
    (Edit.add x).attempt st = (st.add x).map Prod.snd := rfl

theorem attempt_delete (st : Storage) (b : AccountId) :
    (Edit.delete b).attempt st = (st.delete b).map Prod.snd := rfl

theorem byName_apply_add (st : Storage) (x : Account) (name : String) (a : AccountId) :
    ((Edit.add x).apply st).byName.get? name = some a
      ↔ st.Adds (.add x) name a ∨ st.byName.get? name = some a := by
  rcases h : st.add x with err | ⟨id, st'⟩
  · have hadds : ¬ st.Adds (.add x) name a := by
      rintro ⟨hadd⟩
      rw [h] at hadd
      cases hadd
    rw [apply_of_error (by rw [attempt_add, h]; rfl)]
    simp [hadds]
  · have hadds : st.Adds (.add x) name a ↔ x.name = name ∧ id = a := by
      constructor
      · rintro ⟨hadd⟩
        cases h.symm.trans hadd
        exact ⟨rfl, rfl⟩
      · rintro ⟨rfl, rfl⟩
        exact .intro h
    obtain ⟨hnew, -, hst'⟩ := add_eq h
    rw [apply_of_ok (by rw [attempt_add, h]; rfl), hadds, hst']
    show (st.byName.insert x.name id).get? name = some a ↔ _
    rw [KeyedList.get?_insert]
    -- under the name of the new account nothing was known before
    by_cases hname : x.name = name
    · subst hname
      simp [hnew]
    · simp [hname]

theorem byName_apply_delete (st : Storage) (b : AccountId) (name : String) (a : AccountId) :
    ((Edit.delete b).apply st).byName.get? name = some a
      ↔ st.byName.get? name = some a ∧ ¬ st.Frees (.delete b) name := by
  rcases h : st.delete b with err | ⟨r, st'⟩
  · have hfrees : ¬ st.Frees (.delete b) name := by
      rintro ⟨hdelete⟩
      rw [h] at hdelete
      cases hdelete
    rw [apply_of_error (by rw [attempt_delete, h]; rfl)]
    simp [hfrees]
  · have hfrees : st.Frees (.delete b) name ↔ r.name = name := by
      constructor
      · rintro ⟨hdelete⟩
        cases h.symm.trans hdelete
        rfl
      · rintro rfl
        exact .intro h
    obtain ⟨-, hst'⟩ := delete_eq h
    rw [apply_of_ok (by rw [attempt_delete, h]; rfl), hfrees, hst']
    show (st.byName.erase r.name).get? name = some a ↔ _
    rw [KeyedList.get?_erase]
    by_cases hname : r.name = name <;> simp [hname]

/-- The index does not hear of a record that is written back. -/
theorem byName_apply_persist (st : Storage) (r : Account) :
    ((Edit.persist r).apply st).byName = st.byName := by
  rw [apply_persist]
  split <;> rfl

/-- The index has an account under a name if it is added under it now, or was before and the name is not
freed. -/
theorem byName_apply_iff (st : Storage) (e : Edit) (name : String) (a : AccountId) :
    (e.apply st).byName.get? name = some a
      ↔ st.Adds e name a ∨ st.byName.get? name = some a ∧ ¬ st.Frees e name := by
  cases e with
  | add x => simp [byName_apply_add, not_frees_add]
  | delete b => simp [byName_apply_delete, not_adds_delete]
  | persist r => simp [byName_apply_persist, not_adds_persist, not_frees_persist]

/-! ### Runs -/

/-- The store of a run before its `n`-th edit.  A run starts with an empty store. -/
def storeAt (edits : List Edit) (n : Nat) : Storage := stateAt Edit.apply empty edits n

variable {edits : List Edit} {n : Nat}

theorem storeAt_succ {e : Edit} (he : edits[n]? = some e) :
    storeAt edits (n + 1) = e.apply (storeAt edits n) := stateAt_succ he

/-- **The index has the names under which accounts were added**, until an account that is called so by
then is deleted. -/
theorem byName_storeAt_iff (hn : n ≤ edits.length) (name : String) (a : AccountId) :
    (storeAt edits n).byName.get? name = some a
      ↔ ∃ k e, k < n ∧ edits[k]? = some e ∧ (storeAt edits k).Adds e name a ∧
        ∀ j e', k < j → j < n → edits[j]? = some e' → ¬ (storeAt edits j).Frees e' name := by
  induction n with
  | zero =>
    constructor
    · rintro ⟨⟩
    · rintro ⟨k, -, hk, -⟩
      exact absurd hk (Nat.not_lt_zero k)
  | succ n ih =>
    obtain ⟨e, he⟩ := exists_event_of_lt hn
    rw [storeAt_succ he, byName_apply_iff, ih (Nat.le_of_succ_le hn)]
    constructor
    · rintro (hadds | ⟨⟨k, e', hk, he', hadds, hkept⟩, hfrees⟩)
      · refine ⟨n, e, Nat.lt_succ_self n, he, hadds, fun j _ hnj hj => ?_⟩
        exact absurd hnj (Nat.not_lt_of_le (Nat.le_of_lt_succ hj))
      · refine ⟨k, e', Nat.lt_succ_of_lt hk, he', hadds, fun j e'' hkj hj he'' => ?_⟩
        rcases Nat.lt_succ_iff_lt_or_eq.mp hj with hlt | rfl
        · exact hkept j e'' hkj hlt he''
        · rw [he, Option.some.injEq] at he''
          exact he'' ▸ hfrees
    · rintro ⟨k, e', hk, he', hadds, hkept⟩
      rcases Nat.lt_succ_iff_lt_or_eq.mp hk with hlt | rfl
      · refine .inr ⟨⟨k, e', hlt, he', hadds, fun j e'' hkj hj => ?_⟩, ?_⟩
        · exact hkept j e'' hkj (Nat.lt_succ_of_lt hj)
        · exact hkept n e hlt (Nat.lt_succ_self n) he
      · rw [he, Option.some.injEq] at he'
        exact .inl (he' ▸ hadds)

/-! ### Runs that rename nobody -/

/-- An edit does not rename: a record that it writes back has the name of the one in whose place it
comes. -/
def KeepsNames (st : Storage) : Edit → Prop
  | .persist r => ∀ old, st.accounts.get? r.id = some old → r.name = old.name
  | _ => True

/-- An edit that does not rename leaves the index that of the records. -/
theorem Indexed.apply (hst : st.Indexed) {e : Edit} (he : st.KeepsNames e) :
    (e.apply st).Indexed := by
  rcases e.apply_cases st with hkept | hmade
  · rw [hkept]
    exact hst
  · cases e with
    | add x =>
      obtain ⟨⟨id, st'⟩, hadd, heq⟩ := exists_of_map_eq_ok hmade
      exact heq ▸ hst.add hadd
    | delete a =>
      obtain ⟨⟨r, st'⟩, hdelete, heq⟩ := exists_of_map_eq_ok hmade
      exact heq ▸ hst.delete hdelete
    | persist r =>
      obtain ⟨⟨old, hold⟩, -⟩ := persist_eq hmade
      exact hst.persist hold (he old hold) hmade

theorem indexed_storeAt
    (h : ∀ k e, k < n → edits[k]? = some e → (storeAt edits k).KeepsNames e)
    (hn : n ≤ edits.length) :
    (storeAt edits n).Indexed := by
  induction n with
  | zero => exact indexed_empty
  | succ n ih =>
    obtain ⟨e, he⟩ := exists_event_of_lt hn
    rw [storeAt_succ he]
    have hbefore := ih (fun k e' hk => h k e' (Nat.lt_succ_of_lt hk)) (Nat.le_of_succ_le hn)
    exact hbefore.apply (h n e (Nat.lt_succ_self n) he)

/-- A new account is kept unless somebody has its name. -/
theorem Indexed.exists_add_iff (hst : st.Indexed) (x : Account) :
    (∃ a st', st.add x = .ok (a, st')) ↔ ∀ b r, st.accounts.get? b = some r → r.name ≠ x.name := by
  constructor
  · rintro ⟨a, st', hadd⟩ b r hr hname
    have htaken := (hst.named x.name b).mpr ⟨r, hr, hname⟩
    rw [(add_eq hadd).1] at htaken
    cases htaken
  · intro hfree
    have hnew : st.byName.get? x.name = none := by
      rcases hindex : st.byName.get? x.name with - | b
      · rfl
      · obtain ⟨r, hr, hname⟩ := (hst.named x.name b).mp hindex
        exact absurd hname (hfree b r hr)
    simp [Storage.add, KeyedList.contains, hnew]

/-- What names are worth in a store: an account is found under a name exactly if one is called so, and
then it is that one; no two are called the same; and a deletion leaves all others to be found under their
names, and every name that nobody has to be taken. -/
structure NamesRight (st : Storage) : Prop where
  found : ∀ name, (∃ r, st.findByName name = some r)
    ↔ ∃ a r, st.accounts.get? a = some r ∧ r.name = name
  called : ∀ name r, st.findByName name = some r → r.name = name
  unique : ∀ a b r r', st.accounts.get? a = some r → st.accounts.get? b = some r' →
    r.name = r'.name → a = b
  spared : ∀ a r st', st.delete a = .ok (r, st') → ∀ b r', st'.accounts.get? b = some r' →
    st'.findByName r'.name = some r'
  free : ∀ a r st', st.delete a = .ok (r, st') → ∀ x : Account,
    (∀ b r', st'.accounts.get? b = some r' → r'.name ≠ x.name) → ∃ b st'', st'.add x = .ok (b, st'')

theorem Indexed.namesRight (hst : st.Indexed) : st.NamesRight where
  found name := by
    constructor
    · rintro ⟨r, hr⟩
      obtain ⟨a, hget, hname⟩ := hst.findByName_eq_some_iff.mp hr
      exact ⟨a, r, hget, hname⟩
    · rintro ⟨a, r, hget, hname⟩
      exact ⟨r, hst.findByName_eq_some_iff.mpr ⟨a, hget, hname⟩⟩
  called name r hr := by
    obtain ⟨a, -, hname⟩ := hst.findByName_eq_some_iff.mp hr
    exact hname
  unique _ _ _ _ ha hb hname := hst.unique ha hb hname
  spared _ _ _ hdelete b _ hget := (hst.delete hdelete).findByName_eq_some_iff.mpr ⟨b, hget, rfl⟩
  free _ _ _ hdelete x := ((hst.delete hdelete).exists_add_iff x).mpr

/-- **The index is right as long as nobody is renamed.**  In every run from an empty store, whatever is
added, deleted and written back, the index has exactly the names under which accounts were added and that
no deletion of an account called so has freed since.  While no record has been written back under another
name than that of the record in whose place it came, these are the names of the accounts: everybody is
found under the own name and nobody under another one, no two share a name, and a deletion neither loses
anybody else nor keeps a name taken. -/
theorem index_is_right_without_renaming (edits : List Edit) (n : Nat) (hn : n ≤ edits.length) :
    (∀ name a, (storeAt edits n).byName.get? name = some a
      ↔ ∃ k e, k < n ∧ edits[k]? = some e ∧ (storeAt edits k).Adds e name a ∧
        ∀ j e', k < j → j < n → edits[j]? = some e' → ¬ (storeAt edits j).Frees e' name) ∧
    ((∀ k e, k < n → edits[k]? = some e → (storeAt edits k).KeepsNames e) →
      (storeAt edits n).NamesRight) :=
  ⟨byName_storeAt_iff hn, fun h => (indexed_storeAt h hn).namesRight⟩

/-- Of two accounts the first one is given another password and then deleted: its name is free again, and
the second one is still found. -/
theorem deleted_account_frees_its_name :
    let dawn : Timestamp := ⟨0, 0, by decide, by decide⟩
    let ann : Account := ⟨⟨0⟩, "ann", "", "", .normal, [], dawn, none⟩
    let bob : Account := ⟨⟨0⟩, "bob", "", "", .normal, [], dawn, none⟩
    let edits : List Edit :=
      [.add ann, .add bob, .persist { ann with id := ⟨1⟩, passwordDigest := "new" }, .delete ⟨1⟩]
    (∀ k e, k < 4 → edits[k]? = some e → (storeAt edits k).KeepsNames e) ∧
      (storeAt edits 4).NamesRight ∧
      (storeAt edits 4).findByName "ann" = none ∧
      (storeAt edits 4).findByName "bob" = some { bob with id := ⟨2⟩ } := by
  intro dawn ann bob edits
  have hkept : ∀ k e, k < 4 → edits[k]? = some e → (storeAt edits k).KeepsNames e := by
    rintro (_ | _ | _ | _ | k) e - he
    · cases he; trivial
    · cases he; trivial
    · cases he
      intro old hold
      have hann : (storeAt edits 2).accounts.get? ⟨1⟩ = some { ann with id := ⟨1⟩ } := by decide +kernel
      cases hann.symm.trans hold
      rfl
    · cases he; trivial
    · cases he
  exact ⟨hkept, (index_is_right_without_renaming edits 4 (by decide)).2 hkept, by decide +kernel,
    by decide +kernel⟩

/-- The index is not right in every run: an account that was added as `alice` and written back as `bob`
is not found as `bob`. -/
theorem renaming_breaks_the_index : ¬ ∀ (edits : List Edit) (n : Nat), (storeAt edits n).NamesRight := by
  let dawn : Timestamp := ⟨0, 0, by decide, by decide⟩
  let alice : Account := ⟨⟨0⟩, "alice", "", "", .normal, [], dawn, none⟩
  let bob : Account := { alice with id := ⟨1⟩, name := "bob" }
  let edits : List Edit := [.add alice, .persist bob]
  have hstored : (storeAt edits 2).accounts.get? ⟨1⟩ = some bob := by decide +kernel
  have hlost : (storeAt edits 2).findByName "bob" = none := by decide +kernel
  intro hall
  obtain ⟨r, hr⟩ := ((hall edits 2).found "bob").mpr ⟨⟨1⟩, bob, hstored, rfl⟩
  rw [hlost] at hr
  cases hr

end Storage

end Lobby
