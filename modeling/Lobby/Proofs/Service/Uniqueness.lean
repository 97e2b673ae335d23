/-
Lobby/Proofs/Service/Uniqueness.lean

What no two accounts share.

The store sees to it that no two accounts have one name.  That no two accounts have one e-mail address,
and no two characters one name, is up to the requests: each of them that gives an address or a name
away looks through the whole store before, and a write takes what it is told to.  A text is `Exclusive`
if one account at most uses it, and stays so if a change only takes what is free (`Exclusive.apply`).

Main result: `accounts_share_nothing`.
-/
import Lobby.Proofs.Service.Journal

namespace Lobby

/-! ### Texts that accounts use -/

variable {uses : Account → String → Prop} {m : Records}

/-- No account uses a text. -/
def Free (uses : Account → String → Prop) (m : Records) (text : String) : Prop :=
  ∀ a r, m a = some r → ¬ uses r text

/-- No two accounts use one text. -/
def Exclusive (uses : Account → String → Prop) (m : Records) : Prop :=
  ∀ a b r r' text, m a = some r → m b = some r' → uses r text → uses r' text → a = b

/-- A change takes into use what is free only. -/
def Change.TakesFree (uses : Account → String → Prop) (m : Records) : Change → Prop
  | registered a name password email on =>
    ∀ text, uses ⟨a, name, digest password, digest email, .normal, [], on, none⟩ text →
      Free uses m text
  | unregistered _ => True
  | amended _ x => ∀ r text, uses (x.apply r) text → uses r text ∨ Free uses m text

/-- What is used after a change was used before, by the same account, or it was free; and one account
at most takes something into use. -/
theorem used_before_or_taken {c : Change} (hc : c.TakesFree uses m) :
    ∃ taker, ∀ a r text, c.apply m a = some r → uses r text →
      (∃ r₀, m a = some r₀ ∧ uses r₀ text) ∨ a = taker ∧ Free uses m text := by
  cases c with
  | registered taker name password email on =>
    refine ⟨taker, ?_⟩
    intro a r text hr huses
    simp only [Change.apply] at hr
    split at hr
    · rename_i htaker
      cases hr
      exact .inr ⟨htaker.symm, hc text huses⟩
    · exact .inl ⟨r, hr, huses⟩
  | unregistered name =>
    -- nothing is taken into use, so that any account may be named
    refine ⟨⟨0⟩, ?_⟩
    intro a r text hr huses
    have hbefore : m a = some r := (Option.filter_eq_some_iff.mp hr).1
    exact .inl ⟨r, hbefore, huses⟩
  | amended taker x =>
    refine ⟨taker, ?_⟩
    intro a r text hr huses
    simp only [Change.apply] at hr
    split at hr
    · rename_i htaker
      obtain ⟨r₀, hr₀, rfl⟩ := Option.map_eq_some_iff.mp hr
      rcases hc r₀ text huses with hbefore | hfree
      · exact .inl ⟨r₀, hr₀, hbefore⟩
      · exact .inr ⟨htaker.symm, hfree⟩
    · exact .inl ⟨r, hr, huses⟩

/-- What no two accounts share stays so if a change takes what is free only. -/
theorem Exclusive.apply (h : Exclusive uses m) {c : Change} (hc : c.TakesFree uses m) :
    Exclusive uses (c.apply m) := by
  obtain ⟨taker, hused⟩ := used_before_or_taken hc
  intro a b r r' text ha hb hr hr'
  -- each of the two has used the text before or has just taken it; taken, it was nobody's before
  rcases hused a r text ha hr with ⟨r₀, ha₀, hr₀⟩ | ⟨hataker, hfree⟩
  · rcases hused b r' text hb hr' with ⟨r₁, hb₁, hr₁⟩ | ⟨-, hfree⟩
    · exact h a b r₀ r₁ text ha₀ hb₁ hr₀ hr₁
    · exact absurd hr₀ (hfree a r₀ ha₀)
  · rcases hused b r' text hb hr' with ⟨r₁, hb₁, hr₁⟩ | ⟨hbtaker, -⟩
    · exact absurd hr₁ (hfree b r₁ hb₁)
    · rw [hataker, hbtaker]

/-! ### E-mail addresses and names of characters -/

namespace Account

/-- An account has an e-mail address of a digest. -/
def HasEmail (r : Account) (text : String) : Prop := r.emailDigest = text

/-- An account has a character of a name. -/
def HasCharacter (r : Account) (name : String) : Prop := name ∈ r.characters.map Character.name

end Account

namespace Storage

variable {st st' : Storage} {changes : List Change}

/-- Nobody has an e-mail address that the store does not find. -/
theorem free_of_emailExists {address : String} (h : st.emailExists address = false) :
    Free Account.HasEmail st.accounts.get? (digest address) := by
  intro a r hr huses
  have hnone := List.any_eq_false.mp h r (KeyedList.mem_values_iff.mpr ⟨a, hr⟩)
  exact hnone (decide_eq_true huses)

/-- Nobody has a character of a name that the store does not find. -/
theorem free_of_characterNameExists {name : String} (h : st.characterNameExists name = false) :
    Free Account.HasCharacter st.accounts.get? name := by
  intro a r hr huses
  have hnone := List.any_eq_false.mp h r (KeyedList.mem_values_iff.mpr ⟨a, hr⟩)
  obtain ⟨x, hx, hname⟩ := List.mem_map.mp huses
  exact hnone (List.any_eq_true.mpr ⟨x, hx, decide_eq_true hname⟩)

/-- The index is that of the records, no two accounts have one e-mail address, and every name of a
character occurs once, within an account as over all accounts. -/
structure Coherent (st : Storage) : Prop extends st.Indexed where
  emails : Exclusive Account.HasEmail st.accounts.get?
  owners : Exclusive Account.HasCharacter st.accounts.get?
  distinct : ∀ a r, st.accounts.get? a = some r → (r.characters.map Character.name).Nodup

/-- What no two accounts share stays so in a write that takes what is free only. -/
theorem Written.exclusive (h : Written st st' changes) (hst : st.Indexed)
    (hbefore : Exclusive uses st.accounts.get?)
    (hfree : ∀ c ∈ changes, c.TakesFree uses st.accounts.get?) :
    Exclusive uses st'.accounts.get? := by
  rw [h.records hst]
  cases h with
  | kept => exact hbefore
  | registered => exact hbefore.apply (hfree _ (List.mem_singleton_self _))
  | unregistered => exact hbefore.apply (hfree _ (List.mem_singleton_self _))
  | amended => exact hbefore.apply (hfree _ (List.mem_singleton_self _))

/-- Whoever is given an e-mail address is given a free one. -/
theorem Written.takes_free_email (h : Written st st' changes) :
    ∀ c ∈ changes, c.TakesFree Account.HasEmail st.accounts.get? := by
  cases h with
  | kept => exact List.forall_mem_nil _
  | registered hfree _ =>
    refine List.forall_mem_singleton.mpr ?_
    rintro text ⟨⟩
    exact free_of_emailExists hfree
  | unregistered => exact List.forall_mem_singleton.mpr trivial
  | @amended _ r x _ hallowed _ =>
    refine List.forall_mem_singleton.mpr ?_
    intro r text huses
    cases x with
    | email address =>
      cases huses
      exact .inr (free_of_emailExists hallowed)
    | password | gain | lose | login => exact .inl huses

/-- A new character is given a free name. -/
theorem Written.takes_free_name (h : Written st st' changes) :
    ∀ c ∈ changes, c.TakesFree Account.HasCharacter st.accounts.get? := by
  cases h with
  | kept => exact List.forall_mem_nil _
  | registered =>
    -- a new account has no characters
    refine List.forall_mem_singleton.mpr ?_
    intro text huses
    exact absurd huses List.not_mem_nil
  | unregistered => exact List.forall_mem_singleton.mpr trivial
  | @amended _ r x _ hallowed _ =>
    refine List.forall_mem_singleton.mpr ?_
    intro r text huses
    cases x with
    | gain x =>
      have hmem : text ∈ (r.characters ++ [x]).map Character.name := huses
      rw [List.map_append, List.mem_append] at hmem
      rcases hmem with hbefore | hnew
      · exact .inl hbefore
      · cases List.mem_singleton.mp hnew
        exact .inr (free_of_characterNameExists hallowed)
    | lose slot => exact .inl (((List.eraseIdx_sublist ..).map Character.name).subset huses)
    | email | password | login => exact .inl huses

/-- An account has no two characters of one name, as a new one gets a name that nobody has. -/
theorem Written.distinct (h : Written st st' changes) (hst : st.Indexed)
    (hdistinct : ∀ a r, st.accounts.get? a = some r → (r.characters.map Character.name).Nodup)
    (a : AccountId) (r : Account) (hr : st'.accounts.get? a = some r) :
    (r.characters.map Character.name).Nodup := by
  rw [h.records hst] at hr
  cases h with
  | kept => exact hdistinct a r hr
  | registered _ _ =>
    simp only [List.foldl, Change.apply] at hr
    split at hr
    · cases hr
      exact List.nodup_nil
    · exact hdistinct a r hr
  | unregistered => exact hdistinct a r (Option.filter_eq_some_iff.mp hr).1
  | @amended _ r₀ x _ hallowed _ =>
    simp only [List.foldl, Change.apply] at hr
    split at hr
    · obtain ⟨r₁, hr₁, rfl⟩ := Option.map_eq_some_iff.mp hr
      have hbefore := hdistinct a r₁ hr₁
      cases x with
      | gain x =>
        show ((r₁.characters ++ [x]).map Character.name).Nodup
        rw [List.map_append]
        have hfree := free_of_characterNameExists hallowed a r₁ hr₁
        refine List.nodup_append.mpr ⟨hbefore, List.pairwise_singleton .., ?_⟩
        rintro name hname _ hx rfl
        cases List.mem_singleton.mp hx
        exact hfree hname
      | lose slot => exact hbefore.sublist ((List.eraseIdx_sublist ..).map Character.name)
      | email | password | login => exact hbefore
    · exact hdistinct a r hr

/-- A write leaves nothing shared. -/
theorem Written.coherent (h : Written st st' changes) (hst : st.Coherent) : st'.Coherent where
  toIndexed := h.indexed hst.toIndexed
  emails := h.exclusive hst.toIndexed hst.emails h.takes_free_email
  owners := h.exclusive hst.toIndexed hst.owners h.takes_free_name
  distinct := h.distinct hst.toIndexed hst.distinct

theorem Writes.coherent (h : Writes st st' changes) (hst : st.Coherent) : st'.Coherent := by
  induction h with
  | nil => exact hst
  | cons hwritten _ ih => exact ih (hwritten.coherent hst)

end Storage

/-! ### Runs -/

namespace Service

/-- **No two accounts share a name, an e-mail address or a character's name**, in any state that a
service comes to over a store in which they did not share any before it was started, while nobody but
the service writes to the store.  A name is found exactly if an account has it. -/
theorem accounts_share_nothing (config : AccountConfig) (rendezvous : RendezvousConfig)
    {storage : Storage} (hstorage : storage.Coherent) (servers : MapTable) {events : List Event}
    (hspare : ∀ e ∈ events, e.SparesStore) :
    let st := ((create config rendezvous storage servers).run events).desk.storage
    st.Coherent ∧
      (∀ a b r r', st.accounts.get? a = some r → st.accounts.get? b = some r' → r.name = r'.name →
        a = b) ∧
      ∀ name r, st.findByName name = some r ↔ ∃ a, st.accounts.get? a = some r ∧ r.name = name := by
  intro st
  have hs : (create config rendezvous storage servers).sessions.Lockstep :=
    Sessions.lockstep_empty _
  have hst : st.Coherent := (writes_run hs hstorage.toIndexed hspare).coherent hstorage
  refine ⟨hst, ?_, ?_⟩
  · intro a b r r' ha hb hname
    exact hst.toIndexed.unique ha hb hname
  · intro name r
    exact hst.toIndexed.findByName_eq_some_iff

/-- Somebody who was announced asks for a second character of a name that his first one has, and then
of another name. -/
theorem names_of_characters_differ :
    let dawn : Timestamp := ⟨0, 0, by decide, by decide⟩
    let looks : Attributes := #v[10, 10, 10, 10, 10, 10]
    let kate : Character := ⟨"Kate", 0, 1, 2, 3, 0, 0, 100, looks, ⟨1⟩, ⟨512, 512⟩⟩
    let ann : Account := ⟨⟨0⟩, "ann", "", "", .normal, [kate], dawn, none⟩
    let storage := Storage.ofEdits ([ann].map .add)
    let events : List Event :=
      [.connect ⟨5⟩, .announce ⟨1, dawn⟩ "gate" ⟨1⟩, .request ⟨2, dawn⟩ [] ⟨5⟩ (.reconnect "gate"),
        .request ⟨3, dawn⟩ [] ⟨5⟩ (.characterCreate "Kate" 0 0 0 looks),
        .request ⟨4, dawn⟩ [] ⟨5⟩ (.characterCreate "Lena" 0 0 0 looks)]
    let st := ((create .standard .standard storage .empty).run events).desk.storage
    st.Coherent ∧
      (st.accounts.get? ⟨1⟩).map (·.characters.map Character.name) = some ["Kate", "Lena"] := by
  intro dawn looks kate ann storage events st
  have hone : ∀ a r, storage.accounts.get? a = some r → a = ⟨1⟩ ∧ r = { ann with id := ⟨1⟩ } := by
    intro a r hr
    have hmem : (a, r) ∈ [((⟨1⟩ : AccountId), { ann with id := ⟨1⟩ })] :=
      KeyedList.get?_eq_some_iff.mp hr
    cases List.mem_singleton.mp hmem
    exact ⟨rfl, rfl⟩
  have hstorage : storage.Coherent := by
    refine ⟨Storage.indexed_ofEdits_add [ann], ?_, ?_, ?_⟩
    · intro a b r r' _ ha hb _ _
      rw [(hone a r ha).1, (hone b r' hb).1]
    · intro a b r r' _ ha hb _ _
      rw [(hone a r ha).1, (hone b r' hb).1]
    · intro a r hr
      rw [(hone a r hr).2]
      exact List.pairwise_singleton ..
  have hspare : ∀ e ∈ events, e.SparesStore := by simp [events, Event.SparesStore]
  have hnames : (st.accounts.get? ⟨1⟩).map (·.characters.map Character.name)
      = some ["Kate", "Lena"] := by decide +kernel
  obtain ⟨hcoherent, -, -⟩ := accounts_share_nothing .standard .standard hstorage .empty hspare
  exact And.intro hcoherent hnames

end Service

end Lobby
