/-
Lobby/Proofs/Service/Creation.lean

New characters.

A new character is judged by a row of rules (`creationRules`), from the session that asks for it to its
attributes, and is refused with the outcome of the first one that it breaks.  If it breaks none it is
created: a record of an account that is stored can always be written back, and the slot fits its eight
bits.  `creation_cases` says so for the whole request; whoever passes is a novice
(`novice_of_checkCharacter`).
-/
import Lobby.Proofs.Rules
import Lobby.Proofs.Service.Replies

namespace Lobby

namespace Storage

/-- A character has a name if some account has such a character. -/
theorem characterNameExists_iff {st : Storage} {name : String} :
    st.characterNameExists name = true ↔
      ∃ a r, st.accounts.get? a = some r ∧ ∃ x ∈ r.characters, x.name = name := by
  simp only [characterNameExists, List.any_eq_true, decide_eq_true_eq, KeyedList.mem_values_iff]
  constructor
  · rintro ⟨r, ⟨a, hr⟩, x, hx, hname⟩
    exact ⟨a, r, hr, x, hx, hname⟩
  · rintro ⟨a, r, hr, x, hx, hname⟩
    exact ⟨r, ⟨a, hr⟩, x, hx, hname⟩

end Storage

namespace Service

section

variable {σ : Type} [Backend σ]

/-- The checks of a new character, one after the other. -/
theorem checkCharacter_eq_ite (s : Service σ) (a : Account) (name : String)
    (hairStyle hairColor gender : UInt8) (attributes : Attributes) :
    s.checkCharacter a name hairStyle hairColor gender attributes
      = if Rules.hasQuote name then .error .invalidArgument
        else if 7 < hairStyle then .error .invalidHairStyle
        else if 11 < hairColor then .error .invalidHairColor
        else if 1 < gender then .error .invalidGender
        else if !Rules.lengthWithin name 4 25 then .error .invalidArgument
        else if Backend.characterNameExists s.desk.storage name then .error .nameTaken
        else if maxCharacters ≤ a.characters.length then .error .tooManyCharacters
        else Rules.checkAttributes attributes := by
  rw [checkCharacter_eq]
  by_cases hquote : Rules.hasQuote name
  · rw [if_pos hquote, if_pos hquote]
  · -- of a name without quotes the length is all that is left to be checked
    have hname : Rules.validCharacterName name = Rules.lengthWithin name 4 25 := by
      simp [Rules.validCharacterName, hquote]
    simp only [Rules.checkAppearance, hname]
    split_ifs <;> rfl

/-- What is checked of a new character comes to the verdict of the rules. -/
theorem verdict_checkCharacter (s : Service σ) (a : Account) (name : String)
    (hairStyle hairColor gender : UInt8) (attributes : Attributes) {taken full : Prop}
    (htaken : Backend.characterNameExists s.desk.storage name = true ↔ taken)
    (hfull : maxCharacters ≤ a.characters.length ↔ full) :
    Rules.Verdict (Rules.characterRules taken full name hairStyle hairColor gender attributes)
      (Rules.outcome (s.checkCharacter a name hairStyle hairColor gender attributes)) := by
  rw [checkCharacter_eq_ite]
  refine .check Rules.hasQuote_iff _ ?_
  refine .check .rfl _ (.check .rfl _ (.check .rfl _ ?_))
  have hlength : (!Rules.lengthWithin name 4 25) = true ↔ ¬ (4 ≤ name.length ∧ name.length ≤ 25) := by
    rw [Bool.not_eq_true', ← Bool.not_eq_true, Rules.lengthWithin_iff]
  refine .check hlength _ (.check htaken _ (.check hfull _ ?_))
  rw [Rules.checkAttributes, Rules.startingPoints, Rules.attributeSum_eq]
  exact .check .rfl _ (.check .rfl _ (.check (by simp) _ .passed))

/-- Whoever passes the checks is a novice. -/
theorem novice_of_checkCharacter {s : Service σ} {a : Account} {name : String}
    {hairStyle hairColor gender : UInt8} {attributes : Attributes}
    (h : s.checkCharacter a name hairStyle hairColor gender attributes = .ok ()) :
    (newCharacter s.config name hairStyle hairColor gender attributes).Novice s.config := by
  have hverdict := s.verdict_checkCharacter a name hairStyle hairColor gender attributes .rfl .rfl
  rw [h] at hverdict
  have hkept := (hverdict.ok_iff Rules.characterRules_refuse).mp rfl
  simp only [Rules.characterRules, List.forall_mem_cons, not_not, UInt8.not_lt,
    Nat.not_lt] at hkept
  obtain ⟨hquote, hstyle, hcolor, hgender, ⟨hleast, hmost⟩, -, -, hhigh, hlow, hzero, -⟩ := hkept
  refine ⟨⟨hleast, hmost, hquote⟩, hstyle, hcolor, hgender, ?_, Nat.le_antisymm hhigh hlow, rfl,
    rfl, rfl, rfl, rfl, rfl⟩
  intro n hn
  have hne : n ≠ 0 := fun h => hzero (h ▸ hn)
  exact UInt16.pos_iff_ne_zero.mpr hne

end

section

variable {s s' : Service Storage} {c : ConnectionId} {name : String}
  {hairStyle hairColor gender : UInt8} {attributes : Attributes}

/-- The rules for a new character of a connection, in the order in which they are checked. -/
def creationRules (s : Service Storage) (c : ConnectionId) (name : String)
    (hairStyle hairColor gender : UInt8) (attributes : Attributes) : List (Prop × Status) :=
  (s.currentAccount? c = none, .noLogin) ::
    Rules.characterRules
      (∃ a r, s.desk.storage.accounts.get? a = some r ∧ ∃ x ∈ r.characters, x.name = name)
      (∃ r, s.currentAccount? c = some r ∧ maxCharacters ≤ r.characters.length)
      name hairStyle hairColor gender attributes

theorem creationRules_refuse :
    ∀ rule ∈ s.creationRules c name hairStyle hairColor gender attributes, rule.2 ≠ .ok :=
  List.forall_mem_cons.mpr ⟨nofun, Rules.characterRules_refuse⟩

/-- Nobody has a character of the name if no rule is broken. -/
theorem free_of_verdict
    (h : Rules.Verdict (s.creationRules c name hairStyle hairColor gender attributes) .ok) :
    s.desk.storage.characterNameExists name = false := by
  have hkept := (h.ok_iff creationRules_refuse).mp rfl
  simp only [creationRules, Rules.characterRules, List.forall_mem_cons] at hkept
  obtain ⟨-, -, -, -, -, -, htaken, -⟩ := hkept
  exact Bool.eq_false_iff.mpr fun hexists => htaken (Storage.characterNameExists_iff.mp hexists)

/-- A connection's account has got a new character: it comes last in the record, its slot is the number
of those before it, and the connection is told of the success and sent the character, as it is, under its
slot.  Nothing else has happened. -/
structure Created (s s' : Service Storage) (c : ConnectionId) (x : Character) (r : Account)
    (slot : UInt8) : Prop where
  current : s.currentAccount? c = some r
  last : slot.toNat = r.characters.length
  after : ∃ info : CharacterSummary, info.slot = slot ∧ info.Shows x ∧
    s' = (s.withStorage { s.desk.storage with
      accounts := s.desk.storage.accounts.insert r.id
        { r with characters := r.characters ++ [x] } }).replyAll c
          [.characterCreateResponse .ok, .characterInfo info]

/-- A character that passes the checks is created. -/
theorem created_of_passed (hst : s.desk.storage.Sound) {r : Account}
    (hcurrent : s.currentAccount? c = some r)
    (hcheck : s.checkCharacter r name hairStyle hairColor gender attributes = .ok ())
    (hroom : r.characters.length < maxCharacters) (now : Moment) (draws : List Draw) :
    Created s (s.step (.request now draws c
        (.characterCreate name hairStyle hairColor gender attributes))) c
      (newCharacter s.config name hairStyle hairColor gender attributes) r
      (UInt8.ofNat r.characters.length) := by
  refine ⟨hcurrent, Account.toNat_slot hroom, ?_⟩
  let x := newCharacter s.config name hairStyle hairColor gender attributes
  let r' : Account := { r with characters := r.characters ++ [x] }
  let s' := s.withStorage { s.desk.storage with
    accounts := s.desk.storage.accounts.insert r.id r' }
  -- a record that is stored can be written back
  obtain ⟨hsession, hget⟩ := stored_of_currentAccount? hst hcurrent
  have hwritten : Backend.persist s.desk.storage r' = .ok s'.desk.storage :=
    Storage.persist_of_stored (a := r') hget
  have hpersist : s.persist r' = .ok s' := by
    simp only [persist, hwritten]
    rfl
  have hlast : r'.characters[(UInt8.ofNat r.characters.length).toNat]? = some x := by
    rw [Account.toNat_slot hroom]
    exact List.getElem?_concat_length
  have hlisted : s'.listingAt c (UInt8.ofNat r.characters.length)
      = [.characterInfo (x.summary (UInt8.ofNat r.characters.length))] := by
    have hafter : s'.currentAccount? c = some r' := currentAccount?_of_insert hsession rfl
    simp only [listingAt, hafter, Option.bind_some, hlast]
  refine ⟨x.summary (UInt8.ofNat r.characters.length), rfl, x.shows_summary _, ?_⟩
  simp only [step, handle, createCharacter, hcurrent, hcheck]
  rw [show s.persist _ = _ from hpersist]
  show (s'.reply c (.characterCreateResponse .ok)).sendCharacter c _ = _
  rw [reply_sendCharacter, hlisted]

/-- A new character is refused by the verdict of the rules, or it breaks none of them and is created. -/
theorem creation_cases (hst : s.desk.storage.Sound) (now : Moment) (draws : List Draw)
    (c : ConnectionId) (name : String) (hairStyle hairColor gender : UInt8)
    (attributes : Attributes) :
    let s' := s.step (.request now draws c
      (.characterCreate name hairStyle hairColor gender attributes))
    let rules := s.creationRules c name hairStyle hairColor gender attributes
    (∃ status, status ≠ .ok ∧ Rules.Verdict rules status ∧
      s' = s.reply c (.characterCreateResponse status)) ∨
    Rules.Verdict rules .ok ∧ ∃ r slot,
      Created s s' c (newCharacter s.config name hairStyle hairColor gender attributes) r slot := by
  intro s' rules
  have htaken : Backend.characterNameExists s.desk.storage name = true ↔
      ∃ a r, s.desk.storage.accounts.get? a = some r ∧ ∃ x ∈ r.characters, x.name = name :=
    Storage.characterNameExists_iff
  rcases hcurrent : s.currentAccount? c with - | r
  · refine .inl ⟨.noLogin, nofun, .broken hcurrent, ?_⟩
    simp only [s', step, handle, createCharacter, hcurrent]
  · have hlogin : ¬ s.currentAccount? c = none := by
      rw [hcurrent]
      exact Option.some_ne_none r
    have hfull : maxCharacters ≤ r.characters.length ↔
        ∃ r, s.currentAccount? c = some r ∧ maxCharacters ≤ r.characters.length := by
      simp [hcurrent]
    have hverdict :=
      s.verdict_checkCharacter r name hairStyle hairColor gender attributes htaken hfull
    rcases s.checkCharacter_cases r name hairStyle hairColor gender attributes with
      ⟨status, hne, hcheck⟩ | ⟨hcheck, -, hroom⟩ <;> rw [hcheck] at hverdict
    · refine .inl ⟨status, hne, .kept hlogin hverdict, ?_⟩
      simp only [s', step, handle, createCharacter, hcurrent, hcheck]
    · refine .inr ⟨.kept hlogin hverdict, r, UInt8.ofNat r.characters.length, ?_⟩
      exact created_of_passed hst hcurrent hcheck hroom now draws

end

end Service

end Lobby
