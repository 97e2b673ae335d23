/-
Lobby/Proofs/Account.lean

What is seen of an account.

Of a character a client sees everything but where it is (`CharacterSummary.Shows`), and of an account all
characters from some place on, each under the slot that is its place (`Account.Lists`).  A slot has eight
bits, which is enough as long as an account has no more characters than it may have
(`Account.Lists.toNat_slot`).
-/
import Lobby.Account

namespace Lobby

/-! ### Levels -/

theorem Account.isBanned_iff {r : Account} : r.isBanned = true ↔ r.level = .banned :=
  decide_eq_true_iff

theorem Account.isBanned_eq_false_iff {r : Account} : r.isBanned = false ↔ r.level ≠ .banned :=
  decide_eq_false_iff_not

/-! ### Characters -/

/-- A summary shows a character: whatever a client may see of it, as it is. -/
structure CharacterSummary.Shows (info : CharacterSummary) (x : Character) : Prop where
  name : info.name = x.name
  gender : info.gender = x.gender
  hairStyle : info.hairStyle = x.hairStyle
  hairColor : info.hairColor = x.hairColor
  level : info.level = x.level
  experience : info.experience = x.experience
  correctionPoints : info.correctionPoints = x.correctionPoints
  money : info.money = x.money
  attributes : info.attributes = x.attributes

theorem Character.shows_summary (x : Character) (slot : UInt8) : (x.summary slot).Shows x :=
  ⟨rfl, rfl, rfl, rfl, rfl, rfl, rfl, rfl, rfl⟩

/-! ### Records -/

namespace Account

/-- Characters of a record are listed from some place on: as many as there are, each as it is, and under
the slot that is its place. -/
structure Lists (r : Account) (first : Nat) (infos : List CharacterSummary) : Prop where
  length : first + infos.length = r.characters.length
  slots : ∀ i info, infos[i]? = some info → info.slot = UInt8.ofNat (first + i) ∧
    ∃ x, r.characters[first + i]? = some x ∧ info.Shows x

variable {r : Account}

/-- The summaries of a record list all of its characters. -/
theorem lists_summaries (r : Account) : r.Lists 0 r.summaries where
  length := by rw [Nat.zero_add, summaries, List.length_mapIdx]
  slots := by
    intro i info hinfo
    rw [summaries, List.getElem?_mapIdx] at hinfo
    obtain ⟨x, hx, rfl⟩ := Option.map_eq_some_iff.mp hinfo
    rw [Nat.zero_add]
    exact ⟨rfl, x, hx, x.shows_summary _⟩

/-- A summary of the last character lists it. -/
theorem lists_last {x : Character} {info : CharacterSummary}
    (hlength : r.characters.length = info.slot.toNat + 1)
    (hx : r.characters[info.slot.toNat]? = some x) (hshows : info.Shows x) :
    r.Lists info.slot.toNat [info] where
  length := hlength.symm
  slots := by
    intro i info' hinfo
    obtain ⟨hi, rfl⟩ := List.getElem?_eq_some_iff.mp hinfo
    obtain rfl : i = 0 := Nat.lt_one_iff.mp hi
    exact ⟨UInt8.ofNat_toNat.symm, x, hx, hshows⟩

/-- Slots have eight bits, which is enough for the characters of an account. -/
theorem toNat_slot {n : Nat} (h : n < maxCharacters) : (UInt8.ofNat n).toNat = n :=
  UInt8.toNat_ofNat_of_lt' (Nat.lt_trans h (by decide))

/-- So a slot is a place, if there are no more characters than there may be. -/
theorem Lists.toNat_slot {first : Nat} {infos : List CharacterSummary} (h : r.Lists first infos)
    (hroom : r.characters.length ≤ maxCharacters) :
    ∀ i info, infos[i]? = some info → info.slot.toNat = first + i := by
  intro i info hinfo
  have hi : i < infos.length := (List.getElem?_eq_some_iff.mp hinfo).1
  have hplace : first + i < maxCharacters := by
    refine Nat.lt_of_lt_of_le ?_ hroom
    rw [← h.length]
    exact Nat.add_lt_add_left hi first
  rw [(h.slots i info hinfo).1, Account.toNat_slot hplace]

end Account

end Lobby
