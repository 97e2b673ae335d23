/-
Lobby/Proofs/Rules.lean

What the rules ask for, and which of them decides.

Rules are checked one after the other.  A row of rules has a `Verdict`: the first one that is broken
decides, and if none is broken the outcome is a success.  Checks that refuse one after the other come to
the verdict of their conditions (`Verdict.check`), so that each of them can be said by what it asks for
and not by how it is decided.

The rules for a new character are such a row (`characterRules`), and a character that breaks none of
them is a `Novice`.
-/
import Lobby.Config
import Lobby.Rules
import Mathlib.Algebra.GroupWithZero.Nat
import Mathlib.Tactic.SplitIfs

namespace Lobby

namespace Rules

/-! ### Texts -/

/-- A text has so many characters, and no double quote among them. -/
structure Fits (least most : Nat) (s : String) : Prop where
  least : least ≤ s.length
  most : s.length ≤ most
  unquoted : '"' ∉ s.toList

theorem hasQuote_iff {s : String} : hasQuote s = true ↔ '"' ∈ s.toList := by
  simp [hasQuote]

theorem lengthWithin_iff {s : String} {least most : Nat} :
    lengthWithin s least most = true ↔ least ≤ s.length ∧ s.length ≤ most := by
  simp [lengthWithin]

theorem fits_iff {s : String} {least most : Nat} :
    (!hasQuote s && lengthWithin s least most) = true ↔ Fits least most s := by
  rw [Bool.and_eq_true, Bool.not_eq_true', ← Bool.not_eq_true, hasQuote_iff, lengthWithin_iff]
  constructor
  · rintro ⟨hquote, hleast, hmost⟩
    exact ⟨hleast, hmost, hquote⟩
  · intro h
    exact ⟨h.unquoted, h.least, h.most⟩

theorem validUsername_iff {s : String} : validUsername s = true ↔ Fits 4 16 s := fits_iff

theorem validPassword_iff {s : String} : validPassword s = true ↔ Fits 4 25 s := fits_iff

/-! ### Attributes -/

/-- The sum of some attributes.  It is taken of numbers, which do not wrap. -/
theorem attributeSum_eq (a : Attributes) :
    attributeSum a = (a.toList.map UInt16.toNat).sum := by
  rw [attributeSum, List.sum_eq_foldl, List.foldl_map]

/-! ### Verdicts -/

/-- The verdict of a row of rules, each of them a condition that may not hold and the outcome if it
does. -/
inductive Verdict : List (Prop × Status) → Status → Prop where
  | passed : Verdict [] .ok
  | broken {p : Prop} {status : Status} {rules : List (Prop × Status)} :
      p → Verdict ((p, status) :: rules) status
  | kept {p : Prop} {status outcome : Status} {rules : List (Prop × Status)} :
      ¬ p → Verdict rules outcome → Verdict ((p, status) :: rules) outcome

/-- The outcome of a check. -/
def outcome {α : Type} : Except Status α → Status
  | .ok _ => .ok
  | .error status => status

variable {rules : List (Prop × Status)}

/-- Whoever passes keeps all rules, and whoever keeps all rules passes. -/
theorem Verdict.ok_iff (hrules : ∀ rule ∈ rules, rule.2 ≠ .ok) {status : Status}
    (h : Verdict rules status) : status = .ok ↔ ∀ rule ∈ rules, ¬ rule.1 := by
  induction h with
  | passed => exact iff_of_true rfl (List.forall_mem_nil _)
  | @broken p status rules hp =>
    refine iff_of_false (hrules (p, status) (List.mem_cons_self ..)) ?_
    exact fun hall => hall (p, status) (List.mem_cons_self ..) hp
  | @kept p status outcome rules hp _ ih =>
    rw [List.forall_mem_cons] at hrules ⊢
    rw [ih hrules.2]
    exact (and_iff_right hp).symm

/-- A check that refuses before others do is a rule before theirs. -/
theorem Verdict.check {α : Type} {p q : Prop} [Decidable p] (hpq : p ↔ q) (status : Status)
    {rest : Except Status α} (h : Verdict rules (outcome rest)) :
    Verdict ((q, status) :: rules) (outcome (if p then .error status else rest)) := by
  split_ifs with hp
  · exact .broken (hpq.mp hp)
  · exact .kept (fun hq => hp (hpq.mpr hq)) h

/-! ### New characters -/

/-- The rules for a new character, in the order in which they are checked: `taken` says that its name
is in use, and `full` that there is no room for it. -/
def characterRules (taken full : Prop) (name : String) (hairStyle hairColor gender : UInt8)
    (attributes : Attributes) : List (Prop × Status) :=
  [('"' ∈ name.toList, .invalidArgument),
    (7 < hairStyle, .invalidHairStyle),
    (11 < hairColor, .invalidHairColor),
    (1 < gender, .invalidGender),
    (¬ (4 ≤ name.length ∧ name.length ≤ 25), .invalidArgument),
    (taken, .nameTaken),
    (full, .tooManyCharacters),
    (60 < (attributes.toList.map UInt16.toNat).sum, .attributesTooHigh),
    ((attributes.toList.map UInt16.toNat).sum < 60, .attributesTooLow),
    (0 ∈ attributes.toList, .attributeZero)]

theorem characterRules_refuse {taken full : Prop} {name : String}
    {hairStyle hairColor gender : UInt8} {attributes : Attributes} :
    ∀ rule ∈ characterRules taken full name hairStyle hairColor gender attributes,
      rule.2 ≠ .ok := by
  simp [characterRules]

end Rules

/-- A character as it is when it is new. -/
structure Character.Novice (config : AccountConfig) (x : Character) : Prop where
  name : Rules.Fits 4 25 x.name
  hairStyle : x.hairStyle ≤ 7
  hairColor : x.hairColor ≤ 11
  gender : x.gender ≤ 1
  attributes : ∀ n ∈ x.attributes.toList, 1 ≤ n
  points : (x.attributes.toList.map UInt16.toNat).sum = 60
  level : x.level = 1
  experience : x.experience = 0
  correctionPoints : x.correctionPoints = 0
  money : x.money = 0
  map : x.map = config.defaultMap
  position : x.position = config.startPosition

end Lobby
