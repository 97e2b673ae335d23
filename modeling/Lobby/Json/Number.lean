/-
Lobby/Json/Number.lean

Number literals, and what they denote.

A literal keeps its digits.  It denotes an integer if it has neither a fraction nor an exponent and
is not a negative zero (`int?`); whether it lies within the doubles is asked of its digits in exact
arithmetic (`inRange`), never of a floating-point value.
-/
import Lobby.Text.Decimal

namespace Lobby.Json

open Lobby.Text

/-- A number literal: its sign, the digits before and after the point (none when there is no
point), and the sign and digits of its exponent. -/
structure Number where
  negative : Bool
  whole : List UInt8
  fraction : List UInt8
  exponent : Option (Bool × List UInt8)
deriving DecidableEq, Repr

namespace Number

/-! ### Reading a literal -/

/-- The fraction at the head of a row of bytes: a point needs a digit after it. -/
def scanFraction : List UInt8 → Option (List UInt8 × List UInt8)
  | [] => some ([], [])
  | b :: rest =>
    if b = 0x2E then
      if (rest.takeWhile Decimal.isDigit).isEmpty then none
      else some (rest.takeWhile Decimal.isDigit, rest.dropWhile Decimal.isDigit)
    else some ([], b :: rest)

/-- The digits of an exponent with its sign: there is at least one. -/
def scanPower (negative : Bool) (bs : List UInt8) :
    Option (Option (Bool × List UInt8) × List UInt8) :=
  if (bs.takeWhile Decimal.isDigit).isEmpty then none
  else some (some (negative, bs.takeWhile Decimal.isDigit), bs.dropWhile Decimal.isDigit)

/-- The exponent at the head of a row of bytes, in either case and with or without a sign. -/
def scanExponent : List UInt8 → Option (Option (Bool × List UInt8) × List UInt8)
  | [] => some (none, [])
  | b :: rest =>
    if b = 0x65 ∨ b = 0x45 then
      match rest with
      | [] => none
      | s :: after =>
        if s = 0x2D then scanPower true after
        else if s = 0x2B then scanPower false after
        else scanPower false (s :: after)
    else some (none, b :: rest)

/-- The digits before the point: at least one, and a leading zero stands alone. -/
def wholeOk (digits : List UInt8) : Bool :=
  match digits with
  | [] => false
  | [_] => true
  | d :: _ => d != 0x30

/-- A literal without its sign. -/
def scanUnsigned (negative : Bool) (bs : List UInt8) : Option (Number × List UInt8) :=
  if wholeOk (bs.takeWhile Decimal.isDigit) then
    match scanFraction (bs.dropWhile Decimal.isDigit) with
    | none => none
    | some (fraction, rest) =>
      match scanExponent rest with
      | none => none
      | some (exponent, rest) =>
        some (⟨negative, bs.takeWhile Decimal.isDigit, fraction, exponent⟩, rest)
  else none

/-- The longest number literal at the head of a row of bytes, and the bytes after it. -/
def scan : List UInt8 → Option (Number × List UInt8)
  | [] => none
  | b :: rest => if b = 0x2D then scanUnsigned true rest else scanUnsigned false (b :: rest)

theorem length_dropWhile_le (p : UInt8 → Bool) (bs : List UInt8) :
    (bs.dropWhile p).length ≤ bs.length :=
  (List.dropWhile_sublist p).length_le

theorem scanFraction_length_le {bs rest f : List UInt8} (h : scanFraction bs = some (f, rest)) :
    rest.length ≤ bs.length := by
  unfold scanFraction at h
  split at h
  · simp_all
  · split at h
    · split at h
      · exact absurd h (by simp)
      · obtain ⟨-, rfl⟩ := Prod.mk.inj (Option.some.inj h)
        rename_i tail _ _
        have := length_dropWhile_le Decimal.isDigit tail
        simp only [List.length_cons]
        omega
    · obtain ⟨-, rfl⟩ := Prod.mk.inj (Option.some.inj h)
      exact Nat.le_refl _

theorem scanPower_length_le {s : Bool} {bs rest : List UInt8} {e : Option (Bool × List UInt8)}
    (h : scanPower s bs = some (e, rest)) : rest.length ≤ bs.length := by
  unfold scanPower at h
  split at h
  · exact absurd h (by simp)
  · obtain ⟨-, rfl⟩ := Prod.mk.inj (Option.some.inj h)
    exact length_dropWhile_le _ _

theorem scanExponent_length_le {bs rest : List UInt8} {e : Option (Bool × List UInt8)}
    (h : scanExponent bs = some (e, rest)) : rest.length ≤ bs.length := by
  unfold scanExponent at h
  split at h
  · simp_all
  · split at h
    · split at h
      · exact absurd h (by simp)
      · simp only [List.length_cons]
        split at h
        · have := scanPower_length_le h
          omega
        · split at h
          · have := scanPower_length_le h
            omega
          · have := scanPower_length_le h
            simp only [List.length_cons] at this
            omega
    · obtain ⟨-, rfl⟩ := Prod.mk.inj (Option.some.inj h)
      exact Nat.le_refl _

theorem scanUnsigned_length_lt {s : Bool} {bs rest : List UInt8} {n : Number}
    (h : scanUnsigned s bs = some (n, rest)) : rest.length < bs.length := by
  unfold scanUnsigned at h
  split at h
  · rename_i hok
    have hwhole : 0 < (bs.takeWhile Decimal.isDigit).length := by
      cases hw : bs.takeWhile Decimal.isDigit with
      | nil => simp [hw, wholeOk] at hok
      | cons d ds => simp
    have hsplit : (bs.takeWhile Decimal.isDigit).length + (bs.dropWhile Decimal.isDigit).length
        = bs.length := by
      rw [← List.length_append, List.takeWhile_append_dropWhile]
    split at h
    · exact absurd h (by simp)
    · rename_i hf
      have hfraction := scanFraction_length_le hf
      split at h
      · exact absurd h (by simp)
      · rename_i he
        have hexponent := scanExponent_length_le he
        obtain ⟨-, rfl⟩ := Prod.mk.inj (Option.some.inj h)
        omega
  · exact absurd h (by simp)

theorem scan_length_lt {bs rest : List UInt8} {n : Number} (h : scan bs = some (n, rest)) :
    rest.length < bs.length := by
  unfold scan at h
  split at h
  · exact absurd h (by simp)
  · split at h
    · have := scanUnsigned_length_lt h
      simp only [List.length_cons]
      omega
    · exact scanUnsigned_length_lt h

/-! ### Integers -/

/-- The integer that a literal denotes.  A literal with a fraction or an exponent denotes none,
whatever its value, and neither does a negative zero. -/
def int? (n : Number) : Option Int :=
  if n.fraction.isEmpty && n.exponent.isNone then
    if n.negative then
      if Decimal.value n.whole = 0 then none else some (-(Decimal.value n.whole : Int))
    else some (Decimal.value n.whole : Int)
  else none

/-- The literal of an integer. -/
def ofInt (i : Int) : Number := ⟨decide (i < 0), Decimal.digits i.natAbs, [], none⟩

/-- The bytes of a literal. -/
def render (n : Number) : List UInt8 :=
  (if n.negative then [0x2D] else []) ++ n.whole ++
    (if n.fraction.isEmpty then [] else 0x2E :: n.fraction) ++
    (match n.exponent with
      | none => []
      | some (negative, ds) => 0x65 :: (if negative then 0x2D :: ds else ds))

/-- Reading undoes writing on integers. -/
theorem int?_ofInt (i : Int) : (ofInt i).int? = some i := by
  simp only [int?, ofInt, List.isEmpty_nil, Option.isNone_none, Bool.and_self, if_true,
    Decimal.value_digits, decide_eq_true_eq]
  split
  · rw [if_neg (by omega)]
    congr 1
    omega
  · congr 1
    omega

/-! ### The range of the doubles -/

/-- The nearest multiple of a power of two with at most 53 significant bits; of two nearest, the
one whose last significant bit is zero. -/
def round53 (n : Nat) : Nat :=
  let unit := 1 <<< (Nat.log2 n - 52)
  let q := n / unit
  let r := 2 * (n % unit)
  if unit < r ∨ (r = unit ∧ q % 2 = 1) then (q + 1) * unit else q * unit

/-- The first number that is too large for a double: half a step past the largest one. -/
def tooLarge : Nat := (1 <<< 1024) - (1 <<< 970)

/-- Appends digits to a significand as long as it fits into 64 bits, and returns the digits that
did not fit. -/
def absorb (m : Nat) : List UInt8 → Nat × List UInt8
  | [] => (m, [])
  | d :: ds =>
    if m * 10 + (d.toNat - 48) < UInt64.size then absorb (m * 10 + (d.toNat - 48)) ds
    else (m, d :: ds)

/-- The significand of a literal and the power of ten that scales it.  Digits before the point
that do not fit raise the power, those after the point are left out. -/
def scaled (n : Number) : Nat × Int :=
  let (m, excess) := absorb 0 n.whole
  let (m, left) := absorb m n.fraction
  let shift : Int := excess.length - (n.fraction.length - left.length : Nat)
  let power : Int :=
    match n.exponent with
    | none => 0
    | some (true, ds) => -(Decimal.value ds : Int)
    | some (false, ds) => Decimal.value ds
  (m, shift + power)

/-- Whether a literal lies within the doubles: the rounded significand times the rounded power of
ten does not round to infinity.  A power below one never leads out of the range. -/
def inRange (n : Number) : Bool :=
  let (m, e) := n.scaled
  m == 0 || e < 0 || (e ≤ 308 && round53 m * round53 (Nat.pow 10 e.toNat) < tooLarge)

end Number

end Lobby.Json
