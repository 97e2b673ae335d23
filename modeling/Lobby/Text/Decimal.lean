/-
Lobby/Text/Decimal.lean

Decimal digits of natural numbers, as ASCII bytes.

`digits n` writes `n` without leading zeros, `value ds` reads a row of digits back, and the two
are inverse: `value (digits n) = n`.
-/
namespace Lobby.Text.Decimal

/-! ### Writing -/

/-- The ASCII byte of the last decimal digit of `n`. -/
def digit (n : Nat) : UInt8 := UInt8.ofNat (48 + n % 10)

/-- The decimal digits of `n`, most significant first, without leading zeros. -/
def digits (n : Nat) : List UInt8 :=
  if n < 10 then [digit n] else digits (n / 10) ++ [digit n]
termination_by n

/-! ### Reading -/

/-- The ASCII digits are the bytes from `0` to `9`. -/
def isDigit (b : UInt8) : Bool := 48 ≤ b && b ≤ 57

/-- The number that a row of digits denotes when it continues the digits of `n`. -/
def valueFrom (n : Nat) (ds : List UInt8) : Nat :=
  ds.foldl (fun m d => m * 10 + (d.toNat - 48)) n

/-- The number that a row of digits denotes. -/
def value (ds : List UInt8) : Nat := valueFrom 0 ds

/-! ### Reading undoes writing -/

theorem digit_toNat (n : Nat) : (digit n).toNat = 48 + n % 10 := by
  simp only [digit, UInt8.toNat_ofNat']
  omega

theorem valueFrom_append (n : Nat) (as bs : List UInt8) :
    valueFrom n (as ++ bs) = valueFrom (valueFrom n as) bs := by
  simp [valueFrom, List.foldl_append]

theorem value_digits (n : Nat) : value (digits n) = n := by
  induction n using digits.induct with
  | case1 n h =>
    rw [digits, if_pos h]
    simp [value, valueFrom, digit_toNat]
    omega
  | case2 n h ih =>
    rw [digits, if_neg h]
    have ih' : valueFrom 0 (digits (n / 10)) = n / 10 := ih
    rw [value, valueFrom_append, ih']
    simp [valueFrom, digit_toNat]
    omega

/-- The digits of `n` as text. -/
def text (n : Nat) : String := String.ofList ((digits n).map fun d => Char.ofNat d.toNat)

end Lobby.Text.Decimal
