/-
Lobby/Text/Hex.lean

Lower-case hexadecimal: every byte becomes exactly two characters, the high half first.
Main statement: different rows of bytes have different texts (`ofBytes_injective`).
-/
namespace Lobby.Text.Hex

/-- The character of a half byte. -/
def nibble (n : Nat) : Char :=
  if n < 10 then Char.ofNat (48 + n) else Char.ofNat (87 + n)

/-- The two characters of a byte. -/
def pair (b : UInt8) : List Char := [nibble (b.toNat / 16), nibble (b.toNat % 16)]

/-- A row of bytes, two characters each. -/
def chars (bs : List UInt8) : List Char := bs.flatMap pair

/-- A row of bytes as text. -/
def ofBytes (bs : List UInt8) : String := String.ofList (chars bs)

/-- The number of a half byte spelled in either case, `none` for any other byte. -/
def value? (b : UInt8) : Option Nat :=
  let n := b.toNat
  if 48 ≤ n ∧ n ≤ 57 then some (n - 48)
  else if 65 ≤ n ∧ n ≤ 70 then some (n - 55)
  else if 97 ≤ n ∧ n ≤ 102 then some (n - 87)
  else none

theorem chars_length (bs : List UInt8) : (chars bs).length = 2 * bs.length := by
  induction bs with
  | nil => rfl
  | cons b bs ih =>
    simp only [chars, List.flatMap_cons, List.length_append, List.length_cons] at ih ⊢
    rw [ih]
    simp only [pair, List.length_cons, List.length_nil]
    omega

theorem nibble_injective {m n : Nat} (hm : m < 16) (hn : n < 16) (h : nibble m = nibble n) :
    m = n := by
  have table : ∀ i j : Fin 16, nibble i = nibble j → i = j := by decide
  exact congrArg Fin.val (table ⟨m, hm⟩ ⟨n, hn⟩ h)

theorem pair_injective {a b : UInt8} (h : pair a = pair b) : a = b := by
  simp only [pair, List.cons.injEq, and_true] at h
  have ha : a.toNat < 256 := a.toNat_lt
  have hb : b.toNat < 256 := b.toNat_lt
  have hi := nibble_injective (by omega) (by omega) h.1
  have lo := nibble_injective (by omega) (by omega) h.2
  exact UInt8.toNat_inj.mp (by omega)

theorem chars_injective {as bs : List UInt8} (h : chars as = chars bs) : as = bs := by
  induction as generalizing bs with
  | nil =>
    cases bs with
    | nil => rfl
    | cons b bs => simp [chars, pair] at h
  | cons a as ih =>
    cases bs with
    | nil => simp [chars, pair] at h
    | cons b bs =>
      simp only [chars, List.flatMap_cons] at h
      obtain ⟨hab, hrest⟩ := List.append_inj h rfl
      rw [pair_injective hab, ih hrest]

theorem ofBytes_injective {as bs : List UInt8} (h : ofBytes as = ofBytes bs) : as = bs :=
  chars_injective (String.ofList_injective h)

end Lobby.Text.Hex
