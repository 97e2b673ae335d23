/-
Lobby/Proofs/Json/Literal.lean

Literals and the texts that they spell.

A literal is **closed** if it may stand between two quotes: the search for the closing quote goes past
all of it (`Closed.scan`).  It **spells** a text if each character is written in one of its ways
(`SpellsChar`): as its bytes in UTF-8, none of which means anything else in a literal, with a short escape,
with four hexadecimal digits, or as two surrogates.  Whatever way it is, it is read as the character that it
was (`SpellsChar.firstChar?`), and what is read as a character was written in one of its ways
(`exists_spellsChar`).  So a closed literal spells the text that it denotes, and no other
(`Closed.spells_iff`), and the literal that is written for a text is one of those that spell it
(`spells_ofText`).

In UTF-8 the first byte tells the width and the low bits of all of them spell the character
(`width_bytesOf`, `proposal_bytesOf`), so that the reader's proposal is the character itself.
-/
import Lobby.Json.Literal
import Lobby.Text.Decimal
import Mathlib.Tactic.SplitIfs

namespace Lobby

/-! ### Characters in UTF-8 -/

namespace Text.Utf8

/-- A character has one byte, two, three or four, by its number. -/
theorem bytesOf_cases (c : Char) :
    (c.toNat < 0x80 ∧ bytesOf c = [UInt8.ofNat c.toNat]) ∨
    (0x80 ≤ c.toNat ∧ c.toNat < 0x800 ∧
      bytesOf c = [UInt8.ofNat (c.toNat / 64 % 32 + 192), UInt8.ofNat (c.toNat % 64 + 128)]) ∨
    (0x800 ≤ c.toNat ∧ c.toNat < 0x10000 ∧
      bytesOf c = [UInt8.ofNat (c.toNat / 4096 % 16 + 224), UInt8.ofNat (c.toNat / 64 % 64 + 128),
        UInt8.ofNat (c.toNat % 64 + 128)]) ∨
    (0x10000 ≤ c.toNat ∧ c.toNat < 0x110000 ∧
      bytesOf c = [UInt8.ofNat (c.toNat / 262144 % 8 + 240),
        UInt8.ofNat (c.toNat / 4096 % 64 + 128), UInt8.ofNat (c.toNat / 64 % 64 + 128),
        UInt8.ofNat (c.toNat % 64 + 128)]) := by
  have hlt : c.toNat < 0x110000 := by
    have hvalid : c.toNat < 0xD800 ∨ 0xDFFF < c.toNat ∧ c.toNat < 0x110000 := c.valid
    omega
  have hencode : bytesOf c = String.utf8EncodeChar c := rfl
  simp only [String.utf8EncodeChar] at hencode
  change bytesOf c = if c.toNat ≤ 127 then _ else if c.toNat ≤ 2047 then _
    else if c.toNat ≤ 65535 then _ else _ at hencode
  by_cases h₁ : c.toNat ≤ 127
  · exact .inl ⟨by omega, by rw [hencode, if_pos h₁]; rfl⟩
  · by_cases h₂ : c.toNat ≤ 2047
    · exact .inr (.inl ⟨by omega, by omega, by rw [hencode, if_neg h₁, if_pos h₂]; rfl⟩)
    · by_cases h₃ : c.toNat ≤ 65535
      · refine .inr (.inr (.inl ⟨by omega, by omega, ?_⟩))
        rw [hencode, if_neg h₁, if_neg h₂, if_pos h₃]
        rfl
      · refine .inr (.inr (.inr ⟨by omega, hlt, ?_⟩))
        rw [hencode, if_neg h₁, if_neg h₂, if_neg h₃]
        rfl

/-- The first byte of a character tells how many there are. -/
theorem width_bytesOf (c : Char) :
    ∃ b tail, bytesOf c = b :: tail ∧ width b = (bytesOf c).length := by
  rcases bytesOf_cases c with ⟨h, hc⟩ | ⟨hl, h, hc⟩ | ⟨hl, h, hc⟩ | ⟨hl, h, hc⟩ <;> rw [hc] <;>
    refine ⟨_, _, rfl, ?_⟩ <;> simp [width, UInt8.lt_iff_toNat_lt] <;> split_ifs <;> omega

/-- The low bits of the bytes of a character spell it. -/
theorem proposal_bytesOf (c : Char) : proposal (bytesOf c) = c.toNat := by
  rcases bytesOf_cases c with ⟨h, hc⟩ | ⟨hl, h, hc⟩ | ⟨hl, h, hc⟩ | ⟨hl, h, hc⟩ <;> rw [hc] <;>
    simp [proposal] <;> omega

/-- Reading undoes writing on characters. -/
theorem readChar_bytesOf (c : Char) (rest : List UInt8) :
    readChar (bytesOf c ++ rest) = some (c, rest) := by
  obtain ⟨b, tail, hc, hwidth⟩ := width_bytesOf c
  have htake : (bytesOf c ++ rest).take (width b) = bytesOf c := by rw [hwidth, List.take_left]
  have hdrop : (bytesOf c ++ rest).drop (width b) = rest := by rw [hwidth, List.drop_left]
  have hchar : Char.ofNat (proposal (bytesOf c)) = c := by rw [proposal_bytesOf, Char.ofNat_toNat]
  have hread : readChar (bytesOf c ++ rest)
      = if bytesOf (Char.ofNat (proposal ((bytesOf c ++ rest).take (width b))))
            = (bytesOf c ++ rest).take (width b)
        then some (Char.ofNat (proposal ((bytesOf c ++ rest).take (width b))),
          (bytesOf c ++ rest).drop (width b))
        else none := by
    rw [hc]
    rfl
  rw [hread, htake, hdrop, hchar, if_pos rfl]

end Text.Utf8

/-! ### Digits -/

namespace Text.Decimal

/-- The digits of a number are those from zero to nine. -/
theorem exists_of_mem_digits {n : Nat} {d : UInt8} (h : d ∈ digits n) :
    ∃ k : Fin 10, d = UInt8.ofNat (48 + k) := by
  induction n using digits.induct with
  | case1 n hn =>
    rw [digits, if_pos hn, List.mem_singleton] at h
    exact ⟨⟨n % 10, Nat.mod_lt _ (by decide)⟩, h⟩
  | case2 n hn ih =>
    rw [digits, if_neg hn, List.mem_append, List.mem_singleton] at h
    rcases h with hfront | hlast
    · exact ih hfront
    · exact ⟨⟨n % 10, Nat.mod_lt _ (by decide)⟩, hlast⟩

end Text.Decimal

namespace Json

open Lobby.Text

namespace Literal

/-! ### Where a literal ends -/

/-- A byte that means nothing in a literal but itself. -/
structure Plain (b : UInt8) : Prop where
  not_quote : b ≠ 0x22
  not_control : ¬ b < 0x20
  not_backslash : b ≠ 0x5C

/-- What may stand between two quotes: bytes that mean nothing else, and escapes, of which those with
four digits need not denote anything. -/
inductive Closed : Literal → Prop where
  | nil : Closed []
  | plain {b : UInt8} {l : Literal} : Plain b → Closed l → Closed (b :: l)
  | short {e : UInt8} {l : Literal} :
      (shortEscape? e).isSome → Closed l → Closed (0x5C :: e :: l)
  | digits {p q r s : UInt8} {l : Literal} :
      (unit? [p, q, r, s]).isSome → Closed l → Closed (0x5C :: 0x75 :: p :: q :: r :: s :: l)

/-- No short escape begins like one with four digits. -/
theorem ne_of_shortEscape? {e : UInt8} (h : (shortEscape? e).isSome) : e ≠ 0x75 := by
  rintro rfl
  exact absurd h (by decide)

/-- **A literal ends at the quote behind it.** -/
theorem Closed.scan {l : Literal} (h : l.Closed) (rest : List UInt8) :
    scan (l ++ 0x22 :: rest) = some (l, rest) := by
  induction h with
  | nil =>
    rw [List.nil_append, Literal.scan.eq_def]
    exact if_pos rfl
  | @plain b l hb _ ih =>
    rw [List.cons_append, Literal.scan.eq_def]
    simp only [if_neg hb.not_quote, if_neg hb.not_control, if_neg hb.not_backslash, ih]
    rfl
  | @short e l he _ ih =>
    show Literal.scan (0x5C :: e :: (l ++ 0x22 :: rest)) = _
    rw [Literal.scan.eq_def]
    simp only [if_neg (ne_of_shortEscape? he), if_pos he, ih]
    rfl
  | @digits p q r s l hu _ ih =>
    show Literal.scan (0x5C :: 0x75 :: p :: q :: r :: s :: (l ++ 0x22 :: rest)) = _
    rw [Literal.scan.eq_def]
    simp only [if_pos hu, ih]
    rfl

theorem Closed.append_plain {bs : List UInt8} {l : Literal} (hbs : ∀ b ∈ bs, Plain b)
    (h : l.Closed) : Closed (bs ++ l) := by
  induction bs with
  | nil => exact h
  | cons b bs ih =>
    rw [List.forall_mem_cons] at hbs
    exact .plain hbs.1 (ih hbs.2)

theorem Closed.of_cons_plain {b : UInt8} {l : Literal} (hb : Plain b) (h : Closed (b :: l)) :
    l.Closed := by
  cases h with
  | plain _ h => exact h
  | short _ _ => exact absurd rfl hb.not_backslash
  | digits _ _ => exact absurd rfl hb.not_backslash

theorem Closed.of_append_plain {bs : List UInt8} {l : Literal} (hbs : ∀ b ∈ bs, Plain b)
    (h : Closed (bs ++ l)) : l.Closed := by
  induction bs with
  | nil => exact h
  | cons b bs ih =>
    rw [List.forall_mem_cons] at hbs
    exact ih hbs.2 (.of_cons_plain hbs.1 h)

/-! ### How a text may be written -/

/-- The ways to write a character: as its bytes in UTF-8, unless it is a quote, a backslash or a control
character; with a short escape; with the four hexadecimal digits of its number, in either case; or, where
four are too few, as a leading and a trailing surrogate. -/
inductive SpellsChar : List UInt8 → Char → Prop where
  | itself {c : Char} : c ≠ '"' → c ≠ '\\' → ¬ c.toNat < 0x20 → SpellsChar (Utf8.bytesOf c) c
  | short {e : UInt8} {c : Char} : shortEscape? e = some c → SpellsChar [0x5C, e] c
  | digits {p q r s : UInt8} {c : Char} :
      unit? [p, q, r, s] = some (c.toNat, []) → SpellsChar [0x5C, 0x75, p, q, r, s] c
  | surrogates {p q r s p' q' r' s' : UInt8} {u v : Nat} {c : Char} :
      unit? [p, q, r, s] = some (u, []) → 0xD800 ≤ u ∧ u ≤ 0xDBFF →
      unit? [p', q', r', s'] = some (v, []) → 0xDC00 ≤ v ∧ v ≤ 0xDFFF →
      c.toNat = 0x10000 + (u - 0xD800) * 0x400 + (v - 0xDC00) →
      SpellsChar [0x5C, 0x75, p, q, r, s, 0x5C, 0x75, p', q', r', s'] c

/-- A literal spells a row of characters: each is written in one of its ways. -/
inductive SpellsChars : Literal → List Char → Prop where
  | nil : SpellsChars [] []
  | cons {bs : List UInt8} {c : Char} {l : Literal} {cs : List Char} :
      SpellsChar bs c → SpellsChars l cs → SpellsChars (bs ++ l) (c :: cs)

/-- A literal spells a text. -/
def Spells (l : Literal) (s : String) : Prop := SpellsChars l s.toList

/-- Four digits spell the same whatever follows them. -/
theorem unit?_append {p q r s : UInt8} {u : Nat} (h : unit? [p, q, r, s] = some (u, []))
    (rest : List UInt8) : unit? (p :: q :: r :: s :: rest) = some (u, rest) := by
  simp only [unit?] at h ⊢
  split at h
  · cases h
    rfl
  · cases h

/-- What is read from four digits and the bytes after them is read from the four digits. -/
theorem unit?_eq_some {bs rest : List UInt8} {u : Nat} (h : unit? bs = some (u, rest)) :
    ∃ p q r s, bs = p :: q :: r :: s :: rest ∧ unit? [p, q, r, s] = some (u, []) := by
  unfold unit? at h
  split at h
  · rename_i p q r s rest'
    split at h
    · rename_i hp hq hr hs
      cases h
      refine ⟨p, q, r, s, rfl, ?_⟩
      simp only [unit?, hp, hq, hr, hs]
    · cases h
  · cases h

/-- The bytes of a character that is not escaped mean nothing else. -/
theorem plain_of_mem_bytesOf {c : Char} (hquote : c ≠ '"') (hbackslash : c ≠ '\\')
    (hcontrol : ¬ c.toNat < 0x20) : ∀ b ∈ Utf8.bytesOf c, Plain b := by
  have hne : ∀ d : Char, c ≠ d → c.toNat ≠ d.toNat := fun d hcd h => hcd (Char.toNat_inj.mp h)
  have hquote' : c.toNat ≠ 0x22 := hne _ hquote
  have hbackslash' : c.toNat ≠ 0x5C := hne _ hbackslash
  -- a byte is plain by its number
  have hplain : ∀ n, 0x20 ≤ n → n < 0x100 → n ≠ 0x22 → n ≠ 0x5C → Plain (UInt8.ofNat n) := by
    intro n hl h hq hb
    refine ⟨fun heq => ?_, fun hlt => ?_, fun heq => ?_⟩
    · have := congrArg UInt8.toNat heq
      simp at this
      omega
    · simp [UInt8.lt_iff_toNat_lt] at hlt
      omega
    · have := congrArg UInt8.toNat heq
      simp at this
      omega
  rcases Utf8.bytesOf_cases c with ⟨h, hc⟩ | ⟨hl, h, hc⟩ | ⟨hl, h, hc⟩ | ⟨hl, h, hc⟩ <;> rw [hc] <;>
    simp only [List.forall_mem_cons, List.not_mem_nil, false_imp_iff, implies_true, and_true]
  · exact hplain _ (by omega) (by omega) hquote' hbackslash'
  · refine ⟨?_, ?_⟩ <;> apply hplain <;> omega
  · refine ⟨?_, ?_, ?_⟩ <;> apply hplain <;> omega
  · refine ⟨?_, ?_, ?_, ?_⟩ <;> apply hplain <;> omega

theorem SpellsChar.closed_append {bs : List UInt8} {c : Char} (h : SpellsChar bs c) {l : Literal}
    (hl : l.Closed) : Closed (bs ++ l) := by
  cases h with
  | itself hquote hbackslash hcontrol =>
    exact .append_plain (plain_of_mem_bytesOf hquote hbackslash hcontrol) hl
  | short he => exact .short (by rw [he]; rfl) hl
  | digits hu => exact .digits (by rw [hu]; rfl) hl
  | surrogates hu _ hv _ _ => exact .digits (by rw [hu]; rfl) (.digits (by rw [hv]; rfl) hl)

theorem SpellsChars.closed {l : Literal} {cs : List Char} (h : l.SpellsChars cs) : l.Closed := by
  induction h with
  | nil => exact .nil
  | cons hc _ ih => exact hc.closed_append ih

theorem Spells.closed {l : Literal} {s : String} (h : l.Spells s) : l.Closed := SpellsChars.closed h

/-! ### What a literal denotes -/

theorem firstChar?_plain {b : UInt8} (hb : Plain b) (rest : List UInt8) :
    firstChar? (b :: rest) = Utf8.readChar (b :: rest) := by
  have hne := hb.not_backslash
  unfold firstChar?
  split
  · rename_i heq
    exact absurd (List.cons.inj heq).1 hne
  · rename_i heq
    exact absurd (List.cons.inj heq).1 hne
  · rfl

theorem firstChar?_short {e : UInt8} (he : e ≠ 0x75) (rest : List UInt8) :
    firstChar? (0x5C :: e :: rest) = (shortEscape? e).map fun c => (c, rest) := by
  unfold firstChar?
  split
  · rename_i heq
    exact absurd (List.cons.inj (List.cons.inj heq).2).1 he
  · rename_i heq
    obtain ⟨rfl, rfl⟩ := List.cons.inj (List.cons.inj heq).2
    rfl
  · rename_i hno
    exact absurd rfl (hno e rest)

/-- The number of a character is no surrogate's. -/
theorem not_surrogate (c : Char) : ¬ (0xD800 ≤ c.toNat ∧ c.toNat ≤ 0xDFFF) := by
  have hvalid : c.toNat < 0xD800 ∨ 0xDFFF < c.toNat ∧ c.toNat < 0x110000 := c.valid
  omega

/-- A character is read as what it is, however it is written. -/
theorem SpellsChar.firstChar? {bs : List UInt8} {c : Char} (h : SpellsChar bs c)
    (rest : List UInt8) : firstChar? (bs ++ rest) = some (c, rest) := by
  cases h with
  | itself hquote hbackslash hcontrol =>
    have hplain := plain_of_mem_bytesOf hquote hbackslash hcontrol
    obtain ⟨b, tail, hbytes, -⟩ := Utf8.width_bytesOf c
    have hfirst : Plain b := hplain b (hbytes ▸ List.mem_cons_self ..)
    have hread := Utf8.readChar_bytesOf c rest
    rw [hbytes, List.cons_append] at hread ⊢
    rw [firstChar?_plain hfirst, hread]
  | @short e _ he =>
    show Literal.firstChar? (0x5C :: e :: rest) = _
    rw [firstChar?_short (ne_of_shortEscape? (by rw [he]; rfl)), he]
    rfl
  | @digits p q r s _ hu =>
    show unicodeEscape? (p :: q :: r :: s :: rest) = _
    have hc := not_surrogate c
    simp only [unicodeEscape?, unit?_append hu]
    rw [if_neg (by omega), if_neg (by omega), Char.ofNat_toNat]
  | @surrogates p q r s p' q' r' s' u v _ hu hlead hv htrail hc =>
    show unicodeEscape? (p :: q :: r :: s :: 0x5C :: 0x75 :: p' :: q' :: r' :: s' :: rest) = _
    simp only [unicodeEscape?, unit?_append hu, unit?_append hv]
    rw [if_neg (by omega), if_pos hlead, if_pos htrail, ← hc, Char.ofNat_toNat]

theorem chars?_of_firstChar? {l : Literal} {c : Char} {rest : List UInt8}
    (h : firstChar? l = some (c, rest)) : chars? l = (chars? rest).map (c :: ·) := by
  cases l with
  | nil => cases h
  | cons b bs =>
    rw [chars?]
    split
    · rename_i hnone
      rw [h] at hnone
      cases hnone
    · rename_i hsome
      rw [h] at hsome
      cases hsome
      rfl

theorem SpellsChars.chars? {l : Literal} {cs : List Char} (h : l.SpellsChars cs) :
    chars? l = some cs := by
  induction h with
  | nil => rw [Literal.chars?]
  | cons hc _ ih =>
    rw [chars?_of_firstChar? (hc.firstChar? _), ih]
    rfl

/-- **A literal denotes the text that it spells.** -/
theorem Spells.text? {l : Literal} {s : String} (h : l.Spells s) : l.text? = some s := by
  rw [Literal.text?, SpellsChars.chars? h, Option.map_some, String.ofList_toList]

/-- Four digits spell a number below 0x10000. -/
theorem unit?_lt {bs rest : List UInt8} {u : Nat} (h : unit? bs = some (u, rest)) : u < 0x10000 := by
  have hvalue : ∀ {b n}, Hex.value? b = some n → n < 16 := by
    intro b n hb
    simp only [Hex.value?] at hb
    split_ifs at hb <;> cases hb <;> omega
  unfold unit? at h
  split at h
  · split at h
    · rename_i hp hq hr hs
      have := hvalue hp
      have := hvalue hq
      have := hvalue hr
      have := hvalue hs
      obtain ⟨rfl, -⟩ := Prod.mk.inj (Option.some.inj h)
      omega
    · cases h
  · cases h

theorem toNat_ofNat {n : Nat} (h : n < 0xD800 ∨ 0xDFFF < n ∧ n < 0x110000) :
    (Char.ofNat n).toNat = n := by
  rw [Char.ofNat, dif_pos h]
  rfl

/-- An escape with four digits is the number of its character, or the first of two surrogates. -/
theorem unicodeEscape?_cases {bs rest : List UInt8} {c : Char}
    (h : unicodeEscape? bs = some (c, rest)) :
    (∃ p q r s, bs = p :: q :: r :: s :: rest ∧ unit? [p, q, r, s] = some (c.toNat, [])) ∨
    ∃ p q r s p' q' r' s' u v,
      bs = p :: q :: r :: s :: 0x5C :: 0x75 :: p' :: q' :: r' :: s' :: rest ∧
      unit? [p, q, r, s] = some (u, []) ∧ (0xD800 ≤ u ∧ u ≤ 0xDBFF) ∧
      unit? [p', q', r', s'] = some (v, []) ∧ (0xDC00 ≤ v ∧ v ≤ 0xDFFF) ∧
      c.toNat = 0x10000 + (u - 0xD800) * 0x400 + (v - 0xDC00) := by
  unfold unicodeEscape? at h
  split at h
  · cases h
  · rename_i u tail hu
    have hlt := unit?_lt hu
    obtain ⟨p, q, r, s, rfl, hdigits⟩ := unit?_eq_some hu
    split_ifs at h with htrail hlead
    · split at h
      · split at h
        · cases h
        · rename_i v after hv
          obtain ⟨p', q', r', s', rfl, hdigits'⟩ := unit?_eq_some hv
          split_ifs at h with htrail'
          obtain ⟨rfl, rfl⟩ := Prod.mk.inj (Option.some.inj h)
          exact .inr ⟨p, q, r, s, p', q', r', s', u, v, rfl, hdigits, hlead, hdigits',
            htrail', toNat_ofNat (by omega)⟩
      · cases h
    · obtain ⟨rfl, rfl⟩ := Prod.mk.inj (Option.some.inj h)
      exact .inl ⟨p, q, r, s, rfl, by rw [hdigits, toNat_ofNat (by omega)]⟩

/-- What is read as the first character of a literal is written in one of the ways of the character. -/
theorem Closed.exists_spellsChar {l : Literal} (hl : l.Closed) {c : Char} {rest : List UInt8}
    (h : l.firstChar? = some (c, rest)) : ∃ bs, l = bs ++ rest ∧ SpellsChar bs c ∧ Closed rest := by
  cases hl with
  | nil => cases h
  | @plain b l hb hl =>
    rw [firstChar?_plain hb] at h
    have hbytes := Utf8.eq_append_of_readChar h
    -- the first byte, which is plain, would be the character itself
    have hfirst : ∀ d, Utf8.bytesOf c = [d] → b = d := fun d hd => by
      rw [hd] at hbytes
      exact (List.cons.inj hbytes).1
    have hquote : c ≠ '"' := by
      rintro rfl
      exact hb.not_quote (hfirst _ (by decide))
    have hbackslash : c ≠ '\\' := by
      rintro rfl
      exact hb.not_backslash (hfirst _ (by decide))
    have hcontrol : ¬ c.toNat < 0x20 := by
      intro hc
      rcases Utf8.bytesOf_cases c with ⟨-, hone⟩ | ⟨hl, -⟩ | ⟨hl, -⟩ | ⟨hl, -⟩
      · refine hb.not_control ?_
        rw [hfirst _ hone, UInt8.lt_iff_toNat_lt, UInt8.toNat_ofNat_of_lt' (Nat.lt_trans hc (by decide))]
        exact hc
      all_goals omega
    have hplain := plain_of_mem_bytesOf hquote hbackslash hcontrol
    exact ⟨_, hbytes, .itself hquote hbackslash hcontrol, .of_append_plain hplain (hbytes ▸ .plain hb hl)⟩
  | @short e l he hl =>
    rw [firstChar?_short (ne_of_shortEscape? he)] at h
    obtain ⟨d, hd, heq⟩ := Option.map_eq_some_iff.mp h
    cases heq
    exact ⟨[0x5C, e], rfl, .short hd, hl⟩
  | @digits p q r s l _ hl =>
    rcases unicodeEscape?_cases h with
      ⟨_, _, _, _, heq, hu⟩ | ⟨_, _, _, _, _, _, _, _, u, v, heq, hu, hlead, hv, htrail, hc⟩
    · cases heq
      exact ⟨_, rfl, .digits hu, hl⟩
    · cases heq
      -- the escape of the second surrogate is closed like that of the first
      cases hl with
      | plain hb _ => exact absurd rfl hb.not_backslash
      | short he _ => exact absurd rfl (ne_of_shortEscape? he)
      | digits _ hl => exact ⟨_, rfl, .surrogates hu hlead hv htrail hc, hl⟩

theorem Closed.spellsChars {l : Literal} (hl : l.Closed) {cs : List Char}
    (h : l.chars? = some cs) : l.SpellsChars cs := by
  induction l using chars?.induct generalizing cs with
  | case1 =>
    rw [Literal.chars?] at h
    cases h
    exact .nil
  | case2 b bs hnone =>
    rw [Literal.chars?] at h
    split at h
    · cases h
    · rename_i hsome
      rw [hnone] at hsome
      cases hsome
  | case3 b bs c rest hfirst ih =>
    rw [chars?_of_firstChar? hfirst] at h
    obtain ⟨cs', hcs', rfl⟩ := Option.map_eq_some_iff.mp h
    obtain ⟨spelling, heq, hc, hrest⟩ := hl.exists_spellsChar hfirst
    rw [heq]
    exact .cons hc (ih hrest hcs')

/-- **A closed literal spells the text that it denotes, and no other.** -/
theorem Closed.spells_iff {l : Literal} (hl : l.Closed) {s : String} :
    l.Spells s ↔ l.text? = some s := by
  refine ⟨Spells.text?, fun h => ?_⟩
  obtain ⟨cs, hcs, rfl⟩ := Option.map_eq_some_iff.mp h
  rw [Spells, String.toList_ofList]
  exact hl.spellsChars hcs

/-! ### Writing -/

/-- The digit of a half byte is one byte, which spells the half byte. -/
theorem bytesOf_nibble {n : Nat} (hn : n < 16) :
    ∃ d, Utf8.bytesOf (Hex.nibble n) = [d] ∧ Hex.value? d = some n := by
  have table : ∀ i : Fin 16, Utf8.bytesOf (Hex.nibble i) = [UInt8.ofNat (Hex.nibble i).toNat] ∧
      Hex.value? (UInt8.ofNat (Hex.nibble i).toNat) = some i.val := by decide +kernel
  exact ⟨_, table ⟨n, hn⟩⟩

/-- A control character is written with the digits of its two halves. -/
theorem exists_digits {c : Char} (hc : c.toNat < 0x20) :
    ∃ p q, Utf8.encode (Hex.pair (UInt8.ofNat c.toNat)) = [p, q] ∧
      unit? [0x30, 0x30, p, q] = some (c.toNat, []) := by
  have hbyte : (UInt8.ofNat c.toNat).toNat = c.toNat :=
    UInt8.toNat_ofNat_of_lt' (Nat.lt_trans hc (by decide))
  obtain ⟨p, hp, hhigh⟩ := bytesOf_nibble (n := c.toNat / 16) (by omega)
  obtain ⟨q, hq, hlow⟩ := bytesOf_nibble (n := c.toNat % 16) (by omega)
  have hzero : Hex.value? 0x30 = some 0 := by decide
  refine ⟨p, q, ?_, ?_⟩
  · simp only [Utf8.encode, Hex.pair, hbyte, List.flatMap_cons, List.flatMap_nil, hp, hq]
    rfl
  · simp only [unit?, hzero, hhigh, hlow]
    congr 2
    omega

/-- A character is written in one of its ways. -/
theorem spellsChar_escape (c : Char) : SpellsChar (escape c) c := by
  simp only [escape]
  split_ifs with hquote hbackslash hbackspace hfeed hline hreturn htab hcontrol
  · exact .short (hquote ▸ rfl)
  · exact .short (hbackslash ▸ rfl)
  · exact .short (hbackspace ▸ rfl)
  · exact .short (hfeed ▸ rfl)
  · exact .short (hline ▸ rfl)
  · exact .short (hreturn ▸ rfl)
  · exact .short (htab ▸ rfl)
  · obtain ⟨p, q, hpair, hunit⟩ := exists_digits hcontrol
    rw [hpair]
    exact .digits hunit
  · exact .itself hquote hbackslash hcontrol

theorem spells_ofText (s : String) : (ofText s).Spells s := by
  show SpellsChars (s.toList.flatMap escape) s.toList
  generalize s.toList = cs
  induction cs with
  | nil => exact .nil
  | cons c cs ih => exact .cons (spellsChar_escape c) ih

/-- **A text comes back from its literal.** -/
@[simp] theorem text?_ofText (s : String) : text? (ofText s) = some s := (spells_ofText s).text?

/-! ### Numbers as names -/

/-- A digit is written as itself. -/
theorem escape_digit (k : Fin 10) :
    escape (Char.ofNat (UInt8.ofNat (48 + k)).toNat) = [UInt8.ofNat (48 + k)] := by
  revert k
  decide +kernel

/-- The digits of a number are the literal of its text. -/
theorem ofText_decimal (n : Nat) : ofText (Decimal.text n) = Decimal.digits n := by
  rw [ofText, Decimal.text, String.toList_ofList, ofChars, List.flatMap_map]
  have hdigits : ∀ d ∈ Decimal.digits n, ∃ k : Fin 10, d = UInt8.ofNat (48 + k) :=
    fun d => Decimal.exists_of_mem_digits
  generalize Decimal.digits n = ds at hdigits
  induction ds with
  | nil => rfl
  | cons d ds ih =>
    rw [List.forall_mem_cons] at hdigits
    obtain ⟨⟨k, rfl⟩, hrest⟩ := hdigits
    rw [List.flatMap_cons, escape_digit, ih hrest]
    rfl

end Literal

end Json

end Lobby
