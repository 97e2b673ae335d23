/-
Lobby/Proofs/Json/Text.lean

Values come back from their texts.

What is read from any text of a value that may be kept is what its own reader makes of the value
(`decode_of_layout`), whether the text is kept whole or not.

A value is **plain** if every string and every name in it is the literal of a text and every number the
literal of an integer of 64 bits; plainness also keeps a bound on how deep the value nests.  A plain value
may be kept (`Plain.kept`), and what is rendered of it is one of its texts (`Plain.layout_render`), so that
it comes back when it is written and read (`decode_encode`).
-/
import Lobby.Json.Codec
import Lobby.Proofs.Json.Layout

namespace Lobby.Json

open Lobby.Text

/-! ### Numbers -/

namespace Number

theorem isDigit_of_mem_digits {n : Nat} {d : UInt8} (h : d ∈ Decimal.digits n) :
    Decimal.isDigit d = true := by
  have table : ∀ k : Fin 10, Decimal.isDigit (UInt8.ofNat (48 + k)) = true := by decide
  obtain ⟨k, rfl⟩ := Decimal.exists_of_mem_digits h
  exact table k

/-- Only zero has digits that begin with a zero. -/
theorem digits_eq_cons {n : Nat} (hn : n ≠ 0) : ∃ d ds, Decimal.digits n = d :: ds ∧ d ≠ 0x30 := by
  induction n using Decimal.digits.induct with
  | case1 n h =>
    refine ⟨_, [], by rw [Decimal.digits, if_pos h], fun hd => hn ?_⟩
    have hval := congrArg UInt8.toNat hd
    rw [Decimal.digit_toNat] at hval
    have hzero : 48 + n % 10 = 48 := hval
    omega
  | case2 n h ih =>
    obtain ⟨d, ds, hds, hd⟩ := ih (by omega)
    exact ⟨d, ds ++ [Decimal.digit n], by rw [Decimal.digits, if_neg h, hds]; rfl, hd⟩

theorem wholeOk_digits (n : Nat) : wholeOk (Decimal.digits n) = true := by
  by_cases hn : n = 0
  · subst hn
    rw [Decimal.digits]
    rfl
  · obtain ⟨d, ds, hds, hd⟩ := digits_eq_cons hn
    rw [hds]
    cases ds with
    | nil => rfl
    | cons d' ds => simpa [wholeOk] using hd

theorem render_ofInt (i : Int) :
    (ofInt i).render = (if i < 0 then [0x2D] else []) ++ Decimal.digits i.natAbs := by
  simp [render, ofInt]

/-- An integer is rendered in one of its ways. -/
theorem spelled_ofInt (i : Int) : (ofInt i).Spelled (ofInt i).render := by
  have hdigits : Digits (Decimal.digits i.natAbs) := by
    refine ⟨fun hnil => ?_, fun d hd => isDigit_of_mem_digits hd⟩
    have hok := wholeOk_digits i.natAbs
    rw [hnil] at hok
    cases hok
  have hspelled := Spelled.intro (decide (i < 0)) hdigits (wholeOk_digits i.natAbs) .absent .absent
  rw [render_ofInt]
  simpa [ofInt] using hspelled

/-! ### The range of the doubles -/

theorem le_valueFrom (m : Nat) (ds : List UInt8) : m ≤ Decimal.valueFrom m ds := by
  induction ds generalizing m with
  | nil => exact Nat.le_refl m
  | cons d ds ih =>
    have hnext : m * 10 + (d.toNat - 48) ≤ Decimal.valueFrom m (d :: ds) := ih _
    omega

/-- Digits that fit into 64 bits are absorbed. -/
theorem absorb_eq {m : Nat} {ds : List UInt8} (h : Decimal.valueFrom m ds < UInt64.size) :
    absorb m ds = (Decimal.valueFrom m ds, []) := by
  induction ds generalizing m with
  | nil => rfl
  | cons d ds ih =>
    have hnext : Decimal.valueFrom (m * 10 + (d.toNat - 48)) ds < UInt64.size := h
    have hfits : m * 10 + (d.toNat - 48) < UInt64.size :=
      Nat.lt_of_le_of_lt (le_valueFrom _ ds) hnext
    rw [absorb, if_pos hfits, ih hnext]
    rfl

/-- Rounding to 53 bits at most doubles a number. -/
theorem round53_le (n : Nat) : round53 n ≤ 2 * n := by
  by_cases hn : n = 0
  · subst hn
    decide
  · have hunit : 1 <<< (Nat.log2 n - 52) ≤ n := by
      rw [Nat.one_shiftLeft]
      exact Nat.le_trans (Nat.pow_le_pow_right (by decide) (Nat.sub_le ..)) (Nat.log2_self_le hn)
    have hfloor : n / (1 <<< (Nat.log2 n - 52)) * (1 <<< (Nat.log2 n - 52)) ≤ n :=
      Nat.div_mul_le_self ..
    simp only [round53]
    split
    · rw [Nat.add_mul, Nat.one_mul]
      omega
    · omega

/-- An integer of 64 bits lies within the doubles. -/
theorem inRange_ofInt {i : Int} (h : i.natAbs < UInt64.size) : (ofInt i).inRange = true := by
  have hvalue : Decimal.valueFrom 0 (Decimal.digits i.natAbs) = i.natAbs :=
    Decimal.value_digits i.natAbs
  have habsorb : absorb 0 (Decimal.digits i.natAbs) = (i.natAbs, []) := by
    rw [absorb_eq (by rw [hvalue]; exact h), hvalue]
  have hscaled : (ofInt i).scaled = (i.natAbs, 0) := by
    simp only [scaled, ofInt, habsorb, absorb]
    rfl
  have hsmall : round53 i.natAbs * round53 (Nat.pow 10 (0 : Int).toNat) < tooLarge :=
    calc round53 i.natAbs * round53 (Nat.pow 10 (0 : Int).toNat)
      _ = round53 i.natAbs := Nat.mul_one _
      _ ≤ 2 * i.natAbs := round53_le _
      _ ≤ 2 * UInt64.size := Nat.mul_le_mul_left 2 (Nat.le_of_lt h)
      _ < tooLarge := by decide +kernel
  rw [inRange, hscaled]
  dsimp only
  rw [decide_eq_true hsmall]
  simp

end Number

/-! ### Plain values -/

namespace Tree

/-- A value whose strings and names are literals of texts, whose numbers are literals of integers
of 64 bits, and which nests no deeper than a bound. -/
inductive Plain : Nat → Tree → Prop where
  | null {n : Nat} : Plain n .null
  | bool {n : Nat} (b : Bool) : Plain n (.bool b)
  | int {n : Nat} {i : Int} : i.natAbs < UInt64.size → Plain n (.ofInt i)
  | text {n : Nat} (s : String) : Plain n (.ofText s)
  | array {n : Nat} {items : List Tree} :
      (∀ t ∈ items, Plain n t) → Plain (n + 1) (.array items)
  | object {n : Nat} {members : List (Literal × Tree)} :
      (∀ m ∈ members, ∃ s, m.1 = Literal.ofText s) → (∀ m ∈ members, Plain n m.2) →
      Plain (n + 1) (.object members)

theorem Plain.kept {n : Nat} {t : Tree} (h : t.Plain n) : t.Kept n := by
  induction h with
  | null => exact .null
  | bool b => exact .bool b
  | int hi => exact .number (Number.inRange_ofInt hi)
  | text s => exact .string (Literal.spells_ofText s)
  | array _ ih => exact .array ih
  | object hnames _ ih =>
    refine .object (fun m hm => ?_) ih
    obtain ⟨s, hs⟩ := hnames m hm
    exact ⟨s, hs ▸ Literal.spells_ofText s⟩

theorem Plain.spelled_render {n : Nat} {t : Tree} (h : t.Plain n) :
    ∀ tok ∈ t.tokens, tok.Spelled tok.render := by
  induction h with
  | null => exact List.forall_mem_singleton.mpr (.fixed rfl)
  | bool b => exact List.forall_mem_singleton.mpr (.fixed rfl)
  | @int _ i _ => exact List.forall_mem_singleton.mpr (.number (Number.spelled_ofInt i))
  | text s => exact List.forall_mem_singleton.mpr (.string (Literal.spells_ofText s).closed)
  | array _ ih =>
    intro tok htok
    rcases mem_tokens_array htok with hfixed | ⟨t, ht, htok⟩
    · exact .fixed hfixed
    · exact ih t ht tok htok
  | object hnames _ ih =>
    intro tok htok
    rcases mem_tokens_object htok with hfixed | ⟨m, hm, rfl | htok⟩
    · exact .fixed hfixed
    · obtain ⟨s, hs⟩ := hnames m hm
      exact .string (hs ▸ (Literal.spells_ofText s).closed)
    · exact ih m hm tok htok

/-- What is rendered of a plain value is one of its texts. -/
theorem Plain.layout_render {n : Nat} {t : Tree} (h : t.Plain n) : t.Layout t.render :=
  Token.spaced_render h.spelled_render

end Tree

/-! ### Reading -/

/-- **What is read from a text of a value is what the reader makes of the value**, whether the text is
kept whole or not. -/
theorem decode_of_layout {α : Type} [Codec α] {t : Tree} {text : List UInt8} {n : Nat}
    (htext : t.Layout text) (ht : t.Kept n) (hn : n ≤ Token.maxNesting) :
    decode α text = read? t := by
  simp only [decode, htext.scanAll, ht.sound_tokens hn, Tree.ofTokens?_tokens, Bool.not_true,
    Bool.and_false]
  rfl

/-- A text of a value that its reader refuses is refused. -/
theorem decode_eq_none_of_layout {α : Type} [Codec α] {t : Tree} {text : List UInt8} (htext : t.Layout text)
    (h : (read? t : Option α) = none) : decode α text = none := by
  simp only [decode, htext.scanAll, Tree.ofTokens?_tokens, Option.bind_some]
  split
  · rfl
  · exact h

/-- **A plain value that is written and read is what its reader makes of it.** -/
theorem decode_encode {α : Type} [Codec α] {a : α} {n : Nat} (h : (write a).Plain n)
    (hn : n ≤ Token.maxNesting) : decode α (encode a) = read? (write a) :=
  decode_of_layout h.layout_render h.kept hn

end Lobby.Json
