/-
Lobby/Proofs/Json/Layout.lean

The texts of a value.

A value has many texts: blanks may stand between its tokens, and a number whose exponent is written may
have it with either letter.  `Tree.Layout` says which texts those are, without a word about how they are
read.  Marks, words and strings end of themselves; a number goes on as long as it can, so it is cut off
only where something follows that belongs to no number.  In the tokens of a value that is so, as a comma,
a closing bracket or nothing comes behind a number (`Parted`, `parted_tokens`).  So **every text of a
value is cut into the tokens of the value** (`Tree.Layout.scanAll`).

The tokens are sound if the value may be **kept**: every literal denotes something, and brackets nest no
deeper than a bound (`Tree.Kept.sound_tokens`).
-/
import Lobby.Json.Tree
import Lobby.Proofs.Json.Literal

namespace Lobby.Json

open Lobby.Text

/-! ### What follows a number -/

/-- What may follow a number: a comma, a closing bracket, a blank, or nothing. -/
def Ends (rest : List UInt8) : Prop :=
  ∀ b ∈ rest.head?, b ∈ ([0x2C, 0x5D, 0x7D, 0x20, 0x09, 0x0A, 0x0D] : List UInt8)

theorem ends_nil : Ends [] := nofun

theorem ends_cons {b : UInt8} {rest : List UInt8}
    (h : b ∈ ([0x2C, 0x5D, 0x7D, 0x20, 0x09, 0x0A, 0x0D] : List UInt8)) : Ends (b :: rest) := by
  rintro _ ⟨⟩
  exact h

/-- What follows a number does not belong to it. -/
theorem Ends.belongs_to_none {rest : List UInt8} (h : Ends rest) :
    ∀ b ∈ rest.head?, Decimal.isDigit b = false ∧ b ≠ 0x2E ∧ ¬ (b = 0x65 ∨ b = 0x45) := by
  have table : ∀ b ∈ ([0x2C, 0x5D, 0x7D, 0x20, 0x09, 0x0A, 0x0D] : List UInt8),
      Decimal.isDigit b = false ∧ b ≠ 0x2E ∧ ¬ (b = 0x65 ∨ b = 0x45) := by decide +kernel
  exact fun b hb => table b (h b hb)

/-! ### Numbers -/

namespace Number

/-- Digits, at least one. -/
structure Digits (ds : List UInt8) : Prop where
  nonempty : ds ≠ []
  isDigit : ∀ d ∈ ds, Decimal.isDigit d = true

/-- The ways to write a fraction, or none. -/
inductive SpellsFraction : List UInt8 → List UInt8 → Prop where
  | absent : SpellsFraction [] []
  | present {ds : List UInt8} : Digits ds → SpellsFraction (0x2E :: ds) ds

/-- The ways to write an exponent, or none: with a small letter or a capital one, and with a sign or
without. -/
inductive SpellsExponent : List UInt8 → Option (Bool × List UInt8) → Prop where
  | absent : SpellsExponent [] none
  | negative {e : UInt8} {ds : List UInt8} :
      e = 0x65 ∨ e = 0x45 → Digits ds → SpellsExponent (e :: 0x2D :: ds) (some (true, ds))
  | positive {e : UInt8} {ds : List UInt8} :
      e = 0x65 ∨ e = 0x45 → Digits ds → SpellsExponent (e :: 0x2B :: ds) (some (false, ds))
  | unsigned {e : UInt8} {ds : List UInt8} :
      e = 0x65 ∨ e = 0x45 → Digits ds → SpellsExponent (e :: ds) (some (false, ds))

/-- The ways to write a number: a sign if it is negative, digits of which a leading zero stands alone, a
fraction and an exponent. -/
inductive Spelled : Number → List UInt8 → Prop where
  | intro (negative : Bool) {whole fraction fs es : List UInt8}
      {exponent : Option (Bool × List UInt8)} :
      Digits whole → wholeOk whole = true → SpellsFraction fs fraction →
      SpellsExponent es exponent →
      Spelled ⟨negative, whole, fraction, exponent⟩
        ((if negative then [0x2D] else []) ++ (whole ++ (fs ++ es)))

section

variable {ds rest : List UInt8}

theorem takeWhile_digits (hds : ∀ d ∈ ds, Decimal.isDigit d = true)
    (hrest : ∀ b ∈ rest.head?, Decimal.isDigit b = false) :
    (ds ++ rest).takeWhile Decimal.isDigit = ds := by
  have hstop : rest.takeWhile Decimal.isDigit = [] := by
    cases rest with
    | nil => rfl
    | cons b rest => rw [List.takeWhile_cons, hrest b rfl, if_neg Bool.false_ne_true]
  rw [List.takeWhile_append_of_pos hds, hstop, List.append_nil]

theorem dropWhile_digits (hds : ∀ d ∈ ds, Decimal.isDigit d = true)
    (hrest : ∀ b ∈ rest.head?, Decimal.isDigit b = false) :
    (ds ++ rest).dropWhile Decimal.isDigit = rest := by
  rw [List.dropWhile_append_of_pos hds]
  cases rest with
  | nil => rfl
  | cons b rest => rw [List.dropWhile_cons, hrest b rfl, if_neg Bool.false_ne_true]

/-- A fraction ends where something follows that is neither a digit nor another point. -/
theorem SpellsFraction.scan {fs fraction : List UInt8} (h : SpellsFraction fs fraction)
    (hrest : ∀ b ∈ rest.head?, Decimal.isDigit b = false ∧ b ≠ 0x2E) :
    scanFraction (fs ++ rest) = some (fraction, rest) := by
  have hdigit : ∀ b ∈ rest.head?, Decimal.isDigit b = false := fun b hb => (hrest b hb).1
  cases h with
  | absent =>
    cases rest with
    | nil => rfl
    | cons b rest => rw [List.nil_append, scanFraction, if_neg (hrest b rfl).2]
  | present hds =>
    rw [List.cons_append, scanFraction, if_pos rfl, takeWhile_digits hds.isDigit hdigit,
      dropWhile_digits hds.isDigit hdigit, if_neg (by simpa using hds.nonempty)]

theorem scanPower_digits (negative : Bool) (hds : Digits ds)
    (hrest : ∀ b ∈ rest.head?, Decimal.isDigit b = false) :
    scanPower negative (ds ++ rest) = some (some (negative, ds), rest) := by
  rw [scanPower, takeWhile_digits hds.isDigit hrest, dropWhile_digits hds.isDigit hrest,
    if_neg (by simpa using hds.nonempty)]

/-- An exponent ends where an end follows. -/
theorem SpellsExponent.scan {es : List UInt8} {exponent : Option (Bool × List UInt8)}
    (h : SpellsExponent es exponent) (hrest : Ends rest) :
    scanExponent (es ++ rest) = some (exponent, rest) := by
  have hdigit : ∀ b ∈ rest.head?, Decimal.isDigit b = false :=
    fun b hb => (hrest.belongs_to_none b hb).1
  cases h with
  | absent =>
    cases rest with
    | nil => rfl
    | cons b rest =>
      rw [List.nil_append, scanExponent.eq_def]
      exact if_neg (hrest.belongs_to_none b rfl).2.2
  | negative he hds =>
    rw [List.cons_append, List.cons_append, scanExponent, if_pos he, if_pos rfl,
      scanPower_digits true hds hdigit]
  | positive he hds =>
    rw [List.cons_append, List.cons_append, scanExponent, if_pos he, if_neg (by decide), if_pos rfl,
      scanPower_digits false hds hdigit]
  | unsigned he hds =>
    have hpower := scanPower_digits false hds hdigit
    obtain ⟨d, ds, rfl⟩ := List.exists_cons_of_ne_nil hds.nonempty
    -- a digit is no sign
    have hd := hds.isDigit d (List.mem_cons_self ..)
    have hminus : d ≠ 0x2D := by
      rintro rfl
      exact absurd hd (by decide)
    have hplus : d ≠ 0x2B := by
      rintro rfl
      exact absurd hd (by decide)
    rw [List.cons_append, List.cons_append, scanExponent, if_pos he, if_neg hminus, if_neg hplus]
    exact hpower

/-- No exponent begins like the digits before it. -/
theorem SpellsExponent.head {es : List UInt8} {exponent : Option (Bool × List UInt8)}
    (h : SpellsExponent es exponent) (hrest : Ends rest) :
    ∀ b ∈ (es ++ rest).head?, Decimal.isDigit b = false ∧ b ≠ 0x2E := by
  have hletter : ∀ e : UInt8, e = 0x65 ∨ e = 0x45 → Decimal.isDigit e = false ∧ e ≠ 0x2E := by
    rintro e (rfl | rfl) <;> decide
  intro b hb
  cases h with
  | absent => exact ⟨(hrest.belongs_to_none b hb).1, (hrest.belongs_to_none b hb).2.1⟩
  | negative he _ => exact Option.some.inj hb ▸ hletter _ he
  | positive he _ => exact Option.some.inj hb ▸ hletter _ he
  | unsigned he _ => exact Option.some.inj hb ▸ hletter _ he

/-- No fraction begins like the digits before it. -/
theorem SpellsFraction.head {fs fraction : List UInt8} (h : SpellsFraction fs fraction)
    (hrest : ∀ b ∈ rest.head?, Decimal.isDigit b = false) :
    ∀ b ∈ (fs ++ rest).head?, Decimal.isDigit b = false := by
  intro b hb
  cases h with
  | absent => exact hrest b hb
  | present _ =>
    cases hb
    decide

/-- **A number ends where an end follows.** -/
theorem Spelled.scan {n : Number} {bs : List UInt8} (h : n.Spelled bs) (hrest : Ends rest) :
    scan (bs ++ rest) = some (n, rest) := by
  obtain @⟨negative, whole, fraction, fs, es, exponent, hwhole, hok, hfraction, hexponent⟩ := h
  have hfollow := hexponent.head hrest
  have hbehind := hfraction.head fun b hb => (hfollow b hb).1
  have hunsigned : scanUnsigned negative (whole ++ (fs ++ (es ++ rest)))
      = some (⟨negative, whole, fraction, exponent⟩, rest) := by
    rw [scanUnsigned, takeWhile_digits hwhole.isDigit hbehind,
      dropWhile_digits hwhole.isDigit hbehind, if_pos hok, hfraction.scan hfollow]
    dsimp only
    rw [hexponent.scan hrest]
  simp only [List.append_assoc]
  cases negative with
  | true =>
    show Number.scan (0x2D :: (whole ++ (fs ++ (es ++ rest)))) = _
    rw [Number.scan, if_pos rfl, hunsigned]
  | false =>
    -- what has no sign begins with a digit
    obtain ⟨d, ds, rfl⟩ := List.exists_cons_of_ne_nil hwhole.nonempty
    have hminus : d ≠ 0x2D := by
      rintro rfl
      exact absurd (hwhole.isDigit _ (List.mem_cons_self ..)) (by decide)
    exact (if_neg hminus).trans hunsigned

/-- A number begins with a sign or a digit. -/
theorem Spelled.exists_cons {n : Number} {bs : List UInt8} (h : n.Spelled bs) :
    ∃ b tail, bs = b :: tail ∧ (b = 0x2D ∨ Decimal.isDigit b = true) := by
  obtain @⟨negative, whole, fraction, fs, es, exponent, hwhole, -, -, -⟩ := h
  cases negative with
  | true => exact ⟨_, _, rfl, .inl rfl⟩
  | false =>
    obtain ⟨d, ds, rfl⟩ := List.exists_cons_of_ne_nil hwhole.nonempty
    exact ⟨_, _, rfl, .inr (hwhole.isDigit d (List.mem_cons_self ..))⟩

end

end Number

/-! ### Tokens -/

namespace Token

/-- Marks and words, which are written in one way only. -/
def isFixed : Token → Bool
  | .number _ | .string _ => false
  | _ => true

/-- The ways to write a token. -/
inductive Spelled : Token → List UInt8 → Prop where
  | fixed {t : Token} : t.isFixed = true → Spelled t t.render
  | number {n : Number} {bs : List UInt8} : n.Spelled bs → Spelled (.number n) bs
  | string {l : Literal} : l.Closed → Spelled (.string l) (0x22 :: l ++ [0x22])

/-- A text consists of tokens, with blanks before, between and after them. -/
inductive Spaced : List Token → List UInt8 → Prop where
  | nil (blanks : List UInt8) : (∀ b ∈ blanks, isBlank b = true) → Spaced [] blanks
  | cons (blanks : List UInt8) {bs text : List UInt8} {t : Token} {ts : List Token} :
      (∀ b ∈ blanks, isBlank b = true) → t.Spelled bs → Spaced ts text →
      Spaced (t :: ts) (blanks ++ (bs ++ text))

/-- Tokens that begin with a comma or a closing bracket, or none. -/
def Stops (ts : List Token) : Prop :=
  ∀ t ∈ ts.head?, t = .comma ∨ t = .closeArray ∨ t = .closeObject

/-- Behind each number comes a comma, a closing bracket, or nothing. -/
def Parted : List Token → Prop
  | [] => True
  | .number _ :: ts => Stops ts ∧ Parted ts
  | _ :: ts => Parted ts

theorem stops_nil : Stops [] := nofun

theorem stops_cons {t : Token} {ts : List Token}
    (h : t = .comma ∨ t = .closeArray ∨ t = .closeObject) : Stops (t :: ts) := by
  rintro _ ⟨⟩
  exact h

theorem scanAll_cons {b : UInt8} {rest after : List UInt8} {t : Token} (hb : isBlank b = false)
    (h : scan b rest = some (t, after)) : scanAll (b :: rest) = (scanAll after).map (t :: ·) := by
  rw [scanAll, if_neg (by rw [hb]; decide)]
  split
  · rename_i hnone
    rw [h] at hnone
    cases hnone
  · rename_i hsome
    rw [h] at hsome
    cases hsome
    rfl

/-- Blanks are passed over. -/
theorem scanAll_blanks {blanks : List UInt8} (h : ∀ b ∈ blanks, isBlank b = true)
    (rest : List UInt8) : scanAll (blanks ++ rest) = scanAll rest := by
  induction blanks with
  | nil => rfl
  | cons b blanks ih =>
    rw [List.forall_mem_cons] at h
    rw [List.cons_append, scanAll, if_pos h.1, ih h.2]

/-- Nothing but a number begins with a sign or a digit. -/
theorem scan_number {b : UInt8} (h : b = 0x2D ∨ Decimal.isDigit b = true) (rest : List UInt8) :
    isBlank b = false ∧
      scan b rest = (Number.scan (b :: rest)).map fun (n, after) => (.number n, after) := by
  have hb : ∀ c : UInt8, Decimal.isDigit c = false → c ≠ 0x2D → b ≠ c := by
    rintro c hdigit hminus rfl
    rcases h with rfl | h
    · exact hminus rfl
    · rw [hdigit] at h
      cases h
  have hblank : isBlank b = false := by
    simp [isBlank, hb 0x20 rfl (by decide), hb 0x09 rfl (by decide), hb 0x0A rfl (by decide),
      hb 0x0D rfl (by decide)]
  refine ⟨hblank, ?_⟩
  simp [scan, mark?, hb 0x7B rfl (by decide), hb 0x7D rfl (by decide), hb 0x5B rfl (by decide),
    hb 0x5D rfl (by decide), hb 0x2C rfl (by decide), hb 0x3A rfl (by decide),
    hb 0x6E rfl (by decide), hb 0x74 rfl (by decide), hb 0x66 rfl (by decide),
    hb 0x22 rfl (by decide)]

/-- A token is cut off where an end follows, and anywhere if it is not a number. -/
theorem Spelled.scanAll {t : Token} {bs : List UInt8} (h : t.Spelled bs) {rest : List UInt8}
    (hrest : ∀ n, t = .number n → Ends rest) :
    scanAll (bs ++ rest) = (scanAll rest).map (t :: ·) := by
  cases h with
  | fixed h =>
    cases t with
    | number n => cases h
    | string l => cases h
    | bool b => cases b <;> exact scanAll_cons rfl rfl
    | _ => exact scanAll_cons rfl rfl
  | number h =>
    have hscan := h.scan (hrest _ rfl)
    obtain ⟨b, tail, rfl, hb⟩ := h.exists_cons
    obtain ⟨hblank, htoken⟩ := scan_number hb (tail ++ rest)
    rw [List.cons_append] at hscan ⊢
    rw [hscan] at htoken
    rw [scanAll_cons hblank htoken]
  | @string l h =>
    have hscan : scan 0x22 (l ++ 0x22 :: rest) = some (.string l, rest) := by
      show (Literal.scan _).map _ = _
      rw [h.scan]
      rfl
    rw [List.cons_append, List.cons_append, List.append_assoc, List.singleton_append,
      scanAll_cons rfl hscan]

/-- What begins with a comma or a closing bracket begins with an end, also behind blanks. -/
theorem Spaced.ends {ts : List Token} {text : List UInt8} (h : Spaced ts text) (hts : Stops ts) :
    Ends text := by
  have hblank : ∀ b : UInt8, isBlank b = true →
      b ∈ ([0x2C, 0x5D, 0x7D, 0x20, 0x09, 0x0A, 0x0D] : List UInt8) := by
    intro b hb
    simp only [isBlank, Bool.or_eq_true, beq_iff_eq] at hb
    rcases hb with ((rfl | rfl) | rfl) | rfl <;> decide
  cases h with
  | nil _ hblanks => exact fun b hb => hblank b (hblanks b (List.mem_of_mem_head? hb))
  | @cons blanks bs text t ts hblanks hbs _ =>
    cases blanks with
    | cons b blanks => exact ends_cons (hblank b (hblanks b (List.mem_cons_self ..)))
    | nil =>
      rcases hts t rfl with rfl | rfl | rfl
      all_goals
        cases hbs
        exact ends_cons (by decide)

/-- **A text is cut into the tokens that it consists of.** -/
theorem Spaced.scanAll {ts : List Token} {text : List UInt8} (h : Spaced ts text)
    (hparted : Parted ts) : scanAll text = some ts := by
  induction h with
  | nil blanks hblanks =>
    have hskip := scanAll_blanks hblanks []
    rwa [List.append_nil, Token.scanAll] at hskip
  | @cons blanks bs text t ts hblanks hbs htext ih =>
    have hnext : Parted ts ∧ ∀ n, t = .number n → Stops ts := by
      cases t with
      | number n => exact ⟨hparted.2, fun _ _ => hparted.1⟩
      | _ => exact ⟨hparted, fun _ hn => by cases hn⟩
    rw [scanAll_blanks hblanks, hbs.scanAll fun n hn => htext.ends (hnext.2 n hn), ih hnext.1]
    rfl

/-- Every token of a text is written in one of its ways. -/
theorem Spaced.exists_spelled {ts : List Token} {text : List UInt8} (h : Spaced ts text) :
    ∀ t ∈ ts, ∃ bs, t.Spelled bs := by
  induction h with
  | nil _ _ => exact nofun
  | cons _ _ hbs _ ih => exact List.forall_mem_cons.mpr ⟨⟨_, hbs⟩, ih⟩

/-- Tokens that are written as they are rendered, without blanks. -/
theorem spaced_render {ts : List Token} (h : ∀ t ∈ ts, t.Spelled t.render) :
    Spaced ts (ts.flatMap render) := by
  induction ts with
  | nil => exact .nil [] nofun
  | cons t ts ih =>
    rw [List.forall_mem_cons] at h
    exact .cons [] nofun h.1 (ih h.2)

end Token

/-! ### The tokens of a value -/

namespace Tree

theorem mem_laterItemTokens {tok : Token} {ts : List Tree} (h : tok ∈ laterItemTokens ts) :
    tok.isFixed = true ∨ ∃ t ∈ ts, tok ∈ t.tokens := by
  induction ts with
  | nil => exact .inl (List.mem_singleton.mp h ▸ rfl)
  | cons t ts ih =>
    rw [laterItemTokens, List.mem_cons, List.mem_append] at h
    rcases h with rfl | h | h
    · exact .inl rfl
    · exact .inr ⟨t, List.mem_cons_self .., h⟩
    · exact (ih h).imp_right fun ⟨u, hu, htok⟩ => ⟨u, List.mem_cons_of_mem _ hu, htok⟩

theorem mem_laterMemberTokens {tok : Token} {ms : List (Literal × Tree)}
    (h : tok ∈ laterMemberTokens ms) :
    tok.isFixed = true ∨ ∃ m ∈ ms, tok = .string m.1 ∨ tok ∈ m.2.tokens := by
  induction ms with
  | nil => exact .inl (List.mem_singleton.mp h ▸ rfl)
  | cons m ms ih =>
    obtain ⟨key, t⟩ := m
    rw [laterMemberTokens, List.mem_cons, List.mem_cons, List.mem_cons, List.mem_append] at h
    rcases h with rfl | rfl | rfl | h | h
    · exact .inl rfl
    · exact .inr ⟨_, List.mem_cons_self .., .inl rfl⟩
    · exact .inl rfl
    · exact .inr ⟨_, List.mem_cons_self .., .inr h⟩
    · exact (ih h).imp_right fun ⟨m, hm, htok⟩ => ⟨m, List.mem_cons_of_mem _ hm, htok⟩

/-- Apart from marks the tokens of an array are those of its items. -/
theorem mem_tokens_array {tok : Token} {items : List Tree} (h : tok ∈ (array items).tokens) :
    tok.isFixed = true ∨ ∃ t ∈ items, tok ∈ t.tokens := by
  rw [tokens, List.mem_cons] at h
  rcases h with rfl | h
  · exact .inl rfl
  · cases items with
    | nil => exact .inl (List.mem_singleton.mp h ▸ rfl)
    | cons t ts => exact mem_laterItemTokens (List.mem_cons_of_mem _ h)

/-- Apart from marks the tokens of an object are its names and those of its values. -/
theorem mem_tokens_object {tok : Token} {members : List (Literal × Tree)}
    (h : tok ∈ (object members).tokens) :
    tok.isFixed = true ∨ ∃ m ∈ members, tok = .string m.1 ∨ tok ∈ m.2.tokens := by
  rw [tokens, List.mem_cons] at h
  rcases h with rfl | h
  · exact .inl rfl
  · cases members with
    | nil => exact .inl (List.mem_singleton.mp h ▸ rfl)
    | cons m ms => exact mem_laterMemberTokens (List.mem_cons_of_mem _ h)

theorem stops_laterItemTokens (ts : List Tree) (rest : List Token) :
    Token.Stops (laterItemTokens ts ++ rest) := by
  cases ts with
  | nil => exact Token.stops_cons (.inr (.inl rfl))
  | cons t ts => exact Token.stops_cons (.inl rfl)

theorem stops_laterMemberTokens (ms : List (Literal × Tree)) (rest : List Token) :
    Token.Stops (laterMemberTokens ms ++ rest) := by
  cases ms with
  | nil => exact Token.stops_cons (.inr (.inr rfl))
  | cons m ms => exact Token.stops_cons (.inl rfl)

mutual

/-- In the tokens of a value the numbers are parted from what follows them. -/
theorem parted_tokens : (t : Tree) → (rest : List Token) → Token.Stops rest → Token.Parted rest →
    Token.Parted (t.tokens ++ rest)
  | .null, _, _, h => h
  | .bool _, _, _, h => h
  | .number _, _, hstops, h => ⟨hstops, h⟩
  | .string _, _, _, h => h
  | .array [], _, _, h => h
  | .array (t :: ts), rest, _, h => by
    show Token.Parted ((t.tokens ++ laterItemTokens ts) ++ rest)
    rw [List.append_assoc]
    exact parted_tokens t _ (stops_laterItemTokens ts rest) (parted_laterItemTokens ts rest h)
  | .object [], _, _, h => h
  | .object ((_, t) :: ms), rest, _, h => by
    show Token.Parted ((t.tokens ++ laterMemberTokens ms) ++ rest)
    rw [List.append_assoc]
    exact parted_tokens t _ (stops_laterMemberTokens ms rest) (parted_laterMemberTokens ms rest h)

theorem parted_laterItemTokens : (ts : List Tree) → (rest : List Token) → Token.Parted rest →
    Token.Parted (laterItemTokens ts ++ rest)
  | [], _, h => h
  | t :: ts, rest, h => by
    show Token.Parted ((t.tokens ++ laterItemTokens ts) ++ rest)
    rw [List.append_assoc]
    exact parted_tokens t _ (stops_laterItemTokens ts rest) (parted_laterItemTokens ts rest h)

theorem parted_laterMemberTokens : (ms : List (Literal × Tree)) → (rest : List Token) →
    Token.Parted rest → Token.Parted (laterMemberTokens ms ++ rest)
  | [], _, h => h
  | (_, t) :: ms, rest, h => by
    show Token.Parted ((t.tokens ++ laterMemberTokens ms) ++ rest)
    rw [List.append_assoc]
    exact parted_tokens t _ (stops_laterMemberTokens ms rest) (parted_laterMemberTokens ms rest h)

end

/-! ### The texts of a value -/

/-- A text of a value: its tokens, each in one of its ways, with blanks wherever they may stand. -/
def Layout (t : Tree) (text : List UInt8) : Prop := Token.Spaced t.tokens text

/-- **A text of a value is cut into the tokens of the value.** -/
theorem Layout.scanAll {t : Tree} {text : List UInt8} (h : t.Layout text) :
    Token.scanAll text = some t.tokens := by
  have hparted := parted_tokens t [] Token.stops_nil trivial
  rw [List.append_nil] at hparted
  exact Token.Spaced.scanAll h hparted

/-- The strings and names in a text are closed. -/
theorem Layout.closed {t : Tree} {text : List UInt8} (h : t.Layout text) {l : Literal}
    (hl : Token.string l ∈ t.tokens) : l.Closed := by
  obtain ⟨bs, hbs⟩ := Token.Spaced.exists_spelled h _ hl
  cases hbs with
  | fixed h => cases h
  | string h => exact h

/-! ### Values that can be kept -/

/-- A value that may be kept whole: its strings and names spell texts, its numbers lie within the
doubles, and it nests no deeper than a bound. -/
inductive Kept : Nat → Tree → Prop where
  | null {n : Nat} : Kept n .null
  | bool {n : Nat} (b : Bool) : Kept n (.bool b)
  | number {n : Nat} {m : Number} : m.inRange = true → Kept n (.number m)
  | string {n : Nat} {l : Literal} {s : String} : l.Spells s → Kept n (.string l)
  | array {n : Nat} {items : List Tree} :
      (∀ t ∈ items, Kept n t) → Kept (n + 1) (.array items)
  | object {n : Nat} {members : List (Literal × Tree)} :
      (∀ m ∈ members, ∃ s, m.1.Spells s) → (∀ m ∈ members, Kept n m.2) →
      Kept (n + 1) (.object members)

theorem denotes_of_isFixed {tok : Token} (h : tok.isFixed = true) : tok.denotes = true := by
  cases tok with
  | number n => cases h
  | string l => cases h
  | _ => rfl

theorem denotes_of_spells {l : Literal} {s : String} (h : l.Spells s) :
    (Token.string l).denotes = true := by
  rw [Token.denotes, h.text?]
  rfl

/-- The literals of a value that may be kept denote something. -/
theorem Kept.denotes {n : Nat} {t : Tree} (h : t.Kept n) : ∀ tok ∈ t.tokens, tok.denotes = true := by
  induction h with
  | null => exact List.forall_mem_singleton.mpr rfl
  | bool b => exact List.forall_mem_singleton.mpr rfl
  | number hm => exact List.forall_mem_singleton.mpr hm
  | string hl => exact List.forall_mem_singleton.mpr (denotes_of_spells hl)
  | array _ ih =>
    intro tok htok
    rcases mem_tokens_array htok with hfixed | ⟨t, ht, htok⟩
    · exact denotes_of_isFixed hfixed
    · exact ih t ht tok htok
  | object hnames _ ih =>
    intro tok htok
    rcases mem_tokens_object htok with hfixed | ⟨m, hm, rfl | htok⟩
    · exact denotes_of_isFixed hfixed
    · obtain ⟨s, hs⟩ := hnames m hm
      exact denotes_of_spells hs
    · exact ih m hm tok htok

/-- What is left of the items of an array closes it. -/
theorem nestsWithin_laterItems {depth : Nat} {ts : List Tree}
    (h : ∀ t ∈ ts, ∀ rest, Token.nestsWithin (depth + 1) (t.tokens ++ rest)
      = Token.nestsWithin (depth + 1) rest) (rest : List Token) :
    Token.nestsWithin (depth + 1) (laterItemTokens ts ++ rest) = Token.nestsWithin depth rest := by
  induction ts with
  | nil => rfl
  | cons t ts ih =>
    rw [List.forall_mem_cons] at h
    rw [laterItemTokens, List.cons_append, List.append_assoc]
    exact (h.1 _).trans (ih h.2)

theorem nestsWithin_laterMembers {depth : Nat} {ms : List (Literal × Tree)}
    (h : ∀ m ∈ ms, ∀ rest, Token.nestsWithin (depth + 1) (m.2.tokens ++ rest)
      = Token.nestsWithin (depth + 1) rest) (rest : List Token) :
    Token.nestsWithin (depth + 1) (laterMemberTokens ms ++ rest)
      = Token.nestsWithin depth rest := by
  induction ms with
  | nil => rfl
  | cons m ms ih =>
    obtain ⟨key, t⟩ := m
    rw [List.forall_mem_cons] at h
    rw [laterMemberTokens, List.cons_append, List.cons_append, List.cons_append, List.append_assoc]
    exact (h.1 _).trans (ih h.2)

/-- A value that may be kept nests no deeper than its bound, and closes what it opens. -/
theorem Kept.nestsWithin {n : Nat} {t : Tree} (h : t.Kept n) {depth : Nat}
    (hdepth : depth + n ≤ Token.maxNesting) (rest : List Token) :
    Token.nestsWithin depth (t.tokens ++ rest) = Token.nestsWithin depth rest := by
  induction h generalizing depth rest with
  | null => rfl
  | bool b => rfl
  | number _ => rfl
  | string _ => rfl
  | @array n items _ ih =>
    have hopen : depth < Token.maxNesting := by omega
    have hitems : ∀ t ∈ items, ∀ rest, Token.nestsWithin (depth + 1) (t.tokens ++ rest)
        = Token.nestsWithin (depth + 1) rest := fun t ht rest => ih t ht (by omega) rest
    rw [tokens, List.cons_append, Token.nestsWithin, decide_eq_true hopen, Bool.true_and]
    cases items with
    | nil => rfl
    | cons t ts =>
      rw [List.forall_mem_cons] at hitems
      rw [itemTokens, List.append_assoc, hitems.1]
      exact nestsWithin_laterItems hitems.2 rest
  | @object n members _ _ ih =>
    have hopen : depth < Token.maxNesting := by omega
    have hmembers : ∀ m ∈ members, ∀ rest, Token.nestsWithin (depth + 1) (m.2.tokens ++ rest)
        = Token.nestsWithin (depth + 1) rest := fun m hm rest => ih m hm (by omega) rest
    rw [tokens, List.cons_append, Token.nestsWithin, decide_eq_true hopen, Bool.true_and]
    cases members with
    | nil => rfl
    | cons m ms =>
      obtain ⟨key, t⟩ := m
      rw [List.forall_mem_cons] at hmembers
      rw [memberTokens, List.cons_append, List.cons_append, List.append_assoc]
      exact (hmembers.1 _).trans (nestsWithin_laterMembers hmembers.2 rest)

/-- **The tokens of a value that may be kept are sound.** -/
theorem Kept.sound_tokens {n : Nat} {t : Tree} (h : t.Kept n) (hn : n ≤ Token.maxNesting) :
    Token.sound t.tokens = true := by
  have hdepth : 0 + n ≤ Token.maxNesting := by omega
  have hnests := h.nestsWithin hdepth []
  rw [List.append_nil] at hnests
  rw [Token.sound, hnests, List.all_eq_true.mpr h.denotes]
  rfl

end Tree

end Lobby.Json
