/-
Lobby/Proofs/Rendezvous/Token.lean

What tokens look like, and what may be seen of them.

A drawn token is a text of 32 characters, each of them one byte long, and tells which draw it is
(`token_injective`).  A token that a client presents may be any text.

What is shown of a token is cut by bytes.  Either a character ends behind the eighth byte, and the token is
cut there, or the token is shown whole: when it is shorter, and also when one of its characters lies across
the cut (`Straddles`).  So much is hidden of every drawn token, but not of every long one.

Main result: `redaction_cuts_bytes`.
-/
import Lobby.Rendezvous.Token
import Lobby.Text.Utf8

namespace Lobby

/-! ### Drawn tokens -/

namespace Text.Hex

/-- A digit of lower-case hexadecimal. -/
def Lower (c : Char) : Prop := '0' ≤ c ∧ c ≤ '9' ∨ 'a' ≤ c ∧ c ≤ 'f'

instance : DecidablePred Lower := fun c =>
  inferInstanceAs (Decidable ('0' ≤ c ∧ c ≤ '9' ∨ 'a' ≤ c ∧ c ≤ 'f'))

theorem lower_nibble {n : Nat} (h : n < 16) : Lower (nibble n) := by
  have table : ∀ i : Fin 16, Lower (nibble i) := by decide
  exact table ⟨n, h⟩

/-- A digit is one byte long. -/
theorem Lower.utf8Size_eq {c : Char} (h : Lower c) : c.utf8Size = 1 := by
  rw [Char.utf8Size_eq_one_iff]
  rcases h with ⟨-, hle⟩ | ⟨-, hle⟩
  · exact UInt32.le_trans hle (by decide)
  · exact UInt32.le_trans hle (by decide)

end Text.Hex

namespace Draw

theorem length_token (d : Draw) : d.token.length = 32 := by
  rw [token, Text.Hex.ofBytes, String.length_ofList, Text.Hex.chars_length, Vector.length_toList]

theorem lower_of_mem_token (d : Draw) : ∀ c ∈ d.token.toList, Text.Hex.Lower c := by
  intro c hc
  rw [token, Text.Hex.ofBytes, String.toList_ofList, Text.Hex.chars] at hc
  obtain ⟨b, -, hc⟩ := List.mem_flatMap.mp hc
  have hb : b.toNat < 256 := b.toNat_lt
  rw [Text.Hex.pair, List.mem_cons, List.mem_singleton] at hc
  rcases hc with rfl | rfl
  · exact Text.Hex.lower_nibble (by omega)
  · exact Text.Hex.lower_nibble (by omega)

/-- **Different draws have different tokens.** -/
theorem token_injective {d e : Draw} (h : d.token = e.token) : d = e :=
  Vector.toList_inj.mp (Text.Hex.ofBytes_injective h)

end Draw

/-! ### Characters and bytes -/

namespace Text.Utf8

variable {cs shown hidden : List Char} {n : Nat}

theorem length_bytesOf (c : Char) : (bytesOf c).length = c.utf8Size :=
  String.length_utf8EncodeChar c

theorem encode_cons (c : Char) (cs : List Char) : encode (c :: cs) = bytesOf c ++ encode cs :=
  List.flatMap_cons

theorem encode_append (front back : List Char) :
    encode (front ++ back) = encode front ++ encode back := List.flatMap_append

theorem length_encode_cons (c : Char) (cs : List Char) :
    (encode (c :: cs)).length = c.utf8Size + (encode cs).length := by
  rw [encode_cons, List.length_append, length_bytesOf]

/-- A row of characters has at least as many bytes. -/
theorem length_le_length_encode (cs : List Char) : cs.length ≤ (encode cs).length := by
  induction cs with
  | nil => exact Nat.le_refl 0
  | cons c cs ih =>
    have hpos := c.utf8Size_pos
    rw [length_encode_cons, List.length_cons]
    omega

/-- As many bytes as characters, if each character is one byte long. -/
theorem length_encode_of_single (h : ∀ c ∈ cs, c.utf8Size = 1) : (encode cs).length = cs.length := by
  induction cs with
  | nil => rfl
  | cons c cs ih =>
    obtain ⟨hc, hcs⟩ := List.forall_mem_cons.mp h
    rw [length_encode_cons, hc, ih hcs, List.length_cons, Nat.add_comm]

/-- A character begins before the end of so many bytes, and ends behind it. -/
def Straddles (n : Nat) (cs : List Char) : Prop :=
  ∃ front c back, cs = front ++ c :: back ∧ (encode front).length < n ∧
    n < (encode front).length + (bytesOf c).length

/-- Within a row some character ends behind so many bytes, or one lies across the end of them. -/
theorem cut_or_straddles (h : n ≤ (encode cs).length) :
    (∃ shown hidden, cs = shown ++ hidden ∧ (encode shown).length = n) ∨ Straddles n cs := by
  induction cs generalizing n with
  | nil => exact .inl ⟨[], [], rfl, (Nat.le_zero.mp h).symm⟩
  | cons c cs ih =>
    rw [length_encode_cons] at h
    rcases Nat.eq_zero_or_pos n with rfl | hpos
    · exact .inl ⟨[], c :: cs, rfl, rfl⟩
    · by_cases hlong : n < c.utf8Size
      · refine .inr ⟨[], c, cs, rfl, hpos, ?_⟩
        rw [length_bytesOf, Nat.add_comm]
        exact hlong
      · have hrest : n - c.utf8Size ≤ (encode cs).length := by omega
        rcases ih hrest with ⟨shown, hidden, rfl, hlength⟩ | ⟨front, d, back, rfl, hbegins, hends⟩
        · refine .inl ⟨c :: shown, hidden, rfl, ?_⟩
          rw [length_encode_cons]
          omega
        · refine .inr ⟨c :: front, d, back, rfl, ?_⟩
          rw [length_encode_cons]
          omega

/-- It is not both. -/
theorem not_straddles_of_cut (h : (encode shown).length = n) :
    ¬ Straddles n (shown ++ hidden) := by
  rintro ⟨front, c, back, hcs, hbegins, hends⟩
  rcases List.append_eq_append_iff.mp hcs with ⟨between, rfl, -⟩ | ⟨between, rfl, hback⟩
  · rw [encode_append, List.length_append] at hbegins
    omega
  · rw [encode_append, List.length_append] at h
    cases between with
    | nil =>
      rw [show encode [] = [] from rfl, List.length_nil] at h
      omega
    | cons d between =>
      obtain ⟨rfl, -⟩ := List.cons.inj hback
      rw [length_encode_cons, ← length_bytesOf] at h
      omega

end Text.Utf8

/-! ### What is shown of a token -/

open Text.Utf8

variable {token : String} {cs shown hidden : List Char} {n : Nat}

theorem cutAfter?_cons {c : Char} (h : 0 < n) :
    cutAfter? n (c :: cs)
      = if c.utf8Size ≤ n then (cutAfter? (n - c.utf8Size) cs).map (c :: ·) else none := by
  cases n with
  | zero => cases h
  | succ n => rw [cutAfter?]

/-- A row is cut where a character ends behind so many bytes. -/
theorem cutAfter?_append (shown hidden : List Char) :
    cutAfter? (encode shown).length (shown ++ hidden) = some shown := by
  induction shown with
  | nil =>
    show cutAfter? 0 hidden = some []
    rw [cutAfter?]
  | cons c shown ih =>
    have hpos := c.utf8Size_pos
    rw [length_encode_cons, List.cons_append, cutAfter?_cons (by omega), if_pos (Nat.le_add_right ..),
      Nat.add_sub_cancel_left, ih, Option.map_some]

/-- It is cut nowhere else. -/
theorem eq_append_of_cutAfter? (h : cutAfter? n cs = some shown) :
    ∃ hidden, cs = shown ++ hidden ∧ (encode shown).length = n := by
  fun_induction cutAfter? n cs generalizing shown with
  | case1 cs =>
    cases h
    exact ⟨cs, rfl, rfl⟩
  | case2 => cases h
  | case3 n c cs hfits ih =>
    obtain ⟨rest, hrest, rfl⟩ := Option.map_eq_some_iff.mp h
    obtain ⟨hidden, rfl, hlength⟩ := ih hrest
    refine ⟨hidden, rfl, ?_⟩
    rw [length_encode_cons]
    omega
  | case4 => cases h

/-- A token is shown up to the end of its eighth byte if a character ends there, and otherwise whole. -/
theorem redact_cases (token : String) :
    (∃ shown hidden, token.toList = shown ++ hidden ∧ (encode shown).length = 8 ∧
      redact token = String.ofList shown) ∨
    (¬ ∃ shown hidden, token.toList = shown ++ hidden ∧ (encode shown).length = 8) ∧
      redact token = token := by
  rw [redact]
  rcases hcut : cutAfter? 8 token.toList with - | shown
  · refine .inr ⟨?_, rfl⟩
    rintro ⟨shown, hidden, htoken, hlength⟩
    rw [htoken, ← hlength, cutAfter?_append] at hcut
    cases hcut
  · obtain ⟨hidden, htoken, hlength⟩ := eq_append_of_cutAfter? hcut
    exact .inl ⟨shown, hidden, htoken, hlength, rfl⟩

/-- Of a token whose characters are all one byte long the first eight are shown. -/
theorem redact_of_single (h : ∀ c ∈ token.toList, c.utf8Size = 1) :
    (redact token).toList = token.toList.take 8 := by
  have hsingle : (encode (token.toList.take 8)).length = (token.toList.take 8).length :=
    length_encode_of_single fun c hc => h c (List.mem_of_mem_take hc)
  rw [List.length_take] at hsingle
  rcases redact_cases token with ⟨shown, hidden, htoken, hlength, hshown⟩ | ⟨hwhole, hshown⟩
  · have hcount : shown.length = 8 := by
      rw [← hlength, length_encode_of_single]
      intro c hc
      refine h c ?_
      rw [htoken]
      exact List.mem_append_left _ hc
    rw [hshown, String.toList_ofList, htoken, ← hcount, List.take_left]
  · rw [hshown]
    refine (List.take_of_length_le ?_).symm
    -- a longer one would have been cut
    refine Nat.le_of_not_lt fun hlong => hwhole ?_
    refine ⟨token.toList.take 8, token.toList.drop 8, (List.take_append_drop ..).symm, ?_⟩
    omega

/-- So of a drawn token its first eight characters are shown, and never all of it. -/
theorem redact_token (draw : Draw) :
    (redact draw.token).toList = draw.token.toList.take 8 ∧ redact draw.token ≠ draw.token := by
  have hfirst := redact_of_single fun c hc => (draw.lower_of_mem_token c hc).utf8Size_eq
  refine ⟨hfirst, ?_⟩
  intro hwhole
  rw [hwhole] at hfirst
  have hlength := congrArg List.length hfirst
  rw [List.length_take, String.length_toList, draw.length_token] at hlength
  cases hlength

/-- What is shown is the beginning of the token: all of it, or the first eight bytes, which are at most
eight characters. -/
theorem redact_isPrefix (token : String) :
    (redact token).toList <+: token.toList ∧
    (redact token = token ∨
      encode (redact token).toList = (encode token.toList).take 8 ∧ (redact token).length ≤ 8) := by
  rcases redact_cases token with ⟨shown, hidden, htoken, hlength, hshown⟩ | ⟨-, hshown⟩
  · have hcount := length_le_length_encode shown
    rw [hlength] at hcount
    rw [hshown, String.toList_ofList, String.length_ofList, htoken, encode_append, ← hlength,
      List.take_left, hlength]
    exact ⟨List.prefix_append .., .inr ⟨rfl, hcount⟩⟩
  · exact ⟨⟨[], by rw [List.append_nil, hshown]⟩, .inl hshown⟩

/-- A token of more than eight characters is shown whole if one of them lies across the cut, and only
then. -/
theorem redact_eq_self_iff (hlong : 8 < token.length) :
    redact token = token ↔ Straddles 8 token.toList := by
  rcases redact_cases token with ⟨shown, hidden, htoken, hlength, hshown⟩ | ⟨hwhole, hshown⟩
  · refine iff_of_false ?_ (htoken ▸ not_straddles_of_cut hlength)
    intro heq
    have hcount := length_le_length_encode shown
    rw [← String.length_ofList, ← hshown, heq] at hcount
    omega
  · refine iff_of_true hshown ?_
    have hbytes := length_le_length_encode token.toList
    rw [String.length_toList] at hbytes
    exact (cut_or_straddles (by omega)).resolve_left hwhole

/-- **What is shown of a token is cut by bytes.**  For every text that may be presented as a token:

* what is shown is the beginning of the token;
* it is the token itself, or its first eight bytes, which are at most eight characters;
* a token of more than eight characters is shown whole exactly if one of its characters lies across the end
  of its eighth byte;
* if every character is one byte long, then the first eight of them are shown;
* and so of a drawn token its first eight characters are shown, and never all of it. -/
theorem redaction_cuts_bytes (token : String) :
    let shown := redact token
    shown.toList <+: token.toList ∧
    (shown = token ∨
      encode shown.toList = (encode token.toList).take 8 ∧ shown.length ≤ 8) ∧
    (8 < token.length → (shown = token ↔ Straddles 8 token.toList)) ∧
    ((∀ c ∈ token.toList, c.utf8Size = 1) → shown.toList = token.toList.take 8) ∧
    ∀ draw : Draw, token = draw.token → shown.toList = token.toList.take 8 ∧ shown ≠ token := by
  intro shown
  obtain ⟨hbegins, hcut⟩ := redact_isPrefix token
  refine ⟨hbegins, hcut, redact_eq_self_iff, redact_of_single, ?_⟩
  rintro draw rfl
  exact redact_token draw

/-- The eighth character of this token is two bytes long and begins with the eighth byte. -/
theorem straddled_token_is_shown_whole :
    8 < "0123456é89abcdef".length ∧ redact "0123456é89abcdef" = "0123456é89abcdef" ∧
      Straddles 8 "0123456é89abcdef".toList := by
  have hlong : 8 < "0123456é89abcdef".length := by decide
  have hwhole : redact "0123456é89abcdef" = "0123456é89abcdef" := by decide
  obtain ⟨-, -, hstraddles, -⟩ := redaction_cuts_bytes "0123456é89abcdef"
  exact ⟨hlong, hwhole, (hstraddles hlong).mp hwhole⟩

/-- So it is not true of every token that at most eight characters of it are shown. -/
theorem long_token_is_not_hidden :
    ¬ ∀ token : String, (redact token).toList <+: token.toList ∧ (redact token).length ≤ 8 := by
  intro h
  obtain ⟨-, hshort⟩ := h "0123456é89abcdef"
  revert hshort
  decide

end Lobby
