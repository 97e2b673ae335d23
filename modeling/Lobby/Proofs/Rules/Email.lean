/-
Lobby/Proofs/Rules/Email.lean

What an e-mail address is.

The rule for e-mail addresses takes a text apart: at the first at sign, and behind it at every dot.  Here
addresses are put together: an `EmailAddress` is what stands before the at sign and the labels of a domain,
and it is spelled by writing them down with the signs between them.  Taking apart undoes putting together and
the other way round (`splitAtFirst?_eq_some_iff`, `labels_eq_splitOn`), as long as no part holds the sign
at which it is taken apart.  So the rule accepts what spells an address, and nothing spells two.

Main result: `emails_are_addresses`.
-/
import Lobby.Proofs.Rules
import Mathlib.Logic.ExistsUnique

namespace Lobby.Rules

variable {sep c : Char} {cs front back : List Char} {ls : List (List Char)}

/-! ### Taking apart and putting together -/

/-- A row is split at a character if it is what comes before it, the character, and what comes after it,
and the character is not among what comes before. -/
theorem splitAtFirst?_eq_some_iff :
    splitAtFirst? sep cs = some (front, back) ↔ cs = front ++ sep :: back ∧ sep ∉ front := by
  induction cs generalizing front with
  | nil => simp [splitAtFirst?]
  | cons c cs ih =>
    by_cases hc : c = sep
    · subst hc
      cases front with
      | nil => simp [splitAtFirst?]
      | cons d front =>
        refine iff_of_false (by simp [splitAtFirst?]) ?_
        rintro ⟨hcs, hnot⟩
        cases hcs
        exact hnot (List.mem_cons_self ..)
    · cases front with
      | nil => simp [splitAtFirst?, hc]
      | cons d front =>
        simp only [splitAtFirst?, if_neg hc, Option.map_eq_some_iff, Prod.exists, Prod.mk.injEq,
          List.cons.injEq, List.cons_append, List.mem_cons, not_or]
        constructor
        · rintro ⟨front', back', hsplit, ⟨rfl, rfl⟩, rfl⟩
          obtain ⟨rfl, hnot⟩ := ih.mp hsplit
          exact ⟨⟨rfl, rfl⟩, Ne.symm hc, hnot⟩
        · rintro ⟨⟨rfl, hcs⟩, -, hnot⟩
          exact ⟨front, back, ih.mpr ⟨hcs, hnot⟩, ⟨rfl, rfl⟩, rfl⟩

theorem labels_eq_splitOn (sep : Char) (cs : List Char) : labels sep cs = cs.splitOn sep := by
  induction cs with
  | nil => rfl
  | cons c cs ih =>
    obtain ⟨l, ls, hsplit⟩ := List.exists_cons_of_ne_nil (List.splitOn_ne_nil sep cs)
    rw [List.splitOn_cons_eq_if_modifyHead, labels, ih, hsplit]
    simp only [beq_iff_eq, List.modifyHead_cons]

/-- No part holds the character between the parts. -/
theorem not_mem_of_mem_labels {l : List Char} (hl : l ∈ labels sep cs) : sep ∉ l := by
  induction cs generalizing l with
  | nil =>
    rw [labels, List.mem_singleton] at hl
    subst hl
    exact List.not_mem_nil
  | cons c cs ih =>
    rw [labels] at hl
    split_ifs at hl with hc
    · rcases List.mem_cons.mp hl with rfl | hl
      · exact List.not_mem_nil
      · exact ih hl
    · rcases hlabels : labels sep cs with - | ⟨first, rest⟩ <;> rw [hlabels] at hl ih
      · rw [List.mem_singleton.mp hl, List.mem_singleton]
        exact Ne.symm hc
      · rcases List.mem_cons.mp hl with rfl | hl
        · rw [List.mem_cons, not_or]
          exact ⟨Ne.symm hc, ih (List.mem_cons_self ..)⟩
        · exact ih (List.mem_cons_of_mem _ hl)

/-- Parts put together hold what the parts hold, and the character between them if there are two. -/
theorem mem_intercalate :
    c ∈ [sep].intercalate ls ↔ (∃ l ∈ ls, c ∈ l) ∨ c = sep ∧ 2 ≤ ls.length := by
  induction ls with
  | nil => simp
  | cons l ls ih =>
    rcases ls with - | ⟨l', ls⟩
    · simp
    · rw [List.intercalate_cons_cons, List.mem_append, List.mem_append, ih, List.mem_singleton]
      simp only [List.mem_cons, List.length_cons, exists_eq_or_imp]
      constructor
      · rintro ((hl | rfl) | (hrest | ⟨rfl, -⟩))
        · exact .inl (.inl hl)
        · exact .inr ⟨rfl, by omega⟩
        · exact .inl (.inr hrest)
        · exact .inr ⟨rfl, by omega⟩
      · rintro ((hl | hrest) | ⟨rfl, -⟩)
        · exact .inl (.inl hl)
        · exact .inr (.inl hrest)
        · exact .inl (.inr rfl)

/-! ### Addresses -/

/-- An e-mail address: what stands before the at sign, and the labels of the domain. -/
structure EmailAddress where
  localPart : List Char
  labels : List (List Char)
  localPart_ne_nil : localPart ≠ []
  two_le_length : 2 ≤ labels.length
  label_ne_nil : ∀ l ∈ labels, l ≠ []
  at_not_mem_localPart : '@' ∉ localPart
  at_not_mem_label : ∀ l ∈ labels, '@' ∉ l
  dot_not_mem_label : ∀ l ∈ labels, '.' ∉ l

namespace EmailAddress

/-- The labels with dots between them. -/
def domain (a : EmailAddress) : List Char := ['.'].intercalate a.labels

/-- How an address is spelled. -/
def text (a : EmailAddress) : String := String.ofList (a.localPart ++ '@' :: a.domain)

theorem toList_text (a : EmailAddress) : a.text.toList = a.localPart ++ '@' :: a.domain :=
  String.toList_ofList

theorem at_not_mem_domain (a : EmailAddress) : '@' ∉ a.domain := by
  rw [domain, mem_intercalate]
  rintro (⟨l, hl, hat⟩ | ⟨hat, -⟩)
  · exact a.at_not_mem_label l hl hat
  · exact absurd hat (by decide)

theorem dot_mem_domain (a : EmailAddress) : '.' ∈ a.domain :=
  mem_intercalate.mpr (.inr ⟨rfl, a.two_le_length⟩)

/-- Taken apart at the first at sign, an address gives back what stands before it and the domain. -/
theorem splitAtFirst?_text (a : EmailAddress) :
    splitAtFirst? '@' a.text.toList = some (a.localPart, a.domain) :=
  splitAtFirst?_eq_some_iff.mpr ⟨a.toList_text, a.at_not_mem_localPart⟩

/-- Taken apart at its dots, a domain gives back its labels. -/
theorem labels_domain (a : EmailAddress) : Rules.labels '.' a.domain = a.labels := by
  rw [labels_eq_splitOn]
  refine List.splitOn_intercalate '.' a.dot_not_mem_label ?_
  exact List.ne_nil_of_length_pos (Nat.lt_of_lt_of_le Nat.two_pos a.two_le_length)

/-- **No text spells two addresses.** -/
theorem text_injective {a b : EmailAddress} (h : a.text = b.text) : a = b := by
  have hsplit := a.splitAtFirst?_text
  rw [h, b.splitAtFirst?_text, Option.some.injEq, Prod.mk.injEq] at hsplit
  obtain ⟨hlocal, hdomain⟩ := hsplit
  have hlabels := a.labels_domain
  rw [← hdomain, b.labels_domain] at hlabels
  cases a
  cases b
  cases hlocal
  cases hlabels
  rfl

/-- A local part and a domain that the rule accepts are those of an address. -/
theorem exists_domain_eq (hfront : front ≠ []) (hat : '@' ∉ front) (hdomain : '@' ∉ back)
    (hdot : '.' ∈ back) (hlabels : ∀ l ∈ Rules.labels '.' back, l ≠ []) :
    ∃ a : EmailAddress, a.localPart = front ∧ a.domain = back := by
  have hjoined : ['.'].intercalate (Rules.labels '.' back) = back := by
    rw [labels_eq_splitOn]
    exact List.intercalate_splitOn '.'
  refine ⟨⟨front, Rules.labels '.' back, hfront, ?_, hlabels, hat, ?_, ?_⟩, rfl, hjoined⟩
  · -- the dot is in no label, so that it stands between two
    rw [← hjoined, mem_intercalate] at hdot
    rcases hdot with ⟨l, hl, hmem⟩ | ⟨-, htwo⟩
    · exact absurd hmem (not_mem_of_mem_labels hl)
    · exact htwo
  · intro l hl hmem
    rw [← hjoined] at hdomain
    exact hdomain (mem_intercalate.mpr (.inl ⟨l, hl, hmem⟩))
  · exact fun l => not_mem_of_mem_labels

end EmailAddress

/-! ### The rule -/

/-- What the rule checks, check by check. -/
theorem validEmail_iff {s : String} :
    validEmail s = true ↔ '"' ∉ s.toList ∧ (∀ c ∈ s.toList, Text.isBlank c = false) ∧
      ∃ front back, splitAtFirst? '@' s.toList = some (front, back) ∧ front ≠ [] ∧ '@' ∉ back ∧
        '.' ∈ back ∧ ∀ l ∈ labels '.' back, l ≠ [] := by
  rw [validEmail, Bool.and_eq_true, Bool.and_eq_true, Bool.not_eq_true', ← Bool.not_eq_true,
    hasQuote_iff, and_assoc]
  refine and_congr_right fun _ => and_congr ?_ ?_
  · simp
  · rcases splitAtFirst? '@' s.toList with - | ⟨front, back⟩
    · simp
    · simp [and_assoc]

/-- **What is accepted as an e-mail address is what spells one.**  A text passes the rule exactly if it
holds neither a double quote nor white space and spells an `EmailAddress`: something before the at sign, and
at least two labels behind it, none of them empty, with dots between them and no other at sign or dot.  And
then it spells one only. -/
theorem emails_are_addresses (s : String) :
    (validEmail s = true ↔ '"' ∉ s.toList ∧ (∀ c ∈ s.toList, Text.isBlank c = false) ∧
      ∃ a : EmailAddress, a.text = s) ∧
    (validEmail s = true → ∃! a : EmailAddress, a.text = s) := by
  have hspells : validEmail s = true ↔ '"' ∉ s.toList ∧
      (∀ c ∈ s.toList, Text.isBlank c = false) ∧ ∃ a : EmailAddress, a.text = s := by
    rw [validEmail_iff]
    refine and_congr_right fun _ => and_congr_right fun _ => ?_
    constructor
    · rintro ⟨front, back, hsplit, hfront, hat, hdot, hlabels⟩
      obtain ⟨hs, hnot⟩ := splitAtFirst?_eq_some_iff.mp hsplit
      obtain ⟨a, rfl, rfl⟩ := EmailAddress.exists_domain_eq hfront hnot hat hdot hlabels
      exact ⟨a, String.toList_inj.mp (a.toList_text.trans hs.symm)⟩
    · rintro ⟨a, rfl⟩
      refine ⟨a.localPart, a.domain, a.splitAtFirst?_text, a.localPart_ne_nil,
        a.at_not_mem_domain, a.dot_mem_domain, ?_⟩
      rw [a.labels_domain]
      exact a.label_ne_nil
  refine ⟨hspells, ?_⟩
  intro hvalid
  obtain ⟨-, -, a, ha⟩ := hspells.mp hvalid
  exact ⟨a, ha, fun b hb => EmailAddress.text_injective (hb.trans ha.symm)⟩

/-- An address with a dot before the at sign, and with three labels behind it. -/
theorem dotted_email_is_an_address :
    validEmail "a.b@mail.example.org" = true ∧
      ∃! a : EmailAddress, a.text = "a.b@mail.example.org" := by
  have hvalid : validEmail "a.b@mail.example.org" = true := by decide
  exact ⟨hvalid, (emails_are_addresses "a.b@mail.example.org").2 hvalid⟩

/-- Neither an empty label nor a second at sign is accepted, and a line end is white space. -/
example : ["alice@example.", "alice@.net", "alice@@example.net", "alice@localhost", "@example.net",
    "ali\u2028ce@example.net"].all (fun s => !validEmail s) = true := by decide

end Lobby.Rules
