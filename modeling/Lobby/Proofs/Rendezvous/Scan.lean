/-
Lobby/Proofs/Rendezvous/Scan.lean

The second map against a look through all entries.

A cancellation finds the entry of its claimant through the second map and never looks through the first
one.  `cancelByScan` is the cancellation that does, and needs no second map for it.  While the maps are
inverse the two are the same (`cancelClaimant_eq_cancelByScan`): the entry that the second map leads to
is there, is that of the claimant, and is the only one.  In a run that starts with an empty table the
maps are inverse all along, whatever is called in whatever order (`maps_are_inverse`).
-/
import Lobby.Proofs.KeyedList
import Lobby.Proofs.Rendezvous.Fate

namespace Lobby

variable {γ π : Type} [DecidableEq γ]

/-! ### Looking through the entries -/

/-- Whether it is a given claimant that waits. -/
def Entry.isOf (c : γ) (e : Entry γ π) : Bool :=
  match e.waiting with
  | .claimant c' => c' = c
  | .payload _ => false

theorem Entry.isOf_iff {c : γ} {e : Entry γ π} : e.isOf c = true ↔ e.waiting = .claimant c := by
  obtain ⟨c' | p, since⟩ := e <;> simp [isOf]

namespace Rendezvous

/-- Every entry of a claimant goes, wherever it stands.  Says whether there was one. -/
def cancelByScan (r : Rendezvous γ π) (c : γ) : Rendezvous γ π × Bool :=
  ({ r with
      entries := r.entries.filter fun e => !e.2.isOf c
      claimants := r.claimants.erase c },
    r.entries.entries.any fun e => e.2.isOf c)

variable {r : Rendezvous γ π} {c : γ} {t : String}

/-- The entries of a claimant are those of the token that the second map has for it. -/
theorem Coherent.isOf_iff (h : r.Coherent) {e : String × Entry γ π} (he : e ∈ r.entries.entries) :
    e.2.isOf c = true ↔ r.tokenOf? c = some e.1 := by
  obtain ⟨t, w, since⟩ := e
  rw [Entry.isOf_iff]
  exact (h.tokenOf?_eq_some_iff (KeyedList.get?_eq_some_iff.mpr he) c).symm

/-- **A cancellation does what a look through all entries does**, and says the same. -/
theorem cancelClaimant_eq_cancelByScan (h : r.Coherent) (c : γ) :
    r.cancelClaimant c = r.cancelByScan c := by
  rcases hc : r.claimants.get? c with - | t
  · -- the claimant is not in the second map, and so in no entry
    have hidle : r.tokenOf? c = none := hc
    have hnone : ∀ e ∈ r.entries.entries, e.2.isOf c = false := by
      intro e he
      refine Bool.eq_false_iff.mpr fun hof => ?_
      have hwaits := (h.isOf_iff he).mp hof
      rw [hidle] at hwaits
      cases hwaits
    have hkept : (r.entries.filter fun e => !e.2.isOf c) = r.entries :=
      KeyedList.ext_entries (List.filter_eq_self.mpr fun e he => by rw [hnone e he]; rfl)
    have hany : (r.entries.entries.any fun e => e.2.isOf c) = false :=
      List.any_eq_false.mpr fun e he => by rw [hnone e he]; exact Bool.false_ne_true
    simp only [cancelClaimant, cancelByScan, hc, hkept, hany, KeyedList.erase_of_get?_eq_none hc]
  · -- the entry of the token is that of the claimant, and no other one is
    have hwaits : r.tokenOf? c = some t := hc
    have hclaim : r.claimant? t = some c := (h c t).mp hwaits
    have hkept : (r.entries.filter fun e => !e.2.isOf c) = r.entries.erase t := by
      refine KeyedList.filter_congr fun e he => ?_
      rw [Bool.eq_iff_iff, Bool.not_eq_true', Bool.eq_false_iff, Ne, h.isOf_iff he, hwaits,
        Option.some.injEq, decide_eq_true_iff, Ne, eq_comm]
    have hany : (r.entries.entries.any fun e => e.2.isOf c) = true := by
      obtain ⟨since, hget⟩ := claimant?_eq_some_iff.mp hclaim
      exact List.any_eq_true.mpr ⟨_, KeyedList.get?_eq_some_iff.mp hget, Entry.isOf_iff.mpr rfl⟩
    simp only [cancelClaimant, cancelByScan, hc, hclaim, if_true, hkept, hany]

/-! ### What a cancellation takes away -/

/-- A claimant that waits is found, and its entry goes and nothing else. -/
theorem cancelClaimant_of_waiting (h : r.Coherent) {since : Nat}
    (ht : r.entries.get? t = some ⟨.claimant c, since⟩) :
    r.cancelClaimant c
      = ({ r with entries := r.entries.erase t, claimants := r.claimants.erase c }, true) := by
  have hclaim : r.claimant? t = some c := claimant?_eq_some_iff.mpr ⟨since, ht⟩
  have hwaits : r.claimants.get? c = some t := (h c t).mpr hclaim
  simp only [cancelClaimant, hwaits, hclaim, if_true]

/-- A claimant that does not wait is not found, and nothing goes. -/
theorem cancelClaimant_of_not_waiting (h : r.Coherent)
    (hc : ∀ t since, r.entries.get? t ≠ some ⟨.claimant c, since⟩) :
    r.cancelClaimant c = (r, false) := by
  rcases hwaits : r.claimants.get? c with - | t
  · simp only [cancelClaimant, hwaits]
  · obtain ⟨since, ht⟩ := claimant?_eq_some_iff.mp ((h c t).mp hwaits)
    exact absurd ht (hc t since)

/-- An entry of somebody else stays, on whatever token it stands. -/
theorem get?_cancelClaimant_of_other (h : r.Coherent) {e : Entry γ π}
    (ht : r.entries.get? t = some e) (he : e.waiting ≠ .claimant c) :
    (r.cancelClaimant c).1.entries.get? t = some e := by
  obtain ⟨w, since⟩ := e
  rw [get?_cancelClaimant h, if_neg (mt (h.tokenOf?_eq_some_iff ht c).mp he), ht]

/-! ### Runs -/

/-- **The two maps are inverse.**  Whenever a run that starts with an empty table has come to some point:

* the second map has a claimant under a token exactly if the entry of the token is that of the claimant;
* so a claimant waits on one token at most, and two claimants never wait on one token;
* a cancellation is the same as one by a look through all entries;
* it finds a claimant that waits, and of all entries takes away the one of that claimant; it does not
  find one that does not wait, and then changes nothing;
* the entries of payloads and of other claimants stay, and so does what the second map has for them. -/
theorem maps_are_inverse (timeout : Nat) (calls : List (Call γ π)) (n : Nat) :
    let r := tableAt timeout calls n
    (∀ c t, r.claimants.get? c = some t
      ↔ ∃ since, r.entries.get? t = some ⟨.claimant c, since⟩) ∧
    (∀ c t t' since since', r.entries.get? t = some ⟨.claimant c, since⟩ →
      r.entries.get? t' = some ⟨.claimant c, since'⟩ → t = t') ∧
    (∀ c c' t, r.claimants.get? c = some t → r.claimants.get? c' = some t → c = c') ∧
    (∀ c, r.cancelClaimant c = r.cancelByScan c) ∧
    (∀ c t since, r.entries.get? t = some ⟨.claimant c, since⟩ →
      (r.cancelClaimant c).2 = true ∧ (r.cancelClaimant c).1.size + 1 = r.size ∧
      ∀ t', (r.cancelClaimant c).1.entries.get? t' = if t = t' then none else r.entries.get? t') ∧
    (∀ c, (∀ t since, r.entries.get? t ≠ some ⟨.claimant c, since⟩) →
      r.cancelClaimant c = (r, false)) ∧
    (∀ c t e, r.entries.get? t = some e → e.waiting ≠ .claimant c →
      (r.cancelClaimant c).1.entries.get? t = some e) ∧
    ∀ c c', c ≠ c' → (r.cancelClaimant c).1.claimants.get? c' = r.claimants.get? c' := by
  intro r
  have h : r.Coherent := coherent_tableAt timeout calls n
  have hinverse : ∀ c t, r.claimants.get? c = some t
      ↔ ∃ since, r.entries.get? t = some ⟨.claimant c, since⟩ :=
    fun c t => (h c t).trans claimant?_eq_some_iff
  refine ⟨hinverse, ?_, ?_, cancelClaimant_eq_cancelByScan h, ?_,
    fun c => cancelClaimant_of_not_waiting h, fun c t e => get?_cancelClaimant_of_other h, ?_⟩
  · intro c t t' since since' ht ht'
    exact h.token_unique (claimant?_eq_some_iff.mpr ⟨since, ht⟩) (claimant?_eq_some_iff.mpr ⟨since', ht'⟩)
  · intro c c' t hc hc'
    exact Option.some.inj (((h c t).mp hc).symm.trans ((h c' t).mp hc'))
  · intro c t since ht
    rw [cancelClaimant_of_waiting h ht]
    have hsize := KeyedList.size_erase r.entries t
    rw [ht] at hsize
    exact ⟨rfl, hsize, KeyedList.get?_erase r.entries t⟩
  · intro c c' hcc
    exact (tokenOf?_cancelClaimant r c c').trans (if_neg hcc)

/-- A claimant that has moved to another token and was replaced there by a rival: its cancellation takes
away neither the rival's claim nor the payload on the token that it has left, and the rival is found. -/
theorem replaced_claimant_takes_nothing_away :
    let calls : List (Call Nat String) :=
      [.registerClaimant 0 "yard" 1, .registerClaimant 2 "gate" 1, .registerClaimant 3 "gate" 2,
        .registerPayload 5 "yard" "key"]
    let r := tableAt 10 calls 4
    r.entries.get? "gate" = some ⟨.claimant 2, 3⟩ ∧ r.entries.get? "yard" = some ⟨.payload "key", 5⟩ ∧
      (r.cancelClaimant 1).1.entries.get? "gate" = some ⟨.claimant 2, 3⟩ ∧
      (r.cancelClaimant 1).1.entries.get? "yard" = some ⟨.payload "key", 5⟩ ∧
      (r.cancelClaimant 2).2 = true ∧ (r.cancelClaimant 2).1.size + 1 = r.size := by
  intro calls r
  have hgate : r.entries.get? "gate" = some ⟨.claimant 2, 3⟩ := by decide
  have hyard : r.entries.get? "yard" = some ⟨.payload "key", 5⟩ := by decide
  obtain ⟨-, -, -, -, hfound, -, hothers, -⟩ := maps_are_inverse 10 calls 4
  obtain ⟨htrue, hsize, -⟩ := hfound 2 "gate" 3 hgate
  exact ⟨hgate, hyard, hothers 1 "gate" _ hgate (by decide), hothers 1 "yard" _ hyard nofun, htrue, hsize⟩

end Rendezvous

end Lobby
