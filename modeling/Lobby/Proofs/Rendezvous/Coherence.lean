/-
Lobby/Proofs/Rendezvous/Coherence.lean

The two maps of a rendezvous are inverse to each other.

A rendezvous keeps who waits on a token (`entries`) and on which token a claimant waits
(`claimants`).  `Coherent` says that the second map is the first one read backwards.  Each operation
is first described on its own, by what it does to the entry of every token; these descriptions need
no invariant, except for `cancelClaimant`, which finds the entry through the second map.

Main results: every operation keeps the maps coherent (`coherent_registerClaimant`,
`coherent_registerPayload`, `coherent_cancelClaimant`, `coherent_sweep`), and a sweep tells exactly
the parties that are overdue, each once (`mem_sweep_iff`, `nodup_tokens_sweep`).
-/
import Lobby.Rendezvous
import Mathlib.Tactic.ByContra
import Mathlib.Tactic.SplitIfs

namespace Lobby

namespace Rendezvous

variable {γ π : Type}

/-! ### Who waits, read off the entry of a token -/

theorem claimant?_eq_some_iff {r : Rendezvous γ π} {t : String} {c : γ} :
    r.claimant? t = some c ↔ ∃ n, r.entries.get? t = some ⟨.claimant c, n⟩ := by
  simp only [claimant?]
  rcases h : r.entries.get? t with - | ⟨c' | p, n⟩ <;> simp

theorem payload?_eq_some_iff {r : Rendezvous γ π} {t : String} {p : π} :
    r.payload? t = some p ↔ ∃ n, r.entries.get? t = some ⟨.payload p, n⟩ := by
  simp only [payload?]
  rcases h : r.entries.get? t with - | ⟨c | p', n⟩ <;> simp

/-- At most one of the two parties waits on a token. -/
theorem claimant?_eq_none_of_payload? {r : Rendezvous γ π} {t : String}
    (h : (r.payload? t).isSome) : r.claimant? t = none := by
  simp only [payload?] at h
  simp only [claimant?]
  rcases he : r.entries.get? t with - | ⟨c | p, n⟩ <;> simp [he] at h ⊢

theorem payload?_eq_none_of_claimant? {r : Rendezvous γ π} {t : String} {c : γ}
    (h : r.claimant? t = some c) : r.payload? t = none := by
  rcases hp : r.payload? t with - | p
  · rfl
  · have hnone : r.claimant? t = none := claimant?_eq_none_of_payload? (by rw [hp]; rfl)
    rw [hnone] at h
    cases h

theorem claimant?_eq_none_of_get? {r : Rendezvous γ π} {t : String}
    (h : r.entries.get? t = none) : r.claimant? t = none := by
  simp only [claimant?, h]

theorem payload?_eq_none_of_get? {r : Rendezvous γ π} {t : String}
    (h : r.entries.get? t = none) : r.payload? t = none := by
  simp only [payload?, h]

theorem payload?_congr {r r' : Rendezvous γ π} {t : String}
    (h : r'.entries.get? t = r.entries.get? t) : r'.payload? t = r.payload? t := by
  simp only [payload?, h]

variable [DecidableEq γ]

/-! ### A claimant arrives -/

theorem timeout_leaveOther (r : Rendezvous γ π) (t : String) (c : γ) :
    (r.leaveOther t c).timeout = r.timeout := by
  simp only [leaveOther]
  rcases r.claimants.get? c with - | previous
  · rfl
  · dsimp only
    split <;> rfl

/-- Leaving takes away the entry of the token that the claimant is kept under. -/
theorem get?_leaveOther (r : Rendezvous γ π) (t t' : String) (c : γ) :
    (r.leaveOther t c).entries.get? t'
      = if r.tokenOf? c = some t' ∧ t' ≠ t then none else r.entries.get? t' := by
  unfold leaveOther tokenOf?
  rcases h : r.claimants.get? c with - | previous
  · simp
  · by_cases hp : previous = t
    · subst hp
      by_cases ht : previous = t' <;> simp [ht, eq_comm]
    · by_cases ht : previous = t'
      · subst ht
        simp [hp]
      · simp [hp, ht]

/-- The entry of the token that is come to stays until then. -/
theorem get?_leaveOther_self (r : Rendezvous γ π) (t : String) (c : γ) :
    (r.leaveOther t c).entries.get? t = r.entries.get? t := by
  rw [get?_leaveOther, if_neg (by simp)]

theorem tokenOf?_leaveOther (r : Rendezvous γ π) (t : String) (c c' : γ) :
    (r.leaveOther t c).tokenOf? c'
      = if c = c' ∧ r.tokenOf? c ≠ some t then none else r.tokenOf? c' := by
  unfold leaveOther tokenOf?
  rcases h : r.claimants.get? c with - | previous
  · by_cases hc : c = c'
    · subst hc
      simp [h]
    · simp [hc]
  · by_cases hp : previous = t <;> by_cases hc : c = c' <;> simp [hp, hc]

theorem timeout_registerClaimant (r : Rendezvous γ π) (now : Nat) (t : String) (c : γ) :
    (r.registerClaimant now t c).1.timeout = r.timeout := by
  simp only [registerClaimant]
  rcases (r.leaveOther t c).entries.get? t with - | ⟨c' | p, n⟩ <;>
    exact timeout_leaveOther r t c

/-- A claimant meets the payload that waits, if one does. -/
theorem registerClaimant_meeting (r : Rendezvous γ π) (now : Nat) (t : String) (c : γ) :
    (r.registerClaimant now t c).2 = (r.payload? t).map (⟨t, c, ·⟩) := by
  simp only [registerClaimant, payload?]
  rw [get?_leaveOther_self]
  rcases h : r.entries.get? t with - | ⟨c' | p, n⟩ <;> rfl

/-- The claimant's own token is left empty by a meeting and holds the claimant otherwise; the token
that it was kept under before is left; every other token stays as it is. -/
theorem get?_registerClaimant (r : Rendezvous γ π) (now : Nat) (t t' : String) (c : γ) :
    (r.registerClaimant now t c).1.entries.get? t'
      = if t = t' then (if (r.payload? t).isSome then none else some ⟨.claimant c, now⟩)
        else if r.tokenOf? c = some t' then none else r.entries.get? t' := by
  have hother : t ≠ t' →
      (r.leaveOther t c).entries.get? t'
        = if r.tokenOf? c = some t' then none else r.entries.get? t' := by
    intro ht
    rw [get?_leaveOther]
    simp [Ne.symm ht]
  unfold registerClaimant payload?
  dsimp only
  rw [get?_leaveOther_self]
  rcases h : r.entries.get? t with - | ⟨c' | p, n⟩ <;> by_cases ht : t = t'
  · simp [awaitPayload, ht]
  · simp [awaitPayload, ht, hother ht]
  · simp [awaitPayload, ht]
  · simp [awaitPayload, ht, hother ht]
  · simp [ht]
  · simp [ht, hother ht]

theorem claimant?_registerClaimant (r : Rendezvous γ π) (now : Nat) (t t' : String) (c : γ) :
    (r.registerClaimant now t c).1.claimant? t'
      = if t = t' then (if (r.payload? t).isSome then none else some c)
        else if r.tokenOf? c = some t' then none else r.claimant? t' := by
  simp only [claimant?]
  rw [get?_registerClaimant]
  split_ifs <;> rfl

theorem payload?_registerClaimant (r : Rendezvous γ π) (now : Nat) (t t' : String) (c : γ) :
    (r.registerClaimant now t c).1.payload? t'
      = if t = t' then none
        else if r.tokenOf? c = some t' then none else r.payload? t' := by
  simp only [payload?]
  rw [get?_registerClaimant]
  split_ifs <;> rfl

/-- After a claimant has come, the second map holds it under the token if it waits there, and no
longer holds a rival that it replaced. -/
theorem tokenOf?_registerClaimant (r : Rendezvous γ π) (now : Nat) (t : String) (c c' : γ) :
    (r.registerClaimant now t c).1.tokenOf? c'
      = if c = c' then
          (if (r.payload? t).isSome ∧ r.tokenOf? c ≠ some t then none else some t)
        else if r.claimant? t = some c' then none else r.tokenOf? c' := by
  have hleave := tokenOf?_leaveOther r t c c'
  unfold registerClaimant payload? claimant?
  dsimp only
  rw [get?_leaveOther_self]
  rcases h : r.entries.get? t with - | ⟨rival | p, n⟩ <;> by_cases hc : c = c'
  · simp [awaitPayload, tokenOf?, hc]
  · simpa [awaitPayload, tokenOf?, hc] using hleave
  · simp [awaitPayload, tokenOf?, hc]
  · by_cases hr : rival = c'
    · simp [awaitPayload, tokenOf?, hc, hr]
    · simpa [awaitPayload, tokenOf?, hc, hr] using hleave
  · subst hc
    by_cases hk : r.claimants.get? c = some t <;> simpa [tokenOf?, hk] using hleave
  · simpa [tokenOf?, hc] using hleave

/-! ### A payload arrives -/

theorem timeout_registerPayload (r : Rendezvous γ π) (now : Nat) (t : String) (p : π) :
    (r.registerPayload now t p).1.timeout = r.timeout := by
  simp only [registerPayload]
  rcases r.entries.get? t with - | ⟨c | p', n⟩ <;> rfl

/-- A payload meets the claimant that waits, if one does. -/
theorem registerPayload_meeting (r : Rendezvous γ π) (now : Nat) (t : String) (p : π) :
    (r.registerPayload now t p).2 = (r.claimant? t).map (⟨t, ·, p⟩) := by
  simp only [registerPayload, claimant?]
  rcases r.entries.get? t with - | ⟨c | p', n⟩ <;> rfl

/-- The payload's token is left empty by a meeting and holds the payload otherwise; every other
token stays as it is. -/
theorem get?_registerPayload (r : Rendezvous γ π) (now : Nat) (t t' : String) (p : π) :
    (r.registerPayload now t p).1.entries.get? t'
      = if t = t' then (if (r.claimant? t).isSome then none else some ⟨.payload p, now⟩)
        else r.entries.get? t' := by
  unfold registerPayload claimant?
  rcases h : r.entries.get? t with - | ⟨c | p', n⟩ <;> by_cases ht : t = t' <;> simp [ht]

theorem claimant?_registerPayload (r : Rendezvous γ π) (now : Nat) (t t' : String) (p : π) :
    (r.registerPayload now t p).1.claimant? t' = if t = t' then none else r.claimant? t' := by
  simp only [claimant?]
  rw [get?_registerPayload]
  split_ifs <;> rfl

theorem payload?_registerPayload (r : Rendezvous γ π) (now : Nat) (t t' : String) (p : π) :
    (r.registerPayload now t p).1.payload? t'
      = if t = t' then (if (r.claimant? t).isSome then none else some p)
        else r.payload? t' := by
  simp only [payload?]
  rw [get?_registerPayload]
  split_ifs <;> rfl

/-- A claimant that a payload met is no longer kept in the second map. -/
theorem tokenOf?_registerPayload (r : Rendezvous γ π) (now : Nat) (t : String) (p : π) (c : γ) :
    (r.registerPayload now t p).1.tokenOf? c
      = if r.claimant? t = some c then none else r.tokenOf? c := by
  unfold registerPayload claimant? tokenOf?
  rcases h : r.entries.get? t with - | ⟨c' | p', n⟩
  · simp
  · by_cases hc : c' = c <;> simp [hc]
  · simp

/-! ### Coherence -/

/-- The second map is the first one read backwards. -/
def Coherent (r : Rendezvous γ π) : Prop :=
  ∀ c t, r.tokenOf? c = some t ↔ r.claimant? t = some c

theorem coherent_empty (timeout : Nat) : (empty timeout : Rendezvous γ π).Coherent := by
  intro c t
  exact ⟨nofun, nofun⟩

/-- On the token of an entry waits the claimant of the entry and no other one. -/
theorem Coherent.tokenOf?_eq_some_iff {r : Rendezvous γ π} (h : r.Coherent) {t : String}
    {w : Waiting γ π} {since : Nat} (ht : r.entries.get? t = some ⟨w, since⟩) (c : γ) :
    r.tokenOf? c = some t ↔ w = .claimant c := by
  rw [h c t, claimant?_eq_some_iff, ht]
  constructor
  · rintro ⟨n, he⟩
    cases he
    rfl
  · rintro rfl
    exact ⟨since, rfl⟩

/-- No claimant waits on two tokens. -/
theorem Coherent.token_unique {r : Rendezvous γ π} (h : r.Coherent) {c : γ} {t t' : String}
    (ht : r.claimant? t = some c) (ht' : r.claimant? t' = some c) : t = t' :=
  Option.some.inj (((h c t).mpr ht).symm.trans ((h c t').mpr ht'))

theorem coherent_registerClaimant {r : Rendezvous γ π} (h : r.Coherent) (now : Nat) (t : String)
    (c : γ) : (r.registerClaimant now t c).1.Coherent := by
  intro c' t'
  have hpay : (r.payload? t).isSome → r.claimant? t = none := claimant?_eq_none_of_payload?
  -- the claimant that comes and the one that is asked for, on the token and on the one asked for
  have hct := h c t
  have hct' := h c t'
  have hc't := h c' t
  have hc't' := h c' t'
  rw [tokenOf?_registerClaimant, claimant?_registerClaimant]
  grind

theorem coherent_registerPayload {r : Rendezvous γ π} (h : r.Coherent) (now : Nat) (t : String)
    (p : π) : (r.registerPayload now t p).1.Coherent := by
  intro c t'
  have hct := h c t
  have hct' := h c t'
  rw [tokenOf?_registerPayload, claimant?_registerPayload]
  grind

/-! ### Leaving -/

theorem timeout_cancelClaimant (r : Rendezvous γ π) (c : γ) :
    (r.cancelClaimant c).1.timeout = r.timeout := by
  simp only [cancelClaimant]
  rcases r.claimants.get? c with - | t
  · rfl
  · dsimp only
    split <;> rfl

/-- Cancelling a claimant that waits on no token changes nothing. -/
theorem cancelClaimant_of_idle {r : Rendezvous γ π} {c : γ} (h : r.tokenOf? c = none) :
    (r.cancelClaimant c).1 = r := by
  have hget : r.claimants.get? c = none := h
  simp only [cancelClaimant, hget]

/-- A cancelled claimant is no longer kept in the second map. -/
theorem tokenOf?_cancelClaimant (r : Rendezvous γ π) (c c' : γ) :
    (r.cancelClaimant c).1.tokenOf? c' = if c = c' then none else r.tokenOf? c' := by
  simp only [cancelClaimant, tokenOf?]
  rcases h : r.claimants.get? c with - | t
  · by_cases hc : c = c'
    · subst hc
      simp [h]
    · simp [hc]
  · dsimp only
    split <;> simp

/-- A cancelled claimant leaves the token that it waits on; no other token is touched. -/
theorem get?_cancelClaimant {r : Rendezvous γ π} (h : r.Coherent) (c : γ) (t : String) :
    (r.cancelClaimant c).1.entries.get? t
      = if r.tokenOf? c = some t then none else r.entries.get? t := by
  simp only [cancelClaimant]
  rcases hc : r.claimants.get? c with - | t'
  · have hidle : r.tokenOf? c = none := hc
    simp [hidle]
  · have hwaits : r.tokenOf? c = some t' := hc
    simp [hwaits, (h c t').mp hwaits]

theorem claimant?_cancelClaimant {r : Rendezvous γ π} (h : r.Coherent) (c : γ) (t : String) :
    (r.cancelClaimant c).1.claimant? t
      = if r.tokenOf? c = some t then none else r.claimant? t := by
  simp only [claimant?]
  rw [get?_cancelClaimant h]
  split_ifs <;> rfl

theorem coherent_cancelClaimant {r : Rendezvous γ π} (h : r.Coherent) (c : γ) :
    (r.cancelClaimant c).1.Coherent := by
  intro c' t
  have hct := h c t
  have hc't := h c' t
  rw [tokenOf?_cancelClaimant, claimant?_cancelClaimant h]
  grind

/-! ### A sweep -/

/-- Forgets the claimants among the pairs of tokens and entries that are swept away. -/
def forget (claimants : KeyedList γ String) (evicted : List (String × Entry γ π)) :
    KeyedList γ String :=
  evicted.foldl
    (fun claimants e =>
      match e.2.waiting with
      | .claimant c => claimants.erase c
      | .payload _ => claimants)
    claimants

theorem get?_forget (claimants : KeyedList γ String) (evicted : List (String × Entry γ π))
    (c : γ) (t : String) :
    (forget claimants evicted).get? c = some t
      ↔ claimants.get? c = some t ∧ ∀ e ∈ evicted, e.2.waiting ≠ .claimant c := by
  induction evicted generalizing claimants with
  | nil => simp [forget]
  | cons e es ih =>
    obtain ⟨t', w, n⟩ := e
    rcases w with c' | p
    · have hstep : forget claimants ((t', ⟨.claimant c', n⟩) :: es)
          = forget (claimants.erase c') es := rfl
      rw [hstep, ih]
      by_cases hc : c' = c <;> simp [hc]
    · have hstep : forget claimants ((t', ⟨.payload p, n⟩) :: es) = forget claimants es := rfl
      rw [hstep, ih]
      simp

theorem sweep_fst (r : Rendezvous γ π) (now : Nat) :
    (r.sweep now).1
      = { r with
          entries := r.entries.filter fun e => !r.overdue now e.2
          claimants := forget r.claimants (r.entries.entries.filter fun e => r.overdue now e.2) } :=
  rfl

theorem timeout_sweep (r : Rendezvous γ π) (now : Nat) : (r.sweep now).1.timeout = r.timeout := rfl

/-- A sweep keeps the entries that are not overdue, as they are. -/
theorem get?_sweep (r : Rendezvous γ π) (now : Nat) (t : String) :
    (r.sweep now).1.entries.get? t = (r.entries.get? t).filter fun e => !r.overdue now e := by
  rw [sweep_fst]
  exact KeyedList.get?_filter _ _ _

/-- Whom a sweep tells that the wait is over: whoever waits on a token and is overdue. -/
theorem mem_sweep_iff (r : Rendezvous γ π) (now : Nat) (x : Expiry γ π) :
    x ∈ (r.sweep now).2
      ↔ ∃ n, r.entries.get? x.token = some ⟨x.waiting, n⟩ ∧ r.overdue now ⟨x.waiting, n⟩ = true := by
  obtain ⟨t, w⟩ := x
  simp only [sweep]
  simp only [List.mem_map, List.mem_filter, Prod.exists, Expiry.mk.injEq]
  constructor
  · rintro ⟨t', ⟨w', n⟩, ⟨hmem, hover⟩, rfl, rfl⟩
    exact ⟨n, KeyedList.get?_eq_some_iff.mpr hmem, hover⟩
  · rintro ⟨n, hget, hover⟩
    exact ⟨t, ⟨w, n⟩, ⟨KeyedList.get?_eq_some_iff.mp hget, hover⟩, rfl, rfl⟩

/-- A sweep tells at most one party of a token. -/
theorem nodup_tokens_sweep (r : Rendezvous γ π) (now : Nat) :
    ((r.sweep now).2.map Expiry.token).Nodup := by
  have hmap : (r.sweep now).2.map Expiry.token
      = (r.entries.entries.filter fun e => r.overdue now e.2).map Prod.fst := by
    simp only [sweep]
    rw [List.map_map]
    rfl
  rw [hmap]
  exact KeyedList.nodup_filter r.entries.nodup_keys

/-- On each token a sweep tells exactly the party that waits there, if it is overdue. -/
theorem filter_token_sweep (r : Rendezvous γ π) (now : Nat) (t : String) :
    (r.sweep now).2.filter (·.token = t)
      = (((r.entries.get? t).filter fun e => r.overdue now e).map
          fun e => ⟨t, e.waiting⟩).toList := by
  show List.filter _ (List.map (fun e : String × Entry γ π => Expiry.mk e.1 e.2.waiting) _) = _
  rw [List.filter_map, List.filter_filter]
  have hswap : (r.entries.entries.filter fun e => decide (e.1 = t) && r.overdue now e.2)
      = (r.entries.entries.filter fun e => e.1 = t).filter fun e => r.overdue now e.2 := by
    rw [List.filter_filter]
    simp only [Bool.and_comm]
  show List.map _ (r.entries.entries.filter fun e => decide (e.1 = t) && r.overdue now e.2) = _
  rw [hswap, KeyedList.filter_key]
  rcases r.entries.get? t with - | e
  · rfl
  · cases hover : r.overdue now e <;> simp [hover, Option.filter_some]

/-- A sweep forgets the claimants that it tells, and no others. -/
theorem tokenOf?_sweep (r : Rendezvous γ π) (now : Nat) (c : γ) (t : String) :
    (r.sweep now).1.tokenOf? c = some t
      ↔ r.tokenOf? c = some t ∧ ∀ x ∈ (r.sweep now).2, x.waiting ≠ .claimant c := by
  have htold : (∀ x ∈ (r.sweep now).2, x.waiting ≠ .claimant c)
      ↔ ∀ e ∈ r.entries.entries.filter fun e => r.overdue now e.2, e.2.waiting ≠ .claimant c := by
    simp only [sweep]
    exact List.forall_mem_map
  rw [htold]
  exact get?_forget _ _ _ _

theorem coherent_sweep {r : Rendezvous γ π} (h : r.Coherent) (now : Nat) :
    (r.sweep now).1.Coherent := by
  intro c t
  rw [tokenOf?_sweep, h c t, claimant?_eq_some_iff, claimant?_eq_some_iff]
  simp only [get?_sweep, Option.filter_eq_some_iff, Bool.not_eq_true']
  constructor
  · rintro ⟨⟨n, hn⟩, hkept⟩
    refine ⟨n, hn, ?_⟩
    by_contra hover
    rw [Bool.not_eq_false] at hover
    exact hkept ⟨t, .claimant c⟩ ((mem_sweep_iff r now _).mpr ⟨n, hn, hover⟩) rfl
  · rintro ⟨n, hn, hkept⟩
    refine ⟨⟨n, hn⟩, ?_⟩
    rintro ⟨t', w⟩ hmem rfl
    -- the claimant would be told on its only token, where it is not overdue
    obtain ⟨m, hm, hover⟩ := (mem_sweep_iff r now _).mp hmem
    have ht : t' = t :=
      h.token_unique (claimant?_eq_some_iff.mpr ⟨m, hm⟩) (claimant?_eq_some_iff.mpr ⟨n, hn⟩)
    subst ht
    rw [hn, Option.some.injEq] at hm
    rw [← hm, hkept] at hover
    cases hover

end Rendezvous

end Lobby
