/-
Lobby/Proofs/Rendezvous/Fate.lean

Every registration at a rendezvous has exactly one fate.

A registration that meets nobody waits.  Which later calls end its wait, and how, can be read off the
registration and the call alone, without looking at the table: this is `Registration.fate?`.

* A party of the other side comes to its token: it is `met`, and the meeting is made known.
* A party of its own side comes to its token: it is `replaced`, silently.
* Its claimant is cancelled or comes to another token: it is `withdrawn`, silently.
* A sweep finds that it has waited longer than the timeout: it is `timedOut`, and that is made known.

`Waits` says that a registration of a run was told to wait and that no call since has ended its wait.
Design: on the token of a registration that waits, a call does exactly what the fate says
(`call_of_waiting`), and on a token where nobody waits it can only register (`call_of_empty`).  By
induction on the run, the pending entries are at any time exactly the registrations that wait
(`Waits.get?_eq`, `exists_waits_of_get?`), and each by one registration only (`Waits.unique`).
-/
import Lobby.Proofs.History
import Lobby.Proofs.Rendezvous.Coherence
import Mathlib.Logic.ExistsUnique

namespace Lobby

namespace Rendezvous

variable {γ π : Type}

/-! ### Calls and what they make known -/

/-- A call on a rendezvous. -/
inductive Call (γ π : Type) where
  | registerClaimant (now : Nat) (token : String) (c : γ)
  | registerPayload (now : Nat) (token : String) (p : π)
  | cancelClaimant (c : γ)
  | sweep (now : Nat)

/-- What a call makes known: a meeting, or the end of a wait. -/
inductive Notice (γ π : Type) where
  | matched (m : Meeting γ π)
  | timedOut (x : Expiry γ π)
deriving DecidableEq

/-- The token that a notice is about. -/
def Notice.token : Notice γ π → String
  | matched m => m.token
  | timedOut x => x.token

/-- A party at a token, and since when. -/
structure Registration (γ π : Type) where
  token : String
  entry : Entry γ π
deriving DecidableEq

/-- What a call registers. -/
def Call.registration? : Call γ π → Option (Registration γ π)
  | registerClaimant now t c => some ⟨t, .claimant c, now⟩
  | registerPayload now t p => some ⟨t, .payload p, now⟩
  | cancelClaimant _ => none
  | sweep _ => none

variable [DecidableEq γ]

/-- The table after a call, and what the call makes known. -/
def call (r : Rendezvous γ π) : Call γ π → Rendezvous γ π × List (Notice γ π)
  | .registerClaimant now t c =>
    let (r, meeting) := r.registerClaimant now t c
    (r, (meeting.map .matched).toList)
  | .registerPayload now t p =>
    let (r, meeting) := r.registerPayload now t p
    (r, (meeting.map .matched).toList)
  | .cancelClaimant c => ((r.cancelClaimant c).1, [])
  | .sweep now =>
    let (r, expired) := r.sweep now
    (r, expired.map .timedOut)

/-- The registration of a call that is told to wait: nobody was met. -/
def pending? (r : Rendezvous γ π) (k : Call γ π) : Option (Registration γ π) :=
  if (r.call k).2.isEmpty then k.registration? else none

theorem coherent_call {r : Rendezvous γ π} (h : r.Coherent) (k : Call γ π) :
    (r.call k).1.Coherent := by
  cases k with
  | registerClaimant now t c => exact coherent_registerClaimant h now t c
  | registerPayload now t p => exact coherent_registerPayload h now t p
  | cancelClaimant c => exact coherent_cancelClaimant h c
  | sweep now => exact coherent_sweep h now

theorem timeout_call (r : Rendezvous γ π) (k : Call γ π) : (r.call k).1.timeout = r.timeout := by
  cases k with
  | registerClaimant now t c => exact timeout_registerClaimant r now t c
  | registerPayload now t p => exact timeout_registerPayload r now t p
  | cancelClaimant c => exact timeout_cancelClaimant r c
  | sweep now => exact timeout_sweep r now

/-! ### Fates -/

/-- How a wait ends. -/
inductive Fate (γ π : Type) where
  | met (m : Meeting γ π)
  /-- A party of the same side waits in its place. -/
  | replaced (successor : Entry γ π)
  /-- The claimant was cancelled or went to another token. -/
  | withdrawn
  | timedOut (x : Expiry γ π)

/-- What is made known about a wait that ends. -/
def Fate.notices : Fate γ π → List (Notice γ π)
  | met m => [.matched m]
  | replaced _ => []
  | withdrawn => []
  | timedOut x => [.timedOut x]

/-- Who waits on the token after a wait has ended. -/
def Fate.successor? : Fate γ π → Option (Entry γ π)
  | replaced e => some e
  | _ => none

/-- The end that a call makes of a wait, if it ends it. -/
def Registration.fate? (timeout : Nat) : Registration γ π → Call γ π → Option (Fate γ π)
  | ⟨t, .claimant c, _⟩, .registerClaimant now t' c' =>
    if t' = t then some (.replaced ⟨.claimant c', now⟩)
    else if c' = c then some .withdrawn else none
  | ⟨t, .payload p, _⟩, .registerClaimant _ t' c' =>
    if t' = t then some (.met ⟨t, c', p⟩) else none
  | ⟨t, .claimant c, _⟩, .registerPayload _ t' p' =>
    if t' = t then some (.met ⟨t, c, p'⟩) else none
  | ⟨t, .payload _, _⟩, .registerPayload now t' p' =>
    if t' = t then some (.replaced ⟨.payload p', now⟩) else none
  | ⟨_, .claimant c, _⟩, .cancelClaimant c' => if c' = c then some .withdrawn else none
  | ⟨_, .payload _, _⟩, .cancelClaimant _ => none
  | ⟨t, w, since⟩, .sweep now => if timeout < now - since then some (.timedOut ⟨t, w⟩) else none

/-- Whoever comes to a token ends the wait there. -/
theorem isSome_fate? {timeout : Nat} {g g' : Registration γ π} {k : Call γ π}
    (hk : k.registration? = some g') (ht : g'.token = g.token) :
    (g.fate? timeout k).isSome := by
  obtain ⟨t, w, since⟩ := g
  dsimp only at ht
  cases k with
  | registerClaimant now t' c' =>
    cases hk
    subst ht
    cases w <;> simp [Registration.fate?]
  | registerPayload now t' p' =>
    cases hk
    subst ht
    cases w <;> simp [Registration.fate?]
  | cancelClaimant c' => cases hk
  | sweep now => cases hk

/-! ### One call, seen from one token -/

/-- What a call makes known about one token. -/
def noticesOn (r : Rendezvous γ π) (k : Call γ π) (t : String) : List (Notice γ π) :=
  (r.call k).2.filter (·.token = t)

/-- Where a registration waits, a call leaves behind and makes known what its fate says. -/
def FollowsFate (r : Rendezvous γ π) (g : Registration γ π) (k : Call γ π) : Prop :=
  (r.call k).1.entries.get? g.token
      = (g.fate? r.timeout k).elim (some g.entry) Fate.successor? ∧
    r.noticesOn k g.token = (g.fate? r.timeout k).elim [] Fate.notices

theorem noticesOn_registerClaimant (r : Rendezvous γ π) (now : Nat) (t t' : String) (c : γ) :
    r.noticesOn (.registerClaimant now t' c) t
      = if t' = t then ((r.payload? t').map fun p => .matched ⟨t', c, p⟩).toList else [] := by
  show List.filter _ ((r.registerClaimant now t' c).2.map Notice.matched).toList = _
  rw [registerClaimant_meeting]
  rcases r.payload? t' with - | p
  · simp
  · by_cases ht : t' = t <;> simp [Notice.token, ht]

theorem noticesOn_registerPayload (r : Rendezvous γ π) (now : Nat) (t t' : String) (p : π) :
    r.noticesOn (.registerPayload now t' p) t
      = if t' = t then ((r.claimant? t').map fun c => .matched ⟨t', c, p⟩).toList else [] := by
  show List.filter _ ((r.registerPayload now t' p).2.map Notice.matched).toList = _
  rw [registerPayload_meeting]
  rcases r.claimant? t' with - | c
  · simp
  · by_cases ht : t' = t <;> simp [Notice.token, ht]

theorem noticesOn_sweep (r : Rendezvous γ π) (now : Nat) (t : String) :
    r.noticesOn (.sweep now) t
      = (((r.entries.get? t).filter fun e => r.overdue now e).map
          fun e => .timedOut ⟨t, e.waiting⟩).toList := by
  show List.filter _ ((r.sweep now).2.map Notice.timedOut) = _
  rw [List.filter_map]
  show List.map Notice.timedOut ((r.sweep now).2.filter (·.token = t)) = _
  rw [filter_token_sweep]
  rcases (r.entries.get? t).filter fun e => r.overdue now e with - | e <;> rfl

theorem followsFate_registerClaimant {r : Rendezvous γ π} (h : r.Coherent) {g : Registration γ π}
    (hg : r.entries.get? g.token = some g.entry) (now : Nat) (t' : String) (c' : γ) :
    r.FollowsFate g (.registerClaimant now t' c') := by
  obtain ⟨t, w, since⟩ := g
  dsimp only at hg
  have hentry := get?_registerClaimant r now t' t c'
  have hnotices := noticesOn_registerClaimant r now t t' c'
  have hleaves := h.tokenOf?_eq_some_iff hg c'
  show (r.registerClaimant now t' c').1.entries.get? t = _ ∧ r.noticesOn _ t = _
  rw [hentry, hnotices]
  rcases w with c | p
  · have hpay : r.payload? t = none := by simp [payload?, hg]
    by_cases ht : t' = t
    · -- a rival: it waits in its place
      simp [Registration.fate?, Fate.successor?, Fate.notices, ht, hpay]
    · by_cases hc : c' = c
      · -- the claimant itself: it moves
        subst hc
        simp [Registration.fate?, Fate.successor?, Fate.notices, ht, hleaves]
      · simp [Registration.fate?, ht, hc, Ne.symm hc, hleaves, hg]
  · have hpay : r.payload? t = some p := by simp [payload?, hg]
    by_cases ht : t' = t
    · -- the payload is met
      simp [Registration.fate?, Fate.successor?, Fate.notices, ht, hpay]
    · simp [Registration.fate?, ht, hleaves, hg]

theorem followsFate_registerPayload (r : Rendezvous γ π) {g : Registration γ π}
    (hg : r.entries.get? g.token = some g.entry) (now : Nat) (t' : String) (p' : π) :
    r.FollowsFate g (.registerPayload now t' p') := by
  obtain ⟨t, w, since⟩ := g
  dsimp only at hg
  have hentry := get?_registerPayload r now t' t p'
  have hnotices := noticesOn_registerPayload r now t t' p'
  show (r.registerPayload now t' p').1.entries.get? t = _ ∧ r.noticesOn _ t = _
  rw [hentry, hnotices]
  rcases w with c | p <;> by_cases ht : t' = t
  · -- the claimant is met
    have hclaim : r.claimant? t = some c := by simp [claimant?, hg]
    simp [Registration.fate?, Fate.successor?, Fate.notices, ht, hclaim]
  · simp [Registration.fate?, ht, hg]
  · -- the payload that waited is replaced
    have hclaim : r.claimant? t = none := by simp [claimant?, hg]
    simp [Registration.fate?, Fate.successor?, Fate.notices, ht, hclaim]
  · simp [Registration.fate?, ht, hg]

theorem followsFate_cancelClaimant {r : Rendezvous γ π} (h : r.Coherent) {g : Registration γ π}
    (hg : r.entries.get? g.token = some g.entry) (c' : γ) :
    r.FollowsFate g (.cancelClaimant c') := by
  obtain ⟨t, w, since⟩ := g
  dsimp only at hg
  have hentry := get?_cancelClaimant h c' t
  have hleaves := h.tokenOf?_eq_some_iff hg c'
  show (r.cancelClaimant c').1.entries.get? t = _ ∧ [] = _
  rw [hentry]
  rcases w with c | p
  · by_cases hc : c' = c
    · subst hc
      simp [Registration.fate?, Fate.successor?, Fate.notices, hleaves]
    · simp [Registration.fate?, hc, Ne.symm hc, hleaves, hg]
  · -- a payload cannot be cancelled
    simp [Registration.fate?, hleaves, hg]

theorem followsFate_sweep (r : Rendezvous γ π) {g : Registration γ π}
    (hg : r.entries.get? g.token = some g.entry) (now : Nat) : r.FollowsFate g (.sweep now) := by
  obtain ⟨t, w, since⟩ := g
  dsimp only at hg
  have hentry := get?_sweep r now t
  have hnotices := noticesOn_sweep r now t
  show (r.sweep now).1.entries.get? t = _ ∧ r.noticesOn _ t = _
  rw [hentry, hnotices, hg]
  have hover : r.overdue now ⟨w, since⟩ = decide (r.timeout < now - since) := rfl
  by_cases hlate : r.timeout < now - since <;>
    simp [Registration.fate?, Fate.successor?, Fate.notices, hover, hlate, Option.filter_some]

/-- **On the token of a registration that waits, a call does what the fate says.** -/
theorem call_of_waiting {r : Rendezvous γ π} (h : r.Coherent) {g : Registration γ π}
    (hg : r.entries.get? g.token = some g.entry) (k : Call γ π) : r.FollowsFate g k := by
  cases k with
  | registerClaimant now t c => exact followsFate_registerClaimant h hg now t c
  | registerPayload now t p => exact followsFate_registerPayload r hg now t p
  | cancelClaimant c => exact followsFate_cancelClaimant h hg c
  | sweep now => exact followsFate_sweep r hg now

/-- **On a token where nobody waits, a call can only register**, and makes nothing known. -/
theorem call_of_empty {r : Rendezvous γ π} (h : r.Coherent) {t : String}
    (ht : r.entries.get? t = none) (k : Call γ π) :
    (r.call k).1.entries.get? t
        = (k.registration?.filter (·.token = t)).map Registration.entry ∧
      r.noticesOn k t = [] := by
  have hpay : r.payload? t = none := by simp [payload?, ht]
  have hclaim : r.claimant? t = none := by simp [claimant?, ht]
  cases k with
  | registerClaimant now t' c =>
    have hentry := get?_registerClaimant r now t' t c
    have hnotices := noticesOn_registerClaimant r now t t' c
    show (r.registerClaimant now t' c).1.entries.get? t = _ ∧ r.noticesOn _ t = _
    rw [hentry, hnotices]
    by_cases htt : t' = t
    · simp [Call.registration?, Option.filter_some, htt, hpay]
    · simp [Call.registration?, Option.filter_some, htt, ht]
  | registerPayload now t' p =>
    have hentry := get?_registerPayload r now t' t p
    have hnotices := noticesOn_registerPayload r now t t' p
    show (r.registerPayload now t' p).1.entries.get? t = _ ∧ r.noticesOn _ t = _
    rw [hentry, hnotices]
    by_cases htt : t' = t
    · simp [Call.registration?, Option.filter_some, htt, hclaim]
    · simp [Call.registration?, Option.filter_some, htt, ht]
  | cancelClaimant c =>
    have hentry := get?_cancelClaimant h c t
    show (r.cancelClaimant c).1.entries.get? t = _ ∧ [] = _
    rw [hentry, ht]
    simp [Call.registration?]
  | sweep now =>
    have hentry := get?_sweep r now t
    have hnotices := noticesOn_sweep r now t
    show (r.sweep now).1.entries.get? t = _ ∧ r.noticesOn _ t = _
    rw [hentry, hnotices, ht]
    simp [Call.registration?]

/-! ### Who waits after a call -/

theorem pending?_registerClaimant (r : Rendezvous γ π) (now : Nat) (t : String) (c : γ) :
    r.pending? (.registerClaimant now t c)
      = if (r.payload? t).isSome then none else some ⟨t, .claimant c, now⟩ := by
  show (if ((r.registerClaimant now t c).2.map Notice.matched).toList.isEmpty then _ else _) = _
  rw [registerClaimant_meeting]
  rcases r.payload? t with - | p <;> rfl

theorem pending?_registerPayload (r : Rendezvous γ π) (now : Nat) (t : String) (p : π) :
    r.pending? (.registerPayload now t p)
      = if (r.claimant? t).isSome then none else some ⟨t, .payload p, now⟩ := by
  show (if ((r.registerPayload now t p).2.map Notice.matched).toList.isEmpty then _ else _) = _
  rw [registerPayload_meeting]
  rcases r.claimant? t with - | c <;> rfl

theorem registration?_of_pending? {r : Rendezvous γ π} {k : Call γ π} {g : Registration γ π}
    (hk : r.pending? k = some g) : k.registration? = some g := by
  simp only [pending?] at hk
  split at hk
  · exact hk
  · cases hk

/-- A registration that is told to wait is the entry of its token. -/
theorem get?_of_pending? {r : Rendezvous γ π} {k : Call γ π} {g : Registration γ π}
    (hk : r.pending? k = some g) : (r.call k).1.entries.get? g.token = some g.entry := by
  cases k with
  | registerClaimant now t c =>
    rw [pending?_registerClaimant] at hk
    split at hk
    · cases hk
    · rename_i hpay
      cases hk
      show (r.registerClaimant now t c).1.entries.get? t = _
      rw [get?_registerClaimant, if_pos rfl, if_neg hpay]
  | registerPayload now t p =>
    rw [pending?_registerPayload] at hk
    split at hk
    · cases hk
    · rename_i hclaim
      cases hk
      show (r.registerPayload now t p).1.entries.get? t = _
      rw [get?_registerPayload, if_pos rfl, if_neg hclaim]
  | cancelClaimant c => cases registration?_of_pending? hk
  | sweep now => cases registration?_of_pending? hk

/-- The party that replaces another one is told to wait. -/
theorem pending?_of_replaced {r : Rendezvous γ π} {g : Registration γ π}
    (hg : r.entries.get? g.token = some g.entry) {k : Call γ π} {e : Entry γ π}
    (hf : g.fate? r.timeout k = some (.replaced e)) : r.pending? k = some ⟨g.token, e⟩ := by
  obtain ⟨t, w, since⟩ := g
  dsimp only at hg
  cases k with
  | registerClaimant now t' c' =>
    rw [pending?_registerClaimant]
    rcases w with c | p <;> by_cases ht : t' = t <;> simp [Registration.fate?, ht] at hf
    have hpay : r.payload? t = none := by simp [payload?, hg]
    simp [ht, hpay, ← hf]
  | registerPayload now t' p' =>
    rw [pending?_registerPayload]
    rcases w with c | p <;> by_cases ht : t' = t <;> simp [Registration.fate?, ht] at hf
    have hclaim : r.claimant? t = none := by simp [claimant?, hg]
    simp [ht, hclaim, ← hf]
  | cancelClaimant c' => rcases w with c | p <;> simp [Registration.fate?] at hf
  | sweep now => simp [Registration.fate?] at hf

/-- Whoever waits after a call waited before it and goes on waiting, or has come with it. -/
theorem waited_or_pending {r : Rendezvous γ π} (h : r.Coherent) {k : Call γ π} {t : String}
    {e : Entry γ π} (he : (r.call k).1.entries.get? t = some e) :
    (r.entries.get? t = some e ∧ (⟨t, e⟩ : Registration γ π).fate? r.timeout k = none) ∨
      r.pending? k = some ⟨t, e⟩ := by
  rcases hbefore : r.entries.get? t with - | e₀
  · right
    obtain ⟨hentry, hnone⟩ := call_of_empty h hbefore k
    rw [hentry] at he
    obtain ⟨g, hfilter, rfl⟩ := Option.map_eq_some_iff.mp he
    obtain ⟨hg, htoken⟩ := Option.filter_eq_some_iff.mp hfilter
    clear hfilter
    obtain rfl : g.token = t := of_decide_eq_true htoken
    -- nobody waited on the token, so the party that comes meets nobody
    have hpay : r.payload? g.token = none := by simp [payload?, hbefore]
    have hclaim : r.claimant? g.token = none := by simp [claimant?, hbefore]
    cases k with
    | registerClaimant now t' c =>
      cases hg
      rw [pending?_registerClaimant, if_neg (by simp [hpay])]
    | registerPayload now t' p =>
      cases hg
      rw [pending?_registerPayload, if_neg (by simp [hclaim])]
    | cancelClaimant c => cases hg
    | sweep now => cases hg
  · have hwaits : r.entries.get? (⟨t, e₀⟩ : Registration γ π).token = some e₀ := hbefore
    obtain ⟨hentry, -⟩ := call_of_waiting h hwaits k
    rw [he] at hentry
    rcases hf : (⟨t, e₀⟩ : Registration γ π).fate? r.timeout k with - | f
    · -- its wait goes on
      left
      rw [hf] at hentry
      cases hentry
      exact ⟨rfl, hf⟩
    · -- its wait has ended, and of all fates only a replacement leaves somebody behind
      right
      rw [hf] at hentry
      rcases f with m | successor | - | x
      · cases hentry
      · cases hentry
        exact pending?_of_replaced hwaits hf
      · cases hentry
      · cases hentry

/-! ### Runs -/

/-- The table before the `n`-th call of a run that starts with an empty table. -/
def tableAt (timeout : Nat) (calls : List (Call γ π)) (n : Nat) : Rendezvous γ π :=
  stateAt (fun r k => (r.call k).1) (empty timeout) calls n

theorem coherent_tableAt (timeout : Nat) (calls : List (Call γ π)) (n : Nat) :
    (tableAt timeout calls n).Coherent :=
  stateAt_induction (P := Coherent) (coherent_empty timeout) (fun _ h k _ => coherent_call h k) n

theorem timeout_tableAt (timeout : Nat) (calls : List (Call γ π)) (n : Nat) :
    (tableAt timeout calls n).timeout = timeout :=
  stateAt_induction (P := fun r : Rendezvous γ π => r.timeout = timeout) rfl
    (fun r h k _ => (timeout_call r k).trans h) n

theorem tableAt_succ {timeout : Nat} {calls : List (Call γ π)} {n : Nat} {k : Call γ π}
    (hk : calls[n]? = some k) :
    tableAt timeout calls (n + 1) = ((tableAt timeout calls n).call k).1 :=
  stateAt_succ hk

/-- The `i`-th call of a run registered `g` and was told to wait, and up to the `n`-th call no call
has ended its wait. -/
structure Waits (timeout : Nat) (calls : List (Call γ π)) (i : Nat) (g : Registration γ π)
    (n : Nat) : Prop where
  earlier : i < n
  within : n ≤ calls.length
  pending : ∃ k, calls[i]? = some k ∧ (tableAt timeout calls i).pending? k = some g
  unended : ∀ j k, i < j → j < n → calls[j]? = some k → g.fate? timeout k = none

variable {timeout : Nat} {calls : List (Call γ π)}

/-- Who waits has waited ever since it came. -/
theorem Waits.before {i n m : Nat} {g : Registration γ π} (h : Waits timeout calls i g n)
    (him : i < m) (hmn : m ≤ n) : Waits timeout calls i g m where
  earlier := him
  within := Nat.le_trans hmn h.within
  pending := h.pending
  unended := fun j k hij hjm => h.unended j k hij (Nat.lt_of_lt_of_le hjm hmn)

theorem Waits.succ {i n : Nat} {g : Registration γ π} (h : Waits timeout calls i g n)
    {k : Call γ π} (hk : calls[n]? = some k) (hf : g.fate? timeout k = none) :
    Waits timeout calls i g (n + 1) where
  earlier := Nat.lt_succ_of_lt h.earlier
  within := (List.getElem?_eq_some_iff.mp hk).choose
  pending := h.pending
  unended := by
    intro j k' hij hj hk'
    rcases Nat.lt_succ_iff_lt_or_eq.mp hj with hlt | rfl
    · exact h.unended j k' hij hlt hk'
    · rw [hk, Option.some.injEq] at hk'
      exact hk' ▸ hf

/-- A registration that waits is the pending entry of its token. -/
theorem Waits.get?_eq {i n : Nat} {g : Registration γ π} (h : Waits timeout calls i g n) :
    (tableAt timeout calls n).entries.get? g.token = some g.entry := by
  induction n with
  | zero => exact absurd h.earlier (Nat.not_lt_zero i)
  | succ n ih =>
    obtain ⟨k, hk⟩ := exists_event_of_lt h.within
    rw [tableAt_succ hk]
    rcases Nat.lt_succ_iff_lt_or_eq.mp h.earlier with hlt | rfl
    · -- it waited before the last call, which did not end its wait
      have hwaits := ih (h.before hlt (Nat.le_succ n))
      obtain ⟨hentry, -⟩ := call_of_waiting (coherent_tableAt timeout calls n) hwaits k
      rw [hentry, timeout_tableAt, h.unended n k hlt (Nat.lt_succ_self n) hk]
      rfl
    · -- it has come with the last call
      obtain ⟨k', hk', hpending⟩ := h.pending
      rw [hk, Option.some.injEq] at hk'
      subst hk'
      exact get?_of_pending? hpending

/-- Every pending entry belongs to a registration that waits. -/
theorem exists_waits_of_get? {n : Nat} (hn : n ≤ calls.length) {t : String} {e : Entry γ π}
    (he : (tableAt timeout calls n).entries.get? t = some e) :
    ∃ i, Waits timeout calls i ⟨t, e⟩ n := by
  induction n generalizing t e with
  | zero => cases he
  | succ n ih =>
    obtain ⟨k, hk⟩ := exists_event_of_lt hn
    rw [tableAt_succ hk] at he
    rcases waited_or_pending (coherent_tableAt timeout calls n) he with ⟨hbefore, hf⟩ | hpending
    · obtain ⟨i, hi⟩ := ih (Nat.le_of_succ_le hn) hbefore
      rw [timeout_tableAt] at hf
      exact ⟨i, hi.succ hk hf⟩
    · refine ⟨n, Nat.lt_succ_self n, hn, ⟨k, hk, hpending⟩, fun j k' hnj hj => ?_⟩
      exact absurd hnj (Nat.not_lt_of_le (Nat.le_of_lt_succ hj))

/-- Of two registrations on one token the later one has ended the wait of the earlier one. -/
theorem Waits.not_later {i i' n : Nat} {g g' : Registration γ π} (h : Waits timeout calls i g n)
    (h' : Waits timeout calls i' g' n) (ht : g'.token = g.token) : ¬ i < i' := by
  intro hlt
  obtain ⟨k, hk, hpending⟩ := h'.pending
  have hended : (g.fate? timeout k).isSome := isSome_fate? (registration?_of_pending? hpending) ht
  rw [h.unended i' k hlt h'.earlier hk] at hended
  cases hended

/-- On one token only one registration waits. -/
theorem Waits.unique {i i' n : Nat} {g g' : Registration γ π} (h : Waits timeout calls i g n)
    (h' : Waits timeout calls i' g' n) (ht : g'.token = g.token) : i = i' ∧ g = g' := by
  obtain rfl : i = i' :=
    Nat.le_antisymm (Nat.le_of_not_lt (h'.not_later h ht.symm)) (Nat.le_of_not_lt (h.not_later h' ht))
  obtain ⟨k, hk, hg⟩ := h.pending
  obtain ⟨k', hk', hg'⟩ := h'.pending
  rw [hk, Option.some.injEq] at hk'
  subst hk'
  rw [hg, Option.some.injEq] at hg'
  exact ⟨rfl, hg'⟩

/-- A wait that has ended does not come back. -/
theorem Waits.ends {i n m : Nat} {g g' : Registration γ π} (h : Waits timeout calls i g n)
    {k : Call γ π} (hk : calls[n]? = some k) (hf : (g.fate? timeout k).isSome) (hnm : n < m) :
    ¬ Waits timeout calls i g' m := by
  intro h'
  -- one call has registered both, so that they are the same
  obtain ⟨-, rfl⟩ := h.unique (h'.before h.earlier (Nat.le_of_lt hnm)) (by
    obtain ⟨k₁, hk₁, hg⟩ := h.pending
    obtain ⟨k₂, hk₂, hg'⟩ := h'.pending
    rw [hk₁, Option.some.injEq] at hk₂
    subst hk₂
    rw [hg, Option.some.injEq] at hg'
    rw [hg'])
  rw [h'.unended n k h.earlier hnm hk] at hf
  cases hf

/-- A notice comes from the fate of a registration that waits on its token. -/
theorem exists_fate_of_notice {n : Nat} {k : Call γ π} (hk : calls[n]? = some k) {m : Notice γ π}
    (hm : m ∈ ((tableAt timeout calls n).call k).2) :
    ∃ i g f, Waits timeout calls i g n ∧ g.fate? timeout k = some f ∧ f.notices = [m] := by
  have hcoherent := coherent_tableAt timeout calls n
  have hn : n ≤ calls.length := Nat.le_of_lt (List.getElem?_eq_some_iff.mp hk).choose
  have hmem : m ∈ (tableAt timeout calls n).noticesOn k m.token :=
    List.mem_filter.mpr ⟨hm, decide_eq_true rfl⟩
  rcases he : (tableAt timeout calls n).entries.get? m.token with - | e
  · -- where nobody waits, nothing is made known
    rw [(call_of_empty hcoherent he k).2] at hmem
    cases hmem
  · obtain ⟨i, hi⟩ := exists_waits_of_get? hn he
    obtain ⟨-, hnotices⟩ := call_of_waiting hcoherent hi.get?_eq k
    rw [timeout_tableAt] at hnotices
    rw [show m.token = (⟨m.token, e⟩ : Registration γ π).token from rfl, hnotices] at hmem
    rcases hf : (⟨m.token, e⟩ : Registration γ π).fate? timeout k with - | f
    · rw [hf] at hmem
      cases hmem
    · rw [hf] at hmem
      refine ⟨i, _, f, hi, hf, ?_⟩
      cases f with
      | met m' => rw [List.mem_singleton.mp hmem]; rfl
      | replaced e' => cases hmem
      | withdrawn => cases hmem
      | timedOut x => rw [List.mem_singleton.mp hmem]; rfl

/-- What is made known about the end of a wait is about its token. -/
theorem Waits.token_eq {i n : Nat} {g : Registration γ π} (h : Waits timeout calls i g n)
    {k : Call γ π} {f : Fate γ π} (hf : g.fate? timeout k = some f) {m : Notice γ π}
    (hm : f.notices = [m]) : m.token = g.token := by
  obtain ⟨-, hnotices⟩ := call_of_waiting (coherent_tableAt timeout calls n) h.get?_eq k
  rw [timeout_tableAt, hf] at hnotices
  have hmem : m ∈ (tableAt timeout calls n).noticesOn k g.token := by
    rw [hnotices, Option.elim_some, hm]
    exact List.mem_singleton_self m
  exact of_decide_eq_true (List.mem_filter.mp hmem).2

/-- **Every registration has exactly one fate.**  In a run that starts with an empty table:

* as long as no call has ended its wait, a registration that was told to wait is the pending entry of
  its token, with its own value and stamp;
* a call makes known on its token, and leaves there, what its fate says: a call that does not end its
  wait nothing and the entry itself;
* a wait that has ended does not come back;
* conversely every pending entry is that of exactly one registration that waits;
* and whatever a call makes known is the fate, in this very call, of exactly one registration. -/
theorem registration_has_one_fate (timeout : Nat) (calls : List (Call γ π)) :
    (∀ i g n, Waits timeout calls i g n →
      (tableAt timeout calls n).entries.get? g.token = some g.entry) ∧
    (∀ i g n k, Waits timeout calls i g n → calls[n]? = some k →
      (tableAt timeout calls n).noticesOn k g.token = (g.fate? timeout k).elim [] Fate.notices ∧
      (tableAt timeout calls (n + 1)).entries.get? g.token
        = (g.fate? timeout k).elim (some g.entry) Fate.successor?) ∧
    (∀ i g n k, Waits timeout calls i g n → calls[n]? = some k → (g.fate? timeout k).isSome →
      ∀ m g', n < m → ¬ Waits timeout calls i g' m) ∧
    (∀ n t e, n ≤ calls.length → (tableAt timeout calls n).entries.get? t = some e →
      ∃! i, Waits timeout calls i ⟨t, e⟩ n) ∧
    (∀ n k m, calls[n]? = some k → m ∈ ((tableAt timeout calls n).call k).2 →
      ∃! i, ∃ g f, Waits timeout calls i g n ∧ g.fate? timeout k = some f ∧ f.notices = [m]) := by
  refine ⟨fun i g n h => h.get?_eq, ?_, ?_, ?_, ?_⟩
  · intro i g n k h hk
    obtain ⟨hentry, hnotices⟩ := call_of_waiting (coherent_tableAt timeout calls n) h.get?_eq k
    rw [timeout_tableAt] at hentry hnotices
    rw [tableAt_succ hk]
    exact ⟨hnotices, hentry⟩
  · intro i g n k h hk hf m g' hnm
    exact h.ends hk hf hnm
  · intro n t e hn he
    obtain ⟨i, hi⟩ := exists_waits_of_get? hn he
    exact ⟨i, hi, fun i' hi' => (hi'.unique hi rfl).1⟩
  · intro n k m hk hm
    obtain ⟨i, g, f, hi, hf, hnotice⟩ := exists_fate_of_notice hk hm
    refine ⟨i, ⟨g, f, hi, hf, hnotice⟩, ?_⟩
    rintro i' ⟨g', f', hi', hf', hnotice'⟩
    have ht : g.token = g'.token :=
      (hi.token_eq hf hnotice).symm.trans (hi'.token_eq hf' hnotice')
    exact (hi'.unique hi ht).1

/-- The second of two rival claimants is met by the payload, the first one is replaced. -/
theorem later_rival_is_met :
    let calls : List (Call Nat String) :=
      [.registerClaimant 0 "gate" 1, .registerClaimant 3 "gate" 2, .registerPayload 5 "gate" "key"]
    Waits 10 calls 1 ⟨"gate", .claimant 2, 3⟩ 2 ∧
      (tableAt 10 calls 2).noticesOn (.registerPayload 5 "gate" "key") "gate"
        = [.matched ⟨"gate", 2, "key"⟩] := by
  intro calls
  have hwaits : Waits 10 calls 1 ⟨"gate", .claimant 2, 3⟩ 2 := {
    earlier := by decide
    within := by decide
    pending := ⟨.registerClaimant 3 "gate" 2, rfl, by decide⟩
    unended := fun j k hij hj => absurd hij (Nat.not_lt_of_le (Nat.le_of_lt_succ hj)) }
  exact ⟨hwaits, ((registration_has_one_fate 10 calls).2.1 1 _ 2 _ hwaits rfl).1⟩

end Rendezvous

end Lobby
