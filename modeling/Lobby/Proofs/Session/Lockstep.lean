/-
Lobby/Proofs/Session/Lockstep.lean

The sessions and the rendezvous agree on who waits.

A session that presents a token is set to wait before the rendezvous hears of it, a rival's claim
releases a session of somebody else, and a meeting reaches a session from inside a call.  `Lockstep`
says that none of this ever shows: a session waits on a token exactly if it is the claimant that the
rendezvous holds there.

Each operation is given one description that holds in lockstep and does not mention the branches that
pass a meeting or an expiry over (`reconnect_of_payload`, `expectPayload_of_claimant`,
`expireAll_spec`); from these follows that the operation keeps lockstep, and so do all runs
(`Reachable.lockstep`).  A run may use a sink of its own in every step.
-/
import Lobby.Proofs.Rendezvous.Coherence
import Lobby.Session

namespace Lobby

namespace Sessions

variable {π ω : Type}

/-! ### Sessions, seen from one connection -/

@[simp] theorem get?_set (s : Sessions π) (c c' : ConnectionId) (x : Session) :
    (s.set c x).get? c' = if c = c' then some x else s.get? c' :=
  KeyedList.get?_insert s.table c c' x

@[simp] theorem rendezvous_set (s : Sessions π) (c : ConnectionId) (x : Session) :
    (s.set c x).rendezvous = s.rendezvous := rfl

/-- A connection is logged in as an account exactly if its session is. -/
theorem accountOf?_eq_some_iff {s : Sessions π} {c : ConnectionId} {a : AccountId} :
    s.accountOf? c = some a ↔ s.get? c = some (.authenticated a) := by
  rw [accountOf?, Option.bind_eq_some_iff]
  constructor
  · rintro ⟨x, hx, haccount⟩
    cases x with
    | authenticated b =>
      cases haccount
      exact hx
    | unauthenticated => cases haccount
    | awaitingToken t => cases haccount
  · intro h
    exact ⟨_, h, rfl⟩

/-- A session that is answered is logged in as the account of the answer, if there is one. -/
theorem accountOf?_set_ofAccount? (s : Sessions π) (c : ConnectionId) (answer : Option AccountId) :
    (s.set c (.ofAccount? answer)).accountOf? c = answer := by
  rw [accountOf?, get?_set, if_pos rfl]
  cases answer <;> rfl

/-- An answer never leaves a session waiting. -/
theorem ofAccount?_ne_awaitingToken (answer : Option AccountId) (t : String) :
    Session.ofAccount? answer ≠ .awaitingToken t := by
  cases answer <;> exact nofun

/-- A session is logged in as an account exactly if it was answered with it. -/
theorem ofAccount?_eq_authenticated_iff {answer : Option AccountId} {a : AccountId} :
    Session.ofAccount? answer = .authenticated a ↔ answer = some a := by
  cases answer <;> simp [Session.ofAccount?]

/-! ### Lockstep -/

/-- A session waits on a token exactly if it is the claimant that the rendezvous holds there. -/
structure Lockstep (s : Sessions π) : Prop where
  coherent : s.rendezvous.Coherent
  awaits : ∀ c t, s.get? c = some (.awaitingToken t) ↔ s.rendezvous.claimant? t = some c

theorem lockstep_empty (timeout : Nat) : (empty timeout : Sessions π).Lockstep where
  coherent := Rendezvous.coherent_empty timeout
  awaits := fun _ _ => ⟨nofun, nofun⟩

theorem not_awaiting {s : Sessions π} {c : ConnectionId} {x : Option Session} (hc : s.get? c = x)
    (hx : ∀ t, x ≠ some (.awaitingToken t)) : ∀ t, s.get? c ≠ some (.awaitingToken t) := by
  intro t
  rw [hc]
  exact hx t

/-- A session that does not wait is on no token. -/
theorem Lockstep.tokenOf?_eq_none {s : Sessions π} (h : s.Lockstep) {c : ConnectionId}
    (hc : ∀ t, s.get? c ≠ some (.awaitingToken t)) : s.rendezvous.tokenOf? c = none := by
  rcases ht : s.rendezvous.tokenOf? c with - | t
  · rfl
  · exact absurd ((h.awaits c t).mpr ((h.coherent c t).mp ht)) (hc t)

/-- Giving a session that does not wait another state in which it does not wait changes nothing. -/
theorem Lockstep.set {s : Sessions π} (h : s.Lockstep) {c : ConnectionId}
    (hc : ∀ t, s.get? c ≠ some (.awaitingToken t)) {x : Session}
    (hx : ∀ t, x ≠ .awaitingToken t) : (s.set c x).Lockstep where
  coherent := h.coherent
  awaits := by
    intro c' t
    rw [get?_set, rendezvous_set, ← h.awaits c' t]
    by_cases hcc : c = c'
    · subst hcc
      simp [hx t, hc t]
    · simp [hcc]

/-! ### Connections come and log in -/

theorem connect_eq {s s' : Sessions π} {c : ConnectionId} (h : s.connect c = .ok s') :
    s.get? c = none ∧ s' = s.set c .unauthenticated := by
  simp only [connect] at h
  rcases hc : s.get? c with - | x <;> rw [hc] at h <;> cases h
  exact ⟨rfl, rfl⟩

theorem login_eq {s s' : Sessions π} {c : ConnectionId} {a : AccountId}
    (h : s.login c a = .ok s') :
    s.get? c = some .unauthenticated ∧ s' = s.set c (.authenticated a) := by
  simp only [login] at h
  rcases hc : s.get? c with - | - | a' | t <;> rw [hc] at h <;> cases h
  exact ⟨rfl, rfl⟩

theorem accountOf?_login {s s' : Sessions π} {c : ConnectionId} {a : AccountId}
    (h : s.login c a = .ok s') : s'.accountOf? c = some a := by
  rw [(login_eq h).2]
  exact accountOf?_set_ofAccount? s c (some a)

/-! ### A token is presented -/

/-- The sessions once a token has been presented and nobody has answered yet: the session waits, a
rival that waited on the token is released, and the rendezvous has the claim. -/
def present (s : Sessions π) (now : Nat) (c : ConnectionId) (t : String) : Sessions π :=
  { (s.set c (.awaitingToken t)).release c (s.rendezvous.claimant? t) with
    rendezvous := (s.rendezvous.registerClaimant now t c).1 }

/-- What a session is told of the answer to its claim. -/
def outcomeOf : Option AccountId → ReconnectOutcome
  | some a => .matched a
  | none => .rejected

theorem rendezvous_release (s : Sessions π) (c : ConnectionId) (rival : Option ConnectionId) :
    (s.release c rival).rendezvous = s.rendezvous := by
  cases rival with
  | none => rfl
  | some r =>
    show (if r = c ∨ s.get? r = none then s else s.set r .unauthenticated).rendezvous = _
    split <;> rfl

theorem get?_present {s : Sessions π} (h : s.Lockstep) {c : ConnectionId}
    (hc : s.get? c = some .unauthenticated) (now : Nat) (t : String) (c' : ConnectionId) :
    (s.present now c t).get? c'
      = if c = c' then some (.awaitingToken t)
        else if s.rendezvous.claimant? t = some c' then some .unauthenticated
        else s.get? c' := by
  show ((s.set c (.awaitingToken t)).release c (s.rendezvous.claimant? t)).get? c' = _
  rcases hr : s.rendezvous.claimant? t with - | r
  · show (s.set c (.awaitingToken t)).get? c' = _
    simp
  · have hwaits : s.get? r = some (.awaitingToken t) := (h.awaits r t).mpr hr
    have hne : r ≠ c := by
      rintro rfl
      rw [hc] at hwaits
      cases hwaits
    have hreleased : (s.set c (.awaitingToken t)).release c (some r)
        = (s.set c (.awaitingToken t)).set r .unauthenticated := by
      simp [release, hne, Ne.symm hne, hwaits]
    rw [hreleased]
    by_cases hcc : c = c'
    · subst hcc
      simp [hne]
    · simp [hcc]

/-- A claim that finds no payload waits. -/
theorem reconnect_of_no_payload {s : Sessions π} {c : ConnectionId}
    (hc : s.get? c = some .unauthenticated) {t : String} (hp : s.rendezvous.payload? t = none)
    (sink : Sink π ω) (w : ω) (now : Nat) :
    s.reconnect sink w now c t = .ok (.waiting, s.present now c t, w) := by
  have hmeet : (s.rendezvous.registerClaimant now t c).2 = none := by
    rw [Rendezvous.registerClaimant_meeting, hp]
    rfl
  simp only [reconnect, present, hc, rendezvous_release, rendezvous_set, hmeet]

/-- A claim that finds a payload is answered by the sink, which is asked once, while the session
waits on the token. -/
theorem reconnect_of_payload {s : Sessions π} (h : s.Lockstep) {c : ConnectionId}
    (hc : s.get? c = some .unauthenticated) {t : String} {p : π}
    (hp : s.rendezvous.payload? t = some p) (sink : Sink π ω) (w : ω) (now : Nat) :
    s.reconnect sink w now c t
      = .ok (outcomeOf (sink.claimMatched c t p w).1,
          (s.present now c t).set c (.ofAccount? (sink.claimMatched c t p w).1),
          (sink.claimMatched c t p w).2) := by
  have hmeet : (s.rendezvous.registerClaimant now t c).2 = some ⟨t, c, p⟩ := by
    rw [Rendezvous.registerClaimant_meeting, hp]
    rfl
  have hwaits : (s.present now c t).get? c = some (.awaitingToken t) := by
    rw [get?_present h hc, if_pos rfl]
  have hsettle : (s.present now c t).settle sink w ⟨t, c, p⟩
      = ((s.present now c t).set c (.ofAccount? (sink.claimMatched c t p w).1),
          (sink.claimMatched c t p w).2) := by
    simp only [settle, hwaits]
  simp only [reconnect, hc, rendezvous_release, rendezvous_set, hmeet]
  change ((match ((s.present now c t).settle sink w ⟨t, c, p⟩).1.accountOf? c with
    | some a => .ok (.matched a, (s.present now c t).settle sink w ⟨t, c, p⟩)
    | none => .ok (.rejected, (s.present now c t).settle sink w ⟨t, c, p⟩)) :
      Except SessionError (ReconnectOutcome × Sessions π × ω)) = _
  rw [hsettle]
  cases (sink.claimMatched c t p w).1 <;>
    simp [accountOf?, Session.account?, Session.ofAccount?, outcomeOf]

/-- A session that is not logged out presents a token in vain. -/
theorem reconnect_ignored {s : Sessions π} {c : ConnectionId} {x : Session}
    (hc : s.get? c = some x) (hx : x ≠ .unauthenticated) (sink : Sink π ω) (w : ω) (now : Nat)
    (t : String) : s.reconnect sink w now c t = .ok (.ignored, s, w) := by
  cases x with
  | unauthenticated => exact absurd rfl hx
  | authenticated a => simp only [reconnect, hc]
  | awaitingToken t' => simp only [reconnect, hc]

/-- A claim is ignored, waits, or is answered for by the sink. -/
theorem reconnect_cases {s s' : Sessions π} (h : s.Lockstep) {sink : Sink π ω} {w w' : ω}
    {now : Nat} {c : ConnectionId} {t : String} {outcome : ReconnectOutcome}
    (heq : s.reconnect sink w now c t = .ok (outcome, s', w')) :
    (s' = s ∧ w' = w) ∨
    (s.get? c = some .unauthenticated ∧ s.rendezvous.payload? t = none ∧
      s' = s.present now c t ∧ w' = w) ∨
    ∃ p, s.get? c = some .unauthenticated ∧ s.rendezvous.payload? t = some p ∧
      s' = (s.present now c t).set c (.ofAccount? (sink.claimMatched c t p w).1) ∧
      w' = (sink.claimMatched c t p w).2 := by
  rcases hc : s.get? c with - | x
  · -- without a session the claim is refused
    simp only [reconnect, hc] at heq
    cases heq
  · by_cases hx : x = .unauthenticated
    · -- logged out: it depends on whether a payload waits
      subst hx
      rcases hp : s.rendezvous.payload? t with - | p
      · rw [reconnect_of_no_payload hc hp] at heq
        cases heq
        exact .inr (.inl ⟨rfl, rfl, rfl, rfl⟩)
      · rw [reconnect_of_payload h hc hp] at heq
        cases heq
        exact .inr (.inr ⟨p, rfl, rfl, rfl, rfl⟩)
    · -- logged in or waiting already
      rw [reconnect_ignored hc hx] at heq
      cases heq
      exact .inl ⟨rfl, rfl⟩

theorem lockstep_present {s : Sessions π} (h : s.Lockstep) {c : ConnectionId}
    (hc : s.get? c = some .unauthenticated) {t : String} (hp : s.rendezvous.payload? t = none)
    (now : Nat) : (s.present now c t).Lockstep where
  coherent := Rendezvous.coherent_registerClaimant h.coherent now t c
  awaits := by
    intro c' t'
    have hidle : s.rendezvous.tokenOf? c = none :=
      h.tokenOf?_eq_none (not_awaiting hc nofun)
    have hclaim : (s.present now c t).rendezvous.claimant? t'
        = if t = t' then some c else s.rendezvous.claimant? t' := by
      show (s.rendezvous.registerClaimant now t c).1.claimant? t' = _
      rw [Rendezvous.claimant?_registerClaimant, hp, hidle]
      rfl
    rw [get?_present h hc, hclaim]
    have hct' := h.awaits c t'
    have hc't' := h.awaits c' t'
    -- a rival that waits on the token waits on no other one
    have hmove : s.rendezvous.claimant? t = some c' → s.rendezvous.claimant? t' = some c' → t = t' :=
      h.coherent.token_unique
    grind

theorem lockstep_answered {s : Sessions π} (h : s.Lockstep) {c : ConnectionId}
    (hc : s.get? c = some .unauthenticated) {t : String} {p : π}
    (hp : s.rendezvous.payload? t = some p) (now : Nat) (answer : Option AccountId) :
    ((s.present now c t).set c (.ofAccount? answer)).Lockstep where
  coherent := Rendezvous.coherent_registerClaimant h.coherent now t c
  awaits := by
    intro c' t'
    have hidle : s.rendezvous.tokenOf? c = none :=
      h.tokenOf?_eq_none (not_awaiting hc nofun)
    have hnone : s.rendezvous.claimant? t = none :=
      Rendezvous.claimant?_eq_none_of_payload? (by rw [hp]; rfl)
    have hclaim : (s.present now c t).rendezvous.claimant? t'
        = if t = t' then none else s.rendezvous.claimant? t' := by
      show (s.rendezvous.registerClaimant now t c).1.claimant? t' = _
      rw [Rendezvous.claimant?_registerClaimant, hp, hidle]
      rfl
    rw [get?_set, rendezvous_set, get?_present h hc, hclaim]
    have hct' := h.awaits c t'
    have hc't' := h.awaits c' t'
    have hanswer := ofAccount?_ne_awaitingToken answer t'
    grind

/-! ### A payload is left -/

/-- The sessions with the rendezvous to which a payload has come. -/
def leave (s : Sessions π) (now : Nat) (t : String) (p : π) : Sessions π :=
  { s with rendezvous := (s.rendezvous.registerPayload now t p).1 }

@[simp] theorem get?_leave (s : Sessions π) (now : Nat) (t : String) (p : π) (c : ConnectionId) :
    (s.leave now t p).get? c = s.get? c := rfl

/-- A payload that finds no claimant waits, and nobody is asked. -/
theorem expectPayload_of_no_claimant {s : Sessions π} {t : String}
    (ht : s.rendezvous.claimant? t = none) (sink : Sink π ω) (w : ω) (now : Nat) (p : π) :
    s.expectPayload sink w now t p = (false, s.leave now t p, w) := by
  have hmeet : (s.rendezvous.registerPayload now t p).2 = none := by
    rw [Rendezvous.registerPayload_meeting, ht]
    rfl
  simp only [expectPayload, leave, hmeet]

/-- A payload that finds a claimant is answered for by the sink, which is asked once, while the
claimant's session waits on the token. -/
theorem expectPayload_of_claimant {s : Sessions π} (h : s.Lockstep) {t : String} {c : ConnectionId}
    (ht : s.rendezvous.claimant? t = some c) (sink : Sink π ω) (w : ω) (now : Nat) (p : π) :
    s.expectPayload sink w now t p
      = (true, (s.leave now t p).set c (.ofAccount? (sink.claimMatched c t p w).1),
          (sink.claimMatched c t p w).2) := by
  have hmeet : (s.rendezvous.registerPayload now t p).2 = some ⟨t, c, p⟩ := by
    rw [Rendezvous.registerPayload_meeting, ht]
    rfl
  have hwaits : (s.leave now t p).get? c = some (.awaitingToken t) := (h.awaits c t).mpr ht
  have hexpect : s.expectPayload sink w now t p
      = (true, (s.leave now t p).settle sink w ⟨t, c, p⟩) := by
    simp only [expectPayload, leave, hmeet]
  rw [hexpect]
  simp only [settle, hwaits]

theorem lockstep_leave {s : Sessions π} (h : s.Lockstep) {t : String}
    (ht : s.rendezvous.claimant? t = none) (now : Nat) (p : π) : (s.leave now t p).Lockstep where
  coherent := Rendezvous.coherent_registerPayload h.coherent now t p
  awaits := by
    intro c t'
    show s.get? c = _ ↔ (s.rendezvous.registerPayload now t p).1.claimant? t' = _
    rw [Rendezvous.claimant?_registerPayload, h.awaits c t']
    by_cases htt : t = t'
    · subst htt
      simp [ht]
    · simp [htt]

theorem lockstep_met {s : Sessions π} (h : s.Lockstep) {t : String} {c : ConnectionId}
    (ht : s.rendezvous.claimant? t = some c) (now : Nat) (p : π) (answer : Option AccountId) :
    ((s.leave now t p).set c (.ofAccount? answer)).Lockstep where
  coherent := Rendezvous.coherent_registerPayload h.coherent now t p
  awaits := by
    intro c' t'
    have hclaim : (s.leave now t p).rendezvous.claimant? t'
        = if t = t' then none else s.rendezvous.claimant? t' :=
      Rendezvous.claimant?_registerPayload s.rendezvous now t t' p
    rw [get?_set, rendezvous_set, get?_leave, hclaim]
    have hct' := h.awaits c t'
    have hc't' := h.awaits c' t'
    have hmove : s.rendezvous.claimant? t = some c → s.rendezvous.claimant? t' = some c → t = t' :=
      h.coherent.token_unique
    have hanswer := ofAccount?_ne_awaitingToken answer t'
    grind

/-! ### A claim is given up -/

theorem lockstep_cancelClaim {s : Sessions π} (h : s.Lockstep) {c : ConnectionId}
    {table : KeyedList ConnectionId Session}
    (hc : ∀ t, table.get? c ≠ some (.awaitingToken t))
    (hother : ∀ c', c ≠ c' → table.get? c' = s.get? c') :
    ({ s with table }.cancelClaim c).Lockstep where
  coherent := Rendezvous.coherent_cancelClaimant h.coherent c
  awaits := by
    intro c' t
    show table.get? c' = _ ↔ (s.rendezvous.cancelClaimant c).1.claimant? t = _
    rw [Rendezvous.claimant?_cancelClaimant h.coherent]
    have hct := h.coherent c t
    have hc't := h.awaits c' t
    -- the claim that goes is the one of the session that no longer waits
    by_cases hcc : c = c'
    · subst hcc
      have hno := hc t
      grind
    · rw [hother c' hcc]
      grind

/-! ### Waits end -/

/-- What a sink is told of the end of a wait. -/
def tell (sink : Sink π ω) (w : ω) (x : Expiry ConnectionId π) : ω :=
  match x.waiting with
  | .claimant c => sink.claimTimedOut c x.token w
  | .payload p => sink.payloadExpired x.token p w

/-- Whoever is told that its wait is over still waits on the token. -/
def AllWait (s : Sessions π) (expired : List (Expiry ConnectionId π)) : Prop :=
  ∀ x ∈ expired, ∀ c, x.waiting = .claimant c → s.get? c = some (.awaitingToken x.token)

/-- The sessions after the end of a wait: a claimant's session is logged out. -/
def endWait (s : Sessions π) (x : Expiry ConnectionId π) : Sessions π :=
  match x.waiting with
  | .claimant c => s.set c .unauthenticated
  | .payload _ => s

@[simp] theorem rendezvous_endWait (s : Sessions π) (x : Expiry ConnectionId π) :
    (s.endWait x).rendezvous = s.rendezvous := by
  obtain ⟨t, c | p⟩ := x <;> rfl

theorem get?_endWait_self (s : Sessions π) {x : Expiry ConnectionId π} {c : ConnectionId}
    (hx : x.waiting = .claimant c) : (s.endWait x).get? c = some .unauthenticated := by
  simp [endWait, hx]

theorem get?_endWait_other (s : Sessions π) {x : Expiry ConnectionId π} {c : ConnectionId}
    (hx : x.waiting ≠ .claimant c) : (s.endWait x).get? c = s.get? c := by
  obtain ⟨t, d | p⟩ := x
  · have hne : d ≠ c := by
      rintro rfl
      exact hx rfl
    show (s.set d .unauthenticated).get? c = _
    rw [get?_set, if_neg hne]
  · rfl

/-- The end of a wait reaches the session that waits. -/
theorem expire_eq {s : Sessions π} {x : Expiry ConnectionId π} (hx : s.AllWait [x])
    (sink : Sink π ω) (w : ω) : s.expire sink w x = (s.endWait x, tell sink w x) := by
  obtain ⟨t, c | p⟩ := x
  · have hwaits : s.get? c = some (.awaitingToken t) := hx _ (List.mem_singleton_self _) c rfl
    simp only [expire, hwaits]
    rfl
  · rfl

/-- The ends of several waits, one after the other. -/
def expireAll (sink : Sink π ω) (s : Sessions π) (w : ω) (expired : List (Expiry ConnectionId π)) :
    Sessions π × ω :=
  expired.foldl (fun sw x => expire sink sw.1 sw.2 x) (s, w)

/-- The ends of several waits on different tokens all reach sessions that wait, each told once. -/
theorem expireAll_spec {s : Sessions π} {expired : List (Expiry ConnectionId π)}
    (hnodup : (expired.map Expiry.token).Nodup) (hwait : s.AllWait expired)
    (sink : Sink π ω) (w : ω) :
    (expireAll sink s w expired).1.rendezvous = s.rendezvous ∧
      (expireAll sink s w expired).2 = expired.foldl (tell sink) w ∧
      (∀ x ∈ expired, ∀ c, x.waiting = .claimant c →
        (expireAll sink s w expired).1.get? c = some .unauthenticated) ∧
      ∀ c, (∀ x ∈ expired, x.waiting ≠ .claimant c) →
        (expireAll sink s w expired).1.get? c = s.get? c := by
  induction expired generalizing s w with
  | nil => exact ⟨rfl, rfl, nofun, fun _ _ => rfl⟩
  | cons x rest ih =>
    rw [List.map_cons, List.nodup_cons] at hnodup
    -- whoever is still to be told is another claimant, as it waits on another token
    have hothers : ∀ y ∈ rest, ∀ c, x.waiting = .claimant c → y.waiting ≠ .claimant c := by
      intro y hy c hxc hyc
      have hct := hwait x (List.mem_cons_self ..) c hxc
      have hcy := hwait y (List.mem_cons_of_mem _ hy) c hyc
      rw [hct, Option.some.injEq, Session.awaitingToken.injEq] at hcy
      exact hnodup.1 (List.mem_map.mpr ⟨y, hy, hcy.symm⟩)
    have hrest : (s.endWait x).AllWait rest := by
      intro y hy c hc
      rw [get?_endWait_other s fun hxc => hothers y hy c hxc hc]
      exact hwait y (List.mem_cons_of_mem _ hy) c hc
    have htold : expireAll sink s w (x :: rest)
        = expireAll sink (s.endWait x) (tell sink w x) rest := by
      have hx : s.AllWait [x] := by
        intro y hy
        rw [List.mem_singleton.mp hy]
        exact hwait x (List.mem_cons_self ..)
      show List.foldl _ (s.expire sink w x) rest = _
      rw [expire_eq hx]
      rfl
    obtain ⟨hrendezvous, hsink, hreset, hkept⟩ := ih hnodup.2 hrest (tell sink w x)
    rw [htold]
    refine ⟨?_, hsink, ?_, ?_⟩
    · rw [hrendezvous, rendezvous_endWait]
    · intro y hy c hc
      rcases List.mem_cons.mp hy with rfl | hy
      · rw [hkept c fun z hz => hothers z hz c hc, get?_endWait_self s hc]
      · exact hreset y hy c hc
    · intro c hc
      rw [hkept c fun y hy => hc y (List.mem_cons_of_mem _ hy),
        get?_endWait_other s (hc x (List.mem_cons_self ..))]

/-- The sessions with the rendezvous that has been swept, before anybody is told. -/
def swept (s : Sessions π) (now : Nat) : Sessions π :=
  { s with rendezvous := (s.rendezvous.sweep now).1 }

theorem allWait_swept {s : Sessions π} (h : s.Lockstep) (now : Nat) :
    (s.swept now).AllWait (s.rendezvous.sweep now).2 := by
  intro x hx c hc
  obtain ⟨n, hn, -⟩ := (Rendezvous.mem_sweep_iff s.rendezvous now x).mp hx
  rw [hc] at hn
  exact (h.awaits c x.token).mpr (Rendezvous.claimant?_eq_some_iff.mpr ⟨n, hn⟩)

/-- A sweep tells the sink of every wait that is overdue, once, resets the sessions that have
waited, and leaves the others. -/
theorem sweep_spec {s : Sessions π} (h : s.Lockstep) (sink : Sink π ω) (w : ω) (now : Nat) :
    (s.sweep sink w now).2.1.rendezvous = (s.rendezvous.sweep now).1 ∧
      (s.sweep sink w now).2.2 = (s.rendezvous.sweep now).2.foldl (tell sink) w ∧
      (∀ x ∈ (s.rendezvous.sweep now).2, ∀ c, x.waiting = .claimant c →
        (s.sweep sink w now).2.1.get? c = some .unauthenticated) ∧
      ∀ c, (∀ x ∈ (s.rendezvous.sweep now).2, x.waiting ≠ .claimant c) →
        (s.sweep sink w now).2.1.get? c = s.get? c :=
  expireAll_spec (Rendezvous.nodup_tokens_sweep s.rendezvous now) (allWait_swept h now) sink w

/-- A session that is told in a sweep that its wait is over waits until then. -/
theorem awaits_when_told {s : Sessions π} (h : s.Lockstep) {now : Nat}
    {done rest : List (Expiry ConnectionId π)} {x : Expiry ConnectionId π}
    (hsplit : (s.rendezvous.sweep now).2 = done ++ x :: rest) {c : ConnectionId}
    (hc : x.waiting = .claimant c) (sink : Sink π ω) (w : ω) :
    (expireAll sink (s.swept now) w done).1.get? c = some (.awaitingToken x.token) := by
  have hwait := allWait_swept h now
  have hnodup := Rendezvous.nodup_tokens_sweep s.rendezvous now
  rw [hsplit] at hwait hnodup
  rw [List.map_append, List.map_cons] at hnodup
  have hx : (s.swept now).get? c = some (.awaitingToken x.token) :=
    hwait x (List.mem_append_right _ (List.mem_cons_self ..)) c hc
  -- nobody before it in the list is the same claimant, as the tokens differ
  have hothers : ∀ y ∈ done, y.waiting ≠ .claimant c := by
    intro y hy hyc
    have hcy := hwait y (List.mem_append_left _ hy) c hyc
    rw [hx, Option.some.injEq, Session.awaitingToken.injEq] at hcy
    refine (List.nodup_append.mp hnodup).2.2 y.token (List.mem_map_of_mem hy) x.token
      (List.mem_cons_self ..) hcy.symm
  obtain ⟨-, -, -, hkept⟩ := expireAll_spec (List.nodup_append.mp hnodup).1
    (fun y hy => hwait y (List.mem_append_left _ hy)) sink w
  rw [hkept c hothers, hx]

theorem lockstep_sweep {s : Sessions π} (h : s.Lockstep) (sink : Sink π ω) (w : ω) (now : Nat) :
    (s.sweep sink w now).2.1.Lockstep := by
  obtain ⟨hrendezvous, -, hreset, hkept⟩ := sweep_spec h sink w now
  have hcoherent := Rendezvous.coherent_sweep h.coherent now
  refine ⟨by rw [hrendezvous]; exact hcoherent, fun c t => ?_⟩
  rw [hrendezvous, ← hcoherent c t, Rendezvous.tokenOf?_sweep, h.coherent c t, ← h.awaits c t]
  by_cases htold : ∃ x ∈ (s.rendezvous.sweep now).2, x.waiting = .claimant c
  · obtain ⟨x, hx, hc⟩ := htold
    rw [hreset x hx c hc]
    exact ⟨nofun, fun hno => absurd hc (hno.2 x hx)⟩
  · have hnot : ∀ x ∈ (s.rendezvous.sweep now).2, x.waiting ≠ .claimant c :=
      fun x hx hc => htold ⟨x, hx, hc⟩
    rw [hkept c hnot]
    exact ⟨fun hc => ⟨hc, hnot⟩, fun hc => hc.1⟩

/-! ### Runs -/

/-- An operation on the sessions, with any sink in any state.  An operation that is refused is no
step, as it has no sessions to go on with. -/
inductive Step : Sessions π → Sessions π → Prop where
  | connect {s s' : Sessions π} {c : ConnectionId} : s.connect c = .ok s' → Step s s'
  | login {s s' : Sessions π} {c : ConnectionId} {a : AccountId} : s.login c a = .ok s' → Step s s'
  | reconnect {s s' : Sessions π} {ω : Type} {sink : Sink π ω} {w w' : ω} {now : Nat}
      {c : ConnectionId} {t : String} {outcome : ReconnectOutcome} :
      s.reconnect sink w now c t = .ok (outcome, s', w') → Step s s'
  | logout {s s' : Sessions π} {c : ConnectionId} {outcome : LogoutOutcome} :
      s.logout c = .ok (outcome, s') → Step s s'
  | disconnect (s : Sessions π) (c : ConnectionId) : Step s (s.disconnect c).2
  | expectPayload (s : Sessions π) {ω : Type} (sink : Sink π ω) (w : ω) (now : Nat) (t : String)
      (p : π) : Step s (s.expectPayload sink w now t p).2.1
  | sweep (s : Sessions π) {ω : Type} (sink : Sink π ω) (w : ω) (now : Nat) :
      Step s (s.sweep sink w now).2.1

/-- The sessions that operations lead to from none. -/
inductive Reachable (timeout : Nat) : Sessions π → Prop where
  | empty : Reachable timeout (.empty timeout)
  | step {s s' : Sessions π} : Reachable timeout s → Step s s' → Reachable timeout s'

theorem lockstep_reconnect {s s' : Sessions π} (h : s.Lockstep) {sink : Sink π ω} {w w' : ω}
    {now : Nat} {c : ConnectionId} {t : String} {outcome : ReconnectOutcome}
    (heq : s.reconnect sink w now c t = .ok (outcome, s', w')) : s'.Lockstep := by
  rcases reconnect_cases h heq with ⟨rfl, -⟩ | ⟨hc, hp, rfl, -⟩ | ⟨p, hc, hp, rfl, -⟩
  · exact h
  · exact lockstep_present h hc hp now
  · exact lockstep_answered h hc hp now _

theorem lockstep_logout {s s' : Sessions π} (h : s.Lockstep) {c : ConnectionId}
    {outcome : LogoutOutcome} (heq : s.logout c = .ok (outcome, s')) : s'.Lockstep := by
  rcases hc : s.get? c with - | - | a | t <;> simp only [logout, hc] at heq <;> cases heq
  · -- logged in: the session is on no token
    exact h.set (not_awaiting hc nofun) nofun
  · -- waiting: the session and the claim end together
    apply lockstep_cancelClaim h
    · intro t'
      show (s.set c .unauthenticated).get? c ≠ _
      rw [get?_set, if_pos rfl]
      exact nofun
    · intro c' hcc
      show (s.set c .unauthenticated).get? c' = _
      rw [get?_set, if_neg hcc]

theorem lockstep_disconnect {s : Sessions π} (h : s.Lockstep) (c : ConnectionId) :
    (s.disconnect c).2.Lockstep := by
  have hgone : ∀ t, (s.table.erase c).get? c ≠ some (.awaitingToken t) := by
    intro t
    rw [KeyedList.get?_erase, if_pos rfl]
    exact nofun
  have hother : ∀ c', c ≠ c' → (s.table.erase c).get? c' = s.get? c' := by
    intro c' hcc
    rw [KeyedList.get?_erase, if_neg hcc]
    rfl
  have hkeep : (∀ t, s.get? c ≠ some (.awaitingToken t)) →
      ({ s with table := s.table.erase c } : Sessions π).Lockstep := by
    intro hc
    refine ⟨h.coherent, ?_⟩
    intro c' t
    show (s.table.erase c).get? c' = _ ↔ _
    rw [← h.awaits c' t]
    by_cases hcc : c = c'
    · subst hcc
      simp [hc t]
    · rw [hother c' hcc]
  rcases hc : s.get? c with - | - | a | t <;> simp only [disconnect, hc]
  · exact h
  · -- logged out or logged in: no claim goes with the session
    exact hkeep (not_awaiting hc (by simp))
  · exact hkeep (not_awaiting hc (by simp))
  · -- waiting: the claim goes with the session
    exact lockstep_cancelClaim h hgone hother

theorem lockstep_expectPayload {s : Sessions π} (h : s.Lockstep) (sink : Sink π ω) (w : ω)
    (now : Nat) (t : String) (p : π) : (s.expectPayload sink w now t p).2.1.Lockstep := by
  rcases ht : s.rendezvous.claimant? t with - | c
  · -- nobody waits: the payload does
    rw [expectPayload_of_no_claimant ht]
    exact lockstep_leave h ht now p
  · -- somebody waits: the sink has given his session an account, or none
    rw [expectPayload_of_claimant h ht]
    exact lockstep_met h ht now p _

/-- Every operation keeps lockstep. -/
theorem Lockstep.step {s s' : Sessions π} (h : s.Lockstep) (hstep : Step s s') : s'.Lockstep := by
  cases hstep with
  | connect heq =>
    obtain ⟨hc, rfl⟩ := connect_eq heq
    exact h.set (not_awaiting hc nofun) nofun
  | login heq =>
    obtain ⟨hc, rfl⟩ := login_eq heq
    exact h.set (not_awaiting hc nofun) nofun
  | reconnect heq => exact lockstep_reconnect h heq
  | logout heq => exact lockstep_logout h heq
  | disconnect c => exact lockstep_disconnect h c
  | expectPayload sink w now t p => exact lockstep_expectPayload h sink w now t p
  | sweep sink w now => exact lockstep_sweep h sink w now

/-- **Every run keeps lockstep.** -/
theorem Reachable.lockstep {timeout : Nat} {s : Sessions π} (h : Reachable timeout s) :
    s.Lockstep := by
  induction h with
  | empty => exact lockstep_empty timeout
  | step _ hstep ih => exact ih.step hstep

/-- **Sessions and rendezvous agree, and so no meeting and no expiry is ever passed over.**  In every
state that operations with any sinks lead to:

* a session waits on a token exactly if it is the claimant that the rendezvous holds there, and this
  exactly if the rendezvous says that it waits on that token;
* a claim of a session that is logged out waits if no payload does; otherwise the sink is asked once,
  while the session waits on the token, and its answer is the session's new state and the outcome;
* a claim of any other session is ignored;
* a payload that is left waits if no claimant does; otherwise the sink is asked once, while the
  claimant's session waits on the token, and its answer is the session's new state;
* in a sweep each session that is told of the end of its wait waits on that token until then, and is
  logged out afterwards, and the sink is told of every expiry once. -/
theorem sessions_agree_with_rendezvous {timeout : Nat} {s : Sessions π} (h : Reachable timeout s) :
    (∀ c t, (s.get? c = some (.awaitingToken t) ↔ s.rendezvous.claimant? t = some c) ∧
      (s.rendezvous.claimant? t = some c ↔ s.rendezvous.tokenOf? c = some t)) ∧
    ∀ (ω : Type) (sink : Sink π ω) (w : ω) (now : Nat),
      (∀ c t, s.get? c = some .unauthenticated →
        (s.present now c t).get? c = some (.awaitingToken t) ∧
        match s.rendezvous.payload? t with
        | none => s.reconnect sink w now c t = .ok (.waiting, s.present now c t, w)
        | some p =>
          let (answer, w') := sink.claimMatched c t p w
          s.reconnect sink w now c t
            = .ok (outcomeOf answer, (s.present now c t).set c (.ofAccount? answer), w')) ∧
      (∀ c t x, s.get? c = some x → x ≠ .unauthenticated →
        s.reconnect sink w now c t = .ok (.ignored, s, w)) ∧
      (∀ t p,
        match s.rendezvous.claimant? t with
        | none => s.expectPayload sink w now t p = (false, s.leave now t p, w)
        | some c =>
          let (answer, w') := sink.claimMatched c t p w
          (s.leave now t p).get? c = some (.awaitingToken t) ∧
          s.expectPayload sink w now t p
            = (true, (s.leave now t p).set c (.ofAccount? answer), w')) ∧
      (∀ done x rest c, (s.rendezvous.sweep now).2 = done ++ x :: rest → x.waiting = .claimant c →
        (expireAll sink (s.swept now) w done).1.get? c = some (.awaitingToken x.token) ∧
        (s.sweep sink w now).2.1.get? c = some .unauthenticated) ∧
      (s.sweep sink w now).2.2 = (s.rendezvous.sweep now).2.foldl (tell sink) w := by
  have hlock := h.lockstep
  refine ⟨fun c t => ⟨hlock.awaits c t, (hlock.coherent c t).symm⟩, fun ω sink w now => ?_⟩
  obtain ⟨-, hsink, hreset, -⟩ := sweep_spec hlock sink w now
  refine ⟨fun c t hc => ⟨?_, ?_⟩, fun c t x hc hx => reconnect_ignored hc hx sink w now t,
    fun t p => ?_, fun done x rest c hsplit hc => ⟨?_, ?_⟩, hsink⟩
  · rw [get?_present hlock hc, if_pos rfl]
  · rcases hp : s.rendezvous.payload? t with - | p
    · exact reconnect_of_no_payload hc hp sink w now
    · exact reconnect_of_payload hlock hc hp sink w now
  · rcases ht : s.rendezvous.claimant? t with - | c
    · exact expectPayload_of_no_claimant ht sink w now p
    · exact ⟨(hlock.awaits c t).mpr ht, expectPayload_of_claimant hlock ht sink w now p⟩
  · exact awaits_when_told hlock hsplit hc sink w
  · exact hreset x (by rw [hsplit]; exact List.mem_append_right _ (List.mem_cons_self ..)) c hc

/-- A connection presents a token, and the payload that comes to it later logs its session in. -/
theorem waiting_session_meets_payload :
    let s := ((empty 5 : Sessions Unit).set ⟨1⟩ .unauthenticated).present 0 ⟨1⟩ "gate"
    let sink : Sink Unit Nat := ⟨fun _ _ _ w => (some ⟨7⟩, w + 1), fun _ _ w => w, fun _ _ w => w⟩
    Reachable 5 s ∧ s.rendezvous.claimant? "gate" = some ⟨1⟩ ∧
      s.expectPayload sink 0 3 "gate" ()
        = (true, (s.leave 3 "gate" ()).set ⟨1⟩ (.authenticated ⟨7⟩), 1) := by
  intro s sink
  let idle : Sessions Unit := (empty 5).set ⟨1⟩ .unauthenticated
  have hconnect : (empty 5 : Sessions Unit).connect ⟨1⟩ = .ok idle := rfl
  have hreconnect : idle.reconnect sink 0 0 ⟨1⟩ "gate" = .ok (.waiting, s, 0) :=
    reconnect_of_no_payload rfl rfl sink 0 0
  have hs : Reachable 5 s := .step (.step .empty (.connect hconnect)) (.reconnect hreconnect)
  have hclaim : s.rendezvous.claimant? "gate" = some ⟨1⟩ := by decide
  obtain ⟨-, -, hmeet, -, -⟩ := (sessions_agree_with_rendezvous hs).2 Nat sink 0 3
  have hmet := hmeet "gate" ()
  rw [hclaim] at hmet
  exact ⟨hs, hclaim, hmet.2⟩

end Sessions

end Lobby
