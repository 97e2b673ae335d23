/-
Lobby/Proofs/Session/Independence.lean

Independent operations commute.

An operation names a connection, a token, or both, and yet it reaches further: a claim logs out the
rival on its token, and the end of a session frees the token on which it waited.  The `footprint` of an
operation is what it names together with these two.  Two facts about it carry everything:

* nothing outside of the footprint changes (`get?_outside`, `entries_outside`);
* what happens inside depends on nothing else: two states that agree on the footprint give the same
  answer, have the same meeting, and agree on the footprint afterwards (`answer_congr`,
  `meeting?_congr`, `agree_perform`).

For the sessions both are read off the table of transitions; for the tokens `entryAfter` is the table.
The second map of the rendezvous needs no table of its own, as in lockstep the sessions determine it.

Main result: two operations with disjoint footprints can be done in either order
(`independent_operations_commute`), and without the two additions to the footprint they could not.
-/
import Lobby.Proofs.Rendezvous.Fate
import Lobby.Proofs.Session.Operations

namespace Lobby

theorem Rendezvous.claimant?_congr {γ π : Type} {r r' : Rendezvous γ π} {t : String}
    (h : r'.entries.get? t = r.entries.get? t) : r'.claimant? t = r.claimant? t := by
  simp only [claimant?, h]

/-! ### Sinks that answer by what they are asked, and are recorded -/

/-- A sink whose answer depends on nothing but the meeting. -/
def Sink.Stateless {π ω : Type} (sink : Sink π ω) : Prop :=
  ∀ c t p w w', (sink.claimMatched c t p w).1 = (sink.claimMatched c t p w').1

/-- A sink with a record of the calls that it gets. -/
def Sink.recorded {π ω : Type} (sink : Sink π ω) :
    Sink π (List (Rendezvous.Notice ConnectionId π) × ω) where
  claimMatched c t p v :=
    let (answer, w) := sink.claimMatched c t p v.2
    (answer, v.1 ++ [.matched ⟨t, c, p⟩], w)
  claimTimedOut c t v := (v.1 ++ [.timedOut ⟨t, .claimant c⟩], sink.claimTimedOut c t v.2)
  payloadExpired t p v := (v.1 ++ [.timedOut ⟨t, .payload p⟩], sink.payloadExpired t p v.2)

theorem Sink.Stateless.recorded {π ω : Type} {sink : Sink π ω} (h : sink.Stateless) :
    sink.recorded.Stateless :=
  fun c t p v v' => h c t p v.2 v'.2

namespace Sessions

variable {π ω : Type}

/-! ### Footprints -/

/-- Connections and tokens. -/
structure Footprint where
  connections : List ConnectionId
  tokens : List String

/-- What an operation names itself. -/
def Operation.named (op : Operation π) : Footprint where
  connections := op.connection?.toList
  tokens := op.token?.toList

/-- What an operation names, who waits on its token, and the token on which its connection waits. -/
def footprint (s : Sessions π) (op : Operation π) : Footprint where
  connections := op.connection?.toList ++ (op.token?.bind s.rendezvous.claimant?).toList
  tokens := op.token?.toList ++ (op.connection?.bind s.rendezvous.tokenOf?).toList

/-- Footprints that share no connection and no token. -/
def Footprint.Disjoint (F G : Footprint) : Prop :=
  (∀ c ∈ F.connections, c ∉ G.connections) ∧ ∀ t ∈ F.tokens, t ∉ G.tokens

instance (F G : Footprint) : Decidable (F.Disjoint G) := by
  unfold Footprint.Disjoint
  infer_instance

theorem Footprint.Disjoint.symm {F G : Footprint} (h : F.Disjoint G) : G.Disjoint F :=
  ⟨fun c hG hF => h.1 c hF hG, fun t hG hF => h.2 t hF hG⟩

/-- Two states in which the connections have the same sessions and the tokens the same entries. -/
structure Agree (F : Footprint) (s s' : Sessions π) : Prop where
  sessions : ∀ c ∈ F.connections, s'.get? c = s.get? c
  entries : ∀ t ∈ F.tokens, s'.rendezvous.entries.get? t = s.rendezvous.entries.get? t

theorem Agree.symm {F : Footprint} {s s' : Sessions π} (h : Agree F s s') : Agree F s' s :=
  ⟨fun c hc => (h.sessions c hc).symm, fun t ht => (h.entries t ht).symm⟩

theorem Agree.trans {F : Footprint} {s s' s'' : Sessions π} (h : Agree F s s') (h' : Agree F s' s'') :
    Agree F s s'' :=
  ⟨fun c hc => (h'.sessions c hc).trans (h.sessions c hc),
    fun t ht => (h'.entries t ht).trans (h.entries t ht)⟩

section

variable {s s' : Sessions π} {op : Operation π} {c : ConnectionId} {t : String}

theorem mem_connections_of_connection? (h : op.connection? = some c) :
    c ∈ (s.footprint op).connections := by
  simp [footprint, h]

theorem mem_connections_of_claimant? (ht : op.token? = some t)
    (h : s.rendezvous.claimant? t = some c) : c ∈ (s.footprint op).connections := by
  simp [footprint, ht, h]

theorem mem_tokens_of_token? (h : op.token? = some t) : t ∈ (s.footprint op).tokens := by
  simp [footprint, h]

theorem mem_tokens_of_awaiting (hs : s.Lockstep) (hc : op.connection? = some c)
    (h : s.get? c = some (.awaitingToken t)) : t ∈ (s.footprint op).tokens := by
  have ht : s.rendezvous.tokenOf? c = some t := (hs.coherent c t).mpr ((hs.awaits c t).mp h)
  simp [footprint, hc, ht]

/-- The session of a connection determines the token that it waits on. -/
theorem tokenOf?_congr (hs : s.Lockstep) (hs' : s'.Lockstep) (h : s'.get? c = s.get? c) :
    s'.rendezvous.tokenOf? c = s.rendezvous.tokenOf? c := by
  refine Option.ext fun t => ?_
  rw [hs'.coherent c t, ← hs'.awaits c t, h, hs.awaits c t, ← hs.coherent c t]

/-- Who waits on the token of an operation is the same in states that agree on its footprint. -/
theorem Agree.claimant? (h : Agree (s.footprint op) s s') (ht : op.token? = some t) :
    s'.rendezvous.claimant? t = s.rendezvous.claimant? t :=
  Rendezvous.claimant?_congr (h.entries t (mem_tokens_of_token? ht))

theorem Agree.payload? (h : Agree (s.footprint op) s s') (ht : op.token? = some t) :
    s'.rendezvous.payload? t = s.rendezvous.payload? t :=
  Rendezvous.payload?_congr (h.entries t (mem_tokens_of_token? ht))

theorem Agree.get? (h : Agree (s.footprint op) s s') (hc : op.connection? = some c) :
    s'.get? c = s.get? c :=
  h.sessions c (mem_connections_of_connection? hc)

/-- States that agree on the footprint of an operation agree on what the footprint is. -/
theorem footprint_congr (hs : s.Lockstep) (hs' : s'.Lockstep) (h : Agree (s.footprint op) s s') :
    s'.footprint op = s.footprint op := by
  have hclaimant : op.token?.bind s'.rendezvous.claimant? = op.token?.bind s.rendezvous.claimant? := by
    rcases ht : op.token? with - | t
    · rfl
    · exact h.claimant? ht
  have htoken : op.connection?.bind s'.rendezvous.tokenOf?
      = op.connection?.bind s.rendezvous.tokenOf? := by
    rcases hc : op.connection? with - | c
    · rfl
    · exact tokenOf?_congr hs hs' (h.get? hc)
  rw [footprint, footprint, hclaimant, htoken]

end

/-! ### The table of tokens -/

/-- What a token holds after an operation. -/
def entryAfter (s : Sessions π) (now : Nat) (t : String) :
    Operation π → Option (Entry ConnectionId π)
  | .connect _ => s.rendezvous.entries.get? t
  | .login _ _ => s.rendezvous.entries.get? t
  | .reconnect c t' =>
    if s.get? c = some .unauthenticated ∧ t' = t then
      if (s.rendezvous.payload? t).isSome then none else some ⟨.claimant c, now⟩
    else s.rendezvous.entries.get? t
  | .logout c =>
    if s.get? c = some (.awaitingToken t) then none else s.rendezvous.entries.get? t
  | .disconnect c =>
    if s.get? c = some (.awaitingToken t) then none else s.rendezvous.entries.get? t
  | .expectPayload t' p =>
    if t' = t then
      if (s.rendezvous.claimant? t).isSome then none else some ⟨.payload p, now⟩
    else s.rendezvous.entries.get? t
  | .sweep => (s.rendezvous.entries.get? t).filter fun e => !s.rendezvous.overdue now e

/-- The meeting that an operation brings about. -/
def meeting? (s : Sessions π) : Operation π → Option (Meeting ConnectionId π)
  | .reconnect c t =>
    if s.get? c = some .unauthenticated then (s.rendezvous.payload? t).map (⟨t, c, ·⟩) else none
  | .expectPayload t p => (s.rendezvous.claimant? t).map (⟨t, ·, p⟩)
  | _ => none

section

variable {s s' : Sessions π} {sink : Sink π ω} {w w' : ω} {now : Nat} {op : Operation π}
  {c : ConnectionId} {t : String}

theorem get?_cancelClaimant (hs : s.Lockstep) (c : ConnectionId) (t : String) :
    (s.rendezvous.cancelClaimant c).1.entries.get? t
      = if s.get? c = some (.awaitingToken t) then none else s.rendezvous.entries.get? t := by
  rw [Rendezvous.get?_cancelClaimant hs.coherent]
  simp only [hs.coherent c t, hs.awaits c t]

theorem get?_registerClaimant (hs : s.Lockstep) (hc : s.get? c = some .unauthenticated) (now : Nat)
    (t t' : String) :
    (s.rendezvous.registerClaimant now t' c).1.entries.get? t
      = if t' = t then (if (s.rendezvous.payload? t).isSome then none else some ⟨.claimant c, now⟩)
        else s.rendezvous.entries.get? t := by
  have hidle : s.rendezvous.tokenOf? c = none := hs.tokenOf?_eq_none (not_awaiting hc nofun)
  rw [Rendezvous.get?_registerClaimant, hidle]
  by_cases htt : t' = t
  · subst htt
    rw [if_pos rfl, if_pos rfl]
  · rw [if_neg htt, if_neg htt, if_neg nofun]

/-- An operation leaves on every token what the table says. -/
theorem entries_perform (hs : s.Lockstep) (sink : Sink π ω) (w : ω) (now : Nat) (op : Operation π)
    (t : String) :
    (s.perform sink w now op).2.1.rendezvous.entries.get? t = s.entryAfter now t op := by
  cases op with
  | connect c => rcases hc : s.get? c with - | x <;> simp only [perform, connect, hc] <;> rfl
  | login c a => rcases hc : s.get? c with - | - | a' | t' <;> simp only [perform, login, hc] <;> rfl
  | reconnect c t' =>
    rcases hc : s.get? c with - | x
    · simp [perform, reconnect, entryAfter, hc]
    · by_cases hx : x = .unauthenticated
      · -- logged out: the rendezvous takes the claim, whether it is answered or not
        subst hx
        have hpresent := get?_registerClaimant hs hc now t t'
        simp only [entryAfter, hc, true_and]
        rw [← hpresent]
        rcases hp : s.rendezvous.payload? t' with - | p
        · simp only [perform, reconnect_of_no_payload hc hp]
          rfl
        · simp only [perform, reconnect_of_payload hs hc hp]
          rfl
      · simp only [perform, reconnect_ignored hc hx]
        simp [entryAfter, hc, hx]
  | logout c =>
    rcases h : s.logout c with e | ⟨outcome, s₁⟩
    · rcases hc : s.get? c with - | - | a | t' <;> simp only [logout, hc] at h <;> cases h <;>
        simp [perform, logout, entryAfter, hc]
    · simp only [perform, h, rendezvous_logout hs h]
      exact get?_cancelClaimant hs c t
  | disconnect c =>
    show (s.disconnect c).2.rendezvous.entries.get? t = _
    rw [rendezvous_disconnect hs]
    exact get?_cancelClaimant hs c t
  | expectPayload t' p =>
    show (s.expectPayload sink w now t' p).2.1.rendezvous.entries.get? t = _
    rw [rendezvous_expectPayload hs, Rendezvous.get?_registerPayload, entryAfter]
    by_cases htt : t' = t
    · subst htt
      rfl
    · rw [if_neg htt, if_neg htt]
  | sweep =>
    show (s.sweep sink w now).2.1.rendezvous.entries.get? t = _
    rw [rendezvous_sweep hs, Rendezvous.get?_sweep, entryAfter]

/-- The sink gets no other call than the one for the meeting. -/
theorem record_perform (hs : s.Lockstep) (sink : Sink π ω)
    (v : List (Rendezvous.Notice ConnectionId π) × ω) (now : Nat) (hop : op ≠ .sweep) :
    (s.perform sink.recorded v now op).2.2.1
      = v.1 ++ ((s.meeting? op).map Rendezvous.Notice.matched).toList := by
  cases op with
  | connect c => rcases hc : s.connect c with e | s₁ <;> simp [perform, meeting?, hc]
  | login c a => rcases hc : s.login c a with e | s₁ <;> simp [perform, meeting?, hc]
  | reconnect c t =>
    rcases hc : s.get? c with - | x
    · simp [perform, reconnect, meeting?, hc]
    · by_cases hx : x = .unauthenticated
      · -- logged out: the sink is asked if a payload waits
        subst hx
        rcases hp : s.rendezvous.payload? t with - | p
        · simp [perform, reconnect_of_no_payload hc hp, meeting?, hc, hp]
        · simp [perform, reconnect_of_payload hs hc hp, meeting?, hc, hp, Sink.recorded]
      · simp [perform, reconnect_ignored hc hx, meeting?, hc, hx]
  | logout c => rcases hc : s.logout c with e | ⟨outcome, s₁⟩ <;> simp [perform, meeting?, hc]
  | disconnect c => simp [perform, meeting?]
  | expectPayload t p =>
    rcases ht : s.rendezvous.claimant? t with - | d
    · simp [perform, expectPayload_of_no_claimant ht, meeting?, ht]
    · simp [perform, expectPayload_of_claimant hs ht, meeting?, ht, Sink.recorded]
  | sweep => exact absurd rfl hop

/-! ### Nothing outside of the footprint changes -/

theorem own_perform (hs : s.Lockstep) (sink : Sink π ω) (w : ω) (now : Nat)
    (hop : op.connection? = some c) :
    Own s sink w op (s.get? c) (s.perform sink w now op).1
      ((s.perform sink w now op).2.1.get? c) :=
  own_of_perform hs rfl hop

theorem get?_perform_of_not_reaches (hs : s.Lockstep) (hop : op.connection? ≠ some c)
    (hreach : ∀ x, ¬ Reaches s sink w now op c x) :
    (s.perform sink w now op).2.1.get? c = s.get? c :=
  get?_of_not_reaches hs rfl hop hreach

/-- Of other connections an operation reaches only the one that waits on its token. -/
theorem Reaches.mem_footprint {x : Session} (h : Reaches s sink w now op c x) (hop : op ≠ .sweep) :
    c ∈ (s.footprint op).connections := by
  cases h with
  | superseded _ ht => exact mem_connections_of_claimant? rfl ht
  | met ht => exact mem_connections_of_claimant? rfl ht
  | evicted _ _ => exact absurd rfl hop

theorem get?_outside (hs : s.Lockstep) (sink : Sink π ω) (w : ω) (now : Nat) (hop : op ≠ .sweep)
    (hc : c ∉ (s.footprint op).connections) :
    (s.perform sink w now op).2.1.get? c = s.get? c := by
  have hown : op.connection? ≠ some c := fun hown => hc (mem_connections_of_connection? hown)
  exact get?_perform_of_not_reaches hs hown fun x hx => hc (hx.mem_footprint hop)

theorem entries_outside (hs : s.Lockstep) (sink : Sink π ω) (w : ω) (now : Nat) (hop : op ≠ .sweep)
    (ht : t ∉ (s.footprint op).tokens) :
    (s.perform sink w now op).2.1.rendezvous.entries.get? t = s.rendezvous.entries.get? t := by
  have htoken : ∀ t', op.token? = some t' → t' ≠ t := by
    rintro t' ht' rfl
    exact ht (mem_tokens_of_token? ht')
  have hwait : ∀ c, op.connection? = some c → s.get? c ≠ some (.awaitingToken t) :=
    fun c hc hwaits => ht (mem_tokens_of_awaiting hs hc hwaits)
  rw [entries_perform hs]
  cases op with
  | connect c => rfl
  | login c a => rfl
  | reconnect c t' => exact if_neg fun h => htoken t' rfl h.2
  | logout c => exact if_neg (hwait c rfl)
  | disconnect c => exact if_neg (hwait c rfl)
  | expectPayload t' p => exact if_neg (htoken t' rfl)
  | sweep => exact absurd rfl hop

/-! ### What happens inside depends on nothing else -/

theorem meeting?_congr (h : Agree (s.footprint op) s s') : s'.meeting? op = s.meeting? op := by
  cases op with
  | reconnect c t => simp only [meeting?, h.get? (c := c) rfl, h.payload? (t := t) rfl]
  | expectPayload t p => simp only [meeting?, h.claimant? (t := t) rfl]
  | connect c => rfl
  | login c a => rfl
  | logout c => rfl
  | disconnect c => rfl
  | sweep => rfl

theorem entryAfter_congr (h : Agree (s.footprint op) s s') (now : Nat) (hop : op ≠ .sweep)
    (ht : t ∈ (s.footprint op).tokens) : s'.entryAfter now t op = s.entryAfter now t op := by
  have hentry := h.entries t ht
  have hclaimant := Rendezvous.claimant?_congr hentry
  have hpayload := Rendezvous.payload?_congr hentry
  cases op with
  | connect c => exact hentry
  | login c a => exact hentry
  | reconnect c t' => simp only [entryAfter, h.get? (c := c) rfl, hpayload, hentry]
  | logout c => simp only [entryAfter, h.get? (c := c) rfl, hentry]
  | disconnect c => simp only [entryAfter, h.get? (c := c) rfl, hentry]
  | expectPayload t' p => simp only [entryAfter, hclaimant, hentry]
  | sweep => exact absurd rfl hop

/-- The table of transitions leaves no choice: the same session and the same payload make for the same
answer and the same session afterwards. -/
theorem Own.unique (hsink : sink.Stateless)
    (hpayload : ∀ t, op.token? = some t → s'.rendezvous.payload? t = s.rendezvous.payload? t)
    {x y y' : Option Session} {result result' : Result} (h : Own s sink w op x result y)
    (h' : Own s' sink w' op x result' y') : result' = result ∧ y' = y := by
  cases h with
  | @wait c t hp =>
    cases h' with
    | wait _ => exact ⟨rfl, rfl⟩
    | meet hp' _ => simp [hpayload t rfl, hp] at hp'
    | decline hp' _ => simp [hpayload t rfl, hp] at hp'
    | ignore hx => exact absurd rfl hx
  | @meet c t p a hp ha =>
    cases h' with
    | wait hp' => simp [hpayload t rfl, hp] at hp'
    | meet hp' ha' =>
      rw [hpayload t rfl, hp] at hp'
      cases hp'
      rw [hsink c t p w' w, ha] at ha'
      cases ha'
      exact ⟨rfl, rfl⟩
    | decline hp' ha' =>
      rw [hpayload t rfl, hp] at hp'
      cases hp'
      rw [hsink c t p w' w, ha] at ha'
      cases ha'
    | ignore hx => exact absurd rfl hx
  | @decline c t p hp ha =>
    cases h' with
    | wait hp' => simp [hpayload t rfl, hp] at hp'
    | meet hp' ha' =>
      rw [hpayload t rfl, hp] at hp'
      cases hp'
      rw [hsink c t p w' w, ha] at ha'
      cases ha'
    | decline _ _ => exact ⟨rfl, rfl⟩
    | ignore hx => exact absurd rfl hx
  | _ =>
    -- outside of claims the session alone decides
    cases h' <;> first | exact ⟨rfl, rfl⟩ | exact absurd rfl ‹_›

theorem Reaches.congr {x : Session} (hsink : sink.Stateless) (hagree : Agree (s.footprint op) s s')
    (hop : op ≠ .sweep) (h : Reaches s sink w now op c x) : Reaches s' sink w' now op c x := by
  cases h with
  | superseded hc ht => exact .superseded ((hagree.get? rfl).trans hc) ((hagree.claimant? rfl).trans ht)
  | @met _ t p ht =>
    rw [hsink c t p w w']
    exact .met ((hagree.claimant? rfl).trans ht)
  | evicted _ _ => exact absurd rfl hop

theorem answer_congr (hs : s.Lockstep) (hs' : s'.Lockstep) (hsink : sink.Stateless)
    (h : Agree (s.footprint op) s s') (w w' : ω) (now : Nat) (hop : op ≠ .sweep) :
    (s'.perform sink w' now op).1 = (s.perform sink w now op).1 := by
  rcases hc : op.connection? with - | c
  · cases op with
    | expectPayload t p =>
      -- whether somebody waits is all that is told
      have hanswer : ∀ {s : Sessions π} (w : ω), s.Lockstep →
          (s.perform sink w now (.expectPayload t p)).1
            = .expected (s.rendezvous.claimant? t).isSome := by
        intro s w hs
        rcases ht : s.rendezvous.claimant? t with - | d
        · simp [perform, expectPayload_of_no_claimant ht]
        · simp [perform, expectPayload_of_claimant hs ht]
      rw [hanswer w' hs', hanswer w hs, h.claimant? rfl]
    | sweep => exact absurd rfl hop
    | _ => cases hc
  · have hown := own_perform hs sink w now hc
    have hown' := own_perform hs' sink w' now hc
    rw [h.get? hc] at hown'
    exact (hown.unique hsink (fun t ht => h.payload? ht) hown').1

theorem get?_congr (hs : s.Lockstep) (hs' : s'.Lockstep) (hsink : sink.Stateless)
    (h : Agree (s.footprint op) s s') (w w' : ω) (now : Nat) (hop : op ≠ .sweep)
    (hc : c ∈ (s.footprint op).connections) :
    (s'.perform sink w' now op).2.1.get? c = (s.perform sink w now op).2.1.get? c := by
  by_cases hcop : op.connection? = some c
  · have hown := own_perform hs sink w now hcop
    have hown' := own_perform hs' sink w' now hcop
    rw [h.get? hcop] at hown'
    exact (hown.unique hsink (fun t ht => h.payload? ht) hown').2
  · have hback : Agree (s'.footprint op) s' s := by
      rw [footprint_congr hs hs' h]
      exact h.symm
    by_cases hreach : ∃ x, Reaches s sink w now op c x
    · obtain ⟨x, hx⟩ := hreach
      have hafter : (s.perform sink w now op).2.1.get? c = some x := (get?_of_reaches hs rfl hx).2
      have hafter' : (s'.perform sink w' now op).2.1.get? c = some x :=
        (get?_of_reaches hs' rfl (hx.congr hsink h hop)).2
      rw [hafter, hafter']
    · have hkept : (s.perform sink w now op).2.1.get? c = s.get? c :=
        get?_perform_of_not_reaches hs hcop fun x hx => hreach ⟨x, hx⟩
      have hkept' : (s'.perform sink w' now op).2.1.get? c = s'.get? c :=
        get?_perform_of_not_reaches hs' hcop fun x hx => hreach ⟨x, hx.congr hsink hback hop⟩
      rw [hkept, hkept', h.sessions c hc]

/-- States that agree on the footprint of an operation agree on it afterwards. -/
theorem agree_perform (hs : s.Lockstep) (hs' : s'.Lockstep) (hsink : sink.Stateless)
    (h : Agree (s.footprint op) s s') (w w' : ω) (now : Nat) (hop : op ≠ .sweep) :
    Agree (s.footprint op) (s.perform sink w now op).2.1 (s'.perform sink w' now op).2.1 where
  sessions := fun _ hc => get?_congr hs hs' hsink h w w' now hop hc
  entries := fun t ht => by
    rw [entries_perform hs, entries_perform hs', entryAfter_congr h now hop ht]

/-- An operation leaves a footprint that is disjoint from its own as it is. -/
theorem agree_of_disjoint (hs : s.Lockstep) (sink : Sink π ω) (w : ω) (now : Nat) (hop : op ≠ .sweep)
    {F : Footprint} (h : F.Disjoint (s.footprint op)) :
    Agree F s (s.perform sink w now op).2.1 where
  sessions := fun c hc => get?_outside hs sink w now hop (h.1 c hc)
  entries := fun t ht => entries_outside hs sink w now hop (h.2 t ht)

end

/-! ### Either order -/

/-- What two operations, one after the other, are answered and leave, and the calls that the sink
gets. -/
structure Ending (π : Type) where
  first : Result
  second : Result
  sessions : Sessions π
  calls : List (Rendezvous.Notice ConnectionId π)

/-- Does two operations, one after the other, at the same time. -/
def inTurn (s : Sessions π) (sink : Sink π ω) (w : ω) (now : Nat) (X Y : Operation π) : Ending π :=
  let (first, s, v) := s.perform sink.recorded ([], w) now X
  let (second, s, v) := s.perform sink.recorded v now Y
  ⟨first, second, s, v.1⟩

/-- Both operations are answered the same in both orders, and leave the same sessions, entries with
their times, and second map; and the sink gets the same calls in some order. -/
structure Commute (s : Sessions π) (sink : Sink π ω) (w : ω) (now : Nat) (X Y : Operation π) :
    Prop where
  first : (s.inTurn sink w now X Y).first = (s.inTurn sink w now Y X).second
  second : (s.inTurn sink w now X Y).second = (s.inTurn sink w now Y X).first
  sessions : ∀ c, (s.inTurn sink w now X Y).sessions.get? c = (s.inTurn sink w now Y X).sessions.get? c
  entries : ∀ t, (s.inTurn sink w now X Y).sessions.rendezvous.entries.get? t
    = (s.inTurn sink w now Y X).sessions.rendezvous.entries.get? t
  tokens : ∀ c, (s.inTurn sink w now X Y).sessions.rendezvous.tokenOf? c
    = (s.inTurn sink w now Y X).sessions.rendezvous.tokenOf? c
  timeout : (s.inTurn sink w now X Y).sessions.rendezvous.timeout
    = (s.inTurn sink w now Y X).sessions.rendezvous.timeout
  calls : (s.inTurn sink w now X Y).calls.Perm (s.inTurn sink w now Y X).calls

section

variable {s : Sessions π} {sink : Sink π ω} {now : Nat} {X Y : Operation π}

theorem timeout_perform (hs : s.Lockstep) (sink : Sink π ω) (w : ω) (now : Nat) (op : Operation π) :
    (s.perform sink w now op).2.1.rendezvous.timeout = s.rendezvous.timeout := by
  rcases step_or_eq_of_perform s sink w now op with heq | hstep
  · rw [heq]
  · exact timeout_of_step hs hstep

/-- The footprint of an operation that comes second is what it would be if it came first. -/
theorem footprint_perform (hs : s.Lockstep) (sink : Sink π ω) (w : ω) (now : Nat) (hX : X ≠ .sweep)
    (h : (s.footprint Y).Disjoint (s.footprint X)) :
    (s.perform sink w now X).2.1.footprint Y = s.footprint Y :=
  footprint_congr hs (lockstep_perform hs sink w now X) (agree_of_disjoint hs sink w now hX h)

/-- An operation that comes second finds its footprint as it would have found it if it came first. -/
theorem agree_second (hs : s.Lockstep) (sink : Sink π ω) (w : ω) (now : Nat) (hX : X ≠ .sweep)
    (h : (s.footprint X).Disjoint (s.footprint Y)) :
    Agree (s.footprint Y) s (s.perform sink w now X).2.1 :=
  agree_of_disjoint hs sink w now hX h.symm

/-- What the first of two operations makes of its footprint is there after both of them, and is what
it would have made if it had come second. -/
theorem agree_either_order (hs : s.Lockstep) (hsink : sink.Stateless) (hX : X ≠ .sweep)
    (hY : Y ≠ .sweep) (h : (s.footprint X).Disjoint (s.footprint Y)) (w w₁ w₂ w₃ : ω) :
    Agree (s.footprint X)
      ((s.perform sink w now X).2.1.perform sink w₁ now Y).2.1
      ((s.perform sink w₂ now Y).2.1.perform sink w₃ now X).2.1 := by
  have hlockX := lockstep_perform hs sink w now X
  have hlockY := lockstep_perform hs sink w₂ now Y
  have hkept : Agree (s.footprint X) (s.perform sink w now X).2.1
      ((s.perform sink w now X).2.1.perform sink w₁ now Y).2.1 := by
    refine agree_of_disjoint hlockX sink w₁ now hY ?_
    rw [footprint_perform hs sink w now hX h.symm]
    exact h
  have hmade : Agree (s.footprint X) (s.perform sink w now X).2.1
      ((s.perform sink w₂ now Y).2.1.perform sink w₃ now X).2.1 :=
    agree_perform hs hlockY hsink (agree_second hs sink w₂ now hY h.symm) w w₃ now hX
  exact hkept.symm.trans hmade

/-- What is on neither footprint is after both operations what it was before. -/
theorem agree_after_both (hs : s.Lockstep) (sink : Sink π ω) (now : Nat) (hX : X ≠ .sweep)
    (hY : Y ≠ .sweep) (h : (s.footprint X).Disjoint (s.footprint Y)) {F : Footprint}
    (hFX : F.Disjoint (s.footprint X)) (hFY : F.Disjoint (s.footprint Y)) (w w₁ : ω) :
    Agree F s ((s.perform sink w now X).2.1.perform sink w₁ now Y).2.1 := by
  rw [← footprint_perform hs sink w now hX h.symm] at hFY
  exact (agree_of_disjoint hs sink w now hX hFX).trans
    (agree_of_disjoint (lockstep_perform hs sink w now X) sink w₁ now hY hFY)

theorem get?_either_order (hs : s.Lockstep) (hsink : sink.Stateless) (hX : X ≠ .sweep)
    (hY : Y ≠ .sweep) (h : (s.footprint X).Disjoint (s.footprint Y)) (w w₁ w₂ w₃ : ω)
    (c : ConnectionId) :
    ((s.perform sink w now X).2.1.perform sink w₁ now Y).2.1.get? c
      = ((s.perform sink w₂ now Y).2.1.perform sink w₃ now X).2.1.get? c := by
  by_cases hcX : c ∈ (s.footprint X).connections
  · exact ((agree_either_order hs hsink hX hY h w w₁ w₂ w₃).sessions c hcX).symm
  · by_cases hcY : c ∈ (s.footprint Y).connections
    · exact (agree_either_order hs hsink hY hX h.symm w₂ w₃ w w₁).sessions c hcY
    · have hX' : Footprint.Disjoint ⟨[c], []⟩ (s.footprint X) := ⟨by simpa using hcX, by simp⟩
      have hY' : Footprint.Disjoint ⟨[c], []⟩ (s.footprint Y) := ⟨by simpa using hcY, by simp⟩
      have hXY := agree_after_both hs sink now hX hY h hX' hY' w w₁
      have hYX := agree_after_both hs sink now hY hX h.symm hY' hX' w₂ w₃
      exact (hYX.symm.trans hXY).sessions c (List.mem_singleton_self c)

theorem entries_either_order (hs : s.Lockstep) (hsink : sink.Stateless) (hX : X ≠ .sweep)
    (hY : Y ≠ .sweep) (h : (s.footprint X).Disjoint (s.footprint Y)) (w w₁ w₂ w₃ : ω) (t : String) :
    ((s.perform sink w now X).2.1.perform sink w₁ now Y).2.1.rendezvous.entries.get? t
      = ((s.perform sink w₂ now Y).2.1.perform sink w₃ now X).2.1.rendezvous.entries.get? t := by
  by_cases htX : t ∈ (s.footprint X).tokens
  · exact ((agree_either_order hs hsink hX hY h w w₁ w₂ w₃).entries t htX).symm
  · by_cases htY : t ∈ (s.footprint Y).tokens
    · exact (agree_either_order hs hsink hY hX h.symm w₂ w₃ w w₁).entries t htY
    · have hX' : Footprint.Disjoint ⟨[], [t]⟩ (s.footprint X) := ⟨by simp, by simpa using htX⟩
      have hY' : Footprint.Disjoint ⟨[], [t]⟩ (s.footprint Y) := ⟨by simp, by simpa using htY⟩
      have hXY := agree_after_both hs sink now hX hY h hX' hY' w w₁
      have hYX := agree_after_both hs sink now hY hX h.symm hY' hX' w₂ w₃
      exact (hYX.symm.trans hXY).entries t (List.mem_singleton_self t)

/-- The calls of two operations are those for their two meetings. -/
theorem calls_inTurn (hs : s.Lockstep) (sink : Sink π ω) (w : ω) (now : Nat) (hX : X ≠ .sweep)
    (hY : Y ≠ .sweep) (h : (s.footprint X).Disjoint (s.footprint Y)) :
    (s.inTurn sink w now X Y).calls
      = ((s.meeting? X).map Rendezvous.Notice.matched).toList
        ++ ((s.meeting? Y).map Rendezvous.Notice.matched).toList := by
  have hfirst := record_perform hs sink ([], w) now hX
  have hsecond := record_perform (lockstep_perform hs sink.recorded ([], w) now X) sink
    (s.perform sink.recorded ([], w) now X).2.2 now hY
  rw [hfirst, meeting?_congr (agree_second hs sink.recorded ([], w) now hX h)] at hsecond
  exact hsecond

/-- Operations with disjoint footprints can be done in either order. -/
theorem commute_of_disjoint (hs : s.Lockstep) (hsink : sink.Stateless) (hX : X ≠ .sweep)
    (hY : Y ≠ .sweep) (h : (s.footprint X).Disjoint (s.footprint Y)) (w : ω) :
    Commute s sink w now X Y := by
  have hrec := hsink.recorded
  have hlockX := lockstep_perform hs sink.recorded ([], w) now X
  have hlockY := lockstep_perform hs sink.recorded ([], w) now Y
  have hsessions : ∀ c, (s.inTurn sink w now X Y).sessions.get? c
      = (s.inTurn sink w now Y X).sessions.get? c :=
    get?_either_order hs hrec hX hY h ([], w) _ ([], w) _
  refine ⟨?_, ?_, hsessions, ?_, ?_, ?_, ?_⟩
  · have hagree := agree_second hs sink.recorded ([], w) now hY h.symm
    exact (answer_congr hs hlockY hrec hagree ([], w) _ now hX).symm
  · have hagree := agree_second hs sink.recorded ([], w) now hX h
    exact answer_congr hs hlockX hrec hagree ([], w) _ now hY
  · exact entries_either_order hs hrec hX hY h ([], w) _ ([], w) _
  · exact fun c => tokenOf?_congr (lockstep_perform hlockY ..) (lockstep_perform hlockX ..)
      (hsessions c)
  · calc (s.inTurn sink w now X Y).sessions.rendezvous.timeout
      _ = (s.perform sink.recorded ([], w) now X).2.1.rendezvous.timeout := timeout_perform hlockX ..
      _ = s.rendezvous.timeout := timeout_perform hs ..
      _ = (s.perform sink.recorded ([], w) now Y).2.1.rendezvous.timeout := (timeout_perform hs ..).symm
      _ = (s.inTurn sink w now Y X).sessions.rendezvous.timeout := (timeout_perform hlockY ..).symm
  · rw [calls_inTurn hs sink w now hX hY h, calls_inTurn hs sink w now hY hX h.symm]
    exact List.perm_append_comm

end

/-- **Independent operations commute.**  In every state that operations with any sinks lead to, and
with every sink whose answer depends on the meeting alone, two operations other than sweeps, done at the
same time, commute if their footprints are disjoint: each is answered the same in both orders, and both
orders leave the same sessions, the same entries with the times since which they wait, and the same
second map, and make the same calls.

What the operations name would not do for a footprint: a claim and a logout that name no common
connection or token do not commute if the one who logs out waits on the token. -/
theorem independent_operations_commute :
    (∀ (π ω : Type) (timeout : Nat) (s : Sessions π), Reachable timeout s →
      ∀ sink : Sink π ω, sink.Stateless → ∀ (w : ω) (now : Nat) (X Y : Operation π),
        X ≠ .sweep → Y ≠ .sweep → (s.footprint X).Disjoint (s.footprint Y) →
          Commute s sink w now X Y) ∧
    ∃ (s : Sessions Unit) (sink : Sink Unit Unit) (X Y : Operation Unit),
      Reachable 5 s ∧ sink.Stateless ∧ X ≠ .sweep ∧ Y ≠ .sweep ∧ X.named.Disjoint Y.named ∧
        ¬ Commute s sink () 0 X Y := by
  refine ⟨fun π ω timeout s hs sink hsink w now X Y hX hY h =>
    commute_of_disjoint hs.lockstep hsink hX hY h w, ?_⟩
  let sink : Sink Unit Unit := ⟨fun _ _ _ w => (none, w), fun _ _ w => w, fun _ _ w => w⟩
  let after (s : Sessions Unit) (op : Operation Unit) := (s.perform sink () 0 op).2.1
  let s := after (after (after (empty 5) (.connect ⟨1⟩)) (.connect ⟨2⟩)) (.reconnect ⟨1⟩ "gate")
  have hs : Reachable 5 s := ((Reachable.empty.perform ..).perform ..).perform ..
  refine ⟨s, sink, .reconnect ⟨2⟩ "gate", .logout ⟨1⟩, hs, fun _ _ _ _ _ => rfl, nofun, nofun,
    by decide, fun hcommute => ?_⟩
  -- the one who waits is logged out by the claim, and has nothing to log out of afterwards
  have hsecond : (s.inTurn sink () 0 (.reconnect ⟨2⟩ "gate") (.logout ⟨1⟩)).second
      = .refused (.notLoggedIn ⟨1⟩) := by decide +kernel
  have hfirst : (s.inTurn sink () 0 (.logout ⟨1⟩) (.reconnect ⟨2⟩ "gate")).first
      = .loggedOut .claimCancelled := by decide +kernel
  have hsame := hcommute.second
  rw [hsecond, hfirst] at hsame
  cases hsame

/-- A payload that meets one connection and the login of another one commute. -/
theorem meeting_commutes_with_login :
    let sink : Sink Unit Nat := ⟨fun _ _ _ w => (some ⟨7⟩, w + 1), fun _ _ w => w, fun _ _ w => w⟩
    let after (s : Sessions Unit) (op : Operation Unit) := (s.perform sink 0 3 op).2.1
    let s := after (after (after (empty 5) (.connect ⟨1⟩)) (.connect ⟨2⟩)) (.reconnect ⟨1⟩ "gate")
    Commute s sink 0 3 (.expectPayload "gate" ()) (.login ⟨2⟩ ⟨8⟩) ∧
      (s.inTurn sink 0 3 (.login ⟨2⟩ ⟨8⟩) (.expectPayload "gate" ())).calls
        = [.matched ⟨"gate", ⟨1⟩, ()⟩] := by
  intro sink after s
  have hs : Reachable 5 s := ((Reachable.empty.perform ..).perform ..).perform ..
  have hsink : sink.Stateless := fun _ _ _ _ _ => rfl
  refine ⟨?_, by decide +kernel⟩
  exact independent_operations_commute.1 Unit Nat 5 s hs sink hsink 0 3 _ _ nofun nofun
    (by decide +kernel)

end Sessions

end Lobby
