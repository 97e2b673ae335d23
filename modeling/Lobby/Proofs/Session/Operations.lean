/-
Lobby/Proofs/Session/Operations.lean

The table of transitions.

An `Operation` is anything that is done to the sessions, and `perform` does it, with what it is
answered; one that is refused leaves everything as it is.  Two relations say what an operation may make
of a session:

* `Own` is the table for the session of the connection that the operation is about, with the answer;
* `Reaches` names the sessions of other connections that an operation reaches: a rival that waited on a
  token that is claimed, the claimant that a payload meets, and the claimants that a sweep evicts.

Both look at the state before the operation only.  Main result: every operation makes the transition of
the table, reaches exactly those sessions, and leaves all others as they are; sessions come with `connect` and go with
`disconnect` only; and an operation that comes to nothing changes nothing, neither in the sessions nor in
the rendezvous nor for the sink (`only_specified_transitions`).
-/
import Lobby.Proofs.KeyedList
import Lobby.Proofs.Session.Effects

namespace Lobby

/-- A sweep that finds nobody overdue changes nothing. -/
theorem Rendezvous.sweep_of_nobody {γ π : Type} [DecidableEq γ] {r : Rendezvous γ π} {now : Nat}
    (h : (r.sweep now).2 = []) : (r.sweep now).1 = r := by
  have hnone : (r.entries.entries.filter fun e => r.overdue now e.2) = [] := List.map_eq_nil_iff.mp h
  have hall : (r.entries.filter fun e => !r.overdue now e.2) = r.entries := by
    refine KeyedList.ext_entries (List.filter_eq_self.mpr fun e he => ?_)
    simpa using List.filter_eq_nil_iff.mp hnone e he
  rw [sweep_fst, hnone, hall]
  rfl

namespace Sessions

variable {π ω : Type}

/-! ### Operations -/

/-- An operation on the sessions. -/
inductive Operation (π : Type) where
  | connect (c : ConnectionId)
  | login (c : ConnectionId) (a : AccountId)
  | reconnect (c : ConnectionId) (t : String)
  | logout (c : ConnectionId)
  | disconnect (c : ConnectionId)
  | expectPayload (t : String) (p : π)
  | sweep

/-- What an operation is answered. -/
inductive Result where
  | refused (e : SessionError)
  | connected
  | loggedIn
  | reconnected (outcome : ReconnectOutcome)
  | loggedOut (outcome : LogoutOutcome)
  /-- The session that has ended, if there was one. -/
  | disconnected (session : Option Session)
  /-- Whether somebody waited for the payload. -/
  | expected (met : Bool)
  /-- How many waits have ended. -/
  | swept (count : Nat)
deriving DecidableEq

/-- The connection whose session an operation is about. -/
def Operation.connection? : Operation π → Option ConnectionId
  | connect c => some c
  | login c _ => some c
  | reconnect c _ => some c
  | logout c => some c
  | disconnect c => some c
  | expectPayload _ _ => none
  | sweep => none

/-- The token that an operation names. -/
def Operation.token? : Operation π → Option String
  | reconnect _ t => some t
  | expectPayload t _ => some t
  | _ => none

/-- Whether an answer says that an operation came to nothing. -/
def Result.isIdle : Result → Bool
  | refused _ => true
  | reconnected .ignored => true
  | disconnected none => true
  | swept 0 => true
  | _ => false

/-- Does an operation at a time.  One that is refused leaves everything as it is. -/
def perform (s : Sessions π) (sink : Sink π ω) (w : ω) (now : Nat) :
    Operation π → Result × Sessions π × ω
  | .connect c =>
    match s.connect c with
    | .ok s' => (.connected, s', w)
    | .error e => (.refused e, s, w)
  | .login c a =>
    match s.login c a with
    | .ok s' => (.loggedIn, s', w)
    | .error e => (.refused e, s, w)
  | .reconnect c t =>
    match s.reconnect sink w now c t with
    | .ok (outcome, s', w') => (.reconnected outcome, s', w')
    | .error e => (.refused e, s, w)
  | .logout c =>
    match s.logout c with
    | .ok (outcome, s') => (.loggedOut outcome, s', w)
    | .error e => (.refused e, s, w)
  | .disconnect c =>
    let (session, s') := s.disconnect c
    (.disconnected session, s', w)
  | .expectPayload t p =>
    let (met, s', w') := s.expectPayload sink w now t p
    (.expected met, s', w')
  | .sweep =>
    let (count, s', w') := s.sweep sink w now
    (.swept count, s', w')

/-- An operation is a step, or leaves the sessions as they are. -/
theorem step_or_eq_of_perform (s : Sessions π) (sink : Sink π ω) (w : ω) (now : Nat)
    (op : Operation π) :
    (s.perform sink w now op).2.1 = s ∨ s.Step (s.perform sink w now op).2.1 := by
  cases op with
  | connect c =>
    rcases h : s.connect c with e | s' <;> simp only [perform, h]
    · exact .inl trivial
    · exact .inr (.connect h)
  | login c a =>
    rcases h : s.login c a with e | s' <;> simp only [perform, h]
    · exact .inl trivial
    · exact .inr (.login h)
  | reconnect c t =>
    rcases h : s.reconnect sink w now c t with e | ⟨outcome, s', w'⟩ <;> simp only [perform, h]
    · exact .inl trivial
    · exact .inr (.reconnect h)
  | logout c =>
    rcases h : s.logout c with e | ⟨outcome, s'⟩ <;> simp only [perform, h]
    · exact .inl trivial
    · exact .inr (.logout h)
  | disconnect c => exact .inr (.disconnect s c)
  | expectPayload t p => exact .inr (.expectPayload s sink w now t p)
  | sweep => exact .inr (.sweep s sink w now)

theorem lockstep_perform {s : Sessions π} (hs : s.Lockstep) (sink : Sink π ω) (w : ω) (now : Nat)
    (op : Operation π) : (s.perform sink w now op).2.1.Lockstep := by
  rcases step_or_eq_of_perform s sink w now op with heq | hstep
  · rw [heq]
    exact hs
  · exact hs.step hstep

theorem Reachable.perform {timeout : Nat} {s : Sessions π} (hs : Reachable timeout s)
    (sink : Sink π ω) (w : ω) (now : Nat) (op : Operation π) :
    Reachable timeout (s.perform sink w now op).2.1 := by
  rcases step_or_eq_of_perform s sink w now op with heq | hstep
  · rw [heq]
    exact hs
  · exact hs.step hstep

/-! ### The table -/

/-- The table of transitions: what an operation is answered and what it makes of the session of its
own connection, by what that session is.  A claim is resolved by the rendezvous: it waits if no payload
does, and otherwise the answer of the sink decides. -/
inductive Own (s : Sessions π) (sink : Sink π ω) (w : ω) :
    Operation π → Option Session → Result → Option Session → Prop where
  | connect {c : ConnectionId} : Own s sink w (.connect c) none .connected (some .unauthenticated)
  | alreadyExists {c : ConnectionId} {x : Session} :
      Own s sink w (.connect c) (some x) (.refused (.alreadyExists c)) (some x)
  | login {c : ConnectionId} {a : AccountId} :
      Own s sink w (.login c a) (some .unauthenticated) .loggedIn (some (.authenticated a))
  | loginNotAllowed {c : ConnectionId} {a : AccountId} {x : Session} : x ≠ .unauthenticated →
      Own s sink w (.login c a) (some x) (.refused (.loginNotAllowed c x)) (some x)
  | loginNotFound {c : ConnectionId} {a : AccountId} :
      Own s sink w (.login c a) none (.refused (.notFound c)) none
  | wait {c : ConnectionId} {t : String} : s.rendezvous.payload? t = none →
      Own s sink w (.reconnect c t) (some .unauthenticated) (.reconnected .waiting)
        (some (.awaitingToken t))
  | meet {c : ConnectionId} {t : String} {p : π} {a : AccountId} :
      s.rendezvous.payload? t = some p → (sink.claimMatched c t p w).1 = some a →
      Own s sink w (.reconnect c t) (some .unauthenticated) (.reconnected (.matched a))
        (some (.authenticated a))
  | decline {c : ConnectionId} {t : String} {p : π} :
      s.rendezvous.payload? t = some p → (sink.claimMatched c t p w).1 = none →
      Own s sink w (.reconnect c t) (some .unauthenticated) (.reconnected .rejected)
        (some .unauthenticated)
  | ignore {c : ConnectionId} {t : String} {x : Session} : x ≠ .unauthenticated →
      Own s sink w (.reconnect c t) (some x) (.reconnected .ignored) (some x)
  | reconnectNotFound {c : ConnectionId} {t : String} :
      Own s sink w (.reconnect c t) none (.refused (.notFound c)) none
  | logout {c : ConnectionId} {a : AccountId} :
      Own s sink w (.logout c) (some (.authenticated a)) (.loggedOut (.loggedOut a))
        (some .unauthenticated)
  | withdraw {c : ConnectionId} {t : String} :
      Own s sink w (.logout c) (some (.awaitingToken t)) (.loggedOut .claimCancelled)
        (some .unauthenticated)
  | notLoggedIn {c : ConnectionId} :
      Own s sink w (.logout c) (some .unauthenticated) (.refused (.notLoggedIn c))
        (some .unauthenticated)
  | logoutNotFound {c : ConnectionId} :
      Own s sink w (.logout c) none (.refused (.notFound c)) none
  | disconnect {c : ConnectionId} {x : Session} :
      Own s sink w (.disconnect c) (some x) (.disconnected (some x)) none
  | disconnectNotFound {c : ConnectionId} :
      Own s sink w (.disconnect c) none (.disconnected none) none

/-- The sessions of other connections that an operation reaches, and what it makes of them. -/
inductive Reaches (s : Sessions π) (sink : Sink π ω) (w : ω) (now : Nat) :
    Operation π → ConnectionId → Session → Prop where
  /-- A claim on the token on which the session waits. -/
  | superseded {c d : ConnectionId} {t : String} : s.get? c = some .unauthenticated →
      s.rendezvous.claimant? t = some d → Reaches s sink w now (.reconnect c t) d .unauthenticated
  /-- A payload on the token on which the session waits. -/
  | met {d : ConnectionId} {t : String} {p : π} : s.rendezvous.claimant? t = some d →
      Reaches s sink w now (.expectPayload t p) d (.ofAccount? (sink.claimMatched d t p w).1)
  /-- A sweep after the session has waited longer than the timeout. -/
  | evicted {d : ConnectionId} {t : String} {since : Nat} :
      s.rendezvous.entries.get? t = some ⟨.claimant d, since⟩ →
      s.rendezvous.timeout < now - since → Reaches s sink w now .sweep d .unauthenticated

/-- An operation makes the transitions of the table, and only to the sessions concerned. -/
structure Specified (s : Sessions π) (sink : Sink π ω) (w : ω) (now : Nat) (op : Operation π)
    (result : Result) (s' : Sessions π) (w' : ω) : Prop where
  /-- A session comes with the connection and goes with it. -/
  members : ∀ c, (s'.get? c).isSome = true ↔
    op = .connect c ∨ op ≠ .disconnect c ∧ (s.get? c).isSome = true
  own : ∀ c, op.connection? = some c → Own s sink w op (s.get? c) result (s'.get? c)
  /-- Whatever is reached has waited on a token. -/
  reached : ∀ c x, Reaches s sink w now op c x →
    (∃ t, s.get? c = some (.awaitingToken t)) ∧ s'.get? c = some x
  kept : ∀ c, op.connection? ≠ some c → (∀ x, ¬ Reaches s sink w now op c x) →
    s'.get? c = s.get? c
  idle : result.isIdle = true → s' = s ∧ w' = w

/-! ### The operations make the transitions of the table -/

section

variable {s s' : Sessions π} {w w' : ω} {sink : Sink π ω} {now : Nat} {op : Operation π}
  {result : Result}

/-- The session of the operation's own connection. -/
theorem own_of_perform (hs : s.Lockstep) (h : s.perform sink w now op = (result, s', w'))
    {c : ConnectionId} (hop : op.connection? = some c) :
    Own s sink w op (s.get? c) result (s'.get? c) := by
  cases op with
  | connect d =>
    cases hop
    rcases hc : s.get? c with - | x <;> simp only [perform, connect, hc] at h <;> cases h
    · rw [get?_set, if_pos rfl]
      exact .connect
    · rw [hc]
      exact .alreadyExists
  | login d a =>
    cases hop
    rcases hc : s.get? c with - | - | a' | t <;> simp only [perform, login, hc] at h <;> cases h
    · rw [hc]
      exact .loginNotFound
    · rw [get?_set, if_pos rfl]
      exact .login
    · rw [hc]
      exact .loginNotAllowed (by simp)
    · rw [hc]
      exact .loginNotAllowed (by simp)
  | reconnect d t =>
    cases hop
    rcases hc : s.get? c with - | x
    · simp only [perform, reconnect, hc] at h
      cases h
      rw [hc]
      exact .reconnectNotFound
    · by_cases hx : x = .unauthenticated
      · -- logged out: the rendezvous resolves the claim
        subst hx
        rcases hp : s.rendezvous.payload? t with - | p
        · simp only [perform, reconnect_of_no_payload hc hp] at h
          cases h
          rw [get?_present hs hc, if_pos rfl]
          exact .wait hp
        · simp only [perform, reconnect_of_payload hs hc hp] at h
          cases h
          rw [get?_set, if_pos rfl]
          rcases hanswer : (sink.claimMatched c t p w).1 with - | a
          · exact .decline hp hanswer
          · exact .meet hp hanswer
      · simp only [perform, reconnect_ignored hc hx] at h
        cases h
        rw [hc]
        exact .ignore hx
  | logout d =>
    cases hop
    rcases hlogout : s.logout c with e | ⟨outcome, s₁⟩
    · simp only [perform, hlogout] at h
      cases h
      rcases hc : s.get? c with - | - | a | t <;> simp only [logout, hc] at hlogout <;> cases hlogout
      · exact .logoutNotFound
      · exact .notLoggedIn
    · simp only [perform, hlogout] at h
      cases h
      rw [get?_logout hlogout, if_pos rfl]
      rcases hc : s.get? c with - | - | a | t <;> simp only [logout, hc] at hlogout <;> cases hlogout
      · exact .logout
      · exact .withdraw
  | disconnect d =>
    cases hop
    have hgone := get?_disconnect s c c
    simp only [perform] at h
    cases h
    rw [hgone, if_pos rfl]
    rcases hc : s.get? c with - | - | a | t <;> simp only [disconnect, hc]
    · exact .disconnectNotFound
    · exact .disconnect
    · exact .disconnect
    · exact .disconnect
  | expectPayload t p => cases hop
  | sweep => cases hop

/-- The sessions of other connections that are reached. -/
theorem get?_of_reaches (hs : s.Lockstep) (h : s.perform sink w now op = (result, s', w'))
    {c : ConnectionId} {x : Session} (hreach : Reaches s sink w now op c x) :
    (∃ t, s.get? c = some (.awaitingToken t)) ∧ s'.get? c = some x := by
  cases hreach with
  | @superseded d _ t hd ht =>
    have hwaits := (hs.awaits c t).mpr ht
    have hp : s.rendezvous.payload? t = none := Rendezvous.payload?_eq_none_of_claimant? ht
    refine ⟨⟨t, hwaits⟩, ?_⟩
    simp only [perform, reconnect_of_no_payload hd hp] at h
    cases h
    have hne : d ≠ c := by
      rintro rfl
      rw [hd] at hwaits
      cases hwaits
    rw [get?_present hs hd, if_neg hne, if_pos ht]
  | @met _ t p ht =>
    refine ⟨⟨t, (hs.awaits c t).mpr ht⟩, ?_⟩
    simp only [perform, expectPayload_of_claimant hs ht] at h
    cases h
    rw [get?_set, if_pos rfl]
  | @evicted _ t since ht hover =>
    have hclaim : s.rendezvous.claimant? t = some c :=
      Rendezvous.claimant?_eq_some_iff.mpr ⟨since, ht⟩
    refine ⟨⟨t, (hs.awaits c t).mpr hclaim⟩, ?_⟩
    simp only [perform] at h
    cases h
    obtain ⟨-, -, hreset, -⟩ := sweep_spec hs sink w now
    refine hreset ⟨t, .claimant c⟩ ?_ c rfl
    exact (Rendezvous.mem_sweep_iff ..).mpr ⟨since, ht, decide_eq_true hover⟩

/-- The sessions of other connections that are not reached. -/
theorem get?_of_not_reaches (hs : s.Lockstep) (h : s.perform sink w now op = (result, s', w'))
    {c : ConnectionId} (hop : op.connection? ≠ some c)
    (hreach : ∀ x, ¬ Reaches s sink w now op c x) : s'.get? c = s.get? c := by
  cases op with
  | connect d =>
    have hdc : d ≠ c := fun hdc => hop (congrArg some hdc)
    rcases hd : s.get? d with - | x <;> simp only [perform, connect, hd] at h <;> cases h
    · rw [get?_set, if_neg hdc]
    · rfl
  | login d a =>
    have hdc : d ≠ c := fun hdc => hop (congrArg some hdc)
    rcases hd : s.get? d with - | - | a' | t <;> simp only [perform, login, hd] at h <;> cases h
    · rfl
    · rw [get?_set, if_neg hdc]
    · rfl
    · rfl
  | reconnect d t =>
    have hdc : d ≠ c := fun hdc => hop (congrArg some hdc)
    rcases hreconnect : s.reconnect sink w now d t with e | ⟨outcome, s₁, w₁⟩ <;>
      simp only [perform, hreconnect] at h <;> cases h
    · rfl
    · rcases reconnect_cases hs hreconnect with ⟨rfl, -⟩ | ⟨hd, -, rfl, -⟩ | ⟨p, hd, hp, rfl, -⟩
      · rfl
      · rw [get?_present hs hd, if_neg hdc, if_neg fun ht => hreach _ (.superseded hd ht)]
      · rw [get?_answered hs hd hp, if_neg hdc]
  | logout d =>
    have hdc : d ≠ c := fun hdc => hop (congrArg some hdc)
    rcases hlogout : s.logout d with e | ⟨outcome, s₁⟩ <;> simp only [perform, hlogout] at h <;>
      cases h
    · rfl
    · rw [get?_logout hlogout, if_neg hdc]
  | disconnect d =>
    have hdc : d ≠ c := fun hdc => hop (congrArg some hdc)
    have hkept := get?_disconnect s d c
    rw [if_neg hdc] at hkept
    simp only [perform] at h
    cases h
    exact hkept
  | expectPayload t p =>
    rcases ht : s.rendezvous.claimant? t with - | d
    · simp only [perform, expectPayload_of_no_claimant ht] at h
      cases h
      rfl
    · simp only [perform, expectPayload_of_claimant hs ht] at h
      cases h
      have hdc : d ≠ c := by
        rintro rfl
        exact hreach _ (.met ht)
      rw [get?_set, if_neg hdc, get?_leave]
  | sweep =>
    simp only [perform] at h
    cases h
    obtain ⟨-, -, -, hkept⟩ := sweep_spec hs sink w now
    refine hkept c ?_
    rintro ⟨t, y⟩ hmem rfl
    obtain ⟨since, ht, hover⟩ := (Rendezvous.mem_sweep_iff ..).mp hmem
    exact hreach _ (.evicted ht (of_decide_eq_true hover))

/-- A claim that is ignored changes nothing. -/
theorem eq_of_ignored (hs : s.Lockstep) {c : ConnectionId} {t : String}
    (h : s.reconnect sink w now c t = .ok (.ignored, s', w')) : s' = s ∧ w' = w := by
  rcases hc : s.get? c with - | x
  · simp only [reconnect, hc] at h
    cases h
  · by_cases hx : x = .unauthenticated
    · -- logged out: the claim waits or is answered
      subst hx
      rcases hp : s.rendezvous.payload? t with - | p
      · rw [reconnect_of_no_payload hc hp] at h
        cases h
      · rw [reconnect_of_payload hs hc hp] at h
        rcases hanswer : (sink.claimMatched c t p w).1 with - | a <;> rw [hanswer] at h <;> cases h
    · rw [reconnect_ignored hc hx] at h
      cases h
      exact ⟨rfl, rfl⟩

/-- A sweep that tells nobody changes nothing. -/
theorem sweep_of_nobody (h : (s.sweep sink w now).1 = 0) : (s.sweep sink w now).2 = (s, w) := by
  have hnobody : (s.rendezvous.sweep now).2 = [] := List.eq_nil_of_length_eq_zero h
  have hsame : (s.rendezvous.sweep now).1 = s.rendezvous := Rendezvous.sweep_of_nobody hnobody
  show (s.rendezvous.sweep now).2.foldl _ ({ s with rendezvous := (s.rendezvous.sweep now).1 }, w) = _
  rw [hnobody, hsame]
  rfl

/-- What comes to nothing changes nothing. -/
theorem eq_of_isIdle (hs : s.Lockstep) (h : s.perform sink w now op = (result, s', w'))
    (hidle : result.isIdle = true) : s' = s ∧ w' = w := by
  cases op with
  | connect c =>
    rcases hc : s.connect c with e | s₁ <;> simp only [perform, hc] at h <;> cases h
    · exact ⟨rfl, rfl⟩
    · cases hidle
  | login c a =>
    rcases hc : s.login c a with e | s₁ <;> simp only [perform, hc] at h <;> cases h
    · exact ⟨rfl, rfl⟩
    · cases hidle
  | reconnect c t =>
    rcases hc : s.reconnect sink w now c t with e | ⟨outcome, s₁, w₁⟩ <;>
      simp only [perform, hc] at h <;> cases h
    · exact ⟨rfl, rfl⟩
    · -- of the answers to a claim only one says that it came to nothing
      cases outcome with
      | ignored => exact eq_of_ignored hs hc
      | waiting => cases hidle
      | matched a => cases hidle
      | rejected => cases hidle
  | logout c =>
    rcases hc : s.logout c with e | ⟨outcome, s₁⟩ <;> simp only [perform, hc] at h <;> cases h
    · exact ⟨rfl, rfl⟩
    · cases hidle
  | disconnect c =>
    rcases hc : s.get? c with - | - | a | t <;> simp only [perform, disconnect, hc] at h <;> cases h
    · exact ⟨rfl, rfl⟩
    · cases hidle
    · cases hidle
    · cases hidle
  | expectPayload t p =>
    simp only [perform] at h
    cases h
    cases hidle
  | sweep =>
    simp only [perform] at h
    cases h
    rcases hcount : (s.sweep sink w now).1 with - | n
    · have hsame := sweep_of_nobody hcount
      exact ⟨congrArg Prod.fst hsame, congrArg Prod.snd hsame⟩
    · rw [hcount] at hidle
      cases hidle

/-- A session comes with its connection and goes with it. -/
theorem isSome_get?_perform (hs : s.Lockstep) (h : s.perform sink w now op = (result, s', w'))
    (c : ConnectionId) :
    (s'.get? c).isSome = true ↔
      op = .connect c ∨ op ≠ .disconnect c ∧ (s.get? c).isSome = true := by
  by_cases hop : op.connection? = some c
  · have hown := own_of_perform hs h hop
    generalize s.get? c = x at hown ⊢
    generalize s'.get? c = x' at hown ⊢
    cases hown <;> cases hop <;> simp
  · -- the session of another connection stays, whether it is reached or not
    have hsame : (s'.get? c).isSome = (s.get? c).isSome := by
      by_cases hreach : ∃ x, Reaches s sink w now op c x
      · obtain ⟨x, hx⟩ := hreach
        obtain ⟨⟨t, hbefore⟩, hafter⟩ := get?_of_reaches hs h hx
        rw [hbefore, hafter]
        rfl
      · rw [get?_of_not_reaches hs h hop fun x hx => hreach ⟨x, hx⟩]
    have hconnect : op ≠ .connect c := by
      rintro rfl
      exact hop rfl
    have hdisconnect : op ≠ .disconnect c := by
      rintro rfl
      exact hop rfl
    rw [hsame]
    simp [hconnect, hdisconnect]

end

/-- **Every operation makes the transitions of the table, and only to the sessions concerned.**  In
every state that operations with any sinks lead to, and with any sink:

* sessions come with `connect` and go with `disconnect`, and no other operation changes which there are;
* the session of the operation's own connection is, before and after, what the table says, and so is
  the answer;
* a session of another connection is reached only as a rival that waits on the token of a claim, as the
  claimant that the payload of an announcement meets, or as a claimant that a sweep evicts; it has waited
  until then, and the first and the last are logged out, the second is what the sink answers;
* every other session stays as it is;
* what is refused, ignored or finds nothing to do leaves sessions, rendezvous and sink as they are. -/
theorem only_specified_transitions {timeout : Nat} {s s' : Sessions π} (hs : Reachable timeout s)
    {sink : Sink π ω} {w w' : ω} {now : Nat} {op : Operation π} {result : Result}
    (h : s.perform sink w now op = (result, s', w')) :
    Specified s sink w now op result s' w' where
  members := isSome_get?_perform hs.lockstep h
  own := fun _ => own_of_perform hs.lockstep h
  reached := fun _ _ => get?_of_reaches hs.lockstep h
  kept := fun _ => get?_of_not_reaches hs.lockstep h
  idle := eq_of_isIdle hs.lockstep h

/-- Of two connections that present the same token the first one is logged out and the second one
waits. -/
theorem rival_is_logged_out :
    let sink : Sink Unit Nat := ⟨fun _ _ _ w => (some ⟨7⟩, w + 1), fun _ _ w => w, fun _ _ w => w⟩
    let after (s : Sessions Unit) (op : Operation Unit) := (s.perform sink 0 3 op).2.1
    let s := after (after (after (empty 5) (.connect ⟨1⟩)) (.connect ⟨2⟩)) (.reconnect ⟨1⟩ "gate")
    let s' := after s (.reconnect ⟨2⟩ "gate")
    Specified s sink 0 3 (.reconnect ⟨2⟩ "gate") (.reconnected .waiting) s' 0 ∧
      s'.get? ⟨1⟩ = some .unauthenticated ∧ s'.get? ⟨2⟩ = some (.awaitingToken "gate") := by
  intro sink after s s'
  have hs : Reachable 5 s := ((Reachable.empty.perform ..).perform ..).perform ..
  have h : s.perform sink 0 3 (.reconnect ⟨2⟩ "gate") = (.reconnected .waiting, s', 0) :=
    Prod.ext (by decide +kernel) (Prod.ext rfl (by decide +kernel))
  have hspecified := only_specified_transitions hs h
  have hrival : Reaches s sink 0 3 (.reconnect ⟨2⟩ "gate") ⟨1⟩ .unauthenticated :=
    .superseded (by decide +kernel) (by decide +kernel)
  exact ⟨hspecified, (hspecified.reached _ _ hrival).2, by decide +kernel⟩

end Sessions

end Lobby
