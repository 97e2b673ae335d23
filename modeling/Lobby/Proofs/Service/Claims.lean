/-
Lobby/Proofs/Service/Claims.lean

Every claim ends once.

A claim that a connection makes while it is logged out ends in one of five ways: it is answered; its
time is over; the connection logs out, or goes; or another connection claims the same token, and takes
it over.  Three of these ways are brought about by somebody else.  Nobody keeps an account of the claims
that are open: a connection has an open claim exactly if its session waits (`waits`).  So in every event
the books must balance (`balanced`), the claim that was open and the one that is made on one side, the
claims that end and the one that is open afterwards on the other; the law for a run is the sum over its
history.

Main result: `every_claim_ends_once`.
-/
import Lobby.Proofs.Service.Deliveries
import Lobby.Proofs.Service.Tokens

namespace Lobby

/-- A response to a claim of a connection. -/
def Delivery.answersClaimOf (c : ConnectionId) : Delivery → Bool
  | .send d (.reconnectResponse _) => d = c
  | _ => false

namespace Service

/-! ### Claims and how they end -/

section

variable {σ : Type} {s s' : Service σ} {c d : ConnectionId}

/-- Whether the session of a connection waits on a token. -/
def waits (s : Service σ) (c : ConnectionId) : Bool :=
  match s.sessions.get? c with
  | some (.awaitingToken _) => true
  | _ => false

/-- A connection claims a token while it is logged out. -/
def claims (c : ConnectionId) : Service σ × Event → Bool
  | (s, .request _ _ d (.reconnect _)) => d = c && s.isLoggedOut d
  | _ => false

/-- A connection that waits logs out, and is told that it has. -/
def givesUp [Backend σ] (c : ConnectionId) : Service σ × Event → Bool
  | (s, .request now draws d .logout) =>
    d = c && s.waits d &&
      (s.queued (.request now draws d .logout)).contains (.send d (.logoutResponse .ok))
  | _ => false

/-- A connection that waits goes. -/
def goes (c : ConnectionId) : Service σ × Event → Bool
  | (s, .disconnect d) => d = c && s.waits d
  | _ => false

/-- Another connection, which is logged out, claims the token that a connection waits on. -/
def isReleased (c : ConnectionId) : Service σ × Event → Bool
  | (s, .request _ _ d (.reconnect t)) =>
    d ≠ c && s.isLoggedOut d && s.sessions.get? c = some (.awaitingToken t)
  | _ => false

theorem waits_of_get? {t : String} (h : s.sessions.get? c = some (.awaitingToken t)) :
    s.waits c = true := by
  simp only [waits, h]

theorem not_waits_of_get? {x : Option Session} (h : s.sessions.get? c = x)
    (hx : ∀ t, x ≠ some (.awaitingToken t)) : s.waits c = false := by
  rw [waits, h]
  split
  · exact absurd rfl (hx _)
  · rfl

theorem waits_congr (h : s'.sessions.get? c = s.sessions.get? c) : s'.waits c = s.waits c := by
  simp only [waits, h]

/-- Whoever is answered waits no longer. -/
theorem not_waits_of_answer {answer : Option AccountId}
    (h : s.sessions.get? c = some (.ofAccount? answer)) : s.waits c = false := by
  refine not_waits_of_get? h ?_
  intro t ht
  exact Sessions.ofAccount?_ne_awaitingToken answer t (Option.some.inj ht)

end

variable {σ : Type} [Backend σ] {s s' : Service σ} {e : Event} {c d : ConnectionId}

/-- The books of one event balance for a connection: the claim that was open and the one that is made
are those that end and the one that is open afterwards. -/
def Balanced (s : Service σ) (e : Event) (c : ConnectionId) : Prop :=
  (if s.waits c then 1 else 0) + (if claims c (s, e) then 1 else 0)
    = (s.queued e).countP (·.answersClaimOf c) + (s.queued e).count (.send c .connectionTimedOut)
      + (if givesUp c (s, e) then 1 else 0) + (if goes c (s, e) then 1 else 0)
      + (if isReleased c (s, e) then 1 else 0) + (if (s.step e).waits c then 1 else 0)

/-! ### What tells of the end of a claim -/

/-- Messages that are not about a claim tell of no end. -/
theorem counts_of_unsettling {ds : List Delivery}
    (h : ∀ x ∈ ds, ∃ d m, x = .send d m ∧ m.settles = false) :
    ds.countP (·.answersClaimOf c) = 0 ∧ ds.count (.send c .connectionTimedOut) = 0 := by
  constructor
  · refine List.countP_eq_zero.mpr ?_
    intro x hx
    obtain ⟨d, m, rfl, hm⟩ := h x hx
    cases m with
    | reconnectResponse => cases hm
    | _ => exact Bool.false_ne_true
  · refine List.count_eq_zero.mpr ?_
    intro hmem
    obtain ⟨d, m, heq, hm⟩ := h _ hmem
    cases heq
    cases hm

/-- An answer to a claim tells of the end of one claim, that of the connection which is answered. -/
theorem counts_of_meeting (status : Status) (infos : List CharacterSummary) (c d : ConnectionId) :
    let ds := (Message.reconnectResponse status :: infos.map .characterInfo).map (Delivery.send d)
    ds.countP (·.answersClaimOf c) = (if d = c then 1 else 0) ∧
      ds.count (.send c .connectionTimedOut) = 0 := by
  intro ds
  have hrest : ∀ x ∈ (infos.map Message.characterInfo).map (Delivery.send d),
      ∃ d m, x = .send d m ∧ m.settles = false := by
    intro x hx
    obtain ⟨m, hm, rfl⟩ := List.mem_map.mp hx
    exact ⟨d, m, rfl, settles_of_mem_infos hm⟩
  obtain ⟨hanswers, hnotices⟩ := counts_of_unsettling (c := c) hrest
  constructor
  · show List.countP _ (Delivery.send d _ :: _) = _
    rw [List.countP_cons, hanswers, Nat.zero_add]
    simp [Delivery.answersClaimOf]
  · show List.count _ (Delivery.send d _ :: _) = _
    rw [List.count_cons_of_ne (by simp), hnotices]

/-- Farewells tell of the ends of the claims whose time is over. -/
theorem counts_of_farewells (xs : List (Expiry ConnectionId HandoffPayload)) (c : ConnectionId) :
    (xs.flatMap Desk.farewell).countP (·.answersClaimOf c) = 0 ∧
      (xs.flatMap Desk.farewell).count (.send c .connectionTimedOut)
        = xs.countP (·.waiting = .claimant c) := by
  induction xs with
  | nil => exact ⟨rfl, rfl⟩
  | cons x xs ih =>
    obtain ⟨hanswers, hnotices⟩ := ih
    rw [List.flatMap_cons, List.countP_append, List.count_append, List.countP_cons, hanswers,
      hnotices]
    obtain ⟨t, d | p⟩ := x
    · by_cases hdc : d = c <;> simp [Desk.farewell, Delivery.answersClaimOf, hdc, Nat.add_comm]
    · simp [Desk.farewell]

/-! ### Requests other than claims -/

/-- Whoever is granted something but a logout waits afterwards if and only if it has waited before. -/
theorem Granted.waits {now : Moment} {draws : List Draw} {r : Request} {ms : List Message}
    (h : Granted s now draws d r s' ms) (hr : r ≠ .logout) (c : ConnectionId) :
    s'.waits c = s.waits c := by
  -- a login takes a session that is logged out to one that is logged in, and neither waits
  have hlogin : ∀ {a : AccountId} {sessions : Sessions HandoffPayload},
      s.sessions.login d a = .ok sessions → s'.sessions = sessions → s'.waits c = s.waits c := by
    intro a sessions hlogin hs'
    obtain ⟨hd, rfl⟩ := Sessions.login_eq hlogin
    have hget := congrArg (·.get? c) hs'
    rw [Sessions.get?_set] at hget
    by_cases hdc : d = c
    · subst hdc
      rw [if_pos rfl] at hget
      rw [not_waits_of_get? hget (by simp), not_waits_of_get? hd (by simp)]
    · rw [if_neg hdc] at hget
      exact waits_congr hget
  have hrewrites : ∀ {a a' : Account}, Rewrites s s' d a a' → s'.waits c = s.waits c :=
    fun h => waits_congr (congrArg (·.get? c) h.sessions)
  cases h with
  | login _ _ _ _ _ hok hs' => exact hlogin hok (by rw [hs'])
  | logout => exact absurd rfl hr
  | register _ _ _ _ _ _ _ hok => exact hlogin hok rfl
  | unregister => rfl
  | emailChange _ _ h => exact hrewrites h
  | emailGet => rfl
  | passwordChange _ _ h => exact hrewrites h
  | characterCreate _ _ _ h => exact hrewrites h
  | characterSelect => exact waits_congr (Sessions.get?_leave ..)
  | characterDelete _ h => exact hrewrites h

/-- Where nothing tells of the end of a claim and nobody begins or ends to wait, the books balance. -/
theorem balanced_of_quiet (hsent : ∀ x ∈ s.queued e, ∃ d m, x = .send d m ∧ m.settles = false)
    (hwaits : (s.step e).waits c = s.waits c) (hclaims : claims c (s, e) = false)
    (hgivesUp : givesUp c (s, e) = false) (hgoes : goes c (s, e) = false)
    (hreleased : isReleased c (s, e) = false) : Balanced s e c := by
  obtain ⟨hanswers, hnotices⟩ := counts_of_unsettling (c := c) hsent
  simp only [Balanced, hanswers, hnotices, hwaits, hclaims, hgivesUp, hgoes, hreleased]
  simp

theorem balanced_logout (now : Moment) (draws : List Draw) (d c : ConnectionId) :
    Balanced s (.request now draws d .logout) c := by
  have hquiet := unsettling_of_queued (s := s) (r := .logout) now draws d (by simp)
  obtain ⟨hanswers, hnotices⟩ :=
    counts_of_unsettling (c := c) fun x hx => ⟨d, hquiet x hx⟩
  rcases s.step_request_cases now draws d (r := .logout) (by simp) with
    ⟨status, hne, hstep, hsent⟩ | ⟨s', ms, hgranted, hstep, hsent⟩
  · -- a refusal is no logout, and everybody waits on
    refine balanced_of_quiet (fun x hx => ⟨d, hquiet x hx⟩) (by rw [hstep]; rfl) rfl ?_ rfl rfl
    have hno : (s.queued (.request now draws d .logout)).contains
        (.send d (.logoutResponse .ok)) = false := by
      rw [hsent]
      simp [Request.response, Ne.symm hne]
    simp only [givesUp, hno, Bool.and_false]
  · cases hgranted with
    | @logout outcome sessions hlogout =>
      have hafter : (s.step (.request now draws d .logout)).sessions.get? c
          = if d = c then some .unauthenticated else s.sessions.get? c := by
        rw [hstep]
        exact Sessions.get?_logout hlogout c
      have htold : (s.queued (.request now draws d .logout)).contains
          (.send d (.logoutResponse .ok)) = true := by
        rw [hsent]
        simp
      simp only [Balanced, claims, goes, isReleased, givesUp, htold, hanswers, hnotices]
      by_cases hdc : d = c
      · subst hdc
        rw [if_pos rfl] at hafter
        rw [not_waits_of_get? hafter (by simp)]
        simp
      · rw [if_neg hdc] at hafter
        rw [waits_congr hafter]
        simp [hdc]

/-! ### Claims -/

theorem balanced_claim (hs : s.sessions.Lockstep) (now : Moment) (draws : List Draw)
    (d : ConnectionId) (t : String) (c : ConnectionId) :
    Balanced s (.request now draws d (.reconnect t)) c := by
  by_cases hd : s.sessions.get? d = some .unauthenticated
  · have hout : s.isLoggedOut d = true := by simp [isLoggedOut, hd]
    rcases hp : s.sessions.rendezvous.payload? t with - | p
    · -- the connection waits from now on, and a rival no longer does
      have hstep := step_claim_of_no_payload hd hp now draws
      have hafter : (s.step (.request now draws d (.reconnect t))).sessions.get? c
          = if d = c then some (.awaitingToken t)
            else if s.sessions.rendezvous.claimant? t = some c then some .unauthenticated
            else s.sessions.get? c := by
        rw [hstep]
        exact Sessions.get?_present hs hd now.steady t c
      have hsent : s.queued (.request now draws d (.reconnect t)) = [] :=
        queued_of_desk (by rw [hstep])
      simp only [Balanced, claims, givesUp, goes, isReleased, hsent, hout, ← hs.awaits c t] at hafter ⊢
      by_cases hdc : d = c
      · subst hdc
        rw [if_pos rfl] at hafter
        rw [waits_of_get? hafter, not_waits_of_get? hd (by simp)]
        simp
      · rw [if_neg hdc] at hafter
        by_cases hrival : s.sessions.get? c = some (.awaitingToken t)
        · rw [if_pos hrival] at hafter
          rw [not_waits_of_get? hafter (by simp), waits_of_get? hrival]
          simp [hdc, hrival]
        · rw [if_neg hrival] at hafter
          rw [waits_congr hafter]
          simp [hdc, hrival]
    · -- the claim is answered in the call; nobody else waits on the token of a payload
      have hstep := step_claim_of_payload hs hd hp now draws
      have hafter : (s.step (.request now draws d (.reconnect t))).sessions.get? c
          = if d = c then some (.ofAccount? (Desk.claimMatched now.calendar d p s.desk).1)
            else s.sessions.get? c := by
        rw [hstep]
        exact Sessions.get?_answered hs hd hp now.steady _ c
      obtain ⟨status, infos, hsent, -⟩ := queued_meeting (s := s)
        (e := .request now draws d (.reconnect t)) d now.calendar p (by rw [hstep])
      obtain ⟨hanswers, hnotices⟩ := counts_of_meeting status infos c d
      have hnone : s.sessions.get? c ≠ some (.awaitingToken t) := by
        rw [Ne, hs.awaits c t, Rendezvous.claimant?_eq_none_of_payload? (by rw [hp]; rfl)]
        simp
      simp only [Balanced, claims, givesUp, goes, isReleased, hsent, hout, hanswers, hnotices, hnone]
      by_cases hdc : d = c
      · subst hdc
        rw [if_pos rfl] at hafter
        rw [not_waits_of_answer hafter, not_waits_of_get? hd (by simp)]
        simp
      · rw [if_neg hdc] at hafter
        rw [waits_congr hafter]
        simp [hdc]
  · have hstep := step_claim_of_not_loggedOut hd now draws t
    have hout : s.isLoggedOut d = false := by simp [isLoggedOut, hd]
    have hsent : s.queued (.request now draws d (.reconnect t)) = [] :=
      queued_of_desk (by rw [hstep])
    refine balanced_of_quiet (by rw [hsent]; exact List.forall_mem_nil _) (by rw [hstep]) ?_ rfl rfl ?_
    · simp only [claims, hout, Bool.and_false]
    · simp only [isReleased, hout, Bool.and_false, Bool.false_and]

theorem balanced_request (hs : s.sessions.Lockstep) (now : Moment) (draws : List Draw)
    (d : ConnectionId) (r : Request) (c : ConnectionId) : Balanced s (.request now draws d r) c := by
  by_cases hclaim : ∃ t, r = .reconnect t
  · obtain ⟨t, rfl⟩ := hclaim
    exact balanced_claim hs now draws d t c
  · by_cases hlogout : r = .logout
    · subst hlogout
      exact balanced_logout now draws d c
    · have hr : ∀ t, r ≠ .reconnect t := fun t ht => hclaim ⟨t, ht⟩
      have hwaits : (s.step (.request now draws d r)).waits c = s.waits c := by
        rcases s.step_request_cases now draws d hr with
          ⟨status, -, hstep, -⟩ | ⟨s', ms, hgranted, hstep, -⟩ <;> rw [hstep]
        · rfl
        · exact hgranted.waits hlogout c
      refine balanced_of_quiet (fun x hx => ⟨d, unsettling_of_queued now draws d hr x hx⟩) hwaits
        ?_ ?_ rfl ?_
      all_goals
        cases r with
        | reconnect t => exact absurd rfl (hr t)
        | logout => exact absurd rfl hlogout
        | _ => rfl

/-! ### Announcements and sweeps -/

theorem balanced_announce (hs : s.sessions.Lockstep) (now : Moment) (t : String) (a : AccountId)
    (c : ConnectionId) : Balanced s (.announce now t a) c := by
  rcases announce_cases hs now t a with ⟨-, hstep⟩ | ⟨d, hd, hstep⟩
  · have hsent : s.queued (.announce now t a) = [] := queued_of_desk (by rw [hstep])
    refine balanced_of_quiet (by rw [hsent]; exact List.forall_mem_nil _) ?_ rfl rfl rfl rfl
    rw [hstep]
    exact waits_congr (Sessions.get?_leave ..)
  · -- the claimant that has waited is answered
    have hafter : (s.step (.announce now t a)).sessions.get? c
        = if d = c then some (.ofAccount? (Desk.claimMatched now.calendar d ⟨a, none⟩ s.desk).1)
          else s.sessions.get? c := by
      rw [hstep]
      exact Sessions.get?_set _ d c _
    obtain ⟨status, infos, hsent, -⟩ := queued_meeting (s := s) (e := .announce now t a) d
      now.calendar ⟨a, none⟩ (by rw [hstep])
    obtain ⟨hanswers, hnotices⟩ := counts_of_meeting status infos c d
    simp only [Balanced, claims, givesUp, goes, isReleased, hsent, hanswers, hnotices]
    by_cases hdc : d = c
    · subst hdc
      rw [if_pos rfl] at hafter
      rw [not_waits_of_answer hafter, waits_of_get? ((hs.awaits d t).mpr hd)]
      simp
    · rw [if_neg hdc] at hafter
      rw [waits_congr hafter]
      simp [hdc]

theorem balanced_sweep (hs : s.sessions.Lockstep) (now : Moment) (c : ConnectionId) :
    Balanced s (.sweep now) c := by
  obtain ⟨hanswers, hnotices⟩ :=
    counts_of_farewells (s.sessions.rendezvous.sweep now.steady).2 c
  obtain ⟨-, -, hreset, hkept⟩ :=
    Sessions.sweep_spec hs (Desk.sink now.calendar) s.desk now.steady
  simp only [Balanced, claims, givesUp, goes, isReleased, queued_sweep hs now, hanswers, hnotices]
  by_cases htold : ∃ x ∈ (s.sessions.rendezvous.sweep now.steady).2, x.waiting = .claimant c
  · obtain ⟨x, hx, hxc⟩ := htold
    have hbefore : s.sessions.get? c = some (.awaitingToken x.token) :=
      Sessions.allWait_swept hs now.steady x hx c hxc
    have hafter : (s.step (.sweep now)).sessions.get? c = some .unauthenticated :=
      hreset x hx c hxc
    rw [Sessions.count_told hs now.steady hx hxc, waits_of_get? hbefore,
      not_waits_of_get? hafter (by simp)]
    simp
  · have hnot : ∀ x ∈ (s.sessions.rendezvous.sweep now.steady).2, x.waiting ≠ .claimant c :=
      fun x hx hxc => htold ⟨x, hx, hxc⟩
    have hafter : (s.step (.sweep now)).sessions.get? c = s.sessions.get? c := hkept c hnot
    rw [List.countP_eq_zero.mpr (by simpa using hnot), waits_congr hafter]
    simp

/-! ### Connections that come and go -/

theorem balanced_connect (d c : ConnectionId) : Balanced s (.connect d) c := by
  refine balanced_of_quiet (by rw [queued_connect]; exact List.forall_mem_nil _) ?_ rfl rfl rfl rfl
  rcases h : s.sessions.connect d with x | sessions <;> simp only [step, Service.connect, h]
  · rfl
  · -- a new session takes nobody's place
    obtain ⟨hd, rfl⟩ := Sessions.connect_eq h
    have hget := Sessions.get?_set s.sessions d c .unauthenticated
    by_cases hdc : d = c
    · subst hdc
      rw [if_pos rfl] at hget
      exact (not_waits_of_get? hget (by simp)).trans (not_waits_of_get? hd (by simp)).symm
    · rw [if_neg hdc] at hget
      exact waits_congr hget

theorem balanced_disconnect (d c : ConnectionId) : Balanced s (.disconnect d) c := by
  have hsent : s.queued (.disconnect d) = [] := queued_of_desk rfl
  have hafter : (s.step (.disconnect d)).sessions.get? c
      = if d = c then none else s.sessions.get? c := Sessions.get?_disconnect s.sessions d c
  simp only [Balanced, claims, givesUp, goes, isReleased, hsent]
  by_cases hdc : d = c
  · subst hdc
    rw [if_pos rfl] at hafter
    rw [not_waits_of_get? hafter (by simp)]
    simp
  · rw [if_neg hdc] at hafter
    rw [waits_congr hafter]
    simp [hdc]

/-! ### Every event -/

/-- **The books of every event balance.** -/
theorem balanced (hs : s.sessions.Lockstep) (e : Event) (c : ConnectionId) : Balanced s e c := by
  -- what is neither a request nor about a token leaves the sessions to themselves
  have hidle : (∀ now draws d r, e ≠ .request now draws d r) → (∀ now t a, e ≠ .announce now t a) →
      (∀ now, e ≠ .sweep now) → (∀ d, e ≠ .disconnect d) →
      (s.step e).sessions = s.sessions → Balanced s e c := by
    intro hrequest hannounce hsweep hdisconnect hsessions
    refine balanced_of_quiet (unsettling_of_idle hrequest hannounce hsweep)
      (waits_congr (by rw [hsessions])) ?_ ?_ ?_ ?_
    all_goals
      cases e with
      | request now draws d r => exact absurd rfl (hrequest now draws d r)
      | disconnect d => exact absurd rfl (hdisconnect d)
      | _ => rfl
  cases e with
  | request now draws d r => exact balanced_request hs now draws d r c
  | connect d => exact balanced_connect d c
  | disconnect d => exact balanced_disconnect d c
  | announce now t a => exact balanced_announce hs now t a c
  | sweep now => exact balanced_sweep hs now c
  | invalid | collect | edit | host => exact hidle (by simp) (by simp) (by simp) (by simp) rfl

/-! ### Whose time is over -/

/-- Nobody is told that its time is over, and nobody is cut off, but in a sweep. -/
theorem no_farewell (hs : s.sessions.Lockstep) (hsweep : ∀ now, e ≠ .sweep now) :
    ∀ x ∈ s.queued e, ∃ d m, x = .send d m ∧ m ≠ .connectionTimedOut := by
  have hunsettling : (∀ x ∈ s.queued e, ∃ d m, x = .send d m ∧ m.settles = false) →
      ∀ x ∈ s.queued e, ∃ d m, x = .send d m ∧ m ≠ .connectionTimedOut := by
    intro h x hx
    obtain ⟨d, m, hxm, hm⟩ := h x hx
    refine ⟨d, m, hxm, ?_⟩
    rintro rfl
    cases hm
  have hmeeting : ∀ d on p, (s.step e).desk = (Desk.claimMatched on d p s.desk).2 →
      ∀ x ∈ s.queued e, ∃ d m, x = .send d m ∧ m ≠ .connectionTimedOut := by
    intro d on p hdesk x hx
    obtain ⟨status, infos, hsent, -⟩ := queued_meeting d on p hdesk
    rw [hsent] at hx
    obtain ⟨m, hm, rfl⟩ := List.mem_map.mp hx
    refine ⟨d, m, rfl, ?_⟩
    rintro rfl
    rcases List.mem_cons.mp hm with h | h
    · cases h
    · exact absurd (settles_of_mem_infos h) (by simp [Message.settles])
  have hsilent : (s.step e).desk = s.desk →
      ∀ x ∈ s.queued e, ∃ d m, x = .send d m ∧ m ≠ .connectionTimedOut := by
    intro hdesk
    rw [queued_of_desk hdesk]
    exact List.forall_mem_nil _
  cases e with
  | request now draws d r =>
    by_cases hclaim : ∃ t, r = .reconnect t
    · obtain ⟨t, rfl⟩ := hclaim
      rcases claim_cases hs now draws d t with hstep | ⟨-, -, hstep⟩ | ⟨p, -, -, hstep⟩
      · exact hsilent (by rw [hstep])
      · exact hsilent (by rw [hstep])
      · exact hmeeting d now.calendar p (by rw [hstep])
    · exact hunsettling fun x hx =>
        ⟨d, unsettling_of_queued now draws d (fun t ht => hclaim ⟨t, ht⟩) x hx⟩
  | announce now t a =>
    rcases announce_cases hs now t a with ⟨-, hstep⟩ | ⟨d, -, hstep⟩
    · exact hsilent (by rw [hstep])
    · exact hmeeting d now.calendar ⟨a, none⟩ (by rw [hstep])
  | sweep now => exact absurd rfl (hsweep now)
  | invalid | connect | disconnect | collect | edit | host =>
    exact hunsettling (unsettling_of_idle (by simp) (by simp) (by simp))

/-- In a row of farewells the end of a connection comes right behind its notice. -/
theorem end_behind_notice {xs : List (Expiry ConnectionId HandoffPayload)} {i : Nat}
    (h : (xs.flatMap Desk.farewell)[i]? = some (.send c .connectionTimedOut)) :
    (xs.flatMap Desk.farewell)[i + 1]? = some (.disconnect c "reconnect token timed out") := by
  induction xs generalizing i with
  | nil => cases h
  | cons x xs ih =>
    obtain ⟨t, d | p⟩ := x
    · change (Delivery.send d .connectionTimedOut :: .disconnect d _ :: xs.flatMap _)[i]? = _ at h
      match i with
      | 0 =>
        cases h
        rfl
      | 1 => cases h
      | i + 2 => exact ih h
    · exact ih h

/-- In a row of farewells the notice comes right before the end of a connection. -/
theorem notice_before_end {xs : List (Expiry ConnectionId HandoffPayload)} {i : Nat}
    {reason : String} (h : (xs.flatMap Desk.farewell)[i]? = some (.disconnect c reason)) :
    ∃ j, i = j + 1 ∧ (xs.flatMap Desk.farewell)[j]? = some (.send c .connectionTimedOut) := by
  induction xs generalizing i with
  | nil => cases h
  | cons x xs ih =>
    obtain ⟨t, d | p⟩ := x
    · change (Delivery.send d .connectionTimedOut :: .disconnect d _ :: xs.flatMap _)[i]? = _ at h
      match i with
      | 0 => cases h
      | 1 =>
        cases h
        exact ⟨0, rfl, rfl⟩
      | i + 2 =>
        obtain ⟨j, rfl, hj⟩ := ih h
        exact ⟨j + 2, rfl, hj⟩
    · exact ih h

/-- A connection whose time is over is cut off, as the next thing that is queued: it has waited on a
token, and afterwards it is logged out, and nobody waits on the token. -/
structure CutOff (s : Service σ) (e : Event) (c : ConnectionId) (i : Nat) : Prop where
  next : (s.queued e)[i + 1]? = some (.disconnect c "reconnect token timed out")
  waited : ∃ t, s.sessions.get? c = some (.awaitingToken t) ∧
    (s.step e).sessions.rendezvous.entries.get? t = none
  loggedOut : (s.step e).sessions.get? c = some .unauthenticated
  onNoToken : (s.step e).sessions.rendezvous.tokenOf? c = none

/-- Whoever is told that its time is over is cut off. -/
theorem cutOff_of_notice (hs : s.sessions.Lockstep) {i : Nat}
    (h : (s.queued e)[i]? = some (.send c .connectionTimedOut)) : CutOff s e c i := by
  by_cases hsweep : ∃ now, e = .sweep now
  · obtain ⟨now, rfl⟩ := hsweep
    have hnext := h
    rw [queued_sweep hs] at hnext
    have hfarewell := List.mem_of_getElem? hnext
    obtain ⟨⟨t, w⟩, hx, hmem⟩ := List.mem_flatMap.mp hfarewell
    have hw : w = .claimant c := by
      rcases w with d | p
      · simp [Desk.farewell] at hmem
        rw [hmem]
      · cases hmem
    subst hw
    obtain ⟨-, -, hreset, -⟩ :=
      Sessions.sweep_spec hs (Desk.sink now.calendar) s.desk now.steady
    have hafter : (s.step (.sweep now)).sessions.get? c = some .unauthenticated :=
      hreset _ hx c rfl
    refine ⟨?_, ⟨t, Sessions.allWait_swept hs now.steady _ hx c rfl, ?_⟩, hafter, ?_⟩
    · rw [queued_sweep hs]
      exact end_behind_notice hnext
    · -- the entry of the token is overdue, so that the sweep takes it away
      obtain ⟨since, hentry, hover⟩ := (Rendezvous.mem_sweep_iff ..).mp hx
      have hswept : (s.step (.sweep now)).sessions.rendezvous
          = (s.sessions.rendezvous.sweep now.steady).1 :=
        Sessions.rendezvous_sweep hs (Desk.sink now.calendar) s.desk now.steady
      rw [hswept, Rendezvous.get?_sweep, hentry, Option.filter_some, hover]
      rfl
    · exact (lockstep_step hs _).tokenOf?_eq_none (Sessions.not_awaiting hafter (by simp))
  · obtain ⟨d, m, heq, hm⟩ := no_farewell hs (fun now he => hsweep ⟨now, he⟩) _
      (List.mem_of_getElem? h)
    cases heq
    exact absurd rfl hm

/-- Nobody is cut off but whose time is over. -/
theorem notice_of_end (hs : s.sessions.Lockstep) {i : Nat} {reason : String}
    (h : (s.queued e)[i]? = some (.disconnect c reason)) :
    ∃ j, i = j + 1 ∧ (s.queued e)[j]? = some (.send c .connectionTimedOut) := by
  by_cases hsweep : ∃ now, e = .sweep now
  · obtain ⟨now, rfl⟩ := hsweep
    rw [queued_sweep hs] at h ⊢
    exact notice_before_end h
  · obtain ⟨d, m, heq, -⟩ := no_farewell hs (fun now he => hsweep ⟨now, he⟩) _
      (List.mem_of_getElem? h)
    cases heq

/-! ### Runs -/

/-- The books of a run balance. -/
theorem balanced_run (hs : s.sessions.Lockstep) (events : List Event) (c : ConnectionId) :
    (if s.waits c then 1 else 0) + (history step s events).countP (claims c)
      = (s.deliveries events).countP (·.answersClaimOf c)
        + (s.deliveries events).count (.send c .connectionTimedOut)
        + (history step s events).countP (givesUp c) + (history step s events).countP (goes c)
        + (history step s events).countP (isReleased c)
        + (if (s.run events).waits c then 1 else 0) := by
  induction events generalizing s with
  | nil =>
    rw [run_nil]
    simp [history, deliveries]
  | cons e events ih =>
    have hevent : Balanced s e c := balanced hs e c
    have hrest := ih (lockstep_step hs e)
    rw [run_cons]
    simp only [Balanced] at hevent
    simp only [history, List.countP_cons, deliveries_cons, List.countP_append, List.count_append]
    omega

/-- **Every claim ends once, and in one way that can be told.**  A service is started over any store
whatever.  After any events, and for every connection:

* the claims that it has made while it was logged out are as many as the responses to claims that were
  queued for it, the notices that its time was over, its logouts while it waited, its ends while it
  waited, and the claims of other connections that released it, and one more if it waits now;
* whoever is told that its time is over is cut off next, logged out, and on no token;
* nobody is cut off for anything else;
* a claim of a connection that is not logged out queues nothing and changes nothing. -/
theorem every_claim_ends_once (config : AccountConfig) (rendezvous : RendezvousConfig) (storage : σ)
    (servers : MapTable) (events : List Event) (c : ConnectionId) :
    let start := create config rendezvous storage servers
    let past := history step start events
    let sent := start.deliveries events
    past.countP (claims c)
        = sent.countP (·.answersClaimOf c) + sent.count (.send c .connectionTimedOut)
          + past.countP (givesUp c) + past.countP (goes c) + past.countP (isReleased c)
          + (if (start.run events).waits c then 1 else 0) ∧
      (∀ x ∈ past, ∀ i, (x.1.queued x.2)[i]? = some (.send c .connectionTimedOut) →
        CutOff x.1 x.2 c i) ∧
      (∀ x ∈ past, ∀ i reason, (x.1.queued x.2)[i]? = some (.disconnect c reason) →
        ∃ j, i = j + 1 ∧ (x.1.queued x.2)[j]? = some (.send c .connectionTimedOut)) ∧
      ∀ s now draws t, (s, .request now draws c (.reconnect t)) ∈ past →
        s.sessions.get? c ≠ some .unauthenticated →
        s.step (.request now draws c (.reconnect t)) = s := by
  intro start past sent
  have hstart : start.sessions.Lockstep := Sessions.lockstep_empty _
  have hpast : ∀ x ∈ past, x.1.sessions.Lockstep :=
    history_induction (P := fun s : Service σ => s.sessions.Lockstep) hstart
      fun s e hs => lockstep_step hs e
  have hbooks := balanced_run hstart events c
  have hidle : start.waits c = false := rfl
  rw [hidle] at hbooks
  refine ⟨?_, ?_, ?_, ?_⟩
  · simpa using hbooks
  · intro x hx i h
    exact cutOff_of_notice (hpast x hx) h
  · intro x hx i reason h
    exact notice_of_end (hpast x hx) h
  · intro s now draws t _ hc
    exact step_claim_of_not_loggedOut hc now draws t

/-- A connection claims six tokens, one after the other: it is released by a rival, gives up, is answered,
is told that its time is over, goes and comes again, and waits. -/
theorem six_claims_end_in_six_ways :
    let dawn : Timestamp := ⟨0, 0, by decide, by decide⟩
    let claim (n : Nat) (c : ConnectionId) (t : String) : Event :=
      .request ⟨n, dawn⟩ [] c (.reconnect t)
    let start := create .standard .standard Storage.empty .empty
    let events : List Event :=
      [.connect ⟨5⟩, .connect ⟨6⟩, claim 1 ⟨5⟩ "oak", claim 2 ⟨6⟩ "oak", claim 3 ⟨5⟩ "elm",
        .request ⟨4, dawn⟩ [] ⟨5⟩ .logout, claim 5 ⟨5⟩ "ash", .announce ⟨6, dawn⟩ "ash" ⟨1⟩,
        claim 7 ⟨5⟩ "fir", .sweep ⟨30000000008, dawn⟩, claim 30000000009 ⟨5⟩ "yew",
        .disconnect ⟨5⟩, .connect ⟨5⟩, claim 30000000010 ⟨5⟩ "bay"]
    let past := history step start events
    let sent := start.deliveries events
    past.countP (claims ⟨5⟩) = 6 ∧ sent.countP (·.answersClaimOf ⟨5⟩) = 1 ∧
      sent.count (.send ⟨5⟩ .connectionTimedOut) = 1 ∧ past.countP (givesUp ⟨5⟩) = 1 ∧
      past.countP (goes ⟨5⟩) = 1 ∧ (start.run events).waits ⟨5⟩ = true ∧
      past.countP (isReleased ⟨5⟩) = 1 := by
  intro dawn claim start events past sent
  obtain ⟨hbooks, -, -, -⟩ :=
    every_claim_ends_once .standard .standard Storage.empty .empty events ⟨5⟩
  have hclaims : past.countP (claims ⟨5⟩) = 6 := by decide +kernel
  have hanswers : sent.countP (·.answersClaimOf ⟨5⟩) = 1 := by decide +kernel
  have hnotices : sent.count (.send ⟨5⟩ .connectionTimedOut) = 1 := by decide +kernel
  have hgivesUp : past.countP (givesUp ⟨5⟩) = 1 := by decide +kernel
  have hgoes : past.countP (goes ⟨5⟩) = 1 := by decide +kernel
  have hwaits : (start.run events).waits ⟨5⟩ = true := by decide +kernel
  refine ⟨hclaims, hanswers, hnotices, hgivesUp, hgoes, hwaits, ?_⟩
  -- the books leave one claim for the rival
  change past.countP (claims ⟨5⟩) = sent.countP _ + sent.count _ + past.countP _ + past.countP _
    + past.countP _ + (if (start.run events).waits ⟨5⟩ then 1 else 0) at hbooks
  rw [hclaims, hanswers, hnotices, hgivesUp, hgoes, hwaits] at hbooks
  simp at hbooks
  omega

end Service

end Lobby
