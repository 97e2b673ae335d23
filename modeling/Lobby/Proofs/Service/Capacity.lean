/-
Lobby/Proofs/Service/Capacity.lean

How many sessions are logged in at once.

The settings have a greatest number of sessions that may be logged in, and only a login with credentials
looks at it.  Whoever registers, or comes with a token that a payload waits on, is admitted without
being counted; each of them is told so in a response, and those responses are what is left to bound the
number by (`authenticatedCount_step`, `full_service_is_exceeded_by_admissions_only`).  The bound itself
is exceeded (`registration_exceeds_the_limit`).
-/
import Lobby.Proofs.Service.Deliveries
import Lobby.Proofs.Session.Count

namespace Lobby

/-- A delivery admits a session that nobody has counted: it tells the success of a registration or of a
claim. -/
def Delivery.admits : Delivery → Bool
  | send _ (.registerResponse .ok) => true
  | send _ (.reconnectResponse .ok) => true
  | _ => false

namespace Service

variable {σ : Type} [Backend σ] {s s' : Service σ} {e : Event}

/-- How many sessions may be logged in. -/
def limit (s : Service σ) : Nat := s.config.maxClients.toNat

/-! ### The settings -/

/-- What is granted leaves the settings. -/
theorem Granted.config {now : Moment} {draws : List Draw} {c : ConnectionId} {r : Request}
    {ms : List Message} (h : Granted s now draws c r s' ms) : s'.config = s.config := by
  cases h with
  | login _ _ _ _ _ _ hs' => rw [hs']
  | emailChange _ _ h => exact h.config
  | passwordChange _ _ h => exact h.config
  | characterCreate _ _ _ h => exact h.config
  | characterDelete _ h => exact h.config
  | _ => rfl

/-- No event changes the settings. -/
theorem config_step (s : Service σ) (e : Event) : (s.step e).config = s.config := by
  cases e with
  | request now draws c r =>
    by_cases hr : ∃ t, r = .reconnect t
    · obtain ⟨t, rfl⟩ := hr
      simp only [step, handle]
      split <;> rfl
    · rcases s.step_request_cases now draws c fun t ht => hr ⟨t, ht⟩ with
        ⟨status, -, hstep, -⟩ | ⟨s', ms, hgranted, hstep, -⟩ <;> rw [hstep]
      · rfl
      · exact hgranted.config
  | connect c =>
    rcases h : s.sessions.connect c with x | sessions <;> simp only [step, Service.connect, h] <;> rfl
  | _ => rfl

/-- No run changes the settings. -/
theorem config_run (s : Service σ) (events : List Event) : (s.run events).config = s.config := by
  induction events generalizing s with
  | nil => rfl
  | cons e events ih => exact (ih (s.step e)).trans (config_step s e)

/-! ### One event -/

/-- What has not grown has not grown beyond a limit. -/
theorem le_max_add {n m l k : Nat} (h : n ≤ m) : n ≤ max m l + k :=
  Nat.le_add_right_of_le (Nat.le_trans h (Nat.le_max_left m l))

/-- A request that is granted logs in one session more within the limit, or tells of its admission. -/
theorem Granted.authenticatedCount {now : Moment} {draws : List Draw} {c : ConnectionId} {r : Request}
    {ms : List Message} (h : Granted s now draws c r s' ms) :
    s'.sessions.authenticatedCount
      ≤ max s.sessions.authenticatedCount s.limit + (ms.map (.send c)).countP Delivery.admits := by
  have hrewrites : ∀ {a a' : Account}, Rewrites s s' c a a' →
      s'.sessions.authenticatedCount ≤ s.sessions.authenticatedCount :=
    fun h => Nat.le_of_eq (congrArg _ h.sessions)
  cases h with
  | login _ _ hroom _ _ hlogin hs' =>
    -- there has been room for one more
    have hlt : s.sessions.authenticatedCount < s.limit :=
      Nat.lt_of_not_le (of_decide_eq_false hroom)
    rw [hs']
    refine Nat.le_add_right_of_le (Nat.le_trans ?_ (Nat.le_max_right ..))
    exact Nat.le_trans (Sessions.authenticatedCount_login hlogin) hlt
  | register _ _ _ _ _ _ _ hlogin =>
    -- nobody has looked whether there is room
    refine Nat.le_trans (Sessions.authenticatedCount_login hlogin) ?_
    exact Nat.add_le_add_right (Nat.le_max_left ..) 1
  | logout hlogout => exact le_max_add (Sessions.authenticatedCount_logout hlogout)
  | unregister => exact le_max_add (Nat.le_refl _)
  | emailGet => exact le_max_add (Nat.le_refl _)
  | characterSelect => exact le_max_add (Nat.le_refl _)
  | emailChange _ _ h => exact le_max_add (hrewrites h)
  | passwordChange _ _ h => exact le_max_add (hrewrites h)
  | characterCreate _ _ _ h => exact le_max_add (hrewrites h)
  | characterDelete _ h => exact le_max_add (hrewrites h)

/-- A meeting logs in one session more exactly if it tells of its admission. -/
theorem authenticatedCount_meeting (sessions : Sessions HandoffPayload) {c : ConnectionId}
    {on : Timestamp} {p : HandoffPayload}
    (hsessions : (s.step e).sessions
      = sessions.set c (.ofAccount? (Desk.claimMatched on c p s.desk).1))
    (hcount : sessions.authenticatedCount ≤ s.sessions.authenticatedCount)
    (hdesk : (s.step e).desk = (Desk.claimMatched on c p s.desk).2) :
    (s.step e).sessions.authenticatedCount
      ≤ s.sessions.authenticatedCount + (s.queued e).countP Delivery.admits := by
  obtain ⟨status, infos, hqueued, hok⟩ := queued_meeting c on p hdesk
  have hanswer : (Desk.claimMatched on c p s.desk).1.toList.length
      ≤ (s.queued e).countP Delivery.admits := by
    rw [hqueued]
    rcases hanswer : (Desk.claimMatched on c p s.desk).1 with - | a
    · exact Nat.zero_le _
    · obtain rfl : status = .ok := hok.mpr (by rw [hanswer]; rfl)
      exact Nat.le_trans (Nat.le_add_left 1 _) (Nat.le_of_eq (List.countP_cons_of_pos rfl).symm)
  rw [hsessions]
  exact Nat.le_trans (Sessions.authenticatedCount_answered sessions c _)
    (Nat.add_le_add hcount hanswer)

/-- **An event logs in one session more only within the limit, or it tells of an admission.** -/
theorem authenticatedCount_step (hs : s.sessions.Lockstep) (e : Event) :
    (s.step e).sessions.authenticatedCount
      ≤ max s.sessions.authenticatedCount s.limit + (s.queued e).countP Delivery.admits := by
  have hmet : (s.step e).sessions.authenticatedCount
        ≤ s.sessions.authenticatedCount + (s.queued e).countP Delivery.admits →
      (s.step e).sessions.authenticatedCount
        ≤ max s.sessions.authenticatedCount s.limit + (s.queued e).countP Delivery.admits :=
    fun h => Nat.le_trans h (Nat.add_le_add_right (Nat.le_max_left ..) _)
  cases e with
  | request now draws c r =>
    by_cases hr : ∃ t, r = .reconnect t
    · obtain ⟨t, rfl⟩ := hr
      have hpresent := Sessions.authenticatedCount_present s.sessions now.steady c t
      rcases claim_cases hs now draws c t with heq | ⟨-, -, heq⟩ | ⟨p, -, -, heq⟩
      · exact le_max_add (Nat.le_of_eq (congrArg (·.sessions.authenticatedCount) heq))
      · refine le_max_add ?_
        rw [heq]
        exact hpresent
      · exact hmet (authenticatedCount_meeting _ (by rw [heq]) hpresent (by rw [heq]))
    · rcases s.step_request_cases now draws c fun t ht => hr ⟨t, ht⟩ with
        ⟨status, -, hstep, -⟩ | ⟨s', ms, hgranted, hstep, hsent⟩
      · refine le_max_add ?_
        rw [hstep]
        exact Nat.le_refl _
      · rw [hstep, hsent]
        exact hgranted.authenticatedCount
  | invalid c => exact le_max_add (Nat.le_refl _)
  | connect c =>
    refine le_max_add ?_
    rcases h : s.sessions.connect c with x | sessions <;> simp only [step, Service.connect, h]
    · exact Nat.le_refl _
    · exact Sessions.authenticatedCount_connect h
  | disconnect c => exact le_max_add (Sessions.authenticatedCount_disconnect s.sessions c)
  | announce now t a =>
    rcases announce_cases hs now t a with ⟨-, heq⟩ | ⟨c, -, heq⟩
    · refine le_max_add ?_
      rw [heq]
      exact Nat.le_refl _
    · exact hmet (authenticatedCount_meeting (s.sessions.leave now.steady t ⟨a, none⟩) (by rw [heq])
        (Nat.le_refl _) (by rw [heq]))
  | sweep now => exact le_max_add (Sessions.authenticatedCount_sweep s.sessions _ s.desk now.steady)
  | collect => exact le_max_add (Nat.le_refl _)
  | edit x => exact le_max_add (Nat.le_refl _)
  | host servers => exact le_max_add (Nat.le_refl _)

/-! ### Runs -/

/-- In a run the number of sessions that are logged in grows beyond the limit by no more than are
admitted. -/
theorem authenticatedCount_run (hs : s.sessions.Lockstep) (events : List Event) :
    (s.run events).sessions.authenticatedCount
      ≤ max s.sessions.authenticatedCount s.limit
        + (s.deliveries events).countP Delivery.admits := by
  induction events generalizing s with
  | nil => exact Nat.le_add_right_of_le (Nat.le_max_left ..)
  | cons e events ih =>
    have hstep := authenticatedCount_step hs e
    have hrest := ih (lockstep_step hs e)
    -- the limit is the same all along, so that each event adds to the one before
    have hlimit : (s.step e).limit = s.limit := congrArg (·.maxClients.toNat) (config_step s e)
    rw [run_cons, deliveries_cons, List.countP_append]
    omega

/-- **Only registrations and claims exceed the limit.**  From a service without sessions, whatever
happens to it, as many sessions are logged in as the settings allow and as have been admitted besides;
and whenever an event logs in a session beyond the limit, it tells it of the success of a registration or
of a claim.  So the limit holds as long as nobody is told so. -/
theorem full_service_is_exceeded_by_admissions_only (hs : s.sessions.Lockstep)
    (hnone : ∀ c, s.sessions.get? c = none) (events : List Event) :
    (s.run events).sessions.authenticatedCount
        ≤ s.config.maxClients.toNat + (s.deliveries events).countP Delivery.admits ∧
      ∀ x ∈ history step s events,
        s.config.maxClients.toNat < (x.1.step x.2).sessions.authenticatedCount →
        x.1.sessions.authenticatedCount < (x.1.step x.2).sessions.authenticatedCount →
        ∃ d ∈ x.1.queued x.2, d.admits = true := by
  refine ⟨?_, ?_⟩
  · have hrun := authenticatedCount_run hs events
    rwa [Sessions.authenticatedCount_of_none hnone, Nat.zero_max] at hrun
  · intro x hx hfull hmore
    have hinv : x.1.sessions.Lockstep ∧ x.1.config = s.config :=
      history_induction (P := fun s' => s'.sessions.Lockstep ∧ s'.config = s.config) ⟨hs, rfl⟩
        (fun s' e h => ⟨lockstep_step h.1 e, (config_step s' e).trans h.2⟩) x hx
    -- one session more, and not within the limit: something is queued that admits
    have hstep := authenticatedCount_step hinv.1 x.2
    have hlimit : x.1.limit = s.config.maxClients.toNat := congrArg (·.maxClients.toNat) hinv.2
    refine List.countP_pos_iff.mp ?_
    omega

/-- One session may be logged in, and three are: the second one was announced and has claimed, the third
one has registered. -/
theorem two_are_admitted_beyond_one :
    let dawn : Timestamp := ⟨0, 0, by decide, by decide⟩
    let ann : Account := .create "ann" "secret" "ann@example.net" dawn
    let config : AccountConfig := { AccountConfig.standard with maxClients := 1 }
    let start := create config .standard (Storage.ofEdits [.add ann]) .empty
    let events : List Event :=
      [.connect ⟨5⟩, .connect ⟨6⟩, .connect ⟨7⟩,
        .request ⟨1, dawn⟩ [] ⟨5⟩ (.login 1 "ann" "secret"),
        .request ⟨2, dawn⟩ [] ⟨6⟩ (.reconnect "gate"), .announce ⟨3, dawn⟩ "gate" ⟨1⟩,
        .request ⟨4, dawn⟩ [] ⟨7⟩ (.register 1 "carol" "hunter22" "carol@example.net")]
    (start.run events).sessions.authenticatedCount = 3 ∧
      (start.deliveries events).countP Delivery.admits = 2 ∧
      3 ≤ 1 + (start.deliveries events).countP Delivery.admits := by
  intro dawn ann config start events
  have hthree : (start.run events).sessions.authenticatedCount = 3 := by decide +kernel
  have htwo : (start.deliveries events).countP Delivery.admits = 2 := by decide +kernel
  have hlock : start.sessions.Lockstep := Sessions.lockstep_empty _
  have hnone : ∀ c, start.sessions.get? c = none := fun _ => rfl
  have hbound := (full_service_is_exceeded_by_admissions_only hlock hnone events).1
  rw [hthree] at hbound
  exact And.intro hthree (And.intro htwo hbound)

/-- The limit does not hold: after one client has logged in and another one has registered, two are
logged in where one may be. -/
theorem registration_exceeds_the_limit :
    ¬ ∀ (config : AccountConfig) (rendezvous : RendezvousConfig) (storage : Storage)
      (servers : MapTable) (events : List Event),
      ((create config rendezvous storage servers).run events).sessions.authenticatedCount
        ≤ config.maxClients.toNat := by
  let dawn : Timestamp := ⟨0, 0, by decide, by decide⟩
  let alice : Account := .create "alice" "secret" "alice@example.net" dawn
  let config : AccountConfig := { AccountConfig.standard with maxClients := 1 }
  let events : List Event :=
    [.connect ⟨1⟩, .connect ⟨2⟩, .request ⟨1, dawn⟩ [] ⟨1⟩ (.login 1 "alice" "secret"),
      .request ⟨2, dawn⟩ [] ⟨2⟩ (.register 1 "carol" "hunter22" "carol@example.net")]
  have htwo : ((create config .standard (Storage.ofEdits [.add alice]) .empty).run
      events).sessions.authenticatedCount = 2 := by decide +kernel
  intro hall
  have hone : config.maxClients.toNat = 1 := rfl
  have hbound := hall config .standard (Storage.ofEdits [.add alice]) .empty events
  rw [htwo, hone] at hbound
  exact absurd hbound (by decide)

end Service

end Lobby
