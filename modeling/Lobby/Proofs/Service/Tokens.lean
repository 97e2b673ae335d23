/-
Lobby/Proofs/Service/Tokens.lean

Who comes to a token, and what stays there.

Seen from one connection or from one token, an event does one of a few things, each with what brought
it about (`sessionChange`, `tokenChange`).  So a session waits on a token only since its own connection
presented it (`presents_of_step`), and a payload waits on a token only since another server announced
it or somebody selected a character (`leaves_of_step`).
-/
import Lobby.Proofs.Service.Run

namespace Lobby

namespace Service

variable {σ : Type} [Backend σ] {s : Service σ} {c : ConnectionId} {t : String}
  {p : HandoffPayload} {e : Event}

/-! ### Arriving -/

/-- A connection presents a token. -/
inductive Presents (c : ConnectionId) (t : String) : Event → Prop where
  | claim {now : Moment} {draws : List Draw} :
      Presents c t (.request now draws c (.reconnect t))

/-- A payload is left on a token: another server announces a client of an account, or somebody who
is logged in as the account selects a character and the token is the ticket's. -/
inductive Leaves (s : Service σ) (t : String) : HandoffPayload → Event → Prop where
  | announced {now : Moment} {a : AccountId} : Leaves s t ⟨a, none⟩ (.announce now t a)
  | selected {now : Moment} {draws : List Draw} {d : ConnectionId} {slot : UInt8} {a : AccountId}
      {character : Option String} :
      s.sessions.get? d = some (.authenticated a) →
      s.sessions.rendezvous.freshToken? draws = some t →
      Leaves s t ⟨a, character⟩ (.request now draws d (.characterSelect slot))

/-- What is selected is for the account that the connection is logged in as. -/
theorem holder_of_select {d : Desk σ} {x : Sessions HandoffPayload} {slot : UInt8}
    {chosen : Desk.Selection} (h : d.select x c slot = .ok chosen) :
    x.get? c = some (.authenticated chosen.holder) :=
  (Desk.select_eq_ok_iff.mp h).session

/-! ### What an event means for one session -/

/-- The ways in which the session of a connection comes out of an event. -/
inductive SessionChange (s s' : Service σ) (e : Event) (c : ConnectionId) : Prop where
  | kept : s'.sessions.get? c = s.sessions.get? c → SessionChange s s' e c
  /-- The session is logged out, or gone. -/
  | ended : (∀ x, s'.sessions.get? c = some x → x = .unauthenticated) → SessionChange s s' e c
  | login {now : Moment} {draws : List Draw} {clientVersion : UInt32}
      {username password : String} {a : Account} :
      e = .request now draws c (.login clientVersion username password) →
      Backend.verify s.desk.storage username password = some a → a.isBanned = false →
      s'.sessions.get? c = some (.authenticated a.id) → SessionChange s s' e c
  | register {now : Moment} {draws : List Draw} {clientVersion : UInt32}
      {username password email : String} {id : AccountId} :
      e = .request now draws c (.register clientVersion username password email) →
      Backend.add s.desk.storage (Account.create username password email now.calendar)
        = .ok (id, s'.desk.storage) →
      s'.sessions.get? c = some (.authenticated id) → SessionChange s s' e c
  | waits {t : String} :
      Presents c t e → s'.sessions.get? c = some (.awaitingToken t) → SessionChange s s' e c
  /-- The connection's claim meets a payload that waits. -/
  | claimed {t : String} {p : HandoffPayload} {now : Timestamp} :
      Presents c t e → s.sessions.rendezvous.payload? t = some p →
      s'.sessions.get? c = some (.ofAccount? (Desk.claimMatched now c p s.desk).1) →
      SessionChange s s' e c
  /-- A payload comes to the token that the session waits on. -/
  | answered {t : String} {p : HandoffPayload} {now : Timestamp} :
      s.sessions.get? c = some (.awaitingToken t) → Leaves s t p e →
      s'.sessions.get? c = some (.ofAccount? (Desk.claimMatched now c p s.desk).1) →
      SessionChange s s' e c

/-- Where one session is updated, only the connection that has it needs to be looked at. -/
theorem SessionChange.of_update {s' : Service σ} {c' : ConnectionId} {x : Option Session}
    (h : s'.sessions.get? c = if c' = c then x else s.sessions.get? c)
    (hself : c' = c → s'.sessions.get? c = x → SessionChange s s' e c) :
    SessionChange s s' e c := by
  split at h
  · rename_i hcc
    exact hself hcc h
  · exact .kept h

/-- The session of a connection comes out of every event in one of these ways. -/
theorem sessionChange (hs : s.sessions.Lockstep) (e : Event) (c : ConnectionId) :
    SessionChange s (s.step e) e c := by
  generalize hs' : s.step e = s'
  have hmoves := (stepped hs e).moves
  rw [hs'] at hmoves
  -- but for a claim with a rival, a move updates one session: this one or another one
  cases hmoves with
  | kept heq => exact .kept (by rw [heq])
  | @connect c' hconnect =>
    obtain ⟨-, heq⟩ := Sessions.connect_eq hconnect
    have hupdate := Sessions.get?_set s.sessions c' c .unauthenticated
    rw [← heq] at hupdate
    refine .of_update hupdate ?_
    intro _ hget
    exact .ended fun x hx => Option.some.inj (hx.symm.trans hget)
  | @disconnect c' heq =>
    have hupdate := Sessions.get?_disconnect s.sessions c' c
    rw [← heq] at hupdate
    refine .of_update hupdate ?_
    intro _ hget
    exact .ended fun x hx => nomatch hx.symm.trans hget
  | @login now draws c' clientVersion username password a hverify hban hlogin =>
    obtain ⟨-, heq⟩ := Sessions.login_eq hlogin
    have hupdate := Sessions.get?_set s.sessions c' c (.authenticated a.id)
    rw [← heq] at hupdate
    refine .of_update hupdate ?_
    rintro rfl hget
    exact .login rfl hverify hban hget
  | @register now draws c' clientVersion username password email id hadd hlogin =>
    obtain ⟨-, heq⟩ := Sessions.login_eq hlogin
    have hupdate := Sessions.get?_set s.sessions c' c (.authenticated id)
    rw [← heq] at hupdate
    refine .of_update hupdate ?_
    rintro rfl hget
    exact .register rfl hadd hget
  | @logout now draws c' outcome hlogout =>
    refine .of_update (Sessions.get?_logout hlogout c) ?_
    intro _ hget
    exact .ended fun x hx => Option.some.inj (hx.symm.trans hget)
  | @claim now draws c' t outcome hclaim =>
    rcases Sessions.reconnect_cases hs hclaim with ⟨heq, -⟩ | ⟨hc, -, heq, -⟩ | ⟨p, hc, hp, heq, -⟩
    · exact .kept (by rw [heq])
    · -- two sessions may change: the claimant waits, and its rival is released
      have hget := congrArg (·.get? c) heq
      rw [Sessions.get?_present hs hc] at hget
      split at hget
      · rename_i hcc
        subst hcc
        exact .waits .claim hget
      · split at hget
        · exact .ended fun x hx => Option.some.inj (hx.symm.trans hget)
        · exact .kept hget
    · -- the payload that waited answers the claim
      have hupdate := congrArg (·.get? c) heq
      refine .of_update (hupdate.trans (Sessions.get?_answered hs hc hp now.steady _ c)) ?_
      rintro rfl hget
      exact .claimed .claim hp hget
  | issue _ _ heq => exact .kept (by rw [heq, Sessions.get?_leave])
  | @announce now t a heq =>
    have hget := congrArg (fun x => x.1.get? c) heq
    dsimp only at hget
    rcases ht : s.sessions.rendezvous.claimant? t with - | c'
    · rw [Sessions.expectPayload_of_no_claimant ht] at hget
      exact .kept hget
    · rw [Sessions.expectPayload_of_claimant hs ht] at hget
      refine .of_update (hget.trans (Sessions.get?_set _ c' c _)) ?_
      rintro rfl hself
      exact .answered ((hs.awaits c' t).mpr ht) .announced hself
  | @sweep now heq =>
    have hget := congrArg (fun x => x.1.get? c) heq
    dsimp only at hget
    rcases Sessions.get?_sweep hs (Desk.sink now.calendar) s.desk now.steady c with hkept | hreset
    · exact .kept (hget.trans hkept)
    · exact .ended fun x hx => Option.some.inj (hx.symm.trans (hget.trans hreset))

/-- A session that has come to wait on a token has just presented it. -/
theorem presents_of_step (hs : s.sessions.Lockstep)
    (after : (s.step e).sessions.get? c = some (.awaitingToken t))
    (before : s.sessions.get? c ≠ some (.awaitingToken t)) : Presents c t e := by
  cases sessionChange hs e c with
  | kept hget => exact absurd (hget.symm.trans after) before
  | ended hget => exact nomatch hget _ after
  | login _ _ _ hget => exact nomatch hget.symm.trans after
  | register _ _ hget => exact nomatch hget.symm.trans after
  | waits hpresents hget =>
    cases hget.symm.trans after
    exact hpresents
  | claimed _ _ hget =>
    exact absurd (Option.some.inj (hget.symm.trans after)) (Sessions.ofAccount?_ne_awaitingToken _ t)
  | answered _ _ hget =>
    exact absurd (Option.some.inj (hget.symm.trans after)) (Sessions.ofAccount?_ne_awaitingToken _ t)

/-! ### What an event means for one token -/

/-- The ways in which a token comes out of an event. -/
inductive TokenChange (s s' : Service σ) (e : Event) (t : String) : Prop where
  | kept : s'.sessions.rendezvous.entries.get? t = s.sessions.rendezvous.entries.get? t →
      TokenChange s s' e t
  | claimed {c : ConnectionId} :
      Presents c t e → s'.sessions.rendezvous.payload? t = none → TokenChange s s' e t
  /-- The claimant that waited on the token is gone, or has met a payload. -/
  | released : (s.sessions.rendezvous.claimant? t).isSome →
      s'.sessions.rendezvous.payload? t = none → TokenChange s s' e t
  | swept {now : Moment} {x : Entry ConnectionId HandoffPayload} :
      e = .sweep now → s.sessions.rendezvous.entries.get? t = some x →
      s.sessions.rendezvous.overdue now.steady x = true →
      s'.sessions.rendezvous.payload? t = none → TokenChange s s' e t
  | left {p : HandoffPayload} :
      Leaves s t p e → s'.sessions.rendezvous.payload? t = some p → TokenChange s s' e t

omit [Backend σ] in
/-- A claimant that gives up leaves the token it waits on, and all others as they are. -/
theorem TokenChange.of_leaving {s' : Service σ} (hs : s.sessions.Lockstep) (c : ConnectionId)
    (h : s'.sessions.rendezvous.entries.get? t
      = if s.sessions.rendezvous.tokenOf? c = some t then none
        else s.sessions.rendezvous.entries.get? t) : TokenChange s s' e t := by
  split at h
  · rename_i hc
    have hclaim : s.sessions.rendezvous.claimant? t = some c := (hs.coherent c t).mp hc
    exact .released (by rw [hclaim]; rfl) (Rendezvous.payload?_eq_none_of_get? h)
  · exact .kept h

omit [Backend σ] in
/-- A payload that is left on a token waits there, or meets the claimant that waits. -/
theorem TokenChange.of_arrival {s' : Service σ} {now : Nat} {t' : String} (hleaves : Leaves s t' p e)
    (h : s'.sessions.rendezvous = (s.sessions.rendezvous.registerPayload now t' p).1) :
    TokenChange s s' e t := by
  by_cases htt : t' = t
  · subst htt
    have hpayload := Rendezvous.payload?_registerPayload s.sessions.rendezvous now t' t' p
    rw [← h, if_pos rfl] at hpayload
    rcases hclaim : s.sessions.rendezvous.claimant? t' with - | c <;> rw [hclaim] at hpayload
    · exact .left hleaves hpayload
    · exact .released (by rw [hclaim]; rfl) hpayload
  · refine .kept ?_
    rw [h, Rendezvous.get?_registerPayload, if_neg htt]

/-- A token comes out of every event in one of these ways. -/
theorem tokenChange (hs : s.sessions.Lockstep) (e : Event) (t : String) :
    TokenChange s (s.step e) e t := by
  generalize hs' : s.step e = s'
  have hmoves := (stepped hs e).moves
  rw [hs'] at hmoves
  cases hmoves with
  | kept heq => exact .kept (by rw [heq])
  | connect hconnect =>
    obtain ⟨-, heq⟩ := Sessions.connect_eq hconnect
    exact .kept (by rw [heq, Sessions.rendezvous_set])
  | @disconnect c heq =>
    refine .of_leaving hs c ?_
    rw [heq, Sessions.rendezvous_disconnect hs]
    exact Rendezvous.get?_cancelClaimant hs.coherent c t
  | login _ _ hlogin =>
    obtain ⟨-, heq⟩ := Sessions.login_eq hlogin
    exact .kept (by rw [heq, Sessions.rendezvous_set])
  | register _ hlogin =>
    obtain ⟨-, heq⟩ := Sessions.login_eq hlogin
    exact .kept (by rw [heq, Sessions.rendezvous_set])
  | @logout now draws c outcome hlogout =>
    refine .of_leaving hs c ?_
    rw [Sessions.rendezvous_logout hs hlogout]
    exact Rendezvous.get?_cancelClaimant hs.coherent c t
  | @claim now draws c t' outcome hclaim =>
    have hrendezvous : s'.sessions = s.sessions ∨
        s'.sessions.rendezvous = (s.sessions.rendezvous.registerClaimant now.steady t' c).1 := by
      rcases Sessions.reconnect_cases hs hclaim with ⟨heq, -⟩ | ⟨-, -, heq, -⟩ | ⟨p, -, -, heq, -⟩
      · exact .inl heq
      · exact .inr (congrArg Sessions.rendezvous heq)
      · exact .inr (congrArg Sessions.rendezvous heq)
    rcases hrendezvous with heq | heq
    · exact .kept (by rw [heq])
    · by_cases htt : t' = t
      · subst htt
        refine .claimed .claim ?_
        rw [heq, Rendezvous.payload?_registerClaimant, if_pos rfl]
      · refine .of_leaving hs c ?_
        rw [heq, Rendezvous.get?_registerClaimant, if_neg htt]
  | issue hselect hfresh heq =>
    exact .of_arrival (.selected (holder_of_select hselect) hfresh) (congrArg Sessions.rendezvous heq)
  | @announce now t' a heq =>
    have hrendezvous : s'.sessions.rendezvous
        = (s.sessions.rendezvous.registerPayload now.steady t' ⟨a, none⟩).1 := by
      rw [← Sessions.rendezvous_expectPayload hs (Desk.sink now.calendar) s.desk]
      exact congrArg (fun x => x.1.rendezvous) heq
    exact .of_arrival .announced hrendezvous
  | @sweep now heq =>
    have hrendezvous : s'.sessions.rendezvous = (s.sessions.rendezvous.sweep now.steady).1 := by
      rw [← Sessions.rendezvous_sweep hs (Desk.sink now.calendar) s.desk]
      exact congrArg (fun x => x.1.rendezvous) heq
    have hentry := Rendezvous.get?_sweep s.sessions.rendezvous now.steady t
    rw [← hrendezvous] at hentry
    rcases hx : s.sessions.rendezvous.entries.get? t with - | x
    · rw [hx] at hentry
      exact .kept (by rw [hentry, hx]; rfl)
    · rw [hx, Option.filter_some] at hentry
      split at hentry
      · exact .kept (by rw [hentry, hx])
      · rename_i hover
        refine .swept rfl hx ?_ (Rendezvous.payload?_eq_none_of_get? hentry)
        simpa using hover

/-- A payload that has come to wait on a token has just been left there. -/
theorem leaves_of_step (hs : s.sessions.Lockstep)
    (after : (s.step e).sessions.rendezvous.payload? t = some p)
    (before : s.sessions.rendezvous.payload? t ≠ some p) : Leaves s t p e := by
  cases tokenChange hs e t with
  | kept hget => exact absurd ((Rendezvous.payload?_congr hget).symm.trans after) before
  | claimed _ hnone => exact nomatch hnone.symm.trans after
  | released _ hnone => exact nomatch hnone.symm.trans after
  | swept _ _ _ hnone => exact nomatch hnone.symm.trans after
  | left hleaves hpayload =>
    cases hpayload.symm.trans after
    exact hleaves

end Service

end Lobby
