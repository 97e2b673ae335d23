/-
Lobby/Proofs/Service/Provenance.lean

Where a login comes from.

A session is logged in as an account by one of three events only: by a login with the account's
credentials, by the registration that made the account, or by a meeting on a token.  The meeting is
the later one of two events, a claim of the connection itself and a payload for that very account,
and up to it each of the two has waited without a break since it came; so the history of a login is
found by going back to the last change three times (`exists_last_change`): of the session, of the
claim and of the payload.

Main result: `authentication_has_provenance`.
-/
import Lobby.Proofs.Account
import Lobby.Proofs.History
import Lobby.Proofs.Service.Tokens

namespace Lobby

namespace Service

variable {s s' : Service Storage} {c : ConnectionId} {a : AccountId} {t : String}
  {p : HandoffPayload} {e : Event}

/-! ### What logs a session in, in one step -/

/-- A connection logs in with the name and the password of an account, which is not banned. -/
inductive LogsIn (s : Service Storage) (c : ConnectionId) (a : AccountId) : Event → Prop where
  | credentials {now : Moment} {draws : List Draw} {clientVersion : UInt32}
      {username password : String} {r : Account} :
      s.desk.storage.byName.get? username = some a → s.desk.storage.accounts.get? a = some r →
      r.passwordDigest = digest password → r.level ≠ .banned →
      LogsIn s c a (.request now draws c (.login clientVersion username password))

/-- A connection makes an account, which was not there before. -/
inductive Registers (s s' : Service Storage) (c : ConnectionId) (a : AccountId) : Event → Prop where
  | made {now : Moment} {draws : List Draw} {clientVersion : UInt32}
      {username password email : String} :
      s.desk.storage.accounts.get? a = none →
      s'.desk.storage.accounts.get? a
        = some { Account.create username password email now.calendar with id := a } →
      Registers s s' c a (.request now draws c (.register clientVersion username password email))

/-- An account is stored and not banned. -/
def Admits (s : Service Storage) (a : AccountId) : Prop :=
  ∃ r, s.desk.storage.accounts.get? a = some r ∧ r.level ≠ .banned

theorem logsIn_of_verify (hsound : s.desk.storage.Sound) {now : Moment} {draws : List Draw}
    {clientVersion : UInt32} {username password : String} {r : Account}
    (hverify : Backend.verify s.desk.storage username password = some r)
    (hban : r.isBanned = false) :
    LogsIn s c r.id (.request now draws c (.login clientVersion username password)) := by
  obtain ⟨hname, hget, hpassword⟩ := hsound.of_verify hverify
  exact .credentials hname hget hpassword (Account.isBanned_eq_false_iff.mp hban)

theorem registers_of_add (hsound : s.desk.storage.Sound) {now : Moment} {draws : List Draw}
    {clientVersion : UInt32} {username password email : String}
    (hadd : Backend.add s.desk.storage (Account.create username password email now.calendar)
      = .ok (a, s'.desk.storage)) :
    Registers s s' c a
      (.request now draws c (.register clientVersion username password email)) := by
  obtain ⟨-, rfl, hs'⟩ := Storage.add_eq hadd
  refine .made hsound.next_unused ?_
  rw [hs', KeyedList.get?_insert, if_pos rfl]

/-- A meeting is answered with the account that the payload names, and only if it is admitted. -/
theorem admits_of_claimMatched (hsound : s.desk.storage.Sound) {now : Timestamp}
    (h : (Desk.claimMatched now c p s.desk).1 = some a) : p.account = a ∧ Admits s a := by
  rcases Desk.claimMatched_cases now c p s.desk with
    ⟨-, heq⟩ | ⟨r, -, -, heq⟩ | ⟨r, hfind, hban, heq⟩ <;> rw [heq] at h <;> cases h
  have hget : s.desk.storage.accounts.get? p.account = some r := hfind
  have hp : p.account = r.id := (hsound.own _ _ hget).symm
  rw [hp] at hget
  exact ⟨hp, r, hget, Account.isBanned_eq_false_iff.mp hban⟩

/-- A session that has come to be logged in as an account has just logged in as it, has made it, or
has met a payload for it on its own token. -/
theorem login_of_step (hs : s.sessions.Lockstep) (hsound : s.desk.storage.Sound)
    (after : (s.step e).sessions.get? c = some (.authenticated a))
    (before : s.sessions.get? c ≠ some (.authenticated a)) :
    LogsIn s c a e ∨ Registers s (s.step e) c a e ∨
      ∃ t p, p.account = a ∧ Admits s a ∧
        (Presents c t e ∧ s.sessions.rendezvous.payload? t = some p ∨
          s.sessions.get? c = some (.awaitingToken t) ∧ Leaves s t p e) := by
  cases sessionChange hs e c with
  | kept hget => exact absurd (hget.symm.trans after) before
  | ended hget => exact nomatch hget _ after
  | login he hverify hban hget =>
    cases hget.symm.trans after
    rw [he]
    exact .inl (logsIn_of_verify hsound hverify hban)
  | register he hadd hget =>
    cases hget.symm.trans after
    refine .inr (.inl ?_)
    generalize s.step e = s' at hadd
    rw [he]
    exact registers_of_add hsound hadd
  | waits _ hget => exact nomatch hget.symm.trans after
  | @claimed t p now hpresents hpayload hget =>
    have hanswer := Sessions.ofAccount?_eq_authenticated_iff.mp
      (Option.some.inj (hget.symm.trans after))
    obtain ⟨hp, hadmits⟩ := admits_of_claimMatched hsound hanswer
    exact .inr (.inr ⟨t, p, hp, hadmits, .inl ⟨hpresents, hpayload⟩⟩)
  | @answered t p now hwaits hleaves hget =>
    have hanswer := Sessions.ofAccount?_eq_authenticated_iff.mp
      (Option.some.inj (hget.symm.trans after))
    obtain ⟨hp, hadmits⟩ := admits_of_claimMatched hsound hanswer
    exact .inr (.inr ⟨t, p, hp, hadmits, .inr ⟨hwaits, hleaves⟩⟩)

/-! ### Histories -/

variable {start : Service Storage} {events : List Event} {k n : Nat}

/-- A connection presented a token in the `i`-th event of a run, and has waited on it ever since: its
claim was not given up, not taken over by another one, and did not end with the time. -/
structure Claim (start : Service Storage) (events : List Event) (i n : Nat) (c : ConnectionId)
    (t : String) : Prop where
  presented : ∃ e, events[i]? = some e ∧ Presents c t e
  waits : ∀ m, i < m → m ≤ n →
    (stateAt step start events m).sessions.get? c = some (.awaitingToken t)

/-- A payload was left on a token in the `j`-th event of a run, and has waited on it ever since. -/
structure Deposit (start : Service Storage) (events : List Event) (j n : Nat) (t : String)
    (p : HandoffPayload) : Prop where
  left : ∃ e, events[j]? = some e ∧ Leaves (stateAt step start events j) t p e
  waits : ∀ m, j < m → m ≤ n →
    (stateAt step start events m).sessions.rendezvous.payload? t = some p

/-- Where the login of a connection as an account in the `k`-th event of a run comes from. -/
inductive Provenance (start : Service Storage) (events : List Event) (k : Nat) (c : ConnectionId)
    (a : AccountId) : Prop where
  | login {e : Event} :
      events[k]? = some e → LogsIn (stateAt step start events k) c a e →
      Provenance start events k c a
  | register {e : Event} :
      events[k]? = some e →
      Registers (stateAt step start events k) (stateAt step start events (k + 1)) c a e →
      Provenance start events k c a
  /-- A claim and a payload have met: the later of the two events is the `k`-th. -/
  | meeting {i j : Nat} {t : String} {p : HandoffPayload} :
      Claim start events i k c t → Deposit start events j k t p →
      (j < i ∧ i = k ∨ i < j ∧ j = k) → p.account = a → Admits (stateAt step start events k) a →
      Provenance start events k c a

theorem reachable_stateAt (hs : Reachable start) (n : Nat) :
    Reachable (stateAt step start events n) := hs.run (events.take n)

/-- A session that waits has a claim, if it did not wait at the start. -/
theorem exists_claim (hs : Reachable start)
    (fresh : start.sessions.get? c ≠ some (.awaitingToken t)) (hn : n ≤ events.length)
    (now : (stateAt step start events n).sessions.get? c = some (.awaitingToken t)) :
    ∃ i, i < n ∧ Claim start events i n c t := by
  obtain ⟨i, e, hi, he, hnot, hsince⟩ := exists_last_change
    (P := fun s : Service Storage => s.sessions.get? c = some (.awaitingToken t)) fresh hn now
  have hafter := hsince (i + 1) (Nat.lt_succ_self i) hi
  rw [stateAt_succ he] at hafter
  exact ⟨i, hi, ⟨e, he, presents_of_step (reachable_stateAt hs i).lockstep hafter hnot⟩, hsince⟩

/-- A payload that waits has been left, if it did not wait at the start. -/
theorem exists_deposit (hs : Reachable start)
    (fresh : start.sessions.rendezvous.payload? t ≠ some p) (hn : n ≤ events.length)
    (now : (stateAt step start events n).sessions.rendezvous.payload? t = some p) :
    ∃ j, j < n ∧ Deposit start events j n t p := by
  obtain ⟨j, e, hj, he, hnot, hsince⟩ := exists_last_change
    (P := fun s : Service Storage => s.sessions.rendezvous.payload? t = some p) fresh hn now
  have hafter := hsince (j + 1) (Nat.lt_succ_self j) hj
  rw [stateAt_succ he] at hafter
  exact ⟨j, hj, ⟨e, he, leaves_of_step (reachable_stateAt hs j).lockstep hafter hnot⟩, hsince⟩

/-- **Nobody is logged in without provenance.**  In a run of a service that starts without sessions
over any store in memory, a session that is logged in as an account was so since one event `k` that
changed it, and that event was

* a login of the connection with the name and the password of the account, which was not banned;
* or the registration by the connection that made the account;
* or the later one of two events, of which one was the connection's own claim on a token and the
  other left a payload for that very account on the same token: an announcement of another server,
  or a selection by somebody who was logged in as that account.  The earlier one had waited without
  a break until then, and the account was stored and not banned. -/
theorem authentication_has_provenance (config : AccountConfig) (rendezvous : RendezvousConfig)
    (edits : List Edit) (servers : MapTable) (events : List Event) {c : ConnectionId}
    {a : AccountId}
    (h : ((create config rendezvous (Storage.ofEdits edits) servers).run events).sessions.get? c
      = some (.authenticated a)) :
    let start := create config rendezvous (Storage.ofEdits edits) servers
    ∃ k, k < events.length ∧
      (stateAt step start events k).sessions.get? c ≠ some (.authenticated a) ∧
      (∀ m, k < m → m ≤ events.length →
        (stateAt step start events m).sessions.get? c = some (.authenticated a)) ∧
      Provenance start events k c a := by
  intro start
  have hs : Reachable start := .create config rendezvous servers (Storage.sound_ofEdits edits)
  have hend : (stateAt step start events events.length).sessions.get? c
      = some (.authenticated a) := by
    rw [stateAt_length]
    exact h
  have hfresh : start.sessions.get? c ≠ some (.authenticated a) := nofun
  obtain ⟨k, e, hk, he, hnot, hsince⟩ := exists_last_change
    (P := fun s : Service Storage => s.sessions.get? c = some (.authenticated a)) hfresh
    (Nat.le_refl _) hend
  refine ⟨k, hk, hnot, hsince, ?_⟩
  have hsucc : stateAt step start events (k + 1) = (stateAt step start events k).step e :=
    stateAt_succ he
  have hafter := hsince (k + 1) (Nat.lt_succ_self k) hk
  rw [hsucc] at hafter
  rcases login_of_step (reachable_stateAt hs k).lockstep (reachable_stateAt hs k).sound hafter hnot with
    hlogin | hregister | ⟨t, p, hp, hadmits, ⟨hpresents, hpayload⟩ | ⟨hwaits, hleaves⟩⟩
  · exact .login he hlogin
  · rw [← hsucc] at hregister
    exact .register he hregister
  · -- the claim comes last, so the payload is looked for further back
    obtain ⟨j, hj, hdeposit⟩ := exists_deposit hs nofun (Nat.le_of_lt hk) hpayload
    have hclaim : Claim start events k k c t :=
      ⟨⟨e, he, hpresents⟩, fun m hkm hm => absurd hkm (Nat.not_lt_of_le hm)⟩
    exact .meeting hclaim hdeposit (.inl ⟨hj, rfl⟩) hp hadmits
  · -- the payload comes last, so the claim is looked for further back
    obtain ⟨i, hi, hclaim⟩ := exists_claim hs nofun (Nat.le_of_lt hk) hwaits
    have hdeposit : Deposit start events k k t p :=
      ⟨⟨e, he, hleaves⟩, fun m hkm hm => absurd hkm (Nat.not_lt_of_le hm)⟩
    exact .meeting hclaim hdeposit (.inr ⟨hi, rfl⟩) hp hadmits

/-- A client that another server has announced presents its token and is logged in. -/
theorem announced_client_has_provenance :
    let dawn : Timestamp := ⟨0, 0, by decide, by decide⟩
    let ann : Account := ⟨⟨0⟩, "ann", "", "", .normal, [], dawn, none⟩
    let start := create .standard .standard (Storage.ofEdits [.add ann]) .empty
    let events : List Event :=
      [.connect ⟨5⟩, .announce ⟨1, dawn⟩ "gate" ⟨1⟩, .request ⟨2, dawn⟩ [] ⟨5⟩ (.reconnect "gate")]
    (start.run events).sessions.get? ⟨5⟩ = some (.authenticated ⟨1⟩) ∧
      ∃ k, k < 3 ∧ Provenance start events k ⟨5⟩ ⟨1⟩ := by
  intro dawn ann start events
  have hin : (start.run events).sessions.get? ⟨5⟩ = some (.authenticated ⟨1⟩) := by decide
  obtain ⟨k, hk, -, -, hprovenance⟩ :=
    authentication_has_provenance .standard .standard [.add ann] .empty events hin
  exact ⟨hin, k, hk, hprovenance⟩

end Service

end Lobby
