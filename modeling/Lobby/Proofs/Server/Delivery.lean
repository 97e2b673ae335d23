/-
Lobby/Proofs/Server/Delivery.lean

Every delivery arrives, once and in order.

What the service queues is carried to the lines after the handler lock has been given back, by
whichever task called the service.  That the tasks do not overtake each other rests on one thing: a
task takes the routes lock before it gives the handler lock back, so that at most one list of
deliveries is being carried and at most one waits for it.  All that was ever queued is therefore, at any
time, what has been carried already, followed by what the holder of the routes lock still has, followed
by what the holder of the handler lock has (`Carried`).

A call queues its deliveries behind what is queued already (`Call.queued`), which is nothing: whoever calls
the service takes them all.  What a client is due of them is the encoding of each message and the reason of
each end, in their order (`dueTo`).

A run is any sequence of critical sections of the tasks, as long as each task keeps to its own order
(`Allowed`): a connection is set up once, its frames come between its set-up and its end, and its route
goes after its session.  Three more invariants are kept by every critical section:

* `Attended`: the connections that have sessions are those that were set up and have not ended, and
  nothing was ever queued for a connection that was not set up;
* `Routed`: whoever was set up has a line, and its route is there until its session has ended;
* `Orderly`: a writer sends what was put on its line, and nothing after the end of the connection.

Main result: `deliveries_arrive_in_order`.
-/
import Lobby.Proofs.Service.Addressees
import Lobby.Server

namespace Lobby

/-! ### What is due -/

/-- What deliveries come to for a connection: a frame with the encoding of each message that is for it, and
the end of the connection with its reason. -/
def dueTo (c : ConnectionId) : List Delivery → List Outbound
  | [] => []
  | .send c' m :: ds => if c' = c then .frame (Json.encode m) :: dueTo c ds else dueTo c ds
  | .disconnect c' reason :: ds => if c' = c then .close reason :: dueTo c ds else dueTo c ds

/-- That is what is put on the connection's line for each of its deliveries. -/
theorem dueTo_eq (c : ConnectionId) (ds : List Delivery) :
    dueTo c ds = (ds.filter (·.connection = c)).map Delivery.outbound := by
  induction ds with
  | nil => rfl
  | cons d ds ih =>
    rw [List.filter_cons]
    rcases d with ⟨c', m⟩ | ⟨c', reason⟩
    · by_cases hc : c' = c <;> simp [dueTo, Delivery.connection, Delivery.outbound, hc, ih]
    · by_cases hc : c' = c <;> simp [dueTo, Delivery.connection, Delivery.outbound, hc, ih]

/-! ### Lines -/

namespace Line

variable {l l' : Line} {ds : List Delivery}

/-- What was put on a line is the beginning of some deliveries, and all of them as long as the writer
runs and the route is there. -/
structure Carries (l : Line) (ds : List Delivery) : Prop where
  started : l.items <+: ds.map Delivery.outbound
  complete : l.writing = true → l.routed = true → l.items = ds.map Delivery.outbound

/-- What was sent was put on the line, and nothing is sent after the end of the connection. -/
structure Orderly (l : Line) : Prop where
  sent : l.sent ≤ l.items.length
  last : ∀ earlier o later, l.received = earlier ++ o :: later → o.isClose = true →
    later = [] ∧ l.writing = false

theorem carries_fresh : fresh.Carries [] := ⟨List.nil_prefix, fun _ _ => rfl⟩

theorem orderly_fresh : fresh.Orderly where
  sent := Nat.le_refl 0
  last := by
    intro earlier o later h
    cases earlier <;> cases h

/-- A line on which nothing new was put carries what it did. -/
theorem Carries.of_items (h : l.Carries ds) (hitems : l'.items = l.items)
    (hwriting : l'.writing = true → l.writing = true)
    (hrouted : l'.routed = true → l.routed = true) : l'.Carries ds where
  started := by
    rw [hitems]
    exact h.started
  complete := by
    intro hw hr
    rw [hitems]
    exact h.complete (hwriting hw) (hrouted hr)

/-- A delivery is put on the line, or is lost for good. -/
theorem Carries.route (h : l.Carries ds) (d : Delivery) :
    (if l.routed then l.put d.outbound else l).Carries (ds ++ [d]) := by
  have hlater : l.items <+: (ds ++ [d]).map Delivery.outbound := by
    rw [List.map_append]
    exact h.started.trans (List.prefix_append ..)
  by_cases hr : l.routed = true
  · rw [if_pos hr]
    by_cases hw : l.writing = true
    · have hitems : (l.put d.outbound).items = (ds ++ [d]).map Delivery.outbound := by
        rw [put, if_pos hw, List.map_append, ← h.complete hw hr]
        rfl
      exact ⟨hitems ▸ List.prefix_rfl, fun _ _ => hitems⟩
    · rw [put, if_neg hw]
      exact ⟨hlater, fun hw' => absurd hw' hw⟩
  · rw [if_neg hr]
    exact ⟨hlater, fun _ hr' => absurd hr' hr⟩

/-- What is put on a line later is not sent yet. -/
theorem Orderly.put (h : l.Orderly) (o : Outbound) : (l.put o).Orderly := by
  rw [Line.put]
  split
  · refine ⟨?_, ?_⟩
    · show l.sent ≤ (l.items ++ [o]).length
      rw [List.length_append]
      exact Nat.le_add_right_of_le h.sent
    · show ∀ earlier o' later, (l.items ++ [o]).take l.sent = _ → _
      rw [List.take_append_of_le_length h.sent]
      exact h.last
  · exact h

theorem Orderly.route (h : l.Orderly) (d : Delivery) :
    (if l.routed then l.put d.outbound else l).Orderly := by
  split
  · exact h.put d.outbound
  · exact h

/-- A writer that stops sends nothing. -/
theorem Orderly.stop (h : l.Orderly) : Orderly { l with writing := false } :=
  ⟨h.sent, fun earlier o later heq ho => ⟨(h.last earlier o later heq ho).1, rfl⟩⟩

theorem Orderly.unroute (h : l.Orderly) : Orderly { l with routed := false } := ⟨h.sent, h.last⟩

/-- Writing puts nothing on the line. -/
theorem write_kept (l : Line) :
    l.write.items = l.items ∧ l.write.routed = l.routed ∧
      (l.write.writing = true → l.writing = true) := by
  rw [write]
  split
  · rename_i hw
    split
    · exact ⟨rfl, rfl, fun _ => hw⟩
    · split
      · exact ⟨rfl, rfl, id⟩
      · exact ⟨rfl, rfl, nofun⟩
  · exact ⟨rfl, rfl, id⟩

/-- A writer that has sent the end of the connection stops. -/
theorem Orderly.write (h : l.Orderly) : l.write.Orderly := by
  rw [Line.write]
  split
  · rename_i hw
    rcases ho : l.items[l.sent]? with - | o
    · -- nothing is left to send
      dsimp only
      split
      · exact h
      · exact h.stop
    · refine ⟨(List.getElem?_eq_some_iff.mp ho).1, ?_⟩
      intro earlier o' later heq hclose
      have hreceived : l.received ++ [o] = earlier ++ o' :: later := by
        rw [← heq]
        show l.items.take l.sent ++ [o] = l.items.take (l.sent + 1)
        rw [List.take_add_one, ho]
        rfl
      rcases List.eq_nil_or_concat later with rfl | ⟨later, x, rfl⟩
      · -- the end is what was sent now
        obtain ⟨-, hsame⟩ := List.append_inj' hreceived rfl
        cases hsame
        exact ⟨rfl, by simp [hclose]⟩
      · -- the end was sent earlier, but the writer runs
        rw [List.concat_eq_append, ← List.cons_append, ← List.append_assoc] at hreceived
        have hearlier := (List.append_inj' hreceived rfl).1
        rw [(h.last earlier o' later hearlier hclose).2] at hw
        cases hw
  · exact h

end Line

namespace Server

variable {σ : Type} {s s' : Server σ} {c : ConnectionId}

/-! ### Lines of a server -/

theorem get?_onLine (s : Server σ) (c c' : ConnectionId) (f : Line → Line) :
    (s.onLine c f).lines.get? c' = if c = c' then (s.lines.get? c).map f else s.lines.get? c' := by
  rw [onLine]
  rcases h : s.lines.get? c with - | l
  · by_cases hcc : c = c'
    · subst hcc
      rw [if_pos rfl]
      exact h
    · rw [if_neg hcc]
  · show (s.lines.insert c (f l)).get? c' = _
    rw [KeyedList.get?_insert]
    rfl

theorem get?_addLine (s : Server σ) (c c' : ConnectionId) :
    (s.addLine c).lines.get? c' = if c = c' then some .fresh else s.lines.get? c' :=
  KeyedList.get?_insert s.lines c c' .fresh

@[simp] theorem service_onLine (s : Server σ) (c : ConnectionId) (f : Line → Line) :
    (s.onLine c f).service = s.service := by
  rw [onLine]
  split <;> rfl

@[simp] theorem handler_onLine (s : Server σ) (c : ConnectionId) (f : Line → Line) :
    (s.onLine c f).handler = s.handler := by
  rw [onLine]
  split <;> rfl

@[simp] theorem router_onLine (s : Server σ) (c : ConnectionId) (f : Line → Line) :
    (s.onLine c f).router = s.router := by
  rw [onLine]
  split <;> rfl

/-- What holds of the changed line and still holds of the others holds of all lines. -/
theorem forall_onLine {P Q : ConnectionId → Line → Prop} {f : Line → Line}
    (h : ∀ c' l, s.lines.get? c' = some l → P c' l) (hchanged : ∀ l, P c l → Q c (f l))
    (hother : ∀ c' l, c ≠ c' → P c' l → Q c' l) :
    ∀ c' l, (s.onLine c f).lines.get? c' = some l → Q c' l := by
  intro c' l hl
  rw [get?_onLine] at hl
  by_cases hcc : c = c'
  · subst hcc
    rw [if_pos rfl] at hl
    obtain ⟨l₀, hl₀, rfl⟩ := Option.map_eq_some_iff.mp hl
    exact hchanged l₀ (h c l₀ hl₀)
  · rw [if_neg hcc] at hl
    exact hother c' l hcc (h c' l hl)

theorem forall_addLine {P : ConnectionId → Line → Prop}
    (h : ∀ c' l, s.lines.get? c' = some l → P c' l) (hc : P c .fresh) :
    ∀ c' l, (s.addLine c).lines.get? c' = some l → P c' l := by
  intro c' l hl
  rw [get?_addLine] at hl
  by_cases hcc : c = c'
  · subst hcc
    rw [if_pos rfl] at hl
    cases hl
    exact hc
  · rw [if_neg hcc] at hl
    exact h c' l hl

/-! ### Calls of the service -/

/-- The connection whose task makes a call. -/
def Call.sender? : Call σ → Option ConnectionId
  | frame _ _ c _ => some c
  | disconnect c => some c
  | _ => none

section

variable [Backend σ]

/-- What a call does to the service: lockstep stays, sessions go with the end of their connections
only, and what is queued is for whoever makes the call or has a session. -/
structure Call.Attends (s s' : Service σ) (x : Call σ) : Prop where
  lockstep : s'.sessions.Lockstep
  alive : ∀ c, (s'.sessions.get? c).isSome = true ↔
    x ≠ .disconnect c ∧ (s.sessions.get? c).isSome = true
  addressed : s.desk.outbox = [] → ∀ d ∈ s'.desk.outbox,
    x.sender? = some d.connection ∨ (s.sessions.get? d.connection).isSome = true

/-- An event other than the coming or going of a connection. -/
theorem attends_step {s : Service σ} (hs : s.sessions.Lockstep) {x : Call σ} {e : Lobby.Event}
    (hrun : x.run s = s.step e) (hx : ∀ c, x ≠ .disconnect c) (hconnect : ∀ c, e ≠ .connect c)
    (hdisconnect : ∀ c, e ≠ .disconnect c) (hsender : ∀ c, e.sender? = some c → x.sender? = some c) :
    x.Attends s (x.run s) := by
  rw [hrun]
  refine ⟨Service.lockstep_step hs e, fun c => ?_, fun hempty d hd => ?_⟩
  · rw [Service.isSome_get?_of_moves hs (Service.stepped hs e).moves hconnect hdisconnect c]
    simp [hx c]
  · have hqueued : d ∈ s.queued e := by
      rw [Service.queued, hempty]
      exact hd
    exact (Service.addressed_of_queued hs e d hqueued).imp_left (hsender _)

omit [Backend σ] in
/-- A change that concerns neither the sessions nor what is queued. -/
theorem attends_edit {s s' : Service σ} (hs : s.sessions.Lockstep) {x : Call σ}
    (hsessions : s'.sessions = s.sessions) (houtbox : s'.desk.outbox = s.desk.outbox)
    (hx : ∀ c, x ≠ .disconnect c) : x.Attends s s' := by
  refine ⟨hsessions ▸ hs, fun c => ?_, fun hempty d hd => ?_⟩
  · rw [hsessions]
    simp [hx c]
  · rw [houtbox, hempty] at hd
    cases hd

theorem attends_run {s : Service σ} (hs : s.sessions.Lockstep) (x : Call σ) :
    x.Attends s (x.run s) := by
  cases x with
  | frame now draws c bytes =>
    rcases s.handleFrame_eq_step now draws c bytes with hrun | ⟨r, hrun⟩
    · exact attends_step hs hrun (by simp) (by simp) (by simp) fun _ h => h
    · exact attends_step hs hrun (by simp) (by simp) (by simp) fun _ h => h
  | disconnect c =>
    refine ⟨Service.lockstep_step hs (.disconnect c), fun c' => ?_, fun hempty d hd => ?_⟩
    · show ((s.sessions.disconnect c).2.get? c').isSome = true ↔ _
      rw [Sessions.get?_disconnect]
      by_cases hcc : c = c'
      · subst hcc
        simp
      · simp [hcc]
    · have hmem : d ∈ s.desk.outbox := hd
      rw [hempty] at hmem
      cases hmem
  | sweep now =>
    exact attends_step (e := .sweep now) hs rfl (by simp) (by simp) (by simp) fun _ h => by cases h
  | expect now token account =>
    exact attends_step (e := .announce now token account) hs rfl (by simp) (by simp) (by simp)
      fun _ h => by cases h
  | editStorage f => exact attends_edit hs rfl rfl (by simp)
  | editServers f => exact attends_edit hs rfl rfl (by simp)

/-! ### Critical sections -/

/-- What a critical section finds and does. -/
inductive Stepped (s : Server σ) : Event σ → Server σ → Prop where
  | setUp {c : ConnectionId} {service : Service σ} : s.handler = none →
      s.service.connect c = .ok service →
      Stepped s (.setUp c) { s with service, handler := some (.settingUp c) }
  | refuse {c : ConnectionId} {x : SessionError} : s.handler = none →
      s.service.connect c = .error x → Stepped s (.setUp c) s
  | finishSetUp {c : ConnectionId} : s.handler = some (.settingUp c) → s.router = none →
      Stepped s .finishSetUp ({ s with handler := none, router := none }.addLine c)
  | call {x : Call σ} : s.handler = none →
      Stepped s (.call x) { s with
        service := (x.run s.service).takeOutbox.2
        handler := some (.calling (x.run s.service).desk.outbox) }
  | handOver {ds : List Delivery} : s.handler = some (.calling ds) → s.router = none →
      Stepped s .handOver { s with handler := none, router := some ds }
  | routeNext {d : Delivery} {rest : List Delivery} : s.router = some (d :: rest) →
      Stepped s .routeNext ({ s with router := some rest }.route d)
  | routeEnd : s.router = some [] → Stepped s .routeNext { s with router := none }
  | dropRoute {c : ConnectionId} : s.router = none → Stepped s (.dropRoute c) (s.dropRoute c)
  | write {c : ConnectionId} : Stepped s (.write c) (s.onLine c Line.write)
  | breakLine {c : ConnectionId} :
      Stepped s (.breakLine c) (s.onLine c fun l => { l with writing := false })

theorem stepped_of_step {e : Event σ} (h : s.step e = some s') : s.Stepped e s' := by
  cases e with
  | setUp c =>
    rcases hhandler : s.handler with - | work <;>
      rcases hconnect : s.service.connect c with x | service <;>
      simp only [step, hhandler, hconnect] at h <;> cases h
    · exact .refuse hhandler hconnect
    · exact .setUp hhandler hconnect
  | finishSetUp =>
    rcases hhandler : s.handler with - | ⟨c | ds⟩ <;> rcases hrouter : s.router with - | carrying <;>
      simp only [step, hhandler, hrouter] at h <;> cases h
    exact .finishSetUp hhandler hrouter
  | call x =>
    rcases hhandler : s.handler with - | work <;> simp only [step, hhandler] at h <;> cases h
    exact .call hhandler
  | handOver =>
    rcases hhandler : s.handler with - | ⟨c | ds⟩ <;> rcases hrouter : s.router with - | carrying <;>
      simp only [step, hhandler, hrouter] at h <;> cases h
    exact .handOver hhandler hrouter
  | routeNext =>
    rcases hrouter : s.router with - | - | ⟨d, rest⟩ <;> simp only [step, hrouter] at h <;> cases h
    · exact .routeEnd hrouter
    · exact .routeNext hrouter
  | dropRoute c =>
    rcases hrouter : s.router with - | carrying <;> simp only [step, hrouter] at h <;> cases h
    exact .dropRoute hrouter
  | write c =>
    cases h
    exact .write
  | breakLine c =>
    cases h
    exact .breakLine

/-! ### Runs -/

/-- When a task may come to a critical section, by what has happened before: a connection is set up
once, its task makes calls after that and none after the last one, which ends the session, and the
route goes after the session. -/
def Allowed (before : List (Event σ)) : Event σ → Prop
  | .setUp c => .setUp c ∉ before
  | .call x => ∀ c, x.sender? = some c → .setUp c ∈ before ∧ .call (.disconnect c) ∉ before
  | .dropRoute c => .call (.disconnect c) ∈ before
  | _ => True

/-- What a call queues, behind what is queued already. -/
def Call.queued (x : Call σ) (s : Service σ) : List Delivery :=
  (x.run s).desk.outbox.drop s.desk.outbox.length

/-- If nothing is queued, that is all that is queued after the call. -/
theorem Call.queued_eq {s : Service σ} (h : s.desk.outbox = []) (x : Call σ) :
    x.queued s = (x.run s).desk.outbox := by
  rw [Call.queued, h]
  rfl

/-- What is queued in a critical section. -/
def queued (s : Server σ) : Event σ → List Delivery
  | .call x => x.queued s.service
  | _ => []

/-- A run of all tasks: the critical sections so far, what was queued in them, and the server after
them. -/
inductive Runs (start : Server σ) : List (Event σ) → List Delivery → Server σ → Prop where
  | start : Runs start [] [] start
  | step {before : List (Event σ)} {issued : List Delivery} {s s' : Server σ} {e : Event σ} :
      Runs start before issued s → Allowed before e → s.step e = some s' →
      Runs start (before ++ [e]) (issued ++ s.queued e) s'

/-- Each of some critical sections is one to which its task may come. -/
def AllAllowed (before : List (Event σ)) : List (Event σ) → Prop
  | [] => True
  | e :: es => Allowed before e ∧ AllAllowed (before ++ [e]) es

/-- What is queued in some critical sections, and the server after them, if none has to wait. -/
def through (s : Server σ) : List (Event σ) → Option (List Delivery × Server σ)
  | [] => some ([], s)
  | e :: es => (s.step e).bind fun s' => (s'.through es).map fun x => (s.queued e ++ x.1, x.2)

/-- Critical sections none of which has to wait take a run further. -/
theorem Runs.through {start s s' : Server σ} {before es : List (Event σ)} {issued ds : List Delivery}
    (h : Runs start before issued s) (hallowed : AllAllowed before es)
    (hthrough : s.through es = some (ds, s')) : Runs start (before ++ es) (issued ++ ds) s' := by
  induction es generalizing s before issued ds with
  | nil =>
    cases hthrough
    rw [List.append_nil, List.append_nil]
    exact h
  | cons e es ih =>
    obtain ⟨hfirst, hrest⟩ := hallowed
    obtain ⟨s₁, hstep, hlater⟩ := Option.bind_eq_some_iff.mp hthrough
    obtain ⟨⟨ds', s₂⟩, hthrough', heq⟩ := Option.map_eq_some_iff.mp hlater
    cases heq
    rw [← List.append_assoc, ← List.singleton_append, ← List.append_assoc]
    exact ih (h.step hfirst hstep) hrest hthrough'

end

variable {before : List (Event σ)} {issued : List Delivery} {e : Event σ}

/-- Nothing is queued but in calls. -/
theorem append_queued [Backend σ] (hcall : ∀ x, e ≠ .call x) : issued ++ s.queued e = issued := by
  cases e with
  | call x => exact absurd rfl (hcall x)
  | _ => exact List.append_nil issued

/-! ### Who has a session -/

/-- The connections that have sessions are those that were set up and have not ended; nothing waits in
the queue of the service, and nothing was ever queued for anybody who was not set up. -/
structure Attended (before : List (Event σ)) (issued : List Delivery) (s : Server σ) : Prop where
  lockstep : s.service.sessions.Lockstep
  collected : s.service.desk.outbox = []
  alive : ∀ c, (s.service.sessions.get? c).isSome = true ↔
    .setUp c ∈ before ∧ .call (.disconnect c) ∉ before
  begun : ∀ c, .call (.disconnect c) ∈ before → .setUp c ∈ before
  addressed : ∀ d ∈ issued, .setUp d.connection ∈ before

/-- A critical section that does not concern the service. -/
theorem Attended.of_service [Backend σ] (h : Attended before issued s)
    (hservice : s'.service = s.service) (hsetUp : ∀ c, e ≠ .setUp c) (hcall : ∀ x, e ≠ .call x) :
    Attended (before ++ [e]) (issued ++ s.queued e) s' := by
  rw [append_queued hcall]
  refine ⟨hservice ▸ h.lockstep, hservice ▸ h.collected, fun c => ?_, fun c => ?_,
    fun d hd => ?_⟩
  · rw [hservice, h.alive c]
    simp [(hsetUp c).symm, (hcall (.disconnect c)).symm]
  · simp only [List.mem_append, List.mem_singleton, (hsetUp c).symm, (hcall (.disconnect c)).symm,
      or_false]
    exact h.begun c
  · exact List.mem_append_left _ (h.addressed d hd)

theorem attended_setUp [Backend σ] (h : Attended before issued s) {service : Service σ}
    (hnew : .setUp c ∉ before) (hconnect : s.service.connect c = .ok service) :
    Attended (before ++ [.setUp c]) (issued ++ s.queued (.setUp c))
      { s with service, handler := some (.settingUp c) } := by
  rcases hsessions : s.service.sessions.connect c with x | sessions <;>
    simp only [Service.connect, hsessions, Except.map] at hconnect <;> cases hconnect
  obtain ⟨hnone, rfl⟩ := Sessions.connect_eq hsessions
  rw [append_queued (e := .setUp c) (by simp)]
  refine ⟨h.lockstep.step (.connect hsessions), h.collected, fun c' => ?_, fun c' hended => ?_,
    fun d hd => List.mem_append_left _ (h.addressed d hd)⟩
  rotate_left
  · simp only [List.mem_append, List.mem_singleton, reduceCtorEq, or_false] at hended
    exact List.mem_append_left _ (h.begun c' hended)
  show ((s.service.sessions.set c .unauthenticated).get? c').isSome = true ↔ _
  rw [Sessions.get?_set]
  by_cases hcc : c = c'
  · -- nobody calls for a connection that has not been set up
    subst hcc
    have hgone : Event.call (.disconnect c) ∉ before := fun hended => hnew (h.begun c hended)
    simp [hgone]
  · rw [if_neg hcc, h.alive c']
    simp [Ne.symm hcc]

/-- A connection that is set up for the first time has no session yet, and so it is not refused. -/
theorem Attended.connect_ne_error (h : Attended before issued s) (hnew : .setUp c ∉ before)
    (x : SessionError) : s.service.connect c ≠ .error x := by
  intro herror
  rcases hc : s.service.sessions.get? c with - | session
  · simp only [Service.connect, Sessions.connect, hc, Except.map] at herror
    cases herror
  · have halive : (s.service.sessions.get? c).isSome = true := by rw [hc]; rfl
    exact hnew ((h.alive c).mp halive).1

theorem attended_call [Backend σ] (h : Attended before issued s) {x : Call σ}
    (hx : Allowed before (.call x)) :
    Attended (before ++ [.call x]) (issued ++ s.queued (.call x)) { s with
      service := (x.run s.service).takeOutbox.2
      handler := some (.calling (x.run s.service).desk.outbox) } := by
  have hattends := attends_run h.lockstep x
  refine ⟨hattends.lockstep, rfl, fun c => ?_, fun c hended => ?_, fun d hd => ?_⟩
  · show ((x.run s.service).sessions.get? c).isSome = true ↔ _
    rw [hattends.alive c, h.alive c]
    simp only [List.mem_append, List.mem_singleton, reduceCtorEq, or_false, Event.call.injEq, not_or,
      eq_comm (a := Call.disconnect c)]
    tauto
  · refine List.mem_append_left _ ?_
    rcases List.mem_append.mp hended with hbefore | hnow
    · exact h.begun c hbefore
    · cases List.mem_singleton.mp hnow
      exact (hx c rfl).1
  · refine List.mem_append_left _ ?_
    rcases List.mem_append.mp hd with hbefore | hnow
    · exact h.addressed d hbefore
    · have hqueued : d ∈ (x.run s.service).desk.outbox := x.queued_eq h.collected ▸ hnow
      rcases hattends.addressed h.collected d hqueued with hsender | halive
      · exact (hx _ hsender).1
      · exact ((h.alive _).mp halive).1

theorem attended_step [Backend σ] (h : Attended before issued s) (hallowed : Allowed before e)
    (hstep : s.Stepped e s') : Attended (before ++ [e]) (issued ++ s.queued e) s' := by
  cases hstep with
  | setUp _ hconnect => exact attended_setUp h hallowed hconnect
  | refuse _ hconnect => exact absurd hconnect (h.connect_ne_error hallowed _)
  | call _ => exact attended_call h hallowed
  | finishSetUp _ _ => exact h.of_service rfl nofun nofun
  | handOver _ _ => exact h.of_service rfl nofun nofun
  | routeNext _ => exact h.of_service (service_onLine ..) nofun nofun
  | routeEnd _ => exact h.of_service rfl nofun nofun
  | dropRoute _ => exact h.of_service (service_onLine ..) nofun nofun
  | write => exact h.of_service (service_onLine ..) nofun nofun
  | breakLine => exact h.of_service (service_onLine ..) nofun nofun

/-! ### Who has a route -/

/-- Whoever was set up has a line, except while it is being set up, and its route goes after its
session. -/
structure Routed (before : List (Event σ)) (s : Server σ) : Prop where
  lined : ∀ c, .setUp c ∈ before →
    s.handler = some (.settingUp c) ∨ (s.lines.get? c).isSome = true
  kept : ∀ c l, s.lines.get? c = some l → l.routed = true ∨ .call (.disconnect c) ∈ before

theorem mem_of_mem_concat {a : Event σ} (h : a ∈ before ++ [e]) (hne : e ≠ a) : a ∈ before := by
  rcases List.mem_append.mp h with hbefore | hnow
  · exact hbefore
  · exact absurd (List.mem_singleton.mp hnow).symm hne

/-- While nobody sets a connection up, whoever was set up has a line. -/
theorem Routed.isSome_line (h : Routed before s) (hidle : ∀ c, s.handler ≠ some (.settingUp c))
    (hc : .setUp c ∈ before) : (s.lines.get? c).isSome = true :=
  (h.lined c hc).resolve_left (hidle c)

/-- A critical section that changes a line. -/
theorem Routed.onLine (h : Routed before s) {f : Line → Line} (hsetUp : ∀ c, e ≠ .setUp c)
    (hf : ∀ l, l.routed = true → (f l).routed = true ∨ .call (.disconnect c) ∈ before) :
    Routed (before ++ [e]) (s.onLine c f) where
  lined := by
    intro c' hc'
    rw [handler_onLine]
    refine (h.lined c' (mem_of_mem_concat hc' (hsetUp c'))).imp_right fun hline => ?_
    rw [get?_onLine]
    by_cases hcc : c = c'
    · subst hcc
      rw [if_pos rfl, Option.isSome_map]
      exact hline
    · rw [if_neg hcc]
      exact hline
  kept := by
    refine forall_onLine h.kept (fun l hl => ?_) (fun c' l _ hl => ?_)
    · rcases hl with hrouted | hended
      · exact (hf l hrouted).imp_right (List.mem_append_left _)
      · exact .inr (List.mem_append_left _ hended)
    · exact hl.imp_right (List.mem_append_left _)

/-- A critical section that changes no line. -/
theorem Routed.of_lines (h : Routed before s) (hlines : s'.lines = s.lines)
    (hline : ∀ c, .setUp c ∈ before ++ [e] →
      s'.handler = some (.settingUp c) ∨ (s.lines.get? c).isSome = true) :
    Routed (before ++ [e]) s' where
  lined := by
    rw [hlines]
    exact hline
  kept := by
    rw [hlines]
    exact fun c l hl => (h.kept c l hl).imp_right (List.mem_append_left _)

theorem routed_step [Backend σ] (h : Routed before s) (hattended : Attended before issued s)
    (hallowed : Allowed before e) (hstep : s.Stepped e s') : Routed (before ++ [e]) s' := by
  cases hstep with
  | @setUp c service hhandler _ =>
    refine h.of_lines rfl fun c' hc' => ?_
    by_cases hcc : c = c'
    · exact .inl (congrArg (fun c => some (HandlerWork.settingUp c)) hcc)
    · have hbefore := mem_of_mem_concat hc' fun heq => hcc (Event.setUp.inj heq)
      exact .inr (h.isSome_line (by simp [hhandler]) hbefore)
  | refuse _ hconnect => exact absurd hconnect (hattended.connect_ne_error hallowed _)
  | @finishSetUp c hhandler _ =>
    refine ⟨fun c' hc' => .inr ?_, forall_addLine (fun c' l hl => ?_) (.inl rfl)⟩
    · rw [get?_addLine]
      by_cases hcc : c = c'
      · rw [if_pos hcc]
        rfl
      · rw [if_neg hcc]
        refine (h.lined c' (mem_of_mem_concat hc' nofun)).resolve_left ?_
        rw [hhandler]
        intro heq
        exact hcc (HandlerWork.settingUp.inj (Option.some.inj heq))
    · exact (h.kept c' l hl).imp_right (List.mem_append_left _)
  | call hhandler =>
    exact h.of_lines rfl fun c' hc' =>
      .inr (h.isSome_line (by simp [hhandler]) (mem_of_mem_concat hc' nofun))
  | handOver hhandler _ =>
    exact h.of_lines rfl fun c' hc' =>
      .inr (h.isSome_line (by simp [hhandler]) (mem_of_mem_concat hc' nofun))
  | @routeNext d rest _ =>
    have hrest : Routed before { s with router := some rest } := ⟨h.lined, h.kept⟩
    refine hrest.onLine nofun fun l hl => .inl ?_
    rw [if_pos hl, Line.put]
    split <;> exact hl
  | routeEnd _ => exact h.of_lines rfl fun c' hc' => h.lined c' (mem_of_mem_concat hc' nofun)
  | dropRoute _ => exact h.onLine nofun fun l _ => .inr hallowed
  | write => exact h.onLine nofun fun l hl => .inl (l.write_kept.2.1.trans hl)
  | breakLine => exact h.onLine nofun fun l hl => .inl hl

/-! ### What has been carried -/

/-- What was queued and is not carried yet: the holder of the routes lock carries his part first. -/
def pending (s : Server σ) : List Delivery :=
  s.router.getD [] ++
    match s.handler with
    | some (.calling ds) => ds
    | _ => []

/-- What was queued was carried to the lines, in order, except for what is pending; and nothing of it is for
a connection that is being set up. -/
structure Carried (issued : List Delivery) (s : Server σ) : Prop where
  carried : ∃ done, issued = done ++ s.pending ∧
    ∀ c l, s.lines.get? c = some l → l.Carries (done.filter (·.connection = c))
  unused : ∀ c, s.handler = some (.settingUp c) → ∀ d ∈ issued, d.connection ≠ c

/-- A critical section that puts nothing on a line. -/
theorem Carried.onLine (h : Carried issued s) {f : Line → Line}
    (hf : ∀ l ds, l.Carries ds → (f l).Carries ds) : Carried issued (s.onLine c f) := by
  obtain ⟨done, hissued, hlines⟩ := h.carried
  have hpending : (s.onLine c f).pending = s.pending := by
    rw [pending, handler_onLine, router_onLine]
    rfl
  refine ⟨⟨done, ?_, ?_⟩, ?_⟩
  · rw [hpending]
    exact hissued
  · exact forall_onLine hlines (fun l hl => hf l _ hl) fun _ _ _ hl => hl
  · rw [handler_onLine]
    exact h.unused

/-- The holder of the routes lock carries a delivery. -/
theorem carried_routeNext (h : Carried issued s) {d : Delivery} {rest : List Delivery}
    (hrouter : s.router = some (d :: rest)) :
    Carried issued ({ s with router := some rest }.route d) := by
  obtain ⟨done, hissued, hlines⟩ := h.carried
  refine ⟨⟨done ++ [d], ?_, ?_⟩, ?_⟩
  · have hpending : s.pending = d :: ({ s with router := some rest } : Server σ).pending := by
      simp only [pending, hrouter, Option.getD_some, List.cons_append]
    have hsame : ({ s with router := some rest }.route d).pending
        = ({ s with router := some rest } : Server σ).pending := by
      rw [pending, route, handler_onLine, router_onLine]
      rfl
    rw [hsame, hissued, hpending, List.append_assoc, List.singleton_append]
  · refine forall_onLine hlines (fun l hl => ?_) (fun c' l hcc hl => ?_)
    · -- the delivery is put on its own line
      have hown : (done ++ [d]).filter (·.connection = d.connection)
          = done.filter (·.connection = d.connection) ++ [d] := by simp
      rw [hown]
      exact hl.route d
    · have hothers : (done ++ [d]).filter (·.connection = c') = done.filter (·.connection = c') := by
        simp [hcc]
      rw [hothers]
      exact hl
  · intro c hc
    rw [route, handler_onLine] at hc
    exact h.unused c hc

theorem carried_step [Backend σ] (h : Carried issued s) (hattended : Attended before issued s)
    (hallowed : Allowed before e) (hstep : s.Stepped e s') : Carried (issued ++ s.queued e) s' := by
  obtain ⟨done, hissued, hlines⟩ := h.carried
  cases hstep with
  | @setUp c service hhandler _ =>
    rw [append_queued (e := .setUp c) nofun]
    refine ⟨⟨done, ?_, hlines⟩, ?_⟩
    · rw [hissued, pending, pending, hhandler]
    · -- nobody calls for a connection before it is set up
      intro c' hc' d hd hdc
      cases hc'
      have hbefore := hattended.addressed d hd
      rw [hdc] at hbefore
      exact hallowed hbefore
  | refuse _ hconnect => exact absurd hconnect (hattended.connect_ne_error hallowed _)
  | @finishSetUp c hhandler hrouter =>
    rw [append_queued (e := .finishSetUp) nofun]
    have hall : issued = done := by
      rw [hissued, pending, hhandler, hrouter]
      simp
    have hnone : done.filter (·.connection = c) = [] := by
      refine List.filter_eq_nil_iff.mpr fun d hd => ?_
      simpa using h.unused c hhandler d (hall ▸ hd)
    refine ⟨⟨done, ?_, forall_addLine hlines ?_⟩, nofun⟩
    · rw [hall]
      exact (List.append_nil done).symm
    · rw [hnone]
      exact Line.carries_fresh
  | @call x hhandler =>
    have hqueued : s.queued (.call x) = (x.run s.service).desk.outbox :=
      x.queued_eq hattended.collected
    refine ⟨⟨done, ?_, hlines⟩, nofun⟩
    rw [hqueued, hissued, pending, pending, hhandler, List.append_nil, List.append_assoc]
  | @handOver ds hhandler hrouter =>
    rw [append_queued (e := .handOver) nofun]
    refine ⟨⟨done, ?_, hlines⟩, nofun⟩
    rw [hissued, pending, pending, hhandler, hrouter]
    simp
  | routeNext hrouter =>
    rw [append_queued (e := .routeNext) nofun]
    exact carried_routeNext h hrouter
  | routeEnd hrouter =>
    rw [append_queued (e := .routeNext) nofun]
    refine ⟨⟨done, ?_, hlines⟩, h.unused⟩
    rw [hissued, pending, pending, hrouter]
    rfl
  | @dropRoute c _ =>
    rw [append_queued (e := .dropRoute c) nofun]
    exact h.onLine fun l ds hl => hl.of_items rfl id nofun
  | @write c =>
    rw [append_queued (e := .write c) nofun]
    refine h.onLine fun l ds hl => ?_
    obtain ⟨hitems, hrouted, hwriting⟩ := l.write_kept
    exact hl.of_items hitems hwriting fun hr => hrouted ▸ hr
  | @breakLine c =>
    rw [append_queued (e := .breakLine c) nofun]
    exact h.onLine fun l ds hl => hl.of_items rfl nofun id

/-! ### What is sent -/

theorem orderly_step [Backend σ] (h : ∀ c l, s.lines.get? c = some l → l.Orderly)
    (hstep : s.Stepped e s') :
    ∀ c l, s'.lines.get? c = some l → l.Orderly := by
  cases hstep with
  | setUp _ _ => exact h
  | refuse _ _ => exact h
  | finishSetUp _ _ => exact forall_addLine h Line.orderly_fresh
  | call _ => exact h
  | handOver _ _ => exact h
  | routeNext _ => exact forall_onLine h (fun _ hl => hl.route _) fun _ _ _ hl => hl
  | routeEnd _ => exact h
  | dropRoute _ => exact forall_onLine h (fun _ hl => hl.unroute) fun _ _ _ hl => hl
  | write => exact forall_onLine h (fun _ hl => hl.write) fun _ _ _ hl => hl
  | breakLine => exact forall_onLine h (fun _ hl => hl.stop) fun _ _ _ hl => hl

/-! ### All of a run -/

/-- What every critical section keeps. -/
structure InOrder (before : List (Event σ)) (issued : List Delivery) (s : Server σ) : Prop where
  attended : Attended before issued s
  routed : Routed before s
  carried : Carried issued s
  orderly : ∀ c l, s.lines.get? c = some l → l.Orderly

theorem inOrder_create (config : AccountConfig) (rendezvous : RendezvousConfig) (storage : σ)
    (servers : MapTable) :
    InOrder [] [] (create (Service.create config rendezvous storage servers)) where
  attended := ⟨Sessions.lockstep_empty _, rfl, fun _ => ⟨nofun, nofun⟩, nofun, nofun⟩
  routed := ⟨nofun, nofun⟩
  carried := ⟨⟨[], rfl, nofun⟩, nofun⟩
  orderly := nofun

theorem InOrder.step [Backend σ] (h : InOrder before issued s) (hallowed : Allowed before e)
    (hstep : s.step e = some s') : InOrder (before ++ [e]) (issued ++ s.queued e) s' :=
  have hstepped := stepped_of_step hstep
  ⟨attended_step h.attended hallowed hstepped, routed_step h.routed h.attended hallowed hstepped,
    carried_step h.carried h.attended hallowed hstepped, orderly_step h.orderly hstepped⟩

/-- **A whole run is in order.** -/
theorem Runs.inOrder [Backend σ] {start : Server σ} (hstart : InOrder [] [] start)
    (h : Runs start before issued s) : InOrder before issued s := by
  induction h with
  | start => exact hstart
  | step _ hallowed hstep ih => exact ih.step hallowed hstep

/-- **Deliveries arrive, once and in order.**  In every run of all tasks on a new server:

* nothing is left in the queue of the service, so that whoever calls it takes what that call has queued, and
  nothing else;
* whenever the handler lock is free, every session has a line, and its route is there;
* whenever both locks are free, what was put on the line of a connection that has a session and whose
  writer runs is what it is due of all that calls have ever queued (`dueTo`): a frame with the encoding of
  each message and the end for each disconnection, each once, in the order in which the calls queued them;
* what a client has received is at any time the beginning of what it is due, and nothing comes after the end
  of its connection. -/
theorem deliveries_arrive_in_order [Backend σ] {config : AccountConfig}
    {rendezvous : RendezvousConfig} {storage : σ} {servers : MapTable}
    (h : Runs (create (Service.create config rendezvous storage servers)) before issued s) :
    s.service.desk.outbox = [] ∧
    (s.handler = none → ∀ c, (s.service.sessions.get? c).isSome = true →
      ∃ l, s.lines.get? c = some l ∧ l.routed = true) ∧
    ∀ c l, s.lines.get? c = some l →
      (s.handler = none → s.router = none → (s.service.sessions.get? c).isSome = true →
        l.writing = true → l.items = dueTo c issued) ∧
      l.received <+: dueTo c issued ∧
      ∀ earlier reason later, l.received = earlier ++ .close reason :: later → later = [] := by
  obtain ⟨hattended, hrouted, ⟨⟨done, hissued, hlines⟩, -⟩, horderly⟩ :=
    h.inOrder (inOrder_create config rendezvous storage servers)
  have hroute : ∀ c l, s.lines.get? c = some l → (s.service.sessions.get? c).isSome = true →
      l.routed = true := by
    intro c l hl halive
    exact (hrouted.kept c l hl).resolve_right ((hattended.alive c).mp halive).2
  refine ⟨hattended.collected, fun hhandler c halive => ?_,
    fun c l hl => ⟨fun hhandler hrouter halive hwriting => ?_, ?_,
      fun earlier reason later heq => ((horderly c l hl).last _ _ _ heq rfl).1⟩⟩
  · have hline : (s.lines.get? c).isSome = true :=
      hrouted.isSome_line (by simp [hhandler]) ((hattended.alive c).mp halive).1
    obtain ⟨l, hl⟩ := Option.isSome_iff_exists.mp hline
    exact ⟨l, hl, hroute c l hl halive⟩
  · -- nothing is pending
    have hall : issued = done := by
      rw [hissued, pending, hhandler, hrouter]
      simp
    rw [dueTo_eq, hall]
    exact (hlines c l hl).complete hwriting (hroute c l hl halive)
  · have hsent : l.received <+: l.items := List.take_prefix ..
    have hlater : (done.filter (·.connection = c)).map Delivery.outbound <+: dueTo c issued := by
      rw [dueTo_eq, hissued, List.filter_append, List.map_append]
      exact List.prefix_append ..
    exact (hsent.trans (hlines c l hl).started).trans hlater

/-- Two clients send frames that spell no request, and the second call is made while the complaint to the
first one is being carried.  Then the first one claims a token that nobody is announced for, and is cut off
when it has waited for too long. -/
theorem complaint_arrives :
    let dawn : Timestamp := ⟨0, 0, by decide, by decide⟩
    let start := create (Service.create .standard .standard Storage.empty .empty)
    let claim := "[\"Reconnect\",\"gate\"]".toUTF8.toList
    let events : List (Event Storage) := [.setUp ⟨1⟩, .finishSetUp, .setUp ⟨2⟩, .finishSetUp,
      .call (.frame ⟨1, dawn⟩ [] ⟨1⟩ []), .handOver, .call (.frame ⟨2, dawn⟩ [] ⟨2⟩ []), .routeNext,
      .routeNext, .handOver, .routeNext, .routeNext, .call (.frame ⟨3, dawn⟩ [] ⟨1⟩ claim), .handOver,
      .routeNext, .call (.sweep ⟨40000000000, dawn⟩), .handOver, .routeNext, .routeNext, .routeNext,
      .write ⟨1⟩, .write ⟨1⟩]
    let invalid := Outbound.frame (Json.encode Message.invalid)
    let timedOut := Outbound.frame (Json.encode Message.connectionTimedOut)
    ∃ issued s l, Runs start events issued s ∧ s.lines.get? ⟨1⟩ = some l ∧
      dueTo ⟨1⟩ issued = [invalid, timedOut, .close "reconnect token timed out"] ∧
      l.items = dueTo ⟨1⟩ issued ∧ l.received = [invalid, timedOut] := by
  intro dawn start claim events invalid timedOut
  have hallowed : AllAllowed [] events := by simp [events, AllAllowed, Allowed, Call.sender?]
  have hend : (start.through events).map (fun x => (x.2.handler, x.2.router,
      (x.2.service.sessions.get? ⟨1⟩).isSome, x.2.lines.get? ⟨1⟩)) = some (none, none, true,
        some ⟨[invalid, timedOut, .close "reconnect token timed out"], 2, true, true⟩) := by
    decide +kernel
  have hissued : (start.through events).map (fun x => dueTo ⟨1⟩ x.1)
      = some [invalid, timedOut, .close "reconnect token timed out"] := by decide +kernel
  obtain ⟨⟨issued, s⟩, hthrough, hs⟩ := Option.map_eq_some_iff.mp hend
  simp only [Prod.mk.injEq] at hs
  obtain ⟨hhandler, hrouter, halive, hline⟩ := hs
  rw [hthrough] at hissued
  have hdue := Option.some.inj hissued
  have hrun : Runs start events issued s := Runs.start.through hallowed hthrough
  obtain ⟨-, -, hlines⟩ := deliveries_arrive_in_order hrun
  have harrived := (hlines ⟨1⟩ _ hline).1 hhandler hrouter halive rfl
  exact ⟨issued, s, _, hrun, hline, hdue, harrived, rfl⟩

end Server

end Lobby
