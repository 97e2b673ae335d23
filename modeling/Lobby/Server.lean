/-
Lobby/Server.lean

The server: many tasks around one service.

Two locks order the tasks.  Whoever holds the **handler lock** may work on the service; what the
service queued is then carried to the connections by whoever holds the **routes lock**, which is
taken before the handler lock is given back, so that no other task can overtake.  Every connection
has a **line**: what was put on it, in order, and how much of it its writer has sent.  A writer
stops after it has sent the end of its connection.

`step` is one critical section of one task and says `none` where the lock it needs is taken;
`perform` runs one task's sections in a row, as they happen when nobody else is there.
-/
import Lobby.Service

namespace Lobby

/-! ### Lines -/

/-- What a writer sends: a frame, or the end of the connection. -/
inductive Outbound where
  | frame (bytes : List UInt8)
  | close (reason : String)
deriving DecidableEq, Repr

/-- Whether nothing can be sent after an item. -/
def Outbound.isClose : Outbound → Bool
  | close _ => true
  | frame _ => false

/-- What is put on a connection's line for a delivery. -/
def Delivery.outbound : Delivery → Outbound
  | send _ m => .frame (Json.encode m)
  | disconnect _ reason => .close reason

/-- The way to a client. -/
structure Line where
  /-- Everything that was put on the line, oldest first. -/
  items : List Outbound
  /-- How many items the writer has sent. -/
  sent : Nat
  /-- Whether the writer still runs. -/
  writing : Bool
  /-- Whether anything can still be put on the line. -/
  routed : Bool
deriving DecidableEq, Repr

namespace Line

/-- The line of a new connection. -/
def fresh : Line := ⟨[], 0, true, true⟩

/-- Puts an item on the line.  When the writer no longer runs the item is lost. -/
def put (l : Line) (o : Outbound) : Line :=
  if l.writing then { l with items := l.items ++ [o] } else l

/-- What the client has received. -/
def received (l : Line) : List Outbound := l.items.take l.sent

/-- The writer sends the next item.  A line without items is over when nothing can be put on it
any more. -/
def write (l : Line) : Line :=
  if l.writing then
    match l.items[l.sent]? with
    | some o => { l with sent := l.sent + 1, writing := !o.isClose }
    | none => if l.routed then l else { l with writing := false }
  else l

end Line

/-! ### The server -/

/-- What the holder of the handler lock has yet to do. -/
inductive HandlerWork where
  /-- A session was made and needs its line. -/
  | settingUp (c : ConnectionId)
  /-- The service was called, and this is what it queued. -/
  | calling (deliveries : List Delivery)
deriving DecidableEq, Repr

/-- The service, the lines of all connections so far, and what the holders of the two locks have
yet to do. -/
structure Server (σ : Type) where
  service : Service σ
  lines : KeyedList ConnectionId Line
  handler : Option HandlerWork
  router : Option (List Delivery)

namespace Server

variable {σ : Type}

/-- A server without connections. -/
def create (service : Service σ) : Server σ := ⟨service, .empty, none, none⟩

/-- Changes the line of a connection, if it has one. -/
def onLine (s : Server σ) (c : ConnectionId) (f : Line → Line) : Server σ :=
  match s.lines.get? c with
  | none => s
  | some l => { s with lines := s.lines.insert c (f l) }

/-- Carries a delivery to its connection.  One for a connection that is gone is dropped. -/
def route (s : Server σ) (d : Delivery) : Server σ :=
  s.onLine d.connection fun l => if l.routed then l.put d.outbound else l

/-- Gives a connection a line. -/
def addLine (s : Server σ) (c : ConnectionId) : Server σ :=
  { s with lines := s.lines.insert c .fresh }

/-- Nothing more can be put on the line of a connection. -/
def dropRoute (s : Server σ) (c : ConnectionId) : Server σ :=
  s.onLine c fun l => { l with routed := false }

/-! ### Calls of the service -/

/-- What tasks ask of the service. -/
inductive Call (σ : Type) where
  /-- A frame came in on a connection. -/
  | frame (now : Moment) (draws : List Draw) (c : ConnectionId) (bytes : List UInt8)
  /-- A connection has gone. -/
  | disconnect (c : ConnectionId)
  | sweep (now : Moment)
  | expect (now : Moment) (token : String) (account : AccountId)
  | editStorage (f : σ → σ)
  | editServers (f : MapTable → MapTable)

/-- The service after a call. -/
def Call.run [Backend σ] (s : Service σ) : Call σ → Service σ
  | frame now draws c bytes => s.handleFrame now draws c bytes
  | disconnect c => s.disconnect c
  | sweep now => (s.sweep now).2
  | expect now token account => (s.expectReconnect now token account).2
  | editStorage f => s.withStorage (f s.desk.storage)
  | editServers f => { s with desk := { s.desk with servers := f s.desk.servers } }

/-! ### Critical sections -/

/-- One critical section of one task. -/
inductive Event (σ : Type) where
  /-- A new connection's task takes the handler lock and makes a session. -/
  | setUp (c : ConnectionId)
  /-- It takes the routes lock as well, adds the line and gives both locks back. -/
  | finishSetUp
  /-- A task takes the handler lock, calls the service and takes what was queued. -/
  | call (x : Call σ)
  /-- It takes the routes lock and gives the handler lock back. -/
  | handOver
  /-- It carries the next delivery; when there is none left it gives the routes lock back. -/
  | routeNext
  /-- The task of a connection that is gone takes the routes lock and removes its route. -/
  | dropRoute (c : ConnectionId)
  /-- A writer sends its next item. -/
  | write (c : ConnectionId)
  /-- A writer fails to send. -/
  | breakLine (c : ConnectionId)

/-- One critical section; `none` when a lock that it needs is taken, or held by nobody. -/
def step [Backend σ] (s : Server σ) : Event σ → Option (Server σ)
  | .setUp c =>
    match s.handler, s.service.connect c with
    | none, .ok service => some { s with service, handler := some (.settingUp c) }
    | none, .error _ => some s
    | some _, _ => none
  | .finishSetUp =>
    match s.handler, s.router with
    | some (.settingUp c), none => some ({ s with handler := none }.addLine c)
    | _, _ => none
  | .call x =>
    match s.handler with
    | none =>
      let (deliveries, service) := (x.run s.service).takeOutbox
      some { s with service, handler := some (.calling deliveries) }
    | some _ => none
  | .handOver =>
    match s.handler, s.router with
    | some (.calling deliveries), none => some { s with handler := none, router := some deliveries }
    | _, _ => none
  | .routeNext =>
    match s.router with
    | some (d :: rest) => some ({ s with router := some rest }.route d)
    | some [] => some { s with router := none }
    | none => none
  | .dropRoute c =>
    match s.router with
    | none => some (s.dropRoute c)
    | some _ => none
  | .write c => some (s.onLine c Line.write)
  | .breakLine c => some (s.onLine c fun l => { l with writing := false })

/-! ### Tasks that nobody disturbs -/

/-- A new connection, if its number is not in use. -/
def accept (s : Server σ) (c : ConnectionId) : Server σ :=
  match s.service.connect c with
  | .ok service => { s with service }.addLine c
  | .error _ => s

/-- Works on the service and carries what it queued to the connections. -/
def perform {α : Type} (s : Server σ) (f : Service σ → α × Service σ) : α × Server σ :=
  let (a, service) := f s.service
  let (deliveries, service) := service.takeOutbox
  (a, deliveries.foldl route { s with service })

/-- The task of a connection that is gone: its session ends, then its route goes. -/
def leave (s : Server σ) (c : ConnectionId) : Server σ :=
  ((s.perform fun service => ((), service.disconnect c)).2).dropRoute c

/-- What the writer of a line has yet to send, up to the end of the connection. -/
def unsent (l : Line) : List Outbound :=
  if l.writing then
    let rest := l.items.drop l.sent
    let frames := rest.takeWhile fun o => !o.isClose
    frames ++ (rest.drop frames.length).take 1
  else []

/-- All writers send what they have.  Says what each client gets. -/
def drain (s : Server σ) : List (ConnectionId × List Outbound) × Server σ :=
  s.lines.entries.foldl
    (fun (out, s) (c, l) =>
      let items := unsent l
      if items.isEmpty then (out, s)
      else (out ++ [(c, items)], items.foldl (fun s _ => s.onLine c Line.write) s))
    ([], s)

end Server

end Lobby
