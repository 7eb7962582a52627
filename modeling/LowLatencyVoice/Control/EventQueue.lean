import LowLatencyVoice.Control.Outbound
import LowLatencyVoice.Lib.Precedence

open low_latency_voice.model

namespace low_latency_voice.control.events

open outbound (BroadcastMessage HubUpdate audience)

/-- Capacity of `h.broadcast`. -/
def broadcastSize : Nat := 256

/-- Capacity of `h.unregister`. -/
def unregisterSize : Nat := 128

/-- A message for `h.broadcast`. No step reads which handler emitted it, nor that it
was the `seq`-th of that handler. -/
structure Emission where
  handler : Nat
  seq : Nat
  msg : BroadcastMessage

/-- The event goes to everybody. -/
def Emission.isGlobal (e : Emission) : Bool := e.msg.channelID == 0

/-- One handler emitted `a` and then `b`, and both go to everybody. -/
def Emission.Before (a b : Emission) : Prop :=
  a.handler = b.handler ∧ a.seq < b.seq ∧ a.isGlobal = true ∧ b.isGlobal = true

/-- The hub with its channels, the goroutines `BroadcastEvent` has left waiting, and the
loop of `dispatchBroadcast` with the clients it has still to visit; while it runs,
`h.mu` is held for reading. The last three fields are kept for the record: how many
events each handler has emitted, which were given up, and what `dispatchBroadcast` has
put into the buffer of each client. -/
structure EventHub where
  hub : Hub
  broadcast : GoChan Emission
  unregister : GoChan ClientID
  senders : List Emission
  loop : Option (Emission × List ClientID)
  stopped : Bool
  emitted : Nat → Nat
  expired : List Emission
  delivered : ClientID → List Emission

/-- `NewHub`. -/
def EventHub.new : EventHub where
  hub := .new
  broadcast := .make
  unregister := .make
  senders := []
  loop := none
  stopped := false
  emitted _ := 0
  expired := []
  delivered _ := []

/-- What some goroutine does next. A handler emits an event; a goroutine of
`BroadcastEvent` finds room or gives up; `Run` receives a message or a client, goes to the
next client of its loop, or stops; a handler, a read pump or a write pump does its part. -/
inductive Step where
  | emit (handler : Nat) (payload : GoBytes) (channelID : UInt32)
  | wake (i : Nat)
  | expire (i : Nat)
  | dispatchBroadcast (order : List ClientID)
  | deliver
  | unregisterClient
  | cleanupAll
  | update (call : HubUpdate)
  | kickMember (targetUserID : UInt32)
  | handleClientDisconnect (c : ClientID)
  | signIn (c : ClientID) (user : User)
  | sendJSON (c : ClientID) (payload : GoBytes)
  | writeMessage (c : ClientID)

namespace EventHub

/-- `BroadcastEvent` (channel 0) and `BroadcastToChannel`. Nobody closes `h.broadcast`. -/
def emit (s : EventHub) (handler : Nat) (payload : GoBytes) (channelID : UInt32) : EventHub :=
  let e : Emission := { handler, seq := s.emitted handler, msg := ⟨payload, channelID, none⟩ }
  let s := { s with emitted := Function.update s.emitted handler (s.emitted handler + 1) }
  match s.broadcast.trySend broadcastSize e with
  | .sent broadcast => { s with broadcast }
  | .full | .panicked => { s with senders := s.senders ++ [e] }

/-- A waiting goroutine sends, if there is room now. -/
def wake (s : EventHub) (i : Nat) : EventHub :=
  match s.senders[i]? with
  | none => s
  | some e =>
    match s.broadcast.trySend broadcastSize e with
    | .sent broadcast => { s with broadcast, senders := s.senders.eraseIdx i }
    | .full | .panicked => s

/-- 500 ms have passed for a waiting goroutine. -/
def expire (s : EventHub) (i : Nat) : EventHub :=
  match s.senders[i]? with
  | none => s
  | some e => { s with senders := s.senders.eraseIdx i, expired := s.expired ++ [e] }

/-- `Client.Send`, and whether the frame was enqueued. A full buffer asks for the end of
the connection, unless `h.unregister` is full too. -/
def send (s : EventHub) (c : ClientID) (payload : GoBytes) : EventHub × Bool :=
  if (s.hub.conn c).closed then (s, false)
  else
    match (s.hub.conn c).send.trySend sendBufferSize payload with
    | .sent send => ({ s with hub := s.hub.updateClient c fun k => { k with send } }, true)
    | .full | .panicked =>
      match s.unregister.trySend unregisterSize c with
      | .sent unregister => ({ s with unregister }, false)
      | .full | .panicked => (s, false)

/-- `Run` receives from `h.broadcast`, and the loop of `dispatchBroadcast` begins. -/
def dispatchBroadcast (s : EventHub) (order : List ClientID) : EventHub :=
  match s.loop, s.broadcast.buffered with
  | none, e :: rest =>
    if s.stopped then s
    else
      { s with
        broadcast := { s.broadcast with buffered := rest }
        loop := some (e, visits order (audience s.hub e.msg)) }
  | _, _ => s

/-- One turn of the loop of `dispatchBroadcast`, or its end. -/
def deliver (s : EventHub) : EventHub :=
  match s.loop with
  | none => s
  | some (_, []) => { s with loop := none }
  | some (e, c :: rest) =>
    let s := { s with loop := some (e, rest) }
    if e.msg.exclude = some c ∨ (s.hub.conn c).isAuthenticated = false then s
    else
      match s.send c e.msg.payload with
      | (s, true) => { s with delivered := Function.update s.delivered c (s.delivered c ++ [e]) }
      | (s, false) => s

/-- `Run` receives from `h.unregister`. -/
def unregisterClient (s : EventHub) : EventHub :=
  match s.loop, s.unregister.buffered with
  | none, c :: rest =>
    if s.stopped then s
    else
      { s with
        unregister := { s.unregister with buffered := rest }
        hub := (s.hub.handleClientDisconnect c).1 }
  | _, _ => s

/-- `cleanupAll`: every registered client is closed and forgotten. -/
def cleanupAll (h : Hub) : Hub :=
  { h with
    clients := ∅
    conn := fun c => if (h.clients.get? c).isSome then (h.conn c).close else h.conn c }

/-- A region of `h.mu` that writes. It waits for the loop of `dispatchBroadcast`. -/
def region (s : EventHub) (f : Hub → Hub) : EventHub :=
  match s.loop with
  | none => { s with hub := f s.hub }
  | some _ => s

def step (s : EventHub) : Step → EventHub
  | .emit handler payload channelID => s.emit handler payload channelID
  | .wake i => s.wake i
  | .expire i => s.expire i
  | .dispatchBroadcast order => s.dispatchBroadcast order
  | .deliver => s.deliver
  | .unregisterClient => s.unregisterClient
  | .cleanupAll =>
    match s.loop with
    | none => { s with hub := cleanupAll s.hub, stopped := true }
    | some _ => s
  | .update call => s.region call.apply
  | .kickMember targetUserID => s.region fun h => (h.kickMember targetUserID).1
  | .handleClientDisconnect c => s.region fun h => (h.handleClientDisconnect c).1
  | .signIn c user => { s with hub := s.hub.updateClient c fun k => k.signIn user }
  | .sendJSON c payload => (s.send c payload).1
  | .writeMessage c =>
    { s with hub := s.hub.updateClient c fun k =>
      { k with send := { k.send with buffered := k.send.buffered.tail } } }

end EventHub

/-- The hub under every order of steps. -/
def machine : Machine EventHub Step Unit := ⟨fun s t => (s.step t, ())⟩

/-- The state after a run. -/
def after (ts : List Step) : EventHub := machine.run .new ts

/-- The client is registered and authenticated. -/
def Present (s : EventHub) (k : ClientID) : Prop :=
  s.hub.Registered k ∧ (s.hub.conn k).isAuthenticated = true

instance (s : EventHub) (k : ClientID) : Decidable (Present s k) := inferInstanceAs (Decidable (_ = _ ∧ _))

/-- The step emits the event, and its handler has numbered it. -/
def Emits (s : EventHub) (t : Step) (a : Emission) : Prop :=
  t = .emit a.handler a.msg.payload a.msg.channelID ∧ a.msg.exclude = none ∧ a.seq = s.emitted a.handler

/-- The event was emitted in the run, and the client has been there ever since. -/
def StaysSince (k : ClientID) (a : Emission) : List Step → Prop :=
  Machine.HistorySince (fun pre t => Emits (after pre) t a ∧ Present (after (pre ++ [t])) k)
    fun pre t => ¬ Present (after (pre ++ [t])) k

/-- Whatever the client is sent of a handler's events, it was sent before all that the
handler emitted earlier, of what was emitted since the client has been there. -/
def InOrder (k : ClientID) (ts : List Step) : Prop :=
  Preceded (fun a b => StaysSince k a ts ∧ a.Before b) ((after ts).delivered k)

/-- The branches for a full channel are not taken where they matter: a handler emits an
event for everybody only once its earlier ones are in `h.broadcast`, and the loop of
`dispatchBroadcast` does not find the client's buffer full. -/
def RoomFor (k : ClientID) (s : EventHub) : Step → Prop
  | .emit handler _ channelID => channelID = 0 →
    ∀ e ∈ s.senders ++ s.expired, e.isGlobal = true → e.handler ≠ handler
  | .deliver => ∀ e rest, s.loop = some (e, k :: rest) → e.isGlobal = true →
    (s.hub.conn k).isAuthenticated = true → (s.hub.conn k).send.buffered.length < sendBufferSize
  | _ => True

/-- The client and the queue keep up with the events along the run. -/
def KeepsUp (k : ClientID) : List Step → Prop := Machine.Along fun pre t => RoomFor k (after pre) t

end low_latency_voice.control.events
