import LowLatencyVoice.Client.Notifiers
import LowLatencyVoice.Client.VoicePipeline
import LowLatencyVoice.Lib.Goroutines

namespace low_latency_voice.client

open state (VoiceConnectionStatus)

/-- The address of a UDP socket. -/
abbrev SocketID := Nat

/-- A call in the order in which calls were started. -/
abbrev Ticket := Nat

/-- What `joinVoice` and `disconnect` read and write, with the sockets `connect`
has bound. -/
structure VoiceSession where
  notifier : VoiceNotifier
  status : VoiceConnectionStatus
  connectedChannelId : Option UInt32
  socket : Option SocketID
  openSockets : SocketID → Bool
  bound : Nat

/-- What the user asked for last. -/
inductive Intent where
  | nothing
  | join (channelId : UInt32)
  | disconnect
  deriving DecidableEq, Repr

/-- Auxiliary: the calls in the order in which they were started. `joined` and
`answered` are the last `joinVoice` and the last call that got behind the
server's answer; `failed` is whether the last call met an error. -/
structure Ledger where
  started : Ticket
  intent : Intent
  failed : Bool
  joined : Ticket
  answered : Ticket

/-- The client, with the ledger of its calls. -/
structure VoiceWorld where
  session : VoiceSession
  ledger : Ledger

/-- A call, or what is left of it after an `await`. -/
inductive VoiceAct where
  | joinVoice (channelId : UInt32)
  | joinAnswered (ticket : Ticket) (channelId : UInt32)
  | clientDisconnected (ticket : Ticket) (userId channelId : UInt32)
  | lookedUp (ticket : Ticket) (channelId : UInt32)
  | socketBound (ticket : Ticket) (channelId : UInt32)
  | clientConnected (ticket : Ticket) (channelId : UInt32)
  | connectFailed (ticket : Ticket) (channelId : UInt32)
  | disconnect
  | left (ticket : Ticket)
  | released (ticket : Ticket)
  deriving DecidableEq, Repr

/-- How an `await` ends: the future's outcome, the user who is signed in by then,
and whether the host is an address. -/
structure VoiceChoice where
  ok : Bool
  user : Option UInt32
  isAddress : Bool

namespace VoiceSession

/-- The client after start-up. -/
def init (notifier : VoiceNotifier) : VoiceSession where
  notifier
  status := .disconnected
  connectedChannelId := none
  socket := none
  openSockets := fun _ => false
  bound := 0

/-- `state.isConnected` and the channel is the one asked for. -/
def connectedTo (s : VoiceSession) (channelId : UInt32) : Bool :=
  s.connectedChannelId == some channelId && s.status == .connected

/-- A write to `VoiceClient`. -/
def withClient (s : VoiceSession) (f : VoiceClient → VoiceClient) : VoiceSession :=
  { s with notifier := { s.notifier with voiceClient := f s.notifier.voiceClient } }

/-- A call of the audio engine. -/
def withEngine (s : VoiceSession) (f : AudioEngineService → AudioEngineService) : VoiceSession :=
  { s with notifier := { s.notifier with audioEngine := f s.notifier.audioEngine } }

/-- `joinVoice` up to the request. -/
def joinVoice (s : VoiceSession) (channelId : UInt32) : VoiceSession :=
  { s.withEngine AudioEngineService.stopMicTest with
    status := .connecting, connectedChannelId := some channelId }

/-- The `catch` of `joinVoice`. `copyWith` reads a null as no change, so the
channel stays. -/
def joinFailed (s : VoiceSession) : VoiceSession := { s with status := .disconnected }

/-- `VoiceClient.disconnect`, with the socket it closes. -/
def clientDisconnect (s : VoiceSession) : VoiceSession :=
  { s.withClient VoiceClient.disconnect with
    socket := none
    openSockets := match s.socket with
      | none => s.openSockets
      | some socket => Function.update s.openSockets socket false }

/-- `VoiceClient.connect` behind `await disconnect()`. -/
def setTarget (s : VoiceSession) (userId channelId : UInt32) : VoiceSession :=
  s.withClient fun client => { client with userId, channelId }

/-- `_serverAddress` is set. -/
def setAddress (s : VoiceSession) : VoiceSession :=
  s.withClient fun client => { client with hasServerAddress := true }

/-- `VoiceClient.connect` behind `RawDatagramSocket.bind`. A socket that was there
is dropped without being closed. -/
def bind (s : VoiceSession) : VoiceSession :=
  { s.withClient fun client =>
      { client with isConnected := true, hasSocket := true, sequenceCounter := client.sequenceCounter + 1 } with
    socket := some s.bound
    openSockets := Function.update s.openSockets s.bound true
    bound := s.bound + 1 }

/-- `joinVoice` behind `_voiceClient.connect`. -/
def joined (s : VoiceSession) (channelId : UInt32) : VoiceSession :=
  let s := s.withEngine AudioEngineService.startCapture
  { s with
    notifier := { s.notifier with captureSub := true }
    status := .connected
    connectedChannelId := some channelId }

/-- `disconnect` behind `_ws.leaveVoice`, whether that failed or not. -/
def leave (s : VoiceSession) : VoiceSession :=
  { s with notifier := { s.notifier with captureSub := false } }.clientDisconnect

/-- `disconnect` behind `_voiceClient.disconnect`. The channel stays here too. -/
def release (s : VoiceSession) : VoiceSession :=
  { s.withEngine AudioEngineService.stopCapture with status := .disconnected }

end VoiceSession

namespace VoiceWorld

/-- A call is started. -/
def start (w : VoiceWorld) (intent : Intent) : VoiceWorld :=
  { w with ledger := { w.ledger with started := w.ledger.started + 1, intent, failed := false } }

/-- A `joinVoice` gets behind the answer. -/
def admitJoin (w : VoiceWorld) (ticket : Ticket) : VoiceWorld :=
  { w with ledger := { w.ledger with joined := ticket, answered := ticket } }

/-- A `disconnect` gets behind the answer. -/
def admitLeave (w : VoiceWorld) (ticket : Ticket) : VoiceWorld :=
  { w with ledger := { w.ledger with answered := max w.ledger.answered ticket } }

/-- A `joinVoice` fails. -/
def fail (w : VoiceWorld) (ticket : Ticket) : VoiceWorld where
  session := w.session.joinFailed
  ledger := { w.ledger with failed := w.ledger.failed || ticket == w.ledger.started }

/-- A step of the client, whatever the ledger says. -/
def update (w : VoiceWorld) (f : VoiceSession → VoiceSession) : VoiceWorld := { w with session := f w.session }

/-- What runs from one `await` to the next. -/
def perform (w : VoiceWorld) (x : VoiceChoice) : VoiceAct → VoiceWorld × List VoiceAct
  | .joinVoice channelId =>
    let w := w.start (.join channelId)
    if w.session.connectedTo channelId then (w.admitJoin w.ledger.started, [])
    else (w.update (·.joinVoice channelId), [.joinAnswered w.ledger.started channelId])
  | .joinAnswered ticket channelId =>
    if x.ok = false then (w.fail ticket, [])
    else
      match x.user with
      | none => (w, [])
      | some userId =>
        ((w.admitJoin ticket).update (·.clientDisconnect), [.clientDisconnected ticket userId channelId])
  | .clientDisconnected ticket userId channelId =>
    let w := w.update (·.setTarget userId channelId)
    if x.isAddress then (w.update (·.setAddress), [.socketBound ticket channelId])
    else (w, [.lookedUp ticket channelId])
  | .lookedUp ticket channelId =>
    if x.ok then (w.update (·.setAddress), [.socketBound ticket channelId])
    else (w, [.connectFailed ticket channelId])
  | .socketBound ticket channelId =>
    if x.ok then (w.update (·.bind), [.clientConnected ticket channelId])
    else (w, [.connectFailed ticket channelId])
  | .clientConnected _ channelId => (w.update (·.joined channelId), [])
  | .connectFailed ticket _ => (w.fail ticket, [])
  | .disconnect =>
    let w := w.start .disconnect
    (w, [.left w.ledger.started])
  | .left ticket => ((w.admitLeave ticket).update (·.leave), [.released ticket])
  | .released _ => (w.update (·.release), [])

/-- What a caller asks for. -/
inductive Request where
  | joinVoice (channelId : UInt32)
  | disconnect

/-- The two methods, with any number of calls at a time. A routine is one caller:
a click, or the listener that calls `disconnect` on an event. -/
def system : Goroutines Nat VoiceWorld (Nat × Request) VoiceAct VoiceChoice where
  owner := Prod.fst
  program := fun _ request =>
    match request.2 with
    | .joinVoice channelId => [.joinVoice channelId]
    | .disconnect => [.disconnect]
  perform := fun w _ a x => some (w.perform x a)

/-- The client, and what its calls are waiting for. -/
abbrev State := Goroutines.Config Nat VoiceWorld VoiceAct

/-- The next thing the event loop does. -/
abbrev Turn := Goroutines.Turn Nat (Nat × Request) VoiceChoice

/-- A client that has just started. -/
def new (notifier : VoiceNotifier) : VoiceWorld where
  session := .init notifier
  ledger := ⟨0, .nothing, false, 0, 0⟩

/-- The state after a schedule. -/
def after (w : VoiceWorld) (ts : List Turn) : State := system.machine.run (Goroutines.idle w) ts

end VoiceWorld

/-- Without interruption the steps of `joinVoice` do what `VoiceNotifier.joinVoice` does. -/
theorem VoiceSession.notifier_joinVoice (s : VoiceSession) (userId channelId : UInt32) :
    (((((s.joinVoice channelId).clientDisconnect.setTarget userId channelId).setAddress).bind).joined
      channelId).notifier = s.notifier.joinVoice userId channelId := rfl

/-- And those of `disconnect` what `VoiceNotifier.disconnect` does. -/
theorem VoiceSession.notifier_disconnect (s : VoiceSession) :
    s.leave.release.notifier = s.notifier.disconnect := rfl

end low_latency_voice.client
