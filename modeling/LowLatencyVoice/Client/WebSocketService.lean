import LowLatencyVoice.Lib.Goroutines

namespace low_latency_voice.client

/-- What the parsing of an endpoint takes from the Dart library. -/
structure DartLibrary where
  trim : List Char → List Char
  tryParse : List Char → Option Int

/-- Where the control plane listens. -/
structure Endpoint where
  host : List Char
  port : Int
  deriving DecidableEq, Repr

/-- `AppConstants.defaultHost`. -/
def defaultHost : List Char := "100.108.39.69".toList

/-- `AppConstants.defaultWsPort`. -/
def defaultWsPort : Int := 8085

/-- The scheme `parseEndpoint` takes off, if the text has one. -/
def stripScheme (text : List Char) : List Char :=
  if "ws://".toList.isPrefixOf text then text.drop 5
  else if "wss://".toList.isPrefixOf text then text.drop 6
  else if "http://".toList.isPrefixOf text then text.drop 7
  else if "https://".toList.isPrefixOf text then text.drop 8
  else text

/-- The text on either side of the last colon. -/
def splitLastColon (text : List Char) : Option (List Char × List Char) :=
  match text.reverse.span (· ≠ ':') with
  | (_, []) => none
  | (post, _ :: pre) => some (pre.reverse, post.reverse)

/-- The text up to the first `]:`, with its bracket, and the text behind. -/
def splitBracketColon : List Char → Option (List Char × List Char)
  | [] => none
  | ']' :: ':' :: rest => some ([']'], rest)
  | c :: rest => (splitBracketColon rest).map fun split => (c :: split.1, split.2)

/-- `parseEndpoint`. -/
def parseEndpoint (dart : DartLibrary) (rawHost : List Char) (defaultPort : Int) : Endpoint :=
  let cleaned := (stripScheme (dart.trim rawHost)).takeWhile (· ≠ '/')
  let split :=
    if ']' ∈ cleaned then if cleaned.head? = some '[' then splitBracketColon cleaned else none
    else splitLastColon cleaned
  let parsed : Endpoint :=
    match split.bind fun (host, portPart) => (dart.tryParse portPart).map fun port => (host, port) with
    | some (host, port) => ⟨host, port⟩
    | none => ⟨cleaned, defaultPort⟩
  if parsed.host = [] then { parsed with host := defaultHost } else parsed

/-- `WsConnectionStatus`. -/
inductive WsConnectionStatus where
  | disconnected
  | connecting
  | connected
  | authenticated
  deriving DecidableEq, Repr

/-- One connection attempt: the address of its channel and of its completer. -/
abbrev AttemptID := Nat

/-- The address of the completer of a request. -/
abbrev RequestID := Nat

/-- What a `WebSocketChannel` is doing. A handshake goes on after the four
seconds `connect` waits for it. -/
inductive ChannelState where
  | unused
  | opening
  | abandoned
  | established
  | closed (closeCode : Option Nat)
  deriving DecidableEq, Repr

/-- `sink.close()`. -/
def ChannelState.close : ChannelState → ChannelState
  | .established => .closed none
  | state => state

/-- `closeCode`. -/
def ChannelState.closeCode : ChannelState → Option Nat
  | .closed code => code
  | _ => none

/-- A `Completer`. -/
inductive Completer where
  | unused
  | pending
  | completed
  | failed
  deriving DecidableEq, Repr

/-- `complete`, behind the check that it is not completed. -/
def Completer.complete : Completer → Completer
  | .pending => .completed
  | completer => completer

/-- `completeError`, behind the same check. -/
def Completer.completeError : Completer → Completer
  | .pending => .failed
  | completer => completer

/-- `WebSocketService`, with the channels, subscriptions and completers it has
made. A request is in `_pendingRequests` while its completer is pending. -/
structure WebSocketService where
  channel : Option AttemptID
  subscription : Option AttemptID
  reconnectTimer : Bool
  endpoint : Endpoint
  sessionToken : Option (List Char)
  isDisposed : Bool
  connectingCompleter : Option AttemptID
  status : WsConnectionStatus
  channels : AttemptID → ChannelState
  listened : AttemptID → Bool
  completers : AttemptID → Completer
  requests : RequestID → Completer
  allocated : Nat

/-- What the application or the event loop calls. -/
inductive ServiceCall where
  | configure (host : Option (List Char)) (port : Option Int) (token : Option (List Char))
  | connect (host : Option (List Char)) (port : Option Int) (force : Bool)
  | disconnect
  | dispose
  | signIn (token : Option (List Char))
  | reconnectTimer
  | response (request : RequestID) (ok : Bool)
  | dropped (channel : AttemptID) (closeCode : Option Nat)
  | lateHandshake (channel : AttemptID)

/-- A call, or what is left of one after an `await`. -/
inductive ServiceAct where
  | call (c : ServiceCall)
  | connecting (completer : AttemptID)
  | ready (channel : AttemptID)
  | authenticated (channel : AttemptID) (request : RequestID) (token : List Char)
  | signedIn (request : RequestID) (token : Option (List Char))

/-- How `await channel.ready.timeout(..)` ends. -/
inductive Handshake where
  | succeeded
  | failed
  | timedOut
  deriving DecidableEq, Repr

namespace WebSocketService

/-- A new service. -/
def new : WebSocketService where
  channel := none
  subscription := none
  reconnectTimer := false
  endpoint := ⟨defaultHost, defaultWsPort⟩
  sessionToken := none
  isDisposed := false
  connectingCompleter := none
  status := .disconnected
  channels := fun _ => .unused
  listened := fun _ => false
  completers := fun _ => .unused
  requests := fun _ => .unused
  allocated := 0

/-- `_cleanupConnection`. -/
def cleanupConnection (s : WebSocketService) : WebSocketService :=
  { s with
    subscription := none
    listened := match s.subscription with
      | none => s.listened
      | some channel => Function.update s.listened channel false
    channel := none
    channels := match s.channel with
      | none => s.channels
      | some channel => Function.update s.channels channel (s.channels channel).close
    status := .disconnected
    connectingCompleter := none
    completers := match s.connectingCompleter with
      | none => s.completers
      | some completer => Function.update s.completers completer (s.completers completer).completeError
    requests := fun request => (s.requests request).completeError }

/-- `_scheduleReconnect`. -/
def scheduleReconnect (s : WebSocketService) : WebSocketService :=
  if s.isDisposed then s else { s with reconnectTimer := true }

/-- `_onError`. -/
def onError (s : WebSocketService) : WebSocketService :=
  let closeCode := s.channel.bind fun channel => (s.channels channel).closeCode
  if closeCode = some 4001 then { s.cleanupConnection with reconnectTimer := false }
  else s.cleanupConnection.scheduleReconnect

/-- `_onDisconnected`, which does the same. -/
def onDisconnected (s : WebSocketService) : WebSocketService := s.onError

def disconnect (s : WebSocketService) : WebSocketService :=
  { s with reconnectTimer := false }.cleanupConnection

def dispose (s : WebSocketService) : WebSocketService := { s with isDisposed := true }.disconnect

/-- The first lines of `configure` and `connect`: the endpoint is set, and said
to have changed or not. -/
def retarget (dart : DartLibrary) (s : WebSocketService) (host : Option (List Char)) (port : Option Int) :
    WebSocketService × Bool :=
  if host = none ∧ port = none then (s, false)
  else
    let parsed := parseEndpoint dart (host.getD s.endpoint.host) (port.getD s.endpoint.port)
    ({ s with endpoint := parsed }, parsed ≠ s.endpoint)

def configure (dart : DartLibrary) (s : WebSocketService) (host : Option (List Char)) (port : Option Int)
    (token : Option (List Char)) : WebSocketService :=
  let (s, changed) := retarget dart { s with sessionToken := token.or s.sessionToken } host port
  if changed then s.disconnect else s

/-- `connect` from the new completer to the wait for the handshake. -/
def attempt (s : WebSocketService) : WebSocketService × List ServiceAct :=
  ({ s with
    connectingCompleter := some s.allocated
    status := .connecting
    channels := Function.update s.channels s.allocated .opening
    completers := Function.update s.completers s.allocated .pending
    allocated := s.allocated + 1 }, [.ready s.allocated])

/-- `connect` up to its first `await`. -/
def connect (dart : DartLibrary) (s : WebSocketService) (host : Option (List Char)) (port : Option Int)
    (force : Bool) : WebSocketService × List ServiceAct :=
  let (s, changed) := retarget dart s host port
  if changed || force then s.disconnect.attempt
  else
    match s.status with
    | .connected | .authenticated => (s, [])
    | .connecting =>
      match s.connectingCompleter with
      | some completer => (s, [.connecting completer])
      | none => (s, [])
    | .disconnected => s.attempt

/-- The `finally` of `connect`. -/
def finish (s : WebSocketService) (completer : AttemptID) : WebSocketService :=
  if s.connectingCompleter = some completer then { s with connectingCompleter := none } else s

/-- The `catch` of `connect`. -/
def fail (s : WebSocketService) (completer : AttemptID) : WebSocketService :=
  ({ s with completers := Function.update s.completers completer (s.completers completer).completeError
    }.onError).finish completer

/-- `sendRequest` on an open channel. -/
def sendRequest (s : WebSocketService) : WebSocketService × RequestID :=
  ({ s with requests := Function.update s.requests s.allocated .pending, allocated := s.allocated + 1 },
    s.allocated)

/-- `connect` behind `channel.ready`. -/
def opened (s : WebSocketService) (channel : AttemptID) : WebSocketService × List ServiceAct :=
  let s := { s with
    channels := Function.update s.channels channel .established
    channel := some channel
    status := .connected
    subscription := some channel
    listened := Function.update s.listened channel true
    completers := Function.update s.completers channel (s.completers channel).complete }
  match s.sessionToken with
  | none | some [] => (s.finish channel, [])
  | some token => (s.sendRequest.1, [.authenticated channel s.sendRequest.2 token])

/-- `login`, `register` or `authenticate` up to its `await`. -/
def signIn (s : WebSocketService) (token : Option (List Char)) : WebSocketService × List ServiceAct :=
  if s.channel = none then (s, []) else (s.sendRequest.1, [.signedIn s.sendRequest.2 token])

/-- The end of a sign-in. -/
def signedIn (s : WebSocketService) (token : Option (List Char)) : WebSocketService :=
  { s with sessionToken := token, status := .authenticated }

/-- The callback of the reconnect timer. -/
def reconnect (s : WebSocketService) : WebSocketService × List ServiceAct :=
  if s.reconnectTimer = false then (s, [])
  else
    let s := { s with reconnectTimer := false }
    if s.status = .disconnected then s.attempt else (s, [])

/-- An answer arrives, or ten seconds have passed without one. -/
def respond (s : WebSocketService) (request : RequestID) (ok : Bool) : WebSocketService :=
  let completer := if ok then (s.requests request).complete else (s.requests request).completeError
  { s with requests := Function.update s.requests request completer }

/-- The peer or the network closes a channel. -/
def drop (s : WebSocketService) (channel : AttemptID) (closeCode : Option Nat) : WebSocketService :=
  if s.channels channel = .established then
    let dropped := { s with channels := Function.update s.channels channel (.closed closeCode) }
    if s.listened channel then
      { dropped with listened := Function.update s.listened channel false }.onDisconnected
    else dropped
  else s

/-- A handshake succeeds after `connect` has given it up. -/
def lateHandshake (s : WebSocketService) (channel : AttemptID) : WebSocketService :=
  if s.channels channel = .abandoned then
    { s with channels := Function.update s.channels channel .established }
  else s

/-- A call up to its first `await`. -/
def call (dart : DartLibrary) (s : WebSocketService) : ServiceCall → WebSocketService × List ServiceAct
  | .configure host port token => (s.configure dart host port token, [])
  | .connect host port force => s.connect dart host port force
  | .disconnect => (s.disconnect, [])
  | .dispose => (s.dispose, [])
  | .signIn token => s.signIn token
  | .reconnectTimer => s.reconnect
  | .response request ok => (s.respond request ok, [])
  | .dropped channel closeCode => (s.drop channel closeCode, [])
  | .lateHandshake channel => (s.lateHandshake channel, [])

/-- What runs from one `await` to the next, or `none` while the future is open. -/
def perform (dart : DartLibrary) (s : WebSocketService) (x : Handshake) :
    ServiceAct → Option (WebSocketService × List ServiceAct)
  | .call c => some (s.call dart c)
  | .connecting completer =>
    match s.completers completer with
    | .completed => some (s, [])
    | .failed => some s.attempt
    | .unused | .pending => none
  | .ready channel =>
    match x with
    | .succeeded => some (s.opened channel)
    | .failed =>
      some ({ s with channels := Function.update s.channels channel (.closed none) }.fail channel, [])
    | .timedOut =>
      some ({ s with channels := Function.update s.channels channel .abandoned }.fail channel, [])
  | .authenticated channel request token =>
    match s.requests request with
    | .completed => some ((s.signedIn (some token)).finish channel, [])
    | .failed => some (s.fail channel, [])
    | .unused | .pending => none
  | .signedIn request token =>
    match s.requests request with
    | .completed => some (s.signedIn token, [])
    | .failed => some (s, [])
    | .unused | .pending => none

/-- The service, with any number of calls at a time. A routine is one caller. -/
def system (dart : DartLibrary) : Goroutines Nat WebSocketService (Nat × ServiceCall) ServiceAct Handshake where
  owner := Prod.fst
  program := fun _ request => [.call request.2]
  perform := fun s _ a x => s.perform dart x a

/-- The service, and what its callers are waiting for. -/
abbrev State := Goroutines.Config Nat WebSocketService ServiceAct

/-- The next thing the event loop does. -/
abbrev Turn := Goroutines.Turn Nat (Nat × ServiceCall) Handshake

/-- A new service after a schedule. -/
def after (dart : DartLibrary) (ts : List Turn) : State :=
  (system dart).machine.run (Goroutines.idle new) ts

end WebSocketService

end low_latency_voice.client
