import LowLatencyVoice.Lib.Program
import LowLatencyVoice.Audio.RouterLaws

open low_latency_voice.model low_latency_voice.storage

namespace low_latency_voice.audio.regions

/-- What the calls made for a datagram find: the router, the clock, and the statement
that fails. -/
structure World (Addr : Type) where
  router : Router Addr
  now : Time
  fault : Fault

/-- The calls made for a datagram. A call holds its lock from its start to its end, or is
one read or write through a session pointer. -/
inductive Call (Addr : Type) where
  | getByUser (userID : UInt32)
  | getByAddr (addr : Addr)
  | userID (ref : SessionRef)
  | channelID (ref : SessionRef)
  | setChannelID (ref : SessionRef) (channelID : UInt32)
  | getAddr (ref : SessionRef)
  | touch (ref : SessionRef)
  | isMuted (ref : SessionRef)
  | isDeafened (ref : SessionRef)
  | updateSpeakingState (ref : SessionRef) (speaking : Bool) (energy : UInt8)
  | updateAddr (userID : UInt32) (addr : Addr)
  | getChannelPeers (channelID excludeUserID : UInt32)
  | activatePending (token : Token) (userID channelID : UInt32) (addr : Addr)
  | consumeVoiceToken (token : Token)
  | registerSession (userID channelID ssrc : UInt32) (addr : Addr)
  | broadcastVoiceState (notice : VoiceStateNotice)
  | writeTo (bytes : GoBytes) (addr : Addr)

variable {Addr : Type}

/-- What a call returns. -/
abbrev Call.Answer : Call Addr → Type
  | .getByUser _ | .getByAddr _ => Option SessionRef
  | .userID _ | .channelID _ => UInt32
  | .getAddr _ => Option Addr
  | .isMuted _ | .isDeafened _ | .updateSpeakingState .. | .activatePending .. => Bool
  | .getChannelPeers .. => List SessionRef
  | .consumeVoiceToken _ => Option VoiceToken
  | _ => Unit

namespace World

/-- A call on the session manager that answers nothing. -/
def onSessions (w : World Addr) (f : SessionManager Addr → SessionManager Addr) : World Addr :=
  { w with router := { w.router with sessions := f w.router.sessions } }

/-- The object a session pointer points to. -/
def session (w : World Addr) (ref : SessionRef) : Session Addr := w.router.sessions.heap ref

end World

/-- What a call answers and leaves. -/
def Call.run [DecidableEq Addr] : (k : Call Addr) → World Addr → k.Answer × World Addr
  | .getByUser u, w => (w.router.sessions.getByUser u, w)
  | .getByAddr addr, w => (w.router.sessions.getByAddr (some addr), w)
  | .userID ref, w => ((w.session ref).userID, w)
  | .channelID ref, w => ((w.session ref).channelID, w)
  | .setChannelID ref c, w => ((), w.onSessions fun sm => sm.modify ref fun s => { s with channelID := c })
  | .getAddr ref, w => ((w.session ref).addr, w)
  | .touch ref, w => ((), w.onSessions fun sm => sm.modify ref fun s => s.touch w.now)
  | .isMuted ref, w => ((w.session ref).serverMuted, w)
  | .isDeafened ref, w => ((w.session ref).serverDeafened, w)
  | .updateSpeakingState ref speaking energy, w =>
    let (session, changed) := (w.session ref).updateSpeakingState w.now speaking energy
    (changed, w.onSessions fun sm => sm.modify ref fun _ => session)
  | .updateAddr u addr, w => ((), w.onSessions fun sm => sm.updateAddr w.now u (some addr))
  | .getChannelPeers c u, w => (w.router.sessions.getChannelPeers c u, w)
  | .activatePending token u c addr, w =>
    let (sm, result) := w.router.sessions.activatePending w.now token u c (some addr)
    (result.isOk, w.onSessions fun _ => sm)
  | .consumeVoiceToken token, w =>
    match w.router.validator with
    | none => (none, w)
    | some rows =>
      let (rows, result) := storage.consumeVoiceToken rows w.now w.fault token
      (result.toOption, { w with router := { w.router with validator := some rows } })
  | .registerSession u c ssrc addr, w =>
    ((), w.onSessions fun sm => sm.install (newSession w.now u c ssrc (some addr)))
  | .broadcastVoiceState _, w => ((), w)
  | .writeTo _ _, w => ((), w)

/-- What the socket and the notifier see of a call. -/
def Call.written : Call Addr → List (GoBytes × Addr)
  | .writeTo bytes addr => [(bytes, addr)]
  | _ => []

def Call.notified : Call Addr → List VoiceStateNotice
  | .broadcastVoiceState notice => [notice]
  | _ => []

/-- The parts of a router that stay as they are while it serves. -/
structure Parts where
  validator : Bool
  notifier : Bool
  writer : Bool

abbrev Prog (Addr α : Type) := Program (Call Addr) Call.Answer α

/-- A call for a datagram. -/
abbrev call (k : Call Addr) : Prog Addr k.Answer := .perform k

/-- One turn of the forwarding loop. -/
def forward (rawData : GoBytes) (peer : SessionRef) : Prog Addr Unit := do
  if ← call (.isDeafened peer) then
    return ()
  else
    match ← call (.getAddr peer) with
    | none => return ()
    | some peerAddr => call (.writeTo rawData peerAddr)

/-- The forwarding loop. -/
def route (parts : Parts) (pkt : Packet) (rawData : GoBytes) : Prog Addr (Except AudioError Unit) := do
  let peers ← call (.getChannelPeers pkt.channelID pkt.senderID)
  if peers.isEmpty || !parts.writer then
    return .ok ()
  else
    Program.forEach peers (forward rawData)
    return .ok ()

/-- `handleVoice` once the sender may speak. -/
def speak (parts : Parts) (pkt : Packet) (rawData : GoBytes) (session : SessionRef) :
    Prog Addr (Except AudioError Unit) := do
  if (← call (.updateSpeakingState session pkt.vad pkt.energyLevel)) && parts.notifier then
    call (.broadcastVoiceState ⟨pkt.channelID, pkt.senderID, pkt.vad, pkt.energyLevel⟩)
    route parts pkt rawData
  else
    route parts pkt rawData

/-- `handleVoice` from the mute check on. -/
def gate (parts : Parts) (pkt : Packet) (rawData : GoBytes) (session : SessionRef) :
    Prog Addr (Except AudioError Unit) := do
  if ← call (.isMuted session) then
    return .error .userServerMuted
  else
    speak parts pkt rawData session

variable [DecidableEq Addr]

/-- `handleVoice` once it has a session. -/
def handleSession (parts : Parts) (pkt : Packet) (rawData : GoBytes) (srcAddr : Addr) (session : SessionRef) :
    Prog Addr (Except AudioError Unit) := do
  if (← call (.channelID session)) ≠ pkt.channelID then
    return .error .channelMismatch
  else
    if (← call (.getAddr session)) ≠ some srcAddr then
      call (.updateAddr pkt.senderID srcAddr)
      gate parts pkt rawData session
    else
      gate parts pkt rawData session

def handleVoice (parts : Parts) (pkt : Packet) (rawData : GoBytes) (srcAddr : Addr) :
    Prog Addr (Except AudioError Unit) := do
  match ← call (.getByUser pkt.senderID) with
  | some session => handleSession parts pkt rawData srcAddr session
  | none =>
    match ← call (.getByAddr srcAddr) with
    | none => return .error .sessionNotFound
    | some session =>
      if (← call (.userID session)) ≠ pkt.senderID then
        return .error .sessionNotFound
      else
        handleSession parts pkt rawData srcAddr session

/-- The keep-alive of `handlePing` once it has a session. -/
def keepAlive (srcAddr : Addr) (session : SessionRef) : Prog Addr Unit := do
  if (← call (.getAddr session)) ≠ some srcAddr then
    let userID ← call (.userID session)
    call (.updateAddr userID srcAddr)
  else
    call (.touch session)

/-- The answer to a ping. -/
def pong (parts : Parts) (pkt : Packet) (srcAddr : Addr) : Prog Addr (Except AudioError Unit) := do
  if parts.writer && (Router.pong pkt).encodeInto maxPacketSize != [] then
    call (.writeTo ((Router.pong pkt).encodeInto maxPacketSize) srcAddr)
    return .ok ()
  else
    return .ok ()

def handlePing (parts : Parts) (pkt : Packet) (srcAddr : Addr) : Prog Addr (Except AudioError Unit) := do
  match ← call (.getByUser pkt.senderID) with
  | some session =>
    keepAlive srcAddr session
    pong parts pkt srcAddr
  | none =>
    match ← call (.getByAddr srcAddr) with
    | none => pong parts pkt srcAddr
    | some session =>
      keepAlive srcAddr session
      pong parts pkt srcAddr

/-- Branch 3 of the handshake. -/
def fallback (pkt : Packet) (srcAddr : Addr) : Prog Addr (Except AudioError Unit) := do
  match ← call (.getByUser pkt.senderID) with
  | some existing =>
    call (.setChannelID existing pkt.channelID)
    call (.updateAddr pkt.senderID srcAddr)
    return .ok ()
  | none =>
    call (.registerSession pkt.senderID pkt.channelID 0 srcAddr)
    return .ok ()

/-- Branches 2 and 3: the stored token, if a validator is set. -/
def redeem (parts : Parts) (tokenStr : Token) (pkt : Packet) (srcAddr : Addr) :
    Prog Addr (Except AudioError Unit) := do
  if parts.validator && tokenStr != [] then
    match ← call (.consumeVoiceToken tokenStr) with
    | none => fallback pkt srcAddr
    | some vt =>
      if vt.userID = pkt.senderID ∧ vt.channelID = pkt.channelID then
        call (.registerSession vt.userID vt.channelID vt.ssrc srcAddr)
        return .ok ()
      else
        fallback pkt srcAddr
  else
    fallback pkt srcAddr

def handleHandshake (parts : Parts) (pkt : Packet) (srcAddr : Addr) : Prog Addr (Except AudioError Unit) := do
  let tokenStr := GoBytes.trimSpace pkt.payload
  if ← call (.activatePending tokenStr pkt.senderID pkt.channelID srcAddr) then
    return .ok ()
  else
    redeem parts tokenStr pkt srcAddr

/-- `HandlePacket` as the calls it makes. -/
def handlePacket (parts : Parts) (data : GoBytes) (srcAddr : Addr) : Prog Addr (Except AudioError Unit) :=
  match decodeInto data with
  | .error e => return .error e
  | .ok pkt =>
    if pkt.type = typeVoice then handleVoice parts pkt data srcAddr
    else if pkt.type = typePing then handlePing parts pkt srcAddr
    else if pkt.type = typeHandshake then handleHandshake parts pkt srcAddr
    else if pkt.type = typePong then return .ok ()
    else return .error .invalidType

section alone

/-- By itself from `w`, a program returns `a` and leaves `w'`. -/
structure Alone {α : Type} (p : Prog Addr α) (w : World Addr) (a : α) (w' : World Addr)
    (written : List (GoBytes × Addr)) (notified : List VoiceStateNotice) : Prop where
  result : (p.exec Call.run w).2 = (a, w')
  written : Program.shown Call.written (p.exec Call.run w).1 = written
  notified : Program.shown Call.notified (p.exec Call.run w).1 = notified

variable {α β : Type} {w w₁ w' : World Addr} {a : α} {written written' : List (GoBytes × Addr)}
  {notified notified' : List VoiceStateNotice}

theorem Alone.pure (a : α) (w : World Addr) : Alone (pure a : Prog Addr α) w a w [] [] := ⟨rfl, rfl, rfl⟩

/-- A call and what comes after it. -/
theorem Alone.call {k : Call Addr} {answer : k.Answer} {f : k.Answer → Prog Addr α} (hrun : k.run w = (answer, w₁))
    (h : Alone (f answer) w₁ a w' written notified) :
    Alone (regions.call k >>= f) w a w' (k.written ++ written) (k.notified ++ notified) := by
  have hexec : (regions.call k >>= f).exec Call.run w =
      (⟨k, answer⟩ :: ((f answer).exec Call.run w₁).1, ((f answer).exec Call.run w₁).2) := by
    change (_ :: ((f (k.run w).1).exec Call.run (k.run w).2).1, _) = _
    rw [hrun]
    rfl
  exact ⟨by rw [hexec]; exact h.result, by rw [hexec, ← h.written]; rfl, by rw [hexec, ← h.notified]; rfl⟩

/-- A call that nobody outside sees. -/
theorem Alone.silent {k : Call Addr} {answer : k.Answer} {f : k.Answer → Prog Addr α}
    (hrun : k.run w = (answer, w₁)) (hwritten : k.written = []) (hnotified : k.notified = [])
    (h : Alone (f answer) w₁ a w' written notified) :
    Alone (regions.call k >>= f) w a w' written notified := by
  have hcall := Alone.call hrun h
  rw [hwritten, hnotified] at hcall
  exact hcall

/-- A call at the end. -/
theorem Alone.last {k : Call Addr} {answer : k.Answer} (hrun : k.run w = (answer, w')) :
    Alone (regions.call k) w answer w' k.written k.notified := by
  have h := Alone.call hrun (Alone.pure answer w')
  rw [List.append_nil, List.append_nil] at h
  exact h

theorem Alone.bind {p : Prog Addr α} {f : α → Prog Addr β} {b : β} (hp : Alone p w a w₁ written notified)
    (h : Alone (f a) w₁ b w' written' notified') :
    Alone (p >>= f) w b w' (written ++ written') (notified ++ notified') := by
  have hexec : (p >>= f).exec Call.run w = _ := Program.exec_bind Call.run p f w
  rw [hp.result] at hexec
  refine ⟨?_, ?_, ?_⟩
  · rw [hexec]
    exact h.result
  · rw [hexec, Program.shown_append, hp.written, h.written]
  · rw [hexec, Program.shown_append, hp.notified, h.notified]

/-- What the loop writes for one peer. -/
def egress (w : World Addr) (rawData : GoBytes) (peer : SessionRef) : List (GoBytes × Addr) :=
  if (w.session peer).serverDeafened then [] else ((w.session peer).addr.map fun a => (rawData, a)).toList

omit [DecidableEq Addr] in
theorem forward_eq_flatMap (w : World Addr) (rawData : GoBytes) (peers : List SessionRef) :
    Router.forward w.router.sessions peers rawData = peers.flatMap (egress w rawData) := by
  induction peers with
  | nil => rfl
  | cons peer rest ih =>
    rw [List.flatMap_cons, ← ih, Router.forward, Router.forward, List.filterMap_cons, egress, World.session]
    cases (w.router.sessions.heap peer).serverDeafened with
    | true => rfl
    | false => cases (w.router.sessions.heap peer).addr <;> rfl

theorem alone_forward (rawData : GoBytes) (peer : SessionRef) (w : World Addr) :
    Alone (forward rawData peer) w () w (egress w rawData peer) [] := by
  unfold forward egress
  refine .silent rfl rfl rfl ?_
  cases (w.session peer).serverDeafened with
  | true => exact .pure () w
  | false =>
    refine .silent rfl rfl rfl ?_
    cases (w.session peer).addr with
    | none => exact .pure () w
    | some a => exact .last (k := .writeTo rawData a) rfl

theorem alone_forEach (rawData : GoBytes) (peers : List SessionRef) (w : World Addr) :
    Alone (Program.forEach peers (forward rawData)) w () w (peers.flatMap (egress w rawData)) [] := by
  induction peers with
  | nil => exact .pure () w
  | cons peer rest ih => exact (alone_forward rawData peer w).bind ih

/-- The parts of a router. -/
def partsOf (r : Router Addr) : Parts := ⟨r.validator.isSome, r.notifier, r.writer⟩

/-- By itself, a program is an operation of the router. -/
def Is (p : Prog Addr (Except AudioError Unit)) (w : World Addr) (op : Router Addr × Outcome Addr) : Prop :=
  Alone p w op.2.result { w with router := op.1 } op.2.written op.2.notified

theorem alone_route (w : World Addr) (pkt : Packet) (rawData : GoBytes) :
    Alone (route (partsOf w.router) pkt rawData) w (.ok ()) w (if w.router.writer then
      Router.forward w.router.sessions (w.router.sessions.getChannelPeers pkt.channelID pkt.senderID) rawData
      else []) [] := by
  unfold route
  refine .silent rfl rfl rfl ?_
  simp only [partsOf, forward_eq_flatMap]
  by_cases hwriter : w.router.writer = true
  · cases hpeers : w.router.sessions.getChannelPeers pkt.channelID pkt.senderID with
    | nil => simpa using Alone.pure (Except.ok ()) w
    | cons peer rest =>
      simp only [List.isEmpty_cons, Bool.false_or, hwriter, Bool.not_true]
      rw [← List.append_nil (List.flatMap _ _)]
      refine (alone_forEach rawData (peer :: rest) w).bind ?_
      exact .pure _ w
  · simpa [hwriter] using Alone.pure (Except.ok ()) w

/-- `Router.handleVoice` once the sender may speak. -/
def spoken (w : World Addr) (pkt : Packet) (rawData : GoBytes) (ref : SessionRef) : Router Addr × Outcome Addr :=
  let (session, changed) := (w.session ref).updateSpeakingState w.now pkt.vad pkt.energyLevel
  let sm := w.router.sessions.modify ref fun _ => session
  let notified := if changed && w.router.notifier then
    [⟨pkt.channelID, pkt.senderID, pkt.vad, pkt.energyLevel⟩] else []
  let peers := sm.getChannelPeers pkt.channelID pkt.senderID
  let written := if w.router.writer then Router.forward sm peers rawData else []
  ({ w.router with sessions := sm }, ⟨.ok (), written, notified⟩)

/-- From the mute check on. -/
def gated (w : World Addr) (pkt : Packet) (rawData : GoBytes) (ref : SessionRef) : Router Addr × Outcome Addr :=
  if (w.session ref).serverMuted then (w.router, .silent (.error .userServerMuted))
  else spoken w pkt rawData ref

theorem is_speak (w : World Addr) (pkt : Packet) (rawData : GoBytes) (ref : SessionRef) :
    Is (speak (partsOf w.router) pkt rawData ref) w (spoken w pkt rawData ref) := by
  unfold speak spoken
  set session := (w.session ref).updateSpeakingState w.now pkt.vad pkt.energyLevel with hsession
  have hrun : Call.run (.updateSpeakingState ref pkt.vad pkt.energyLevel) w =
      (session.2, w.onSessions fun sm => sm.modify ref fun _ => session.1) := rfl
  refine .silent hrun rfl rfl ?_
  have hroute := alone_route (w.onSessions fun sm => sm.modify ref fun _ => session.1) pkt rawData
  by_cases hnotify : (session.2 && w.router.notifier) = true
  · simp only [hnotify, partsOf, if_true]
    refine .call (k := .broadcastVoiceState ⟨pkt.channelID, pkt.senderID, pkt.vad, pkt.energyLevel⟩) rfl ?_
    exact hroute
  · simp only [hnotify, partsOf]
    exact hroute

theorem is_gate (w : World Addr) (pkt : Packet) (rawData : GoBytes) (ref : SessionRef) :
    Is (gate (partsOf w.router) pkt rawData ref) w (gated w pkt rawData ref) := by
  unfold gate gated
  refine .silent rfl rfl rfl ?_
  cases (w.session ref).serverMuted with
  | true => exact .pure _ w
  | false => exact is_speak w pkt rawData ref

/-- The sender's session follows its voice before the mute check. -/
theorem is_handleSession (w : World Addr) (pkt : Packet) (rawData : GoBytes) (srcAddr : Addr) (ref : SessionRef) :
    Is (handleSession (partsOf w.router) pkt rawData srcAddr ref) w
      (if (w.session ref).channelID ≠ pkt.channelID then (w.router, .silent (.error .channelMismatch))
      else gated (w.onSessions fun sm => Router.roam sm w.now ref pkt.senderID srcAddr) pkt rawData ref) := by
  unfold handleSession
  refine .silent rfl rfl rfl ?_
  by_cases hroom : (w.session ref).channelID = pkt.channelID
  · simp only [hroom, ne_eq, not_true_eq_false, if_false]
    refine .silent rfl rfl rfl ?_
    by_cases haddr : (w.session ref).addr = some srcAddr
    · have hstays : (w.onSessions fun sm => Router.roam sm w.now ref pkt.senderID srcAddr) = w := by
        have hroam : Router.roam w.router.sessions w.now ref pkt.senderID srcAddr = w.router.sessions :=
          if_pos haddr
        simp only [World.onSessions, hroam]
      rw [if_neg (not_not.mpr haddr), hstays]
      exact is_gate w pkt rawData ref
    · have hmoves : Router.roam w.router.sessions w.now ref pkt.senderID srcAddr =
          w.router.sessions.updateAddr w.now pkt.senderID (some srcAddr) := if_neg haddr
      rw [if_pos haddr]
      refine .silent (k := .updateAddr pkt.senderID srcAddr) rfl rfl rfl ?_
      have hgate := is_gate (w.onSessions fun sm => Router.roam sm w.now ref pkt.senderID srcAddr) pkt rawData ref
      simp only [World.onSessions, hmoves] at hgate ⊢
      exact hgate
  · simp only [ne_eq, hroom, not_false_eq_true, if_true]
    exact .pure _ w

theorem is_handleVoice (w : World Addr) (pkt : Packet) (rawData : GoBytes) (srcAddr : Addr) :
    Is (handleVoice (partsOf w.router) pkt rawData srcAddr) w
      (w.router.handleVoice w.now pkt rawData srcAddr) := by
  have hsession : ∀ ref, Router.voiceSession w.router.sessions pkt srcAddr = some ref →
      Is (handleSession (partsOf w.router) pkt rawData srcAddr ref) w
        (w.router.handleVoice w.now pkt rawData srcAddr) := by
    intro ref hfound
    have hop : w.router.handleVoice w.now pkt rawData srcAddr =
        (if (w.session ref).channelID ≠ pkt.channelID then (w.router, .silent (.error .channelMismatch))
        else gated (w.onSessions fun sm => Router.roam sm w.now ref pkt.senderID srcAddr) pkt rawData ref) := by
      unfold Router.handleVoice
      rw [hfound]
      rfl
    rw [hop]
    exact is_handleSession w pkt rawData srcAddr ref
  have hlost : Router.voiceSession w.router.sessions pkt srcAddr = none →
      w.router.handleVoice w.now pkt rawData srcAddr = (w.router, .silent (.error .sessionNotFound)) := by
    intro hnone
    unfold Router.handleVoice
    rw [hnone]
  unfold handleVoice
  refine .silent rfl rfl rfl ?_
  unfold Router.voiceSession at hsession hlost
  cases huser : w.router.sessions.getByUser pkt.senderID with
  | some ref =>
    simp only [huser] at hsession
    exact hsession ref rfl
  | none =>
    simp only [huser] at hsession hlost
    refine .silent rfl rfl rfl ?_
    cases haddr : w.router.sessions.getByAddr (some srcAddr) with
    | none =>
      simp only [haddr] at hlost
      rw [hlost trivial]
      exact .pure _ w
    | some ref =>
      simp only [haddr] at hsession hlost
      refine .silent rfl rfl rfl ?_
      by_cases howner : (w.session ref).userID = pkt.senderID
      · rw [if_neg (not_not.mpr howner)]
        exact hsession ref (if_pos howner)
      · rw [if_pos howner, hlost (if_neg howner)]
        exact .pure _ w

theorem is_pong (w : World Addr) (pkt : Packet) (srcAddr : Addr) :
    Is (pong (partsOf w.router) pkt srcAddr) w
      (w.router, ⟨.ok (), if w.router.writer && (Router.pong pkt).encodeInto maxPacketSize != [] then
        [((Router.pong pkt).encodeInto maxPacketSize, srcAddr)] else [], []⟩) := by
  unfold pong Is
  simp only [partsOf]
  by_cases hanswer : (w.router.writer && (Router.pong pkt).encodeInto maxPacketSize != []) = true
  · simp only [hanswer, if_true]
    refine .call (k := .writeTo ((Router.pong pkt).encodeInto maxPacketSize) srcAddr) rfl ?_
    exact .pure _ w
  · simp only [hanswer]
    exact .pure _ w

theorem alone_keepAlive (w : World Addr) (srcAddr : Addr) (ref : SessionRef) :
    Alone (keepAlive srcAddr ref) w () (w.onSessions fun sm =>
      if (sm.heap ref).addr = some srcAddr then sm.modify ref fun s => s.touch w.now
      else sm.updateAddr w.now (sm.heap ref).userID (some srcAddr)) [] [] := by
  unfold keepAlive
  refine .silent rfl rfl rfl ?_
  by_cases haddr : (w.session ref).addr = some srcAddr
  · have htouch : (w.router.sessions.heap ref).addr = some srcAddr := haddr
    rw [if_neg (not_not.mpr haddr)]
    simp only [World.onSessions, if_pos htouch]
    exact .last (k := .touch ref) rfl
  · have hmoves : ¬ (w.router.sessions.heap ref).addr = some srcAddr := haddr
    rw [if_pos haddr]
    simp only [World.onSessions, if_neg hmoves]
    refine .silent (k := .userID ref) rfl rfl rfl ?_
    exact .last (k := .updateAddr (w.session ref).userID srcAddr) rfl

theorem is_handlePing (w : World Addr) (pkt : Packet) (srcAddr : Addr) :
    Is (handlePing (partsOf w.router) pkt srcAddr) w (w.router.handlePing w.now pkt srcAddr) := by
  have hrefreshed : ∀ sm, Router.refresh w.router.sessions w.now pkt srcAddr = sm →
      Is (pong (partsOf w.router) pkt srcAddr) { w with router := { w.router with sessions := sm } }
        (w.router.handlePing w.now pkt srcAddr) := by
    rintro sm rfl
    exact is_pong (w.onSessions fun sm => Router.refresh sm w.now pkt srcAddr) pkt srcAddr
  have hkeep : ∀ ref, (w.router.sessions.getByUser pkt.senderID).or
      (w.router.sessions.getByAddr (some srcAddr)) = some ref →
      Is (do keepAlive srcAddr ref; pong (partsOf w.router) pkt srcAddr) w
        (w.router.handlePing w.now pkt srcAddr) := by
    intro ref hfound
    refine (alone_keepAlive w srcAddr ref).bind ?_
    refine hrefreshed _ ?_
    unfold Router.refresh
    rw [hfound]
  unfold handlePing
  refine .silent rfl rfl rfl ?_
  cases huser : w.router.sessions.getByUser pkt.senderID with
  | some ref =>
    rw [huser] at hkeep
    exact hkeep ref rfl
  | none =>
    refine .silent rfl rfl rfl ?_
    rw [huser] at hkeep
    cases haddr : w.router.sessions.getByAddr (some srcAddr) with
    | none =>
      refine hrefreshed w.router.sessions ?_
      unfold Router.refresh
      rw [huser, haddr]
      rfl
    | some ref =>
      rw [haddr] at hkeep
      exact hkeep ref rfl

theorem is_fallback (w : World Addr) (pkt : Packet) (srcAddr : Addr) :
    Is (fallback pkt srcAddr) w
      ({ w.router with sessions := Router.fallback w.router.sessions w.now pkt srcAddr }, .silent (.ok ())) := by
  unfold fallback Router.fallback
  refine .silent rfl rfl rfl ?_
  cases w.router.sessions.getByUser pkt.senderID with
  | some existing =>
    refine .silent (k := .setChannelID existing pkt.channelID) rfl rfl rfl ?_
    refine .silent (k := .updateAddr pkt.senderID srcAddr) rfl rfl rfl ?_
    exact .pure _ _
  | none =>
    refine .silent (k := .registerSession pkt.senderID pkt.channelID 0 srcAddr) rfl rfl rfl ?_
    exact .pure _ _

theorem is_redeem (w : World Addr) (tokenStr : Token) (pkt : Packet) (srcAddr : Addr) :
    Is (redeem (partsOf w.router) tokenStr pkt srcAddr) w
      (match Router.consumeStored w.router w.now w.fault tokenStr pkt with
      | (r, some vt) =>
        ({ r with sessions := r.sessions.install (newSession w.now vt.userID vt.channelID vt.ssrc (some srcAddr)) },
          .silent (.ok ()))
      | (r, none) =>
        ({ r with sessions := Router.fallback r.sessions w.now pkt srcAddr }, .silent (.ok ()))) := by
  obtain ⟨⟨sm, validator, notifier, writer⟩, now, fault⟩ := w
  unfold redeem Router.consumeStored
  cases validator with
  | none => exact is_fallback ⟨⟨sm, none, notifier, writer⟩, now, fault⟩ pkt srcAddr
  | some rows =>
    by_cases htext : tokenStr = []
    · simp only [partsOf, htext, if_true]
      exact is_fallback ⟨⟨sm, some rows, notifier, writer⟩, now, fault⟩ pkt srcAddr
    · have hpresent : (true && tokenStr != []) = true := by simpa using htext
      simp only [partsOf, Option.isSome_some, hpresent, if_true, if_neg htext]
      cases hconsume : storage.consumeVoiceToken rows now fault tokenStr with
      | mk rows' result =>
        have hrun : Call.run (.consumeVoiceToken tokenStr) ⟨⟨sm, some rows, notifier, writer⟩, now, fault⟩ =
            (result.toOption, (⟨⟨sm, some rows', notifier, writer⟩, now, fault⟩ : World Addr)) := by
          simp only [Call.run, hconsume]
        refine .silent hrun rfl rfl ?_
        have hfall := is_fallback ⟨⟨sm, some rows', notifier, writer⟩, now, fault⟩ pkt srcAddr
        cases result with
        | error e => exact hfall
        | ok vt =>
          simp only [Except.toOption]
          by_cases hnames : vt.userID = pkt.senderID ∧ vt.channelID = pkt.channelID
          · simp only [if_pos hnames]
            refine .silent (k := .registerSession vt.userID vt.channelID vt.ssrc srcAddr) rfl rfl rfl ?_
            exact .pure _ _
          · simp only [if_neg hnames]
            exact hfall

theorem is_handleHandshake (w : World Addr) (pkt : Packet) (srcAddr : Addr) :
    Is (handleHandshake (partsOf w.router) pkt srcAddr) w
      (w.router.handleHandshake w.now w.fault pkt srcAddr) := by
  unfold handleHandshake Router.handleHandshake
  have hrun : Call.run (.activatePending (GoBytes.trimSpace pkt.payload) pkt.senderID pkt.channelID srcAddr) w =
      ((w.router.sessions.activatePending w.now (GoBytes.trimSpace pkt.payload) pkt.senderID pkt.channelID
          (some srcAddr)).2.isOk,
        w.onSessions fun sm => (sm.activatePending w.now (GoBytes.trimSpace pkt.payload) pkt.senderID
          pkt.channelID (some srcAddr)).1) := rfl
  refine .silent hrun rfl rfl ?_
  simp only [World.onSessions]
  cases w.router.sessions.activatePending w.now (GoBytes.trimSpace pkt.payload) pkt.senderID pkt.channelID
    (some srcAddr) with
  | mk sm result =>
    cases result with
    | ok session => exact .pure _ _
    | error e => exact is_redeem (w.onSessions fun _ => sm) (GoBytes.trimSpace pkt.payload) pkt srcAddr

/-- A datagram whose calls nobody comes between is handled as one step. -/
theorem is_handlePacket (w : World Addr) (data : GoBytes) (srcAddr : Addr) :
    Is (handlePacket (partsOf w.router) data srcAddr) w
      (w.router.handlePacket w.now w.fault data srcAddr) := by
  unfold handlePacket Router.handlePacket
  cases decodeInto data with
  | error e => exact .pure _ w
  | ok pkt =>
    simp only
    split
    · exact is_handleVoice w pkt data srcAddr
    · split
      · exact is_handlePing w pkt srcAddr
      · split
        · exact is_handleHandshake w pkt srcAddr
        · split
          · exact .pure _ w
          · exact .pure _ w

end alone

end low_latency_voice.audio.regions
