import LowLatencyVoice.Lib.Goroutines
import LowLatencyVoice.Lib.SyncPool
import LowLatencyVoice.Audio.Codec
import LowLatencyVoice.Plane.Events

open low_latency_voice.model low_latency_voice.storage low_latency_voice.plane

namespace low_latency_voice.audio

/-- `copy(dst[at:], src)` for a source that fits. -/
def overwrite (dst : GoBytes) (start : Nat) (src : GoBytes) : GoBytes :=
  dst.take start ++ src ++ dst.drop (start + src.length)

/-- `EncodeInto` over what the buffer holds, with the number of bytes written. -/
def Packet.encodeOver (p : Packet) (dst : GoBytes) : GoBytes × Nat :=
  let totalLen := headerSize + p.payload.length
  if dst.length < totalLen then (dst, 0)
  else
    let header :=
      [if p.magic = 0 then magicByte else p.magic,
        if p.version = 0 then protocolVersion else p.version, p.type,
        encodeFlags p.vad p.energyLevel] ++
      GoBytes.putUint32 p.senderID ++ GoBytes.putUint32 p.channelID ++
      GoBytes.putUint16 p.sequence ++ GoBytes.putUint16 (UInt16.ofNat p.payload.length) ++
      GoBytes.putUint32 p.timestamp
    (overwrite (overwrite dst 0 header) headerSize p.payload, totalLen)

/-- A slice of a pooled buffer. -/
structure BufferSlice where
  buffer : Nat
  start : Nat
  len : Nat

/-- A pooled `Packet`. Its payload points into a buffer, or is nil. -/
structure PooledPacket where
  fields : Packet
  payload : Option BufferSlice

/-- `Reset`. -/
def PooledPacket.reset : PooledPacket := ⟨⟨0, 0, 0, 0, false, 0, 0, 0, 0, 0, 0, []⟩, none⟩

namespace pool

/-- The memory of the audio server: the router, both pools and what their objects hold.
`handled` has the calls on the router in their order, each with the goroutine it is from;
`received` has the datagrams each goroutine has read for the router, `written` its
`WriteTo` calls. -/
structure Memory (Addr : Type) where
  router : Router Addr
  bufferPool : SyncPool Nat
  packetPool : SyncPool Nat
  buffers : Nat → GoBytes
  packets : Nat → PooledPacket
  received : Nat → List (GoBytes × Addr)
  handled : List (Nat × PlaneEvent Addr)
  written : Nat → List (GoBytes × Addr)
  notified : List VoiceStateNotice

/-- What is decided outside: the object a pool gives, what the socket has, the clock, and
the statement that fails. -/
structure Choice (Addr : Type) where
  pick : Nat
  datagram : Option (GoBytes × Addr)
  now : Time
  fault : Fault

/-- The steps of a goroutine. -/
inductive Act (Addr : Type) where
  | getBuffer
  | readFrom (buf : Nat)
  | getPacket (buf n : Nat) (srcAddr : Addr)
  | decodeInto (pkt buf n : Nat) (srcAddr : Addr)
  | handle (pkt buf n : Nat) (srcAddr : Addr)
  | getPongBuffer (pkt : Nat) (srcAddr : Addr)
  | getPongPacket (pkt pongBuf : Nat) (srcAddr : Addr)
  | fillPong (pkt pongBuf pongPkt : Nat) (srcAddr : Addr)
  | encodeInto (pongBuf pongPkt : Nat) (srcAddr : Addr)
  | writeTo (pongBuf written : Nat) (srcAddr : Addr)
  | putPacket (pkt : Nat)
  | putBuffer (buf : Nat)
  | control (e : PlaneEvent Addr)
  | collect

/-- One round of `readLoop`, a call of the control plane, or the garbage collector. -/
inductive Request (Addr : Type) where
  | readLoop (g : Nat)
  | control (g : Nat) (e : PlaneEvent Addr)
  | collect (g : Nat)

def Request.owner {Addr : Type} : Request Addr → Nat
  | .readLoop g | .control g _ | .collect g => g

def Request.program {Addr : Type} : Request Addr → List (Act Addr)
  | .readLoop _ => [.getBuffer]
  | .control _ (.datagram ..) => []
  | .control _ e => [.control e]
  | .collect _ => [.collect]

namespace Memory

variable {Addr : Type}

/-- The bytes a slice has. -/
def bytes (m : Memory Addr) (s : BufferSlice) : GoBytes := ((m.buffers s.buffer).drop s.start).take s.len

/-- A pooled packet as the code reads it. -/
def packet (m : Memory Addr) (pkt : Nat) : Packet :=
  { (m.packets pkt).fields with payload := (m.packets pkt).payload.elim [] m.bytes }

/-- A new buffer is all zeros. -/
def getBuffer (m : Memory Addr) (g : Nat) (pick : Nat) : Memory Addr × Nat :=
  let (bufferPool, buf) := m.bufferPool.get g pick
  ({ m with
    bufferPool
    buffers := if m.bufferPool.made < bufferPool.made then
      Function.update m.buffers buf (List.replicate maxPacketSize 0) else m.buffers }, buf)

def putBuffer (m : Memory Addr) (buf : Nat) : Memory Addr := { m with bufferPool := m.bufferPool.put buf }

/-- `GetPacket`, which clears the packet. -/
def getPacket (m : Memory Addr) (g : Nat) (pick : Nat) : Memory Addr × Nat :=
  let (packetPool, pkt) := m.packetPool.get g pick
  ({ m with packetPool, packets := Function.update m.packets pkt .reset }, pkt)

/-- `PutPacket`, which clears it too. -/
def putPacket (m : Memory Addr) (pkt : Nat) : Memory Addr :=
  { m with packetPool := m.packetPool.put pkt, packets := Function.update m.packets pkt .reset }

/-- A call on the router by `g`, and what it leaves. -/
def record (m : Memory Addr) (g : Nat) (e : PlaneEvent Addr) (router : Router Addr)
    (written : List (GoBytes × Addr)) (notified : List VoiceStateNotice) : Memory Addr :=
  { m with
    router
    handled := m.handled ++ [(g, e)]
    written := Function.update m.written g (m.written g ++ written)
    notified := m.notified ++ notified }

variable [DecidableEq Addr]

/-- One step of `g`, with what it does next. -/
def act (m : Memory Addr) (g : Nat) (x : Choice Addr) : Act Addr → Memory Addr × List (Act Addr)
  | .getBuffer =>
    let (m, buf) := m.getBuffer g x.pick
    (m, [.readFrom buf, .putBuffer buf])
  | .readFrom buf =>
    match x.datagram with
    | none => (m, [])
    | some (data, srcAddr) =>
      -- the socket cuts off what the buffer has no room for
      let data := data.take maxPacketSize
      let m := { m with buffers := Function.update m.buffers buf (overwrite (m.buffers buf) 0 data) }
      if data.length < headerSize then (m, [])
      else
        ({ m with received := Function.update m.received g (m.received g ++ [(data, srcAddr)]) },
          [.getPacket buf data.length srcAddr])
  | .getPacket buf n srcAddr =>
    let (m, pkt) := m.getPacket g x.pick
    (m, [.decodeInto pkt buf n srcAddr, .putPacket pkt])
  | .decodeInto pkt buf n srcAddr =>
    let (fields, error) := (m.packet pkt).decodeInto ((m.buffers buf).take n)
    let payload := if error = none then some ⟨buf, headerSize, fields.payloadLen.toNat⟩
      else (m.packets pkt).payload
    let decoded := { m with packets := Function.update m.packets pkt ⟨{ fields with payload := [] }, payload⟩ }
    match error with
    | some _ =>
      (decoded.record g (.datagram x.now x.fault ((m.buffers buf).take n) srcAddr) m.router [] [], [])
    | none => (decoded, [.handle pkt buf n srcAddr])
  | .handle pkt buf n srcAddr =>
    let p := m.packet pkt
    let data := (m.buffers buf).take n
    let e : PlaneEvent Addr := .datagram x.now x.fault data srcAddr
    if p.type = typeVoice then
      let (router, outcome) := m.router.handleVoice x.now p data srcAddr
      (m.record g e router outcome.written outcome.notified, [])
    else if p.type = typePing then
      let router := { m.router with sessions := Router.refresh m.router.sessions x.now p srcAddr }
      (m.record g e router [] [], if m.router.writer then [.getPongBuffer pkt srcAddr] else [])
    else if p.type = typeHandshake then
      let (router, outcome) := m.router.handleHandshake x.now x.fault p srcAddr
      (m.record g e router outcome.written outcome.notified, [])
    else (m.record g e m.router [] [], [])
  | .getPongBuffer pkt srcAddr =>
    let (m, pongBuf) := m.getBuffer g x.pick
    (m, [.getPongPacket pkt pongBuf srcAddr, .putBuffer pongBuf])
  | .getPongPacket pkt pongBuf srcAddr =>
    let (m, pongPkt) := m.getPacket g x.pick
    (m, [.fillPong pkt pongBuf pongPkt srcAddr, .putPacket pongPkt])
  | .fillPong pkt pongBuf pongPkt srcAddr =>
    let filled := { Router.pong (m.packet pkt) with payload := [] }
    ({ m with packets := Function.update m.packets pongPkt ⟨filled, (m.packets pkt).payload⟩ },
      [.encodeInto pongBuf pongPkt srcAddr])
  | .encodeInto pongBuf pongPkt srcAddr =>
    let (bytes, written) := (m.packet pongPkt).encodeOver (m.buffers pongBuf)
    ({ m with buffers := Function.update m.buffers pongBuf bytes },
      if 0 < written then [.writeTo pongBuf written srcAddr] else [])
  | .writeTo pongBuf written srcAddr =>
    ({ m with
      written := Function.update m.written g (m.written g ++ [((m.buffers pongBuf).take written, srcAddr)]) },
      [])
  | .putPacket pkt => (m.putPacket pkt, [])
  | .putBuffer buf => (m.putBuffer buf, [])
  | .control e => (m.record g e (plane.step m.router e).1 [] [], [])
  | .collect =>
    ({ m with bufferPool := m.bufferPool.collect x.pick, packetPool := m.packetPool.collect x.pick }, [])

end Memory

variable {Addr : Type} [DecidableEq Addr]

/-- Any number of reading goroutines over the shared pools. -/
def system : Goroutines Nat (Memory Addr) (Request Addr) (Act Addr) (Choice Addr) where
  owner := Request.owner
  program _ := Request.program
  perform m g a x := some (m.act g x a)

abbrev State (Addr : Type) := Goroutines.Config Nat (Memory Addr) (Act Addr)

abbrev Turn (Addr : Type) := Goroutines.Turn Nat (Request Addr) (Choice Addr)

/-- A router with empty pools. -/
def Memory.new (r : Router Addr) : Memory Addr where
  router := r
  bufferPool := .empty
  packetPool := .empty
  buffers _ := List.replicate maxPacketSize 0
  packets _ := .reset
  received _ := []
  handled := []
  written _ := []
  notified := []

def after (r : Router Addr) (ts : List (Turn Addr)) : State Addr :=
  system.machine.run (Goroutines.idle (.new r)) ts

/-- The calls on the router made one after the other without pools: the router, what
each goroutine has written, and the notices. -/
structure Plain (Addr : Type) where
  router : Router Addr
  written : Nat → List (GoBytes × Addr)
  notified : List VoiceStateNotice

def Plain.next (s : Plain Addr) (e : Nat × PlaneEvent Addr) : Plain Addr :=
  let (router, outcome) := plane.step s.router e.2
  ⟨router, Function.update s.written e.1 (s.written e.1 ++ outcome.written), s.notified ++ outcome.notified⟩

def plain (r : Router Addr) (handled : List (Nat × PlaneEvent Addr)) : Plain Addr :=
  handled.foldl Plain.next ⟨r, fun _ => [], []⟩

/-- The datagrams among the calls of `g`. -/
def datagrams (g : Nat) (handled : List (Nat × PlaneEvent Addr)) : List (GoBytes × Addr) :=
  handled.filterMap fun
    | (g', .datagram _ _ data srcAddr) => if g' = g then some (data, srcAddr) else none
    | _ => none

theorem plain_concat (r : Router Addr) (handled : List (Nat × PlaneEvent Addr)) (e : Nat × PlaneEvent Addr) :
    plain r (handled ++ [e]) = (plain r handled).next e := by
  rw [plain, List.foldl_append]
  rfl

end pool

end low_latency_voice.audio
