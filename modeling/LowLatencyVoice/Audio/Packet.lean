import LowLatencyVoice.Lib.GoBytes

namespace low_latency_voice.audio

/-- Fixed size of the wire header in bytes. -/
def headerSize : Nat := 20

def magicByte : UInt8 := 0x56

def protocolVersion : UInt8 := 0x01

/-- Largest payload, 4096 bytes less the header. -/
def maxPayloadSize : Nat := 4076

/-- Size of a pooled datagram buffer. -/
def maxPacketSize : Nat := 4096

def typeVoice : UInt8 := 0x01
def typePing : UInt8 := 0x02
def typePong : UInt8 := 0x03
def typeHandshake : UInt8 := 0x04

def flagVAD : UInt8 := 0x01
def flagEnergyMask : UInt8 := 0xF0

/-- The error values of the audio package. -/
inductive AudioError where
  | packetTooShort
  | invalidMagic
  | invalidVersion
  | invalidType
  | payloadLengthMismatch (header buffer : Nat)
  | payloadTooLarge
  | sessionNotFound
  | unauthorizedSession
  | userServerMuted
  | channelMismatch
  deriving DecidableEq, Repr

/-- The text of each error. -/
def AudioError.text : AudioError → String
  | .packetTooShort => "audio: packet data too short for 20-byte header"
  | .invalidMagic => "audio: invalid protocol magic byte"
  | .invalidVersion => "audio: unsupported protocol version"
  | .invalidType => "audio: unknown packet type"
  | .payloadLengthMismatch header buffer =>
    "audio: payload length does not match header length: header says " ++ toString header ++
      " bytes, buffer has " ++ toString buffer ++ " bytes"
  | .payloadTooLarge => "audio: payload exceeds maximum supported MTU size (4076 bytes)"
  | .sessionNotFound => "audio: voice session not found"
  | .unauthorizedSession => "audio: unauthorized or invalid voice token"
  | .userServerMuted => "audio: user is server-muted"
  | .channelMismatch => "audio: channel ID mismatch"

/-- Packs the speaking bit and the 4-bit energy level into byte 3. -/
def encodeFlags (vad : Bool) (energy : UInt8) : UInt8 :=
  (if vad then flagVAD else 0) ||| ((energy &&& 0x0F) <<< 4)

/-- Unpacks byte 3. -/
def decodeFlags (flags : UInt8) : Bool × UInt8 :=
  (flags &&& flagVAD != 0, (flags &&& flagEnergyMask) >>> 4)

def isValidPacketType (t : UInt8) : Bool :=
  t == typeVoice || t == typePing || t == typePong || t == typeHandshake

/-- A parsed wire packet. -/
structure Packet where
  magic : UInt8
  version : UInt8
  type : UInt8
  flags : UInt8
  vad : Bool
  energyLevel : UInt8
  senderID : UInt32
  channelID : UInt32
  sequence : UInt16
  payloadLen : UInt16
  timestamp : UInt32
  payload : GoBytes
  deriving DecidableEq, Repr

/-- `DecodeInto`. Trailing bytes beyond the announced payload are allowed. -/
def decodeInto (data : GoBytes) : Except AudioError Packet :=
  if data.length < headerSize then .error .packetTooShort
  else if data.getD 0 0 ≠ magicByte then .error .invalidMagic
  else if data.getD 1 0 ≠ protocolVersion then .error .invalidVersion
  else if !isValidPacketType (data.getD 2 0) then .error .invalidType
  else
    let payloadLen := GoBytes.beUint16 data 14
    if maxPayloadSize < payloadLen.toNat then .error .payloadTooLarge
    else if data.length < headerSize + payloadLen.toNat then
      .error (.payloadLengthMismatch payloadLen.toNat (data.length - headerSize))
    else .ok {
      magic := data.getD 0 0
      version := data.getD 1 0
      type := data.getD 2 0
      flags := data.getD 3 0
      vad := (decodeFlags (data.getD 3 0)).1
      energyLevel := (decodeFlags (data.getD 3 0)).2
      senderID := GoBytes.beUint32 data 4
      channelID := GoBytes.beUint32 data 8
      sequence := GoBytes.beUint16 data 12
      payloadLen
      timestamp := GoBytes.beUint32 data 16
      payload := (data.drop headerSize).take payloadLen.toNat }

/-- `EncodeInto` with a destination of `dstLen` bytes: the bytes written, none
when the packet does not fit. A zero magic or version takes its default. -/
def Packet.encodeInto (p : Packet) (dstLen : Nat) : GoBytes :=
  if dstLen < headerSize + p.payload.length then []
  else
    [if p.magic = 0 then magicByte else p.magic,
      if p.version = 0 then protocolVersion else p.version, p.type,
      encodeFlags p.vad p.energyLevel] ++
    GoBytes.putUint32 p.senderID ++ GoBytes.putUint32 p.channelID ++
    GoBytes.putUint16 p.sequence ++ GoBytes.putUint16 (UInt16.ofNat p.payload.length) ++
    GoBytes.putUint32 p.timestamp ++ p.payload

/-- `Encode`, which allocates exactly the bytes it needs. -/
def Packet.encode (p : Packet) : GoBytes := p.encodeInto (headerSize + p.payload.length)

/-- The type of an accepted datagram is its third byte. -/
theorem decodeInto_type {data : GoBytes} {pkt : Packet} (h : decodeInto data = .ok pkt) :
    pkt.type = data.getD 2 0 := by
  unfold decodeInto at h
  split at h <;> try cases h
  split at h <;> try cases h
  split at h <;> try cases h
  split at h
  · cases h
  · simp only at h
    split at h <;> try cases h
    split at h <;> cases h
    rfl

/-- What an accepted datagram is: long enough for its header and payload, of this
protocol, and read field by field. -/
theorem decodeInto_eq_ok {data : GoBytes} {pkt : Packet} (h : decodeInto data = .ok pkt) :
    data.getD 0 0 = magicByte ∧ headerSize + pkt.payloadLen.toNat ≤ data.length ∧
      pkt.magic = data.getD 0 0 ∧ pkt.version = data.getD 1 0 ∧ pkt.type = data.getD 2 0 ∧
      (pkt.vad, pkt.energyLevel) = decodeFlags (data.getD 3 0) ∧
      pkt.senderID = GoBytes.beUint32 data 4 ∧ pkt.channelID = GoBytes.beUint32 data 8 ∧
      pkt.sequence = GoBytes.beUint16 data 12 ∧ pkt.payloadLen = GoBytes.beUint16 data 14 ∧
      pkt.timestamp = GoBytes.beUint32 data 16 ∧
      pkt.payload = (data.drop headerSize).take pkt.payloadLen.toNat := by
  unfold decodeInto at h
  split at h
  · cases h
  split at h
  · cases h
  split at h
  · cases h
  split at h
  · cases h
  simp only at h
  split at h
  · cases h
  split at h
  · cases h
  cases h
  rename_i hmagic _ _ _ hlen
  exact ⟨not_not.mp hmagic, Nat.not_lt.mp hlen, rfl, rfl, rfl, rfl, rfl, rfl, rfl, rfl, rfl, rfl⟩

/-- Trailing bytes change nothing. -/
theorem decodeInto_append {data : GoBytes} {pkt : Packet} (h : decodeInto data = .ok pkt)
    (tail : GoBytes) : decodeInto (data ++ tail) = .ok pkt := by
  obtain ⟨_, hlen, _, _, _, _, _, _, _, hannounced, _⟩ := decodeInto_eq_ok h
  rw [hannounced] at hlen
  have hheader : headerSize ≤ data.length := Nat.le_trans (Nat.le_add_right _ _) hlen
  have hlonger : data.length ≤ (data ++ tail).length := by
    rw [List.length_append]
    exact Nat.le_add_right _ _
  have hbyte : ∀ i < headerSize, (data ++ tail).getD i 0 = data.getD i 0 := fun i hi =>
    List.getD_append _ _ _ _ (Nat.lt_of_lt_of_le hi hheader)
  have hword : ∀ i, i + 2 ≤ headerSize → GoBytes.beUint16 (data ++ tail) i = GoBytes.beUint16 data i :=
    fun i hi => GoBytes.beUint16_append (Nat.le_trans hi hheader) tail
  have hlong : ∀ i, i + 4 ≤ headerSize → GoBytes.beUint32 (data ++ tail) i = GoBytes.beUint32 data i :=
    fun i hi => GoBytes.beUint32_append (Nat.le_trans hi hheader) tail
  have hpayload : ((data ++ tail).drop headerSize).take (GoBytes.beUint16 data 14).toNat =
      (data.drop headerSize).take (GoBytes.beUint16 data 14).toNat := by
    rw [List.drop_append_of_le_length hheader, List.take_append_of_le_length]
    rw [List.length_drop]
    omega
  unfold decodeInto at h ⊢
  simp only [if_neg (Nat.not_lt.mpr hheader), if_neg (Nat.not_lt.mpr hlen)] at h
  simp only [if_neg (Nat.not_lt.mpr (Nat.le_trans hheader hlonger)),
    if_neg (Nat.not_lt.mpr (Nat.le_trans hlen hlonger)), hbyte 0 (by decide), hbyte 1 (by decide),
    hbyte 2 (by decide), hbyte 3 (by decide), hlong 4 (by decide), hlong 8 (by decide),
    hword 12 (by decide), hword 14 (by decide), hlong 16 (by decide), hpayload]
  exact h

/-- A packet that fits its buffer carries its type on the wire. -/
theorem encodeInto_type (p : Packet) (dstLen : Nat) (h : p.encodeInto dstLen ≠ []) :
    (p.encodeInto dstLen).getD 2 0 = p.type := by
  unfold Packet.encodeInto at h ⊢
  split at h
  · exact absurd rfl h
  · simp [*]

end low_latency_voice.audio
