import LowLatencyVoice.Audio.Packet
import LowLatencyVoice.Client.VoicePipeline

namespace low_latency_voice.client.wire

open audio

/-- `VoicePacket` with all its fields. An `int` of the client is a signed 64-bit
integer. -/
structure VoicePacket where
  magic : Int64 := 0x56
  version : Int64 := 0x01
  type : Int64
  flags : Int64 := 0
  vad : Bool := false
  energyLevel : Int64 := 0
  senderId : Int64
  channelId : Int64
  sequence : Int64
  timestamp : Int64
  payload : GoBytes
  rawBytes : Option GoBytes := none
  deriving DecidableEq

/-- `AppConstants.flagVad`. -/
def flagVad : Int64 := 0x01

/-- `AppConstants.flagEnergyMask`. -/
def flagEnergyMask : Int64 := 0xF0

namespace ByteData

/-- `ByteData.getUint8`. -/
def getUint8 (data : GoBytes) (i : Nat) : Int64 := Int64.ofNat (data.getD i 0).toNat

/-- `ByteData.getUint16` with `Endian.big`. -/
def getUint16 (data : GoBytes) (i : Nat) : Int64 := Int64.ofNat (GoBytes.beUint16 data i).toNat

/-- `ByteData.getUint32` with `Endian.big`. -/
def getUint32 (data : GoBytes) (i : Nat) : Int64 := Int64.ofNat (GoBytes.beUint32 data i).toNat

/-- The byte `ByteData.setUint8` stores: the low eight bits. -/
def setUint8 (v : Int64) : GoBytes := [v.toUInt64.toUInt8]

/-- The bytes `ByteData.setUint16` stores with `Endian.big`. -/
def setUint16 (v : Int64) : GoBytes := GoBytes.putUint16 v.toUInt64.toUInt16

/-- The bytes `ByteData.setUint32` stores with `Endian.big`. -/
def setUint32 (v : Int64) : GoBytes := GoBytes.putUint32 v.toUInt64.toUInt32

end ByteData

namespace VoicePacket

/-- `VoicePacket.decode`; the error is the text of its `FormatException`. Magic,
version and type are taken as they come. -/
def decode (data : GoBytes) : Except String VoicePacket :=
  if data.length < udpHeaderSize then .error "UDP packet too short for 20-byte header"
  else
    let rawFlags := ByteData.getUint8 data 3
    let payloadLen := (ByteData.getUint16 data 14).toInt.toNat
    let expectedTotal := udpHeaderSize + payloadLen
    if data.length < expectedTotal then
      .error ("UDP payload length mismatch: header=" ++ toString payloadLen ++ ", actual=" ++
        toString (data.length - udpHeaderSize))
    else .ok {
      magic := ByteData.getUint8 data 0
      version := ByteData.getUint8 data 1
      type := ByteData.getUint8 data 2
      flags := rawFlags
      vad := rawFlags &&& flagVad != 0
      energyLevel := (rawFlags &&& flagEnergyMask) >>> 4
      senderId := ByteData.getUint32 data 4
      channelId := ByteData.getUint32 data 8
      sequence := ByteData.getUint16 data 12
      timestamp := ByteData.getUint32 data 16
      payload := (data.drop udpHeaderSize).take payloadLen
      rawBytes := some data }

/-- `VoicePacket.encode`. A zero magic or version is written as it is. -/
def encode (p : VoicePacket) : GoBytes :=
  let rawFlags : Int64 := (if p.vad then flagVad else 0) ||| ((p.energyLevel &&& 0x0F) <<< 4)
  ByteData.setUint8 p.magic ++ ByteData.setUint8 p.version ++ ByteData.setUint8 p.type ++
    ByteData.setUint8 rawFlags ++ ByteData.setUint32 p.senderId ++ ByteData.setUint32 p.channelId ++
    ByteData.setUint16 p.sequence ++ ByteData.setUint16 (Int64.ofNat p.payload.length) ++
    ByteData.setUint32 p.timestamp ++ p.payload

end VoicePacket

/-- The server's packet and the client's hold the same values. The flags byte and
the announced length, which both ends derive from the rest, are left out. -/
structure SamePacket (p : Packet) (q : VoicePacket) : Prop where
  magic : q.magic.toInt = p.magic.toNat
  version : q.version.toInt = p.version.toNat
  type : q.type.toInt = p.type.toNat
  vad : q.vad = p.vad
  energyLevel : q.energyLevel.toInt = p.energyLevel.toNat
  senderId : q.senderId.toInt = p.senderID.toNat
  channelId : q.channelId.toInt = p.channelID.toNat
  sequence : q.sequence.toInt = p.sequence.toNat
  timestamp : q.timestamp.toInt = p.timestamp.toNat
  payload : q.payload = p.payload

/-- Every field fits its place on the wire. -/
structure InWireRange (q : VoicePacket) : Prop where
  magic : 0 ≤ q.magic.toInt ∧ q.magic.toInt < 256
  version : 0 ≤ q.version.toInt ∧ q.version.toInt < 256
  type : 0 ≤ q.type.toInt ∧ q.type.toInt < 256
  energyLevel : 0 ≤ q.energyLevel.toInt ∧ q.energyLevel.toInt ≤ 15
  senderId : 0 ≤ q.senderId.toInt ∧ q.senderId.toInt < 4294967296
  channelId : 0 ≤ q.channelId.toInt ∧ q.channelId.toInt < 4294967296
  sequence : 0 ≤ q.sequence.toInt ∧ q.sequence.toInt < 65536
  timestamp : 0 ≤ q.timestamp.toInt ∧ q.timestamp.toInt < 4294967296
  payload : q.payload.length ≤ maxPayloadSize

private theorem toInt_ofNat {n m : Nat} (h : n < m) (hm : m ≤ 4294967296) : (Int64.ofNat n).toInt = n :=
  Int64.toInt_ofNat_of_lt (Nat.lt_of_lt_of_le (Nat.lt_of_lt_of_le h hm) (by decide))

private theorem eq_ofNat {v : Int64} {n : Nat} (h : v.toInt = n) : v = Int64.ofNat n := by
  rw [← Int64.ofInt_toInt v, h]
  exact Int64.ofInt_eq_ofNat

theorem ByteData.toInt_getUint8 (data : GoBytes) (i : Nat) :
    (getUint8 data i).toInt = (data.getD i 0).toNat :=
  toInt_ofNat (data.getD i 0).toNat_lt (by decide)

theorem ByteData.toInt_getUint16 (data : GoBytes) (i : Nat) :
    (getUint16 data i).toInt = (GoBytes.beUint16 data i).toNat :=
  toInt_ofNat (GoBytes.beUint16 data i).toNat_lt (by decide)

theorem ByteData.toInt_getUint32 (data : GoBytes) (i : Nat) :
    (getUint32 data i).toInt = (GoBytes.beUint32 data i).toNat :=
  toInt_ofNat (GoBytes.beUint32 data i).toNat_lt (by decide)

theorem ByteData.setUint8_eq {v : Int64} {b : UInt8} (h : v.toInt = b.toNat) : setUint8 v = [b] := by
  have hbyte : v.toUInt64.toUInt8 = b := by
    rw [eq_ofNat h]
    apply UInt8.toNat_inj.mp
    simp
  rw [setUint8, hbyte]

theorem ByteData.setUint16_eq {v : Int64} {b : UInt16} (h : v.toInt = b.toNat) :
    setUint16 v = GoBytes.putUint16 b := by
  have hword : v.toUInt64.toUInt16 = b := by
    rw [eq_ofNat h]
    apply UInt16.toNat_inj.mp
    simp
  rw [setUint16, hword]

theorem ByteData.setUint32_eq {v : Int64} {b : UInt32} (h : v.toInt = b.toNat) :
    setUint32 v = GoBytes.putUint32 b := by
  have hword : v.toUInt64.toUInt32 = b := by
    rw [eq_ofNat h]
    apply UInt32.toNat_inj.mp
    simp
  rw [setUint32, hword]

/-- A length is written modulo 65536 at both ends. -/
theorem ByteData.setUint16_length (n : Nat) :
    setUint16 (Int64.ofNat n) = GoBytes.putUint16 (UInt16.ofNat n) := by
  have hword : (Int64.ofNat n).toUInt64.toUInt16 = UInt16.ofNat n := by
    apply UInt16.toNat_inj.mp
    simp
  rw [setUint16, hword]

/-- The flags byte is read alike: the speaking bit and the high nibble. -/
theorem flags_read (b : UInt8) :
    ((Int64.ofNat b.toNat &&& flagVad != 0) = (decodeFlags b).1) ∧
      ((Int64.ofNat b.toNat &&& flagEnergyMask) >>> 4).toInt = (decodeFlags b).2.toNat := by
  revert b
  exact GoBytes.forall_byte (by decide +kernel)

/-- The flags byte is written alike, whatever the energy level. -/
theorem flags_written (vad : Bool) {v : Int64} {energy : UInt8} (h : v.toInt = energy.toNat) :
    ByteData.setUint8 ((if vad then flagVad else 0) ||| ((v &&& 0x0F) <<< 4)) =
      [encodeFlags vad energy] := by
  have hbytes : ∀ energy : UInt8, ByteData.setUint8 ((if vad then flagVad else 0) |||
      ((Int64.ofNat energy.toNat &&& 0x0F) <<< 4)) = [encodeFlags vad energy] :=
    GoBytes.forall_byte (by cases vad <;> decide +kernel)
  rw [eq_ofNat h]
  exact hbytes energy

/-- An outbound packet with the fields it leaves at their defaults. -/
def ofOutbound (p : client.VoicePacket) : VoicePacket where
  type := Int64.ofNat p.type.toNat
  vad := p.vad
  energyLevel := Int64.ofNat p.energyLevel.toNat
  senderId := Int64.ofNat p.senderId.toNat
  channelId := Int64.ofNat p.channelId.toNat
  sequence := Int64.ofNat p.sequence.toNat
  timestamp := Int64.ofNat p.timestamp.toNat
  payload := p.payload

/-- The packets the voice pipeline sends are encoded as this class encodes them. -/
theorem encode_ofOutbound (p : client.VoicePacket) : (ofOutbound p).encode = p.encode := by
  unfold VoicePacket.encode client.VoicePacket.encode ofOutbound
  rw [ByteData.setUint8_eq (toInt_ofNat p.type.toNat_lt (by decide)),
    ByteData.setUint32_eq (toInt_ofNat p.senderId.toNat_lt (by decide)),
    ByteData.setUint32_eq (toInt_ofNat p.channelId.toNat_lt (by decide)),
    ByteData.setUint16_eq (toInt_ofNat p.sequence.toNat_lt (by decide)),
    ByteData.setUint32_eq (toInt_ofNat p.timestamp.toNat_lt (by decide)), ByteData.setUint16_length]
  simp only [flags_written p.vad (toInt_ofNat p.energyLevel.toNat_lt (by decide))]
  rfl

/-- What the server accepts the client accepts, with the same values. -/
theorem decode_of_decodeInto {d : GoBytes} {pkt : Packet} (h : decodeInto d = .ok pkt) :
    ∃ q, VoicePacket.decode d = .ok q ∧ SamePacket pkt q := by
  obtain ⟨_, hlen, hmagic, hversion, htype, hflags, hsender, hchannel, hseq, hplen, hts, hpayload⟩ :=
    decodeInto_eq_ok h
  have hread := flags_read (d.getD 3 0)
  rw [← hflags] at hread
  have hlong : ¬ d.length < udpHeaderSize := by
    rw [headerSize] at hlen
    rw [udpHeaderSize]
    omega
  have hannounced : (ByteData.getUint16 d 14).toInt.toNat = pkt.payloadLen.toNat := by
    rw [ByteData.toInt_getUint16, hplen, Int.toNat_natCast]
  have htotal : ¬ d.length < udpHeaderSize + pkt.payloadLen.toNat := Nat.not_lt.mpr hlen
  unfold VoicePacket.decode
  rw [if_neg hlong]
  simp only [hannounced]
  rw [if_neg htotal]
  exact ⟨_, rfl, {
      magic := by rw [ByteData.toInt_getUint8, hmagic]
      version := by rw [ByteData.toInt_getUint8, hversion]
      type := by rw [ByteData.toInt_getUint8, htype]
      vad := hread.1
      energyLevel := hread.2
      senderId := by rw [ByteData.toInt_getUint32, hsender]
      channelId := by rw [ByteData.toInt_getUint32, hchannel]
      sequence := by rw [ByteData.toInt_getUint16, hseq]
      timestamp := by rw [ByteData.toInt_getUint32, hts]
      payload := hpayload.symm }⟩

/-- A client packet in range is some packet of the server. -/
theorem InWireRange.exists_same {q : VoicePacket} (h : InWireRange q) : ∃ p, SamePacket p q := by
  have hbyte : ∀ v : Int64, 0 ≤ v.toInt → v.toInt < 256 →
      v.toInt = (UInt8.ofNat v.toInt.toNat).toNat := by
    intro v hpos hlt
    rw [UInt8.toNat_ofNat_of_lt' (by rw [UInt8.size]; omega)]
    omega
  have hword : ∀ v : Int64, 0 ≤ v.toInt → v.toInt < 65536 →
      v.toInt = (UInt16.ofNat v.toInt.toNat).toNat := by
    intro v hpos hlt
    rw [UInt16.toNat_ofNat_of_lt' (by rw [UInt16.size]; omega)]
    omega
  have hlong : ∀ v : Int64, 0 ≤ v.toInt → v.toInt < 4294967296 →
      v.toInt = (UInt32.ofNat v.toInt.toNat).toNat := by
    intro v hpos hlt
    rw [UInt32.toNat_ofNat_of_lt' (by rw [UInt32.size]; omega)]
    omega
  have henergy : q.energyLevel.toInt < 256 := by
    have := h.energyLevel.2
    omega
  exact ⟨{
    magic := UInt8.ofNat q.magic.toInt.toNat
    version := UInt8.ofNat q.version.toInt.toNat
    type := UInt8.ofNat q.type.toInt.toNat
    flags := 0
    vad := q.vad
    energyLevel := UInt8.ofNat q.energyLevel.toInt.toNat
    senderID := UInt32.ofNat q.senderId.toInt.toNat
    channelID := UInt32.ofNat q.channelId.toInt.toNat
    sequence := UInt16.ofNat q.sequence.toInt.toNat
    payloadLen := 0
    timestamp := UInt32.ofNat q.timestamp.toInt.toNat
    payload := q.payload }, {
      magic := hbyte _ h.magic.1 h.magic.2
      version := hbyte _ h.version.1 h.version.2
      type := hbyte _ h.type.1 h.type.2
      vad := rfl
      energyLevel := hbyte _ h.energyLevel.1 henergy
      senderId := hlong _ h.senderId.1 h.senderId.2
      channelId := hlong _ h.channelId.1 h.channelId.2
      sequence := hword _ h.sequence.1 h.sequence.2
      timestamp := hlong _ h.timestamp.1 h.timestamp.2
      payload := rfl }⟩

/-- The two ends write the same bytes, unless the magic or the version is zero:
the server takes zero for unset and writes the default. -/
theorem encode_eq_encodeInto {p : Packet} {q : VoicePacket} (h : SamePacket p q)
    (hmagic : q.magic ≠ 0) (hversion : q.version ≠ 0) {dstLen : Nat}
    (hdst : headerSize + p.payload.length ≤ dstLen) : q.encode = p.encodeInto dstLen := by
  have hset : ∀ {v : Int64} {b : UInt8}, v.toInt = b.toNat → v ≠ 0 → b ≠ 0 := by
    intro v b hvb hv hb
    rw [hb] at hvb
    exact hv (eq_ofNat hvb)
  unfold VoicePacket.encode Packet.encodeInto
  rw [if_neg (Nat.not_lt.mpr hdst), if_neg (hset h.magic hmagic), if_neg (hset h.version hversion),
    ByteData.setUint8_eq h.magic, ByteData.setUint8_eq h.version, ByteData.setUint8_eq h.type,
    ByteData.setUint32_eq h.senderId, ByteData.setUint32_eq h.channelId,
    ByteData.setUint16_eq h.sequence, ByteData.setUint32_eq h.timestamp, ByteData.setUint16_length,
    h.vad, h.payload]
  simp only [flags_written p.vad h.energyLevel]
  rfl

end low_latency_voice.client.wire
