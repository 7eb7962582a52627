import Mathlib.Tactic.SplitIfs
import LowLatencyVoice.Audio.Packet

namespace low_latency_voice.audio

/-- `DecodeInto` with the pooled packet it writes over. Fields are assigned as they
are read, so a rejected datagram leaves the ones before the failing check behind. -/
def Packet.decodeInto (pkt : Packet) (data : GoBytes) : Packet × Option AudioError :=
  if data.length < headerSize then (pkt, some .packetTooShort)
  else
    let pkt := { pkt with magic := data.getD 0 0 }
    if pkt.magic ≠ magicByte then (pkt, some .invalidMagic)
    else
      let pkt := { pkt with version := data.getD 1 0 }
      if pkt.version ≠ protocolVersion then (pkt, some .invalidVersion)
      else
        let pkt := { pkt with type := data.getD 2 0 }
        if !isValidPacketType pkt.type then (pkt, some .invalidType)
        else
          let pkt := { pkt with
            flags := data.getD 3 0
            vad := (decodeFlags (data.getD 3 0)).1
            energyLevel := (decodeFlags (data.getD 3 0)).2
            senderID := GoBytes.beUint32 data 4
            channelID := GoBytes.beUint32 data 8
            sequence := GoBytes.beUint16 data 12
            payloadLen := GoBytes.beUint16 data 14
            timestamp := GoBytes.beUint32 data 16 }
          if maxPayloadSize < pkt.payloadLen.toNat then (pkt, some .payloadTooLarge)
          else if data.length < headerSize + pkt.payloadLen.toNat then
            (pkt, some (.payloadLengthMismatch pkt.payloadLen.toNat (data.length - headerSize)))
          else
            ({ pkt with payload := (data.drop headerSize).take pkt.payloadLen.toNat }, none)

/-- Every field of an accepted packet is assigned, so what the pool left in it does
not show; a rejected datagram gets the same error whatever it is decoded over. -/
theorem Packet.decodeInto_spec (pooled : Packet) (data : GoBytes) :
    match audio.decodeInto data with
    | .ok pkt => pooled.decodeInto data = (pkt, none)
    | .error e => (pooled.decodeInto data).2 = some e := by
  unfold Packet.decodeInto audio.decodeInto
  simp only
  split_ifs <;> simp only [*]

/-- Bits 1 to 3 of the flags byte, which must be zero. -/
def flagReserved : UInt8 := 0x0E

/-- The datagrams the decoder takes. -/
structure Acceptable (d : GoBytes) : Prop where
  header : headerSize ≤ d.length
  magic : d.getD 0 0 = magicByte
  version : d.getD 1 0 = protocolVersion
  type : 1 ≤ d.getD 2 0 ∧ d.getD 2 0 ≤ 4
  payload : (GoBytes.beUint16 d 14).toNat ≤ maxPayloadSize
  fits : headerSize + (GoBytes.beUint16 d 14).toNat ≤ d.length

/-- The types in use are one to four. -/
theorem isValidPacketType_iff (t : UInt8) : isValidPacketType t = true ↔ 1 ≤ t ∧ t ≤ 4 := by
  revert t
  exact GoBytes.forall_byte (by decide +kernel)

theorem decodeInto_isOk_iff (d : GoBytes) : (∃ pkt, decodeInto d = .ok pkt) ↔ Acceptable d := by
  constructor
  · rintro ⟨pkt, h⟩
    unfold decodeInto at h
    simp only at h
    split_ifs at h with hheader hmagic hversion htype hpayload hfits
    exact {
      header := Nat.not_lt.mp hheader
      magic := not_not.mp hmagic
      version := not_not.mp hversion
      type := (isValidPacketType_iff _).mp (by simpa using htype)
      payload := Nat.not_lt.mp hpayload
      fits := Nat.not_lt.mp hfits }
  · intro h
    have htype := (isValidPacketType_iff _).mpr h.type
    unfold decodeInto
    rw [if_neg (Nat.not_lt.mpr h.header), if_neg (not_not.mpr h.magic), if_neg (not_not.mpr h.version),
      htype, if_neg (by simp)]
    simp only
    rw [if_neg (Nat.not_lt.mpr h.payload), if_neg (Nat.not_lt.mpr h.fits)]
    exact ⟨_, rfl⟩

theorem Packet.length_encode (p : Packet) : p.encode.length = headerSize + p.payload.length := by
  unfold Packet.encode Packet.encodeInto
  rw [if_neg (Nat.lt_irrefl _)]
  simp [GoBytes.putUint32, GoBytes.putUint16, headerSize]
  omega

/-- The wire image with the places of its words in view. -/
theorem Packet.encode_eq (p : Packet) :
    p.encode = [if p.magic = 0 then magicByte else p.magic,
        if p.version = 0 then protocolVersion else p.version, p.type,
        encodeFlags p.vad p.energyLevel] ++
      (GoBytes.putUint32 p.senderID ++ (GoBytes.putUint32 p.channelID ++
        (GoBytes.putUint16 p.sequence ++ (GoBytes.putUint16 (UInt16.ofNat p.payload.length) ++
          (GoBytes.putUint32 p.timestamp ++ p.payload))))) := by
  unfold Packet.encode Packet.encodeInto
  rw [if_neg (Nat.lt_irrefl _)]
  simp only [List.append_assoc]

theorem decodeFlags_encodeFlags (vad : Bool) {energy : UInt8} (h : energy ≤ 15) :
    decodeFlags (encodeFlags vad energy) = (vad, energy) := by
  have hlevels : ∀ energy : UInt8, energy ≤ 15 → decodeFlags (encodeFlags vad energy) = (vad, energy) :=
    GoBytes.forall_byte (by cases vad <;> decide +kernel)
  exact hlevels energy h

/-- Writing a flags byte back clears its reserved bits. -/
theorem encodeFlags_decodeFlags (flags : UInt8) :
    encodeFlags (decodeFlags flags).1 (decodeFlags flags).2 = flags &&& ~~~flagReserved := by
  revert flags
  exact GoBytes.forall_byte (by decide +kernel)

/-- The header words are read back from where they were written. -/
theorem Packet.words_encode (p : Packet) :
    GoBytes.beUint32 p.encode 4 = p.senderID ∧ GoBytes.beUint32 p.encode 8 = p.channelID ∧
      GoBytes.beUint16 p.encode 12 = p.sequence ∧
      GoBytes.beUint16 p.encode 14 = UInt16.ofNat p.payload.length ∧
      GoBytes.beUint32 p.encode 16 = p.timestamp := by
  rw [p.encode_eq]
  exact ⟨GoBytes.beUint32_of_drop rfl, GoBytes.beUint32_of_drop rfl, GoBytes.beUint16_of_drop rfl,
    GoBytes.beUint16_of_drop rfl, GoBytes.beUint32_of_drop rfl⟩

/-- The packets whose fields the wire format can carry. -/
structure Packet.Sendable (p : Packet) : Prop where
  magic : p.magic = 0 ∨ p.magic = magicByte
  version : p.version = 0 ∨ p.version = protocolVersion
  type : isValidPacketType p.type = true
  energyLevel : p.energyLevel ≤ 15
  payload : p.payload.length ≤ maxPayloadSize

/-- What a packet is read back as: the defaults filled in, the derived fields set. -/
def Packet.onWire (p : Packet) : Packet :=
  { p with
    magic := magicByte
    version := protocolVersion
    flags := encodeFlags p.vad p.energyLevel
    payloadLen := UInt16.ofNat p.payload.length }

theorem Packet.Sendable.toNat_payloadLen {p : Packet} (h : p.Sendable) :
    p.onWire.payloadLen.toNat = p.payload.length := by
  have hpayload := h.payload
  unfold maxPayloadSize at hpayload
  exact UInt16.toNat_ofNat_of_lt' (by rw [UInt16.size]; omega)

theorem Packet.Sendable.decodeInto_encode {p : Packet} (h : p.Sendable) :
    audio.decodeInto p.encode = .ok p.onWire := by
  obtain ⟨hsender, hchannel, hsequence, hlen, htimestamp⟩ := p.words_encode
  have hannounced : (GoBytes.beUint16 p.encode 14).toNat = p.payload.length := by
    rw [hlen]
    exact h.toNat_payloadLen
  have hmagic : p.encode.getD 0 0 = magicByte := by
    rw [p.encode_eq]
    rcases h.magic with h0 | h0 <;> rw [h0] <;> rfl
  have hversion : p.encode.getD 1 0 = protocolVersion := by
    rw [p.encode_eq]
    rcases h.version with h0 | h0 <;> rw [h0] <;> rfl
  have htype : p.encode.getD 2 0 = p.type := by
    rw [p.encode_eq]
    rfl
  have hflags : p.encode.getD 3 0 = encodeFlags p.vad p.energyLevel := by
    rw [p.encode_eq]
    rfl
  have hpayload : p.encode.drop headerSize = p.payload := by
    rw [p.encode_eq]
    rfl
  have haccepted : Acceptable p.encode := {
    header := by rw [p.length_encode]; exact Nat.le_add_right _ _
    magic := hmagic
    version := hversion
    type := by rw [htype]; exact (isValidPacketType_iff _).mp h.type
    payload := by rw [hannounced]; exact h.payload
    fits := Nat.le_of_eq (by rw [hannounced, p.length_encode]) }
  obtain ⟨pkt, hpkt⟩ := (decodeInto_isOk_iff _).mpr haccepted
  have hread := hpkt
  unfold audio.decodeInto at hread
  simp only [hmagic, hversion, htype, hflags, hsender, hchannel, hsequence, htimestamp, hpayload, hannounced,
    decodeFlags_encodeFlags p.vad h.energyLevel, List.take_length] at hread
  split_ifs at hread
  rw [hpkt, ← hread, hlen]
  rfl

/-- An accepted datagram is written back as it came, up to its trailing bytes and the
reserved bits. -/
theorem encode_of_decodeInto {d : GoBytes} {pkt : Packet} (h : decodeInto d = .ok pkt) :
    pkt.encode = (d.take (headerSize + (GoBytes.beUint16 d 14).toNat)).set 3
      (d.getD 3 0 &&& ~~~flagReserved) := by
  have haccepted := (decodeInto_isOk_iff d).mp ⟨pkt, h⟩
  have hheader : 20 ≤ d.length := haccepted.header
  have hfits : 20 + (GoBytes.beUint16 d 14).toNat ≤ d.length := haccepted.fits
  obtain ⟨_, _, hmagic, hversion, htype, hflags, hsender, hchannel, hsequence, hlen, htimestamp, hpayload⟩ :=
    decodeInto_eq_ok h
  rw [haccepted.magic] at hmagic
  rw [haccepted.version] at hversion
  have hbyte : encodeFlags pkt.vad pkt.energyLevel = d.getD 3 0 &&& ~~~flagReserved := by
    rw [← encodeFlags_decodeFlags, ← hflags]
  have hcount : UInt16.ofNat pkt.payload.length = GoBytes.beUint16 d 14 := by
    rw [hpayload, hlen, List.length_take, List.length_drop, Nat.min_eq_left, UInt16.ofNat_toNat]
    rw [headerSize]
    omega
  -- the datagram cut where the fields of the header meet
  have hstart : d.take 4 = [magicByte, protocolVersion, pkt.type, d.getD 3 0] := by
    have hmap := GoBytes.take_drop_eq_map (b := d) (i := 0) (n := 4) (by omega)
    rw [List.drop_zero] at hmap
    rw [hmap, ← haccepted.magic, ← haccepted.version, htype]
    rfl
  have hcut : d.take (headerSize + (GoBytes.beUint16 d 14).toNat) = d.take 4 ++
      (GoBytes.putUint32 pkt.senderID ++ (GoBytes.putUint32 pkt.channelID ++
        (GoBytes.putUint16 pkt.sequence ++ (GoBytes.putUint16 (GoBytes.beUint16 d 14) ++
          (GoBytes.putUint32 pkt.timestamp ++ pkt.payload))))) := by
    rw [hsender, hchannel, hsequence, htimestamp, GoBytes.putUint32_beUint32 (by omega),
      GoBytes.putUint32_beUint32 (by omega), GoBytes.putUint16_beUint16 (by omega),
      GoBytes.putUint16_beUint16 (by omega), GoBytes.putUint32_beUint32 (by omega), hpayload, hlen,
      show headerSize = 4 + 4 + 4 + 2 + 2 + 4 from rfl]
    simp only [List.take_add, List.append_assoc]
  rw [hcut, hstart, pkt.encode_eq, hmagic, hversion, hbyte, hcount]
  rfl

/-- The wire format. A packet with sendable fields comes back from its own bytes,
whatever the pooled packet held before. A datagram is accepted exactly when it is
long enough, of this protocol, and announces a payload it has; written back, it
loses only its trailing bytes and the reserved bits. -/
theorem codec_roundtrip :
    (∀ p pooled : Packet, p.Sendable → pooled.decodeInto p.encode = (p.onWire, none) ∧
      p.onWire.payloadLen.toNat = p.payload.length) ∧
    (∀ (d : GoBytes) (pooled : Packet), ((pooled.decodeInto d).2 = none ↔ Acceptable d) ∧
      ((pooled.decodeInto d).2 = none → (pooled.decodeInto d).1.encode =
        (d.take (headerSize + (GoBytes.beUint16 d 14).toNat)).set 3 (d.getD 3 0 &&& ~~~flagReserved))) := by
  have hcases : ∀ (d : GoBytes) (pooled : Packet), (pooled.decodeInto d).2 = none ↔
      ∃ pkt, decodeInto d = .ok pkt ∧ pooled.decodeInto d = (pkt, none) := by
    intro d pooled
    have hspec := pooled.decodeInto_spec d
    cases hdecode : decodeInto d with
    | ok pkt =>
      rw [hdecode] at hspec
      exact ⟨fun _ => ⟨pkt, rfl, hspec⟩, fun _ => by rw [hspec]⟩
    | error e =>
      rw [hdecode] at hspec
      constructor
      · intro hnone
        rw [hspec] at hnone
        cases hnone
      · rintro ⟨pkt, hok, _⟩
        cases hok
  refine ⟨fun p pooled hp => ⟨?_, hp.toNat_payloadLen⟩, fun d pooled => ⟨?_, ?_⟩⟩
  · have hspec := pooled.decodeInto_spec p.encode
    rw [hp.decodeInto_encode] at hspec
    exact hspec
  · rw [hcases d pooled, ← decodeInto_isOk_iff]
    constructor
    · rintro ⟨pkt, hok, _⟩
      exact ⟨pkt, hok⟩
    · rintro ⟨pkt, hok⟩
      have hspec := pooled.decodeInto_spec d
      rw [hok] at hspec
      exact ⟨pkt, hok, hspec⟩
  · intro hnone
    obtain ⟨pkt, hok, hinto⟩ := (hcases d pooled).mp hnone
    rw [hinto]
    exact encode_of_decodeInto hok

/-- A voice frame with two bytes of audio. -/
def voiceFrame : Packet where
  magic := 0
  version := 0
  type := typeVoice
  flags := 0xFF
  vad := true
  energyLevel := 9
  senderID := 7
  channelID := 3
  sequence := 65535
  payloadLen := 0
  timestamp := 960
  payload := [0x11, 0x22]

/-- Decoded over another packet it comes back whole, and so does its image with
reserved bits set and a byte too many. -/
theorem codec_roundtrip_voiceFrame :
    voiceFrame.decodeInto voiceFrame.encode = (voiceFrame.onWire, none) ∧
      (voiceFrame.decodeInto ((voiceFrame.encode.set 3 0x9F) ++ [0x33])).1.encode = voiceFrame.encode := by
  refine ⟨(codec_roundtrip.1 voiceFrame voiceFrame ⟨.inl rfl, .inl rfl, rfl, by decide, by decide⟩).1, ?_⟩
  rw [(codec_roundtrip.2 ((voiceFrame.encode.set 3 0x9F) ++ [0x33]) voiceFrame).2 (by decide +kernel)]
  decide +kernel

end low_latency_voice.audio
