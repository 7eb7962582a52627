import LowLatencyVoice.Audio.Codec
import LowLatencyVoice.Client.Datagrams
import LowLatencyVoice.Client.Inbound
import LowLatencyVoice.Client.PushToTalk
import LowLatencyVoice.Lib.GoMap

open low_latency_voice.audio

namespace low_latency_voice.client

/-- A frame of speech: who says it in which channel, how it is announced, and its samples. -/
structure Utterance where
  userId : UInt32
  channelId : UInt32
  isSpeaking : Bool
  energyLevel : UInt8
  samples : List Int16

/-- The samples of the frame a tick fetches. -/
def AudioEngineService.samples (a : AudioEngineService) : List Int16 :=
  match if a.hasLibrary then (a.engine.captureFrame true (samplesPerFrame * 2)).2 else none with
  | some frame => frame.pcm.map Sample.value
  | none => List.replicate samplesPerFrame 0

/-- What the client says if it sends the frame it has. -/
def VoiceNotifier.utterance (v : VoiceNotifier) : Utterance where
  userId := v.voiceClient.userId
  channelId := v.voiceClient.channelId
  isSpeaking := v.audioEngine.fetch.2.isSpeaking
  energyLevel := v.audioEngine.fetch.2.energyLevel
  samples := v.audioEngine.samples

/-- The server and the engine read the utterance from the datagram. -/
structure Spells (d : GoBytes) (u : Utterance) (pkt : Packet) : Prop where
  decoded : decodeInto d = .ok pkt
  type : pkt.type = typeVoice
  short : d.length < 4294967296
  senderID : pkt.senderID = u.userId
  channelID : pkt.channelID = u.channelId
  vad : pkt.vad = u.isSpeaking
  energyLevel : pkt.energyLevel = u.energyLevel &&& 0x0F
  samples : samplesOf pkt.payload (min (pkt.payloadLen.toNat / 2) samplesPerFrame) = u.samples

section frames

theorem length_pcmBytes (pcm : List Sample) : (pcmBytes pcm).length = 2 * pcm.length := by
  induction pcm with
  | nil => rfl
  | cons x pcm ih =>
    rw [pcmBytes, List.flatMap_cons, List.length_append, List.length_cons]
    change 2 + (pcmBytes pcm).length = _
    omega

/-- A sample is read back from its two bytes. -/
theorem pcmIn_pcmBytes (pcm : List Sample) {s : Nat} (hs : s < pcm.length) :
    pcmIn (pcmBytes pcm) s = pcm[s].value := by
  induction pcm generalizing s with
  | nil => cases hs
  | cons x pcm ih =>
    have hcons : pcmBytes (x :: pcm) = x.value.toUInt16.toUInt8 :: (x.value.toUInt16 >>> 8).toUInt8 :: pcmBytes pcm :=
      rfl
    cases s with
    | zero =>
      have hword := GoBytes.beUint16_putUint16 [] x.value.toUInt16 []
      rw [hcons]
      change (x.value.toUInt16.toUInt8.toUInt16 ||| (x.value.toUInt16 >>> 8).toUInt8.toUInt16 <<< 8).toInt16 = _
      rw [UInt16.or_comm]
      exact (congrArg UInt16.toInt16 hword).trans (Int16.toInt16_toUInt16 _)
    | succ s =>
      rw [hcons]
      exact ih (Nat.lt_of_succ_lt_succ hs)

/-- The samples of a frame are read back from its bytes. -/
theorem samplesOf_pcmBytes (pcm : List Sample) : samplesOf (pcmBytes pcm) pcm.length = pcm.map Sample.value := by
  unfold samplesOf
  apply List.ext_getElem
  · rw [List.length_map, List.length_range, List.length_map]
  · intro s hs hs'
    rw [List.getElem_map, List.getElem_range, List.getElem_map]
    exact pcmIn_pcmBytes pcm (by rwa [List.length_map] at hs')

/-- Whatever a tick fetches is a frame of samples. -/
theorem data_fetch (a : AudioEngineService) :
    a.samples.length = samplesPerFrame ∧ a.fetch.2.data.length = 2 * samplesPerFrame ∧
      samplesOf a.fetch.2.data samplesPerFrame = a.samples := by
  have hsilent : samplesOf (List.replicate (samplesPerFrame * 2) 0) samplesPerFrame =
      List.replicate samplesPerFrame 0 := by
    have hbytes : (List.replicate (samplesPerFrame * 2) 0 : GoBytes) =
        pcmBytes (List.replicate samplesPerFrame Sample.silence) := by decide +kernel
    have hread := samplesOf_pcmBytes (List.replicate samplesPerFrame Sample.silence)
    rwa [List.length_replicate, List.map_replicate, ← hbytes] at hread
  have hzero : (List.replicate (samplesPerFrame * 2) (0 : UInt8)).length = 2 * samplesPerFrame := by
    rw [List.length_replicate, Nat.mul_comm]
  unfold AudioEngineService.samples AudioEngineService.fetch
  cases a.hasLibrary with
  | false => exact ⟨List.length_replicate, hzero, hsilent⟩
  | true =>
    simp only [if_true]
    cases hframe : a.engine.captureFrame true (samplesPerFrame * 2) with
    | mk e found =>
      cases found with
      | none => exact ⟨List.length_replicate, hzero, hsilent⟩
      | some frame =>
        have hlength : frame.pcm.length = samplesPerFrame := by
          have hcaptured : (a.engine.captureFrame true (samplesPerFrame * 2)).2 = some frame :=
            congrArg Prod.snd hframe
          have hpcm := Engine.captureFrame_pcm hcaptured
          rw [hpcm]
          split
          · rename_i hdeq
            rw [List.length_take, RingBuffer.length_queued]
            exact Nat.min_eq_left hdeq.2.2
          · exact List.length_replicate
        refine ⟨by rw [List.length_map, hlength], by rw [length_pcmBytes, hlength], ?_⟩
        have hread := samplesOf_pcmBytes frame.pcm
        rwa [hlength] at hread

end frames

section packets

/-- The packet of the server with the fields of an outbound one. -/
def VoicePacket.onServer (p : VoicePacket) : Packet where
  magic := magicByte
  version := protocolVersion
  type := p.type
  flags := 0
  vad := p.vad
  energyLevel := p.energyLevel &&& 0x0F
  senderID := p.senderId
  channelID := p.channelId
  sequence := p.sequence
  payloadLen := 0
  timestamp := p.timestamp
  payload := p.payload

theorem VoicePacket.encode_eq (p : VoicePacket) : p.encode = p.onServer.encode := by
  have hflags : ∀ energy : UInt8, (energy &&& 0x0F) &&& 0x0F = energy &&& 0x0F :=
    GoBytes.forall_byte (by decide +kernel)
  rw [Packet.encode_eq]
  simp only [VoicePacket.encode, onServer, encodeFlags, hflags, List.append_assoc]
  rfl

/-- What a tick sends is the frame it has fetched. -/
theorem tick_eq_some {v : VoiceNotifier} {d : GoBytes} (hsent : v.tick.2 = some d) :
    ∃ sequence timestamp, d = VoicePacket.encode {
      type := packetTypeVoice, vad := v.utterance.isSpeaking, energyLevel := v.utterance.energyLevel,
      senderId := v.utterance.userId, channelId := v.utterance.channelId, sequence, timestamp,
      payload := v.audioEngine.fetch.2.data } := by
  have hfetched := v.audioEngine.onFramePumpTick_eq
  unfold VoiceNotifier.tick at hsent
  cases htick : v.audioEngine.onFramePumpTick with
  | mk a found =>
    rw [htick] at hsent hfetched
    cases found with
    | none => cases hsent
    | some frame =>
      have hframe : frame = v.audioEngine.fetch.2 := by
        simp only at hfetched
        split at hfetched
        · exact Option.some.inj hfetched
        · cases hfetched
      simp only [VoiceNotifier.onAudioCaptured] at hsent
      split at hsent
      · cases hsent
      simp only [VoiceClient.sendVoiceFrame] at hsent
      split at hsent
      · cases hsent
      simp only [VoiceClient.sendPacket] at hsent
      split at hsent
      · cases hsent
      · rw [hframe] at hsent
        exact ⟨_, _, (Option.some.inj hsent).symm⟩

/-- The frame a client sends carries what it says. -/
theorem spells_tick {v : VoiceNotifier} {d : GoBytes} (hsent : v.tick.2 = some d) :
    ∃ pkt, Spells d v.utterance pkt := by
  obtain ⟨sequence, timestamp, rfl⟩ := tick_eq_some hsent
  obtain ⟨-, hlength, hread⟩ := data_fetch v.audioEngine
  have henergy : ∀ energy : UInt8, energy &&& 0x0F ≤ 15 := GoBytes.forall_byte (by decide +kernel)
  let p : VoicePacket := {
    type := packetTypeVoice, vad := v.utterance.isSpeaking, energyLevel := v.utterance.energyLevel,
    senderId := v.utterance.userId, channelId := v.utterance.channelId, sequence, timestamp,
    payload := v.audioEngine.fetch.2.data }
  have hframe : samplesPerFrame = 960 := rfl
  have hsendable : p.onServer.Sendable := {
    magic := .inr rfl
    version := .inr rfl
    type := rfl
    energyLevel := henergy _
    payload := by
      change v.audioEngine.fetch.2.data.length ≤ maxPayloadSize
      rw [hlength, hframe, maxPayloadSize]
      omega }
  have hpayload := hsendable.toNat_payloadLen
  refine ⟨p.onServer.onWire, ?_⟩
  exact {
    decoded := by
      rw [VoicePacket.encode_eq]
      exact hsendable.decodeInto_encode
    type := rfl
    short := by
      rw [VoicePacket.encode_eq, Packet.length_encode]
      change headerSize + v.audioEngine.fetch.2.data.length < _
      rw [hlength, hframe, headerSize]
      omega
    senderID := rfl
    channelID := rfl
    vad := rfl
    energyLevel := rfl
    samples := by
      rw [hpayload]
      change samplesOf v.audioEngine.fetch.2.data (min (v.audioEngine.fetch.2.data.length / 2) samplesPerFrame) = _
      rw [hlength, Nat.mul_div_cancel_left _ Nat.two_pos, Nat.min_self, hread]
      rfl }

end packets

/-- An unsigned field of a packet as an `int`. -/
def dartInt (n : UInt32) : Int64 := Int64.ofNat n.toNat

/-- A client with the user it is signed in as, the streams of its peers, and what it shows of
the speakers. -/
structure Participant where
  voice : VoiceNotifier
  currentUserId : Option UInt32
  table : PeerTable
  speakingUsers : GoMap Int64 Bool
  userEnergyLevels : GoMap Int64 Int64

namespace Participant

/-- `VoiceStateModel.isDeafened`. -/
def isDeafened (p : Participant) : Bool := p.voice.selfDeafened || p.voice.serverDeafened

/-- The listener of `VoiceNotifier` on the stream of speaking states. -/
def onSpeakingState (p : Participant) (packet : wire.VoicePacket) : Participant :=
  if p.currentUserId.map dartInt = some packet.senderId ∨ packet.senderId = 0 then p
  else { p with
    speakingUsers := p.speakingUsers.set packet.senderId packet.vad
    userEnergyLevels := p.userEnergyLevels.set packet.senderId packet.energyLevel }

/-- `AudioEngineService.feedInboundPacket`. -/
def feedInboundPacket (p : Participant) (packetBytes : GoBytes) : Participant :=
  if p.voice.audioEngine.hasLibrary then
    { p with table := (p.table.feedInboundPacket (some packetBytes) (UInt32.ofNat packetBytes.length)).1 }
  else p

/-- The listener of `VoiceNotifier` on the stream of inbound packets. -/
def onInboundPacket (p : Participant) (packet : wire.VoicePacket) : Participant :=
  if p.currentUserId.map dartInt = some packet.senderId ∨ packet.senderId = 0 then p
  else if p.isDeafened then p
  else p.feedInboundPacket (packet.rawBytes.getD [])

/-- `_handleInboundDatagram`. A pong only measures the round trip. -/
def handleInboundDatagram (p : Participant) (data : GoBytes) : Participant :=
  match wire.VoicePacket.decode data with
  | .error _ => p
  | .ok packet =>
    if packet.type = Int64.ofNat packetTypeVoice.toNat then
      if packet.senderId = dartInt p.voice.voiceClient.userId ∨ packet.senderId = 0 then p
      else (p.onSpeakingState packet).onInboundPacket packet
    else p

/-- Nobody hears user 0 or himself. -/
def Ignores (p : Participant) (userId : UInt32) : Prop :=
  userId = 0 ∨ userId = p.voice.voiceClient.userId ∨ p.currentUserId = some userId

/-- From `p` to `p'` the client takes in an utterance: it shows the speaker, and its engine
plays exactly the samples, unless it is deafened or has no slot left. -/
structure Takes (p : Participant) (u : Utterance) (p' : Participant) : Prop where
  ignored : p.Ignores u.userId → p' = p
  shown : ¬p.Ignores u.userId → p'.speakingUsers = p.speakingUsers.set (dartInt u.userId) u.isSpeaking ∧
    p'.userEnergyLevels =
      p.userEnergyLevels.set (dartInt u.userId) (Int64.ofNat (u.energyLevel &&& 0x0F).toNat)
  deafened : p.isDeafened = true ∨ p.voice.audioEngine.hasLibrary = false → p'.table = p.table
  heard : ¬p.Ignores u.userId → p.isDeafened = false → p.voice.audioEngine.hasLibrary = true →
    p.table.HasSlot u.userId → p.table.Consumes p'.table u.userId u.isSpeaking u.samples
  crowded : ¬p.table.HasSlot u.userId → p'.table = p.table

end Participant

section inbound

theorem dartInt_inj {m n : UInt32} : dartInt m = dartInt n ↔ m = n := by
  constructor
  · intro h
    have hsame := congrArg Int64.toInt h
    have hbound : ∀ n : UInt32, n.toNat < 2 ^ 63 := fun n => Nat.lt_trans n.toNat_lt (by decide)
    rw [dartInt, dartInt, Int64.toInt_ofNat_of_lt (hbound m), Int64.toInt_ofNat_of_lt (hbound n)] at hsame
    exact UInt32.toNat_inj.mp (Int.natCast_inj.mp hsame)
  · exact congrArg dartInt

theorem eq_ofNat_of_toInt {v : Int64} {n : Nat} (h : v.toInt = n) : v = Int64.ofNat n := by
  rw [← Int64.ofInt_toInt v, h]
  exact Int64.ofInt_eq_ofNat

/-- What a decoded packet keeps of its datagram. -/
theorem decode_eq_ok {d : GoBytes} {q : wire.VoicePacket} (h : wire.VoicePacket.decode d = .ok q) :
    q.type = wire.ByteData.getUint8 d 2 ∧ q.rawBytes = some d := by
  unfold wire.VoicePacket.decode at h
  split at h
  · cases h
  · simp only at h
    split at h
    · cases h
    · cases h
      exact ⟨rfl, rfl⟩

/-- Who is not addressed by a voice datagram is not touched. -/
theorem handleInboundDatagram_of_type (p : Participant) {d : GoBytes} (htype : d.getD 2 0 ≠ packetTypeVoice) :
    p.handleInboundDatagram d = p := by
  unfold Participant.handleInboundDatagram
  split
  · rfl
  · rename_i q hq
    rw [if_neg]
    intro hvoice
    rw [(decode_eq_ok hq).1] at hvoice
    have hsame := congrArg Int64.toInt hvoice
    have hsmall : packetTypeVoice.toNat < 2 ^ 63 := by decide
    rw [wire.ByteData.toInt_getUint8, Int64.toInt_ofNat_of_lt hsmall] at hsame
    exact htype (UInt8.toNat_inj.mp (Int.natCast_inj.mp hsame))

/-- A client that gets the datagram of an utterance takes it in. -/
theorem Spells.takes {d : GoBytes} {u : Utterance} {pkt : Packet} (h : Spells d u pkt) (p : Participant) :
    p.Takes u (p.handleInboundDatagram d) := by
  obtain ⟨q, hq, hsame⟩ := wire.decode_of_decodeInto h.decoded
  have htype : q.type = Int64.ofNat packetTypeVoice.toNat := by
    rw [eq_ofNat_of_toInt hsame.type, h.type]
    rfl
  have hsender : q.senderId = dartInt u.userId := by
    rw [eq_ofNat_of_toInt hsame.senderId, h.senderID]
    rfl
  have henergy : q.energyLevel = Int64.ofNat (u.energyLevel &&& 0x0F).toNat := by
    rw [eq_ofNat_of_toInt hsame.energyLevel, h.energyLevel]
  have hvad : q.vad = u.isSpeaking := hsame.vad.trans h.vad
  have hzero : dartInt u.userId = 0 ↔ u.userId = 0 := dartInt_inj (n := 0)
  have hlistener : p.currentUserId.map dartInt = some q.senderId ∨ q.senderId = 0 ↔
      p.currentUserId = some u.userId ∨ u.userId = 0 := by
    rw [hsender, hzero]
    refine or_congr_left ?_
    cases p.currentUserId with
    | none => simp
    | some id => rw [Option.map_some, Option.some_inj, Option.some_inj, dartInt_inj]
  have hown : q.senderId = dartInt p.voice.voiceClient.userId ∨ q.senderId = 0 ↔
      u.userId = p.voice.voiceClient.userId ∨ u.userId = 0 := by rw [hsender, dartInt_inj, hzero]
  have hstart : p.handleInboundDatagram d =
      if q.senderId = dartInt p.voice.voiceClient.userId ∨ q.senderId = 0 then p
      else (p.onSpeakingState q).onInboundPacket q := by
    rw [Participant.handleInboundDatagram, hq]
    exact if_pos htype
  rw [if_congr hown rfl rfl] at hstart
  by_cases hignores : p.Ignores u.userId
  · have hsame : p.handleInboundDatagram d = p := by
      rw [hstart]
      split
      · rfl
      · rename_i hother
        have hlistens : p.currentUserId = some u.userId ∨ u.userId = 0 := by
          obtain h0 | h1 | h2 := hignores
          · exact .inr h0
          · exact absurd (.inl h1) hother
          · exact .inl h2
        rw [Participant.onSpeakingState, if_pos (hlistener.mpr hlistens), Participant.onInboundPacket,
          if_pos (hlistener.mpr hlistens)]
    rw [hsame]
    exact ⟨fun _ => rfl, fun hnot => absurd hignores hnot, fun _ => rfl, fun hnot => absurd hignores hnot,
      fun _ => rfl⟩
  have hzero' : u.userId ≠ 0 := fun h0 => hignores (.inl h0)
  have hlistens : ¬(p.currentUserId.map dartInt = some q.senderId ∨ q.senderId = 0) := by
    rw [hlistener]
    rintro (h0 | h0)
    · exact hignores (.inr (.inr h0))
    · exact hzero' h0
  have hnotown : ¬(u.userId = p.voice.voiceClient.userId ∨ u.userId = 0) := by
    rintro (h0 | h0)
    · exact hignores (.inr (.inl h0))
    · exact hzero' h0
  have hheard : p.handleInboundDatagram d =
      if p.isDeafened then p.onSpeakingState q else (p.onSpeakingState q).feedInboundPacket d := by
    rw [hstart, if_neg hnotown, Participant.onSpeakingState, if_neg hlistens, Participant.onInboundPacket,
      if_neg hlistens, (decode_eq_ok hq).2]
    rfl
  have hshows : p.onSpeakingState q = { p with
      speakingUsers := p.speakingUsers.set (dartInt u.userId) u.isSpeaking
      userEnergyLevels :=
        p.userEnergyLevels.set (dartInt u.userId) (Int64.ofNat (u.energyLevel &&& 0x0F).toNat) } := by
    rw [Participant.onSpeakingState, if_neg hlistens, hsender, hvad, henergy]
  rw [hshows] at hheard
  obtain ⟨-, hfeeds, hfull⟩ := p.table.feedsAlike_of_decodeInto h.decoded h.short (h.senderID ▸ hzero')
  rw [h.senderID] at hfeeds hfull
  rw [hheard]
  refine ⟨fun hyes => absurd hyes hignores, fun _ => ?_, fun hdeaf => ?_, fun _ hears hlibrary hslot => ?_,
    fun hnone => ?_⟩
  · unfold Participant.feedInboundPacket
    split
    · exact ⟨rfl, rfl⟩
    · split <;> exact ⟨rfl, rfl⟩
  · obtain hdeaf | hsilent := hdeaf
    · rw [if_pos hdeaf]
    · split
      · rfl
      · rw [Participant.feedInboundPacket, if_neg (by simp [hsilent])]
  · rw [if_neg (by simp [hears]), Participant.feedInboundPacket, if_pos hlibrary, ← h.vad, ← h.samples]
    exact hfeeds hslot
  · split
    · rfl
    · unfold Participant.feedInboundPacket
      split
      · exact hfull hnone
      · rfl

end inbound

end low_latency_voice.client
