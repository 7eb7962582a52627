import LowLatencyVoice.Client.Wire

namespace low_latency_voice.client

open audio wire

/-- `MAX_PEERS`. -/
def maxPeers : Nat := 32

/-- `PeerStream`, with the two indexes kept in its ring. -/
structure PeerStream where
  userId : UInt32
  isActive : Bool
  isSpeaking : Bool
  userVolume : Float32
  ring : RingBuffer Int16 ringBufferSize

/-- The receiving side of the engine's globals: the peer slots, and whether a
speaking callback is set. -/
structure PeerTable where
  peers : Fin maxPeers → PeerStream
  speakingCb : Bool

/-- One call of the speaking callback. -/
structure SpeakingChange where
  userId : UInt32
  isSpeaking : Bool
  energy : Float32

/-- What `voice_engine_feed_inbound_packet` reads from a header. -/
structure InboundHeader where
  senderId : UInt32
  vad : Bool
  energy : Float32
  payloadLen : UInt16

/-- The checks of `voice_engine_feed_inbound_packet`; `none` where it returns early.
Version and type are not looked at. -/
def readInbound (packetBytes : Option GoBytes) (length : UInt32) : Option InboundHeader :=
  match packetBytes with
  | none => none
  | some bytes =>
    if length < 20 then none
    else if bytes.getD 0 0 ≠ 0x56 then none
    else
      let flags := bytes.getD 3 0
      let senderId := GoBytes.beUint32 bytes 4
      if senderId = 0 then none
      else
        let payloadLen := GoBytes.beUint16 bytes 14
        if length < 20 + payloadLen.toUInt32 then none
        else some {
          senderId
          vad := flags &&& 0x01 != 0
          energy := Float32.ofNat ((flags &&& 0xF0) >>> 4).toNat / 15.0
          payloadLen }

/-- `pcm_in[s]`: sample `s` of a payload, low byte first. -/
def pcmIn (payload : GoBytes) (s : Nat) : Int16 :=
  ((payload.getD (2 * s) 0).toUInt16 ||| (payload.getD (2 * s + 1) 0).toUInt16 <<< 8).toInt16

/-- The first `n` samples of a payload. -/
def samplesOf (payload : GoBytes) (n : Nat) : List Int16 := (List.range n).map (pcmIn payload)

/-- The ring with both indexes at the start. -/
def rewind (r : RingBuffer Int16 ringBufferSize) : RingBuffer Int16 ringBufferSize :=
  { r with readIdx := ⟨0, r.readIdx.pos⟩, writeIdx := ⟨0, r.readIdx.pos⟩ }

/-- The slots for remote users. Slot 0 is reserved for the microphone test. -/
def peerSlots : List (Fin maxPeers) := (List.finRange maxPeers).drop 1

namespace PeerTable

/-- The slot that takes a sender's audio, with its stream as it is then: the
sender's own, or the first inactive one made over to the sender. -/
def peerFor (g : PeerTable) (senderId : UInt32) : Option (Fin maxPeers × PeerStream) :=
  match peerSlots.find? fun i => (g.peers i).isActive && (g.peers i).userId == senderId with
  | some i => some (i, g.peers i)
  | none =>
    match peerSlots.find? fun i => !(g.peers i).isActive with
    | some i =>
      some (i, { g.peers i with
        userId := senderId, isActive := true, userVolume := 1.0, ring := rewind (g.peers i).ring })
    | none => none

/-- `voice_engine_feed_inbound_packet`. Without a slot the audio is dropped, and the
callback still runs. -/
def feedInboundPacket (g : PeerTable) (packetBytes : Option GoBytes) (length : UInt32) :
    PeerTable × Option SpeakingChange :=
  match packetBytes, readInbound packetBytes length with
  | some bytes, some hdr =>
    let g' := match g.peerFor hdr.senderId with
      | some (i, peer) =>
        let samplesToWrite := min (hdr.payloadLen.toNat / 2) samplesPerFrame
        { g with
          peers := Function.update g.peers i { peer with
            isSpeaking := hdr.vad
            ring := peer.ring.pushAll (samplesOf (bytes.drop 20) samplesToWrite) } }
      | none => g
    (g', if g.speakingCb then some ⟨hdr.senderId, hdr.vad, hdr.energy⟩ else none)
  | _, _ => (g, none)

/-- Some slot for remote users is free or the sender's. -/
def HasSlot (g : PeerTable) (senderId : UInt32) : Prop :=
  ∃ i, i ∈ peerSlots ∧ ((g.peers i).isActive = false ∨ (g.peers i).userId = senderId)

/-- From `g` to `g'` the sender's stream takes in `samples`, after what it held or
on a fresh slot, and no other stream changes. -/
def Consumes (g g' : PeerTable) (senderId : UInt32) (vad : Bool) (samples : List Int16) : Prop :=
  ∃ i, i ∈ peerSlots ∧ ((g.peers i).isActive = false ∨ (g.peers i).userId = senderId) ∧
    (g'.peers i).userId = senderId ∧ (g'.peers i).isActive = true ∧ (g'.peers i).isSpeaking = vad ∧
    (g'.peers i).ring =
      (if (g.peers i).isActive then (g.peers i).ring else rewind (g.peers i).ring).pushAll samples ∧
    ∀ j, j ≠ i → g'.peers j = g.peers j

end PeerTable

/-- A slot found is the sender's, or a free one made over to the sender. -/
theorem PeerTable.peerFor_eq_some {g : PeerTable} {senderId : UInt32} {i : Fin maxPeers}
    {peer : PeerStream} (h : g.peerFor senderId = some (i, peer)) :
    i ∈ peerSlots ∧ ((g.peers i).isActive = false ∨ (g.peers i).userId = senderId) ∧ peer.userId = senderId ∧
      peer.isActive = true ∧
      peer.ring = if (g.peers i).isActive then (g.peers i).ring else rewind (g.peers i).ring := by
  unfold peerFor at h
  split at h
  · rename_i j hfind
    cases h
    have hslot := List.mem_of_find?_eq_some hfind
    have hown := List.find?_some hfind
    simp only [Bool.and_eq_true, beq_iff_eq] at hown
    exact ⟨hslot, .inr hown.2, hown.2, hown.1, by rw [if_pos hown.1]⟩
  · split at h
    · rename_i j hfind
      cases h
      have hslot := List.mem_of_find?_eq_some hfind
      have hfree := List.find?_some hfind
      simp only [Bool.not_eq_true'] at hfree
      exact ⟨hslot, .inl hfree, rfl, rfl, by rw [if_neg (by simp [hfree])]⟩
    · cases h

theorem PeerTable.hasSlot_iff (g : PeerTable) (senderId : UInt32) :
    g.HasSlot senderId ↔ (g.peerFor senderId).isSome := by
  unfold peerFor
  constructor
  · intro h
    obtain ⟨i, hi, hslot⟩ := h
    split
    · rfl
    · rename_i hnone
      split
      · rfl
      · rename_i hfull
        have hactive := List.find?_eq_none.mp hfull i hi
        have hother := List.find?_eq_none.mp hnone i hi
        simp only [Bool.not_eq_true', Bool.not_eq_false] at hactive
        simp only [hactive, Bool.true_and, beq_iff_eq] at hother
        obtain hfree | hown := hslot
        · rw [hactive] at hfree
          cases hfree
        · exact absurd hown hother
  · intro h
    obtain ⟨found, hfound⟩ := Option.isSome_iff_exists.mp h
    obtain ⟨i, peer⟩ := found
    have hspec := peerFor_eq_some hfound
    exact ⟨i, hspec.1, hspec.2.1⟩

/-- The engine reads from an accepted datagram what the server read. The length it is
told is 32 bits wide. -/
theorem readInbound_of_decodeInto {d : GoBytes} {pkt : Packet} (h : decodeInto d = .ok pkt)
    (hlength : d.length < 4294967296) (hsender : pkt.senderID ≠ 0) :
    ∃ hdr, readInbound (some d) (UInt32.ofNat d.length) = some hdr ∧ hdr.senderId = pkt.senderID ∧
      hdr.vad = pkt.vad ∧ hdr.payloadLen = pkt.payloadLen := by
  obtain ⟨hmagic, hlen, _, _, _, hflags, hsend, _, _, hplen, _⟩ := decodeInto_eq_ok h
  rw [headerSize] at hlen
  have hnat : (UInt32.ofNat d.length).toNat = d.length := UInt32.toNat_ofNat_of_lt' hlength
  have htwenty : (20 : UInt32).toNat = 20 := rfl
  have hsum : (20 + pkt.payloadLen.toUInt32).toNat = 20 + pkt.payloadLen.toNat := by
    have hsmall := pkt.payloadLen.toNat_lt
    rw [UInt32.toNat_add, UInt16.toNat_toUInt32, htwenty]
    exact Nat.mod_eq_of_lt (by omega)
  have hlong : ¬ UInt32.ofNat d.length < 20 := by
    rw [UInt32.lt_iff_toNat_lt, hnat, htwenty]
    omega
  have hroom : ¬ UInt32.ofNat d.length < 20 + pkt.payloadLen.toUInt32 := by
    rw [UInt32.lt_iff_toNat_lt, hnat, hsum]
    exact Nat.not_lt.mpr hlen
  unfold readInbound
  simp only [if_neg hlong, hmagic, magicByte, ne_eq, not_true_eq_false, if_false, ← hsend, if_neg hsender,
    ← hplen, if_neg hroom]
  exact ⟨_, rfl, rfl, (congrArg Prod.fst hflags).symm, rfl⟩

/-- Samples that lie within the announced payload are the same before and after it
is cut out of the datagram. -/
theorem samplesOf_take (b : GoBytes) {n len : Nat} (h : 2 * n ≤ len) :
    samplesOf (b.take len) n = samplesOf b n := by
  unfold samplesOf
  refine List.map_congr_left fun s hs => ?_
  have hlt := List.mem_range.mp hs
  unfold pcmIn
  rw [List.getD_eq_getElem?_getD, List.getD_eq_getElem?_getD, List.getElem?_take_of_lt (by omega),
    List.getElem?_take_of_lt (by omega), ← List.getD_eq_getElem?_getD, ← List.getD_eq_getElem?_getD]

/-- Fed the datagram `d` the server decoded to `pkt`, the engine accepts it and reads
the same header. With a slot for the sender it takes in the first samples of the
payload, at most a frame of them; without one it changes nothing. -/
def PeerTable.FeedsAlike (g : PeerTable) (d : GoBytes) (pkt : Packet) : Prop :=
  (∃ hdr, readInbound (some d) (UInt32.ofNat d.length) = some hdr ∧ hdr.senderId = pkt.senderID ∧
    hdr.vad = pkt.vad ∧ hdr.payloadLen = pkt.payloadLen) ∧
  (g.HasSlot pkt.senderID →
    g.Consumes (g.feedInboundPacket (some d) (UInt32.ofNat d.length)).1 pkt.senderID pkt.vad
      (samplesOf pkt.payload (min (pkt.payloadLen.toNat / 2) samplesPerFrame))) ∧
  (¬ g.HasSlot pkt.senderID → (g.feedInboundPacket (some d) (UInt32.ofNat d.length)).1 = g)

theorem PeerTable.feedsAlike_of_decodeInto (g : PeerTable) {d : GoBytes} {pkt : Packet}
    (h : decodeInto d = .ok pkt) (hlength : d.length < 4294967296) (hsender : pkt.senderID ≠ 0) :
    g.FeedsAlike d pkt := by
  obtain ⟨hdr, hread, hsend, hvad, hplen⟩ := readInbound_of_decodeInto h hlength hsender
  refine ⟨⟨hdr, hread, hsend, hvad, hplen⟩, ?_, ?_⟩
  · intro hslot
    obtain ⟨found, hfound⟩ := Option.isSome_iff_exists.mp ((g.hasSlot_iff pkt.senderID).mp hslot)
    obtain ⟨i, peer⟩ := found
    obtain ⟨hi, hheld, huser, hactive, hring⟩ := peerFor_eq_some hfound
    have hsamples : samplesOf pkt.payload (min (pkt.payloadLen.toNat / 2) samplesPerFrame) =
        samplesOf (d.drop 20) (min (pkt.payloadLen.toNat / 2) samplesPerFrame) := by
      rw [(decodeInto_eq_ok h).2.2.2.2.2.2.2.2.2.2.2]
      exact samplesOf_take _ (by omega)
    unfold feedInboundPacket
    simp only [hread, hsend, hfound, hvad, hplen]
    refine ⟨i, hi, hheld, ?_⟩
    simp only [Function.update_self, huser, hactive, hring, hsamples, true_and]
    intro j hj
    exact Function.update_of_ne hj _ _
  · intro hfull
    have hnone : g.peerFor pkt.senderID = none := by
      rw [hasSlot_iff] at hfull
      exact Option.not_isSome_iff_eq_none.mp hfull
    unfold feedInboundPacket
    simp only [hread, hsend, hnone]

/-- The three codecs agree on what the server forwards. The client's decoder takes
every datagram the server's takes; the engine takes every voice datagram with a sender
whose length it can be told; and both encoders write the same bytes for every packet in
range whose magic and version are set. -/
theorem wire_agreement :
    (∀ (d : GoBytes) (pkt : Packet), decodeInto d = .ok pkt →
      ∃ q, wire.VoicePacket.decode d = .ok q ∧ SamePacket pkt q) ∧
    (∀ (d : GoBytes) (pkt : Packet), decodeInto d = .ok pkt → d.length < 4294967296 →
      pkt.type = typeVoice → pkt.senderID ≠ 0 → ∀ g : PeerTable, g.FeedsAlike d pkt) ∧
    (∀ q : wire.VoicePacket, InWireRange q → q.magic ≠ 0 → q.version ≠ 0 → (∃ p, SamePacket p q) ∧
      ∀ p, SamePacket p q → ∀ dstLen, headerSize + p.payload.length ≤ dstLen →
        q.encode = p.encodeInto dstLen) := by
  refine ⟨?_, ?_, ?_⟩
  · intro d pkt h
    exact decode_of_decodeInto h
  · intro d pkt h hlength _ hsender g
    exact g.feedsAlike_of_decodeInto h hlength hsender
  · intro q hq hmagic hversion
    exact ⟨hq.exists_same, fun p hp dstLen hdst => encode_eq_encodeInto hp hmagic hversion hdst⟩

/-- User 7 speaks in channel 3, in a frame of two samples. -/
def speech : GoBytes :=
  [0x56, 1, 1, 1, 0, 0, 0, 7, 0, 0, 0, 3, 0, 1, 0, 4, 0, 0, 3, 0xC0, 0x10, 0, 0x20, 0]

def spoken : Packet where
  magic := 0x56
  version := 1
  type := 1
  flags := 1
  vad := true
  energyLevel := 0
  senderID := 7
  channelID := 3
  sequence := 1
  payloadLen := 4
  timestamp := 960
  payload := [0x10, 0, 0x20, 0]

/-- The same with a magic byte of zero, as the client would send it. -/
def unmarked : wire.VoicePacket where
  magic := 0
  type := 1
  vad := true
  senderId := 7
  channelId := 3
  sequence := 1
  timestamp := 960
  payload := [0x10, 0, 0x20, 0]

/-- Every slot for remote users is held by somebody else. -/
def crowded : PeerTable where
  peers i := {
    userId := UInt32.ofNat (100 + i.val)
    isActive := i.val != 0
    isSpeaking := false
    userVolume := 1.0
    ring := ⟨fun _ => 0, ⟨0, ringBufferSize_pos⟩, ⟨0, ringBufferSize_pos⟩⟩ }
  speakingCb := false

theorem wire_agreement_speech :
    (∃ q, wire.VoicePacket.decode speech = .ok q ∧ SamePacket spoken q) ∧
      crowded.FeedsAlike speech spoken ∧ { unmarked with magic := 0x56 }.encode = speech := by
  have hrange : InWireRange { unmarked with magic := 0x56 } :=
    ⟨by decide, by decide, by decide, by decide, by decide, by decide, by decide, by decide, by decide⟩
  have henc := (wire_agreement.2.2 { unmarked with magic := 0x56 } hrange (by decide) (by decide)).2 spoken
    ⟨rfl, rfl, rfl, rfl, rfl, rfl, rfl, rfl, rfl, rfl⟩ 24 (by decide)
  exact ⟨wire_agreement.1 speech spoken rfl,
    wire_agreement.2.1 speech spoken rfl (by decide) rfl (by decide) crowded, henc⟩

/-- Without the three provisos the codecs disagree: a zero magic is filled in by one
encoder only, a full table takes in nothing, and a length of `2 ^ 32` bytes reads as zero. -/
theorem wire_disagreement :
    (InWireRange unmarked ∧ ∃ p, SamePacket p unmarked ∧ unmarked.encode ≠ p.encode) ∧
    (decodeInto speech = .ok spoken ∧ spoken.type = typeVoice ∧
      ¬ crowded.Consumes (crowded.feedInboundPacket (some speech) 24).1 7 true [0x10, 0x20]) ∧
    (∃ d, decodeInto d = .ok spoken ∧ readInbound (some d) (UInt32.ofNat d.length) = none) := by
  refine ⟨⟨?_, ?_⟩, ⟨rfl, rfl, ?_⟩, ?_⟩
  · exact ⟨by decide, by decide, by decide, by decide, by decide, by decide, by decide, by decide, by decide⟩
  · exact ⟨{ spoken with magic := 0 }, ⟨rfl, rfl, rfl, rfl, rfl, rfl, rfl, rfl, rfl, rfl⟩, by decide⟩
  · intro h
    obtain ⟨i, hi, hheld, _⟩ := h
    have hother : ∀ i ∈ peerSlots, (crowded.peers i).isActive = true ∧ (crowded.peers i).userId ≠ 7 := by
      decide
    rw [(hother i hi).1] at hheld
    obtain hfree | hown := hheld
    · cases hfree
    · exact (hother i hi).2 hown
  · refine ⟨speech ++ List.replicate 4294967272 0, decodeInto_append rfl _, ?_⟩
    have hlength : (speech ++ List.replicate 4294967272 (0 : UInt8)).length = 4294967296 := by
      rw [List.length_append, List.length_replicate]
      rfl
    rw [hlength]
    rfl

end low_latency_voice.client
