import LowLatencyVoice.Client.Audibility

namespace low_latency_voice.client

theorem loopbackSlot_notMem : loopbackSlot ∉ peerSlots := by decide

namespace PeerTable

/-- From `g` to `g'` no slot changes but the user's own, which was the user's before or free. -/
def ChangesOnly (userId : UInt32) (g g' : PeerTable) : Prop :=
  ∀ i, g'.peers i = g.peers i ∨
    i ∈ peerSlots ∧ g'.holder i = some userId ∧ (g.holder i = some userId ∨ g.holder i = none)

theorem ChangesOnly.refl (userId : UInt32) (g : PeerTable) : g.ChangesOnly userId g := fun _ => .inl rfl

/-- The slot of the microphone test stays as it is. -/
theorem ChangesOnly.loopbackSlot {userId : UInt32} {g g' : PeerTable} (h : g.ChangesOnly userId g') :
    g'.peers loopbackSlot = g.peers loopbackSlot := by
  rcases h client.loopbackSlot with hsame | ⟨hslot, -⟩
  · exact hsame
  · exact absurd hslot loopbackSlot_notMem

/-- Another user's stream, volume and all the rest of the slot stay as they are. -/
theorem ChangesOnly.others {userId v : UInt32} {g g' : PeerTable} {i : Fin maxPeers}
    (h : g.ChangesOnly userId g') (hv : v ≠ userId) (hheld : g.holder i = some v) :
    g'.peers i = g.peers i := by
  rcases h i with hsame | ⟨-, -, hown | hfree⟩
  · exact hsame
  · rw [hheld] at hown
    exact absurd (Option.some.inj hown) hv
  · rw [hheld] at hfree
    cases hfree

/-- A slot written for the user who is given it. -/
theorem changesOnly_write (g : PeerTable) {i : Fin maxPeers} {p : PeerStream} {userId : UInt32}
    (hactive : p.isActive = true) (huser : p.userId = userId)
    (hfor : Seating.seatFor peerSlots g.holder userId = some i) :
    g.ChangesOnly userId { g with peers := Function.update g.peers i p } := by
  intro j
  by_cases hj : j = i
  · subst hj
    obtain ⟨hslot, hwhose⟩ := Seating.seatFor_eq_some hfor
    refine .inr ⟨hslot, ?_, hwhose.imp_right fun hfree => hfree.1⟩
    simp only [holder, Function.update_self, hactive, huser, if_true]
  · exact .inl (Function.update_of_ne hj p g.peers)

/-- A datagram changes its sender's slot only. -/
theorem changesOnly_feedInboundPacket (g : PeerTable) {packetBytes : Option GoBytes} {length : UInt32}
    {hdr : InboundHeader} (hread : readInbound packetBytes length = some hdr) :
    g.ChangesOnly hdr.senderId (g.feedInboundPacket packetBytes length).1 := by
  cases packetBytes with
  | none => cases hread
  | some bytes =>
    simp only [feedInboundPacket, hread]
    have hfor := g.map_peerFor hdr.senderId
    cases hfound : g.peerFor hdr.senderId with
    | none => exact .refl hdr.senderId g
    | some found =>
      obtain ⟨i, peer⟩ := found
      obtain ⟨-, -, huser, hactive, -⟩ := peerFor_eq_some hfound
      rw [hfound] at hfor
      exact changesOnly_write g hactive huser hfor.symm

theorem senderId_ne_zero {packetBytes : Option GoBytes} {length : UInt32} {hdr : InboundHeader}
    (hread : readInbound packetBytes length = some hdr) : hdr.senderId ≠ 0 := by
  unfold readInbound at hread
  split at hread
  · cases hread
  · simp only at hread
    split at hread
    · cases hread
    · split at hread
      · cases hread
      · split at hread
        · cases hread
        · rename_i hsender
          split at hread
          · cases hread
          · cases hread
            exact hsender

/-- What is not a voice packet changes nothing. -/
theorem feedInboundPacket_of_unread (g : PeerTable) {packetBytes : Option GoBytes} {length : UInt32}
    (hread : readInbound packetBytes length = none) : (g.feedInboundPacket packetBytes length).1 = g := by
  cases packetBytes with
  | none => rfl
  | some bytes => simp only [feedInboundPacket, hread]

/-- No sender is given the slot of the microphone test, whatever user id is in it. -/
theorem peerFor_ne_loopbackSlot {g : PeerTable} {senderId : UInt32} {i : Fin maxPeers} {peer : PeerStream}
    (h : g.peerFor senderId = some (i, peer)) : i ≠ client.loopbackSlot := by
  rintro rfl
  exact loopbackSlot_notMem (peerFor_eq_some h).1

end PeerTable

/-- The slots for remote users that are active have distinct user ids, none of them 0. -/
structure SlotsDistinct (g : PeerTable) : Prop where
  nonzero : ∀ i ∈ peerSlots, (g.peers i).isActive = true → (g.peers i).userId ≠ 0
  distinct : ∀ i ∈ peerSlots, ∀ j ∈ peerSlots, (g.peers i).isActive = true → (g.peers j).isActive = true →
    (g.peers i).userId = (g.peers j).userId → i = j

theorem slotsDistinct_iff (g : PeerTable) :
    SlotsDistinct g ↔
      (∀ i ∈ peerSlots, g.holder i ≠ some 0) ∧ Seating.Distinct peerSlots g.holder := by
  constructor
  · intro h
    refine ⟨fun i hi hheld => ?_, fun u i hi j hj hheldi hheldj => ?_⟩
    · obtain ⟨hactive, huser⟩ := (g.holder_eq_some_iff i 0).mp hheld
      exact h.nonzero i hi hactive huser
    · obtain ⟨hactivei, huseri⟩ := (g.holder_eq_some_iff i u).mp hheldi
      obtain ⟨hactivej, huserj⟩ := (g.holder_eq_some_iff j u).mp hheldj
      exact h.distinct i hi j hj hactivei hactivej (huseri.trans huserj.symm)
  · rintro ⟨hnonzero, hdistinct⟩
    refine ⟨fun i hi hactive huser => ?_, fun i hi j hj hactivei hactivej hsame => ?_⟩
    · exact hnonzero i hi ((g.holder_eq_some_iff i 0).mpr ⟨hactive, huser⟩)
    · apply hdistinct (g.peers i).userId i hi j hj
      · exact (g.holder_eq_some_iff i _).mpr ⟨hactivei, rfl⟩
      · exact (g.holder_eq_some_iff j _).mpr ⟨hactivej, hsame.symm⟩

namespace SlotsDistinct

/-- Only the slots for remote users matter. -/
theorem congr {g g' : PeerTable} (h : SlotsDistinct g) (hsame : ∀ i ∈ peerSlots, g'.holder i = g.holder i) :
    SlotsDistinct g' := by
  rw [slotsDistinct_iff] at h ⊢
  refine ⟨fun i hi hheld => ?_, h.2.congr hsame⟩
  rw [hsame i hi] at hheld
  exact h.1 i hi hheld

/-- A user who looks for a slot gets one at most. -/
theorem seat {g g' : PeerTable} (h : SlotsDistinct g) {userId : UInt32} (huser : userId ≠ 0)
    (hseat : g'.holder = Seating.seat peerSlots g.holder userId) : SlotsDistinct g' := by
  rw [slotsDistinct_iff] at h ⊢
  rw [hseat]
  refine ⟨fun i hi hheld => ?_, h.2.seat userId⟩
  rcases Seating.eq_or_held_of_seat hheld with hzero | hbefore
  · exact huser hzero.symm
  · exact h.1 i hi hbefore

theorem of_clear {g : PeerTable} (hclear : ∀ i, g.holder i = none) : SlotsDistinct g := by
  rw [slotsDistinct_iff]
  refine ⟨fun i _ hheld => ?_, Seating.distinct_of_none fun i _ => hclear i⟩
  rw [hclear i] at hheld
  cases hheld

end SlotsDistinct

namespace VoiceEngine

/-- Setting a volume changes the user's slot only. -/
theorem changesOnly_setUserVolume (g : VoiceEngine) (userId : UInt32) (volumeMultiplier : Float32) :
    g.table.ChangesOnly userId (g.setUserVolume userId volumeMultiplier).table := by
  unfold setUserVolume
  split
  · exact .refl userId g.table
  · rw [g.table.find?_own, g.table.find?_free]
    cases hown : Seating.seatOf peerSlots g.table.holder userId with
    | some i =>
      have hslot := (g.table.holder_eq_some_iff i userId).mp (Seating.seatOf_eq_some hown).2
      exact g.table.changesOnly_write hslot.1 hslot.2 (by simp only [Seating.seatFor, hown])
    | none =>
      simp only
      cases hfree : Seating.freeSeat peerSlots g.table.holder with
      | some i => exact g.table.changesOnly_write rfl rfl (by simp only [Seating.seatFor, hown, hfree])
      | none => exact .refl userId g.table

/-- The slots for remote users after a frame was captured. -/
theorem captureFrame_of_mem (g : VoiceEngine) (hasBuffer : Bool) (maxLen : Nat) {i : Fin maxPeers}
    (hi : i ∈ peerSlots) : (g.captureFrame hasBuffer maxLen).1.table.peers i = g.table.peers i := by
  have hother : i ≠ loopbackSlot := by
    rintro rfl
    exact loopbackSlot_notMem hi
  simp only [captureFrame]
  split
  · rfl
  · split
    · exact Function.update_of_ne hother _ _
    · rfl

/-- No call gives a remote user a second slot. -/
theorem slotsDistinct_call {g : VoiceEngine} (h : SlotsDistinct g.table) (c : EngineCall) :
    SlotsDistinct (g.call c).table := by
  cases c with
  | init vadHangoverMs => exact .of_clear fun _ => rfl
  | clearPeers => exact .of_clear fun _ => rfl
  | feedInboundPacket packetBytes length =>
    cases hread : readInbound packetBytes length with
    | none =>
      have hsame := g.table.feedInboundPacket_of_unread hread
      exact h.congr fun i _ => congrFun (congrArg PeerTable.holder hsame) i
    | some hdr =>
      have hseat := g.table.holder_feedInboundPacket packetBytes length
      rw [hread] at hseat
      exact h.seat (PeerTable.senderId_ne_zero hread) hseat
  | setUserVolume userId volumeMultiplier =>
    have hseat := g.holder_setUserVolume userId volumeMultiplier
    by_cases hzero : userId = 0
    · rw [if_pos hzero] at hseat
      exact h.congr fun i _ => congrFun hseat i
    · rw [if_neg hzero] at hseat
      exact h.seat hzero hseat
  | setMicTestLoopback enabled =>
    apply h.congr
    intro i hi
    cases enabled with
    | true => rfl
    | false =>
      have hother : i ≠ loopbackSlot := by
        rintro rfl
        exact loopbackSlot_notMem hi
      simp [PeerTable.holder, call, setMicTestLoopback, Function.update_of_ne hother]
  | captureFrame hasBuffer maxLen =>
    apply h.congr
    intro i hi
    simp only [PeerTable.holder, call, captureFrame_of_mem g hasBuffer maxLen hi]
  | playbackCallback hasOutput channels frameCount =>
    apply h.congr
    intro i _
    simp only [call, playbackCallback_fst]
    split
    · exact congrFun (g.holder_drained frameCount) i
    · rfl
  | mixAudioStreams frameSamples =>
    exact h.congr fun i _ => congrFun (g.holder_mixAudioStreams frameSamples) i
  | destroy | captureCallback | startCapture | stopCapture | startPlayback | stopPlayback | setPttState
  | setVadMode | setLocalMute | setLocalDeafen => exact h

/-- What a call makes of the slot of the microphone test: a captured frame is copied into it during the
test, mixing takes samples out of it, the calls that reset the table clear it, and no other call touches
it, whoever sends or is given a volume. -/
def LoopbackOnly (g : VoiceEngine) (c : EngineCall) : Prop :=
  let before := g.table.peers loopbackSlot
  let after := (g.call c).table.peers loopbackSlot
  match c with
  | .captureFrame _ _ =>
    after = before ∨ g.capture.micTestLoopback = true ∧ ∃ pcm, after = { before with
      userId := 999999, isActive := true, userVolume := 1.0, ring := before.ring.pushAll pcm }
  | .mixAudioStreams _ | .playbackCallback _ _ _ =>
    ∃ n, after = { before with ring := (before.ring.drain n).2 }
  | .init _ | .clearPeers | .setMicTestLoopback false => after = before.clear
  | _ => after = before

theorem drained_loopback (g : VoiceEngine) (n : Nat) :
    ∃ m, (g.drained n).table.peers loopbackSlot =
      { g.table.peers loopbackSlot with ring := ((g.table.peers loopbackSlot).ring.drain m).2 } := by
  simp only [drained, withPeers]
  split
  · exact ⟨n, rfl⟩
  · exact ⟨0, rfl⟩

theorem setPeer_self (g : VoiceEngine) (i : Fin maxPeers) (p : PeerStream) :
    (g.setPeer i p).table.peers i = p := by
  rw [setPeer_peers, Function.update_self]

/-- Every call keeps to its part with the slot of the microphone test. -/
theorem loopbackOnly (g : VoiceEngine) (c : EngineCall) : g.LoopbackOnly c := by
  cases c with
  | feedInboundPacket packetBytes length =>
    cases hread : readInbound packetBytes length with
    | none => exact congrFun (congrArg PeerTable.peers (g.table.feedInboundPacket_of_unread hread)) loopbackSlot
    | some hdr => exact (g.table.changesOnly_feedInboundPacket hread).loopbackSlot
  | setUserVolume userId volumeMultiplier =>
    exact (g.changesOnly_setUserVolume userId volumeMultiplier).loopbackSlot
  | captureFrame hasBuffer maxLen =>
    simp only [LoopbackOnly, call, captureFrame]
    split
    · exact .inl rfl
    · split
      · rename_i frame _ hcopies
        exact .inr ⟨hcopies.2, frame.pcm.map Sample.value, setPeer_self _ loopbackSlot _⟩
      · exact .inl rfl
  | playbackCallback hasOutput channels frameCount =>
    simp only [LoopbackOnly, call, playbackCallback_fst]
    split
    · exact g.drained_loopback frameCount
    · exact ⟨0, rfl⟩
  | mixAudioStreams frameSamples =>
    simp only [LoopbackOnly, call, mixAudioStreams_fst]
    split
    · exact ⟨0, rfl⟩
    · exact g.drained_loopback frameSamples
  | setMicTestLoopback enabled =>
    cases enabled with
    | true => rfl
    | false => exact setPeer_self _ loopbackSlot _
  | init | clearPeers | destroy | captureCallback | startCapture | stopCapture | startPlayback
  | stopPlayback | setPttState | setVadMode | setLocalMute | setLocalDeafen => rfl

end VoiceEngine

/-- The engine under arbitrary calls. -/
def engineCalls : Machine VoiceEngine EngineCall Unit where
  step g c := (g.call c, ())

/-- After any calls the active slots for remote users have distinct user ids other than 0. The slot of
the microphone test is written by the test alone and no sender is given it, not even one with the user id
that is in it. A packet and a volume change the slot of the user they are for, and leave the streams and
volumes of the others as they are. -/
theorem peer_slots_separate (calls : List EngineCall) :
    SlotsDistinct (engineCalls.run .load calls).table ∧
      (∀ c, (engineCalls.run .load calls).LoopbackOnly c) ∧
      (∀ senderId i peer, (engineCalls.run .load calls).table.peerFor senderId = some (i, peer) →
        i ≠ loopbackSlot) ∧
      (∀ packetBytes length,
        match readInbound packetBytes length with
        | none => ((engineCalls.run .load calls).feedInboundPacket packetBytes length).1.table =
            (engineCalls.run .load calls).table
        | some hdr => (engineCalls.run .load calls).table.ChangesOnly hdr.senderId
            ((engineCalls.run .load calls).feedInboundPacket packetBytes length).1.table) ∧
      (∀ userId volumeMultiplier, (engineCalls.run .load calls).table.ChangesOnly userId
        ((engineCalls.run .load calls).setUserVolume userId volumeMultiplier).table) := by
  have hdistinct : SlotsDistinct (engineCalls.run .load calls).table := by
    apply engineCalls.run_stable (fun g => SlotsDistinct g.table)
    · exact fun g c h => VoiceEngine.slotsDistinct_call h c
    · exact .of_clear fun _ => rfl
  refine ⟨hdistinct, VoiceEngine.loopbackOnly _, fun _ _ _ => PeerTable.peerFor_ne_loopbackSlot, ?_,
    VoiceEngine.changesOnly_setUserVolume _⟩
  intro packetBytes length
  split
  · exact PeerTable.feedInboundPacket_of_unread _ ‹_›
  · exact PeerTable.changesOnly_feedInboundPacket _ ‹_›

end low_latency_voice.client
