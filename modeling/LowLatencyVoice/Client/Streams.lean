import Mathlib.Data.List.FinRange
import LowLatencyVoice.Client.VoiceEngine
import LowLatencyVoice.Lib.Machine
import LowLatencyVoice.Lib.NumberedRing

namespace low_latency_voice.client

namespace VoiceEngine

@[simp] theorem setPeer_peers (g : VoiceEngine) (i : Fin maxPeers) (p : PeerStream) :
    (g.setPeer i p).table.peers = Function.update g.table.peers i p := rfl

/-- The samples of a stream added to an accumulator, the first to the first cell. -/
def addSamples (gain : Float32) : List Float32 → List Int16 → List Float32
  | x :: mixAccumulator, pcm :: samples =>
    (x + Float32.ofInt pcm.toInt * gain) :: addSamples gain mixAccumulator samples
  | mixAccumulator, _ => mixAccumulator

theorem length_addSamples (gain : Float32) (mixAccumulator : List Float32) (samples : List Int16) :
    (addSamples gain mixAccumulator samples).length = mixAccumulator.length := by
  induction mixAccumulator generalizing samples with
  | nil => rfl
  | cons x mixAccumulator ih =>
    cases samples with
    | nil => rfl
    | cons pcm samples => simp [addSamples, ih]

/-- What the mixer adds of a stream is what it drains from its ring. -/
theorem mixPeer_eq (gain : Float32) (mixAccumulator : List Float32) (r : RingBuffer Int16 ringBufferSize) :
    mixPeer gain mixAccumulator r =
      (addSamples gain mixAccumulator (r.drain mixAccumulator.length).1,
        (r.drain mixAccumulator.length).2) := by
  induction mixAccumulator generalizing r with
  | nil => rfl
  | cons x mixAccumulator ih =>
    by_cases hempty : r.readIdx = r.writeIdx
    · rw [mixPeer, if_neg (by simp [hempty]), ih, RingBuffer.drain_of_empty hempty,
        RingBuffer.drain_of_empty hempty]
      cases mixAccumulator <;> rfl
    · rw [mixPeer, if_pos hempty, List.length_cons, RingBuffer.drain_succ hempty]
      simp only [ih, addSamples]

/-- The engine after the mixer read `n` samples of every stream it mixes. -/
def drained (g : VoiceEngine) (n : Nat) : VoiceEngine :=
  g.withPeers fun i =>
    if g.Mixes i then { g.table.peers i with ring := ((g.table.peers i).ring.drain n).2 }
    else g.table.peers i

theorem mixes_congr {g g' : VoiceEngine} {i : Fin maxPeers}
    (hactive : (g'.table.peers i).isActive = (g.table.peers i).isActive)
    (hcapture : g'.capture = g.capture) : g'.Mixes i ↔ g.Mixes i := by
  unfold Mixes
  rw [hactive, hcapture]

theorem mixes_drained_iff (g : VoiceEngine) (n : Nat) (i : Fin maxPeers) :
    (g.drained n).Mixes i ↔ g.Mixes i := by
  refine mixes_congr ?_ rfl
  simp only [drained, withPeers]
  split <;> rfl

@[simp] theorem drained_zero (g : VoiceEngine) : g.drained 0 = g := by
  have hpeers : (fun i => if g.Mixes i
      then { g.table.peers i with ring := ((g.table.peers i).ring.drain 0).2 } else g.table.peers i) =
      g.table.peers := by
    funext i
    split <;> rfl
  rw [drained, hpeers]
  rfl

theorem drained_drained (g : VoiceEngine) (m n : Nat) : (g.drained m).drained n = g.drained (m + n) := by
  refine congrArg g.withPeers (funext fun i => ?_)
  simp only [mixes_drained_iff]
  by_cases hmixes : g.Mixes i
  · simp only [if_pos hmixes, drained, withPeers, RingBuffer.drain_add]
  · simp only [if_neg hmixes, drained, withPeers]

theorem mixSlot_of_mixes {g : VoiceEngine} {i : Fin maxPeers} (h : g.Mixes i) (mixAccumulator : List Float32) :
    mixSlot (g, mixAccumulator) i =
      (g.setPeer i { g.table.peers i with
          ring := ((g.table.peers i).ring.drain mixAccumulator.length).2 },
        addSamples (g.table.peers i).userVolume mixAccumulator
          ((g.table.peers i).ring.drain mixAccumulator.length).1) := by
  simp only [mixSlot, if_pos h, mixPeer_eq]

theorem mixSlot_of_not_mixes {g : VoiceEngine} {i : Fin maxPeers} (h : ¬ g.Mixes i)
    (mixAccumulator : List Float32) : mixSlot (g, mixAccumulator) i = (g, mixAccumulator) := by
  simp only [mixSlot, if_neg h]

/-- The loop over the slots drains each slot it mixes once. -/
theorem foldl_mixSlot (slots : List (Fin maxPeers)) (hnodup : slots.Nodup) (g : VoiceEngine)
    (mixAccumulator : List Float32) :
    (slots.foldl mixSlot (g, mixAccumulator)).1 = g.withPeers fun i =>
      if i ∈ slots ∧ g.Mixes i then
        { g.table.peers i with ring := ((g.table.peers i).ring.drain mixAccumulator.length).2 }
      else g.table.peers i := by
  induction slots generalizing g mixAccumulator with
  | nil => simp [withPeers]
  | cons j slots ih =>
    obtain ⟨hfresh, hrest⟩ := List.nodup_cons.mp hnodup
    rw [List.foldl_cons]
    by_cases hmixes : g.Mixes j
    · rw [mixSlot_of_mixes hmixes, ih hrest, length_addSamples]
      refine congrArg g.withPeers (funext fun i => ?_)
      simp only [setPeer_peers]
      by_cases hi : i = j
      · subst hi
        rw [if_neg fun hboth => hfresh hboth.1, if_pos ⟨List.mem_cons_self, hmixes⟩, Function.update_self]
      · have hsame : (g.setPeer j { g.table.peers j with
            ring := ((g.table.peers j).ring.drain mixAccumulator.length).2 }).Mixes i ↔ g.Mixes i :=
          mixes_congr (by rw [setPeer_peers, Function.update_of_ne hi]) rfl
        simp only [hsame, List.mem_cons, hi, false_or, Function.update_of_ne hi]
    · rw [mixSlot_of_not_mixes hmixes, ih hrest]
      refine congrArg g.withPeers (funext fun i => ?_)
      by_cases hi : i = j
      · subst hi
        rw [if_neg fun hboth => hmixes hboth.2, if_neg fun hboth => hmixes hboth.2]
      · simp only [List.mem_cons, hi, false_or]

theorem mixChunk_fst (g : VoiceEngine) (chunk : Nat) : (g.mixChunk chunk).1 = g.drained chunk := by
  simp only [mixChunk, foldl_mixSlot _ (List.nodup_finRange maxPeers), List.mem_finRange, true_and,
    List.length_replicate]
  rfl

theorem mixLoop_fst (g : VoiceEngine) (samplesRemaining : Nat) :
    (g.mixLoop samplesRemaining).1 = g.drained samplesRemaining := by
  induction samplesRemaining using Nat.strong_induction_on generalizing g with
  | _ samplesRemaining ih =>
    rw [mixLoop]
    split
    · rename_i hzero
      rw [hzero, drained_zero]
    · rename_i hsome
      have hless : samplesRemaining - min samplesRemaining samplesPerFrame < samplesRemaining := by
        simp only [samplesPerFrame]
        omega
      simp only [ih _ hless, mixChunk_fst, drained_drained]
      congr 1
      omega

theorem mixAudioStreams_fst (g : VoiceEngine) (frameSamples : Nat) :
    (g.mixAudioStreams frameSamples).1 = if g.localDeafened = true then g else g.drained frameSamples := by
  unfold mixAudioStreams
  by_cases hdeaf : g.localDeafened = true
  · rw [if_pos (.inr hdeaf), if_pos hdeaf]
  · rw [if_neg hdeaf]
    split
    · rename_i hnone
      rw [hnone.resolve_right hdeaf, drained_zero]
    · exact g.mixLoop_fst frameSamples

theorem playbackLoop_fst {g : VoiceEngine} (hdeaf : g.localDeafened = false) (channels framesRemaining : Nat) :
    (g.playbackLoop channels framesRemaining).1 = g.drained framesRemaining := by
  induction framesRemaining using Nat.strong_induction_on generalizing g with
  | _ framesRemaining ih =>
    rw [playbackLoop]
    split
    · rename_i hzero
      rw [hzero, drained_zero]
    · rename_i hsome
      have hless : framesRemaining - min framesRemaining samplesPerFrame < framesRemaining := by
        simp only [samplesPerFrame]
        omega
      have hmono : (g.mixAudioStreams (min framesRemaining samplesPerFrame)).1 =
          g.drained (min framesRemaining samplesPerFrame) := by
        rw [mixAudioStreams_fst, if_neg (by simp [hdeaf])]
      simp only [hmono]
      rw [ih _ hless (g := g.drained _) hdeaf, drained_drained]
      congr 1
      omega

/-- Whether the playback callback reads the streams. -/
def Plays (g : VoiceEngine) (hasOutput : Bool) : Prop :=
  hasOutput = true ∧ g.playing = true ∧ g.localDeafened = false

instance (g : VoiceEngine) (hasOutput : Bool) : Decidable (g.Plays hasOutput) :=
  inferInstanceAs (Decidable (_ ∧ _ ∧ _))

theorem playbackCallback_fst (g : VoiceEngine) (hasOutput : Bool) (channels frameCount : Nat) :
    (g.playbackCallback hasOutput channels frameCount).1 =
      if g.Plays hasOutput then g.drained frameCount else g := by
  by_cases hplays : g.Plays hasOutput
  · have ⟨houtput, hplaying, hdeaf⟩ := hplays
    rw [if_pos hplays]
    by_cases hzero : frameCount = 0
    · rw [hzero, drained_zero]
      simp [playbackCallback]
    · simp only [playbackCallback, houtput, hzero, hplaying, hdeaf, Bool.true_eq_false, Bool.false_eq_true,
        or_self, if_false]
      generalize (if 0 < channels then channels else 1) = channels
      split
      · rw [mixAudioStreams_fst, if_neg (by simp [hdeaf])]
      · exact playbackLoop_fst hdeaf _ frameCount
  · rw [if_neg hplays]
    by_cases hnone : hasOutput = false ∨ frameCount = 0
    · simp only [playbackCallback, if_pos hnone]
    · have hquiet : g.playing = false ∨ g.localDeafened = true := by
        by_contra hneither
        simp only [not_or, Bool.not_eq_false, Bool.not_eq_true] at hnone hneither
        exact hplays ⟨hnone.1, hneither⟩
      simp only [playbackCallback, if_neg hnone, if_pos hquiet]

end VoiceEngine

/-- What a call does with a stream: whether it resets the indexes first, what its writer
accepts and what its reader is handed. -/
structure Traffic (α : Type) where
  reset : Bool
  accepted : List α
  handed : List α

namespace Traffic

variable {α : Type}

/-- The stream is left alone. -/
def quiet : Traffic α := ⟨false, [], []⟩

/-- Only the indexes are reset. -/
def resets : Traffic α := ⟨true, [], []⟩

def accepts (samples : List α) : Traffic α := ⟨false, samples, []⟩

def hands (samples : List α) : Traffic α := ⟨false, [], samples⟩

end Traffic

namespace VoiceEngine

/-- What a call does with the capture ring. -/
def captureTraffic (g : VoiceEngine) : EngineCall → Traffic Sample
  | .init _ => .resets
  | .captureCallback (some samples) channels frameCount =>
    if frameCount = 0 ∨ g.capture.capturing = false then .quiet
    else .accepts (g.capture.delivered samples channels frameCount)
  | .captureFrame hasBuffer maxLen =>
    match (g.captureFrame hasBuffer maxLen).2 with
    | some frame => if g.capture.Dequeues then .hands frame.pcm else .quiet
    | none => .quiet
  | _ => .quiet

/-- What a call does with the stream of slot `i`. A slot that is made over to a user
starts anew. -/
def peerTraffic (g : VoiceEngine) (i : Fin maxPeers) : EngineCall → Traffic Int16
  | .init _ => .resets
  | .clearPeers => .resets
  | .setMicTestLoopback enabled => if enabled = false ∧ i = loopbackSlot then .resets else .quiet
  | .setUserVolume userId volumeMultiplier =>
    if (g.table.peers i).isActive = false ∧
        ((g.setUserVolume userId volumeMultiplier).table.peers i).isActive = true then .resets
    else .quiet
  | .feedInboundPacket packetBytes length =>
    match packetBytes, readInbound packetBytes length with
    | some bytes, some hdr =>
      if (g.table.peerFor hdr.senderId).map Prod.fst = some i then
        { reset := !(g.table.peers i).isActive
          accepted := samplesOf (bytes.drop 20) (min (hdr.payloadLen.toNat / 2) samplesPerFrame)
          handed := [] }
      else .quiet
    | _, _ => .quiet
  | .captureFrame hasBuffer maxLen =>
    match (g.captureFrame hasBuffer maxLen).2 with
    | some frame =>
      if i = loopbackSlot ∧ g.capture.Dequeues ∧ g.capture.micTestLoopback = true then
        .accepts (frame.pcm.map Sample.value)
      else .quiet
    | none => .quiet
  | .mixAudioStreams frameSamples =>
    if g.localDeafened = false ∧ g.Mixes i then .hands ((g.table.peers i).ring.drain frameSamples).1
    else .quiet
  | .playbackCallback hasOutput _ frameCount =>
    if g.Plays hasOutput ∧ g.Mixes i then .hands ((g.table.peers i).ring.drain frameCount).1
    else .quiet
  | _ => .quiet

end VoiceEngine

namespace VoiceEngine

/-- How many samples a call asks of the capture ring: a frame, all at once. -/
def captureAsked (g : VoiceEngine) : EngineCall → Nat
  | .captureFrame hasBuffer maxLen => if g.capture.Asks hasBuffer maxLen then samplesPerFrame else 0
  | _ => 0

/-- How many samples a call asks of the stream of slot `i`, one by one. -/
def peerAsked (g : VoiceEngine) (i : Fin maxPeers) : EngineCall → Nat
  | .mixAudioStreams frameSamples => if g.localDeafened = false ∧ g.Mixes i then frameSamples else 0
  | .playbackCallback hasOutput _ frameCount => if g.Plays hasOutput ∧ g.Mixes i then frameCount else 0
  | _ => 0

end VoiceEngine

section Serves

variable {α : Type} {size : Nat}

/-- From `r` to `r'` the ring carries the traffic: what is accepted is queued, what is
handed out is taken from the front of the queue. -/
def Carries (r r' : RingBuffer α size) (t : Traffic α) : Prop :=
  ∃ n, t.handed = (((if t.reset then r.reset else r).pushAll t.accepted).queued.take n) ∧
    r'.queued = ((if t.reset then r.reset else r).pushAll t.accepted).queued.drop n

/-- From `r` to `r'` the ring serves a reader who takes `quantum` samples at a time and
asks for `asked`. -/
def Serves (quantum asked : Nat) (r r' : RingBuffer α size) (t : Traffic α) : Prop :=
  (t.handed, r') = RingBuffer.popMany
    (NumberedRing.served quantum asked ((if t.reset then r.reset else r).pushAll t.accepted).available)
    ((if t.reset then r.reset else r).pushAll t.accepted)

theorem Serves.carries {quantum asked : Nat} {r r' : RingBuffer α size} {t : Traffic α}
    (h : Serves quantum asked r r' t) : Carries r r' t := by
  obtain ⟨hhanded, hring⟩ := Prod.ext_iff.mp h
  obtain ⟨htake, hdrop⟩ := RingBuffer.popMany_spec (NumberedRing.served_le quantum asked
    ((if t.reset then r.reset else r).pushAll t.accepted).available)
  exact ⟨_, hhanded.trans htake, (congrArg RingBuffer.queued hring).trans hdrop⟩

/-- Without a reader the ring is left as the writer leaves it. -/
theorem serves_unread (quantum : Nat) (r : RingBuffer α size) (reset : Bool) (samples : List α) :
    Serves quantum 0 r ((if reset then r.reset else r).pushAll samples) ⟨reset, samples, []⟩ := by
  rw [Serves, NumberedRing.served_zero]
  rfl

theorem serves_quiet (quantum : Nat) (r : RingBuffer α size) : Serves quantum 0 r r .quiet :=
  serves_unread quantum r false []

theorem serves_resets (quantum : Nat) (r : RingBuffer α size) : Serves quantum 0 r r.reset .resets :=
  serves_unread quantum r true []

theorem serves_accepts (quantum : Nat) (r : RingBuffer α size) (samples : List α) :
    Serves quantum 0 r (r.pushAll samples) (.accepts samples) := serves_unread quantum r false samples

theorem serves_hands {quantum asked n : Nat} {r : RingBuffer α size}
    (hn : NumberedRing.served quantum asked r.available = n) :
    Serves quantum asked r (r.popMany n).2 (.hands (r.popMany n).1) := by
  have harrived : ((if (Traffic.hands (r.popMany n).1).reset then r.reset else r).pushAll
      (Traffic.hands (r.popMany n).1).accepted) = r := rfl
  rw [Serves, harrived, hn]
  rfl

/-- A drain is served sample by sample. -/
theorem serves_drain (r : RingBuffer α size) (n : Nat) :
    Serves 1 n r (r.drain n).2 (.hands (r.drain n).1) := by
  rw [RingBuffer.drain_eq_popMany]
  exact serves_hands (by simp [NumberedRing.served])

/-- A frame is served whole. -/
theorem serves_frame {quantum : Nat} (hquantum : 0 < quantum) {r : RingBuffer α size}
    (h : quantum ≤ r.available) :
    Serves quantum quantum r (r.popMany quantum).2 (.hands (r.popMany quantum).1) :=
  serves_hands (NumberedRing.served_self hquantum h)

theorem serves_short {quantum : Nat} {r : RingBuffer α size} (h : r.available < quantum) :
    Serves quantum quantum r r .quiet :=
  serves_hands ((NumberedRing.served_eq_zero_iff (Nat.zero_lt_of_lt h) (Nat.dvd_refl _)).mpr (.inr h))

end Serves

/-- A frame is what the capture ring hands out, or silence. -/
theorem Engine.captureFrame_serves (e : Engine) (hasBuffer : Bool) (maxLen : Nat) :
    Serves samplesPerFrame (if e.Asks hasBuffer maxLen then samplesPerFrame else 0) e.ring
      (e.captureFrame hasBuffer maxLen).1.ring
      (match (e.captureFrame hasBuffer maxLen).2 with
        | some frame => if e.Dequeues then .hands frame.pcm else .quiet
        | none => .quiet) := by
  by_cases hasks : e.Asks hasBuffer maxLen
  · rw [if_pos hasks, captureFrame_of_asks hasks]
    by_cases hshort : e.ring.available < samplesPerFrame
    · rw [if_pos hshort]
      simp only [if_neg fun hdeq : e.Dequeues => Nat.not_le.mpr hshort hdeq.2.2]
      exact serves_short hshort
    · have hdeq : e.Dequeues := ⟨hasks.2.1, hasks.2.2, Nat.not_lt.mp hshort⟩
      rw [if_neg hshort]
      simp only [process_pcm, process_ring, if_pos hdeq]
      exact serves_frame (by decide) (Nat.not_lt.mp hshort)
  · rw [if_neg hasks]
    obtain heq | ⟨heq, hdeq⟩ := captureFrame_of_not_asks hasks
    · rw [heq]
      exact serves_quiet _ _
    · rw [heq]
      simp only [if_neg hdeq]
      exact serves_quiet _ _

namespace VoiceEngine

theorem captureFrame_snd (g : VoiceEngine) (hasBuffer : Bool) (maxLen : Nat) :
    (g.captureFrame hasBuffer maxLen).2 = (g.capture.captureFrame hasBuffer maxLen).2 := by
  simp only [captureFrame]
  split
  · rename_i hnone
    exact hnone.symm
  · rename_i frame hframe
    rw [hframe]
    split <;> rfl

theorem captureFrame_capture (g : VoiceEngine) (hasBuffer : Bool) (maxLen : Nat) :
    (g.captureFrame hasBuffer maxLen).1.capture = (g.capture.captureFrame hasBuffer maxLen).1 := by
  simp only [captureFrame]
  split
  · rfl
  · split <;> rfl

/-- The copy for the microphone test is the only write of `voice_engine_capture_frame` to
the slots. -/
theorem captureFrame_peers (g : VoiceEngine) (hasBuffer : Bool) (maxLen : Nat) (i : Fin maxPeers) :
    ((g.captureFrame hasBuffer maxLen).1.table.peers i).ring =
      match (g.captureFrame hasBuffer maxLen).2 with
      | some frame =>
        if i = loopbackSlot ∧ g.capture.Dequeues ∧ g.capture.micTestLoopback = true then
          (g.table.peers i).ring.pushAll (frame.pcm.map Sample.value)
        else (g.table.peers i).ring
      | none => (g.table.peers i).ring := by
  rw [captureFrame_snd]
  simp only [captureFrame]
  cases (g.capture.captureFrame hasBuffer maxLen).2 with
  | none => rfl
  | some frame =>
    by_cases hcopy : g.capture.Dequeues ∧ g.capture.micTestLoopback = true
    · simp only [if_pos hcopy, copyLoopback, setPeer_peers]
      by_cases hi : i = loopbackSlot
      · subst hi
        rw [Function.update_self, if_pos ⟨rfl, hcopy⟩]
      · rw [Function.update_of_ne hi, if_neg fun h => hi h.1]
    · simp only [if_neg hcopy, if_neg fun h : i = loopbackSlot ∧ _ => hcopy h.2]

theorem drained_peers (g : VoiceEngine) (n : Nat) (i : Fin maxPeers) :
    ((g.drained n).table.peers i).ring =
      if g.Mixes i then ((g.table.peers i).ring.drain n).2 else (g.table.peers i).ring := by
  simp only [drained, withPeers]
  split <;> rfl

/-- Every call takes its traffic through the capture ring. -/
theorem capture_serves (g : VoiceEngine) (c : EngineCall) :
    Serves samplesPerFrame (g.captureAsked c) g.capture.ring (g.call c).capture.ring (g.captureTraffic c) := by
  cases c with
  | init vadHangoverMs => exact serves_resets _ _
  | captureCallback pInput channels frameCount =>
    cases pInput with
    | none => exact serves_quiet _ _
    | some samples =>
      simp only [call, captureTraffic, captureAsked, Engine.captureCallback]
      split
      · exact serves_quiet _ _
      · exact serves_accepts _ _ _
  | captureFrame hasBuffer maxLen =>
    simp only [call, captureTraffic, captureAsked, captureFrame_capture, captureFrame_snd]
    exact g.capture.captureFrame_serves hasBuffer maxLen
  | playbackCallback hasOutput channels frameCount =>
    simp only [call, captureTraffic, captureAsked, playbackCallback_fst]
    split <;> exact serves_quiet _ _
  | mixAudioStreams frameSamples =>
    simp only [call, captureTraffic, captureAsked, mixAudioStreams_fst]
    split <;> exact serves_quiet _ _
  | setUserVolume userId volumeMultiplier =>
    simp only [call, captureTraffic, captureAsked, setUserVolume]
    repeat' split
    all_goals exact serves_quiet _ _
  | setMicTestLoopback enabled =>
    cases enabled
    · exact serves_quiet _ _
    · simp only [call, captureTraffic, captureAsked, setMicTestLoopback, Engine.setMicTestLoopback, if_true]
      split <;> exact serves_quiet _ _
  | destroy => exact serves_quiet _ _
  | startCapture => exact serves_quiet _ _
  | stopCapture => exact serves_quiet _ _
  | startPlayback => exact serves_quiet _ _
  | stopPlayback => exact serves_quiet _ _
  | setPttState pressed => exact serves_quiet _ _
  | setVadMode enabled thresholdDb => exact serves_quiet _ _
  | setLocalMute muted => exact serves_quiet _ _
  | setLocalDeafen deafened => exact serves_quiet _ _
  | clearPeers => exact serves_quiet _ _
  | feedInboundPacket packetBytes length => exact serves_quiet _ _

/-- A datagram goes to one slot, which starts anew if nobody had it. -/
theorem feedInboundPacket_serves (g : VoiceEngine) (i : Fin maxPeers) (packetBytes : Option GoBytes)
    (length : UInt32) :
    Serves 1 0 (g.table.peers i).ring ((g.feedInboundPacket packetBytes length).1.table.peers i).ring
      (g.peerTraffic i (.feedInboundPacket packetBytes length)) := by
  cases packetBytes with
  | none => exact serves_quiet _ _
  | some bytes =>
    simp only [feedInboundPacket, PeerTable.feedInboundPacket, peerTraffic]
    cases readInbound (some bytes) length with
    | none => exact serves_quiet _ _
    | some hdr =>
      simp only
      cases hfound : g.table.peerFor hdr.senderId with
      | none =>
        simp only [Option.map_none, reduceCtorEq, if_false]
        exact serves_quiet _ _
      | some found =>
        obtain ⟨j, peer⟩ := found
        obtain ⟨-, -, -, -, hring⟩ := PeerTable.peerFor_eq_some hfound
        by_cases hi : i = j
        · subst hi
          simp only [Function.update_self, Option.map_some, if_true, hring]
          cases (g.table.peers i).isActive <;> exact serves_unread _ _ _ _
        · simp only [Function.update_of_ne hi, Option.map_some, Option.some.injEq, if_neg (Ne.symm hi)]
          exact serves_quiet _ _

/-- A volume is set on the user's slot, or on one that starts anew for the user. -/
theorem setUserVolume_serves (g : VoiceEngine) (i : Fin maxPeers) (userId : UInt32)
    (volumeMultiplier : Float32) :
    Serves 1 0 (g.table.peers i).ring ((g.setUserVolume userId volumeMultiplier).table.peers i).ring
      (g.peerTraffic i (.setUserVolume userId volumeMultiplier)) := by
  have hsame : ∀ g' : VoiceEngine, (g'.table.peers i).isActive = (g.table.peers i).isActive →
      Serves 1 0 (g.table.peers i).ring (g.table.peers i).ring
        (if (g.table.peers i).isActive = false ∧ (g'.table.peers i).isActive = true then .resets
          else .quiet) := by
    intro g' hactive
    rw [if_neg (by rw [hactive]; simp)]
    exact serves_quiet _ _
  simp only [peerTraffic]
  unfold setUserVolume
  split
  · exact hsame g rfl
  · split
    · rename_i j hfind
      by_cases hi : i = j
      · subst hi
        simp only [setPeer_peers, Function.update_self]
        rw [if_neg (by simp)]
        exact serves_quiet _ _
      · simp only [setPeer_peers, Function.update_of_ne hi]
        rw [if_neg (by simp)]
        exact serves_quiet _ _
    · split
      · rename_i j hfind
        by_cases hi : i = j
        · subst hi
          have hfree := List.find?_some hfind
          simp only [Bool.not_eq_true'] at hfree
          simp only [setPeer_peers, Function.update_self, hfree, and_self, if_true]
          exact serves_resets _ _
        · simp only [setPeer_peers, Function.update_of_ne hi]
          rw [if_neg (by simp)]
          exact serves_quiet _ _
      · exact hsame g rfl

/-- Every call takes its traffic through the ring of every slot. -/
theorem peer_serves (g : VoiceEngine) (i : Fin maxPeers) (c : EngineCall) :
    Serves 1 (g.peerAsked i c) (g.table.peers i).ring ((g.call c).table.peers i).ring (g.peerTraffic i c) := by
  cases c with
  | init vadHangoverMs => exact serves_resets _ _
  | clearPeers => exact serves_resets _ _
  | captureCallback pInput channels frameCount => exact serves_quiet _ _
  | captureFrame hasBuffer maxLen =>
    simp only [call, peerTraffic, peerAsked, captureFrame_peers]
    cases (g.captureFrame hasBuffer maxLen).2 with
    | none => exact serves_quiet _ _
    | some frame =>
      simp only
      split
      · exact serves_accepts _ _ _
      · exact serves_quiet _ _
  | playbackCallback hasOutput channels frameCount =>
    simp only [call, peerTraffic, peerAsked, playbackCallback_fst]
    by_cases hplays : g.Plays hasOutput
    · rw [if_pos hplays, drained_peers]
      by_cases hmixes : g.Mixes i
      · simp only [hplays, hmixes, and_self, if_true]
        exact serves_drain _ _
      · simp only [if_neg hmixes, if_neg fun h : _ ∧ g.Mixes i => hmixes h.2]
        exact serves_quiet _ _
    · simp only [if_neg hplays, if_neg fun h : g.Plays hasOutput ∧ _ => hplays h.1]
      exact serves_quiet _ _
  | mixAudioStreams frameSamples =>
    simp only [call, peerTraffic, peerAsked, mixAudioStreams_fst]
    by_cases hdeaf : g.localDeafened = true
    · simp only [hdeaf, if_true, Bool.true_eq_false, false_and, if_false]
      exact serves_quiet _ _
    · rw [if_neg hdeaf, drained_peers]
      by_cases hmixes : g.Mixes i
      · simp only [Bool.not_eq_true _ ▸ hdeaf, hmixes, and_self, if_true]
        exact serves_drain _ _
      · simp only [if_neg hmixes, if_neg fun h : _ ∧ g.Mixes i => hmixes h.2]
        exact serves_quiet _ _
  | setUserVolume userId volumeMultiplier => exact g.setUserVolume_serves i userId volumeMultiplier
  | setMicTestLoopback enabled =>
    cases enabled
    · simp only [call, peerTraffic, peerAsked, setMicTestLoopback, Bool.false_eq_true, if_false, setPeer_peers, true_and]
      by_cases hi : i = loopbackSlot
      · subst hi
        rw [if_pos rfl, Function.update_self]
        exact serves_resets _ _
      · rw [if_neg hi, Function.update_of_ne hi]
        exact serves_quiet _ _
    · exact serves_quiet _ _
  | feedInboundPacket packetBytes length => exact g.feedInboundPacket_serves i packetBytes length
  | destroy => exact serves_quiet _ _
  | startCapture => exact serves_quiet _ _
  | stopCapture => exact serves_quiet _ _
  | startPlayback => exact serves_quiet _ _
  | stopPlayback => exact serves_quiet _ _
  | setPttState pressed => exact serves_quiet _ _
  | setVadMode enabled thresholdDb => exact serves_quiet _ _
  | setLocalMute muted => exact serves_quiet _ _
  | setLocalDeafen deafened => exact serves_quiet _ _

theorem capture_carries (g : VoiceEngine) (c : EngineCall) :
    Carries g.capture.ring (g.call c).capture.ring (g.captureTraffic c) := (g.capture_serves c).carries

theorem peer_carries (g : VoiceEngine) (i : Fin maxPeers) (c : EngineCall) :
    Carries (g.table.peers i).ring ((g.call c).table.peers i).ring (g.peerTraffic i c) :=
  (g.peer_serves i c).carries

end VoiceEngine

/-- What the writer of a stream had accepted and its reader been handed since the indexes
were last reset. -/
structure StreamLog (α : Type) where
  accepted : List α
  handed : List α

namespace StreamLog

variable {α : Type} {size : Nat}

def empty : StreamLog α := ⟨[], []⟩

/-- The log after a call. -/
def after (log : StreamLog α) (t : Traffic α) : StreamLog α :=
  if t.reset then ⟨t.accepted, t.handed⟩ else ⟨log.accepted ++ t.accepted, log.handed ++ t.handed⟩

/-- A ring keeps the order of its log. -/
theorem inOrder_after {log : StreamLog α} {r r' : RingBuffer α size} {t : Traffic α} (hcarries : Carries r r' t)
    (h : r.InOrder log.accepted log.handed) : r'.InOrder (log.after t).accepted (log.after t).handed := by
  obtain ⟨n, hhanded, hqueued⟩ := hcarries
  unfold after
  cases hreset : t.reset with
  | false =>
    simp only [hreset, Bool.false_eq_true, if_false] at hhanded hqueued ⊢
    exact (h.pushAll t.accepted).take hhanded hqueued
  | true =>
    simp only [hreset, if_true] at hhanded hqueued ⊢
    have hstart : r.reset.InOrder [] [] := RingBuffer.inOrder_of_empty r.queued_reset
    exact (hstart.pushAll t.accepted).take hhanded hqueued

end StreamLog

/-- The logs of all streams. -/
structure StreamLogs where
  capture : StreamLog Sample
  peers : Fin maxPeers → StreamLog Int16

/-- The engine under arbitrary calls, with the logs of its streams. -/
def streams : Machine (VoiceEngine × StreamLogs) EngineCall Unit where
  step s c :=
    ((s.1.call c,
      { capture := s.2.capture.after (s.1.captureTraffic c)
        peers := fun i => (s.2.peers i).after (s.1.peerTraffic i c) }), ())

/-- The engine and its logs at load time. -/
def StreamLogs.load : VoiceEngine × StreamLogs := (VoiceEngine.load, ⟨.empty, fun _ => .empty⟩)

/-- Every ring is in step with its log. -/
def StreamsInOrder (s : VoiceEngine × StreamLogs) : Prop :=
  s.1.capture.ring.InOrder s.2.capture.accepted s.2.capture.handed ∧
    ∀ i, (s.1.table.peers i).ring.InOrder (s.2.peers i).accepted (s.2.peers i).handed

/-- Whatever calls write to and read from the rings, of any sizes and with any number of
laps, each reader is handed a subsequence of what its writer accepted since the last
reset, in order, and the indexes stay inside the rings. -/
theorem streams_in_order (calls : List EngineCall) :
    ((streams.run StreamLogs.load calls).2.capture.handed.Sublist
        (streams.run StreamLogs.load calls).2.capture.accepted ∧
      (streams.run StreamLogs.load calls).1.capture.ring.readIdx.val < 32768 ∧
      (streams.run StreamLogs.load calls).1.capture.ring.writeIdx.val < 32768) ∧
    ∀ i, ((streams.run StreamLogs.load calls).2.peers i).handed.Sublist
        ((streams.run StreamLogs.load calls).2.peers i).accepted ∧
      ((streams.run StreamLogs.load calls).1.table.peers i).ring.readIdx.val < 32768 ∧
      ((streams.run StreamLogs.load calls).1.table.peers i).ring.writeIdx.val < 32768 := by
  have hinv : StreamsInOrder (streams.run StreamLogs.load calls) := by
    refine streams.run_stable StreamsInOrder ?_ ?_ calls
    · intro s c h
      exact ⟨StreamLog.inOrder_after (VoiceEngine.capture_carries _ c) h.1,
        fun i => StreamLog.inOrder_after (VoiceEngine.peer_carries _ i c) (h.2 i)⟩
    · exact ⟨RingBuffer.inOrder_of_empty rfl, fun i => RingBuffer.inOrder_of_empty rfl⟩
  refine ⟨⟨hinv.1.read_sublist, Fin.isLt _, Fin.isLt _⟩, fun i => ?_⟩
  exact ⟨(hinv.2 i).read_sublist, Fin.isLt _, Fin.isLt _⟩

end low_latency_voice.client
