import LowLatencyVoice.Client.Streams

open Machine

namespace low_latency_voice.client

section NumberedStream

variable {α : Type} {size : Nat}

/-- The numbered ring when the reader of a call comes to it. -/
def arrived (s : NumberedRing α size) (t : Traffic α) : NumberedRing α size :=
  (if t.reset then s.reset else s).accept t.accepted

/-- The numbered ring after a call. -/
def afterTraffic (s : NumberedRing α size) (t : Traffic α) : NumberedRing α size :=
  (arrived s t).read t.handed.length

/-- What a call hands out of a ring are the newest samples there can be. -/
def KeepsNewest (quantum asked : Nat) (s : NumberedRing α size) (t : Traffic α) : Prop :=
  (arrived s t).KeepsNewest quantum asked t.handed.length

/-- No reader comes to a ring that the writer has gone around, except one sample short of
whole rounds. -/
def NotLapped (asked : Nat) (s : NumberedRing α size) (t : Traffic α) : Prop :=
  asked = 0 ∨ (arrived s t).backlog < size ∨ (arrived s t).backlog % size = size - 1

/-- The numbered ring is the ring `r` with numbers. -/
structure Numbers (s : NumberedRing α size) (r : RingBuffer α size) : Prop where
  ok : s.Ok
  ring : s.ring.map Prod.fst = r

theorem Numbers.arrived {s : NumberedRing α size} {r : RingBuffer α size} (h : Numbers s r) (t : Traffic α) :
    Numbers (arrived s t) ((if t.reset then r.reset else r).pushAll t.accepted) := by
  have hstart : Numbers (if t.reset then s.reset else s) (if t.reset then r.reset else r) := by
    cases t.reset with
    | false => exact h
    | true => exact ⟨NumberedRing.ok_reset, by rw [← h.ring]; rfl⟩
  refine ⟨hstart.ok.accept _, ?_⟩
  have hfst : (t.accepted.zipIdx (if t.reset then s.reset else s).accepted).map Prod.fst = t.accepted :=
    List.zipIdx_map_fst _ _
  rw [← hstart.ring, ← congrArg (RingBuffer.pushAll _) hfst, RingBuffer.pushAll_map]
  rfl

/-- A call does to the numbered ring what it does to the ring. -/
theorem Numbers.serves {quantum asked : Nat} {s : NumberedRing α size} {r r' : RingBuffer α size} {t : Traffic α}
    (h : Numbers s r) (hserves : Serves quantum asked r r' t) :
    Numbers (afterTraffic s t) r' ∧
      t.handed.length = NumberedRing.served quantum asked (client.arrived s t).ring.available ∧
      t.handed = ((client.arrived s t).ring.popMany t.handed.length).1.map Prod.fst := by
  have harrived := h.arrived t
  obtain ⟨hhanded, hring⟩ := Prod.ext_iff.mp hserves
  simp only [← harrived.ring, RingBuffer.available_map, RingBuffer.popMany_map] at hhanded hring
  have hle := NumberedRing.served_le quantum asked (client.arrived s t).ring.available
  have hlen : t.handed.length = NumberedRing.served quantum asked (client.arrived s t).ring.available := by
    rw [hhanded, List.length_map, (RingBuffer.popMany_spec hle).1, List.length_take, RingBuffer.length_queued]
    exact Nat.min_eq_left hle
  refine ⟨⟨?_, ?_⟩, hlen, ?_⟩
  · rw [afterTraffic, hlen]
    exact harrived.ok.read hle
  · rw [hring, afterTraffic, hlen]
    rfl
  · rw [hlen]
    exact hhanded

theorem Numbers.keepsNewest_iff {quantum asked : Nat} {s : NumberedRing α size} {r r' : RingBuffer α size}
    {t : Traffic α} (h : Numbers s r) (hserves : Serves quantum asked r r' t) (hquantum : 0 < quantum)
    (hsize : quantum < size) (hdvd : quantum ∣ asked) :
    KeepsNewest quantum asked s t ↔ NotLapped asked s t := by
  unfold KeepsNewest NotLapped
  rw [(h.serves hserves).2.1]
  exact (h.arrived t).ok.keepsNewest_iff hquantum hsize hdvd

end NumberedStream

/-- All rings of the engine, numbered. -/
structure NumberedStreams where
  capture : NumberedRing Sample ringBufferSize
  peers : Fin maxPeers → NumberedRing Int16 ringBufferSize

/-- The engine under arbitrary calls, with its rings numbered. -/
def numberedStreams : Machine (VoiceEngine × NumberedStreams) EngineCall Unit where
  step s c :=
    ((s.1.call c,
      { capture := afterTraffic s.2.capture (s.1.captureTraffic c)
        peers := fun i => afterTraffic (s.2.peers i) (s.1.peerTraffic i c) }), ())

/-- At load time. -/
def NumberedStreams.load : VoiceEngine × NumberedStreams :=
  (VoiceEngine.load,
    { capture := ⟨VoiceEngine.load.capture.ring.map fun x => (x, 0), 0, 0⟩
      peers := fun i => ⟨(VoiceEngine.load.table.peers i).ring.map fun x => (x, 0), 0, 0⟩ })

/-- The numbered rings are the engine's. -/
def StreamsNumbered (s : VoiceEngine × NumberedStreams) : Prop :=
  Numbers s.2.capture s.1.capture.ring ∧ ∀ i, Numbers (s.2.peers i) (s.1.table.peers i).ring

theorem streamsNumbered_run (calls : List EngineCall) :
    StreamsNumbered (numberedStreams.run NumberedStreams.load calls) := by
  refine numberedStreams.run_stable StreamsNumbered ?_ ?_ calls
  · intro s c h
    exact ⟨(h.1.serves (s.1.capture_serves c)).1, fun i => ((h.2 i).serves (s.1.peer_serves i c)).1⟩
  · exact ⟨⟨⟨Nat.le_refl _, rfl, rfl⟩, rfl⟩, fun i => ⟨⟨Nat.le_refl _, rfl, rfl⟩, rfl⟩⟩

/-- The call gets the newest audio out of every ring it reads. -/
def AllKeepNewest (pre : List EngineCall) (c : EngineCall) : Prop :=
  let s := numberedStreams.run NumberedStreams.load pre
  KeepsNewest samplesPerFrame (s.1.captureAsked c) s.2.capture (s.1.captureTraffic c) ∧
    ∀ i, KeepsNewest 1 (s.1.peerAsked i c) (s.2.peers i) (s.1.peerTraffic i c)

/-- Every ring the call reads has a reader in time. -/
def NoneLapped (pre : List EngineCall) (c : EngineCall) : Prop :=
  let s := numberedStreams.run NumberedStreams.load pre
  NotLapped (s.1.captureAsked c) s.2.capture (s.1.captureTraffic c) ∧
    ∀ i, NotLapped (s.1.peerAsked i c) (s.2.peers i) (s.1.peerTraffic i c)

theorem allKeepNewest_iff (pre : List EngineCall) (c : EngineCall) :
    AllKeepNewest pre c ↔ NoneLapped pre c := by
  obtain ⟨hcapture, hpeers⟩ := streamsNumbered_run pre
  refine and_congr ?_ (forall_congr' fun i => ?_)
  · refine hcapture.keepsNewest_iff (VoiceEngine.capture_serves _ c) (by decide) (by decide) ?_
    cases c with
    | captureFrame hasBuffer maxLen =>
      simp only [VoiceEngine.captureAsked]
      split
      · exact Nat.dvd_refl _
      · exact Nat.dvd_zero _
    | _ => exact Nat.dvd_zero _
  · exact (hpeers i).keepsNewest_iff (VoiceEngine.peer_serves _ i c) (by decide) (by decide) (Nat.one_dvd _)

/-- The newest audio is kept in exactly those runs in which the writer of a ring never
gets a whole round, or several, ahead of the reader by the time it reads. -/
theorem newest_audio_kept_iff (calls : List EngineCall) :
    Along AllKeepNewest calls ↔ Along NoneLapped calls := by
  simp only [Along, allKeepNewest_iff]

/-- Capture is started, and the device delivers `frameCount` samples before anybody asks
for a frame. -/
def unreadCapture (frameCount : Nat) : List EngineCall :=
  [.startCapture, .captureCallback (some (List.replicate frameCount 0)) 1 frameCount]

theorem backlog_unreadCapture {frameCount : Nat} (h : frameCount ≠ 0) :
    (numberedStreams.run NumberedStreams.load (unreadCapture frameCount)).2.capture.backlog = frameCount := by
  let g : VoiceEngine := { VoiceEngine.load with capture := VoiceEngine.load.capture.startCapture }
  have htraffic : g.captureTraffic (.captureCallback (some (List.replicate frameCount 0)) 1 frameCount) =
      .accepts (g.capture.delivered (List.replicate frameCount 0) 1 frameCount) := by
    simp [VoiceEngine.captureTraffic, h, g, Engine.startCapture]
  have hbacklog : (afterTraffic NumberedStreams.load.2.capture
      (g.captureTraffic (.captureCallback (some (List.replicate frameCount 0)) 1 frameCount))).backlog =
        0 + (g.capture.delivered (List.replicate frameCount 0) 1 frameCount).length := by
    rw [htraffic]
    rfl
  rw [Engine.delivered, List.length_map, List.length_range, Nat.zero_add] at hbacklog
  exact hbacklog

/-- A frame is asked of the ring as it is. -/
theorem arrived_captureFrame {size : Nat} (s : NumberedRing Sample size) (g : VoiceEngine) (hasBuffer : Bool)
    (maxLen : Nat) : arrived s (g.captureTraffic (.captureFrame hasBuffer maxLen)) = s := by
  simp only [VoiceEngine.captureTraffic]
  split
  · split <;> rfl
  · rfl

/-- The frame asked for after a whole round is silence. -/
theorem newest_audio_not_kept : ¬ ∀ calls, Along AllKeepNewest calls := by
  intro hkept
  have hframe : AllKeepNewest (unreadCapture 32768) (.captureFrame true 1920) :=
    hkept (unreadCapture 32768 ++ [.captureFrame true 1920]) (unreadCapture 32768) _ [] rfl
  rw [allKeepNewest_iff] at hframe
  have hasked : (numberedStreams.run NumberedStreams.load (unreadCapture 32768)).1.captureAsked (.captureFrame true 1920) =
      samplesPerFrame := rfl
  obtain hnone | hfew | hlast := hframe.1
  · rw [hasked] at hnone
    cases hnone
  · rw [arrived_captureFrame, backlog_unreadCapture (by decide)] at hfew
    exact absurd hfew (by decide)
  · rw [arrived_captureFrame, backlog_unreadCapture (by decide)] at hlast
    exact absurd hlast (by decide)

end low_latency_voice.client
