import LowLatencyVoice.Lib.RingBuffer

namespace low_latency_voice.client

/-- `RING_BUFFER_SIZE`. -/
def ringBufferSize : Nat := 32768

theorem ringBufferSize_pos : 0 < ringBufferSize := by decide

/-- `SAMPLES_PER_FRAME`: 20 ms at 48 kHz mono. -/
def samplesPerFrame : Nat := 960

/-- A sample in the capture ring. Only `value` exists in the engine: the other
two record, for the specification, whether the engine was locally muted and how
often capture had been started when the callback delivered it. -/
structure Sample where
  value : Int16
  muted : Bool
  session : Nat
  deriving DecidableEq, Repr

/-- A sample of silence, as the memory of the ring holds at load time. -/
def Sample.silence : Sample := ⟨0, false, 0⟩

/-- The capture side of the engine's globals. `session` is auxiliary, like the
stamps of the samples: it counts the calls of `voice_engine_start_capture`. -/
structure Engine where
  capturing : Bool
  localMuted : Bool
  pttPressed : Bool
  vadMode : Bool
  vadThreshold : Float32
  vadHangoverMs : UInt32
  hangoverMsLeft : UInt32
  micTestLoopback : Bool
  ring : RingBuffer Sample ringBufferSize
  session : Nat

/-- What `voice_engine_capture_frame` writes through its pointers. -/
structure Frame where
  pcm : List Sample
  levelDb : Float32
  isSpeaking : Bool
  energyLevel : UInt8

namespace Engine

/-- The globals after loading and initialisation. -/
def init (vadHangoverMs : UInt32) : Engine where
  capturing := false
  localMuted := false
  pttPressed := false
  vadMode := true
  vadThreshold := -45.0
  vadHangoverMs
  hangoverMsLeft := 0
  micTestLoopback := false
  ring := ⟨fun _ => Sample.silence, ⟨0, ringBufferSize_pos⟩, ⟨0, ringBufferSize_pos⟩⟩
  session := 0

/-- One mono sample of an interleaved device buffer: the mean of the channels,
rounded towards zero and clamped. -/
def mixDown (samples : List Int16) (channels i : Nat) : Int16 :=
  if channels ≤ 1 then samples.getD i 0
  else
    let mixed := (List.range channels).foldl (fun sum c => sum + (samples.getD (i * channels + c) 0).toInt) 0
    Int16.ofInt (max (min (mixed.tdiv channels) 32767) (-32768))

/-- The samples one callback delivers, stamped. -/
def delivered (e : Engine) (samples : List Int16) (channels frameCount : Nat) : List Sample :=
  (List.range frameCount).map fun i => ⟨mixDown samples channels i, e.localMuted, e.session⟩

/-- `ma_capture_callback`. The local mute is not looked at here. -/
def captureCallback (e : Engine) (pInput : Option (List Int16)) (channels frameCount : Nat) : Engine :=
  match pInput with
  | none => e
  | some samples =>
    if frameCount = 0 ∨ e.capturing = false then e
    else { e with ring := e.ring.pushAll (e.delivered samples channels frameCount) }

/-- `voice_engine_start_capture`. Neither index of the ring is reset. -/
def startCapture (e : Engine) : Engine := { e with capturing := true, session := e.session + 1 }

/-- `voice_engine_stop_capture`. -/
def stopCapture (e : Engine) : Engine := { e with capturing := false }

/-- `voice_engine_set_local_mute`. -/
def setLocalMute (e : Engine) (muted : Bool) : Engine := { e with localMuted := muted }

/-- `voice_engine_set_ptt_state`. -/
def setPttState (e : Engine) (pressed : Bool) : Engine := { e with pttPressed := pressed }

/-- `voice_engine_set_vad_mode`. -/
def setVadMode (e : Engine) (enabled : Bool) (thresholdDb : Float32) : Engine :=
  { e with vadMode := enabled, vadThreshold := thresholdDb }

/-- `voice_engine_set_mic_test_loopback`. -/
def setMicTestLoopback (e : Engine) (enabled : Bool) : Engine :=
  let e := { e with micTestLoopback := enabled }
  if enabled && !e.capturing then e.startCapture else e

/-- The level of a frame in dBFS, between -90 and 0. -/
def dbfs (pcm : List Sample) : Float32 :=
  let sumSq := pcm.foldl (fun acc s => acc + Float.ofInt s.value.toInt * Float.ofInt s.value.toInt) 0.0
  let rms := Float.sqrt (sumSq / Float.ofNat samplesPerFrame)
  let level := if 0.0 < rms then (20.0 * Float.log10 (rms / 32768.0)).toFloat32 else -90.0
  let level := if level < -90.0 then -90.0 else level
  if 0.0 < level then 0.0 else level

/-- VAD and PTT determination: whether the frame counts as speech, and the
hangover left after it. -/
def determineSpeaking (e : Engine) (level : Float32) : Bool × UInt32 :=
  if e.vadMode then
    if e.vadThreshold ≤ level then (true, e.vadHangoverMs)
    else if 20 ≤ e.hangoverMsLeft then (true, e.hangoverMsLeft - 20)
    else (false, 0)
  else (e.pttPressed, e.hangoverMsLeft)

/-- The energy level on the wire, 0 to 15. -/
def energyOf (level : Float32) : UInt8 :=
  let normalized := (level + 60.0) / 60.0
  let normalized := if normalized < 0.0 then 0.0 else normalized
  let normalized := if 1.0 < normalized then 1.0 else normalized
  (normalized * 15.0 + 0.5).toUInt8

/-- The frame of silence all early exits write. -/
def silentFrame : Frame where
  pcm := List.replicate samplesPerFrame Sample.silence
  levelDb := -90.0
  isSpeaking := false
  energyLevel := 0

/-- The second half of `voice_engine_capture_frame`, on the samples taken out of
the ring and the ring they leave. They are returned whatever the speaking
decision is. -/
def process (e : Engine) (popped : List Sample × RingBuffer Sample ringBufferSize) : Engine × Frame :=
  let level := dbfs popped.1
  let (speaking, hangover) := e.determineSpeaking level
  ({ e with ring := popped.2, hangoverMsLeft := hangover },
    { pcm := popped.1, levelDb := level, isSpeaking := speaking, energyLevel := energyOf level })

/-- `voice_engine_capture_frame`: `none` when the buffer is missing or small.
Only the last branch takes samples out of the ring. -/
def captureFrame (e : Engine) (hasBuffer : Bool) (maxLen : Nat) : Engine × Option Frame :=
  if hasBuffer = false ∨ maxLen < samplesPerFrame * 2 then (e, none)
  else if e.capturing = false ∧ e.micTestLoopback = false then (e, some silentFrame)
  else if e.localMuted then (e, some silentFrame)
  else if e.ring.available < samplesPerFrame then ({ e with hangoverMsLeft := 0 }, some silentFrame)
  else
    let (e, frame) := e.process (RingBuffer.popMany samplesPerFrame e.ring)
    (e, some frame)

@[simp] theorem process_pcm (e : Engine) (popped : List Sample × RingBuffer Sample ringBufferSize) :
    (e.process popped).2.pcm = popped.1 := rfl

@[simp] theorem process_ring (e : Engine) (popped : List Sample × RingBuffer Sample ringBufferSize) :
    (e.process popped).1.ring = popped.2 := rfl

@[simp] theorem process_session (e : Engine) (popped : List Sample × RingBuffer Sample ringBufferSize) :
    (e.process popped).1.session = e.session := rfl

/-- The frame comes from the ring, not from an early exit. -/
def Dequeues (e : Engine) : Prop :=
  (e.capturing = true ∨ e.micTestLoopback = true) ∧ e.localMuted = false ∧
    samplesPerFrame ≤ e.ring.available

instance (e : Engine) : Decidable e.Dequeues := inferInstanceAs (Decidable (_ ∧ _ ∧ _))

/-- The call looks into the capture ring for a frame. -/
def Asks (e : Engine) (hasBuffer : Bool) (maxLen : Nat) : Prop :=
  (hasBuffer = true ∧ samplesPerFrame * 2 ≤ maxLen) ∧ (e.capturing = true ∨ e.micTestLoopback = true) ∧
    e.localMuted = false

instance (e : Engine) (hasBuffer : Bool) (maxLen : Nat) : Decidable (e.Asks hasBuffer maxLen) :=
  inferInstanceAs (Decidable (_ ∧ _ ∧ _))

/-- A call that looks into the ring takes a frame from it, if there is one. -/
theorem captureFrame_of_asks {e : Engine} {hasBuffer : Bool} {maxLen : Nat}
    (h : e.Asks hasBuffer maxLen) :
    e.captureFrame hasBuffer maxLen =
      if e.ring.available < samplesPerFrame then ({ e with hangoverMsLeft := 0 }, some silentFrame)
      else
        ((e.process (RingBuffer.popMany samplesPerFrame e.ring)).1,
          some (e.process (RingBuffer.popMany samplesPerFrame e.ring)).2) := by
  obtain ⟨⟨hbuffer, hlen⟩, hactive, hunmuted⟩ := h
  have hoff : ¬ (e.capturing = false ∧ e.micTestLoopback = false) := by
    rintro ⟨hidle, hnotest⟩
    simp [hidle, hnotest] at hactive
  simp only [captureFrame, hbuffer, Bool.true_eq_false, Nat.not_lt.mpr hlen, or_self, hoff, hunmuted, if_false,
    Bool.false_eq_true]

/-- Any other call leaves the ring alone and hands out no sample of it. -/
theorem captureFrame_of_not_asks {e : Engine} {hasBuffer : Bool} {maxLen : Nat}
    (h : ¬ e.Asks hasBuffer maxLen) :
    e.captureFrame hasBuffer maxLen = (e, none) ∨
      e.captureFrame hasBuffer maxLen = (e, some silentFrame) ∧ ¬ e.Dequeues := by
  unfold captureFrame
  split
  · exact .inl rfl
  · rename_i hlarge
    split
    · rename_i hoff
      exact .inr ⟨rfl, fun hdeq => by simp [Dequeues, hoff] at hdeq⟩
    · split
      · rename_i hmuted
        exact .inr ⟨rfl, fun hdeq => by simp [Dequeues, hmuted] at hdeq⟩
      · rename_i hon hunmuted
        refine absurd ⟨?_, ?_, by simpa using hunmuted⟩ h
        · simpa [not_or] using hlarge
        · simpa [imp_iff_or_not, or_comm] using hon

/-- What a frame holds: the oldest queued samples, or silence. -/
theorem captureFrame_pcm {e : Engine} {hasBuffer : Bool} {maxLen : Nat} {frame : Frame}
    (h : (e.captureFrame hasBuffer maxLen).2 = some frame) :
    frame.pcm = if e.Dequeues then e.ring.queued.take samplesPerFrame
      else List.replicate samplesPerFrame Sample.silence := by
  by_cases hasks : e.Asks hasBuffer maxLen
  · rw [captureFrame_of_asks hasks] at h
    split at h
    · rename_i hshort
      cases h
      rw [if_neg fun hdeq => Nat.not_le.mpr hshort hdeq.2.2]
      rfl
    · rename_i hlong
      have hdeq : e.Dequeues := ⟨hasks.2.1, hasks.2.2, Nat.not_lt.mp hlong⟩
      rw [← Option.some.inj h, process_pcm, if_pos hdeq]
      exact (RingBuffer.popMany_spec (Nat.not_lt.mp hlong)).1
  · obtain heq | ⟨heq, hdeq⟩ := captureFrame_of_not_asks hasks
    · rw [heq] at h
      cases h
    · rw [heq] at h
      cases h
      rw [if_neg hdeq]
      rfl

/-- A buffer of 1920 bytes always gets a frame. -/
theorem captureFrame_isSome (e : Engine) (maxLen : Nat) (h : samplesPerFrame * 2 ≤ maxLen) :
    (e.captureFrame true maxLen).2.isSome := by
  have hlarge : ¬ maxLen < samplesPerFrame * 2 := Nat.not_lt.mpr h
  simp only [captureFrame, Bool.true_eq_false, hlarge, or_self, if_false]
  split
  · rfl
  · split
    · rfl
    · split <;> rfl

/-- While capture runs, the callback queues what it is given. -/
theorem captureCallback_eq {e : Engine} (hcapturing : e.capturing = true) (samples : List Int16)
    (channels : Nat) {frameCount : Nat} (hframes : frameCount ≠ 0) :
    e.captureCallback (some samples) channels frameCount =
      { e with ring := e.ring.pushAll (e.delivered samples channels frameCount) } := by
  simp [captureCallback, hcapturing, hframes]

/-- A frame takes samples from the front of the queue only. -/
theorem captureFrame_queued (e : Engine) (hasBuffer : Bool) (maxLen : Nat) :
    ∃ n, (e.captureFrame hasBuffer maxLen).1.ring.queued = e.ring.queued.drop n := by
  unfold captureFrame
  split
  · exact ⟨0, rfl⟩
  · split
    · exact ⟨0, rfl⟩
    · split
      · exact ⟨0, rfl⟩
      · split
        · exact ⟨0, rfl⟩
        · rename_i hlong
          refine ⟨samplesPerFrame, ?_⟩
          rw [process_ring]
          exact (RingBuffer.popMany_spec (Nat.not_lt.mp hlong)).2

@[simp] theorem captureFrame_session (e : Engine) (hasBuffer : Bool) (maxLen : Nat) :
    (e.captureFrame hasBuffer maxLen).1.session = e.session := by
  unfold captureFrame
  split
  · rfl
  · split
    · rfl
    · split
      · rfl
      · split
        · rfl
        · rw [process_session]

end Engine

end low_latency_voice.client
