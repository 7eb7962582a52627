import LowLatencyVoice.Client.Engine
import LowLatencyVoice.Lib.Machine

namespace low_latency_voice.client

/-- A call into the capture side of the engine. -/
inductive EngineEvent where
  | captureCallback (pInput : Option (List Int16)) (channels frameCount : Nat)
  | startCapture
  | stopCapture
  | setLocalMute (muted : Bool)
  | setPttState (pressed : Bool)
  | setVadMode (enabled : Bool) (thresholdDb : Float32)
  | setMicTestLoopback (enabled : Bool)
  | captureFrame (hasBuffer : Bool) (maxLen : Nat)

def engineStep (e : Engine) : EngineEvent → Engine × Option Frame
  | .captureCallback pInput channels frameCount => (e.captureCallback pInput channels frameCount, none)
  | .startCapture => (e.startCapture, none)
  | .stopCapture => (e.stopCapture, none)
  | .setLocalMute muted => (e.setLocalMute muted, none)
  | .setPttState pressed => (e.setPttState pressed, none)
  | .setVadMode enabled thresholdDb => (e.setVadMode enabled thresholdDb, none)
  | .setMicTestLoopback enabled => (e.setMicTestLoopback enabled, none)
  | .captureFrame hasBuffer maxLen => e.captureFrame hasBuffer maxLen

/-- The engine under arbitrary calls. -/
def engine : Machine Engine EngineEvent (Option Frame) := ⟨engineStep⟩

@[simp] theorem out_captureFrame (e : Engine) (hasBuffer : Bool) (maxLen : Nat) :
    engine.out e (.captureFrame hasBuffer maxLen) = (e.captureFrame hasBuffer maxLen).2 := rfl

/-- Every non-zero sample a frame hands out was delivered while the engine was
not locally muted and since capture was last started. -/
def MicrophonePrivate (e₀ : Engine) : List EngineEvent → Prop :=
  Machine.Along fun pre ev => ∀ frame, engine.out (engine.run e₀ pre) ev = some frame →
    ∀ x ∈ frame.pcm, x.value ≠ 0 → x.muted = false ∧ x.session = (engine.run e₀ pre).session

/-- The call starts capture, directly or for a microphone test. -/
def StartsCapture (e : Engine) (ev : EngineEvent) : Prop :=
  ev = .startCapture ∨ ev = .setMicTestLoopback true ∧ e.capturing = false

/-- Nothing audible is delivered while capture runs muted, and nothing audible
is left unread when capture is started. -/
def NothingHeldBack (e₀ : Engine) : List EngineEvent → Prop :=
  Machine.Along fun pre ev =>
    (∀ samples channels frameCount, ev = .captureCallback (some samples) channels frameCount →
      (engine.run e₀ pre).capturing = true → (engine.run e₀ pre).localMuted = true →
      ∀ x ∈ (engine.run e₀ pre).delivered samples channels frameCount, x.value = 0) ∧
    (StartsCapture (engine.run e₀ pre) ev →
      ∀ x ∈ (engine.run e₀ pre).ring.queued, x.value = 0)

/-- Every audible unread sample was delivered unmuted in this capture session. -/
def Engine.Clean (e : Engine) : Prop :=
  ∀ x ∈ e.ring.queued, x.value ≠ 0 → x.muted = false ∧ x.session = e.session

theorem Engine.Clean.captureCallback {e : Engine} (h : e.Clean) {pInput : Option (List Int16)}
    {channels frameCount : Nat}
    (hmuted : ∀ samples, pInput = some samples → e.capturing = true → e.localMuted = true →
      ∀ x ∈ e.delivered samples channels frameCount, x.value = 0) :
    (e.captureCallback pInput channels frameCount).Clean := by
  cases pInput with
  | none => exact h
  | some samples =>
    by_cases hskip : frameCount = 0 ∨ e.capturing = false
    · simpa [Engine.captureCallback, hskip] using h
    · simp only [Engine.captureCallback, hskip, if_false]
      intro x hx hsound
      obtain hold | hnew := RingBuffer.mem_queued_pushAll hx
      · exact h x hold hsound
      · have hcapturing : e.capturing = true := by simpa using (not_or.mp hskip).2
        have hstamp : x.muted = e.localMuted ∧ x.session = e.session := by
          obtain ⟨i, -, rfl⟩ := List.mem_map.mp hnew
          exact ⟨rfl, rfl⟩
        refine ⟨?_, hstamp.2⟩
        rw [hstamp.1]
        by_contra hloud
        exact hsound (hmuted samples rfl hcapturing (by simpa using hloud) x hnew)

/-- Starting over with silence in the queue is clean. -/
theorem Engine.clean_of_silent {e : Engine} (h : ∀ x ∈ e.ring.queued, x.value = 0) : e.Clean :=
  fun x hx hsound => absurd (h x hx) hsound

theorem Engine.Clean.captureFrame {e : Engine} (h : e.Clean) (hasBuffer : Bool) (maxLen : Nat) :
    (e.captureFrame hasBuffer maxLen).1.Clean := by
  intro x hx hsound
  obtain ⟨n, hn⟩ := e.captureFrame_queued hasBuffer maxLen
  rw [hn] at hx
  rw [Engine.captureFrame_session]
  exact h x (List.mem_of_mem_drop hx) hsound

/-- One call that holds nothing back keeps the queue clean. -/
theorem Engine.Clean.step {e : Engine} (h : e.Clean) {ev : EngineEvent}
    (hmuted : ∀ samples channels frameCount, ev = .captureCallback (some samples) channels frameCount →
      e.capturing = true → e.localMuted = true →
      ∀ x ∈ e.delivered samples channels frameCount, x.value = 0)
    (hstart : StartsCapture e ev → ∀ x ∈ e.ring.queued, x.value = 0) : (engineStep e ev).1.Clean := by
  cases ev with
  | captureCallback pInput channels frameCount =>
    exact h.captureCallback fun samples hsome => hmuted samples channels frameCount (by rw [hsome])
  | startCapture => exact Engine.clean_of_silent (hstart (.inl rfl))
  | stopCapture => exact h
  | setLocalMute muted => exact h
  | setPttState pressed => exact h
  | setVadMode enabled thresholdDb => exact h
  | setMicTestLoopback enabled =>
    simp only [engineStep, Engine.setMicTestLoopback]
    split
    · rename_i hstarts
      obtain ⟨rfl, hidle⟩ : enabled = true ∧ e.capturing = false := by simpa using hstarts
      exact Engine.clean_of_silent (hstart (.inr ⟨rfl, hidle⟩))
    · exact h
  | captureFrame hasBuffer maxLen => exact h.captureFrame hasBuffer maxLen

/-- The ring starts out empty. -/
theorem Engine.queued_init (vadHangoverMs : UInt32) : (Engine.init vadHangoverMs).ring.queued = [] := by
  rw [← List.length_eq_zero_iff, RingBuffer.length_queued]
  rfl

/-- What the first deliveries leave in the ring. -/
theorem Engine.queued_init_pushAll (vadHangoverMs : UInt32) (xs : List Sample)
    (hroom : xs.length < ringBufferSize) : ((Engine.init vadHangoverMs).ring.pushAll xs).queued = xs := by
  have hempty : (Engine.init vadHangoverMs).ring.available = 0 := by
    rw [← RingBuffer.length_queued, Engine.queued_init, List.length_nil]
  rw [RingBuffer.queued_pushAll (by omega), Engine.queued_init, List.nil_append]

theorem Engine.clean_run {vadHangoverMs : UInt32} {es : List EngineEvent}
    (hheld : NothingHeldBack (Engine.init vadHangoverMs) es) :
    (engine.run (Engine.init vadHangoverMs) es).Clean := by
  refine Machine.run_invariant engine (fun _ e => e.Clean) ?_ ?_ es hheld
  · exact Engine.clean_of_silent (by simp [Engine.queued_init])
  · exact fun pre ev hok hclean => hclean.step hok.1 hok.2

/-- Microphone privacy: in every run that holds nothing audible back, frames
hand out only what was recorded unmuted in the present capture session. -/
theorem microphonePrivate_of_nothingHeldBack (vadHangoverMs : UInt32) (es : List EngineEvent)
    (hheld : NothingHeldBack (Engine.init vadHangoverMs) es) :
    MicrophonePrivate (Engine.init vadHangoverMs) es := by
  rintro pre ev post rfl frame hframe x hx hsound
  have hclean := Engine.clean_run (Machine.Along.front hheld)
  cases ev with
  | captureFrame hasBuffer maxLen =>
    rw [Engine.captureFrame_pcm hframe] at hx
    split at hx
    · exact hclean x (List.mem_of_mem_take hx) hsound
    · rw [List.eq_of_mem_replicate hx] at hsound
      exact absurd rfl hsound
  | _ => cases hframe

/-- A loud frame is recorded and handed out. -/
theorem microphonePrivate_of_nothingHeldBack_unmuted :
    MicrophonePrivate (Engine.init 200) [.startCapture,
      .captureCallback (some (List.replicate 960 1000)) 1 960, .captureFrame true 1920] := by
  refine microphonePrivate_of_nothingHeldBack 200 _ ?_
  simp only [NothingHeldBack, Machine.along_cons_iff]
  refine ⟨⟨?_, fun _ => ?_⟩, ⟨?_, ?_⟩, ⟨?_, ?_⟩, Machine.along_nil⟩
  · rintro _ _ _ ⟨⟩
  · simp [Engine.queued_init]
  · rintro _ _ _ ⟨⟩ - hmuted
    cases hmuted
  · rintro (heq | ⟨heq, -⟩) <;> cases heq
  · rintro _ _ _ ⟨⟩
  · rintro (heq | ⟨heq, -⟩) <;> cases heq

/-- Audio is delivered while the engine is muted, and the mute is lifted before
a frame is fetched. -/
def recordedWhileMuted (samples : List Int16) (frameCount : Nat) : List EngineEvent :=
  [.startCapture, .setLocalMute true, .captureCallback (some samples) 1 frameCount, .setLocalMute false]

/-- What was recorded during the mute is queued after it. -/
theorem run_recordedWhileMuted (samples : List Int16) (frameCount : Nat) (hpos : frameCount ≠ 0)
    (hroom : frameCount < ringBufferSize) :
    let e := engine.run (Engine.init 200) (recordedWhileMuted samples frameCount)
    (e.capturing = true ∧ e.localMuted = false) ∧
      e.ring.queued = (List.range frameCount).map fun i => ⟨Engine.mixDown samples 1 i, true, 1⟩ := by
  have hqueued := Engine.queued_init_pushAll 200
    (((Engine.init 200).startCapture.setLocalMute true).delivered samples 1 frameCount)
    (by simpa [Engine.delivered])
  have hstate : engine.run (Engine.init 200) (recordedWhileMuted samples frameCount) =
      (((Engine.init 200).startCapture.setLocalMute true).captureCallback (some samples) 1
        frameCount).setLocalMute false := rfl
  rw [hstate, Engine.captureCallback_eq rfl samples 1 hpos]
  exact ⟨⟨rfl, rfl⟩, hqueued⟩

/-- A loud frame recorded during the mute is handed out after it. -/
theorem muted_recording_handed_out :
    ¬ MicrophonePrivate (Engine.init 200)
      (recordedWhileMuted (1000 :: List.replicate 959 0) 960 ++ [.captureFrame true 1920]) := by
  intro hprivate
  obtain ⟨⟨hcapturing, hunmuted⟩, hqueued⟩ :=
    run_recordedWhileMuted (1000 :: List.replicate 959 0) 960 (by decide) (by decide)
  generalize hrun : engine.run (Engine.init 200) (recordedWhileMuted (1000 :: List.replicate 959 0) 960) = e
    at hcapturing hunmuted hqueued
  have hdeq : e.Dequeues := by
    refine ⟨.inl hcapturing, hunmuted, ?_⟩
    rw [← RingBuffer.length_queued, hqueued, List.length_map, List.length_range]
    exact Nat.le_refl samplesPerFrame
  obtain ⟨frame, hframe⟩ := Option.isSome_iff_exists.mp (e.captureFrame_isSome 1920 (by decide))
  have hfirst : (⟨1000, true, 1⟩ : Sample) ∈ frame.pcm := by
    have hlen : (List.range 960).length ≤ samplesPerFrame := Nat.le_of_eq List.length_range
    rw [Engine.captureFrame_pcm hframe, if_pos hdeq, hqueued, ← List.map_take,
      List.take_of_length_le hlen]
    exact List.mem_map.mpr ⟨0, List.mem_range.mpr (by decide), rfl⟩
  rw [← hrun, ← out_captureFrame] at hframe
  have hmuted := (hprivate _ _ [] rfl frame hframe _ hfirst (by decide)).1
  cases hmuted

end low_latency_voice.client
