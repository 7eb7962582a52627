import LowLatencyVoice.Client.CapturePrivacy

open Machine

namespace low_latency_voice.client

/-- What a call of `voice_engine_capture_frame` is to the hangover: it processes a frame in
voice-activity mode at or above the threshold, or below it, it finds no hardware frame, or
it does none of this (no buffer, not capturing, muted, push to talk). -/
inductive FrameCall where
  | loud
  | quiet
  | short
  | uncounted
  deriving DecidableEq, Repr

namespace Engine

/-- The level of the next hardware frame. -/
def nextLevel (e : Engine) : Float32 := dbfs (RingBuffer.popMany samplesPerFrame e.ring).1

def frameCall (e : Engine) (hasBuffer : Bool) (maxLen : Nat) : FrameCall :=
  if ¬ e.Asks hasBuffer maxLen then .uncounted
  else if e.ring.available < samplesPerFrame then .short
  else if e.vadMode = false then .uncounted
  else if e.vadThreshold ≤ e.nextLevel then .loud
  else .quiet

/-- What a call leaves of the hangover. -/
theorem captureFrame_hangoverMsLeft (e : Engine) (hasBuffer : Bool) (maxLen : Nat) :
    (e.captureFrame hasBuffer maxLen).1.hangoverMsLeft =
      match e.frameCall hasBuffer maxLen with
      | .loud => e.vadHangoverMs
      | .quiet => if 20 ≤ e.hangoverMsLeft then e.hangoverMsLeft - 20 else 0
      | .short => 0
      | .uncounted => e.hangoverMsLeft := by
  by_cases hasks : e.Asks hasBuffer maxLen
  · rw [captureFrame_of_asks hasks, frameCall, if_neg (not_not_intro hasks)]
    by_cases hshort : e.ring.available < samplesPerFrame
    · rw [if_pos hshort, if_pos hshort]
    · rw [if_neg hshort, if_neg hshort]
      by_cases hvad : e.vadMode = false
      · simp [process, determineSpeaking, hvad]
      · have hlevel : dbfs (RingBuffer.popMany samplesPerFrame e.ring).1 = e.nextLevel := rfl
        rw [if_neg hvad]
        simp only [Bool.not_eq_false] at hvad
        simp only [process, determineSpeaking, hvad, if_true, hlevel]
        by_cases hloud : e.vadThreshold ≤ e.nextLevel
        · simp only [if_pos hloud]
        · simp only [if_neg hloud]
          split <;> rfl
  · rw [frameCall, if_pos hasks]
    obtain heq | ⟨heq, -⟩ := captureFrame_of_not_asks hasks
    · rw [heq]
    · rw [heq]

@[simp] theorem captureFrame_vadHangoverMs (e : Engine) (hasBuffer : Bool) (maxLen : Nat) :
    (e.captureFrame hasBuffer maxLen).1.vadHangoverMs = e.vadHangoverMs := by
  by_cases hasks : e.Asks hasBuffer maxLen
  · rw [captureFrame_of_asks hasks]
    split <;> rfl
  · obtain heq | ⟨heq, -⟩ := captureFrame_of_not_asks hasks <;> rw [heq]

/-- The same countdown, of the same length. -/
def SameHangover (e e' : Engine) : Prop :=
  e'.vadHangoverMs = e.vadHangoverMs ∧ e'.hangoverMsLeft = e.hangoverMsLeft

/-- Only `voice_engine_capture_frame` touches the hangover. -/
theorem sameHangover_step (e : Engine) {ev : EngineEvent}
    (hcall : ∀ hasBuffer maxLen, ev ≠ .captureFrame hasBuffer maxLen) : SameHangover e (engine.next e ev) := by
  cases ev with
  | captureFrame hasBuffer maxLen => exact absurd rfl (hcall hasBuffer maxLen)
  | captureCallback pInput channels frameCount =>
    simp only [next, engine, engineStep, captureCallback]
    repeat' split
    all_goals exact ⟨rfl, rfl⟩
  | setMicTestLoopback enabled =>
    simp only [next, engine, engineStep, setMicTestLoopback]
    split <;> exact ⟨rfl, rfl⟩
  | _ => exact ⟨rfl, rfl⟩

/-- When a call in voice-activity mode reports speech. -/
theorem captureFrame_speaks_iff {e : Engine} (hvad : e.vadMode = true) (hasBuffer : Bool) (maxLen : Nat) :
    (∃ frame, (e.captureFrame hasBuffer maxLen).2 = some frame ∧ frame.isSpeaking = true) ↔
      e.frameCall hasBuffer maxLen = .loud ∨
        e.frameCall hasBuffer maxLen = .quiet ∧ 20 ≤ e.hangoverMsLeft := by
  by_cases hasks : e.Asks hasBuffer maxLen
  · rw [captureFrame_of_asks hasks, frameCall, if_neg (not_not_intro hasks)]
    by_cases hshort : e.ring.available < samplesPerFrame
    · simp [hshort, silentFrame]
    · have hlevel : dbfs (RingBuffer.popMany samplesPerFrame e.ring).1 = e.nextLevel := rfl
      simp only [if_neg hshort, process, determineSpeaking, hvad, if_true, Bool.true_eq_false, if_false, hlevel]
      by_cases hloud : e.vadThreshold ≤ e.nextLevel
      · simp [hloud]
      · by_cases hleft : 20 ≤ e.hangoverMsLeft
        · simp [hloud, hleft]
        · simp [hloud, hleft]
  · rw [frameCall, if_pos hasks]
    obtain heq | ⟨heq, -⟩ := captureFrame_of_not_asks hasks
    · simp [heq]
    · simp [heq, silentFrame]

end Engine

namespace FrameCall

/-- The hangover after some calls, the last one first. -/
def hangover (vadHangoverMs : UInt32) : List FrameCall → UInt32
  | [] => 0
  | .loud :: _ => vadHangoverMs
  | .quiet :: calls => if 20 ≤ hangover vadHangoverMs calls then hangover vadHangoverMs calls - 20 else 0
  | .short :: _ => 0
  | .uncounted :: calls => hangover vadHangoverMs calls

/-- The calls since the last loud one. -/
def sinceLoud (calls : List FrameCall) : List FrameCall := calls.takeWhile (· ≠ .loud)

/-- How many calls the hangover lasts. -/
def lasting (vadHangoverMs : UInt32) : Nat := vadHangoverMs.toNat / 20

variable {vadHangoverMs : UInt32}

theorem toNat_hangover_quiet (calls : List FrameCall) :
    (hangover vadHangoverMs (.quiet :: calls)).toNat = (hangover vadHangoverMs calls).toNat - 20 := by
  rw [hangover]
  split
  · next hleft => rw [UInt32.toNat_sub_of_le _ _ hleft]
                  rfl
  · next hless =>
    have hlt : (hangover vadHangoverMs calls).toNat < 20 := by
      rw [UInt32.le_iff_toNat_le] at hless
      exact Nat.lt_of_not_le hless
    rw [Nat.sub_eq_zero_of_le (Nat.le_of_lt hlt)]
    rfl

/-- The hangover counts down the quiet frames since the last loud one, if there was one
and no frame was missing since. -/
theorem toNat_hangover (calls : List FrameCall) :
    (hangover vadHangoverMs calls).toNat =
      if .loud ∈ calls ∧ .short ∉ sinceLoud calls then
        vadHangoverMs.toNat - 20 * (sinceLoud calls).count .quiet
      else 0 := by
  induction calls with
  | nil => simp [hangover]
  | cons call calls ih =>
    cases call with
    | loud => simp [hangover, sinceLoud]
    | quiet =>
      have hsince : sinceLoud (.quiet :: calls) = .quiet :: sinceLoud calls := by simp [sinceLoud]
      rw [toNat_hangover_quiet, ih, hsince]
      by_cases hlive : .loud ∈ calls ∧ .short ∉ sinceLoud calls
      · rw [if_pos hlive, if_pos (by simpa using hlive), List.count_cons_self]
        omega
      · rw [if_neg hlive, if_neg (by simpa using hlive)]
    | short => simp [hangover, sinceLoud]
    | uncounted =>
      rw [hangover, ih]
      simp [sinceLoud]

theorem sinceLoud_append (recent earlier : List FrameCall) :
    sinceLoud (recent ++ .loud :: earlier) <+: recent := by
  induction recent with
  | nil => simp [sinceLoud]
  | cons call recent ih =>
    by_cases hloud : call = .loud
    · simp [hloud, sinceLoud]
    · have hcons : sinceLoud (call :: recent ++ .loud :: earlier) =
          call :: sinceLoud (recent ++ .loud :: earlier) := by
        simp [sinceLoud, hloud]
      rw [hcons]
      exact List.cons_prefix_cons.mpr ⟨rfl, ih⟩

/-- Of the last `n` calls one was loud when fewer than `n` were made since. -/
theorem loud_mem_take_iff (n : Nat) (calls : List FrameCall) :
    .loud ∈ calls.take n ↔ .loud ∈ calls ∧ (sinceLoud calls).length < n := by
  induction calls generalizing n with
  | nil => simp
  | cons call calls ih =>
    cases n with
    | zero => simp
    | succ n =>
      by_cases hloud : call = .loud
      · simp [hloud, sinceLoud]
      · have hne : FrameCall.loud ≠ call := fun heq => hloud heq.symm
        simp [sinceLoud, hloud, hne, ih n]

end FrameCall

/-- The engine with the calls of `voice_engine_capture_frame` so far, the last one first. -/
def heard : Machine (Engine × List FrameCall) EngineEvent (Option Frame) where
  step s ev :=
    ((engine.next s.1 ev,
      match ev with
      | .captureFrame hasBuffer maxLen => s.1.frameCall hasBuffer maxLen :: s.2
      | _ => s.2), engine.out s.1 ev)

/-- After initialisation, nothing heard. -/
def heardInit (vadHangoverMs : UInt32) : Engine × List FrameCall := (Engine.init vadHangoverMs, [])

/-- The engine's countdown is the hangover of the calls. -/
theorem hangoverMsLeft_run (vadHangoverMs : UInt32) (es : List EngineEvent) :
    (heard.run (heardInit vadHangoverMs) es).1.vadHangoverMs = vadHangoverMs ∧
      (heard.run (heardInit vadHangoverMs) es).1.hangoverMsLeft =
        FrameCall.hangover vadHangoverMs (heard.run (heardInit vadHangoverMs) es).2 := by
  refine heard.run_stable (fun s => s.1.vadHangoverMs = vadHangoverMs ∧
    s.1.hangoverMsLeft = FrameCall.hangover vadHangoverMs s.2) ?_ ⟨rfl, rfl⟩ es
  rintro ⟨e, calls⟩ ev ⟨hconfig, hleft⟩
  by_cases hframe : ∃ hasBuffer maxLen, ev = .captureFrame hasBuffer maxLen
  · obtain ⟨hasBuffer, maxLen, rfl⟩ := hframe
    have hnext : heard.next (e, calls) (.captureFrame hasBuffer maxLen) =
        ((e.captureFrame hasBuffer maxLen).1, e.frameCall hasBuffer maxLen :: calls) := rfl
    rw [hnext]
    simp only at hconfig hleft
    simp only [Engine.captureFrame_vadHangoverMs, Engine.captureFrame_hangoverMsLeft, hconfig, hleft, true_and]
    cases e.frameCall hasBuffer maxLen <;> rfl
  · have hother : ∀ hasBuffer maxLen, ev ≠ .captureFrame hasBuffer maxLen := by simpa using hframe
    obtain ⟨hsame, hsameLeft⟩ := e.sameHangover_step hother
    have hcalls : (heard.next (e, calls) ev).2 = calls := by
      cases ev with
      | captureFrame hasBuffer maxLen => exact absurd rfl (hother hasBuffer maxLen)
      | _ => rfl
    exact ⟨hsame.trans hconfig, by rw [hcalls, ← hleft]; exact hsameLeft⟩

/-- A call in voice-activity mode reports speech only when it is loud or one of the calls
the hangover lasts for was. -/
def SpeechRecent (vadHangoverMs : UInt32) (pre : List EngineEvent) (ev : EngineEvent) : Prop :=
  let s := heard.run (heardInit vadHangoverMs) pre
  ∀ hasBuffer maxLen, ev = .captureFrame hasBuffer maxLen → s.1.vadMode = true →
    (∃ frame, heard.out s ev = some frame ∧ frame.isSpeaking = true) →
    s.1.frameCall hasBuffer maxLen = .loud ∨ .loud ∈ s.2.take (FrameCall.lasting vadHangoverMs)

/-- As many calls after a loud one as the hangover lasts for report speech, if each of
them processes a hardware frame in voice-activity mode. -/
def SpeechHeld (vadHangoverMs : UInt32) (pre : List EngineEvent) (ev : EngineEvent) : Prop :=
  let s := heard.run (heardInit vadHangoverMs) pre
  ∀ hasBuffer maxLen recent earlier, ev = .captureFrame hasBuffer maxLen → s.2 = recent ++ .loud :: earlier →
    recent.length < FrameCall.lasting vadHangoverMs →
    (∀ call ∈ s.1.frameCall hasBuffer maxLen :: recent, call = .loud ∨ call = .quiet) →
    ∃ frame, heard.out s ev = some frame ∧ frame.isSpeaking = true

/-- A quiet frame is not processed while calls that do not count down have outlasted the
hangover: since the last loud call there were fewer calls than the hangover lasts for, or
a frame was missing, or the quiet frames alone were enough. -/
def CountsDown (vadHangoverMs : UInt32) (pre : List EngineEvent) (ev : EngineEvent) : Prop :=
  let s := heard.run (heardInit vadHangoverMs) pre
  ∀ hasBuffer maxLen, ev = .captureFrame hasBuffer maxLen → s.1.frameCall hasBuffer maxLen = .quiet →
    .loud ∈ s.2 →
    (FrameCall.sinceLoud s.2).length < FrameCall.lasting vadHangoverMs ∨ .short ∈ FrameCall.sinceLoud s.2 ∨
      FrameCall.lasting vadHangoverMs ≤ (FrameCall.sinceLoud s.2).count .quiet

namespace FrameCall

/-- The hangover has a frame left exactly while fewer quiet frames than it lasts for were
counted since the last loud one. -/
theorem hangover_le_iff {vadHangoverMs : UInt32} (calls : List FrameCall) :
    20 ≤ hangover vadHangoverMs calls ↔
      .loud ∈ calls ∧ .short ∉ sinceLoud calls ∧ (sinceLoud calls).count .quiet < lasting vadHangoverMs := by
  have htwenty : (20 : UInt32).toNat = 20 := rfl
  rw [UInt32.le_iff_toNat_le, toNat_hangover, htwenty, lasting]
  split
  · next hlive =>
    simp only [hlive, true_and, not_false_eq_true]
    omega
  · next hdead =>
    constructor
    · intro hle
      omega
    · rintro ⟨hloud, hshort, -⟩
      exact absurd ⟨hloud, hshort⟩ hdead

theorem frameCall_quiet_vadMode {e : Engine} {hasBuffer : Bool} {maxLen : Nat}
    (h : e.frameCall hasBuffer maxLen = .loud ∨ e.frameCall hasBuffer maxLen = .quiet) : e.vadMode = true := by
  by_contra hptt
  simp only [Bool.not_eq_true] at hptt
  unfold Engine.frameCall at h
  split_ifs at h <;> simp_all

end FrameCall

theorem speechRecent_iff (vadHangoverMs : UInt32) (pre : List EngineEvent) (ev : EngineEvent) :
    SpeechRecent vadHangoverMs pre ev ↔ CountsDown vadHangoverMs pre ev := by
  obtain ⟨-, hleft⟩ := hangoverMsLeft_run vadHangoverMs pre
  simp only [SpeechRecent, CountsDown]
  generalize heard.run (heardInit vadHangoverMs) pre = s at hleft ⊢
  obtain ⟨e, calls⟩ := s
  simp only at hleft ⊢
  constructor
  · rintro hrecent hasBuffer maxLen rfl hquiet hloud
    have hvad := FrameCall.frameCall_quiet_vadMode (.inr hquiet)
    by_contra hnot
    simp only [not_or, Nat.not_lt, Nat.not_le] at hnot
    obtain ⟨hlong, hshort, hfew⟩ := hnot
    have hspeaks := (Engine.captureFrame_speaks_iff hvad hasBuffer maxLen).mpr
      (.inr ⟨hquiet, by rw [hleft, FrameCall.hangover_le_iff]; exact ⟨hloud, hshort, hfew⟩⟩)
    obtain hself | htake := hrecent hasBuffer maxLen rfl hvad hspeaks
    · rw [hquiet] at hself
      cases hself
    · exact Nat.not_lt.mpr hlong ((FrameCall.loud_mem_take_iff _ _).mp htake).2
  · rintro hcounts hasBuffer maxLen rfl hvad hspeaks
    obtain hself | ⟨hquiet, hle⟩ := (Engine.captureFrame_speaks_iff hvad hasBuffer maxLen).mp hspeaks
    · exact .inl hself
    · rw [hleft, FrameCall.hangover_le_iff] at hle
      obtain ⟨hloud, hshort, hfew⟩ := hle
      refine .inr ((FrameCall.loud_mem_take_iff _ _).mpr ⟨hloud, ?_⟩)
      obtain hlen | hmissing | henough := hcounts hasBuffer maxLen rfl hquiet hloud
      · exact hlen
      · exact absurd hmissing hshort
      · exact absurd hfew (Nat.not_lt.mpr henough)

theorem speechHeld (vadHangoverMs : UInt32) (pre : List EngineEvent) (ev : EngineEvent) :
    SpeechHeld vadHangoverMs pre ev := by
  obtain ⟨-, hleft⟩ := hangoverMsLeft_run vadHangoverMs pre
  simp only [SpeechHeld]
  generalize heard.run (heardInit vadHangoverMs) pre = s at hleft ⊢
  obtain ⟨e, calls⟩ := s
  simp only at hleft ⊢
  rintro hasBuffer maxLen recent earlier rfl rfl hfew hcalls
  have hkind := hcalls _ List.mem_cons_self
  have hvad := FrameCall.frameCall_quiet_vadMode hkind
  refine (Engine.captureFrame_speaks_iff hvad hasBuffer maxLen).mpr (hkind.imp_right fun hquiet => ⟨hquiet, ?_⟩)
  rw [hleft, FrameCall.hangover_le_iff]
  -- what came since the last loud call is a first part of the recent calls
  have hsince := FrameCall.sinceLoud_append recent earlier
  refine ⟨by simp, fun hshort => ?_, ?_⟩
  · obtain hloud | hquiet' := hcalls _ (List.mem_cons_of_mem _ (hsince.subset hshort))
    · cases hloud
    · cases hquiet'
  · exact Nat.lt_of_le_of_lt (Nat.le_trans List.count_le_length hsince.length_le) hfew

/-- The hangover is complete in every run, and bounded in exactly those runs in which it
counts down. -/
theorem hangover_bounded_iff (vadHangoverMs : UInt32) (es : List EngineEvent) :
    Along (SpeechRecent vadHangoverMs) es ∧ Along (SpeechHeld vadHangoverMs) es ↔
      Along (CountsDown vadHangoverMs) es := by
  have hheld : Along (SpeechHeld vadHangoverMs) es := fun pre ev post _ => speechHeld vadHangoverMs pre ev
  rw [and_iff_left hheld]
  simp only [Along, speechRecent_iff]

theorem Engine.dbfs_silence {pcm : List Sample} (h : ∀ x ∈ pcm, x.value = 0) : Engine.dbfs pcm = -90.0 := by
  have hadd : (0.0 : Float) + Float.ofInt (0 : Int16).toInt * Float.ofInt (0 : Int16).toInt = 0.0 := by
    decide +kernel
  have hsum : pcm.foldl (fun acc x => acc + Float.ofInt x.value.toInt * Float.ofInt x.value.toInt) 0.0 = 0.0 := by
    induction pcm with
    | nil => rfl
    | cons x pcm ih =>
      rw [List.foldl_cons, h x List.mem_cons_self, hadd]
      exact ih fun y hy => h y (List.mem_cons_of_mem x hy)
  have hrms : ¬ (0.0 : Float) < Float.sqrt (0.0 / Float.ofNat samplesPerFrame) := by decide +kernel
  simp only [dbfs, hsum, if_neg hrms]
  decide +kernel

/-- A queued frame of silence is at -90 dBFS. -/
theorem Engine.nextLevel_silence {e : Engine} (hlong : samplesPerFrame ≤ e.ring.available)
    (h : ∀ x ∈ e.ring.queued, x.value = 0) : e.nextLevel = -90.0 := by
  refine dbfs_silence fun x hx => ?_
  rw [(RingBuffer.popMany_spec hlong).1] at hx
  exact h x (List.mem_of_mem_take hx)

theorem run_recorded (vadHangoverMs : UInt32) (samples : List Int16) (n : Nat) :
    heard.run (heardInit vadHangoverMs) [.startCapture, .captureCallback (some samples) 1 n] =
      ((Engine.init vadHangoverMs).startCapture.captureCallback (some samples) 1 n, []) := rfl

/-- While muted, calls leave everything as it is and are not counted. -/
theorem run_muted {e : Engine} (hmuted : e.localMuted = true) (calls : List FrameCall) (n : Nat) :
    heard.run (e, calls) (List.replicate n (.captureFrame true 1920)) =
      (e, List.replicate n .uncounted ++ calls) := by
  have hasks : ¬ e.Asks true 1920 := fun hasks => by
    rw [hasks.2.2] at hmuted
    cases hmuted
  have hstep : ∀ calls, heard.next (e, calls) (.captureFrame true 1920) = (e, .uncounted :: calls) := by
    intro calls
    have hcall : e.frameCall true 1920 = .uncounted := if_pos hasks
    have hsame : (e.captureFrame true 1920).1 = e := by
      obtain heq | ⟨heq, -⟩ := Engine.captureFrame_of_not_asks hasks <;> rw [heq]
    exact Prod.ext hsame (congrArg (· :: calls) hcall)
  induction n generalizing calls with
  | zero => rfl
  | succ n ih =>
    rw [List.replicate_succ, run_cons, hstep, ih, List.replicate_succ', List.append_assoc]
    rfl

/-- Capture runs in voice-activity mode, and `n` samples of silence are waiting. -/
structure Engine.Waiting (e : Engine) (n : Nat) : Prop where
  capturing : e.capturing = true
  unmuted : e.localMuted = false
  vadMode : e.vadMode = true
  available : e.ring.available = n
  silent : ∀ x ∈ e.ring.queued, x.value = 0

theorem Engine.Waiting.frameCall {e : Engine} {n : Nat} (h : e.Waiting n) (hframe : samplesPerFrame ≤ n) :
    e.frameCall true 1920 = if e.vadThreshold ≤ -90.0 then .loud else .quiet := by
  have hlong : samplesPerFrame ≤ e.ring.available := h.available ▸ hframe
  have hasks : e.Asks true 1920 := ⟨⟨rfl, by decide⟩, .inl h.capturing, h.unmuted⟩
  rw [Engine.frameCall, if_neg (not_not_intro hasks), if_neg (Nat.not_lt.mpr hlong), if_neg (by simp [h.vadMode]),
    nextLevel_silence hlong h.silent]

theorem Engine.Waiting.captureFrame {e : Engine} {n : Nat} (h : e.Waiting n) (hframe : samplesPerFrame ≤ n) :
    (e.captureFrame true 1920).1.Waiting (n - samplesPerFrame) := by
  have hlong : samplesPerFrame ≤ e.ring.available := h.available ▸ hframe
  have hasks : e.Asks true 1920 := ⟨⟨rfl, by decide⟩, .inl h.capturing, h.unmuted⟩
  rw [captureFrame_of_asks hasks, if_neg (Nat.not_lt.mpr hlong)]
  refine ⟨h.capturing, h.unmuted, h.vadMode, ?_, fun x hx => h.silent x ?_⟩
  · rw [process_ring, RingBuffer.available_popMany hlong, h.available]
  · rw [process_ring, (RingBuffer.popMany_spec hlong).2] at hx
    exact List.mem_of_mem_drop hx

/-- Silence is recorded from the start. -/
theorem Engine.waiting_recorded (vadHangoverMs : UInt32) {n : Nat} (hpos : n ≠ 0) (hroom : n < ringBufferSize) :
    ((Engine.init vadHangoverMs).startCapture.captureCallback (some (List.replicate n 0)) 1 n).Waiting n := by
  rw [captureCallback_eq rfl _ _ hpos]
  let samples := (Engine.init vadHangoverMs).startCapture.delivered (List.replicate n 0) 1 n
  have hlen : samples.length = n := by simp [samples, delivered]
  have hqueued : ((Engine.init vadHangoverMs).ring.pushAll samples).queued = samples :=
    Engine.queued_init_pushAll vadHangoverMs samples (hlen ▸ hroom)
  refine ⟨rfl, rfl, rfl, ?_, fun x hx => ?_⟩
  · rw [← RingBuffer.length_queued]
    exact (congrArg List.length hqueued).trans hlen
  · obtain ⟨i, -, rfl⟩ := List.mem_map.mp (hqueued ▸ hx : x ∈ samples)
    simp only [mixDown, Nat.le_refl, if_true, List.getD_eq_getElem?_getD, List.getElem?_replicate]
    split <;> rfl

/-- Two frames of silence are recorded. The first is processed while the threshold is
below it; then the threshold is raised, and there is a mute of ten calls. -/
def loudBeforeMute : List EngineEvent :=
  [.startCapture, .captureCallback (some (List.replicate 1920 0)) 1 1920, .setVadMode true (-95.0),
    .captureFrame true 1920, .setVadMode true (-45.0), .setLocalMute true]

def afterMute : List EngineEvent :=
  loudBeforeMute ++ (List.replicate 10 (.captureFrame true 1920) ++ [.setLocalMute false])

/-- After the mute a frame of silence is waiting, and the last call that counted was loud. -/
theorem run_afterMute :
    ∃ e, heard.run (heardInit 200) afterMute = (e, List.replicate 10 .uncounted ++ [.loud]) ∧
    e.frameCall true 1920 = .quiet := by
  have hrecorded := Engine.waiting_recorded 200 (n := 1920) (by decide) (by decide)
  obtain ⟨e₀, hstart⟩ : ∃ e₀,
      (Engine.init 200).startCapture.captureCallback (some (List.replicate 1920 0)) 1 1920 = e₀ := ⟨_, rfl⟩
  rw [hstart] at hrecorded
  have hlow : (e₀.setVadMode true (-95.0)).Waiting 1920 :=
    ⟨hrecorded.capturing, hrecorded.unmuted, rfl, hrecorded.available, hrecorded.silent⟩
  have hloud : (e₀.setVadMode true (-95.0)).frameCall true 1920 = .loud := by
    have hbelow : (-95.0 : Float32) ≤ -90.0 := by decide +kernel
    rw [hlow.frameCall (by decide)]
    exact if_pos hbelow
  have hframe := hlow.captureFrame (by decide)
  obtain ⟨e₁, hafter⟩ : ∃ e₁, ((e₀.setVadMode true (-95.0)).captureFrame true 1920).1 = e₁ := ⟨_, rfl⟩
  rw [hafter] at hframe
  have hbefore : heard.run (heardInit 200) loudBeforeMute =
      ((e₁.setVadMode true (-45.0)).setLocalMute true, [.loud]) := by
    have hcall : heard.next (e₀.setVadMode true (-95.0), []) (.captureFrame true 1920) = (e₁, [.loud]) :=
      Prod.ext hafter (congrArg (· :: []) hloud)
    have hsplit : loudBeforeMute = [.startCapture, .captureCallback (some (List.replicate 1920 0)) 1 1920] ++
        [.setVadMode true (-95.0), .captureFrame true 1920, .setVadMode true (-45.0), .setLocalMute true] := rfl
    have hvad : heard.next (e₀, []) (.setVadMode true (-95.0)) = (e₀.setVadMode true (-95.0), []) := rfl
    rw [hsplit, run_append, run_recorded, hstart, run_cons, run_cons, hvad, hcall]
    rfl
  refine ⟨((e₁.setVadMode true (-45.0)).setLocalMute true).setLocalMute false, ?_, ?_⟩
  · rw [afterMute, run_append, run_append, hbefore, run_muted rfl]
    rfl
  · have hhigh : (((e₁.setVadMode true (-45.0)).setLocalMute true).setLocalMute false).Waiting
        (1920 - samplesPerFrame) :=
      ⟨hframe.capturing, rfl, rfl, hframe.available, hframe.silent⟩
    have habove : ¬ (-45.0 : Float32) ≤ -90.0 := by decide +kernel
    rw [hhigh.frameCall (by decide)]
    exact if_neg habove

/-- The frame after the mute is reported as speech. -/
theorem hangover_outlasted : ¬ ∀ vadHangoverMs es,
    Along (SpeechRecent vadHangoverMs) es ∧ Along (SpeechHeld vadHangoverMs) es := by
  intro hall
  have hrecent : SpeechRecent 200 afterMute (.captureFrame true 1920) :=
    (hall 200 (afterMute ++ [.captureFrame true 1920])).1 afterMute _ [] rfl
  obtain ⟨e, hrun, hquiet⟩ := run_afterMute
  rw [speechRecent_iff, CountsDown, hrun] at hrecent
  simp only at hrecent
  have hcounts := hrecent true 1920 rfl hquiet (by decide)
  exact absurd hcounts (by decide)

end low_latency_voice.client
