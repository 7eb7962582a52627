import LowLatencyVoice.Lib.Machine
import LowLatencyVoice.Client.Devices
import LowLatencyVoice.Client.UserVolumes

namespace low_latency_voice.client

variable {δ : Type}

/-- What the operating system does when a device is to be opened: whether it gives a
context, the devices it lists, and whether one can be initialised and started. -/
structure Opening (δ : Type) where
  contextInit : Bool
  infos : Option (List (MaDeviceInfo δ))
  deviceInit : Bool
  deviceStart : Bool

/-- The device an id stands for; `none` is the system's default, which is taken too
when there is no list. -/
def targetDevice (kind : DeviceKind) (deviceId : CString) (infos : Option (List (MaDeviceInfo δ))) : Option δ :=
  infos.bind (findDeviceId kind deviceId)

/-- The globals of one kind of device: the id that was chosen, and the device while one
runs. `opened` is auxiliary: the devices the last attempt to open one has seen, if it
succeeded. -/
structure DeviceState (δ : Type) where
  deviceId : CString
  device : Option (Option δ)
  opened : Option (Option (List (MaDeviceInfo δ)))

/-- The attempt to open a device, in a context or without one. -/
def DeviceState.attempt (kind : DeviceKind) (context : Bool) (x : Opening δ) (d : DeviceState δ) : DeviceState δ :=
  if context && x.deviceInit && x.deviceStart then
    { d with device := some (targetDevice kind d.deviceId x.infos), opened := some x.infos }
  else { d with opened := none }

/-- `g_capturing` and `g_playing`. -/
def AudioEngine.active (a : AudioEngine) : DeviceKind → Bool
  | .input => a.native.capture.capturing
  | .output => a.native.playing

/-- The audio of the client with the devices under it; `isTestingMic` is that of the
settings. -/
structure Hardware (δ : Type) where
  audioEngine : AudioEngine
  contextInitialized : Bool
  devices : DeviceKind → DeviceState δ
  isTestingMic : Bool

namespace Hardware

/-- The engine loaded and initialised. -/
def new (vadHangoverMs : UInt32) (contextInit : Bool) : Hardware δ where
  audioEngine := .start vadHangoverMs
  contextInitialized := contextInit
  devices kind := ⟨kind.defaultId, none, none⟩
  isTestingMic := false

def withEngine (s : Hardware δ) (f : AudioEngine → AudioEngine) : Hardware δ :=
  { s with audioEngine := f s.audioEngine }

/-- `start_hardware_capture` and `start_hardware_playback`. -/
def startHardware (kind : DeviceKind) (x : Opening δ) (s : Hardware δ) : Hardware δ :=
  if (s.devices kind).device.isSome then s
  else
    let context := s.contextInitialized || x.contextInit
    { s with
      contextInitialized := context
      devices := Function.update s.devices kind ((s.devices kind).attempt kind context x) }

/-- `stop_hardware_capture` and `stop_hardware_playback`. -/
def stopHardware (kind : DeviceKind) (s : Hardware δ) : Hardware δ :=
  { s with devices := Function.update s.devices kind { s.devices kind with device := none } }

def startCapture (x : Opening δ) (s : Hardware δ) : Hardware δ :=
  (s.withEngine AudioEngine.startCapture).startHardware .input x

def stopCapture (s : Hardware δ) : Hardware δ := (s.withEngine AudioEngine.stopCapture).stopHardware .input

def startPlayback (x : Opening δ) (s : Hardware δ) : Hardware δ :=
  (s.withEngine AudioEngine.startPlayback).startHardware .output x

def stopPlayback (s : Hardware δ) : Hardware δ := (s.withEngine AudioEngine.stopPlayback).stopHardware .output

def clearPeers (s : Hardware δ) : Hardware δ := s.withEngine AudioEngine.clearPeers

/-- `startMicTest` of the engine service. The loopback starts what is not active, with
`test`, and the service then starts both again, with `again`. -/
def startEngineTest (test again : DeviceKind → Opening δ) (s : Hardware δ) : Hardware δ :=
  let tested := s.withEngine AudioEngine.startMicTest
  let captured := if s.audioEngine.active .input then tested else tested.startHardware .input (test .input)
  let played := if s.audioEngine.active .output then captured else captured.startHardware .output (test .output)
  (played.startHardware .input (again .input)).startHardware .output (again .output)

/-- `stopMicTest` of the engine service: what a voice connection uses goes on. -/
def stopEngineTest (s : Hardware δ) : Hardware δ :=
  let stopped := s.withEngine AudioEngine.stopMicTest
  let captured := if s.audioEngine.isCapturing then stopped else stopped.stopHardware .input
  if s.audioEngine.isPlaybackActive then captured else captured.stopHardware .output

/-- `startMicTest` of the settings. -/
def startMicTest (test again : DeviceKind → Opening δ) (s : Hardware δ) : Hardware δ :=
  if s.isTestingMic then s else { s with isTestingMic := true }.startEngineTest test again

/-- `stopMicTest` of the settings. -/
def stopMicTest (s : Hardware δ) : Hardware δ := { s.stopEngineTest with isTestingMic := false }

/-- The id of a device is stored. -/
def choose (kind : DeviceKind) (deviceId : String) (s : Hardware δ) : Hardware δ :=
  let device := { s.devices kind with deviceId := AudioEngineService.setDevice deviceId }
  { s with devices := Function.update s.devices kind device }

/-- `setInputDevice` and `setOutputDevice`: what is active is opened anew. -/
def setDevice (kind : DeviceKind) (deviceId : String) (x : Opening δ) (s : Hardware δ) : Hardware δ :=
  let chosen := s.choose kind deviceId
  if s.audioEngine.active kind then (chosen.stopHardware kind).startHardware kind x else chosen

/-- `refreshDevices`: both lists are read, each in a context. -/
def refreshDevices (contextInit : DeviceKind → Bool) (s : Hardware δ) : Hardware δ :=
  { s with contextInitialized := s.contextInitialized || contextInit .input || contextInit .output }

/-- `joinVoice` up to the request. -/
def joinVoice (s : Hardware δ) : Hardware δ := s.stopMicTest.stopEngineTest.clearPeers

/-- `joinVoice` behind `_voiceClient.connect`. -/
def joined (capture playback : Opening δ) (s : Hardware δ) : Hardware δ :=
  (s.startCapture capture).startPlayback playback

/-- `disconnect` behind `_voiceClient.disconnect`. -/
def release (s : Hardware δ) : Hardware δ := s.stopCapture.stopPlayback.clearPeers

/-- `destroy` of the engine service. -/
def destroy (s : Hardware δ) : Hardware δ :=
  let closed := s.stopEngineTest.stopCapture.stopPlayback
  { closed with audioEngine := closed.audioEngine.call .destroy, contextInitialized := false }

end Hardware

/-- What the notifiers do to the devices, with the openings that may come of it. -/
inductive DeviceCall (δ : Type) where
  | joinVoice
  | joined (capture playback : Opening δ)
  | release
  | startMicTest (test again : DeviceKind → Opening δ)
  | stopMicTest
  | setDevice (kind : DeviceKind) (deviceId : String) (x : Opening δ)
  | refreshDevices (contextInit : DeviceKind → Bool)
  | destroy

namespace Hardware

def perform (s : Hardware δ) : DeviceCall δ → Hardware δ
  | .joinVoice => s.joinVoice
  | .joined capture playback => s.joined capture playback
  | .release => s.release
  | .startMicTest test again => s.startMicTest test again
  | .stopMicTest => s.stopMicTest
  | .setDevice kind deviceId x => s.setDevice kind deviceId x
  | .refreshDevices contextInit => s.refreshDevices contextInit
  | .destroy => s.destroy

end Hardware

/-- The devices under these calls. -/
def hardware (δ : Type) : Machine (Hardware δ) (DeviceCall δ) Unit where
  step s c := (s.perform c, ())

/-! What the user has asked for, read off the calls. -/

namespace DeviceCall

def Joins : DeviceCall δ → Prop
  | .joined _ _ => True
  | _ => False

def Releases : DeviceCall δ → Prop
  | .release | .destroy => True
  | _ => False

def StartsTest : DeviceCall δ → Prop
  | .startMicTest _ _ => True
  | _ => False

def EndsTest : DeviceCall δ → Prop
  | .joinVoice | .stopMicTest => True
  | _ => False

/-- The client is in a voice channel. -/
def InVoice (cs : List (DeviceCall δ)) : Prop := Machine.Since (fun _ c => c.Joins) Releases cs

/-- The settings show a microphone test. -/
def Testing (cs : List (DeviceCall δ)) : Prop := Machine.Since (fun _ c => c.StartsTest) EndsTest cs

/-- A microphone test goes on. Leaving the channel ends it too, though the settings still
show it and do not start another. -/
def MicTest (cs : List (DeviceCall δ)) : Prop :=
  Machine.HistorySince (fun pre c => c.StartsTest ∧ ¬ Testing pre) (fun _ c => c.EndsTest ∨ c.Releases) cs

/-- The id of the device that was chosen last. -/
def chosen (kind : DeviceKind) (cs : List (DeviceCall δ)) : CString :=
  cs.foldl (fun id c =>
    match c with
    | .setDevice kind' deviceId _ => if kind' = kind then AudioEngineService.setDevice deviceId else id
    | _ => id) kind.defaultId

end DeviceCall

namespace DeviceState

/-- A device runs if the last attempt to open one succeeded. -/
def Running (kind : DeviceKind) (d : DeviceState δ) : Prop :=
  d.device = d.opened.map (targetDevice kind d.deviceId)

/-- No device runs but the one last opened. -/
def Steady (kind : DeviceKind) (d : DeviceState δ) : Prop := d.device = none ∨ d.Running kind

theorem running_attempt (kind : DeviceKind) (context : Bool) (x : Opening δ) {d : DeviceState δ}
    (h : d.device = none) : (d.attempt kind context x).Running kind := by
  unfold attempt
  split
  · rfl
  · exact h

end DeviceState

/-- The flags of the service for a voice connection. -/
def AudioEngine.inUse (a : AudioEngine) : DeviceKind → Bool
  | .input => a.isCapturing
  | .output => a.isPlaybackActive

namespace AudioEngine

variable (a : AudioEngine) (kind : DeviceKind)

theorem active_stopMicTest : a.stopMicTest.active kind = (a.inUse kind && a.active kind) := by
  obtain ⟨native, isCapturing, isPlaybackActive, isTestingMic⟩ := a
  cases isCapturing <;> cases isPlaybackActive <;> cases kind <;> rfl

theorem inUse_stopMicTest : a.stopMicTest.inUse kind = a.inUse kind := by
  obtain ⟨native, isCapturing, isPlaybackActive, isTestingMic⟩ := a
  cases isCapturing <;> cases isPlaybackActive <;> cases kind <;> rfl

theorem active_startMicTest : a.startMicTest.active kind = true := by cases kind <;> rfl

theorem inUse_startMicTest : a.startMicTest.inUse kind = a.inUse kind := by cases kind <;> rfl

theorem active_start : a.startCapture.startPlayback.active kind = true := by cases kind <;> rfl

theorem inUse_start : a.startCapture.startPlayback.inUse kind = true := by cases kind <;> rfl

theorem active_stop : a.stopCapture.stopPlayback.active kind = false := by cases kind <;> rfl

theorem inUse_stop : a.stopCapture.stopPlayback.inUse kind = false := by cases kind <;> rfl

theorem active_clearPeers : a.clearPeers.active kind = a.active kind := by cases kind <;> rfl

theorem inUse_clearPeers : a.clearPeers.inUse kind = a.inUse kind := by cases kind <;> rfl

end AudioEngine

namespace Hardware

variable {kind k : DeviceKind} {x : Opening δ} {s : Hardware δ}

@[simp] theorem startHardware_audioEngine : (s.startHardware kind x).audioEngine = s.audioEngine := by
  unfold startHardware
  split <;> rfl

@[simp] theorem startHardware_isTestingMic : (s.startHardware kind x).isTestingMic = s.isTestingMic := by
  unfold startHardware
  split <;> rfl

/-- Starting a device leaves the other kind alone. -/
theorem startHardware_of_ne (h : k ≠ kind) : (s.startHardware kind x).devices k = s.devices k := by
  unfold startHardware
  split
  · rfl
  · exact Function.update_of_ne h _ _

@[simp] theorem startHardware_deviceId :
    ((s.startHardware kind x).devices k).deviceId = (s.devices k).deviceId := by
  unfold startHardware
  split
  · rfl
  · by_cases h : k = kind
    · subst h
      simp only [Function.update_self, DeviceState.attempt]
      split <;> rfl
    · simp [Function.update_of_ne h]

theorem running_startHardware (h : (s.devices kind).Steady kind) :
    ((s.startHardware kind x).devices kind).Running kind := by
  unfold startHardware
  split
  · rename_i hopen
    refine h.resolve_left fun hnone => ?_
    simp [hnone] at hopen
  · rename_i hclosed
    simp only [Function.update_self]
    exact DeviceState.running_attempt kind _ x (Option.not_isSome_iff_eq_none.mp hclosed)

theorem steady_startHardware (h : (s.devices k).Steady k) : ((s.startHardware kind x).devices k).Steady k := by
  by_cases hk : k = kind
  · subst hk
    exact .inr (running_startHardware h)
  · rw [startHardware_of_ne hk]
    exact h

theorem stopHardware_devices : (s.stopHardware kind).devices k =
    if k = kind then { s.devices k with device := none } else s.devices k := by
  unfold stopHardware
  by_cases h : k = kind
  · subst h
    simp
  · simp [h]

theorem choose_of_ne {deviceId : String} (h : k ≠ kind) : (s.choose kind deviceId).devices k = s.devices k :=
  Function.update_of_ne h _ _

@[simp] theorem choose_device {deviceId : String} :
    ((s.choose kind deviceId).devices k).device = (s.devices k).device := by
  by_cases h : k = kind
  · subst h
    simp [choose]
  · rw [choose_of_ne h]

/-- Ending a test closes what no voice connection uses. -/
theorem stopEngineTest_devices : s.stopEngineTest.devices k =
    if s.audioEngine.inUse k then s.devices k else { s.devices k with device := none } := by
  unfold stopEngineTest
  cases hcapturing : s.audioEngine.isCapturing <;> cases hplaying : s.audioEngine.isPlaybackActive <;> cases k <;>
    simp [stopHardware_devices, AudioEngine.inUse, hcapturing, hplaying, withEngine]

@[simp] theorem stopEngineTest_audioEngine : s.stopEngineTest.audioEngine = s.audioEngine.stopMicTest := by
  unfold stopEngineTest
  simp only
  split <;> split <;> rfl

@[simp] theorem stopEngineTest_isTestingMic : s.stopEngineTest.isTestingMic = s.isTestingMic := by
  unfold stopEngineTest
  simp only
  split <;> split <;> rfl

variable (voice test testing : Prop)

/-- The flags are what was asked for, and a device runs as far as it could be opened. -/
structure Settled (s : Hardware δ) : Prop where
  inUse : ∀ k, s.audioEngine.inUse k = true ↔ voice
  active : ∀ k, s.audioEngine.active k = true ↔ voice ∨ test
  testing : s.isTestingMic = true ↔ testing
  running : ∀ k, s.audioEngine.active k = true → (s.devices k).Running k
  closed : ∀ k, s.audioEngine.active k = false → (s.devices k).device = none

variable {voice test testing}

theorem Settled.steady (h : s.Settled voice test testing) (k : DeviceKind) : (s.devices k).Steady k := by
  cases hactive : s.audioEngine.active k with
  | true => exact .inr (h.running k hactive)
  | false => exact .inl (h.closed k hactive)

theorem settled_new (vadHangoverMs : UInt32) (contextInit : Bool) :
    (new vadHangoverMs contextInit : Hardware δ).Settled False False False where
  inUse k := by cases k <;> simp [new, AudioEngine.inUse, AudioEngine.start]
  active k := by
    cases k <;> simp [new, AudioEngine.active, AudioEngine.start, VoiceEngine.init, VoiceEngine.load, Engine.init,
      VoiceEngine.clearSlots, VoiceEngine.withPeers]
  testing := by simp [new]
  running k _ := rfl
  closed k _ := rfl

/-- Ending a test leaves what the voice connection uses. -/
theorem Settled.stopEngineTest (h : s.Settled voice test testing) :
    s.stopEngineTest.Settled voice False testing where
  inUse k := by rw [stopEngineTest_audioEngine, AudioEngine.inUse_stopMicTest, h.inUse k]
  active k := by
    rw [stopEngineTest_audioEngine, AudioEngine.active_stopMicTest, Bool.and_eq_true, h.inUse k, h.active k]
    tauto
  testing := by rw [stopEngineTest_isTestingMic, h.testing]
  running k hactive := by
    rw [stopEngineTest_audioEngine, AudioEngine.active_stopMicTest, Bool.and_eq_true] at hactive
    rw [stopEngineTest_devices, if_pos hactive.1]
    exact h.running k hactive.2
  closed k hactive := by
    rw [stopEngineTest_audioEngine, AudioEngine.active_stopMicTest] at hactive
    rw [stopEngineTest_devices]
    split
    · rename_i hused
      rw [hused, Bool.true_and] at hactive
      exact h.closed k hactive
    · rfl

theorem Settled.stopMicTest (h : s.Settled voice test testing) : s.stopMicTest.Settled voice False False where
  inUse := h.stopEngineTest.inUse
  active := h.stopEngineTest.active
  testing := by simp [Hardware.stopMicTest]
  running := h.stopEngineTest.running
  closed := h.stopEngineTest.closed

theorem Settled.clearPeers (h : s.Settled voice test testing) : s.clearPeers.Settled voice test testing where
  inUse k := by rw [← h.inUse k, ← AudioEngine.inUse_clearPeers]; rfl
  active k := by rw [← h.active k, ← AudioEngine.active_clearPeers]; rfl
  testing := h.testing
  running k hactive := h.running k (by rwa [← AudioEngine.active_clearPeers])
  closed k hactive := h.closed k (by rwa [← AudioEngine.active_clearPeers])

/-- What is asked of both kinds after a start is that each has been tried. -/
theorem settled_of_running (hinUse : ∀ k, s.audioEngine.inUse k = true ↔ voice)
    (hactive : ∀ k, s.audioEngine.active k = true) (htest : voice ∨ test) (htesting : s.isTestingMic = true ↔ testing)
    (hrunning : ∀ k, (s.devices k).Running k) : s.Settled voice test testing where
  inUse := hinUse
  active k := iff_of_true (hactive k) htest
  testing := htesting
  running k _ := hrunning k
  closed k hnot := absurd ((hactive k).symm.trans hnot) (by decide)

/-- After a stop no device runs. -/
theorem settled_of_closed (hinUse : ∀ k, s.audioEngine.inUse k = false)
    (hactive : ∀ k, s.audioEngine.active k = false) (htesting : s.isTestingMic = true ↔ testing)
    (hclosed : ∀ k, (s.devices k).device = none) : s.Settled False False testing where
  inUse k := by simp [hinUse k]
  active k := by simp [hactive k]
  testing := htesting
  running k hyes := absurd ((hactive k).symm.trans hyes) (by decide)
  closed k _ := hclosed k

/-- Two attempts, one for each kind, leave each as it could be opened. -/
theorem running_startBoth {capture playback : Opening δ} (h : ∀ k, (s.devices k).Steady k) (k : DeviceKind) :
    (((s.startHardware .input capture).startHardware .output playback).devices k).Running k := by
  cases k with
  | input =>
    rw [startHardware_of_ne (by decide)]
    exact running_startHardware (h .input)
  | output => exact running_startHardware (steady_startHardware (h .output))

theorem withEngine_startHardware (f : AudioEngine → AudioEngine) :
    (s.startHardware kind x).withEngine f = (s.withEngine f).startHardware kind x := by
  unfold startHardware
  split <;> simp_all [withEngine]

theorem Settled.joined (h : s.Settled voice test testing) (capture playback : Opening δ) :
    (s.joined capture playback).Settled True test testing := by
  unfold Hardware.joined startPlayback startCapture
  rw [withEngine_startHardware]
  refine settled_of_running (fun k => ?_) (fun k => ?_) (.inl trivial) ?_ (running_startBoth h.steady)
  · rw [startHardware_audioEngine, startHardware_audioEngine]
    exact iff_of_true (AudioEngine.inUse_start _ k) trivial
  · rw [startHardware_audioEngine, startHardware_audioEngine]
    exact AudioEngine.active_start _ k
  · rw [startHardware_isTestingMic, startHardware_isTestingMic]
    exact h.testing

theorem stopBoth_devices : ((s.stopCapture.stopPlayback).devices k).device = none := by
  cases k <;> simp [Hardware.stopCapture, Hardware.stopPlayback, stopHardware_devices, withEngine]

theorem Settled.release (h : s.Settled voice test testing) : s.release.Settled False False testing := by
  refine settled_of_closed (fun k => ?_) (fun k => ?_) h.testing (fun k => stopBoth_devices)
  · exact (AudioEngine.inUse_clearPeers _ k).trans (AudioEngine.inUse_stop s.audioEngine k)
  · exact (AudioEngine.active_clearPeers _ k).trans (AudioEngine.active_stop s.audioEngine k)

/-- An attempt that is made only for a kind that is not active. -/
theorem unless_startHardware (kind : DeviceKind) (x : Opening δ) (b : Bool) (h : ∀ k, (s.devices k).Steady k) :
    (if b then s else s.startHardware kind x).audioEngine = s.audioEngine ∧
      (if b then s else s.startHardware kind x).isTestingMic = s.isTestingMic ∧
      ∀ k, ((if b then s else s.startHardware kind x).devices k).Steady k := by
  cases b with
  | true => exact ⟨rfl, rfl, h⟩
  | false => exact ⟨startHardware_audioEngine, startHardware_isTestingMic, fun k => steady_startHardware (h k)⟩

theorem Settled.startMicTest (h : s.Settled voice test testing) (test' again : DeviceKind → Opening δ)
    (hnot : s.isTestingMic = false) : (s.startMicTest test' again).Settled voice True True := by
  unfold Hardware.startMicTest startEngineTest
  rw [if_neg (by simp [hnot])]
  obtain ⟨hengine, htesting, hsteady⟩ := unless_startHardware .input (test' .input) (s.audioEngine.active .input)
    (s := { s with isTestingMic := true }.withEngine AudioEngine.startMicTest) h.steady
  obtain ⟨hengine', htesting', hsteady'⟩ := unless_startHardware .output (test' .output)
    (s.audioEngine.active .output) hsteady
  refine settled_of_running (fun k => ?_) (fun k => ?_) (.inr trivial) ?_ (running_startBoth hsteady')
  · rw [startHardware_audioEngine, startHardware_audioEngine, hengine', hengine, ← h.inUse k]
    exact iff_of_eq (congrArg (· = true) (AudioEngine.inUse_startMicTest _ k))
  · rw [startHardware_audioEngine, startHardware_audioEngine, hengine', hengine]
    exact AudioEngine.active_startMicTest _ k
  · rw [startHardware_isTestingMic, startHardware_isTestingMic, htesting', htesting]
    exact iff_of_true rfl trivial

/-- Another device is opened only in the place of one that is in use. -/
theorem Settled.setDevice (h : s.Settled voice test testing) (kind : DeviceKind) (deviceId : String) (x : Opening δ) :
    (s.setDevice kind deviceId x).Settled voice test testing := by
  unfold Hardware.setDevice
  cases hactive : s.audioEngine.active kind with
  | true =>
    simp only [if_true]
    refine ⟨fun k => ?_, fun k => ?_, ?_, fun k hk => ?_, fun k hk => ?_⟩
    · rw [startHardware_audioEngine]
      exact h.inUse k
    · rw [startHardware_audioEngine]
      exact h.active k
    · rw [startHardware_isTestingMic]
      exact h.testing
    · by_cases hkind : k = kind
      · subst hkind
        refine running_startHardware (.inl ?_)
        rw [stopHardware_devices, if_pos rfl]
      · rw [startHardware_of_ne hkind, stopHardware_devices, if_neg hkind, choose_of_ne hkind]
        rw [startHardware_audioEngine] at hk
        exact h.running k hk
    · rw [startHardware_audioEngine] at hk
      have hkind : k ≠ kind := by
        rintro rfl
        exact absurd (hactive.symm.trans hk) (by decide)
      rw [startHardware_of_ne hkind, stopHardware_devices, if_neg hkind, choose_of_ne hkind]
      exact h.closed k hk
  | false =>
    simp only [Bool.false_eq_true, if_false]
    refine ⟨h.inUse, h.active, h.testing, fun k hk => ?_, fun k hk => ?_⟩
    · have hkind : k ≠ kind := by
        rintro rfl
        exact absurd (hactive.symm.trans hk) (by decide)
      rw [choose_of_ne hkind]
      exact h.running k hk
    · rw [choose_device]
      exact h.closed k hk

theorem Settled.destroy (h : s.Settled voice test testing) : s.destroy.Settled False False testing := by
  have hstopped := h.stopEngineTest
  refine settled_of_closed (fun k => ?_) (fun k => ?_) ?_ (fun k => ?_)
  · cases k <;> rfl
  · cases k <;> rfl
  · exact hstopped.testing
  · exact stopBoth_devices

theorem stopHardware_deviceId : ((s.stopHardware kind).devices k).deviceId = (s.devices k).deviceId := by
  rw [stopHardware_devices]
  split <;> rfl

theorem stopEngineTest_deviceId : (s.stopEngineTest.devices k).deviceId = (s.devices k).deviceId := by
  rw [stopEngineTest_devices]
  split <;> rfl

theorem stopBoth_deviceId : ((s.stopCapture.stopPlayback).devices k).deviceId = (s.devices k).deviceId :=
  stopHardware_deviceId.trans stopHardware_deviceId

theorem startEngineTest_deviceId {test again : DeviceKind → Opening δ} :
    ((s.startEngineTest test again).devices k).deviceId = (s.devices k).deviceId := by
  unfold startEngineTest
  rw [startHardware_deviceId, startHardware_deviceId]
  split
  · split
    · rfl
    · exact startHardware_deviceId
  · rw [startHardware_deviceId]
    split
    · rfl
    · exact startHardware_deviceId

/-- Only a choice changes the id. -/
theorem perform_deviceId (c : DeviceCall δ) : ((s.perform c).devices k).deviceId =
    match c with
    | .setDevice kind deviceId _ => if kind = k then AudioEngineService.setDevice deviceId else (s.devices k).deviceId
    | _ => (s.devices k).deviceId := by
  cases c with
  | joinVoice => exact stopEngineTest_deviceId.trans stopEngineTest_deviceId
  | joined capture playback => exact startHardware_deviceId.trans startHardware_deviceId
  | release => exact stopBoth_deviceId
  | startMicTest test again =>
    simp only [perform, Hardware.startMicTest]
    split
    · rfl
    · exact startEngineTest_deviceId
  | stopMicTest => exact stopEngineTest_deviceId
  | setDevice kind deviceId x =>
    have hchosen : ((s.choose kind deviceId).devices k).deviceId =
        if kind = k then AudioEngineService.setDevice deviceId else (s.devices k).deviceId := by
      by_cases h : kind = k
      · subst h
        simp [choose]
      · rw [choose_of_ne (Ne.symm h), if_neg h]
    simp only [perform, Hardware.setDevice]
    split
    · rw [startHardware_deviceId, stopHardware_deviceId, hchosen]
    · exact hchosen
  | refreshDevices contextInit => rfl
  | destroy => exact stopBoth_deviceId.trans stopEngineTest_deviceId

open DeviceCall

/-- Each call does to the flags and the devices what it asks for. -/
theorem Settled.perform {cs : List (DeviceCall δ)} (h : s.Settled (InVoice cs) (MicTest cs) (Testing cs))
    (c : DeviceCall δ) :
    (s.perform c).Settled (InVoice (cs ++ [c])) (MicTest (cs ++ [c])) (Testing (cs ++ [c])) := by
  rw [InVoice, MicTest, Testing, Machine.since_concat_iff, Machine.since_concat_iff, Machine.historySince_concat_iff]
  change (s.perform c).Settled (c.Joins ∨ InVoice cs ∧ ¬ c.Releases)
    (c.StartsTest ∧ ¬ Testing cs ∨ MicTest cs ∧ ¬ (c.EndsTest ∨ c.Releases))
    (c.StartsTest ∨ Testing cs ∧ ¬ c.EndsTest)
  cases c with
  | joinVoice => simpa [Hardware.perform, Hardware.joinVoice, Joins, Releases, StartsTest, EndsTest] using
      h.stopMicTest.stopEngineTest.clearPeers
  | joined capture playback =>
    simpa [Hardware.perform, Joins, Releases, StartsTest, EndsTest] using h.joined capture playback
  | release => simpa [Hardware.perform, Joins, Releases, StartsTest, EndsTest] using h.release
  | startMicTest test again =>
    cases htesting : s.isTestingMic with
    | true =>
      have hshown := h.testing.mp htesting
      simpa [Hardware.perform, Hardware.startMicTest, htesting, Joins, Releases, StartsTest, EndsTest, hshown] using h
    | false =>
      have hnot : ¬ Testing cs := fun hshown => absurd (h.testing.mpr hshown) (by simp [htesting])
      simpa [Hardware.perform, Joins, Releases, StartsTest, EndsTest, hnot] using h.startMicTest test again htesting
  | stopMicTest => simpa [Hardware.perform, Joins, Releases, StartsTest, EndsTest] using h.stopMicTest
  | setDevice kind deviceId x =>
    simpa [Hardware.perform, Joins, Releases, StartsTest, EndsTest] using h.setDevice kind deviceId x
  | refreshDevices contextInit =>
    have hrefreshed : (s.refreshDevices contextInit).Settled (InVoice cs) (MicTest cs) (Testing cs) :=
      ⟨h.inUse, h.active, h.testing, h.running, h.closed⟩
    simpa [Hardware.perform, Joins, Releases, StartsTest, EndsTest] using hrefreshed
  | destroy => simpa [Hardware.perform, Joins, Releases, StartsTest, EndsTest] using h.destroy

variable (vadHangoverMs : UInt32) (contextInit : Bool)

/-- The client's audio after some calls. -/
def after (cs : List (DeviceCall δ)) : Hardware δ := (hardware δ).run (new vadHangoverMs contextInit) cs

theorem settled_after (cs : List (DeviceCall δ)) :
    (after vadHangoverMs contextInit cs).Settled (InVoice cs) (MicTest cs) (Testing cs) := by
  induction cs using List.reverseRecOn with
  | nil =>
    have hvoice : ¬ InVoice ([] : List (DeviceCall δ)) := Machine.not_since_nil
    have htest : ¬ MicTest ([] : List (DeviceCall δ)) := Machine.not_historySince_nil
    have htesting : ¬ Testing ([] : List (DeviceCall δ)) := Machine.not_since_nil
    change (new vadHangoverMs contextInit).Settled _ _ _
    simpa [hvoice, htest, htesting] using settled_new vadHangoverMs contextInit
  | append_singleton cs c ih =>
    rw [after, Machine.run_concat]
    exact ih.perform c

theorem deviceId_after (cs : List (DeviceCall δ)) (kind : DeviceKind) :
    ((after vadHangoverMs contextInit cs).devices kind).deviceId = chosen kind cs := by
  induction cs using List.reverseRecOn with
  | nil => rfl
  | append_singleton cs c ih =>
    rw [after, Machine.run_concat, chosen, List.foldl_append]
    change (((after vadHangoverMs contextInit cs).perform c).devices kind).deviceId = _
    rw [perform_deviceId]
    cases c <;> simp [ih, chosen]

/-- Whoever chooses an entry of a list of devices gets that device, as long as the system has the
same devices when it is opened. -/
theorem chosen_device_opens (cs : List (DeviceCall δ)) (kind : DeviceKind) (infos : List (MaDeviceInfo δ))
    {devs : List AudioDevice} (hlist : AudioEngineService.getDevices kind (some infos) = some devs) {k : Nat}
    {dev : AudioDevice} (hdev : devs[k]? = some dev) (hchosen : chosen kind cs = AudioEngineService.setDevice dev.id)
    (hopened : ((after vadHangoverMs contextInit cs).devices kind).opened = some (some infos)) {device : Option δ}
    (h : ((after vadHangoverMs contextInit cs).devices kind).device = some device) :
    device = if k = 0 then none else infos[k - 1]?.map MaDeviceInfo.id := by
  have hsettled := settled_after vadHangoverMs contextInit cs
  have hrunning : ((after vadHangoverMs contextInit cs).devices kind).Running kind := by
    refine (hsettled.steady kind).resolve_left fun hnone => ?_
    rw [hnone] at h
    cases h
  rw [DeviceState.Running, h, hopened, deviceId_after, hchosen] at hrunning
  exact (Option.some.inj hrunning).trans (AudioEngineService.findDeviceId_setDevice hlist hdev)

/-- A system with one microphone. -/
def oneMicrophone : List (MaDeviceInfo Nat) := [⟨7, .ofText "USB", false⟩]

/-- An opening that succeeds. -/
def opensFirst : Opening Nat := ⟨true, some oneMicrophone, true, true⟩

theorem chosen_device_opens_usb :
    ((after 200 true [.setDevice .input "dev_in_0" opensFirst, .joined opensFirst opensFirst]).devices .input).device =
      some (some 7) := by
  have hopen : ((after 200 true [.setDevice .input "dev_in_0" opensFirst,
      .joined opensFirst opensFirst]).devices .input).device.isSome = true := by decide +kernel
  have hlist : AudioEngineService.getDevices .input (some oneMicrophone) =
      some [⟨"default_input", "Default System Microphone", true, true⟩, ⟨"dev_in_0", "USB", true, false⟩] := by
    decide +kernel
  obtain ⟨device, hdevice⟩ := Option.isSome_iff_exists.mp hopen
  rw [hdevice, chosen_device_opens 200 true _ .input oneMicrophone hlist (k := 1) rfl (by decide +kernel) rfl hdevice]
  rfl

end Hardware

end low_latency_voice.client
