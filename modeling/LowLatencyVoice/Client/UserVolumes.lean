import Mathlib.Tactic.SplitIfs
import LowLatencyVoice.Client.Audibility
import LowLatencyVoice.Client.VoicePipeline

namespace low_latency_voice.client

/-- `double.compareTo` of Dart: the negative zero is less than the other one, and NaN
is greater than every number. -/
def compareTo (x y : Float) : Ordering :=
  if x < y then .lt
  else if y < x then .gt
  else if x == y then (if x == 0.0 then compare y.toBits x.toBits else .eq)
  else if x.isNaN then (if y.isNaN then .eq else .gt)
  else .lt

/-- `double.clamp` of Dart. -/
def clamp (x lowerLimit upperLimit : Float) : Float :=
  if compareTo x lowerLimit = .lt then lowerLimit
  else if compareTo x upperLimit = .gt then upperLimit
  else x

/-- A Dart double passed for a C `float`: rounded to the nearest, ties to even. -/
def toNativeFloat (x : Float) : Float32 :=
  .ofModel (.pack (match x.toModel.unpack with
    | .finite sign mantissa exponent _ =>
      Float.Model.UnpackedFloat.round Float.Model.Format.binary32 sign mantissa exponent
    | other => other))

theorem clamp_clamp (x : Float) : clamp (clamp x 0.0 2.0) 0.0 2.0 = clamp x 0.0 2.0 := by
  have hlower : clamp 0.0 0.0 2.0 = 0.0 := by decide
  have hupper : clamp 2.0 0.0 2.0 = 2.0 := by decide
  by_cases hlow : compareTo x 0.0 = .lt
  · have hx : clamp x 0.0 2.0 = 0.0 := if_pos hlow
    rw [hx, hlower]
  · by_cases hhigh : compareTo x 2.0 = .gt
    · have hx : clamp x 0.0 2.0 = 2.0 := by rw [clamp, if_neg hlow, if_pos hhigh]
      rw [hx, hupper]
    · have hx : clamp x 0.0 2.0 = x := by rw [clamp, if_neg hlow, if_neg hhigh]
      rw [hx, hx]

namespace VoiceEngine

/-- What slot `i` adds to an accumulator. -/
def mixInto (g : VoiceEngine) (mixAccumulator : List Float32) (i : Fin maxPeers) : List Float32 :=
  if g.Mixes i then
    addSamples (g.table.peers i).userVolume mixAccumulator
      ((g.table.peers i).ring.drain mixAccumulator.length).1
  else mixAccumulator

theorem foldl_mixSlot_snd (slots : List (Fin maxPeers)) (hnodup : slots.Nodup) (g : VoiceEngine)
    (mixAccumulator : List Float32) :
    (slots.foldl mixSlot (g, mixAccumulator)).2 = slots.foldl g.mixInto mixAccumulator := by
  induction slots generalizing g mixAccumulator with
  | nil => rfl
  | cons j slots ih =>
    obtain ⟨hfresh, hrest⟩ := List.nodup_cons.mp hnodup
    rw [List.foldl_cons, List.foldl_cons]
    by_cases hmixes : g.Mixes j
    · rw [mixSlot_of_mixes hmixes, ih hrest]
      have hsame : ∀ acc, ∀ i ∈ slots, (g.setPeer j { g.table.peers j with
          ring := ((g.table.peers j).ring.drain mixAccumulator.length).2 }).mixInto acc i =
          g.mixInto acc i := by
        intro acc i hi
        have hij : i ≠ j := fun heq => hfresh (heq ▸ hi)
        have hiff : (g.setPeer j { g.table.peers j with
            ring := ((g.table.peers j).ring.drain mixAccumulator.length).2 }).Mixes i ↔ g.Mixes i :=
          mixes_congr (by rw [setPeer_peers, Function.update_of_ne hij]) rfl
        simp only [mixInto, hiff, setPeer_peers, Function.update_of_ne hij]
      rw [List.foldl_ext _ _ _ hsame]
      simp only [mixInto, if_pos hmixes]
    · rw [mixSlot_of_not_mixes hmixes, ih hrest]
      simp only [mixInto, if_neg hmixes]

/-- A chunk is made of what each stream adds at its slot's volume. -/
theorem mixChunk_snd (g : VoiceEngine) (chunk : Nat) :
    (g.mixChunk chunk).2 =
      ((List.finRange maxPeers).foldl g.mixInto (List.replicate chunk 0.0)).map softLimit := by
  simp only [mixChunk, foldl_mixSlot_snd _ (List.nodup_finRange maxPeers)]

/-- Mixing leaves the volumes alone, so each chunk of a mix takes the same. -/
theorem userVolume_drained (g : VoiceEngine) (n : Nat) (i : Fin maxPeers) :
    ((g.drained n).table.peers i).userVolume = (g.table.peers i).userVolume := by
  simp only [drained, withPeers]
  split <;> rfl

/-- A mix of `frameSamples` takes samples of slot `i`. -/
def TakesFrom (g : VoiceEngine) (frameSamples : Nat) (i : Fin maxPeers) : Prop :=
  frameSamples ≠ 0 ∧ g.localDeafened = false ∧ g.Mixes i ∧
    (g.table.peers i).ring.readIdx ≠ (g.table.peers i).ring.writeIdx

instance (g : VoiceEngine) (frameSamples : Nat) (i : Fin maxPeers) : Decidable (g.TakesFrom frameSamples i) :=
  inferInstanceAs (Decidable (_ ∧ _ ∧ _ ∧ _))

/-- The remote users a mix takes samples of, each with the gain applied to them. -/
def gains (g : VoiceEngine) (frameSamples : Nat) : List (UInt32 × Float32) :=
  (peerSlots.filter fun i => g.TakesFrom frameSamples i).map fun i =>
    ((g.table.peers i).userId, (g.table.peers i).userVolume)

end VoiceEngine

/-- `AudioEngineService` with the whole native library behind it. -/
structure AudioEngine where
  native : VoiceEngine
  isCapturing : Bool
  isPlaybackActive : Bool
  isTestingMic : Bool

namespace AudioEngine

/-- After `initialize`. -/
def start (vadHangoverMs : UInt32) : AudioEngine where
  native := VoiceEngine.load.init vadHangoverMs
  isCapturing := false
  isPlaybackActive := false
  isTestingMic := false

/-- A call of the native library. -/
def call (a : AudioEngine) (c : EngineCall) : AudioEngine := { a with native := a.native.call c }

def startCapture (a : AudioEngine) : AudioEngine := { a with isCapturing := true }.call .startCapture

def stopCapture (a : AudioEngine) : AudioEngine := { a with isCapturing := false }.call .stopCapture

def startPlayback (a : AudioEngine) : AudioEngine := { a with isPlaybackActive := true }.call .startPlayback

def stopPlayback (a : AudioEngine) : AudioEngine := { a with isPlaybackActive := false }.call .stopPlayback

def setUserVolume (a : AudioEngine) (userId : UInt32) (volumeMultiplier : Float) : AudioEngine :=
  a.call (.setUserVolume userId (toNativeFloat (clamp volumeMultiplier 0.0 2.0)))

def clearPeers (a : AudioEngine) : AudioEngine := a.call .clearPeers

def startMicTest (a : AudioEngine) : AudioEngine :=
  (({ a with isTestingMic := true }.call (.setMicTestLoopback true)).call .startCapture).call .startPlayback

def stopMicTest (a : AudioEngine) : AudioEngine :=
  let a := { a with isTestingMic := false }.call (.setMicTestLoopback false)
  let a := if a.isCapturing then a else a.call .stopCapture
  if a.isPlaybackActive then a else a.call .stopPlayback

def feedInboundPacket (a : AudioEngine) (packetBytes : GoBytes) : AudioEngine :=
  a.call (.feedInboundPacket (some packetBytes) (UInt32.ofNat packetBytes.length))

/-- What the sending pipeline sees of it. -/
def captureSide (a : AudioEngine) (isLocalMuted : Bool) : AudioEngineService where
  engine := a.native.capture
  hasLibrary := true
  isCapturing := a.isCapturing
  isTestingMic := a.isTestingMic
  isLocalMuted

theorem captureSide_startMicTest (a : AudioEngine) (isLocalMuted : Bool) :
    a.startMicTest.captureSide isLocalMuted = (a.captureSide isLocalMuted).startMicTest := rfl

theorem captureSide_stopMicTest (a : AudioEngine) (isLocalMuted : Bool) :
    a.stopMicTest.captureSide isLocalMuted = (a.captureSide isLocalMuted).stopMicTest := by
  obtain ⟨native, isCapturing, isPlaybackActive, isTestingMic⟩ := a
  cases isCapturing <;> cases isPlaybackActive <;> rfl

end AudioEngine

/-- What decides how loud a user is: the engine, and the volumes `VoiceStateModel`
keeps. -/
structure VolumeSession where
  audioEngine : AudioEngine
  userVolumes : GoMap UInt32 Float

namespace VolumeSession

/-- A client that has just started. -/
def start (vadHangoverMs : UInt32) : VolumeSession := ⟨.start vadHangoverMs, ∅⟩

def native (s : VolumeSession) : VoiceEngine := s.audioEngine.native

def withEngine (s : VolumeSession) (f : AudioEngine → AudioEngine) : VolumeSession :=
  { s with audioEngine := f s.audioEngine }

/-- `VoiceNotifier.setUserVolume`. -/
def setUserVolume (s : VolumeSession) (userId : UInt32) (volumeMultiplier : Float) : VolumeSession where
  userVolumes := s.userVolumes.set userId (clamp volumeMultiplier 0.0 2.0)
  audioEngine := s.audioEngine.setUserVolume userId volumeMultiplier

/-- `joinVoice` up to the request. The settings stop their own microphone test first. -/
def joinVoice (s : VolumeSession) : VolumeSession :=
  s.withEngine fun a => a.stopMicTest.stopMicTest.clearPeers

/-- `joinVoice` behind `_voiceClient.connect`. -/
def joined (s : VolumeSession) : VolumeSession := s.withEngine fun a => a.startCapture.startPlayback

/-- `disconnect` behind `_voiceClient.disconnect`. -/
def release (s : VolumeSession) : VolumeSession :=
  s.withEngine fun a => a.stopCapture.stopPlayback.clearPeers

/-- Whether a datagram gets through `VoiceClient._handleInboundDatagram` and the
listener of `VoiceNotifier`. -/
def admits (clientUserId : Int64) (currentUserId : Option Int64) (isDeafened : Bool) (data : GoBytes) : Bool :=
  match wire.VoicePacket.decode data with
  | .error _ => false
  | .ok packet =>
    packet.type == 0x01 && packet.senderId != clientUserId && packet.senderId != 0 &&
      some packet.senderId != currentUserId && !isDeafened

/-- The gain a user's samples are due: the volume set, or 1. -/
def volumeOf (userVolumes : GoMap UInt32 Float) (userId : UInt32) : Float32 :=
  match userVolumes.get? userId with
  | some volume => toNativeFloat (clamp volume 0.0 2.0)
  | none => 1.0

end VolumeSession

/-- What bears on the volumes. A datagram comes with the ids the client and the
notifier compare its sender to, and with whether the user is deafened. -/
inductive VolumeEvent where
  | setUserVolume (userId : UInt32) (volumeMultiplier : Float)
  | joinVoice
  | joined
  | release
  | startMicTest
  | stopMicTest
  | datagram (clientUserId : Int64) (currentUserId : Option Int64) (isDeafened : Bool) (data : GoBytes)
  | captureCallback (pInput : Option (List Int16)) (channels frameCount : Nat)
  | captureFrame (hasBuffer : Bool) (maxLen : Nat)
  | playbackCallback (hasOutput : Bool) (channels frameCount : Nat)
  | mixAudioStreams (frameSamples : Nat)

namespace VolumeSession

def perform (s : VolumeSession) : VolumeEvent → VolumeSession
  | .setUserVolume userId volumeMultiplier => s.setUserVolume userId volumeMultiplier
  | .joinVoice => s.joinVoice
  | .joined => s.joined
  | .release => s.release
  | .startMicTest => s.withEngine AudioEngine.startMicTest
  | .stopMicTest => s.withEngine AudioEngine.stopMicTest
  | .datagram clientUserId currentUserId isDeafened data =>
    if admits clientUserId currentUserId isDeafened data then s.withEngine (·.feedInboundPacket data) else s
  | .captureCallback pInput channels frameCount =>
    s.withEngine (·.call (.captureCallback pInput channels frameCount))
  | .captureFrame hasBuffer maxLen => s.withEngine (·.call (.captureFrame hasBuffer maxLen))
  | .playbackCallback hasOutput channels frameCount =>
    s.withEngine (·.call (.playbackCallback hasOutput channels frameCount))
  | .mixAudioStreams frameSamples => s.withEngine (·.call (.mixAudioStreams frameSamples))

end VolumeSession

/-- The client under arbitrary events; a mix shows the gains it applies. -/
def volumes : Machine VolumeSession VolumeEvent (List (UInt32 × Float32)) where
  step s e :=
    (s.perform e,
      match e with
      | .mixAudioStreams frameSamples => s.native.gains frameSamples
      | _ => [])

/-- Every gain applied in the run is the user's volume at the time. -/
def VolumesKept (s : VolumeSession) (es : List VolumeEvent) : Prop :=
  Machine.Along (fun pre e => ∀ applied ∈ volumes.out (volumes.run s pre) e,
    applied.2 = VolumeSession.volumeOf (volumes.run s pre).userVolumes applied.1) es

/-- A datagram that gives its sender a slot comes from a user with no volume but 1. -/
def VolumeSession.SeatsAtDefault (s : VolumeSession) : VolumeEvent → Prop
  | .datagram clientUserId currentUserId isDeafened data =>
    admits clientUserId currentUserId isDeafened data = true →
      ∀ hdr ∈ readInbound (some data) (UInt32.ofNat data.length),
        Seating.seatOf peerSlots s.native.table.holder hdr.senderId = none →
          (Seating.freeSeat peerSlots s.native.table.holder).isSome →
            volumeOf s.userVolumes hdr.senderId = 1.0
  | _ => True

instance (s : VolumeSession) (e : VolumeEvent) : Decidable (s.SeatsAtDefault e) :=
  match e with
  | .datagram clientUserId currentUserId isDeafened data =>
    inferInstanceAs (Decidable (VolumeSession.admits clientUserId currentUserId isDeafened data = true →
      ∀ hdr ∈ readInbound (some data) (UInt32.ofNat data.length), _ = none → _ → _ = _))
  | .setUserVolume _ _ | .joinVoice | .joined | .release | .startMicTest | .stopMicTest
  | .captureCallback _ _ _ | .captureFrame _ _ | .playbackCallback _ _ _ | .mixAudioStreams _ => isTrue trivial

theorem senderId_ne_zero {packetBytes : Option GoBytes} {length : UInt32} {hdr : InboundHeader}
    (h : readInbound packetBytes length = some hdr) : hdr.senderId ≠ 0 := by
  unfold readInbound at h
  split at h
  · cases h
  · dsimp only at h
    split_ifs at h with hshort hmagic hzero hlong
    cases h
    exact hzero

/-- A datagram leaves the volumes alone, except that a slot it takes starts at 1. -/
theorem PeerTable.userVolume_feedInboundPacket (g : PeerTable) {packetBytes : Option GoBytes}
    {length : UInt32} {hdr : InboundHeader} (hread : readInbound packetBytes length = some hdr)
    (i : Fin maxPeers) :
    ((g.feedInboundPacket packetBytes length).1.peers i).userVolume =
      if Seating.seatOf peerSlots g.holder hdr.senderId = none ∧ Seating.freeSeat peerSlots g.holder = some i
      then 1.0 else (g.peers i).userVolume := by
  cases packetBytes with
  | none => cases hread
  | some bytes =>
    simp only [feedInboundPacket, hread, peerFor, find?_own, find?_free]
    cases hown : Seating.seatOf peerSlots g.holder hdr.senderId with
    | some j =>
      by_cases hj : i = j
      · subst hj
        simp
      · simp [Function.update_of_ne hj]
    | none =>
      cases hfree : Seating.freeSeat peerSlots g.holder with
      | some j =>
        by_cases hj : i = j
        · subst hj
          simp
        · simp [Function.update_of_ne hj, Ne.symm hj]
      | none => simp

/-- A volume is set on the slot the user is given, and on no other. -/
theorem VoiceEngine.userVolume_setUserVolume (g : VoiceEngine) {userId : UInt32} (hne : userId ≠ 0)
    (volumeMultiplier : Float32) (i : Fin maxPeers) :
    ((g.setUserVolume userId volumeMultiplier).table.peers i).userVolume =
      if Seating.seatFor peerSlots g.table.holder userId = some i then volumeMultiplier
      else (g.table.peers i).userVolume := by
  unfold setUserVolume Seating.seatFor
  rw [if_neg hne, g.table.find?_own, g.table.find?_free]
  have hset : ∀ (j : Fin maxPeers) (p : PeerStream), p.userVolume = volumeMultiplier →
      ((g.setPeer j p).table.peers i).userVolume =
        if some j = some i then volumeMultiplier else (g.table.peers i).userVolume := by
    intro j p hvolume
    by_cases hj : j = i
    · subst hj
      simp [hvolume]
    · simp [Function.update_of_ne (Ne.symm hj), hj]
  cases Seating.seatOf peerSlots g.table.holder userId with
  | some j => exact hset j _ rfl
  | none =>
    simp only
    cases Seating.freeSeat peerSlots g.table.holder with
    | some j => exact hset j _ rfl
    | none => simp

/-- The slots for remote users have the same holders and volumes. -/
def SameSlots (g g' : VoiceEngine) : Prop :=
  ∀ i ∈ peerSlots, g'.table.holder i = g.table.holder i ∧
    (g'.table.peers i).userVolume = (g.table.peers i).userVolume

namespace SameSlots

theorem refl (g : VoiceEngine) : SameSlots g g := fun _ _ => ⟨rfl, rfl⟩

theorem trans {g g' g'' : VoiceEngine} (h : SameSlots g g') (h' : SameSlots g' g'') : SameSlots g g'' :=
  fun i hi => ⟨(h' i hi).1.trans (h i hi).1, (h' i hi).2.trans (h i hi).2⟩

theorem ne_loopbackSlot : ∀ i ∈ peerSlots, i ≠ loopbackSlot := by decide

/-- The slot of the microphone test does not count. -/
theorem setPeer_loopback (g : VoiceEngine) (p : PeerStream) : SameSlots g (g.setPeer loopbackSlot p) := by
  intro i hi
  have hne := ne_loopbackSlot i hi
  simp [PeerTable.holder, Function.update_of_ne hne]

theorem drained (g : VoiceEngine) (n : Nat) : SameSlots g (g.drained n) :=
  fun i _ => ⟨congrFun (g.holder_drained n) i, g.userVolume_drained n i⟩

theorem mixAudioStreams (g : VoiceEngine) (frameSamples : Nat) :
    SameSlots g (g.mixAudioStreams frameSamples).1 := by
  rw [VoiceEngine.mixAudioStreams_fst]
  split
  · exact .refl g
  · exact .drained g frameSamples

theorem playbackCallback (g : VoiceEngine) (hasOutput : Bool) (channels frameCount : Nat) :
    SameSlots g (g.playbackCallback hasOutput channels frameCount).1 := by
  rw [VoiceEngine.playbackCallback_fst]
  split
  · exact .drained g frameCount
  · exact .refl g

theorem captureFrame (g : VoiceEngine) (hasBuffer : Bool) (maxLen : Nat) :
    SameSlots g (g.captureFrame hasBuffer maxLen).1 := by
  simp only [VoiceEngine.captureFrame]
  split
  · exact .refl g
  · split
    · exact .setPeer_loopback _ _
    · exact .refl g

theorem setMicTestLoopback (g : VoiceEngine) (enabled : Bool) :
    SameSlots g (g.setMicTestLoopback enabled) := by
  cases enabled with
  | true => exact .refl g
  | false => exact .setPeer_loopback _ _

theorem stopMicTest (a : AudioEngine) : SameSlots a.native a.stopMicTest.native := by
  have hloopback : SameSlots a.native (a.call (.setMicTestLoopback false)).native :=
    setMicTestLoopback a.native false
  refine hloopback.trans ?_
  unfold AudioEngine.stopMicTest
  simp only
  split
  · split <;> exact .refl _
  · split <;> exact .refl _

end SameSlots

namespace VolumeSession

/-- Every slot held has the volume its holder is due. -/
structure Agrees (s : VolumeSession) : Prop where
  seated : ∃ guests, Seating.Seated peerSlots s.native.table.holder guests
  nobody : ∀ i ∈ peerSlots, s.native.table.holder i ≠ some 0
  volumes : ∀ i ∈ peerSlots, ∀ userId, s.native.table.holder i = some userId →
    (s.native.table.peers i).userVolume = volumeOf s.userVolumes userId

namespace Agrees

/-- A cleared table has nothing to disagree about. -/
theorem cleared {s : VolumeSession} (h : ∀ i, s.native.table.holder i = none) : s.Agrees where
  seated := ⟨[], .empty fun i _ => h i⟩
  nobody i _ hheld := by simp [h i] at hheld
  volumes i _ userId hheld := by simp [h i] at hheld

theorem of_sameSlots {s s' : VolumeSession} (h : s.Agrees) (hsame : SameSlots s.native s'.native)
    (hvolumes : s'.userVolumes = s.userVolumes) : s'.Agrees where
  seated := by
    obtain ⟨guests, hseated⟩ := h.seated
    exact ⟨guests, hseated.congr fun i hi => (hsame i hi).1⟩
  nobody i hi := by
    rw [(hsame i hi).1]
    exact h.nobody i hi
  volumes i hi userId hheld := by
    rw [(hsame i hi).1] at hheld
    rw [(hsame i hi).2, hvolumes]
    exact h.volumes i hi userId hheld

/-- A user other than the nobody is seated with the volume due. -/
theorem of_seat {s s' : VolumeSession} (h : s.Agrees) {userId : UInt32} (hne : userId ≠ 0)
    (hholder : s'.native.table.holder = Seating.seat peerSlots s.native.table.holder userId)
    (hself : ∀ i, Seating.seatFor peerSlots s.native.table.holder userId = some i →
      (s'.native.table.peers i).userVolume = volumeOf s'.userVolumes userId)
    (hother : ∀ i, Seating.seatFor peerSlots s.native.table.holder userId ≠ some i →
      (s'.native.table.peers i).userVolume = (s.native.table.peers i).userVolume)
    (hkept : ∀ v, v ≠ userId → volumeOf s'.userVolumes v = volumeOf s.userVolumes v) : s'.Agrees := by
  obtain ⟨guests, hseated⟩ := h.seated
  refine ⟨?_, fun i hi hheld => ?_, fun i hi v hheld => ?_⟩
  · rw [hholder]
    exact ⟨_, hseated.seat peerSlots_nodup userId⟩
  · rw [hholder] at hheld
    obtain ⟨hzero, -⟩ | ⟨-, hheld, -⟩ := hseated.seat_eq_some hi hheld
    · exact hne hzero.symm
    · exact h.nobody i hi hheld
  · rw [hholder] at hheld
    obtain ⟨rfl, hfor⟩ | ⟨hv, hheld, hfor⟩ := hseated.seat_eq_some hi hheld
    · exact hself i hfor
    · rw [hother i hfor, hkept v hv]
      exact h.volumes i hi v hheld

/-- Both copies of a volume are set at once. -/
theorem setUserVolume {s : VolumeSession} (h : s.Agrees) (userId : UInt32) (volumeMultiplier : Float) :
    (s.setUserVolume userId volumeMultiplier).Agrees := by
  have hkept : ∀ v, v ≠ userId →
      volumeOf (s.setUserVolume userId volumeMultiplier).userVolumes v = volumeOf s.userVolumes v := by
    intro v hv
    simp only [volumeOf, VolumeSession.setUserVolume, GoMap.get?_set, if_neg hv]
  by_cases hne : userId = 0
  · subst hne
    have hnative : (s.setUserVolume 0 volumeMultiplier).native = s.native := rfl
    refine ⟨h.seated, h.nobody, fun i hi v hheld => ?_⟩
    have hv : v ≠ 0 := fun hzero => h.nobody i hi (hzero ▸ hheld)
    rw [hkept v hv, hnative]
    exact h.volumes i hi v hheld
  · refine h.of_seat hne ?_ ?_ ?_ hkept
    · exact (s.native.holder_setUserVolume userId _).trans (if_neg hne)
    · intro i hfor
      refine (s.native.userVolume_setUserVolume hne _ i).trans ?_
      rw [if_pos hfor]
      simp only [volumeOf, VolumeSession.setUserVolume, GoMap.get?_set, if_true, clamp_clamp]
    · intro i hfor
      exact (s.native.userVolume_setUserVolume hne _ i).trans (if_neg hfor)

/-- A packet keeps the volumes right if it seats its sender at the volume due. -/
theorem feedInboundPacket {s : VolumeSession} (h : s.Agrees) (data : GoBytes)
    (hdefault : ∀ hdr ∈ readInbound (some data) (UInt32.ofNat data.length),
      Seating.seatOf peerSlots s.native.table.holder hdr.senderId = none →
        (Seating.freeSeat peerSlots s.native.table.holder).isSome →
          volumeOf s.userVolumes hdr.senderId = 1.0) :
    (s.withEngine (·.feedInboundPacket data)).Agrees := by
  have hholder := s.native.table.holder_feedInboundPacket (some data) (UInt32.ofNat data.length)
  cases hread : readInbound (some data) (UInt32.ofNat data.length) with
  | none =>
    have hnative : (s.withEngine (·.feedInboundPacket data)).native = s.native := by
      change (s.native.feedInboundPacket _ _).1 = _
      simp [VoiceEngine.feedInboundPacket, PeerTable.feedInboundPacket, hread]
    exact h.of_sameSlots (hnative ▸ .refl s.native) rfl
  | some hdr =>
    rw [hread] at hholder
    have hvolume := s.native.table.userVolume_feedInboundPacket hread
    refine h.of_seat (senderId_ne_zero hread) hholder ?_ ?_ fun _ _ => rfl
    · intro i hfor
      refine (hvolume i).trans ?_
      obtain ⟨hi, hown | ⟨hfree, hnone⟩⟩ := Seating.seatFor_eq_some hfor
      · have hseated :=
          (Seating.seatOf_isSome_iff peerSlots s.native.table.holder hdr.senderId).mpr ⟨i, hi, hown⟩
        rw [if_neg fun hboth => by rw [hboth.1] at hseated; cases hseated]
        exact h.volumes i hi hdr.senderId hown
      · have hseat : Seating.freeSeat peerSlots s.native.table.holder = some i := by
          simpa [Seating.seatFor, hnone] using hfor
        rw [if_pos ⟨hnone, hseat⟩]
        exact (hdefault hdr hread hnone (by rw [hseat]; rfl)).symm
    · intro i hfor
      refine (hvolume i).trans (if_neg fun hboth => hfor ?_)
      simp only [Seating.seatFor, hboth.1, hboth.2]

/-- What keeps to the default keeps the volumes right. -/
theorem perform {s : VolumeSession} (h : s.Agrees) {e : VolumeEvent} (hdefault : s.SeatsAtDefault e) :
    (s.perform e).Agrees := by
  cases e with
  | setUserVolume userId volumeMultiplier => exact h.setUserVolume userId volumeMultiplier
  | joinVoice => exact cleared fun i => rfl
  | joined => exact h.of_sameSlots (.refl _) rfl
  | release => exact cleared fun i => rfl
  | startMicTest => exact h.of_sameSlots (.setMicTestLoopback _ true) rfl
  | stopMicTest => exact h.of_sameSlots (.stopMicTest s.audioEngine) rfl
  | datagram clientUserId currentUserId isDeafened data =>
    change (if _ then _ else _ : VolumeSession).Agrees
    split
    · rename_i hadmits
      exact h.feedInboundPacket data (hdefault hadmits)
    · exact h
  | captureCallback pInput channels frameCount => exact h.of_sameSlots (.refl _) rfl
  | captureFrame hasBuffer maxLen => exact h.of_sameSlots (.captureFrame _ hasBuffer maxLen) rfl
  | playbackCallback hasOutput channels frameCount =>
    exact h.of_sameSlots (.playbackCallback _ hasOutput channels frameCount) rfl
  | mixAudioStreams frameSamples => exact h.of_sameSlots (.mixAudioStreams _ frameSamples) rfl

/-- The condition is exact: a packet that seats its sender otherwise leaves the slot at
odds with the volume set. -/
theorem perform_iff {s : VolumeSession} (h : s.Agrees) (e : VolumeEvent) :
    (s.perform e).Agrees ↔ s.SeatsAtDefault e := by
  refine ⟨fun hafter => ?_, h.perform⟩
  cases e with
  | datagram clientUserId currentUserId isDeafened data =>
    intro hadmits hdr hread hnone hfree
    obtain ⟨i, hi⟩ := Option.isSome_iff_exists.mp hfree
    have hfor : Seating.seatFor peerSlots s.native.table.holder hdr.senderId = some i := by
      simp only [Seating.seatFor, hnone, hi]
    have hperform : s.perform (.datagram clientUserId currentUserId isDeafened data) =
        s.withEngine (·.feedInboundPacket data) := if_pos hadmits
    rw [hperform] at hafter
    have hread' : readInbound (some data) (UInt32.ofNat data.length) = some hdr := hread
    have hholder : (s.withEngine (·.feedInboundPacket data)).native.table.holder i = some hdr.senderId := by
      have hslots := s.native.table.holder_feedInboundPacket (some data) (UInt32.ofNat data.length)
      rw [hread'] at hslots
      refine (congrFun hslots i).trans ?_
      simp only [Seating.seat_of_seatFor hfor, Function.update_self]
    have hvolume := s.native.table.userVolume_feedInboundPacket hread' i
    rw [if_pos ⟨hnone, hi⟩] at hvolume
    exact (hafter.volumes i (Seating.freeSeat_eq_some hi).1 _ hholder).symm.trans hvolume
  | _ => trivial

end Agrees

/-- What a mix applies where every slot agrees. -/
theorem Agrees.gains {s : VolumeSession} (h : s.Agrees) {frameSamples : Nat} {applied : UInt32 × Float32}
    (happlied : applied ∈ s.native.gains frameSamples) : applied.2 = volumeOf s.userVolumes applied.1 := by
  unfold VoiceEngine.gains at happlied
  obtain ⟨i, hi, rfl⟩ := List.mem_map.mp happlied
  obtain ⟨hslot, htakes⟩ := List.mem_filter.mp hi
  have hactive := (of_decide_eq_true htakes).2.2.1.1
  exact h.volumes i hslot _ ((s.native.table.holder_eq_some_iff i _).mpr ⟨hactive, rfl⟩)

end VolumeSession

/-- Every gain applied is the user's volume in every run in which packets give slots only
to users whose volume is 1. -/
theorem volumes_kept (vadHangoverMs : UInt32) (es : List VolumeEvent)
    (h : Machine.Along (fun pre e => (volumes.run (.start vadHangoverMs) pre).SeatsAtDefault e) es) :
    VolumesKept (.start vadHangoverMs) es := by
  intro pre e post heq applied happlied
  subst heq
  have hagrees : (volumes.run (.start vadHangoverMs) pre).Agrees := by
    refine volumes.run_invariant (fun _ s => s.Agrees) ?_ ?_ pre h.front
    · exact .cleared fun i => rfl
    · exact fun pre e hdefault hinv => hinv.perform hdefault
  cases e with
  | mixAudioStreams frameSamples => exact hagrees.gains happlied
  | _ => cases happlied

/-- The frame of user 7 comes in. -/
def speech7 : VolumeEvent := .datagram 9 (some 9) false speech

/-- User 7 talks, is turned down and talks on. -/
def turnedDown : List VolumeEvent :=
  [.joinVoice, .joined, speech7, .setUserVolume 7 0.0, speech7, .mixAudioStreams 2]

theorem volumes_kept_turnedDown :
    VolumesKept (.start 200) turnedDown ∧
      volumes.out (volumes.run (.start 200) turnedDown.dropLast) (.mixAudioStreams 2) = [(7, 0.0)] := by
  refine ⟨volumes_kept 200 turnedDown ?_, by decide +kernel⟩
  simp only [turnedDown, Machine.along_cons_iff]
  exact ⟨trivial, trivial, by decide +kernel, trivial, by decide +kernel, trivial, Machine.along_nil⟩

/-- Turned down to 0, user 7 is heard at full volume after the channel was left and joined
again. -/
theorem rejoined_volume :
    ¬ VolumesKept (.start 200)
      (turnedDown ++ [.release, .joinVoice, .joined, speech7, .mixAudioStreams 2]) := by
  intro h
  have hruns : VolumesKept (.start 200)
      ((turnedDown ++ [.release, .joinVoice, .joined, speech7]) ++ [.mixAudioStreams 2]) := h
  exact absurd hruns.last (by decide +kernel)

end low_latency_voice.client
