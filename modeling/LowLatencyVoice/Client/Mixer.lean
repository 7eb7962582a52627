import LowLatencyVoice.Client.Streams

namespace low_latency_voice.client

/-- The operations on `float` the mixer uses, none of them interpreted. -/
class MixerOps (F : Type) extends Add F, Sub F, Mul F, Div F, Neg F, OfScientific F, LE F where
  ofInt16 : Int16 → F
  toInt16 : F → Int16
  decLe : DecidableLE F

instance MixerOps.decidableLE {F : Type} [MixerOps F] : DecidableLE F := MixerOps.decLe

/-- The operations of the C program. -/
instance : MixerOps Float32 where
  ofInt16 pcm := Float32.ofInt pcm.toInt
  toInt16 := Float32.toInt16
  decLe := inferInstance

/-- What the mixer reads of a `PeerStream`. -/
structure MixerPeer (F : Type) where
  isActive : Bool
  userVolume : F
  ring : RingBuffer Int16 ringBufferSize

/-- The globals that `mix_audio_streams` and `ma_playback_callback` read. -/
structure Mixer (F : Type) where
  peers : List (MixerPeer F)
  micTestLoopback : Bool
  localDeafened : Bool
  playing : Bool

namespace Mixer

variable {F : Type} [MixerOps F]

/-- One stream's share of a chunk: a sample for each cell of the accumulator, until the
stream runs dry. -/
def mixPeer (gain : F) : List F → RingBuffer Int16 ringBufferSize → List F × RingBuffer Int16 ringBufferSize
  | [], r => ([], r)
  | x :: mixAccumulator, r =>
    if r.readIdx ≠ r.writeIdx then
      let (pcm, r) := r.pop
      let (rest, r) := mixPeer gain mixAccumulator r
      ((x + MixerOps.ofInt16 pcm * gain) :: rest, r)
    else
      let (rest, r) := mixPeer gain mixAccumulator r
      (x :: rest, r)

/-- The loop over the peers, from slot `i` on. An inactive peer is skipped, and so is
slot 0 unless a microphone test is on. -/
def mixPeers (micTestLoopback : Bool) : Nat → List (MixerPeer F) → List F → List (MixerPeer F) × List F
  | _, [], mixAccumulator => ([], mixAccumulator)
  | i, p :: peers, mixAccumulator =>
    if p.isActive = false ∨ (i = 0 ∧ micTestLoopback = false) then
      let (peers, mixAccumulator) := mixPeers micTestLoopback (i + 1) peers mixAccumulator
      (p :: peers, mixAccumulator)
    else
      let (mixAccumulator, ring) := mixPeer p.userVolume mixAccumulator p.ring
      let (peers, mixAccumulator) := mixPeers micTestLoopback (i + 1) peers mixAccumulator
      ({ p with ring } :: peers, mixAccumulator)

/-- The soft limiter. -/
def softLimit (mixed : F) : Int16 :=
  let x := mixed / 32768.0
  let y := if 1.5 ≤ x then 1.0 else if x ≤ -1.5 then -1.0 else x - (4.0 / 27.0) * (x * x * x)
  MixerOps.toInt16 (y * 32767.0 : F)

/-- One chunk of the mixer. -/
def mixChunk (m : Mixer F) (chunk : Nat) : Mixer F × List Int16 :=
  let (peers, mixAccumulator) := mixPeers m.micTestLoopback 0 m.peers (List.replicate chunk 0.0)
  ({ m with peers }, mixAccumulator.map softLimit)

/-- The loop of the mixer over chunks of at most a frame. -/
def mixLoop (m : Mixer F) (samplesRemaining : Nat) : Mixer F × List Int16 :=
  if samplesRemaining = 0 then (m, [])
  else
    let chunk := min samplesRemaining samplesPerFrame
    let (m, out) := m.mixChunk chunk
    let (m, rest) := m.mixLoop (samplesRemaining - chunk)
    (m, out ++ rest)
termination_by samplesRemaining
decreasing_by
  simp only [samplesPerFrame]
  omega

/-- `mix_audio_streams`, with a buffer. -/
def mixAudioStreams (m : Mixer F) (frameSamples : Nat) : Mixer F × List Int16 :=
  if frameSamples = 0 ∨ m.localDeafened = true then (m, List.replicate frameSamples 0)
  else m.mixLoop frameSamples

/-- The writes of a frame buffer to an interleaved output, each with its position. The
device sizes the output in a `ma_uint32` of bytes, so positions do not wrap. -/
def duplicate (channels frameOffset : Nat) (monoBuf : List Int16) : List (Nat × Int16) :=
  monoBuf.zipIdx.flatMap fun (sample, f) =>
    (List.range channels).map fun c => ((frameOffset + f) * channels + c, sample)

/-- The loop of `ma_playback_callback` for more than one channel. -/
def playbackLoop (m : Mixer F) (channels frameOffset framesRemaining : Nat) : Mixer F × List (Nat × Int16) :=
  if framesRemaining = 0 then (m, [])
  else
    let chunk := min framesRemaining samplesPerFrame
    let (m, monoBuf) := m.mixAudioStreams chunk
    let (m, rest) := m.playbackLoop channels (frameOffset + chunk) (framesRemaining - chunk)
    (m, duplicate channels frameOffset monoBuf ++ rest)
termination_by framesRemaining
decreasing_by
  simp only [samplesPerFrame]
  omega

/-- `ma_playback_callback`, with its writes to the output buffer in order. -/
def playbackCallback (m : Mixer F) (hasOutput : Bool) (channels frameCount : Nat) :
    Mixer F × List (Nat × Int16) :=
  if hasOutput = false ∨ frameCount = 0 then (m, [])
  else
    let channels := if 0 < channels then channels else 1
    if m.playing = false ∨ m.localDeafened = true then
      (m, (List.range (frameCount * channels)).map fun i => (i, 0))
    else if channels ≤ 1 then
      let (m, out) := m.mixAudioStreams frameCount
      (m, out.zipIdx.map Prod.swap)
    else m.playbackLoop channels 0 frameCount

/-- A stream is mixed into two accumulators in a row as into both at once. -/
theorem mixPeer_append (gain : F) (acc acc' : List F) (r : RingBuffer Int16 ringBufferSize) :
    mixPeer gain (acc ++ acc') r =
      ((mixPeer gain acc r).1 ++ (mixPeer gain acc' (mixPeer gain acc r).2).1,
        (mixPeer gain acc' (mixPeer gain acc r).2).2) := by
  induction acc generalizing r with
  | nil => rfl
  | cons x acc ih =>
    simp only [List.cons_append, mixPeer]
    split <;> simp only [ih, List.cons_append]

theorem mixPeers_append (micTestLoopback : Bool) (i : Nat) (peers : List (MixerPeer F)) (acc acc' : List F) :
    mixPeers micTestLoopback i peers (acc ++ acc') =
      ((mixPeers micTestLoopback i (mixPeers micTestLoopback i peers acc).1 acc').1,
        (mixPeers micTestLoopback i peers acc).2 ++
          (mixPeers micTestLoopback i (mixPeers micTestLoopback i peers acc).1 acc').2) := by
  induction peers generalizing i acc acc' with
  | nil => rfl
  | cons p peers ih =>
    by_cases hskip : p.isActive = false ∨ (i = 0 ∧ micTestLoopback = false)
    · simp only [mixPeers, if_pos hskip, ih]
    · simp only [mixPeers, if_neg hskip, mixPeer_append, ih]

/-- Chunks of any sizes may be mixed in one go. -/
theorem mixChunk_add (m : Mixer F) (a b : Nat) :
    m.mixChunk (a + b) =
      (((m.mixChunk a).1.mixChunk b).1, (m.mixChunk a).2 ++ ((m.mixChunk a).1.mixChunk b).2) := by
  simp only [mixChunk, ← List.replicate_append_replicate, mixPeers_append, List.map_append]

theorem mixPeers_nil (micTestLoopback : Bool) (i : Nat) (peers : List (MixerPeer F)) :
    mixPeers micTestLoopback i peers [] = (peers, []) := by
  induction peers generalizing i with
  | nil => rfl
  | cons p peers ih =>
    simp only [mixPeers, ih, mixPeer]
    split <;> rfl

theorem mixChunk_zero (m : Mixer F) : m.mixChunk 0 = (m, []) := by
  simp only [mixChunk, List.replicate_zero, mixPeers_nil]
  rfl

theorem mixLoop_eq (m : Mixer F) (samplesRemaining : Nat) :
    m.mixLoop samplesRemaining = m.mixChunk samplesRemaining := by
  induction samplesRemaining using Nat.strong_induction_on generalizing m with
  | _ samplesRemaining ih =>
    rw [mixLoop]
    split
    · next hzero => rw [hzero, mixChunk_zero]
    · next hsome =>
      have hless : samplesRemaining - min samplesRemaining samplesPerFrame < samplesRemaining := by
        simp only [samplesPerFrame]
        omega
      have hsum : samplesRemaining =
          min samplesRemaining samplesPerFrame + (samplesRemaining - min samplesRemaining samplesPerFrame) := by
        omega
      simp only [ih _ hless]
      rw [← mixChunk_add, ← hsum]

/-- The mixer has one chunk, whatever the size. -/
theorem mixAudioStreams_eq (m : Mixer F) (frameSamples : Nat) :
    m.mixAudioStreams frameSamples =
      if m.localDeafened = true then (m, List.replicate frameSamples 0) else m.mixChunk frameSamples := by
  unfold mixAudioStreams
  by_cases hdeaf : m.localDeafened = true
  · rw [if_pos (.inr hdeaf), if_pos hdeaf]
  · rw [if_neg hdeaf]
    split
    · next hnone => rw [hnone.resolve_right hdeaf, mixChunk_zero, List.replicate_zero]
    · exact m.mixLoop_eq frameSamples

@[simp] theorem mixChunk_localDeafened (m : Mixer F) (chunk : Nat) :
    (m.mixChunk chunk).1.localDeafened = m.localDeafened := rfl

theorem mixAudioStreams_add (m : Mixer F) (a b : Nat) :
    m.mixAudioStreams (a + b) =
      (((m.mixAudioStreams a).1.mixAudioStreams b).1,
        (m.mixAudioStreams a).2 ++ ((m.mixAudioStreams a).1.mixAudioStreams b).2) := by
  simp only [mixAudioStreams_eq]
  by_cases hdeaf : m.localDeafened = true
  · simp only [if_pos hdeaf, List.replicate_append_replicate]
  · simp only [if_neg hdeaf, mixChunk_localDeafened, mixChunk_add]

theorem length_mixPeer (gain : F) (acc : List F) (r : RingBuffer Int16 ringBufferSize) :
    (mixPeer gain acc r).1.length = acc.length := by
  induction acc generalizing r with
  | nil => rfl
  | cons x acc ih =>
    simp only [mixPeer]
    split <;> simp [ih]

theorem length_mixPeers (micTestLoopback : Bool) (i : Nat) (peers : List (MixerPeer F)) (acc : List F) :
    (mixPeers micTestLoopback i peers acc).2.length = acc.length := by
  induction peers generalizing i acc with
  | nil => rfl
  | cons p peers ih =>
    simp only [mixPeers]
    split
    · exact ih (i + 1) acc
    · exact (ih (i + 1) _).trans (length_mixPeer _ _ _)

/-- The whole buffer is written. -/
theorem length_mixAudioStreams (m : Mixer F) (frameSamples : Nat) :
    (m.mixAudioStreams frameSamples).2.length = frameSamples := by
  rw [mixAudioStreams_eq]
  split
  · exact List.length_replicate
  · rw [mixChunk, List.length_map, length_mixPeers, List.length_replicate]

theorem duplicate_append (channels frameOffset : Nat) (monoBuf monoBuf' : List Int16) :
    duplicate channels frameOffset (monoBuf ++ monoBuf') =
      duplicate channels frameOffset monoBuf ++ duplicate channels (frameOffset + monoBuf.length) monoBuf' := by
  rw [duplicate, List.zipIdx_append, List.flatMap_append]
  congr 1
  rw [Nat.zero_add, duplicate, List.zipIdx_eq_map_add, List.flatMap_map]
  refine List.flatMap_congr fun x _ => ?_
  simp only [Nat.add_assoc]

/-- The multi-channel loop duplicates what the mixer writes. -/
theorem playbackLoop_eq (m : Mixer F) (channels frameOffset framesRemaining : Nat) :
    m.playbackLoop channels frameOffset framesRemaining =
      ((m.mixAudioStreams framesRemaining).1,
        duplicate channels frameOffset (m.mixAudioStreams framesRemaining).2) := by
  induction framesRemaining using Nat.strong_induction_on generalizing m frameOffset with
  | _ framesRemaining ih =>
    rw [playbackLoop]
    split
    · next hzero =>
      rw [hzero]
      simp [mixAudioStreams, duplicate]
    · next hsome =>
      have hless : framesRemaining - min framesRemaining samplesPerFrame < framesRemaining := by
        simp only [samplesPerFrame]
        omega
      have hsum : framesRemaining =
          min framesRemaining samplesPerFrame + (framesRemaining - min framesRemaining samplesPerFrame) := by
        omega
      have hwhole := m.mixAudioStreams_add (min framesRemaining samplesPerFrame)
        (framesRemaining - min framesRemaining samplesPerFrame)
      rw [← hsum] at hwhole
      simp only [ih _ hless, hwhole, duplicate_append, length_mixAudioStreams]

/-- A buffer by its positions. -/
theorem zipIdx_eq (out : List Int16) : out.zipIdx = (List.range out.length).map fun f => (out.getD f 0, f) := by
  refine List.ext_getElem (by simp) fun f hf hf' => ?_
  have hlt : f < out.length := by simpa using hf
  simp [List.getElem?_eq_getElem hlt]

/-- Frame after frame, the positions of an interleaved buffer are all the positions. -/
theorem range_mul (frameCount channels : Nat) :
    ((List.range frameCount).flatMap fun f => (List.range channels).map fun c => f * channels + c) =
      List.range (frameCount * channels) := by
  induction frameCount with
  | zero => simp
  | succ frameCount ih =>
    rw [List.range_succ, List.flatMap_append, ih, Nat.succ_mul, List.range_add]
    simp

/-- For more than one channel the callback writes, channel by channel, what it writes for
one, and leaves the streams alike. -/
theorem playbackCallback_channels (m : Mixer F) {channels : Nat} (hchannels : 1 < channels) (frameCount : Nat) :
    (m.playbackCallback true channels frameCount).1 = (m.playbackCallback true 1 frameCount).1 ∧
      ∃ sample : Nat → Int16,
        (m.playbackCallback true 1 frameCount).2 = (List.range frameCount).map (fun f => (f, sample f)) ∧
        (m.playbackCallback true channels frameCount).2 = (List.range frameCount).flatMap fun f =>
          (List.range channels).map fun c => (f * channels + c, sample f) := by
  by_cases hzero : frameCount = 0
  · rw [hzero]
    exact ⟨rfl, fun _ => 0, rfl, rfl⟩
  · have hpos : 0 < channels := by omega
    have hmany : ¬ channels ≤ 1 := by omega
    simp only [playbackCallback, Bool.true_eq_false, hzero, or_self, if_false, if_pos hpos, Nat.zero_lt_one, if_true,
      Nat.le_refl, hmany]
    by_cases hquiet : m.playing = false ∨ m.localDeafened = true
    · simp only [if_pos hquiet, Nat.mul_one, true_and]
      refine ⟨fun _ => 0, rfl, ?_⟩
      rw [← range_mul, List.map_flatMap]
      simp only [List.map_map, Function.comp_def]
    · simp only [if_neg hquiet, playbackLoop_eq, true_and]
      refine ⟨fun f => (m.mixAudioStreams frameCount).2.getD f 0, ?_, ?_⟩
      · rw [zipIdx_eq, length_mixAudioStreams, List.map_map]
        rfl
      · rw [duplicate, zipIdx_eq, length_mixAudioStreams, List.flatMap_map]
        simp only [Nat.zero_add]

/-- Mixing in two goes is mixing in one, and the multi-channel path writes each frame's
mono sample to every channel, each position of the output once and no other. -/
theorem chunks_invisible (m : Mixer F) :
    (∀ a b, m.mixAudioStreams (a + b) =
      (((m.mixAudioStreams a).1.mixAudioStreams b).1,
        (m.mixAudioStreams a).2 ++ ((m.mixAudioStreams a).1.mixAudioStreams b).2)) ∧
    ∀ frameCount channels, 1 < channels →
      (m.playbackCallback true channels frameCount).1 = (m.playbackCallback true 1 frameCount).1 ∧
      (m.playbackCallback true channels frameCount).2.map Prod.fst = List.range (frameCount * channels) ∧
      ∃ sample : Nat → Int16,
        (m.playbackCallback true 1 frameCount).2 = (List.range frameCount).map (fun f => (f, sample f)) ∧
        ∀ f < frameCount, ∀ c < channels,
          (f * channels + c, sample f) ∈ (m.playbackCallback true channels frameCount).2 := by
  refine ⟨m.mixAudioStreams_add, fun frameCount channels hchannels => ?_⟩
  obtain ⟨hstreams, sample, hmono, hmulti⟩ := m.playbackCallback_channels hchannels frameCount
  refine ⟨hstreams, ?_, sample, hmono, fun f hf c hc => ?_⟩
  · rw [hmulti, List.map_flatMap, ← range_mul]
    simp only [List.map_map, Function.comp_def]
  · rw [hmulti]
    exact List.mem_flatMap.mpr ⟨f, List.mem_range.mpr hf, List.mem_map.mpr ⟨c, List.mem_range.mpr hc, rfl⟩⟩

end Mixer

/-- What the mixer reads of a stream of the engine. -/
def PeerStream.mixed (p : PeerStream) : MixerPeer Float32 := ⟨p.isActive, p.userVolume, p.ring⟩

namespace VoiceEngine

/-- What the mixer reads of the engine. -/
def mixer (g : VoiceEngine) : Mixer Float32 where
  peers := (List.finRange maxPeers).map fun i => (g.table.peers i).mixed
  micTestLoopback := g.capture.micTestLoopback
  localDeafened := g.localDeafened
  playing := g.playing

theorem mixPeer_eq_mixer (gain : Float32) (acc : List Float32) (r : RingBuffer Int16 ringBufferSize) :
    VoiceEngine.mixPeer gain acc r = Mixer.mixPeer gain acc r := by
  induction acc generalizing r with
  | nil => rfl
  | cons x acc ih =>
    simp only [VoiceEngine.mixPeer, Mixer.mixPeer, ih]
    rfl

/-- The loop over the slots is the mixer's loop over the peers. -/
theorem foldl_mixSlot_mixer {i : Nat} {slots : List (Fin maxPeers)}
    (hslots : slots.map Fin.val = List.range' i slots.length) (g : VoiceEngine) (acc : List Float32) :
    Mixer.mixPeers g.capture.micTestLoopback i (slots.map fun j => (g.table.peers j).mixed) acc =
      (slots.map fun j => ((slots.foldl mixSlot (g, acc)).1.table.peers j).mixed,
        (slots.foldl mixSlot (g, acc)).2) := by
  induction slots generalizing i g acc with
  | nil => rfl
  | cons j slots ih =>
    have hnodup : (j :: slots).Nodup := by
      refine List.Nodup.of_map Fin.val ?_
      rw [hslots]
      exact List.nodup_range'
    obtain ⟨hfresh, hrest⟩ := List.nodup_cons.mp hnodup
    simp only [List.map_cons, List.length_cons, List.range'_succ, List.cons.injEq] at hslots
    obtain ⟨hj, htail⟩ := hslots
    have hskip : (g.table.peers j).mixed.isActive = false ∨ (i = 0 ∧ g.capture.micTestLoopback = false) ↔
        ¬ g.Mixes j := by
      have hslot : j = loopbackSlot ↔ i = 0 := by
        rw [← hj, Fin.ext_iff]
        rfl
      simp only [Mixes, hslot, PeerStream.mixed]
      grind
    have hkept : ∀ (g' : VoiceEngine) (acc' : List Float32),
        (slots.foldl mixSlot (g', acc')).1.table.peers j = g'.table.peers j := by
      intro g' acc'
      rw [foldl_mixSlot slots hrest]
      exact if_neg fun h => hfresh h.1
    rw [List.foldl_cons, List.map_cons, Mixer.mixPeers]
    by_cases hmixes : g.Mixes j
    · let p := g.table.peers j
      let g' := g.setPeer j { p with ring := (VoiceEngine.mixPeer p.userVolume acc p.ring).2 }
      have hslot : mixSlot (g, acc) j = (g', (VoiceEngine.mixPeer p.userVolume acc p.ring).1) := by
        simp only [mixSlot, if_pos hmixes, g', p]
      have hothers : (slots.map fun k => (g.table.peers k).mixed) =
          slots.map fun k => (g'.table.peers k).mixed := by
        refine List.map_congr_left fun k hk => ?_
        have hne : k ≠ j := fun heq => hfresh (heq ▸ hk)
        simp only [g', setPeer_peers, Function.update_of_ne hne]
      have hpeers : Mixer.mixPeers g.capture.micTestLoopback (i + 1)
          (slots.map fun k => (g'.table.peers k).mixed) (VoiceEngine.mixPeer p.userVolume acc p.ring).1 = _ :=
        ih htail g' _
      rw [if_neg (by rw [hskip]; exact not_not_intro hmixes), hslot, List.map_cons, hkept, hothers]
      simp only [PeerStream.mixed, ← mixPeer_eq_mixer]
      simp only [PeerStream.mixed] at hpeers
      simp only [p] at hpeers ⊢
      rw [hpeers]
      simp [g', p]
    · rw [if_pos (hskip.mpr hmixes), mixSlot_of_not_mixes hmixes, ih htail]
      simp only [List.map_cons, hkept]

theorem softLimit_eq_mixer (mixed : Float32) : Mixer.softLimit mixed = softLimit mixed := by
  unfold Mixer.softLimit softLimit
  with_reducible_and_instances rfl

theorem mixer_mixChunk (g : VoiceEngine) (chunk : Nat) :
    g.mixer.mixChunk chunk = ((g.mixChunk chunk).1.mixer, (g.mixChunk chunk).2) := by
  have hslots : (List.finRange maxPeers).map Fin.val = List.range' 0 (List.finRange maxPeers).length := by
    rw [List.length_finRange, ← List.range_eq_range']
    exact List.map_coe_finRange_eq_range
  have hloop := foldl_mixSlot_mixer hslots g (List.replicate chunk 0.0)
  have hglobals : (g.mixChunk chunk).1.capture = g.capture ∧ (g.mixChunk chunk).1.localDeafened = g.localDeafened ∧
      (g.mixChunk chunk).1.playing = g.playing := by
    rw [mixChunk_fst]
    exact ⟨rfl, rfl, rfl⟩
  obtain ⟨hcapture, hdeaf, hplaying⟩ := hglobals
  have hchunk : g.mixChunk chunk =
      (((List.finRange maxPeers).foldl mixSlot (g, List.replicate chunk 0.0)).1,
        ((List.finRange maxPeers).foldl mixSlot (g, List.replicate chunk 0.0)).2.map softLimit) := by
    simp only [mixChunk]
  have hlimit : (Mixer.softLimit : Float32 → Int16) = softLimit := funext softLimit_eq_mixer
  simp only [Mixer.mixChunk, mixer, hcapture, hdeaf, hplaying, hlimit, hloop]
  rw [hchunk]

theorem mixer_mixLoop (g : VoiceEngine) (samplesRemaining : Nat) :
    g.mixer.mixLoop samplesRemaining =
      ((g.mixLoop samplesRemaining).1.mixer, (g.mixLoop samplesRemaining).2) := by
  induction samplesRemaining using Nat.strong_induction_on generalizing g with
  | _ samplesRemaining ih =>
    rw [mixLoop, Mixer.mixLoop]
    split
    · rfl
    · next hsome =>
      have hless : samplesRemaining - min samplesRemaining samplesPerFrame < samplesRemaining := by
        simp only [samplesPerFrame]
        omega
      simp only [mixer_mixChunk, ih _ hless]

/-- The mixer of the engine is the mixer over the operations of the program. -/
theorem mixer_mixAudioStreams (g : VoiceEngine) (frameSamples : Nat) :
    g.mixer.mixAudioStreams frameSamples =
      ((g.mixAudioStreams frameSamples).1.mixer, (g.mixAudioStreams frameSamples).2) := by
  have hdeaf : g.mixer.localDeafened = g.localDeafened := rfl
  simp only [mixAudioStreams, Mixer.mixAudioStreams, hdeaf]
  split
  · rfl
  · exact g.mixer_mixLoop frameSamples

theorem map_duplicate (channels frameOffset : Nat) (monoBuf : List Int16) :
    (Mixer.duplicate channels frameOffset monoBuf).map Prod.snd = monoBuf.flatMap (List.replicate channels) := by
  have hframes : ∀ k, (monoBuf.zipIdx k).flatMap (fun x => List.replicate channels x.1) =
      monoBuf.flatMap (List.replicate channels) := by
    intro k
    rw [← List.flatMap_map Prod.fst, List.zipIdx_map_fst]
  rw [Mixer.duplicate, List.map_flatMap, ← hframes 0]
  refine List.flatMap_congr fun x _ => ?_
  rw [List.map_map]
  exact List.map_const'.trans (by rw [List.length_range])

theorem mixer_playbackLoop (g : VoiceEngine) (channels frameOffset framesRemaining : Nat) :
    ((g.mixer.playbackLoop channels frameOffset framesRemaining).1,
        (g.mixer.playbackLoop channels frameOffset framesRemaining).2.map Prod.snd) =
      ((g.playbackLoop channels framesRemaining).1.mixer, (g.playbackLoop channels framesRemaining).2) := by
  induction framesRemaining using Nat.strong_induction_on generalizing g frameOffset with
  | _ framesRemaining ih =>
    rw [playbackLoop, Mixer.playbackLoop]
    split
    · rfl
    · next hsome =>
      have hless : framesRemaining - min framesRemaining samplesPerFrame < framesRemaining := by
        simp only [samplesPerFrame]
        omega
      obtain ⟨hstreams, hsamples⟩ := Prod.ext_iff.mp (ih _ hless
        (g.mixAudioStreams (min framesRemaining samplesPerFrame)).1
        (frameOffset + min framesRemaining samplesPerFrame))
      simp only [mixer_mixAudioStreams, List.map_append, map_duplicate]
      exact Prod.ext hstreams (congrArg (_ ++ ·) hsamples)

/-- The callback of the engine writes the same samples, in the same order. -/
theorem mixer_playbackCallback (g : VoiceEngine) (hasOutput : Bool) (channels frameCount : Nat) :
    ((g.mixer.playbackCallback hasOutput channels frameCount).1,
        (g.mixer.playbackCallback hasOutput channels frameCount).2.map Prod.snd) =
      ((g.playbackCallback hasOutput channels frameCount).1.mixer,
        (g.playbackCallback hasOutput channels frameCount).2) := by
  have hplaying : g.mixer.playing = g.playing := rfl
  have hdeaf : g.mixer.localDeafened = g.localDeafened := rfl
  simp only [playbackCallback, Mixer.playbackCallback, hplaying, hdeaf]
  by_cases hnone : hasOutput = false ∨ frameCount = 0
  · simp only [if_pos hnone, List.map_nil]
  · simp only [if_neg hnone]
    generalize (if 0 < channels then channels else 1) = channels
    by_cases hquiet : g.playing = false ∨ g.localDeafened = true
    · simp only [if_pos hquiet, List.map_map, Function.comp_def, List.map_const', List.length_range]
    · simp only [if_neg hquiet]
      by_cases hmono : channels ≤ 1
      · simp only [if_pos hmono, mixer_mixAudioStreams, List.map_map]
        exact Prod.ext rfl (List.zipIdx_map_fst _ _)
      · simp only [if_neg hmono]
        exact g.mixer_playbackLoop channels 0 frameCount

end VoiceEngine

end low_latency_voice.client
