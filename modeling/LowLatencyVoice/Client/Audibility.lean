import LowLatencyVoice.Client.Notifiers
import LowLatencyVoice.Client.Streams
import LowLatencyVoice.Lib.Seating

namespace low_latency_voice.client

open control (VoiceStateUpdate)

theorem peerSlots_nodup : peerSlots.Nodup := (List.drop_sublist 1 _).nodup (List.nodup_finRange maxPeers)

namespace PeerTable

/-- The user who has a slot. -/
def holder (g : PeerTable) (i : Fin maxPeers) : Option UInt32 :=
  if (g.peers i).isActive then some (g.peers i).userId else none

/-- The stream of a user. -/
def streamOf (g : PeerTable) (userId : UInt32) : Option (RingBuffer Int16 ringBufferSize) :=
  (Seating.seatOf peerSlots g.holder userId).map fun i => (g.peers i).ring

/-- From `g` to `g'` the samples are appended to the user's stream, which starts empty
for a user who had none, and the streams of the others stay as they are. -/
def Appends (g g' : PeerTable) (userId : UInt32) (samples : List Int16) : Prop :=
  ∃ r, (g.streamOf userId = some r ∨ g.streamOf userId = none ∧ r.queued = []) ∧
    g'.streamOf userId = some (r.pushAll samples) ∧
    ∀ v, v ≠ userId → g'.streamOf v = g.streamOf v

theorem holder_eq_some_iff (g : PeerTable) (i : Fin maxPeers) (userId : UInt32) :
    g.holder i = some userId ↔ (g.peers i).isActive = true ∧ (g.peers i).userId = userId := by
  unfold holder
  split
  · rename_i hactive
    simp [hactive]
  · rename_i hfree
    simp [hfree]

theorem holder_eq_none_iff (g : PeerTable) (i : Fin maxPeers) :
    g.holder i = none ↔ (g.peers i).isActive = false := by
  unfold holder
  split <;> simp_all

theorem find?_own (g : PeerTable) (userId : UInt32) :
    (peerSlots.find? fun i => (g.peers i).isActive && (g.peers i).userId == userId) =
      Seating.seatOf peerSlots g.holder userId := by
  unfold Seating.seatOf
  congr 1
  funext i
  unfold holder
  cases (g.peers i).isActive
  · simp
  · simp

theorem find?_free (g : PeerTable) :
    (peerSlots.find? fun i => !(g.peers i).isActive) = Seating.freeSeat peerSlots g.holder := by
  unfold Seating.freeSeat
  congr 1
  funext i
  unfold holder
  cases (g.peers i).isActive
  · simp
  · simp

/-- A sender's audio goes to the slot the sender is given. -/
theorem map_peerFor (g : PeerTable) (senderId : UInt32) :
    (g.peerFor senderId).map Prod.fst = Seating.seatFor peerSlots g.holder senderId := by
  unfold peerFor Seating.seatFor
  rw [find?_own, find?_free]
  cases Seating.seatOf peerSlots g.holder senderId with
  | some i => rfl
  | none =>
    simp only
    cases Seating.freeSeat peerSlots g.holder <;> rfl

/-- A slot written for the user who is given it. -/
theorem holder_write (g : PeerTable) {i : Fin maxPeers} {p : PeerStream} {userId : UInt32}
    (hactive : p.isActive = true) (huser : p.userId = userId)
    (hfor : Seating.seatFor peerSlots g.holder userId = some i) :
    { g with peers := Function.update g.peers i p }.holder = Seating.seat peerSlots g.holder userId := by
  rw [Seating.seat_of_seatFor hfor]
  funext j
  by_cases hj : j = i
  · subst hj
    simp [holder, hactive, huser]
  · simp [holder, Function.update_of_ne hj]

/-- Afterwards the user's stream is the one written, and the others have theirs. -/
theorem streamOf_write (g : PeerTable) {i : Fin maxPeers} {p : PeerStream} {userId : UInt32}
    (hactive : p.isActive = true) (huser : p.userId = userId)
    (hfor : Seating.seatFor peerSlots g.holder userId = some i) :
    { g with peers := Function.update g.peers i p }.streamOf userId = some p.ring ∧
      ∀ v, v ≠ userId → { g with peers := Function.update g.peers i p }.streamOf v = g.streamOf v := by
  constructor
  · rw [streamOf, holder_write g hactive huser hfor, Seating.seatOf_seat_self hfor]
    simp
  · intro v hv
    rw [streamOf, holder_write g hactive huser hfor, Seating.seatOf_seat_of_ne g.holder hv, streamOf]
    cases hseat : Seating.seatOf peerSlots g.holder v with
    | none => rfl
    | some j =>
      have hj : j ≠ i := by
        intro hji
        subst hji
        have hheld := (Seating.seatOf_eq_some hseat).2
        obtain hown | ⟨hfree, -⟩ := (Seating.seatFor_eq_some hfor).2
        · rw [hown] at hheld
          exact hv (Option.some.inj hheld).symm
        · rw [hfree] at hheld
          cases hheld
      simp only [Option.map_some, Function.update_of_ne hj]

/-- The slot a user is given holds the user's stream, or is free and the user has
none. -/
theorem streamOf_of_seatFor {g : PeerTable} {i : Fin maxPeers} {userId : UInt32}
    (hfor : Seating.seatFor peerSlots g.holder userId = some i) :
    (g.peers i).isActive = true ∧ g.streamOf userId = some (g.peers i).ring ∨
      (g.peers i).isActive = false ∧ g.streamOf userId = none := by
  unfold streamOf
  cases hown : Seating.seatOf peerSlots g.holder userId with
  | some j =>
    have hji : j = i := by simpa [Seating.seatFor, hown] using hfor
    subst hji
    exact .inl ⟨((g.holder_eq_some_iff j userId).mp (Seating.seatOf_eq_some hown).2).1, rfl⟩
  | none =>
    have hfree : Seating.freeSeat peerSlots g.holder = some i := by simpa [Seating.seatFor, hown] using hfor
    exact .inr ⟨(g.holder_eq_none_iff i).mp (Seating.freeSeat_eq_some hfree).2, rfl⟩

/-- The slots after a datagram. -/
theorem holder_feedInboundPacket (g : PeerTable) (packetBytes : Option GoBytes) (length : UInt32) :
    (g.feedInboundPacket packetBytes length).1.holder =
      match readInbound packetBytes length with
      | some hdr => Seating.seat peerSlots g.holder hdr.senderId
      | none => g.holder := by
  cases packetBytes with
  | none => rfl
  | some bytes =>
    simp only [feedInboundPacket]
    cases readInbound (some bytes) length with
    | none => rfl
    | some hdr =>
      simp only
      have hfor := g.map_peerFor hdr.senderId
      cases hfound : g.peerFor hdr.senderId with
      | none =>
        rw [hfound] at hfor
        simp only [Seating.seat, ← hfor, Option.map_none]
      | some found =>
        obtain ⟨i, peer⟩ := found
        obtain ⟨-, -, huser, hactive, -⟩ := peerFor_eq_some hfound
        rw [hfound] at hfor
        exact holder_write g hactive huser hfor.symm

/-- A datagram's samples are appended to its sender's stream exactly when the sender
has a slot afterwards. -/
theorem appends_feedInboundPacket_iff (g : PeerTable) {packetBytes : Option GoBytes} {length : UInt32}
    {hdr : InboundHeader} (hread : readInbound packetBytes length = some hdr) :
    g.Appends (g.feedInboundPacket packetBytes length).1 hdr.senderId
        (samplesOf ((packetBytes.getD []).drop 20) (min (hdr.payloadLen.toNat / 2) samplesPerFrame)) ↔
      ∃ i ∈ peerSlots, (g.feedInboundPacket packetBytes length).1.holder i = some hdr.senderId := by
  constructor
  · rintro ⟨r, -, hstream, -⟩
    rw [streamOf, Option.map_eq_some_iff] at hstream
    obtain ⟨i, hi, -⟩ := hstream
    exact ⟨i, Seating.seatOf_eq_some hi⟩
  · intro hheld
    cases packetBytes with
    | none => cases hread
    | some bytes =>
      simp only [feedInboundPacket, hread] at hheld ⊢
      have hfor := g.map_peerFor hdr.senderId
      cases hfound : g.peerFor hdr.senderId with
      | none =>
        rw [hfound] at hheld hfor
        obtain ⟨i, hi, hholder⟩ := hheld
        have hseated := (Seating.seatOf_isSome_iff peerSlots g.holder hdr.senderId).mpr ⟨i, hi, hholder⟩
        obtain ⟨j, hj⟩ := Option.isSome_iff_exists.mp hseated
        simp [Seating.seatFor, hj] at hfor
      | some found =>
        obtain ⟨i, peer⟩ := found
        obtain ⟨-, -, huser, hactive, hring⟩ := peerFor_eq_some hfound
        rw [hfound] at hfor
        have hseat := hfor.symm
        simp only [Option.map_some] at hseat
        have hwrite := streamOf_write g (p := { peer with
          isSpeaking := hdr.vad
          ring := peer.ring.pushAll
            (samplesOf (bytes.drop 20) (min (hdr.payloadLen.toNat / 2) samplesPerFrame)) })
          hactive huser hseat
        refine ⟨peer.ring, ?_, hwrite.1, hwrite.2⟩
        obtain ⟨hold, hstream⟩ | ⟨hfree, hnone⟩ := streamOf_of_seatFor hseat
        · rw [if_pos hold] at hring
          exact .inl (by rw [hring, hstream])
        · rw [if_neg (by simp [hfree])] at hring
          exact .inr ⟨hnone, by rw [hring]; exact (g.peers i).ring.queued_reset⟩

end PeerTable

namespace VoiceEngine

/-- The slots after a volume was set. -/
theorem holder_setUserVolume (g : VoiceEngine) (userId : UInt32) (volumeMultiplier : Float32) :
    (g.setUserVolume userId volumeMultiplier).table.holder =
      if userId = 0 then g.table.holder else Seating.seat peerSlots g.table.holder userId := by
  unfold setUserVolume
  split
  · rfl
  · rw [g.table.find?_own, g.table.find?_free]
    cases hown : Seating.seatOf peerSlots g.table.holder userId with
    | some i =>
      have hslot := (g.table.holder_eq_some_iff i userId).mp (Seating.seatOf_eq_some hown).2
      exact g.table.holder_write hslot.1 hslot.2 (by simp only [Seating.seatFor, hown])
    | none =>
      simp only
      cases hfree : Seating.freeSeat peerSlots g.table.holder with
      | some i => exact g.table.holder_write rfl rfl (by simp only [Seating.seatFor, hown, hfree])
      | none => simp only [Seating.seat, Seating.seatFor, hown, hfree]

theorem holder_drained (g : VoiceEngine) (n : Nat) : (g.drained n).table.holder = g.table.holder := by
  funext i
  simp only [PeerTable.holder, drained, withPeers]
  split <;> rfl

theorem holder_mixAudioStreams (g : VoiceEngine) (frameSamples : Nat) :
    (g.mixAudioStreams frameSamples).1.table.holder = g.table.holder := by
  rw [mixAudioStreams_fst]
  split
  · rfl
  · exact g.holder_drained frameSamples

theorem holder_clearPeers (g : VoiceEngine) (i : Fin maxPeers) : g.clearPeers.table.holder i = none := rfl

end VoiceEngine

/-- What happens to the streams between two `voice_engine_clear_peers`. -/
inductive StayEvent where
  | feedInboundPacket (packetBytes : Option GoBytes) (length : UInt32)
  | setUserVolume (userId : UInt32) (volumeMultiplier : Float32)
  | mixAudioStreams (frameSamples : Nat)
  | voiceStateUpdate (data : VoiceStateUpdate)

/-- The engine and the state of `VoiceNotifier` during one stay in a channel. -/
def stay (currentUserId : UInt32) : Machine (VoiceEngine × state.VoiceStateModel) StayEvent Unit where
  step s
    | .feedInboundPacket packetBytes length => (((s.1.feedInboundPacket packetBytes length).1, s.2), ())
    | .setUserVolume userId volumeMultiplier => ((s.1.setUserVolume userId volumeMultiplier, s.2), ())
    | .mixAudioStreams frameSamples => (((s.1.mixAudioStreams frameSamples).1, s.2), ())
    | .voiceStateUpdate data =>
      ((s.1, (state.VoiceNotifier.onEvent currentUserId s.2 (.voiceStateUpdate data)).1), ())

namespace StayEvent

/-- The user an event looks for a slot for: the sender of a well-formed packet, or who
is given a volume. -/
def claimant : StayEvent → Option UInt32
  | .feedInboundPacket packetBytes length => (readInbound packetBytes length).map InboundHeader.senderId
  | .setUserVolume userId _ => if userId = 0 then none else some userId
  | _ => none

/-- The first users to send or to be given a volume, as many as there are slots for
remote users. -/
def firstClaimants (es : List StayEvent) : List UInt32 :=
  Seating.firstComers peerSlots (es.filterMap claimant)

/-- Who has sent or been given a volume and not left since. -/
def attend (users : List UInt32) (e : StayEvent) : List UInt32 :=
  match e with
  | .voiceStateUpdate data =>
    if data.channelID.join = none ∨ data.channelID.join = some 0 then users.erase data.userID else users
  | e =>
    match e.claimant with
    | some userId => if userId ∈ users then users else users ++ [userId]
    | none => users

/-- Who attends after the events `es`. -/
def attendance (es : List StayEvent) : List UInt32 := es.foldl attend []

/-- A well-formed packet's samples go to the stream of its own sender. -/
def Heard (g g' : PeerTable) : StayEvent → Prop
  | .feedInboundPacket packetBytes length =>
    ∀ hdr, readInbound packetBytes length = some hdr →
      g.Appends g' hdr.senderId
        (samplesOf ((packetBytes.getD []).drop 20) (min (hdr.payloadLen.toNat / 2) samplesPerFrame))
  | _ => True

/-- A well-formed packet comes from one of the first claimants. -/
def FromFirst (pre : List StayEvent) (e : StayEvent) : Prop :=
  match e with
  | .feedInboundPacket packetBytes length =>
    ∀ hdr, readInbound packetBytes length = some hdr → hdr.senderId ∈ firstClaimants (pre ++ [e])
  | _ => True

instance (pre : List StayEvent) (e : StayEvent) : Decidable (e.FromFirst pre) :=
  match e with
  | .feedInboundPacket packetBytes length =>
    inferInstanceAs (Decidable (∀ hdr ∈ readInbound packetBytes length, hdr.senderId ∈ firstClaimants _))
  | .setUserVolume _ _ => inferInstanceAs (Decidable True)
  | .mixAudioStreams _ => inferInstanceAs (Decidable True)
  | .voiceStateUpdate _ => inferInstanceAs (Decidable True)

end StayEvent

/-- Every talker of the run is heard. -/
def EveryTalkerHeard (currentUserId : UInt32) (s : VoiceEngine × state.VoiceStateModel)
    (es : List StayEvent) : Prop :=
  Machine.Along (fun pre e =>
    e.Heard ((stay currentUserId).run s pre).1.table ((stay currentUserId).run s (pre ++ [e])).1.table) es

/-- The slots after an event. -/
theorem holder_stay (currentUserId : UInt32) (s : VoiceEngine × state.VoiceStateModel) (e : StayEvent) :
    ((stay currentUserId).next s e).1.table.holder =
      e.claimant.elim s.1.table.holder fun userId => Seating.seat peerSlots s.1.table.holder userId := by
  cases e with
  | feedInboundPacket packetBytes length =>
    refine (s.1.table.holder_feedInboundPacket packetBytes length).trans ?_
    simp only [StayEvent.claimant]
    cases readInbound packetBytes length <;> rfl
  | setUserVolume userId volumeMultiplier =>
    refine (s.1.holder_setUserVolume userId volumeMultiplier).trans ?_
    simp only [StayEvent.claimant]
    split <;> rfl
  | mixAudioStreams frameSamples => exact s.1.holder_mixAudioStreams frameSamples
  | voiceStateUpdate data => rfl

/-- From a cleared table on, the slots are handed out in the order of the requests,
and no event takes one back. -/
theorem holder_run_stay (currentUserId : UInt32) (g : VoiceEngine) (model : state.VoiceStateModel)
    (es : List StayEvent) :
    ((stay currentUserId).run (g.clearPeers, model) es).1.table.holder =
      (es.filterMap StayEvent.claimant).foldl (Seating.seat peerSlots) g.clearPeers.table.holder := by
  induction es using List.reverseRecOn with
  | nil => rfl
  | append_singleton es e ih =>
    rw [Machine.run_concat, holder_stay, ih, List.filterMap_append, List.foldl_append]
    cases hclaim : e.claimant with
    | none => simp [hclaim]
    | some userId => simp [hclaim]

theorem seated_stay (currentUserId : UInt32) (g : VoiceEngine) (model : state.VoiceStateModel)
    (es : List StayEvent) :
    Seating.Seated peerSlots ((stay currentUserId).run (g.clearPeers, model) es).1.table.holder
      (StayEvent.firstClaimants es) := by
  rw [holder_run_stay]
  exact Seating.seated_foldl peerSlots peerSlots_nodup (fun i _ => g.holder_clearPeers i) _

/-- One event is heard exactly when it comes from one of the first claimants. -/
theorem heard_iff_fromFirst (currentUserId : UInt32) (g : VoiceEngine) (model : state.VoiceStateModel)
    (pre : List StayEvent) (e : StayEvent) :
    e.Heard ((stay currentUserId).run (g.clearPeers, model) pre).1.table
        ((stay currentUserId).run (g.clearPeers, model) (pre ++ [e])).1.table ↔ e.FromFirst pre := by
  have hseated := (seated_stay currentUserId g model (pre ++ [e])).members
  rw [Machine.run_concat] at hseated ⊢
  cases e with
  | feedInboundPacket packetBytes length =>
    unfold StayEvent.Heard StayEvent.FromFirst
    refine forall₂_congr fun hdr hread => ?_
    rw [← hseated]
    exact PeerTable.appends_feedInboundPacket_iff _ hread
  | setUserVolume userId volumeMultiplier => exact Iff.rfl
  | mixAudioStreams frameSamples => exact Iff.rfl
  | voiceStateUpdate data => exact Iff.rfl

/-- During a stay every talker is heard exactly when all who talk are among the first
users to send or to be given a volume. That a peer left does not enter into it. -/
theorem everyTalkerHeard_iff (currentUserId : UInt32) (g : VoiceEngine) (model : state.VoiceStateModel)
    (es : List StayEvent) :
    EveryTalkerHeard currentUserId (g.clearPeers, model) es ↔
      Machine.Along (fun pre e => e.FromFirst pre) es := by
  unfold EveryTalkerHeard Machine.Along
  refine forall_congr' fun pre => forall_congr' fun e => forall₂_congr fun post heq => ?_
  exact heard_iff_fromFirst currentUserId g model pre e

/-- A frame of two samples from a user. -/
def speechOf (userId : UInt32) : StayEvent :=
  .feedInboundPacket (some (speech.take 4 ++ GoBytes.putUint32 userId ++ speech.drop 8)) 24

/-- Users 1 to 31 talk and leave one after the other, and then user 32 talks. -/
def longStay : List StayEvent :=
  ((List.range 31).flatMap fun k =>
    [speechOf (UInt32.ofNat (k + 1)), .voiceStateUpdate (.left (UInt32.ofNat (k + 1)) none)]) ++ [speechOf 32]

/-- The room never holds more than one of them, and the last one is not heard. -/
theorem longStay_inaudible :
    (∀ pre ∈ longStay.inits, (StayEvent.attendance pre).length ≤ 31) ∧
      ∀ model, ¬ EveryTalkerHeard 99 (VoiceEngine.load.clearPeers, model) longStay := by
  refine ⟨by decide +kernel, fun model h => ?_⟩
  have hlast := (heard_iff_fromFirst 99 VoiceEngine.load model _ (speechOf 32)).mp h.last
  exact absurd hlast (by decide +kernel)

end low_latency_voice.client
