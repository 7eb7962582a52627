import Mathlib.Logic.Relation
import LowLatencyVoice.Client.Speech
import LowLatencyVoice.Control.Arrivals
import LowLatencyVoice.Plane.Forwarding

open low_latency_voice.model low_latency_voice.storage low_latency_voice.audio low_latency_voice.control
  low_latency_voice.plane

namespace low_latency_voice.client

/-- The clients, the server, and what they have handed to the network: the datagrams the
clients have sent, and those the server has written. `said` is auxiliary: which of the former
are speech, and what is said in them. -/
structure Conference (Addr : Type) where
  clients : Nat → Participant
  server : Backend Addr
  said : List (Utterance × GoBytes)
  sent : List GoBytes
  written : List (GoBytes × Addr)

namespace Conference

variable {Addr : Type}

/-- Nobody has sent anything. -/
def Silent (s : Conference Addr) : Prop := s.said = [] ∧ s.sent = [] ∧ s.written = []

def withClient (s : Conference Addr) (i : Nat) (f : Participant → Participant) : Conference Addr :=
  { s with clients := Function.update s.clients i (f (s.clients i)) }

/-- An event at a client, which says something if it is a tick of the frame pump. -/
def act (s : Conference Addr) (i : Nat) (event : ClientEvent) : Conference Addr :=
  let v := (s.clients i).voice
  let (v', datagram) := clientStep v event
  { s.withClient i fun p => { p with voice := v' } with
    said := s.said ++ (datagram.map fun d => (v.utterance, d)).toList
    sent := s.sent ++ datagram.toList }

/-- A tick of the ping timer of a client. -/
def ping (s : Conference Addr) (i : Nat) (timestamp : UInt32) : Conference Addr :=
  let (voiceClient, datagram) := (s.clients i).voice.voiceClient.pingTick timestamp
  { s.withClient i fun p => { p with voice := { p.voice with voiceClient } } with sent := s.sent ++ datagram.toList }

/-- A handshake of a client, the first or one sent again. -/
def handshake (s : Conference Addr) (i : Nat) (packet : VoicePacket) : Conference Addr :=
  { s with sent := s.sent ++ ((s.clients i).voice.voiceClient.sendPacket packet).toList }

variable [DecidableEq Addr]

/-- The server reads a datagram. -/
def receive (s : Conference Addr) (now : Time) (fault : Fault) (d : GoBytes) (srcAddr : Addr) : Conference Addr :=
  { s with
    server := s.server.receive now fault d srcAddr
    written := s.written ++ (s.server.router.handlePacket now fault d srcAddr).2.written }

/-- A step anywhere. A `connection` is whatever a `connect`, an `updateChannel` or a
`disconnect` in progress leaves, a `table` whatever any other call of the engine leaves. The
network may lose, delay, repeat and reorder datagrams, and bring them to any client. -/
inductive Step (go : GoLibrary) (s : Conference Addr) : Conference Addr → Prop
  | act (i : Nat) (event : ClientEvent) : Step go s (s.act i event)
  | connection (i : Nat) (voiceClient : VoiceClient) :
    Step go s (s.withClient i fun p => { p with voice := { p.voice with voiceClient } })
  | signIn (i : Nat) (currentUserId : Option UInt32) :
    Step go s (s.withClient i fun p => { p with currentUserId })
  | table (i : Nat) (table : PeerTable) : Step go s (s.withClient i fun p => { p with table })
  | ping (i : Nat) (timestamp : UInt32) : Step go s (s.ping i timestamp)
  | handshake (i : Nat) (packet : VoicePacket) (htype : packet.type = packetTypeHandshake) :
    Step go s (s.handshake i packet)
  | serve (arrival : Arrival Addr) (hno : ∀ now fault data srcAddr, arrival ≠ .datagram now fault data srcAddr) :
    Step go s { s with server := s.server.arrive go arrival }
  | receive (now : Time) (fault : Fault) {d : GoBytes} (srcAddr : Addr) (hd : d ∈ s.sent) :
    Step go s (s.receive now fault d srcAddr)
  | deliver (i : Nat) {d : GoBytes} {addr : Addr} (hd : (d, addr) ∈ s.written) :
    Step go s (s.withClient i fun p => p.handleInboundDatagram d)

/-- The states that a conference comes to. -/
def Reached (go : GoLibrary) (s : Conference Addr) : Prop :=
  ∃ s₀ : Conference Addr, s₀.Silent ∧ Relation.ReflTransGen (Step go) s₀ s

/-- What holds in every state: what was said is in its datagram, and nothing else on the
network is speech. -/
structure Sound (s : Conference Addr) : Prop where
  said : ∀ u d, (u, d) ∈ s.said → ∃ pkt, Spells d u pkt
  sent : ∀ d ∈ s.sent, (∃ u, (u, d) ∈ s.said) ∨ d.getD 2 0 ≠ packetTypeVoice
  written : ∀ w ∈ s.written, w.1 ∈ s.sent ∨ w.1.getD 2 0 ≠ packetTypeVoice

section server

/-- What an accepted frame is written to: the others of its room. -/
theorem handleVoice_accepted {r : Router Addr} {now : Time} {pkt : Packet} {d : GoBytes} {srcAddr : Addr}
    (hok : (r.handleVoice now pkt d srcAddr).2.result = .ok ()) (hwriter : r.writer = true) :
    (r.handleVoice now pkt d srcAddr).2.written =
      (listeners (r.handleVoice now pkt d srcAddr).1.sessions pkt.channelID pkt.senderID).map fun l => (d, l.2) := by
  unfold Router.handleVoice at hok ⊢
  split at hok
  · cases hok
  simp only at hok ⊢
  split at hok
  · cases hok
  split at hok
  · cases hok
  rename_i hchannel hmuted
  rw [if_neg hchannel, if_neg hmuted]
  simp only [hwriter, if_true]
  exact forward_getChannelPeers _ _ _ _

theorem pong_type (pkt : Packet) (dstLen : Nat) :
    ((Router.pong pkt).encodeInto dstLen).getD 2 0 ≠ packetTypeVoice := by
  unfold Packet.encodeInto
  split
  · decide
  · change typePong ≠ packetTypeVoice
    decide

theorem handleHandshake_silent (r : Router Addr) (now : Time) (fault : Fault) (pkt : Packet) (srcAddr : Addr) :
    (r.handleHandshake now fault pkt srcAddr).2.written = [] := by
  unfold Router.handleHandshake
  simp only
  split
  · rfl
  · split <;> rfl

/-- The server writes what it has read, or a pong. -/
theorem written_handlePacket (r : Router Addr) (now : Time) (fault : Fault) (d : GoBytes) (srcAddr : Addr) :
    ∀ w ∈ (r.handlePacket now fault d srcAddr).2.written, w.1 = d ∨ w.1.getD 2 0 ≠ packetTypeVoice := by
  intro w hw
  unfold Router.handlePacket at hw
  split at hw
  · cases hw
  split at hw
  · refine .inl ?_
    unfold Router.handleVoice at hw
    split at hw
    · cases hw
    simp only at hw
    split at hw
    · cases hw
    split at hw
    · cases hw
    simp only at hw
    split at hw
    · rw [forward_getChannelPeers] at hw
      obtain ⟨l, -, rfl⟩ := List.mem_map.mp hw
      rfl
    · cases hw
  split at hw
  · refine .inr ?_
    simp only [Router.handlePing] at hw
    split at hw
    · rw [List.mem_singleton.mp hw]
      exact pong_type _ _
    · cases hw
  split at hw
  · rw [handleHandshake_silent] at hw
    cases hw
  · split at hw <;> cases hw

end server

section steps

omit [DecidableEq Addr] in
theorem sound_of_silent {s : Conference Addr} (h : s.Silent) : s.Sound := by
  obtain ⟨hsaid, hsent, hwritten⟩ := h
  refine ⟨fun u d hmem => ?_, fun d hmem => ?_, fun w hmem => ?_⟩
  · rw [hsaid] at hmem
    cases hmem
  · rw [hsent] at hmem
    cases hmem
  · rw [hwritten] at hmem
    cases hmem

/-- Only a tick of the frame pump sends something, and that is what is said. -/
theorem spells_clientStep {v : VoiceNotifier} {event : ClientEvent} {d : GoBytes}
    (hsent : (clientStep v event).2 = some d) : ∃ pkt, Spells d v.utterance pkt := by
  cases event with
  | framePumpTick => exact spells_tick hsent
  | _ => cases hsent

omit [DecidableEq Addr] in
theorem Sound.act {s : Conference Addr} (h : s.Sound) (i : Nat) (event : ClientEvent) : (s.act i event).Sound := by
  have hold : ∀ u d, (u, d) ∈ s.said → (u, d) ∈ (s.act i event).said := fun u d hmem =>
    List.mem_append_left _ hmem
  have holdsent : ∀ d ∈ s.sent, d ∈ (s.act i event).sent := fun d hmem => List.mem_append_left _ hmem
  refine ⟨fun u d hmem => ?_, fun d hmem => ?_, fun w hmem => ?_⟩
  · obtain hbefore | hnew := List.mem_append.mp hmem
    · exact h.said u d hbefore
    · obtain ⟨d', hd', heq⟩ := Option.map_eq_some_iff.mp (Option.mem_toList.mp hnew)
      cases heq
      exact spells_clientStep hd'
  · obtain hbefore | hnew := List.mem_append.mp hmem
    · exact (h.sent d hbefore).imp_left fun ⟨u, hu⟩ => ⟨u, hold u d hu⟩
    · refine .inl ⟨(s.clients i).voice.utterance, List.mem_append_right _ ?_⟩
      exact Option.mem_toList.mpr (Option.map_eq_some_iff.mpr ⟨d, Option.mem_toList.mp hnew, rfl⟩)
  · exact (h.written w hmem).imp_left (holdsent _)

omit [DecidableEq Addr] in
/-- A packet of another type may be sent. -/
theorem Sound.sends {s s' : Conference Addr} (h : s.Sound) {datagram : Option GoBytes}
    (hother : ∀ d, datagram = some d → d.getD 2 0 ≠ packetTypeVoice) (hsaid : s'.said = s.said)
    (hsent : s'.sent = s.sent ++ datagram.toList) (hwritten : s'.written = s.written) : s'.Sound := by
  refine ⟨fun u d hmem => h.said u d (hsaid ▸ hmem), fun d hmem => ?_, fun w hmem => ?_⟩
  · rw [hsent] at hmem
    rw [hsaid]
    obtain hbefore | hnew := List.mem_append.mp hmem
    · exact h.sent d hbefore
    · exact .inr (hother d (Option.mem_toList.mp hnew))
  · rw [hsent]
    exact (h.written w (hwritten ▸ hmem)).imp_left (List.mem_append_left _)

theorem Sound.step {go : GoLibrary} {s s' : Conference Addr} (h : s.Sound) (hstep : Step go s s') : s'.Sound := by
  cases hstep with
  | act i event => exact h.act i event
  | ping i timestamp =>
    refine h.sends (fun d hd => ?_) rfl rfl rfl
    obtain ⟨-, packet, rfl, -, -, htype⟩ := ((s.clients i).voice.voiceClient.pingTick_sendsOwn timestamp).sent d hd
    rw [VoicePacket.type_encode, htype]
    decide
  | handshake i packet htype =>
    refine h.sends (fun d hd => ?_) rfl rfl rfl
    rw [VoiceClient.sendPacket_eq_some hd, VoicePacket.type_encode, htype]
    decide
  | receive now fault srcAddr hd =>
    refine ⟨h.said, h.sent, fun w hmem => ?_⟩
    obtain hbefore | hnew := List.mem_append.mp hmem
    · exact h.written w hbefore
    · exact (written_handlePacket _ _ _ _ _ w hnew).imp_left fun heq => by rwa [heq]
  | _ => exact ⟨h.said, h.sent, h.written⟩

theorem sound_of_reached {go : GoLibrary} {s : Conference Addr} (h : Reached go s) : s.Sound := by
  obtain ⟨s₀, hsilent, hruns⟩ := h
  induction hruns with
  | refl => exact sound_of_silent hsilent
  | tail _ hstep ih => exact ih.step hstep

end steps

/-- What is said is what is heard. -/
structure Faithful (s : Conference Addr) : Prop where
  /-- A client that gets a datagram of the server takes in something that was said, or nothing. -/
  delivered : ∀ d addr, (d, addr) ∈ s.written →
    (∀ p : Participant, p.handleInboundDatagram d = p) ∨
      ∃ u, (u, d) ∈ s.said ∧ ∀ p : Participant, p.Takes u (p.handleInboundDatagram d)
  /-- What was said goes to everybody else in the room, if the server accepts it. -/
  forwarded : ∀ u d, (u, d) ∈ s.said → ∀ now fault srcAddr,
    (s.server.router.handlePacket now fault d srcAddr).2.result = .ok () →
      (s.server.router.handlePacket now fault d srcAddr).2.written =
        (listeners (s.server.router.handlePacket now fault d srcAddr).1.sessions u.channelId u.userId).map
          fun l => (d, l.2)

/-- Clients that have just been started. -/
def started : Conference Nat where
  clients _ := {
    voice := .init true 300 .voiceActivity 0
    currentUserId := none
    table := crowded
    speakingUsers := ∅
    userEnergyLevels := ∅ }
  server := .started .seeded ∅ ∅
  said := []
  sent := []
  written := []

end Conference

end low_latency_voice.client
