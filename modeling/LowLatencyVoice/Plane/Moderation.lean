import LowLatencyVoice.Plane.Forwarding

open low_latency_voice.model low_latency_voice.storage low_latency_voice.audio

namespace low_latency_voice.plane

variable {Addr : Type} [DecidableEq Addr]

/-- The datagram is a voice packet. -/
def IsVoice (data : GoBytes) : Prop := ∃ pkt, decodeInto data = .ok pkt ∧ pkt.type = typeVoice

/-- The datagram is a voice packet with this sender. -/
def VoiceFrom (userID : UInt32) (data : GoBytes) : Prop :=
  ∃ pkt, decodeInto data = .ok pkt ∧ pkt.type = typeVoice ∧ pkt.senderID = userID

/-- A server mute took effect on the user's session and was not taken back. -/
def MutedSince (r₀ : Router Addr) (u : UInt32) : List (PlaneEvent Addr) → Prop :=
  Machine.Since
    (fun pre e => e = .setServerMute u true ∧ ((media.run r₀ pre).sessions.session? u).isSome)
    (fun e => e = .setServerMute u false ∨ e = .removeSession u)

def DeafenedSince (r₀ : Router Addr) (u : UInt32) : List (PlaneEvent Addr) → Prop :=
  Machine.Since
    (fun pre e => e = .setServerDeafen u true ∧ ((media.run r₀ pre).sessions.session? u).isSome)
    (fun e => e = .setServerDeafen u false ∨ e = .removeSession u)

/-- While a user is server-muted nobody is sent its voice. -/
def MutedIsSilent (r₀ : Router Addr) : List (PlaneEvent Addr) → Prop :=
  Machine.Along fun pre e => ∀ u, MutedSince r₀ u pre →
    ∀ p ∈ (media.out (media.run r₀ pre) e).written, ¬ VoiceFrom u p.1

/-- While a user is server-deafened no voice is sent to its session's address. -/
def DeafenedIsDeaf (r₀ : Router Addr) : List (PlaneEvent Addr) → Prop :=
  Machine.Along fun pre e => ∀ u, DeafenedSince r₀ u pre →
    ∀ s, (media.run r₀ (pre ++ [e])).sessions.session? u = some s →
    ∀ p ∈ (media.out (media.run r₀ pre) e).written, s.addr = some p.2 → ¬ IsVoice p.1

/-- The event leaves `u` the session object it has: a handshake of `u` is
refused by both stores and finds a session, and nothing registers one for `u`. -/
def KeepsSession (r : Router Addr) (u : UInt32) (e : PlaneEvent Addr) : Prop :=
  (∀ now fault pkt, Handshake e now fault pkt → pkt.senderID = u →
      ¬ Router.Accepts r now fault pkt ∧ (r.sessions.session? u).isSome) ∧
    ∀ s, e = .registerSession s → s.userID ≠ u

/-- No open ear in the sender's room, other than the session of `u` itself,
sits at the address `u` has once the packet is handled. -/
def AloneAtAddr (r : Router Addr) (u : UInt32) (e : PlaneEvent Addr) : Prop :=
  ∀ pkt data srcAddr, Voice e pkt data srcAddr → ∀ s, r.sessions.session? u = some s →
    ∀ v ref, v ≠ pkt.senderID → r.sessions.byChannel.get₂ pkt.channelID v = some ref →
      (r.sessions.heap ref).addr = (if u = pkt.senderID then some srcAddr else s.addr) →
      (r.sessions.heap ref).serverDeafened = false → r.sessions.byUser.get? u = some ref

/-- The user keeps its session object while a moderator's flag is on it, and
while deafened it shares its address with no open ear of the speaker's room. -/
def FlagsUndisturbed (r₀ : Router Addr) : List (PlaneEvent Addr) → Prop :=
  Machine.Along fun pre e => ∀ u,
    (MutedSince r₀ u pre → KeepsSession (media.run r₀ pre) u e) ∧
    (DeafenedSince r₀ u pre → KeepsSession (media.run r₀ pre) u e ∧ AloneAtAddr (media.run r₀ pre) u e)

/-- Only the moderator's calls change the flags of a session that is kept. -/
theorem flags_step {r : Router Addr} (h : r.sessions.Owned) {u : UInt32} {e : PlaneEvent Addr}
    (hkeeps : KeepsSession r u e) {s' : Session Addr} (hs : (step r e).1.sessions.session? u = some s') :
    ∃ s, r.sessions.session? u = some s ∧ s'.flags = (onStanding u s.standing e).2 := by
  obtain ⟨now, fault, pkt, hshake, hu, -, -, hflags⟩ | ⟨s, rfl, hu, -⟩ | ⟨standing, hold, heq⟩ :=
    standing_step h (congrArg (Option.map Session.standing) hs)
  · obtain ⟨hrej, hsome⟩ := hkeeps.1 now fault pkt hshake hu
    obtain ⟨s, hs₀⟩ := Option.isSome_iff_exists.mp hsome
    obtain ⟨data, srcAddr, rfl, -⟩ := hshake
    refine ⟨s, hs₀, ?_⟩
    have hsame := hflags hrej
    rw [hs₀] at hsame
    exact hsame
  · exact absurd hu (hkeeps.2 s rfl)
  · obtain ⟨s, hs₀, rfl⟩ := Option.map_eq_some_iff.mp hold
    exact ⟨s, hs₀, congrArg Prod.snd heq⟩

/-- The answer to a ping is a pong. -/
theorem not_isVoice_of_ping {r : Router Addr} {now : Time} {pkt : Packet} {srcAddr : Addr}
    {p : GoBytes × Addr} (hp : p ∈ (r.handlePing now pkt srcAddr).2.written) : ¬ IsVoice p.1 := by
  rintro ⟨pkt', hdec, htype⟩
  simp only [Router.handlePing] at hp
  split at hp
  · rename_i hsent
    rw [List.mem_singleton] at hp
    subst hp
    have hpong := encodeInto_type (Router.pong pkt) maxPacketSize (by simp_all)
    rw [← decodeInto_type hdec, htype] at hpong
    exact absurd hpong (by simp [Router.pong, typeVoice, typePong])
  · cases hp

/-- Only voice packets make the router write voice. -/
theorem voice_of_written {r : Router Addr} {e : PlaneEvent Addr} {p : GoBytes × Addr}
    (hp : p ∈ (step r e).2.written) (hvoice : IsVoice p.1) :
    ∃ now pkt data srcAddr, Voice e pkt data srcAddr ∧
      ∀ r', step r' e = r'.handleVoice now pkt data srcAddr := by
  cases e with
  | datagram now fault data srcAddr =>
    by_cases hknown : ∃ pkt, decodeInto data = .ok pkt ∧ (pkt.type = typeVoice ∨ pkt.type = typePing ∨
        pkt.type = typeHandshake)
    · obtain ⟨pkt, hdec, htype | htype | htype⟩ := hknown
      · exact ⟨now, pkt, data, srcAddr, ⟨now, fault, rfl, hdec, htype⟩,
          fun r' => Router.handlePacket_voice hdec htype⟩
      · rw [step, Router.handlePacket_ping hdec htype] at hp
        exact absurd hvoice (not_isVoice_of_ping hp)
      · rw [step, Router.handlePacket_handshake hdec htype, Router.handleHandshake_outcome] at hp
        cases hp
    · obtain ⟨result, heq⟩ := Router.handlePacket_other r now fault srcAddr fun pkt hdec => by
        refine ⟨?_, ?_, ?_⟩ <;> intro htype <;> exact hknown ⟨pkt, hdec, by simp [htype]⟩
      rw [step, heq] at hp
      cases hp
  | _ => cases hp

/-- Where a voice datagram on the wire comes from: the event is the voice packet
itself, its sender is unmuted, and the address belongs to an open ear that the
routing table lists in the sender's room. -/
theorem written_voice {r : Router Addr} (h : r.sessions.Owned) {e : PlaneEvent Addr} {p : GoBytes × Addr}
    (hp : p ∈ (step r e).2.written) (hvoice : IsVoice p.1) :
    ∃ pkt srcAddr, Voice e pkt p.1 srcAddr ∧
      (∃ s, r.sessions.session? pkt.senderID = some s ∧ s.serverMuted = false) ∧
      (∀ u s, (step r e).1.sessions.session? u = some s → ∃ s₀, r.sessions.session? u = some s₀ ∧
        s.addr = if u = pkt.senderID then some srcAddr else s₀.addr) ∧
      ∃ v ref, v ≠ pkt.senderID ∧ r.sessions.byChannel.get₂ pkt.channelID v = some ref ∧
        (r.sessions.heap ref).addr = some p.2 ∧ (r.sessions.heap ref).serverDeafened = false := by
  obtain ⟨now, pkt, data, srcAddr, hev, hstep⟩ := voice_of_written hp hvoice
  rw [hstep] at hp ⊢
  obtain ⟨e, heq⟩ | ⟨ref, sm, hreg, -, rfl, ⟨-, heq⟩ | ⟨hunmuted, sm', notified, rfl, -, heq⟩⟩ :=
    Router.handleVoice_cases h now pkt data srcAddr <;> rw [heq] at hp ⊢
  · cases hp
  · cases hp
  · obtain ⟨lastSeen, hheap⟩ := Router.roam_heap hreg now srcAddr
    have hroam := Router.roam_refreshed h now ref pkt.senderID srcAddr
    have hreg' := (congrArg (GoMap.get? · pkt.senderID) hroam.byUser).trans hreg
    simp only [List.mem_ite_nil_right, forward_getChannelPeers, List.mem_map] at hp
    obtain ⟨-, ⟨v, a⟩, hlisted, rfl⟩ := hp
    obtain ⟨hne, ref', hlisted, haddr, hopen⟩ := mem_listeners_iff.mp hlisted
    refine ⟨pkt, srcAddr, hev, ⟨r.sessions.heap ref, by simp [SessionManager.session?, hreg], ?_⟩, ?_,
      v, ref', hne, ?_⟩
    · simpa [hheap] using hunmuted
    · intro u s hs
      rw [SessionManager.session?_modify hroam.owned hreg'] at hs
      by_cases hu : u = pkt.senderID
      · subst hu
        simp only [if_true, SessionManager.session?, hreg', Option.map_some] at hs
        cases hs
        refine ⟨r.sessions.heap ref, by simp [SessionManager.session?, hreg], ?_⟩
        simp [Session.updateSpeakingState, hheap]
      · rw [if_neg hu, session?_roam h now ref hu srcAddr] at hs
        exact ⟨s, hs, (if_neg hu).symm⟩
    · have hroom : r.sessions.byChannel.get₂ pkt.channelID v = some ref' := by
        rw [← Router.roam_byChannel r.sessions now ref pkt.senderID srcAddr]
        exact hlisted
      -- the listed session is another user's, so roaming did not touch it
      have hother : ref' ≠ ref := by
        rintro rfl
        exact hne ((h.channel hroom).2.symm.trans (h.user hreg).2)
      simp only [SessionManager.modify, hheap, ne_eq, hother, not_false_eq_true,
        Function.update_of_ne] at haddr hopen
      exact ⟨hroom, haddr, hopen⟩

/-- A session under a standing mute is muted. -/
theorem muted_of_mutedSince {r₀ : Router Addr} (h₀ : r₀.sessions.Owned) {es : List (PlaneEvent Addr)}
    (hok : FlagsUndisturbed r₀ es) {u : UInt32} (hsince : MutedSince r₀ u es) {s : Session Addr}
    (hs : (media.run r₀ es).sessions.session? u = some s) : s.serverMuted = true := by
  induction es using List.reverseRecOn generalizing s with
  | nil => exact absurd hsince Machine.not_since_nil
  | append_singleton pre e ih =>
    rw [Machine.run_concat] at hs
    obtain ⟨rfl, -⟩ | ⟨hearlier, hopen⟩ := Machine.since_concat_iff.mp hsince
    · have hkeeps : KeepsSession (media.run r₀ pre) u (.setServerMute u true) :=
        ⟨by rintro _ _ _ ⟨_, _, ⟨⟩, -⟩, by rintro _ ⟨⟩⟩
      obtain ⟨s₀, -, heq⟩ := flags_step (run_owned h₀ pre) hkeeps hs
      rw [onStanding_setServerMute] at heq
      exact congrArg Prod.fst heq
    · obtain ⟨s₀, hs₀, heq⟩ := flags_step (run_owned h₀ pre) ((hok.last u).1 hearlier) hs
      exact (congrArg Prod.fst heq).trans
        (onStanding_muted (fun heq => hopen (.inl heq)) (ih hok.front hearlier hs₀))

theorem deafened_of_deafenedSince {r₀ : Router Addr} (h₀ : r₀.sessions.Owned)
    {es : List (PlaneEvent Addr)} (hok : FlagsUndisturbed r₀ es) {u : UInt32}
    (hsince : DeafenedSince r₀ u es) {s : Session Addr}
    (hs : (media.run r₀ es).sessions.session? u = some s) : s.serverDeafened = true := by
  induction es using List.reverseRecOn generalizing s with
  | nil => exact absurd hsince Machine.not_since_nil
  | append_singleton pre e ih =>
    rw [Machine.run_concat] at hs
    obtain ⟨rfl, -⟩ | ⟨hearlier, hopen⟩ := Machine.since_concat_iff.mp hsince
    · have hkeeps : KeepsSession (media.run r₀ pre) u (.setServerDeafen u true) :=
        ⟨by rintro _ _ _ ⟨_, _, ⟨⟩, -⟩, by rintro _ ⟨⟩⟩
      obtain ⟨s₀, -, heq⟩ := flags_step (run_owned h₀ pre) hkeeps hs
      rw [onStanding_setServerDeafen] at heq
      exact congrArg Prod.snd heq
    · obtain ⟨s₀, hs₀, heq⟩ := flags_step (run_owned h₀ pre) ((hok.last u).2 hearlier).1 hs
      exact (congrArg Prod.snd heq).trans
        (onStanding_deafened (fun heq => hopen (.inl heq)) (ih hok.front hearlier hs₀))

/-- In every run that leaves flagged sessions undisturbed, a muted user is not
heard and a deafened user hears nothing. -/
theorem flags_enforced_of_undisturbed (validator : Option VoiceTokens) (notifier writer : Bool)
    (es : List (PlaneEvent Addr)) (hok : FlagsUndisturbed (newRouter validator notifier writer) es) :
    MutedIsSilent (newRouter validator notifier writer) es ∧
      DeafenedIsDeaf (newRouter validator notifier writer) es := by
  have h₀ : (newRouter validator notifier writer : Router Addr).sessions.Owned := SessionManager.owned_new
  constructor
  · rintro pre e post rfl u hsince p hp ⟨pkt, hdec, htype, rfl⟩
    obtain ⟨pkt', srcAddr, ⟨_, _, -, hdec', -⟩, ⟨s, hs, hunmuted⟩, -⟩ :=
      written_voice (run_owned h₀ pre) hp ⟨pkt, hdec, htype⟩
    cases hdec.symm.trans hdec'
    have hmuted := muted_of_mutedSince h₀ hok.front hsince hs
    rw [hmuted] at hunmuted
    cases hunmuted
  · rintro pre e post rfl u hsince s hs p hp haddr hvoice
    rw [Machine.run_concat] at hs
    obtain ⟨pkt, srcAddr, hev, -, haddrs, v, ref, hne, hlisted, hat, hopen⟩ :=
      written_voice (run_owned h₀ pre) hp hvoice
    obtain ⟨s₀, hs₀, hfinal⟩ := haddrs u s hs
    have hsame : (media.run (newRouter validator notifier writer) pre).sessions.byUser.get? u =
        some ref := by
      refine ((hok pre e post rfl u).2 hsince).2 pkt p.1 srcAddr hev s₀ hs₀ v ref hne hlisted ?_ hopen
      rw [hat, ← haddr, hfinal]
    have hdeaf := deafened_of_deafenedSince h₀ hok.front hsince
      (by rw [SessionManager.session?, hsame]; rfl)
    rw [hdeaf] at hopen
    cases hopen

/-- The server-muted user 7 repeats its handshake with a made-up token and speaks. -/
theorem flags_enforced_of_undisturbed_rehandshake :
    let es : List (PlaneEvent Nat) := [.registerSession (newSession 0 7 3 5 (some 10)),
      .registerSession (newSession 0 8 3 6 (some 20)), .setServerMute 7 true,
      .datagram 1 .none (frame typeHandshake 7 3 [0x78]) 11,
      .datagram 2 .none (frame typeVoice 7 3 [0x61]) 11]
    MutedIsSilent (newRouter (some ∅) true true) es ∧ DeafenedIsDeaf (newRouter (some ∅) true true) es := by
  refine flags_enforced_of_undisturbed (some ∅) true true _ ?_
  simp only [FlagsUndisturbed, Machine.along_cons_iff]
  refine ⟨fun u => ⟨fun hmuted => ?_, fun hdeaf => ?_⟩, fun u => ⟨fun hmuted => ?_, fun hdeaf => ?_⟩,
    fun u => ⟨fun _ => ?_, fun hdeaf => ?_⟩, fun u => ⟨fun _ => ?_, fun hdeaf => ?_⟩,
    fun u => ⟨fun _ => ?_, fun hdeaf => ?_⟩, Machine.along_nil⟩
  all_goals
    try
      obtain ⟨_, e, he, rfl, -⟩ := Machine.Since.exists_mem hdeaf
      simp at he
  · exact absurd hmuted Machine.not_since_nil
  · obtain ⟨_, e, he, rfl, -⟩ := Machine.Since.exists_mem hmuted
    simp at he
  · exact ⟨by rintro _ _ _ ⟨_, _, ⟨⟩, -⟩, by rintro _ ⟨⟩⟩
  · refine ⟨?_, by rintro _ ⟨⟩⟩
    rintro now fault pkt hshake rfl
    obtain ⟨rfl, rfl, hdec, -⟩ := handshake_datagram_iff.mp hshake
    cases hdec
    exact ⟨Router.not_accepts rfl rfl, rfl⟩
  · refine ⟨?_, by rintro _ ⟨⟩⟩
    rintro now fault pkt hshake
    obtain ⟨-, -, hdec, htype⟩ := handshake_datagram_iff.mp hshake
    cases hdec
    exact absurd htype (by decide)

/-- User 7 is admitted with the token `x` it was issued for channel 3, is
server-muted, and sends the same handshake again. -/
def replayedHandshake : List (PlaneEvent Nat) :=
  [.createVoiceToken 0 .none [0x78] 7 3 5 100, .registerPending [0x78] 7 3 5 100,
    .registerSession (newSession 0 8 3 6 (some 20)),
    .datagram 1 .none (frame typeHandshake 7 3 [0x78]) 10, .setServerMute 7 true,
    .datagram 2 .none (frame typeHandshake 7 3 [0x78]) 10]

/-- The stored copy of the token gives user 7 a fresh session, and user 8 hears it. -/
theorem replayed_handshake_sheds_mute :
    ¬ MutedIsSilent (newRouter (some ∅) true true)
      (replayedHandshake ++ [.datagram 3 .none (frame typeVoice 7 3 [0x61]) 10]) := by
  intro hsilent
  have hmuted : MutedSince (newRouter (some ∅) true true) 7 replayedHandshake :=
    ⟨replayedHandshake.take 4, _, [_], rfl, ⟨rfl, by decide⟩, by simp⟩
  refine hsilent replayedHandshake _ [] rfl 7 hmuted (frame typeVoice 7 3 [0x61], 20) ?_
    ⟨_, rfl, by decide, by decide⟩
  decide

end low_latency_voice.plane
