import LowLatencyVoice.Audio.RouterLaws

open low_latency_voice.model low_latency_voice.storage

namespace low_latency_voice.audio

variable {Addr : Type} [DecidableEq Addr] {u : UInt32}

namespace SessionManager

/-- What the indexes say of user `u` is the same in `sm'` as in `sm`, and so is its
session, whose clock alone may have been set to `now`. -/
structure Undisturbed (now : Time) (u : UInt32) (sm sm' : SessionManager Addr) : Prop where
  byUser : sm'.byUser.get? u = sm.byUser.get? u
  byChannel : ∀ c, sm'.byChannel.get₂ c u = sm.byChannel.get₂ c u
  session : ∀ {ref}, sm.byUser.get? u = some ref →
    sm'.heap ref = sm.heap ref ∨ sm'.heap ref = (sm.heap ref).touch now

omit [DecidableEq Addr] in
theorem Undisturbed.refl (now : Time) (u : UInt32) (sm : SessionManager Addr) :
    Undisturbed now u sm sm :=
  ⟨rfl, fun _ => rfl, fun _ => .inl rfl⟩

omit [DecidableEq Addr] in
theorem Undisturbed.trans {now : Time} {sm sm' sm'' : SessionManager Addr}
    (h : Undisturbed now u sm sm') (h' : Undisturbed now u sm' sm'') : Undisturbed now u sm sm'' where
  byUser := h'.byUser.trans h.byUser
  byChannel c := (h'.byChannel c).trans (h.byChannel c)
  session {ref} hu := by
    rcases h'.session (h.byUser.trans hu) with hkept | htouched
    · rw [hkept]
      exact h.session hu
    · right
      rcases h.session hu with hkept | hbefore
      · rw [htouched, hkept]
      · rw [htouched, hbefore]
        rfl

/-- A write through the pointer of somebody else. -/
theorem undisturbed_modify {sm : SessionManager Addr} (h : sm.Owned) (now : Time) {v : UInt32}
    {ref : SessionRef} (hv : sm.byUser.get? v = some ref) (huv : u ≠ v)
    (f : Session Addr → Session Addr) : Undisturbed now u sm (sm.modify ref f) where
  byUser := rfl
  byChannel _ := rfl
  session {r} hr := by
    have hne : r ≠ ref := by
      rintro rfl
      exact huv (h.user_unique hr hv)
    left
    simp [modify, Function.update_of_ne hne]

omit [DecidableEq Addr] in
/-- A touch moves a clock, whoever it belongs to. -/
theorem undisturbed_touch (sm : SessionManager Addr) (now : Time) (ref : SessionRef) :
    Undisturbed now u sm (sm.modify ref fun s => s.touch now) where
  byUser := rfl
  byChannel _ := rfl
  session {r} hr := by
    by_cases heq : r = ref
    · subst r
      right
      simp [modify]
    · left
      simp [modify, Function.update_of_ne heq]

theorem undisturbed_updateAddr {sm : SessionManager Addr} (h : sm.Owned) (now : Time) {v : UInt32}
    (huv : u ≠ v) (addr : Option Addr) : Undisturbed now u sm (sm.updateAddr now v addr) := by
  unfold updateAddr
  split
  · exact .refl now u sm
  · rename_i ref hv
    have hmodify := undisturbed_modify h now hv huv fun s => s.setAddr now addr
    exact ⟨hmodify.byUser, hmodify.byChannel, hmodify.session⟩

/-- A new session replaces its own user's and takes its own user's place in a room. -/
theorem undisturbed_install {sm : SessionManager Addr} (h : sm.Owned) (now : Time) {s : Session Addr}
    (hus : u ≠ s.userID) : Undisturbed now u sm (sm.install s) where
  byUser := by rw [install_byUser, if_neg hus]
  byChannel c := by
    rw [install_byChannel sm s (fun hu => (h.user hu).1), if_neg (fun hc => hus hc.2),
      if_neg (fun hc => hus hc.1)]
  session {ref} hu := by
    left
    rw [install_heap, Function.update_of_ne (h.user hu).1.ne]

end SessionManager

namespace Router

open SessionManager

/-- A voice packet moves and marks the session of its sender. -/
theorem undisturbed_handleVoice {r : Router Addr} (h : r.sessions.Owned) (now : Time) {pkt : Packet}
    (rawData : GoBytes) (srcAddr : Addr) (hu : u ≠ pkt.senderID) :
    Undisturbed now u r.sessions (r.handleVoice now pkt rawData srcAddr).1.sessions := by
  have hroam : ∀ ref, Undisturbed now u r.sessions (roam r.sessions now ref pkt.senderID srcAddr) := by
    intro ref
    unfold roam
    split
    · exact .refl now u _
    · exact undisturbed_updateAddr h now hu _
  obtain ⟨e, heq⟩ | ⟨ref, sm, hv, -, rfl, hcases⟩ := handleVoice_cases h now pkt rawData srcAddr
  · rw [heq]
    exact .refl now u _
  · obtain ⟨-, heq⟩ | ⟨-, sm', notified, rfl, -, heq⟩ := hcases
    · rw [heq]
      exact hroam ref
    · rw [heq]
      have hrefreshed := roam_refreshed h now ref pkt.senderID srcAddr
      have hreg : (roam r.sessions now ref pkt.senderID srcAddr).byUser.get? pkt.senderID = some ref := by
        rw [hrefreshed.byUser]
        exact hv
      have hmark := undisturbed_modify hrefreshed.owned now hreg hu fun s =>
        (s.updateSpeakingState now pkt.vad pkt.energyLevel).1
      exact (hroam ref).trans hmark

/-- A ping that claims no registered sender finds a session at its own address, and
can only touch it. -/
theorem undisturbed_refresh {sm : SessionManager Addr} (h : sm.Owned) (now : Time) {pkt : Packet}
    (srcAddr : Addr) (hu : u ≠ pkt.senderID) : Undisturbed now u sm (refresh sm now pkt srcAddr) := by
  unfold refresh
  split
  · exact .refl now u sm
  · rename_i ref href
    split
    · exact undisturbed_touch sm now ref
    · rename_i hmoved
      rcases Option.or_eq_some_iff.mp href with hv | ⟨-, ha⟩
      · exact undisturbed_updateAddr h now (by rw [(h.user hv).2]; exact hu) _
      · exact absurd (h.addr ha).2 hmoved

omit [DecidableEq Addr] in
theorem undisturbed_swept {sm sm' : SessionManager Addr} {now : Time} {token : Token}
    (hswept : Swept sm now token sm') : Undisturbed now u sm sm' := by
  obtain rfl | ⟨-, rfl⟩ := hswept
  · exact .refl now u _
  · exact ⟨rfl, fun _ => rfl, fun _ => .inl rfl⟩

theorem undisturbed_fallback {sm : SessionManager Addr} (h : sm.Owned) (now : Time) {pkt : Packet}
    (srcAddr : Addr) (hu : u ≠ pkt.senderID) : Undisturbed now u sm (fallback sm now pkt srcAddr) := by
  cases href : sm.byUser.get? pkt.senderID with
  | some ref =>
    rw [fallback_of_some href]
    have howned := h.modify ref (fun s => { s with channelID := pkt.channelID }) rfl rfl
    exact (undisturbed_modify h now href hu _).trans (undisturbed_updateAddr howned now hu _)
  | none =>
    rw [fallback_of_none href]
    exact undisturbed_install h now hu

theorem undisturbed_handleHandshake {r : Router Addr} (h : r.sessions.Owned) (now : Time) (fault : Fault)
    {pkt : Packet} (srcAddr : Addr) (hu : u ≠ pkt.senderID) :
    Undisturbed now u r.sessions (r.handleHandshake now fault pkt srcAddr).1.sessions := by
  obtain ⟨pt, -, heq⟩ | ⟨-, rows, vt, sm, -, hrow, hswept, heq⟩ | ⟨-, -, sm, _, hswept, -, heq⟩ :=
    handleHandshake_cases r now fault pkt srcAddr <;> rw [heq]
  · have hdelete : Undisturbed now u r.sessions { r.sessions with
        pendingTokens := r.sessions.pendingTokens.delete (tokenStr pkt) } :=
      ⟨rfl, fun _ => rfl, fun _ => .inl rfl⟩
    exact hdelete.trans (undisturbed_install (h.of_pendingTokens _) now hu)
  · obtain ⟨-, -, -, huser, -⟩ := hrow
    refine (undisturbed_swept hswept).trans (undisturbed_install (hswept.owned h) now ?_)
    rw [newSession, huser]
    exact hu
  · exact (undisturbed_swept hswept).trans (undisturbed_fallback (hswept.owned h) now srcAddr hu)

/-- A datagram is its sender's business. Whatever type it has and whatever becomes of
it, every other user keeps its session object, its rooms and every field of its session
but the clock, which does not run backwards; a datagram that does not parse changes
nothing. -/
theorem handlePacket_undisturbed {r : Router Addr} (h : r.sessions.Owned) (now : Time) (fault : Fault)
    (data : GoBytes) (srcAddr : Addr) :
    (∀ e, decodeInto data = .error e → r.handlePacket now fault data srcAddr = (r, .silent (.error e))) ∧
    ∀ pkt, decodeInto data = .ok pkt → ∀ u, u ≠ pkt.senderID →
      Undisturbed now u r.sessions (r.handlePacket now fault data srcAddr).1.sessions ∧
      ∀ ref, r.sessions.byUser.get? u = some ref → (r.sessions.heap ref).lastSeen ≤ now →
        (r.sessions.heap ref).lastSeen ≤
          ((r.handlePacket now fault data srcAddr).1.sessions.heap ref).lastSeen := by
  have hlater : ∀ {sm sm' : SessionManager Addr} {u : UInt32}, Undisturbed now u sm sm' →
      ∀ ref, sm.byUser.get? u = some ref → (sm.heap ref).lastSeen ≤ now →
        (sm.heap ref).lastSeen ≤ (sm'.heap ref).lastSeen := by
    intro sm sm' u hsame ref hu hpast
    rcases hsame.session hu with hkept | htouched
    · exact Int.le_of_eq (by rw [hkept])
    · rw [htouched]
      exact hpast
  constructor
  · intro e he
    simp [handlePacket, he]
  · intro pkt hdec u hu
    have hsame : Undisturbed now u r.sessions (r.handlePacket now fault data srcAddr).1.sessions := by
      by_cases hvoice : pkt.type = typeVoice
      · rw [handlePacket_voice hdec hvoice]
        exact undisturbed_handleVoice h now data srcAddr hu
      · by_cases hping : pkt.type = typePing
        · rw [handlePacket_ping hdec hping]
          exact undisturbed_refresh h now srcAddr hu
        · by_cases hshake : pkt.type = typeHandshake
          · rw [handlePacket_handshake hdec hshake]
            exact undisturbed_handleHandshake h now fault srcAddr hu
          · obtain ⟨result, heq⟩ := handlePacket_other r now fault srcAddr
              (fun p hp => by cases hdec.symm.trans hp; exact ⟨hvoice, hping, hshake⟩)
            rw [heq]
            exact .refl now u _
    exact ⟨hsame, hlater hsame⟩

/-- Users 1 and 2 in one room, behind one address. -/
def sharedAddress : Router Nat where
  sessions := (SessionManager.new.install (newSession 0 1 5 11 (some 4))).install
    (newSession 0 2 5 12 (some 4))
  validator := none
  notifier := true
  writer := true

/-- A ping of an unknown sender from that address leaves user 1 alone. -/
theorem handlePacket_undisturbed_sharedAddress :
    Undisturbed 30 1 sharedAddress.sessions
      (sharedAddress.handlePacket 30 .none
        [0x56, 1, 2, 0, 0, 0, 0, 9, 0, 0, 0, 0, 0, 0, 0, 0, 0, 0, 0, 0] 4).1.sessions := by
  have hfirst : (SessionManager.new.install (newSession 0 1 5 11 (some (4 : Nat)))).Owned :=
    owned_new.install _
  have howned : sharedAddress.sessions.Owned := hfirst.install (newSession 0 2 5 12 (some 4))
  obtain ⟨pkt, hpkt, hsender⟩ : ∃ pkt, decodeInto [0x56, 1, 2, 0, 0, 0, 0, 9, 0, 0, 0, 0, 0, 0, 0, 0,
      0, 0, 0, 0] = .ok pkt ∧ pkt.senderID = 9 := ⟨_, rfl, by decide⟩
  exact ((handlePacket_undisturbed howned 30 .none _ 4).2 pkt hpkt 1 (by rw [hsender]; decide)).1

end Router

end low_latency_voice.audio
