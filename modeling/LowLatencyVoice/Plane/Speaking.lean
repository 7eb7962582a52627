import Mathlib.Tactic.SplitIfs
import LowLatencyVoice.Audio.Bystanders
import LowLatencyVoice.Plane.Events
import LowLatencyVoice.Lib.DeltaReports

open low_latency_voice.model low_latency_voice.storage low_latency_voice.audio

namespace low_latency_voice.plane

/-- A speaking bit and an energy level. -/
structure Level where
  speaking : Bool
  energy : UInt8
  deriving DecidableEq, Repr

/-- What a new session has. -/
def silence : Level := ⟨false, 0⟩

/-- How far two energies are apart. -/
def Level.gap (a b : Level) : Nat := ((b.energy.toNat : Int) - a.energy.toNat).natAbs

/-- The change `UpdateSpeakingState` reports. -/
def Level.Jumps (a b : Level) : Prop := a.speaking ≠ b.speaking ∨ 3 ≤ a.gap b

instance : DecidableRel Level.Jumps := fun a b =>
  inferInstanceAs (Decidable (a.speaking ≠ b.speaking ∨ 3 ≤ a.gap b))

variable {Addr : Type}

/-- The level a session has stored. -/
def level (s : Session Addr) : Level := ⟨s.isSpeaking, s.energyLevel⟩

variable [DecidableEq Addr]

/-- The level of the event's packet, if it is a voice packet of `u` and accepted. -/
def voiceLevel? (u : UInt32) (r : Router Addr) : PlaneEvent Addr → Option Level
  | .datagram now fault data srcAddr =>
    match decodeInto data, (r.handlePacket now fault data srcAddr).2.result with
    | .ok pkt, .ok _ =>
      if pkt.type = typeVoice ∧ pkt.senderID = u then some ⟨pkt.vad, pkt.energyLevel⟩ else none
    | _, _ => none
  | _ => none

/-- The last level announced of `u`, after these notices. -/
def lastAnnounced (u : UInt32) (before : Level) (notices : List VoiceStateNotice) : Level :=
  notices.foldl (fun l n => if n.userID = u then ⟨n.speaking, n.energy⟩ else l) before

/-- The media plane with a ledger on user `u`: the levels of its accepted voice packets,
and the last level announced of it. -/
structure Watched (Addr : Type) where
  router : Router Addr
  packets : List Level
  announced : Level

def watch (u : UInt32) : Machine (Watched Addr) (PlaneEvent Addr) Unit where
  step w e :=
    ({ router := media.next w.router e
       packets := w.packets ++ (voiceLevel? u w.router e).toList
       announced := lastAnnounced u w.announced (media.out w.router e).notified }, ())

/-- A packet that is no voice packet of `u` is not in its ledger. -/
theorem voiceLevel?_eq_none {u : UInt32} {r : Router Addr} (now : Time) (fault : Fault) {data : GoBytes}
    (srcAddr : Addr) {pkt : Packet} (hdec : decodeInto data = .ok pkt)
    (h : ¬ (pkt.type = typeVoice ∧ pkt.senderID = u)) :
    voiceLevel? u r (.datagram now fault data srcAddr) = none := by
  simp only [voiceLevel?, hdec]
  cases (r.handlePacket now fault data srcAddr).2.result with
  | error e => rfl
  | ok done => exact if_neg h

theorem run_watch_router (u : UInt32) (w : Watched Addr) (es : List (PlaneEvent Addr)) :
    ((watch u).run w es).router = media.run w.router es := by
  induction es using List.reverseRecOn with
  | nil => rfl
  | append_singleton pre e ih =>
    rw [Machine.run_concat, Machine.run_concat, ← ih]
    rfl

omit [DecidableEq Addr] in
/-- `UpdateSpeakingState` in these terms. -/
theorem updateSpeakingState_eq (s : Session Addr) (now : Time) (speaking : Bool) (energy : UInt8) :
    level (s.updateSpeakingState now speaking energy).1 = ⟨speaking, energy⟩ ∧
      ((s.updateSpeakingState now speaking energy).2 = true ↔ (level s).Jumps ⟨speaking, energy⟩) := by
  refine ⟨rfl, ?_⟩
  simp [Session.updateSpeakingState, Level.Jumps, Level.gap, level]

section frames

variable {sm : SessionManager Addr} {ref : SessionRef}

omit [DecidableEq Addr] in
theorem level_modify (sm : SessionManager Addr) (ref r : SessionRef) (f : Session Addr → Session Addr)
    (hf : ∀ s, level (f s) = level s) : level ((sm.modify r f).heap ref) = level (sm.heap ref) := by
  by_cases hr : ref = r
  · subst r
    simp [SessionManager.modify, hf]
  · simp [SessionManager.modify, Function.update_of_ne hr]

theorem level_updateAddr (sm : SessionManager Addr) (ref : SessionRef) (now : Time) (v : UInt32)
    (addr : Option Addr) : level ((sm.updateAddr now v addr).heap ref) = level (sm.heap ref) := by
  unfold SessionManager.updateAddr
  split
  · rfl
  · rename_i r _
    exact level_modify sm ref r (fun s => s.setAddr now addr) fun _ => rfl

theorem level_install (hlt : ref < sm.nextRef) (s : Session Addr) :
    level ((sm.install s).heap ref) = level (sm.heap ref) := by
  rw [SessionManager.install_heap, Function.update_of_ne hlt.ne]

omit [DecidableEq Addr] in
theorem level_withSession (sm : SessionManager Addr) (ref : SessionRef) (v : UInt32)
    (f : Session Addr → Session Addr) (hf : ∀ s, level (f s) = level s) :
    level ((sm.withSession v f).heap ref) = level (sm.heap ref) := by
  unfold SessionManager.withSession
  split
  · rfl
  · exact level_modify sm ref _ f hf

theorem level_fallback (hlt : ref < sm.nextRef) (now : Time) (pkt : Packet) (srcAddr : Addr) :
    level ((Router.fallback sm now pkt srcAddr).heap ref) = level (sm.heap ref) := by
  unfold Router.fallback
  split
  · rename_i r _
    rw [level_updateAddr]
    exact level_modify sm ref r (fun s => { s with channelID := pkt.channelID }) fun _ => rfl
  · exact level_install hlt _

theorem level_handleHandshake {r : Router Addr} (hlt : ref < r.sessions.nextRef) (now : Time)
    (fault : Fault) (pkt : Packet) (srcAddr : Addr) :
    level ((r.handleHandshake now fault pkt srcAddr).1.sessions.heap ref) = level (r.sessions.heap ref) := by
  have hinstall : ∀ sm : SessionManager Addr, sm.heap = r.sessions.heap → sm.nextRef = r.sessions.nextRef →
      ∀ s, level ((sm.install s).heap ref) = level (r.sessions.heap ref) := by
    intro sm hheap hnext s
    rw [level_install (by rw [hnext]; exact hlt), hheap]
  have hswept : ∀ {sm token}, Router.Swept r.sessions now token sm →
      sm.heap = r.sessions.heap ∧ sm.nextRef = r.sessions.nextRef := by
    rintro sm token (rfl | ⟨-, rfl⟩) <;> exact ⟨rfl, rfl⟩
  obtain ⟨pt, -, heq⟩ | ⟨-, rows, vt, sm, -, -, hsm, heq⟩ | ⟨-, -, sm, _, hsm, -, heq⟩ :=
    Router.handleHandshake_cases r now fault pkt srcAddr <;> rw [heq]
  · exact hinstall { r.sessions with
      pendingTokens := r.sessions.pendingTokens.delete (Router.tokenStr pkt) } rfl rfl _
  · exact hinstall sm (hswept hsm).1 (hswept hsm).2 _
  · obtain ⟨hheap, hnext⟩ := hswept hsm
    rw [level_fallback (by rw [hnext]; exact hlt), hheap]

theorem level_refresh (sm : SessionManager Addr) (ref : SessionRef) (now : Time) (pkt : Packet)
    (srcAddr : Addr) : level ((Router.refresh sm now pkt srcAddr).heap ref) = level (sm.heap ref) := by
  unfold Router.refresh
  split
  · rfl
  · split
    · rename_i r _ _
      exact level_modify sm ref r (fun s => s.touch now) fun _ => rfl
    · exact level_updateAddr sm ref now _ _

end frames

theorem level_roam (sm : SessionManager Addr) (ref r : SessionRef) (now : Time) (v : UInt32)
    (srcAddr : Addr) : level ((Router.roam sm now r v srcAddr).heap ref) = level (sm.heap ref) := by
  unfold Router.roam
  split
  · rfl
  · exact level_updateAddr sm ref now v _

section step

variable {r : Router Addr} {u : UInt32} {ref : SessionRef}

theorem step_notifier (h : r.sessions.Owned) (e : PlaneEvent Addr) :
    (media.next r e).notifier = r.notifier := by
  cases e with
  | datagram now fault data srcAddr =>
    change (r.handlePacket now fault data srcAddr).1.notifier = r.notifier
    unfold Router.handlePacket
    cases decodeInto data with
    | error err => rfl
    | ok pkt =>
      simp only
      split_ifs
      · obtain ⟨e, heq⟩ | ⟨ref, sm, -, -, -, ⟨-, heq⟩ | ⟨-, sm', notified, -, -, heq⟩⟩ :=
          Router.handleVoice_cases h now pkt data srcAddr <;> rw [heq]
      · rfl
      · obtain ⟨pt, -, heq⟩ | ⟨-, rows, vt, sm, -, -, -, heq⟩ | ⟨-, -, sm, _, -, -, heq⟩ :=
          Router.handleHandshake_cases r now fault pkt srcAddr <;> rw [heq]
      · rfl
      · rfl
  | _ => rfl

/-- An accepted voice packet stores its level, and announces it if that is a jump. A
dropped one does neither. -/
theorem level_handleVoice (h : r.sessions.Owned) (hu : r.sessions.byUser.get? u = some ref) (now : Time)
    {pkt : Packet} (rawData : GoBytes) (srcAddr : Addr) (hsender : pkt.senderID = u) :
    (∃ e, (r.handleVoice now pkt rawData srcAddr).2 = .silent (.error e) ∧
      level ((r.handleVoice now pkt rawData srcAddr).1.sessions.heap ref) = level (r.sessions.heap ref)) ∨
    (r.handleVoice now pkt rawData srcAddr).2.result = .ok () ∧
      level ((r.handleVoice now pkt rawData srcAddr).1.sessions.heap ref) = ⟨pkt.vad, pkt.energyLevel⟩ ∧
      (r.handleVoice now pkt rawData srcAddr).2.notified =
        if (level (r.sessions.heap ref)).Jumps ⟨pkt.vad, pkt.energyLevel⟩ ∧ r.notifier = true then
          [⟨pkt.channelID, u, pkt.vad, pkt.energyLevel⟩] else [] := by
  obtain ⟨e, heq⟩ | ⟨ref', sm, hv, -, rfl, hcases⟩ := Router.handleVoice_cases h now pkt rawData srcAddr
  · left
    exact ⟨e, by rw [heq], by rw [heq]⟩
  · subst hsender
    rw [hu] at hv
    cases hv
    obtain ⟨-, heq⟩ | ⟨-, sm', notified, rfl, rfl, heq⟩ := hcases
    · left
      exact ⟨.userServerMuted, by rw [heq], by rw [heq]; exact level_roam _ _ _ _ _ _⟩
    · right
      rw [heq]
      refine ⟨rfl, by simp [SessionManager.modify, level, Session.updateSpeakingState], ?_⟩
      obtain ⟨-, hchanged⟩ := updateSpeakingState_eq
        ((Router.roam r.sessions now ref pkt.senderID srcAddr).heap ref) now pkt.vad pkt.energyLevel
      rw [level_roam] at hchanged
      simp only [Bool.and_eq_true, hchanged]

/-- A voice packet of somebody else announces nothing of `u`. -/
theorem notified_handleVoice_of_ne (h : r.sessions.Owned) (now : Time) {pkt : Packet} (rawData : GoBytes)
    (srcAddr : Addr) (hsender : pkt.senderID ≠ u) :
    ∀ n ∈ (r.handleVoice now pkt rawData srcAddr).2.notified, n.userID ≠ u := by
  obtain ⟨e, heq⟩ | ⟨ref, sm, -, -, -, ⟨-, heq⟩ | ⟨-, sm', notified, -, rfl, heq⟩⟩ :=
    Router.handleVoice_cases h now pkt rawData srcAddr <;> rw [heq]
  · intro n hn
    cases hn
  · intro n hn
    cases hn
  · intro n hn
    simp only at hn
    split at hn
    · rw [List.mem_singleton] at hn
      rw [hn]
      exact hsender
    · cases hn

/-- A packet that is no accepted voice packet of `u` leaves his stored level alone. -/
theorem level_handlePacket (h : r.sessions.Owned) (hu : r.sessions.byUser.get? u = some ref) (now : Time)
    (fault : Fault) (data : GoBytes) (srcAddr : Addr) :
    (voiceLevel? u r (.datagram now fault data srcAddr) = none ∧
      level ((r.handlePacket now fault data srcAddr).1.sessions.heap ref) = level (r.sessions.heap ref) ∧
      ∀ n ∈ (r.handlePacket now fault data srcAddr).2.notified, n.userID ≠ u) ∨
    ∃ l channelID, voiceLevel? u r (.datagram now fault data srcAddr) = some l ∧
      level ((r.handlePacket now fault data srcAddr).1.sessions.heap ref) = l ∧
      (r.handlePacket now fault data srcAddr).2.notified =
        if (level (r.sessions.heap ref)).Jumps l ∧ r.notifier = true then
          [⟨channelID, u, l.speaking, l.energy⟩] else [] := by
  have hlt := (h.user hu).1
  cases hdec : decodeInto data with
  | error err =>
    left
    have heq : r.handlePacket now fault data srcAddr = (r, .silent (.error err)) := by
      simp [Router.handlePacket, hdec]
    rw [heq]
    exact ⟨by simp [voiceLevel?, hdec], rfl, fun n hn => by cases hn⟩
  | ok pkt =>
    by_cases hvoice : pkt.type = typeVoice
    · have hstep : r.handlePacket now fault data srcAddr = r.handleVoice now pkt data srcAddr :=
        Router.handlePacket_voice hdec hvoice
      rw [hstep]
      by_cases hsender : pkt.senderID = u
      · obtain ⟨e, hout, hlevel⟩ | ⟨hok, hlevel, hnotified⟩ :=
          level_handleVoice h hu now data srcAddr hsender
        · left
          refine ⟨by simp [voiceLevel?, hdec, hstep, hout, Outcome.silent], hlevel, ?_⟩
          rw [hout]
          exact fun n hn => by cases hn
        · right
          refine ⟨⟨pkt.vad, pkt.energyLevel⟩, pkt.channelID, ?_, hlevel, hnotified⟩
          simp [voiceLevel?, hdec, hstep, hok, hvoice, hsender]
      · left
        refine ⟨voiceLevel?_eq_none now fault srcAddr hdec fun hboth => hsender hboth.2, ?_,
          notified_handleVoice_of_ne h now data srcAddr hsender⟩
        rcases (Router.undisturbed_handleVoice h now data srcAddr (Ne.symm hsender)).session hu with
          hkept | htouched
        · rw [hkept]
        · rw [htouched]
          rfl
    · left
      refine ⟨voiceLevel?_eq_none now fault srcAddr hdec fun hboth => hvoice hboth.1, ?_⟩
      by_cases hping : pkt.type = typePing
      · rw [Router.handlePacket_ping hdec hping]
        exact ⟨level_refresh _ _ _ _ _, fun n hn => by cases hn⟩
      · by_cases hshake : pkt.type = typeHandshake
        · rw [Router.handlePacket_handshake hdec hshake, Router.handleHandshake_outcome]
          exact ⟨level_handleHandshake hlt now fault pkt srcAddr, fun n hn => by cases hn⟩
        · have hknown : ∀ pkt', decodeInto data = .ok pkt' →
              pkt'.type ≠ typeVoice ∧ pkt'.type ≠ typePing ∧ pkt'.type ≠ typeHandshake := by
            intro pkt' hdec'
            cases hdec.symm.trans hdec'
            exact ⟨hvoice, hping, hshake⟩
          obtain ⟨result, heq⟩ := Router.handlePacket_other r now fault srcAddr hknown
          rw [heq]
          exact ⟨rfl, fun n hn => by cases hn⟩

/-- Every other event leaves the stored level alone and announces nothing of `u`. An
accepted voice packet stores its level and announces it if that is a jump. -/
theorem level_step (h : r.sessions.Owned) (hu : r.sessions.byUser.get? u = some ref) (e : PlaneEvent Addr) :
    (voiceLevel? u r e = none ∧ level ((media.next r e).sessions.heap ref) = level (r.sessions.heap ref) ∧
      ∀ n ∈ (media.out r e).notified, n.userID ≠ u) ∨
    ∃ l channelID, voiceLevel? u r e = some l ∧ level ((media.next r e).sessions.heap ref) = l ∧
      (media.out r e).notified = if (level (r.sessions.heap ref)).Jumps l ∧ r.notifier = true then
        [⟨channelID, u, l.speaking, l.energy⟩] else [] := by
  have hlt := (h.user hu).1
  cases e with
  | datagram now fault data srcAddr =>
    exact level_handlePacket h hu now fault data srcAddr
  | registerPending token userID channelID ssrc expiresAt =>
    exact .inl ⟨rfl, rfl, fun n hn => by cases hn⟩
  | createVoiceToken now fault token userID channelID ssrc expiresAt =>
    exact .inl ⟨rfl, rfl, fun n hn => by cases hn⟩
  | registerSession session => exact .inl ⟨rfl, level_install hlt session, fun n hn => by cases hn⟩
  | moveMember userID toChannelID =>
    refine .inl ⟨rfl, ?_, fun n hn => by cases hn⟩
    change level ((r.sessions.moveMember userID toChannelID).heap ref) = _
    unfold SessionManager.moveMember
    split
    · rfl
    · rename_i moved _
      exact level_modify r.sessions ref moved (fun s => { s with channelID := toChannelID }) fun _ => rfl
  | setServerMute userID muted =>
    exact .inl ⟨rfl, level_withSession _ _ _ _ fun _ => rfl, fun n hn => by cases hn⟩
  | setServerDeafen userID deafened =>
    exact .inl ⟨rfl, level_withSession _ _ _ _ fun _ => rfl, fun n hn => by cases hn⟩
  | removeSession userID =>
    refine .inl ⟨rfl, ?_, fun n hn => by cases hn⟩
    change level ((r.sessions.removeSession userID).heap ref) = _
    rw [SessionManager.removeSession_eq]
    split <;> rfl
  | revokePending userID => exact .inl ⟨rfl, rfl, fun n hn => by cases hn⟩
  | revokeVoiceTokens userID => exact .inl ⟨rfl, rfl, fun n hn => by cases hn⟩
  | cleanStaleSessions now maxIdle =>
    have hheap : (r.sessions.cleanStaleSessions now maxIdle).1.heap = r.sessions.heap :=
      SessionManager.cleanStaleSessions_rule r.sessions now maxIdle (fun sm => sm.heap = r.sessions.heap)
        (fun _ _ _ hsm _ _ _ => hsm) (fun _ _ hsm => hsm) rfl
    refine .inl ⟨rfl, ?_, fun n hn => by cases hn⟩
    change level ((r.sessions.cleanStaleSessions now maxIdle).1.heap ref) = _
    rw [hheap]

end step

theorem lastAnnounced_of_ne {u : UInt32} {before : Level} {notices : List VoiceStateNotice}
    (h : ∀ n ∈ notices, n.userID ≠ u) : lastAnnounced u before notices = before := by
  induction notices with
  | nil => rfl
  | cons n rest ih =>
    rw [lastAnnounced, List.foldl_cons, if_neg (h n (by simp))]
    exact ih fun n' hn' => h n' (by simp [hn'])

/-- The ledger is kept by differences: stored is the level of the last packet, announced
that of the last jump. -/
theorem watch_after {r₀ : Router Addr} (h₀ : r₀.sessions.Owned) (hnotifier : r₀.notifier = true)
    {u : UInt32} {ref : SessionRef} (hcreated : level (r₀.sessions.heap ref) = silence)
    (es : List (PlaneEvent Addr))
    (hregistered : ∀ pre post, es = pre ++ post → (media.run r₀ pre).sessions.byUser.get? u = some ref) :
    let w := (watch u).run ⟨r₀, [], silence⟩ es
    level (w.router.sessions.heap ref) = (DeltaReports.after Level.Jumps silence w.packets).stored ∧
      w.announced = (DeltaReports.after Level.Jumps silence w.packets).reported ∧
      w.router.notifier = true := by
  induction es using List.reverseRecOn with
  | nil => exact ⟨hcreated, rfl, hnotifier⟩
  | append_singleton pre e ih =>
    obtain ⟨hstored, hannounced, hset⟩ := ih fun front post heq =>
      hregistered front (post ++ [e]) (by rw [heq, List.append_assoc])
    have hrouter := run_watch_router u ⟨r₀, [], silence⟩ pre
    have howned := run_owned h₀ pre
    have hu := hregistered pre [e] rfl
    rw [← hrouter] at howned hu
    rw [Machine.run_concat]
    set w := (watch u).run ⟨r₀, [], silence⟩ pre
    intro w'
    have hnext : ((watch u).next w e).router = media.next w.router e := rfl
    rw [hnext, step_notifier howned e]
    obtain ⟨hnone, hlevel, hquiet⟩ | ⟨l, channelID, hsome, hlevel, hnotified⟩ := level_step howned hu e
    · have hpackets : ((watch u).next w e).packets = w.packets := by
        change w.packets ++ (voiceLevel? u w.router e).toList = w.packets
        rw [hnone, Option.toList_none, List.append_nil]
      rw [hpackets, hlevel]
      refine ⟨hstored, ?_, hset⟩
      rw [← hannounced]
      exact lastAnnounced_of_ne hquiet
    · have hpackets : ((watch u).next w e).packets = w.packets ++ [l] := by
        change w.packets ++ (voiceLevel? u w.router e).toList = w.packets ++ [l]
        rw [hsome, Option.toList_some]
      rw [hpackets, DeltaReports.after_concat, DeltaReports.take_stored, DeltaReports.take_reported]
      refine ⟨hlevel, ?_, hset⟩
      change lastAnnounced u w.announced (media.out w.router e).notified = _
      rw [hnotified, ← hstored, ← hannounced]
      by_cases hjump : (level (w.router.sessions.heap ref)).Jumps l
      · simp [hjump, hset, lastAnnounced]
      · simp [hjump, lastAnnounced]

/-- The speaking bit announced of a session is the one of its last accepted voice packet.
The energy is that of the last packet that jumped, and two levels off at most for each
packet since. -/
theorem announced_after {r₀ : Router Addr} (h₀ : r₀.sessions.Owned) (hnotifier : r₀.notifier = true)
    {u : UInt32} {ref : SessionRef} (hcreated : level (r₀.sessions.heap ref) = silence)
    (es : List (PlaneEvent Addr))
    (hregistered : ∀ pre post, es = pre ++ post → (media.run r₀ pre).sessions.byUser.get? u = some ref) :
    let w := (watch u).run ⟨r₀, [], silence⟩ es
    w.announced = (DeltaReports.after Level.Jumps silence w.packets).reported ∧
      ∀ l, w.packets.getLast? = some l → w.announced.speaking = l.speaking ∧
        w.announced.gap l ≤ 2 * (DeltaReports.after Level.Jumps silence w.packets).unreported := by
  intro w
  obtain ⟨-, hannounced, -⟩ := watch_after h₀ hnotifier hcreated es hregistered
  refine ⟨hannounced, fun l hl => ?_⟩
  have hlast : (DeltaReports.after Level.Jumps silence w.packets).stored = l := by
    rw [DeltaReports.stored_after, hl, Option.getD_some]
  have hnear : ∀ a b : Level, ¬ a.Jumps b → a.speaking = b.speaking ∧ a.gap b ≤ 2 := by
    intro a b hsmall
    obtain ⟨hsame, hgap⟩ := not_or.mp hsmall
    exact ⟨not_not.mp hsame, by omega⟩
  constructor
  · have hright := DeltaReports.map_reported Level.Jumps Level.speaking
      (fun a b hsmall => (hnear a b hsmall).1) silence w.packets
    rw [← hannounced, hlast] at hright
    exact hright
  · have hdrift := DeltaReports.dist_reported_le Level.Jumps Level.gap 2 (fun a => by simp [Level.gap])
      (fun a b c => by simp only [Level.gap]; omega) (fun a b hsmall => (hnear a b hsmall).2) silence
      w.packets
    rw [← hannounced, hlast] at hdrift
    exact hdrift

/-- User 1, just arrived in channel 5. -/
def arrived : Router Nat where
  sessions := SessionManager.new.install (newSession 0 1 5 11 (some 4))
  validator := none
  notifier := true
  writer := true

/-- A silent voice packet of that user with this flags byte. -/
def murmur (flags : UInt8) : PlaneEvent Nat :=
  .datagram 1 .none [0x56, 1, 1, flags, 0, 0, 0, 1, 0, 0, 0, 5, 0, 0, 0, 0, 0, 0, 0, 0] 4

theorem announced_after_murmur :
    ((watch 1).run ⟨arrived, [], silence⟩ [murmur 0x20, murmur 0x50]).announced = ⟨false, 5⟩ := by
  have howned : arrived.sessions.Owned := SessionManager.owned_new.install (newSession 0 1 5 11 (some 4))
  have hregistered : ∀ pre post, [murmur 0x20, murmur 0x50] = pre ++ post →
      (media.run arrived pre).sessions.byUser.get? 1 = some 0 :=
    (Machine.forall_front_iff (by decide)).mpr (Machine.along_cons_iff.mpr ⟨by decide +kernel,
      Machine.along_cons_iff.mpr ⟨by decide +kernel, Machine.along_nil⟩⟩)
  obtain ⟨hannounced, -⟩ := announced_after howned rfl rfl _ hregistered
  rw [hannounced]
  decide +kernel

/-- An energy that rises by two at a time is never announced. -/
theorem slow_rise_drifts :
    ((watch 1).run ⟨arrived, [], silence⟩ [murmur 0x20, murmur 0x40]).packets.getLast? = some ⟨false, 4⟩ ∧
      ¬ ((watch 1).run ⟨arrived, [], silence⟩ [murmur 0x20, murmur 0x40]).announced.gap ⟨false, 4⟩ < 3 := by
  decide +kernel

end low_latency_voice.plane
