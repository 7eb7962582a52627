import LowLatencyVoice.Plane.Tokens

open low_latency_voice.model low_latency_voice.storage low_latency_voice.audio

namespace low_latency_voice.plane

variable {Addr : Type} [DecidableEq Addr]

/-- `RegisterPending` of a token for `userID` in `channelID` that is still good
at `now`. -/
def AnnouncesPending (now : Time) (token : Token) (userID channelID : UInt32)
    (_ : List (PlaneEvent Addr)) (e : PlaneEvent Addr) : Prop :=
  ∃ ssrc expiresAt, e = .registerPending token userID channelID ssrc expiresAt ∧ now ≤ expiresAt

/-- `CreateVoiceToken` of such a token, and the insert succeeds. -/
def StoresRow (r₀ : Router Addr) (now : Time) (token : Token) (userID channelID : UInt32)
    (pre : List (PlaneEvent Addr)) (e : PlaneEvent Addr) : Prop :=
  ∃ ssrc expiresAt, Inserts (media.run r₀ pre) token userID channelID ssrc expiresAt e ∧
    now ≤ expiresAt

/-- After the events `pre`, a token for `userID` in `channelID` is issued,
unexpired at `now` and not revoked. -/
def Granted (r₀ : Router Addr) (pre : List (PlaneEvent Addr)) (now : Time) (token : Token)
    (userID channelID : UInt32) : Prop :=
  Machine.Since (AnnouncesPending now token userID channelID) (PurgesPending userID) pre ∨
    Machine.Since (StoresRow r₀ now token userID channelID) (· = .revokeVoiceTokens userID) pre

/-- A handshake of `userID` with a token granted to it for `channelID`. -/
def PresentsGranted (r₀ : Router Addr) (userID channelID : UInt32) (pre : List (PlaneEvent Addr))
    (e : PlaneEvent Addr) : Prop :=
  ∃ now fault pkt, Handshake e now fault pkt ∧ pkt.senderID = userID ∧
    Granted r₀ pre now (Router.tokenStr pkt) userID channelID

/-- `userID` presented a granted token earlier, and `channelID` is the token's
channel or where a later `MoveMember` put the user. -/
def Provenance (r₀ : Router Addr) (pre : List (PlaneEvent Addr)) (userID channelID : UInt32) : Prop :=
  ∃ front e rest c, pre = front ++ e :: rest ∧ PresentsGranted r₀ userID c front e ∧
    (channelID = c ∨ .moveMember userID channelID ∈ rest)

/-- Every session of every state of the run has a provenance. -/
def SessionsProvenanced (r₀ : Router Addr) (es : List (PlaneEvent Addr)) : Prop :=
  ∀ pre post, es = pre ++ post → ∀ u s, (media.run r₀ pre).sessions.session? u = some s →
    Provenance r₀ pre u s.channelID

/-- A handshake neither store accepts creates no session and changes no
session's channel. -/
def RejectedIsInert (r₀ : Router Addr) : List (PlaneEvent Addr) → Prop :=
  Machine.Along fun pre e => ∀ now fault pkt, Handshake e now fault pkt →
    ¬ Router.Accepts (media.run r₀ pre) now fault pkt →
    ∀ u, ((media.run r₀ (pre ++ [e])).sessions.session? u).map Session.channelID =
      ((media.run r₀ pre).sessions.session? u).map Session.channelID

/-- A handshake neither store accepts comes from a user with a session in the
very channel the datagram names. -/
def RejectedInRoom (r₀ : Router Addr) : List (PlaneEvent Addr) → Prop :=
  Machine.Along fun pre e => ∀ now fault pkt, Handshake e now fault pkt →
    ¬ Router.Accepts (media.run r₀ pre) now fault pkt →
    ((media.run r₀ pre).sessions.session? pkt.senderID).map Session.channelID = some pkt.channelID

theorem Provenance.concat {r₀ : Router Addr} {pre : List (PlaneEvent Addr)} {u c : UInt32}
    (h : Provenance r₀ pre u c) (e : PlaneEvent Addr) : Provenance r₀ (pre ++ [e]) u c := by
  obtain ⟨front, e', rest, c₀, rfl, hgrant, hchannel⟩ := h
  refine ⟨front, e', rest ++ [e], c₀, by simp, hgrant, ?_⟩
  exact hchannel.imp_right fun hmem => List.mem_append_left _ hmem

theorem Provenance.move {r₀ : Router Addr} {pre : List (PlaneEvent Addr)} {u c : UInt32}
    (h : Provenance r₀ pre u c) (dest : UInt32) :
    Provenance r₀ (pre ++ [.moveMember u dest]) u dest := by
  obtain ⟨front, e', rest, c₀, rfl, hgrant, -⟩ := h
  exact ⟨front, e', rest ++ [.moveMember u dest], c₀, by simp, hgrant, .inr (by simp)⟩

/-- Every pending entry was announced and not purged since. -/
theorem pending_granted {r₀ : Router Addr} (h₀ : r₀.sessions.Owned)
    (hempty : ∀ t, r₀.sessions.pendingTokens.get? t = none) (pre : List (PlaneEvent Addr))
    {now : Time} {token : Token} {pt : PendingToken}
    (hpt : (media.run r₀ pre).sessions.pendingTokens.get? token = some pt)
    (hnow : now ≤ pt.expiresAt) :
    Machine.Since (AnnouncesPending now token pt.userID pt.channelID) (PurgesPending pt.userID) pre := by
  induction pre using List.reverseRecOn with
  | nil =>
    rw [Machine.run_nil, hempty] at hpt
    cases hpt
  | append_singleton pre e ih =>
    rw [Machine.run_concat] at hpt
    rw [Machine.since_concat_iff]
    obtain heq | ⟨hold, hkept⟩ := pendingTokens_step (run_owned h₀ pre) hpt
    · exact .inl ⟨pt.ssrc, pt.expiresAt, heq, hnow⟩
    · exact .inr ⟨ih hold, hkept⟩

/-- Every unconsumed row was inserted and not revoked since. -/
theorem row_granted {r₀ : Router Addr} (h₀ : r₀.sessions.Owned) (hempty : ∀ t, r₀.row? t = none)
    (pre : List (PlaneEvent Addr)) {now : Time} {token : Token} {vt : VoiceToken}
    (hvt : (media.run r₀ pre).row? token = some vt) (hfresh : vt.isConsumed = false)
    (hnow : now ≤ vt.expiresAt) :
    Machine.Since (StoresRow r₀ now token vt.userID vt.channelID)
      (· = .revokeVoiceTokens vt.userID) pre := by
  induction pre using List.reverseRecOn with
  | nil =>
    rw [Machine.run_nil, hempty] at hvt
    cases hvt
  | append_singleton pre e ih =>
    rw [Machine.run_concat] at hvt
    rw [Machine.since_concat_iff]
    obtain hinsert | ⟨hold, hkept⟩ := row?_step (run_owned h₀ pre) hvt hfresh
    · exact .inl ⟨vt.ssrc, vt.expiresAt, hinsert, hnow⟩
    · exact .inr ⟨ih hold, hkept⟩

/-- What either store accepts was granted. -/
theorem accepts_granted {r₀ : Router Addr} (h₀ : r₀.sessions.Owned)
    (hpending : ∀ t, r₀.sessions.pendingTokens.get? t = none) (hrows : ∀ t, r₀.row? t = none)
    {pre : List (PlaneEvent Addr)} {now : Time} {fault : Fault} {pkt : Packet}
    (hacc : Router.Accepts (media.run r₀ pre) now fault pkt) :
    Granted r₀ pre now (Router.tokenStr pkt) pkt.senderID pkt.channelID := by
  obtain ⟨pt, hpt, hnow, huser, hchannel⟩ | ⟨vt, hrow⟩ := hacc
  · rw [← huser, ← hchannel]
    exact .inl (pending_granted h₀ hpending pre hpt hnow)
  · obtain ⟨-, -, ⟨hvt, hfresh, hnow⟩, huser, hchannel⟩ := Router.storedRow_iff.mp hrow
    rw [← huser, ← hchannel]
    exact .inr (row_granted h₀ hrows pre hvt hfresh hnow)

/-- How a session can come to be in a channel by one event that is not a direct
`RegisterSession`. -/
theorem session_step {r : Router Addr} (h : r.sessions.Owned) {e : PlaneEvent Addr}
    (hdirect : ∀ s, e ≠ .registerSession s) {u c : UInt32}
    (hs : ((step r e).1.sessions.session? u).map Session.channelID = some c) :
    (r.sessions.session? u).map Session.channelID = some c ∨
      (e = .moveMember u c ∧ (r.sessions.session? u).isSome) ∨
      ∃ now fault pkt, Handshake e now fault pkt ∧ pkt.senderID = u ∧ pkt.channelID = c := by
  obtain ⟨s, hs', rfl⟩ := Option.map_eq_some_iff.mp hs
  obtain ⟨now, fault, pkt, hshake, hu, hc, -⟩ | ⟨s', rfl, -⟩ | ⟨standing, hold, heq⟩ :=
    standing_step h (congrArg (Option.map Session.standing) hs')
  · exact .inr (.inr ⟨now, fault, pkt, hshake, hu, hc.symm⟩)
  · exact absurd rfl (hdirect s')
  · obtain ⟨s₀, hs₀, rfl⟩ := Option.map_eq_some_iff.mp hold
    by_cases hmove : ∃ c, e = .moveMember u c
    · obtain ⟨c, rfl⟩ := hmove
      rw [onStanding_moveMember] at heq
      exact .inr (.inl ⟨congrArg (PlaneEvent.moveMember u ·.1) heq.symm, by rw [hs₀]; rfl⟩)
    · have hc := (congrArg Prod.fst heq).trans (onStanding_fst (fun c hc => hmove ⟨c, hc⟩) _)
      exact .inl (by rw [hs₀]; exact congrArg some hc.symm)

section run

variable {r₀ : Router Addr} {es : List (PlaneEvent Addr)}

/-- A rejected handshake is inert exactly when it finds its sender where it
puts it. -/
theorem rejectedIsInert_iff (h₀ : r₀.sessions.Owned) :
    RejectedIsInert r₀ es ↔ RejectedInRoom r₀ es := by
  refine forall₄_congr fun pre e post heq => forall₄_congr fun now fault pkt hshake => ?_
  refine forall_congr' fun _ => ?_
  obtain ⟨srcAddr, hstep⟩ := step_handshake hshake
  have hnext : media.run r₀ (pre ++ [e]) =
      (Router.handleHandshake (media.run r₀ pre) now fault pkt srcAddr).1 := by
    rw [Machine.run_concat]
    exact congrArg Prod.fst (hstep _)
  have howned := run_owned h₀ pre
  rw [hnext]
  constructor
  · intro hinert
    rw [← hinert, Router.channelID_handleHandshake howned]
  · intro hroom u
    by_cases hu : u = pkt.senderID
    · rw [hu, hroom, Router.channelID_handleHandshake howned]
    · exact map_channelID_of_standing (Router.standing_handleHandshake_of_ne howned srcAddr hu)

/-- With every rejected handshake staying in its room, every session has a
provenance. -/
theorem provenanced_of_rejectedInRoom (h₀ : r₀.sessions.Owned)
    (hsessions : ∀ u, r₀.sessions.session? u = none)
    (hpending : ∀ t, r₀.sessions.pendingTokens.get? t = none) (hrows : ∀ t, r₀.row? t = none)
    (hdirect : ∀ e ∈ es, ∀ s, e ≠ .registerSession s) (hroom : RejectedInRoom r₀ es) {u c : UInt32}
    (hs : ((media.run r₀ es).sessions.session? u).map Session.channelID = some c) :
    Provenance r₀ es u c := by
  induction es using List.reverseRecOn generalizing u c with
  | nil => simp [hsessions] at hs
  | append_singleton pre e ih =>
    have hearlier : ∀ {u c}, ((media.run r₀ pre).sessions.session? u).map Session.channelID = some c →
        Provenance r₀ pre u c :=
      ih (fun e' he' => hdirect e' (List.mem_append_left _ he')) hroom.front
    rw [Machine.run_concat] at hs
    obtain hold | ⟨rfl, hsome⟩ | ⟨now, fault, pkt, hshake, hu, hc⟩ :=
      session_step (run_owned h₀ pre) (hdirect e (by simp)) hs
    · exact (hearlier hold).concat e
    · obtain ⟨s, hsome⟩ := Option.isSome_iff_exists.mp hsome
      exact (hearlier (congrArg (Option.map Session.channelID) hsome)).move c
    · by_cases hacc : Router.Accepts (media.run r₀ pre) now fault pkt
      · have hgrant := accepts_granted h₀ hpending hrows hacc
        exact ⟨pre, e, [], c, rfl, ⟨now, fault, pkt, hshake, hu, hu ▸ hc ▸ hgrant⟩, .inl rfl⟩
      · have hold := hroom.last now fault pkt hshake hacc
        exact (hearlier (hu ▸ hc ▸ hold)).concat e

/-- In a run without direct registrations, sessions have a provenance and
rejected handshakes are inert exactly when each rejected handshake comes from a
user with a session in the channel it names. -/
theorem provenance_iff_rejectedInRoom (notifier writer : Bool) (es : List (PlaneEvent Addr))
    (hdirect : ∀ e ∈ es, ∀ s, e ≠ .registerSession s) :
    (SessionsProvenanced (newRouter (some ∅) notifier writer) es ∧
      RejectedIsInert (newRouter (some ∅) notifier writer) es) ↔
      RejectedInRoom (newRouter (some ∅) notifier writer) es := by
  have h₀ : (newRouter (some ∅) notifier writer : Router Addr).sessions.Owned :=
    SessionManager.owned_new
  rw [rejectedIsInert_iff h₀]
  refine ⟨And.right, fun hroom => ⟨?_, hroom⟩⟩
  rintro pre post rfl u s hs
  refine provenanced_of_rejectedInRoom h₀ ?_ ?_ ?_ ?_ (Machine.Along.front hroom)
    (congrArg (Option.map Session.channelID) hs)
  · simp [newRouter, SessionManager.session?, SessionManager.new]
  · simp [newRouter, SessionManager.new]
  · simp [newRouter, Router.row?]
  · exact fun e he => hdirect e (List.mem_append_left _ he)

/-- User 7 presents the token it was issued for channel 3 and is moved to 4. -/
theorem provenance_iff_rejectedInRoom_admitted :
    let es : List (PlaneEvent Nat) := [.registerPending [0x78] 7 3 5 10,
      .datagram 2 .none (frame typeHandshake 7 3 [0x78]) 1, .moveMember 7 4]
    (SessionsProvenanced (newRouter (some ∅) true true) es ∧
      RejectedIsInert (newRouter (some ∅) true true) es) ↔
      RejectedInRoom (newRouter (some ∅) true true) es :=
  provenance_iff_rejectedInRoom true true _ (by simp)

/-- User 7 presents a token nobody issued, on a server that has just started. -/
theorem forged_handshake_admitted :
    let es : List (PlaneEvent Nat) := [.datagram 2 .none (frame typeHandshake 7 3 [0x78]) 1]
    ¬ SessionsProvenanced (newRouter (some ∅) true true) es ∧
      ¬ RejectedIsInert (newRouter (some ∅) true true) es := by
  have hsession : ((media.run (newRouter (some ∅) true true : Router Nat)
      [.datagram 2 .none (frame typeHandshake 7 3 [0x78]) 1]).sessions.session? 7).map
      Session.channelID = some 3 := by decide
  refine ⟨fun hprov => ?_, fun hinert => ?_⟩
  · obtain ⟨s, hs, -⟩ := Option.map_eq_some_iff.mp hsession
    obtain ⟨front, e, rest, c, heq, ⟨now, fault, pkt, -, -, hgrant⟩, -⟩ := hprov _ [] rfl 7 s hs
    obtain ⟨rfl, -, -⟩ : front = [] ∧ _ ∧ rest = [] := by
      simpa [List.cons_eq_append_iff] using heq
    exact hgrant.elim Machine.not_since_nil Machine.not_since_nil
  · have hroom := (rejectedIsInert_iff SessionManager.owned_new).mp hinert [] _ [] rfl 2 .none _
      ⟨_, 1, rfl, rfl, by decide⟩
    have hsome := hroom (Router.not_accepts rfl rfl)
    simp [newRouter, SessionManager.session?, SessionManager.new] at hsome

end run

end low_latency_voice.plane
