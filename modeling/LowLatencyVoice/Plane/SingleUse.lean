import LowLatencyVoice.Plane.Tokens

open low_latency_voice.model low_latency_voice.storage low_latency_voice.audio

namespace low_latency_voice.plane

variable {Addr : Type} [DecidableEq Addr]

/-- The event is a handshake that `ActivatePending` accepts on the strength of
`token`. -/
def UsesPending (r₀ : Router Addr) (token : Token) (pre : List (PlaneEvent Addr))
    (e : PlaneEvent Addr) : Prop :=
  ∃ now fault pkt, Handshake e now fault pkt ∧ Router.tokenStr pkt = token ∧
    Router.PendingAccepts (media.run r₀ pre) now pkt

/-- The event is a handshake that only `ConsumeVoiceToken` accepts, on the
strength of `token`. -/
def UsesStored (r₀ : Router Addr) (token : Token) (pre : List (PlaneEvent Addr))
    (e : PlaneEvent Addr) : Prop :=
  ∃ now fault pkt, Handshake e now fault pkt ∧ Router.tokenStr pkt = token ∧
    ¬ Router.PendingAccepts (media.run r₀ pre) now pkt ∧
    Router.StoredAccepts (media.run r₀ pre) now fault pkt

/-- No token has a second handshake accepted on its strength. -/
def SingleUse (r₀ : Router Addr) (es : List (PlaneEvent Addr)) : Prop :=
  ∀ token, Machine.Along (fun pre e => UsesPending r₀ token pre e ∨ UsesStored r₀ token pre e →
    ¬ Machine.Earlier (fun pre e => UsesPending r₀ token pre e ∨ UsesStored r₀ token pre e) pre) es

/-- No handshake finds a live copy of its token in one store after the copy in
the other store has been used. -/
def NoSecondCopy (r₀ : Router Addr) (es : List (PlaneEvent Addr)) : Prop :=
  ∀ token, Machine.Along (fun pre e =>
    (UsesPending r₀ token pre e → ¬ Machine.Earlier (UsesStored r₀ token) pre) ∧
    (UsesStored r₀ token pre e → ¬ Machine.Earlier (UsesPending r₀ token) pre)) es

/-- The event announces `token` to the session manager. -/
def Announces (token : Token) (e : PlaneEvent Addr) : Prop :=
  ∃ userID channelID ssrc expiresAt, e = .registerPending token userID channelID ssrc expiresAt

/-- The event inserts the row of `token`. -/
def Creates (r₀ : Router Addr) (token : Token) (pre : List (PlaneEvent Addr)) (e : PlaneEvent Addr) :
    Prop :=
  ∃ userID channelID ssrc expiresAt,
    Inserts (media.run r₀ pre) token userID channelID ssrc expiresAt e

/-- Tokens are issued the way `join_voice` does: a token is announced once for
each time its row is inserted, after the insert; and no issued row is deleted. -/
def IssuedByJoin (r₀ : Router Addr) : List (PlaneEvent Addr) → Prop :=
  Machine.Along fun pre e =>
    (∀ token, Announces token e → Machine.Since (Creates r₀ token) (Announces token) pre) ∧
      ∀ userID, e ≠ .revokeVoiceTokens userID

section run

variable {r₀ : Router Addr} {es : List (PlaneEvent Addr)} {token : Token}

/-- Without revocations a row, once there, stays. -/
theorem row?_isSome_of_append (h₀ : r₀.sessions.Owned) {pre es : List (PlaneEvent Addr)}
    (hrevoke : ∀ e ∈ es, ∀ u, e ≠ .revokeVoiceTokens u)
    (hrow : ((media.run r₀ pre).row? token).isSome) : ((media.run r₀ (pre ++ es)).row? token).isSome := by
  induction es using List.reverseRecOn with
  | nil => simpa using hrow
  | append_singleton es e ih =>
    obtain ⟨vt, hvt⟩ := Option.isSome_iff_exists.mp
      (ih fun e' he' => hrevoke e' (List.mem_append_left _ he'))
    obtain ⟨vt', hvt', -⟩ := row?_kept (run_owned h₀ (pre ++ es)) (hrevoke e (by simp)) hvt
    rw [← List.append_assoc, Machine.run_concat]
    exact Option.isSome_iff_exists.mpr ⟨vt', hvt'⟩

theorem IssuedByJoin.no_revoke (hissued : IssuedByJoin r₀ es) :
    ∀ e ∈ es, ∀ u, e ≠ .revokeVoiceTokens u := by
  intro e he
  obtain ⟨pre, post, rfl⟩ := List.append_of_mem he
  exact (hissued pre e post rfl).2

/-- An insert leaves a row behind. -/
theorem row?_isSome_of_creates {pre : List (PlaneEvent Addr)} {e : PlaneEvent Addr}
    (hcreate : Creates r₀ token pre e) : ((media.run r₀ (pre ++ [e])).row? token).isSome := by
  obtain ⟨u, c, ssrc, expiresAt, createdAt, fault, rfl, hexec, rows, hval, hnone⟩ := hcreate
  rw [Machine.run_concat]
  change ((step (media.run r₀ pre) _).1.row? token).isSome = true
  simp [step, onRows, Router.row?, hval, createVoiceToken, hexec, hnone]

/-- The primary key lets no token be inserted a second time, so none is
announced a second time. -/
theorem announced_once (h₀ : r₀.sessions.Owned) {pre : List (PlaneEvent Addr)} {e : PlaneEvent Addr}
    (hissued : IssuedByJoin r₀ (pre ++ [e])) (hannounce : Announces token e) :
    ∀ e' ∈ pre, ¬ Announces token e' := by
  intro e' he' hannounce'
  obtain ⟨front, c, rest, rfl, hcreate, hrest⟩ := hissued.last.1 token hannounce
  have hfront : e' ∈ front := by
    rcases List.mem_append.mp he' with hmem | hmem
    · exact hmem
    · obtain rfl | hmem := List.mem_cons.mp hmem
      · obtain ⟨_, _, _, _, _, _, rfl, -⟩ := hcreate
        obtain ⟨_, _, _, _, heq⟩ := hannounce'
        cases heq
      · exact absurd hannounce' (hrest e' hmem)
  obtain ⟨mid, tail, rfl⟩ := List.append_of_mem hfront
  obtain ⟨first, c', between, rfl, hcreate', -⟩ :=
    (hissued mid e' (tail ++ c :: rest ++ [e]) (by simp)).1 token hannounce'
  have hkept : ∀ x ∈ between ++ e' :: tail, ∀ u, x ≠ .revokeVoiceTokens u := by
    intro x hx
    apply hissued.no_revoke x
    simp only [List.mem_append, List.mem_cons] at hx ⊢
    tauto
  have hrow := row?_isSome_of_append h₀ hkept (row?_isSome_of_creates hcreate')
  obtain ⟨_, _, _, _, _, _, -, -, rows, hval, hnone⟩ := hcreate
  simp only [List.append_assoc, List.cons_append] at hrow hval
  simp [Router.row?, hval, hnone] at hrow

theorem announced_of_pending (h₀ : r₀.sessions.Owned)
    (hempty : ∀ t, r₀.sessions.pendingTokens.get? t = none) {pt : PendingToken}
    (hpt : (media.run r₀ es).sessions.pendingTokens.get? token = some pt) :
    ∃ e ∈ es, Announces token e := by
  induction es using List.reverseRecOn with
  | nil =>
    rw [Machine.run_nil, hempty] at hpt
    cases hpt
  | append_singleton pre e ih =>
    rw [Machine.run_concat] at hpt
    obtain heq | ⟨hold, -⟩ := pendingTokens_step (run_owned h₀ pre) hpt
    · exact ⟨e, by simp, _, _, _, _, heq⟩
    · obtain ⟨e', he', hannounce⟩ := ih hold
      exact ⟨e', List.mem_append_left _ he', hannounce⟩

/-- A used pending entry never comes back. -/
theorem pending_gone (h₀ : r₀.sessions.Owned) (hempty : ∀ t, r₀.sessions.pendingTokens.get? t = none)
    (hissued : IssuedByJoin r₀ es) (hused : Machine.Earlier (UsesPending r₀ token) es) :
    (media.run r₀ es).sessions.pendingTokens.get? token = none := by
  induction es using List.reverseRecOn with
  | nil => exact absurd hused Machine.not_since_nil
  | append_singleton pre e ih =>
    rw [Machine.run_concat]
    obtain ⟨now, fault, pkt, hshake, rfl, hpending⟩ | hearlier := Machine.earlier_concat_iff.mp hused
    · obtain ⟨srcAddr, hstep⟩ := step_handshake hshake
      have hgone := Router.pendingTokens_of_pendingAccepts fault srcAddr hpending
      rw [← hstep] at hgone
      exact hgone
    · have hgone := ih hissued.front hearlier
      have hannounced : ∃ e' ∈ pre, Announces token e' := by
        obtain ⟨front, _, rest, rfl, ⟨_, _, _, _, rfl, pt, hpt, -⟩, -⟩ := hearlier
        obtain ⟨e', he', hannounce⟩ := announced_of_pending h₀ hempty hpt
        exact ⟨e', List.mem_append_left _ he', hannounce⟩
      rw [Option.eq_none_iff_forall_ne_some]
      intro pt hpt
      obtain heq | ⟨hold, -⟩ := pendingTokens_step (run_owned h₀ pre) hpt
      · obtain ⟨e', he', hannounce⟩ := hannounced
        exact announced_once h₀ hissued ⟨_, _, _, _, heq⟩ e' he' hannounce
      · rw [hgone] at hold
        cases hold

/-- A used row stays used. -/
theorem row_consumed (h₀ : r₀.sessions.Owned) (hissued : IssuedByJoin r₀ es)
    (hused : Machine.Earlier (UsesStored r₀ token) es) :
    ∃ vt, (media.run r₀ es).row? token = some vt ∧ vt.isConsumed = true := by
  induction es using List.reverseRecOn with
  | nil => exact absurd hused Machine.not_since_nil
  | append_singleton pre e ih =>
    rw [Machine.run_concat]
    obtain ⟨now, fault, pkt, hshake, rfl, hpending, hstored⟩ | hearlier :=
      Machine.earlier_concat_iff.mp hused
    · obtain ⟨srcAddr, hstep⟩ := step_handshake hshake
      have hrow := Router.row?_of_storedAccepts srcAddr hpending hstored
      rw [← hstep] at hrow
      exact hrow
    · obtain ⟨vt, hvt, hconsumed⟩ := ih hissued.front hearlier
      obtain ⟨vt', hvt', hkept⟩ := row?_kept (run_owned h₀ pre) hissued.last.2 hvt
      exact ⟨vt', hvt', hkept hconsumed⟩

end run

/-- In every run in which `join_voice` issues the tokens, tokens are single use
exactly when no handshake finds a second live copy of a used token. -/
theorem singleUse_iff_noSecondCopy (notifier writer : Bool) (es : List (PlaneEvent Addr))
    (hissued : IssuedByJoin (newRouter (some ∅) notifier writer) es) :
    SingleUse (newRouter (some ∅) notifier writer) es ↔
      NoSecondCopy (newRouter (some ∅) notifier writer) es := by
  have h₀ : (newRouter (some ∅) notifier writer : Router Addr).sessions.Owned := SessionManager.owned_new
  have hempty : ∀ t, (newRouter (some ∅) notifier writer : Router Addr).sessions.pendingTokens.get? t =
      none := by simp [newRouter, SessionManager.new]
  constructor
  · intro hsingle token pre e post heq
    have hno := hsingle token pre e post heq
    refine ⟨fun huse hearlier => hno (.inl huse) ?_, fun huse hearlier => hno (.inr huse) ?_⟩
    · exact hearlier.imp_opens fun _ _ => .inr
    · exact hearlier.imp_opens fun _ _ => .inl
  · rintro hcopy token pre e post rfl huse hearlier
    obtain ⟨hstored, hpending⟩ := hcopy token pre e post rfl
    have hpre : IssuedByJoin (newRouter (some ∅) notifier writer) pre := Machine.Along.front hissued
    obtain hbefore | hbefore := Machine.earlier_or hearlier <;> obtain hnow | hnow := huse
    · obtain ⟨_, _, _, _, rfl, pt, hpt, -⟩ := hnow
      rw [pending_gone h₀ hempty hpre hbefore] at hpt
      cases hpt
    · exact hpending hnow hbefore
    · exact hstored hnow hbefore
    · obtain ⟨_, _, _, _, rfl, -, vt, hrow⟩ := hnow
      obtain ⟨-, -, ⟨hvt, hfresh, -⟩, -⟩ := Router.storedRow_iff.mp hrow
      obtain ⟨vt', hvt', hconsumed⟩ := row_consumed h₀ hpre hbefore
      cases hvt.symm.trans hvt'
      rw [hfresh] at hconsumed
      cases hconsumed

/-- `join_voice` issues the token `x` to user 7 for channel 3, and its
handshake arrives twice. -/
def repeatedHandshake : List (PlaneEvent Nat) :=
  [.createVoiceToken 0 .none [0x78] 7 3 5 100, .registerPending [0x78] 7 3 5 100,
    .datagram 1 .none (frame typeHandshake 7 3 [0x78]) 10,
    .datagram 2 .none (frame typeHandshake 7 3 [0x78]) 10]

theorem issuedByJoin_repeatedHandshake :
    IssuedByJoin (newRouter (some ∅) true true) repeatedHandshake := by
  simp only [IssuedByJoin, repeatedHandshake, Machine.along_cons_iff]
  refine ⟨⟨?_, by simp⟩, ⟨?_, by simp⟩, ⟨?_, by simp⟩, ⟨?_, by simp⟩, Machine.along_nil⟩
  · rintro token ⟨_, _, _, _, ⟨⟩⟩
  · rintro token ⟨_, _, _, _, ⟨⟩⟩
    exact ⟨[], _, [], rfl, ⟨7, 3, 5, 100, 0, .none, rfl, by decide, ∅, rfl, rfl⟩, by simp⟩
  · rintro token ⟨_, _, _, _, ⟨⟩⟩
  · rintro token ⟨_, _, _, _, ⟨⟩⟩

theorem singleUse_iff_noSecondCopy_repeated :
    SingleUse (newRouter (some ∅) true true) repeatedHandshake ↔
      NoSecondCopy (newRouter (some ∅) true true) repeatedHandshake :=
  singleUse_iff_noSecondCopy true true repeatedHandshake issuedByJoin_repeatedHandshake

/-- The first handshake uses the pending entry and the second one the row. -/
theorem repeated_handshake_accepted_twice :
    ¬ ∀ es : List (PlaneEvent Nat), IssuedByJoin (newRouter (some ∅) true true) es →
      SingleUse (newRouter (some ∅) true true) es := by
  intro hall
  have hpending : UsesPending (newRouter (some ∅) true true) [0x78] (repeatedHandshake.take 2)
      (.datagram 1 .none (frame typeHandshake 7 3 [0x78]) 10) :=
    ⟨1, .none, _, ⟨_, _, rfl, rfl, by decide⟩, by decide, ⟨[0x78], 7, 3, 5, 100⟩, rfl, by decide, rfl, rfl⟩
  have hstored : UsesStored (newRouter (some ∅) true true) [0x78] (repeatedHandshake.take 3)
      (.datagram 2 .none (frame typeHandshake 7 3 [0x78]) 10) := by
    refine ⟨2, .none, _, ⟨_, _, rfl, rfl, by decide⟩, by decide, ?_, ⟨[0x78], 7, 3, 5, false, 100, 0⟩, ?_⟩
    · rintro ⟨pt, hpt, -⟩
      cases hpt
    · exact Router.storedRow_iff.mpr ⟨by decide, rfl, ⟨rfl, rfl, by decide⟩, rfl, rfl⟩
  refine hall repeatedHandshake issuedByJoin_repeatedHandshake [0x78] (repeatedHandshake.take 3) _ []
    rfl (.inr hstored) ⟨repeatedHandshake.take 2, _, [], rfl, .inl hpending, by simp⟩

end low_latency_voice.plane
