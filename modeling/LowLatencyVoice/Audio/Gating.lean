import Mathlib.Logic.Relation
import LowLatencyVoice.Audio.LockRegions
import LowLatencyVoice.Audio.IndexInvariant
import LowLatencyVoice.Plane.Events

open low_latency_voice.model low_latency_voice.storage low_latency_voice.plane

namespace low_latency_voice.audio.regions

open Program (Runs shown)

variable {Addr : Type} [DecidableEq Addr]

/-- What others do in between: one of the calls for another datagram, an operation of the
control plane, or nothing but let time pass. -/
inductive Meddles : World Addr → World Addr → Prop where
  | call (k : Call Addr) (w : World Addr) : Meddles w (k.run w).2
  | control (e : PlaneEvent Addr) (w : World Addr) : Meddles w { w with router := (step w.router e).1 }
  | time (now : Time) (fault : Fault) (w : World Addr) : Meddles w { w with now, fault }

/-- Any number of times. -/
abbrev Becomes : World Addr → World Addr → Prop := Relation.ReflTransGen Meddles

/-- A call is answered from the world it finds. -/
def Answers (k : Call Addr) (w : World Addr) (answer : k.Answer) (w' : World Addr) : Prop :=
  k.run w = (answer, w')

theorem owned_run {w : World Addr} (h : w.router.sessions.Owned) (k : Call Addr) :
    (k.run w).2.router.sessions.Owned := by
  cases k with
  | setChannelID ref c => exact h.modify ref (fun s => { s with channelID := c }) rfl rfl
  | touch ref => exact h.modify ref (fun s => s.touch w.now) rfl rfl
  | updateSpeakingState ref speaking energy =>
    exact h.modify ref (fun _ => ((w.session ref).updateSpeakingState w.now speaking energy).1) rfl rfl
  | updateAddr u addr => exact h.updateAddr w.now u (some addr)
  | registerSession u c ssrc addr => exact h.install _
  | activatePending token u c addr =>
    simp only [Call.run, World.onSessions]
    cases hactivate : w.router.sessions.activatePending w.now token u c (some addr) with
    | mk sm result =>
      cases result with
      | ok s =>
        obtain ⟨pt, -, -, rfl⟩ := SessionManager.activatePending_eq_ok_iff.mp hactivate
        exact (h.of_pendingTokens _).install _
      | error e =>
        obtain rfl | ⟨-, rfl⟩ := SessionManager.activatePending_error hactivate
        · exact h
        · exact h.of_pendingTokens _
  | consumeVoiceToken token =>
    simp only [Call.run]
    split <;> exact h
  | _ => exact h

/-- The indexes are sound whatever comes between. -/
theorem owned_becomes {w w' : World Addr} (h : w.router.sessions.Owned) (hw : Becomes w w') :
    w'.router.sessions.Owned := by
  induction hw with
  | refl => exact h
  | tail _ hmeddles ih =>
    cases hmeddles with
    | call k => exact owned_run ih k
    | control e => exact step_owned ih e
    | time => exact ih

/-- A program's own calls count too. -/
theorem becomes_of_runs {α : Type} {p : Prog Addr α} {w w' : World Addr} {trace : List (Program.Exchange Call.Answer)}
    {a : α} (h : Runs Becomes Answers p w trace a w') : Becomes w w' := by
  induction h with
  | done a w => exact .refl
  | @call k _ w w₁ w₂ _ answer _ _ hothers hdoes _ ih =>
    have hcall : Meddles w₁ w₂ := by
      have hworld : (k.run w₁).2 = w₂ := congrArg Prod.snd hdoes
      exact hworld ▸ .call k w₁
    exact (hothers.tail hcall).trans ih

/-- All writes and notices of a program that begins after `start` meet `W` and `N`. -/
structure Within {α : Type} (start : World Addr) (p : Prog Addr α) (W : GoBytes × Addr → Prop)
    (N : VoiceStateNotice → Prop) : Prop where
  run : ∀ w trace a w', Becomes start w → Runs Becomes Answers p w trace a w' →
    (∀ x ∈ shown Call.written trace, W x) ∧ ∀ n ∈ shown Call.notified trace, N n

section rules

variable {α β : Type} {start : World Addr} {W W' : GoBytes × Addr → Prop} {N N' : VoiceStateNotice → Prop}

theorem Within.pure (a : α) : Within start (pure a : Prog Addr α) W N where
  run w trace a' w' _ hrun := by
    obtain ⟨rfl, -, -⟩ := Program.runs_done_iff.mp hrun
    exact ⟨fun _ h => (nomatch h), fun _ h => (nomatch h)⟩

/-- A call is made in some world `w` after `start`, and what follows begins in what it
leaves. -/
theorem Within.call {k : Call Addr} {f : k.Answer → Prog Addr α}
    (hwritten : ∀ w, Becomes start w → ∀ x ∈ k.written, W x)
    (hnotified : ∀ w, Becomes start w → ∀ n ∈ k.notified, N n)
    (h : ∀ w answer w', Becomes start w → k.run w = (answer, w') → Within w' (f answer) W N) :
    Within start (regions.call k >>= f) W N where
  run w trace a w' hstart hrun := by
    cases hrun with
    | @call _ _ _ w₁ w₂ _ answer trace _ hothers hdoes hrest =>
      have hw₁ := hstart.trans hothers
      obtain ⟨hwritten', hnotified'⟩ := (h w₁ answer w₂ hw₁ hdoes).run w₂ trace a w' .refl hrest
      refine ⟨fun x hx => ?_, fun n hn => ?_⟩
      · obtain hx | hx := List.mem_append.mp hx
        · exact hwritten w₁ hw₁ x hx
        · exact hwritten' x hx
      · obtain hn | hn := List.mem_append.mp hn
        · exact hnotified w₁ hw₁ n hn
        · exact hnotified' n hn

/-- A call that nobody outside sees. -/
theorem Within.silent {k : Call Addr} {f : k.Answer → Prog Addr α} (hwritten : k.written = [])
    (hnotified : k.notified = [])
    (h : ∀ w answer w', Becomes start w → k.run w = (answer, w') → Within w' (f answer) W N) :
    Within start (regions.call k >>= f) W N := by
  refine .call (fun _ _ => ?_) (fun _ _ => ?_) h
  · rw [hwritten]
    exact fun _ hx => (nomatch hx)
  · rw [hnotified]
    exact fun _ hn => (nomatch hn)

/-- A call at the end. -/
theorem Within.last {k : Call Addr} (h : ∀ w, Becomes start w → (∀ x ∈ k.written, W x) ∧ ∀ n ∈ k.notified, N n) :
    Within start (regions.call k) W N := by
  change Within start (regions.call k >>= Pure.pure) W N
  exact .call (fun w hw => (h w hw).1) (fun w hw => (h w hw).2) fun _ answer _ _ _ => .pure answer

theorem Within.bind {p : Prog Addr α} {f : α → Prog Addr β} (hp : Within start p W N)
    (hf : ∀ a w, Becomes start w → Within w (f a) W N) : Within start (p >>= f) W N where
  run w trace b w' hstart hrun := by
    obtain ⟨front, a, mid, back, rfl, hfront, hback⟩ := Program.Runs.split hrun
    obtain ⟨hwritten, hnotified⟩ := hp.run w front a mid hstart hfront
    obtain ⟨hwritten', hnotified'⟩ :=
      (hf a mid (hstart.trans (becomes_of_runs hfront))).run mid back b w' .refl hback
    simp only [Program.shown_append, List.mem_append]
    exact ⟨fun x hx => hx.elim (hwritten x) (hwritten' x), fun n hn => hn.elim (hnotified n) (hnotified' n)⟩

theorem Within.forEach {ι : Type} {items : List ι} {body : ι → Prog Addr Unit}
    (h : ∀ item ∈ items, ∀ w, Becomes start w → Within w (body item) W N) :
    Within start (Program.forEach items body) W N := by
  induction items generalizing start with
  | nil => exact .pure ()
  | cons item rest ih =>
    refine .bind (h item List.mem_cons_self start .refl) fun _ w hw => ?_
    exact ih fun item' hitem' w' hw' => h item' (List.mem_cons_of_mem item hitem') w' (hw.trans hw')

end rules

section datagram

/-- A frame goes to a member of the room other than its sender, who is not deafened when
asked, at the address the session has then. -/
structure Delivered (start : World Addr) (pkt : Packet) (addr : Addr) : Prop where
  peer : ∃ ref u w₁ w₂ w₃, Becomes start w₁ ∧ Becomes w₁ w₂ ∧ Becomes w₂ w₃ ∧
    u ≠ pkt.senderID ∧ (w₁.session ref).userID = u ∧
    w₁.router.sessions.byChannel.get₂ pkt.channelID u = some ref ∧
    (w₂.session ref).serverDeafened = false ∧ (w₃.session ref).addr = some addr

/-- The sender's session is registered when it is found, is then in the room, and is not
muted when asked. -/
structure Admitted (start : World Addr) (pkt : Packet) (w : World Addr) : Prop where
  sender : ∃ ref w₁ w₂ w₃ w₄, Becomes start w₁ ∧ Becomes w₁ w₂ ∧ Becomes w₂ w₃ ∧ Becomes w₃ w₄ ∧ Becomes w₄ w ∧
    w₁.router.sessions.byUser.get? (w₁.session ref).userID = some ref ∧
    (w₂.session ref).userID = pkt.senderID ∧ (w₃.session ref).channelID = pkt.channelID ∧
    (w₄.session ref).serverMuted = false

variable {start : World Addr} {W : GoBytes × Addr → Prop} {N : VoiceStateNotice → Prop} {pkt : Packet}
  {rawData : GoBytes}

theorem within_forward {w₁ w : World Addr} {peer : SessionRef} (hstart : Becomes start w₁)
    (howned : w₁.router.sessions.Owned)
    (hmem : peer ∈ w₁.router.sessions.getChannelPeers pkt.channelID pkt.senderID) (hw : Becomes w₁ w)
    (hW : ∀ a, Delivered start pkt a → W (rawData, a)) : Within w (forward rawData peer) W N := by
  obtain ⟨u, hne, hroom, -⟩ := SessionManager.mem_getChannelPeers.mp hmem
  unfold forward
  refine .silent rfl rfl fun w₂ deafened _ hw₂ hrun => ?_
  obtain ⟨hdeafened, rfl⟩ := Prod.mk.inj hrun
  cases deafened with
  | true => exact .pure ()
  | false =>
    refine .silent rfl rfl fun w₃ addr _ hw₃ hrun => ?_
    obtain ⟨haddr, rfl⟩ := Prod.mk.inj hrun
    cases addr with
    | none => exact .pure ()
    | some a =>
      refine .last fun w₄ _ => ⟨fun x hx => ?_, fun n hn => (nomatch hn)⟩
      obtain rfl := List.mem_singleton.mp hx
      exact hW a ⟨peer, u, w₁, w₂, w₃, hstart, hw.trans hw₂, hw₃, hne, (howned.channel hroom).2, hroom,
        hdeafened, haddr⟩

theorem within_route {w : World Addr} {parts : Parts} (howned : start.router.sessions.Owned)
    (hw : Becomes start w) (hW : ∀ a, Delivered start pkt a → W (rawData, a)) :
    Within w (route parts pkt rawData) W N := by
  unfold route
  refine .silent rfl rfl fun w₁ peers _ hw₁ hrun => ?_
  obtain ⟨rfl, rfl⟩ := Prod.mk.inj hrun
  have hafter := hw.trans hw₁
  split
  · exact .pure _
  · refine .bind (.forEach fun peer hmem w₂ hw₂ => ?_) fun _ _ _ => .pure _
    exact within_forward hafter (owned_becomes howned hafter) hmem hw₂ hW

/-- Once it is admitted, a voice packet is announced and forwarded. -/
theorem within_speak {w : World Addr} {parts : Parts} {ref : SessionRef}
    (howned : start.router.sessions.Owned) (hw : Becomes start w)
    (hW : ∀ a, Delivered start pkt a → W (rawData, a))
    (hN : N ⟨pkt.channelID, pkt.senderID, pkt.vad, pkt.energyLevel⟩) :
    Within w (speak parts pkt rawData ref) W N := by
  unfold speak
  refine .silent rfl rfl fun w₁ changed w₂ hw₁ hrun => ?_
  have hw₂ : Becomes start w₂ := by
    have hcall := (hw.trans hw₁).tail (.call (.updateSpeakingState ref pkt.vad pkt.energyLevel) w₁)
    rw [hrun] at hcall
    exact hcall
  split
  · refine .call (fun _ _ x hx => (nomatch hx)) (fun _ _ n hn => ?_) fun w₃ _ _ hw₃ hrun₃ => ?_
    · obtain rfl := List.mem_singleton.mp hn
      exact hN
    · obtain ⟨-, rfl⟩ := Prod.mk.inj hrun₃
      exact within_route howned (hw₂.trans hw₃) hW
  · exact within_route howned hw₂ hW

/-- The checks before that. -/
theorem within_handleSession {w₁ w : World Addr} {parts : Parts} {srcAddr : Addr} {ref : SessionRef}
    (howned : start.router.sessions.Owned) (hw₁ : Becomes start w₁)
    (hfound : w₁.router.sessions.byUser.get? (w₁.session ref).userID = some ref)
    {w₂ : World Addr} (hw₂ : Becomes w₁ w₂) (hsender : (w₂.session ref).userID = pkt.senderID) (hw : Becomes w₂ w)
    (hW : ∀ w a, Admitted start pkt w → Delivered w pkt a → W (rawData, a))
    (hN : ∀ w, Admitted start pkt w → N ⟨pkt.channelID, pkt.senderID, pkt.vad, pkt.energyLevel⟩) :
    Within w (handleSession parts pkt rawData srcAddr ref) W N := by
  unfold handleSession
  refine .silent rfl rfl fun w₃ channelID _ hw₃ hrun => ?_
  obtain ⟨rfl, rfl⟩ := Prod.mk.inj hrun
  have hgate : ∀ w₄, (w₃.session ref).channelID = pkt.channelID → Becomes w₃ w₄ →
      Within w₄ (gate parts pkt rawData ref) W N := by
    intro w₄ hroom hw₄
    unfold gate
    refine .silent rfl rfl fun w₅ muted _ hw₅ hrun => ?_
    obtain ⟨hmuted, rfl⟩ := Prod.mk.inj hrun
    cases muted with
    | true => exact .pure _
    | false =>
      have hadmitted : Admitted start pkt w₅ := ⟨ref, w₁, w₂, w₃, w₅, hw₁, hw₂, hw.trans hw₃, hw₄.trans hw₅,
        .refl, hfound, hsender, hroom, hmuted⟩
      have hbefore := (((hw₁.trans hw₂).trans hw).trans hw₃).trans (hw₄.trans hw₅)
      exact within_speak (owned_becomes howned hbefore) .refl (hW w₅ · hadmitted) (hN w₅ hadmitted)
  split
  · exact .pure _
  · rename_i hroom
    have hroom := not_not.mp hroom
    refine .silent rfl rfl fun w₄ addr _ hw₄ hrun => ?_
    obtain ⟨-, rfl⟩ := Prod.mk.inj hrun
    split
    · refine .silent rfl rfl fun w₅ _ w₆ hw₅ hrun => ?_
      have hcall := (hw₄.trans hw₅).tail (.call (.updateAddr pkt.senderID srcAddr) w₅)
      rw [hrun] at hcall
      exact hgate w₆ hroom hcall
    · exact hgate w₄ hroom hw₄

theorem within_handleVoice {parts : Parts} {srcAddr : Addr} (howned : start.router.sessions.Owned)
    (hW : ∀ w a, Admitted start pkt w → Delivered w pkt a → W (rawData, a))
    (hN : ∀ w, Admitted start pkt w → N ⟨pkt.channelID, pkt.senderID, pkt.vad, pkt.energyLevel⟩) :
    Within start (handleVoice parts pkt rawData srcAddr) W N := by
  unfold handleVoice
  refine .silent rfl rfl fun w₁ found _ hw₁ hrun => ?_
  obtain ⟨hfound, rfl⟩ := Prod.mk.inj hrun
  cases found with
  | some ref =>
    have hsender := ((owned_becomes howned hw₁).user hfound).2
    exact within_handleSession howned hw₁ (hsender.symm ▸ hfound) .refl hsender .refl hW hN
  | none =>
    refine .silent rfl rfl fun w₂ found' _ hw₂ hrun => ?_
    obtain ⟨hfound', rfl⟩ := Prod.mk.inj hrun
    cases found' with
    | none => exact .pure _
    | some ref =>
      refine .silent rfl rfl fun w₃ userID _ hw₃ hrun => ?_
      obtain ⟨rfl, rfl⟩ := Prod.mk.inj hrun
      have hw₂' := hw₁.trans hw₂
      split
      · exact .pure _
      · rename_i hsender
        exact within_handleSession howned hw₂' ((owned_becomes howned hw₂').addr hfound').1 hw₃
          (not_not.mp hsender) .refl hW hN

/-- A ping is answered, and nobody else hears of it. -/
theorem within_handlePing {parts : Parts} {srcAddr : Addr}
    (hW : W ((Router.pong pkt).encodeInto maxPacketSize, srcAddr)) :
    Within start (handlePing parts pkt srcAddr) W N := by
  have hpong : ∀ w : World Addr, Within w (pong parts pkt srcAddr) W N := by
    intro w
    unfold pong
    split
    · refine .call (fun _ _ x hx => ?_) (fun _ _ n hn => (nomatch hn)) fun _ _ _ _ _ => .pure _
      obtain rfl := List.mem_singleton.mp hx
      exact hW
    · exact .pure _
  have hkeep : ∀ (w : World Addr) ref, Within w (do keepAlive srcAddr ref; pong parts pkt srcAddr) W N := by
    intro w ref
    refine .bind ?_ fun _ w' _ => hpong w'
    unfold keepAlive
    refine .silent rfl rfl fun w₁ addr _ _ _ => ?_
    split
    · refine .silent rfl rfl fun _ _ _ _ _ => ?_
      exact .last fun _ _ => ⟨fun x hx => (nomatch hx), fun n hn => (nomatch hn)⟩
    · exact .last fun _ _ => ⟨fun x hx => (nomatch hx), fun n hn => (nomatch hn)⟩
  unfold handlePing
  refine .silent rfl rfl fun w₁ found w₁' _ _ => ?_
  cases found with
  | some ref => exact hkeep w₁' ref
  | none =>
    refine .silent rfl rfl fun w₂ found' w₂' _ _ => ?_
    cases found' with
    | none => exact hpong w₂'
    | some ref => exact hkeep w₂' ref

/-- A handshake is answered by nothing. -/
theorem within_handleHandshake {parts : Parts} {srcAddr : Addr} :
    Within start (handleHandshake parts pkt srcAddr) W N := by
  have hfall : ∀ w : World Addr, Within w (fallback pkt srcAddr) W N := by
    intro w
    unfold fallback
    refine .silent rfl rfl fun _ found _ _ _ => ?_
    cases found with
    | none => exact .silent rfl rfl fun _ _ _ _ _ => .pure _
    | some existing =>
      refine .silent rfl rfl fun _ _ _ _ _ => ?_
      exact .silent rfl rfl fun _ _ _ _ _ => .pure _
  unfold handleHandshake
  refine .silent rfl rfl fun _ activated w₁ _ _ => ?_
  cases activated with
  | true => exact .pure _
  | false =>
    unfold redeem
    simp only [Bool.false_eq_true, if_false]
    split
    · refine .silent rfl rfl fun _ row w₂ _ _ => ?_
      cases row with
      | none => exact hfall w₂
      | some vt =>
        simp only
        split
        · exact .silent rfl rfl fun _ _ _ _ _ => .pure _
        · exact hfall w₂
    · exact hfall w₁

end datagram

/-- Users 1 and 2 in channel 3, at the addresses 7 and 8. -/
def lobby : World Nat where
  router := ⟨(SessionManager.new.install (newSession 0 1 3 0 (some 7))).install (newSession 0 2 3 0 (some 8)),
    none, true, true⟩
  now := 5
  fault := .none

end low_latency_voice.audio.regions
