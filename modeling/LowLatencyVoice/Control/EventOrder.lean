import LowLatencyVoice.Control.EventQueue

open low_latency_voice.model

namespace low_latency_voice.control.events

open outbound (HubUpdate SameChannels)

/-- A registered client is open, and its buffer is closed when it is. -/
structure Opened (h : Hub) : Prop where
  inSync : ∀ c, (h.conn c).send.closed = (h.conn c).closed
  registered : ∀ c, h.Registered c → (h.conn c).closed = false

section opened

variable {h h' : Hub}

theorem Opened.of_sameChannels (hopen : Opened h) (hsame : SameChannels h h')
    (hreg : ∀ c, h'.Registered c → h.Registered c ∨ (h.conn c).closed = false) : Opened h' where
  inSync c := by rw [(hsame c).1, (hsame c).2, hopen.inSync]
  registered c hc := by
    rw [(hsame c).1]
    exact (hreg c hc).elim (hopen.registered c) id

theorem Opened.apply (hopen : Opened h) (call : HubUpdate) : Opened (call.apply h) := by
  refine hopen.of_sameChannels (outbound.sameChannels_apply call) ?_
  have hkept : ∀ {h' : Hub}, h'.clients = h.clients → ∀ c, h'.Registered c →
      h.Registered c ∨ (h.conn c).closed = false := by
    intro h' hclients c hc
    unfold Hub.Registered at hc
    rw [hclients] at hc
    exact .inl hc
  cases call with
  | registerClient c =>
    intro c' hc'
    simp only [HubUpdate.apply, Hub.registerClient] at hc'
    split at hc'
    · exact .inl hc'
    · rename_i hclosed
      simp only [Hub.Registered, GoMap.get?_set] at hc'
      split at hc'
      · rename_i hc
        rw [hc]
        exact .inr (by simpa using hclosed)
      · exact .inl hc'
  | addUserClient userID c => exact hkept rfl
  | joinVoice now c channelID channel selfMuted selfDeafened =>
    simp only [HubUpdate.apply]
    split
    · rename_i h' hjoin
      exact hkept (Hub.joinVoice_ok hjoin).2.2.1
    · exact hkept rfl
  | leaveVoice c =>
    simp only [HubUpdate.apply]
    by_cases hactive : 0 < (h.conn c).activeVoiceChannel
    · rw [Hub.leaveVoice_of_pos hactive]
      exact hkept rfl
    · rw [Hub.leaveVoice_of_not_pos hactive]
      exact hkept rfl
  | setVoiceState now c selfMuted selfDeafened isSpeaking => exact hkept (h.withVoiceState_fields _ _).1
  | setFlag flag targetUserID value => exact hkept (h.withVoiceState_fields _ _).1
  | moveMember targetUserID toChannelID =>
    simp only [HubUpdate.apply]
    cases hmove : h.moveMember targetUserID toChannelID with
    | none => exact hkept rfl
    | some h' =>
      obtain ⟨_, -, -, hclients, -⟩ := Hub.moveMember_eq_some hmove
      exact hkept hclients

theorem Opened.kickMember (hopen : Opened h) (targetUserID : UInt32) :
    Opened (h.kickMember targetUserID).1 := by
  refine hopen.of_sameChannels (outbound.sameChannels_kickMember targetUserID) ?_
  intro c hc
  unfold Hub.Registered at hc
  rw [(h.kickMember_spec targetUserID).2.1] at hc
  exact .inl hc

theorem Opened.handleClientDisconnect (hopen : Opened h) (c : ClientID) :
    Opened (h.handleClientDisconnect c).1 := by
  by_cases hreg : h.Registered c
  swap
  · rw [Hub.handleClientDisconnect_of_not_registered hreg]
    exact hopen
  have hsome : h.clients.get? c ≠ none := fun hnone => Hub.get?_eq_none_iff_not_registered.mp hnone hreg
  have hconn := h.conn_handleClientDisconnect c
  rw [if_neg hsome] at hconn
  constructor
  · intro c'
    rw [hconn]
    by_cases hc : c' = c
    · subst c'
      rw [Function.update_self]
      exact outbound.close_inSync (hopen.inSync c)
    · rw [Function.update_of_ne hc]
      exact hopen.inSync c'
  · intro c' hc'
    obtain ⟨hreg', hne⟩ := ((Hub.handleClientDisconnect_of_registered hreg).2.1 c').mp hc'
    rw [hconn, Function.update_of_ne hne]
    exact hopen.registered c' hreg'

theorem Opened.cleanupAll (hopen : Opened h) : Opened (EventHub.cleanupAll h) where
  inSync c := by
    simp only [EventHub.cleanupAll]
    split
    · exact outbound.close_inSync (hopen.inSync c)
    · exact hopen.inSync c
  registered c hc := by cases hc

/-- A write to a client object that neither opens nor closes it. -/
theorem Opened.updateClient (hopen : Opened h) (c : ClientID) (f : Client → Client)
    (hclosed : (f (h.conn c)).closed = (h.conn c).closed)
    (hsend : (f (h.conn c)).send.closed = (h.conn c).send.closed) : Opened (h.updateClient c f) :=
  hopen.of_sameChannels (outbound.sameChannels_updateClient c hclosed hsend) fun _ => .inl

end opened

namespace EventHub

variable (s : EventHub) (k c : ClientID)

/-- What the loop of `dispatchBroadcast` is about to send the client. -/
def visiting : List Emission :=
  match s.loop with
  | some (e, rest) => if k ∈ rest then [e] else []
  | none => []

/-- The events for everybody that the client was sent or is going to be sent, in this
order. -/
def pipeline : List Emission :=
  (s.delivered k ++ s.visiting k ++ s.broadcast.buffered).filter Emission.isGlobal

/-- The events for everybody that found `h.broadcast` full, and are not in it. -/
def waiting : List Emission := (s.senders ++ s.expired).filter Emission.isGlobal

/-- What `Client.Send` changes. -/
theorem send_fst (payload : GoBytes) : ∃ send unregister, send.closed = (s.hub.conn c).send.closed ∧
    (s.send c payload).1 =
      { s with hub := s.hub.updateClient c fun k => { k with send }, unregister } := by
  have hsame : s.hub.updateClient c (fun k => { k with send := (s.hub.conn c).send }) = s.hub := by
    simp [Hub.updateClient]
  unfold send
  split
  · exact ⟨_, s.unregister, rfl, by rw [hsame]⟩
  split
  · rename_i send hsend
    exact ⟨send, s.unregister, GoChan.trySend_sent_closed hsend, rfl⟩
  all_goals split <;> exact ⟨_, _, rfl, by rw [hsame]⟩

theorem send_snd_of_room {payload : GoBytes} (hclosed : (s.hub.conn c).closed = false)
    (hopen : (s.hub.conn c).send.closed = false)
    (hroom : (s.hub.conn c).send.buffered.length < sendBufferSize) : (s.send c payload).2 = true := by
  unfold send GoChan.trySend
  simp [hclosed, hopen, hroom]

theorem deliver_cases : s.deliver = s ∨ (∃ e, s.loop = some (e, [])) ∧ s.deliver = { s with loop := none } ∨
    ∃ e c rest, s.loop = some (e, c :: rest) := by
  unfold deliver
  split
  · exact .inl rfl
  · rename_i e hloop
    exact .inr (.inl ⟨⟨e, hloop⟩, rfl⟩)
  · rename_i e c rest hloop
    exact .inr (.inr ⟨e, c, rest, hloop⟩)

/-- One turn of the loop of `dispatchBroadcast`, and when it puts the event into the
buffer of the client. -/
theorem deliver_cons {e : Emission} {rest : List ClientID} (hloop : s.loop = some (e, c :: rest)) :
    ∃ send unregister sent, send.closed = (s.hub.conn c).send.closed ∧
      s.deliver =
        { s with
          hub := s.hub.updateClient c fun k => { k with send }
          unregister
          loop := some (e, rest)
          delivered := if sent then Function.update s.delivered c (s.delivered c ++ [e]) else s.delivered } ∧
      (e.msg.exclude ≠ some c → (s.hub.conn c).isAuthenticated = true → (s.hub.conn c).closed = false →
        (s.hub.conn c).send.closed = false → (s.hub.conn c).send.buffered.length < sendBufferSize →
        sent = true) := by
  unfold deliver
  rw [hloop]
  dsimp only
  by_cases hskip : e.msg.exclude = some c ∨ (s.hub.conn c).isAuthenticated = false
  · rw [if_pos hskip]
    refine ⟨(s.hub.conn c).send, s.unregister, false, rfl, by simp [Hub.updateClient], ?_⟩
    intro hexclude hauth
    rw [hauth] at hskip
    obtain hexclude' | hauth' := hskip
    · exact absurd hexclude' hexclude
    · cases hauth'
  · rw [if_neg hskip]
    obtain ⟨send, unregister, hclosed, heq⟩ :=
      send_fst { s with loop := some (e, rest) } c e.msg.payload
    have hroom := @send_snd_of_room { s with loop := some (e, rest) } c e.msg.payload
    generalize hsent : EventHub.send { s with loop := some (e, rest) } c e.msg.payload = r at heq hroom
    obtain ⟨s', sent⟩ := r
    dsimp only at heq hroom
    refine ⟨send, unregister, sent, hclosed, ?_, fun _ _ => hroom⟩
    rw [heq]
    cases sent <;> rfl

end EventHub

/-- `dispatchBroadcast` is not done with the event. -/
def EventHub.Underway (s : EventHub) (e : Emission) : Prop :=
  e ∈ s.broadcast.buffered ∨ e ∈ s.senders ∨ ∃ rest, s.loop = some (e, rest)

/-- What holds however full the channels are. -/
structure Steady (s : EventHub) : Prop where
  opened : Opened s.hub
  once : ∀ e rest, s.loop = some (e, rest) → rest.Nodup
  everyone : ∀ e, s.Underway e → e.msg.exclude = none

theorem nodup_audience (h : Hub) (msg : outbound.BroadcastMessage) (order : List ClientID) :
    (visits order (outbound.audience h msg)).Nodup := by
  have haudience : (outbound.audience h msg).Nodup := by
    unfold outbound.audience
    split <;> exact GoMap.nodup_pairs_keys _
  unfold visits
  split
  · rename_i hperm
    exact hperm.nodup_iff.mpr haudience
  · exact haudience

theorem Steady.region {s : EventHub} (h : Steady s) (f : Hub → Hub) (hf : Opened s.hub → Opened (f s.hub)) :
    Steady (s.region f) := by
  unfold EventHub.region
  split
  · exact ⟨hf h.opened, h.once, h.everyone⟩
  · exact h

theorem Steady.send {s : EventHub} (h : Steady s) (c : ClientID) (payload : GoBytes) :
    Steady (s.send c payload).1 := by
  obtain ⟨send, unregister, hsend, heq⟩ := s.send_fst c payload
  rw [heq]
  exact ⟨h.opened.updateClient c (fun k => { k with send }) rfl hsend, h.once, h.everyone⟩

theorem Steady.emit {s : EventHub} (h : Steady s) (handler : Nat) (payload : GoBytes)
    (channelID : UInt32) : Steady (s.emit handler payload channelID) := by
  unfold EventHub.emit
  simp only
  split
  · rename_i broadcast hsent
    refine ⟨h.opened, h.once, ?_⟩
    rintro e (hin | hrest)
    · dsimp only at hin
      rw [GoChan.trySend_sent_buffered hsent, List.mem_append, List.mem_singleton] at hin
      obtain hin | rfl := hin
      · exact h.everyone e (.inl hin)
      · rfl
    · exact h.everyone e (.inr hrest)
  all_goals
    refine ⟨h.opened, h.once, ?_⟩
    rintro e (hin | hwait | hloop)
    · exact h.everyone e (.inl hin)
    · dsimp only at hwait
      rw [List.mem_append, List.mem_singleton] at hwait
      obtain hwait | rfl := hwait
      · exact h.everyone e (.inr (.inl hwait))
      · rfl
    · exact h.everyone e (.inr (.inr hloop))

theorem Steady.wake {s : EventHub} (h : Steady s) (i : Nat) : Steady (s.wake i) := by
  unfold EventHub.wake
  split
  · exact h
  rename_i e hi
  split
  · rename_i broadcast hsent
    refine ⟨h.opened, h.once, ?_⟩
    rintro e' (hin | hwait | hloop)
    · dsimp only at hin
      rw [GoChan.trySend_sent_buffered hsent, List.mem_append, List.mem_singleton] at hin
      obtain hin | rfl := hin
      · exact h.everyone e' (.inl hin)
      · exact h.everyone e' (.inr (.inl (List.mem_of_getElem? hi)))
    · exact h.everyone e' (.inr (.inl (List.mem_of_mem_eraseIdx hwait)))
    · exact h.everyone e' (.inr (.inr hloop))
  all_goals exact h

theorem Steady.dispatchBroadcast {s : EventHub} (h : Steady s) (order : List ClientID) :
    Steady (s.dispatchBroadcast order) := by
  unfold EventHub.dispatchBroadcast
  split
  · rename_i e rest hnone hbuffered
    split
    · exact h
    refine ⟨h.opened, ?_, ?_⟩
    · intro e' rest' hloop
      cases hloop
      exact nodup_audience _ _ order
    · rintro e' (hin | hwait | ⟨rest', hloop⟩)
      · exact h.everyone e' (.inl (by rw [hbuffered]; exact List.mem_cons_of_mem e hin))
      · exact h.everyone e' (.inr (.inl hwait))
      · cases hloop
        exact h.everyone e (.inl (by rw [hbuffered]; exact List.mem_cons_self))
  · exact h

theorem Steady.deliver {s : EventHub} (h : Steady s) : Steady s.deliver := by
  obtain heq | ⟨-, heq⟩ | ⟨e, c, rest, hloop⟩ := s.deliver_cases
  · rw [heq]
    exact h
  · rw [heq]
    refine ⟨h.opened, by simp, ?_⟩
    rintro e (hin | hwait | ⟨rest, hloop⟩)
    · exact h.everyone e (.inl hin)
    · exact h.everyone e (.inr (.inl hwait))
    · cases hloop
  · obtain ⟨send, unregister, sent, hclosed, heq, -⟩ := s.deliver_cons c hloop
    rw [heq]
    refine ⟨h.opened.updateClient c (fun k => { k with send }) rfl hclosed, ?_, ?_⟩
    · intro e' rest' hloop'
      cases hloop'
      exact (h.once e (c :: rest) hloop).of_cons
    · rintro e' (hin | hwait | ⟨rest', hloop'⟩)
      · exact h.everyone e' (.inl hin)
      · exact h.everyone e' (.inr (.inl hwait))
      · cases hloop'
        exact h.everyone e (.inr (.inr ⟨_, hloop⟩))

theorem Steady.step {s : EventHub} (h : Steady s) (t : Step) : Steady (s.step t) := by
  cases t with
  | emit handler payload channelID => exact h.emit handler payload channelID
  | wake i => exact h.wake i
  | expire i =>
    simp only [EventHub.step, EventHub.expire]
    split
    · exact h
    · refine ⟨h.opened, h.once, ?_⟩
      rintro e (hin | hwait | hloop)
      · exact h.everyone e (.inl hin)
      · exact h.everyone e (.inr (.inl (List.mem_of_mem_eraseIdx hwait)))
      · exact h.everyone e (.inr (.inr hloop))
  | dispatchBroadcast order => exact h.dispatchBroadcast order
  | deliver => exact h.deliver
  | unregisterClient =>
    simp only [EventHub.step, EventHub.unregisterClient]
    split
    · split
      · exact h
      · exact ⟨h.opened.handleClientDisconnect _, h.once, h.everyone⟩
    · exact h
  | cleanupAll =>
    simp only [EventHub.step]
    split
    · exact ⟨h.opened.cleanupAll, h.once, h.everyone⟩
    · exact h
  | update call => exact h.region call.apply fun hopen => hopen.apply call
  | kickMember targetUserID =>
    exact h.region (fun h => (h.kickMember targetUserID).1) fun hopen => hopen.kickMember targetUserID
  | handleClientDisconnect c =>
    exact h.region (fun h => (h.handleClientDisconnect c).1) fun hopen => hopen.handleClientDisconnect c
  | signIn c user =>
    exact ⟨h.opened.updateClient c (fun k => k.signIn user) rfl rfl, h.once, h.everyone⟩
  | sendJSON c payload => exact h.send c payload
  | writeMessage c =>
    exact ⟨h.opened.updateClient c
      (fun k => { k with send := { k.send with buffered := k.send.buffered.tail } }) rfl rfl, h.once,
      h.everyone⟩

theorem steady_after (ts : List Step) : Steady (after ts) := by
  refine machine.run_stable Steady (fun s t h => h.step t) ⟨⟨fun _ => rfl, ?_⟩, ?_, ?_⟩ ts
  · intro c hc
    cases hc
  · intro e rest hloop
    cases hloop
  · rintro e (hin | hwait | ⟨rest, hloop⟩)
    · cases hin
    · cases hwait
    · cases hloop

theorem Emits.unique {s : EventHub} {t : Step} {a b : Emission} (ha : Emits s t a) (hb : Emits s t b) :
    a = b := by
  obtain ⟨hturn, hexclude, hseq⟩ := ha
  obtain ⟨hturn', hexclude', hseq'⟩ := hb
  obtain ⟨handler, seq, payload, channelID, exclude⟩ := a
  obtain ⟨handler', seq', payload', channelID', exclude'⟩ := b
  simp only at hturn hexclude hseq hturn' hexclude' hseq'
  subst hexclude hexclude' hseq hseq' hturn
  cases hturn'
  rfl

/-- What a step does with the events for everybody, from where the client stands: it
emits none and moves none, or it emits one that finds room or does not, or lets one in
that was waiting. -/
inductive Flow (k : ClientID) (s : EventHub) (t : Step) (s' : EventHub) : Prop where
  | quiet (hemits : ∀ a, a.isGlobal = true → ¬ Emits s t a) (hemitted : ∀ h, s.emitted h ≤ s'.emitted h)
      (hwaiting : ∀ e, e ∈ s'.waiting ↔ e ∈ s.waiting) (hmem : ∀ e ∈ s'.pipeline k, e ∈ s.pipeline k)
      (hpipeline : Present s' k → s'.pipeline k = s.pipeline k)
  | queued (e : Emission) (hglobal : e.isGlobal = true) (hemits : Emits s t e)
      (hemitted : s'.emitted = Function.update s.emitted e.handler (e.seq + 1))
      (hwaiting : s'.waiting = s.waiting) (hpipeline : s'.pipeline k = s.pipeline k ++ [e])
  | held (e : Emission) (hglobal : e.isGlobal = true) (hemits : Emits s t e)
      (hemitted : s'.emitted = Function.update s.emitted e.handler (e.seq + 1))
      (hwaiting : ∀ e', e' ∈ s'.waiting ↔ e' ∈ s.waiting ∨ e' = e) (hpipeline : s'.pipeline k = s.pipeline k)
  | woken (e : Emission) (he : e ∈ s.waiting) (hemits : ∀ a, ¬ Emits s t a)
      (hemitted : s'.emitted = s.emitted) (hwaiting : ∀ e' ∈ s'.waiting, e' ∈ s.waiting)
      (hleft : ∀ e' ∈ s.waiting, e' ∈ s'.waiting ∨ e' = e)
      (hpipeline : s'.pipeline k = s.pipeline k ++ [e])

namespace Flow

variable {k : ClientID} {s s' : EventHub} {t : Step} {e : Emission} (h : Flow k s t s')

include h

theorem emitted_le (n : Nat) : s.emitted n ≤ s'.emitted n := by
  have hupdate : ∀ e, Emits s t e → s'.emitted = Function.update s.emitted e.handler (e.seq + 1) →
      s.emitted n ≤ s'.emitted n := by
    intro e hemits hemitted
    rw [hemitted, Function.update_apply]
    split
    · rename_i hn
      rw [hn, hemits.2.2]
      exact Nat.le_succ _
    · exact le_rfl
  cases h with
  | quiet hemits hemitted => exact hemitted n
  | queued e hglobal hemits hemitted => exact hupdate e hemits hemitted
  | held e hglobal hemits hemitted => exact hupdate e hemits hemitted
  | woken e he hemits hemitted => rw [hemitted]

theorem numbers (hglobal : e.isGlobal = true) (hemits : Emits s t e) : e.seq < s'.emitted e.handler := by
  have hupdate : ∀ e', Emits s t e' → s'.emitted = Function.update s.emitted e'.handler (e'.seq + 1) →
      e.seq < s'.emitted e.handler := by
    intro e' hemits' hemitted
    rw [hemitted, hemits.unique hemits', Function.update_self]
    exact Nat.lt_succ_self _
  cases h with
  | quiet hnot => exact absurd hemits (hnot e hglobal)
  | queued e' _ hemits' hemitted => exact hupdate e' hemits' hemitted
  | held e' _ hemits' hemitted => exact hupdate e' hemits' hemitted
  | woken e' he hnot => exact absurd hemits (hnot e)

theorem waiting_or_emits (he : e ∈ s'.waiting) : e ∈ s.waiting ∨ Emits s t e := by
  cases h with
  | quiet hemits hemitted hwaiting => exact .inl ((hwaiting e).mp he)
  | queued e' hglobal hemits hemitted hwaiting => exact .inl (hwaiting ▸ he)
  | held e' hglobal hemits hemitted hwaiting =>
    obtain hold | rfl := (hwaiting e).mp he
    · exact .inl hold
    · exact .inr hemits
  | woken e' he' hemits hemitted hwaiting => exact .inl (hwaiting e he)

theorem mem_or_emits (he : e ∈ s'.pipeline k ∨ e ∈ s'.waiting) :
    (e ∈ s.pipeline k ∨ e ∈ s.waiting) ∨ e.isGlobal = true ∧ Emits s t e := by
  obtain hin | hwait := he
  swap
  · exact (h.waiting_or_emits hwait).imp .inr fun hemits => ⟨(List.mem_filter.mp hwait).2, hemits⟩
  cases h with
  | quiet hemits hemitted hwaiting hmem => exact .inl (.inl (hmem e hin))
  | queued e' hglobal hemits hemitted hwaiting hpipeline =>
    rw [hpipeline, List.mem_append, List.mem_singleton] at hin
    obtain hin | rfl := hin
    · exact .inl (.inl hin)
    · exact .inr ⟨hglobal, hemits⟩
  | held e' hglobal hemits hemitted hwaiting hpipeline => exact .inl (.inl (hpipeline ▸ hin))
  | woken e' he' hemits hemitted hwaiting hleft hpipeline =>
    rw [hpipeline, List.mem_append, List.mem_singleton] at hin
    obtain hin | rfl := hin
    · exact .inl (.inl hin)
    · exact .inl (.inr he')

end Flow

section flow

variable {s : EventHub} {k : ClientID}

theorem not_emits {t : Step} (hother : ∀ handler payload channelID, t ≠ .emit handler payload channelID)
    (a : Emission) : ¬ Emits s t a := fun hemits => hother _ _ _ hemits.1

/-- The step changes the hub, or what `Run` is asked to disconnect. -/
theorem Flow.of_hub {t : Step} (hother : ∀ handler payload channelID, t ≠ .emit handler payload channelID)
    (hub : Hub) (unregister : GoChan ClientID) (stopped : Bool) :
    Flow k s t { s with hub, unregister, stopped } :=
  .quiet (fun a _ => not_emits hother a) (fun _ => le_rfl) (fun _ => Iff.rfl) (fun _ he => he) fun _ => rfl

theorem flow_region {t : Step} (hother : ∀ handler payload channelID, t ≠ .emit handler payload channelID)
    (f : Hub → Hub) : Flow k s t (s.region f) := by
  unfold EventHub.region
  split
  · exact .of_hub hother (f s.hub) s.unregister s.stopped
  · exact .of_hub hother s.hub s.unregister s.stopped

theorem pipeline_enqueue {s' : EventHub} {e : Emission} (hdelivered : s'.delivered = s.delivered)
    (hloop : s'.loop = s.loop) (hbuffered : s'.broadcast.buffered = s.broadcast.buffered ++ [e]) :
    s'.pipeline k = s.pipeline k ++ [e].filter Emission.isGlobal := by
  unfold EventHub.pipeline EventHub.visiting
  rw [hdelivered, hloop, hbuffered, ← List.append_assoc, List.filter_append]

/-- One goroutine more waits, with the event. -/
theorem mem_waiting_iff {s' : EventHub} {e : Emission}
    (hsenders : ∀ e', e' ∈ s'.senders ↔ e' ∈ s.senders ∨ e' = e) (hexpired : s'.expired = s.expired)
    (e' : Emission) : e' ∈ s'.waiting ↔ e' ∈ s.waiting ∨ e' = e ∧ e.isGlobal = true := by
  simp only [EventHub.waiting, hsenders, hexpired, List.mem_filter, List.mem_append]
  constructor
  · rintro ⟨(hold | rfl) | hold, hglobal⟩
    · exact .inl ⟨.inl hold, hglobal⟩
    · exact .inr ⟨rfl, hglobal⟩
    · exact .inl ⟨.inr hold, hglobal⟩
  · rintro (⟨hold | hold, hglobal⟩ | ⟨rfl, hglobal⟩)
    · exact ⟨.inl (.inl hold), hglobal⟩
    · exact ⟨.inr hold, hglobal⟩
    · exact ⟨.inl (.inr rfl), hglobal⟩

theorem flow_emit (handler : Nat) (payload : GoBytes) (channelID : UInt32) :
    Flow k s (.emit handler payload channelID) (s.emit handler payload channelID) := by
  obtain ⟨e, he⟩ : ∃ e : Emission, e = ⟨handler, s.emitted handler, payload, channelID, none⟩ := ⟨_, rfl⟩
  have hemits : Emits s (.emit handler payload channelID) e := by
    subst he
    exact ⟨rfl, rfl, rfl⟩
  have hemitted : (s.emit handler payload channelID).emitted =
      Function.update s.emitted e.handler (e.seq + 1) := by
    subst he
    unfold EventHub.emit
    simp only
    split <;> rfl
  have hmono : ∀ h, s.emitted h ≤ (s.emit handler payload channelID).emitted h := by
    intro h
    rw [hemitted, Function.update_apply]
    split
    · rename_i hh
      rw [hh, hemits.2.2]
      exact Nat.le_succ _
    · exact le_rfl
  have hsplit : (s.emit handler payload channelID).waiting = s.waiting ∧
        (s.emit handler payload channelID).pipeline k = s.pipeline k ++ [e].filter Emission.isGlobal ∨
      (∀ e', e' ∈ (s.emit handler payload channelID).waiting ↔ e' ∈ s.waiting ∨ e' = e ∧ e.isGlobal = true) ∧
        (s.emit handler payload channelID).pipeline k = s.pipeline k := by
    subst he
    unfold EventHub.emit
    simp only
    split
    · rename_i hsent
      exact .inl ⟨rfl, pipeline_enqueue rfl rfl (GoChan.trySend_sent_buffered hsent)⟩
    all_goals exact .inr ⟨mem_waiting_iff (fun e' => by rw [List.mem_append, List.mem_singleton]) rfl, rfl⟩
  cases hglobal : e.isGlobal with
  | true =>
    simp only [List.filter_singleton, hglobal, and_true, cond_true] at hsplit
    obtain ⟨hwaiting, hpipeline⟩ | ⟨hwaiting, hpipeline⟩ := hsplit
    · exact .queued e hglobal hemits hemitted hwaiting hpipeline
    · exact .held e hglobal hemits hemitted hwaiting hpipeline
  | false =>
    have hscoped : ∀ a, a.isGlobal = true → ¬ Emits s (.emit handler payload channelID) a := by
      intro a ha hemits'
      rw [hemits'.unique hemits, hglobal] at ha
      cases ha
    simp only [List.filter_singleton, hglobal, Bool.false_eq_true, and_false, or_false, cond_false,
      List.append_nil] at hsplit
    obtain ⟨hwaiting, hpipeline⟩ | ⟨hwaiting, hpipeline⟩ := hsplit
    · exact .quiet hscoped hmono (fun _ => by rw [hwaiting]) (fun _ => by rw [hpipeline]; exact id)
        fun _ => hpipeline
    · exact .quiet hscoped hmono hwaiting (fun _ => by rw [hpipeline]; exact id) fun _ => hpipeline

theorem mem_senders_iff {i : Nat} {e : Emission} (hi : s.senders[i]? = some e) (e' : Emission) :
    e' ∈ s.senders ↔ e' ∈ s.senders.eraseIdx i ∨ e' = e := by
  obtain ⟨hlt, rfl⟩ := List.getElem?_eq_some_iff.mp hi
  rw [List.mem_eraseIdx_iff_getElem]
  constructor
  · intro hmem
    obtain ⟨j, hj, rfl⟩ := List.getElem_of_mem hmem
    by_cases hji : j = i
    · subst j
      exact .inr rfl
    · exact .inl ⟨j, hj, hji, rfl⟩
  · rintro (⟨j, hj, -, rfl⟩ | rfl)
    · exact List.getElem_mem hj
    · exact List.getElem_mem hlt

theorem flow_wake (i : Nat) : Flow k s (.wake i) (s.wake i) := by
  have hnone : ∀ a, ¬ Emits s (.wake i) a := not_emits (by simp)
  unfold EventHub.wake
  split
  · exact .of_hub (by simp) s.hub s.unregister s.stopped
  rename_i e hi
  split
  · rename_i broadcast hsent
    have hpipeline : ({ s with broadcast, senders := s.senders.eraseIdx i } : EventHub).pipeline k =
        s.pipeline k ++ [e].filter Emission.isGlobal :=
      pipeline_enqueue rfl rfl (GoChan.trySend_sent_buffered hsent)
    have hwaiting : ∀ e', e' ∈ s.waiting ↔
        e' ∈ ({ s with broadcast, senders := s.senders.eraseIdx i } : EventHub).waiting ∨
          e' = e ∧ e.isGlobal = true := mem_waiting_iff (mem_senders_iff hi) rfl
    cases hglobal : e.isGlobal with
    | true =>
      simp only [List.filter_singleton, hglobal, and_true, cond_true] at hpipeline hwaiting
      exact .woken e ((hwaiting e).mpr (.inr rfl)) hnone rfl (fun e' he' => (hwaiting e').mpr (.inl he'))
        (fun e' he' => (hwaiting e').mp he') hpipeline
    | false =>
      simp only [List.filter_singleton, hglobal, Bool.false_eq_true, and_false, or_false, cond_false,
        List.append_nil] at hpipeline hwaiting
      exact .quiet (fun a _ => hnone a) (fun _ => le_rfl) (fun e' => (hwaiting e').symm)
        (fun _ => by rw [hpipeline]; exact id) fun _ => hpipeline
  all_goals exact .of_hub (by simp) s.hub s.unregister s.stopped

theorem flow_expire (i : Nat) : Flow k s (.expire i) (s.expire i) := by
  unfold EventHub.expire
  split
  · exact .of_hub (by simp) s.hub s.unregister s.stopped
  · rename_i e hi
    refine .quiet (fun a _ => not_emits (by simp) a) (fun _ => le_rfl) ?_ (fun _ => id) fun _ => rfl
    intro e'
    simp only [EventHub.waiting, List.mem_filter, List.mem_append, List.mem_singleton, mem_senders_iff hi e']
    grind

theorem mem_audience {h : Hub} {msg : outbound.BroadcastMessage} (hall : msg.channelID = 0)
    (hreg : h.Registered k) (order : List ClientID) : k ∈ visits order (outbound.audience h msg) := by
  rw [mem_visits]
  unfold outbound.audience
  rw [if_pos hall, List.mem_map]
  exact ⟨(k, ()), (GoMap.mem_pairs_iff _ _ _).mpr hreg, rfl⟩

theorem flow_dispatchBroadcast (order : List ClientID) :
    Flow k s (.dispatchBroadcast order) (s.dispatchBroadcast order) := by
  unfold EventHub.dispatchBroadcast
  split
  · rename_i e rest hloop hbuffered
    split
    · exact .of_hub (by simp) s.hub s.unregister s.stopped
    have hold : s.pipeline k = (s.delivered k ++ [e] ++ rest).filter Emission.isGlobal := by
      unfold EventHub.pipeline EventHub.visiting
      rw [hloop, hbuffered, List.append_nil, List.append_assoc, List.singleton_append]
    have hvisiting : ∀ broadcast, ({ s with
        broadcast, loop := some (e, visits order (outbound.audience s.hub e.msg)) } : EventHub).visiting k =
        if k ∈ visits order (outbound.audience s.hub e.msg) then [e] else [] := fun _ => rfl
    refine .quiet (fun a _ => not_emits (by simp) a) (fun _ => le_rfl) (fun _ => Iff.rfl) ?_ ?_
    · intro e' he'
      rw [hold]
      unfold EventHub.pipeline at he'
      rw [hvisiting] at he'
      split at he'
      · exact he'
      · rw [List.append_nil] at he'
        exact (((List.sublist_append_left _ [e]).append_right rest).filter _).subset he'
    · intro hpresent
      rw [hold]
      unfold EventHub.pipeline
      rw [hvisiting]
      cases hglobal : e.isGlobal with
      | true => rw [if_pos (mem_audience (by simpa [Emission.isGlobal] using hglobal) hpresent.1 order)]
      | false => split <;> simp [hglobal]
  · exact .of_hub (by simp) s.hub s.unregister s.stopped

/-- The turn of another client. -/
theorem pipeline_deliver_of_ne {e : Emission} {c : ClientID} {rest : List ClientID}
    (hloop : s.loop = some (e, c :: rest)) (hc : k ≠ c) : s.deliver.pipeline k = s.pipeline k := by
  obtain ⟨send, unregister, sent, -, heq, -⟩ := s.deliver_cons c hloop
  have hdelivered : s.deliver.delivered k = s.delivered k := by
    rw [heq]
    cases sent
    · rfl
    · exact Function.update_of_ne hc _ _
  have hvisiting : s.deliver.visiting k = s.visiting k := by
    rw [heq]
    unfold EventHub.visiting
    rw [hloop]
    simp [hc]
  unfold EventHub.pipeline
  rw [hdelivered, hvisiting, heq]

/-- The turn of the client: the event in the loop is sent, or is lost if the client may
go without it. -/
theorem pipeline_deliver_self (hs : Steady s) (hok : RoomFor k s .deliver) {e : Emission}
    {rest : List ClientID} (hloop : s.loop = some (e, k :: rest)) :
    (∀ e' ∈ s.deliver.pipeline k, e' ∈ s.pipeline k) ∧
      (Present s.deliver k → s.deliver.pipeline k = s.pipeline k) := by
  obtain ⟨send, unregister, sent, -, heq, hsent⟩ := s.deliver_cons k hloop
  have hleft : k ∉ rest := (List.nodup_cons.mp (hs.once e (k :: rest) hloop)).1
  have hold : s.pipeline k = (s.delivered k ++ [e] ++ s.broadcast.buffered).filter Emission.isGlobal := by
    unfold EventHub.pipeline EventHub.visiting
    rw [hloop]
    simp only [List.mem_cons, true_or, if_true]
  have hnew : s.deliver.pipeline k =
      ((if sent then s.delivered k ++ [e] else s.delivered k) ++ s.broadcast.buffered).filter
        Emission.isGlobal := by
    rw [heq]
    unfold EventHub.pipeline EventHub.visiting
    cases sent <;>
      simp only [hleft, Bool.false_eq_true, if_false, if_true, Function.update_self, List.append_nil]
  cases sent with
  | true =>
    have hsame : s.deliver.pipeline k = s.pipeline k := by rw [hnew, hold, if_pos rfl]
    exact ⟨fun e' he' => hsame ▸ he', fun _ => hsame⟩
  | false =>
    rw [if_neg (by simp)] at hnew
    constructor
    · intro e' he'
      rw [hnew] at he'
      rw [hold]
      exact (((List.sublist_append_left _ [e]).append_right _).filter _).subset he'
    · intro hpresent
      rw [heq] at hpresent
      obtain ⟨hreg, hauth⟩ := hpresent
      have hauthenticated : (s.hub.conn k).isAuthenticated = true := by simpa using hauth
      have hopen : (s.hub.conn k).closed = false := hs.opened.registered k hreg
      have hlocal : e.isGlobal = false := by
        by_contra hglobal
        have hroom := hok e rest hloop (by simpa using hglobal) hauthenticated
        have hexclude : e.msg.exclude = none := hs.everyone e (.inr (.inr ⟨_, hloop⟩))
        have hdone := hsent (by simp [hexclude]) hauthenticated hopen
          ((hs.opened.inSync k).trans hopen) hroom
        cases hdone
      rw [hnew, hold]
      simp [hlocal]

theorem flow_deliver (hs : Steady s) (hok : RoomFor k s .deliver) : Flow k s .deliver s.deliver := by
  have hnone : ∀ a, a.isGlobal = true → ¬ Emits s .deliver a := fun a _ => not_emits (by simp) a
  obtain heq | ⟨⟨e, hloop⟩, heq⟩ | ⟨e, c, rest, hloop⟩ := s.deliver_cases
  · rw [heq]
    exact .of_hub (by simp) s.hub s.unregister s.stopped
  · have hsame : s.deliver.pipeline k = s.pipeline k := by
      rw [heq]
      unfold EventHub.pipeline EventHub.visiting
      rw [hloop]
      simp
    refine .quiet hnone ?_ ?_ (fun e' he' => hsame ▸ he') fun _ => hsame
    · intro h
      rw [heq]
    · intro e'
      rw [heq]
      rfl
  · have hpipeline : (∀ e' ∈ s.deliver.pipeline k, e' ∈ s.pipeline k) ∧
        (Present s.deliver k → s.deliver.pipeline k = s.pipeline k) := by
      by_cases hc : k = c
      · subst c
        exact pipeline_deliver_self hs hok hloop
      · have hsame := pipeline_deliver_of_ne hloop hc
        exact ⟨fun e' he' => hsame ▸ he', fun _ => hsame⟩
    obtain ⟨send, unregister, sent, -, heq, -⟩ := s.deliver_cons c hloop
    refine .quiet hnone ?_ ?_ hpipeline.1 hpipeline.2
    · intro h
      rw [heq]
    · intro e'
      rw [heq]
      rfl

/-- Every step of the hub is one of the four, if there is room. -/
theorem flow_step (hs : Steady s) (t : Step) (hok : RoomFor k s t) : Flow k s t (s.step t) := by
  cases t with
  | emit handler payload channelID => exact flow_emit handler payload channelID
  | wake i => exact flow_wake i
  | expire i => exact flow_expire i
  | dispatchBroadcast order => exact flow_dispatchBroadcast order
  | deliver => exact flow_deliver hs hok
  | unregisterClient =>
    simp only [EventHub.step, EventHub.unregisterClient]
    split
    · split
      · exact .of_hub (by simp) s.hub s.unregister s.stopped
      · exact .of_hub (by simp) _ _ s.stopped
    · exact .of_hub (by simp) s.hub s.unregister s.stopped
  | cleanupAll =>
    simp only [EventHub.step]
    split
    · exact .of_hub (by simp) _ s.unregister true
    · exact .of_hub (by simp) s.hub s.unregister s.stopped
  | update call => exact flow_region (by simp) call.apply
  | kickMember targetUserID => exact flow_region (by simp) fun h => (h.kickMember targetUserID).1
  | handleClientDisconnect c => exact flow_region (by simp) fun h => (h.handleClientDisconnect c).1
  | signIn c user => exact .of_hub (by simp) _ s.unregister s.stopped
  | sendJSON c payload =>
    obtain ⟨send, unregister, -, heq⟩ := s.send_fst c payload
    simp only [EventHub.step]
    rw [heq]
    exact .of_hub (by simp) _ unregister s.stopped
  | writeMessage c => exact .of_hub (by simp) _ s.unregister s.stopped

end flow

section orderly

variable {k : ClientID} {ts : List Step}

theorem staysSince_concat_iff {t : Step} {a : Emission} :
    StaysSince k a (ts ++ [t]) ↔
      Present (after (ts ++ [t])) k ∧ (Emits (after ts) t a ∨ StaysSince k a ts) := by
  unfold StaysSince
  rw [Machine.historySince_concat_iff, not_not, and_or_left, and_comm]
  exact or_congr_right and_comm

/-- The events of a handler stand in the order in which it emitted them, those that
wait behind all others. -/
structure Orderly (k : ClientID) (ts : List Step) : Prop where
  numbered : ∀ e, e ∈ (after ts).pipeline k ∨ e ∈ (after ts).waiting → e.seq < (after ts).emitted e.handler
  last : ∀ e ∈ (after ts).waiting, ∀ b, b ∈ (after ts).pipeline k ∨ b ∈ (after ts).waiting →
    b.handler = e.handler → b.seq ≤ e.seq
  kept : ∀ a, a.isGlobal = true → StaysSince k a ts → a ∈ (after ts).pipeline k ∨ a ∈ (after ts).waiting
  ordered : Preceded (fun a b => StaysSince k a ts ∧ a.Before b) ((after ts).pipeline k)

theorem Orderly.nil : Orderly k [] where
  numbered e he := by rcases he with he | he <;> cases he
  last e he := by cases he
  kept a _ hstays := absurd hstays Machine.not_historySince_nil
  ordered := Preceded.nil

/-- What is emitted now comes after all that its handler emitted before. -/
theorem Orderly.not_before {t : Step} {a b : Emission} (h : Orderly k ts) (ha : Emits (after ts) t a)
    (hb : b ∈ (after ts).pipeline k ∨ b ∈ (after ts).waiting) : ¬ a.Before b := by
  intro hbefore
  have hlt := h.numbered b hb
  have hseq := ha.2.2
  rw [← hbefore.1] at hlt
  have hab := hbefore.2.1
  omega

/-- An event of a handler that has others waiting finds no room itself. -/
theorem RoomFor.not_waiting {s : EventHub} {t : Step} {e : Emission} (hok : RoomFor k s t) (he : Emits s t e)
    (hglobal : e.isGlobal = true) {e' : Emission} (hwait : e' ∈ s.waiting) : e'.handler ≠ e.handler := by
  rw [he.1] at hok
  obtain ⟨hmem, hglobal'⟩ := List.mem_filter.mp hwait
  exact hok (by simpa [Emission.isGlobal] using hglobal) e' hmem hglobal'

/-- An event for everybody that was emitted since the client is there gets into
`h.broadcast`, or still waits to. -/
theorem Orderly.kept_concat {t : Step} (h : Orderly k ts) (hflow : Flow k (after ts) t (after (ts ++ [t])))
    {a : Emission} (hglobal : a.isGlobal = true) (ha : StaysSince k a (ts ++ [t])) :
    a ∈ (after (ts ++ [t])).pipeline k ∨ a ∈ (after (ts ++ [t])).waiting := by
  obtain ⟨hpresent, ha⟩ := staysSince_concat_iff.mp ha
  cases hflow with
  | quiet hemits hemitted hwaiting hmem hpipeline =>
    rw [hpipeline hpresent, hwaiting]
    exact h.kept a hglobal (ha.resolve_left (hemits a hglobal))
  | queued e _ hemits hemitted hwaiting hpipeline =>
    rw [hpipeline, hwaiting, List.mem_append, List.mem_singleton]
    obtain hemit | hsince := ha
    · exact .inl (.inr (hemit.unique hemits))
    · exact (h.kept a hglobal hsince).imp_left .inl
  | held e _ hemits hemitted hwaiting hpipeline =>
    rw [hpipeline, hwaiting]
    obtain hemit | hsince := ha
    · exact .inr (.inr (hemit.unique hemits))
    · exact (h.kept a hglobal hsince).imp_right .inl
  | woken e he hemits hemitted hwaiting hleft hpipeline =>
    rw [hpipeline, List.mem_append, List.mem_singleton]
    obtain hin | hwait := h.kept a hglobal (ha.resolve_left (hemits a))
    · exact .inl (.inl hin)
    · exact (hleft a hwait).elim .inr fun heq => .inl (.inr heq)

/-- What joins the pipeline finds there all that its handler emitted before it. -/
theorem Orderly.ordered_concat {t : Step} (h : Orderly k ts) (hok : RoomFor k (after ts) t)
    (hflow : Flow k (after ts) t (after (ts ++ [t]))) :
    Preceded (fun a b => StaysSince k a (ts ++ [t]) ∧ a.Before b) ((after (ts ++ [t])).pipeline k) := by
  have hold : Preceded (fun a b => StaysSince k a (ts ++ [t]) ∧ a.Before b) ((after ts).pipeline k) := by
    refine h.ordered.imp ?_
    rintro b hb a ⟨ha, hbefore⟩
    obtain ⟨-, hemits | hsince⟩ := staysSince_concat_iff.mp ha
    · exact absurd hbefore (h.not_before hemits (.inl hb))
    · exact ⟨hsince, hbefore⟩
  cases hflow with
  | quiet hemits hemitted hwaiting hmem hpipeline =>
    by_cases hpresent : Present (after (ts ++ [t])) k
    · rw [hpipeline hpresent]
      exact hold
    · rintro front b rest - a ⟨ha, -⟩
      exact absurd (staysSince_concat_iff.mp ha).1 hpresent
  | queued e hglobal hemits hemitted hwaiting hpipeline =>
    rw [hpipeline, Preceded.concat_iff]
    refine ⟨hold, ?_⟩
    rintro a ⟨ha, hbefore⟩
    obtain ⟨-, hemit | hsince⟩ := staysSince_concat_iff.mp ha
    · rw [hemit.unique hemits] at hbefore
      exact absurd hbefore.2.1 (lt_irrefl _)
    · obtain hin | hwait := h.kept a hbefore.2.2.1 hsince
      · exact hin
      · exact absurd hbefore.1 (hok.not_waiting hemits hglobal hwait)
  | held e hglobal hemits hemitted hwaiting hpipeline =>
    rw [hpipeline]
    exact hold
  | woken e he hemits hemitted hwaiting hleft hpipeline =>
    rw [hpipeline, Preceded.concat_iff]
    refine ⟨hold, ?_⟩
    rintro a ⟨ha, hbefore⟩
    have hsince := (staysSince_concat_iff.mp ha).2.resolve_left (hemits a)
    obtain hin | hwait := h.kept a hbefore.2.2.1 hsince
    · exact hin
    · -- `e` is the last of its handler, wherever it waits
      have hle := h.last a hwait e (.inr he) hbefore.1.symm
      exact absurd hbefore.2.1 (Nat.not_lt.mpr hle)

theorem Orderly.concat {t : Step} (h : Orderly k ts) (hok : RoomFor k (after ts) t) :
    Orderly k (ts ++ [t]) := by
  have hflow : Flow k (after ts) t (after (ts ++ [t])) := by
    have hnext : after (ts ++ [t]) = (after ts).step t := machine.run_concat .new ts t
    rw [hnext]
    exact flow_step (steady_after ts) t hok
  refine ⟨?_, ?_, fun a => h.kept_concat hflow, h.ordered_concat hok hflow⟩
  · intro e he
    obtain he | ⟨hglobal, hemits⟩ := hflow.mem_or_emits he
    · exact Nat.lt_of_lt_of_le (h.numbered e he) (hflow.emitted_le e.handler)
    · exact hflow.numbers hglobal hemits
  · intro e he b hb hhandler
    obtain he | hemits := hflow.waiting_or_emits he <;>
      obtain hb | ⟨hglobal, hemits'⟩ := hflow.mem_or_emits hb
    · exact h.last e he b hb hhandler
    · exact absurd hhandler.symm (hok.not_waiting hemits' hglobal he)
    · have hlt := h.numbered b hb
      rw [hhandler, ← hemits.2.2] at hlt
      exact Nat.le_of_lt hlt
    · rw [hemits.unique hemits']

theorem orderly_of_keepsUp (hkeeps : KeepsUp k ts) : Orderly k ts := by
  induction ts using List.reverseRecOn with
  | nil => exact .nil
  | append_singleton pre t ih => exact (ih hkeeps.front).concat hkeeps.last

end orderly

/-- As long as no handler emits behind its own back and the client has room for every
event that is for everybody, the client is sent what a handler emits in this order and
without a gap. -/
theorem inOrder_of_keepsUp (k : ClientID) (ts : List Step) (hkeeps : KeepsUp k ts) : InOrder k ts := by
  have hordered := (orderly_of_keepsUp hkeeps).ordered
  unfold EventHub.pipeline at hordered
  rw [List.filter_append, List.filter_append] at hordered
  refine hordered.of_append.of_append.of_filter.imp ?_
  rintro b - a ⟨ha, hbefore⟩
  exact ⟨hbefore.2.2.2, ha, hbefore⟩

/-- A user logs in on connection 1. -/
def login : List Step := [.update (.registerClient 1), .signIn 1 ⟨7, "kim", permDefaultMember⟩]

/-- `move_member` tells everybody twice, and both events are sent to connection 1. -/
def movePair : List Step :=
  [.emit 0 [1] 0, .emit 0 [2] 0, .dispatchBroadcast [1], .deliver, .deliver, .dispatchBroadcast [1], .deliver]

theorem inOrder_of_keepsUp_movePair :
    ((after (login ++ movePair)).delivered 1).map Emission.seq = [0, 1] ∧ InOrder 1 (login ++ movePair) := by
  refine ⟨by decide +kernel, inOrder_of_keepsUp 1 _ ?_⟩
  simp only [KeepsUp, login, movePair, List.cons_append, List.nil_append, Machine.along_cons_iff]
  refine ⟨trivial, trivial, ?_, ?_, trivial, ?_, ?_, trivial, ?_, Machine.along_nil⟩
  · intro _ e he
    cases he
  · intro _ e he
    cases he
  all_goals
    intro e rest _ _ _
    decide +kernel

/-- Replies that nobody reads fill the buffer of the client. -/
theorem run_sendJSON (s : EventHub) (c : ClientID) (payload : GoBytes)
    (hclosed : (s.hub.conn c).closed = false) (hopen : (s.hub.conn c).send.closed = false) (n : Nat)
    (hn : (s.hub.conn c).send.buffered.length + n ≤ sendBufferSize) :
    machine.run s (List.replicate n (.sendJSON c payload)) =
      { s with hub := s.hub.updateClient c fun k =>
        { k with send := { k.send with buffered := k.send.buffered ++ List.replicate n payload } } } := by
  induction n with
  | zero => simp [Hub.updateClient]
  | succ n ih =>
    have hroom : (s.hub.conn c).send.buffered.length + n < sendBufferSize := by omega
    rw [List.replicate_succ', Machine.run_concat, ih (by omega)]
    simp [Machine.next, machine, EventHub.step, EventHub.send, GoChan.trySend, Hub.updateClient, hclosed,
      hopen, hroom, List.replicate_succ']

/-- The buffer of connection 1 fills with replies to its user. -/
def stalled : List Step := login ++ List.replicate sendBufferSize (.sendJSON 1 [0])

/-- `move_member` tells everybody twice. The write pump of connection 1 wakes up after
the first event was dropped. -/
def resume : List Step :=
  [.dispatchBroadcast [1], .deliver, .deliver, .writeMessage 1, .emit 0 [2] 0, .dispatchBroadcast [1],
    .deliver]

/-- Connection 1 stays, and is sent the second of two events of a handler without the
first. -/
theorem full_buffer_skips_event : ¬ ∀ k ts, InOrder k ts := by
  intro hall
  have hstalled : ∀ ts, after (stalled ++ ts) =
      machine.run
        { after login with hub := (after login).hub.updateClient 1 fun k =>
          { k with send := { k.send with buffered := List.replicate sendBufferSize [0] } } } ts := by
    intro ts
    unfold stalled after
    rw [Machine.run_append, Machine.run_append, run_sendJSON _ 1 [0] rfl rfl _ (by decide)]
    rfl
  have hdelivered : ((after (stalled ++ .emit 0 [1] 0 :: resume)).delivered 1).map
      (fun e => (e.handler, e.seq, e.isGlobal)) = [(0, 1, true)] := by
    rw [hstalled]
    decide +kernel
  obtain ⟨b, hb, heq⟩ := List.map_eq_singleton_iff.mp hdelivered
  simp only [Prod.mk.injEq] at heq
  have hstays : StaysSince 1 ⟨0, 0, [1], 0, none⟩ (stalled ++ .emit 0 [1] 0 :: resume) := by
    refine ⟨stalled, .emit 0 [1] 0, resume, rfl, ⟨⟨rfl, rfl, ?_⟩, ?_⟩, ?_⟩
    · have hstart := hstalled []
      rw [List.append_nil] at hstart
      rw [hstart]
      rfl
    · rw [hstalled]
      decide +kernel
    · simp only [resume, Machine.along_cons_iff, List.append_assoc, List.cons_append, List.nil_append,
        hstalled]
      refine ⟨?_, ?_, ?_, ?_, ?_, ?_, ?_, Machine.along_nil⟩
      all_goals decide +kernel
  have hbefore : Emission.Before ⟨0, 0, [1], 0, none⟩ b := ⟨heq.1.symm, by simp [heq.2.1], rfl, heq.2.2⟩
  have hsent := hall 1 _ [] b [] hb _ ⟨hstays, hbefore⟩
  cases hsent

end low_latency_voice.control.events
