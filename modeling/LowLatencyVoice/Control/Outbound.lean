import LowLatencyVoice.Control.HubLaws
import LowLatencyVoice.Lib.Goroutines

open low_latency_voice.model

namespace low_latency_voice.control

namespace outbound

/-- `BroadcastMessage`; channel 0 addresses every authenticated client. -/
structure BroadcastMessage where
  payload : GoBytes
  channelID : UInt32
  exclude : Option ClientID

/-- Who calls `Client.Send`: `SendJSON` inside a handler, or a loop that holds
the hub lock for reading. -/
inductive Sender where
  | handler
  | loop
  deriving DecidableEq, Repr

/-- The hub regions that write maps and close nothing. -/
inductive HubUpdate where
  | registerClient (c : ClientID)
  | addUserClient (userID : UInt32) (c : ClientID)
  | joinVoice (now : Time) (c : ClientID) (channelID : UInt32) (channel : Channel)
      (selfMuted selfDeafened : Bool)
  | leaveVoice (c : ClientID)
  | setVoiceState (now : Time) (c : ClientID) (selfMuted selfDeafened isSpeaking : Bool)
  | setFlag (flag : ModFlag) (targetUserID : UInt32) (value : Bool)
  | moveMember (targetUserID toChannelID : UInt32)

def HubUpdate.apply (h : Hub) : HubUpdate → Hub
  | .registerClient c => h.registerClient c
  | .addUserClient userID c => h.addUserClient userID c
  | .joinVoice now c channelID channel selfMuted selfDeafened =>
    match h.joinVoice now c channelID channel selfMuted selfDeafened with
    | .ok h' => h'
    | .error _ => h
  | .leaveVoice c => h.leaveVoice c
  | .setVoiceState now c selfMuted selfDeafened isSpeaking =>
    h.setVoiceState now c selfMuted selfDeafened isSpeaking
  | .setFlag flag targetUserID value => h.setFlag flag targetUserID value
  | .moveMember targetUserID toChannelID => (h.moveMember targetUserID toChannelID).getD h

/-- The atomic actions around the outbound channels. `Client.Send` is two of
them, and a hub region holds `h.mu` from its first action to its last. -/
inductive Act where
  | rlock
  | runlock
  | lock
  | unlock
  | check (sender : Sender) (c : ClientID) (msg : GoBytes)
  | send (sender : Sender) (c : ClientID) (msg : GoBytes)
  | dispatchBroadcast (msg : BroadcastMessage)
  | unicast (userID : UInt32) (payload : GoBytes)
  | deliver (msg : BroadcastMessage) (c : ClientID)
  | update (call : HubUpdate)
  | handleClientDisconnect (c : ClientID)
  | kickMember (targetUserID : UInt32)
  | cleanupAll
  | cleanup (c : ClientID)
  | signIn (c : ClientID) (user : User)
  | writeMessage (c : ClientID)

/-- What a goroutine is asked to do. A handler is several of these in turn. -/
inductive Request where
  | serveWs (n : Nat) (c : ClientID)
  | sendJSON (c : ClientID) (msg : GoBytes)
  | signIn (c : ClientID) (user : User)
  | update (c : ClientID) (call : HubUpdate)
  | kickMember (c : ClientID) (targetUserID : UInt32)
  | hangUp (c : ClientID)
  | unregister (c : ClientID)
  | dispatchBroadcast (msg : BroadcastMessage)
  | unicast (n : Nat) (userID : UInt32) (payload : GoBytes)
  | shutDown
  | writeMessage (c : ClientID)

def Request.owner : Request → Routine
  | .serveWs n _ => .accept n
  | .sendJSON c _ | .signIn c _ | .update c _ | .kickMember c _ | .hangUp c => .readPump c
  | .unregister _ | .dispatchBroadcast _ | .shutDown => .run
  | .unicast n _ _ => .caller n
  | .writeMessage c => .writePump c

/-- `handleClientDisconnect` up to `h.mu.Unlock()`. -/
def disconnect (c : ClientID) : List Act := [.lock, .handleClientDisconnect c, .unlock]

def Request.program : Request → List Act
  | .serveWs _ c => [.lock, .update (.registerClient c), .unlock]
  | .sendJSON c msg => [.check .handler c msg]
  | .signIn c user => [.signIn c user, .lock, .update (.addUserClient user.id c), .unlock]
  | .update _ call => [.lock, .update call, .unlock]
  | .kickMember _ targetUserID => [.lock, .kickMember targetUserID]
  | .hangUp c | .unregister c => disconnect c
  | .dispatchBroadcast msg => [.rlock, .dispatchBroadcast msg, .runlock]
  | .unicast _ userID payload => [.rlock, .unicast userID payload, .runlock]
  | .shutDown => [.lock, .cleanupAll, .unlock]
  | .writeMessage c => [.writeMessage c]

/-- The server process. A panic ends it. -/
structure Process where
  hub : Hub
  mu : RWMutex Routine
  crashed : Bool

/-- `NewHub`. -/
def Process.new : Process := ⟨.new, .unlocked, false⟩

/-- The clients a broadcast loop visits. -/
def audience (h : Hub) (msg : BroadcastMessage) : List ClientID :=
  if msg.channelID = 0 then h.clients.pairs.map Prod.fst
  else ((h.voiceChannels.get? msg.channelID).getD ∅).pairs.map Prod.fst

/-- One action of a running process; loops visit the clients in some order. -/
def Process.act (p : Process) (g : Routine) (order : List ClientID) : Act → Option (Process × List Act)
  | .rlock => (p.mu.rlock g).map fun mu => ({ p with mu }, [])
  | .runlock => some ({ p with mu := p.mu.runlock g }, [])
  | .lock => (p.mu.lock g).map fun mu => ({ p with mu }, [])
  | .unlock => some ({ p with mu := p.mu.unlock }, [])
  | .check sender c msg => some (p, if (p.hub.conn c).closed then [] else [.send sender c msg])
  | .send _ c msg =>
    match (p.hub.conn c).send.trySend sendBufferSize msg with
    | .sent ch => some ({ p with hub := p.hub.updateClient c fun k => { k with send := ch } }, [])
    -- the full buffer only queues `c` on `h.unregister`, which may happen anyway
    | .full => some (p, [])
    | .panicked => some ({ p with crashed := true }, [])
  | .dispatchBroadcast msg => some (p, (visits order (audience p.hub msg)).map fun c => .deliver msg c)
  | .unicast userID payload =>
    some (p, (visits order (p.hub.clientsOf userID)).map fun c => .check .loop c payload)
  | .deliver msg c =>
    some (p, if msg.exclude = some c ∨ (p.hub.conn c).isAuthenticated = false then []
      else [.check .loop c msg.payload])
  | .update call => some ({ p with hub := call.apply p.hub }, [])
  | .handleClientDisconnect c => some ({ p with hub := (p.hub.handleClientDisconnect c).1 }, [])
  | .kickMember targetUserID =>
    let (hub, clientsToClose) := p.hub.kickMember targetUserID
    some ({ p with hub }, .unlock :: (visits order clientsToClose).flatMap disconnect)
  | .cleanupAll => some (p, (visits order (p.hub.clients.pairs.map Prod.fst)).map .cleanup)
  | .cleanup c =>
    let hub := p.hub.updateClient c Client.close
    some ({ p with hub := { hub with clients := hub.clients.delete c } }, [])
  | .signIn c user => some ({ p with hub := p.hub.updateClient c fun k => k.signIn user }, [])
  | .writeMessage c =>
    some ({ p with hub := p.hub.updateClient c fun k =>
      { k with send := { k.send with buffered := k.send.buffered.tail } } }, [])

/-- The process, any number of goroutines at a time. -/
def process : Goroutines Routine Process Request Act (List ClientID) where
  owner := Request.owner
  program := fun _ r => r.program
  perform := fun p g a order => if p.crashed then none else p.act g order a

/-- A state of the process and its goroutines. -/
abbrev State := Goroutines.Config Routine Process Act

/-- The next thing the scheduler does. -/
abbrev Turn := Goroutines.Turn Routine Request (List ClientID)

/-- The state after a schedule. -/
def after (ts : List Turn) : State := process.machine.run (Goroutines.idle .new) ts

/-- The turn sends on the outbound channel of `c`, which is closed. -/
def SendsOnClosed (k : State) (t : Turn) (c : ClientID) : Prop :=
  ∃ g order sender msg rest, t = .advance g order ∧ k.todo g = .send sender c msg :: rest ∧
    k.shared.crashed = false ∧ (k.shared.hub.conn c).send.closed = true

/-- No step of the schedule sends on a closed channel. -/
def NoSendOnClosed (ts : List Turn) : Prop :=
  Machine.Along (fun pre t => ∀ c, ¬ SendsOnClosed (after pre) t c) ts

/-- The turn closes `c`: in `handleClientDisconnect`, which `kick_member` also
calls, or in `cleanupAll`. -/
def Closes (k : State) (t : Turn) (c : ClientID) : Prop :=
  ∃ g order rest, t = .advance g order ∧
    (k.todo g = .handleClientDisconnect c :: rest ∧ k.shared.hub.clients.get? c ≠ none ∨
      k.todo g = .cleanup c :: rest)

/-- A client the turn closes has no `SendJSON` between its check and its send. -/
def ClosesOffSend (k : State) (t : Turn) : Prop :=
  ∀ c msg, Closes k t c → ¬ Goroutines.Pending k (.send .handler c msg)

/-- Every close of the schedule waits for the `SendJSON` on its client. -/
def NoCloseDuringSend (ts : List Turn) : Prop :=
  Machine.Along (fun pre t => ClosesOffSend (after pre) t) ts

/-- How a goroutine holds `h.mu`. -/
inductive Mode where
  | free
  | reading
  | writing
  deriving DecidableEq

def Mode.Holds (mu : RWMutex Routine) (g : Routine) : Mode → Prop
  | .free => True
  | .reading => g ∈ mu.readers
  | .writing => mu.writer = some g

/-- The mode an action leads to, if the mode permits it. -/
def Act.mode : Act → Mode → Option Mode
  | .rlock, .free => some .reading
  | .runlock, .reading => some .free
  | .lock, .free => some .writing
  | .unlock, .writing => some .free
  | .check .handler _ _, m | .send .handler _ _, m | .signIn _ _, m | .writeMessage _, m => some m
  | .check .loop _ _, .reading | .send .loop _ _, .reading | .dispatchBroadcast _, .reading
  | .unicast _ _, .reading | .deliver _ _, .reading => some .reading
  | .update _, .writing | .handleClientDisconnect _, .writing | .cleanupAll, .writing
  | .cleanup _, .writing => some .writing
  -- `kick_member` unlocks before it disconnects what it collected
  | .kickMember _, .writing => some .free
  | _, _ => none

/-- The actions respect the lock when started in a mode. -/
def WellLocked : Mode → List Act → Prop
  | _, [] => True
  | m, a :: rest => ∃ m', a.mode m = some m' ∧ WellLocked m' rest

theorem wellLocked_append {m : Mode} {acts rest : List Act} (hacts : ∀ a ∈ acts, a.mode m = some m)
    (hrest : WellLocked m rest) : WellLocked m (acts ++ rest) := by
  induction acts with
  | nil => exact hrest
  | cons a acts ih =>
    exact ⟨m, hacts a (by simp), ih fun b hb => hacts b (by simp [hb])⟩

theorem wellLocked_disconnects (cs : List ClientID) {rest : List Act} (hrest : WellLocked .free rest) :
    WellLocked .free (cs.flatMap disconnect ++ rest) := by
  induction cs with
  | nil => exact hrest
  | cons c cs ih =>
    rw [List.flatMap_cons, List.append_assoc]
    exact ⟨_, rfl, _, rfl, _, rfl, ih⟩

theorem wellLocked_program (r : Request) : WellLocked .free r.program := by
  cases r with
  | serveWs n c => exact ⟨_, rfl, _, rfl, _, rfl, trivial⟩
  | sendJSON c msg => exact ⟨_, rfl, trivial⟩
  | signIn c user => exact ⟨_, rfl, _, rfl, _, rfl, _, rfl, trivial⟩
  | update c call => exact ⟨_, rfl, _, rfl, _, rfl, trivial⟩
  | kickMember c targetUserID => exact ⟨_, rfl, _, rfl, trivial⟩
  | hangUp c => exact ⟨_, rfl, _, rfl, _, rfl, trivial⟩
  | unregister c => exact ⟨_, rfl, _, rfl, _, rfl, trivial⟩
  | dispatchBroadcast msg => exact ⟨_, rfl, _, rfl, _, rfl, trivial⟩
  | unicast n userID payload => exact ⟨_, rfl, _, rfl, _, rfl, trivial⟩
  | shutDown => exact ⟨_, rfl, _, rfl, _, rfl, trivial⟩
  | writeMessage c => exact ⟨_, rfl, trivial⟩

def Act.isSend : Act → Bool
  | .send _ _ _ => true
  | _ => false

section regions

/-- The two hubs agree on which clients are closed and which channels are. -/
def SameChannels (h h' : Hub) : Prop :=
  ∀ c, (h'.conn c).closed = (h.conn c).closed ∧ (h'.conn c).send.closed = (h.conn c).send.closed

variable {h : Hub}

theorem sameChannels_updateClient (c : ClientID) {f : Client → Client}
    (hclosed : (f (h.conn c)).closed = (h.conn c).closed)
    (hsend : (f (h.conn c)).send.closed = (h.conn c).send.closed) :
    SameChannels h (h.updateClient c f) := by
  intro c'
  by_cases hc : c' = c
  · subst c'
    simp [Hub.updateClient, hclosed, hsend]
  · simp [Hub.updateClient, Function.update_of_ne hc]

theorem sameChannels_withVoiceState (userID : UInt32) (f : VoiceState → VoiceState) :
    SameChannels h (h.withVoiceState userID f) := by
  intro c
  rw [(h.withVoiceState_fields userID f).2.2.2]
  exact ⟨rfl, rfl⟩

theorem sameChannels_apply (call : HubUpdate) : SameChannels h (call.apply h) := by
  cases call with
  | registerClient c =>
    intro c'
    simp only [HubUpdate.apply, Hub.registerClient]
    split <;> exact ⟨rfl, rfl⟩
  | addUserClient userID c => exact fun c' => ⟨rfl, rfl⟩
  | joinVoice now c channelID channel selfMuted selfDeafened =>
    simp only [HubUpdate.apply]
    split
    · rename_i h' hjoin
      obtain ⟨-, -, -, -, hconn, -⟩ := Hub.joinVoice_ok hjoin
      intro c'
      rw [hconn]
      exact sameChannels_updateClient (f := fun k => { k with activeVoiceChannel := channelID }) c rfl rfl c'
    · exact fun c' => ⟨rfl, rfl⟩
  | leaveVoice c =>
    simp only [HubUpdate.apply]
    by_cases hactive : 0 < (h.conn c).activeVoiceChannel
    · rw [Hub.leaveVoice_of_pos hactive]
      exact sameChannels_updateClient (f := fun k => { k with activeVoiceChannel := 0 }) c rfl rfl
    · rw [Hub.leaveVoice_of_not_pos hactive]
      exact fun c' => ⟨rfl, rfl⟩
  | setVoiceState now c selfMuted selfDeafened isSpeaking => exact sameChannels_withVoiceState _ _
  | setFlag flag targetUserID value => exact sameChannels_withVoiceState _ _
  | moveMember targetUserID toChannelID =>
    intro c
    simp only [HubUpdate.apply]
    cases hmove : h.moveMember targetUserID toChannelID with
    | none => exact ⟨rfl, rfl⟩
    | some h' =>
      obtain ⟨_, -, -, -, -, -, hconn, -⟩ := Hub.moveMember_eq_some hmove
      rw [Option.getD_some, hconn]
      split <;> exact ⟨rfl, rfl⟩

theorem sameChannels_kickMember (targetUserID : UInt32) :
    SameChannels h (h.kickMember targetUserID).1 := by
  intro c
  rw [(h.kickMember_spec targetUserID).2.2.2.1]
  exact ⟨rfl, rfl⟩

theorem close_inSync {k : Client} (hsync : k.send.closed = k.closed) :
    k.close.send.closed = k.close.closed := by
  unfold Client.close
  split
  · exact hsync
  · rfl

end regions

/-- What holds in every state of a process whose closes wait for the sends. -/
structure Sound (k : State) : Prop where
  running : k.shared.crashed = false
  inSync : ∀ c, (k.shared.hub.conn c).send.closed = (k.shared.hub.conn c).closed
  locked : ∀ g, ∃ m : Mode, m.Holds k.shared.mu g ∧ WellLocked m (k.todo g)
  headed : ∀ g, ∀ a ∈ (k.todo g).tail, a.isSend = false
  openSends : ∀ sender c msg, Goroutines.Pending k (.send sender c msg) →
    (k.shared.hub.conn c).closed = false

/-- A send that is still to do is the next thing its goroutine does. -/
theorem Sound.head_of_send {k : State} (h : Sound k) {g : Routine} {sender : Sender} {c : ClientID}
    {msg : GoBytes} (hmem : .send sender c msg ∈ k.todo g) :
    ∃ rest, k.todo g = .send sender c msg :: rest := by
  cases htodo : k.todo g with
  | nil =>
    rw [htodo] at hmem
    cases hmem
  | cons a rest =>
    rw [htodo, List.mem_cons] at hmem
    obtain hhead | htail := hmem
    · exact ⟨rest, by rw [← hhead]⟩
    · have hnot := h.headed g (.send sender c msg) (by rw [htodo]; exact htail)
      cases hnot

/-- While one goroutine holds the lock for writing, no broadcast loop is inside
its region. -/
theorem Sound.no_loop_send {k : State} (h : Sound k) {g : Routine} (hwriter : k.shared.mu.writer = some g)
    (c : ClientID) (msg : GoBytes) : ¬ Goroutines.Pending k (.send .loop c msg) := by
  intro hpending
  obtain ⟨g', hmem⟩ := hpending
  obtain ⟨rest, htodo⟩ := h.head_of_send hmem
  obtain ⟨m, hholds, hwell⟩ := h.locked g'
  rw [htodo] at hwell
  obtain ⟨m', hmode, -⟩ := hwell
  have hreaders : k.shared.mu.readers = [] := k.shared.mu.exclusive (by rw [hwriter]; rfl)
  cases m with
  | free => cases hmode
  | reading =>
    rw [Mode.Holds, hreaders] at hholds
    cases hholds
  | writing => cases hmode

/-- An action only puts a send before the rest right after its check. -/
theorem send_of_act {p p' : Process} {g : Routine} {order : List ClientID} {a b : Act} {acts : List Act}
    (hact : p.act g order a = some (p', acts)) (hb : b ∈ acts) (hsend : b.isSend = true) :
    ∃ sender c msg, a = .check sender c msg ∧ acts = [.send sender c msg] ∧
      (p.hub.conn c).closed = false := by
  cases a with
  | check sender c msg =>
    simp only [Process.act, Option.some.injEq, Prod.mk.injEq] at hact
    obtain ⟨-, rfl⟩ := hact
    by_cases hclosed : (p.hub.conn c).closed = true
    · simp [hclosed] at hb
    · rw [if_neg hclosed]
      exact ⟨sender, c, msg, rfl, rfl, by simpa using hclosed⟩
  | rlock | lock =>
    obtain ⟨mu, -, heq⟩ := Option.map_eq_some_iff.mp hact
    cases heq
    cases hb
  | send sender c msg =>
    simp only [Process.act] at hact
    split at hact <;> cases hact <;> cases hb
  | dispatchBroadcast msg =>
    cases hact
    obtain ⟨c, -, rfl⟩ := List.mem_map.mp hb
    cases hsend
  | unicast userID payload =>
    cases hact
    obtain ⟨c, -, rfl⟩ := List.mem_map.mp hb
    cases hsend
  | deliver msg c =>
    cases hact
    split at hb
    · cases hb
    · cases List.mem_singleton.mp hb
      cases hsend
  | kickMember targetUserID =>
    cases hact
    obtain rfl | hmem := List.mem_cons.mp hb
    · cases hsend
    · obtain ⟨c, -, hc⟩ := List.mem_flatMap.mp hmem
      simp only [disconnect, List.mem_cons, List.not_mem_nil, or_false] at hc
      obtain rfl | rfl | rfl := hc <;> cases hsend
  | cleanupAll =>
    cases hact
    obtain ⟨c, -, rfl⟩ := List.mem_map.mp hb
    cases hsend
  | runlock | unlock | update | handleClientDisconnect | cleanup | signIn | writeMessage =>
    cases hact
    cases hb

/-- What the others hold they still hold. -/
def OthersKeep (g : Routine) (mu mu' : RWMutex Routine) : Prop :=
  ∀ g' ≠ g, ∀ n : Mode, n.Holds mu g' → n.Holds mu' g'

section mutex

variable {mu mu' : RWMutex Routine} {g : Routine}

theorem holds_rlock (h : mu.rlock g = some mu') : Mode.reading.Holds mu' g ∧ OthersKeep g mu mu' := by
  obtain ⟨hfree, -, hreaders⟩ := RWMutex.rlock_eq_some_iff.mp h
  refine ⟨?_, fun g' _ n hn => ?_⟩
  · rw [Mode.Holds, hreaders]
    exact List.mem_cons_self
  · cases n with
    | free => trivial
    | reading =>
      rw [Mode.Holds, hreaders]
      exact List.mem_cons_of_mem g hn
    | writing =>
      rw [Mode.Holds, hfree] at hn
      cases hn

theorem holds_lock (h : mu.lock g = some mu') : Mode.writing.Holds mu' g ∧ OthersKeep g mu mu' := by
  obtain ⟨hfree, hnone, hwriter, -⟩ := RWMutex.lock_eq_some_iff.mp h
  refine ⟨hwriter, fun g' _ n hn => ?_⟩
  cases n with
  | free => trivial
  | reading =>
    rw [Mode.Holds, hnone] at hn
    cases hn
  | writing =>
    rw [Mode.Holds, hfree] at hn
    cases hn

theorem othersKeep_runlock (mu : RWMutex Routine) (g : Routine) : OthersKeep g mu (mu.runlock g) := by
  intro g' hne n hn
  cases n with
  | free => trivial
  | reading => exact (List.mem_erase_of_ne hne).mpr hn
  | writing => exact hn

theorem othersKeep_unlock (h : Mode.writing.Holds mu g) : OthersKeep g mu mu.unlock := by
  intro g' hne n hn
  cases n with
  | free => trivial
  | reading => exact hn
  | writing => exact absurd (Option.some.inj (hn.symm.trans h)) hne

end mutex

/-- An action the mode permits leaves its goroutine well locked and takes no
lock away from another. -/
theorem wellLocked_act {p p' : Process} {g : Routine} {order : List ClientID} {a : Act}
    {acts rest : List Act} {m : Mode}
    (hact : p.act g order a = some (p', acts)) (hholds : m.Holds p.mu g) (hwell : WellLocked m (a :: rest)) :
    (∃ n : Mode, n.Holds p'.mu g ∧ WellLocked n (acts ++ rest)) ∧ OthersKeep g p.mu p'.mu := by
  obtain ⟨m', hmode, hrest⟩ := hwell
  have hothers : p'.mu = p.mu → OthersKeep g p.mu p'.mu := by
    intro hmu g' _ n hn
    rw [hmu]
    exact hn
  cases a with
  | rlock =>
    obtain ⟨mu, hmu, heq⟩ := Option.map_eq_some_iff.mp hact
    cases heq
    cases m <;> cases hmode
    obtain ⟨hreading, hkeep⟩ := holds_rlock hmu
    exact ⟨⟨.reading, hreading, hrest⟩, hkeep⟩
  | runlock =>
    cases hact
    cases m <;> cases hmode
    exact ⟨⟨.free, trivial, hrest⟩, othersKeep_runlock p.mu g⟩
  | lock =>
    obtain ⟨mu, hmu, heq⟩ := Option.map_eq_some_iff.mp hact
    cases heq
    cases m <;> cases hmode
    obtain ⟨hwriting, hkeep⟩ := holds_lock hmu
    exact ⟨⟨.writing, hwriting, hrest⟩, hkeep⟩
  | unlock =>
    cases hact
    cases m <;> cases hmode
    exact ⟨⟨.free, trivial, hrest⟩, othersKeep_unlock hholds⟩
  | check sender c msg =>
    cases hact
    have hsame : m' = m ∧ (Act.send sender c msg).mode m = some m := by
      cases sender <;> cases m <;> cases hmode <;> exact ⟨rfl, rfl⟩
    obtain ⟨rfl, hsend⟩ := hsame
    refine ⟨⟨m', hholds, wellLocked_append ?_ hrest⟩, hothers rfl⟩
    intro b hb
    split at hb
    · cases hb
    · rw [List.mem_singleton.mp hb]
      exact hsend
  | send sender c msg =>
    have hsame : m' = m := by
      cases sender <;> cases m <;> cases hmode <;> rfl
    subst m'
    simp only [Process.act] at hact
    split at hact <;> cases hact <;> exact ⟨⟨m, hholds, hrest⟩, hothers rfl⟩
  | dispatchBroadcast msg =>
    cases hact
    cases m <;> cases hmode
    refine ⟨⟨.reading, hholds, wellLocked_append ?_ hrest⟩, hothers rfl⟩
    intro b hb
    obtain ⟨c, -, rfl⟩ := List.mem_map.mp hb
    rfl
  | unicast userID payload =>
    cases hact
    cases m <;> cases hmode
    refine ⟨⟨.reading, hholds, wellLocked_append ?_ hrest⟩, hothers rfl⟩
    intro b hb
    obtain ⟨c, -, rfl⟩ := List.mem_map.mp hb
    rfl
  | deliver msg c =>
    cases hact
    cases m <;> cases hmode
    refine ⟨⟨.reading, hholds, wellLocked_append ?_ hrest⟩, hothers rfl⟩
    intro b hb
    split at hb
    · cases hb
    · rw [List.mem_singleton.mp hb]
      rfl
  | kickMember targetUserID =>
    cases hact
    cases m <;> cases hmode
    exact ⟨⟨.writing, hholds, _, rfl, wellLocked_disconnects _ hrest⟩, hothers rfl⟩
  | cleanupAll =>
    cases hact
    cases m <;> cases hmode
    refine ⟨⟨.writing, hholds, wellLocked_append ?_ hrest⟩, hothers rfl⟩
    intro b hb
    obtain ⟨c, -, rfl⟩ := List.mem_map.mp hb
    rfl
  | update | handleClientDisconnect | cleanup =>
    cases hact
    cases m <;> cases hmode
    exact ⟨⟨.writing, hholds, hrest⟩, hothers rfl⟩
  | signIn | writeMessage =>
    cases hact
    cases hmode
    exact ⟨⟨m, hholds, hrest⟩, hothers rfl⟩

/-- An action closes no client but the one it names, and panics only if it sends
on a closed one. -/
theorem channels_act {p p' : Process} {g : Routine} {order : List ClientID} {a : Act} {acts : List Act}
    (hsync : ∀ c, (p.hub.conn c).send.closed = (p.hub.conn c).closed)
    (hopen : ∀ sender c msg, a = .send sender c msg → (p.hub.conn c).closed = false)
    (hact : p.act g order a = some (p', acts)) :
    p'.crashed = p.crashed ∧ (∀ c, (p'.hub.conn c).send.closed = (p'.hub.conn c).closed) ∧
      ∀ c, (p'.hub.conn c).closed = (p.hub.conn c).closed ∨
        a = .handleClientDisconnect c ∧ p.hub.clients.get? c ≠ none ∨ a = .cleanup c := by
  have hkept : SameChannels p.hub p'.hub → p'.crashed = p.crashed →
      p'.crashed = p.crashed ∧ (∀ c, (p'.hub.conn c).send.closed = (p'.hub.conn c).closed) ∧
        ∀ c, (p'.hub.conn c).closed = (p.hub.conn c).closed ∨
          a = .handleClientDisconnect c ∧ p.hub.clients.get? c ≠ none ∨ a = .cleanup c := by
    intro hsame hcrashed
    refine ⟨hcrashed, fun c => ?_, fun c => .inl (hsame c).1⟩
    rw [(hsame c).1, (hsame c).2, hsync]
  have hclose : ∀ c, (∀ c', p'.hub.conn c' = if c' = c then (p.hub.conn c').close else p.hub.conn c') →
      (∀ c', (p'.hub.conn c').send.closed = (p'.hub.conn c').closed) ∧
        ∀ c', c' ≠ c → (p'.hub.conn c').closed = (p.hub.conn c').closed := by
    intro c hconn
    constructor
    · intro c'
      rw [hconn]
      split
      · exact close_inSync (hsync c')
      · exact hsync c'
    · intro c' hne
      rw [hconn, if_neg hne]
  cases a with
  | rlock | lock =>
    obtain ⟨mu, -, heq⟩ := Option.map_eq_some_iff.mp hact
    cases heq
    exact hkept (fun c => ⟨rfl, rfl⟩) rfl
  | send sender c msg =>
    simp only [Process.act] at hact
    split at hact
    · rename_i ch hsent
      cases hact
      refine hkept ?_ rfl
      dsimp only
      apply sameChannels_updateClient c rfl
      exact GoChan.trySend_sent_closed hsent
    · cases hact
      exact hkept (fun c => ⟨rfl, rfl⟩) rfl
    · rename_i hpanic
      rw [GoChan.trySend_panicked_iff, hsync, hopen sender c msg rfl] at hpanic
      cases hpanic
  | update call =>
    cases hact
    exact hkept (sameChannels_apply call) rfl
  | kickMember targetUserID =>
    cases hact
    exact hkept (sameChannels_kickMember targetUserID) rfl
  | signIn c user =>
    cases hact
    refine hkept ?_ rfl
    dsimp only
    apply sameChannels_updateClient c rfl
    rfl
  | writeMessage c =>
    cases hact
    refine hkept ?_ rfl
    dsimp only
    apply sameChannels_updateClient c rfl
    rfl
  | handleClientDisconnect c =>
    cases hact
    by_cases hgone : p.hub.clients.get? c = none
    · refine hkept (fun c' => ?_) rfl
      rw [Hub.conn_handleClientDisconnect, if_pos hgone]
      exact ⟨rfl, rfl⟩
    · have hconn : ∀ c', (p.hub.handleClientDisconnect c).1.conn c' =
          if c' = c then (p.hub.conn c').close else p.hub.conn c' := by
        intro c'
        rw [Hub.conn_handleClientDisconnect, if_neg hgone]
        exact Hub.conn_updateClient p.hub c c' Client.close
      obtain ⟨hsync', hrest⟩ := hclose c hconn
      refine ⟨rfl, hsync', fun c' => ?_⟩
      by_cases hc : c' = c
      · exact .inr (.inl ⟨by rw [hc], by rw [hc]; exact hgone⟩)
      · exact .inl (hrest c' hc)
  | cleanup c =>
    cases hact
    obtain ⟨hsync', hrest⟩ := hclose c fun c' => Hub.conn_updateClient p.hub c c' Client.close
    refine ⟨rfl, hsync', fun c' => ?_⟩
    by_cases hc : c' = c
    · exact .inr (.inr (by rw [hc]))
    · exact .inl (hrest c' hc)
  | runlock | unlock | check | dispatchBroadcast | unicast | deliver | cleanupAll =>
    cases hact
    exact hkept (fun c => ⟨rfl, rfl⟩) rfl

theorem sound_idle : Sound (Goroutines.idle .new) where
  running := rfl
  inSync := fun _ => rfl
  locked := fun _ => ⟨.free, trivial, trivial⟩
  headed := fun _ a ha => by cases ha
  openSends := fun _ _ _ hpending => by
    obtain ⟨g, hmem⟩ := hpending
    cases hmem

/-- Taking up a request keeps the invariant. -/
theorem Sound.serve {k : State} (h : Sound k) (r : Request) (hidle : k.todo r.owner = []) :
    Sound { k with todo := Function.update k.todo r.owner r.program } where
  running := h.running
  inSync := h.inSync
  locked := by
    intro g
    by_cases hg : g = r.owner
    · subst g
      exact ⟨.free, trivial, by simpa using wellLocked_program r⟩
    · simpa [Function.update_of_ne hg] using h.locked g
  headed := by
    intro g a ha
    by_cases hg : g = r.owner
    · subst g
      simp only [Function.update_self] at ha
      cases r <;> simp [Request.program, disconnect] at ha <;> grind [Act.isSend]
    · simp only [Function.update_of_ne hg] at ha
      exact h.headed g a ha
  openSends := by
    intro sender c msg hpending
    obtain ⟨g, hmem⟩ := hpending
    by_cases hg : g = r.owner
    · subst g
      simp only [Function.update_self] at hmem
      cases r <;> simp [Request.program, disconnect] at hmem
    · simp only [Function.update_of_ne hg] at hmem
      exact h.openSends sender c msg ⟨g, hmem⟩

/-- One action keeps the invariant, unless it closes a client during a send. -/
theorem Sound.perform {k : State} {t : Turn} (h : Sound k)
    (hcloses : ClosesOffSend k t)
    {g : Routine} {a : Act} {p : Process} {acts : List Act} (hp : process.Performs k t g a p acts) :
    Sound (process.step k t) := by
  obtain ⟨⟨order, rfl, hact⟩, rest, htodo, hstep⟩ := hp
  simp only [process, h.running, Bool.false_eq_true, if_false] at hact
  have hrest : ∀ b ∈ rest, b.isSend = false := by
    intro b hb
    exact h.headed g b (by rw [htodo]; exact hb)
  have hopen : ∀ sender c msg, a = .send sender c msg → (k.shared.hub.conn c).closed = false := by
    intro sender c msg ha
    exact h.openSends sender c msg ⟨g, by rw [htodo, ha]; exact List.mem_cons_self⟩
  obtain ⟨hcrashed, hsync, hclosed⟩ := channels_act h.inSync hopen hact
  obtain ⟨m, hholds, hwell⟩ := h.locked g
  rw [htodo] at hwell
  obtain ⟨hself, hothers⟩ := wellLocked_act hact hholds hwell
  rw [hstep]
  refine ⟨hcrashed.trans h.running, hsync, ?_, ?_, ?_⟩
  · intro g'
    by_cases hg : g' = g
    · subst g'
      simpa using hself
    · obtain ⟨n, hn, hwell'⟩ := h.locked g'
      exact ⟨n, hothers g' hg n hn, by simpa [Function.update_of_ne hg] using hwell'⟩
  · intro g' b hb
    by_cases hg : g' = g
    · subst g'
      simp only [Function.update_self] at hb
      cases acts with
      | nil => exact hrest b (List.mem_of_mem_tail hb)
      | cons a' acts =>
        obtain hnew | hold := List.mem_append.mp hb
        · cases hsend : b.isSend with
          | false => rfl
          | true =>
            obtain ⟨_, _, _, -, heq, -⟩ := send_of_act hact (List.mem_cons_of_mem a' hnew) hsend
            cases heq
            cases hnew
        · exact hrest b hold
    · simp only [Function.update_of_ne hg] at hb
      exact h.headed g' b hb
  · intro sender c msg hpending
    -- a send that remains to do was there before, or its check has just passed
    have hbefore : Goroutines.Pending k (.send sender c msg) ∨
        a = .check sender c msg ∧ (k.shared.hub.conn c).closed = false := by
      obtain ⟨g', hmem⟩ := hpending
      by_cases hg : g' = g
      · subst g'
        simp only [Function.update_self, List.mem_append] at hmem
        obtain hnew | hold := hmem
        · obtain ⟨_, _, _, rfl, rfl, hfree⟩ := send_of_act hact hnew rfl
          cases List.mem_singleton.mp hnew
          exact .inr ⟨rfl, hfree⟩
        · cases hrest _ hold
      · simp only [Function.update_of_ne hg] at hmem
        exact .inl ⟨g', hmem⟩
    obtain hold | ⟨rfl, hfree⟩ := hbefore
    · obtain hsame | hclose := hclosed c
      · exact hsame.trans (h.openSends sender c msg hold)
      · exfalso
        have hwriter : k.shared.mu.writer = some g := by
          obtain ⟨m', hmode, -⟩ := hwell
          obtain ⟨rfl, -⟩ | rfl := hclose <;> cases m <;> cases hmode <;> exact hholds
        have hturn : Closes k (.advance g order) c := by
          refine ⟨g, order, rest, rfl, ?_⟩
          obtain ⟨rfl, hreg⟩ | rfl := hclose
          · exact .inl ⟨htodo, hreg⟩
          · exact .inr htodo
        cases sender with
        | handler => exact hcloses c msg hturn hold
        | loop => exact h.no_loop_send hwriter c msg hold
    · cases hact
      exact hfree

/-- The invariant holds after every schedule whose closes wait for the sends. -/
theorem sound_after (ts : List Turn) (hcloses : NoCloseDuringSend ts) : Sound (after ts) := by
  refine process.run_rule ClosesOffSend Sound sound_idle ?_ ?_ ts hcloses
  · intro k r hinv _ hidle
    exact hinv.serve r hidle
  · intro k t g a p acts hinv hok hp
    exact hinv.perform hok hp

theorem Sound.not_sendsOnClosed {k : State} (h : Sound k) (t : Turn) (c : ClientID) :
    ¬ SendsOnClosed k t c := by
  intro hsends
  obtain ⟨g, _, sender, msg, rest, -, htodo, -, hclosed⟩ := hsends
  have hopen := h.openSends sender c msg ⟨g, by rw [htodo]; exact List.mem_cons_self⟩
  rw [h.inSync c, hopen] at hclosed
  cases hclosed

/-- If no client is closed between the check and the send of a `SendJSON`, no
step of any schedule sends on a closed channel, and the process never panics.
The loops that hold the hub lock need no such condition. -/
theorem noSendOnClosed_of_noCloseDuringSend (ts : List Turn) (hcloses : NoCloseDuringSend ts) :
    NoSendOnClosed ts ∧ (after ts).shared.crashed = false := by
  refine ⟨?_, (sound_after ts hcloses).running⟩
  intro pre t post heq c
  have hpre : NoCloseDuringSend pre := by
    rw [heq] at hcloses
    exact hcloses.front
  exact (sound_after pre hpre).not_sendsOnClosed t c

/-- Connection 1 of user 7 sends a `ping`; connection 2 kicks user 7. -/
def kickDuringPing : List Turn :=
  [.serve (.serveWs 0 1), .advance (.accept 0) [], .advance (.accept 0) [], .advance (.accept 0) [],
    .serve (.signIn 1 ⟨7, "kim", permDefaultMember⟩), .advance (.readPump 1) [],
    .advance (.readPump 1) [], .advance (.readPump 1) [], .advance (.readPump 1) [],
    .serve (.sendJSON 1 [0x7b, 0x7d]), .advance (.readPump 1) [],
    .serve (.kickMember 2 7), .advance (.readPump 2) [], .advance (.readPump 2) [],
    .advance (.readPump 2) [], .advance (.readPump 2) [], .advance (.readPump 2) []]

/-- Connection 1 hangs up after its `pong` is sent. -/
def hangUpAfterPing : List Turn :=
  [.serve (.serveWs 0 1), .advance (.accept 0) [], .advance (.accept 0) [], .advance (.accept 0) [],
    .serve (.sendJSON 1 [0x7b, 0x7d]), .advance (.readPump 1) [], .advance (.readPump 1) [],
    .serve (.hangUp 1), .advance (.readPump 1) [], .advance (.readPump 1) []]

theorem noSendOnClosed_of_noCloseDuringSend_ping :
    NoSendOnClosed hangUpAfterPing ∧ (after hangUpAfterPing).shared.crashed = false := by
  refine noSendOnClosed_of_noCloseDuringSend hangUpAfterPing ?_
  simp only [NoCloseDuringSend, hangUpAfterPing, Machine.along_cons_iff]
  refine ⟨?_, ?_, ?_, ?_, ?_, ?_, ?_, ?_, ?_, ?_, Machine.along_nil⟩
  all_goals
    intro c msg hclose
    obtain ⟨g, order, rest, hturn, hhead⟩ := hclose
    cases hturn <;> obtain ⟨hhead, -⟩ | hhead := hhead <;> cases hhead
  -- only the hang-up closes, and by then nothing but it is to do
  intro hpending
  obtain ⟨g, hmem⟩ := hpending
  by_cases htouched : g = .readPump 1 ∨ g = .accept 0
  · obtain rfl | rfl := htouched
    · change Act.send .handler 1 msg ∈ [Act.handleClientDisconnect 1, .unlock] at hmem
      simp at hmem
    · cases hmem
  · rw [not_or] at htouched
    have hidle : (after (hangUpAfterPing.take 9)).todo g = [] := by
      apply process.run_todo_of_untouched
      intro t ht heq
      simp only [hangUpAfterPing, List.take_succ_cons, List.take_zero, List.mem_cons,
        List.not_mem_nil, or_false] at ht
      obtain rfl | rfl | rfl | rfl | rfl | rfl | rfl | rfl | rfl := ht <;> subst heq <;>
        simp [process, Goroutines.routine, Request.owner] at htouched
    change Act.send .handler 1 msg ∈ (after (hangUpAfterPing.take 9)).todo g at hmem
    rw [hidle] at hmem
    cases hmem

/-- The kick closes connection 1 between the check and the send of its `pong`. -/
theorem kick_closes_during_send : ¬ ∀ ts : List Turn, NoSendOnClosed ts := by
  intro hall
  refine hall (kickDuringPing ++ [.advance (.readPump 1) []]) kickDuringPing _ [] rfl 1 ?_
  exact ⟨.readPump 1, [], .handler, [0x7b, 0x7d], [], rfl, rfl, rfl, rfl⟩

end outbound

end low_latency_voice.control
