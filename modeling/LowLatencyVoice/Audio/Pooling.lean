import LowLatencyVoice.Audio.Pool

open low_latency_voice.model low_latency_voice.storage low_latency_voice.plane

namespace low_latency_voice.audio

theorem length_overwrite {dst : GoBytes} {start : Nat} {src : GoBytes} (h : start + src.length ≤ dst.length) :
    (overwrite dst start src).length = dst.length := by
  simp only [overwrite, List.length_append, List.length_take, List.length_drop]
  omega

theorem take_overwrite (dst src : GoBytes) : (overwrite dst 0 src).take src.length = src := by
  simp [overwrite]

/-- A packet that fits is written to the front of the buffer, and nothing else of the
buffer shows. -/
theorem Packet.encodeOver_spec (p : Packet) (dst : GoBytes) :
    (p.encodeOver dst).1.length = dst.length ∧
      (p.encodeOver dst).1.take (p.encodeOver dst).2 = p.encodeInto dst.length ∧
      ((p.encodeOver dst).2 = 0 ↔ p.encodeInto dst.length = []) := by
  unfold encodeOver encodeInto
  by_cases hfits : dst.length < headerSize + p.payload.length
  · simp [hfits]
  · simp only [if_neg hfits]
    set header := [if p.magic = 0 then magicByte else p.magic,
        if p.version = 0 then protocolVersion else p.version, p.type,
        encodeFlags p.vad p.energyLevel] ++
      GoBytes.putUint32 p.senderID ++ GoBytes.putUint32 p.channelID ++
      GoBytes.putUint16 p.sequence ++ GoBytes.putUint16 (UInt16.ofNat p.payload.length) ++
      GoBytes.putUint32 p.timestamp with hheader
    have hlength : header.length = headerSize := rfl
    have hroom : headerSize + p.payload.length ≤ dst.length := Nat.not_lt.mp hfits
    have hfront : (overwrite dst 0 header).length = dst.length := length_overwrite (by omega)
    refine ⟨?_, ?_, ?_⟩
    · rw [length_overwrite (by omega), hfront]
    · have hbytes : overwrite (overwrite dst 0 header) headerSize p.payload =
          header ++ p.payload ++ dst.drop (headerSize + p.payload.length) := by
        have hhead : (header ++ dst.drop header.length).take headerSize = header := by
          rw [← hlength, List.take_left']
          rfl
        have htail : (header ++ dst.drop header.length).drop (headerSize + p.payload.length) =
            dst.drop (headerSize + p.payload.length) := by
          rw [List.drop_append, List.drop_eq_nil_of_le (by omega), List.nil_append, List.drop_drop, hlength]
          congr 1
          omega
        simp only [overwrite, List.take_zero, List.nil_append, Nat.zero_add, hhead, htail]
      rw [hbytes, List.take_left' (by rw [List.length_append, hlength])]
    · simp [headerSize, hheader]

namespace pool

variable {Addr : Type}

/-- `g` holds what the steps give back, each object once. -/
structure Gives (m : Memory Addr) (g : Nat) (acts : List (Act Addr)) : Prop where
  puts : ∀ a ∈ acts, (∃ buf, a = .putBuffer buf ∧ m.bufferPool.holder buf = some g) ∨
    ∃ pkt, a = .putPacket pkt ∧ m.packetPool.holder pkt = some g
  nodup : acts.Nodup

/-- The packet is to be given back, and so is the buffer its payload points into. -/
structure Reads (m : Memory Addr) (acts : List (Act Addr)) (pkt : Nat) : Prop where
  packet : .putPacket pkt ∈ acts
  payload : ∀ s, (m.packets pkt).payload = some s → .putBuffer s.buffer ∈ acts

/-- The `WriteTo` call a packet leads to, if it fits a buffer. -/
def answer (p : Packet) (srcAddr : Addr) : List (GoBytes × Addr) :=
  if p.encodeInto maxPacketSize = [] then [] else [(p.encodeInto maxPacketSize, srcAddr)]

/-- What is still to come of a goroutine's round: the datagram for the router, and the
`WriteTo` call after it. -/
structure Due (Addr : Type) where
  datagrams : List (GoBytes × Addr)
  writes : List (GoBytes × Addr)

/-- Nothing is. -/
def Due.none : Due Addr := ⟨[], []⟩

/-- The packet in a buffer. -/
def Due.read (m : Memory Addr) (buf n : Nat) (srcAddr : Addr) : Due Addr :=
  ⟨[((m.buffers buf).take n, srcAddr)], []⟩

/-- What holds when a step is next. -/
def Ready [DecidableEq Addr] (m : Memory Addr) (acts : List (Act Addr)) (due : Due Addr) : Act Addr → Prop
  | .getBuffer | .collect => due = .none
  | .control e => due = .none ∧ (∀ g, datagrams g [(g, e)] = []) ∧
      ∀ r, (plane.step r e).2.written = [] ∧ (plane.step r e).2.notified = []
  | .readFrom buf => .putBuffer buf ∈ acts ∧ due = .none
  | .getPacket buf n srcAddr => .putBuffer buf ∈ acts ∧ due = .read m buf n srcAddr
  | .decodeInto pkt buf n srcAddr =>
    .putPacket pkt ∈ acts ∧ .putBuffer buf ∈ acts ∧ due = .read m buf n srcAddr
  | .handle pkt buf n srcAddr =>
    Reads m acts pkt ∧ .putBuffer buf ∈ acts ∧ due = .read m buf n srcAddr ∧
      audio.decodeInto ((m.buffers buf).take n) = .ok (m.packet pkt)
  | .getPongBuffer pkt srcAddr => Reads m acts pkt ∧ due = ⟨[], answer (Router.pong (m.packet pkt)) srcAddr⟩
  | .getPongPacket pkt pongBuf srcAddr =>
    Reads m acts pkt ∧ .putBuffer pongBuf ∈ acts ∧ due = ⟨[], answer (Router.pong (m.packet pkt)) srcAddr⟩
  | .fillPong pkt pongBuf pongPkt srcAddr =>
    Reads m acts pkt ∧ .putBuffer pongBuf ∈ acts ∧ .putPacket pongPkt ∈ acts ∧
      due = ⟨[], answer (Router.pong (m.packet pkt)) srcAddr⟩
  | .encodeInto pongBuf pongPkt srcAddr =>
    Reads m acts pongPkt ∧ .putBuffer pongBuf ∈ acts ∧ due = ⟨[], answer (m.packet pongPkt) srcAddr⟩
  | .writeTo pongBuf written srcAddr =>
    .putBuffer pongBuf ∈ acts ∧ due = ⟨[], [((m.buffers pongBuf).take written, srcAddr)]⟩
  | .putPacket _ | .putBuffer _ => False

/-- Where a goroutine is: it gives back what it holds, or has a step to take before. -/
inductive AtWork [DecidableEq Addr] (m : Memory Addr) (g : Nat) : List (Act Addr) → Due Addr → Prop
  | gives {acts : List (Act Addr)} (h : Gives m g acts) : AtWork m g acts .none
  | ready {a : Act Addr} {acts : List (Act Addr)} {due : Due Addr} (h : Gives m g acts)
      (hready : Ready m acts due a) : AtWork m g (a :: acts) due

/-- What `g` holds stays as it is. -/
structure Leaves (g : Nat) (m m' : Memory Addr) : Prop where
  buffer : ∀ buf, m.bufferPool.holder buf = some g →
    m'.bufferPool.holder buf = some g ∧ m'.buffers buf = m.buffers buf
  packet : ∀ pkt, m.packetPool.holder pkt = some g →
    m'.packetPool.holder pkt = some g ∧ m'.packets pkt = m.packets pkt

section frame

variable {m m' : Memory Addr} {g : Nat} {acts : List (Act Addr)}

theorem Leaves.trans {m₁ : Memory Addr} (h : Leaves g m m₁) (h' : Leaves g m₁ m') : Leaves g m m' where
  buffer buf hheld := by
    obtain ⟨hheld₁, hsame⟩ := h.buffer buf hheld
    obtain ⟨hheld', hsame'⟩ := h'.buffer buf hheld₁
    exact ⟨hheld', hsame'.trans hsame⟩
  packet pkt hheld := by
    obtain ⟨hheld₁, hsame⟩ := h.packet pkt hheld
    obtain ⟨hheld', hsame'⟩ := h'.packet pkt hheld₁
    exact ⟨hheld', hsame'.trans hsame⟩

theorem Leaves.refl (g : Nat) (m : Memory Addr) : Leaves g m m := ⟨fun _ h => ⟨h, rfl⟩, fun _ h => ⟨h, rfl⟩⟩

theorem Gives.holds_buffer (h : Gives m g acts) {buf : Nat} (hmem : .putBuffer buf ∈ acts) :
    m.bufferPool.holder buf = some g := by
  obtain ⟨buf', heq, hheld⟩ | ⟨pkt, heq, -⟩ := h.puts _ hmem
  · cases heq
    exact hheld
  · cases heq

theorem Gives.holds_packet (h : Gives m g acts) {pkt : Nat} (hmem : .putPacket pkt ∈ acts) :
    m.packetPool.holder pkt = some g := by
  obtain ⟨buf, heq, -⟩ | ⟨pkt', heq, hheld⟩ := h.puts _ hmem
  · cases heq
  · cases heq
    exact hheld

theorem Gives.leaves (h : Gives m g acts) (hl : Leaves g m m') : Gives m' g acts where
  puts a ha := by
    obtain ⟨buf, rfl, hheld⟩ | ⟨pkt, rfl, hheld⟩ := h.puts a ha
    · exact .inl ⟨buf, rfl, (hl.buffer buf hheld).1⟩
    · exact .inr ⟨pkt, rfl, (hl.packet pkt hheld).1⟩
  nodup := h.nodup

theorem Gives.buffer_eq (h : Gives m g acts) (hl : Leaves g m m') {buf : Nat} (hmem : .putBuffer buf ∈ acts) :
    m'.buffers buf = m.buffers buf := (hl.buffer buf (h.holds_buffer hmem)).2

/-- A packet reads the same, its payload included. -/
theorem Gives.packet_eq (h : Gives m g acts) (hl : Leaves g m m') {pkt : Nat} (hr : Reads m acts pkt) :
    Reads m' acts pkt ∧ m'.packet pkt = m.packet pkt := by
  have hsame : m'.packets pkt = m.packets pkt := (hl.packet pkt (h.holds_packet hr.packet)).2
  refine ⟨⟨hr.packet, by rw [hsame]; exact hr.payload⟩, ?_⟩
  unfold Memory.packet
  rw [hsame]
  cases hpayload : (m.packets pkt).payload with
  | none => rfl
  | some s =>
    have hbytes := h.buffer_eq hl (hr.payload s hpayload)
    simp only [Option.elim_some, Memory.bytes, hbytes]

variable [DecidableEq Addr] {a : Act Addr} {due : Due Addr}

theorem Ready.leaves (hready : Ready m acts due a) (h : Gives m g acts) (hl : Leaves g m m') :
    Ready m' acts due a := by
  cases a with
  | getBuffer | collect | control | readFrom | putPacket | putBuffer => exact hready
  | getPacket buf n srcAddr =>
    obtain ⟨hbuf, hdue⟩ := hready
    exact ⟨hbuf, by rw [Due.read, h.buffer_eq hl hbuf]; exact hdue⟩
  | decodeInto pkt buf n srcAddr =>
    obtain ⟨hpkt, hbuf, hdue⟩ := hready
    exact ⟨hpkt, hbuf, by rw [Due.read, h.buffer_eq hl hbuf]; exact hdue⟩
  | handle pkt buf n srcAddr =>
    obtain ⟨hr, hbuf, hdue, hdec⟩ := hready
    obtain ⟨hr', hsame⟩ := h.packet_eq hl hr
    refine ⟨hr', hbuf, ?_, ?_⟩
    · rw [Due.read, h.buffer_eq hl hbuf]
      exact hdue
    · rw [h.buffer_eq hl hbuf, hsame]
      exact hdec
  | getPongBuffer pkt srcAddr =>
    obtain ⟨hr, hdue⟩ := hready
    obtain ⟨hr', hsame⟩ := h.packet_eq hl hr
    exact ⟨hr', by rw [hsame]; exact hdue⟩
  | getPongPacket pkt pongBuf srcAddr =>
    obtain ⟨hr, hbuf, hdue⟩ := hready
    obtain ⟨hr', hsame⟩ := h.packet_eq hl hr
    exact ⟨hr', hbuf, by rw [hsame]; exact hdue⟩
  | fillPong pkt pongBuf pongPkt srcAddr =>
    obtain ⟨hr, hbuf, hpkt, hdue⟩ := hready
    obtain ⟨hr', hsame⟩ := h.packet_eq hl hr
    exact ⟨hr', hbuf, hpkt, by rw [hsame]; exact hdue⟩
  | encodeInto pongBuf pongPkt srcAddr =>
    obtain ⟨hr, hbuf, hdue⟩ := hready
    obtain ⟨hr', hsame⟩ := h.packet_eq hl hr
    exact ⟨hr', hbuf, by rw [hsame]; exact hdue⟩
  | writeTo pongBuf written srcAddr =>
    obtain ⟨hbuf, hdue⟩ := hready
    exact ⟨hbuf, by rw [h.buffer_eq hl hbuf]; exact hdue⟩

/-- Nothing a goroutine counts on changes while what it holds stays. -/
theorem AtWork.leaves (h : AtWork m g acts due) (hl : Leaves g m m') : AtWork m' g acts due := by
  cases h with
  | gives hgives => exact .gives (hgives.leaves hl)
  | ready hgives hready => exact .ready (hgives.leaves hl) (hready.leaves hgives hl)

end frame

/-- The pools are in order, and the router is where the plain one is. -/
structure Good [DecidableEq Addr] (r : Router Addr) (m : Memory Addr) : Prop where
  buffers : m.bufferPool.Ok
  packets : m.packetPool.Ok
  sized : ∀ buf, (m.buffers buf).length = maxPacketSize
  router : m.router = (plain r m.handled).router
  notified : m.notified = (plain r m.handled).notified

/-- The router has had the datagrams of `g`, and `g` has written what it would have
written without pools, but for what is due. -/
structure Owes [DecidableEq Addr] (r : Router Addr) (m : Memory Addr) (g : Nat) (due : Due Addr) : Prop where
  datagrams : m.received g = datagrams g m.handled ++ due.datagrams
  writes : (plain r m.handled).written g = m.written g ++ due.writes

/-- The router has not been called, and nothing was read or written. -/
structure Silent (m m' : Memory Addr) : Prop where
  router : m'.router = m.router
  received : m'.received = m.received
  handled : m'.handled = m.handled
  written : m'.written = m.written
  notified : m'.notified = m.notified

section steps

variable [DecidableEq Addr] {r : Router Addr} {m m' : Memory Addr} {g : Nat} {due : Due Addr}

theorem Silent.owes (h : Silent m m') (howes : Owes r m g due) : Owes r m' g due where
  datagrams := by rw [h.received, h.handled]; exact howes.datagrams
  writes := by rw [h.handled, h.written]; exact howes.writes

/-- A step that only touches the pools. -/
theorem Good.silent (h : Good r m) (hs : Silent m m') (hbuffers : m'.bufferPool.Ok) (hpackets : m'.packetPool.Ok)
    (hsized : ∀ buf, (m'.buffers buf).length = maxPacketSize) : Good r m' where
  buffers := hbuffers
  packets := hpackets
  sized := hsized
  router := by rw [hs.router, hs.handled]; exact h.router
  notified := by rw [hs.notified, hs.handled]; exact h.notified

/-- The buffer that `g` gets was nobody's. -/
structure GetsBuffer (r : Router Addr) (g : Nat) (m m' : Memory Addr) (buf : Nat) : Prop where
  good : Good r m'
  silent : Silent m m'
  unheld : m.bufferPool.holder buf = none
  held : m'.bufferPool.holder buf = some g
  leaves : ∀ g', Leaves g' m m'

omit [DecidableEq Addr] in
theorem leaves_of_fresh {pool pool' : SyncPool Nat} {buf : Nat} (hnone : pool.holder buf = none)
    (hholder : pool'.holder = Function.update pool.holder buf (some g)) {b g' : Nat}
    (hheld : pool.holder b = some g') : b ≠ buf ∧ pool'.holder b = some g' := by
  have hne : b ≠ buf := by
    rintro rfl
    cases hnone.symm.trans hheld
  exact ⟨hne, by rw [hholder, Function.update_of_ne hne]; exact hheld⟩

theorem Good.getBuffer (h : Good r m) (g pick : Nat) :
    GetsBuffer r g m (m.getBuffer g pick).1 (m.getBuffer g pick).2 := by
  obtain ⟨hnone, hholder⟩ := h.buffers.get_spec g pick
  have hother : ∀ b, b ≠ (m.bufferPool.get g pick).2 → (m.getBuffer g pick).1.buffers b = m.buffers b := by
    intro b hb
    simp only [Memory.getBuffer]
    split
    · exact Function.update_of_ne hb _ _
    · rfl
  have hsilent : Silent m (m.getBuffer g pick).1 := ⟨rfl, rfl, rfl, rfl, rfl⟩
  refine ⟨h.silent hsilent (h.buffers.get g pick) h.packets fun b => ?_, hsilent, hnone, ?_, fun g' => ⟨?_, ?_⟩⟩
  · by_cases hb : b = (m.bufferPool.get g pick).2
    · simp only [Memory.getBuffer]
      split
      · rw [hb, Function.update_self, List.length_replicate]
      · exact h.sized b
    · rw [hother b hb]
      exact h.sized b
  · change (m.bufferPool.get g pick).1.holder _ = _
    rw [hholder]
    exact Function.update_self ..
  · intro b hheld
    obtain ⟨hne, hheld'⟩ := leaves_of_fresh hnone hholder hheld
    exact ⟨hheld', hother b hne⟩
  · exact fun pkt hheld => ⟨hheld, rfl⟩

/-- The packet that `g` gets was nobody's, and is clear. -/
structure GetsPacket (r : Router Addr) (g : Nat) (m m' : Memory Addr) (pkt : Nat) : Prop where
  good : Good r m'
  silent : Silent m m'
  unheld : m.packetPool.holder pkt = none
  held : m'.packetPool.holder pkt = some g
  leaves : ∀ g', Leaves g' m m'

theorem Good.getPacket (h : Good r m) (g pick : Nat) :
    GetsPacket r g m (m.getPacket g pick).1 (m.getPacket g pick).2 := by
  obtain ⟨hnone, hholder⟩ := h.packets.get_spec g pick
  have hsilent : Silent m (m.getPacket g pick).1 := ⟨rfl, rfl, rfl, rfl, rfl⟩
  refine ⟨h.silent hsilent h.buffers (h.packets.get g pick) h.sized, hsilent, hnone, ?_, fun g' => ⟨?_, ?_⟩⟩
  · change (m.packetPool.get g pick).1.holder _ = _
    rw [hholder]
    exact Function.update_self ..
  · exact fun b hheld => ⟨hheld, rfl⟩
  · intro pkt hheld
    obtain ⟨hne, hheld'⟩ := leaves_of_fresh hnone hholder hheld
    exact ⟨hheld', Function.update_of_ne hne _ _⟩

/-- What a step of `g` comes to, when `todo` is left to do. -/
structure Advances (r : Router Addr) (g : Nat) (m m' : Memory Addr) (todo : List (Act Addr)) : Prop where
  good : Good r m'
  own : ∃ due, AtWork m' g todo due ∧ Owes r m' g due
  others : ∀ g' ≠ g, Leaves g' m m' ∧ ∀ due, Owes r m g' due → Owes r m' g' due

/-- A step that only touches what `g` holds, or takes what nobody holds. -/
theorem Advances.of_silent {todo : List (Act Addr)} (hgood : Good r m') (hs : Silent m m')
    (howes : Owes r m g due) (hwork : AtWork m' g todo due) (hleaves : ∀ g' ≠ g, Leaves g' m m') :
    Advances r g m m' todo :=
  ⟨hgood, ⟨due, hwork, hs.owes howes⟩, fun g' hg => ⟨hleaves g' hg, fun _ => hs.owes⟩⟩

/-- A step after a write to what `g` holds. -/
theorem Advances.after {m₁ : Memory Addr} {todo : List (Act Addr)} (h : Advances r g m₁ m' todo)
    (hs : Silent m m₁) (hleaves : ∀ g' ≠ g, Leaves g' m m₁) : Advances r g m m' todo where
  good := h.good
  own := h.own
  others g' hg := by
    obtain ⟨hl, howes⟩ := h.others g' hg
    exact ⟨(hleaves g' hg).trans hl, fun due hdue => howes due (hs.owes hdue)⟩

omit [DecidableEq Addr] in
/-- A write to a buffer that `g` holds. -/
theorem leaves_of_buffer {buf : Nat} (hheld : m.bufferPool.holder buf = some g) (bytes : GoBytes) {g' : Nat}
    (hg : g' ≠ g) : Leaves g' m { m with buffers := Function.update m.buffers buf bytes } where
  buffer b hb := by
    refine ⟨hb, Function.update_of_ne ?_ _ _⟩
    rintro rfl
    exact hg (Option.some.inj (hb.symm.trans hheld))
  packet _ hpkt := ⟨hpkt, rfl⟩

omit [DecidableEq Addr] in
/-- A write to a packet that `g` holds. -/
theorem leaves_of_packet {pkt : Nat} (hheld : m.packetPool.holder pkt = some g) (packet : PooledPacket) {g' : Nat}
    (hg : g' ≠ g) : Leaves g' m { m with packets := Function.update m.packets pkt packet } where
  buffer _ hb := ⟨hb, rfl⟩
  packet p hp := by
    refine ⟨hp, Function.update_of_ne ?_ _ _⟩
    rintro rfl
    exact hg (Option.some.inj (hp.symm.trans hheld))

theorem Good.writeBuffer (h : Good r m) {buf : Nat} {bytes : GoBytes} (hlength : bytes.length = maxPacketSize) :
    Good r { m with buffers := Function.update m.buffers buf bytes } := by
  refine h.silent ⟨rfl, rfl, rfl, rfl, rfl⟩ h.buffers h.packets fun b => ?_
  by_cases hb : b = buf
  · subst hb
    simpa using hlength
  · simpa [Function.update_of_ne hb] using h.sized b

theorem Good.writePacket (h : Good r m) (pkt : Nat) (packet : PooledPacket) :
    Good r { m with packets := Function.update m.packets pkt packet } :=
  h.silent ⟨rfl, rfl, rfl, rfl, rfl⟩ h.buffers h.packets h.sized

omit [DecidableEq Addr] in
theorem datagrams_append (g : Nat) (handled handled' : List (Nat × PlaneEvent Addr)) :
    datagrams g (handled ++ handled') = datagrams g handled ++ datagrams g handled' := List.filterMap_append

omit [DecidableEq Addr] in
theorem datagrams_of_ne {g g' : Nat} (hg : g' ≠ g) (e : PlaneEvent Addr) : datagrams g' [(g, e)] = [] := by
  cases e <;> simp [datagrams, Ne.symm hg]

/-- A call on the router, after which `writes` are still to come. -/
theorem Advances.record (h : Good r m) {e : PlaneEvent Addr} {router : Router Addr}
    {written writes : List (GoBytes × Addr)} {notified : List VoiceStateNotice} {todo : List (Act Addr)}
    (howes : Owes r m g ⟨datagrams g [(g, e)], []⟩)
    (hrouter : (plane.step m.router e).1 = router)
    (hwritten : (plane.step m.router e).2.written = written ++ writes)
    (hnotified : (plane.step m.router e).2.notified = notified)
    (hwork : AtWork (m.record g e router written notified) g todo ⟨[], writes⟩) :
    Advances r g m (m.record g e router written notified) todo := by
  have hplain : plain r (m.record g e router written notified).handled =
      ⟨router, Function.update (plain r m.handled).written g ((plain r m.handled).written g ++ (written ++ writes)),
        (plain r m.handled).notified ++ notified⟩ := by
    change plain r (m.handled ++ [(g, e)]) = _
    rw [plain_concat, Plain.next, ← h.router]
    simp only [hrouter, hwritten, hnotified]
  have hhandled : ∀ g', datagrams g' (m.record g e router written notified).handled =
      datagrams g' m.handled ++ datagrams g' [(g, e)] := fun g' => datagrams_append g' _ _
  refine ⟨⟨h.buffers, h.packets, h.sized, ?_, ?_⟩, ⟨⟨[], writes⟩, hwork, ?_, ?_⟩, fun g' hg => ⟨?_, ?_⟩⟩
  · rw [hplain]
    rfl
  · rw [hplain, ← h.notified]
    rfl
  · rw [hhandled, List.append_nil]
    exact howes.datagrams
  · have hwrote : (plain r m.handled).written g = m.written g ++ [] := howes.writes
    rw [hplain]
    simp only [Memory.record, Function.update_self, hwrote, List.append_nil, List.append_assoc]
  · exact ⟨fun _ hb => ⟨hb, rfl⟩, fun _ hp => ⟨hp, rfl⟩⟩
  · intro due' howes'
    refine ⟨?_, ?_⟩
    · rw [hhandled, datagrams_of_ne hg, List.append_nil]
      exact howes'.datagrams
    · rw [hplain]
      simp only [Memory.record, Function.update_of_ne hg]
      exact howes'.writes

variable {x : Choice Addr} {rest : List (Act Addr)}

section gives

omit [DecidableEq Addr]

/-- What is given back after what is held anyway. -/
theorem Gives.cons_buffer (h : Gives m' g rest) {buf : Nat} (hheld : m'.bufferPool.holder buf = some g)
    (hnew : .putBuffer buf ∉ rest) : Gives m' g (.putBuffer buf :: rest) where
  puts a ha := by
    obtain rfl | ha := List.mem_cons.mp ha
    · exact .inl ⟨buf, rfl, hheld⟩
    · exact h.puts a ha
  nodup := List.nodup_cons.mpr ⟨hnew, h.nodup⟩

theorem Gives.cons_packet (h : Gives m' g rest) {pkt : Nat} (hheld : m'.packetPool.holder pkt = some g)
    (hnew : .putPacket pkt ∉ rest) : Gives m' g (.putPacket pkt :: rest) where
  puts a ha := by
    obtain rfl | ha := List.mem_cons.mp ha
    · exact .inr ⟨pkt, rfl, hheld⟩
    · exact h.puts a ha
  nodup := List.nodup_cons.mpr ⟨hnew, h.nodup⟩

theorem Gives.tail {a : Act Addr} (h : Gives m g (a :: rest)) : Gives m g rest :=
  ⟨fun b hb => h.puts b (List.mem_cons_of_mem a hb), (List.nodup_cons.mp h.nodup).2⟩

theorem Reads.cons {pkt : Nat} (h : Reads m rest pkt) (a : Act Addr) : Reads m (a :: rest) pkt :=
  ⟨List.mem_cons_of_mem a h.packet, fun s hs => List.mem_cons_of_mem a (h.payload s hs)⟩

end gives

/-- After a buffer is got, it is to be given back too. -/
theorem GetsBuffer.gives {buf : Nat} (h : GetsBuffer r g m m' buf) (hgives : Gives m g rest) :
    Gives m' g (.putBuffer buf :: rest) := by
  refine (hgives.leaves (h.leaves g)).cons_buffer h.held fun hmem => ?_
  cases h.unheld.symm.trans (hgives.holds_buffer hmem)

theorem GetsPacket.gives {pkt : Nat} (h : GetsPacket r g m m' pkt) (hgives : Gives m g rest) :
    Gives m' g (.putPacket pkt :: rest) := by
  refine (hgives.leaves (h.leaves g)).cons_packet h.held fun hmem => ?_
  cases h.unheld.symm.trans (hgives.holds_packet hmem)

theorem advances_getBuffer (hgood : Good r m) (hgives : Gives m g rest) (howes : Owes r m g due)
    (hready : Ready m rest due .getBuffer) :
    Advances r g m (m.act g x .getBuffer).1 ((m.act g x .getBuffer).2 ++ rest) := by
  have hgets := hgood.getBuffer g x.pick
  refine .of_silent hgets.good hgets.silent howes ?_ fun g' _ => hgets.leaves g'
  exact .ready (hgets.gives hgives) ⟨List.mem_cons_self, hready⟩

theorem advances_readFrom {buf : Nat} (hgood : Good r m) (hgives : Gives m g rest) (howes : Owes r m g due)
    (hready : Ready m rest due (.readFrom buf)) :
    Advances r g m (m.act g x (.readFrom buf)).1 ((m.act g x (.readFrom buf)).2 ++ rest) := by
  obtain ⟨hbuf, rfl⟩ := hready
  simp only [Memory.act]
  cases x.datagram with
  | none => exact .of_silent hgood ⟨rfl, rfl, rfl, rfl, rfl⟩ howes (.gives hgives) fun g' _ => .refl g' m
  | some datagram =>
    obtain ⟨data, srcAddr⟩ := datagram
    simp only
    set data := data.take maxPacketSize with hdata
    set bytes := overwrite (m.buffers buf) 0 data with hbytes
    have hlength : bytes.length = maxPacketSize := by
      rw [length_overwrite, hgood.sized]
      rw [hgood.sized, Nat.zero_add]
      exact List.length_take_le _ _
    have hwrite : ∀ g' ≠ g, Leaves g' m { m with buffers := Function.update m.buffers buf bytes } :=
      fun g' hg => leaves_of_buffer (hgives.holds_buffer hbuf) bytes hg
    have hgood' : Good r { m with buffers := Function.update m.buffers buf bytes } := hgood.writeBuffer hlength
    split
    · exact .of_silent hgood' ⟨rfl, rfl, rfl, rfl, rfl⟩ howes (.gives ⟨hgives.puts, hgives.nodup⟩) hwrite
    · refine ⟨⟨hgood'.buffers, hgood'.packets, hgood'.sized, hgood'.router, hgood'.notified⟩, ?_, ?_⟩
      · refine ⟨_, .ready ⟨hgives.puts, hgives.nodup⟩ ⟨hbuf, rfl⟩, ?_, howes.writes⟩
        have hreceived := howes.datagrams
        rw [Due.none, List.append_nil] at hreceived
        simp only [Due.read, Function.update_self, hbytes, take_overwrite, hreceived]
      · intro g' hg
        refine ⟨⟨(hwrite g' hg).buffer, (hwrite g' hg).packet⟩, fun due' howes' => ⟨?_, howes'.writes⟩⟩
        exact (Function.update_of_ne hg _ _).trans howes'.datagrams

theorem advances_getPacket {buf n : Nat} {srcAddr : Addr} (hgood : Good r m) (hgives : Gives m g rest)
    (howes : Owes r m g due) (hready : Ready m rest due (.getPacket buf n srcAddr)) :
    Advances r g m (m.act g x (.getPacket buf n srcAddr)).1 ((m.act g x (.getPacket buf n srcAddr)).2 ++ rest) := by
  have hgets := hgood.getPacket g x.pick
  refine .of_silent hgets.good hgets.silent howes ?_ fun g' _ => hgets.leaves g'
  obtain ⟨hbuf, hdue⟩ := hready.leaves hgives (hgets.leaves g)
  exact .ready (hgets.gives hgives) ⟨List.mem_cons_self, List.mem_cons_of_mem _ hbuf, hdue⟩

theorem advances_decodeInto {pkt buf n : Nat} {srcAddr : Addr} (hgood : Good r m) (hgives : Gives m g rest)
    (howes : Owes r m g due) (hready : Ready m rest due (.decodeInto pkt buf n srcAddr)) :
    Advances r g m (m.act g x (.decodeInto pkt buf n srcAddr)).1
      ((m.act g x (.decodeInto pkt buf n srcAddr)).2 ++ rest) := by
  obtain ⟨hpkt, hbuf, rfl⟩ := hready
  have hspec := (m.packet pkt).decodeInto_spec ((m.buffers buf).take n)
  simp only [Memory.act]
  cases hdec : audio.decodeInto ((m.buffers buf).take n) with
  | error e =>
    simp only [hdec] at hspec
    simp only [hspec]
    set packet : PooledPacket := ⟨_, _⟩
    have hgood' := hgood.writePacket pkt packet
    have hsilent : Silent m { m with packets := Function.update m.packets pkt packet } :=
      ⟨rfl, rfl, rfl, rfl, rfl⟩
    have hstep : plane.step m.router (.datagram x.now x.fault ((m.buffers buf).take n) srcAddr) =
        (m.router, .silent (.error e)) := by
      simp only [plane.step, Router.handlePacket, hdec]
    refine Advances.after ?_ hsilent fun g' hg => leaves_of_packet (hgives.holds_packet hpkt) packet hg
    refine .record hgood' ?_ (by rw [hstep]) (by rw [hstep]; rfl) (by rw [hstep]; rfl)
      (.gives ⟨hgives.puts, hgives.nodup⟩)
    simpa [datagrams, Due.read] using hsilent.owes howes
  | ok p =>
    simp only [hdec] at hspec
    simp only [hspec, if_true]
    set packet : PooledPacket := ⟨{ p with payload := [] }, some ⟨buf, headerSize, p.payloadLen.toNat⟩⟩
      with hpacket
    refine .of_silent (hgood.writePacket pkt packet) ⟨rfl, rfl, rfl, rfl, rfl⟩ howes ?_ fun g' hg =>
      leaves_of_packet (hgives.holds_packet hpkt) packet hg
    refine .ready ⟨hgives.puts, hgives.nodup⟩ ⟨⟨hpkt, ?_⟩, hbuf, rfl, ?_⟩
    · intro s hs
      simp only [Function.update_self, hpacket, Option.some.injEq] at hs
      subst hs
      exact hbuf
    · -- the payload of the packet is a slice of the buffer, not of what was read into it
      obtain ⟨-, hfits, -, -, -, -, -, -, -, -, -, hpayload⟩ := decodeInto_eq_ok hdec
      have hslice : ((m.buffers buf).drop headerSize).take p.payloadLen.toNat = p.payload := by
        rw [hpayload, List.drop_take, List.take_take, Nat.min_eq_left]
        rw [List.length_take] at hfits
        omega
      simp only [Memory.packet, Function.update_self, hpacket, Option.elim_some, Memory.bytes, hslice]
      exact hdec

theorem advances_handle {pkt buf n : Nat} {srcAddr : Addr} (hgood : Good r m) (hgives : Gives m g rest)
    (howes : Owes r m g due) (hready : Ready m rest due (.handle pkt buf n srcAddr)) :
    Advances r g m (m.act g x (.handle pkt buf n srcAddr)).1
      ((m.act g x (.handle pkt buf n srcAddr)).2 ++ rest) := by
  obtain ⟨hreads, hbuf, rfl, hdec⟩ := hready
  set data := (m.buffers buf).take n with hdata
  have howes' : Owes r m g ⟨datagrams g [(g, .datagram x.now x.fault data srcAddr)], []⟩ := by
    simpa [datagrams, Due.read] using howes
  simp only [Memory.act, ← hdata]
  split
  · rename_i htype
    have hstep : plane.step m.router (.datagram x.now x.fault data srcAddr) =
        m.router.handleVoice x.now (m.packet pkt) data srcAddr := Router.handlePacket_voice hdec htype
    exact .record hgood howes' (by rw [hstep]) (by rw [hstep, List.append_nil]) (by rw [hstep])
      (.gives ⟨hgives.puts, hgives.nodup⟩)
  · split
    · rename_i _ htype
      have hstep : plane.step m.router (.datagram x.now x.fault data srcAddr) =
          m.router.handlePing x.now (m.packet pkt) srcAddr := Router.handlePacket_ping hdec htype
      by_cases hwriter : m.router.writer = true
      · rw [if_pos hwriter]
        have hwritten : (m.router.handlePing x.now (m.packet pkt) srcAddr).2.written =
            answer (Router.pong (m.packet pkt)) srcAddr := by
          simp only [Router.handlePing, answer, hwriter, Bool.true_and]
          by_cases hempty : (Router.pong (m.packet pkt)).encodeInto maxPacketSize = []
          · simp [hempty]
          · simp [hempty]
        refine .record hgood howes' (by rw [hstep]; rfl) (by rw [hstep, hwritten]; rfl) (by rw [hstep]; rfl) ?_
        exact .ready ⟨hgives.puts, hgives.nodup⟩ ⟨⟨hreads.packet, hreads.payload⟩, rfl⟩
      · rw [if_neg hwriter]
        refine .record hgood howes' (by rw [hstep]; rfl) ?_ (by rw [hstep]; rfl)
          (.gives ⟨hgives.puts, hgives.nodup⟩)
        rw [hstep]
        simp [Router.handlePing, hwriter]
    · split
      · rename_i _ _ htype
        have hstep : plane.step m.router (.datagram x.now x.fault data srcAddr) =
            m.router.handleHandshake x.now x.fault (m.packet pkt) srcAddr :=
          Router.handlePacket_handshake hdec htype
        exact .record hgood howes' (by rw [hstep]) (by rw [hstep, List.append_nil]) (by rw [hstep])
          (.gives ⟨hgives.puts, hgives.nodup⟩)
      · rename_i hvoice hping hshake
        obtain ⟨result, hother⟩ := Router.handlePacket_other m.router x.now x.fault srcAddr fun p hp => by
          cases hdec.symm.trans hp
          exact ⟨hvoice, hping, hshake⟩
        have hstep : plane.step m.router (.datagram x.now x.fault data srcAddr) = (m.router, .silent result) :=
          hother
        exact .record hgood howes' (by rw [hstep]) (by rw [hstep]; rfl) (by rw [hstep]; rfl)
          (.gives ⟨hgives.puts, hgives.nodup⟩)

theorem advances_getPongBuffer {pkt : Nat} {srcAddr : Addr} (hgood : Good r m) (hgives : Gives m g rest)
    (howes : Owes r m g due) (hready : Ready m rest due (.getPongBuffer pkt srcAddr)) :
    Advances r g m (m.act g x (.getPongBuffer pkt srcAddr)).1
      ((m.act g x (.getPongBuffer pkt srcAddr)).2 ++ rest) := by
  have hgets := hgood.getBuffer g x.pick
  refine .of_silent hgets.good hgets.silent howes ?_ fun g' _ => hgets.leaves g'
  obtain ⟨hreads, hdue⟩ := hready.leaves hgives (hgets.leaves g)
  exact .ready (hgets.gives hgives) ⟨hreads.cons _, List.mem_cons_self, hdue⟩

theorem advances_getPongPacket {pkt pongBuf : Nat} {srcAddr : Addr} (hgood : Good r m) (hgives : Gives m g rest)
    (howes : Owes r m g due) (hready : Ready m rest due (.getPongPacket pkt pongBuf srcAddr)) :
    Advances r g m (m.act g x (.getPongPacket pkt pongBuf srcAddr)).1
      ((m.act g x (.getPongPacket pkt pongBuf srcAddr)).2 ++ rest) := by
  have hgets := hgood.getPacket g x.pick
  refine .of_silent hgets.good hgets.silent howes ?_ fun g' _ => hgets.leaves g'
  obtain ⟨hreads, hbuf, hdue⟩ := hready.leaves hgives (hgets.leaves g)
  exact .ready (hgets.gives hgives) ⟨hreads.cons _, List.mem_cons_of_mem _ hbuf, List.mem_cons_self, hdue⟩

/-- The pong borrows the payload of the ping. -/
theorem advances_fillPong {pkt pongBuf pongPkt : Nat} {srcAddr : Addr} (hgood : Good r m)
    (hgives : Gives m g rest) (howes : Owes r m g due)
    (hready : Ready m rest due (.fillPong pkt pongBuf pongPkt srcAddr)) :
    Advances r g m (m.act g x (.fillPong pkt pongBuf pongPkt srcAddr)).1
      ((m.act g x (.fillPong pkt pongBuf pongPkt srcAddr)).2 ++ rest) := by
  obtain ⟨hreads, hbuf, hpong, rfl⟩ := hready
  simp only [Memory.act]
  set filled : PooledPacket := ⟨{ Router.pong (m.packet pkt) with payload := [] }, (m.packets pkt).payload⟩
    with hfilled
  refine .of_silent (hgood.writePacket pongPkt filled) ⟨rfl, rfl, rfl, rfl, rfl⟩ howes ?_ fun g' hg =>
    leaves_of_packet (hgives.holds_packet hpong) filled hg
  refine .ready ⟨hgives.puts, hgives.nodup⟩ ⟨⟨hpong, fun s hs => ?_⟩, hbuf, ?_⟩
  · simp only [Function.update_self, hfilled] at hs
    exact hreads.payload s hs
  · simp only [Memory.packet, Function.update_self, hfilled]
    rfl

theorem advances_encodeInto {pongBuf pongPkt : Nat} {srcAddr : Addr} (hgood : Good r m) (hgives : Gives m g rest)
    (howes : Owes r m g due) (hready : Ready m rest due (.encodeInto pongBuf pongPkt srcAddr)) :
    Advances r g m (m.act g x (.encodeInto pongBuf pongPkt srcAddr)).1
      ((m.act g x (.encodeInto pongBuf pongPkt srcAddr)).2 ++ rest) := by
  obtain ⟨-, hbuf, rfl⟩ := hready
  obtain ⟨hlength, htake, hnone⟩ := (m.packet pongPkt).encodeOver_spec (m.buffers pongBuf)
  rw [hgood.sized] at hlength htake hnone
  simp only [Memory.act]
  refine .of_silent (hgood.writeBuffer hlength) ⟨rfl, rfl, rfl, rfl, rfl⟩ howes ?_ fun g' hg =>
    leaves_of_buffer (hgives.holds_buffer hbuf) _ hg
  by_cases hfits : (m.packet pongPkt).encodeInto maxPacketSize = []
  · rw [hnone.mpr hfits, if_neg (Nat.lt_irrefl 0), answer, if_pos hfits]
    exact .gives ⟨hgives.puts, hgives.nodup⟩
  · have hpos : 0 < ((m.packet pongPkt).encodeOver (m.buffers pongBuf)).2 :=
      Nat.pos_of_ne_zero fun hzero => hfits (hnone.mp hzero)
    rw [if_pos hpos, answer, if_neg hfits]
    refine .ready ⟨hgives.puts, hgives.nodup⟩ ⟨hbuf, ?_⟩
    simp only [Function.update_self, htake]

theorem advances_writeTo {pongBuf written : Nat} {srcAddr : Addr} (hgood : Good r m) (hgives : Gives m g rest)
    (howes : Owes r m g due) (hready : Ready m rest due (.writeTo pongBuf written srcAddr)) :
    Advances r g m (m.act g x (.writeTo pongBuf written srcAddr)).1
      ((m.act g x (.writeTo pongBuf written srcAddr)).2 ++ rest) := by
  obtain ⟨-, rfl⟩ := hready
  refine ⟨⟨hgood.buffers, hgood.packets, hgood.sized, hgood.router, hgood.notified⟩, ?_, fun g' hg => ⟨?_, ?_⟩⟩
  · refine ⟨_, .gives ⟨hgives.puts, hgives.nodup⟩, howes.datagrams, ?_⟩
    simp only [Memory.act, Function.update_self, Due.none, List.append_nil]
    exact howes.writes
  · exact ⟨fun _ hb => ⟨hb, rfl⟩, fun _ hp => ⟨hp, rfl⟩⟩
  · intro due' howes'
    refine ⟨howes'.datagrams, ?_⟩
    simp only [Memory.act, Function.update_of_ne hg]
    exact howes'.writes

/-- A packet is cleared before others can have it. -/
theorem advances_putPacket {pkt : Nat} (hgood : Good r m) (hgives : Gives m g (.putPacket pkt :: rest))
    (howes : Owes r m g .none) :
    Advances r g m (m.act g x (.putPacket pkt)).1 ((m.act g x (.putPacket pkt)).2 ++ rest) := by
  have hheld := hgives.holds_packet List.mem_cons_self
  have hnew := (List.nodup_cons.mp hgives.nodup).1
  have hother : ∀ g' p, m.packetPool.holder p = some g' → p ≠ pkt →
      (m.putPacket pkt).packetPool.holder p = some g' ∧ (m.putPacket pkt).packets p = m.packets p :=
    fun g' p hp hne => ⟨(Function.update_of_ne hne _ _).trans hp, Function.update_of_ne hne _ _⟩
  refine .of_silent ?_ ⟨rfl, rfl, rfl, rfl, rfl⟩ howes (.gives ⟨fun a ha => ?_, hgives.tail.nodup⟩)
    fun g' hg => ⟨?_, ?_⟩
  · exact hgood.silent ⟨rfl, rfl, rfl, rfl, rfl⟩ hgood.buffers
      (hgood.packets.put (by rw [hheld]; exact Option.some_ne_none g)) hgood.sized
  · obtain ⟨buf, rfl, hbuf⟩ | ⟨p, rfl, hp⟩ := hgives.tail.puts a ha
    · exact .inl ⟨buf, rfl, hbuf⟩
    · exact .inr ⟨p, rfl, (hother g p hp fun heq => hnew (heq ▸ ha)).1⟩
  · exact fun _ hb => ⟨hb, rfl⟩
  · exact fun p hp => hother g' p hp fun heq => hg (Option.some.inj (hp.symm.trans (heq ▸ hheld)))

theorem advances_putBuffer {buf : Nat} (hgood : Good r m) (hgives : Gives m g (.putBuffer buf :: rest))
    (howes : Owes r m g .none) :
    Advances r g m (m.act g x (.putBuffer buf)).1 ((m.act g x (.putBuffer buf)).2 ++ rest) := by
  have hheld := hgives.holds_buffer List.mem_cons_self
  have hnew := (List.nodup_cons.mp hgives.nodup).1
  have hother : ∀ g' b, m.bufferPool.holder b = some g' → b ≠ buf →
      (m.putBuffer buf).bufferPool.holder b = some g' :=
    fun g' b hb hne => (Function.update_of_ne hne _ _).trans hb
  refine .of_silent ?_ ⟨rfl, rfl, rfl, rfl, rfl⟩ howes (.gives ⟨fun a ha => ?_, hgives.tail.nodup⟩)
    fun g' hg => ⟨?_, ?_⟩
  · exact hgood.silent ⟨rfl, rfl, rfl, rfl, rfl⟩
      (hgood.buffers.put (by rw [hheld]; exact Option.some_ne_none g)) hgood.packets hgood.sized
  · obtain ⟨b, rfl, hb⟩ | ⟨p, rfl, hp⟩ := hgives.tail.puts a ha
    · exact .inl ⟨b, rfl, hother g b hb fun heq => hnew (heq ▸ ha)⟩
    · exact .inr ⟨p, rfl, hp⟩
  · exact fun b hb => ⟨hother g' b hb fun heq => hg (Option.some.inj (hb.symm.trans (heq ▸ hheld))), rfl⟩
  · exact fun _ hp => ⟨hp, rfl⟩

/-- One step of a goroutine. -/
theorem AtWork.act {a : Act Addr} (hgood : Good r m) (hwork : AtWork m g (a :: rest) due)
    (howes : Owes r m g due) : Advances r g m (m.act g x a).1 ((m.act g x a).2 ++ rest) := by
  cases hwork with
  | gives hgives =>
    obtain ⟨buf, rfl, -⟩ | ⟨pkt, rfl, -⟩ := hgives.puts a List.mem_cons_self
    · exact advances_putBuffer hgood hgives howes
    · exact advances_putPacket hgood hgives howes
  | ready hgives hready =>
    cases a with
    | getBuffer => exact advances_getBuffer hgood hgives howes hready
    | readFrom buf => exact advances_readFrom hgood hgives howes hready
    | getPacket buf n srcAddr => exact advances_getPacket hgood hgives howes hready
    | decodeInto pkt buf n srcAddr => exact advances_decodeInto hgood hgives howes hready
    | handle pkt buf n srcAddr => exact advances_handle hgood hgives howes hready
    | getPongBuffer pkt srcAddr => exact advances_getPongBuffer hgood hgives howes hready
    | getPongPacket pkt pongBuf srcAddr => exact advances_getPongPacket hgood hgives howes hready
    | fillPong pkt pongBuf pongPkt srcAddr => exact advances_fillPong hgood hgives howes hready
    | encodeInto pongBuf pongPkt srcAddr => exact advances_encodeInto hgood hgives howes hready
    | writeTo pongBuf written srcAddr => exact advances_writeTo hgood hgives howes hready
    | putPacket pkt => exact hready.elim
    | putBuffer buf => exact hready.elim
    | control e =>
      obtain ⟨rfl, hnone, hsilent⟩ := hready
      obtain ⟨hwritten, hnotified⟩ := hsilent m.router
      refine .record hgood ?_ rfl (by rw [hwritten]; rfl) hnotified (.gives ⟨hgives.puts, hgives.nodup⟩)
      rw [hnone]
      exact howes
    | collect =>
      obtain rfl := hready
      refine .of_silent ?_ ⟨rfl, rfl, rfl, rfl, rfl⟩ howes (.gives ⟨hgives.puts, hgives.nodup⟩)
        fun g' _ => ⟨fun _ hb => ⟨hb, rfl⟩, fun _ hp => ⟨hp, rfl⟩⟩
      exact hgood.silent ⟨rfl, rfl, rfl, rfl, rfl⟩ (hgood.buffers.collect x.pick) (hgood.packets.collect x.pick)
        hgood.sized

/-- What every request starts with. -/
theorem atWork_program (m : Memory Addr) (request : Request Addr) : AtWork m g request.program .none := by
  have hgives : Gives m g [] := ⟨fun _ h => (nomatch h), List.nodup_nil⟩
  cases request with
  | readLoop g => exact .ready hgives rfl
  | collect g => exact .ready hgives rfl
  | control g e =>
    cases e with
    | datagram now fault data srcAddr => exact .gives hgives
    | _ => exact .ready hgives ⟨rfl, fun _ => rfl, fun _ => ⟨rfl, rfl⟩⟩

/-- Where all goroutines are. -/
structure Sound (r : Router Addr) (k : State Addr) : Prop where
  good : Good r k.shared
  atWork : ∀ g, ∃ due, AtWork k.shared g (k.todo g) due ∧ Owes r k.shared g due

theorem sound_after (r : Router Addr) (ts : List (Turn Addr)) : Sound r (after r ts) := by
  refine Goroutines.run_rule system (fun _ _ => True) (Sound r) ?_ ?_ ?_ ts fun _ _ _ _ => trivial
  · refine ⟨⟨SyncPool.ok_empty, SyncPool.ok_empty, fun _ => List.length_replicate, rfl, rfl⟩,
      fun g => ⟨.none, ?_, rfl, rfl⟩⟩
    exact .gives ⟨fun _ h => (nomatch h), List.nodup_nil⟩
  · intro k request h _ hidle
    refine ⟨h.good, fun g => ?_⟩
    obtain ⟨due, hwork, howes⟩ := h.atWork g
    by_cases hg : g = request.owner
    · subst hg
      have hdue : due = .none := by
        rw [show k.todo request.owner = [] from hidle] at hwork
        cases hwork with
        | gives => rfl
      subst hdue
      refine ⟨.none, ?_, howes⟩
      change AtWork k.shared _ (Function.update k.todo request.owner request.program request.owner) .none
      rw [Function.update_self]
      exact atWork_program k.shared request
    · refine ⟨due, ?_, howes⟩
      change AtWork k.shared g (Function.update k.todo request.owner request.program g) due
      rw [Function.update_of_ne hg]
      exact hwork
  · intro k t g a m' acts h _ hperforms
    obtain ⟨⟨x, -, hperform⟩, rest, htodo, hstep⟩ := hperforms
    have hact : k.shared.act g x a = (m', acts) := Option.some.inj hperform
    obtain ⟨due, hwork, howes⟩ := h.atWork g
    rw [htodo] at hwork
    have hadvances := hwork.act (x := x) h.good howes
    rw [hact] at hadvances
    rw [hstep]
    refine ⟨hadvances.good, fun g' => ?_⟩
    by_cases hg : g' = g
    · subst hg
      simp only [Function.update_self]
      exact hadvances.own
    · simp only [Function.update_of_ne hg]
      obtain ⟨due', hwork', howes'⟩ := h.atWork g'
      obtain ⟨hleaves, howing⟩ := hadvances.others g' hg
      exact ⟨due', hwork'.leaves hleaves, howing due' howes'⟩

end steps

end pool

end low_latency_voice.audio
