import Mathlib.Data.List.Nodup
import LowLatencyVoice.Lib.Paging
import LowLatencyVoice.Storage.Database

open low_latency_voice.model

namespace low_latency_voice.storage

/-- A message as `GetMessages` returns it: the row, its id and the sender's name. -/
structure Message where
  id : Nat
  channelID : UInt32
  senderID : UInt32
  senderName : String
  content : String
  deriving DecidableEq, Repr

namespace Database

/-- One row of `messages JOIN users ON sender_id`. -/
def joinSender (db : Database) (id : Nat) (row : MessageRow) : Option Message :=
  (db.users.get? row.senderID.toNat).map fun sender =>
    { id, channelID := row.channelID, senderID := row.senderID, senderName := sender.username,
      content := row.content }

/-- The rows of both queries of `GetMessages`, before the `LIMIT`: newest first, and
with a cursor only what is older. -/
def messagesBefore (db : Database) (channelID : UInt32) (beforeID : Nat) : List Message :=
  let joined := db.messages.rows.pairs.filterMap fun e => db.joinSender e.1 e.2
  let selected := joined.filter fun m =>
    m.channelID == channelID && (beforeID == 0 || decide (m.id < beforeID))
  selected.insertionSort fun m m' => m'.id ≤ m.id

/-- The number of messages `GetMessages` returns at most. -/
def pageLimit (limit : Int) : Nat := if limit ≤ 0 ∨ 100 < limit then 50 else limit.toNat

/-- `GetMessages`: a page in ascending order and `has_more`. -/
def getMessages (db : Database) (channelID : UInt32) (beforeID : Nat) (limit : Int) :
    Option (List Message × Bool) :=
  match db.getChannelByID channelID with
  | none => none
  | some _ =>
    let limit := pageLimit limit
    let fetched := (db.messagesBefore channelID beforeID).take (limit + 1)
    let hasMore := decide (limit < fetched.length)
    let fetched := if hasMore then fetched.take limit else fetched
    some (fetched.reverse, hasMore)

/-- A call of `CreateMessage` by anybody. -/
structure Post where
  channelID : UInt32
  senderID : UInt32
  content : String
  deriving DecidableEq, Repr

/-- The database after a call of `CreateMessage`, which may be refused. -/
def post (db : Database) (p : Post) : Database :=
  match db.createMessage p.channelID p.senderID p.content with
  | .error _ => db
  | .ok (db', _, _) => db'

/-- The pages a caller reads until `has_more` is false, newest first. Each entry of
`traffic` allows one more call and holds what the others post after it. -/
def history (db : Database) (channelID : UInt32) (limit : Int) (beforeID : Nat) :
    List (List Post) → Option (List (List Message))
  | [] => none
  | posts :: traffic =>
    match db.getMessages channelID beforeID limit with
    | none => none
    | some (page, false) => some [page]
    | some (page, true) =>
      match page.head? with
      | none => none
      | some first =>
        ((posts.foldl post db).history channelID limit first.id traffic).map (page :: ·)

/-- A change to the tables of the accounts and channels. -/
inductive Change where
  | createUser (username passwordHash : String)
  | assignUserRole (now : Time) (userID roleID : UInt32)
  | createChannel (row : ChannelRow)
  | deleteChannel (channelID : UInt32)
  | createMessage (p : Post)

/-- The database after a change, which may be refused. -/
def change (db : Database) : Change → Database
  | .createUser username passwordHash =>
    match db.createUser username passwordHash with
    | none => db
    | some (db', _) => db'
  | .assignUserRole now userID roleID => db.assignUserRole now userID roleID
  | .createChannel row =>
    match db.createChannel row with
    | none => db
    | some (db', _) => db'
  | .deleteChannel channelID => (db.deleteChannel channelID).getD db
  | .createMessage p => db.post p

theorem joinSender_eq_some_iff {db : Database} {id : Nat} {row : MessageRow} {m : Message} :
    db.joinSender id row = some m ↔
      ∃ sender, db.users.get? row.senderID.toNat = some sender ∧
        m = ⟨id, row.channelID, row.senderID, sender.username, row.content⟩ := by
  simp only [joinSender, Option.map_eq_some_iff]
  constructor
  · rintro ⟨sender, hsender, rfl⟩
    exact ⟨sender, hsender, rfl⟩
  · rintro ⟨sender, hsender, rfl⟩
    exact ⟨sender, hsender, rfl⟩

/-- A message the queries see: its row with the name of its sender. -/
def Stored (db : Database) (m : Message) : Prop :=
  ∃ row, db.messages.get? m.id = some row ∧ db.joinSender m.id row = some m

theorem mem_messagesBefore_iff {db : Database} {channelID : UInt32} {beforeID : Nat} {m : Message} :
    m ∈ db.messagesBefore channelID beforeID ↔
      db.Stored m ∧ m.channelID = channelID ∧ (beforeID = 0 ∨ m.id < beforeID) := by
  simp only [messagesBefore, List.mem_insertionSort, List.mem_filter, List.mem_filterMap,
    Bool.and_eq_true, Bool.or_eq_true, beq_iff_eq, decide_eq_true_eq]
  constructor
  · rintro ⟨⟨⟨id, row⟩, hmem, hjoin⟩, hselected⟩
    rw [GoMap.mem_pairs_iff] at hmem
    obtain ⟨sender, hsender, rfl⟩ := joinSender_eq_some_iff.mp hjoin
    exact ⟨⟨row, hmem, hjoin⟩, hselected⟩
  · rintro ⟨⟨row, hrow, hjoin⟩, hselected⟩
    exact ⟨⟨(m.id, row), (GoMap.mem_pairs_iff _ _ _).mpr hrow, hjoin⟩, hselected⟩

theorem Stored.eq_of_id_eq {db : Database} {m m' : Message} (h : db.Stored m) (h' : db.Stored m')
    (hid : m.id = m'.id) : m = m' := by
  obtain ⟨row, hrow, hjoin⟩ := h
  obtain ⟨row', hrow', hjoin'⟩ := h'
  rw [hid, hrow'] at hrow
  cases hrow
  rw [hid, hjoin'] at hjoin
  exact (Option.some.inj hjoin).symm

theorem nodup_joined (db : Database) :
    (db.messages.rows.pairs.filterMap fun e => db.joinSender e.1 e.2).Nodup := by
  apply List.Nodup.filterMap
  · rintro ⟨id, row⟩ ⟨id', row'⟩ m hm hm'
    obtain ⟨sender, -, rfl⟩ := joinSender_eq_some_iff.mp hm
    obtain ⟨sender', -, heq⟩ := joinSender_eq_some_iff.mp hm'
    cases row
    cases row'
    simp only [Message.mk.injEq] at heq
    simp only [Prod.mk.injEq, MessageRow.mk.injEq]
    exact ⟨heq.1, heq.2.1, heq.2.2.1, heq.2.2.2.2⟩
  · exact List.Nodup.of_map _ (GoMap.nodup_pairs_keys _)

/-- `ORDER BY m.id DESC`, and no message twice. -/
theorem descending_messagesBefore (db : Database) (channelID : UInt32) (beforeID : Nat) :
    Paging.Descending Message.id (db.messagesBefore channelID beforeID) := by
  have : Std.Total fun m m' : Message => m'.id ≤ m.id := ⟨fun m m' => Nat.le_total m'.id m.id⟩
  have : IsTrans Message fun m m' => m'.id ≤ m.id := ⟨fun _ _ _ h h' => Nat.le_trans h' h⟩
  have hsorted : (db.messagesBefore channelID beforeID).Pairwise fun m m' => m'.id ≤ m.id :=
    List.pairwise_insertionSort _ _
  have hnodup : (db.messagesBefore channelID beforeID).Nodup := by
    unfold messagesBefore
    rw [(List.perm_insertionSort _ _).nodup_iff]
    exact (nodup_joined db).filter _
  refine (hsorted.and hnodup).imp_of_mem ?_
  intro m m' hm hm' ⟨hle, hne⟩
  have hstored := (mem_messagesBefore_iff.mp hm).1
  have hstored' := (mem_messagesBefore_iff.mp hm').1
  have hid : m'.id ≠ m.id := fun hid => hne (hstored.eq_of_id_eq hstored' hid.symm)
  omega

/-- A cursor keeps the older part of what a newer cursor shows. -/
theorem messagesBefore_filter (db : Database) (channelID : UInt32) {beforeID beforeID' : Nat}
    (hpos : beforeID' ≠ 0) (hle : beforeID = 0 ∨ beforeID' ≤ beforeID) :
    db.messagesBefore channelID beforeID' =
      (db.messagesBefore channelID beforeID).filter fun m => decide (m.id < beforeID') := by
  apply (descending_messagesBefore db channelID beforeID').eq_of_mem_iff
  · exact List.Pairwise.filter _ (descending_messagesBefore db channelID beforeID)
  · intro m
    rw [List.mem_filter, mem_messagesBefore_iff, mem_messagesBefore_iff, decide_eq_true_eq]
    have hcursor : (beforeID' = 0 ∨ m.id < beforeID') ↔
        (beforeID = 0 ∨ m.id < beforeID) ∧ m.id < beforeID' := by omega
    rw [hcursor]
    tauto

/-- `db'` is `db` with more messages, all newer. -/
structure Grown (db db' : Database) : Prop where
  users : db'.users = db.users
  channels : db'.channels = db.channels
  seq_le : db.messages.seq ≤ db'.messages.seq
  messages : ∀ id, id ≤ db.messages.seq → db'.messages.get? id = db.messages.get? id

theorem Grown.refl (db : Database) : Grown db db := ⟨rfl, rfl, Nat.le_refl _, fun _ _ => rfl⟩

theorem Grown.trans {db db' db'' : Database} (h : Grown db db') (h' : Grown db' db'') :
    Grown db db'' where
  users := h'.users.trans h.users
  channels := h'.channels.trans h.channels
  seq_le := Nat.le_trans h.seq_le h'.seq_le
  messages := fun id hid => (h'.messages id (Nat.le_trans hid h.seq_le)).trans (h.messages id hid)

/-- A call of `CreateMessage` changes nothing or inserts the row. -/
theorem post_eq (db : Database) (p : Post) :
    db.post p = db ∨ (db.users.get? p.senderID.toNat).isSome ∧
      db.post p = { db with
        messages := (db.messages.insert ⟨p.channelID, p.senderID, p.content⟩).1 } := by
  unfold post createMessage
  cases db.getChannelByID p.channelID with
  | none => exact .inl rfl
  | some channel =>
    by_cases htext : channel.type ≠ "text"
    · simp only [if_pos htext, true_or]
    · simp only [if_neg htext]
      cases db.users.get? p.senderID.toNat with
      | none => exact .inl rfl
      | some sender => exact .inr ⟨rfl, rfl⟩

theorem grown_post (db : Database) (p : Post) : Grown db (db.post p) := by
  rcases post_eq db p with hsame | ⟨-, hinsert⟩
  · rw [hsame]
    exact .refl db
  · rw [hinsert]
    refine ⟨rfl, rfl, Nat.le_succ _, ?_⟩
    intro id hid
    rw [Table.get?_insert, if_neg (by omega)]

theorem grown_posts (db : Database) (posts : List Post) : Grown db (posts.foldl post db) := by
  induction posts generalizing db with
  | nil => exact .refl db
  | cons p posts ih => exact (grown_post db p).trans (ih (db.post p))

/-- What others post later is behind the cursor. -/
theorem Grown.messagesBefore_eq {db db' : Database} (h : Grown db db') (channelID : UInt32)
    {beforeID : Nat} (hpos : beforeID ≠ 0) (hle : beforeID ≤ db.messages.seq + 1) :
    db'.messagesBefore channelID beforeID = db.messagesBefore channelID beforeID := by
  apply (descending_messagesBefore db' channelID beforeID).eq_of_mem_iff
    (descending_messagesBefore db channelID beforeID)
  intro m
  rw [mem_messagesBefore_iff, mem_messagesBefore_iff]
  apply and_congr_left
  rintro ⟨-, hcursor⟩
  have hid : m.id ≤ db.messages.seq := by omega
  simp only [Stored, joinSender, h.messages m.id hid, h.users]

theorem pageLimit_pos (limit : Int) : 0 < pageLimit limit := by
  unfold pageLimit
  split <;> omega

theorem getMessages_of_le {db : Database} {channelID : UInt32} (hchannel : (db.getChannelByID channelID).isSome)
    {beforeID : Nat} {limit : Int}
    (hle : (db.messagesBefore channelID beforeID).length ≤ pageLimit limit) :
    db.getMessages channelID beforeID limit =
      some ((db.messagesBefore channelID beforeID).reverse, false) := by
  obtain ⟨channel, hchannel⟩ := Option.isSome_iff_exists.mp hchannel
  have htake : (db.messagesBefore channelID beforeID).take (pageLimit limit + 1) =
      db.messagesBefore channelID beforeID := List.take_of_length_le (by omega)
  simp only [getMessages, hchannel, htake, Nat.not_lt.mpr hle, decide_false, Bool.false_eq_true, if_false]

theorem getMessages_of_lt {db : Database} {channelID : UInt32} (hchannel : (db.getChannelByID channelID).isSome)
    {beforeID : Nat} {limit : Int}
    (hlt : pageLimit limit < (db.messagesBefore channelID beforeID).length) :
    db.getMessages channelID beforeID limit =
      some (((db.messagesBefore channelID beforeID).take (pageLimit limit)).reverse, true) := by
  obtain ⟨channel, hchannel⟩ := Option.isSome_iff_exists.mp hchannel
  have hlength : ((db.messagesBefore channelID beforeID).take (pageLimit limit + 1)).length =
      pageLimit limit + 1 := List.length_take_of_le hlt
  have htake : ((db.messagesBefore channelID beforeID).take (pageLimit limit + 1)).take (pageLimit limit) =
      (db.messagesBefore channelID beforeID).take (pageLimit limit) := by
    rw [List.take_take, Nat.min_eq_left (Nat.le_succ _)]
  simp only [getMessages, hchannel, hlength, Nat.lt_succ_self, decide_true, if_true, htake]

/-- The rows of a channel's messages. -/
def messageRows (db : Database) (channelID : UInt32) : List (Nat × MessageRow) :=
  db.messages.rows.pairs.filter fun e => e.2.channelID == channelID

/-- What the schema promises of `messages`: the foreign key `sender_id` and keys
from 1 on. -/
structure SoundMessages (db : Database) : Prop where
  senders : ∀ id row, db.messages.get? id = some row → (db.users.get? row.senderID.toNat).isSome
  ids : db.messages.get? 0 = none

theorem Stored.id_ne_zero {db : Database} (hsound : SoundMessages db) {m : Message} (h : db.Stored m) :
    m.id ≠ 0 := by
  obtain ⟨row, hrow, -⟩ := h
  intro hzero
  rw [hzero, hsound.ids] at hrow
  cases hrow

theorem Stored.id_le {db : Database} {m : Message} (h : db.Stored m) : m.id ≤ db.messages.seq := by
  obtain ⟨row, hrow, -⟩ := h
  apply db.messages.bounded
  intro hnone
  rw [Table.get?, hnone] at hrow
  cases hrow

theorem SoundMessages.post {db : Database} (h : SoundMessages db) (p : Post) :
    SoundMessages (db.post p) := by
  rcases post_eq db p with hsame | ⟨hsender, hinsert⟩
  · rw [hsame]
    exact h
  · rw [hinsert]
    constructor
    · intro id row hrow
      simp only [Table.get?_insert] at hrow
      split at hrow
      · cases hrow
        exact hsender
      · exact h.senders id row hrow
    · simp only [Table.get?_insert]
      rw [if_neg (Nat.succ_ne_zero _).symm]
      exact h.ids

theorem SoundMessages.posts {db : Database} (h : SoundMessages db) (posts : List Post) :
    SoundMessages (posts.foldl Database.post db) := by
  induction posts generalizing db with
  | nil => exact h
  | cons p posts ih => exact ih (h.post p)

theorem SoundMessages.change {db : Database} (h : SoundMessages db) (c : Change) :
    SoundMessages (db.change c) := by
  cases c with
  | createUser username passwordHash =>
    simp only [Database.change, createUser]
    split_ifs
    · exact h
    · refine ⟨fun id row hrow => ?_, h.ids⟩
      have hsender := h.senders id row hrow
      simp only [Table.get?_insert]
      split
      · rfl
      · exact hsender
  | assignUserRole now userID roleID =>
    simp only [Database.change, assignUserRole]
    split_ifs
    · exact ⟨h.senders, h.ids⟩
    · exact h
  | createChannel row =>
    simp only [Database.change, createChannel]
    split_ifs
    · exact ⟨h.senders, h.ids⟩
    · exact h
  | deleteChannel channelID =>
    simp only [Database.change, deleteChannel]
    split_ifs
    · exact h
    · constructor
      · intro id row hrow
        simp only [Option.getD_some, Table.get?_filter, Option.filter_eq_some_iff] at hrow
        exact h.senders id row hrow.1
      · simp only [Option.getD_some, Table.get?_filter, h.ids, Option.filter_none]
  | createMessage p => exact h.post p

/-- Every database the calls of the repository build from the first migration. -/
theorem soundMessages_seeded (changes : List Change) :
    SoundMessages (changes.foldl Database.change Database.seeded) := by
  have hseeded : SoundMessages Database.seeded := by
    constructor
    · intro id row hrow
      simp [Database.seeded, Table.get?, Table.empty] at hrow
    · rfl
  generalize Database.seeded = db at hseeded
  induction changes generalizing db with
  | nil => exact hseeded
  | cons c changes ih => exact ih (db.change c) (hseeded.change c)

/-- No key of `messages` comes back. -/
theorem seq_le_change (db : Database) (c : Change) : db.messages.seq ≤ (db.change c).messages.seq := by
  cases c with
  | createUser username passwordHash =>
    simp only [change, createUser]
    split_ifs <;> exact Nat.le_refl _
  | assignUserRole now userID roleID =>
    simp only [change, assignUserRole]
    split_ifs <;> exact Nat.le_refl _
  | createChannel row =>
    simp only [change, createChannel]
    split_ifs <;> exact Nat.le_refl _
  | deleteChannel channelID =>
    simp only [change, deleteChannel]
    split_ifs <;> exact Nat.le_refl _
  | createMessage p => exact (grown_post db p).seq_le

/-- The messages of a page are rows of the channel, each once. -/
theorem mem_of_getMessages {db : Database} {channelID : UInt32} {beforeID : Nat} {limit : Int}
    {page : List Message} {hasMore : Bool}
    (h : db.getMessages channelID beforeID limit = some (page, hasMore)) :
    (∀ m ∈ page, db.Stored m ∧ m.channelID = channelID) ∧ (page.map Message.id).Nodup := by
  have hsublist : page.reverse.Sublist (db.messagesBefore channelID beforeID) := by
    simp only [getMessages] at h
    cases hchannel : db.getChannelByID channelID with
    | none =>
      rw [hchannel] at h
      cases h
    | some channel =>
      rw [hchannel] at h
      simp only [Option.some.injEq, Prod.mk.injEq] at h
      rw [← h.1, List.reverse_reverse]
      split
      · exact (List.take_sublist _ _).trans (List.take_sublist _ _)
      · exact List.take_sublist _ _
  constructor
  · intro m hm
    obtain ⟨hstored, hchannel, -⟩ :=
      mem_messagesBefore_iff.mp (hsublist.subset (List.mem_reverse.mpr hm))
    exact ⟨hstored, hchannel⟩
  · have hdescending := (descending_messagesBefore db channelID beforeID).sublist hsublist
    rw [List.pairwise_reverse] at hdescending
    exact List.pairwise_map.mpr (hdescending.imp Nat.ne_of_lt)

/-- The first page and the cursor to the rest. -/
theorem messagesBefore_split (db : Database) (channelID : UInt32) (beforeID : Nat) {L : Nat} (hL : 0 < L)
    (hsound : SoundMessages db) (hlt : L < (db.messagesBefore channelID beforeID).length) :
    ∃ first, ((db.messagesBefore channelID beforeID).take L).reverse.head? = some first ∧
      first.id ≠ 0 ∧ first.id ≤ db.messages.seq ∧
      db.messagesBefore channelID first.id = (db.messagesBefore channelID beforeID).drop L := by
  obtain ⟨k, rfl⟩ := Nat.exists_eq_add_of_lt hL
  simp only [Nat.zero_add] at hlt ⊢
  have hk : k < (db.messagesBefore channelID beforeID).length := by omega
  have hmem := List.getElem_mem hk
  obtain ⟨hstored, -, hbefore⟩ := mem_messagesBefore_iff.mp hmem
  have hnonzero := hstored.id_ne_zero hsound
  refine ⟨(db.messagesBefore channelID beforeID)[k], ?_, hnonzero, hstored.id_le, ?_⟩
  · rw [List.take_succ_eq_append_getElem hk, List.reverse_append, List.reverse_singleton,
      List.singleton_append, List.head?_cons]
  · have hcut : db.messagesBefore channelID beforeID =
        (db.messagesBefore channelID beforeID).take k ++ (db.messagesBefore channelID beforeID)[k] ::
          (db.messagesBefore channelID beforeID).drop (k + 1) := by
      rw [← List.drop_eq_getElem_cons hk, List.take_append_drop]
    rw [messagesBefore_filter db channelID hnonzero (hbefore.imp id Nat.le_of_lt)]
    exact (descending_messagesBefore db channelID beforeID).filter_lt hcut

/-- With a call for every page the caller reads them all, whatever the others post. -/
theorem history_eq {db : Database} {channelID : UInt32} (limit : Int) (beforeID : Nat)
    (traffic : List (List Post)) (hsound : SoundMessages db)
    (hchannel : (db.getChannelByID channelID).isSome) :
    db.history channelID limit beforeID traffic =
      if Paging.pageCount (pageLimit limit) (db.messagesBefore channelID beforeID).length ≤ traffic.length
      then some ((Paging.pages (pageLimit limit) (db.messagesBefore channelID beforeID)).map List.reverse)
      else none := by
  have hL := pageLimit_pos limit
  induction traffic generalizing db beforeID with
  | nil =>
    have hone := Paging.one_le_pageCount (pageLimit limit) (db.messagesBefore channelID beforeID).length
    rw [history, if_neg (by simp only [List.length_nil]; omega)]
  | cons posts traffic ih =>
    by_cases hle : (db.messagesBefore channelID beforeID).length ≤ pageLimit limit
    · rw [history, getMessages_of_le hchannel hle, Paging.pageCount_of_le hL hle, Paging.pages_of_le hle]
      simp
    · have hlt := Nat.lt_of_not_le hle
      obtain ⟨first, hfirst, hnonzero, hseq, hrest⟩ :=
        messagesBefore_split db channelID beforeID hL hsound hlt
      have hgrown := grown_posts db posts
      have hnext : (posts.foldl post db).messagesBefore channelID first.id =
          (db.messagesBefore channelID beforeID).drop (pageLimit limit) := by
        rw [hgrown.messagesBefore_eq channelID hnonzero (by omega), hrest]
      have hchannel' : ((posts.foldl post db).getChannelByID channelID).isSome := by
        rw [getChannelByID, hgrown.channels]
        exact hchannel
      rw [history, getMessages_of_lt hchannel hlt]
      simp only [hfirst]
      rw [ih first.id (hsound.posts posts) hchannel', hnext, Paging.pages_of_lt hL hlt,
        Paging.pageCount_of_lt hL hlt, List.length_drop, List.length_cons]
      by_cases henough : Paging.pageCount (pageLimit limit)
          ((db.messagesBefore channelID beforeID).length - pageLimit limit) ≤ traffic.length
      · rw [if_pos henough, if_pos (by omega), Option.map_some, List.map_cons]
      · rw [if_neg henough, if_neg (by omega), Option.map_none]

/-- Without a cursor the queries see every row of the channel. -/
theorem messagesBefore_zero_perm {db : Database} (hsound : SoundMessages db) (channelID : UInt32) :
    ((db.messagesBefore channelID 0).map fun m => (m.id, MessageRow.mk m.channelID m.senderID m.content)).Perm
      (db.messageRows channelID) := by
  have hpairs : db.messages.rows.pairs.Nodup := List.Nodup.of_map _ (GoMap.nodup_pairs_keys _)
  rw [List.perm_ext_iff_of_nodup]
  · rintro ⟨id, row⟩
    simp only [messageRows, List.mem_map, List.mem_filter, GoMap.mem_pairs_iff, beq_iff_eq, Prod.mk.injEq]
    constructor
    · rintro ⟨m, hm, rfl, rfl⟩
      obtain ⟨⟨row, hrow, hjoin⟩, hchannel, -⟩ := mem_messagesBefore_iff.mp hm
      obtain ⟨sender, -, hm⟩ := joinSender_eq_some_iff.mp hjoin
      rw [hm]
      rw [hm] at hchannel
      exact ⟨hrow, hchannel⟩
    · rintro ⟨hrow, hchannel⟩
      obtain ⟨sender, hsender⟩ := Option.isSome_iff_exists.mp (hsound.senders id row hrow)
      refine ⟨⟨id, row.channelID, row.senderID, sender.username, row.content⟩, ?_, rfl, rfl⟩
      rw [mem_messagesBefore_iff]
      exact ⟨⟨row, hrow, joinSender_eq_some_iff.mpr ⟨sender, hsender, rfl⟩⟩, hchannel, .inl rfl⟩
  · apply List.Nodup.of_map Prod.fst
    rw [List.map_map]
    have hdescending := descending_messagesBefore db channelID 0
    exact List.pairwise_map.mpr (hdescending.imp fun h => Nat.ne_of_gt h)
  · exact hpairs.filter _

/-- Reading a channel's history page by page, while others post, gives the messages
that were there at the first call: every one once, in ascending order, on
`max 1 ⌈n / L⌉` pages of at most `L`, one call each. -/
theorem history_complete (changes : List Change) (channelID : UInt32) (limit : Int)
    (hchannel : ((changes.foldl change seeded).getChannelByID channelID).isSome) :
    ∃ pages : List (List Message),
      (pages.reverse.flatten.map fun m => (m.id, MessageRow.mk m.channelID m.senderID m.content)).Perm
          ((changes.foldl change seeded).messageRows channelID) ∧
        (∀ m ∈ pages.reverse.flatten, ∃ sender,
          (changes.foldl change seeded).users.get? m.senderID.toNat = some sender ∧
            m.senderName = sender.username) ∧
        pages.reverse.flatten.Pairwise (fun m m' => m.id < m'.id) ∧
        (∀ page ∈ pages, page.length ≤ if 1 ≤ limit ∧ limit ≤ 100 then limit.toNat else 50) ∧
        pages.length = Paging.pageCount (if 1 ≤ limit ∧ limit ≤ 100 then limit.toNat else 50)
          ((changes.foldl change seeded).messageRows channelID).length ∧
        ∀ traffic : List (List Post), (changes.foldl change seeded).history channelID limit 0 traffic =
          if pages.length ≤ traffic.length then some pages else none := by
  have hsound := soundMessages_seeded changes
  generalize changes.foldl change seeded = db at hsound hchannel
  have hlimit : (if 1 ≤ limit ∧ limit ≤ 100 then limit.toNat else 50) = pageLimit limit := by
    unfold pageLimit
    split_ifs <;> omega
  have hL := pageLimit_pos limit
  have hperm := messagesBefore_zero_perm hsound channelID
  have hcount := hperm.length_eq
  rw [List.length_map] at hcount
  have hflatten : ((Paging.pages (pageLimit limit) (db.messagesBefore channelID 0)).map
      List.reverse).reverse.flatten = (db.messagesBefore channelID 0).reverse := by
    rw [← List.reverse_flatten, Paging.flatten_pages hL]
  refine ⟨(Paging.pages (pageLimit limit) (db.messagesBefore channelID 0)).map List.reverse, ?_⟩
  rw [hflatten, hlimit, ← hcount, List.length_map, Paging.length_pages hL]
  refine ⟨?_, ?_, ?_, ?_, rfl, ?_⟩
  · rw [List.map_reverse]
    exact (List.reverse_perm _).trans hperm
  · intro m hm
    obtain ⟨⟨row, -, hjoin⟩, -⟩ := mem_messagesBefore_iff.mp (List.mem_reverse.mp hm)
    obtain ⟨sender, hsender, hm⟩ := joinSender_eq_some_iff.mp hjoin
    rw [hm]
    exact ⟨sender, hsender, rfl⟩
  · exact List.pairwise_reverse.mpr (descending_messagesBefore db channelID 0)
  · intro page hpage
    obtain ⟨page, hmem, rfl⟩ := List.mem_map.mp hpage
    rw [List.length_reverse]
    exact Paging.length_le_of_mem_pages hL hmem
  · intro traffic
    exact history_eq limit 0 traffic hsound hchannel

/-- Three messages of `general` on pages of two, while a fourth one is posted. -/
theorem history_complete_general :
    ∃ pages : List (List Message), pages.length = 2 ∧ ∀ traffic : List (List Post),
      (List.foldl change seeded [.createUser "ann" "hash", .createMessage ⟨1, 1, "a"⟩,
        .createMessage ⟨1, 1, "b"⟩, .createMessage ⟨1, 1, "c"⟩]).history 1 2 0
          ([⟨1, 1, "d"⟩] :: traffic) = if 1 ≤ traffic.length then some pages else none := by
  obtain ⟨pages, -, -, -, -, hlength, hhistory⟩ := history_complete
    [.createUser "ann" "hash", .createMessage ⟨1, 1, "a"⟩, .createMessage ⟨1, 1, "b"⟩,
      .createMessage ⟨1, 1, "c"⟩] 1 2 rfl
  have htwo : pages.length = 2 := hlength
  refine ⟨pages, htwo, fun traffic => ?_⟩
  rw [hhistory, htwo, List.length_cons]
  by_cases hmore : 1 ≤ traffic.length
  · rw [if_pos hmore, if_pos (by omega)]
  · rw [if_neg hmore, if_neg (by omega)]

end Database

end low_latency_voice.storage
