import Mathlib.Data.List.Basic
import LowLatencyVoice.Lib.Table
import LowLatencyVoice.Model.User

open low_latency_voice.model

namespace low_latency_voice.storage

/-- A row of `users`. -/
structure UserRow where
  username : String
  passwordHash : String
  isActive : Bool
  deriving DecidableEq, Repr

/-- A row of `roles`. -/
structure Role where
  id : UInt32
  name : String
  permissions : Permission
  position : Int
  isDefault : Bool
  deriving DecidableEq, Repr

/-- A row of `channels`. -/
structure ChannelRow where
  name : String
  type : String
  category : String
  position : Int
  bitrate : Int
  userLimit : Int
  deriving DecidableEq, Repr

/-- A row of `messages`. -/
structure MessageRow where
  channelID : UInt32
  senderID : UInt32
  content : String
  deriving DecidableEq, Repr

/-- The tables of the accounts and of the text channels. Row ids are 64 bits wide;
`userRoles` holds when each pair was assigned. -/
structure Database where
  users : Table UserRow
  roles : List Role
  userRoles : GoMap Nat (GoMap UInt32 Time)
  channels : Table ChannelRow
  messages : Table MessageRow

/-- The rows the first migration seeds. -/
def Database.seeded : Database where
  users := .empty
  roles := [⟨1, "Admin", 0xFFFFFFFF, 100, false⟩, ⟨2, "Moderator", permModerator, 50, false⟩,
    ⟨3, "Member", permDefaultMember, 0, true⟩]
  userRoles := ∅
  channels := (((Table.empty.insert ⟨"general", "text", "Text Channels", 1, 64000, 0⟩).1.insert
    ⟨"lounge", "voice", "Voice Channels", 1, 64000, 15⟩).1.insert
    ⟨"gaming", "voice", "Voice Channels", 2, 64000, 15⟩).1
  messages := .empty

namespace Database

/-- `COLLATE NOCASE`: equal up to the case of ASCII letters. -/
def nocase (a b : String) : Bool := a.toList.map Char.toLower == b.toList.map Char.toLower

/-- `CreateUser`, with the id Go reads from the new row: its low 32 bits. The
unique index refuses a name that is taken. -/
def createUser (db : Database) (username passwordHash : String) : Option (Database × UInt32) :=
  if db.users.rows.pairs.any (fun e => nocase e.2.username username) then none
  else
    let (users, id) := db.users.insert { username, passwordHash, isActive := true }
    some ({ db with users }, UInt32.ofNat id)

/-- The row `GetUserByUsername` finds. -/
def getUserByUsername (db : Database) (username : String) : Option (Nat × UserRow) :=
  db.users.rows.pairs.find? fun e => nocase e.2.username username

/-- `GetRoleByName`. -/
def getRoleByName (db : Database) (name : String) : Option Role :=
  db.roles.find? fun role => role.name == name

/-- `GetDefaultRole`: of the default roles the one in the lowest position. -/
def getDefaultRole (db : Database) : Option Role :=
  (db.roles.filter Role.isDefault).minOn? Role.position

/-- `AssignUserRole`: the foreign keys want both rows, and a pair that is there
stays as it is. -/
def assignUserRole (db : Database) (now : Time) (userID roleID : UInt32) : Database :=
  if (db.users.get? userID.toNat).isSome ∧ db.roles.any (fun role => role.id == roleID) ∧
      db.userRoles.get₂ userID.toNat roleID = none then
    { db with userRoles := db.userRoles.put₂ userID.toNat roleID now }
  else db

/-- `GetUserRoles`: a user without a role has the default one. -/
def getUserRoles (db : Database) (userID : UInt32) : List Role :=
  let assigned := db.roles.filter fun role => (db.userRoles.get₂ userID.toNat role.id).isSome
  if assigned = [] then db.getDefaultRole.toList else assigned

/-- `GetUserWithRoles`: user 1 has every permission. -/
def getUserWithRoles (db : Database) (userID : UInt32) : Option User :=
  match db.users.get? userID.toNat with
  | none => none
  | some row =>
    let perms := (db.getUserRoles userID).foldl (fun perms role => perms ||| role.permissions) 0
    some ⟨userID, row.username, if userID = 1 then 0xFFFFFFFF else perms⟩

/-- `CreateChannel`, with the id Go reads from the new row. Its caller has filled
in the defaults. -/
def createChannel (db : Database) (row : ChannelRow) : Option (Database × UInt32) :=
  if row.type = "text" ∨ row.type = "voice" then
    let (channels, id) := db.channels.insert row
    some ({ db with channels }, UInt32.ofNat id)
  else none

/-- `GetChannelByID`. -/
def getChannelByID (db : Database) (channelID : UInt32) : Option ChannelRow :=
  db.channels.get? channelID.toNat

/-- `DeleteChannel`: the messages of the channel go with it. -/
def deleteChannel (db : Database) (channelID : UInt32) : Option Database :=
  if db.getChannelByID channelID = none then none
  else
    some { db with
      channels := db.channels.delete channelID.toNat
      messages := db.messages.filter fun _ message => message.channelID != channelID }

inductive MessageError where
  | channelNotFound
  | notText
  | userNotFound
  deriving DecidableEq, Repr

/-- `CreateMessage`, with the id of the message and the sender's name. -/
def createMessage (db : Database) (channelID senderID : UInt32) (content : String) :
    Except MessageError (Database × Nat × String) :=
  match db.getChannelByID channelID with
  | none => .error .channelNotFound
  | some channel =>
    if channel.type ≠ "text" then .error .notText
    else
      match db.users.get? senderID.toNat with
      | none => .error .userNotFound
      | some sender =>
        let (messages, id) := db.messages.insert { channelID, senderID, content }
        .ok ({ db with messages }, id, sender.username)

end Database

end low_latency_voice.storage
