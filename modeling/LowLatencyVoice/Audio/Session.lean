import Mathlib.Logic.Function.Basic
import Mathlib.Order.Basic
import LowLatencyVoice.Lib.GoMap
import LowLatencyVoice.Model.Voice
import LowLatencyVoice.Audio.Packet

open low_latency_voice.model

namespace low_latency_voice.audio

/-- An active voice endpoint. Addresses are compared by their `String()`, so
any type with decidable equality stands for `net.Addr`; `none` is nil. -/
structure Session (Addr : Type) where
  userID : UInt32
  channelID : UInt32
  ssrc : UInt32
  addr : Option Addr
  lastSeen : Time
  serverMuted : Bool
  serverDeafened : Bool
  isSpeaking : Bool
  energyLevel : UInt8
  deriving DecidableEq

variable {Addr : Type}

/-- `NewSession`. -/
def newSession (now : Time) (userID channelID ssrc : UInt32) (addr : Option Addr) : Session Addr where
  userID
  channelID
  ssrc
  addr
  lastSeen := now
  serverMuted := false
  serverDeafened := false
  isSpeaking := false
  energyLevel := 0

instance : Inhabited (Session Addr) := ⟨newSession 0 0 0 0 none⟩

namespace Session

def setAddr (s : Session Addr) (now : Time) (addr : Option Addr) : Session Addr :=
  { s with addr, lastSeen := now }

def touch (s : Session Addr) (now : Time) : Session Addr := { s with lastSeen := now }

def setServerMute (s : Session Addr) (muted : Bool) : Session Addr := { s with serverMuted := muted }

def setServerDeafen (s : Session Addr) (deafened : Bool) : Session Addr :=
  { s with serverDeafened := deafened }

/-- `UpdateSpeakingState`: whether the speaking bit changed or the energy moved
by at least three levels since the last packet. -/
def updateSpeakingState (s : Session Addr) (now : Time) (speaking : Bool) (energy : UInt8) :
    Session Addr × Bool :=
  let diff := ((energy.toNat : Int) - s.energyLevel.toNat).natAbs
  ({ s with isSpeaking := speaking, energyLevel := energy, lastSeen := now },
    s.isSpeaking != speaking || decide (3 ≤ diff))

end Session

/-- A token announced by `join_voice` and not yet used. -/
structure PendingToken where
  token : Token
  userID : UInt32
  channelID : UInt32
  ssrc : UInt32
  expiresAt : Time
  deriving DecidableEq, Repr

/-- The address of a `Session` object. The three indexes share objects, so a
field written through one index is seen through the others. -/
abbrev SessionRef := Nat

/-- `SessionManager`, with the heap its session pointers point into. -/
structure SessionManager (Addr : Type) where
  byUser : GoMap UInt32 SessionRef
  byAddr : GoMap Addr SessionRef
  byChannel : GoMap UInt32 (GoMap UInt32 SessionRef)
  pendingTokens : GoMap Token PendingToken
  heap : SessionRef → Session Addr
  nextRef : SessionRef

variable [DecidableEq Addr]

/-- `if addr != nil { delete(byAddr, addr.String()) }`. -/
def deleteAddr (byAddr : GoMap Addr SessionRef) : Option Addr → GoMap Addr SessionRef
  | some a => byAddr.delete a
  | none => byAddr

/-- `if addr != nil { byAddr[addr.String()] = ref }`. -/
def assignAddr (byAddr : GoMap Addr SessionRef) (ref : SessionRef) : Option Addr → GoMap Addr SessionRef
  | some a => byAddr.set a ref
  | none => byAddr

namespace SessionManager

/-- `NewSessionManager`. -/
def new : SessionManager Addr := ⟨∅, ∅, ∅, ∅, fun _ => default, 0⟩

/-- A fresh session object. -/
def alloc (sm : SessionManager Addr) (s : Session Addr) : SessionManager Addr × SessionRef :=
  ({ sm with heap := Function.update sm.heap sm.nextRef s, nextRef := sm.nextRef + 1 }, sm.nextRef)

/-- A write through a session pointer. -/
def modify (sm : SessionManager Addr) (ref : SessionRef) (f : Session Addr → Session Addr) :
    SessionManager Addr :=
  { sm with heap := Function.update sm.heap ref (f (sm.heap ref)) }

def registerPending (sm : SessionManager Addr) (token : Token) (userID channelID ssrc : UInt32)
    (expiresAt : Time) : SessionManager Addr :=
  { sm with pendingTokens := sm.pendingTokens.set token ⟨token, userID, channelID, ssrc, expiresAt⟩ }

/-- `RegisterSession`: the user's old session leaves the indexes under the
address and channel it has now, and the new object takes its place. -/
def registerSession (sm : SessionManager Addr) (ref : SessionRef) : SessionManager Addr :=
  let session := sm.heap ref
  match sm.byUser.get? session.userID with
  | some old =>
    { sm with
      byUser := sm.byUser.set session.userID ref
      byAddr := assignAddr (deleteAddr sm.byAddr (sm.heap old).addr) ref session.addr
      byChannel := (sm.byChannel.drop₂ (sm.heap old).channelID session.userID).put₂
        session.channelID session.userID ref }
  | none =>
    { sm with
      byUser := sm.byUser.set session.userID ref
      byAddr := assignAddr sm.byAddr ref session.addr
      byChannel := sm.byChannel.put₂ session.channelID session.userID ref }

/-- Allocates a session and registers it, as `RegisterSession(NewSession(..))`
does and the tail of `ActivatePending` spells out again. -/
def install (sm : SessionManager Addr) (s : Session Addr) : SessionManager Addr :=
  let (sm, ref) := sm.alloc s
  sm.registerSession ref

/-- `ActivatePending`. An expired entry is deleted, a mismatched one is kept. -/
def activatePending (sm : SessionManager Addr) (now : Time) (token : Token)
    (userID channelID : UInt32) (addr : Option Addr) :
    SessionManager Addr × Except AudioError (Session Addr) :=
  match sm.pendingTokens.get? token with
  | none => (sm, .error .unauthorizedSession)
  | some pt =>
    if pt.expiresAt < now then
      ({ sm with pendingTokens := sm.pendingTokens.delete token }, .error .unauthorizedSession)
    else if pt.userID ≠ userID ∨ pt.channelID ≠ channelID then (sm, .error .channelMismatch)
    else
      let session := newSession now userID channelID pt.ssrc addr
      let sm := { sm with pendingTokens := sm.pendingTokens.delete token }
      (sm.install session, .ok session)

def getByUser (sm : SessionManager Addr) (userID : UInt32) : Option SessionRef :=
  sm.byUser.get? userID

def getByAddr (sm : SessionManager Addr) : Option Addr → Option SessionRef
  | some a => sm.byAddr.get? a
  | none => none

def updateAddr (sm : SessionManager Addr) (now : Time) (userID : UInt32) (newAddr : Option Addr) :
    SessionManager Addr :=
  match sm.byUser.get? userID with
  | none => sm
  | some ref =>
    let sm' := sm.modify ref fun s => s.setAddr now newAddr
    { sm' with byAddr := assignAddr (deleteAddr sm.byAddr (sm.heap ref).addr) ref newAddr }

/-- Looks the user's session up and writes through the pointer found. -/
def withSession (sm : SessionManager Addr) (userID : UInt32) (f : Session Addr → Session Addr) :
    SessionManager Addr :=
  match sm.byUser.get? userID with
  | none => sm
  | some ref => sm.modify ref f

def setServerMute (sm : SessionManager Addr) (userID : UInt32) (muted : Bool) : SessionManager Addr :=
  sm.withSession userID fun s => s.setServerMute muted

def setServerDeafen (sm : SessionManager Addr) (userID : UInt32) (deafened : Bool) :
    SessionManager Addr :=
  sm.withSession userID fun s => s.setServerDeafen deafened

def moveMember (sm : SessionManager Addr) (userID toChannelID : UInt32) : SessionManager Addr :=
  match sm.byUser.get? userID with
  | none => sm
  | some ref =>
    let sm' := sm.modify ref fun s => { s with channelID := toChannelID }
    { sm' with
      byChannel := (sm.byChannel.prune₂ (sm.heap ref).channelID userID).put₂ toChannelID userID ref }

/-- `RevokePending`. -/
def revokePending (sm : SessionManager Addr) (userID : UInt32) : SessionManager Addr :=
  { sm with pendingTokens := sm.pendingTokens.deleteWhere fun _ pt => pt.userID == userID }

/-- Takes the session of `userID` out of the three indexes, as both
`RemoveSession` and the loop of `CleanStaleSessions` do. -/
def unlink (sm : SessionManager Addr) (userID : UInt32) (ref : SessionRef) : SessionManager Addr :=
  { sm with
    byUser := sm.byUser.delete userID
    byAddr := deleteAddr sm.byAddr (sm.heap ref).addr
    byChannel := sm.byChannel.prune₂ (sm.heap ref).channelID userID }

/-- `RemoveSession`: purges the user's pending tokens even without a session. -/
def removeSession (sm : SessionManager Addr) (userID : UInt32) : SessionManager Addr :=
  let sm := sm.revokePending userID
  match sm.byUser.get? userID with
  | none => sm
  | some ref => sm.unlink userID ref

/-- `GetChannelPeers`: the other members of the room that have an address. -/
def getChannelPeers (sm : SessionManager Addr) (channelID excludeUserID : UInt32) : List SessionRef :=
  match sm.byChannel.get? channelID with
  | none => []
  | some chMap =>
    (chMap.pairs.filter fun e => e.1 != excludeUserID && (sm.heap e.2).addr.isSome).map Prod.snd

def count (sm : SessionManager Addr) : Nat := sm.byUser.len

/-- One turn of the `CleanStaleSessions` loop. -/
def evictIfStale (now maxIdle : Time) (acc : SessionManager Addr × List UInt32)
    (e : UInt32 × SessionRef) : SessionManager Addr × List UInt32 :=
  if maxIdle < now - (acc.1.heap e.2).lastSeen then (acc.1.unlink e.1 e.2, acc.2 ++ [e.1]) else acc

/-- `CleanStaleSessions`: drops idle sessions and expired pending tokens, and
returns the evicted users. -/
def cleanStaleSessions (sm : SessionManager Addr) (now maxIdle : Time) :
    SessionManager Addr × List UInt32 :=
  let (sm, removed) := sm.byUser.pairs.foldl (evictIfStale now maxIdle) (sm, [])
  ({ sm with pendingTokens := sm.pendingTokens.deleteWhere fun _ pt => decide (pt.expiresAt < now) },
    removed)

/-- The session a user has now. -/
def session? (sm : SessionManager Addr) (userID : UInt32) : Option (Session Addr) :=
  (sm.byUser.get? userID).map sm.heap

end SessionManager

end low_latency_voice.audio
