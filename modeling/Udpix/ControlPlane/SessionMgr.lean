/-
The table of sessions.

The UUID, the key and the nonce of a session come from the random generator and
are arguments, as is the time.
-/

import Udpix.Library.AssocMap
import Udpix.Protocol.Session

namespace Udpix.ControlPlane

open Protocol

structure SessionInfo where
  sessionUuid : String
  numericId : UInt32
  username : String
  sessionKey : Vector UInt8 32
  sessionNonce : Vector UInt8 12
  maxBps : UInt64
  createdAt : Instant
  lastHeartbeat : Instant
deriving DecidableEq

structure Draw where
  keyBytes : Vector UInt8 32
  nonceBytes : Vector UInt8 12
  sessionUuid : String

structure SessionManager where
  sessions : AssocMap String SessionInfo
  nextId : UInt32
  sessionTtl : Nat

namespace SessionManager

def new (sessionTtl : Nat) : SessionManager :=
  { sessions := ∅
    nextId := 1
    sessionTtl := sessionTtl }

def create (manager : SessionManager) (draw : Draw) (now : Instant) (username : String)
    (maxBps : UInt64) : SessionInfo × SessionManager :=
  let info :=
    { sessionUuid := draw.sessionUuid
      numericId := manager.nextId
      username := username
      sessionKey := draw.keyBytes
      sessionNonce := draw.nonceBytes
      maxBps := maxBps
      createdAt := now
      lastHeartbeat := now }
  (info,
    { manager with
      sessions := manager.sessions.insert draw.sessionUuid info
      nextId := manager.nextId + 1 })

def getClone (manager : SessionManager) (uuid : String) : Option SessionInfo :=
  manager.sessions.lookup uuid

def heartbeat (manager : SessionManager) (now : Instant) (uuid : String) :
    Bool × SessionManager :=
  match manager.sessions.lookup uuid with
  | some _ =>
      (true,
        { manager with
          sessions := AssocMap.modify uuid (fun info => { info with lastHeartbeat := now })
            manager.sessions })
  | none => (false, manager)

def terminate (manager : SessionManager) (uuid : String) : Bool × SessionManager :=
  ((manager.sessions.lookup uuid).isSome,
    { manager with sessions := manager.sessions.erase uuid })

def alive (manager : SessionManager) (now : Instant) (info : SessionInfo) : Bool :=
  now.elapsed info.lastHeartbeat < manager.sessionTtl

def reapExpired (manager : SessionManager) (now : Instant) : Nat × SessionManager :=
  let kept := AssocMap.retain (fun _ info => manager.alive now info) manager.sessions
  (AssocMap.size manager.sessions - AssocMap.size kept, { manager with sessions := kept })

theorem getClone_create (manager : SessionManager) (draw : Draw) (now : Instant)
    (username : String) (maxBps : UInt64) (uuid : String) :
    (manager.create draw now username maxBps).2.getClone uuid =
      if uuid = draw.sessionUuid then some (manager.create draw now username maxBps).1
      else manager.getClone uuid := by
  unfold create getClone
  split
  · rename_i same
    subst same
    exact AList.lookup_insert _
  · rename_i differs
    exact AList.lookup_insert_ne differs

theorem getClone_heartbeat (manager : SessionManager) (now : Instant) (named uuid : String) :
    (manager.heartbeat now named).2.getClone uuid =
      if uuid = named then
        (manager.getClone uuid).map (fun info => { info with lastHeartbeat := now })
      else manager.getClone uuid := by
  unfold heartbeat getClone
  cases found : manager.sessions.lookup named with
  | some info => exact AssocMap.lookup_modify named uuid _ manager.sessions
  | none =>
      by_cases same : uuid = named
      · rw [if_pos same, same]
        dsimp only
        rw [found]
        rfl
      · rw [if_neg same]

theorem getClone_terminate (manager : SessionManager) (named uuid : String) :
    (manager.terminate named).2.getClone uuid =
      if uuid = named then none else manager.getClone uuid := by
  unfold terminate getClone
  split
  · rename_i same
    subst same
    exact AList.lookup_erase _ _
  · rename_i differs
    exact AList.lookup_erase_ne differs

theorem getClone_reapExpired (manager : SessionManager) (now : Instant) (uuid : String) :
    (manager.reapExpired now).2.getClone uuid =
      (manager.getClone uuid).filter (manager.alive now) :=
  AssocMap.lookup_retain _ manager.sessions uuid

end SessionManager

end Udpix.ControlPlane
