/-
The numeric ids of live sessions.

The counter behind the ids has 32 bits and wraps, and nothing looks at the ids
that are still in use.  Two sessions in the table get one id exactly when the
second is created a multiple of `2 ^ 32` creations after the first while the
first is still there.
-/

import Udpix.ControlPlane.SessionMgr
import Mathlib.Data.List.Induction
import Mathlib.Data.List.Nodup

namespace Udpix.ControlPlane

open Protocol

namespace SessionManager

inductive Call where
  | create (draw : Draw) (now : Instant) (username : String) (maxBps : UInt64)
  | heartbeat (now : Instant) (uuid : String)
  | terminate (uuid : String)
  | reapExpired (now : Instant)

def apply (manager : SessionManager) : Call → SessionManager
  | .create draw now username maxBps => (manager.create draw now username maxBps).2
  | .heartbeat now uuid => (manager.heartbeat now uuid).2
  | .terminate uuid => (manager.terminate uuid).2
  | .reapExpired now => (manager.reapExpired now).2

def run (sessionTtl : Nat) (calls : List Call) : SessionManager :=
  calls.foldl apply (new sessionTtl)

def Call.created : Call → Option String
  | .create draw _ _ _ => some draw.sessionUuid
  | .heartbeat _ _ => none
  | .terminate _ => none
  | .reapExpired _ => none

def creations (calls : List Call) : List String := calls.filterMap Call.created

/-- Different sessions in the table have different numeric ids. -/
def DistinctIds (manager : SessionManager) : Prop :=
  ∀ first second firstInfo secondInfo, manager.getClone first = some firstInfo →
    manager.getClone second = some secondInfo → first ≠ second →
    firstInfo.numericId ≠ secondInfo.numericId

/-- No session is created a multiple of `2 ^ 32` creations after one that is
still in the table. -/
def NoneOutlivesCounter (sessionTtl : Nat) (calls : List Call) : Prop :=
  ∀ before call uuid, before ++ [call] <+: calls → call.created = some uuid →
    ∀ index older, (creations before)[index]? = some older →
      (run sessionTtl before).getClone older ≠ none →
      ¬ 2 ^ 32 ∣ (creations before).length - index

theorem run_concat (sessionTtl : Nat) (before : List Call) (call : Call) :
    run sessionTtl (before ++ [call]) = (run sessionTtl before).apply call := by
  rw [run, List.foldl_append, List.foldl_cons, List.foldl_nil, run]

/-! ### One call -/

/-- A call that creates no session adds nothing to the table and keeps the ids
and the counter. -/
structure Keeps (before after : SessionManager) : Prop where
  nextId : after.nextId = before.nextId
  entries : ∀ uuid info, after.getClone uuid = some info →
    ∃ old, before.getClone uuid = some old ∧ info.numericId = old.numericId

theorem keeps_of_not_created (manager : SessionManager) {call : Call}
    (notCreated : call.created = none) : Keeps manager (manager.apply call) := by
  cases call with
  | create draw now username maxBps => cases notCreated
  | heartbeat now named =>
      constructor
      · rw [apply, heartbeat]
        split <;> rfl
      · intro uuid info found
        rw [apply, getClone_heartbeat] at found
        split at found
        · obtain ⟨old, present, rfl⟩ := Option.map_eq_some_iff.mp found
          exact ⟨old, present, rfl⟩
        · exact ⟨info, found, rfl⟩
  | terminate named =>
      constructor
      · rfl
      · intro uuid info found
        rw [apply, getClone_terminate] at found
        split at found
        · cases found
        · exact ⟨info, found, rfl⟩
  | reapExpired now =>
      constructor
      · rfl
      · intro uuid info found
        rw [apply, getClone_reapExpired] at found
        obtain ⟨present, _⟩ := Option.filter_eq_some_iff.mp found
        exact ⟨info, present, rfl⟩

theorem Keeps.distinctIds {before after : SessionManager} (keeps : Keeps before after)
    (distinct : DistinctIds before) : DistinctIds after := by
  intro first second firstInfo secondInfo firstFound secondFound different
  obtain ⟨firstOld, firstPresent, firstId⟩ := keeps.entries first firstInfo firstFound
  obtain ⟨secondOld, secondPresent, secondId⟩ := keeps.entries second secondInfo secondFound
  rw [firstId, secondId]
  exact distinct first second firstOld secondOld firstPresent secondPresent different

/-! ### Ids and positions -/

theorem ofNat_eq_ofNat_iff {index later : Nat} (order : index ≤ later) :
    UInt32.ofNat (1 + index) = UInt32.ofNat (1 + later) ↔ 2 ^ 32 ∣ later - index := by
  have sameRest : UInt32.ofNat (1 + index) = UInt32.ofNat (1 + later) ↔
      (1 + index) % 2 ^ 32 = (1 + later) % 2 ^ 32 := by
    rw [← UInt32.toNat_inj, UInt32.toNat_ofNat', UInt32.toNat_ofNat']
  rw [sameRest]
  omega

theorem creations_concat (before : List Call) (call : Call) :
    creations (before ++ [call]) = creations before ++ call.created.toList := by
  rw [creations, List.filterMap_append, creations]
  cases created : call.created with
  | none => rw [List.filterMap_cons_none created, List.filterMap_nil, Option.toList_none]
  | some uuid => rw [List.filterMap_cons_some created, List.filterMap_nil, Option.toList_some]

/-- Each session has the id of its position among the creations. -/
structure Numbered (order : List String) (manager : SessionManager) : Prop where
  nextId : manager.nextId = UInt32.ofNat (1 + order.length)
  entries : ∀ uuid info, manager.getClone uuid = some info →
    ∃ index, order[index]? = some uuid ∧ info.numericId = UInt32.ofNat (1 + index)

theorem Numbered.keeps {order : List String} {before after : SessionManager}
    (numbered : Numbered order before) (keeps : Keeps before after) : Numbered order after := by
  constructor
  · rw [keeps.nextId, numbered.nextId]
  · intro uuid info found
    obtain ⟨old, present, sameId⟩ := keeps.entries uuid info found
    obtain ⟨index, position, isId⟩ := numbered.entries uuid old present
    exact ⟨index, position, sameId.trans isId⟩

theorem Numbered.create {order : List String} {manager : SessionManager}
    (numbered : Numbered order manager) (draw : Draw) (now : Instant) (username : String)
    (maxBps : UInt64) :
    Numbered (order ++ [draw.sessionUuid]) (manager.create draw now username maxBps).2 := by
  constructor
  · have advanced : (manager.create draw now username maxBps).2.nextId = manager.nextId + 1 := rfl
    rw [advanced, numbered.nextId, List.length_append, List.length_singleton, ← Nat.add_assoc,
      UInt32.ofNat_add (1 + order.length) 1]
    rfl
  · intro uuid info found
    rw [getClone_create] at found
    split at found
    · rename_i isNew
      obtain rfl := Option.some.inj found
      rw [isNew]
      exact ⟨order.length, List.getElem?_concat_length, numbered.nextId⟩
    · obtain ⟨index, position, isId⟩ := numbered.entries uuid info found
      obtain ⟨inside, _⟩ := List.getElem?_eq_some_iff.mp position
      exact ⟨index, (List.getElem?_append_left inside).trans position, isId⟩

theorem numbered_run (sessionTtl : Nat) (calls : List Call) :
    Numbered (creations calls) (run sessionTtl calls) := by
  induction calls using List.reverseRecOn with
  | nil =>
      constructor
      · rfl
      · intro uuid info found
        cases found
  | append_singleton before call ih =>
      rw [run_concat, creations_concat]
      cases call with
      | create draw now username maxBps => exact ih.create draw now username maxBps
      | heartbeat now uuid =>
          exact (List.append_nil (creations before)).symm ▸ ih.keeps (keeps_of_not_created _ rfl)
      | terminate uuid =>
          exact (List.append_nil (creations before)).symm ▸ ih.keeps (keeps_of_not_created _ rfl)
      | reapExpired now =>
          exact (List.append_nil (creations before)).symm ▸ ih.keeps (keeps_of_not_created _ rfl)

/-! ### Whole runs -/

/-- A new session meets the ids in the table unless one of them has come round. -/
theorem distinctIds_create {sessionTtl : Nat} {before : List Call} {draw : Draw} {now : Instant}
    {username : String} {maxBps : UInt64} (distinct : DistinctIds (run sessionTtl before))
    (notRound : ∀ index older, (creations before)[index]? = some older →
      (run sessionTtl before).getClone older ≠ none →
      ¬ 2 ^ 32 ∣ (creations before).length - index) :
    DistinctIds ((run sessionTtl before).create draw now username maxBps).2 := by
  have numbered := numbered_run sessionTtl before
  have newId : ((run sessionTtl before).create draw now username maxBps).1.numericId =
      UInt32.ofNat (1 + (creations before).length) := numbered.nextId
  -- an id of the table against the new one
  have apart : ∀ older info, (run sessionTtl before).getClone older = some info →
      info.numericId ≠ ((run sessionTtl before).create draw now username maxBps).1.numericId := by
    intro older info present sameId
    obtain ⟨index, position, isId⟩ := numbered.entries older info present
    obtain ⟨inside, _⟩ := List.getElem?_eq_some_iff.mp position
    rw [isId, newId, ofNat_eq_ofNat_iff (Nat.le_of_lt inside)] at sameId
    exact notRound index older position (Option.ne_none_iff_exists'.mpr ⟨info, present⟩) sameId
  intro first second firstInfo secondInfo firstFound secondFound different
  rw [getClone_create] at firstFound secondFound
  split at firstFound
  · rename_i firstNew
    obtain rfl := Option.some.inj firstFound
    rw [if_neg (fun secondNew => different (firstNew.trans secondNew.symm))] at secondFound
    exact (apart second secondInfo secondFound).symm
  · split at secondFound
    · obtain rfl := Option.some.inj secondFound
      exact apart first firstInfo firstFound
    · exact distinct first second firstInfo secondInfo firstFound secondFound different

/-- A session that is created when the counter has come round to a session in
the table gets its id. -/
theorem not_distinctIds_create {sessionTtl : Nat} {before : List Call} {draw : Draw}
    {now : Instant} {username : String} {maxBps : UInt64}
    (fresh : (creations before ++ [draw.sessionUuid]).Nodup) {index : Nat} {older : String}
    (position : (creations before)[index]? = some older)
    (live : (run sessionTtl before).getClone older ≠ none)
    (round : 2 ^ 32 ∣ (creations before).length - index) :
    ¬ DistinctIds ((run sessionTtl before).create draw now username maxBps).2 := by
  intro distinct
  obtain ⟨distinctBefore, _, newOnce⟩ := List.nodup_append.mp fresh
  have numbered := numbered_run sessionTtl before
  obtain ⟨info, present⟩ := Option.ne_none_iff_exists'.mp live
  obtain ⟨found, foundPosition, isId⟩ := numbered.entries older info present
  obtain ⟨inside, atIndex⟩ := List.getElem?_eq_some_iff.mp position
  obtain ⟨foundInside, atFound⟩ := List.getElem?_eq_some_iff.mp foundPosition
  have sameIndex : found = index :=
    (distinctBefore.getElem_inj_iff).mp (atFound.trans atIndex.symm)
  have different : older ≠ draw.sessionUuid :=
    newOnce older (List.mem_of_getElem? position) draw.sessionUuid (List.mem_singleton.mpr rfl)
  have sameId : info.numericId =
      ((run sessionTtl before).create draw now username maxBps).1.numericId := by
    rw [isId, sameIndex, (ofNat_eq_ofNat_iff (Nat.le_of_lt inside)).mpr round]
    exact numbered.nextId.symm
  apply distinct older draw.sessionUuid info _ _ _ different sameId
  · rw [getClone_create, if_neg different]
    exact present
  · rw [getClone_create, if_pos rfl]

/-- The ids of the table are distinct after every call exactly when no session is
created while one is in the table that was created a multiple of `2 ^ 32`
creations before. -/
theorem distinctIds_run_iff (sessionTtl : Nat) (calls : List Call)
    (fresh : (creations calls).Nodup) :
    (∀ before, before <+: calls → DistinctIds (run sessionTtl before)) ↔
      NoneOutlivesCounter sessionTtl calls := by
  constructor
  · intro distinct before call uuid initial created index older position live round
    cases call with
    | heartbeat now named => cases created
    | terminate named => cases created
    | reapExpired now => cases created
    | create draw now username maxBps =>
        have freshBefore : (creations before ++ [draw.sessionUuid]).Nodup := by
          obtain ⟨after, rfl⟩ := initial
          rw [creations, List.filterMap_append, ← creations, creations_concat] at fresh
          exact (List.nodup_append.mp fresh).1
        have distinctAfter := distinct _ initial
        rw [run_concat] at distinctAfter
        exact not_distinctIds_create freshBefore position live round distinctAfter
  · intro noneOutlives before
    induction before using List.reverseRecOn with
    | nil =>
        intro _ first second firstInfo secondInfo firstFound
        cases firstFound
    | append_singleton before call ih =>
        intro initial
        have distinct := ih ((List.prefix_append before [call]).trans initial)
        rw [run_concat]
        cases call with
        | create draw now username maxBps =>
            exact distinctIds_create distinct (noneOutlives before _ draw.sessionUuid initial rfl)
        | heartbeat now uuid => exact (keeps_of_not_created _ rfl).distinctIds distinct
        | terminate uuid => exact (keeps_of_not_created _ rfl).distinctIds distinct
        | reapExpired now => exact (keeps_of_not_created _ rfl).distinctIds distinct

/-! ### More creations than ids -/

def hexLower : Nat → Nat → List Char
  | 0, _ => []
  | width + 1, value => hexLower width (value / 16) ++ [Nat.digitChar (value % 16)]

theorem length_hexLower (width value : Nat) : (hexLower width value).length = width := by
  induction width generalizing value with
  | zero => rfl
  | succ width ih => rw [hexLower, List.length_append, ih, List.length_singleton]

theorem digitChar_injective : ∀ first second : Fin 16,
    Nat.digitChar first = Nat.digitChar second → first = second := by
  decide

theorem hexLower_injective {width first second : Nat} (firstFits : first < 16 ^ width)
    (secondFits : second < 16 ^ width) (same : hexLower width first = hexLower width second) :
    first = second := by
  induction width generalizing first second with
  | zero => omega
  | succ width ih =>
      rw [hexLower, hexLower] at same
      obtain ⟨sameHigh, sameLow⟩ := List.append_inj same (by
        rw [length_hexLower, length_hexLower])
      have high : first / 16 = second / 16 := by
        apply ih _ _ sameHigh
        · exact Nat.div_lt_of_lt_mul (by rw [Nat.pow_succ'] at firstFits; exact firstFits)
        · exact Nat.div_lt_of_lt_mul (by rw [Nat.pow_succ'] at secondFits; exact secondFits)
      have low : first % 16 = second % 16 :=
        Fin.mk.inj (digitChar_injective ⟨first % 16, Nat.mod_lt _ (by omega)⟩
          ⟨second % 16, Nat.mod_lt _ (by omega)⟩ (List.cons.inj sameLow).1)
      omega

def uuidOf (number : Nat) : String :=
  String.ofList ("00000000-0000-4000-8000-".toList ++ hexLower 12 number)

theorem uuidOf_injective {first second : Nat} (firstFits : first < 16 ^ 12)
    (secondFits : second < 16 ^ 12) (same : uuidOf first = uuidOf second) : first = second := by
  have sameChars := String.ofList_inj.mp same
  exact hexLower_injective firstFits secondFits (List.append_cancel_left sameChars)

def login (number : Nat) : Call :=
  .create
    { keyBytes := Vector.replicate 32 0
      nonceBytes := Vector.replicate 12 0
      sessionUuid := uuidOf number }
    0 "alice" 10000000

def logins (count : Nat) : List Call := (List.range count).map login

theorem logins_succ (count : Nat) : logins (count + 1) = logins count ++ [login count] := by
  rw [logins, List.range_succ, List.map_append, List.map_singleton, logins]

theorem creations_logins (count : Nat) :
    creations (logins count) = (List.range count).map uuidOf := by
  induction count with
  | zero => rfl
  | succ count ih =>
      rw [logins_succ, creations_concat, ih, List.range_succ, List.map_append]
      rfl

theorem creations_logins_nodup {count : Nat} (fits : count ≤ 16 ^ 12) :
    (creations (logins count)).Nodup := by
  rw [creations_logins]
  apply List.Nodup.map_on _ List.nodup_range
  intro first firstMember second secondMember same
  have firstInside := List.mem_range.mp firstMember
  have secondInside := List.mem_range.mp secondMember
  exact uuidOf_injective (Nat.lt_of_lt_of_le firstInside fits)
    (Nat.lt_of_lt_of_le secondInside fits) same

/-- The rule for three sessions. -/
theorem distinctIds_run_iff_three_logins :
    (creations (logins 3)).Nodup ∧
      ((∀ before, before <+: logins 3 → DistinctIds (run 300 before)) ↔
        NoneOutlivesCounter 300 (logins 3)) :=
  ⟨creations_logins_nodup (by omega),
    distinctIds_run_iff 300 (logins 3) (creations_logins_nodup (by omega))⟩

theorem first_live (sessionTtl count : Nat) :
    (run sessionTtl (logins (count + 1))).getClone (uuidOf 0) ≠ none := by
  induction count with
  | zero =>
      rw [logins_succ, run_concat, login, apply, getClone_create, if_pos rfl]
      exact Option.some_ne_none _
  | succ count ih =>
      rw [logins_succ, run_concat, login, apply, getClone_create]
      split
      · exact Option.some_ne_none _
      · exact ih

/-- After `2 ^ 32 + 1` logins the first and the last session have one id. -/
theorem sessions_share_numericId :
    ¬ ∀ sessionTtl calls, (creations calls).Nodup →
      ∀ before, before <+: calls → DistinctIds (run sessionTtl before) := by
  intro always
  generalize isCount : 2 ^ 32 - 1 = count
  have fresh : (creations (logins (count + 1 + 1))).Nodup :=
    creations_logins_nodup (by omega)
  have distinct := always 0 (logins (count + 1 + 1)) fresh _ List.prefix_rfl
  rw [logins_succ, creations_concat] at fresh
  rw [logins_succ, run_concat] at distinct
  have counted : (creations (logins (count + 1))).length = count + 1 := by
    rw [creations_logins, List.length_map, List.length_range]
  have position : (creations (logins (count + 1)))[0]? = some (uuidOf 0) := by
    rw [creations_logins, List.range_succ_eq_map, List.map_cons, List.getElem?_cons_zero]
  apply not_distinctIds_create fresh position (first_live 0 count) _ distinct
  rw [counted]
  omega

end SessionManager

end Udpix.ControlPlane
