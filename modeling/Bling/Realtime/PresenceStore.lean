import Bling.Library.Machine
import Bling.Library.SortedSet
import Bling.Library.Table
import Bling.Schema

set_option autoImplicit false

namespace Bling.Realtime

open Library

/-! Leases on call participants in Redis, from `presence.go`. Times and scores are in
milliseconds. Transactions and scripts are atomic; a `Reap` lists members first and then runs
one script for each, with other calls in between. -/

def text (s : String) : Text := s.toList.map Char.toNat

def bar : Nat := 124

def roleText : CallRole → Text
  | .creator => text "creator"
  | .viewer => text "viewer"

/-- An id of a call or a connection, which is not empty and has no `|`. -/
structure PlainId where
  value : Text
  nonempty : value ≠ []
  plain : bar ∉ value
deriving DecidableEq

def deadlinesKey : Text := text "bling:call-presence:" ++ text "deadlines"

def presenceRoleKey (callID : Text) (role : CallRole) : Text :=
  text "bling:call-presence:" ++ (callID ++ (text ":" ++ roleText role))

def presenceMember (callID : Text) (role : CallRole) (connectionID : Text) : Text :=
  callID ++ bar :: (roleText role ++ bar :: connectionID)

def parseRole (value : Text) : Option CallRole :=
  if value = roleText .creator then some .creator
  else if value = roleText .viewer then some .viewer
  else none

def parsePresenceMember (value : Text) : Option (Text × CallRole × Text) :=
  match value.splitOn bar with
  | [callID, role, connectionID] =>
    if callID = [] ∨ connectionID = [] then none
    else (parseRole role).map fun role => (callID, role, connectionID)
  | _ => none

/-- The configuration rejects a lease time that is not positive. -/
structure PresenceStore where
  ttl : Nat
  positive : 0 < ttl

/-- The sorted sets of Redis, under their keys. -/
abbrev SortedSets := Text → SortedSet Text

def SortedSets.update (z : SortedSets) (key : Text) (f : SortedSet Text → SortedSet Text) :
    SortedSets :=
  fun other => if other = key then f (z other) else z other

def touch (store : PresenceStore) (z : SortedSets) (callID : Text) (role : CallRole)
    (connectionID : Text) (now : Time) : SortedSets :=
  let expires := now + store.ttl
  let z := z.update (presenceRoleKey callID role) fun set => set.add connectionID expires
  z.update deadlinesKey fun set => set.add (presenceMember callID role connectionID) expires

/-- Whether no connection of the role is left comes with the result. -/
def disconnect (z : SortedSets) (callID : Text) (role : CallRole) (connectionID : Text)
    (now : Time) : SortedSets × Bool :=
  let z := z.update deadlinesKey fun set => set.remove (presenceMember callID role connectionID)
  let z := z.update (presenceRoleKey callID role) fun set => set.remove connectionID
  let z := z.update (presenceRoleKey callID role) fun set => set.removeUpTo now
  (z, (z (presenceRoleKey callID role)).card == 0)

/-- The script answers -1 for a member that is gone or has a later deadline by now. -/
def reapPresenceScript (z : SortedSets) (roleKey member connectionID : Text) (now : Time) :
    SortedSets × Int :=
  match (z deadlinesKey).score member with
  | none => (z, -1)
  | some score =>
    if now < score then (z, -1)
    else
      let z := z.update deadlinesKey fun set => set.remove member
      let z := z.update roleKey fun set => set.remove connectionID
      let z := z.update roleKey fun set => set.removeUpTo now
      (z, (z roleKey).card)

/-- A call of `Reap` with the members it has still to do; `expired` is what it returns. -/
structure ReapCall where
  now : Time
  members : List Text
  expired : List (Text × CallRole)
  seen : List Text
deriving DecidableEq

def scan (z : SortedSets) (now : Time) (limit : Int) : List Text :=
  (z deadlinesKey).rangeUpTo (fun a b : Text => a < b) now limit

/-- One round of the loop. -/
def reapNext (z : SortedSets) (reap : ReapCall) : SortedSets × ReapCall :=
  match reap.members with
  | [] => (z, reap)
  | member :: members =>
    let reap := { reap with members }
    match parsePresenceMember member with
    | none => (z.update deadlinesKey fun set => set.remove member, reap)
    | some (callID, role, connectionID) =>
      let (z, remaining) :=
        reapPresenceScript z (presenceRoleKey callID role) member connectionID reap.now
      let key := callID ++ bar :: roleText role
      if remaining = 0 ∧ key ∉ reap.seen then
        (z, { reap with expired := reap.expired ++ [(callID, role)], seen := key :: reap.seen })
      else (z, reap)

/-- `leases` says until when each connection's last `Touch` was for, unless it disconnected
since. Nothing reads them. -/
structure Presence where
  zsets : SortedSets
  reaps : Table ReapCall
  clock : Time
  leases : PlainId → CallRole → PlainId → Option Time

inductive PresenceOp where
  | touch (callID : PlainId) (role : CallRole) (connectionID : PlainId)
  | disconnect (callID : PlainId) (role : CallRole) (connectionID : PlainId)
  | reap (limit : Int)
  /-- The next round of a `Reap` that is under way. -/
  | reapNext (id : Nat)

namespace Presence

def empty : Presence := ⟨fun _ => .empty, .empty, 0, fun _ _ _ => none⟩

def setLease (p : Presence) (callID : PlainId) (role : CallRole) (connectionID : PlainId)
    (lease : Option Time) : Presence :=
  { p with leases := fun c r n =>
      if c = callID ∧ r = role ∧ n = connectionID then lease else p.leases c r n }

/-- An input comes with the time since the one before. -/
def step (store : PresenceStore) (p : Presence) (input : Nat × PresenceOp) : Presence :=
  let now := p.clock + input.1
  let p := { p with clock := now }
  match input.2 with
  | .touch callID role connectionID =>
    { p with
      zsets := Realtime.touch store p.zsets callID.value role connectionID.value now }.setLease
        callID role connectionID (some (now + store.ttl))
  | .disconnect callID role connectionID =>
    { p with
      zsets := (Realtime.disconnect p.zsets callID.value role connectionID.value now).1 }.setLease
        callID role connectionID none
  | .reap limit =>
    { p with
      reaps := p.reaps.insert
        { now, members := scan p.zsets now limit, expired := [], seen := [] } }
  | .reapNext id =>
    match p.reaps.get id with
    | none => p
    | some reap =>
      let (zsets, reap) := Realtime.reapNext p.zsets reap
      { p with zsets, reaps := p.reaps.patch id fun _ => reap }

end Presence

/-! ### Keys -/

theorem roleText_plain (role : CallRole) : bar ∉ roleText role := by
  cases role <;> decide

theorem parseRole_roleText (role : CallRole) : parseRole (roleText role) = some role := by
  cases role <;> decide

theorem parse_member (callID connectionID : PlainId) (role : CallRole) :
    parsePresenceMember (presenceMember callID.value role connectionID.value) =
      some (callID.value, role, connectionID.value) := by
  have split : (presenceMember callID.value role connectionID.value).splitOn bar =
      [callID.value, roleText role, connectionID.value] := by
    rw [presenceMember, List.splitOn_append_cons_self_of_not_mem callID.plain,
      List.splitOn_append_cons_self_of_not_mem (roleText_plain role),
      List.splitOn_eq_singleton connectionID.plain]
  unfold parsePresenceMember
  rw [split]
  simp only [callID.nonempty, connectionID.nonempty, or_self, if_false, parseRole_roleText,
    Option.map_some]

theorem member_inj {callID callID' connectionID connectionID' : PlainId} {role role' : CallRole}
    (same : presenceMember callID.value role connectionID.value =
      presenceMember callID'.value role' connectionID'.value) :
    callID = callID' ∧ role = role' ∧ connectionID = connectionID' := by
  have parsed := parse_member callID connectionID role
  rw [same, parse_member, Option.some.injEq, Prod.mk.injEq, Prod.mk.injEq] at parsed
  obtain ⟨call, role, connection⟩ := parsed
  cases callID
  cases callID'
  cases connectionID
  cases connectionID'
  cases call
  cases connection
  exact ⟨rfl, role.symm, rfl⟩

theorem roleKey_inj {callID callID' : Text} {role role' : CallRole}
    (same : presenceRoleKey callID role = presenceRoleKey callID' role') :
    callID = callID' ∧ role = role' := by
  have same := List.append_cancel_left same
  have backward := congrArg List.reverse same
  simp only [List.reverse_append] at backward
  cases role with
  | creator =>
      cases role' with
      | creator => exact ⟨List.append_cancel_right same, rfl⟩
      | viewer => simp [roleText, text] at backward
  | viewer =>
      cases role' with
      | creator => simp [roleText, text] at backward
      | viewer => exact ⟨List.append_cancel_right same, rfl⟩

theorem roleKey_ne (callID : Text) (role : CallRole) :
    presenceRoleKey callID role ≠ deadlinesKey := by
  intro same
  have backward := congrArg List.reverse (List.append_cancel_left same)
  simp only [List.reverse_append] at backward
  cases role <;> simp [roleText, text] at backward

theorem roleText_inj {role role' : CallRole} (same : roleText role = roleText role') :
    role = role' := by
  have parsed := parseRole_roleText role
  rw [same, parseRole_roleText] at parsed
  exact (Option.some.inj parsed).symm

theorem PlainId.ext {one other : PlainId} (same : one.value = other.value) : one = other := by
  cases one
  cases other
  cases same
  rfl

/-- The key of `seen` says which call and role it is. -/
theorem seenKey_inj {callID callID' : PlainId} {role role' : CallRole}
    (same : callID.value ++ bar :: roleText role = callID'.value ++ bar :: roleText role') :
    callID = callID' ∧ role = role' := by
  have split := congrArg (List.splitOn bar) same
  rw [List.splitOn_append_cons_self_of_not_mem callID.plain,
    List.splitOn_append_cons_self_of_not_mem callID'.plain,
    List.splitOn_eq_singleton (roleText_plain role),
    List.splitOn_eq_singleton (roleText_plain role')] at split
  obtain ⟨call, rest⟩ := List.cons.inj split
  exact ⟨PlainId.ext call, roleText_inj (List.cons.inj rest).1⟩

/-! ### What the operations write -/

/-- What a `Disconnect` and the script of a `Reap` both take out. -/
def drop (z : SortedSets) (callID : Text) (role : CallRole) (connectionID : Text) (now : Time) :
    SortedSets :=
  ((z.update deadlinesKey fun set => set.remove (presenceMember callID role connectionID)).update
    (presenceRoleKey callID role) fun set => set.remove connectionID).update
    (presenceRoleKey callID role) fun set => set.removeUpTo now

variable {z : SortedSets} {callID callID' connectionID connectionID' : PlainId}
  {role role' : CallRole} {now : Time} {m : Text} {x : Nat}

theorem drop_deadlines :
    (drop z callID.value role connectionID.value now deadlinesKey).score m = some x ↔
      (z deadlinesKey).score m = some x ∧
        m ≠ presenceMember callID.value role connectionID.value := by
  have other : deadlinesKey ≠ presenceRoleKey callID.value role := (roleKey_ne _ _).symm
  simp only [drop, SortedSets.update, if_neg other, if_true]
  exact SortedSet.score_remove

theorem drop_role :
    (drop z callID.value role connectionID.value now
      (presenceRoleKey callID'.value role')).score m = some x ↔
      (z (presenceRoleKey callID'.value role')).score m = some x ∧
        (callID' = callID ∧ role' = role → m ≠ connectionID.value ∧ now < x) := by
  simp only [drop, SortedSets.update, if_neg (roleKey_ne _ _)]
  by_cases same : callID' = callID ∧ role' = role
  · obtain ⟨rfl, rfl⟩ := same
    simp only [if_true, SortedSet.score_removeUpTo, SortedSet.score_remove, and_self,
      forall_const, and_assoc]
  · have apart : presenceRoleKey callID'.value role' ≠ presenceRoleKey callID.value role := by
      intro keys
      obtain ⟨call, roles⟩ := roleKey_inj keys
      exact same ⟨PlainId.ext call, roles⟩
    simp only [if_neg apart, same, false_implies, and_true]

theorem touch_deadlines {store : PresenceStore} :
    (touch store z callID.value role connectionID.value now deadlinesKey).score m = some x ↔
      (m = presenceMember callID.value role connectionID.value ∧ x = now + store.ttl) ∨
      ((z deadlinesKey).score m = some x ∧
        m ≠ presenceMember callID.value role connectionID.value) := by
  have other : deadlinesKey ≠ presenceRoleKey callID.value role := (roleKey_ne _ _).symm
  simp only [touch, SortedSets.update, if_neg other, if_true]
  exact SortedSet.score_add

theorem touch_role {store : PresenceStore} :
    (touch store z callID.value role connectionID.value now
      (presenceRoleKey callID'.value role')).score m = some x ↔
      ((callID' = callID ∧ role' = role) ∧ m = connectionID.value ∧ x = now + store.ttl) ∨
      ((z (presenceRoleKey callID'.value role')).score m = some x ∧
        (callID' = callID ∧ role' = role → m ≠ connectionID.value)) := by
  simp only [touch, SortedSets.update, if_neg (roleKey_ne _ _)]
  by_cases same : callID' = callID ∧ role' = role
  · obtain ⟨rfl, rfl⟩ := same
    simp only [if_true, SortedSet.score_add, and_self, true_and, forall_const]
  · have apart : presenceRoleKey callID'.value role' ≠ presenceRoleKey callID.value role := by
      intro keys
      obtain ⟨call, roles⟩ := roleKey_inj keys
      exact same ⟨PlainId.ext call, roles⟩
    simp only [if_neg apart, same, false_and, false_implies, and_true, false_or]

/-- What the script does to the member of a connection. -/
theorem reapPresenceScript_cases (z : SortedSets) (callID connectionID : PlainId)
    (role : CallRole) (now : Time) :
    (((∀ x, (z deadlinesKey).score (presenceMember callID.value role connectionID.value) =
        some x → now < x) ∧
      reapPresenceScript z (presenceRoleKey callID.value role)
        (presenceMember callID.value role connectionID.value) connectionID.value now = (z, -1))) ∨
    ∃ x, (z deadlinesKey).score (presenceMember callID.value role connectionID.value) = some x ∧
      x ≤ now ∧ reapPresenceScript z (presenceRoleKey callID.value role)
        (presenceMember callID.value role connectionID.value) connectionID.value now =
        (drop z callID.value role connectionID.value now,
          ((drop z callID.value role connectionID.value now
            (presenceRoleKey callID.value role)).card : Int)) := by
  unfold reapPresenceScript
  split
  · rename_i absent
    refine Or.inl ⟨fun x found => ?_, rfl⟩
    rw [absent] at found
    cases found
  · rename_i score found
    split
    · rename_i later
      refine Or.inl ⟨fun x same => ?_, rfl⟩
      rw [found] at same
      exact Option.some.inj same ▸ later
    · rename_i due
      exact Or.inr ⟨score, found, Nat.le_of_not_lt due, rfl⟩

end Bling.Realtime
