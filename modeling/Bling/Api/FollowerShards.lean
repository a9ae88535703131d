import Bling.Api.Directory
import Bling.Library.Machine

set_option autoImplicit false

namespace Bling.Shards

open Library
open Directory (Uuid)

/-! The count of a creator's followers: `update_follow_shard` and `mark_social_dirty` of
`000010_social_discovery.up.sql`, and `Follow` and `FlushCounts` of `store.go`. Transactions run
statement by statement in any order, and a statement that would wait for a lock is not run yet.
At `READ COMMITTED` each statement sees what was committed before it began. -/

abbrev TxId := Nat

/-- A row of `social_dirty_creators` has a new one each time it is inserted. -/
abbrev RowId := Nat

/-- The first byte of the id, modulo 64. -/
def bucket (actor : Uuid) : Fin 64 := ⟨actor / 2 ^ 120 % 64, Nat.mod_lt _ (by decide)⟩

/-- What is committed. Every creator has a profile. -/
structure Database where
  /-- Followers, with whom they follow. -/
  follows : List (Uuid × Uuid)
  shards : Uuid → Fin 64 → Option Nat
  dirty : Uuid → Option RowId
  followerCount : Uuid → Nat

def Database.empty : Database where
  follows := []
  shards _ _ := none
  dirty _ := none
  followerCount _ := 0

/-- `SELECT COALESCE(sum(count),0) FROM creator_follower_shards`. -/
def Database.sum (db : Database) (creator : Uuid) : Nat :=
  ((List.finRange 64).map fun shard => (db.shards creator shard).getD 0).sum

/-! ### Transactions -/

/-- The loop of `mark_social_dirty`: before the `INSERT`, before the `SELECT`, in the `SELECT`
with the row that its snapshot has, and with a share lock on the row. -/
inductive MarkStage where
  | insert
  | select
  | read (seen : Option RowId)
  | marked (row : RowId)

structure Marking where
  target : Uuid
  /-- The row that the transaction itself inserted. -/
  own : Option RowId
  stage : MarkStage

/-- `counted` has the transaction's version of the shard. -/
inductive FollowStage where
  | begun
  | locked
  | unchanged
  | written
  | counted (shard : Option Nat) (marking : Marking)

/-- The rows are locked for update. `counted` has the transaction's versions of the profiles. -/
inductive FlushStage where
  | selecting (rows : List (Uuid × RowId))
  | selected (rows : List (Uuid × RowId))
  | counted (rows : List (Uuid × RowId)) (counts : List (Uuid × Nat))
  | deleted (rows : List (Uuid × RowId)) (counts : List (Uuid × Nat))

/-- A `Follow` of a creator or its opposite, a new status of a show, or a `FlushCounts`. -/
inductive Work where
  | follow (viewer creator : Uuid) (follow : Bool) (stage : FollowStage)
  | status (marking : Marking)
  | flush (stage : FlushStage)

def FlushStage.rows : FlushStage → List (Uuid × RowId)
  | .selecting rows | .selected rows | .counted rows _ | .deleted rows _ => rows

def FlushStage.counts : FlushStage → List (Uuid × Nat)
  | .selecting _ | .selected _ => []
  | .counted _ counts | .deleted _ counts => counts

namespace Work

/-- The viewer whose advisory lock is held. -/
def advisory : Work → Option Uuid
  | .follow _ _ _ .begun => none
  | .follow viewer _ _ _ => some viewer
  | _ => none

/-- The shard of which there is an uncommitted version. -/
def shardRow : Work → Option (Uuid × Fin 64)
  | .follow viewer creator _ (.counted _ _) => some (creator, bucket viewer)
  | _ => none

def marking : Work → Option Marking
  | .follow _ _ _ (.counted _ marking) => some marking
  | .status marking => some marking
  | _ => none

/-- The creator whose dirty row is inserted and not committed. -/
def inserted (w : Work) : Option Uuid :=
  w.marking.bind fun m => m.own.map fun _ => m.target

/-- The row that is locked `FOR KEY SHARE`. -/
def shared (w : Work) : Option (Uuid × RowId) :=
  w.marking.bind fun m =>
    match m.stage with
    | .marked row => some (m.target, row)
    | _ => none

/-- The rows that are locked `FOR UPDATE`. -/
def rows : Work → List (Uuid × RowId)
  | .flush stage => stage.rows
  | _ => []

def counts : Work → List (Uuid × Nat)
  | .flush stage => stage.counts
  | _ => []

/-- The rows whose deletion is not committed. -/
def deleted : Work → List (Uuid × RowId)
  | .flush (.deleted rows _) => rows
  | _ => []

end Work

/-- Subtraction stops at zero, as `GREATEST(0,count-1)` does. -/
def moveShard (follow : Bool) (shard : Option Nat) : Option Nat :=
  if follow then some (shard.getD 0 + 1) else shard.map fun count => count - 1

structure State where
  db : Database
  active : TxId → Option Work
  nextTx : TxId
  nextRow : RowId

def State.empty : State := ⟨.empty, fun _ => none, 0, 0⟩

namespace State

def put (s : State) (tx : TxId) (w : Work) : State :=
  { s with active := Function.update s.active tx (some w) }

def close (s : State) (tx : TxId) : State :=
  { s with active := Function.update s.active tx none }

/-- Another transaction is in the way. -/
def others (s : State) (tx : TxId) (p : Work → Bool) : Bool :=
  (List.range s.nextTx).any fun other => other != tx && (s.active other).any p

/-- The next statement of the loop. An insert waits for one that is not committed, and for a
delete; the select waits for a lock for update, and then misses a row that has been deleted. -/
def mark (s : State) (tx : TxId) (m : Marking) : Option (Marking × RowId) :=
  match m.stage with
  | .insert =>
    if s.others tx fun w => w.inserted == some m.target ||
      w.deleted.any fun row => row.1 == m.target then none
    else if (s.db.dirty m.target).isSome then some ({ m with stage := .select }, s.nextRow)
    else some ({ m with own := some s.nextRow, stage := .select }, s.nextRow + 1)
  | .select => some ({ m with stage := .read (m.own.or (s.db.dirty m.target)) }, s.nextRow)
  | .read none => some ({ m with stage := .insert }, s.nextRow)
  | .read (some row) =>
    if m.own = some row then some ({ m with stage := .marked row }, s.nextRow)
    else if s.others tx fun w => w.rows.contains (m.target, row) then none
    else if s.db.dirty m.target = some row then some ({ m with stage := .marked row }, s.nextRow)
    else some ({ m with stage := .insert }, s.nextRow)
  | .marked _ => none

/-- What `Follow` reads first may end it before it writes. -/
def nextFollow (s : State) (tx : TxId) (viewer creator : Uuid) (follow : Bool) :
    FollowStage → Option State
  | .begun =>
    if s.others tx fun w => w.advisory == some viewer then none
    else some (s.put tx (.follow viewer creator follow .locked))
  | .locked =>
    if viewer = creator then none
    else if decide ((viewer, creator) ∈ s.db.follows) = follow then
      some (s.put tx (.follow viewer creator follow .unchanged))
    else some (s.put tx (.follow viewer creator follow .written))
  | .unchanged => none
  | .written =>
    if s.others tx fun w => w.shardRow == some (creator, bucket viewer) then none
    else some (s.put tx (.follow viewer creator follow
      (.counted (moveShard follow (s.db.shards creator (bucket viewer)))
        { target := creator, own := none, stage := .insert })))
  | .counted shard m =>
    (s.mark tx m).map fun marked => { s with nextRow := marked.2 }.put tx
      (.follow viewer creator follow (.counted shard marked.1))

/-- Without rows the worker has nothing to do. -/
def nextFlush (s : State) (tx : TxId) : FlushStage → Option State
  | .selecting rows => if rows = [] then none else some (s.put tx (.flush (.selected rows)))
  | .selected rows =>
    some (s.put tx (.flush (.counted rows (rows.map fun row => (row.1, s.db.sum row.1)))))
  | .counted rows counts => some (s.put tx (.flush (.deleted rows counts)))
  | .deleted _ _ => none

def next (s : State) (tx : TxId) : Work → Option State
  | .follow viewer creator follow stage => s.nextFollow tx viewer creator follow stage
  | .status m => (s.mark tx m).map fun marked =>
      { s with nextRow := marked.2 }.put tx (.status marked.1)
  | .flush stage => s.nextFlush tx stage

/-- `FOR UPDATE SKIP LOCKED`, one row after the other and up to 100 of them. Any row may be next:
the order is by the time at which they were queued. -/
def lock (s : State) (tx : TxId) (creator : Uuid) : Work → Option State
  | .flush (.selecting rows) =>
    match s.db.dirty creator with
    | none => none
    | some row =>
      if 100 ≤ rows.length ∨ rows.any (fun other => other.1 == creator) ∨
        s.others tx fun w => w.shared == some (creator, row) || w.rows.contains (creator, row)
      then none
      else some (s.put tx (.flush (.selecting (rows ++ [(creator, row)]))))
  | _ => none

end State

/-! ### Commits -/

namespace Database

def insertRow (db : Database) (creator : Uuid) : Option RowId → Database
  | none => db
  | some row => { db with dirty := Function.update db.dirty creator (some row) }

def writeFollow (db : Database) (viewer creator : Uuid) (follow : Bool) (shard : Option Nat) :
    Database :=
  { db with
    follows := if follow then (viewer, creator) :: db.follows
      else db.follows.erase (viewer, creator)
    shards := Function.update db.shards creator
      (Function.update (db.shards creator) (bucket viewer) shard) }

def writeCounts (db : Database) (rows : List (Uuid × RowId)) (counts : List (Uuid × Nat)) :
    Database :=
  { db with
    dirty := fun creator => if rows.any (fun row => row.1 == creator) then none
      else db.dirty creator
    followerCount := fun creator =>
      match counts.find? fun count => count.1 == creator with
      | none => db.followerCount creator
      | some count => count.2 }

end Database

def State.commit (s : State) (tx : TxId) : Work → Option State
  | .follow _ _ _ .unchanged => some (s.close tx)
  | .follow viewer creator follow (.counted shard ⟨target, own, .marked _⟩) =>
    some { s.close tx with
      db := (s.db.writeFollow viewer creator follow shard).insertRow target own }
  | .status ⟨target, own, .marked _⟩ => some { s.close tx with db := s.db.insertRow target own }
  | .flush (.deleted rows counts) => some { s.close tx with db := s.db.writeCounts rows counts }
  | _ => none

/-! ### Runs -/

inductive Input where
  | follow (viewer creator : Uuid) (follow : Bool)
  | status (creator : Uuid)
  | flush
  | next (tx : TxId)
  | lock (tx : TxId) (creator : Uuid)
  | commit (tx : TxId)
  | rollback (tx : TxId)

namespace State

def begin (s : State) (w : Work) : State :=
  { s.put s.nextTx w with nextTx := s.nextTx + 1 }

def attempt (s : State) : Input → Option State
  | .follow viewer creator follow => some (s.begin (.follow viewer creator follow .begun))
  | .status creator => some (s.begin (.status ⟨creator, none, .insert⟩))
  | .flush => some (s.begin (.flush (.selecting [])))
  | .next tx => (s.active tx).bind (s.next tx)
  | .lock tx creator => (s.active tx).bind (s.lock tx creator)
  | .commit tx => (s.active tx).bind (s.commit tx)
  | .rollback tx => some (s.close tx)

/-- A statement that has to wait changes nothing. -/
def step (s : State) (input : Input) : State := (s.attempt input).getD s

end State

end Bling.Shards
