import Bling.Api.FollowerShards

set_option autoImplicit false

namespace Bling.Shards

open Library
open Directory (Uuid)

/-! The shards count the followers, and a creator whose count is behind is queued for a flush. -/

/-! ### What an open transaction relies on -/

/-- The write is one that changes a row. -/
def Changes (db : Database) (viewer creator : Uuid) (follow : Bool) : Prop :=
  (viewer, creator) ∈ db.follows ↔ follow = false

structure MarkSound (db : Database) (m : Marking) : Prop where
  own : ∀ row, m.own = some row → db.dirty m.target = none
  marked : ∀ row, m.stage = .marked row →
    m.own = some row ∨ (m.own = none ∧ db.dirty m.target = some row)

def FlushSound (db : Database) : FlushStage → Prop
  | .selecting rows | .selected rows => ∀ row ∈ rows, db.dirty row.1 = some row.2
  | .counted rows counts | .deleted rows counts =>
    (∀ row ∈ rows, db.dirty row.1 = some row.2) ∧
      counts = rows.map fun row => (row.1, db.sum row.1)

def WorkSound (db : Database) : Work → Prop
  | .follow viewer creator follow .written => Changes db viewer creator follow
  | .follow viewer creator follow (.counted shard m) => Changes db viewer creator follow ∧
      shard = moveShard follow (db.shards creator (bucket viewer)) ∧ m.target = creator ∧
      MarkSound db m
  | .follow _ _ _ _ => True
  | .status m => MarkSound db m
  | .flush stage => FlushSound db stage

/-- Two open transactions don't hold locks that exclude each other. -/
structure Apart (w o : Work) : Prop where
  advisory : ∀ viewer, w.advisory = some viewer → o.advisory ≠ some viewer
  shardRow : ∀ shard, w.shardRow = some shard → o.shardRow ≠ some shard
  inserted : ∀ creator, w.inserted = some creator → o.inserted ≠ some creator
  shared : ∀ row, w.shared = some row → row ∉ o.rows
  shared' : ∀ row, o.shared = some row → row ∉ w.rows
  rows : ∀ row ∈ w.rows, row ∉ o.rows

theorem Apart.symm {w o : Work} (apart : Apart w o) : Apart o w where
  advisory viewer one other := apart.advisory viewer other one
  shardRow shard one other := apart.shardRow shard other one
  inserted creator one other := apart.inserted creator other one
  shared := apart.shared'
  shared' := apart.shared
  rows row one other := apart.rows row other one

/-- The followers of a creator whose ids have the bucket. -/
def Database.followers (db : Database) (creator : Uuid) (shard : Fin 64) : Nat :=
  db.follows.countP fun row => row.2 == creator && bucket row.1 == shard

structure Sound (s : State) : Prop where
  known : ∀ tx w, s.active tx = some w → tx < s.nextTx
  once : s.db.follows.Nodup
  counted : ∀ creator shard,
    (s.db.shards creator shard).getD 0 = s.db.followers creator shard
  projected : ∀ creator, s.db.followerCount creator ≠ s.db.sum creator →
    (s.db.dirty creator).isSome
  work : ∀ tx w, s.active tx = some w → WorkSound s.db w
  apart : ∀ tx w tx' w', s.active tx = some w → s.active tx' = some w' → tx ≠ tx' → Apart w w'

theorem others_eq_false {s : State} (sound : Sound s) {tx : TxId} {p : Work → Bool}
    (free : s.others tx p = false) {other : TxId} {o : Work} (open' : s.active other = some o)
    (apart : other ≠ tx) : p o = false := by
  have range := List.any_eq_false.mp free other (List.mem_range.mpr (sound.known other o open'))
  rw [open', Option.any_some, Bool.and_eq_true, bne_iff_ne] at range
  exact Bool.eq_false_iff.mpr fun true => range ⟨apart, true⟩

/-! ### Statements -/

theorem put_active {s : State} {tx other : TxId} {w o : Work}
    (open' : (s.put tx w).active other = some o) :
    (other = tx ∧ o = w) ∨ (other ≠ tx ∧ s.active other = some o) := by
  have open' : Function.update s.active tx (some w) other = some o := open'
  by_cases same : other = tx
  · subst same
    rw [Function.update_self] at open'
    exact Or.inl ⟨rfl, (Option.some.inj open').symm⟩
  · rw [Function.update_of_ne same] at open'
    exact Or.inr ⟨same, open'⟩

theorem Sound.put {s : State} (sound : Sound s) {tx : TxId} {w w' : Work}
    (before : s.active tx = some w) (work : WorkSound s.db w')
    (apart : ∀ other o, other ≠ tx → s.active other = some o → Apart w' o) :
    Sound (s.put tx w') where
  known other o open' := by
    rcases put_active open' with ⟨rfl, _⟩ | ⟨_, old⟩
    · exact sound.known other w before
    · exact sound.known other o old
  once := sound.once
  counted := sound.counted
  projected := sound.projected
  work other o open' := by
    rcases put_active open' with ⟨_, rfl⟩ | ⟨_, old⟩
    · exact work
    · exact sound.work other o old
  apart one o other o' open' there different := by
    rcases put_active open' with ⟨rfl, rfl⟩ | ⟨left, old⟩
    · rcases put_active there with ⟨rfl, _⟩ | ⟨right, old'⟩
      · exact absurd rfl different
      · exact apart other o' right old'
    · rcases put_active there with ⟨rfl, rfl⟩ | ⟨right, old'⟩
      · exact (apart one o left old).symm
      · exact sound.apart one o other o' old old' different

/-- A transaction may take no lock that it did not have. -/
structure Holds (w w' : Work) : Prop where
  advisory : ∀ viewer, w'.advisory = some viewer → w.advisory = some viewer
  shardRow : ∀ shard, w'.shardRow = some shard → w.shardRow = some shard
  inserted : ∀ creator, w'.inserted = some creator → w.inserted = some creator
  shared : ∀ row, w'.shared = some row → w.shared = some row
  rows : ∀ row ∈ w'.rows, row ∈ w.rows

theorem Apart.holds {w w' o : Work} (apart : Apart w o) (holds : Holds w w') : Apart w' o where
  advisory viewer one := apart.advisory viewer (holds.advisory viewer one)
  shardRow shard one := apart.shardRow shard (holds.shardRow shard one)
  inserted creator one := apart.inserted creator (holds.inserted creator one)
  shared row one := apart.shared row (holds.shared row one)
  shared' row one other := apart.shared' row one (holds.rows row other)
  rows row one := apart.rows row (holds.rows row one)

/-- Statements that take no lock. -/
theorem Sound.put_holds {s : State} (sound : Sound s) {tx : TxId} {w w' : Work}
    (before : s.active tx = some w) (work : WorkSound s.db w') (holds : Holds w w') :
    Sound (s.put tx w') :=
  sound.put before work fun other o different open' =>
    (sound.apart tx w other o before open' different.symm).holds holds

theorem Sound.nextRow {s : State} (sound : Sound s) (row : RowId) :
    Sound { s with nextRow := row } :=
  ⟨sound.known, sound.once, sound.counted, sound.projected, sound.work, sound.apart⟩

/-! ### The loop that marks a creator -/

/-- A statement of the loop goes on without a lock, inserts the row, or locks it. -/
theorem mark_cases {s : State} {tx : TxId} {m m' : Marking} {fresh : RowId}
    (done : s.mark tx m = some (m', fresh)) : m'.target = m.target ∧
      ((m'.own = m.own ∧ ∀ row, m'.stage ≠ .marked row) ∨
      (m'.stage = .select ∧ s.db.dirty m.target = none ∧
        s.others tx (fun w => w.inserted == some m.target ||
          w.deleted.any fun row => row.1 == m.target) = false) ∨
      ∃ row, m' = { m with stage := .marked row } ∧ (m.own = some row ∨
        (s.db.dirty m.target = some row ∧
          s.others tx (fun w => w.rows.contains (m.target, row)) = false))) := by
  unfold State.mark at done
  split at done
  · split at done
    · cases done
    · rename_i free
      split at done
      · cases done
        exact ⟨rfl, Or.inl ⟨rfl, by intro row; exact MarkStage.noConfusion⟩⟩
      · rename_i absent
        cases done
        exact ⟨rfl, Or.inr (Or.inl ⟨rfl, by simpa using absent, by simpa using free⟩)⟩
  · cases done
    exact ⟨rfl, Or.inl ⟨rfl, by intro row; exact MarkStage.noConfusion⟩⟩
  · cases done
    exact ⟨rfl, Or.inl ⟨rfl, by intro row; exact MarkStage.noConfusion⟩⟩
  · rename_i row _
    split at done
    · rename_i own
      cases done
      exact ⟨rfl, Or.inr (Or.inr ⟨row, rfl, Or.inl own⟩)⟩
    · split at done
      · cases done
      · rename_i free
        split at done
        · rename_i present
          cases done
          exact ⟨rfl, Or.inr (Or.inr ⟨row, rfl, Or.inr ⟨present, by simpa using free⟩⟩)⟩
        · cases done
          exact ⟨rfl, Or.inl ⟨rfl, by intro row; exact MarkStage.noConfusion⟩⟩
  · cases done

theorem mark_sound {s : State} {tx : TxId} {m m' : Marking} {fresh : RowId}
    (sound : MarkSound s.db m) (done : s.mark tx m = some (m', fresh)) :
    MarkSound s.db m' ∧ m'.target = m.target := by
  obtain ⟨target, plain | ⟨stage, absent, _⟩ | ⟨row, rfl, held⟩⟩ := mark_cases done
  · refine ⟨⟨?_, ?_⟩, target⟩
    · intro row own
      rw [target]
      exact sound.own row (plain.1 ▸ own)
    · intro row stage
      exact absurd stage (plain.2 row)
  · refine ⟨⟨?_, ?_⟩, target⟩
    · intro row _
      rw [target]
      exact absent
    · intro row here
      rw [stage] at here
      cases here
  · refine ⟨⟨sound.own, ?_⟩, target⟩
    intro other same
    obtain rfl := MarkStage.marked.inj same
    rcases held with own | ⟨present, _⟩
    · exact Or.inl own
    · refine Or.inr ⟨?_, present⟩
      cases own : m.own with
      | none => rfl
      | some mine =>
          rw [sound.own mine own] at present
          cases present

theorem unmarked_sound (db : Database) (creator : Uuid) :
    MarkSound db { target := creator, own := none, stage := .insert } where
  own row same := by cases same
  marked row same := by cases same

theorem marking_sound {db : Database} {w : Work} {m : Marking} (sound : WorkSound db w)
    (marking : w.marking = some m) : MarkSound db m := by
  cases w with
  | follow viewer creator follow stage =>
      cases stage with
      | counted shard marked =>
          obtain rfl := Option.some.inj marking
          exact sound.2.2.2
      | begun => cases marking
      | locked => cases marking
      | unchanged => cases marking
      | written => cases marking
  | status marked =>
      obtain rfl := Option.some.inj marking
      exact sound
  | flush stage => cases marking

theorem rows_dirty {db : Database} {w : Work} (sound : WorkSound db w) {row : Uuid × RowId}
    (member : row ∈ w.rows) : db.dirty row.1 = some row.2 := by
  cases w with
  | follow viewer creator follow stage => cases member
  | status marked => cases member
  | flush stage =>
      cases stage with
      | selecting rows => exact sound row member
      | selected rows => exact sound row member
      | counted rows counts => exact sound.1 row member
      | deleted rows counts => exact sound.1 row member

theorem marking_rows {w : Work} {m : Marking} (marking : w.marking = some m) : w.rows = [] := by
  cases w with
  | follow viewer creator follow stage => rfl
  | status marked => rfl
  | flush stage => cases marking

theorem inserted_eq {w : Work} {m : Marking} (marking : w.marking = some m) :
    w.inserted = m.own.map fun _ => m.target := by
  rw [Work.inserted, marking]
  rfl

theorem shared_eq_some {w : Work} {m : Marking} (marking : w.marking = some m)
    {row : Uuid × RowId} :
    w.shared = some row ↔ m.stage = .marked row.2 ∧ m.target = row.1 := by
  rw [Work.shared, marking, Option.bind_some]
  cases m.stage with
  | marked held =>
      dsimp only
      rw [Option.some.injEq, Prod.ext_iff, MarkStage.marked.injEq]
      exact and_comm
  | insert => simp
  | select => simp
  | read seen => simp

theorem mark_apart {s : State} (sound : Sound s) {tx : TxId} {w w' : Work} {m m' : Marking}
    {fresh : RowId} (before : s.active tx = some w) (marking : w.marking = some m)
    (done : s.mark tx m = some (m', fresh)) (after : w'.marking = some m')
    (advisory : w'.advisory = w.advisory) (shardRow : w'.shardRow = w.shardRow)
    (rows : w'.rows = []) {other : TxId} {o : Work} (different : other ≠ tx)
    (open' : s.active other = some o) : Apart w' o := by
  have apart := sound.apart tx w other o before open' different.symm
  have own := (marking_sound (sound.work tx w before) marking).own
  have locks := sound.work other o open'
  obtain ⟨target, cases⟩ := mark_cases done
  refine ⟨?_, ?_, ?_, ?_, ?_, ?_⟩
  · rw [advisory]
    exact apart.advisory
  · rw [shardRow]
    exact apart.shardRow
  · intro creator here there
    rw [inserted_eq after, target] at here
    rcases cases with plain | ⟨_, _, free⟩ | ⟨row, rfl, _⟩
    · rw [plain.1, ← inserted_eq marking] at here
      exact apart.inserted creator here there
    · have excluded := others_eq_false sound free open' different
      obtain ⟨_, _, rfl⟩ := Option.map_eq_some_iff.mp here
      simp [there] at excluded
    · rw [← inserted_eq marking] at here
      exact apart.inserted creator here there
  · intro row here there
    obtain ⟨stage, same⟩ := (shared_eq_some after).mp here
    have dirty := rows_dirty locks there
    rcases cases with plain | ⟨selecting, _⟩ | ⟨held, rfl, mine | ⟨_, free⟩⟩
    · exact plain.2 row.2 stage
    · rw [selecting] at stage
      cases stage
    · rw [← same, own held mine] at dirty
      cases dirty
    · have excluded := others_eq_false sound free open' different
      obtain rfl := MarkStage.marked.inj stage
      have whole : (m.target, row.2) = row := Prod.ext same rfl
      simp [whole, there] at excluded
  · rw [rows]
    exact fun row _ => List.not_mem_nil
  · rw [rows]
    exact fun row member => absurd member List.not_mem_nil

/-! ### Steps -/

/-- The next statement of a transaction that marks a creator. -/
theorem Sound.mark {s : State} (sound : Sound s) {tx : TxId} {w w' : Work} {m m' : Marking}
    {fresh : RowId} (before : s.active tx = some w) (marking : w.marking = some m)
    (done : s.mark tx m = some (m', fresh)) (after : w'.marking = some m')
    (advisory : w'.advisory = w.advisory) (shardRow : w'.shardRow = w.shardRow)
    (rows : w'.rows = []) (work : WorkSound s.db w') :
    Sound ({ s with nextRow := fresh }.put tx w') :=
  (sound.nextRow fresh).put before work fun _ _ different open' =>
    mark_apart sound before marking done after advisory shardRow rows different open'

theorem Sound.nextFollow {s after : State} (sound : Sound s) {tx : TxId} {viewer creator : Uuid}
    {follow : Bool} {stage : FollowStage}
    (before : s.active tx = some (.follow viewer creator follow stage))
    (done : s.nextFollow tx viewer creator follow stage = some after) : Sound after := by
  cases stage with
  | begun =>
      simp only [State.nextFollow] at done
      split at done
      · cases done
      · rename_i free
        obtain rfl := Option.some.inj done
        refine sound.put before trivial ?_
        intro other o different open'
        have apart := sound.apart tx _ other o before open' different.symm
        have excluded := others_eq_false sound (by simpa using free) open' different
        refine ⟨?_, apart.shardRow, apart.inserted, apart.shared, apart.shared', apart.rows⟩
        intro held here there
        obtain rfl := Option.some.inj here
        simp [there] at excluded
  | locked =>
      simp only [State.nextFollow] at done
      split at done
      · cases done
      · split at done
        · obtain rfl := Option.some.inj done
          exact sound.put_holds before trivial ⟨fun _ same => same, fun _ same => same,
            fun _ same => same, fun _ same => same, fun _ same => same⟩
        · rename_i changes
          obtain rfl := Option.some.inj done
          refine sound.put_holds before ?_ ⟨fun _ same => same, fun _ same => same,
            fun _ same => same, fun _ same => same, fun _ same => same⟩
          show (viewer, creator) ∈ s.db.follows ↔ follow = false
          cases follow with
          | true => simpa using changes
          | false => simpa using changes
  | unchanged => cases done
  | written =>
      simp only [State.nextFollow] at done
      split at done
      · cases done
      · rename_i free
        obtain rfl := Option.some.inj done
        have changes : Changes s.db viewer creator follow := sound.work tx _ before
        have unmarked := unmarked_sound s.db creator
        refine sound.put before ⟨changes, rfl, rfl, unmarked⟩ ?_
        intro other o different open'
        have apart := sound.apart tx _ other o before open' different.symm
        have excluded := others_eq_false sound (by simpa using free) open' different
        refine ⟨apart.advisory, ?_, apart.inserted, apart.shared, apart.shared', apart.rows⟩
        intro held here there
        obtain rfl := Option.some.inj here
        simp [there] at excluded
  | counted shard m =>
      obtain ⟨⟨m', fresh⟩, marked, rfl⟩ := Option.map_eq_some_iff.mp done
      have work : WorkSound s.db (.follow viewer creator follow (.counted shard m)) :=
        sound.work tx _ before
      have kept := mark_sound work.2.2.2 marked
      exact sound.mark before rfl marked rfl rfl rfl rfl
        ⟨work.1, work.2.1, kept.2.trans work.2.2.1, kept.1⟩

theorem Sound.nextFlush {s after : State} (sound : Sound s) {tx : TxId} {stage : FlushStage}
    (before : s.active tx = some (.flush stage)) (done : s.nextFlush tx stage = some after) :
    Sound after := by
  have work := sound.work tx _ before
  cases stage with
  | selecting rows =>
      simp only [State.nextFlush] at done
      split at done
      · cases done
      · obtain rfl := Option.some.inj done
        exact sound.put_holds before work ⟨fun _ same => same, fun _ same => same,
          fun _ same => same, fun _ same => same, fun _ same => same⟩
  | selected rows =>
      obtain rfl := Option.some.inj done
      exact sound.put_holds before ⟨work, rfl⟩ ⟨fun _ same => same, fun _ same => same,
        fun _ same => same, fun _ same => same, fun _ same => same⟩
  | counted rows counts =>
      obtain rfl := Option.some.inj done
      exact sound.put_holds before work ⟨fun _ same => same, fun _ same => same,
        fun _ same => same, fun _ same => same, fun _ same => same⟩
  | deleted rows counts => cases done

theorem Sound.next {s after : State} (sound : Sound s) {tx : TxId} {w : Work}
    (before : s.active tx = some w) (done : s.next tx w = some after) : Sound after := by
  cases w with
  | follow viewer creator follow stage => exact sound.nextFollow before done
  | status m =>
      obtain ⟨⟨m', fresh⟩, marked, rfl⟩ := Option.map_eq_some_iff.mp done
      have kept := mark_sound (sound.work tx _ before) marked
      exact sound.mark before rfl marked rfl rfl rfl rfl kept.1
  | flush stage => exact sound.nextFlush before done

theorem Sound.lock {s after : State} (sound : Sound s) {tx : TxId} {creator : Uuid} {w : Work}
    (before : s.active tx = some w) (done : s.lock tx creator w = some after) : Sound after := by
  unfold State.lock at done
  split at done
  · rename_i rows
    split at done
    · cases done
    · rename_i row dirty
      split at done
      · cases done
      · rename_i free
        obtain rfl := Option.some.inj done
        rw [not_or, not_or] at free
        have work : WorkSound s.db (.flush (.selecting rows)) := sound.work tx _ before
        refine sound.put before ?_ ?_
        · intro held member
          rcases List.mem_append.mp member with old | new
          · exact work held old
          · rw [List.mem_singleton.mp new]
            exact dirty
        · intro other o different open'
          have apart := sound.apart tx _ other o before open' different.symm
          have excluded := others_eq_false sound (by simpa using free.2.2) open' different
          rw [Bool.or_eq_false_iff] at excluded
          refine ⟨apart.advisory, apart.shardRow, apart.inserted, apart.shared, ?_, ?_⟩
          · intro held here member
            rcases List.mem_append.mp member with old | new
            · exact apart.shared' held here old
            · rw [List.mem_singleton.mp new] at here
              simp [here] at excluded
          · intro held member there
            rcases List.mem_append.mp member with old | new
            · exact apart.rows held old there
            · rw [List.mem_singleton.mp new] at there
              simp [there] at excluded
  · cases done

/-! ### Commits -/

theorem sum_congr {db db' : Database} {creator : Uuid}
    (same : ∀ shard, db'.shards creator shard = db.shards creator shard) :
    db'.sum creator = db.sum creator := by
  unfold Database.sum
  simp only [same]

/-- What a commit has to leave as it is for an open transaction. -/
theorem WorkSound.frame {db db' : Database} {o : Work} (sound : WorkSound db o)
    (follows : ∀ viewer creator, o.advisory = some viewer →
      ((viewer, creator) ∈ db'.follows ↔ (viewer, creator) ∈ db.follows))
    (shards : ∀ shard, o.shardRow = some shard →
      db'.shards shard.1 shard.2 = db.shards shard.1 shard.2)
    (marks : ∀ m, o.marking = some m → MarkSound db m → MarkSound db' m)
    (rows : ∀ row ∈ o.rows, db.dirty row.1 = some row.2 →
      db'.dirty row.1 = some row.2 ∧ db'.sum row.1 = db.sum row.1) : WorkSound db' o := by
  cases o with
  | follow viewer creator follow stage =>
      cases stage with
      | begun => trivial
      | locked => trivial
      | unchanged => trivial
      | written => exact (follows viewer creator rfl).trans sound
      | counted shard m =>
          refine ⟨(follows viewer creator rfl).trans sound.1, ?_, sound.2.2.1,
            marks m rfl sound.2.2.2⟩
          rw [shards (creator, bucket viewer) rfl]
          exact sound.2.1
  | status m => exact marks m rfl sound
  | flush stage =>
      have dirty : ∀ row ∈ stage.rows, db.dirty row.1 = some row.2 :=
        fun row member => rows_dirty sound member
      have held : ∀ row ∈ stage.rows, db'.dirty row.1 = some row.2 :=
        fun row member => (rows row member (dirty row member)).1
      have sums (taken : List (Uuid × RowId)) (within : ∀ row ∈ taken, row ∈ stage.rows) :
          (taken.map fun row => (row.1, db.sum row.1)) =
            taken.map fun row => (row.1, db'.sum row.1) := by
        apply List.map_congr_left
        intro row member
        rw [(rows row (within row member) (dirty row (within row member))).2]
      cases stage with
      | selecting taken => exact held
      | selected taken => exact held
      | counted taken counts => exact ⟨held, sound.2.trans (sums taken fun _ member => member)⟩
      | deleted taken counts => exact ⟨held, sound.2.trans (sums taken fun _ member => member)⟩

theorem close_active {s : State} {tx other : TxId} {o : Work}
    (open' : (s.close tx).active other = some o) : other ≠ tx ∧ s.active other = some o := by
  have open' : Function.update s.active tx none other = some o := open'
  by_cases same : other = tx
  · subst same
    rw [Function.update_self] at open'
    cases open'
  · rw [Function.update_of_ne same] at open'
    exact ⟨same, open'⟩

theorem Sound.close {s : State} (sound : Sound s) (tx : TxId) : Sound (s.close tx) where
  known other o open' := sound.known other o (close_active open').2
  once := sound.once
  counted := sound.counted
  projected := sound.projected
  work other o open' := sound.work other o (close_active open').2
  apart one o other o' open' there different :=
    sound.apart one o other o' (close_active open').2 (close_active there).2 different

/-- No flush has the row of a creator whom a transaction has marked. -/
theorem Sound.unheld {s : State} (sound : Sound s) {tx : TxId} {w : Work} {m : Marking}
    {row : RowId} (before : s.active tx = some w) (marking : w.marking = some m)
    (stage : m.stage = .marked row) {other : TxId} {o : Work} (different : other ≠ tx)
    (open' : s.active other = some o) {held : Uuid × RowId} (member : held ∈ o.rows) :
    held.1 ≠ m.target := by
  intro same
  have apart := sound.apart tx w other o before open' different.symm
  have own := marking_sound (sound.work tx w before) marking
  have dirty := rows_dirty (sound.work other o open') member
  rw [same] at dirty
  rcases own.marked row stage with mine | ⟨_, there⟩
  · rw [own.own row mine] at dirty
    cases dirty
  · have version : row = held.2 := Option.some.inj (there.symm.trans dirty)
    have shared : w.shared = some held :=
      (shared_eq_some marking).mpr ⟨version ▸ stage, same.symm⟩
    exact apart.shared held shared member

theorem Sound.insertRow {s : State} (sound : Sound s) {target : Uuid} {own : Option RowId}
    (absent : ∀ row, own = some row → s.db.dirty target = none)
    (alone : ∀ tx o, s.active tx = some o → own.isSome → o.inserted ≠ some target)
    (unheld : ∀ tx o, s.active tx = some o → ∀ held ∈ o.rows, held.1 ≠ target) :
    Sound { s with db := s.db.insertRow target own } := by
  cases own with
  | none => exact sound
  | some row =>
      have elsewhere {creator : Uuid} (different : creator ≠ target) :
          (s.db.insertRow target (some row)).dirty creator = s.db.dirty creator :=
        Function.update_of_ne different _ _
      refine ⟨sound.known, sound.once, sound.counted, ?_, ?_, sound.apart⟩
      · intro creator behind
        have queued := sound.projected creator behind
        by_cases same : creator = target
        · subst same
          simp [Database.insertRow]
        · rw [elsewhere same]
          exact queued
      · intro tx o open'
        refine (sound.work tx o open').frame (fun _ _ _ => Iff.rfl) (fun _ _ => rfl) ?_ ?_
        · intro m marking marked
          by_cases same : m.target = target
          · constructor
            · intro mine own
              have inserted : o.inserted = some target := by
                rw [inserted_eq marking, own, same]
                rfl
              exact absurd inserted (alone tx o open' rfl)
            · intro held stage
              refine (marked.marked held stage).imp_right ?_
              rintro ⟨_, there⟩
              rw [same, absent row rfl] at there
              cases there
          · constructor
            · intro mine own
              rw [elsewhere same]
              exact marked.own mine own
            · intro held stage
              rw [elsewhere same]
              exact marked.marked held stage
        · intro held member there
          rw [elsewhere (unheld tx o open' held member)]
          exact ⟨there, rfl⟩

theorem writeFollow_shards {db : Database} {viewer creator : Uuid} {follow : Bool}
    {moved : Option Nat} {other : Uuid} {shard : Fin 64}
    (different : (other, shard) ≠ (creator, bucket viewer)) :
    (db.writeFollow viewer creator follow moved).shards other shard = db.shards other shard := by
  unfold Database.writeFollow
  dsimp only
  by_cases same : other = creator
  · subst same
    rw [Function.update_self, Function.update_of_ne]
    rintro rfl
    exact different rfl
  · rw [Function.update_of_ne same]

theorem mem_writeFollow {db : Database} (once : db.follows.Nodup) {viewer creator : Uuid}
    {follow : Bool} {moved : Option Nat} {viewer' creator' : Uuid} (different : viewer' ≠ viewer) :
    (viewer', creator') ∈ (db.writeFollow viewer creator follow moved).follows ↔
      (viewer', creator') ∈ db.follows := by
  have apart : (viewer', creator') ≠ (viewer, creator) :=
    fun same => different (Prod.ext_iff.mp same).1
  cases follow with
  | true => simp [Database.writeFollow, different]
  | false => simp [Database.writeFollow, once.mem_erase_iff, apart]

/-- A changed row counts in its own shard only. -/
theorem writeFollow_followers {db : Database} {viewer creator : Uuid} {follow : Bool}
    (changes : Changes db viewer creator follow) (moved : Option Nat) (other : Uuid)
    (shard : Fin 64) :
    if follow then
      (db.writeFollow viewer creator follow moved).followers other shard =
        db.followers other shard + if (other, shard) = (creator, bucket viewer) then 1 else 0
    else
      db.followers other shard =
        (db.writeFollow viewer creator follow moved).followers other shard +
          if (other, shard) = (creator, bucket viewer) then 1 else 0 := by
  have own : (creator == other && bucket viewer == shard) =
      decide ((other, shard) = (creator, bucket viewer)) := by
    rw [Bool.beq_eq_decide_eq, Bool.beq_eq_decide_eq, ← Bool.decide_and, decide_eq_decide,
      Prod.mk.injEq, eq_comm (a := creator), eq_comm (a := bucket viewer)]
  unfold Database.followers Database.writeFollow
  cases follow with
  | true => simp [List.countP_cons, own]
  | false =>
      have member : (viewer, creator) ∈ db.follows := changes.mpr rfl
      have perm := (List.perm_cons_erase member).countP_eq fun row =>
        row.2 == other && bucket row.1 == shard
      simp only [List.countP_cons, own] at perm
      simpa using perm

theorem writeFollow_counted {db : Database} {viewer creator : Uuid} {follow : Bool}
    {moved : Option Nat} (changes : Changes db viewer creator follow)
    (isMoved : moved = moveShard follow (db.shards creator (bucket viewer)))
    (counted : ∀ other shard, (db.shards other shard).getD 0 = db.followers other shard)
    (other : Uuid) (shard : Fin 64) :
    ((db.writeFollow viewer creator follow moved).shards other shard).getD 0 =
      (db.writeFollow viewer creator follow moved).followers other shard := by
  have before := counted other shard
  have followers := writeFollow_followers changes moved other shard
  by_cases same : (other, shard) = (creator, bucket viewer)
  · have version : (db.writeFollow viewer creator follow moved).shards other shard = moved := by
      cases same
      simp [Database.writeFollow]
    have count : moved.getD 0 = if follow then (db.shards other shard).getD 0 + 1
        else (db.shards other shard).getD 0 - 1 := by
      rw [isMoved, moveShard]
      cases same
      cases follow with
      | true => rfl
      | false => cases db.shards creator (bucket viewer) <;> rfl
    rw [version, count]
    rw [if_pos same] at followers
    cases follow with
    | true =>
        rw [if_pos rfl] at followers ⊢
        omega
    | false =>
        rw [if_neg Bool.false_ne_true] at followers ⊢
        omega
  · rw [writeFollow_shards same, before]
    rw [if_neg same] at followers
    cases follow with
    | true => exact followers.symm
    | false => exact followers

theorem Sound.writeFollow {s : State} (sound : Sound s) {viewer creator : Uuid} {follow : Bool}
    {moved : Option Nat} (changes : Changes s.db viewer creator follow)
    (isMoved : moved = moveShard follow (s.db.shards creator (bucket viewer)))
    (queued : (s.db.dirty creator).isSome)
    (advisory : ∀ tx o, s.active tx = some o → o.advisory ≠ some viewer)
    (shardRow : ∀ tx o, s.active tx = some o → o.shardRow ≠ some (creator, bucket viewer))
    (unheld : ∀ tx o, s.active tx = some o → ∀ held ∈ o.rows, held.1 ≠ creator) :
    Sound { s with db := s.db.writeFollow viewer creator follow moved } := by
  have sums {other : Uuid} (different : other ≠ creator) :
      (s.db.writeFollow viewer creator follow moved).sum other = s.db.sum other :=
    sum_congr fun shard => writeFollow_shards fun same => different (Prod.ext_iff.mp same).1
  refine ⟨sound.known, ?_, ?_, ?_, ?_, sound.apart⟩
  · cases follow with
    | true =>
        have new : (viewer, creator) ∉ s.db.follows := fun member =>
          Bool.noConfusion (changes.mp member)
        exact List.nodup_cons.mpr ⟨new, sound.once⟩
    | false => exact sound.once.erase _
  · exact writeFollow_counted changes isMoved sound.counted
  · intro other behind
    by_cases same : other = creator
    · exact same ▸ queued
    · exact sound.projected other (sums same ▸ behind)
  · intro tx o open'
    refine (sound.work tx o open').frame ?_ ?_
      (fun _ _ marked => ⟨marked.own, marked.marked⟩) ?_
    · intro viewer' other held
      apply mem_writeFollow sound.once
      rintro rfl
      exact advisory tx o open' held
    · intro shard held
      apply writeFollow_shards
      intro same
      exact shardRow tx o open' (held.trans (congrArg some same))
    · intro held member there
      exact ⟨there, sums (unheld tx o open' held member)⟩

theorem writeCounts_count {db : Database} {rows : List (Uuid × RowId)}
    {counts : List (Uuid × Nat)} (summed : counts = rows.map fun row => (row.1, db.sum row.1))
    (creator : Uuid) : (db.writeCounts rows counts).followerCount creator =
      if rows.any (fun row => row.1 == creator) then db.sum creator
      else db.followerCount creator := by
  unfold Database.writeCounts
  dsimp only
  rw [summed, List.find?_map]
  cases found : rows.find? ((fun count : Uuid × Nat => count.1 == creator) ∘
      fun row => (row.1, db.sum row.1)) with
  | none =>
      have absent : rows.any (fun row => row.1 == creator) = false := by
        rw [List.any_eq_false]
        exact List.find?_eq_none.mp found
      rw [absent]
      rfl
  | some row =>
      have same : row.1 = creator := by simpa using List.find?_some found
      have present : rows.any (fun row => row.1 == creator) = true :=
        List.any_eq_true.mpr ⟨row, List.mem_of_find?_eq_some found, by simpa using same⟩
      rw [present, Option.map_some, if_pos rfl, ← same]

theorem Sound.writeCounts {s : State} (sound : Sound s) {rows : List (Uuid × RowId)}
    {counts : List (Uuid × Nat)} (held : ∀ row ∈ rows, s.db.dirty row.1 = some row.2)
    (summed : counts = rows.map fun row => (row.1, s.db.sum row.1))
    (shared : ∀ tx o, s.active tx = some o → ∀ row, o.shared = some row → row ∉ rows)
    (apart : ∀ tx o, s.active tx = some o → ∀ row ∈ rows, row ∉ o.rows) :
    Sound { s with db := s.db.writeCounts rows counts } := by
  have gone {creator : Uuid} (absent : s.db.dirty creator = none) :
      (s.db.writeCounts rows counts).dirty creator = none := by
    unfold Database.writeCounts
    dsimp only
    rw [absent, ite_self]
  have stays {creator : Uuid} {row : RowId} (present : s.db.dirty creator = some row)
      (free : (creator, row) ∉ rows) :
      (s.db.writeCounts rows counts).dirty creator = some row := by
    have absent : rows.any (fun row => row.1 == creator) = false := by
      rw [List.any_eq_false]
      intro other member same
      obtain rfl := beq_iff_eq.mp same
      have version := Option.some.inj (present.symm.trans (held other member))
      exact free (version ▸ member)
    unfold Database.writeCounts
    dsimp only
    rw [absent, present]
    rfl
  refine ⟨sound.known, sound.once, sound.counted, ?_, ?_, sound.apart⟩
  · intro creator behind
    have count := writeCounts_count summed creator
    cases flushed : rows.any fun row => row.1 == creator with
    | true =>
        rw [flushed, if_pos rfl] at count
        exact absurd count behind
    | false =>
        rw [flushed, if_neg Bool.false_ne_true] at count
        have queued := sound.projected creator (count ▸ behind)
        unfold Database.writeCounts
        dsimp only
        rw [flushed]
        exact queued
  · intro tx o open'
    refine (sound.work tx o open').frame (fun _ _ _ => Iff.rfl) (fun _ _ => rfl) ?_ ?_
    · intro m marking marked
      refine ⟨fun row own => gone (marked.own row own), ?_⟩
      intro row stage
      refine (marked.marked row stage).imp_right ?_
      rintro ⟨own, present⟩
      have locked : o.shared = some (m.target, row) := (shared_eq_some marking).mpr ⟨stage, rfl⟩
      exact ⟨own, stays present (shared tx o open' _ locked)⟩
    · intro row member present
      exact ⟨stays present fun flushed => apart tx o open' row flushed member, rfl⟩

theorem Sound.commit {s after : State} (sound : Sound s) {tx : TxId} {w : Work}
    (before : s.active tx = some w) (done : s.commit tx w = some after) : Sound after := by
  have others {other : TxId} {o : Work} (open' : (s.close tx).active other = some o) :
      other ≠ tx ∧ s.active other = some o ∧ Apart w o := by
    obtain ⟨different, old⟩ := close_active open'
    exact ⟨different, old, sound.apart tx w other o before old different.symm⟩
  have insert {m : Marking} {row : RowId} (marking : w.marking = some m)
      (stage : m.stage = .marked row) :
      Sound { s.close tx with db := s.db.insertRow m.target m.own } := by
    have own := marking_sound (sound.work tx w before) marking
    apply (sound.close tx).insertRow own.own
    · intro other o open' mine
      have inserted : w.inserted = some m.target := by
        rw [inserted_eq marking]
        cases found : m.own with
        | none =>
            rw [found] at mine
            cases mine
        | some row => rfl
      exact (others open').2.2.inserted m.target inserted
    · intro other o open' held member
      exact sound.unheld before marking stage (others open').1 (others open').2.1 member
  unfold State.commit at done
  split at done
  · obtain rfl := Option.some.inj done
    exact sound.close tx
  · rename_i viewer creator follow shard target own row
    obtain rfl := Option.some.inj done
    have work : WorkSound s.db (.follow viewer creator follow
      (.counted shard ⟨target, own, .marked row⟩)) := sound.work tx _ before
    have inserted := insert rfl rfl
    have same : target = creator := work.2.2.1
    subst same
    have queued : ((s.db.insertRow target own).dirty target).isSome := by
      cases own with
      | some row => simp [Database.insertRow]
      | none =>
          rcases work.2.2.2.marked row rfl with mine | ⟨_, present⟩
          · cases mine
          · exact Option.isSome_iff_exists.mpr ⟨row, present⟩
    have order : (s.db.writeFollow viewer target follow shard).insertRow target own =
        (s.db.insertRow target own).writeFollow viewer target follow shard := by
      cases own with
      | none => rfl
      | some row => rfl
    have same : (s.db.insertRow target own).follows = s.db.follows ∧
        (s.db.insertRow target own).shards = s.db.shards := by
      cases own with
      | none => exact ⟨rfl, rfl⟩
      | some row => exact ⟨rfl, rfl⟩
    rw [order]
    apply inserted.writeFollow _ _ queued
    · intro other o open' held
      exact (others open').2.2.advisory viewer rfl held
    · intro other o open' held
      exact (others open').2.2.shardRow (target, bucket viewer) rfl held
    · intro other o open' held member
      exact sound.unheld before rfl rfl (others open').1 (others open').2.1 member
    · unfold Changes
      rw [same.1]
      exact work.1
    · rw [same.2]
      exact work.2.1
  · obtain rfl := Option.some.inj done
    exact insert rfl rfl
  · rename_i rows counts
    obtain rfl := Option.some.inj done
    have work : WorkSound s.db (.flush (.deleted rows counts)) := sound.work tx _ before
    apply (sound.close tx).writeCounts work.1 work.2
    · intro other o open' row shared
      exact (others open').2.2.shared' row shared
    · intro other o open' row member
      exact (others open').2.2.rows row member
  · cases done

/-! ### Runs -/

theorem Sound.begin {s : State} (sound : Sound s) {w : Work} (work : WorkSound s.db w)
    (unlocked : w.advisory = none ∧ w.shardRow = none ∧ w.inserted = none ∧ w.shared = none ∧
      w.rows = []) : Sound (s.begin w) := by
  obtain ⟨advisory, shardRow, inserted, shared, rows⟩ := unlocked
  have apart (o : Work) : Apart w o := by
    refine ⟨?_, ?_, ?_, ?_, ?_, ?_⟩
    · simp [advisory]
    · simp [shardRow]
    · simp [inserted]
    · simp [shared]
    · simp [rows]
    · simp [rows]
  refine ⟨?_, sound.once, sound.counted, sound.projected, ?_, ?_⟩
  · intro tx o open'
    rcases put_active open' with ⟨rfl, _⟩ | ⟨_, old⟩
    · exact Nat.lt_succ_self _
    · exact Nat.lt_succ_of_lt (sound.known tx o old)
  · intro tx o open'
    rcases put_active open' with ⟨_, rfl⟩ | ⟨_, old⟩
    · exact work
    · exact sound.work tx o old
  · intro one o other o' open' there different
    rcases put_active open' with ⟨rfl, rfl⟩ | ⟨_, old⟩
    · exact apart o'
    · rcases put_active there with ⟨_, rfl⟩ | ⟨_, old'⟩
      · exact (apart o).symm
      · exact sound.apart one o other o' old old' different

theorem Sound.step {s : State} (sound : Sound s) (input : Input) : Sound (s.step input) := by
  have attempted {after : Option State} (each : ∀ t, after = some t → Sound t) :
      Sound (after.getD s) := by
    cases after with
    | none => exact sound
    | some t => exact each t rfl
  cases input with
  | follow viewer creator follow => exact sound.begin trivial ⟨rfl, rfl, rfl, rfl, rfl⟩
  | status creator =>
      exact sound.begin (unmarked_sound s.db creator) ⟨rfl, rfl, rfl, rfl, rfl⟩
  | flush =>
      refine sound.begin ?_ ⟨rfl, rfl, rfl, rfl, rfl⟩
      intro row member
      cases member
  | next tx =>
      apply attempted
      intro t done
      obtain ⟨w, before, done⟩ := Option.bind_eq_some_iff.mp done
      exact sound.next before done
  | lock tx creator =>
      apply attempted
      intro t done
      obtain ⟨w, before, done⟩ := Option.bind_eq_some_iff.mp done
      exact sound.lock before done
  | commit tx =>
      apply attempted
      intro t done
      obtain ⟨w, before, done⟩ := Option.bind_eq_some_iff.mp done
      exact sound.commit before done
  | rollback tx => exact sound.close tx

theorem Sound.empty : Sound .empty where
  known _ _ open' := by cases open'
  once := List.nodup_nil
  counted _ _ := rfl
  projected creator behind := by
    have zero : Database.empty.sum creator = 0 := by
      simp [Database.sum, Database.empty]
    exact absurd zero.symm behind
  work _ _ open' := by cases open'
  apart _ _ _ _ open' := by cases open'

theorem sound_reached {s : State} (reached : Reachable State.step .empty s) : Sound s :=
  reached.induct Sound .empty fun _ input sound => sound.step input

/-! ### The loop ends -/

def State.marking (s : State) (tx : TxId) : Option Marking := (s.active tx).bind Work.marking

/-- The input commits a `FlushCounts`. -/
def State.flushes (s : State) : Input → Prop
  | .commit tx => ∃ stage, s.active tx = some (.flush stage)
  | _ => False

/-- No flush has the creator's row. -/
def State.free (s : State) (creator : Uuid) : Prop :=
  ∀ tx w, s.active tx = some w → ∀ row ∈ w.rows, row.1 ≠ creator

/-- After an `INSERT` of the loop and as long as no flush commits, the `SELECT` finds a row, and
locks it where no flush has it: there is no second `INSERT`. -/
def State.retryEnds (s : State) (tx : TxId) : Prop :=
  ∀ m m', s.marking tx = some m → m.stage = .insert →
    (s.step (.next tx)).marking tx = some m' → m'.stage = .select →
    ∀ inputs, Along State.step (fun state input => ¬ state.flushes input) (s.step (.next tx))
      inputs →
    ∀ now, (run State.step (s.step (.next tx)) inputs).marking tx = some now →
      (now.stage ≠ .insert ∧ now.stage ≠ .read none) ∧
      ((run State.step (s.step (.next tx)) inputs).free now.target →
        ∃ row, (((run State.step (s.step (.next tx)) inputs).step (.next tx)).step
          (.next tx)).marking tx = some { now with stage := .marked row })

/-- The statement after the insert finds the row. -/
def Seen (db : Database) (m : Marking) : Prop :=
  match m.stage with
  | .insert => False
  | .select => m.own.isSome ∨ (db.dirty m.target).isSome
  | .read seen => ∃ row, seen = some row ∧ (m.own = some row ∨ db.dirty m.target = some row)
  | .marked _ => True

theorem mark_seen {s : State} {tx : TxId} {m m' : Marking} {fresh : RowId} (seen : Seen s.db m)
    (done : s.mark tx m = some (m', fresh)) : Seen s.db m' := by
  unfold State.mark at done
  unfold Seen at seen
  split at done
  · rename_i stage
    rw [stage] at seen
    exact seen.elim
  · rename_i stage
    rw [stage] at seen
    cases done
    show ∃ row, m.own.or (s.db.dirty m.target) = some row ∧
      (m.own = some row ∨ s.db.dirty m.target = some row)
    cases own : m.own with
    | some row => exact ⟨row, rfl, Or.inl rfl⟩
    | none =>
        have present : (s.db.dirty m.target).isSome := by simpa [own] using seen
        obtain ⟨row, present⟩ := Option.isSome_iff_exists.mp present
        exact ⟨row, present, Or.inr present⟩
  · rename_i stage
    rw [stage] at seen
    obtain ⟨row, none, _⟩ := seen
    cases none
  · rename_i row stage
    rw [stage] at seen
    obtain ⟨_, same, there⟩ := seen
    obtain rfl := Option.some.inj same
    split at done
    · cases done
      trivial
    · rename_i other
      split at done
      · cases done
      · split at done
        · cases done
          trivial
        · rename_i absent
          exact absurd (there.resolve_left other) absent
  · cases done

theorem Seen.later {db db' : Database} {m : Marking} (seen : Seen db m)
    (stays : ∀ row, db.dirty m.target = some row → db'.dirty m.target = some row) : Seen db' m := by
  unfold Seen at *
  cases stage : m.stage with
  | insert =>
      rw [stage] at seen
      exact seen.elim
  | select =>
      rw [stage] at seen
      refine seen.imp_right ?_
      intro present
      obtain ⟨row, present⟩ := Option.isSome_iff_exists.mp present
      exact Option.isSome_iff_exists.mpr ⟨row, stays row present⟩
  | read found =>
      rw [stage] at seen
      obtain ⟨row, same, there⟩ := seen
      exact ⟨row, same, there.imp_right (stays row)⟩
  | marked row => trivial

/-- Only a flush takes a row out. -/
theorem commit_dirty {s after : State} (sound : Sound s) {tx : TxId} {w : Work}
    (before : s.active tx = some w) (done : s.commit tx w = some after)
    (unflushed : ∀ stage, w ≠ .flush stage) {creator : Uuid} {row : RowId}
    (present : s.db.dirty creator = some row) : after.db.dirty creator = some row := by
  have inserts {db : Database} {target : Uuid} {own : Option RowId}
      (same : db.dirty = s.db.dirty)
      (absent : ∀ mine, own = some mine → s.db.dirty target = none) :
      (db.insertRow target own).dirty creator = some row := by
    cases own with
    | none =>
        rw [← present, ← same]
        rfl
    | some mine =>
        have different : creator ≠ target := by
          rintro rfl
          rw [absent mine rfl] at present
          cases present
        rw [← present, ← same]
        exact Function.update_of_ne different _ _
  unfold State.commit at done
  split at done
  · cases done
    exact present
  · cases done
    exact inserts rfl (marking_sound (sound.work tx _ before) rfl).own
  · cases done
    exact inserts rfl (marking_sound (sound.work tx _ before) rfl).own
  · exact absurd rfl (unflushed _)
  · cases done

/-- The work with another state of its loop. -/
def Work.remark (m : Marking) : Work → Work
  | .follow viewer creator asked (.counted shard _) =>
    .follow viewer creator asked (.counted shard m)
  | .status _ => .status m
  | w => w

theorem next_marking {s : State} {tx : TxId} {w : Work} {m : Marking}
    (marking : w.marking = some m) : s.next tx w = (s.mark tx m).map fun marked =>
      { s with nextRow := marked.2 }.put tx (w.remark marked.1) := by
  cases w with
  | follow viewer creator follow stage =>
      cases stage with
      | counted shard marked =>
          obtain rfl := Option.some.inj marking
          rfl
      | begun => cases marking
      | locked => cases marking
      | unchanged => cases marking
      | written => cases marking
  | status marked =>
      obtain rfl := Option.some.inj marking
      rfl
  | flush stage => cases marking

theorem remark_marking {w : Work} {m : Marking} (marking : w.marking = some m) (m' : Marking) :
    (w.remark m').marking = some m' := by
  cases w with
  | follow viewer creator follow stage =>
      cases stage with
      | counted shard marked => rfl
      | begun => cases marking
      | locked => cases marking
      | unchanged => cases marking
      | written => cases marking
  | status marked => rfl
  | flush stage => cases marking

/-- A transaction that has ended, or whose loop finds its row. -/
structure Finds (s : State) (tx : TxId) : Prop where
  known : tx < s.nextTx
  seen : s.active tx = none ∨ ∃ w m, s.active tx = some w ∧ w.marking = some m ∧ Seen s.db m

theorem Finds.elsewhere {s t : State} {tx : TxId} (finds : Finds s tx) (known : s.nextTx ≤ t.nextTx)
    (active : t.active tx = s.active tx)
    (stays : ∀ creator row, s.db.dirty creator = some row → t.db.dirty creator = some row) :
    Finds t tx := by
  refine ⟨finds.known.trans_le known, ?_⟩
  rw [active]
  refine finds.seen.imp_right ?_
  rintro ⟨w, m, before, marking, seen⟩
  exact ⟨w, m, before, marking, seen.later (stays m.target)⟩

/-- A statement of a transaction changes nothing of the others. -/
structure Touches (s t : State) (tx : TxId) : Prop where
  nextTx : t.nextTx = s.nextTx
  active : ∀ other, other ≠ tx → t.active other = s.active other

theorem put_touches (s : State) (tx : TxId) (w : Work) (fresh : RowId) :
    ({ s with nextRow := fresh }.put tx w).db = s.db ∧
      Touches s ({ s with nextRow := fresh }.put tx w) tx :=
  ⟨rfl, rfl, fun _ different => Function.update_of_ne different _ _⟩

theorem next_touches {s t : State} {tx : TxId} {w : Work} (done : s.next tx w = some t) :
    t.db = s.db ∧ Touches s t tx := by
  cases w with
  | follow viewer creator follow stage =>
      cases stage with
      | begun =>
          simp only [State.next, State.nextFollow] at done
          split at done
          · cases done
          · obtain rfl := Option.some.inj done
            exact put_touches s tx _ s.nextRow
      | locked =>
          simp only [State.next, State.nextFollow] at done
          split at done
          · cases done
          · split at done
            · obtain rfl := Option.some.inj done
              exact put_touches s tx _ s.nextRow
            · obtain rfl := Option.some.inj done
              exact put_touches s tx _ s.nextRow
      | unchanged => cases done
      | written =>
          simp only [State.next, State.nextFollow] at done
          split at done
          · cases done
          · obtain rfl := Option.some.inj done
            exact put_touches s tx _ s.nextRow
      | counted shard m =>
          obtain ⟨marked, _, rfl⟩ := Option.map_eq_some_iff.mp done
          exact put_touches s tx _ marked.2
  | status m =>
      obtain ⟨marked, _, rfl⟩ := Option.map_eq_some_iff.mp done
      exact put_touches s tx _ marked.2
  | flush stage =>
      cases stage with
      | selecting rows =>
          simp only [State.next, State.nextFlush] at done
          split at done
          · cases done
          · obtain rfl := Option.some.inj done
            exact put_touches s tx _ s.nextRow
      | selected rows =>
          obtain rfl := Option.some.inj done
          exact put_touches s tx _ s.nextRow
      | counted rows counts =>
          obtain rfl := Option.some.inj done
          exact put_touches s tx _ s.nextRow
      | deleted rows counts => cases done

theorem lock_touches {s t : State} {tx : TxId} {creator : Uuid} {w : Work}
    (done : s.lock tx creator w = some t) : (t.db = s.db ∧ Touches s t tx) ∧ w.marking = none := by
  unfold State.lock at done
  split at done
  · split at done
    · cases done
    · split at done
      · cases done
      · obtain rfl := Option.some.inj done
        exact ⟨put_touches s tx _ s.nextRow, rfl⟩
  · cases done

theorem commit_touches {s t : State} {tx : TxId} {w : Work} (done : s.commit tx w = some t) :
    Touches s t tx ∧ t.active tx = none := by
  have closes (db : Database) : Touches s { s.close tx with db } tx ∧
      ({ s.close tx with db } : State).active tx = none :=
    ⟨⟨rfl, fun _ different => Function.update_of_ne different _ _⟩, Function.update_self _ _ _⟩
  unfold State.commit at done
  split at done
  · obtain rfl := Option.some.inj done
    exact closes s.db
  · obtain rfl := Option.some.inj done
    exact closes _
  · obtain rfl := Option.some.inj done
    exact closes _
  · obtain rfl := Option.some.inj done
    exact closes _
  · cases done

theorem Finds.touched {s t : State} {tx other : TxId} (finds : Finds s tx) (different : tx ≠ other)
    (touches : Touches s t other)
    (stays : ∀ creator row, s.db.dirty creator = some row → t.db.dirty creator = some row) :
    Finds t tx :=
  finds.elsewhere touches.nextTx.ge (touches.active tx different) stays

theorem Finds.ended {s : State} {tx : TxId} (known : tx < s.nextTx) (none : s.active tx = none) :
    Finds s tx :=
  ⟨known, Or.inl none⟩

theorem Finds.step {s : State} (sound : Sound s) {tx : TxId} (finds : Finds s tx) {input : Input}
    (unflushed : ¬ s.flushes input) : Finds (s.step input) tx := by
  have begins (w : Work) : Finds (s.begin w) tx := by
    refine finds.elsewhere (Nat.le_succ _) ?_ fun _ _ present => present
    exact Function.update_of_ne (Nat.ne_of_lt finds.known) _ _
  have attempted {after : Option State} (each : ∀ t, after = some t → Finds t tx) :
      Finds (after.getD s) tx := by
    cases after with
    | none => exact finds
    | some t => exact each t rfl
  cases input with
  | follow viewer creator follow => exact begins _
  | status creator => exact begins _
  | flush => exact begins _
  | next other =>
      apply attempted
      intro t done
      obtain ⟨w, before, done⟩ := Option.bind_eq_some_iff.mp done
      by_cases same : tx = other
      · subst same
        rcases finds.seen with none | ⟨w', m, open', marking, seen⟩
        · rw [none] at before
          cases before
        · obtain rfl := Option.some.inj (before.symm.trans open')
          rw [next_marking marking] at done
          obtain ⟨⟨m', fresh⟩, marked, rfl⟩ := Option.map_eq_some_iff.mp done
          refine ⟨finds.known, Or.inr ⟨w.remark m', m', ?_, remark_marking marking m', ?_⟩⟩
          · exact Function.update_self _ _ _
          · show Seen s.db m'
            exact mark_seen seen marked
      · have touched := next_touches done
        exact finds.touched same touched.2 fun _ _ present => touched.1 ▸ present
  | lock other creator =>
      apply attempted
      intro t done
      obtain ⟨w, before, done⟩ := Option.bind_eq_some_iff.mp done
      have touched := lock_touches done
      by_cases same : tx = other
      · subst same
        rcases finds.seen with none | ⟨w', m, open', marking, _⟩
        · rw [none] at before
          cases before
        · obtain rfl := Option.some.inj (before.symm.trans open')
          rw [touched.2] at marking
          cases marking
      · exact finds.touched same touched.1.2 fun _ _ present => touched.1.1 ▸ present
  | commit other =>
      apply attempted
      intro t done
      obtain ⟨w, before, done⟩ := Option.bind_eq_some_iff.mp done
      have touched := commit_touches done
      by_cases same : tx = other
      · subst same
        exact .ended (finds.known.trans_le touched.1.nextTx.ge) touched.2
      · refine finds.touched same touched.1 fun _ _ present =>
          commit_dirty sound before done ?_ present
        rintro stage rfl
        exact unflushed ⟨stage, before⟩
  | rollback other =>
      by_cases same : tx = other
      · subst same
        exact .ended finds.known (Function.update_self _ _ _)
      · refine finds.elsewhere (Nat.le_refl _) ?_ fun _ _ present => present
        exact Function.update_of_ne same _ _

theorem Finds.of_marking {s : State} {tx : TxId} {m : Marking} (finds : Finds s tx)
    (marking : s.marking tx = some m) : Seen s.db m := by
  obtain ⟨w, before, found⟩ := Option.bind_eq_some_iff.mp marking
  rcases finds.seen with none | ⟨w', m', open', marked, seen⟩
  · rw [none] at before
    cases before
  · obtain rfl := Option.some.inj (before.symm.trans open')
    obtain rfl := Option.some.inj (found.symm.trans marked)
    exact seen

theorem step_next {s : State} {tx : TxId} {w : Work} {m : Marking} (before : s.active tx = some w)
    (marking : w.marking = some m) : s.step (.next tx) = ((s.mark tx m).map fun marked =>
      { s with nextRow := marked.2 }.put tx (w.remark marked.1)).getD s := by
  show ((s.active tx).bind (s.next tx)).getD s = _
  rw [before, Option.bind_some, next_marking marking]

/-- After a statement that does not wait. -/
theorem step_marking {s : State} {tx : TxId} {m m' : Marking} {fresh : RowId}
    (marking : s.marking tx = some m) (done : s.mark tx m = some (m', fresh)) :
    (s.step (.next tx)).marking tx = some m' := by
  obtain ⟨w, before, found⟩ := Option.bind_eq_some_iff.mp marking
  rw [step_next before found, done]
  show (Function.update s.active tx (some (w.remark m')) tx).bind Work.marking = some m'
  rw [Function.update_self]
  exact remark_marking found m'

theorem step_waits {s : State} {tx : TxId} {m : Marking} (marking : s.marking tx = some m)
    (waits : s.mark tx m = none) : s.step (.next tx) = s := by
  obtain ⟨w, before, found⟩ := Option.bind_eq_some_iff.mp marking
  rw [step_next before found, waits]
  rfl

/-- A row is there after the insert. -/
theorem insert_finds {s : State} (sound : Sound s) {tx : TxId} {m m' : Marking}
    (marking : s.marking tx = some m) (inserts : m.stage = .insert)
    (after : (s.step (.next tx)).marking tx = some m') (selects : m'.stage = .select) :
    Finds (s.step (.next tx)) tx := by
  obtain ⟨w, before, found⟩ := Option.bind_eq_some_iff.mp marking
  cases done : s.mark tx m with
  | none =>
      rw [step_waits marking done, marking] at after
      obtain rfl := Option.some.inj after
      rw [inserts] at selects
      cases selects
  | some marked =>
      have same := (step_marking marking done).symm.trans after
      obtain rfl := Option.some.inj same
      rw [step_next before found, done]
      refine ⟨sound.known tx w before, Or.inr ⟨w.remark marked.1, marked.1, ?_,
        remark_marking found marked.1, ?_⟩⟩
      · exact Function.update_self _ _ _
      · show Seen s.db marked.1
        unfold State.mark at done
        rw [inserts] at done
        simp only at done
        split at done
        · cases done
        · split at done
          · rename_i present
            cases done
            exact Or.inr present
          · cases done
            exact Or.inl rfl

theorem Seen.stage {db : Database} {m : Marking} (seen : Seen db m) :
    m.stage ≠ .insert ∧ m.stage ≠ .read none := by
  unfold Seen at seen
  constructor
  · intro stage
    rw [stage] at seen
    exact seen
  · intro stage
    rw [stage] at seen
    obtain ⟨row, none, _⟩ := seen
    cases none

theorem read_marks {s : State} (tx : TxId) {m : Marking} {found : Option RowId}
    (seen : Seen s.db m) (free : s.free m.target) (stage : m.stage = .read found) :
    ∃ row, s.mark tx m = some ({ m with stage := .marked row }, s.nextRow) := by
  unfold Seen at seen
  rw [stage] at seen
  obtain ⟨row, rfl, there⟩ := seen
  refine ⟨row, ?_⟩
  unfold State.mark
  rw [stage]
  by_cases own : m.own = some row
  · exact if_pos own
  · have unlocked : s.others tx (fun w => w.rows.contains (m.target, row)) = false := by
      rw [State.others, List.any_eq_false]
      intro other _ held
      cases open' : s.active other with
      | none => simp [open'] at held
      | some w =>
          rw [open', Option.any_some, Bool.and_eq_true] at held
          have member : (m.target, row) ∈ w.rows := by simpa using held.2
          exact free other w open' _ member rfl
    simp only [own, if_false, unlocked, Bool.false_eq_true, there.resolve_left own, if_true]

/-- Two statements are enough. -/
theorem seen_marks {s : State} {tx : TxId} {m : Marking} (marking : s.marking tx = some m)
    (seen : Seen s.db m) (free : s.free m.target) :
    ∃ row, ((s.step (.next tx)).step (.next tx)).marking tx =
      some { m with stage := .marked row } := by
  have marked {t : State} {row : RowId}
      (marking : t.marking tx = some { m with stage := .marked row }) :
      (t.step (.next tx)).marking tx = some { m with stage := .marked row } := by
    rw [step_waits marking rfl]
    exact marking
  cases stage : m.stage with
  | insert => exact absurd stage seen.stage.1
  | select =>
      obtain ⟨w, before, found⟩ := Option.bind_eq_some_iff.mp marking
      have done : s.mark tx m =
          some ({ m with stage := .read (m.own.or (s.db.dirty m.target)) }, s.nextRow) := by
        unfold State.mark
        rw [stage]
      have now := step_marking marking done
      have after := step_next before found
      rw [done] at after
      have read : Seen (s.step (.next tx)).db
          { m with stage := .read (m.own.or (s.db.dirty m.target)) } := by
        rw [after]
        show Seen s.db { m with stage := .read (m.own.or (s.db.dirty m.target)) }
        exact mark_seen seen done
      have free' : (s.step (.next tx)).free m.target := by
        rw [after]
        intro other o open' row member
        rcases put_active open' with ⟨_, rfl⟩ | ⟨_, old⟩
        · rw [(marking_rows (remark_marking found _))] at member
          cases member
        · exact free other o old row member
      obtain ⟨row, last⟩ := read_marks tx read free' rfl
      exact ⟨row, step_marking now last⟩
  | read found =>
      obtain ⟨row, done⟩ := read_marks tx seen free stage
      exact ⟨row, marked (step_marking marking done)⟩
  | marked row =>
      have same : m = { m with stage := .marked row } := by
        cases m
        cases stage
        rfl
      rw [same] at marking
      exact ⟨row, marked (marked marking)⟩

theorem retry_ends {s : State} (sound : Sound s) (tx : TxId) : s.retryEnds tx := by
  intro m m' marking inserts after selects inputs unflushed now here
  have keeps (state : State) (input : Input) (both : Sound state ∧ Finds state tx)
      (guard : ¬ state.flushes input) : Sound (state.step input) ∧ Finds (state.step input) tx :=
    ⟨both.1.step input, both.2.step both.1 guard⟩
  have finds := run_keeps (fun state => Sound state ∧ Finds state tx) keeps
    ⟨sound.step (.next tx), insert_finds sound marking inserts after selects⟩ unflushed
  have seen := finds.2.of_marking here
  exact ⟨seen.stage, fun free => seen_marks here seen free⟩

/-! ### The projection -/

/-- A delete of a follow finds its shard above zero. -/
theorem Sound.positive {s : State} (sound : Sound s) {tx : TxId} {viewer creator : Uuid}
    (written : s.active tx = some (.follow viewer creator false .written)) :
    0 < (s.db.shards creator (bucket viewer)).getD 0 := by
  have changes : Changes s.db viewer creator false := sound.work tx _ written
  have member : (viewer, creator) ∈ s.db.follows := changes.mpr rfl
  rw [sound.counted creator (bucket viewer), Database.followers, List.countP_pos_iff]
  exact ⟨_, member, by simp⟩

/-- In any order of the statements of any transactions, the shards count the followers, no
decrement stops at zero, a count that is not the sum of its shards is queued, and the loop that
queues it ends. -/
theorem follower_projection {s : State} (reached : Reachable State.step .empty s) :
    (∀ creator shard, (s.db.shards creator shard).getD 0 = s.db.followers creator shard) ∧
    (∀ tx viewer creator, s.active tx = some (.follow viewer creator false .written) →
      0 < (s.db.shards creator (bucket viewer)).getD 0) ∧
    (∀ creator, s.db.followerCount creator ≠ s.db.sum creator → (s.db.dirty creator).isSome) ∧
    ∀ tx, s.retryEnds tx := by
  have sound := sound_reached reached
  exact ⟨sound.counted, fun tx viewer creator => sound.positive, sound.projected,
    retry_ends sound⟩

/-- One viewer follows a creator, and the count is flushed. -/
def sampleRun : List Input :=
  [.follow ⟨3, by decide⟩ ⟨4, by decide⟩ true, .next 0, .next 0, .next 0, .next 0, .next 0,
    .next 0, .commit 0, .flush, .lock 1 ⟨4, by decide⟩, .next 1, .next 1, .next 1, .commit 1]

set_option maxRecDepth 20000 in
theorem sampleRun_projection :
    (run State.step .empty sampleRun).db.followerCount ⟨4, by decide⟩ = 1 ∧
    ((run State.step .empty sampleRun).db.shards ⟨4, by decide⟩
        (bucket ⟨3, by decide⟩)).getD 0 =
      (run State.step .empty sampleRun).db.followers ⟨4, by decide⟩ (bucket ⟨3, by decide⟩) := by
  refine ⟨by decide, ?_⟩
  exact (follower_projection ⟨sampleRun, rfl⟩).1 ⟨4, by decide⟩ (bucket ⟨3, by decide⟩)

end Bling.Shards
