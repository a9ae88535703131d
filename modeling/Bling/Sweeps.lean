import Bling.Library.Sweep
import Bling.World

set_option autoImplicit false

namespace Bling

open Library

/-! What the payments sweep gets to, when nothing but the sweep can be relied
on: every worker it starts may die as soon as it has claimed its row. -/

/-- A part of the payments sweep: what it lists, and the job it starts for each
row, which claims the row. -/
structure SweepPart where
  due : DB → Time → List Nat
  op : Time → Op
  job : Nat → Job
  claims : Ctx → DB → Nat → Bool

def refundPart : SweepPart where
  due := dueRefunds
  op := .sweepRefunds
  job := .runRefund
  claims ctx db refundId := (claimRefund ctx db refundId).2.isSome

def transferPart : SweepPart where
  due := dueTransfers
  op := .sweepTransfers
  job := .transfer
  claims ctx db itemId := (claimTransfer ctx db itemId).2.isSome

namespace SweepPart

/-- The sweep runs once, and the jobs it starts claim their rows. -/
def round (part : SweepPart) (ctx : Ctx) (w : World) : World :=
  run World.step w ((ctx, part.op ctx.now) ::
    (part.due w.db ctx.now).map fun id => (ctx, .runJob ctx.now (part.job id)))

def rounds (part : SweepPart) (clock : Nat → Ctx) (w : World) : Nat → World
  | 0 => w
  | k + 1 => part.round (clock k) (part.rounds clock w k)

/-- From some time on the sweep alone is enough: it lists the row after finitely
many rounds, and the row is claimed. -/
def TakesUp (part : SweepPart) (w : World) (id : Nat) : Prop :=
  ∃ time, ∀ clock : Nat → Ctx, (∀ k, time ≤ (clock k).now) → ∃ k,
    id ∈ part.due (part.rounds clock w k).db (clock k).now ∧
      part.claims (clock k) (part.rounds clock w k).db id = true

/-! ### The rounds sweep a table -/

variable {α κ : Type} [DecidableEq κ]

/-- The part sweeps the table `rows`, and a claim takes a row up. -/
structure Sweeps (part : SweepPart) (s : Sweep α κ) (kinds : List κ) (rows : DB → Table α)
    (take : Time → α → α) : Prop where
  due : ∀ db now, part.due db now = s.due kinds (rows db) now
  distinct : kinds.Nodup
  lists : ∀ (w : World) (ctx : Ctx), w.step (ctx, part.op ctx.now) =
    w.scheduleAll ctx ((part.due w.db ctx.now).map part.job)
  apart : ∀ id other, part.job id = part.job other → id = other
  jobless : ∀ db jobs, rows { db with scheduled := jobs } = rows db
  later : ∀ now a, now < s.time (take now a)
  claims : ∀ (w : World) (ctx : Ctx) (id : Nat) (a : α), (rows w.db).get id = some a →
    s.kind a ∈ kinds → s.time a ≤ ctx.now → s.live a = true →
    part.claims ctx w.db id = true ∧
      (w.runJob ctx (part.job id)).db.scheduled = w.db.scheduled ∧
      rows (w.runJob ctx (part.job id)).db = (rows w.db).patch id (take ctx.now)

theorem scheduleAll_db (ctx : Ctx) (w : World) (jobs : List Job) :
    (w.scheduleAll ctx jobs).db =
      { w.db with scheduled := w.db.scheduled ++ jobs.map fun job => (ctx.now, job) } := by
  unfold World.scheduleAll
  induction jobs generalizing w with
  | nil => simp
  | cons job rest ih =>
      rw [List.foldl_cons, ih]
      simp [World.schedule, DB.runAt]

variable {part : SweepPart} {s : Sweep α κ} {kinds : List κ} {rows : DB → Table α}
  {take : Time → α → α}

/-- The jobs of a sweep claim the rows it has listed, one after the other. -/
theorem Sweeps.claimed (sweeps : part.Sweeps s kinds rows take) (ctx : Ctx) (ids : List Nat)
    (distinct : ids.Nodup) (w : World)
    (claimable : ∀ id ∈ ids, ∃ a, (rows w.db).get id = some a ∧ s.kind a ∈ kinds ∧
      s.time a ≤ ctx.now ∧ s.live a = true)
    (scheduled : ∀ id ∈ ids, (ctx.now, part.job id) ∈ w.db.scheduled) (key : Nat) :
    (rows (run World.step w (ids.map fun id => (ctx, .runJob ctx.now (part.job id)))).db).get key =
      ((rows w.db).get key).map fun a => if key ∈ ids then take ctx.now a else a := by
  induction ids generalizing w with
  | nil => simp
  | cons id rest ih =>
      obtain ⟨fresh, restDistinct⟩ := List.nodup_cons.mp distinct
      rw [List.map_cons, run_cons]
      have isScheduled := scheduled id (List.mem_cons_self ..)
      obtain ⟨a, present, swept, timely, live⟩ := claimable id (List.mem_cons_self ..)
      let started : World :=
        { w with db := { w.db with scheduled := w.db.scheduled.erase (ctx.now, part.job id) } }
      have stepped : w.step (ctx, .runJob ctx.now (part.job id)) =
          started.runJob ctx (part.job id) := if_pos ⟨isScheduled, Nat.le_refl _⟩
      have unclaimed : rows started.db = rows w.db := sweeps.jobless ..
      obtain ⟨_, jobs, patched⟩ := sweeps.claims started ctx id a
        (by rw [unclaimed, present]) swept timely live
      rw [unclaimed] at patched
      have isApart (other : Nat) (member : other ∈ rest) : other ≠ id := by
        rintro rfl
        exact fresh member
      rw [stepped, ih restDistinct]
      · rw [patched]
        by_cases isKey : key = id
        · subst isKey
          rw [Table.get_patch_self present, present]
          simp [fresh]
        · rw [Table.get_patch_of_ne isKey]
          simp [isKey]
      · intro other member
        rw [patched, Table.get_patch_of_ne (isApart other member)]
        exact claimable other (List.mem_cons_of_mem _ member)
      · intro other member
        rw [jobs]
        apply List.mem_erase_of_ne _ |>.mpr (scheduled other (List.mem_cons_of_mem _ member))
        intro same
        exact isApart other member (sweeps.apart _ _ (Prod.mk.inj same).2)

theorem Sweeps.round (sweeps : part.Sweeps s kinds rows take) (ctx : Ctx) (w : World) :
    s.Swept kinds take ctx.now (rows w.db) (rows (part.round ctx w).db) := by
  intro key
  unfold SweepPart.round
  rw [run_cons, sweeps.lists]
  have listed : (w.scheduleAll ctx ((part.due w.db ctx.now).map part.job)).db = _ :=
    scheduleAll_db ctx w _
  have sameRows : rows (w.scheduleAll ctx ((part.due w.db ctx.now).map part.job)).db =
      rows w.db := by
    rw [listed]
    exact sweeps.jobless ..
  rw [sweeps.claimed ctx _ _ _ _ _ key, sameRows, sweeps.due]
  · rw [sweeps.due]
    exact Sweep.due_nodup sweeps.distinct _ _
  · intro id member
    rw [sweeps.due] at member
    rw [sameRows]
    obtain ⟨a, present, swept, timely, live, _⟩ := Sweep.mem_due.mp member
    exact ⟨a, present, swept, timely, live⟩
  · intro id member
    rw [listed]
    simp only [List.mem_append, List.mem_map]
    exact Or.inr ⟨part.job id, ⟨id, member, rfl⟩, rfl⟩

theorem Sweeps.rounds (sweeps : part.Sweeps s kinds rows take) (clock : Nat → Ctx) (w : World)
    (k : Nat) : s.Swept kinds take (clock k).now (rows (part.rounds clock w k).db)
      (rows (part.rounds clock w (k + 1)).db) :=
  sweeps.round (clock k) (part.rounds clock w k)

/-- The sweep gets to a row exactly when claims are left to it and the rows that
have none left don't fill a batch before it. -/
theorem Sweeps.takesUp_iff (sweeps : part.Sweeps s kinds rows take) {w : World} {id : Nat} {a : α}
    (present : (rows w.db).get id = some a) (swept : s.kind a ∈ kinds) :
    part.TakesUp w id ↔
      s.live a = true ∧ (s.spentAhead (rows w.db) (id, a)).card < s.limit := by
  constructor
  · rintro ⟨time, sweeping⟩
    by_contra missed
    obtain ⟨clock, timely⟩ : ∃ clock : Nat → Ctx, ∀ k, time ≤ (clock k).now :=
      ⟨fun _ => ⟨time, World.sampleEnv⟩, fun _ => Nat.le_refl time⟩
    obtain ⟨k, listed, _⟩ := sweeping clock timely
    rw [sweeps.due] at listed
    have many (live : s.live a = true) : s.limit ≤ (s.spentAhead (rows w.db) (id, a)).card := by
      by_contra few
      exact missed ⟨live, by omega⟩
    exact Sweep.not_due_of_many (sweeps.rounds clock w) present many k listed
  · rintro ⟨live, few⟩
    refine ⟨s.time a, fun clock timely => ?_⟩
    obtain ⟨k, listed⟩ := Sweep.due_of_few (sweeps.rounds clock w) sweeps.later present swept live
      few timely
    obtain ⟨b, found, kind, early, living, _⟩ := Sweep.mem_due.mp listed
    refine ⟨k, ?_, (sweeps.claims _ (clock k) id b found kind early living).1⟩
    rw [sweeps.due]
    exact listed

end SweepPart

end Bling
