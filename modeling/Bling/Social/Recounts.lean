import Mathlib.Tactic.Ring
import Bling.Social.Channels

set_option autoImplicit false

namespace Bling

open Library

/-! A live show has one visitor recount at a time, which sweeps its rows once it ended. -/

def Ended (s : Site) (showId : ShowId) : Prop :=
  ∃ hotline, s.backend.shows.get showId = some hotline ∧ hotline.status = .ended

namespace Channels

variable {web : Web} {toLowerCase : Text → Text} {c : Channels}

/-- A `countVisitors` of the show is scheduled or running. -/
def Recounting (c : Channels) (showId : ShowId) : Prop :=
  ∃ i job, c.jobs.get i = some job ∧ job.showId = showId

def Flagged (c : Channels) (showId : ShowId) : Prop :=
  ∃ i s, c.stats.get i = some s ∧ s.showId = showId ∧ s.counting = true

/-- Rows of the show are left, in either table. -/
def Left (c : Channels) (showId : ShowId) : Prop :=
  (∃ i v, c.visits.get i = some v ∧ v.showId = showId) ∨
    ∃ i s, c.stats.get i = some s ∧ s.showId = showId

structure OneRecount (c : Channels) : Prop where
  single : Table.OnePer CountJob.showId c.jobs
  flagged : ∀ showId, c.Flagged showId → c.Recounting showId
  swept : ∀ showId, Ended c.site showId → ¬ c.Recounting showId → ¬ c.Left showId

structure Tidy (c : Channels) : Prop where
  mirrors : c.site.Mirrors
  oneStats : Table.OnePer ChannelStats.showId c.stats

/-- No heartbeat comes while a recount goes on without the flag that tells of it, and a show
with rows ends while a recount of it is to come. -/
def keepsOneRecount (toLowerCase : Text → Text) (c : Channels) : Ctx × ChannelOp → Prop
  | (_, .heartbeat userId username) => userId ≠ none → ∀ showId,
    liveShow toLowerCase c.site username = some showId → ¬ c.Flagged showId →
    ¬ c.Recounting showId
  | (_, .site (.finish userId showId)) => ∀ creatorId hotline,
    requireCreatorId c.site.backend userId = .ok creatorId →
    showForCreator c.site.backend showId creatorId = .ok hotline → hotline.status = .live →
    c.Left showId → c.Recounting showId
  | _ => True

/-! ### What a step does -/

/-- A show that is over was over before, or ends with this step. -/
theorem ended_change {ctx : Ctx} {s after : Site} {op : SiteOp}
    (change : SiteChange ctx s op after) {showId : ShowId} (ended : Ended after showId) :
    Ended s showId ∨ ∃ userId creatorId hotline, op = .finish userId showId ∧
      requireCreatorId s.backend userId = .ok creatorId ∧
      showForCreator s.backend showId creatorId = .ok hotline ∧ hotline.status = .live := by
  obtain ⟨hotline, found, status⟩ := ended
  cases change with
  | quiet _ backend avatarCalls users shows => exact Or.inl ⟨hotline, shows ▸ found, status⟩
  | signedUp username backend user users shows => exact Or.inl ⟨hotline, shows ▸ found, status⟩
  | profileAdded username name backend user users shows =>
      exact Or.inl ⟨hotline, shows ▸ found, status⟩
  | created userId creatorId backend draft allowed owner created users shows =>
      simp only [Site.onShowCreated, Site.patchProfile_backend, shows] at found
      rcases Table.get_insert_row found with ⟨_, rfl⟩ | before
      · rw [created] at status
        cases status
      · exact Or.inl ⟨hotline, before, status⟩
  | scheduled userId creatorId other draft opening allowed located created =>
      simp only [Site.onShowScheduled, Site.patchProfile_backend] at found
      exact Or.inl ⟨hotline, found, status⟩
  | started userId creatorId other draft backend allowed located created alone users shows =>
      rw [(Site.onShowLive_same _ _ _ _).1, show backend.shows = _ from shows] at found
      rcases Table.get_patch_row (showForCreator_ok located).1 found with ⟨_, rfl⟩ | ⟨_, before⟩
      · cases status
      · exact Or.inl ⟨hotline, before, status⟩
  | finished userId creatorId other live backend allowed located isLive users shows =>
      simp only [Site.onShowEnded, Site.patchProfile_backend, shows] at found
      rcases Table.get_patch_row (showForCreator_ok located).1 found with ⟨rfl, _⟩ | ⟨_, before⟩
      · exact Or.inr ⟨userId, creatorId, live, rfl, allowed, located, isLive⟩
      · exact Or.inl ⟨hotline, before, status⟩
  | saved | avatarSaved | uploaded | discarded | attached => exact Or.inl ⟨hotline, found, status⟩

/-- A page that takes heartbeats is that of a live show. -/
theorem liveShow_live {s : Site} (mirrors : s.Mirrors) {username : Text} {showId : ShowId}
    (shown : liveShow toLowerCase s username = some showId) :
    ∃ hotline, s.backend.shows.get showId = some hotline ∧ hotline.status = .live := by
  unfold liveShow at shown
  split at shown
  · cases shown
  · rename_i id profile found
    split at shown
    · rename_i on_
      obtain ⟨_, live⟩ := Bool.and_eq_true_iff.mp on_
      have mirrored := mirrors.each id profile (Table.first_row found).1
      obtain ⟨live, hotline, present, owner, status⟩ := mirrored.live live
      have same := (mirrored.shown live hotline present owner status).2.1
      obtain rfl := Option.some.inj (same.symm.trans shown)
      exact ⟨hotline, present, status⟩
    · cases shown

theorem not_ended_of_live {s : Site} {showId : ShowId} {hotline : Show}
    (present : s.backend.shows.get showId = some hotline) (live : hotline.status = .live) :
    ¬ Ended s showId := by
  rintro ⟨other, found, ended⟩
  obtain rfl := Option.some.inj (present.symm.trans found)
  rw [live] at ended
  cases ended

/-- A heartbeat that goes through visits a live show, and sets off its recount if the flag
is down. -/
theorem heartbeat_ok {now : Time} {userId : Option UserId} {username : Text} {after : Channels}
    {seconds : Nat} (outcome : c.heartbeat toLowerCase now userId username =
      .ok (after, seconds)) : ∃ visitorId showId, userId = some visitorId ∧
      liveShow toLowerCase c.site username = some showId ∧
      after = (c.visit now showId visitorId).startCounting now showId := by
  unfold heartbeat at outcome
  obtain ⟨visitorId, identified, outcome⟩ := bind_ok outcome
  split at outcome
  · cases outcome
  · rename_i showId shown
    obtain ⟨rfl, _⟩ := Prod.mk.inj (Except.ok.inj outcome)
    cases userId with
    | none => cases identified
    | some id =>
        obtain rfl := Except.ok.inj identified
        exact ⟨id, showId, rfl, shown, rfl⟩

/-- Rows and jobs of other shows are as they were. -/
structure SameElsewhere (showId : ShowId) (c after : Channels) : Prop where
  site : after.site = c.site
  visits : Table.OnlyIn ChannelVisit.showId showId c.visits after.visits
  stats : Table.OnlyIn ChannelStats.showId showId c.stats after.stats
  jobs : Table.OnlyIn CountJob.showId showId c.jobs after.jobs

theorem SameElsewhere.refl (showId : ShowId) (c : Channels) : SameElsewhere showId c c :=
  ⟨rfl, .refl _ _ _, .refl _ _ _, .refl _ _ _⟩

theorem SameElsewhere.trans {showId : ShowId} {middle after : Channels}
    (first : SameElsewhere showId c middle) (second : SameElsewhere showId middle after) :
    SameElsewhere showId c after :=
  ⟨second.site.trans first.site, first.visits.trans second.visits,
    first.stats.trans second.stats, first.jobs.trans second.jobs⟩

section Elsewhere

variable {showId other : ShowId} {after : Channels}

theorem SameElsewhere.recounting (same : SameElsewhere showId c after) (apart : other ≠ showId) :
    after.Recounting other ↔ c.Recounting other := by
  constructor
  · rintro ⟨i, job, found, rfl⟩
    exact ⟨i, job, (same.jobs i job apart).mp found, rfl⟩
  · rintro ⟨i, job, found, rfl⟩
    exact ⟨i, job, (same.jobs i job apart).mpr found, rfl⟩

theorem SameElsewhere.flagged (same : SameElsewhere showId c after) (apart : other ≠ showId)
    (flagged : after.Flagged other) : c.Flagged other := by
  obtain ⟨i, s, found, rfl, counting⟩ := flagged
  exact ⟨i, s, (same.stats i s apart).mp found, rfl, counting⟩

theorem SameElsewhere.left (same : SameElsewhere showId c after) (apart : other ≠ showId)
    (left : after.Left other) : c.Left other := by
  rcases left with ⟨i, v, found, rfl⟩ | ⟨i, s, found, rfl⟩
  · exact Or.inl ⟨i, v, (same.visits i v apart).mp found, rfl⟩
  · exact Or.inr ⟨i, s, (same.stats i s apart).mp found, rfl⟩

/-- A step on one show, when that show is in order after it. -/
theorem OneRecount.step_on (sound : c.OneRecount) (same : SameElsewhere showId c after)
    (single : Table.OnePer CountJob.showId after.jobs)
    (flagged : after.Flagged showId → after.Recounting showId)
    (swept : Ended after.site showId → ¬ after.Recounting showId → ¬ after.Left showId) :
    after.OneRecount := by
  refine ⟨single, ?_, ?_⟩
  · intro other up
    by_cases apart : other = showId
    · subst apart
      exact flagged up
    · exact (same.recounting apart).mpr (sound.flagged other (same.flagged apart up))
  · intro other ended idle left
    by_cases apart : other = showId
    · subst apart
      exact swept ended idle left
    · rw [same.site] at ended
      exact sound.swept other ended (fun busy => idle ((same.recounting apart).mpr busy))
        (same.left apart left)

end Elsewhere

/-! ### Heartbeats -/

theorem visit_same (now : Time) (c : Channels) (showId : ShowId) (visitorId : UserId) :
    SameElsewhere showId c (c.visit now showId visitorId) ∧
      (c.visit now showId visitorId).stats = c.stats ∧
      (c.visit now showId visitorId).jobs = c.jobs := by
  unfold visit
  split
  · exact ⟨⟨rfl, .insert rfl, .refl _ _ _, .refl _ _ _⟩, rfl, rfl⟩
  · rename_i id v found
    obtain ⟨present, here⟩ := Table.first_row found
    have own : v.showId = showId := by
      have both := Bool.and_eq_true_iff.mp here
      simpa using both.1
    split
    · exact ⟨⟨rfl, .patch present own rfl, .refl _ _ _, .refl _ _ _⟩, rfl, rfl⟩
    · exact ⟨.refl showId c, rfl, rfl⟩

theorem flagged_first (one : Table.OnePer ChannelStats.showId c.stats) {showId : ShowId} {i : Nat}
    {s : ChannelStats} (first : (c.stats.first fun s => s.showId == showId) = some (i, s)) :
    c.Flagged showId ↔ s.counting = true := by
  obtain ⟨present, here⟩ := Table.first_row first
  have own : s.showId = showId := by simpa using here
  constructor
  · rintro ⟨j, t, found, same, counting⟩
    obtain rfl := one i j s t present found (own.trans same.symm)
    obtain rfl := Option.some.inj (present.symm.trans found)
    exact counting
  · exact fun counting => ⟨i, s, present, own, counting⟩

/-- A heartbeat leaves a recount going on as it is, or starts one. -/
theorem startCounting_cases (one : Table.OnePer ChannelStats.showId c.stats) (now : Time)
    (showId : ShowId) :
    (c.Flagged showId ∧ c.startCounting now showId = c) ∨
      (¬ c.Flagged showId ∧ SameElsewhere showId c (c.startCounting now showId) ∧
        (c.startCounting now showId).visits = c.visits ∧
        Table.OnePer ChannelStats.showId (c.startCounting now showId).stats ∧
        ∃ job : CountJob, job.showId = showId ∧
          (c.startCounting now showId).jobs = c.jobs.insert job) := by
  have scheduled : Table.OnlyIn CountJob.showId showId c.jobs
      (c.jobs.insert { showId, stage := .scheduled (now + 0) }) := .insert rfl
  unfold startCounting
  split
  · rename_i absent
    refine Or.inr ⟨?_, ⟨rfl, .refl _ _ _, .insert rfl, scheduled⟩, rfl, ?_, _, rfl, rfl⟩
    · rintro ⟨i, s, found, own, _⟩
      have unmatched := Table.first_none absent found
      simp [own] at unmatched
    · refine one.insert ?_
      intro i s found same
      have unmatched := Table.first_none absent found
      simp only [beq_eq_false_iff_ne] at unmatched
      exact unmatched same
  · rename_i i s first
    have flag := flagged_first one first
    obtain ⟨present, here⟩ := Table.first_row first
    have own : s.showId = showId := by simpa using here
    split
    · rename_i counting
      exact Or.inl ⟨flag.mpr counting, rfl⟩
    · rename_i lowered
      refine Or.inr ⟨fun up => lowered (flag.mp up),
        ⟨rfl, .refl _ _ _, .patch present own rfl, scheduled⟩, rfl, ?_, _, rfl, rfl⟩
      exact one.patch fun _ _ => rfl

/-! ### Storing a count -/

theorem storeStats_spec {stats : Table ChannelStats} (one : Table.OnePer ChannelStats.showId stats)
    (showId : ShowId) (live : Bool) (visitors : Nat) (counting : Bool) :
    Table.OnePer ChannelStats.showId (storeStats stats showId live visitors counting) ∧
      Table.OnlyIn ChannelStats.showId showId stats
        (storeStats stats showId live visitors counting) ∧
      ∀ i s, (storeStats stats showId live visitors counting).get i = some s →
        s.showId = showId → live = true ∧ s.counting = counting := by
  unfold storeStats
  split
  · rename_i absent
    have none (i : Nat) (s : ChannelStats) (found : stats.get i = some s) : s.showId ≠ showId := by
      have unmatched := Table.first_none absent found
      simpa using unmatched
    split
    · rename_i on_
      refine ⟨one.insert none, .insert rfl, ?_⟩
      intro i s found own
      rcases Table.get_insert_row found with ⟨_, rfl⟩ | old
      · exact ⟨on_, rfl⟩
      · exact absurd own (none i s old)
    · exact ⟨one, .refl _ _ _, fun i s found own => absurd own (none i s found)⟩
  · rename_i id row first
    obtain ⟨present, here⟩ := Table.first_row first
    have own : row.showId = showId := by simpa using here
    have only (i : Nat) (s : ChannelStats) (found : stats.get i = some s)
        (same : s.showId = showId) : i = id ∧ s = row := by
      obtain rfl := one i id s row found present (same.trans own.symm)
      exact ⟨rfl, Option.some.inj (found.symm.trans present)⟩
    split
    · rename_i on_
      split
      · refine ⟨one.patch fun _ _ => rfl, .patch present own rfl, ?_⟩
        intro i s found same
        rcases Table.get_patch_row present found with ⟨_, rfl⟩ | ⟨apart, old⟩
        · exact ⟨on_, rfl⟩
        · exact absurd (only i s old same).1 apart
      · rename_i unchanged
        refine ⟨one, .refl _ _ _, ?_⟩
        intro i s found same
        obtain ⟨rfl, rfl⟩ := only i s found same
        exact ⟨on_, not_not.mp (not_or.mp unchanged).2⟩
    · refine ⟨one.delete id, .delete present own, ?_⟩
      intro i s found same
      rw [Table.get_delete] at found
      split at found
      · cases found
      · rename_i apart
        exact absurd (only i s found same).1 apart

theorem mem_bySeen (c : Channels) (showId : ShowId) (seen : Time → Bool)
    (row : Nat × ChannelVisit) : row ∈ c.bySeen showId seen ↔
      c.visits.get row.1 = some row.2 ∧ row.2.showId = showId ∧ seen row.2.lastSeenAt = true := by
  rw [bySeen, mem_inOrder]
  simpa using c.visits.mem_query (fun v => v.showId == showId && seen v.lastSeenAt) row.1 row.2

theorem expired_row {showId : ShowId} {live : Bool} {since : Int} {row : Nat × ChannelVisit}
    (member : row ∈ c.expired showId live since) :
    c.visits.get row.1 = some row.2 ∧ row.2.showId = showId := by
  have seen := (mem_bySeen c showId _ row).mp (List.mem_of_mem_take member)
  exact ⟨seen.1, seen.2.1⟩

/-- A batch that is not full held all there was. -/
theorem expired_all {showId : ShowId} {since : Int}
    (short : (c.expired showId false since).length ≠ countPageSize) {i : Nat} {v : ChannelVisit}
    (found : ((c.expired showId false since).foldl (fun table row => table.delete row.1)
      c.visits).get i = some v) : v.showId ≠ showId := by
  intro own
  rw [Table.get_foldl_delete] at found
  split at found
  · cases found
  · rename_i kept
    apply kept
    have whole : c.expired showId false since =
        c.bySeen showId fun seen => !false || (seen : Int) ≤ since := by
      unfold expired at short ⊢
      rw [List.length_take] at short
      exact List.take_of_length_le (by omega)
    refine List.mem_map.mpr ⟨(i, v), ?_, rfl⟩
    rw [whole, mem_bySeen]
    exact ⟨found, own, rfl⟩

/-- A stored count goes on when visitors are there or a batch was full, and leaves no rows
of a show that is over. -/
theorem storeCount_spec (one : Table.OnePer ChannelStats.showId c.stats) (now : Time)
    (showId : ShowId) (visitors : Nat) (since : Int) :
    SameElsewhere showId c (c.storeCount now showId visitors since) ∧
      Table.OnePer ChannelStats.showId (c.storeCount now showId visitors since).stats ∧
      ((∃ job : CountJob, job.showId = showId ∧
        (c.storeCount now showId visitors since).jobs = c.jobs.insert job) ∨
      (c.storeCount now showId visitors since).jobs = c.jobs ∧
        ¬ (c.storeCount now showId visitors since).Flagged showId ∧
        (isLive c.site showId = false →
          ¬ (c.storeCount now showId visitors since).Left showId)) := by
  obtain ⟨oneAfter, only, flags⟩ := storeStats_spec one showId (isLive c.site showId) visitors
    (isLive c.site showId && 0 < visitors)
  have swept : Table.OnlyIn ChannelVisit.showId showId c.visits
      ((c.expired showId (isLive c.site showId) since).foldl
        (fun table row => table.delete row.1) c.visits) :=
    .foldl_delete fun row member => expired_row member
  unfold storeCount
  dsimp only
  split
  · exact ⟨⟨rfl, swept, only, .insert rfl⟩, oneAfter, Or.inl ⟨_, rfl, rfl⟩⟩
  · rename_i stops
    rw [Bool.or_eq_true, not_or] at stops
    obtain ⟨lowered, short⟩ := stops
    refine ⟨⟨rfl, swept, only, .refl _ _ _⟩, oneAfter, Or.inr ⟨rfl, ?_, ?_⟩⟩
    · rintro ⟨i, s, found, own, up⟩
      rw [(flags i s found own).2] at up
      exact lowered up
    · intro isOver left
      rw [isOver] at short left flags
      rcases left with ⟨i, v, found, own⟩ | ⟨i, s, found, own⟩
      · exact expired_all (by simpa using short) found own
      · cases (flags i s found own).1

/-! ### One recount -/

/-- What a step of the job `i` does: it waits, goes on, or ends and may be followed by
another one. -/
theorem advance_cases (one : Table.OnePer ChannelStats.showId c.stats) (now : Time) {i : Nat}
    {job : CountJob} (found : c.jobs.get i = some job) :
    SameElsewhere job.showId c (c.advance now i job) ∧
      Table.OnePer ChannelStats.showId (c.advance now i job).stats ∧
      (((c.advance now i job).visits = c.visits ∧ (c.advance now i job).stats = c.stats ∧
        ∃ stage, (c.advance now i job).jobs = c.jobs.patch i fun job => { job with stage }) ∨
      (∃ next : CountJob, next.showId = job.showId ∧
        (c.advance now i job).jobs = (c.jobs.delete i).insert next) ∨
      ((c.advance now i job).jobs = c.jobs.delete i ∧
        ¬ (c.advance now i job).Flagged job.showId ∧
        (isLive c.site job.showId = false → ¬ (c.advance now i job).Left job.showId))) := by
  have patched (stage : CountStage) : Table.OnlyIn CountJob.showId job.showId c.jobs
      (c.jobs.patch i fun job => { job with stage }) := .patch found rfl rfl
  unfold advance
  split
  · split
    · exact ⟨⟨rfl, .refl _ _ _, .refl _ _ _, patched _⟩, one, Or.inl ⟨rfl, rfl, _, rfl⟩⟩
    · refine ⟨.refl _ c, one, Or.inl ⟨rfl, rfl, job.stage, ?_⟩⟩
      refine (Table.patch_eq_self fun other there => ?_).symm
      obtain rfl := Option.some.inj (found.symm.trans there)
      rfl
  · exact ⟨⟨rfl, .refl _ _ _, .refl _ _ _, patched _⟩, one, Or.inl ⟨rfl, rfl, _, rfl⟩⟩
  · rename_i since total stage
    have deleted : SameElsewhere job.showId c { c with jobs := c.jobs.delete i } :=
      ⟨rfl, .refl _ _ _, .refl _ _ _, .delete found rfl⟩
    obtain ⟨elsewhere, oneAfter, outcome⟩ := storeCount_spec
      (c := { c with jobs := c.jobs.delete i }) one now job.showId total since
    exact ⟨deleted.trans elsewhere, oneAfter, Or.inr outcome⟩

theorem recount_sound (tidy : c.Tidy) (sound : c.OneRecount) (now : Time) {i : Nat}
    {job : CountJob} (found : c.jobs.get i = some job) : (c.advance now i job).OneRecount := by
  obtain ⟨same, _, waits | ⟨next, own, goes⟩ | ⟨ends, lowered, swept⟩⟩ :=
    advance_cases tidy.oneStats now found
  · obtain ⟨visits, stats, stage, jobs⟩ := waits
    have busy : (c.advance now i job).Recounting job.showId := by
      refine ⟨i, { job with stage }, ?_, rfl⟩
      rw [jobs]
      exact Table.get_patch_self found _
    refine sound.step_on same ?_ (fun _ => busy) fun _ idle => absurd busy idle
    rw [jobs]
    exact sound.single.patch fun _ _ => rfl
  · have busy : (c.advance now i job).Recounting job.showId := by
      refine ⟨(c.jobs.delete i).next, next, ?_, own⟩
      rw [goes]
      exact Table.get_insert_next _ _
    refine sound.step_on same ?_ (fun _ => busy) fun _ idle => absurd busy idle
    rw [goes]
    refine (sound.single.delete i).insert ?_
    intro j other there shared
    rw [Table.get_delete] at there
    split at there
    · cases there
    · rename_i apart
      exact apart (sound.single j i other job there found (shared.trans own))
  · refine sound.step_on same ?_ (fun up => absurd up lowered) ?_
    · rw [ends]
      exact sound.single.delete i
    · intro ended _
      rw [same.site] at ended
      apply swept
      obtain ⟨hotline, present, status⟩ := ended
      simp [isLive, present, status]

theorem heartbeat_sound (tidy : c.Tidy) (sound : c.OneRecount) {now : Time} {showId : ShowId}
    {visitorId : UserId} {username : Text}
    (shown : liveShow toLowerCase c.site username = some showId)
    (idle : ¬ c.Flagged showId → ¬ c.Recounting showId) :
    ((c.visit now showId visitorId).startCounting now showId).OneRecount := by
  obtain ⟨same, stats, jobs⟩ := visit_same now c showId visitorId
  obtain ⟨hotline, present, live⟩ := liveShow_live tidy.mirrors shown
  have open_ := not_ended_of_live present live
  have visited : (c.visit now showId visitorId).OneRecount := by
    refine sound.step_on same (jobs ▸ sound.single) ?_ ?_
    · rintro ⟨i, s, found, own, up⟩
      rw [stats] at found
      obtain ⟨j, job, there, same⟩ := sound.flagged showId ⟨i, s, found, own, up⟩
      exact ⟨j, job, jobs ▸ there, same⟩
    · intro ended
      rw [same.site] at ended
      exact absurd ended open_
  rcases startCounting_cases (stats ▸ tidy.oneStats : Table.OnePer ChannelStats.showId
    (c.visit now showId visitorId).stats) now showId with ⟨_, unchanged⟩ |
    ⟨lowered, started, _, _, job, own, added⟩
  · rw [unchanged]
    exact visited
  · have busy : ((c.visit now showId visitorId).startCounting now showId).Recounting showId := by
      refine ⟨(c.visit now showId visitorId).jobs.next, job, ?_, own⟩
      rw [added]
      exact Table.get_insert_next _ _
    refine visited.step_on started ?_ (fun _ => busy) fun _ idle => absurd busy idle
    rw [added]
    refine visited.single.insert ?_
    intro j other there shared
    rw [jobs] at there
    refine idle ?_ ⟨j, other, there, shared.trans own⟩
    rintro ⟨i, s, found, flag⟩
    exact lowered ⟨i, s, stats ▸ found, flag⟩

theorem step_tidy (web : Web) (tidy : c.Tidy) (input : Ctx × ChannelOp) :
    (c.step web toLowerCase input).Tidy := by
  obtain ⟨ctx, op⟩ := input
  cases op with
  | site op => exact ⟨Site.step_mirrors web tidy.mirrors (ctx, op), tidy.oneStats⟩
  | heartbeat userId username =>
      show (c.commit (c.heartbeat toLowerCase ctx.now userId username)).Tidy
      cases outcome : c.heartbeat toLowerCase ctx.now userId username with
      | error code => exact tidy
      | ok result =>
          obtain ⟨after, seconds⟩ := result
          obtain ⟨visitorId, showId, _, _, rfl⟩ := heartbeat_ok outcome
          obtain ⟨same, stats, _⟩ := visit_same ctx.now c showId visitorId
          have visited : Table.OnePer ChannelStats.showId
            (c.visit ctx.now showId visitorId).stats := stats ▸ tidy.oneStats
          rcases startCounting_cases visited ctx.now showId with ⟨_, unchanged⟩ |
            ⟨_, started, _, one, _⟩
          · have site := same.site
            rw [← unchanged] at site visited
            exact ⟨site ▸ tidy.mirrors, visited⟩
          · exact ⟨(started.site.trans same.site) ▸ tidy.mirrors, one⟩
  | recount i =>
      cases found : c.jobs.get i with
      | none =>
          simp only [step, found]
          exact tidy
      | some job =>
          simp only [step, found]
          obtain ⟨same, one, _⟩ := advance_cases tidy.oneStats ctx.now found
          exact ⟨same.site ▸ tidy.mirrors, one⟩

/-- A step keeps one recount exactly when it meets the guard. -/
theorem keepsOneRecount_iff (web : Web) (tidy : c.Tidy) (sound : c.OneRecount)
    (input : Ctx × ChannelOp) :
    c.keepsOneRecount toLowerCase input ↔ (c.step web toLowerCase input).OneRecount := by
  obtain ⟨ctx, op⟩ := input
  cases op with
  | site op =>
      have change := Site.step_change web c.site ctx op
      have rest (swept : ∀ showId, Ended (c.site.step web (ctx, op)) showId →
          ¬ c.Recounting showId → ¬ c.Left showId) :
          (c.step web toLowerCase (ctx, .site op)).OneRecount :=
        ⟨sound.single, sound.flagged, swept⟩
      have before {showId : ShowId} (ended : Ended c.site showId) : ¬ c.Recounting showId →
          ¬ c.Left showId := sound.swept showId ended
      cases op with
      | finish userId showId =>
          constructor
          · intro guarded
            refine rest fun other ended idle => ?_
            rcases ended_change change ended with isOver | ⟨_, creatorId, hotline, same, allowed,
              found, live⟩
            · exact before isOver idle
            · obtain ⟨rfl, rfl⟩ := SiteOp.finish.inj same
              exact fun left => idle (guarded creatorId hotline allowed found live left)
          · intro after creatorId hotline allowed found live left
            by_contra idle
            obtain ⟨backend, _, shows, ended⟩ := Site.finish_ends ctx allowed found live
            refine after.swept showId ?_ idle left
            have ran : (c.site.step web (ctx, .finish userId showId)).backend = backend := by
              show (c.site.commit (c.site.finish ctx userId showId)).backend = backend
              rw [ended]
              exact Site.patchProfile_backend _ _ _
            have present := Table.get_patch_self (showForCreator_ok found).1 fun s : Show =>
              { s with status := .ended, endedAt := some ctx.now }
            rw [← shows, ← ran] at present
            exact ⟨_, present, rfl⟩
      | _ =>
          refine ⟨fun _ => rest fun other ended idle => ?_, fun _ => trivial⟩
          rcases ended_change change ended with isOver | ⟨_, _, _, same, _⟩
          · exact before isOver idle
          · cases same
  | heartbeat userId username =>
      constructor
      · intro guarded
        show (c.commit (c.heartbeat toLowerCase ctx.now userId username)).OneRecount
        cases outcome : c.heartbeat toLowerCase ctx.now userId username with
        | error code => exact sound
        | ok result =>
            obtain ⟨after, seconds⟩ := result
            obtain ⟨visitorId, showId, rfl, shown, rfl⟩ := heartbeat_ok outcome
            exact heartbeat_sound tidy sound shown (guarded (Option.some_ne_none _) showId shown)
      · intro after identified showId shown lowered busy
        obtain ⟨visitorId, rfl⟩ := Option.ne_none_iff_exists'.mp identified
        obtain ⟨same, stats, jobs⟩ := visit_same ctx.now c showId visitorId
        have ran : c.step web toLowerCase (ctx, .heartbeat (some visitorId) username) =
            (c.visit ctx.now showId visitorId).startCounting ctx.now showId := by
          simp [step, heartbeat, requireUserId, shown, commit, bind, Except.bind]
        rw [ran] at after
        rcases startCounting_cases (stats ▸ tidy.oneStats : Table.OnePer ChannelStats.showId
          (c.visit ctx.now showId visitorId).stats) ctx.now showId with ⟨up, _⟩ |
          ⟨_, _, _, _, job, own, added⟩
        · obtain ⟨i, s, found, flag⟩ := up
          exact lowered ⟨i, s, stats ▸ found, flag⟩
        · obtain ⟨i, other, there, same⟩ := busy
          rw [← jobs] at there
          have single := after.single
          rw [added] at single
          have twice := single i _ other job (Table.get_insert_of_some there job)
            (Table.get_insert_next _ _) (same.trans own.symm)
          exact Table.ne_next there twice
  | recount i =>
      refine ⟨fun _ => ?_, fun _ => trivial⟩
      cases found : c.jobs.get i with
      | none =>
          simp only [step, found]
          exact sound
      | some job =>
          simp only [step, found]
          exact recount_sound tidy sound ctx.now found

/-! ### After the end of a show -/

/-- The visits of a show that are left. -/
def visitors (c : Channels) (showId : ShowId) : Nat :=
  (c.visits.query fun v => v.showId == showId).length

/-- Steps a `countVisitors` of a show that is over may still take, with those after it: with
`k` full batches left it reads up to `k + 1` pages. -/
def stepsLeft (c : Channels) (job : CountJob) : Nat :=
  let k := c.visitors job.showId / countPageSize
  match job.stage with
  | .scheduled _ => (k + 1) * (k + 4)
  | .counting since cursor _ =>
    k * (k + 3) + (c.unread job.showId since cursor).length / countPageSize + 2
  | .counted .. => k * (k + 3) + 1

def recountsLeft (c : Channels) (showId : ShowId) : Nat :=
  match c.jobs.first fun job => job.showId == showId with
  | none => 0
  | some (_, job) => c.stepsLeft job

/-- The step is one of the show's recount, whose time has come. -/
def recounts (showId : ShowId) (c : Channels) (input : Ctx × ChannelOp) : Bool :=
  match input.2 with
  | .recount id => (c.jobs.get id).any fun job => job.showId == showId &&
    match job.stage with
    | .scheduled due => decide (due ≤ input.1.now)
    | _ => true
  | _ => false

/-- A show that is over, with at most one recount. -/
structure Sweeping (showId : ShowId) (c : Channels) : Prop where
  tidy : c.Tidy
  ended : Ended c.site showId
  single : ∀ i j a b, c.jobs.get i = some a → c.jobs.get j = some b → a.showId = showId →
    b.showId = showId → i = j

section Sweep

variable {showId : ShowId} {after : Channels}

theorem recountsLeft_job (single : ∀ i j a b, c.jobs.get i = some a → c.jobs.get j = some b →
    a.showId = showId → b.showId = showId → i = j) {i : Nat} {job : CountJob}
    (found : c.jobs.get i = some job) (own : job.showId = showId) :
    c.recountsLeft showId = c.stepsLeft job := by
  have first : (c.jobs.first fun job => job.showId == showId) = some (i, job) := by
    apply Table.first_of_unique found
    · simpa using own
    · intro j other there same
      exact single j i other job there found (by simpa using same) own
  rw [recountsLeft, first]

theorem recountsLeft_idle (idle : ¬ c.Recounting showId) : c.recountsLeft showId = 0 := by
  have first : (c.jobs.first fun job => job.showId == showId) = none := by
    rw [Table.first_none_iff]
    intro i job found
    by_contra same
    exact idle ⟨i, job, found, by simpa using same⟩
  rw [recountsLeft, first]

theorem SameElsewhere.stepsLeft {other : ShowId} (same : SameElsewhere other c after)
    {job : CountJob} (apart : job.showId ≠ other) : after.stepsLeft job = c.stepsLeft job := by
  have visitors : after.visitors job.showId = c.visitors job.showId := by
    unfold Channels.visitors
    rw [same.visits.query_eq]
    intro v matched
    have own : v.showId = job.showId := by simpa using matched
    exact own ▸ apart
  have unread (since : Int) (cursor : Option SeenAt) :
      after.unread job.showId since cursor = c.unread job.showId since cursor := by
    unfold Channels.unread bySeen
    rw [same.visits.query_eq]
    intro v matched
    have own : v.showId = job.showId := by
      have both := Bool.and_eq_true_iff.mp matched
      simpa using both.1
    exact own ▸ apart
  simp only [Channels.stepsLeft, visitors, unread]

/-- What is left of a show's recount doesn't change with a step on another show. -/
theorem SameElsewhere.recountsLeft (sweeping : Sweeping showId c) {other : ShowId}
    (same : SameElsewhere other c after) (apart : showId ≠ other) :
    after.recountsLeft showId = c.recountsLeft showId := by
  by_cases busy : c.Recounting showId
  · obtain ⟨i, job, found, rfl⟩ := busy
    have kept := (same.jobs i job apart).mpr found
    rw [recountsLeft_job sweeping.single found rfl, recountsLeft_job ?_ kept rfl,
      same.stepsLeft apart]
    intro i j a b first second own own'
    exact sweeping.single i j a b ((same.jobs i a (own ▸ apart)).mp first)
      ((same.jobs j b (own' ▸ apart)).mp second) own own'
  · rw [recountsLeft_idle busy, recountsLeft_idle]
    exact fun later => busy ((same.recounting apart).mp later)

/-- A page that is full leaves that much less to read. -/
theorem unread_next (c : Channels) (showId : ShowId) (since : Int) (cursor : Option SeenAt)
    {last : Nat × ChannelVisit}
    (found : ((c.unread showId since cursor).take countPageSize).getLast? = some last) :
    (c.unread showId since (some (seenAt last))).length =
      (c.unread showId since cursor).length - countPageSize := by
  have order : StrictOrder seenBefore := StrictOrder.lex .lt .lt
  have distinct : ((c.visits.query fun v => v.showId == showId &&
      decide (since < (v.lastSeenAt : Int))).map seenAt).Nodup := by
    apply List.Nodup.of_map Prod.snd
    rw [List.map_map]
    exact c.visits.query_nodup _
  have rest := beyond_take order (inOrder_pairwise order distinct) found
  unfold unread bySeen
  rw [rest, List.length_drop]

theorem unread_le (c : Channels) (showId : ShowId) (since : Int) (cursor : Option SeenAt) :
    (c.unread showId since cursor).length ≤ c.visitors showId := by
  have ordered : (c.bySeen showId fun seen => since < (seen : Int)).length ≤
      c.visitors showId := by
    rw [bySeen, inOrder_length]
    refine (List.monotone_filter_right _ fun row matched => ?_).length_le
    exact (Bool.and_eq_true_iff.mp matched).1
  cases cursor with
  | none => exact ordered
  | some position => exact Nat.le_trans (List.length_filter_le _ _) ordered

theorem storeCount_over (isOver : isLive c.site showId = false) (now : Time) (visitors : Nat)
    (since : Int) : c.storeCount now showId visitors since =
      let swept : Channels := { c with
        stats := storeStats c.stats showId false visitors false
        visits := (c.expired showId false since).foldl
          (fun table row => table.delete row.1) c.visits }
      if (c.expired showId false since).length = countPageSize then swept.runAfter now 0 showId
      else swept := by
  simp [storeCount, isOver]

theorem visitors_store (c : Channels) (showId : ShowId) (since : Int) :
    ((((c.expired showId false since).foldl (fun table row => table.delete row.1)
      c.visits).query fun v => v.showId == showId).length) +
        (c.expired showId false since).length = c.visitors showId := by
  apply Table.query_length_foldl_delete
  · intro row member
    obtain ⟨present, own⟩ := expired_row member
    exact ⟨present, by simpa using own⟩
  · have whole : ((c.bySeen showId fun seen => !false || decide ((seen : Int) ≤ since)).map
        Prod.fst).Nodup :=
      (((inOrder_perm _ _ _).map Prod.fst).nodup_iff).mpr (c.visits.query_nodup _)
    exact whole.sublist ((List.take_sublist _ _).map _)

/-- A step of a swept show's own recount takes from what is left. -/
theorem advance_pays (sweeping : Sweeping showId c) (now : Time) {i : Nat} {job : CountJob}
    (found : c.jobs.get i = some job) (own : job.showId = showId)
    (single : ∀ k l a b, (c.advance now i job).jobs.get k = some a →
      (c.advance now i job).jobs.get l = some b → a.showId = showId → b.showId = showId → k = l) :
    c.advance now i job = c ∧ (∃ due, job.stage = .scheduled due ∧ ¬ due ≤ now) ∨
      (c.advance now i job).recountsLeft showId + 1 ≤ c.recountsLeft showId := by
  rw [recountsLeft_job sweeping.single found own]
  have staged {stage : CountStage}
      (moved : c.advance now i job =
        { c with jobs := c.jobs.patch i fun job => { job with stage } }) :
      (c.advance now i job).recountsLeft showId = c.stepsLeft { job with stage } := by
    have there : (c.advance now i job).jobs.get i = some { job with stage } := by
      rw [moved]
      exact Table.get_patch_self found _
    rw [recountsLeft_job single there own, moved]
    rfl
  cases held : job.stage with
  | scheduled due =>
      by_cases isDue : due ≤ now
      · right
        rw [staged (by simp only [advance, held, if_pos isDue]; rfl)]
        have shorter := unread_le c job.showId ((now : Int) - visitorTtlMs) none
        have pages := Nat.div_le_div_right (c := countPageSize) shorter
        simp only [stepsLeft, held]
        generalize c.visitors job.showId / countPageSize = k at pages ⊢
        have squares : (k + 1) * (k + 4) = k * (k + 3) + 2 * k + 4 := by ring
        omega
      · left
        exact ⟨by simp only [advance, held, if_neg isDue], due, rfl, isDue⟩
  | counting since cursor total =>
      right
      rw [staged (by simp only [advance, held, countPage]; rfl)]
      by_cases short :
          ((c.unread job.showId since cursor).take countPageSize).length < countPageSize
      · simp only [stepsLeft, held, if_pos short]
        simp only [countPageSize]
        omega
      · have full : countPageSize ≤ (c.unread job.showId since cursor).length := by
          rw [List.length_take] at short
          omega
        have filled : (c.unread job.showId since cursor).take countPageSize ≠ [] := by
          intro empty
          rw [empty] at short
          exact short (by decide)
        obtain ⟨last, ends⟩ := Option.isSome_iff_exists.mp (List.getLast?_isSome.mpr filled)
        have next := unread_next c job.showId since cursor ends
        simp only [stepsLeft, held, if_neg short, ends, Option.map_some, next]
        simp only [countPageSize] at full ⊢
        omega
  | counted since total =>
      right
      obtain ⟨hotline, present, status⟩ := sweeping.ended
      have isOver : isLive c.site job.showId = false := by
        rw [own]
        simp [isLive, present, status]
      have stored := visitors_store c job.showId since
      have ran := storeCount_over (c := { c with jobs := c.jobs.delete i }) isOver now total since
      have same : ({ c with jobs := c.jobs.delete i } : Channels).expired job.showId false since =
          c.expired job.showId false since := rfl
      have moved : c.advance now i job =
          { c with jobs := c.jobs.delete i }.storeCount now job.showId total since := by
        simp only [advance, held]
      rw [same] at ran
      by_cases full : (c.expired job.showId false since).length = countPageSize
      · rw [if_pos full] at ran
        have there : (c.advance now i job).jobs.get (c.jobs.delete i).next = some
            { showId := job.showId, stage := .scheduled (now + 0) } := by
          rw [moved, ran]
          exact Table.get_insert_next _ _
        rw [recountsLeft_job single there own]
        have fewer : (c.advance now i job).visitors job.showId + countPageSize =
            c.visitors job.showId := by
          rw [moved, ran, ← stored, full]
          rfl
        simp only [stepsLeft, held]
        have batches : c.visitors job.showId / countPageSize =
            (c.advance now i job).visitors job.showId / countPageSize + 1 := by
          rw [← fewer]
          simp only [countPageSize]
          omega
        rewrite [batches]
        exact Nat.le_refl _
      · rw [if_neg full] at ran
        have idle : ¬ (c.advance now i job).Recounting showId := by
          rintro ⟨j, other, there, same⟩
          rw [moved, ran] at there
          have there : (c.jobs.delete i).get j = some other := there
          rw [Table.get_delete] at there
          split at there
          · cases there
          · rename_i apart
            exact apart (sweeping.single j i other job there found same own)
        rw [recountsLeft_idle idle]
        simp only [stepsLeft, held]
        omega

/-- A show that is over stays over. -/
theorem ended_stays {ctx : Ctx} {s after : Site} {op : SiteOp}
    (change : SiteChange ctx s op after) (ended : Ended s showId) : Ended after showId := by
  obtain ⟨hotline, found, status⟩ := ended
  have moved {id : ShowId} {other : Show} {f : Show → Show} (present : s.backend.shows.get id =
      some other) (started : other.status ≠ .ended) : (s.backend.shows.patch id f).get showId =
      some hotline := by
    have apart : showId ≠ id := by
      rintro rfl
      obtain rfl := Option.some.inj (present.symm.trans found)
      exact started status
    exact (Table.get_patch_of_ne apart _ _).trans found
  cases change with
  | quiet _ backend avatarCalls users shows => exact ⟨hotline, shows ▸ found, status⟩
  | signedUp username backend user users shows => exact ⟨hotline, shows ▸ found, status⟩
  | profileAdded username name backend user users shows => exact ⟨hotline, shows ▸ found, status⟩
  | created userId creatorId backend draft allowed owner created users shows =>
      refine ⟨hotline, ?_, status⟩
      simp only [Site.onShowCreated, Site.patchProfile_backend, shows]
      exact Table.get_insert_of_some found _
  | scheduled =>
      refine ⟨hotline, ?_, status⟩
      simp only [Site.onShowScheduled, Site.patchProfile_backend]
      exact found
  | started userId creatorId other draft backend allowed located created alone users shows =>
      refine ⟨hotline, ?_, status⟩
      rw [(Site.onShowLive_same _ _ _ _).1, show backend.shows = _ from shows]
      exact moved (showForCreator_ok located).1 (by simp [created])
  | finished userId creatorId other live backend allowed located isLive users shows =>
      refine ⟨hotline, ?_, status⟩
      simp only [Site.onShowEnded, Site.patchProfile_backend, shows]
      exact moved (showForCreator_ok located).1 (by simp [isLive])
  | saved | avatarSaved | uploaded | discarded | attached => exact ⟨hotline, found, status⟩

/-- Whatever happens after its end, a show's recount goes on alone, and each of its steps
takes from what is left. -/
theorem sweeping_step (web : Web) (sweeping : Sweeping showId c) (input : Ctx × ChannelOp) :
    Sweeping showId (c.step web toLowerCase input) ∧
      (if recounts showId c input then 1 else 0) +
        (c.step web toLowerCase input).recountsLeft showId ≤ c.recountsLeft showId := by
  have tidy : Tidy (c.step web toLowerCase input) := step_tidy web sweeping.tidy input
  obtain ⟨ctx, op⟩ := input
  have elsewhere {other : ShowId} {after : Channels} (same : SameElsewhere other c after)
      (apart : showId ≠ other) (tidy : after.Tidy) :
      Sweeping showId after ∧ 0 + after.recountsLeft showId ≤ c.recountsLeft showId := by
    refine ⟨⟨tidy, same.site ▸ sweeping.ended, ?_⟩, ?_⟩
    · intro i j a b first second own own'
      exact sweeping.single i j a b ((same.jobs i a (own ▸ apart)).mp first)
        ((same.jobs j b (own' ▸ apart)).mp second) own own'
    · rw [same.recountsLeft sweeping apart, Nat.zero_add]
  cases op with
  | site op =>
      have ended := ended_stays (Site.step_change web c.site ctx op) sweeping.ended
      exact ⟨⟨tidy, ended, sweeping.single⟩, (Nat.zero_add _).le⟩
  | heartbeat userId username =>
      cases outcome : c.heartbeat toLowerCase ctx.now userId username with
      | error code =>
          have ran : c.step web toLowerCase (ctx, .heartbeat userId username) = c := by
            simp only [step, outcome, commit]
          rw [ran]
          exact ⟨sweeping, (Nat.zero_add _).le⟩
      | ok result =>
          obtain ⟨after, seconds⟩ := result
          have ran : c.step web toLowerCase (ctx, .heartbeat userId username) = after := by
            simp only [step, outcome, commit]
          rw [ran] at tidy ⊢
          obtain ⟨visitorId, other, _, shown, rfl⟩ := heartbeat_ok outcome
          obtain ⟨hotline, present, live⟩ := liveShow_live sweeping.tidy.mirrors shown
          have apart : showId ≠ other := by
            rintro rfl
            exact not_ended_of_live present live sweeping.ended
          obtain ⟨visited, stats, _⟩ := visit_same ctx.now c other visitorId
          refine elsewhere ?_ apart tidy
          rcases startCounting_cases (stats ▸ sweeping.tidy.oneStats : Table.OnePer
            ChannelStats.showId (c.visit ctx.now other visitorId).stats) ctx.now other with
            ⟨_, unchanged⟩ | ⟨_, started, _⟩
          · rw [unchanged]
            exact visited
          · exact visited.trans started
  | recount i =>
      cases found : c.jobs.get i with
      | none =>
          have ran : c.step web toLowerCase (ctx, .recount i) = c := by simp only [step, found]
          rw [ran]
          refine ⟨sweeping, ?_⟩
          simp [recounts, found]
      | some job =>
          have ran : c.step web toLowerCase (ctx, .recount i) = c.advance ctx.now i job := by
            simp only [step, found]
          rw [ran] at tidy ⊢
          obtain ⟨same, _, outcome⟩ := advance_cases sweeping.tidy.oneStats ctx.now found
          by_cases own : job.showId = showId
          · have single : ∀ k l a b, (c.advance ctx.now i job).jobs.get k = some a →
                (c.advance ctx.now i job).jobs.get l = some b → a.showId = showId →
                b.showId = showId → k = l := by
              have before {k : Nat} {a : CountJob} (there : (c.jobs.delete i).get k = some a) :
                  a.showId ≠ showId := by
                intro shared
                rw [Table.get_delete] at there
                split at there
                · cases there
                · rename_i apart
                  exact apart (sweeping.single k i a job there found shared own)
              intro k l a b first second own' own''
              rcases outcome with ⟨_, _, stage, jobs⟩ | ⟨next, _, jobs⟩ | ⟨jobs, _⟩
              · have origin {k : Nat} {a : CountJob}
                    (there : (c.advance ctx.now i job).jobs.get k = some a) :
                    ∃ b, c.jobs.get k = some b ∧ b.showId = a.showId := by
                  rw [jobs] at there
                  rcases Table.get_patch_row found there with ⟨rfl, rfl⟩ | ⟨_, old⟩
                  · exact ⟨job, found, rfl⟩
                  · exact ⟨a, old, rfl⟩
                obtain ⟨a', old, user⟩ := origin first
                obtain ⟨b', old', user'⟩ := origin second
                exact sweeping.single k l a' b' old old' (user.trans own') (user'.trans own'')
              · rw [jobs] at first second
                rcases Table.get_insert_row first with ⟨rfl, _⟩ | old
                · rcases Table.get_insert_row second with ⟨rfl, _⟩ | old'
                  · rfl
                  · exact absurd own'' (before old')
                · exact absurd own' (before old)
              · rw [jobs] at first
                exact absurd own' (before first)
            refine ⟨⟨tidy, same.site ▸ sweeping.ended, single⟩, ?_⟩
            rcases advance_pays sweeping ctx.now found own single with
              ⟨unchanged, due, held, later⟩ | pays
            · rw [unchanged]
              simp [recounts, found, own, held, later]
            · split <;> omega
          · have off : recounts showId c (ctx, .recount i) = false := by
              simp [recounts, found, own]
            rw [off]
            exact elsewhere same (fun shared => own shared.symm) tidy

end Sweep

/-! ### Any run -/

theorem empty_tidy : empty.Tidy :=
  ⟨Site.empty_mirrors, .empty⟩

theorem empty_sound : empty.OneRecount := by
  refine ⟨.empty, ?_, ?_⟩
  · rintro showId ⟨i, s, found, _⟩
    cases found
  · rintro showId ⟨hotline, found, _⟩
    cases found

theorem reached_tidy (web : Web) (inputs : List (Ctx × ChannelOp)) :
    (run (step web toLowerCase) empty inputs).Tidy :=
  Reachable.induct ⟨inputs, rfl⟩ Tidy empty_tidy fun _ input tidy => step_tidy web tidy input

/-- A recount that is due has a step to take. -/
theorem recounts_due {i : Nat} {job : CountJob} (found : c.jobs.get i = some job) :
    ∃ due, ∀ ctx : Ctx, due ≤ ctx.now → recounts job.showId c (ctx, .recount i) = true := by
  cases held : job.stage with
  | scheduled due =>
      refine ⟨due, fun ctx isDue => ?_⟩
      simp [recounts, found, held, isDue]
  | counting => exact ⟨0, fun ctx _ => by simp [recounts, found, held]⟩
  | counted => exact ⟨0, fun ctx _ => by simp [recounts, found, held]⟩

/-- A show has one recount at a time, set off by its flag, and none of its rows outlast it,
all along a run exactly when every step meets the guard. After its end the recount takes at
most as many steps as are left, and has one to take until it is gone. -/
theorem one_recount_at_a_time (web : Web) (toLowerCase : Text → Text)
    (inputs : List (Ctx × ChannelOp)) :
    (Along (step web toLowerCase) (keepsOneRecount toLowerCase) empty inputs ↔
      ∀ front back, front ++ back = inputs →
        (run (step web toLowerCase) empty front).OneRecount) ∧
    (Along (step web toLowerCase) (keepsOneRecount toLowerCase) empty inputs →
      ∀ front back showId, front ++ back = inputs →
        let ended := run (step web toLowerCase) empty front
        Ended ended.site showId →
        countAlong (step web toLowerCase) (recounts showId) ended back ≤
            ended.recountsLeft showId ∧
          ∀ i job, ended.jobs.get i = some job → job.showId = showId → ∃ due, ∀ ctx : Ctx,
            due ≤ ctx.now → recounts showId ended (ctx, .recount i) = true) := by
  have exactly : Along (step web toLowerCase) (keepsOneRecount toLowerCase) empty inputs ↔
      ∀ front back, front ++ back = inputs → OneRecount (run (step web toLowerCase) empty front) :=
    along_iff_prefixes Tidy OneRecount (fun _ input tidy => step_tidy web tidy input)
      (fun _ input tidy sound => keepsOneRecount_iff web tidy sound input) empty_tidy empty_sound
  refine ⟨exactly, fun guarded front back showId whole isOver => ⟨?_, ?_⟩⟩
  · have sound := exactly.mp guarded front back whole
    have sweeping : Sweeping showId (run (step web toLowerCase) empty front) := by
      refine ⟨reached_tidy web front, isOver, ?_⟩
      exact fun i j a b first second own own' => sound.single i j a b first second
        (own.trans own'.symm)
    have paid : countAlong (step web toLowerCase) (recounts showId)
          (run (step web toLowerCase) empty front) back +
        (run (step web toLowerCase) (run (step web toLowerCase) empty front) back).recountsLeft
          showId ≤ (run (step web toLowerCase) empty front).recountsLeft showId :=
      countAlong_le (fun c : Channels => c.recountsLeft showId)
        (fun _ input sweeping => (sweeping_step web sweeping input).1)
        (fun _ input sweeping => (sweeping_step web sweeping input).2) sweeping
    omega
  · rintro i job found rfl
    exact recounts_due found

/-- A show with one visitor ends while the next recount is scheduled. -/
def watchedRun : List (Ctx × ChannelOp) :=
  [(Site.sampleCtx 0, .site (.signUp (some [97]))), (Site.sampleCtx 0, .site (.signUp none)),
    (Site.sampleCtx 0, .site (.create (some 0))), (Site.sampleCtx 0, .site (.start (some 0) 0)),
    (Site.sampleCtx 0, .heartbeat (some 1) [97]), (Site.sampleCtx 0, .recount 0),
    (Site.sampleCtx 0, .recount 0), (Site.sampleCtx 0, .recount 0),
    (Site.sampleCtx 9000, .site (.finish (some 0) 0))]

/-- The recount comes, in three steps. -/
def sweepingRun : List (Ctx × ChannelOp) := List.replicate 3 (Site.sampleCtx 30000, .recount 1)

theorem watchedRun_keeps :
    Along (step Site.sampleWeb id) (keepsOneRecount id) empty (watchedRun ++ sweepingRun) := by
  refine ⟨trivial, trivial, trivial, trivial, ?_, trivial, trivial, trivial, ?_, trivial, trivial,
    trivial, trivial⟩
  · rintro _ showId _ _ ⟨i, job, found, _⟩
    cases found
  · intro creatorId hotline _ _ _ _
    exact ⟨1, _, rfl, rfl⟩

set_option maxRecDepth 20000 in
theorem one_recount_at_a_time_watched :
    let ended := run (step Site.sampleWeb id) empty watchedRun
    let swept := run (step Site.sampleWeb id) ended sweepingRun
    ended.OneRecount ∧ swept.OneRecount ∧ swept.stats.rows = [] ∧ swept.visits.rows = [] ∧
      countAlong (step Site.sampleWeb id) (recounts 0) ended sweepingRun = 3 ∧
      countAlong (step Site.sampleWeb id) (recounts 0) ended sweepingRun ≤
        ended.recountsLeft 0 := by
  obtain ⟨exactly, bounded⟩ :=
    one_recount_at_a_time Site.sampleWeb id (watchedRun ++ sweepingRun)
  have each := exactly.mp watchedRun_keeps
  have whole := each (watchedRun ++ sweepingRun) [] (List.append_nil _)
  rw [run_append] at whole
  refine ⟨each watchedRun sweepingRun rfl, whole, by decide, by decide, by decide, ?_⟩
  exact (bounded watchedRun_keeps watchedRun sweepingRun 0 rfl ⟨_, rfl, rfl⟩).1

/-- A show with one visitor, who was counted out before the show ended. -/
def quietRun : List (Ctx × ChannelOp) :=
  [(Site.sampleCtx 0, .site (.signUp (some [97]))), (Site.sampleCtx 0, .site (.signUp none)),
    (Site.sampleCtx 0, .site (.create (some 0))), (Site.sampleCtx 0, .site (.start (some 0) 0)),
    (Site.sampleCtx 0, .heartbeat (some 1) [97]), (Site.sampleCtx 200000, .recount 0),
    (Site.sampleCtx 200000, .recount 0), (Site.sampleCtx 200000, .recount 0),
    (Site.sampleCtx 300000, .site (.finish (some 0) 0))]

set_option maxRecDepth 20000 in
/-- Nothing sweeps the row of a show that ends in a quiet spell. -/
theorem quiet_show_leaves_stats : ¬ ∀ web toLowerCase inputs,
    (run (step web toLowerCase) empty inputs).OneRecount := by
  intro all
  have swept := (all Site.sampleWeb id quietRun).swept 0 ⟨⟨0, .ended, some 0, some 300000⟩, ?_, rfl⟩
  · apply swept
    · rintro ⟨i, job, found, _⟩
      have none : (run (step Site.sampleWeb id) empty quietRun).jobs.rows = [] := by decide
      have member := (Table.mem_rows_iff _ i job).mpr found
      rw [none] at member
      cases member
    · have left : (run (step Site.sampleWeb id) empty quietRun).stats.get 0 =
          some ⟨0, 0, false⟩ := by decide
      exact Or.inr ⟨0, _, left, rfl⟩
  · decide

end Channels

end Bling
