import Bling.FollowCounts
import Bling.Social.LiveAlerts

set_option autoImplicit false

namespace Bling

open Library

/-! Nobody gets two alert emails for one show. -/

namespace Site

variable {ctx : Ctx} {s after : Site} {op : SiteOp}

/-- Only a show that starts sets off a walk, from a draft and with a profile. -/
theorem collects_change (change : SiteChange ctx s op after) :
    after.collects = s.collects ∨ ∃ userId showId hotline, op = .start userId showId ∧
      s.backend.shows.get showId = some hotline ∧ hotline.status = .created ∧
      (s.profileForUser hotline.creatorId).isSome ∧
      after.backend.shows.get showId = some { hotline with
        status := .live, startedAt := some ctx.now } ∧
      after.collects = s.collects ++ [(ctx.now, { showId, cursor := none, batch := 0 })] := by
  have patched (s : Site) (creatorId : UserId) (f : CreatorProfile → CreatorProfile) :
      (s.patchProfile creatorId f).collects = s.collects := by
    unfold patchProfile
    split <;> rfl
  cases change with
  | quiet | signedUp | profileAdded | saved | avatarSaved | uploaded | discarded | attached =>
      exact Or.inl rfl
  | created => exact Or.inl (patched _ _ _)
  | scheduled => exact Or.inl (patched _ _ _)
  | finished => exact Or.inl (patched _ _ _)
  | started userId creatorId showId hotline backend allowed found draft alone users shows =>
      obtain ⟨present, owner⟩ := showForCreator_ok found
      unfold onShowLive
      dsimp only
      split
      · exact Or.inl (patched _ _ _)
      · unfold queueLiveAlert
        split
        · exact Or.inl (patched _ _ _)
        · rename_i profiled
          split
          · exact Or.inl (patched _ _ _)
          · refine Or.inr ⟨userId, showId, hotline, rfl, present, draft, ?_, ?_, ?_⟩
            · rw [owner]
              cases known : s.profileForUser creatorId with
              | some row => rfl
              | none =>
                  have unknown (f : CreatorProfile → CreatorProfile) :
                      { s with backend }.patchProfile creatorId f = { s with backend } := by
                    have none : Site.profileForUser { s with backend } creatorId = none := known
                    rw [patchProfile, none]
                  rw [unknown] at profiled
                  cases known.symm.trans profiled
            · show (patchProfile _ _ _).backend.shows.get showId = _
              rw [patchProfile_backend, shows, Table.get_patch_self present]
            · exact congrArg (· ++ _) (patched _ _ _)

/-- A show keeps its creator, is never a draft again, and goes live from a draft. -/
theorem show_stays (change : SiteChange ctx s op after) {id : ShowId} {hotline : Show}
    (found : s.backend.shows.get id = some hotline) : ∃ later,
      after.backend.shows.get id = some later ∧ later.creatorId = hotline.creatorId ∧
        (hotline.status ≠ .created → later.status ≠ .created) ∧
        (later.status = .live → hotline.status = .live ∨
          hotline.status = .created ∧ ∃ userId, op = .start userId id) := by
  have kept : ∃ later, s.backend.shows.get id = some later ∧
      later.creatorId = hotline.creatorId ∧ (hotline.status ≠ .created → later.status ≠ .created) ∧
      (later.status = .live → hotline.status = .live ∨
        hotline.status = .created ∧ ∃ userId, op = .start userId id) :=
    ⟨hotline, found, rfl, fun draft => draft, Or.inl⟩
  cases change with
  | quiet _ backend avatarCalls users shows => simpa only [shows] using kept
  | signedUp username backend user users shows => simpa only [shows] using kept
  | profileAdded username name backend user users shows =>
      simpa only [createProfile, shows] using kept
  | created userId creatorId backend draft allowed owner created users shows =>
      refine ⟨hotline, ?_, rfl, fun draft => draft, Or.inl⟩
      simp only [onShowCreated, patchProfile_backend, shows]
      exact Table.get_insert_of_some found _
  | scheduled => simpa only [onShowScheduled, patchProfile_backend] using kept
  | started userId creatorId other draft backend allowed located created alone users shows =>
      simp only [(onShowLive_same _ _ _ _).1, shows]
      rw [Table.get_patch]
      by_cases same : id = other
      · subst same
        obtain rfl := Option.some.inj ((showForCreator_ok located).1.symm.trans found)
        rw [if_pos rfl, found]
        refine ⟨_, rfl, rfl, fun _ => ?_, fun _ => Or.inr ⟨created, userId, rfl⟩⟩
        exact fun draft => by cases draft
      · rw [if_neg same]
        exact kept
  | finished userId creatorId other live backend allowed located isLive users shows =>
      simp only [onShowEnded, patchProfile_backend, shows]
      rw [Table.get_patch]
      by_cases same : id = other
      · subst same
        rw [if_pos rfl, found]
        refine ⟨_, rfl, rfl, fun _ draft => ?_, fun live => ?_⟩
        · cases draft
        · cases live
      · rw [if_neg same]
        exact kept
  | saved | avatarSaved | uploaded | discarded | attached => exact kept

theorem patched_stays {s : Site} {id : Nat} {f : CreatorProfile → CreatorProfile}
    (keeps : ∀ p, (f p).userId = p.userId) {userId : UserId}
    (known : (s.profileForUser userId).isSome) :
    ((s.profiles.patch id f).first fun p => p.userId == userId).isSome := by
  rw [Table.first_patch _ _ fun p => by rw [keeps], Option.isSome_map]
  exact known

theorem patchProfile_stays {s : Site} {creatorId : UserId} {f : CreatorProfile → CreatorProfile}
    (keeps : ∀ p, (f p).userId = p.userId) {userId : UserId}
    (known : (s.profileForUser userId).isSome) :
    ((s.patchProfile creatorId f).profileForUser userId).isSome := by
  unfold patchProfile
  split
  · exact patched_stays keeps known
  · exact known

theorem onShowLive_stays {s : Site} {now : Time} {creatorId : UserId} {showId : ShowId}
    {userId : UserId} (known : (s.profileForUser userId).isSome) :
    ((onShowLive now s creatorId showId).profileForUser userId).isSome := by
  have patched : ((s.patchProfile creatorId fun p => { p with
      published := true, isLive := true, liveShowId := some showId
      liveStartedAt := some now, nextHotlineAt := none }).profileForUser userId).isSome :=
    patchProfile_stays (by intro p; rfl) known
  unfold onShowLive queueLiveAlert
  dsimp only
  split
  · exact patched
  · split
    · exact patched
    · split
      · exact patched
      · exact patched_stays (by intro p; rfl) patched

/-- A user who has a profile keeps one. -/
theorem profile_stays (change : SiteChange ctx s op after) {userId : UserId}
    (known : (s.profileForUser userId).isSome) : (after.profileForUser userId).isSome := by
  cases change with
  | quiet | signedUp | uploaded | discarded => exact known
  | profileAdded username name backend user users shows =>
      obtain ⟨row, found⟩ := Option.isSome_iff_exists.mp known
      exact Option.isSome_iff_exists.mpr ⟨row, Table.first_insert found _⟩
  | created => exact patchProfile_stays (by intro p; rfl) known
  | scheduled => exact patchProfile_stays (by intro p; rfl) known
  | started => exact onShowLive_stays known
  | finished => exact patchProfile_stays (by intro p; split <;> rfl) known
  | saved | avatarSaved | attached => exact patched_stays (by intro p; rfl) known

end Site

/-! ### What a step does -/

/-- The users that the batches of a show name. -/
def recipientsOf (showId : ShowId) (batches : List AlertBatch) : List UserId :=
  (batches.filter fun b => b.showId == showId).flatMap fun b => b.recipients.map Prod.fst

namespace Alerts

def page (a : Alerts) (creatorId : UserId) (cursor : Option Nat) : List (Nat × Follow) :=
  (a.followersBeyond creatorId cursor).take alertBatch

/-- The batch a page makes. -/
def batchOf (a : Alerts) (creatorId : UserId) (job : CollectJob) : AlertBatch where
  showId := job.showId
  batch := job.batch
  recipients := (a.page creatorId job.cursor).filterMap fun row => a.recipient row.2.followerId

/-- Where the walk goes on after a page. -/
def nextJob (a : Alerts) (creatorId : UserId) (job : CollectJob) : CollectJob where
  showId := job.showId
  cursor := (a.page creatorId job.cursor).getLast?.map Prod.fst
  batch := job.batch + 1

end Alerts

/-- What a `collect` that finds its show LIVE does. -/
structure Walked (now : Time) (a : Alerts) (job : CollectJob) (hotline : Show) (after : Alerts) :
    Prop where
  found : a.site.backend.shows.get job.showId = some hotline
  live : hotline.status = .live
  site : after.site = { a.site with
    collects := a.site.collects ++ if (a.page hotline.creatorId job.cursor).length < alertBatch
      then [] else [(now, a.nextJob hotline.creatorId job)] }
  follows : after.follows = a.follows
  delivered : after.delivered = a.delivered
  batches : after.batches = a.batches ++
    if (a.batchOf hotline.creatorId job).recipients = [] then []
    else [a.batchOf hotline.creatorId job]
  sends : ∀ id send, after.sends.get id = some send →
    a.sends.get id = some send ∨ send.batch ∈ after.batches

namespace Alerts

theorem collect_walked {a : Alerts} {job : CollectJob} {hotline : Show} (now : Time)
    (found : a.site.backend.shows.get job.showId = some hotline) (live : hotline.status = .live)
    (profiled : (a.site.profileForUser hotline.creatorId).isSome) :
    Walked now a job hotline (a.collect now job) := by
  obtain ⟨⟨id, profile⟩, profiled⟩ := Option.isSome_iff_exists.mp profiled
  have page : (a.followersBeyond hotline.creatorId job.cursor).take alertBatch =
      a.page hotline.creatorId job.cursor := rfl
  have recipients : (a.page hotline.creatorId job.cursor).filterMap
      (fun row => a.recipient row.2.followerId) =
        (a.batchOf hotline.creatorId job).recipients := rfl
  have sends (table : Table SendJob) (batches : List AlertBatch) (send : SendJob) (id : Nat)
      (other : SendJob) (there : (table.insert send).get id = some other) :
      table.get id = some other ∨ other.batch ∈ batches ++ [send.batch] := by
    rcases Table.get_insert_row there with ⟨_, rfl⟩ | old
    · exact Or.inr (List.mem_append_right _ List.mem_cons_self)
    · exact Or.inl old
  unfold collect
  simp only [found, live, ne_eq, not_true_eq_false, if_false, profiled, page, recipients]
  by_cases empty : (a.batchOf hotline.creatorId job).recipients = []
  · by_cases last : (a.page hotline.creatorId job.cursor).length < alertBatch
    · rw [if_pos empty, if_pos last]
      refine ⟨found, live, ?_, rfl, rfl, ?_, fun _ _ there => Or.inl there⟩
      · rw [if_pos last, List.append_nil]
      · rw [if_pos empty, List.append_nil]
    · rw [if_pos empty, if_neg last]
      refine ⟨found, live, ?_, rfl, rfl, ?_, fun _ _ there => Or.inl there⟩
      · rw [if_neg last]
        rfl
      · rw [if_pos empty, List.append_nil]
  · by_cases last : (a.page hotline.creatorId job.cursor).length < alertBatch
    · rw [if_neg empty, if_pos last]
      refine ⟨found, live, ?_, rfl, rfl, ?_, sends _ _ _⟩
      · rw [if_pos last, List.append_nil]
      · rw [if_neg empty]
        rfl
    · rw [if_neg empty, if_neg last]
      refine ⟨found, live, ?_, rfl, rfl, ?_, sends _ _ _⟩
      · rw [if_neg last]
        rfl
      · rw [if_neg empty]
        rfl

/-- A `collect` of a show that closed does nothing. -/
theorem collect_cases (now : Time) (a : Alerts) (job : CollectJob) :
    a.collect now job = a ∨ ∃ hotline, Walked now a job hotline (a.collect now job) := by
  cases found : a.site.backend.shows.get job.showId with
  | none =>
      left
      simp only [collect, found]
  | some hotline =>
      by_cases live : hotline.status = .live
      · cases profiled : a.site.profileForUser hotline.creatorId with
        | none =>
            left
            simp only [collect, found, live, profiled, ne_eq, not_true_eq_false, if_false]
        | some row =>
            right
            refine ⟨hotline, collect_walked now found live ?_⟩
            rw [profiled]
            rfl
      · left
        simp only [collect, found, ne_eq, live, not_false_eq_true, if_true]

end Alerts

/-- Whatever else a step writes, it leaves the site and the emails of the walks alone. -/
structure Unalerted (a after : Alerts) : Prop where
  site : after.site = a.site
  batches : after.batches = a.batches
  sends : after.sends = a.sends
  delivered : after.delivered = a.delivered

theorem Unalerted.refl (a : Alerts) : Unalerted a a :=
  ⟨rfl, rfl, rfl, rfl⟩

/-- What one step does. -/
inductive AlertChange (toLowerCase : Text → Text) (ctx : Ctx) (a : Alerts) :
    AlertOp → Alerts → Prop
  | site (op : SiteOp) (site : Site) (change : SiteChange ctx a.site op site) :
      AlertChange toLowerCase ctx a (.site op) { a with site }
  | quiet (op : AlertOp) (after : Alerts) (same : Unalerted a after)
      (follows : after.follows = a.follows) : AlertChange toLowerCase ctx a op after
  | followed (start : Fin shards) (username : Text) (follower : UserId) (creatorId : UserId)
      (id : Nat) (profile : Profile) (after : Alerts)
      (located : profileByUsername toLowerCase a.social username = some (id, profile))
      (own : profile.userId = creatorId)
      (made : (a.setFollow ctx.now start toLowerCase (some follower) username true).isOk = true)
      (new : ∀ i f, a.follows.get i = some f → f ≠ ⟨follower, creatorId⟩)
      (same : Unalerted a after)
      (follows : after.follows = a.follows.insert ⟨follower, creatorId⟩) :
      AlertChange toLowerCase ctx a (.follow start (some follower) username) after
  | unfollowed (start : Fin shards) (username : Text) (follower creatorId : UserId) (id : Nat)
      (after : Alerts) (found : a.follows.get id = some ⟨follower, creatorId⟩)
      (same : Unalerted a after) (follows : after.follows = a.follows.delete id) :
      AlertChange toLowerCase ctx a (.unfollow start (some follower) username) after
  | collected (time : Time) (job : CollectJob) (pending : (time, job) ∈ a.site.collects) :
      AlertChange toLowerCase ctx a (.collect time job)
        ((a.dequeue (time, job)).collect ctx.now job)
  | sent (id : Nat) (mailing : Alerts.Mailing) (job : SendJob) (after : Alerts)
      (queued : a.sends.get id = some job) (site : after.site = a.site)
      (follows : after.follows = a.follows) (batches : after.batches = a.batches)
      (sends : ∀ i send, after.sends.get i = some send → send.batch = job.batch ∨
        a.sends.get i = some send)
      (delivered : after.delivered = a.delivered ∨ after.delivered = a.delivered ++ [job.batch] ∧
        ∀ other ∈ a.delivered, ¬ (other.showId = job.batch.showId ∧
          other.batch = job.batch.batch)) :
      AlertChange toLowerCase ctx a (.send id mailing) after

namespace Alerts

variable {toLowerCase : Text → Text} {ctx : Ctx} {a : Alerts}

theorem quiet_refl (op : AlertOp) : AlertChange toLowerCase ctx a op a :=
  .quiet op a (.refl a) rfl

theorem setFollow_change (start : Fin shards) (userId : Option UserId) (username : Text)
    (follow : Bool) : AlertChange toLowerCase ctx a
      (if follow then .follow start userId username else .unfollow start userId username)
      (a.commit (a.setFollow ctx.now start toLowerCase userId username follow)) := by
  cases outcome : a.setFollow ctx.now start toLowerCase userId username follow with
  | error code => exact quiet_refl _
  | ok result =>
      have made : (a.setFollow ctx.now start toLowerCase userId username follow).isOk = true := by
        rw [outcome]
        rfl
      unfold setFollow at outcome
      obtain ⟨⟨social, isFollowing⟩, done, outcome⟩ := bind_ok outcome
      obtain rfl := Except.ok.inj outcome
      rcases setFollow_ok done with rfl |
        ⟨follower, i, creator, rateLimits, allowed, named, changes, room, rfl⟩
      · exact .quiet _ _ ⟨rfl, rfl, rfl, rfl⟩ rfl
      · obtain ⟨rfl, _⟩ := requireCreatorId_ok allowed
        rcases setFollow_follows changes with ⟨rfl, new, inserted⟩ | ⟨rfl, id, found, deleted⟩
        · exact .followed start username follower creator.userId i creator _ named rfl made new
            ⟨rfl, rfl, rfl, rfl⟩ inserted
        · exact .unfollowed start username follower creator.userId id _ found
            ⟨rfl, rfl, rfl, rfl⟩ deleted

theorem savePreference_change (op : AlertOp) (userId : UserId) (liveAlerts : Bool) :
    AlertChange toLowerCase ctx a op (a.savePreference userId liveAlerts) := by
  unfold savePreference
  split
  · exact .quiet op _ ⟨rfl, rfl, rfl, rfl⟩ rfl
  · exact .quiet op _ ⟨rfl, rfl, rfl, rfl⟩ rfl

theorem setLiveAlerts_change (userId : Option UserId) (enabled : Bool) :
    AlertChange toLowerCase ctx a (.setLiveAlerts userId enabled)
      (a.commit (a.setLiveAlerts userId enabled)) := by
  cases outcome : a.setLiveAlerts userId enabled with
  | error code => exact quiet_refl _
  | ok result =>
      unfold setLiveAlerts at outcome
      obtain ⟨known, _, outcome⟩ := bind_ok outcome
      split at outcome
      · cases outcome
      · split at outcome
        · cases outcome
        · obtain rfl := Except.ok.inj outcome
          exact savePreference_change _ known enabled

/-- A batch is delivered under a key that was not used before. -/
theorem deliver_cases (a : Alerts) (batch : AlertBatch) : a.deliver batch = a ∨
    a.deliver batch = { a with delivered := a.delivered ++ [batch] } ∧
      ∀ other ∈ a.delivered, ¬ (other.showId = batch.showId ∧ other.batch = batch.batch) := by
  unfold deliver
  split
  · exact Or.inl rfl
  · rename_i new
    refine Or.inr ⟨rfl, ?_⟩
    rintro other member ⟨hotline, number⟩
    apply new
    rw [List.any_eq_true]
    exact ⟨other, member, by simp [hotline, number]⟩

theorem send_change {id : Nat} {job : SendJob} (queued : a.sends.get id = some job)
    (mailing : Mailing) : AlertChange toLowerCase ctx a (.send id mailing)
      (send ctx.now { a with sends := a.sends.delete id } job mailing) := by
  have left (i : Nat) (other : SendJob) (there : (a.sends.delete id).get i = some other) :
      a.sends.get i = some other := by
    rw [Table.get_delete] at there
    split at there
    · cases there
    · exact there
  cases mailing with
  | notSent =>
      exact .sent id _ job _ queued rfl rfl rfl (fun i other there => Or.inr (left i other there))
        (Or.inl rfl)
  | resend accepts ok =>
      have mailed : ∃ b, (if accepts then deliver { a with sends := a.sends.delete id } job.batch
          else { a with sends := a.sends.delete id }) = b ∧ b.site = a.site ∧
          b.follows = a.follows ∧ b.batches = a.batches ∧ b.sends = a.sends.delete id ∧
          (b.delivered = a.delivered ∨ b.delivered = a.delivered ++ [job.batch] ∧
            ∀ other ∈ a.delivered, ¬ (other.showId = job.batch.showId ∧
              other.batch = job.batch.batch)) := by
        refine ⟨_, rfl, ?_⟩
        split
        · rcases deliver_cases { a with sends := a.sends.delete id } job.batch with
            same | ⟨same, new⟩
          · rw [same]
            exact ⟨rfl, rfl, rfl, rfl, Or.inl rfl⟩
          · rw [same]
            exact ⟨rfl, rfl, rfl, rfl, Or.inr ⟨rfl, new⟩⟩
        · exact ⟨rfl, rfl, rfl, rfl, Or.inl rfl⟩
      obtain ⟨b, outcome, site, follows, batches, sends, delivered⟩ := mailed
      simp only [send, outcome]
      split
      · refine .sent id _ job _ queued site follows batches ?_ delivered
        intro i other there
        rcases Table.get_insert_row there with ⟨_, rfl⟩ | old
        · exact Or.inl rfl
        · rw [sends] at old
          exact Or.inr (left i other old)
      · refine .sent id _ job _ queued site follows batches ?_ delivered
        intro i other there
        rw [sends] at there
        exact Or.inr (left i other there)

theorem step_change (web : Web) (toLowerCase : Text → Text) (ctx : Ctx) (a : Alerts)
    (op : AlertOp) : AlertChange toLowerCase ctx a op (a.step web toLowerCase (ctx, op)) := by
  cases op with
  | site op => exact .site op _ (Site.step_change web a.site ctx op)
  | setEmail userId email => exact .quiet _ _ ⟨rfl, rfl, rfl, rfl⟩ rfl
  | follow start userId username => exact setFollow_change start userId username true
  | unfollow start userId username => exact setFollow_change start userId username false
  | setLiveAlerts userId enabled => exact setLiveAlerts_change userId enabled
  | unsubscribe userId =>
      simp only [step, unsubscribe]
      split
      · exact quiet_refl _
      · exact savePreference_change _ userId false
  | collect time job =>
      simp only [step]
      split
      · rename_i due
        exact .collected time job due.1
      · exact quiet_refl _
  | send id mailing =>
      simp only [step]
      split
      · exact quiet_refl _
      · rename_i job queued
        split
        · exact quiet_refl _
        · exact send_change queued mailing

end Alerts

/-! ### The pages of a walk -/

namespace Alerts

variable {a : Alerts}

theorem recipient_user {userId : UserId} {recipient : Recipient}
    (found : a.recipient userId = some recipient) : recipient.1 = userId := by
  unfold Alerts.recipient at found
  split at found
  · cases found
  · split at found
    · cases found
    · split at found
      · cases found
      · split at found
        · cases found
        · exact congrArg Prod.fst (Option.some.inj found).symm

/-- The users of a batch. -/
theorem recipients_users (rows : List (Nat × Follow)) :
    (rows.filterMap fun row => a.recipient row.2.followerId).map Prod.fst =
      (rows.filter fun row => (a.recipient row.2.followerId).isSome).map
        fun row => row.2.followerId := by
  induction rows with
  | nil => rfl
  | cons row rest ih =>
      cases found : a.recipient row.2.followerId with
      | none => simp [found, ih]
      | some recipient => simp [found, ih, recipient_user found]

theorem follows_sorted (a : Alerts) (creatorId : UserId) :
    (a.follows.query fun f => f.creatorId == creatorId).Pairwise fun x y => x.1 < y.1 :=
  a.follows.ordered.filter _

theorem mem_followersBeyond {creatorId : UserId} {cursor : Option Nat} {row : Nat × Follow} :
    row ∈ a.followersBeyond creatorId cursor ↔ a.follows.get row.1 = some row.2 ∧
      row.2.creatorId = creatorId ∧ ∀ position, cursor = some position → position < row.1 := by
  unfold followersBeyond
  rw [mem_beyond, Table.mem_query, beq_iff_eq, and_assoc]

theorem followersBeyond_sorted (a : Alerts) (creatorId : UserId) (cursor : Option Nat) :
    (a.followersBeyond creatorId cursor).Pairwise fun x y => x.1 < y.1 :=
  beyond_pairwise (a.follows_sorted creatorId) cursor

/-- A walk meets each follower once. -/
theorem followers_nodup (onePair : Table.OnePer (fun f : Follow => f) a.follows)
    (creatorId : UserId) (cursor : Option Nat) :
    ((a.followersBeyond creatorId cursor).map fun row => row.2.followerId).Nodup := by
  have sorted := a.followersBeyond_sorted creatorId cursor
  have distinct : (a.followersBeyond creatorId cursor).Nodup := by
    refine sorted.imp ?_
    intro x y less same
    rw [same] at less
    exact Nat.lt_irrefl _ less
  apply distinct.map_on
  intro x first y second same
  obtain ⟨there, own, _⟩ := mem_followersBeyond.mp first
  obtain ⟨there', own', _⟩ := mem_followersBeyond.mp second
  have equal : x.2 = y.2 := by
    cases x with
    | mk i f =>
        cases y with
        | mk j g =>
            cases f
            cases g
            simp_all
  exact Prod.ext (onePair x.1 y.1 x.2 y.2 there there' equal) equal

/-- Behind the cursor of the next job is no row of the page. -/
theorem nextJob_beyond {creatorId : UserId} {job : CollectJob}
    (full : ¬ (a.page creatorId job.cursor).length < alertBatch) :
    ∃ last, (a.page creatorId job.cursor).getLast? = some last ∧
      (a.nextJob creatorId job).cursor = some last.1 ∧
      a.followersBeyond creatorId (some last.1) =
        (a.followersBeyond creatorId job.cursor).drop alertBatch := by
  have filled : a.page creatorId job.cursor ≠ [] := by
    intro empty
    rw [empty] at full
    exact full (by decide)
  have found := List.getLast?_eq_some_getLast filled
  refine ⟨_, found, ?_, ?_⟩
  · simp only [nextJob, found, Option.map_some]
  · exact beyond_take StrictOrder.lt (a.follows_sorted creatorId) found

end Alerts

/-! ### The walks there are -/

theorem recipientsOf_append (showId : ShowId) (batches more : List AlertBatch) :
    recipientsOf showId (batches ++ more) =
      recipientsOf showId batches ++ recipientsOf showId more := by
  simp [recipientsOf]

theorem mem_recipientsOf {showId : ShowId} {batches : List AlertBatch} {userId : UserId} :
    userId ∈ recipientsOf showId batches ↔
      ∃ b ∈ batches, b.showId = showId ∧ userId ∈ b.recipients.map Prod.fst := by
  simp only [recipientsOf, List.mem_flatMap, List.mem_filter, beq_iff_eq, and_assoc]

/-- A show that has begun, with a creator who has a profile. -/
def Begun (site : Site) (showId : ShowId) : Prop :=
  ∃ hotline, site.backend.shows.get showId = some hotline ∧ hotline.status ≠ .created ∧
    (site.profileForUser hotline.creatorId).isSome

/-- A show has one walk, and only once it has begun. -/
structure Walking (site : Site) (batches : List AlertBatch) : Prop where
  alone : (site.collects.map fun job => job.2.showId).Nodup
  begun : ∀ job ∈ site.collects, Begun site job.2.showId
  batched : ∀ b ∈ batches, Begun site b.showId
  fresh : ∀ job ∈ site.collects, job.2.cursor = none → recipientsOf job.2.showId batches = []

theorem Begun.step {ctx : Ctx} {site after : Site} {op : SiteOp}
    (change : SiteChange ctx site op after) {showId : ShowId} (begun : Begun site showId) :
    Begun after showId := by
  obtain ⟨hotline, found, started, profiled⟩ := begun
  obtain ⟨later, found, own, stays, _⟩ := Site.show_stays change found
  refine ⟨later, found, stays started, ?_⟩
  rw [own]
  exact Site.profile_stays change profiled

theorem Walking.site {ctx : Ctx} {site after : Site} {op : SiteOp} {batches : List AlertBatch}
    (walking : Walking site batches) (change : SiteChange ctx site op after) :
    Walking after batches := by
  have batched : ∀ b ∈ batches, Begun after b.showId :=
    fun b member => (walking.batched b member).step change
  have kept : ∀ job ∈ site.collects, Begun after job.2.showId :=
    fun job member => (walking.begun job member).step change
  rcases Site.collects_change change with same | ⟨userId, showId, hotline, rfl, found, draft,
    profiled, live, more⟩
  · rw [← same] at kept
    refine ⟨?_, kept, batched, ?_⟩
    · rw [same]
      exact walking.alone
    · rw [same]
      exact walking.fresh
  · have unbegun : ¬ Begun site showId := by
      rintro ⟨other, present, started, _⟩
      obtain rfl := Option.some.inj (found.symm.trans present)
      exact started draft
    have begun : Begun after showId := by
      refine ⟨_, live, ?_, Site.profile_stays change profiled⟩
      intro same
      cases same
    constructor
    · rw [more, List.map_append, List.map_singleton, List.nodup_append]
      refine ⟨walking.alone, List.nodup_singleton _, ?_⟩
      intro other member new isNew same
      obtain ⟨job, pending, rfl⟩ := List.mem_map.mp member
      rw [List.mem_singleton.mp isNew] at same
      have same : job.2.showId = showId := same
      exact unbegun (same ▸ walking.begun job pending)
    · intro job member
      rw [more] at member
      rcases List.mem_append.mp member with old | new
      · exact kept job old
      · rw [List.mem_singleton.mp new]
        exact begun
    · exact batched
    · intro job member start
      rw [more] at member
      rcases List.mem_append.mp member with old | new
      · exact walking.fresh job old start
      · rw [List.mem_singleton.mp new]
        apply List.eq_nil_iff_forall_not_mem.mpr
        intro userId named
        obtain ⟨b, member, same, _⟩ := mem_recipientsOf.mp named
        have same : b.showId = showId := same
        exact unbegun (same ▸ walking.batched b member)

/-- Taking a job to run it. -/
theorem Walking.dequeue {a : Alerts} (walking : Walking a.site a.batches)
    (job : Time × CollectJob) :
    Walking (a.dequeue job).site (a.dequeue job).batches ∧
      (job ∈ a.site.collects → ∀ other ∈ (a.dequeue job).site.collects,
        other.2.showId ≠ job.2.showId) := by
  refine ⟨⟨?_, ?_, walking.batched, ?_⟩, ?_⟩
  · exact walking.alone.sublist (List.erase_sublist.map _)
  · exact fun other member => walking.begun other (List.mem_of_mem_erase member)
  · exact fun other member => walking.fresh other (List.mem_of_mem_erase member)
  · intro member other left same
    have moved := (List.perm_cons_erase member).map fun job => job.2.showId
    have alone := moved.nodup_iff.mp walking.alone
    rw [List.map_cons, List.nodup_cons] at alone
    apply alone.1
    rw [← same]
    exact List.mem_map_of_mem left

theorem Walking.walked {now : Time} {a after : Alerts} {job : CollectJob} {hotline : Show}
    (walking : Walking a.site a.batches)
    (alone : ∀ other ∈ a.site.collects, other.2.showId ≠ job.showId)
    (begun : Begun a.site job.showId) (walked : Walked now a job hotline after) :
    Walking after.site after.batches := by
  rw [walked.site, walked.batches]
  constructor
  · dsimp only
    split
    · simpa using walking.alone
    · rw [List.map_append, List.map_singleton, List.nodup_append]
      refine ⟨walking.alone, List.nodup_singleton _, ?_⟩
      intro showId member new isNew same
      obtain ⟨other, pending, rfl⟩ := List.mem_map.mp member
      rw [List.mem_singleton.mp isNew] at same
      exact alone other pending same
  · intro other member
    rcases List.mem_append.mp member with old | new
    · exact walking.begun other old
    · split at new
      · cases new
      · rw [List.mem_singleton.mp new]
        exact begun
  · intro b member
    rcases List.mem_append.mp member with old | new
    · exact walking.batched b old
    · split at new
      · cases new
      · rw [List.mem_singleton.mp new]
        exact begun
  · intro other member start
    rcases List.mem_append.mp member with old | new
    · have apart := alone other old
      rw [recipientsOf_append, walking.fresh other old start, List.nil_append]
      apply List.eq_nil_iff_forall_not_mem.mpr
      intro userId named
      obtain ⟨b, member, same, _⟩ := mem_recipientsOf.mp named
      split at member
      · cases member
      · rw [List.mem_singleton.mp member] at same
        exact apart same.symm
    · split at new
      · cases new
      · rename_i full
        rw [List.mem_singleton.mp new] at start
        obtain ⟨last, _, cursor, _⟩ := Alerts.nextJob_beyond full
        cases cursor.symm.trans start

/-! ### The mail there is -/

/-- What is sent are batches, and each key is delivered at most once. -/
structure Mailed (a : Alerts) : Prop where
  sends : ∀ id send, a.sends.get id = some send → send.batch ∈ a.batches
  delivered : ∀ b ∈ a.delivered, b ∈ a.batches
  keys : (a.delivered.map fun b => (b.showId, b.batch)).Nodup

theorem Mailed.step {toLowerCase : Text → Text} {ctx : Ctx} {a after : Alerts} {op : AlertOp}
    (mailed : Mailed a) (change : AlertChange toLowerCase ctx a op after) : Mailed after := by
  have unalerted (same : Unalerted a after) : Mailed after := by
    obtain ⟨_, batches, sends, delivered⟩ := same
    constructor
    · rw [batches, sends]
      exact mailed.sends
    · rw [batches, delivered]
      exact mailed.delivered
    · rw [delivered]
      exact mailed.keys
  cases change with
  | site op site change => exact ⟨mailed.sends, mailed.delivered, mailed.keys⟩
  | quiet op after same follows => exact unalerted same
  | followed start username follower creatorId id profile after located own made new same follows =>
      exact unalerted same
  | unfollowed start username follower creatorId id after found same follows =>
      exact unalerted same
  | collected time job pending =>
      rcases Alerts.collect_cases ctx.now (a.dequeue (time, job)) job with
        same | ⟨hotline, walked⟩
      · rw [same]
        exact ⟨mailed.sends, mailed.delivered, mailed.keys⟩
      · constructor
        · intro id send there
          rcases walked.sends id send there with old | new
          · rw [walked.batches]
            exact List.mem_append_left _ (mailed.sends id send old)
          · exact new
        · intro b member
          rw [walked.delivered] at member
          rw [walked.batches]
          exact List.mem_append_left _ (mailed.delivered b member)
        · rw [walked.delivered]
          exact mailed.keys
  | sent id mailing job after queued site follows batches sends delivered =>
      have known := mailed.sends id job queued
      constructor
      · intro i send there
        rw [batches]
        rcases sends i send there with same | old
        · exact same ▸ known
        · exact mailed.sends i send old
      · intro b member
        rw [batches]
        rcases delivered with same | ⟨more, _⟩
        · exact mailed.delivered b (same ▸ member)
        · rw [more] at member
          rcases List.mem_append.mp member with old | new
          · exact mailed.delivered b old
          · rw [List.mem_singleton.mp new]
            exact known
      · rcases delivered with same | ⟨more, new⟩
        · rw [same]
          exact mailed.keys
        · rw [more, List.map_append, List.map_singleton, List.nodup_append]
          refine ⟨mailed.keys, List.nodup_singleton _, ?_⟩
          intro key member last isLast same
          obtain ⟨b, present, rfl⟩ := List.mem_map.mp member
          rw [List.mem_singleton.mp isLast] at same
          exact new b present (Prod.mk.inj same)

/-- If no user is in two batches of a show, nobody is mailed twice. -/
theorem Mailed.once {a : Alerts} (mailed : Mailed a) {showId : ShowId}
    (once : (recipientsOf showId a.batches).Nodup) :
    (recipientsOf showId a.delivered).Nodup := by
  obtain ⟨each, apart⟩ := List.nodup_flatMap.mp once
  have within {b : AlertBatch} (member : b ∈ a.delivered.filter fun b => b.showId == showId) :
      b ∈ a.batches.filter fun b => b.showId == showId := by
    obtain ⟨there, own⟩ := List.mem_filter.mp member
    exact List.mem_filter.mpr ⟨mailed.delivered b there, own⟩
  have distinct : a.delivered.Pairwise fun b c => b ≠ c :=
    (List.pairwise_map.mp mailed.keys).imp fun apart same => apart (by rw [same])
  apply List.nodup_flatMap.mpr
  refine ⟨fun b member => each b (within member), ?_⟩
  refine (distinct.filter _).imp_of_mem ?_
  intro b c first second different
  have both : Std.Symm (Function.onFun List.Disjoint fun b : AlertBatch =>
      b.recipients.map Prod.fst) := ⟨fun _ _ disjoint => disjoint.symm⟩
  exact apart.forall (within first) (within second) different

/-! ### Nobody twice -/

namespace Alerts

/-- Whether a show that is LIVE and still walks this creator's followers has emailed the user. -/
def emailedInWalk (a : Alerts) (userId creatorId : UserId) : Bool :=
  a.site.collects.any fun job =>
    ((a.site.backend.shows.get job.2.showId).any fun hotline =>
      hotline.status == .live && hotline.creatorId == creatorId) &&
    (recipientsOf job.2.showId a.batches).contains userId

/-- The step does not make a new follow of somebody who unfollowed after the email of a walk that
goes on. -/
def spares (toLowerCase : Text → Text) (a : Alerts) (input : Ctx × AlertOp) : Bool :=
  match input.2 with
  | .follow start (some userId) username =>
    match profileByUsername toLowerCase a.social username with
    | some (_, creator) =>
      !(a.setFollow input.1.now start toLowerCase (some userId) username true).isOk ||
        (a.follows.first fun f => f.followerId == userId && f.creatorId == creator.userId).isSome ||
        !a.emailedInWalk userId creator.userId
    | none => true
  | _ => true

end Alerts

/-- Whom a show has emailed is behind its walk. -/
structure Spared (a : Alerts) : Prop where
  once : ∀ showId, (recipientsOf showId a.batches).Nodup
  behind : ∀ job ∈ a.site.collects, ∀ hotline,
    a.site.backend.shows.get job.2.showId = some hotline → hotline.status = .live →
    ∀ row ∈ a.followersBeyond hotline.creatorId job.2.cursor,
      row.2.followerId ∉ recipientsOf job.2.showId a.batches

theorem recipientsOf_made (showId : ShowId) (b : AlertBatch) :
    recipientsOf showId (if b.recipients = [] then [] else [b]) =
      if b.showId = showId then b.recipients.map Prod.fst else [] := by
  by_cases empty : b.recipients = []
  · simp [recipientsOf, empty]
  · by_cases own : b.showId = showId
    · simp [recipientsOf, empty, own]
    · simp [recipientsOf, empty, own]

theorem Spared.site {ctx : Ctx} {a : Alerts} {site : Site} {op : SiteOp} (spared : Spared a)
    (walking : Walking a.site a.batches) (change : SiteChange ctx a.site op site) :
    Spared { a with site } := by
  refine ⟨spared.once, ?_⟩
  intro job member later found live row beyond
  have old (member : job ∈ a.site.collects) :
      row.2.followerId ∉ recipientsOf job.2.showId a.batches := by
    obtain ⟨hotline, present, started, _⟩ := walking.begun job member
    obtain ⟨next, there, own, _, lives⟩ := Site.show_stays change present
    obtain rfl := Option.some.inj (there.symm.trans found)
    rcases lives live with before | ⟨draft, _⟩
    · rw [own] at beyond
      exact spared.behind job member hotline present before row beyond
    · exact absurd draft started
  rcases Site.collects_change change with same | ⟨userId, showId, hotline, rfl, present, draft, _,
    _, more⟩
  · exact old (same ▸ member)
  · have member : job ∈ site.collects := member
    rw [more] at member
    rcases List.mem_append.mp member with there | new
    · exact old there
    · rw [List.mem_singleton.mp new]
      intro named
      obtain ⟨b, made, own, _⟩ := mem_recipientsOf.mp named
      obtain ⟨other, found, started, _⟩ := walking.batched b made
      rw [own] at found
      obtain rfl := Option.some.inj (present.symm.trans found)
      exact started draft

/-- The users of a page and the rest of the walk are apart. -/
theorem Alerts.page_apart {a : Alerts}
    (onePair : Table.OnePer (fun f : Follow => f) a.follows) (creatorId : UserId)
    (job : CollectJob) :
    ((a.batchOf creatorId job).recipients.map Prod.fst).Nodup ∧
      ∀ row ∈ (a.followersBeyond creatorId job.cursor).drop alertBatch,
        row.2.followerId ∉ (a.batchOf creatorId job).recipients.map Prod.fst := by
  have users : (a.batchOf creatorId job).recipients.map Prod.fst =
      ((a.page creatorId job.cursor).filter fun row =>
        (a.recipient row.2.followerId).isSome).map fun row => row.2.followerId :=
    Alerts.recipients_users _
  have whole := Alerts.followers_nodup onePair creatorId job.cursor
  rw [← List.take_append_drop alertBatch (a.followersBeyond creatorId job.cursor),
    List.map_append, List.nodup_append] at whole
  rw [users]
  refine ⟨whole.1.sublist (List.filter_sublist.map _), ?_⟩
  intro row later named
  obtain ⟨other, member, same⟩ := List.mem_map.mp named
  exact whole.2.2 _ (List.mem_map_of_mem (List.mem_of_mem_filter member)) _
    (List.mem_map_of_mem later) same

theorem Walked.recipientsOf {now : Time} {a after : Alerts} {job : CollectJob} {hotline : Show}
    (walked : Walked now a job hotline after) (showId : ShowId) :
    recipientsOf showId after.batches = recipientsOf showId a.batches ++
      if job.showId = showId then (a.batchOf hotline.creatorId job).recipients.map Prod.fst
      else [] := by
  rw [walked.batches, recipientsOf_append, recipientsOf_made]
  rfl

/-- Whoever is in a batch has a row in its page. -/
theorem Alerts.batch_row {a : Alerts} {userId creatorId : UserId} {job : CollectJob}
    (named : userId ∈ (a.batchOf creatorId job).recipients.map Prod.fst) :
    ∃ row ∈ a.page creatorId job.cursor, row.2.followerId = userId ∧
      (a.recipient userId).isSome := by
  have users : (a.batchOf creatorId job).recipients.map Prod.fst =
      ((a.page creatorId job.cursor).filter fun row =>
        (a.recipient row.2.followerId).isSome).map fun row => row.2.followerId :=
    Alerts.recipients_users _
  rw [users] at named
  obtain ⟨row, member, rfl⟩ := List.mem_map.mp named
  obtain ⟨member, alerts⟩ := List.mem_filter.mp member
  exact ⟨row, member, rfl, alerts⟩

theorem Walked.beyond {now : Time} {a after : Alerts} {job : CollectJob} {hotline : Show}
    (walked : Walked now a job hotline after) : after.followersBeyond = a.followersBeyond := by
  funext creatorId cursor
  simp only [Alerts.followersBeyond, walked.follows]

/-- The job that a page leaves, if it leaves one. -/
theorem Walked.next {now : Time} {a after : Alerts} {job : CollectJob} {hotline : Show}
    (walked : Walked now a job hotline after)
    (alone : ∀ other ∈ a.site.collects, other.2.showId ≠ job.showId) {next : Time × CollectJob}
    (member : next ∈ after.site.collects) (own : next.2.showId = job.showId) :
    after.followersBeyond hotline.creatorId next.2.cursor =
      (a.followersBeyond hotline.creatorId job.cursor).drop alertBatch := by
  rw [walked.site] at member
  rw [walked.beyond]
  rcases List.mem_append.mp member with old | new
  · exact absurd own (alone next old)
  · split at new
    · cases new
    · rename_i full
      obtain ⟨last, _, cursor, rest⟩ := Alerts.nextJob_beyond full
      obtain rfl := List.mem_singleton.mp new
      rw [← rest, ← cursor]

theorem Walked.other {now : Time} {a after : Alerts} {job : CollectJob} {hotline : Show}
    (walked : Walked now a job hotline after) {other : Time × CollectJob}
    (member : other ∈ after.site.collects) (apart : other.2.showId ≠ job.showId) :
    other ∈ a.site.collects := by
  rw [walked.site] at member
  rcases List.mem_append.mp member with old | new
  · exact old
  · split at new
    · cases new
    · obtain rfl := List.mem_singleton.mp new
      exact absurd rfl apart

theorem Walked.show_eq {now : Time} {a after : Alerts} {job : CollectJob} {hotline later : Show}
    (walked : Walked now a job hotline after)
    (found : after.site.backend.shows.get job.showId = some later) : later = hotline := by
  rw [walked.site] at found
  exact Option.some.inj (found.symm.trans walked.found)

theorem Spared.walked {now : Time} {a after : Alerts} {job : CollectJob} {hotline : Show}
    (spared : Spared a) (onePair : Table.OnePer (fun f : Follow => f) a.follows)
    (alone : ∀ other ∈ a.site.collects, other.2.showId ≠ job.showId)
    (behind : ∀ row ∈ a.followersBeyond hotline.creatorId job.cursor,
      row.2.followerId ∉ recipientsOf job.showId a.batches)
    (walked : Walked now a job hotline after) : Spared after := by
  have page := Alerts.page_apart onePair hotline.creatorId job
  constructor
  · intro showId
    rw [walked.recipientsOf]
    split
    · rename_i own
      subst own
      rw [List.nodup_append]
      refine ⟨spared.once job.showId, page.1, ?_⟩
      intro old emailed new named same
      subst same
      obtain ⟨row, member, rfl, _⟩ := Alerts.batch_row named
      exact behind row (List.mem_of_mem_take member) emailed
    · rw [List.append_nil]
      exact spared.once showId
  · intro other member later found live row there
    rw [walked.recipientsOf, List.mem_append, not_or]
    by_cases own : other.2.showId = job.showId
    · rw [own] at found ⊢
      obtain rfl := walked.show_eq found
      rw [walked.next alone member own] at there
      refine ⟨behind row (List.mem_of_mem_drop there), ?_⟩
      rw [if_pos rfl]
      exact page.2 row there
    · rw [if_neg (Ne.symm own)]
      refine ⟨?_, List.not_mem_nil⟩
      have old := walked.other member own
      rw [walked.site] at found
      rw [walked.beyond] at there
      exact spared.behind other old later found live row there

/-- Everything a run keeps. -/
structure AlertsSound (a : Alerts) : Prop where
  onePair : Table.OnePer (fun f : Follow => f) a.follows
  walking : Walking a.site a.batches
  mailed : Mailed a

theorem onePair_step {toLowerCase : Text → Text} {ctx : Ctx} {a after : Alerts} {op : AlertOp}
    (onePair : Table.OnePer (fun f : Follow => f) a.follows)
    (change : AlertChange toLowerCase ctx a op after) :
    Table.OnePer (fun f : Follow => f) after.follows := by
  cases change with
  | site op site change => exact onePair
  | quiet op after same follows => exact follows ▸ onePair
  | followed start username follower creatorId id profile after located own made new same follows =>
      rw [follows]
      exact onePair.insert new
  | unfollowed start username follower creatorId id after found same follows =>
      rw [follows]
      exact onePair.delete id
  | collected time job pending =>
      rcases Alerts.collect_cases ctx.now (a.dequeue (time, job)) job with
        same | ⟨hotline, walked⟩
      · rw [same]
        exact onePair
      · rw [walked.follows]
        exact onePair
  | sent id mailing job after queued site follows batches sends delivered => exact follows ▸ onePair

theorem AlertsSound.step {toLowerCase : Text → Text} {ctx : Ctx} {a after : Alerts}
    {op : AlertOp} (sound : AlertsSound a) (change : AlertChange toLowerCase ctx a op after) :
    AlertsSound after := by
  refine ⟨onePair_step sound.onePair change, ?_, sound.mailed.step change⟩
  have walking := sound.walking
  cases change with
  | site op site change => exact walking.site change
  | quiet op after same follows =>
      rw [same.site, same.batches]
      exact walking
  | followed start username follower creatorId id profile after located own made new same follows =>
      rw [same.site, same.batches]
      exact walking
  | unfollowed start username follower creatorId id after found same follows =>
      rw [same.site, same.batches]
      exact walking
  | collected time job pending =>
      obtain ⟨left, alone⟩ := walking.dequeue (time, job)
      rcases Alerts.collect_cases ctx.now (a.dequeue (time, job)) job with
        same | ⟨hotline, walked⟩
      · rw [same]
        exact left
      · exact left.walked (alone pending) (walking.begun _ pending) walked
  | sent id mailing job after queued site follows batches sends delivered =>
      rw [site, batches]
      exact walking

theorem Spared.dequeue {a : Alerts} (spared : Spared a) (job : Time × CollectJob) :
    Spared (a.dequeue job) :=
  ⟨spared.once, fun other member => spared.behind other (List.mem_of_mem_erase member)⟩

/-- Whatever keeps the site and the batches, and adds no follow of who was emailed. -/
theorem Spared.keeps {a after : Alerts} (spared : Spared a) (site : after.site = a.site)
    (batches : after.batches = a.batches)
    (follows : ∀ id f, after.follows.get id = some f → a.follows.get id = some f ∨
      a.emailedInWalk f.followerId f.creatorId = false) : Spared after := by
  refine ⟨batches ▸ spared.once, ?_⟩
  intro job member hotline found live row beyond
  rw [site] at member found
  rw [batches]
  obtain ⟨there, own, past⟩ := Alerts.mem_followersBeyond.mp beyond
  rcases follows row.1 row.2 there with old | clear
  · exact spared.behind job member hotline found live row
      (Alerts.mem_followersBeyond.mpr ⟨old, own, past⟩)
  · intro emailed
    have told : a.emailedInWalk row.2.followerId row.2.creatorId = true := by
      unfold Alerts.emailedInWalk
      rw [List.any_eq_true]
      refine ⟨job, member, ?_⟩
      simp [found, live, own, emailed]
    rw [clear] at told
    cases told

theorem Spared.step {toLowerCase : Text → Text} {ctx : Ctx} {a after : Alerts} {op : AlertOp}
    (spared : Spared a) (sound : AlertsSound a)
    (spares : a.spares toLowerCase (ctx, op) = true)
    (change : AlertChange toLowerCase ctx a op after) : Spared after := by
  cases change with
  | site op site change => exact spared.site sound.walking change
  | quiet op after same follows =>
      apply spared.keeps same.site same.batches
      rw [follows]
      exact fun _ _ there => Or.inl there
  | followed start username follower creatorId id profile after located own made new same follows =>
      apply spared.keeps same.site same.batches
      intro i f there
      rw [follows] at there
      rcases Table.get_insert_row there with ⟨_, rfl⟩ | old
      · right
        simp only [Alerts.spares, located, own, made, Bool.or_eq_true, Bool.not_eq_true',
          Bool.true_eq_false, false_or] at spares
        rcases spares with follows | clear
        · obtain ⟨j, other, present, pair⟩ := (Table.first_isSome_iff _ _).mp follows
          simp only [Bool.and_eq_true, beq_iff_eq] at pair
          cases other
          obtain ⟨rfl, rfl⟩ := pair
          exact absurd rfl (new j _ present)
        · exact clear
      · exact Or.inl old
  | unfollowed start username follower creatorId id after found same follows =>
      apply spared.keeps same.site same.batches
      intro i f there
      rw [follows, Table.get_delete] at there
      split at there
      · cases there
      · exact Or.inl there
  | collected time job pending =>
      have left := spared.dequeue (time, job)
      rcases Alerts.collect_cases ctx.now (a.dequeue (time, job)) job with
        same | ⟨hotline, walked⟩
      · rw [same]
        exact left
      · exact left.walked sound.onePair ((sound.walking.dequeue (time, job)).2 pending)
          (spared.behind _ pending hotline walked.found walked.live) walked
  | sent id mailing job after queued site follows batches sends delivered =>
      apply spared.keeps site batches
      rw [follows]
      exact fun _ _ there => Or.inl there

theorem AlertsSound.empty : AlertsSound Alerts.empty := by
  refine ⟨.empty, ⟨List.nodup_nil, ?_, ?_, ?_⟩, ⟨?_, ?_, List.nodup_nil⟩⟩
  · intro job member
    cases member
  · intro b member
    cases member
  · intro job member
    cases member
  · intro id send there
    cases there
  · intro b member
    cases member

theorem Spared.empty : Spared Alerts.empty := by
  refine ⟨fun _ => List.nodup_nil, ?_⟩
  intro job member
  cases member

/-! ### Everybody who stays -/

/-- The show is LIVE, and the user follows its creator and has alerts on. -/
def Awaits (showId : ShowId) (userId : UserId) (a : Alerts) : Prop :=
  (∃ hotline, a.site.backend.shows.get showId = some hotline ∧ hotline.status = .live ∧
    ∃ id, a.follows.get id = some ⟨userId, hotline.creatorId⟩) ∧ (a.recipient userId).isSome

theorem awaits_iff {showId : ShowId} {userId : UserId} {a : Alerts} :
    (a.site.backend.shows.get showId).any (fun hotline => hotline.status == .live &&
        (a.follows.first fun f => f == ⟨userId, hotline.creatorId⟩).isSome) = true ∧
      (a.recipient userId).isSome ↔ Awaits showId userId a := by
  unfold Awaits
  simp only [Option.any_eq_true, Bool.and_eq_true, beq_iff_eq, Table.first_isSome_iff]
  constructor
  · rintro ⟨⟨hotline, found, live, id, _, there, rfl⟩, reads⟩
    exact ⟨⟨hotline, found, live, id, there⟩, reads⟩
  · rintro ⟨⟨hotline, found, live, id, there⟩, reads⟩
    exact ⟨⟨hotline, found, live, id, _, there, rfl⟩, reads⟩

instance (showId : ShowId) (userId : UserId) (a : Alerts) : Decidable (Awaits showId userId a) :=
  decidable_of_iff _ awaits_iff

/-- The walk has the user ahead of it, or it has emailed the user and left them behind. -/
def Meets (showId : ShowId) (userId : UserId) (a : Alerts) : Prop :=
  ((recipientsOf showId a.batches).count userId = 0 ∧ ∃ job ∈ a.site.collects,
    job.2.showId = showId ∧ ∀ hotline, a.site.backend.shows.get showId = some hotline →
      ∀ id, a.follows.get id = some ⟨userId, hotline.creatorId⟩ →
        (id, ⟨userId, hotline.creatorId⟩) ∈ a.followersBeyond hotline.creatorId job.2.cursor) ∨
  ((recipientsOf showId a.batches).count userId = 1 ∧ ∀ job ∈ a.site.collects,
    job.2.showId = showId → ∀ hotline, a.site.backend.shows.get showId = some hotline →
      ∀ row ∈ a.followersBeyond hotline.creatorId job.2.cursor, row.2.followerId ≠ userId)

theorem Walking.one {site : Site} {batches : List AlertBatch} (walking : Walking site batches)
    {job other : Time × CollectJob} (first : job ∈ site.collects) (second : other ∈ site.collects)
    (same : job.2.showId = other.2.showId) : job = other :=
  List.inj_on_of_nodup_map walking.alone first second same

/-- A batch has the users of its page that can be emailed. -/
theorem Alerts.mem_batch {a : Alerts} (onePair : Table.OnePer (fun f : Follow => f) a.follows)
    {id : Nat} {userId creatorId : UserId} (follows : a.follows.get id = some ⟨userId, creatorId⟩)
    (job : CollectJob) : userId ∈ (a.batchOf creatorId job).recipients.map Prod.fst ↔
      (id, ⟨userId, creatorId⟩) ∈ a.page creatorId job.cursor ∧ (a.recipient userId).isSome := by
  constructor
  · intro named
    obtain ⟨row, member, same, alerts⟩ := Alerts.batch_row named
    obtain ⟨there, own, _⟩ := Alerts.mem_followersBeyond.mp (List.mem_of_mem_take member)
    have pair : row.2 = ⟨userId, creatorId⟩ := by rw [← same, ← own]
    rw [pair] at there
    have key := onePair row.1 id _ _ there follows rfl
    have equal : row = (id, ⟨userId, creatorId⟩) := Prod.ext key pair
    rw [equal] at member
    exact ⟨member, alerts⟩
  · intro both
    show userId ∈ ((a.page creatorId job.cursor).filterMap fun row =>
      a.recipient row.2.followerId).map Prod.fst
    rw [Alerts.recipients_users]
    exact List.mem_map.mpr ⟨_, List.mem_filter.mpr both, rfl⟩

/-- A page that has the user's follow emails the user, and one that has not is full. -/
theorem Meets.ahead {now : Time} {a after : Alerts} {job : CollectJob} {hotline : Show}
    {userId : UserId} {id : Nat} (onePair : Table.OnePer (fun f : Follow => f) a.follows)
    (follows : a.follows.get id = some ⟨userId, hotline.creatorId⟩)
    (alerts : (a.recipient userId).isSome)
    (alone : ∀ other ∈ a.site.collects, other.2.showId ≠ job.showId)
    (none : (recipientsOf job.showId a.batches).count userId = 0)
    (ahead : (id, ⟨userId, hotline.creatorId⟩) ∈
      a.followersBeyond hotline.creatorId job.cursor)
    (walked : Walked now a job hotline after) : Meets job.showId userId after := by
  have page := Alerts.page_apart onePair hotline.creatorId job
  have named := Alerts.mem_batch onePair follows job
  unfold Meets
  rw [walked.recipientsOf, if_pos rfl, List.count_append, none, Nat.zero_add]
  by_cases met : (id, ⟨userId, hotline.creatorId⟩) ∈ a.page hotline.creatorId job.cursor
  · right
    have emailed := named.mpr ⟨met, alerts⟩
    refine ⟨List.count_eq_one_of_mem page.1 emailed, ?_⟩
    intro other member own later found row there
    obtain rfl := walked.show_eq found
    rw [walked.next alone member own] at there
    rintro rfl
    exact page.2 row there emailed
  · left
    refine ⟨List.count_eq_zero.mpr fun emailed => met (named.mp emailed).1, ?_⟩
    have off := last_before (a.followersBeyond_sorted hotline.creatorId job.cursor) ahead met
    have full : ¬ (a.page hotline.creatorId job.cursor).length < alertBatch := by
      rw [Alerts.page, off.1]
      exact Nat.lt_irrefl _
    have member : (now, a.nextJob hotline.creatorId job) ∈ after.site.collects := by
      rw [walked.site]
      dsimp only
      rw [if_neg full]
      exact List.mem_append_right _ List.mem_cons_self
    refine ⟨_, member, rfl, ?_⟩
    intro later found other there
    obtain rfl := walked.show_eq found
    rw [walked.follows] at there
    have key := onePair other id _ _ there follows rfl
    subst key
    rw [walked.next alone member rfl]
    rw [← List.take_append_drop alertBatch
      (a.followersBeyond later.creatorId job.cursor)] at ahead
    exact (List.mem_append.mp ahead).resolve_left met

/-- The pages behind a user don't email them again. -/
theorem Meets.behind {now : Time} {a after : Alerts} {job : CollectJob} {hotline : Show}
    {userId : UserId} (alone : ∀ other ∈ a.site.collects, other.2.showId ≠ job.showId)
    (once : (recipientsOf job.showId a.batches).count userId = 1)
    (behind : ∀ row ∈ a.followersBeyond hotline.creatorId job.cursor,
      row.2.followerId ≠ userId)
    (walked : Walked now a job hotline after) : Meets job.showId userId after := by
  right
  rw [walked.recipientsOf, if_pos rfl, List.count_append, once]
  have unnamed : userId ∉ (a.batchOf hotline.creatorId job).recipients.map Prod.fst := by
    intro named
    obtain ⟨row, member, same, _⟩ := Alerts.batch_row named
    exact behind row (List.mem_of_mem_take member) same
  refine ⟨by rw [List.count_eq_zero.mpr unnamed], ?_⟩
  intro other member own later found row there
  obtain rfl := walked.show_eq found
  rw [walked.next alone member own] at there
  exact behind row (List.mem_of_mem_drop there)

/-- Steps that add no job for the show and no follow of its creator by the user. -/
theorem Meets.keeps {showId : ShowId} {userId : UserId} {a after : Alerts} {hotline later : Show}
    (meets : Meets showId userId a) (found : a.site.backend.shows.get showId = some hotline)
    (still : after.site.backend.shows.get showId = some later)
    (own : later.creatorId = hotline.creatorId)
    (collects : ∀ job, job.2.showId = showId →
      (job ∈ after.site.collects ↔ job ∈ a.site.collects))
    (named : recipientsOf showId after.batches = recipientsOf showId a.batches)
    (follows : ∀ id, after.follows.get id = some ⟨userId, hotline.creatorId⟩ →
      a.follows.get id = some ⟨userId, hotline.creatorId⟩) : Meets showId userId after := by
  unfold Meets
  rw [named, still]
  rcases meets with ⟨none, job, member, same, ahead⟩ | ⟨once, behind⟩
  · left
    refine ⟨none, job, (collects job same).mpr member, same, ?_⟩
    intro other equal id there
    obtain rfl := Option.some.inj equal
    rw [own] at there ⊢
    have past := (Alerts.mem_followersBeyond.mp (ahead hotline found id (follows id there))).2
    exact Alerts.mem_followersBeyond.mpr ⟨there, past⟩
  · right
    refine ⟨once, ?_⟩
    rintro job member same other equal row there rfl
    obtain rfl := Option.some.inj equal
    rw [own] at there
    obtain ⟨present, creator, past⟩ := Alerts.mem_followersBeyond.mp there
    have pair : row.2 = ⟨row.2.followerId, hotline.creatorId⟩ := by rw [← creator]
    have before := follows row.1 (pair ▸ present)
    rw [← pair] at before
    exact behind job ((collects job same).mp member) same hotline found row
      (Alerts.mem_followersBeyond.mpr ⟨before, creator, past⟩) rfl

theorem Meets.site {ctx : Ctx} {showId : ShowId} {userId : UserId} {a : Alerts} {site : Site}
    {op : SiteOp} (meets : Meets showId userId a) {hotline : Show}
    (found : a.site.backend.shows.get showId = some hotline) (live : hotline.status = .live)
    (change : SiteChange ctx a.site op site) : Meets showId userId { a with site } := by
  obtain ⟨later, still, own, _⟩ := Site.show_stays change found
  refine meets.keeps found still own ?_ rfl fun _ there => there
  intro job same
  rcases Site.collects_change change with equal | ⟨_, other, draft, rfl, present, created, _, _,
    more⟩
  · show job ∈ site.collects ↔ _
    rw [equal]
  · show job ∈ site.collects ↔ _
    rw [more, List.mem_append, or_iff_left]
    intro new
    rw [List.mem_singleton.mp new] at same
    have same : other = showId := same
    rw [same] at present
    obtain rfl := Option.some.inj (found.symm.trans present)
    rw [live] at created
    cases created

theorem Meets.collected {now : Time} {showId : ShowId} {userId : UserId} {a : Alerts}
    (sound : AlertsSound a) (meets : Meets showId userId a) (awaits : Awaits showId userId a)
    {job : Time × CollectJob} (pending : job ∈ a.site.collects) :
    Meets showId userId ((a.dequeue job).collect now job.2) := by
  obtain ⟨⟨hotline, found, live, id, follows⟩, alerts⟩ := awaits
  have alone := (sound.walking.dequeue job).2 pending
  by_cases own : job.2.showId = showId
  · subst own
    obtain ⟨other, present, _, profiled⟩ := sound.walking.begun job pending
    obtain rfl := Option.some.inj (found.symm.trans present)
    have walked := Alerts.collect_walked (a := a.dequeue job) now found live profiled
    rcases meets with ⟨none, other, member, same, ahead⟩ | ⟨once, behind⟩
    · obtain rfl := sound.walking.one member pending same
      exact Meets.ahead (a := a.dequeue other) sound.onePair follows alerts alone none
        (ahead hotline found id follows) walked
    · exact Meets.behind (a := a.dequeue job) alone once
        (behind job pending rfl hotline found) walked
  · have left : Meets showId userId (a.dequeue job) := by
      refine meets.keeps found found rfl ?_ rfl fun _ there => there
      intro other same
      apply List.mem_erase_of_ne
      rintro rfl
      exact own same
    rcases Alerts.collect_cases now (a.dequeue job) job.2 with same | ⟨other, walked⟩
    · rw [same]
      exact left
    · have still : ((a.dequeue job).collect now job.2).site.backend.shows.get showId =
          some hotline := by
        rw [walked.site]
        exact found
      refine left.keeps found still rfl ?_ ?_ ?_
      · intro next same
        constructor
        · exact fun member => walked.other member (same ▸ Ne.symm own)
        · intro member
          rw [walked.site]
          exact List.mem_append_left _ member
      · rw [walked.recipientsOf, if_neg own, List.append_nil]
      · rw [walked.follows]
        exact fun _ there => there

theorem Meets.step {toLowerCase : Text → Text} {ctx : Ctx} {showId : ShowId} {userId : UserId}
    {a after : Alerts} {op : AlertOp} (sound : AlertsSound a) (meets : Meets showId userId a)
    (awaits : Awaits showId userId a) (change : AlertChange toLowerCase ctx a op after) :
    Meets showId userId after := by
  have stays := awaits
  obtain ⟨⟨hotline, found, live, id, present⟩, alerts⟩ := awaits
  have unmoved (site : after.site = a.site) (batches : after.batches = a.batches)
      (follows : ∀ id, after.follows.get id = some ⟨userId, hotline.creatorId⟩ →
        a.follows.get id = some ⟨userId, hotline.creatorId⟩) : Meets showId userId after :=
    meets.keeps found (site ▸ found) rfl (fun _ _ => by rw [site]) (by rw [batches]) follows
  cases change with
  | site op site change => exact meets.site found live change
  | quiet op after same follows =>
      apply unmoved same.site same.batches
      rw [follows]
      exact fun _ there => there
  | followed start username follower creatorId key profile after located own made new same
    follows =>
      apply unmoved same.site same.batches
      intro i there
      rw [follows] at there
      rcases Table.get_insert_row there with ⟨_, equal⟩ | old
      · exact absurd equal (new id _ present)
      · exact old
  | unfollowed start username follower creatorId key after there same follows =>
      apply unmoved same.site same.batches
      intro i left
      rw [follows, Table.get_delete] at left
      split at left
      · cases left
      · exact left
  | collected time job pending => exact meets.collected sound stays pending
  | sent key mailing job after queued site follows batches sends delivered =>
      apply unmoved site batches
      rw [follows]
      exact fun _ there => there

/-! ### Every run -/

/-- Nobody is in two batches of a show, and nobody is mailed twice for one. -/
def NobodyTwice (a : Alerts) : Prop :=
  ∀ showId, (recipientsOf showId a.batches).Nodup ∧ (recipientsOf showId a.delivered).Nodup

/-- From the start of a walk to its end, who follows all along is emailed once. -/
def StayersOnce (web : Web) (toLowerCase : Text → Text) (a : Alerts) : Prop :=
  ∀ time showId userId walk, (time, ⟨showId, none, 0⟩) ∈ a.site.collects →
    Along (Alerts.step web toLowerCase) (fun a _ => Awaits showId userId a) a walk →
    (∀ job ∈ (run (Alerts.step web toLowerCase) a walk).site.collects, job.2.showId ≠ showId) →
    (recipientsOf showId (run (Alerts.step web toLowerCase) a walk).batches).count userId = 1

theorem alertsSound_run (web : Web) (toLowerCase : Text → Text) (inputs : List (Ctx × AlertOp)) :
    AlertsSound (run (Alerts.step web toLowerCase) Alerts.empty inputs) := by
  refine Reachable.induct ⟨inputs, rfl⟩ AlertsSound .empty ?_
  intro a input sound
  exact sound.step (Alerts.step_change web toLowerCase input.1 a input.2)

theorem stayers_once {web : Web} {toLowerCase : Text → Text} {a : Alerts}
    (sound : AlertsSound a) : StayersOnce web toLowerCase a := by
  intro time showId userId walk pending awaits ended
  have start : Meets showId userId a := by
    left
    rw [sound.walking.fresh _ pending rfl]
    refine ⟨List.count_nil, _, pending, rfl, ?_⟩
    intro hotline found id there
    apply Alerts.mem_followersBeyond.mpr
    refine ⟨there, rfl, ?_⟩
    intro position same
    cases same
  have kept := run_keeps (fun a => AlertsSound a ∧ Meets showId userId a)
    (fun a input both awaits =>
      have change := Alerts.step_change web toLowerCase input.1 a input.2
      ⟨both.1.step change, both.2.step both.1 awaits change⟩) ⟨sound, start⟩ awaits
  rcases kept.2 with ⟨_, job, member, same, _⟩ | ⟨once, _⟩
  · exact absurd same (ended job member)
  · exact once

theorem nobody_twice {web : Web} {toLowerCase : Text → Text} {inputs : List (Ctx × AlertOp)}
    (spares : Along (Alerts.step web toLowerCase)
      (fun a input => a.spares toLowerCase input = true) Alerts.empty inputs) :
    NobodyTwice (run (Alerts.step web toLowerCase) Alerts.empty inputs) := by
  have kept := run_keeps (fun a => AlertsSound a ∧ Spared a)
    (fun a input both spares =>
      have change := Alerts.step_change web toLowerCase input.1 a input.2
      ⟨both.1.step change, both.2.step both.1 spares change⟩) ⟨.empty, .empty⟩ spares
  exact fun showId => ⟨kept.2.once showId, kept.1.mailed.once (kept.2.once showId)⟩

/-- Who stays is emailed once, and nobody twice where no one comes back during a walk. -/
theorem one_alert_each (web : Web) (toLowerCase : Text → Text) (inputs : List (Ctx × AlertOp)) :
    StayersOnce web toLowerCase (run (Alerts.step web toLowerCase) Alerts.empty inputs) ∧
      (Along (Alerts.step web toLowerCase) (fun a input => a.spares toLowerCase input = true)
        Alerts.empty inputs →
        NobodyTwice (run (Alerts.step web toLowerCase) Alerts.empty inputs)) :=
  ⟨stayers_once (alertsSound_run web toLowerCase inputs), nobody_twice⟩

/-- A creator with a draft, and followers of whom the first has an email address. -/
def followedBy (followers : Nat) : List AlertOp :=
  [.site (.signUp (some [0])), .site (.create (some 0)),
    .site (.replaceTiers (fun name => name) (some 0) 0 [⟨[65], 60, 0, true⟩])] ++
  (List.range followers).flatMap (fun i =>
    [.site (.signUp (some [i + 1])), .follow ⟨0, by decide⟩ (some (i + 1)) [0]]) ++
  [.setEmail 1 (some [1])]

def inputsOf (ops : List AlertOp) : List (Ctx × AlertOp) :=
  ops.map fun op => (⟨0, ⟨none, false, none, none, "usd"⟩⟩, op)

def plainWeb : Web := ⟨fun _ => none, fun id => [id]⟩

/-- Before the walk's page the second follower leaves and a newcomer follows. The second comes
back after the batch is delivered. -/
def staying (followers : Nat) : List AlertOp :=
  [.unfollow ⟨0, by decide⟩ (some 2) [0], .follow ⟨0, by decide⟩ (some (followers + 1)) [0],
    .collect 0 ⟨0, none, 0⟩, .send 0 (.resend true (some true)),
    .follow ⟨0, by decide⟩ (some 2) [0]]

def walkStarted (followers : Nat) : List AlertOp :=
  followedBy followers ++ [.setEmail 2 (some [2]), .site (.signUp (some [followers + 1])),
    .setEmail (followers + 1) (some [followers + 1]), .site (.start (some 0) 0)]

/-- The first of three followers stays, and the batch that reaches the newcomer too is
delivered. -/
theorem short_walk_once :
    let started := run (Alerts.step plainWeb fun name => name) Alerts.empty
      (inputsOf (walkStarted 3))
    let ended := run (Alerts.step plainWeb fun name => name) started (inputsOf (staying 3))
    (recipientsOf 0 ended.batches).count 1 = 1 ∧ NobodyTwice ended := by
  have checked : Along (Alerts.step plainWeb fun name => name)
        (fun a input => a.spares (fun name => name) input = true) Alerts.empty
        (inputsOf (walkStarted 3) ++ inputsOf (staying 3)) ∧
      (0, ⟨0, none, 0⟩) ∈ (run (Alerts.step plainWeb fun name => name) Alerts.empty
        (inputsOf (walkStarted 3))).site.collects ∧
      Along (Alerts.step plainWeb fun name => name) (fun a _ => Awaits 0 1 a)
        (run (Alerts.step plainWeb fun name => name) Alerts.empty (inputsOf (walkStarted 3)))
        (inputsOf (staying 3)) ∧
      ∀ job ∈ (run (Alerts.step plainWeb fun name => name) (run (Alerts.step plainWeb fun name =>
        name) Alerts.empty (inputsOf (walkStarted 3))) (inputsOf (staying 3))).site.collects,
        job.2.showId ≠ 0 := by
    decide +kernel
  obtain ⟨spares, pending, awaits, ends⟩ := checked
  have stays := (one_alert_each plainWeb (fun name => name) (inputsOf (walkStarted 3))).1
  have twice := (one_alert_each plainWeb (fun name => name)
    (inputsOf (walkStarted 3) ++ inputsOf (staying 3))).2 spares
  rw [run_append] at twice
  exact ⟨stays 0 0 1 (inputsOf (staying 3)) pending awaits ends, twice⟩

/-- After a full page the first follower unfollows and follows again. -/
def returning : List (Ctx × AlertOp) :=
  inputsOf (followedBy 100 ++ [.site (.start (some 0) 0), .collect 0 ⟨0, none, 0⟩,
    .unfollow ⟨0, by decide⟩ (some 1) [0], .follow ⟨0, by decide⟩ (some 1) [0],
    .collect 0 ⟨0, some 99, 1⟩, .send 0 (.resend true (some true)),
    .send 1 (.resend true (some true))])

set_option maxRecDepth 20000 in
/-- The new follow is ahead of the walk, and both batches are delivered. -/
theorem returning_emailed_twice :
    ¬ ∀ web toLowerCase inputs,
      NobodyTwice (run (Alerts.step web toLowerCase) Alerts.empty inputs) ∧
        StayersOnce web toLowerCase (run (Alerts.step web toLowerCase) Alerts.empty inputs) := by
  intro all
  have twice : recipientsOf 0 (run (Alerts.step plainWeb fun name => name) Alerts.empty
      returning).delivered = [1, 1] := by decide +kernel
  have once := ((all plainWeb (fun name => name) returning).1 0).2
  rw [twice] at once
  exact absurd once (by decide)

end Bling
