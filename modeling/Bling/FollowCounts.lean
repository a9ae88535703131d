import Mathlib.Tactic.SplitIfs
import Bling.Follows

set_option autoImplicit false

namespace Bling

open Library

/-! Follower and following counts agree with the `follows` rows they sum up. -/

def delta (follow : Bool) : Int := if follow then 1 else -1

/-- How many `follows` rows name a creator. -/
def Social.followers (db : Social) (creatorId : UserId) : Int :=
  db.follows.total (fun f => f.creatorId == creatorId) fun _ => 1

/-- How many creators a user follows. -/
def Social.followings (db : Social) (userId : UserId) : Int :=
  db.follows.total (fun f => f.followerId == userId) fun _ => 1

/-- A creator has at most one row for each shard, and its count is not negative. -/
structure Sharded (db : Social) : Prop where
  oneShard : ∀ i j s t, db.followerShards.get i = some s → db.followerShards.get j = some t →
    s.creatorId = t.creatorId → s.shard = t.shard → i = j
  within : ∀ i s, db.followerShards.get i = some s → 0 ≤ s.count ∧ s.shard < shards

structure Counted (db : Social) : Prop extends Sharded db where
  sums : ∀ creatorId, db.shardSum creatorId = db.followers creatorId
  oneCount : ∀ i j a b, db.followingCounts.get i = some a → db.followingCounts.get j = some b →
    a.userId = b.userId → i = j
  counts : ∀ userId, followingCount db userId = db.followings userId
  limited : ∀ userId, db.followings userId ≤ maxFollows
  oneProfile : ∀ i j p q, db.profiles.get i = some p → db.profiles.get j = some q →
    p.userId = q.userId → i = j
  known : ∀ i p, db.profiles.get i = some p → p.userId < db.backend.users.next
  named : ∀ i f, db.follows.get i = some f → f.creatorId < db.backend.users.next
  marked : ∀ i p, db.profiles.get i = some p → p.followerCount ≠ db.shardSum p.userId →
    ∃ j m, db.followerProjections.get j = some m ∧ m.creatorId = p.userId
  pending : ∀ i m, db.followerProjections.get i = some m →
    ∃ time, (time, m.creatorId) ∈ db.scheduled

/-! ### The shards -/

/-- A creator with a positive sum has a shard to take from, wherever the search
starts: it wraps around all of them. -/
theorem nonEmptyShard_isSome {db : Social} (sharded : Sharded db) {creatorId : UserId}
    (positive : 0 < db.shardSum creatorId) (start : Fin shards) :
    (nonEmptyShard db creatorId start).isSome = true := by
  have some : ∃ i s, db.followerShards.get i = some s ∧ s.creatorId = creatorId ∧ 0 < s.count := by
    by_contra none
    have zero : db.shardSum creatorId = 0 := by
      apply Table.total_zero
      intro i s found here
      have nonneg := (sharded.within i s found).1
      by_contra apart
      exact none ⟨i, s, found, by simpa using here, by omega⟩
    omega
  obtain ⟨i, s, found, here, above⟩ := some
  have bounded := (sharded.within i s found).2
  have starts := start.isLt
  have located : shardAt db creatorId s.shard = Option.some (i, s) := by
    apply Table.first_of_unique found
    · simp [here]
    · intro j t present same
      simp only [Bool.and_eq_true, beq_iff_eq] at same
      exact sharded.oneShard j i t s present found (same.1.trans here.symm) same.2
  have wraps : (start + (s.shard + shards - start) % shards) % shards = s.shard := by
    simp only [shards] at *
    omega
  rw [nonEmptyShard, List.findSome?_isSome_iff]
  refine ⟨(s.shard + shards - start) % shards, ?_, ?_⟩
  · rw [List.mem_range]
    exact Nat.mod_lt _ (by decide)
  · simp [wraps, located, above]

theorem nonEmptyShard_some {db : Social} {creatorId : UserId} {start : Fin shards}
    {row : Nat × FollowerShard} (found : nonEmptyShard db creatorId start = some row) :
    db.followerShards.get row.1 = some row.2 ∧ row.2.creatorId = creatorId ∧ 0 < row.2.count := by
  obtain ⟨offset, _, located⟩ := List.exists_of_findSome?_eq_some found
  obtain ⟨first, above⟩ := Option.filter_eq_some_iff.mp located
  obtain ⟨present, here⟩ := Table.first_row first
  simp only [Bool.and_eq_true, beq_iff_eq] at here
  exact ⟨present, here.1, by simpa using above⟩

/-- What moving a creator's shards does: one row is patched or new. -/
theorem moveShard_cases {db : Social} {creatorId : UserId} {start : Fin shards} {follow : Bool}
    (found : follow = false → (nonEmptyShard db creatorId start).isSome = true) :
    (∃ i s, db.followerShards.get i = some s ∧ s.creatorId = creatorId ∧
      (follow = false → 0 < s.count) ∧
      moveShard db creatorId start follow = { db with
        followerShards := db.followerShards.patch i fun row =>
          { row with count := s.count + delta follow } }) ∨
    (follow = true ∧ shardAt db creatorId start = none ∧
      moveShard db creatorId start follow = { db with
        followerShards := db.followerShards.insert ⟨creatorId, start, 1⟩ }) := by
  cases follow with
  | true =>
      cases located : shardAt db creatorId start with
      | none => exact Or.inr ⟨rfl, rfl, by simp [moveShard, located]⟩
      | some row =>
          obtain ⟨present, here⟩ := Table.first_row located
          simp only [Bool.and_eq_true, beq_iff_eq] at here
          refine Or.inl ⟨row.1, row.2, present, here.1, ?_, ?_⟩
          · intro impossible
            cases impossible
          · simp [moveShard, located, delta]
  | false =>
      obtain ⟨row, located⟩ := Option.isSome_iff_exists.mp (found rfl)
      obtain ⟨present, here, above⟩ := nonEmptyShard_some located
      refine Or.inl ⟨row.1, row.2, present, here, fun _ => above, ?_⟩
      simp [moveShard, located, delta, Int.sub_eq_add_neg]

theorem shardSum_moveShard {db : Social} {creatorId : UserId} {start : Fin shards} {follow : Bool}
    (found : follow = false → (nonEmptyShard db creatorId start).isSome = true)
    (other : UserId) : (moveShard db creatorId start follow).shardSum other =
      db.shardSum other + if other = creatorId then delta follow else 0 := by
  rcases moveShard_cases found with ⟨i, s, present, here, _, moved⟩ | ⟨follows, _, moved⟩
  · rw [moved]
    have summed := Table.total_patch present
      (fun row => { row with count := s.count + delta follow })
      (fun row => row.creatorId == other) FollowerShard.count
    simp only [Social.shardSum, summed]
    by_cases same : other = creatorId
    · simp only [same, here, beq_self_eq_true, if_true]
      omega
    · have apart : ¬ s.creatorId = other := fun equal => same (equal.symm.trans here)
      simp [same, apart]
  · rw [moved]
    simp only [Social.shardSum, Table.total_insert]
    by_cases same : other = creatorId
    · simp [same, follows, delta]
    · have apart : ¬ creatorId = other := fun equal => same equal.symm
      simp [same, apart]

/-- A shard keeps its number, and stays the only one with it. -/
theorem Sharded.moveShard {db : Social} (sharded : Sharded db) {creatorId : UserId}
    {start : Fin shards} {follow : Bool}
    (found : follow = false → (nonEmptyShard db creatorId start).isSome = true) :
    Sharded (Bling.moveShard db creatorId start follow) := by
  rcases moveShard_cases found with ⟨i, s, present, here, above, moved⟩ | ⟨follows, none, moved⟩
  · have origin : ∀ j t, (Bling.moveShard db creatorId start follow).followerShards.get j = some t →
        ∃ u, db.followerShards.get j = some u ∧ u.creatorId = t.creatorId ∧ u.shard = t.shard ∧
          0 ≤ t.count := by
      intro j t located
      rw [moved] at located
      rcases Table.get_patch_row present located with ⟨rfl, rfl⟩ | ⟨_, kept⟩
      · refine ⟨s, present, rfl, rfl, ?_⟩
        have bounded := (sharded.within j s present).1
        cases follow with
        | true => simp only [delta, if_true]; omega
        | false =>
            have := above rfl
            simp only [delta, Bool.false_eq_true, if_false]
            omega
      · exact ⟨t, kept, rfl, rfl, (sharded.within j t kept).1⟩
    constructor
    · intro j k t u first second sameCreator sameShard
      obtain ⟨t', before, creator, shard, _⟩ := origin j t first
      obtain ⟨u', before', creator', shard', _⟩ := origin k u second
      exact sharded.oneShard j k t' u' before before' (by rw [creator, creator', sameCreator])
        (by rw [shard, shard', sameShard])
    · intro j t located
      obtain ⟨t', before, _, shard, nonneg⟩ := origin j t located
      exact ⟨nonneg, shard ▸ (sharded.within j t' before).2⟩
  · rw [moved]
    have absent := (Table.first_none_iff _ _).mp none
    simp only [Bool.and_eq_false_iff, beq_eq_false_iff_ne] at absent
    constructor
    · intro j k t u first second sameCreator sameShard
      rcases Table.get_insert_row first with ⟨rfl, rfl⟩ | old
      · rcases Table.get_insert_row second with ⟨rfl, rfl⟩ | old'
        · rfl
        · rcases absent k u old' with apart | apart
          · exact absurd sameCreator.symm apart
          · exact absurd sameShard.symm apart
      · rcases Table.get_insert_row second with ⟨rfl, rfl⟩ | old'
        · rcases absent j t old with apart | apart
          · exact absurd sameCreator apart
          · exact absurd sameShard apart
        · exact sharded.oneShard j k t u old old' sameCreator sameShard
    · intro j t located
      rcases Table.get_insert_row located with ⟨rfl, rfl⟩ | old
      · exact ⟨by simp, start.isLt⟩
      · exact sharded.within j t old

/-! ### The relation and its user's count -/

/-- A change of the relation: it was not in the state asked for. -/
def Changes (db : Social) (userId creatorId : UserId) (follow : Bool) : Prop :=
  (db.follows.first fun f => f.followerId == userId && f.creatorId == creatorId).isSome ≠ follow

theorem total_writeFollow {db : Social} {userId creatorId : UserId} {follow : Bool}
    (changes : Changes db userId creatorId follow) (p : Follow → Bool) :
    (writeFollow db userId creatorId follow).follows.total p (fun _ => 1) =
      db.follows.total p (fun _ => 1) + if p ⟨userId, creatorId⟩ then delta follow else 0 := by
  cases follow with
  | true =>
      simp only [writeFollow, if_true, Table.total_insert]
      rfl
  | false =>
      unfold Changes at changes
      cases existing : db.follows.first fun f =>
          f.followerId == userId && f.creatorId == creatorId with
      | none => exact absurd (by rw [existing]; rfl) changes
      | some row =>
          obtain ⟨present, here⟩ := Table.first_row existing
          simp only [Bool.and_eq_true, beq_iff_eq] at here
          have same : row.2 = ⟨userId, creatorId⟩ := by
            cases found : row.2
            simp_all
          simp only [writeFollow, existing, Bool.false_eq_true, if_false, Option.elim_some,
            Table.total_delete present, same, delta]
          split <;> omega

theorem followers_writeFollow {db : Social} {userId creatorId : UserId} {follow : Bool}
    (changes : Changes db userId creatorId follow) (other : UserId) :
    (writeFollow db userId creatorId follow).followers other =
      db.followers other + if other = creatorId then delta follow else 0 := by
  have summed := total_writeFollow changes fun f => f.creatorId == other
  simp only [beq_iff_eq, eq_comm (a := creatorId)] at summed
  exact summed

theorem followings_writeFollow {db : Social} {userId creatorId : UserId} {follow : Bool}
    (changes : Changes db userId creatorId follow) (other : UserId) :
    (writeFollow db userId creatorId follow).followings other =
      db.followings other + if other = userId then delta follow else 0 := by
  have summed := total_writeFollow changes fun f => f.followerId == other
  simp only [beq_iff_eq, eq_comm (a := userId)] at summed
  exact summed

/-- A user's count is in one row, which is patched or new. -/
theorem writeFollow_counts (db : Social) (userId creatorId : UserId) (follow : Bool) :
    (∃ i row, db.followingCounts.get i = some row ∧ row.userId = userId ∧
      followingCount db userId = row.count ∧
      (writeFollow db userId creatorId follow).followingCounts =
        db.followingCounts.patch i fun c => { c with count := row.count + delta follow }) ∨
    ((∀ i row, db.followingCounts.get i = some row → row.userId ≠ userId) ∧
      followingCount db userId = 0 ∧
      (writeFollow db userId creatorId follow).followingCounts =
        db.followingCounts.insert ⟨userId, delta follow⟩) := by
  cases located : db.followingCounts.first fun c => c.userId == userId with
  | none =>
      refine Or.inr ⟨?_, by simp [followingCount, located], ?_⟩
      · intro i row found
        simpa using Table.first_none located found
      · cases follow <;> simp [writeFollow, located, delta]
  | some row =>
      obtain ⟨present, here⟩ := Table.first_row located
      refine Or.inl ⟨row.1, row.2, present, by simpa using here, by simp [followingCount, located],
        ?_⟩
      simp [writeFollow, located, delta]

theorem followingCount_of_row {db : Social}
    (oneCount : ∀ i j a b, db.followingCounts.get i = some a → db.followingCounts.get j = some b →
      a.userId = b.userId → i = j)
    {i : Nat} {row : FollowingCount} (found : db.followingCounts.get i = some row) :
    followingCount db row.userId = row.count := by
  have located : (db.followingCounts.first fun c => c.userId == row.userId) = some (i, row) := by
    apply Table.first_of_unique found
    · simp
    · intro j other present same
      exact oneCount j i other row present found (by simpa using same)
  rw [followingCount, located]
  rfl

theorem followingCount_of_none {db : Social} {userId : UserId}
    (absent : ∀ i row, db.followingCounts.get i = some row → row.userId ≠ userId) :
    followingCount db userId = 0 := by
  have located : (db.followingCounts.first fun c => c.userId == userId) = none := by
    rw [Table.first_none_iff]
    intro i row found
    simpa using absent i row found
  rw [followingCount, located]
  rfl

theorem followingCount_writeFollow {db : Social} (counted : Counted db)
    (userId creatorId : UserId) (follow : Bool) :
    let after := writeFollow db userId creatorId follow
    (∀ i j a b, after.followingCounts.get i = some a → after.followingCounts.get j = some b →
      a.userId = b.userId → i = j) ∧
    ∀ other, followingCount after other =
      followingCount db other + if other = userId then delta follow else 0 := by
  intro after
  rcases writeFollow_counts db userId creatorId follow with
    ⟨i, row, present, here, shown, written⟩ | ⟨absent, shown, written⟩
  · have origin : ∀ j a, after.followingCounts.get j = some a →
        ∃ b, db.followingCounts.get j = some b ∧ b.userId = a.userId ∧
          a.count = b.count + if a.userId = userId then delta follow else 0 := by
      intro j a located
      simp only [after, written] at located
      rcases Table.get_patch_row present located with ⟨rfl, rfl⟩ | ⟨apart, kept⟩
      · exact ⟨row, present, rfl, by simp [here]⟩
      · refine ⟨a, kept, rfl, ?_⟩
        have other : a.userId ≠ userId := fun same =>
          apart (counted.oneCount j i a row kept present (same.trans here.symm))
        simp [other]
    have oneCount : ∀ i j a b, after.followingCounts.get i = some a →
        after.followingCounts.get j = some b → a.userId = b.userId → i = j := by
      intro j k a b first second same
      obtain ⟨a', before, user, _⟩ := origin j a first
      obtain ⟨b', before', user', _⟩ := origin k b second
      exact counted.oneCount j k a' b' before before' (by rw [user, user', same])
    refine ⟨oneCount, ?_⟩
    intro other
    by_cases some : ∃ j a, after.followingCounts.get j = Option.some a ∧ a.userId = other
    · obtain ⟨j, a, located, rfl⟩ := some
      obtain ⟨b, before, user, count⟩ := origin j a located
      rw [followingCount_of_row oneCount located, count, ← user,
        followingCount_of_row counted.oneCount before]
    · have gone : ∀ j b, db.followingCounts.get j = Option.some b → b.userId ≠ other := by
        intro j b before same
        apply some
        have live := Table.get_patch db.followingCounts i j fun c =>
          { c with count := row.count + delta follow }
        rw [← written, before] at live
        split at live
        · exact ⟨j, _, live, same⟩
        · exact ⟨j, b, live, same⟩
      have apart : other ≠ userId := fun same => gone i row present (here.trans same.symm)
      rw [followingCount_of_none (fun j a located same => some ⟨j, a, located, same⟩),
        followingCount_of_none gone]
      simp [apart]
  · have origin : ∀ j a, after.followingCounts.get j = some a →
        (j = db.followingCounts.next ∧ a = ⟨userId, delta follow⟩) ∨
          (db.followingCounts.get j = some a ∧ a.userId ≠ userId) := by
      intro j a located
      simp only [after, written] at located
      rcases Table.get_insert_row located with new | old
      · exact Or.inl new
      · exact Or.inr ⟨old, absent j a old⟩
    have oneCount : ∀ i j a b, after.followingCounts.get i = some a →
        after.followingCounts.get j = some b → a.userId = b.userId → i = j := by
      intro j k a b first second same
      rcases origin j a first with ⟨rfl, rfl⟩ | ⟨old, apart⟩
      · rcases origin k b second with ⟨rfl, rfl⟩ | ⟨_, apart⟩
        · rfl
        · exact absurd same.symm apart
      · rcases origin k b second with ⟨rfl, rfl⟩ | ⟨old', _⟩
        · exact absurd same apart
        · exact counted.oneCount j k a b old old' same
    refine ⟨oneCount, ?_⟩
    intro other
    by_cases same : other = userId
    · have new : after.followingCounts.get db.followingCounts.next =
          some ⟨userId, delta follow⟩ := by
        simp only [after, written, Table.get_insert_next]
      rw [same, followingCount_of_row oneCount new, shown]
      simp
    · by_cases some : ∃ j b, db.followingCounts.get j = Option.some b ∧ b.userId = other
      · obtain ⟨j, b, before, rfl⟩ := some
        have live : after.followingCounts.get j = Option.some b := by
          simp only [after, written]
          exact Table.get_insert_of_some before _
        rw [followingCount_of_row oneCount live, followingCount_of_row counted.oneCount before]
        simp [same]
      · rw [followingCount_of_none (fun j b before here => some ⟨j, b, before, here⟩),
          followingCount_of_none]
        · simp [same]
        · intro j a located here
          rcases origin j a located with ⟨_, rfl⟩ | ⟨old, _⟩
          · exact same here.symm
          · exact some ⟨j, a, old, here⟩

/-! ### A change of the relation -/

theorem setFollow_ok {now : Time} {start : Fin shards} {toLowerCase : Text → Text} {db : Social}
    {user : Option UserId} {username : Text} {follow : Bool} {after : Social} {result : Bool}
    (done : setFollow now start toLowerCase db user username follow = .ok (after, result)) :
    after = db ∨ ∃ userId i creator rateLimits,
      requireCreatorId db.backend user = .ok userId ∧
      profileByUsername toLowerCase db username = some (i, creator) ∧
      Changes db userId creator.userId follow ∧
      (follow = true → followingCount db userId < maxFollows) ∧
      after = adjustShard now (writeFollow { db with rateLimits } userId creator.userId follow)
        creator.userId start follow := by
  unfold setFollow at done
  cases signedIn : requireCreatorId db.backend user with
  | error code => simp [signedIn, bind, Except.bind] at done
  | ok userId =>
      simp only [signedIn, bind, Except.bind] at done
      split at done
      · cases done
      · rename_i id creator named
        split_ifs at done with hidden own same full
        · cases done
          exact Or.inl rfl
        · split at done <;> cases done
        · split at done
          · cases done
          · rename_i rateLimits _
            cases done
            refine Or.inr ⟨userId, id, creator, rateLimits, rfl, named, same, ?_, rfl⟩
            intro follows
            by_contra above
            exact full ⟨follows, by simpa [followingCount] using above⟩

theorem moveShard_keeps (db : Social) (creatorId : UserId) (start : Fin shards) (follow : Bool) :
    moveShard db creatorId start follow = { db with
      followerShards := (moveShard db creatorId start follow).followerShards } := by
  unfold moveShard
  split <;> split <;> rfl

theorem scheduleProjection_keeps (now : Time) (db : Social) (creatorId : UserId) :
    scheduleProjection now db creatorId = { db with
      followerProjections := (scheduleProjection now db creatorId).followerProjections
      scheduled := (scheduleProjection now db creatorId).scheduled } := by
  unfold scheduleProjection
  split <;> rfl

/-- What a change of a follow writes to the relation. -/
theorem setFollow_follows {now : Time} {start : Fin shards} {db : Social}
    {userId creatorId : UserId} {follow : Bool} {rateLimits : Table RateLimit}
    (changes : Changes db userId creatorId follow) :
    let after := adjustShard now (writeFollow { db with rateLimits } userId creatorId follow)
      creatorId start follow
    (follow = true ∧ (∀ i f, db.follows.get i = some f → f ≠ ⟨userId, creatorId⟩) ∧
        after.follows = db.follows.insert ⟨userId, creatorId⟩) ∨
      (follow = false ∧ ∃ i, db.follows.get i = some ⟨userId, creatorId⟩ ∧
        after.follows = db.follows.delete i) := by
  have frame (db : Social) : (adjustShard now db creatorId start follow).follows = db.follows := by
    rw [adjustShard, scheduleProjection_keeps, moveShard_keeps]
  simp only [frame]
  cases follow with
  | true =>
      refine Or.inl ⟨rfl, ?_, rfl⟩
      rintro i f found rfl
      apply changes
      obtain ⟨_, _, first, _⟩ := Table.exists_first
        (p := fun f : Follow => f.followerId == userId && f.creatorId == creatorId) found (by simp)
      rw [first]
      rfl
  | false =>
      right
      cases existing : db.follows.first fun f =>
          f.followerId == userId && f.creatorId == creatorId with
      | none => exact absurd (by rw [existing]; rfl) changes
      | some row =>
          obtain ⟨present, here⟩ := Table.first_row existing
          simp only [Bool.and_eq_true, beq_iff_eq] at here
          have same : row.2 = ⟨userId, creatorId⟩ := by
            cases found : row.2
            simp_all
          refine ⟨rfl, row.1, same ▸ present, ?_⟩
          simp [writeFollow, existing]

/-- Afterwards the creator is marked, the marked still are, and each has a job. -/
theorem scheduleProjection_marks (now : Time) (db : Social) (creatorId : UserId)
    (pending : ∀ i m, db.followerProjections.get i = some m →
      ∃ time, (time, m.creatorId) ∈ db.scheduled) :
    let after := scheduleProjection now db creatorId
    (∃ j m, after.followerProjections.get j = some m ∧ m.creatorId = creatorId) ∧
    (∀ i m, db.followerProjections.get i = some m → after.followerProjections.get i = some m) ∧
    ∀ i m, after.followerProjections.get i = some m →
      ∃ time, (time, m.creatorId) ∈ after.scheduled := by
  intro after
  simp only [after, scheduleProjection]
  split
  · rename_i row located
    obtain ⟨present, here⟩ := Table.first_row located
    exact ⟨⟨row.1, row.2, present, by simpa using here⟩, fun _ _ found => found, pending⟩
  · refine ⟨⟨_, _, Table.get_insert_next _ _, rfl⟩,
      fun i m found => Table.get_insert_of_some found _, ?_⟩
    intro i m found
    rcases Table.get_insert_row found with ⟨_, rfl⟩ | old
    · exact ⟨_, List.mem_append_right _ (List.mem_singleton.mpr rfl)⟩
    · obtain ⟨time, member⟩ := pending i m old
      exact ⟨time, List.mem_append_left _ member⟩

/-- A follow that is there is one of its creator's. -/
theorem followers_pos {db : Social} {id : Nat} {f : Follow} (found : db.follows.get id = some f) :
    0 < db.followers f.creatorId := by
  have rest := Table.total_delete found (fun row => row.creatorId == f.creatorId) fun _ => 1
  have nonneg : 0 ≤ (db.follows.delete id).total (fun row => row.creatorId == f.creatorId)
      fun _ => 1 := Table.total_nonneg fun _ _ _ _ => by decide
  simp only [beq_self_eq_true, if_true] at rest
  unfold Social.followers
  omega

theorem nonEmptyShard_of_follow {db : Social} (counted : Counted db) {id : Nat} {f : Follow}
    (found : db.follows.get id = some f) (start : Fin shards) :
    (nonEmptyShard db f.creatorId start).isSome = true := by
  apply nonEmptyShard_isSome counted.toSharded
  rw [counted.sums]
  exact followers_pos found

theorem Counted.changes {now : Time} {start : Fin shards} {db : Social} (counted : Counted db)
    {userId creatorId : UserId} {follow : Bool} (changes : Changes db userId creatorId follow)
    (named : creatorId < db.backend.users.next)
    (room : follow = true → followingCount db userId < maxFollows) :
    Counted (adjustShard now (writeFollow db userId creatorId follow) creatorId start follow) := by
  obtain ⟨oneCount, counts⟩ := followingCount_writeFollow counted userId creatorId follow
  have followers := followers_writeFollow changes
  have followings := followings_writeFollow changes
  have found : follow = false →
      (nonEmptyShard (writeFollow db userId creatorId follow) creatorId start).isSome = true := by
    rintro rfl
    cases existing : db.follows.first fun f =>
        f.followerId == userId && f.creatorId == creatorId with
    | none => exact absurd (by rw [existing]; rfl) changes
    | some row =>
        obtain ⟨present, here⟩ := Table.first_row existing
        simp only [Bool.and_eq_true, beq_iff_eq] at here
        exact here.2 ▸ nonEmptyShard_of_follow counted present start
  have sharded : Sharded (writeFollow db userId creatorId follow) :=
    ⟨counted.oneShard, counted.within⟩
  have moved := sharded.moveShard found
  have summed := shardSum_moveShard found
  have sums : ∀ other, (moveShard (writeFollow db userId creatorId follow) creatorId start
      follow).shardSum other = (writeFollow db userId creatorId follow).followers other := by
    intro other
    rw [summed, followers]
    exact congrArg (· + _) (counted.sums other)
  have frame := moveShard_keeps (writeFollow db userId creatorId follow) creatorId start follow
  obtain ⟨marks, keeps, pending⟩ := scheduleProjection_marks now
    (moveShard (writeFollow db userId creatorId follow) creatorId start follow) creatorId
    (by rw [frame]; exact counted.pending)
  unfold adjustShard
  rw [scheduleProjection_keeps]
  constructor
  · exact ⟨moved.oneShard, moved.within⟩
  · intro other
    refine (sums other).trans ?_
    rw [frame]
    rfl
  · rw [frame]
    exact oneCount
  · intro other
    rw [frame]
    refine (counts other).trans ?_
    rw [counted.counts]
    exact (followings other).symm
  · intro other
    rw [frame]
    refine (followings other).le.trans ?_
    have limit := counted.limited other
    by_cases self : other = userId
    · cases follow with
      | true =>
          have := counted.counts userId ▸ room rfl
          simp only [self, delta, if_true]
          omega
      | false =>
          simp only [self, delta, if_true, Bool.false_eq_true, if_false] at limit ⊢
          omega
    · simpa [self] using limit
  · rw [frame]
    exact counted.oneProfile
  · rw [frame]
    exact counted.known
  · intro i f there
    rw [frame] at there ⊢
    cases follow with
    | true =>
        rcases Table.get_insert_row there with ⟨_, rfl⟩ | old
        · exact named
        · exact counted.named i f old
    | false =>
        refine counted.named i f ?_
        simp only [writeFollow, Bool.false_eq_true, if_false] at there
        cases existing : db.follows.first fun f =>
            f.followerId == userId && f.creatorId == creatorId with
        | none => simpa [existing] using there
        | some row =>
            rw [existing, Option.elim_some, Table.get_delete] at there
            split at there
            · cases there
            · exact there
  · intro i p profile drifted
    by_cases self : p.userId = creatorId
    · rw [self]
      exact marks
    · have still : p.followerCount ≠ db.shardSum p.userId := by
        intro same
        apply drifted
        refine same.trans ?_
        have := summed p.userId
        simp only [self, if_false, Int.add_zero] at this
        exact this.symm
      rw [frame] at profile
      obtain ⟨j, m, marker, here⟩ := counted.marked i p profile still
      refine ⟨j, m, keeps j m ?_, here⟩
      rw [frame]
      exact marker
  · exact pending

theorem Counted.setFollow {now : Time} {start : Fin shards} {toLowerCase : Text → Text}
    {db : Social} (counted : Counted db) {user : Option UserId} {username : Text} {follow : Bool}
    {after : Social} {result : Bool}
    (done : setFollow now start toLowerCase db user username follow = .ok (after, result)) :
    Counted after := by
  rcases setFollow_ok done with rfl |
    ⟨userId, i, creator, rateLimits, _, named, changes, room, rfl⟩
  · exact counted
  · have limited : Counted { db with rateLimits } := { counted with }
    exact limited.changes changes (counted.known i creator (Table.first_row named).1) room

/-! ### Projections -/

theorem project_marked (db : Social) (creatorId : UserId) (i : Nat) (m : FollowerProjection) :
    (project db creatorId).followerProjections.get i = some m ↔
      db.followerProjections.get i = some m ∧ m.creatorId ≠ creatorId := by
  simp only [project, Table.get_delete_query, beq_eq_false_iff_ne]

/-- A creator's only profile shows the sum of their shards, the others are as
they were. -/
theorem project_profile {db : Social} (counted : Counted db) (creatorId : UserId) {i : Nat}
    {p : Profile} (found : (project db creatorId).profiles.get i = some p) :
    ∃ q, db.profiles.get i = some q ∧ q.userId = p.userId ∧
      ((p.userId = creatorId ∧ p.followerCount = db.shardSum creatorId) ∨
        (p.userId ≠ creatorId ∧ p = q)) := by
  have unmoved : db.profiles.get i = some p →
      (p.userId = creatorId → p.followerCount = db.shardSum creatorId) →
      ∃ q, db.profiles.get i = some q ∧ q.userId = p.userId ∧
        ((p.userId = creatorId ∧ p.followerCount = db.shardSum creatorId) ∨
          (p.userId ≠ creatorId ∧ p = q)) := by
    intro before shows
    refine ⟨p, before, rfl, ?_⟩
    by_cases own : p.userId = creatorId
    · exact Or.inl ⟨own, shows own⟩
    · exact Or.inr ⟨own, rfl⟩
  simp only [project] at found
  split at found
  · rename_i key profile located
    obtain ⟨present, here⟩ := Table.first_some located
    have own : profile.userId = creatorId := by simpa using here
    split_ifs at found with drifted
    · rcases Table.get_patch_row present found with ⟨rfl, rfl⟩ | ⟨apart, kept⟩
      · exact ⟨profile, present, rfl, Or.inl ⟨own, rfl⟩⟩
      · apply unmoved kept
        intro same
        exact absurd (counted.oneProfile i key p profile kept present (same.trans own.symm)) apart
    · apply unmoved found
      intro same
      have equal := counted.oneProfile i key p profile found present (same.trans own.symm)
      subst equal
      cases found.symm.trans present
      simpa using drifted
  · rename_i none
    apply unmoved found
    intro same
    exact absurd same (by simpa using Table.first_none none found)

theorem Counted.project {db : Social} (counted : Counted db) (time : Time) (creatorId : UserId) :
    Counted (project { db with scheduled := db.scheduled.erase (time, creatorId) } creatorId) := by
  have erased :
      Bling.project { db with scheduled := db.scheduled.erase (time, creatorId) } creatorId =
        { Bling.project db creatorId with scheduled := db.scheduled.erase (time, creatorId) } := rfl
  rw [erased]
  constructor
  · exact ⟨counted.oneShard, counted.within⟩
  · exact counted.sums
  · exact counted.oneCount
  · exact counted.counts
  · exact counted.limited
  · intro i j p q first second same
    obtain ⟨p', before, user, _⟩ := project_profile counted creatorId first
    obtain ⟨q', before', user', _⟩ := project_profile counted creatorId second
    exact counted.oneProfile i j p' q' before before' (by rw [user, user', same])
  · intro i p found
    obtain ⟨q, before, user, _⟩ := project_profile counted creatorId found
    exact user ▸ counted.known i q before
  · exact counted.named
  · intro i p found drifted
    obtain ⟨q, before, user, shows⟩ := project_profile counted creatorId found
    rcases shows with ⟨own, projected⟩ | ⟨other, rfl⟩
    · exact absurd (own ▸ projected) drifted
    · obtain ⟨j, m, marker, here⟩ := counted.marked i p before drifted
      exact ⟨j, m, (project_marked db creatorId j m).mpr ⟨marker, here ▸ other⟩, here⟩
  · intro i m marker
    obtain ⟨before, other⟩ := (project_marked db creatorId i m).mp marker
    obtain ⟨due, member⟩ := counted.pending i m before
    refine ⟨due, (List.mem_erase_of_ne ?_).mpr member⟩
    intro same
    exact other (Prod.mk.inj same).2

/-! ### Every run -/

theorem Counted.signUp {db : Social} (counted : Counted db) (username : Option Text) :
    Counted (db.signUp username) := by
  unfold Social.signUp
  cases done : Bling.signUp db.backend username with
  | error code => exact counted
  | ok result =>
      obtain ⟨backend, userId⟩ := result
      have grown : backend.users.next = db.backend.users.next + 1 ∧
          userId = db.backend.users.next := by
        unfold Bling.signUp at done
        dsimp only at done
        split at done
        · cases done
          exact ⟨rfl, rfl⟩
        · split at done
          · cases done
          · cases done
            exact ⟨rfl, rfl⟩
      have known : ∀ i p, db.profiles.get i = some p → p.userId < backend.users.next := by
        intro i p found
        rw [grown.1]
        exact Nat.lt_succ_of_lt (counted.known i p found)
      have named : ∀ i f, db.follows.get i = some f → f.creatorId < backend.users.next := by
        intro i f found
        rw [grown.1]
        exact Nat.lt_succ_of_lt (counted.named i f found)
      dsimp only
      split
      · exact { counted with known, named }
      · have fresh : ∀ i p, db.profiles.get i = some p → p.userId ≠ userId := by
          intro i p found
          rw [grown.2]
          exact Nat.ne_of_lt (counted.known i p found)
        refine { counted with oneProfile := ?_, known := ?_, named, marked := ?_ }
        · intro i j p q first second same
          rcases Table.get_insert_row first with ⟨rfl, rfl⟩ | old
          · rcases Table.get_insert_row second with ⟨rfl, rfl⟩ | old'
            · rfl
            · exact absurd same.symm (fresh j q old')
          · rcases Table.get_insert_row second with ⟨rfl, rfl⟩ | old'
            · exact absurd same (fresh i p old)
            · exact counted.oneProfile i j p q old old' same
        · intro i p found
          rcases Table.get_insert_row found with ⟨_, rfl⟩ | old
          · rw [grown.1, grown.2]
            exact Nat.lt_succ_self _
          · exact known i p old
        · intro i p found drifted
          rcases Table.get_insert_row found with ⟨_, rfl⟩ | old
          · refine absurd ?_ drifted
            have none : db.followers userId = 0 := by
              apply Table.total_zero
              intro i f there same
              rw [beq_iff_eq, grown.2] at same
              exact absurd same (Nat.ne_of_lt (counted.named i f there))
            exact ((counted.sums userId).trans none).symm
          · exact counted.marked i p old drifted

theorem Counted.step {db : Social} (counted : Counted db) (input : Time × SocialOp) :
    Counted (db.step input) := by
  have changed : ∀ start toLowerCase user username follow,
      Counted (db.commit (Bling.setFollow input.1 start toLowerCase db user username follow)) := by
    intro start toLowerCase user username follow
    cases done : Bling.setFollow input.1 start toLowerCase db user username follow with
    | error code => exact counted
    | ok result => exact counted.setFollow done
  unfold Social.step
  dsimp only
  split
  · rename_i username _
    exact counted.signUp username
  · rename_i profileId published _
    have origin : ∀ i p, (db.profiles.patch profileId fun p => { p with published }).get i =
        some p → ∃ q, db.profiles.get i = some q ∧ q.userId = p.userId ∧
          q.followerCount = p.followerCount := by
      intro i p found
      rw [Table.get_patch] at found
      split at found
      · obtain ⟨q, before, rfl⟩ := Option.map_eq_some_iff.mp found
        exact ⟨q, before, rfl, rfl⟩
      · exact ⟨p, found, rfl, rfl⟩
    refine { counted with oneProfile := ?_, known := ?_, marked := ?_ }
    · intro i j p q first second same
      obtain ⟨p', before, user, _⟩ := origin i p first
      obtain ⟨q', before', user', _⟩ := origin j q second
      exact counted.oneProfile i j p' q' before before' (by rw [user, user', same])
    · intro i p found
      obtain ⟨q, before, user, _⟩ := origin i p found
      exact user ▸ counted.known i q before
    · intro i p found drifted
      obtain ⟨q, before, user, count⟩ := origin i p found
      rw [← user] at drifted ⊢
      exact counted.marked i q before (count ▸ drifted)
  · rename_i start toLowerCase user username _
    exact changed start toLowerCase user username true
  · rename_i start toLowerCase user username _
    exact changed start toLowerCase user username false
  · rename_i time creatorId _
    split
    · exact counted.project time creatorId
    · exact counted

theorem counted_run (inputs : List (Time × SocialOp)) :
    Counted (run Social.step Social.empty inputs) := by
  refine Reachable.induct ⟨inputs, rfl⟩ Counted ?_ fun db input counted => counted.step input
  constructor
  · exact ⟨nofun, nofun⟩
  · exact fun _ => rfl
  · exact nofun
  · exact fun _ => rfl
  · intro userId
    show (0 : Int) ≤ maxFollows
    decide
  · exact nofun
  · exact nofun
  · exact nofun
  · exact nofun
  · exact nofun

/-- The counts of every creator and user are those of the `follows` rows. -/
structure NeverDrift (db : Social) : Prop where
  shards : ∀ creatorId, db.shardSum creatorId = db.followers creatorId
  nonneg : ∀ id shard, db.followerShards.get id = some shard → 0 ≤ shard.count
  /-- An unfollow, whose row is there, finds a shard to take from. -/
  taken : ∀ id follow start, db.follows.get id = some follow →
    (nonEmptyShard db follow.creatorId start).isSome = true
  following : ∀ userId, followingCount db userId = db.followings userId ∧
    db.followings userId ≤ maxFollows
  rows : ∀ id row, db.followingCounts.get id = some row →
    row.count = db.followings row.userId
  marked : ∀ id profile, db.profiles.get id = some profile →
    profile.followerCount ≠ db.shardSum profile.userId →
    (∃ key marker, db.followerProjections.get key = some marker ∧
      marker.creatorId = profile.userId) ∧ ∃ time, (time, profile.userId) ∈ db.scheduled
  /-- That job brings the profile up to date. -/
  projected : ∀ creatorId id profile, (project db creatorId).profiles.get id = some profile →
    profile.userId = creatorId →
    profile.followerCount = (project db creatorId).shardSum creatorId

theorem follow_counts_never_drift (inputs : List (Time × SocialOp)) :
    NeverDrift (run Social.step Social.empty inputs) := by
  have counted := counted_run inputs
  generalize run Social.step Social.empty inputs = db at counted
  constructor
  · exact counted.sums
  · exact fun id shard found => (counted.within id shard found).1
  · exact fun id follow start found => nonEmptyShard_of_follow counted found start
  · exact fun userId => ⟨counted.counts userId, counted.limited userId⟩
  · intro id row found
    rw [← counted.counts]
    exact (followingCount_of_row counted.oneCount found).symm
  · intro id profile found drifted
    obtain ⟨key, marker, there, here⟩ := counted.marked id profile found drifted
    exact ⟨⟨key, marker, there, here⟩, here ▸ counted.pending key marker there⟩
  · intro creatorId id profile found own
    obtain ⟨_, _, _, ⟨_, shows⟩ | ⟨other, _⟩⟩ := project_profile counted creatorId found
    · exact shows
    · exact absurd own other

end Bling
