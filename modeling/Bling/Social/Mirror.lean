import Bling.Social.SiteSteps

set_option autoImplicit false

namespace Bling

open Library

/-! The public profile mirrors the creator's shows. -/

/-- What a profile says of its creator's shows. -/
structure Mirrored (shows : Table Show) (scheduledFor : ShowId → Option Time)
    (p : CreatorProfile) : Prop where
  live : p.isLive = true → ∃ id hotline, shows.get id = some hotline ∧
    hotline.creatorId = p.userId ∧ hotline.status = .live
  shown : ∀ id hotline, shows.get id = some hotline → hotline.creatorId = p.userId →
    hotline.status = .live → p.isLive = true ∧ p.liveShowId = some id ∧ p.published = true
  announced : ∀ opening, p.nextHotlineAt = some opening → ∃ id hotline,
    shows.get id = some hotline ∧ hotline.creatorId = p.userId ∧ hotline.status = .created ∧
      scheduledFor id = some opening

/-- A draft of a creator with an announced opening. -/
def Drafted (shows : Table Show) (scheduledFor : ShowId → Option Time) (creatorId : UserId)
    (id : ShowId) : Prop :=
  scheduledFor id ≠ none ∧ ∃ hotline, shows.get id = some hotline ∧
    hotline.creatorId = creatorId ∧ hotline.status = .created

/-- Whoever is not live and has a scheduled draft announces an opening. -/
def Announces (shows : Table Show) (scheduledFor : ShowId → Option Time)
    (p : CreatorProfile) : Prop :=
  p.isLive = false → (∃ id, Drafted shows scheduledFor p.userId id) → p.nextHotlineAt ≠ none

/-- A user has one profile, and users, shows and schedules are of those there are. -/
structure Registered (s : Site) : Prop where
  one : ∀ i j p q, s.profiles.get i = some p → s.profiles.get j = some q →
    p.userId = q.userId → i = j
  known : ∀ i p, s.profiles.get i = some p → p.userId < s.backend.users.next
  owned : ∀ id hotline, s.backend.shows.get id = some hotline →
    hotline.creatorId < s.backend.users.next
  planned : ∀ id, s.scheduledFor id ≠ none → id < s.backend.shows.next

structure Site.Mirrors (s : Site) : Prop extends Registered s where
  each : ∀ i p, s.profiles.get i = some p → Mirrored s.backend.shows s.scheduledFor p

def Site.AllAnnounce (s : Site) : Prop :=
  ∀ i p, s.profiles.get i = some p → Announces s.backend.shows s.scheduledFor p

namespace Site

variable {s : Site}

theorem profileForUser_get {creatorId : UserId} {id : Nat} {p : CreatorProfile}
    (found : s.profileForUser creatorId = some (id, p)) :
    s.profiles.get id = some p ∧ p.userId = creatorId := by
  have row := Table.first_row found
  exact ⟨row.1, by simpa using row.2⟩

theorem profileForUser_of_get (one : ∀ i j p q, s.profiles.get i = some p →
    s.profiles.get j = some q → p.userId = q.userId → i = j) {id : Nat} {p : CreatorProfile}
    (found : s.profiles.get id = some p) : s.profileForUser p.userId = some (id, p) := by
  apply Table.first_of_unique found
  · simp
  · intro j q present same
    exact one j id q p present found (by simpa using same)

/-- A write to a creator's profile reaches that profile and no other. -/
theorem get_patchProfile (registered : Registered s) (creatorId : UserId)
    (f : CreatorProfile → CreatorProfile) (i : Nat) :
    (s.patchProfile creatorId f).profiles.get i =
      (s.profiles.get i).map fun p => if p.userId = creatorId then f p else p := by
  unfold patchProfile
  cases found : s.profileForUser creatorId with
  | none =>
      cases present : s.profiles.get i with
      | none => simp
      | some p =>
          have apart : p.userId ≠ creatorId := by
            have unmatched := Table.first_none found present
            simpa using unmatched
          simp [apart]
  | some row =>
      obtain ⟨id, q⟩ := row
      obtain ⟨present, rfl⟩ := profileForUser_get found
      dsimp only
      rw [Table.get_patch]
      by_cases same : i = id
      · subst same
        simp [present]
      · cases other : s.profiles.get i with
        | none => simp [same]
        | some p =>
            have apart : p.userId ≠ q.userId := fun shared =>
              same (registered.one i id p q other present shared)
            simp [same, apart]

theorem get_patchProfile_own (registered : Registered s) {creatorId : UserId} {i : Nat}
    {p : CreatorProfile} (found : s.profiles.get i = some p) (own : p.userId = creatorId)
    (f : CreatorProfile → CreatorProfile) :
    (s.patchProfile creatorId f).profiles.get i = some (f p) := by
  rw [get_patchProfile registered, found, Option.map_some, if_pos own]

@[simp] theorem patchProfile_backend (s : Site) (creatorId : UserId)
    (f : CreatorProfile → CreatorProfile) :
    (s.patchProfile creatorId f).backend = s.backend := by
  unfold patchProfile
  split <;> rfl

@[simp] theorem patchProfile_scheduledFor (s : Site) (creatorId : UserId)
    (f : CreatorProfile → CreatorProfile) :
    (s.patchProfile creatorId f).scheduledFor = s.scheduledFor := by
  unfold patchProfile
  split <;> rfl

theorem patchProfile_profile (registered : Registered s) {creatorId : UserId}
    {f : CreatorProfile → CreatorProfile} {i : Nat} {p : CreatorProfile}
    (found : (s.patchProfile creatorId f).profiles.get i = some p) :
    ∃ q, s.profiles.get i = some q ∧ p = if q.userId = creatorId then f q else q := by
  rw [get_patchProfile registered] at found
  obtain ⟨q, before, same⟩ := Option.map_eq_some_iff.mp found
  exact ⟨q, before, same.symm⟩

theorem queueLiveAlert_profiles (now : Time) (s : Site) (creatorId : UserId) (showId : ShowId) :
    (queueLiveAlert now s creatorId showId).profiles = s.profiles ∨
      (queueLiveAlert now s creatorId showId).profiles =
        (s.patchProfile creatorId fun p => { p with lastLiveAlertAt := some now }).profiles := by
  unfold queueLiveAlert
  split
  · exact Or.inl rfl
  · rename_i id profile found
    split
    · exact Or.inl rfl
    · exact Or.inr (by rw [patchProfile, found])

theorem queueLiveAlert_same (now : Time) (s : Site) (creatorId : UserId) (showId : ShowId) :
    (queueLiveAlert now s creatorId showId).backend = s.backend ∧
      (queueLiveAlert now s creatorId showId).scheduledFor = s.scheduledFor ∧
      (queueLiveAlert now s creatorId showId).files = s.files := by
  unfold queueLiveAlert
  split
  · exact ⟨rfl, rfl, rfl⟩
  · split <;> exact ⟨rfl, rfl, rfl⟩

theorem patchProfile_files (s : Site) (creatorId : UserId) (f : CreatorProfile → CreatorProfile) :
    (s.patchProfile creatorId f).files = s.files := by
  unfold patchProfile
  split <;> rfl

theorem onShowLive_same (now : Time) (s : Site) (creatorId : UserId) (showId : ShowId) :
    (onShowLive now s creatorId showId).backend = s.backend ∧
      (onShowLive now s creatorId showId).scheduledFor = s.scheduledFor ∧
      (onShowLive now s creatorId showId).files = s.files := by
  unfold onShowLive
  dsimp only
  split
  · simp [patchProfile_files]
  · have same := queueLiveAlert_same now
    simp [same, patchProfile_files]

end Site

theorem Registered.patchProfile {s : Site} (registered : Registered s) {creatorId : UserId}
    {f : CreatorProfile → CreatorProfile} (keeps : ∀ p, (f p).userId = p.userId) :
    Registered (s.patchProfile creatorId f) := by
  have origin {i : Nat} {p : CreatorProfile}
      (found : (s.patchProfile creatorId f).profiles.get i = some p) :
      ∃ q, s.profiles.get i = some q ∧ q.userId = p.userId := by
    obtain ⟨q, before, rfl⟩ := Site.patchProfile_profile registered found
    refine ⟨q, before, ?_⟩
    split
    · exact (keeps q).symm
    · rfl
  constructor
  · intro i j p q first second same
    obtain ⟨p', before, user⟩ := origin first
    obtain ⟨q', before', user'⟩ := origin second
    exact registered.one i j p' q' before before' (by rw [user, user', same])
  · intro i p found
    obtain ⟨q, before, user⟩ := origin found
    rw [Site.patchProfile_backend, ← user]
    exact registered.known i q before
  · rw [Site.patchProfile_backend]
    exact registered.owned
  · rw [Site.patchProfile_backend, Site.patchProfile_scheduledFor]
    exact registered.planned

/-- Going live writes the creator's profile, whether or not followers are told. -/
theorem Site.onShowLive_profile {s : Site} (registered : Registered s) {now : Time}
    {creatorId : UserId} {showId : ShowId} {i : Nat} {p : CreatorProfile}
    (found : (onShowLive now s creatorId showId).profiles.get i = some p) :
    ∃ q last, s.profiles.get i = some q ∧ p = if q.userId = creatorId then
      { q with
        published := true, isLive := true, liveShowId := some showId
        liveStartedAt := some now, nextHotlineAt := none, lastLiveAlertAt := last } else q := by
  let shown (p : CreatorProfile) : CreatorProfile := { p with
    published := true, isLive := true, liveShowId := some showId
    liveStartedAt := some now, nextHotlineAt := none }
  have patched : Registered (s.patchProfile creatorId shown) :=
    registered.patchProfile fun _ => rfl
  have plain (found : (s.patchProfile creatorId shown).profiles.get i = some p) :
      ∃ q last, s.profiles.get i = some q ∧ p = if q.userId = creatorId then
        { shown q with lastLiveAlertAt := last } else q := by
    obtain ⟨q, before, rfl⟩ := patchProfile_profile registered found
    exact ⟨q, q.lastLiveAlertAt, before, rfl⟩
  unfold onShowLive at found
  dsimp only at found
  split at found
  · exact plain found
  · rcases queueLiveAlert_profiles now _ creatorId showId with same | told
    · rw [same] at found
      exact plain found
    · rw [told] at found
      have seen := patchProfile_profile (s := { s.patchProfile creatorId shown with
        liveEvents := (s.patchProfile creatorId shown).liveEvents.insert
          { creatorId, showId, createdAt := now } })
        ⟨patched.one, patched.known, patched.owned, patched.planned⟩ found
      obtain ⟨r, held, rfl⟩ := seen
      obtain ⟨q, before, rfl⟩ := patchProfile_profile registered held
      refine ⟨q, some now, before, ?_⟩
      by_cases own : q.userId = creatorId
      · simp [own, shown]
      · simp [own]

/-! ### One step -/

/-- Profiles of the users there were, and shows of users there are. -/
theorem Registered.moves {s after : Site} (registered : Registered s)
    (origin : ∀ i p, after.profiles.get i = some p →
      ∃ q, s.profiles.get i = some q ∧ q.userId = p.userId)
    (users : s.backend.users.next ≤ after.backend.users.next)
    (owned : ∀ id hotline, after.backend.shows.get id = some hotline →
      hotline.creatorId < after.backend.users.next)
    (planned : ∀ id, after.scheduledFor id ≠ none → id < after.backend.shows.next) :
    Registered after := by
  refine ⟨?_, ?_, owned, planned⟩
  · intro i j p q first second same
    obtain ⟨p', before, user⟩ := origin i p first
    obtain ⟨q', before', user'⟩ := origin j q second
    exact registered.one i j p' q' before before' (by rw [user, user', same])
  · intro i p found
    obtain ⟨q, before, user⟩ := origin i p found
    rw [← user]
    exact Nat.lt_of_lt_of_le (registered.known i q before) users

theorem Registered.userAdded {s : Site} (registered : Registered s) {backend : DB} {user : User}
    (users : backend.users = s.backend.users.insert user)
    (shows : backend.shows = s.backend.shows) : Registered { s with backend } := by
  refine registered.moves (fun i p found => ⟨p, found, rfl⟩) (by simp [users]) ?_ ?_
  · intro id hotline found
    simp only [users, Table.insert_next]
    exact Nat.lt_succ_of_lt (registered.owned id hotline (by simpa [shows] using found))
  · simpa [shows] using registered.planned

theorem Registered.showAdded {s : Site} (registered : Registered s) {backend : DB}
    {hotline : Show} (known : hotline.creatorId < s.backend.users.next)
    (users : backend.users = s.backend.users)
    (shows : backend.shows = s.backend.shows.insert hotline) :
    Registered { s with backend } := by
  refine registered.moves (fun i p found => ⟨p, found, rfl⟩) (by simp [users]) ?_ ?_
  · intro id other found
    simp only [shows] at found
    rw [users]
    rcases Table.get_insert_row found with ⟨_, rfl⟩ | before
    · exact known
    · exact registered.owned id other before
  · intro id planned
    simp only [shows, Table.insert_next]
    exact Nat.lt_succ_of_lt (registered.planned id planned)

theorem Registered.rescheduled {s : Site} (registered : Registered s) {showId : ShowId}
    {hotline : Show} (present : s.backend.shows.get showId = some hotline)
    (opening : Option Time) : Registered { s with scheduledFor := fun id =>
      if id = showId then opening else s.scheduledFor id } := by
  refine registered.moves (fun i p found => ⟨p, found, rfl⟩) (Nat.le_refl _) registered.owned ?_
  intro id planned
  dsimp only at planned
  split at planned
  · rename_i same
    rw [same]
    exact Table.get_lt present
  · exact registered.planned id planned

theorem Registered.showMoved {s : Site} (registered : Registered s) {backend : DB}
    {showId : ShowId} {f : Show → Show} (users : backend.users = s.backend.users)
    (shows : backend.shows = s.backend.shows.patch showId f)
    (keeps : ∀ hotline, (f hotline).creatorId = hotline.creatorId) :
    Registered { s with backend } := by
  refine registered.moves (fun i p found => ⟨p, found, rfl⟩) (by simp [users]) ?_ ?_
  · intro id hotline found
    simp only [shows, Table.get_patch] at found
    rw [users]
    split at found
    · obtain ⟨before, present, rfl⟩ := Option.map_eq_some_iff.mp found
      rw [keeps]
      exact registered.owned id before present
    · exact registered.owned id hotline found
  · simpa [shows] using registered.planned

theorem Registered.change {ctx : Ctx} {s after : Site} {op : SiteOp}
    (registered : Registered s) (change : SiteChange ctx s op after) : Registered after := by
  have refl : ∀ i p, s.profiles.get i = some p →
      ∃ q, s.profiles.get i = some q ∧ q.userId = p.userId := fun i p found => ⟨p, found, rfl⟩
  have patched {id : Nat} {f : CreatorProfile → CreatorProfile}
      (keeps : ∀ p, (f p).userId = p.userId) : ∀ i p, (s.profiles.patch id f).get i = some p →
      ∃ q, s.profiles.get i = some q ∧ q.userId = p.userId := by
    intro i p found
    rw [Table.get_patch] at found
    split at found
    · obtain ⟨q, before, rfl⟩ := Option.map_eq_some_iff.mp found
      exact ⟨q, before, (keeps q).symm⟩
    · exact ⟨p, found, rfl⟩
  cases change with
  | quiet _ backend avatarCalls users shows =>
      refine registered.moves refl (by simp [users]) ?_ ?_
      · simpa [users, shows] using registered.owned
      · simpa [shows] using registered.planned
  | signedUp username backend user users shows => exact registered.userAdded users shows
  | profileAdded username name backend user users shows =>
      have old := registered.userAdded users shows
      have fresh (j : Nat) (p : CreatorProfile) (found : s.profiles.get j = some p) :
          p.userId ≠ s.backend.users.next :=
        Nat.ne_of_lt (registered.known j p found)
      constructor
      · intro i j p q first second same
        rcases Table.get_insert_row first with ⟨rfl, rfl⟩ | before
        · rcases Table.get_insert_row second with ⟨rfl, rfl⟩ | before'
          · rfl
          · exact absurd same.symm (fresh j q before')
        · rcases Table.get_insert_row second with ⟨rfl, rfl⟩ | before'
          · exact absurd same (fresh i p before)
          · exact registered.one i j p q before before' same
      · intro i p found
        rcases Table.get_insert_row found with ⟨_, rfl⟩ | before
        · simp [Site.createProfile, users]
        · exact old.known i p before
      · exact old.owned
      · exact old.planned
  | created userId creatorId backend hotline allowed owner draft users shows =>
      have known := owner ▸ (requireCreatorId_ok allowed).2
      exact (registered.showAdded known users shows).patchProfile fun _ => rfl
  | scheduled userId creatorId showId hotline opening allowed found draft =>
      have moved := registered.rescheduled (showForCreator_ok found).1 opening
      exact moved.patchProfile fun _ => rfl
  | started userId creatorId showId hotline backend allowed found draft alone users shows =>
      have moved : Registered { s with backend } := registered.showMoved users shows fun _ => rfl
      have same := Site.onShowLive_same ctx.now { s with backend } creatorId showId
      refine moved.moves ?_ (by simp [same]) (by simpa [same] using moved.owned)
        (by simpa [same] using moved.planned)
      intro i p located
      obtain ⟨q, last, before, rfl⟩ := Site.onShowLive_profile moved located
      refine ⟨q, before, ?_⟩
      split <;> rfl
  | finished userId creatorId showId hotline backend allowed found live users shows =>
      have moved : Registered { s with backend } := registered.showMoved users shows fun _ => rfl
      apply moved.patchProfile
      intro p
      split <;> rfl
  | saved userId args creatorId id profile rateLimits allowed found =>
      exact registered.moves (patched fun _ => rfl) (Nat.le_refl _) registered.owned
        registered.planned
  | avatarSaved userId args creatorId id profile rateLimits files url allowed found removed =>
      exact registered.moves (patched fun _ => rfl) (Nat.le_refl _) registered.owned
        registered.planned
  | uploaded file =>
      exact registered.moves refl (Nat.le_refl _) registered.owned registered.planned
  | discarded id call avatarCalls called rejected unowned =>
      exact registered.moves refl (Nat.le_refl _) registered.owned registered.planned
  | attached id call avatarCalls called accepted creatorId profileId profile files allowed found
      unclaimed removed =>
      exact registered.moves (patched fun _ => rfl) (Nat.le_refl _) registered.owned
        registered.planned

/-! ### What a profile says, after a step -/

section Faces

variable {shows after : Table Show} {scheduledFor later : ShowId → Option Time}
  {p q : CreatorProfile}

/-- A write to a profile that leaves these fields alone. -/
theorem Mirrored.of_fields (mirrored : Mirrored shows scheduledFor p)
    (user : q.userId = p.userId) (live : q.isLive = p.isLive)
    (shown : q.liveShowId = p.liveShowId) (opening : q.nextHotlineAt = p.nextHotlineAt)
    (published : p.isLive = true → p.published = true → q.published = true) :
    Mirrored shows scheduledFor q := by
  constructor
  · rw [live, user]
    exact mirrored.live
  · intro id hotline found owner status
    rw [live, shown]
    rw [user] at owner
    have same := mirrored.shown id hotline found owner status
    exact ⟨same.1, same.2.1, published same.1 same.2.2⟩
  · rw [opening, user]
    exact mirrored.announced

/-- A step on the shows of another creator. -/
theorem Mirrored.elsewhere (mirrored : Mirrored shows scheduledFor p)
    (same : ∀ id hotline, hotline.creatorId = p.userId →
      (after.get id = some hotline ↔ shows.get id = some hotline))
    (plans : ∀ id hotline, shows.get id = some hotline → hotline.creatorId = p.userId →
      later id = scheduledFor id) : Mirrored after later p := by
  constructor
  · intro live
    obtain ⟨id, hotline, found, owner, status⟩ := mirrored.live live
    exact ⟨id, hotline, (same id hotline owner).mpr found, owner, status⟩
  · intro id hotline found owner
    exact mirrored.shown id hotline ((same id hotline owner).mp found) owner
  · intro opening next
    obtain ⟨id, hotline, found, owner, status, planned⟩ := mirrored.announced opening next
    refine ⟨id, hotline, (same id hotline owner).mpr found, owner, status, ?_⟩
    rw [plans id hotline found owner, planned]

theorem Announces.of_fields (announces : Announces shows scheduledFor p)
    (user : q.userId = p.userId) (live : q.isLive = p.isLive)
    (opening : q.nextHotlineAt = p.nextHotlineAt) : Announces shows scheduledFor q := by
  unfold Announces
  rw [user, live, opening]
  exact announces

/-- A step that makes no draft of the creator a scheduled one. -/
theorem Announces.elsewhere (announces : Announces shows scheduledFor p)
    (drafts : ∀ id, Drafted after later p.userId id → Drafted shows scheduledFor p.userId id) :
    Announces after later p := by
  intro offline drafted
  obtain ⟨id, drafted⟩ := drafted
  exact announces offline ⟨id, drafts id drafted⟩

end Faces

/-- A show that is patched is another creator's, or stays where it was. -/
theorem patch_elsewhere {shows : Table Show} {showId : ShowId} {hotline : Show}
    (present : shows.get showId = some hotline) {f : Show → Show}
    (keeps : ∀ s, (f s).creatorId = s.creatorId) {userId : UserId}
    (other : hotline.creatorId ≠ userId) (id : ShowId) (s : Show) (owner : s.creatorId = userId) :
    (shows.patch showId f).get id = some s ↔ shows.get id = some s := by
  rw [Table.get_patch]
  by_cases here : id = showId
  · subst here
    rw [if_pos rfl, present]
    constructor
    · intro same
      obtain rfl := Option.some.inj same
      exact absurd ((keeps hotline).symm.trans owner) other
    · intro same
      obtain rfl := Option.some.inj same
      exact absurd owner other
  · rw [if_neg here]

theorem drafted_patch {shows : Table Show} {scheduledFor : ShowId → Option Time}
    {showId : ShowId} {f : Show → Show} (started : ∀ s, (f s).status ≠ .created)
    {userId : UserId} {id : ShowId}
    (drafted : Drafted (shows.patch showId f) scheduledFor userId id) :
    id ≠ showId ∧ Drafted shows scheduledFor userId id := by
  obtain ⟨planned, hotline, found, owner, draft⟩ := drafted
  rw [Table.get_patch] at found
  split at found
  · obtain ⟨before, _, rfl⟩ := Option.map_eq_some_iff.mp found
    exact absurd draft (started before)
  · rename_i apart
    exact ⟨apart, planned, hotline, found, owner, draft⟩

theorem drafted_reschedule {shows : Table Show} {scheduledFor : ShowId → Option Time}
    {showId id : ShowId} {opening : Option Time} {userId : UserId}
    (drafted : Drafted shows (fun id => if id = showId then opening else scheduledFor id)
      userId id) :
    id = showId ∧ opening ≠ none ∨ id ≠ showId ∧ Drafted shows scheduledFor userId id := by
  obtain ⟨planned, facts⟩ := drafted
  dsimp only at planned
  split at planned
  · rename_i same
    exact Or.inl ⟨same, planned⟩
  · rename_i apart
    exact Or.inr ⟨apart, planned, facts⟩

namespace Site.Mirrors

variable {ctx : Ctx} {s after : Site} {op : SiteOp}

/-- A write to one profile that leaves what it says of shows alone. -/
theorem patched (mirrors : s.Mirrors) {id : Nat} {f : CreatorProfile → CreatorProfile}
    (user : ∀ p, (f p).userId = p.userId) (live : ∀ p, (f p).isLive = p.isLive)
    (shown : ∀ p, (f p).liveShowId = p.liveShowId)
    (opening : ∀ p, (f p).nextHotlineAt = p.nextHotlineAt)
    (published : ∀ p, p.isLive = true → p.published = true → (f p).published = true) (i : Nat)
    (p : CreatorProfile) (found : (s.profiles.patch id f).get i = some p) :
    Mirrored s.backend.shows s.scheduledFor p := by
  rw [Table.get_patch] at found
  split at found
  · obtain ⟨q, before, rfl⟩ := Option.map_eq_some_iff.mp found
    exact (mirrors.each i q before).of_fields (user q) (live q) (shown q) (opening q) (published q)
  · exact mirrors.each i p found

theorem created_each (mirrors : s.Mirrors) {creatorId : UserId} {backend : DB} {hotline : Show}
    (draft : hotline.status = .created) (registered : Registered { s with backend })
    (shows : backend.shows = s.backend.shows.insert hotline) (i : Nat) (p : CreatorProfile)
    (found : ({ s with backend }.onShowCreated creatorId).profiles.get i = some p) :
    Mirrored backend.shows s.scheduledFor p := by
  obtain ⟨q, before, rfl⟩ := patchProfile_profile registered found
  have mirrored := mirrors.each i q before
  have same : Mirrored backend.shows s.scheduledFor q := by
    rw [shows]
    constructor
    · intro live
      obtain ⟨id, other, present, owner, status⟩ := mirrored.live live
      exact ⟨id, other, Table.get_insert_of_some present _, owner, status⟩
    · intro id other present owner status
      rcases Table.get_insert_row present with ⟨_, rfl⟩ | old
      · rw [draft] at status
        cases status
      · exact mirrored.shown id other old owner status
    · intro opening next
      obtain ⟨id, other, present, facts⟩ := mirrored.announced opening next
      exact ⟨id, other, Table.get_insert_of_some present _, facts⟩
  split
  · exact same.of_fields rfl rfl rfl rfl fun _ _ => rfl
  · exact same

theorem scheduled_each (mirrors : s.Mirrors) {creatorId : UserId} {showId : ShowId}
    {hotline : Show} {opening : Option Time}
    (present : s.backend.shows.get showId = some hotline) (owner : hotline.creatorId = creatorId)
    (draft : hotline.status = .created) {later : ShowId → Option Time}
    (planned : ∀ id, later id = if id = showId then opening else s.scheduledFor id)
    (registered : Registered { s with scheduledFor := later }) (i : Nat) (p : CreatorProfile)
    (found : ({ s with scheduledFor := later }.onShowScheduled creatorId opening).profiles.get i =
      some p) : Mirrored s.backend.shows later p := by
  obtain ⟨q, before, rfl⟩ := patchProfile_profile registered found
  have mirrored := mirrors.each i q before
  split
  · rename_i own
    refine ⟨mirrored.live, mirrored.shown, ?_⟩
    intro time next
    refine ⟨showId, hotline, present, owner.trans own.symm, draft, ?_⟩
    rw [planned, if_pos rfl]
    exact next
  · rename_i other
    refine mirrored.elsewhere (fun _ _ _ => Iff.rfl) ?_
    intro id s located own
    have apart : id ≠ showId := by
      rintro rfl
      obtain rfl := Option.some.inj (present.symm.trans located)
      exact other (own.symm.trans owner)
    rw [planned, if_neg apart]

theorem started_each (mirrors : s.Mirrors) {creatorId : UserId} {showId : ShowId}
    {hotline : Show} {backend : DB} {now : Time}
    (present : s.backend.shows.get showId = some hotline) (owner : hotline.creatorId = creatorId)
    (alone : ∀ id other, s.backend.shows.get id = some other → other.creatorId = creatorId →
      other.status ≠ .live) (registered : Registered { s with backend })
    (shows : backend.shows = s.backend.shows.patch showId fun s =>
      { s with status := .live, startedAt := some now }) (i : Nat) (p : CreatorProfile)
    (found : ({ s with backend }.onShowLive now creatorId showId).profiles.get i = some p) :
    Mirrored backend.shows s.scheduledFor p := by
  obtain ⟨q, last, before, rfl⟩ := onShowLive_profile registered found
  have mirrored := mirrors.each i q before
  rw [shows]
  split
  · rename_i own
    refine ⟨?_, ?_, fun time next => by cases next⟩
    · intro _
      exact ⟨showId, _, Table.get_patch_self present _, owner.trans own.symm, rfl⟩
    · intro id other located same status
      rcases Table.get_patch_row present located with ⟨rfl, _⟩ | ⟨_, old⟩
      · exact ⟨rfl, rfl, rfl⟩
      · exact absurd status (alone id other old (same.trans own))
  · rename_i other
    refine mirrored.elsewhere (patch_elsewhere present ?_ ?_) fun _ _ _ _ => rfl
    · exact fun _ => rfl
    · exact fun same => other (same.symm.trans owner)

theorem finished_each (mirrors : s.Mirrors) {creatorId : UserId} {showId : ShowId}
    {hotline : Show} {backend : DB} {now : Time}
    (present : s.backend.shows.get showId = some hotline) (owner : hotline.creatorId = creatorId)
    (live : hotline.status = .live) (registered : Registered { s with backend })
    (shows : backend.shows = s.backend.shows.patch showId fun s =>
      { s with status := .ended, endedAt := some now }) (i : Nat) (p : CreatorProfile)
    (found : ({ s with backend }.onShowEnded creatorId showId).profiles.get i = some p) :
    Mirrored backend.shows s.scheduledFor p := by
  obtain ⟨q, before, rfl⟩ := patchProfile_profile registered found
  have mirrored := mirrors.each i q before
  rw [shows]
  split
  · rename_i own
    have showing := mirrored.shown showId hotline present (owner.trans own.symm) live
    rw [if_pos showing.2.1]
    refine ⟨fun live => (by cases live), ?_, ?_⟩
    · intro id other located same status
      rcases Table.get_patch_row present located with ⟨rfl, rfl⟩ | ⟨apart, old⟩
      · cases status
      · have both := (mirrored.shown id other old same status).2.1
        exact absurd (Option.some.inj (both.symm.trans showing.2.1)) apart
    · intro time next
      obtain ⟨id, other, old, same, draft, plan⟩ := mirrored.announced time next
      have apart : id ≠ showId := by
        rintro rfl
        obtain rfl := Option.some.inj (present.symm.trans old)
        rw [live] at draft
        cases draft
      exact ⟨id, other, (Table.get_patch_of_ne apart _ _).trans old, same, draft, plan⟩
  · rename_i other
    refine mirrored.elsewhere (patch_elsewhere present ?_ ?_) fun _ _ _ _ => rfl
    · exact fun _ => rfl
    · exact fun same => other (same.symm.trans owner)

theorem change (mirrors : s.Mirrors) (change : SiteChange ctx s op after) : after.Mirrors := by
  have registered := mirrors.toRegistered.change change
  refine ⟨registered, ?_⟩
  cases change with
  | quiet _ backend avatarCalls users shows =>
      rw [shows]
      exact mirrors.each
  | signedUp username backend user users shows =>
      rw [shows]
      exact mirrors.each
  | profileAdded username name backend user users shows =>
      intro i p found
      show Mirrored backend.shows s.scheduledFor p
      rw [shows]
      rcases Table.get_insert_row found with ⟨_, rfl⟩ | before
      · refine ⟨fun live => (by cases live), ?_, fun time next => by cases next⟩
        intro id hotline present owner _
        have := mirrors.owned id hotline present
        exact absurd owner (Nat.ne_of_lt this)
      · exact mirrors.each i p before
  | created userId creatorId backend hotline allowed owner draft users shows =>
      intro i p found
      simp only [onShowCreated, patchProfile_backend, patchProfile_scheduledFor]
      have known := owner ▸ (requireCreatorId_ok allowed).2
      exact mirrors.created_each draft (mirrors.showAdded known users shows) shows i p found
  | scheduled userId creatorId showId hotline opening allowed found draft =>
      obtain ⟨present, owner⟩ := showForCreator_ok found
      intro i p located
      simp only [onShowScheduled, patchProfile_backend, patchProfile_scheduledFor]
      exact mirrors.scheduled_each present owner draft (fun _ => rfl)
        (mirrors.rescheduled present opening) i p located
  | started userId creatorId showId hotline backend allowed found draft alone users shows =>
      obtain ⟨present, owner⟩ := showForCreator_ok found
      have same := onShowLive_same ctx.now { s with backend } creatorId showId
      intro i p located
      rw [same.1, same.2.1]
      exact mirrors.started_each present owner alone
        (mirrors.showMoved users shows fun _ => rfl) shows i p located
  | finished userId creatorId showId hotline backend allowed found live users shows =>
      obtain ⟨present, owner⟩ := showForCreator_ok found
      intro i p located
      simp only [onShowEnded, patchProfile_backend, patchProfile_scheduledFor]
      exact mirrors.finished_each present owner live
        (mirrors.showMoved users shows fun _ => rfl) shows i p located
  | saved userId args creatorId id profile rateLimits allowed found =>
      exact mirrors.patched (fun _ => rfl) (fun _ => rfl) (fun _ => rfl) (fun _ => rfl)
        fun p live _ => by simp [savePatch, live]
  | avatarSaved userId args creatorId id profile rateLimits files url allowed found removed =>
      exact mirrors.patched (fun _ => rfl) (fun _ => rfl) (fun _ => rfl) (fun _ => rfl)
        fun p live _ => by simp [savePatch, live]
  | uploaded file => exact mirrors.each
  | discarded id call avatarCalls called rejected unowned => exact mirrors.each
  | attached id call avatarCalls called accepted creatorId profileId profile files allowed found
      unclaimed removed =>
      exact mirrors.patched (fun _ => rfl) (fun _ => rfl) (fun _ => rfl) (fun _ => rfl)
        fun p _ published => published

end Site.Mirrors

/-! ### The announcement -/

/-- The step leaves no scheduled draft without its announcement: a cleared schedule is the
creator's last one, and a show ends with the next opening announced or none planned. -/
def Site.keepsAnnounced (s : Site) : Ctx × SiteOp → Prop
  | (_, .schedule userId showId none) => ∀ creatorId hotline id p,
    requireCreatorId s.backend userId = .ok creatorId →
    showForCreator s.backend showId creatorId = .ok hotline → hotline.status = .created →
    s.profileForUser creatorId = some (id, p) → p.isLive = false →
    ∀ other, other ≠ showId → ¬ Drafted s.backend.shows s.scheduledFor creatorId other
  | (_, .finish userId showId) => ∀ creatorId hotline id p,
    requireCreatorId s.backend userId = .ok creatorId →
    showForCreator s.backend showId creatorId = .ok hotline → hotline.status = .live →
    s.profileForUser creatorId = some (id, p) → p.nextHotlineAt = none →
    ∀ other, ¬ Drafted s.backend.shows s.scheduledFor creatorId other
  | _ => True

namespace Site.AllAnnounce

variable {ctx : Ctx} {s after : Site} {op : SiteOp}

theorem patched (all : s.AllAnnounce) {id : Nat} {f : CreatorProfile → CreatorProfile}
    (user : ∀ p, (f p).userId = p.userId) (live : ∀ p, (f p).isLive = p.isLive)
    (opening : ∀ p, (f p).nextHotlineAt = p.nextHotlineAt) (i : Nat)
    (p : CreatorProfile) (found : (s.profiles.patch id f).get i = some p) :
    Announces s.backend.shows s.scheduledFor p := by
  rw [Table.get_patch] at found
  split at found
  · obtain ⟨q, before, rfl⟩ := Option.map_eq_some_iff.mp found
    exact (all i q before).of_fields (user q) (live q) (opening q)
  · exact all i p found

theorem change (all : s.AllAnnounce) (mirrors : s.Mirrors) (change : SiteChange ctx s op after)
    (guarded : s.keepsAnnounced (ctx, op)) : after.AllAnnounce := by
  cases change with
  | quiet _ backend avatarCalls users shows =>
      unfold AllAnnounce
      rw [shows]
      exact all
  | signedUp username backend user users shows =>
      unfold AllAnnounce
      rw [shows]
      exact all
  | profileAdded username name backend user users shows =>
      intro i p found
      show Announces backend.shows s.scheduledFor p
      rw [shows]
      rcases Table.get_insert_row found with ⟨_, rfl⟩ | before
      · intro _ drafted
        obtain ⟨id, _, hotline, present, owner, _⟩ := drafted
        have := mirrors.owned id hotline present
        exact absurd owner (Nat.ne_of_lt this)
      · exact all i p before
  | created userId creatorId backend hotline allowed owner draft users shows =>
      have known := owner ▸ (requireCreatorId_ok allowed).2
      have moved := mirrors.showAdded known users shows
      intro i p found
      simp only [onShowCreated, patchProfile_backend, patchProfile_scheduledFor]
      obtain ⟨q, before, rfl⟩ := patchProfile_profile moved found
      have same : Announces backend.shows s.scheduledFor q := by
        refine (all i q before).elsewhere ?_
        intro id drafted
        obtain ⟨planned, other, present, facts⟩ := drafted
        refine ⟨planned, other, ?_, facts⟩
        rw [shows] at present
        rcases Table.get_insert_row present with ⟨rfl, _⟩ | old
        · exact absurd (mirrors.planned _ planned) (Nat.lt_irrefl _)
        · exact old
      split
      · exact same.of_fields rfl rfl rfl
      · exact same
  | scheduled userId creatorId showId hotline opening allowed found draft =>
      obtain ⟨present, owner⟩ := showForCreator_ok found
      intro i p changed
      simp only [onShowScheduled, patchProfile_backend, patchProfile_scheduledFor]
      obtain ⟨q, before, rfl⟩ := patchProfile_profile (mirrors.rescheduled present opening) changed
      split
      · rename_i own
        intro offline drafted
        cases opening with
        | some time => exact Option.some_ne_none time
        | none =>
            obtain ⟨id, drafted⟩ := drafted
            rcases drafted_reschedule drafted with ⟨_, planned⟩ | ⟨apart, drafted⟩
            · exact absurd rfl planned
            · have located := profileForUser_of_get mirrors.one before
              rw [own] at located
              exact absurd (own ▸ drafted)
                (guarded creatorId hotline i q allowed found draft located offline id apart)
      · rename_i other
        refine (all i q before).elsewhere ?_
        intro id drafted
        rcases drafted_reschedule drafted with ⟨rfl, _⟩ | ⟨_, drafted⟩
        · obtain ⟨_, s', located, own, _⟩ := drafted
          obtain rfl := Option.some.inj (present.symm.trans located)
          exact absurd (own.symm.trans owner) other
        · exact drafted
  | started userId creatorId showId hotline backend allowed found draft alone users shows =>
      have same := onShowLive_same ctx.now { s with backend } creatorId showId
      have moved := mirrors.showMoved users shows fun _ => rfl
      intro i p located
      rw [same.1, same.2.1]
      obtain ⟨q, last, before, rfl⟩ := onShowLive_profile moved located
      split
      · exact fun offline => by cases offline
      · refine (all i q before).elsewhere ?_
        intro id drafted
        rw [shows] at drafted
        exact (drafted_patch (by intro s same; cases same) drafted).2
  | finished userId creatorId showId hotline backend allowed found live users shows =>
      have moved := mirrors.showMoved users shows fun _ => rfl
      intro i p located
      simp only [onShowEnded, patchProfile_backend, patchProfile_scheduledFor]
      obtain ⟨q, before, rfl⟩ := patchProfile_profile moved located
      have drafts (id : ShowId) (userId : UserId)
          (drafted : Drafted backend.shows s.scheduledFor userId id) :
          Drafted s.backend.shows s.scheduledFor userId id := by
        rw [shows] at drafted
        exact (drafted_patch (by intro s same; cases same) drafted).2
      split
      · rename_i own
        intro _ drafted silent
        obtain ⟨id, drafted⟩ := drafted
        have located := profileForUser_of_get mirrors.one before
        rw [own] at located
        have silent : q.nextHotlineAt = none := by
          split at silent <;> exact silent
        have drafted : Drafted backend.shows s.scheduledFor creatorId id := by
          split at drafted
          · exact own ▸ drafted
          · exact own ▸ drafted
        exact guarded creatorId hotline i q allowed found live located silent id
          (drafts id creatorId drafted)
      · exact (all i q before).elsewhere fun id => drafts id _
  | saved userId args creatorId id profile rateLimits allowed found =>
      exact all.patched (fun _ => rfl) (fun _ => rfl) fun _ => rfl
  | avatarSaved userId args creatorId id profile rateLimits files url allowed found removed =>
      exact all.patched (fun _ => rfl) (fun _ => rfl) fun _ => rfl
  | uploaded file => exact all
  | discarded id call avatarCalls called rejected unowned => exact all
  | attached id call avatarCalls called accepted creatorId profileId profile files allowed found
      unclaimed removed =>
      exact all.patched (fun _ => rfl) (fun _ => rfl) fun _ => rfl

end Site.AllAnnounce

namespace Site

theorem schedule_clears {now : Time} {s : Site} {userId : Option UserId} {showId : ShowId}
    {creatorId : UserId} {hotline : Show}
    (allowed : requireCreatorId s.backend userId = .ok creatorId)
    (found : showForCreator s.backend showId creatorId = .ok hotline)
    (draft : hotline.status = .created) : s.schedule now userId showId none =
      .ok ({ s with scheduledFor := fun id => if id = showId then none else s.scheduledFor id
           }.onShowScheduled creatorId none, ()) := by
  simp [schedule, allowed, found, draft, Except.mapError, bind, Except.bind]

theorem endShow_ends (ctx : Ctx) {db : DB} {userId : Option UserId} {showId : ShowId}
    {creatorId : UserId} {hotline : Show} (allowed : requireCreatorId db userId = .ok creatorId)
    (found : showForCreator db showId creatorId = .ok hotline) (live : hotline.status = .live) :
    ∃ after, endShow ctx db userId showId = .ok (after, ()) := by
  simp only [endShow, allowed, found, live, bind, Except.bind, reduceCtorEq, ne_eq,
    not_true_eq_false, if_false]
  split
  · exact ⟨_, rfl⟩
  · split
    · rename_i connectable
      rw [applyTransition_allowed ctx _ _ (connectable_ends connectable)]
      exact ⟨_, rfl⟩
    · exact ⟨_, rfl⟩

theorem finish_ends (ctx : Ctx) {s : Site} {userId : Option UserId} {showId : ShowId}
    {creatorId : UserId} {hotline : Show}
    (allowed : requireCreatorId s.backend userId = .ok creatorId)
    (found : showForCreator s.backend showId creatorId = .ok hotline)
    (live : hotline.status = .live) : ∃ backend : DB, backend.users = s.backend.users ∧
      (backend.shows = s.backend.shows.patch showId fun s =>
        { s with status := .ended, endedAt := some ctx.now }) ∧
      s.finish ctx userId showId = .ok ({ s with backend }.onShowEnded creatorId showId, ()) := by
  obtain ⟨backend, ended⟩ := endShow_ends ctx allowed found live
  obtain ⟨_, users, shows⟩ := endShow_ok allowed found ended (by simp [live])
  refine ⟨backend, users, shows, ?_⟩
  simp [finish, allowed, found, ended, live, Except.mapError, bind, Except.bind]

/-- The guard asks no more than the announcement does. -/
theorem keepsAnnounced_of_after {web : Web} {s : Site} (mirrors : s.Mirrors) {ctx : Ctx}
    {op : SiteOp} (all : (s.step web (ctx, op)).AllAnnounce) : s.keepsAnnounced (ctx, op) := by
  cases op with
  | schedule userId showId opening =>
      cases opening with
      | some => trivial
      | none =>
          intro creatorId hotline id p allowed found draft located offline other apart drafted
          obtain ⟨present, owner⟩ := showForCreator_ok found
          obtain ⟨profile, own⟩ := profileForUser_get located
          have moved := mirrors.rescheduled present none
          change (s.commit (s.schedule ctx.now userId showId none)).AllAnnounce at all
          rw [schedule_clears allowed found draft] at all
          refine all id { p with nextHotlineAt := none } ?_ offline ⟨other, ?_⟩ rfl
          · exact get_patchProfile_own moved profile own fun p => { p with nextHotlineAt := none }
          · obtain ⟨planned, hotline', kept, facts⟩ := drafted
            refine ⟨?_, hotline', ?_, by rw [own]; exact facts⟩
            · simpa [commit, onShowScheduled, apart] using planned
            · simpa [commit, onShowScheduled] using kept
  | finish userId showId =>
      intro creatorId hotline id p allowed found live located silent other drafted
      obtain ⟨present, owner⟩ := showForCreator_ok found
      obtain ⟨profile, own⟩ := profileForUser_get located
      obtain ⟨backend, users, shows, ended⟩ := finish_ends ctx allowed found live
      have moved := mirrors.showMoved users shows fun _ => rfl
      have showing := ((mirrors.each id p profile).shown showId hotline present
        (owner.trans own.symm) live).2.1
      change (s.commit (s.finish ctx userId showId)).AllAnnounce at all
      rw [ended] at all
      refine all id { p with isLive := false, liveShowId := none, liveStartedAt := none } ?_ rfl
        ⟨other, ?_⟩ silent
      · have written := get_patchProfile_own moved profile own fun p =>
          if p.liveShowId = some showId then
            { p with isLive := false, liveShowId := none, liveStartedAt := none } else p
        rw [if_pos showing] at written
        exact written
      · obtain ⟨planned, hotline', kept, owner', draft⟩ := drafted
        have apart : other ≠ showId := by
          rintro rfl
          obtain rfl := Option.some.inj (present.symm.trans kept)
          rw [live] at draft
          cases draft
        refine ⟨?_, hotline', ?_, by rw [own]; exact owner', draft⟩
        · simpa [commit, onShowEnded] using planned
        · simp only [commit, onShowEnded, patchProfile_backend, shows]
          exact (Table.get_patch_of_ne apart _ _).trans kept
  | _ => trivial

theorem empty_mirrors : empty.Mirrors := by
  refine ⟨⟨?_, ?_, ?_, fun _ planned => absurd rfl planned⟩, ?_⟩
  · intro i j p q found
    cases found
  · intro i p found
    cases found
  · intro id hotline found
    cases found
  · intro i p found
    cases found

theorem empty_announces : empty.AllAnnounce := by
  intro i p found
  cases found

theorem step_mirrors (web : Web) {s : Site} (mirrors : s.Mirrors) (input : Ctx × SiteOp) :
    (s.step web input).Mirrors :=
  mirrors.change (step_change web s input.1 input.2)

theorem reached_mirrors (web : Web) (inputs : List (Ctx × SiteOp)) :
    (run (step web) empty inputs).Mirrors :=
  Reachable.induct ⟨inputs, rfl⟩ Mirrors empty_mirrors
    fun _ input mirrors => step_mirrors web mirrors input

/-- A step keeps drafts announced exactly when it meets the guard. -/
theorem keepsAnnounced_iff (web : Web) {s : Site} (mirrors : s.Mirrors) (all : s.AllAnnounce)
    (input : Ctx × SiteOp) : s.keepsAnnounced input ↔ (s.step web input).AllAnnounce :=
  ⟨all.change mirrors (step_change web s input.1 input.2), keepsAnnounced_of_after mirrors⟩

/-- All a profile has to say of its creator's shows. -/
def ProfilesMirror (s : Site) : Prop :=
  ∀ id p, s.profiles.get id = some p → Mirrored s.backend.shows s.scheduledFor p ∧
    Announces s.backend.shows s.scheduledFor p

/-- In any run a profile says which show of its creator is live and announces openings of
drafts only. It mirrors the shows all along exactly when no schedule is cleared, and no show
ends, over another draft that stays scheduled without an announcement. -/
theorem profile_mirrors_shows (web : Web) (inputs : List (Ctx × SiteOp)) :
    (∀ id p, (run (step web) empty inputs).profiles.get id = some p →
      Mirrored (run (step web) empty inputs).backend.shows
        (run (step web) empty inputs).scheduledFor p) ∧
    (Along (step web) keepsAnnounced empty inputs ↔
      ∀ front back, front ++ back = inputs → (run (step web) empty front).ProfilesMirror) := by
  refine ⟨(reached_mirrors web inputs).each, ?_⟩
  rw [along_iff_prefixes Mirrors AllAnnounce
    (fun _ input mirrors => step_mirrors web mirrors input)
    (fun _ input mirrors all => keepsAnnounced_iff web mirrors all input) empty_mirrors
    empty_announces]
  constructor
  · intro all front back whole id p found
    exact ⟨(reached_mirrors web front).each id p found, all front back whole id p found⟩
  · intro all front back whole id p found
    exact (all front back whole id p found).2

def sampleWeb : Web := ⟨fun _ => none, fun id => [id]⟩

def sampleCtx (now : Time) : Ctx := ⟨now, ⟨none, false, none, none, "usd"⟩⟩

/-- Two drafts, of which the first is scheduled and the second one's schedule is cleared. -/
def clearedRun : List (Ctx × SiteOp) :=
  [.signUp (some [97]), .create (some 0), .create (some 0), .schedule (some 0) 0 (some 3600000),
    .schedule (some 0) 1 none].map fun op => (sampleCtx 0, op)

set_option maxRecDepth 20000 in
/-- Clearing one draft's schedule also takes back the announcement of the other. -/
theorem cleared_schedule_forgets :
    ¬ ∀ web inputs, (run (step web) empty inputs).ProfilesMirror := by
  intro all
  have silent : ((run (step sampleWeb) empty clearedRun).profiles.get 0).map
      (fun p => (p.userId, p.isLive, p.nextHotlineAt)) = some (0, false, none) := by decide
  obtain ⟨p, found, fields⟩ := Option.map_eq_some_iff.mp silent
  simp only [Prod.mk.injEq] at fields
  obtain ⟨user, offline, next⟩ := fields
  refine (all sampleWeb clearedRun 0 p found).2 offline ⟨0, ?_, ?_⟩ next
  · decide
  · refine ⟨⟨0, .created, none, none⟩, ?_, user.symm, rfl⟩
    decide

end Site

end Bling
