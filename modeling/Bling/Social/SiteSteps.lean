import Bling.Social.Site
import Bling.Mutations

set_option autoImplicit false

namespace Bling

open Library

/-! What a step of the site can do, with everything its guards have made sure of. -/

theorem mapError_ok {α ε δ : Type} {result : Except ε α} {f : ε → δ} {value : α}
    (accepted : result.mapError f = .ok value) : result = .ok value := by
  cases result with
  | error => cases accepted
  | ok => simpa [Except.mapError] using accepted

theorem requireCreatorId_ok {db : DB} {userId : Option UserId} {creatorId : UserId}
    (allowed : requireCreatorId db userId = .ok creatorId) :
    userId = some creatorId ∧ creatorId < db.users.next := by
  unfold requireCreatorId at allowed
  obtain ⟨id, identified, allowed⟩ := bind_ok allowed
  cases userId with
  | none => cases identified
  | some known =>
      obtain rfl := Except.ok.inj identified
      split at allowed
      · cases allowed
      · rename_i user found
        split at allowed
        · cases allowed
        · obtain rfl := Except.ok.inj allowed
          exact ⟨rfl, Table.get_lt found⟩

theorem signUp_ok {db after : DB} {username : Option Text} {userId : UserId}
    (outcome : Bling.signUp db username = .ok (after, userId)) :
    userId = db.users.next ∧ after.shows = db.shows ∧
      ∃ user, after.users = db.users.insert user := by
  unfold Bling.signUp at outcome
  cases username with
  | none =>
      obtain ⟨rfl, rfl⟩ := Prod.mk.inj (Except.ok.inj outcome)
      exact ⟨rfl, rfl, _, rfl⟩
  | some name =>
      dsimp only at outcome
      split at outcome
      · cases outcome
      · obtain ⟨rfl, rfl⟩ := Prod.mk.inj (Except.ok.inj outcome)
        exact ⟨rfl, rfl, _, rfl⟩

theorem replaceTiers_same (toLowerCase : Text → Text) (db : DB) (userId : Option UserId)
    (showId : ShowId) (tiers : List TierInput) :
    (commit db (replaceTiers toLowerCase db userId showId tiers)).users = db.users ∧
      (commit db (replaceTiers toLowerCase db userId showId tiers)).shows = db.shows := by
  cases outcome : replaceTiers toLowerCase db userId showId tiers with
  | error code => exact ⟨rfl, rfl⟩
  | ok result =>
      unfold replaceTiers at outcome
      obtain ⟨creatorId, _, outcome⟩ := bind_ok outcome
      obtain ⟨hotline, _, outcome⟩ := bind_ok outcome
      split at outcome
      · cases outcome
      · split at outcome
        · cases outcome
        · split at outcome
          · cases outcome
          · split at outcome
            · cases outcome
            · obtain rfl := Except.ok.inj outcome
              exact ⟨rfl, rfl⟩

theorem createShow_ok {db after : DB} {userId : Option UserId} {showId : ShowId}
    (outcome : createShow db userId = .ok (after, showId)) :
    ∃ creatorId, requireCreatorId db userId = .ok creatorId ∧ after.users = db.users ∧
      after.shows = db.shows.insert
        { creatorId, status := .created, startedAt := none, endedAt := none } := by
  unfold createShow at outcome
  obtain ⟨creatorId, allowed, outcome⟩ := bind_ok outcome
  obtain ⟨rfl, rfl⟩ := Prod.mk.inj (Except.ok.inj outcome)
  exact ⟨creatorId, allowed, rfl, rfl⟩

/-- A show starts from a draft, while no other show of its creator is live. -/
theorem startShow_ok {ctx : Ctx} {db after : DB} {userId : Option UserId} {showId : ShowId}
    {creatorId : UserId} {hotline : Show} (allowed : requireCreatorId db userId = .ok creatorId)
    (found : showForCreator db showId creatorId = .ok hotline)
    (outcome : startShow ctx db userId showId = .ok (after, ()))
    (unstarted : hotline.status ≠ .live) :
    hotline.status = .created ∧ after.users = db.users ∧
      (∀ id other, db.shows.get id = some other → other.creatorId = creatorId →
        other.status ≠ .live) ∧
      after.shows = db.shows.patch showId fun s =>
        { s with status := .live, startedAt := some ctx.now } := by
  unfold startShow at outcome
  obtain ⟨creator, same, outcome⟩ := bind_ok outcome
  obtain rfl := Except.ok.inj (same.symm.trans allowed)
  obtain ⟨host, same, outcome⟩ := bind_ok outcome
  obtain rfl := Except.ok.inj (same.symm.trans found)
  rw [if_neg unstarted] at outcome
  split at outcome
  · cases outcome
  · rename_i draft
    dsimp only at outcome
    split at outcome
    · cases outcome
    · split at outcome
      · cases outcome
      · split at outcome
        · cases outcome
        · rename_i alone
          obtain ⟨rfl, _⟩ := Prod.mk.inj (Except.ok.inj outcome)
          refine ⟨not_not.mp draft, rfl, ?_, rfl⟩
          intro id other located owned
          have unmatched := Table.first_none (Option.not_isSome_iff_eq_none.mp alone) located
          simpa [owned] using unmatched

theorem applyTransition_same {ctx : Ctx} {db after : DB} {callId : CallId} {call : Call}
    {target : CallStatus} {value : Unit}
    (outcome : applyTransition ctx db callId call target = .ok (after, value)) :
    after.users = db.users ∧ after.shows = db.shows := by
  rcases applyTransition_ok outcome with rfl | ⟨_, rfl⟩
  · exact ⟨rfl, rfl⟩
  · have same := moveCall_same ctx db callId call target
    exact ⟨same.users, same.shows⟩

theorem endShow_ok {ctx : Ctx} {db after : DB} {userId : Option UserId} {showId : ShowId}
    {creatorId : UserId} {hotline : Show} (allowed : requireCreatorId db userId = .ok creatorId)
    (found : showForCreator db showId creatorId = .ok hotline)
    (outcome : endShow ctx db userId showId = .ok (after, ()))
    (unended : hotline.status ≠ .ended) :
    hotline.status = .live ∧ after.users = db.users ∧
      after.shows = db.shows.patch showId fun s =>
        { s with status := .ended, endedAt := some ctx.now } := by
  unfold endShow at outcome
  obtain ⟨creator, same, outcome⟩ := bind_ok outcome
  obtain rfl := Except.ok.inj (same.symm.trans allowed)
  obtain ⟨host, same, outcome⟩ := bind_ok outcome
  obtain rfl := Except.ok.inj (same.symm.trans found)
  rw [if_neg unended] at outcome
  split at outcome
  · cases outcome
  · rename_i live
    dsimp only at outcome
    split at outcome
    · obtain ⟨rfl, _⟩ := Prod.mk.inj (Except.ok.inj outcome)
      exact ⟨not_not.mp live, rfl, rfl⟩
    · split at outcome
      · obtain ⟨before, settled, outcome⟩ := bind_ok outcome
        obtain ⟨rfl, _⟩ := Prod.mk.inj (Except.ok.inj outcome)
        cases moved : applyTransition ctx _ _ _ .ended with
        | error code =>
            rw [moved] at settled
            cases settled
        | ok moves =>
            obtain ⟨backend, value⟩ := moves
            rw [moved] at settled
            obtain rfl := Except.ok.inj settled
            have same := applyTransition_same moved
            exact ⟨not_not.mp live, same.1, same.2⟩
      · obtain ⟨rfl, _⟩ := Prod.mk.inj (Except.ok.inj outcome)
        exact ⟨not_not.mp live, rfl, rfl⟩

namespace Site

/-- The files without the one a profile lets go of, which was there. -/
def Removed (before after : Table StoredFile) : Option StorageId → Prop
  | none => after = before
  | some id => before.get id ≠ none ∧ after = before.delete id

theorem removeFile_ok {s after : Site} {old : Option StorageId}
    (outcome : s.removeFile old = .ok after) :
    ∃ files, Removed s.files files old ∧ after = { s with files } := by
  cases old with
  | none =>
      obtain rfl := Except.ok.inj outcome
      exact ⟨s.files, rfl, rfl⟩
  | some id =>
      simp only [removeFile, deleteFile] at outcome
      split at outcome
      · cases outcome
      · rename_i file present
        obtain rfl := Except.ok.inj outcome
        exact ⟨_, ⟨by simp [present], rfl⟩, rfl⟩

end Site

inductive SiteChange (ctx : Ctx) (s : Site) : SiteOp → Site → Prop
  /-- Also every call that fails, and a start or an end that had happened before. -/
  | quiet (op : SiteOp) (backend : DB) (avatarCalls : Table AvatarCall)
      (users : backend.users = s.backend.users) (shows : backend.shows = s.backend.shows) :
      SiteChange ctx s op { s with backend, avatarCalls }
  | signedUp (username : Option Text) (backend : DB) (user : User)
      (users : backend.users = s.backend.users.insert user)
      (shows : backend.shows = s.backend.shows) :
      SiteChange ctx s (.signUp username) { s with backend }
  | profileAdded (username : Option Text) (name : Text) (backend : DB) (user : User)
      (users : backend.users = s.backend.users.insert user)
      (shows : backend.shows = s.backend.shows) :
      SiteChange ctx s (.signUp username)
        ({ s with backend }.createProfile s.backend.users.next name)
  | created (userId : Option UserId) (creatorId : UserId) (backend : DB) (hotline : Show)
      (allowed : requireCreatorId s.backend userId = .ok creatorId)
      (owner : hotline.creatorId = creatorId) (draft : hotline.status = .created)
      (users : backend.users = s.backend.users)
      (shows : backend.shows = s.backend.shows.insert hotline) :
      SiteChange ctx s (.create userId) ({ s with backend }.onShowCreated creatorId)
  | scheduled (userId : Option UserId) (creatorId : UserId) (showId : ShowId) (hotline : Show)
      (opening : Option Time) (allowed : requireCreatorId s.backend userId = .ok creatorId)
      (found : showForCreator s.backend showId creatorId = .ok hotline)
      (draft : hotline.status = .created) :
      SiteChange ctx s (.schedule userId showId opening)
        ({ s with scheduledFor := fun id => if id = showId then opening else s.scheduledFor id
           }.onShowScheduled creatorId opening)
  | started (userId : Option UserId) (creatorId : UserId) (showId : ShowId) (hotline : Show)
      (backend : DB) (allowed : requireCreatorId s.backend userId = .ok creatorId)
      (found : showForCreator s.backend showId creatorId = .ok hotline)
      (draft : hotline.status = .created)
      (alone : ∀ id other, s.backend.shows.get id = some other → other.creatorId = creatorId →
        other.status ≠ .live)
      (users : backend.users = s.backend.users)
      (shows : backend.shows = s.backend.shows.patch showId fun s =>
        { s with status := .live, startedAt := some ctx.now }) :
      SiteChange ctx s (.start userId showId)
        ({ s with backend }.onShowLive ctx.now creatorId showId)
  | finished (userId : Option UserId) (creatorId : UserId) (showId : ShowId) (hotline : Show)
      (backend : DB) (allowed : requireCreatorId s.backend userId = .ok creatorId)
      (found : showForCreator s.backend showId creatorId = .ok hotline)
      (live : hotline.status = .live) (users : backend.users = s.backend.users)
      (shows : backend.shows = s.backend.shows.patch showId fun s =>
        { s with status := .ended, endedAt := some ctx.now }) :
      SiteChange ctx s (.finish userId showId) ({ s with backend }.onShowEnded creatorId showId)
  | saved (userId : Option UserId) (args : Site.SaveArgs) (creatorId : UserId) (id : Nat)
      (profile : CreatorProfile) (rateLimits : Table RateLimit)
      (allowed : requireCreatorId s.backend userId = .ok creatorId)
      (found : s.profileForUser creatorId = some (id, profile)) :
      SiteChange ctx s (.save userId args)
        { s with rateLimits, profiles := s.profiles.patch id (Site.savePatch args) }
  | avatarSaved (userId : Option UserId) (args : Site.SaveArgs) (creatorId : UserId) (id : Nat)
      (profile : CreatorProfile) (rateLimits : Table RateLimit) (files : Table StoredFile)
      (url : Text) (allowed : requireCreatorId s.backend userId = .ok creatorId)
      (found : s.profileForUser creatorId = some (id, profile))
      (removed : Site.Removed s.files files profile.avatarStorageId) :
      SiteChange ctx s (.save userId args)
        { s with
          rateLimits, files
          profiles := s.profiles.patch id fun p =>
            { Site.savePatch args p with avatarUrl := url, avatarStorageId := none } }
  | uploaded (file : StoredFile) :
      SiteChange ctx s (.upload file) { s with files := s.files.insert file }
  | discarded (id : Nat) (call : AvatarCall) (avatarCalls : Table AvatarCall)
      (called : s.avatarCalls.get id = some call) (rejected : call.accepted = false)
      (unowned : s.avatarOwner call.storageId = none) :
      SiteChange ctx s (.runSetAvatar id)
        { s with avatarCalls, files := s.files.delete call.storageId }
  | attached (id : Nat) (call : AvatarCall) (avatarCalls : Table AvatarCall)
      (called : s.avatarCalls.get id = some call) (accepted : call.accepted = true)
      (creatorId : UserId) (profileId : Nat) (profile : CreatorProfile) (files : Table StoredFile)
      (allowed : requireCreatorId s.backend call.userId = .ok creatorId)
      (found : s.profileForUser creatorId = some (profileId, profile))
      (unclaimed : ∀ owner, s.avatarOwner call.storageId = some owner → owner.1 = profileId)
      (removed : Site.Removed s.files files
        (profile.avatarStorageId.filter (· ≠ call.storageId))) :
      SiteChange ctx s (.runSetAvatar id)
        { s with
          avatarCalls, files
          profiles := s.profiles.patch profileId fun p =>
            { p with avatarStorageId := some call.storageId, avatarUrl := [] } }

namespace Site

theorem quiet_refl {ctx : Ctx} {s : Site} (op : SiteOp) : SiteChange ctx s op s :=
  .quiet op s.backend s.avatarCalls rfl rfl

/-- A mutation that fails is quiet. -/
theorem commit_change {α : Type} {ctx : Ctx} {s : Site} {op : SiteOp}
    {result : Except Failure (Site × α)}
    (committed : ∀ after value, result = .ok (after, value) → SiteChange ctx s op after) :
    SiteChange ctx s op (s.commit result) := by
  cases result with
  | error failure => exact quiet_refl op
  | ok outcome => exact committed outcome.1 outcome.2 rfl

theorem signUp_change (ctx : Ctx) (s : Site) (username : Option Text) :
    SiteChange ctx s (.signUp username) (s.commit (s.signUp username)) := by
  apply commit_change
  intro after value outcome
  unfold signUp at outcome
  obtain ⟨⟨backend, userId⟩, added, outcome⟩ := bind_ok outcome
  obtain ⟨rfl, shows, user, users⟩ := signUp_ok (mapError_ok added)
  dsimp only at outcome
  split at outcome
  · obtain ⟨rfl, _⟩ := Prod.mk.inj (Except.ok.inj outcome)
    exact .signedUp username backend user users shows
  · obtain ⟨rfl, _⟩ := Prod.mk.inj (Except.ok.inj outcome)
    exact .profileAdded username _ backend user users shows

theorem create_change (ctx : Ctx) (s : Site) (userId : Option UserId) :
    SiteChange ctx s (.create userId) (s.commit (s.create userId)) := by
  apply commit_change
  intro after value outcome
  unfold create at outcome
  obtain ⟨creatorId, allowed, outcome⟩ := bind_ok outcome
  obtain ⟨⟨backend, showId⟩, added, outcome⟩ := bind_ok outcome
  obtain ⟨rfl, _⟩ := Prod.mk.inj (Except.ok.inj outcome)
  obtain ⟨creator, same, users, shows⟩ := createShow_ok (mapError_ok added)
  have allowed := mapError_ok allowed
  obtain rfl := Except.ok.inj (same.symm.trans allowed)
  exact .created userId creator backend _ allowed rfl rfl users shows

theorem schedule_change (ctx : Ctx) (s : Site) (userId : Option UserId) (showId : ShowId)
    (opening : Option Time) : SiteChange ctx s (.schedule userId showId opening)
      (s.commit (s.schedule ctx.now userId showId opening)) := by
  apply commit_change
  intro after value outcome
  unfold schedule at outcome
  obtain ⟨creatorId, allowed, outcome⟩ := bind_ok outcome
  obtain ⟨hotline, found, outcome⟩ := bind_ok outcome
  split at outcome
  · cases outcome
  · rename_i draft
    split at outcome
    · cases outcome
    · obtain ⟨rfl, _⟩ := Prod.mk.inj (Except.ok.inj outcome)
      exact .scheduled userId creatorId showId hotline opening (mapError_ok allowed)
        (mapError_ok found) (not_not.mp draft)

theorem start_change (ctx : Ctx) (s : Site) (userId : Option UserId) (showId : ShowId) :
    SiteChange ctx s (.start userId showId) (s.commit (s.start ctx userId showId)) := by
  apply commit_change
  intro after value outcome
  unfold start at outcome
  obtain ⟨creatorId, allowed, outcome⟩ := bind_ok outcome
  obtain ⟨hotline, found, outcome⟩ := bind_ok outcome
  obtain ⟨⟨backend, _⟩, begun, outcome⟩ := bind_ok outcome
  dsimp only at outcome
  split at outcome
  · obtain ⟨rfl, _⟩ := Prod.mk.inj (Except.ok.inj outcome)
    exact quiet_refl _
  · rename_i unstarted
    obtain ⟨rfl, _⟩ := Prod.mk.inj (Except.ok.inj outcome)
    have allowed := mapError_ok allowed
    have found := mapError_ok found
    obtain ⟨draft, users, alone, shows⟩ := startShow_ok allowed found (mapError_ok begun) unstarted
    exact .started userId creatorId showId hotline backend allowed found draft alone users shows

theorem finish_change (ctx : Ctx) (s : Site) (userId : Option UserId) (showId : ShowId) :
    SiteChange ctx s (.finish userId showId) (s.commit (s.finish ctx userId showId)) := by
  apply commit_change
  intro after value outcome
  unfold finish at outcome
  obtain ⟨creatorId, allowed, outcome⟩ := bind_ok outcome
  obtain ⟨hotline, found, outcome⟩ := bind_ok outcome
  obtain ⟨⟨backend, _⟩, closed, outcome⟩ := bind_ok outcome
  dsimp only at outcome
  split at outcome
  · obtain ⟨rfl, _⟩ := Prod.mk.inj (Except.ok.inj outcome)
    exact quiet_refl _
  · rename_i unended
    obtain ⟨rfl, _⟩ := Prod.mk.inj (Except.ok.inj outcome)
    have allowed := mapError_ok allowed
    have found := mapError_ok found
    obtain ⟨live, users, shows⟩ := endShow_ok allowed found (mapError_ok closed) unended
    exact .finished userId creatorId showId hotline backend allowed found live users shows

theorem save_change (web : Web) (ctx : Ctx) (s : Site) (userId : Option UserId) (args : SaveArgs) :
    SiteChange ctx s (.save userId args) (s.commit (s.save web ctx.now userId args)) := by
  apply commit_change
  intro after value outcome
  unfold save at outcome
  obtain ⟨creatorId, allowed, outcome⟩ := bind_ok outcome
  obtain ⟨rateLimits, _, outcome⟩ := bind_ok outcome
  have allowed := mapError_ok allowed
  cases found : s.profileForUser creatorId with
  | none =>
      rw [found] at outcome
      cases outcome
  | some row =>
      obtain ⟨id, profile⟩ := row
      rw [found] at outcome
      dsimp only at outcome
      split at outcome
      · cases outcome
      · split at outcome
        · cases outcome
        · split at outcome
          · cases outcome
          · split at outcome
            · obtain ⟨rfl, _⟩ := Prod.mk.inj (Except.ok.inj outcome)
              exact .saved userId args creatorId id profile rateLimits allowed found
            · split at outcome
              · obtain ⟨rfl, _⟩ := Prod.mk.inj (Except.ok.inj outcome)
                exact .saved userId args creatorId id profile rateLimits allowed found
              · obtain ⟨cleared, gone, outcome⟩ := bind_ok outcome
                obtain ⟨files, removed, rfl⟩ := removeFile_ok gone
                obtain ⟨rfl, _⟩ := Prod.mk.inj (Except.ok.inj outcome)
                exact .avatarSaved userId args creatorId id profile rateLimits files _ allowed
                  found removed

theorem discardUpload_change {ctx : Ctx} {s : Site} {id : Nat} {call : AvatarCall}
    (called : s.avatarCalls.get id = some call) (rejected : call.accepted = false)
    {avatarCalls : Table AvatarCall} {after : Site} {value : Unit}
    (outcome : { s with avatarCalls }.discardUpload call.storageId = .ok (after, value)) :
    SiteChange ctx s (.runSetAvatar id) after := by
  unfold discardUpload at outcome
  split at outcome
  · rename_i loose
    unfold deleteFile at outcome
    split at outcome
    · cases outcome
    · obtain ⟨rfl, _⟩ := Prod.mk.inj (Except.ok.inj outcome)
      exact .discarded id call avatarCalls called rejected (Option.isNone_iff_eq_none.mp loose.1)
  · obtain ⟨rfl, _⟩ := Prod.mk.inj (Except.ok.inj outcome)
    exact .quiet _ s.backend avatarCalls rfl rfl

theorem attachAvatar_change {ctx : Ctx} {s : Site} {id : Nat} {call : AvatarCall}
    (called : s.avatarCalls.get id = some call) (accepted : call.accepted = true)
    {avatarCalls : Table AvatarCall} {after : Site} {value : Unit}
    (outcome : { s with avatarCalls }.attachAvatar call.userId call.storageId =
      .ok (after, value)) : SiteChange ctx s (.runSetAvatar id) after := by
  unfold attachAvatar at outcome
  obtain ⟨creatorId, allowed, outcome⟩ := bind_ok outcome
  split at outcome
  · cases outcome
  · rename_i profileId profile found
    split at outcome
    · cases outcome
    · rename_i unclaimed
      obtain ⟨cleared, gone, outcome⟩ := bind_ok outcome
      obtain ⟨files, removed, rfl⟩ := removeFile_ok gone
      obtain ⟨rfl, _⟩ := Prod.mk.inj (Except.ok.inj outcome)
      refine .attached id call avatarCalls called accepted creatorId profileId profile files
        (mapError_ok allowed) found ?_ removed
      intro owner owns
      by_contra other
      apply unclaimed
      rw [show Site.avatarOwner { s with avatarCalls } call.storageId = some owner from owns]
      simpa using other

theorem runSetAvatar_change {ctx : Ctx} {s : Site} {id : Nat} {call : AvatarCall}
    (called : s.avatarCalls.get id = some call) (avatarCalls : Table AvatarCall) :
    SiteChange ctx s (.runSetAvatar id)
      (commit { s with avatarCalls } (runSetAvatar { s with avatarCalls } call)) := by
  cases outcome : runSetAvatar { s with avatarCalls } call with
  | error failure => exact .quiet _ s.backend avatarCalls rfl rfl
  | ok result =>
      obtain ⟨after, value⟩ := result
      unfold runSetAvatar at outcome
      split at outcome
      · rename_i accepted
        exact attachAvatar_change called accepted outcome
      · rename_i rejected
        exact discardUpload_change called (Bool.eq_false_iff.mpr rejected) outcome

theorem step_change (web : Web) (s : Site) (ctx : Ctx) (op : SiteOp) :
    SiteChange ctx s op (s.step web (ctx, op)) := by
  cases op with
  | signUp username => exact signUp_change ctx s username
  | saveAccount creatorId account =>
      have same := saveAccount_same s.backend creatorId account
      exact .quiet _ _ s.avatarCalls same.users same.shows
  | replaceTiers toLowerCase userId showId tiers =>
      have same := replaceTiers_same toLowerCase s.backend userId showId tiers
      exact .quiet _ _ s.avatarCalls same.1 same.2
  | create userId => exact create_change ctx s userId
  | schedule userId showId opening => exact schedule_change ctx s userId showId opening
  | start userId showId => exact start_change ctx s userId showId
  | finish userId showId => exact finish_change ctx s userId showId
  | save userId args => exact save_change web ctx s userId args
  | upload file => exact .uploaded file
  | setAvatar userId storageId => exact .quiet _ s.backend _ rfl rfl
  | runSetAvatar id =>
      cases called : s.avatarCalls.get id with
      | none =>
          simp only [step, called]
          exact quiet_refl _
      | some call =>
          simp only [step, called]
          exact runSetAvatar_change called _

end Site

end Bling
