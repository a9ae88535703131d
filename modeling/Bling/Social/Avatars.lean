import Bling.Social.Mirror

set_option autoImplicit false

namespace Bling

open Library

/-! Avatar files: whose they are, and that they are there. -/

/-- Who makes the call of a step. -/
def SiteOp.caller (s : Site) : SiteOp → Option UserId
  | .create userId | .schedule userId .. | .start userId _ | .finish userId _ | .save userId _
  | .replaceTiers _ userId .. | .setAvatar userId _ => userId
  | .runSetAvatar id => (s.avatarCalls.get id).bind AvatarCall.userId
  | _ => none

namespace Site

/-- No file is attached to two profiles. -/
def AvatarsApart (profiles : Table CreatorProfile) : Prop :=
  ∀ i j p q storageId, profiles.get i = some p → profiles.get j = some q →
    p.avatarStorageId = some storageId → q.avatarStorageId = some storageId → i = j

/-- Every avatar's file is in storage. -/
def AvatarsStored (s : Site) : Prop :=
  ∀ i p storageId, s.profiles.get i = some p → p.avatarStorageId = some storageId →
    s.files.get storageId ≠ none

/-- No call deletes a file attached to the profile of another user. -/
def SparesOthers (web : Web) (s : Site) : Prop :=
  ∀ input i p storageId, s.profiles.get i = some p → p.avatarStorageId = some storageId →
    s.files.get storageId ≠ none → input.2.caller s ≠ some p.userId →
    (s.step web input).files.get storageId ≠ none

/-- An avatar is attached while its file is in storage. -/
def attachesStored (s : Site) : Ctx × SiteOp → Prop
  | (_, .runSetAvatar id) => ∀ call creatorId profileId profile,
    s.avatarCalls.get id = some call → call.accepted = true →
    requireCreatorId s.backend call.userId = .ok creatorId →
    s.profileForUser creatorId = some (profileId, profile) →
    (∀ owner, s.avatarOwner call.storageId = some owner → owner.1 = profileId) →
    s.files.get call.storageId ≠ none
  | _ => True

variable {ctx : Ctx} {s after : Site} {op : SiteOp}

theorem Removed.get_ne {before after : Table StoredFile} {old : Option StorageId}
    (removed : Removed before after old) {id : StorageId} (there : before.get id ≠ none)
    (other : old ≠ some id) : after.get id ≠ none := by
  cases old with
  | none =>
      rw [show after = before from removed]
      exact there
  | some gone =>
      obtain ⟨_, rfl⟩ := removed
      have apart : id ≠ gone := fun same => other (congrArg some same.symm)
      rw [Table.get_delete, if_neg apart]
      exact there

theorem patch_origin {profiles : Table CreatorProfile} {id i : Nat}
    {f : CreatorProfile → CreatorProfile} {p : CreatorProfile}
    (found : (profiles.patch id f).get i = some p) :
    ∃ q, profiles.get i = some q ∧ (p = q ∨ i = id ∧ p = f q) := by
  rw [Table.get_patch] at found
  split at found
  · rename_i same
    obtain ⟨q, before, rfl⟩ := Option.map_eq_some_iff.mp found
    exact ⟨q, before, Or.inr ⟨same, rfl⟩⟩
  · exact ⟨p, found, Or.inl rfl⟩

/-- The call a step attaches the file of, for the profile at `i`. -/
def Attaches (s : Site) (op : SiteOp) (i : Nat) (storageId : StorageId) : Prop :=
  ∃ id call creatorId profile, op = .runSetAvatar id ∧ s.avatarCalls.get id = some call ∧
    call.accepted = true ∧ call.storageId = storageId ∧
    requireCreatorId s.backend call.userId = .ok creatorId ∧
    s.profileForUser creatorId = some (i, profile) ∧
    ∀ owner, s.avatarOwner storageId = some owner → owner.1 = i

theorem avatar_origin (registered : Registered s) (change : SiteChange ctx s op after) {i : Nat}
    {p : CreatorProfile} {storageId : StorageId} (found : after.profiles.get i = some p)
    (avatar : p.avatarStorageId = some storageId) :
    (∃ q, s.profiles.get i = some q ∧ q.avatarStorageId = some storageId) ∨
      Attaches s op i storageId := by
  have own {creatorId : UserId} {f : CreatorProfile → CreatorProfile} {t : Site}
      (registered : Registered t) (same : t.profiles = s.profiles)
      (keeps : ∀ p, (f p).avatarStorageId = p.avatarStorageId)
      (found : (t.patchProfile creatorId f).profiles.get i = some p) :
      ∃ q, s.profiles.get i = some q ∧ q.avatarStorageId = some storageId := by
    obtain ⟨q, before, rfl⟩ := patchProfile_profile registered found
    rw [same] at before
    refine ⟨q, before, ?_⟩
    split at avatar
    · exact (keeps q).symm.trans avatar
    · exact avatar
  cases change with
  | quiet | signedUp | uploaded | discarded => exact Or.inl ⟨p, found, avatar⟩
  | profileAdded username name backend user users shows =>
      rcases Table.get_insert_row found with ⟨_, rfl⟩ | before
      · cases avatar
      · exact Or.inl ⟨p, before, avatar⟩
  | created userId creatorId backend hotline allowed owner draft users shows =>
      have known := owner ▸ (requireCreatorId_ok allowed).2
      refine Or.inl (own (registered.showAdded known users shows) rfl ?_ found)
      exact fun _ => rfl
  | scheduled userId creatorId showId hotline opening allowed shown draft =>
      have moved := registered.rescheduled (showForCreator_ok shown).1 opening
      refine Or.inl (own moved rfl ?_ found)
      exact fun _ => rfl
  | started userId creatorId showId hotline backend allowed shown draft alone users shows =>
      have moved := registered.showMoved users shows fun _ => rfl
      obtain ⟨q, last, before, rfl⟩ := onShowLive_profile moved found
      refine Or.inl ⟨q, before, ?_⟩
      split at avatar <;> exact avatar
  | finished userId creatorId showId hotline backend allowed shown live users shows =>
      have moved := registered.showMoved users shows fun _ => rfl
      refine Or.inl (own moved rfl ?_ found)
      intro q
      split <;> rfl
  | saved userId args creatorId id profile rateLimits allowed located =>
      obtain ⟨q, before, rfl | ⟨rfl, rfl⟩⟩ := patch_origin found
      · exact Or.inl ⟨p, before, avatar⟩
      · exact Or.inl ⟨q, before, avatar⟩
  | avatarSaved userId args creatorId id profile rateLimits files url allowed located removed =>
      obtain ⟨q, before, rfl | ⟨rfl, rfl⟩⟩ := patch_origin found
      · exact Or.inl ⟨p, before, avatar⟩
      · cases avatar
  | attached id call avatarCalls called accepted creatorId profileId profile files allowed located
      unclaimed removed =>
      obtain ⟨q, before, rfl | ⟨rfl, rfl⟩⟩ := patch_origin found
      · exact Or.inl ⟨p, before, avatar⟩
      · obtain rfl := Option.some.inj avatar
        exact Or.inr ⟨id, call, creatorId, profile, rfl, called, accepted, rfl, allowed, located,
          unclaimed⟩

/-- A file that goes was unattached, or its own user let go of it. -/
theorem file_gone (change : SiteChange ctx s op after)
    {storageId : StorageId} (there : s.files.get storageId ≠ none) :
    after.files.get storageId ≠ none ∨
      (s.avatarOwner storageId = none ∧ ∀ i, ¬ Attaches s op i storageId) ∨
      ∃ i profile, s.profiles.get i = some profile ∧ op.caller s = some profile.userId ∧
        profile.avatarStorageId = some storageId ∧
        ∀ p, after.profiles.get i = some p → p.avatarStorageId ≠ some storageId := by
  cases change with
  | quiet | signedUp | profileAdded | saved => exact Or.inl there
  | created | scheduled | finished =>
      refine Or.inl ?_
      simp only [onShowCreated, onShowScheduled, onShowEnded, patchProfile_files]
      exact there
  | started =>
      refine Or.inl ?_
      rw [(onShowLive_same _ _ _ _).2.2]
      exact there
  | uploaded file =>
      refine Or.inl ?_
      obtain ⟨kept, found⟩ := Option.ne_none_iff_exists'.mp there
      simp only [Table.get_insert_of_some found]
      exact Option.some_ne_none kept
  | discarded id call avatarCalls called rejected unowned =>
      by_cases same : storageId = call.storageId
      · refine Or.inr (Or.inl ⟨same ▸ unowned, ?_⟩)
        rintro i ⟨id', call', _, _, here, called', accepted, _⟩
        obtain rfl := SiteOp.runSetAvatar.inj here
        obtain rfl := Option.some.inj (called.symm.trans called')
        rw [rejected] at accepted
        cases accepted
      · refine Or.inl ?_
        rw [Table.get_delete, if_neg same]
        exact there
  | avatarSaved userId args creatorId id profile rateLimits files url allowed located removed =>
      obtain ⟨present, rfl⟩ := profileForUser_get located
      by_cases own : profile.avatarStorageId = some storageId
      · refine Or.inr (Or.inr ⟨id, profile, present, (requireCreatorId_ok allowed).1, own, ?_⟩)
        intro p found
        simp only [Table.get_patch_self present] at found
        obtain rfl := Option.some.inj found
        exact Option.some_ne_none storageId |>.symm
      · exact Or.inl (removed.get_ne there own)
  | attached id call avatarCalls called accepted creatorId profileId profile files allowed located
      unclaimed removed =>
      obtain ⟨present, rfl⟩ := profileForUser_get located
      by_cases own : profile.avatarStorageId.filter (· ≠ call.storageId) = some storageId
      · obtain ⟨held, apart⟩ := Option.filter_eq_some_iff.mp own
        refine Or.inr (Or.inr ⟨profileId, profile, present, ?_, held, ?_⟩)
        · simp only [SiteOp.caller, called, Option.bind_some]
          exact (requireCreatorId_ok allowed).1
        · intro p found same
          simp only [Table.get_patch_self present] at found
          obtain rfl := Option.some.inj found
          simp_all
      · exact Or.inl (removed.get_ne there own)

theorem avatarOwner_of_get {i : Nat} {p : CreatorProfile} {storageId : StorageId}
    (found : s.profiles.get i = some p) (avatar : p.avatarStorageId = some storageId) :
    ∃ j q, s.avatarOwner storageId = some (j, q) ∧ s.profiles.get j = some q ∧
      q.avatarStorageId = some storageId := by
  have matched : (p.avatarStorageId == some storageId) = true := by simpa using avatar
  obtain ⟨j, q, first, present, same⟩ := Table.exists_first
    (p := fun p : CreatorProfile => p.avatarStorageId == some storageId) found matched
  exact ⟨j, q, first, present, by simpa using same⟩

theorem apart_change (registered : Registered s) (apart : AvatarsApart s.profiles)
    (change : SiteChange ctx s op after) : AvatarsApart after.profiles := by
  have claimed {i j : Nat} {p : CreatorProfile} {storageId : StorageId}
      (found : s.profiles.get i = some p) (avatar : p.avatarStorageId = some storageId)
      (unclaimed : ∀ owner, s.avatarOwner storageId = some owner → owner.1 = j) : i = j := by
    obtain ⟨k, q, first, present, same⟩ := avatarOwner_of_get found avatar
    rw [← unclaimed (k, q) first]
    exact apart i k p q storageId found present avatar same
  intro i j p q storageId first second here there
  rcases avatar_origin registered change first here with ⟨p', before, held⟩ | attaches
  · rcases avatar_origin registered change second there with ⟨q', before', held'⟩ | attaches'
    · exact apart i j p' q' storageId before before' held held'
    · obtain ⟨_, _, _, _, _, _, _, _, _, _, unclaimed⟩ := attaches'
      exact claimed before held unclaimed
  · obtain ⟨id, call, creatorId, profile, rfl, called, _, _, allowed, located, unclaimed⟩ :=
      attaches
    rcases avatar_origin registered change second there with ⟨q', before', held'⟩ | attaches'
    · exact (claimed before' held' unclaimed).symm
    · obtain ⟨id', call', creatorId', profile', same, called', _, _, allowed', located', _⟩ :=
        attaches'
      obtain rfl := SiteOp.runSetAvatar.inj same
      obtain rfl := Option.some.inj (called.symm.trans called')
      obtain rfl := Except.ok.inj (allowed.symm.trans allowed')
      exact (Prod.mk.inj (Option.some.inj (located.symm.trans located'))).1

theorem stored_change (registered : Registered s) (apart : AvatarsApart s.profiles)
    (stored : s.AvatarsStored) (change : SiteChange ctx s op after)
    (guarded : s.attachesStored (ctx, op)) : after.AvatarsStored := by
  intro i p storageId found avatar
  have there : s.files.get storageId ≠ none := by
    rcases avatar_origin registered change found avatar with ⟨q, before, held⟩ | attaches
    · exact stored i q storageId before held
    · obtain ⟨id, call, creatorId, profile, rfl, called, accepted, rfl, allowed, located,
        unclaimed⟩ := attaches
      exact guarded call creatorId i profile called accepted allowed located unclaimed
  rcases file_gone change there with kept | ⟨unowned, loose⟩ |
    ⟨j, profile, present, _, held, gone⟩
  · exact kept
  · rcases avatar_origin registered change found avatar with ⟨q, before, held⟩ | attaches
    · obtain ⟨j, r, first, _⟩ := avatarOwner_of_get before held
      rw [unowned] at first
      cases first
    · exact absurd attaches (loose i)
  · have same : j = i := by
      rcases avatar_origin registered change found avatar with ⟨q, before, held'⟩ | attaches
      · exact apart j i profile q storageId present before held held'
      · obtain ⟨_, _, _, _, _, _, _, _, _, _, unclaimed⟩ := attaches
        obtain ⟨k, q, first, present', held'⟩ := avatarOwner_of_get present held
        rw [← unclaimed (k, q) first]
        exact apart j k profile q storageId present present' held held'
    exact absurd avatar (gone p (same ▸ found))

theorem removeFile_stored {t : Site} (old : Option StorageId)
    (there : ∀ id, old = some id → t.files.get id ≠ none) :
    ∃ files, Removed t.files files old ∧ t.removeFile old = .ok { t with files } := by
  cases old with
  | none => exact ⟨t.files, rfl, rfl⟩
  | some id =>
      obtain ⟨file, found⟩ := Option.ne_none_iff_exists'.mp (there id rfl)
      refine ⟨t.files.delete id, ⟨there id rfl, rfl⟩, ?_⟩
      simp [removeFile, deleteFile, found]

theorem Removed.get_none {before after : Table StoredFile} {old : Option StorageId}
    (removed : Removed before after old) {id : StorageId} (missing : before.get id = none) :
    after.get id = none := by
  cases old with
  | none =>
      rw [show after = before from removed]
      exact missing
  | some gone =>
      obtain ⟨_, rfl⟩ := removed
      rw [Table.get_delete, missing, ite_self]

/-- An attachment that passes its checks goes through, wherever its file is. -/
theorem attachAvatar_attaches {t : Site} {userId : Option UserId} {creatorId : UserId}
    {profileId : Nat} {profile : CreatorProfile} {storageId : StorageId}
    (allowed : requireCreatorId t.backend userId = .ok creatorId)
    (located : t.profileForUser creatorId = some (profileId, profile))
    (unclaimed : ∀ owner, t.avatarOwner storageId = some owner → owner.1 = profileId)
    (there : ∀ id, profile.avatarStorageId = some id → t.files.get id ≠ none) :
    ∃ files, Removed t.files files (profile.avatarStorageId.filter (· ≠ storageId)) ∧
      t.attachAvatar userId storageId = .ok ({ t with
        files
        profiles := t.profiles.patch profileId fun p =>
          { p with avatarStorageId := some storageId, avatarUrl := [] } }, ()) := by
  obtain ⟨files, removed, ok⟩ := removeFile_stored (t := t)
    (profile.avatarStorageId.filter (· ≠ storageId)) fun id kept =>
      there id (Option.filter_eq_some_iff.mp kept).1
  have owned : ((t.avatarOwner storageId).any fun owner => owner.1 ≠ profileId) = false := by
    cases first : t.avatarOwner storageId with
    | none => rfl
    | some owner => simp [unclaimed owner first]
  refine ⟨files, removed, ?_⟩
  simp only [ne_eq, decide_not] at ok owned
  simp [attachAvatar, allowed, located, owned, ok, Except.mapError, bind, Except.bind]

/-- The guard asks no more than the files being there. -/
theorem attachesStored_of_after {web : Web} (stored : s.AvatarsStored) {ctx : Ctx}
    (after : (s.step web (ctx, op)).AvatarsStored) : s.attachesStored (ctx, op) := by
  cases op with
  | runSetAvatar id =>
      intro call creatorId profileId profile called accepted allowed located unclaimed missing
      obtain ⟨present, _⟩ := profileForUser_get located
      let left : Site := { s with avatarCalls := s.avatarCalls.delete id }
      obtain ⟨files, removed, ok⟩ := attachAvatar_attaches (t := left) allowed located unclaimed
        fun id held => stored profileId profile id present held
      have ran : s.step web (ctx, .runSetAvatar id) =
          left.commit (left.attachAvatar call.userId call.storageId) := by
        simp only [step, called, runSetAvatar, accepted, if_true, left]
      rw [ran, ok] at after
      exact after profileId _ call.storageId (Table.get_patch_self present _) rfl
        (removed.get_none missing)
  | _ => trivial

theorem spares_others (web : Web) (apart : AvatarsApart s.profiles) :
    s.SparesOthers web := by
  intro input i p storageId found avatar there stranger
  rcases file_gone (step_change web s input.1 input.2) there with kept | ⟨unowned, _⟩ |
    ⟨j, profile, present, called, held, _⟩
  · exact kept
  · obtain ⟨j, q, first, _⟩ := avatarOwner_of_get found avatar
    rw [unowned] at first
    cases first
  · obtain rfl := apart j i profile p storageId present found held avatar
    obtain rfl := Option.some.inj (present.symm.trans found)
    exact absurd called stranger

/-- What a site always knows of its profiles and avatars. -/
structure Kept (s : Site) : Prop extends Registered s where
  apart : AvatarsApart s.profiles

theorem step_kept (web : Web) (kept : s.Kept) (input : Ctx × SiteOp) :
    (s.step web input).Kept :=
  have change := step_change web s input.1 input.2
  ⟨kept.toRegistered.change change, apart_change kept.toRegistered kept.apart change⟩

theorem empty_kept : empty.Kept := by
  refine ⟨empty_mirrors.toRegistered, ?_⟩
  intro i j p q storageId found
  cases found

theorem reached_kept (web : Web) (inputs : List (Ctx × SiteOp)) :
    (run (step web) empty inputs).Kept :=
  Reachable.induct ⟨inputs, rfl⟩ Kept empty_kept fun _ input kept => step_kept web kept input

/-- A profile's avatar is its own file, which is there, and no other user's call deletes it. -/
structure AvatarsSound (web : Web) (s : Site) : Prop where
  stored : s.AvatarsStored
  apart : AvatarsApart s.profiles
  spares : s.SparesOthers web

/-- In any run no file is attached to two profiles and no call deletes another user's avatar.
Avatars are in storage all along exactly when every one is attached while it is there. -/
theorem avatars_kept (web : Web) (inputs : List (Ctx × SiteOp)) :
    (AvatarsApart (run (step web) empty inputs).profiles ∧
      (run (step web) empty inputs).SparesOthers web) ∧
    (Along (step web) attachesStored empty inputs ↔
      ∀ front back, front ++ back = inputs → (run (step web) empty front).AvatarsSound web) := by
  have sound (inputs : List (Ctx × SiteOp)) :
      AvatarsApart (run (step web) empty inputs).profiles ∧
        (run (step web) empty inputs).SparesOthers web := by
    have kept := reached_kept web inputs
    exact ⟨kept.apart, spares_others web kept.apart⟩
  refine ⟨sound inputs, ?_⟩
  have nothing : empty.AvatarsStored := by
    intro i p storageId found
    cases found
  rw [along_iff_prefixes Kept AvatarsStored (fun _ input kept => step_kept web kept input)
    (fun s input kept stored => ⟨stored_change kept.toRegistered kept.apart stored
      (step_change web s input.1 input.2), attachesStored_of_after stored⟩) empty_kept nothing]
  constructor
  · intro all front back whole
    exact ⟨all front back whole, (sound front).1, (sound front).2⟩
  · intro all front back whole
    exact (all front back whole).stored

/-- A picture set as an avatar by two calls at once, and removed between them. -/
def twiceSetRun : List (Ctx × SiteOp) :=
  [.signUp (some [97]), .upload ⟨12, [0xff, 0xd8, 0xff]⟩, .setAvatar (some 0) 0,
    .setAvatar (some 0) 0, .runSetAvatar 0, .save (some 0) ⟨[97], [], some [], [], true, none⟩,
    .runSetAvatar 1].map fun op => (sampleCtx 0, op)

set_option maxRecDepth 20000 in
/-- The second call attaches a file that is gone. -/
theorem twice_set_avatar_gone : ¬ ∀ web inputs, (run (step web) empty inputs).AvatarsSound web := by
  intro all
  have attached : ((run (step sampleWeb) empty twiceSetRun).profiles.get 0).map
      CreatorProfile.avatarStorageId = some (some 0) := by decide
  obtain ⟨p, found, avatar⟩ := Option.map_eq_some_iff.mp attached
  have gone : (run (step sampleWeb) empty twiceSetRun).files.get 0 = none := by decide
  exact (all sampleWeb twiceSetRun).stored 0 p 0 found avatar gone

end Site

end Bling
