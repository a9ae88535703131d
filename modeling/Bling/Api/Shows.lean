import Bling.Api.Bookings
import Bling.Library.Replacement
import Bling.Shows

set_option autoImplicit false

namespace Bling.Api

open Library

/-! Shows and their tiers in the Go API (`show/show.go`, `show/store.go`), with the queue of every
show. A start asks whether its creator can be paid before its transaction looks at the tiers. -/

/-! ### Tiers -/

/-- `unicode.IsSpace`; a name is a list of runes here. -/
def isSpaceRune (rune : Nat) : Bool :=
  (9 ≤ rune && rune ≤ 13) || rune == 32 || rune == 0x85 || rune == 0xa0 || rune == 0x1680 ||
    (0x2000 ≤ rune && rune ≤ 0x200a) || rune == 0x2028 || rune == 0x2029 || rune == 0x202f ||
    rune == 0x205f || rune == 0x3000

def trimSpace (name : Text) : Text :=
  (((name.dropWhile isSpaceRune).reverse).dropWhile isSpaceRune).reverse

/-- The bytes of a rune in UTF-8. -/
def runeBytes (rune : Nat) : Nat :=
  if rune < 0x80 then 1 else if rune < 0x800 then 2 else if rune < 0x10000 then 3 else 4

/-- Go's `len` of a string. -/
def byteLength (name : Text) : Nat := (name.map runeBytes).sum

inductive ShowError where
  | notFound | activeShowExists | invalidTransition | tierConfiguration | showNotConfigurable
  | payoutSetupRequired
  /-- A `CHECK` of `show_tiers`. -/
  | check
  /-- `show_tiers_show_name_case_insensitive_idx`. -/
  | uniqueName
  /-- A row that is to be deleted is referenced (`ON DELETE RESTRICT`). -/
  | referenced
deriving DecidableEq

def accepted (tier : TierInput) : Bool :=
  let name := trimSpace tier.name
  !(decide (byteLength name < 1) || decide (40 < byteLength name) ||
    decide (tier.callDurationSeconds < 30) || decide (3600 < tier.callDurationSeconds) ||
    decide (tier.priceCents < 0) ||
    (decide (0 < tier.priceCents) && decide (tier.priceCents < 50)) ||
    decide (1000000 < tier.priceCents))

/-- The request order is authoritative; clients cannot manufacture rank. -/
def rankedTiers (showId : ShowId) (tiers : List TierInput) : List ShowTier :=
  tiers.mapIdx fun index tier =>
    { showId
      name := trimSpace tier.name
      priorityRank := (tiers.length - index) * 100
      callDurationSeconds := tier.callDurationSeconds.toNat
      priceCents := tier.priceCents.toNat
      enabled := tier.enabled }

/-- The `CHECK` constraints of `show_tiers`. -/
def checks (tier : ShowTier) : Bool :=
  decide (1 ≤ tier.name.length) && decide (tier.name.length ≤ 40) &&
    decide (tier.priorityRank ≤ 1000) && decide (30 ≤ tier.callDurationSeconds) &&
    decide (tier.callDurationSeconds ≤ 3600) && decide (tier.priceCents ≤ 1000000) &&
    (tier.priceCents == 0 || decide (50 ≤ tier.priceCents))

section Names

/-! How names are folded is the runtime's (`toLower`) and the database's (`lower`). -/

variable (toLower lower : Text → Text)

def insertTier (tiers : Table ShowTier) (tier : ShowTier) : Except ShowError (Table ShowTier) :=
  if ¬ checks tier then .error .check
  else if (tiers.first fun t => t.showId == tier.showId && lower t.name == lower tier.name).isSome
    then .error .uniqueName
  else .ok (tiers.insert tier)

def insertTiers : List ShowTier → Table ShowTier → Except ShowError (Table ShowTier)
  | [], tiers => .ok tiers
  | tier :: rest, tiers => do insertTiers rest (← insertTier lower tiers tier)

/-- `PostgresStore.ReplaceTiers`. -/
def storeTiers (db : DB) (showId : ShowId) (creatorId : UserId) (inputs : List TierInput) :
    Except ShowError DB :=
  match db.shows.get showId with
  | none => .error .notFound
  | some hotline =>
    if hotline.creatorId ≠ creatorId then .error .notFound
    else if hotline.status ≠ .created then .error .showNotConfigurable
    else if (db.queueEntries.first fun e => e.showId == showId).isSome ∨
        (db.paymentAttempts.first fun p => p.showId == showId).isSome then .error .referenced
    else do
      let cleared := (db.showTiers.query fun t => t.showId == showId).foldl
        (fun table row => table.delete row.1) db.showTiers
      let showTiers ← insertTiers lower (rankedTiers showId inputs) cleared
      .ok { db with showTiers }

/-- `Service.ReplaceTiers`. -/
def replaceTiers (db : DB) (showId : ShowId) (creatorId : UserId) (inputs : List TierInput) :
    Except ShowError DB :=
  if inputs.length < 1 ∨ 5 < inputs.length then .error .tierConfiguration
  else if ¬ inputs.all accepted ∨
      ¬ (inputs.map fun tier => toLower (trimSpace tier.name)).Nodup then .error .tierConfiguration
  else if ¬ inputs.any TierInput.enabled then .error .tierConfiguration
  else storeTiers lower db showId creatorId inputs

/-! ### Shows -/

/-- The tier every show starts with, called Standard. -/
def defaultTier (showId : ShowId) : ShowTier :=
  { showId
    name := [83, 116, 97, 110, 100, 97, 114, 100]
    priorityRank := 0
    callDurationSeconds := 300
    priceCents := 0
    enabled := true }

def createShow (db : DB) (creatorId : UserId) : Except ShowError DB := do
  let showTiers ← insertTier lower db.showTiers (defaultTier db.shows.next)
  .ok { db with
    shows := db.shows.insert { creatorId, status := .created, startedAt := none, endedAt := none }
    showTiers }

/-- `TiersForCreator`. -/
def tiersForCreator (db : DB) (showId : ShowId) (creatorId : UserId) :
    Except ShowError (List ShowTier) :=
  match db.shows.get showId with
  | none => .error .notFound
  | some hotline =>
    if hotline.creatorId ≠ creatorId then .error .notFound
    else .ok ((db.showTiers.query fun t => t.showId == showId).map Prod.snd)

/-- `PostgresStore.Start`: the tiers are read in the transaction that starts the show. -/
def startShow (now : Time) (db : DB) (showId : ShowId) (creatorId : UserId)
    (payoutsReady : Bool) : Except ShowError DB :=
  match db.shows.get showId with
  | none => .error .notFound
  | some hotline =>
    if hotline.creatorId ≠ creatorId then .error .notFound
    else match hotline.status with
      | .live => .ok db
      | .ended => .error .invalidTransition
      | .created =>
        let enabled := db.showTiers.query fun t => t.showId == showId && t.enabled
        if enabled = [] then .error .tierConfiguration
        else if enabled.any (fun row => decide (0 < row.2.priceCents)) ∧ ¬ payoutsReady then
          .error .payoutSetupRequired
        else if (db.shows.first fun s => s.creatorId == creatorId && s.status == .live).isSome then
          .error .activeShowExists
        else .ok { db with shows := db.shows.patch showId fun s =>
          { s with status := .live, startedAt := some now } }

/-! ### Any interleaving -/

/-- A start between its steps. -/
inductive Starting where
  /-- It has read a paid tier, and is to ask whether the creator can be paid. -/
  | asking (showId : ShowId) (creatorId : UserId)
  /-- It has its answer, and is to start the show. -/
  | committing (showId : ShowId) (creatorId : UserId) (ready : Bool)
deriving DecidableEq

structure Studio where
  state : State
  /-- What `payouts.Ready` answers now. -/
  ready : UserId → Bool
  starting : List Starting

namespace Studio

def empty : Studio := ⟨.opening .empty .empty, fun _ => false, []⟩

inductive Op where
  | create (creatorId : UserId)
  | replaceTiers (showId : ShowId) (creatorId : UserId) (tiers : List TierInput)
  | start (showId : ShowId) (creatorId : UserId)
  | resolve (showId : ShowId) (creatorId : UserId)
  | commit (showId : ShowId) (creatorId : UserId) (ready : Bool)
  | abandon (request : Starting)
  | payouts (creatorId : UserId) (ready : Bool)
  | queue (op : Api.Op)

def db (s : Studio) : DB := s.state.db

def save (s : Studio) : Except ShowError DB → Studio
  | .ok db => { s with state := { s.state with db } }
  | .error _ => s

def begin (s : Studio) (request : Starting) : Studio :=
  { s with starting := s.starting ++ [request] }

def step (s : Studio) (input : Time × Op) : Studio :=
  match input.2 with
  | .create creatorId => s.save (createShow lower s.db creatorId)
  | .replaceTiers showId creatorId tiers =>
    s.save (Api.replaceTiers toLower lower s.db showId creatorId tiers)
  | .start showId creatorId =>
    match tiersForCreator s.db showId creatorId with
    | .error _ => s
    | .ok tiers =>
      if tiers.any fun tier => tier.enabled && decide (0 < tier.priceCents) then
        s.begin (.asking showId creatorId)
      else s.begin (.committing showId creatorId false)
  | .resolve showId creatorId =>
    if .asking showId creatorId ∈ s.starting then
      { s with starting := s.starting.erase (.asking showId creatorId) }.begin
        (.committing showId creatorId (s.ready creatorId))
    else s
  | .commit showId creatorId ready =>
    if .committing showId creatorId ready ∈ s.starting then
      { s with starting := s.starting.erase (.committing showId creatorId ready) }.save
        (startShow input.1 s.db showId creatorId ready)
    else s
  | .abandon request => { s with starting := s.starting.erase request }
  | .payouts creatorId ready =>
    { s with ready := fun other => if other = creatorId then ready else s.ready other }
  | .queue op => { s with state := s.state.step (input.1, op) }

end Studio

end Names

/-! ### What an accepted tier is -/

theorem length_le_byteLength (name : Text) : name.length ≤ byteLength name := by
  induction name with
  | nil => exact Nat.le_refl 0
  | cons rune rest ih =>
      have one : 1 ≤ runeBytes rune := by
        unfold runeBytes
        split
        · decide
        · split
          · decide
          · split
            · decide
            · decide
      simp only [byteLength, List.map_cons, List.sum_cons, List.length_cons] at ih ⊢
      omega

theorem byteLength_pos {name : Text} (some_ : 1 ≤ byteLength name) : 1 ≤ name.length := by
  cases name with
  | nil => exact absurd some_ (by decide)
  | cons rune rest => exact Nat.succ_le_succ (Nat.zero_le _)

/-- What the service accepts, the database's checks accept. -/
theorem accepted_checks {showId : ShowId} {inputs : List TierInput}
    (few : inputs.length ≤ 5) (all : inputs.all accepted = true) {tier : ShowTier}
    (member : tier ∈ rankedTiers showId inputs) : checks tier = true := by
  obtain ⟨index, less, rfl⟩ := List.mem_mapIdx.mp member
  have fits := List.all_eq_true.mp all _ (List.getElem_mem less)
  simp only [accepted, Bool.not_eq_true', Bool.or_eq_false_iff, Bool.and_eq_false_iff,
    decide_eq_false_iff_not, Int.not_lt, Nat.not_lt] at fits
  obtain ⟨⟨⟨⟨⟨⟨named, short⟩, long⟩, brief⟩, positive⟩, minimum⟩, price⟩ := fits
  have runes := length_le_byteLength (trimSpace inputs[index].name)
  have some_ := byteLength_pos named
  simp only [checks, Bool.and_eq_true, Bool.or_eq_true, decide_eq_true_eq, beq_iff_eq]
  refine ⟨⟨⟨⟨⟨⟨some_, ?_⟩, ?_⟩, ?_⟩, ?_⟩, ?_⟩, ?_⟩
  · omega
  · omega
  · omega
  · omega
  · omega
  · omega

theorem rankedTiers_show {showId : ShowId} {inputs : List TierInput} {tier : ShowTier}
    (member : tier ∈ rankedTiers showId inputs) : tier.showId = showId := by
  obtain ⟨index, _, rfl⟩ := List.mem_mapIdx.mp member
  rfl

theorem rankedTiers_ranks (showId : ShowId) (inputs : List TierInput) :
    ((rankedTiers showId inputs).map ShowTier.priorityRank).Pairwise (· > ·) := by
  rw [List.pairwise_iff_getElem]
  intro i j first second less
  simp only [rankedTiers, List.length_map, List.length_mapIdx] at first second
  simp only [rankedTiers, List.getElem_map, List.getElem_mapIdx]
  omega

theorem rankedTiers_enabled {showId : ShowId} {inputs : List TierInput}
    (enabled : inputs.any TierInput.enabled = true) :
    (rankedTiers showId inputs).any ShowTier.enabled = true := by
  obtain ⟨tier, member, on⟩ := List.any_eq_true.mp enabled
  obtain ⟨index, less, rfl⟩ := List.getElem_of_mem member
  exact List.any_eq_true.mpr ⟨_, List.mem_mapIdx.mpr ⟨index, less, rfl⟩, on⟩

section Names

variable {toLower lower : Text → Text}

/-- A show's tiers, as they are to be. -/
structure TiersFit (lower : Text → Text) (tiers : List ShowTier) : Prop where
  some_ : tiers ≠ []
  few : tiers.length ≤ 5
  enabled : tiers.any ShowTier.enabled = true
  checks : ∀ tier ∈ tiers, checks tier = true
  names : (tiers.map fun tier => lower tier.name).Nodup
  ranks : (tiers.map ShowTier.priorityRank).Nodup

theorem defaultTier_fits (lower : Text → Text) (showId : ShowId) :
    TiersFit lower [defaultTier showId] := by
  refine ⟨List.cons_ne_nil _ _, Nat.succ_le_succ (Nat.zero_le _), rfl, ?_,
    List.nodup_singleton _, List.nodup_singleton _⟩
  intro tier member
  obtain rfl := List.mem_singleton.mp member
  rfl

theorem insertTier_ok {tiers after : Table ShowTier} {tier : ShowTier}
    (ok : insertTier lower tiers tier = .ok after) :
    after = tiers.insert tier ∧ checks tier = true ∧
      ∀ tierId other, tiers.get tierId = some other → other.showId = tier.showId →
        lower other.name ≠ lower tier.name := by
  unfold insertTier at ok
  split at ok
  · cases ok
  · rename_i checked
    split at ok
    · cases ok
    · rename_i alone
      refine ⟨(Except.ok.inj ok).symm, by simpa using checked, ?_⟩
      intro tierId other found same clash
      refine alone ((Table.first_isSome_iff _ _).mpr ⟨tierId, other, found, ?_⟩)
      simp [same, clash]

theorem insertTiers_ok {showId : ShowId} {added : List ShowTier} {tiers after : Table ShowTier}
    (same : ∀ tier ∈ added, tier.showId = showId)
    (ok : insertTiers lower added tiers = .ok after) :
    after = added.foldl Table.insert tiers ∧ (∀ tier ∈ added, checks tier = true) ∧
      (∀ tier ∈ added, ∀ tierId other, tiers.get tierId = some other → other.showId = showId →
        lower other.name ≠ lower tier.name) ∧
      (added.map fun tier => lower tier.name).Nodup := by
  induction added generalizing tiers with
  | nil =>
      refine ⟨(Except.ok.inj ok).symm, ?_, ?_, List.nodup_nil⟩
      · intro tier member
        cases member
      · intro tier member
        cases member
  | cons first rest ih =>
      obtain ⟨middle, inserted, ok⟩ := bind_ok ok
      obtain ⟨rfl, checked, apart⟩ := insertTier_ok inserted
      obtain ⟨result, checks_, others, names⟩ :=
        ih (fun tier member => same tier (List.mem_cons_of_mem _ member)) ok
      have mine := same first List.mem_cons_self
      refine ⟨result, ?_, ?_, ?_⟩
      · intro tier member
        rcases List.mem_cons.mp member with rfl | later
        · exact checked
        · exact checks_ tier later
      · intro tier member tierId other found inShow
        rcases List.mem_cons.mp member with rfl | later
        · exact apart tierId other found (inShow.trans mine.symm)
        · exact others tier later tierId other (Table.get_insert_of_some found _) inShow
      · rw [List.map_cons, List.nodup_cons]
        refine ⟨fun listed => ?_, names⟩
        obtain ⟨tier, later, clash⟩ := List.mem_map.mp listed
        exact others tier later tiers.next first (Table.get_insert_next _ _) mine clash.symm

/-! ### What a transaction does -/

theorem createShow_ok {db after : DB} {creatorId : UserId}
    (ok : createShow lower db creatorId = .ok after) :
    after = { db with
      shows := db.shows.insert { creatorId, status := .created, startedAt := none, endedAt := none }
      showTiers := db.showTiers.insert (defaultTier db.shows.next) } := by
  obtain ⟨showTiers, inserted, ok⟩ := bind_ok ok
  obtain ⟨rfl, _⟩ := insertTier_ok inserted
  exact (Except.ok.inj ok).symm

theorem replaceTiers_ok {db after : DB} {showId : ShowId} {creatorId : UserId}
    {inputs : List TierInput}
    (ok : replaceTiers toLower lower db showId creatorId inputs = .ok after) :
    ∃ hotline, db.shows.get showId = some hotline ∧ hotline.status = .created ∧
      TiersFit lower (rankedTiers showId inputs) ∧
      after = { db with
        showTiers := db.showTiers.replaceWhere (fun t => t.showId == showId)
          (rankedTiers showId inputs) } := by
  unfold replaceTiers at ok
  split at ok
  · cases ok
  · rename_i length
    split at ok
    · cases ok
    · split at ok
      · cases ok
      · rename_i enabled
        unfold storeTiers at ok
        split at ok
        · cases ok
        · rename_i hotline host
          split at ok
          · cases ok
          · split at ok
            · cases ok
            · rename_i unopened
              split at ok
              · cases ok
              · obtain ⟨showTiers, inserted, ok⟩ := bind_ok ok
                obtain ⟨rfl, checked, _, names⟩ :=
                  insertTiers_ok (fun _ member => rankedTiers_show member) inserted
                have size : (rankedTiers showId inputs).length = inputs.length := by
                  simp [rankedTiers]
                refine ⟨hotline, host, not_not.mp unopened, ⟨?_, ?_, ?_, checked, names, ?_⟩,
                  (Except.ok.inj ok).symm⟩
                · intro none
                  rw [none] at size
                  simp only [List.length_nil] at size
                  omega
                · omega
                · exact rankedTiers_enabled (by simpa using enabled)
                · exact (rankedTiers_ranks showId inputs).imp fun more => Nat.ne_of_gt more

theorem startShow_ok {now : Time} {db after : DB} {showId : ShowId} {creatorId : UserId}
    {ready : Bool} (ok : startShow now db showId creatorId ready = .ok after) :
    after = db ∨ ∃ hotline, db.shows.get showId = some hotline ∧ hotline.creatorId = creatorId ∧
      hotline.status = .created ∧
      (∀ tierId tier, db.showTiers.get tierId = some tier → tier.showId = showId →
        tier.enabled = true → 0 < tier.priceCents → ready = true) ∧
      (∀ id other, db.shows.get id = some other → other.creatorId = creatorId →
        other.status ≠ .live) ∧
      after = { db with shows := db.shows.patch showId fun s =>
        { s with status := .live, startedAt := some now } } := by
  unfold startShow at ok
  split at ok
  · cases ok
  · rename_i hotline host
    split at ok
    · cases ok
    · rename_i owner
      split at ok
      · exact Or.inl (Except.ok.inj ok).symm
      · cases ok
      · rename_i created
        dsimp only at ok
        split at ok
        · cases ok
        · split at ok
          · cases ok
          · rename_i payable
            split at ok
            · cases ok
            · rename_i alone
              refine Or.inr ⟨hotline, host, not_not.mp owner, created, ?_, ?_,
                (Except.ok.inj ok).symm⟩
              · intro tierId tier found inShow enabled paid
                by_contra unready
                refine payable ⟨List.any_eq_true.mpr ⟨(tierId, tier), ?_, by simpa using paid⟩,
                  unready⟩
                refine (Table.mem_query _ _ _ _).mpr ⟨found, ?_⟩
                simp [inShow, enabled]
              · intro id other found same live
                refine alone ((Table.first_isSome_iff _ _).mpr ⟨id, other, found, ?_⟩)
                simp [same, live]

/-! ### What every run keeps -/

/-- `answered` says for which show a creator has been found able to be paid before it began. -/
structure Stocked (lower : Text → Text) (answered : ShowId → UserId → Prop) (db : DB) : Prop where
  tiers : ∀ showId hotline, db.shows.get showId = some hotline →
    TiersFit lower ((db.showTiers.query fun t => t.showId == showId).map Prod.snd)
  homed : ∀ tierId tier, db.showTiers.get tierId = some tier →
    ∃ hotline, db.shows.get tier.showId = some hotline
  booked : Booked db
  single : ∀ i j a b, db.shows.get i = some a → db.shows.get j = some b →
    a.creatorId = b.creatorId → a.status = .live → b.status = .live → i = j
  paid : ∀ tierId tier hotline, db.showTiers.get tierId = some tier → tier.enabled = true →
    0 < tier.priceCents → db.shows.get tier.showId = some hotline → hotline.status ≠ .created →
    answered tier.showId hotline.creatorId

/-- Shows keep their creators, and none goes back to where it may be set up. -/
def Onwards (db after : DB) : Prop :=
  ∀ showId hotline, db.shows.get showId = some hotline →
    ∃ later, after.shows.get showId = some later ∧ later.creatorId = hotline.creatorId ∧
      (later.status = .created → hotline.status = .created)

theorem Onwards.refl (db : DB) : Onwards db db :=
  fun _ hotline found => ⟨hotline, found, rfl, id⟩

section Stocked

variable {answered : ShowId → UserId → Prop} {db after : DB}

theorem Stocked.mono {further : ShowId → UserId → Prop} (stocked : Stocked lower answered db)
    (weaker : ∀ showId creatorId, answered showId creatorId → further showId creatorId) :
    Stocked lower further db :=
  ⟨stocked.tiers, stocked.homed, stocked.booked, stocked.single,
    fun tierId tier hotline found enabled paid host begun =>
      weaker _ _ (stocked.paid tierId tier hotline found enabled paid host begun)⟩

theorem Sells.onwards (sells : Sells db after) : Onwards db after := by
  intro showId hotline found
  obtain ⟨later, here, goes⟩ := sells.shows.kept showId hotline found
  refine ⟨later, here, goes.creator, fun created => ?_⟩
  rcases goes.status with same | ⟨_, ended⟩
  · exact same ▸ created
  · rw [ended] at created
    cases created

theorem Stocked.sells (stocked : Stocked lower answered db) (sells : Sells db after) :
    Stocked lower answered after := by
  have origin {showId : ShowId} {later : Show} (found : after.shows.get showId = some later) :
      ∃ hotline, db.shows.get showId = some hotline ∧ Show.Goes hotline later := by
    rcases sells.shows.origin showId later found with old | ⟨_, new⟩
    · exact old
    · exact new.elim
  have still {hotline later : Show} (goes : Show.Goes hotline later) (live : later.status = .live) :
      hotline.status = .live := by
    rcases goes.status with same | ⟨live, _⟩
    · exact same ▸ live
    · exact live
  refine ⟨?_, ?_, sells.booked stocked.booked, ?_, ?_⟩
  · intro showId later found
    obtain ⟨hotline, there, _⟩ := origin found
    rw [sells.tiers]
    exact stocked.tiers showId hotline there
  · intro tierId tier found
    rw [sells.tiers] at found
    obtain ⟨hotline, there⟩ := stocked.homed tierId tier found
    obtain ⟨later, here, _⟩ := sells.shows.kept _ hotline there
    exact ⟨later, here⟩
  · intro i j a b one other same liveA liveB
    obtain ⟨before, there, goes⟩ := origin one
    obtain ⟨earlier, here, went⟩ := origin other
    refine stocked.single i j before earlier there here ?_ (still goes liveA) (still went liveB)
    exact goes.creator.symm.trans (same.trans went.creator)
  · intro tierId tier later found enabled paid host begun
    rw [sells.tiers] at found
    obtain ⟨hotline, there, goes⟩ := origin host
    rw [goes.creator]
    refine stocked.paid tierId tier hotline found enabled paid there fun created => begun ?_
    rcases goes.status with same | ⟨live, _⟩
    · exact same.trans created
    · rw [created] at live
      cases live

theorem Stocked.create (stocked : Stocked lower answered db) {creatorId : UserId}
    (ok : createShow lower db creatorId = .ok after) :
    Stocked lower answered after ∧ Onwards db after := by
  obtain rfl := createShow_ok ok
  have older {showId : ShowId} (there : ∃ hotline, db.shows.get showId = some hotline) :
      showId ≠ db.shows.next := by
    obtain ⟨hotline, found⟩ := there
    exact Table.ne_next found
  have kept {showId : ShowId} {hotline : Show} (found : db.shows.get showId = some hotline) :=
    Table.get_insert_of_some found
      { creatorId, status := .created, startedAt := none, endedAt := none }
  have offers {showId : ShowId} {tierId : TierId} {tier : ShowTier}
      (old : db.Offers showId tierId tier) : DB.Offers { db with
        shows := db.shows.insert
          { creatorId, status := .created, startedAt := none, endedAt := none }
        showTiers := db.showTiers.insert (defaultTier db.shows.next) } showId tierId tier := by
    obtain ⟨found, inShow, enabled, hotline, host, begun⟩ := old
    exact ⟨Table.get_insert_of_some found _, inShow, enabled, hotline, kept host, begun⟩
  refine ⟨⟨?_, ?_, ⟨?_, ?_⟩, ?_, ?_⟩, ?_⟩
  · intro showId hotline found
    dsimp only
    rw [Table.query_insert]
    rcases Table.get_insert_row found with ⟨rfl, _⟩ | old
    · have bare : (db.showTiers.query fun t => t.showId == db.shows.next) = [] := by
        rw [List.eq_nil_iff_forall_not_mem]
        intro row member
        obtain ⟨there, matched⟩ := (Table.mem_query _ _ row.1 row.2).mp member
        exact older (stocked.homed row.1 row.2 there) (beq_iff_eq.mp matched)
      have mine : ((defaultTier db.shows.next).showId == db.shows.next) = true :=
        beq_self_eq_true db.shows.next
      rw [bare, if_pos mine]
      exact defaultTier_fits lower _
    · have apart : ¬ (defaultTier db.shows.next).showId == showId := by
        simpa [defaultTier] using (Table.ne_next old).symm
      rw [if_neg apart, List.append_nil]
      exact stocked.tiers showId hotline old
  · intro tierId tier found
    rcases Table.get_insert_row found with ⟨_, rfl⟩ | old
    · exact ⟨_, Table.get_insert_next _ _⟩
    · obtain ⟨hotline, there⟩ := stocked.homed tierId tier old
      exact ⟨hotline, kept there⟩
  · intro entryId entry found
    obtain ⟨tier, old, rest⟩ := stocked.booked.entries entryId entry found
    exact ⟨tier, offers old, rest⟩
  · intro attemptId attempt found
    obtain ⟨tier, old, rest⟩ := stocked.booked.attempts attemptId attempt found
    exact ⟨tier, offers old, rest⟩
  · intro i j a b one other same liveA liveB
    rcases Table.get_insert_row one with ⟨_, rfl⟩ | old
    · cases liveA
    · rcases Table.get_insert_row other with ⟨_, rfl⟩ | there
      · cases liveB
      · exact stocked.single i j a b old there same liveA liveB
  · intro tierId tier hotline found enabled paid host begun
    rcases Table.get_insert_row found with ⟨_, rfl⟩ | old
    · exact absurd paid (Nat.lt_irrefl 0)
    · rcases Table.get_insert_row host with ⟨_, rfl⟩ | there
      · exact absurd rfl begun
      · exact stocked.paid tierId tier hotline old enabled paid there begun
  · intro showId hotline found
    exact ⟨hotline, kept found, rfl, id⟩

theorem get_replaced {showId : ShowId} {added : List ShowTier}
    (same : ∀ tier ∈ added, tier.showId = showId) {tiers : Table ShowTier} {tierId : TierId}
    {tier : ShowTier} (other : tier.showId ≠ showId) :
    (tiers.replaceWhere (fun t => t.showId == showId) added).get tierId = some tier ↔
      tiers.get tierId = some tier := by
  constructor
  · intro found
    have member : (tierId, tier) ∈ (tiers.replaceWhere (fun t => t.showId == showId) added).query
        fun t => t.showId == tier.showId :=
      (Table.mem_query _ _ _ _).mpr ⟨found, beq_self_eq_true _⟩
    rw [Table.query_replaceWhere_other] at member
    · exact ((Table.mem_query _ _ _ _).mp member).1
    · intro a listed
      rw [same a listed]
      exact beq_eq_false_iff_ne.mpr other.symm
    · intro a mine
      rw [beq_iff_eq.mp mine]
      exact beq_eq_false_iff_ne.mpr other.symm
  · intro found
    exact Table.get_replaceWhere_other found (beq_eq_false_iff_ne.mpr other)

/-- Only a show that nobody can have joined or paid for gets other tiers. -/
theorem Stocked.replace (stocked : Stocked lower answered db) {showId : ShowId}
    {creatorId : UserId} {inputs : List TierInput}
    (ok : replaceTiers toLower lower db showId creatorId inputs = .ok after) :
    Stocked lower answered after ∧ Onwards db after := by
  obtain ⟨hotline, host, created, fits, rfl⟩ := replaceTiers_ok ok
  have offers {other : ShowId} {tierId : TierId} {tier : ShowTier}
      (old : db.Offers other tierId tier) : DB.Offers { db with
        showTiers := db.showTiers.replaceWhere (fun t => t.showId == showId)
          (rankedTiers showId inputs) } other tierId tier := by
    obtain ⟨found, inShow, enabled, begun, there, late⟩ := old
    have apart : tier.showId ≠ showId := by
      intro same
      rw [← inShow, same, host] at there
      exact late (Option.some.inj there ▸ created)
    exact ⟨(get_replaced (fun _ member => rankedTiers_show member) apart).mpr found, inShow,
      enabled, begun, there, late⟩
  have mineOrOld {tierId : TierId} {tier : ShowTier}
      (found : (db.showTiers.replaceWhere (fun t => t.showId == showId)
        (rankedTiers showId inputs)).get tierId = some tier) :
      tier.showId = showId ∨ tier.showId ≠ showId ∧ db.showTiers.get tierId = some tier := by
    by_cases mine : tier.showId = showId
    · exact Or.inl mine
    · exact Or.inr ⟨mine, (get_replaced (fun _ member => rankedTiers_show member) mine).mp found⟩
  refine ⟨⟨?_, ?_, ⟨?_, ?_⟩, stocked.single, ?_⟩, fun _ found there => ⟨found, there, rfl, id⟩⟩
  · intro other found there
    dsimp only
    by_cases mine : other = showId
    · subst mine
      rw [Table.query_replaceWhere]
      · exact fits
      · intro tier member
        exact beq_iff_eq.mpr (rankedTiers_show member)
    · rw [Table.query_replaceWhere_other]
      · exact stocked.tiers other found there
      · intro tier member
        rw [rankedTiers_show member]
        exact beq_eq_false_iff_ne.mpr (Ne.symm mine)
      · intro tier same
        rw [beq_iff_eq.mp same]
        exact beq_eq_false_iff_ne.mpr (Ne.symm mine)
  · intro tierId tier found
    rcases mineOrOld found with mine | ⟨_, old⟩
    · exact ⟨hotline, mine ▸ host⟩
    · exact stocked.homed tierId tier old
  · intro entryId entry found
    obtain ⟨tier, old, rest⟩ := stocked.booked.entries entryId entry found
    exact ⟨tier, offers old, rest⟩
  · intro attemptId attempt found
    obtain ⟨tier, old, rest⟩ := stocked.booked.attempts attemptId attempt found
    exact ⟨tier, offers old, rest⟩
  · intro tierId tier begun found enabled paid there late
    rcases mineOrOld found with mine | ⟨_, old⟩
    · rw [mine] at there
      obtain rfl := Option.some.inj (host.symm.trans there)
      exact absurd created late
    · exact stocked.paid tierId tier begun old enabled paid there late

/-- A show starts with paid tiers only if its creator has been found able to be paid. -/
theorem Stocked.start (stocked : Stocked lower answered db) {now : Time} {showId : ShowId}
    {creatorId : UserId} {ready : Bool}
    (knows : ∀ hotline, db.shows.get showId = some hotline → hotline.status = .created →
      ready = true → answered showId creatorId)
    (ok : startShow now db showId creatorId ready = .ok after) :
    Stocked lower answered after ∧ Onwards db after := by
  rcases startShow_ok ok with rfl | ⟨hotline, host, owner, created, payable, alone, rfl⟩
  · exact ⟨stocked, .refl _⟩
  have row {id : ShowId} {later : Show}
      (found : (db.shows.patch showId fun s =>
        { s with status := .live, startedAt := some now }).get id = some later) :
      (id = showId ∧ later.creatorId = creatorId) ∨
        id ≠ showId ∧ db.shows.get id = some later := by
    rw [Table.get_patch] at found
    split at found
    · rename_i here
      rw [here, host] at found
      obtain rfl := Option.some.inj found
      exact Or.inl ⟨here, owner⟩
    · rename_i apart
      exact Or.inr ⟨apart, found⟩
  have kept {id : ShowId} {before : Show} (found : db.shows.get id = some before) :
      ∃ later, (db.shows.patch showId fun s =>
        { s with status := .live, startedAt := some now }).get id = some later ∧
        later.creatorId = before.creatorId ∧ (later.status = .created → before.status = .created) ∧
        (before.status ≠ .created → later.status ≠ .created) := by
    by_cases here : id = showId
    · subst here
      refine ⟨_, Table.get_patch_self found _, rfl, ?_, ?_⟩
      · intro same
        cases same
      · intro _ same
        cases same
    · exact ⟨before, (Table.get_patch_of_ne here _ _).trans found, rfl, fun same => same,
        fun same => same⟩
  have offers {other : ShowId} {tierId : TierId} {tier : ShowTier}
      (old : db.Offers other tierId tier) : DB.Offers { db with
        shows := db.shows.patch showId fun s =>
          { s with status := .live, startedAt := some now } } other tierId tier := by
    obtain ⟨found, inShow, enabled, begun, there, late⟩ := old
    obtain ⟨later, here, _, _, still⟩ := kept there
    exact ⟨found, inShow, enabled, later, here, still late⟩
  refine ⟨⟨?_, ?_, ⟨?_, ?_⟩, ?_, ?_⟩, ?_⟩
  · intro other found there
    rcases row there with ⟨rfl, _⟩ | ⟨_, old⟩
    · exact stocked.tiers other hotline host
    · exact stocked.tiers other found old
  · intro tierId tier found
    obtain ⟨before, there⟩ := stocked.homed tierId tier found
    obtain ⟨later, here, _⟩ := kept there
    exact ⟨later, here⟩
  · intro entryId entry found
    obtain ⟨tier, old, rest⟩ := stocked.booked.entries entryId entry found
    exact ⟨tier, offers old, rest⟩
  · intro attemptId attempt found
    obtain ⟨tier, old, rest⟩ := stocked.booked.attempts attemptId attempt found
    exact ⟨tier, offers old, rest⟩
  · intro i j a b one other same liveA liveB
    rcases row one with ⟨first, mine⟩ | ⟨_, old⟩
    · rcases row other with ⟨second, _⟩ | ⟨_, there⟩
      · rw [first, second]
      · exact absurd liveB (alone j b there (same.symm.trans mine))
    · rcases row other with ⟨_, mine⟩ | ⟨_, there⟩
      · exact absurd liveA (alone i a old (same.trans mine))
      · exact stocked.single i j a b old there same liveA liveB
  · intro tierId tier later found enabled paid there late
    rcases row there with ⟨here, mine⟩ | ⟨_, old⟩
    · rw [here, mine]
      exact knows hotline host created (payable tierId tier found here enabled paid)
    · exact stocked.paid tierId tier later found enabled paid old late
  · intro other before found
    obtain ⟨later, here, creator, still, _⟩ := kept found
    exact ⟨later, here, creator, still⟩

end Stocked

/-! ### Any run -/

/-- What a start between its steps goes by is so. -/
def Starting.Grounded (answered : ShowId → UserId → Prop) (db : DB) : Starting → Prop
  | .asking showId creatorId =>
    ∃ hotline, db.shows.get showId = some hotline ∧ hotline.creatorId = creatorId
  | .committing showId creatorId ready =>
    ∃ hotline, db.shows.get showId = some hotline ∧ hotline.creatorId = creatorId ∧
      (hotline.status = .created → ready = true → answered showId creatorId)

structure Studio.Sound (lower : Text → Text) (answered : ShowId → UserId → Prop) (s : Studio) :
    Prop where
  stocked : Stocked lower answered s.db
  starting : ∀ request ∈ s.starting, request.Grounded answered s.db

namespace Studio

variable {answered further : ShowId → UserId → Prop} {s : Studio}

theorem Grounded_onwards {db after : DB} (onwards : Onwards db after)
    (weaker : ∀ showId creatorId, answered showId creatorId → further showId creatorId)
    {request : Starting} (grounded : request.Grounded answered db) :
    request.Grounded further after := by
  cases request with
  | asking showId creatorId =>
      obtain ⟨hotline, found, owner⟩ := grounded
      obtain ⟨later, here, creator, _⟩ := onwards showId hotline found
      exact ⟨later, here, creator.trans owner⟩
  | committing showId creatorId ready =>
      obtain ⟨hotline, found, owner, knows⟩ := grounded
      obtain ⟨later, here, creator, still⟩ := onwards showId hotline found
      exact ⟨later, here, creator.trans owner,
        fun created yes => weaker _ _ (knows (still created) yes)⟩

theorem Sound.mono (sound : s.Sound lower answered)
    (weaker : ∀ showId creatorId, answered showId creatorId → further showId creatorId) :
    s.Sound lower further :=
  ⟨sound.stocked.mono weaker,
    fun request member => Grounded_onwards (.refl _) weaker (sound.starting request member)⟩

/-- A transaction that keeps shows and tiers as they are to be, and goes ahead or fails. -/
theorem Sound.save (sound : s.Sound lower answered) {result : Except ShowError DB}
    (each : ∀ after, result = .ok after → Stocked lower answered after ∧ Onwards s.db after) :
    (s.save result).Sound lower answered := by
  cases outcome : result with
  | error reason => exact sound
  | ok after =>
      obtain ⟨stocked, onwards⟩ := each after outcome
      exact ⟨stocked, fun request member =>
        Grounded_onwards onwards (fun _ _ => id) (sound.starting request member)⟩

theorem Sound.begin (sound : s.Sound lower answered) {request : Starting}
    (grounded : request.Grounded answered s.db) : (s.begin request).Sound lower answered := by
  refine ⟨sound.stocked, fun other member => ?_⟩
  rcases List.mem_append.mp member with old | new
  · exact sound.starting other old
  · obtain rfl := List.mem_singleton.mp new
    exact grounded

theorem Sound.drop (sound : s.Sound lower answered) (request : Starting) :
    { s with starting := s.starting.erase request }.Sound lower answered :=
  ⟨sound.stocked, fun other member => sound.starting other (List.mem_of_mem_erase member)⟩

theorem tiersForCreator_ok {db : DB} {showId : ShowId} {creatorId : UserId} {tiers : List ShowTier}
    (ok : tiersForCreator db showId creatorId = .ok tiers) :
    ∃ hotline, db.shows.get showId = some hotline ∧ hotline.creatorId = creatorId := by
  unfold tiersForCreator at ok
  split at ok
  · cases ok
  · rename_i hotline host
    split at ok
    · cases ok
    · rename_i owner
      exact ⟨hotline, host, not_not.mp owner⟩

/-- What a step may rely on from then on: a yes for a show that hasn't begun. -/
theorem Sound.step (sound : s.Sound lower answered) (input : Time × Op)
    (weaker : ∀ showId creatorId, answered showId creatorId → further showId creatorId)
    (learns : ∀ showId creatorId hotline, input.2 = .resolve showId creatorId →
      s.db.shows.get showId = some hotline → hotline.status = .created →
      s.ready creatorId = true → further showId creatorId) :
    (s.step toLower lower input).Sound lower further := by
  have sound := sound.mono weaker
  obtain ⟨now, op⟩ := input
  cases op with
  | create creatorId => exact sound.save fun _ ok => sound.stocked.create ok
  | replaceTiers showId creatorId tiers => exact sound.save fun _ ok => sound.stocked.replace ok
  | start showId creatorId =>
      simp only [Studio.step]
      split
      · exact sound
      · rename_i ok
        obtain ⟨hotline, host, owner⟩ := tiersForCreator_ok ok
        split
        · exact sound.begin ⟨hotline, host, owner⟩
        · refine sound.begin ⟨hotline, host, owner, fun _ yes => ?_⟩
          cases yes
  | resolve showId creatorId =>
      simp only [Studio.step]
      split
      · rename_i member
        obtain ⟨hotline, host, owner⟩ := sound.starting _ member
        exact (sound.drop _).begin ⟨hotline, host, owner, fun created yes =>
          learns showId creatorId hotline rfl host created yes⟩
      · exact sound
  | commit showId creatorId ready =>
      simp only [Studio.step]
      split
      · rename_i member
        obtain ⟨hotline, host, _, knows⟩ := sound.starting _ member
        refine (sound.drop _).save fun after ok => sound.stocked.start ?_ ok
        intro found there created yes
        obtain rfl := Option.some.inj (host.symm.trans there)
        exact knows created yes
      · exact sound
  | abandon request => exact sound.drop request
  | payouts creatorId ready => exact ⟨sound.stocked, sound.starting⟩
  | queue op =>
      have sells := State.step_sells s.state (now, op)
      exact ⟨sound.stocked.sells sells, fun request member =>
        Grounded_onwards sells.onwards (fun _ _ => id) (sound.starting request member)⟩

/-- A creator has been found able to be paid by a start of this show before it began. -/
def Answered (toLower lower : Text → Text) (inputs : List (Time × Op)) (showId : ShowId)
    (creatorId : UserId) : Prop :=
  ∃ front now back hotline, inputs = front ++ (now, .resolve showId creatorId) :: back ∧
    (run (step toLower lower) empty front).ready creatorId = true ∧
    (run (step toLower lower) empty front).db.shows.get showId = some hotline ∧
    hotline.status = .created

theorem Answered.append {inputs : List (Time × Op)} {showId : ShowId} {creatorId : UserId}
    (answered : Answered toLower lower inputs showId creatorId) (more : List (Time × Op)) :
    Answered toLower lower (inputs ++ more) showId creatorId := by
  obtain ⟨front, now, back, hotline, rfl, rest⟩ := answered
  exact ⟨front, now, back ++ more, hotline, by simp, rest⟩

theorem sound_empty : Sound lower (fun _ _ => False) empty := by
  refine ⟨⟨?_, ?_, ⟨?_, ?_⟩, ?_, ?_⟩, ?_⟩
  · intro showId hotline found
    cases found
  · intro tierId tier found
    cases found
  · intro entryId entry found
    cases found
  · intro attemptId attempt found
    cases found
  · intro i j a b found
    cases found
  · intro tierId tier hotline found
    cases found
  · intro request member
    cases member

theorem sound_run (inputs : List (Time × Op)) :
    (run (step toLower lower) empty inputs).Sound lower (Answered toLower lower inputs) := by
  induction inputs using List.reverseRecOn with
  | nil => exact sound_empty.mono fun _ _ => False.elim
  | append_singleton front input ih =>
      rw [run_append]
      refine ih.step input (fun showId creatorId answered => answered.append _) ?_
      intro showId creatorId hotline asked host created yes
      refine ⟨front, input.1, [], hotline, ?_, yes, host, created⟩
      rw [← asked]

end Studio

/-- The inserts go through if the tiers pass the checks and no two names fold to one. -/
theorem insertTiers_complete {showId : ShowId} {added : List ShowTier} {tiers : Table ShowTier}
    (same : ∀ tier ∈ added, tier.showId = showId) (checked : ∀ tier ∈ added, checks tier = true)
    (names : (added.map fun tier => lower tier.name).Nodup)
    (apart : ∀ tier ∈ added, ∀ tierId other, tiers.get tierId = some other →
      other.showId = showId → lower other.name ≠ lower tier.name) :
    ∃ after, insertTiers lower added tiers = .ok after := by
  induction added generalizing tiers with
  | nil => exact ⟨tiers, rfl⟩
  | cons first rest ih =>
      have mine := same first List.mem_cons_self
      rw [List.map_cons, List.nodup_cons] at names
      have inserted : insertTier lower tiers first = .ok (tiers.insert first) := by
        unfold insertTier
        rw [if_neg (by simp [checked first List.mem_cons_self]), if_neg]
        intro clash
        obtain ⟨tierId, other, found, matched⟩ := (Table.first_isSome_iff _ _).mp clash
        simp only [Bool.and_eq_true, beq_iff_eq] at matched
        exact apart first List.mem_cons_self tierId other found (matched.1.trans mine) matched.2
      have still : ∀ tier ∈ rest, ∀ tierId other, (tiers.insert first).get tierId = some other →
          other.showId = showId → lower other.name ≠ lower tier.name := by
        intro tier member tierId other found inShow
        rcases Table.get_insert_row found with ⟨_, rfl⟩ | old
        · exact fun clash => names.1 (List.mem_map.mpr ⟨tier, member, clash.symm⟩)
        · exact apart tier (List.mem_cons_of_mem _ member) tierId other old inShow
      obtain ⟨after, done⟩ := ih (fun tier member => same tier (List.mem_cons_of_mem _ member))
        (fun tier member => checked tier (List.mem_cons_of_mem _ member)) names.2 still
      refine ⟨after, ?_⟩
      unfold insertTiers
      rw [inserted]
      exact done

/-- Which tiers a show of this creator takes. -/
structure Takes (toLower lower : Text → Text) (db : DB) (showId : ShowId) (creatorId : UserId)
    (inputs : List TierInput) : Prop where
  some_ : 1 ≤ inputs.length
  few : inputs.length ≤ 5
  all : inputs.all accepted = true
  names : (inputs.map fun tier => toLower (trimSpace tier.name)).Nodup
  stored : (inputs.map fun tier => lower (trimSpace tier.name)).Nodup
  enabled : inputs.any TierInput.enabled = true
  created : ∃ hotline, db.shows.get showId = some hotline ∧ hotline.creatorId = creatorId ∧
    hotline.status = .created

theorem rankedTiers_names (fold : Text → Text) (showId : ShowId) (inputs : List TierInput) :
    ((rankedTiers showId inputs).map fun tier => fold tier.name) =
      inputs.map fun tier => fold (trimSpace tier.name) := by
  refine List.ext_getElem (by simp [rankedTiers]) fun index _ _ => ?_
  simp [rankedTiers]

/-- Nothing that a run has stored keeps tiers from being replaced. -/
theorem replaceTiers_iff {answered : ShowId → UserId → Prop} {db : DB}
    (stocked : Stocked lower answered db) (showId : ShowId) (creatorId : UserId)
    (inputs : List TierInput) :
    (∃ after, replaceTiers toLower lower db showId creatorId inputs = .ok after) ↔
      Takes toLower lower db showId creatorId inputs := by
  constructor
  · rintro ⟨after, ok⟩
    obtain ⟨_, _, _, fits, _⟩ := replaceTiers_ok ok
    have stored := fits.names
    rw [rankedTiers_names] at stored
    unfold replaceTiers at ok
    split at ok
    · cases ok
    · rename_i length
      split at ok
      · cases ok
      · rename_i fine
        split at ok
        · cases ok
        · rename_i enabled
          unfold storeTiers at ok
          split at ok
          · cases ok
          · rename_i hotline host
            split at ok
            · cases ok
            · rename_i owner
              split at ok
              · cases ok
              · rename_i created
                rw [not_or, not_not, not_not] at fine
                exact ⟨by omega, by omega, fine.1, fine.2, stored, not_not.mp enabled, hotline,
                  host, not_not.mp owner, not_not.mp created⟩
  · intro takes
    obtain ⟨hotline, host, owner, created⟩ := takes.created
    have unreferenced : ¬((db.queueEntries.first fun e => e.showId == showId).isSome ∨
        (db.paymentAttempts.first fun p => p.showId == showId).isSome) := by
      rintro (referenced | referenced)
      · obtain ⟨entryId, entry, found, mine⟩ := (Table.first_isSome_iff _ _).mp referenced
        obtain ⟨tier, ⟨_, _, _, begun, there, late⟩, _⟩ :=
          stocked.booked.entries entryId entry found
        rw [show entry.booking.showId = showId from beq_iff_eq.mp mine, host] at there
        exact late (Option.some.inj there ▸ created)
      · obtain ⟨attemptId, attempt, found, mine⟩ := (Table.first_isSome_iff _ _).mp referenced
        obtain ⟨tier, ⟨_, _, _, begun, there, late⟩, _⟩ :=
          stocked.booked.attempts attemptId attempt found
        rw [show attempt.charge.showId = showId from beq_iff_eq.mp mine, host] at there
        exact late (Option.some.inj there ▸ created)
    have names : ((rankedTiers showId inputs).map fun tier => lower tier.name).Nodup := by
      rw [rankedTiers_names]
      exact takes.stored
    obtain ⟨showTiers, done⟩ : ∃ showTiers, insertTiers lower (rankedTiers showId inputs)
        ((db.showTiers.query fun t => t.showId == showId).foldl
          (fun table row => table.delete row.1) db.showTiers) = .ok showTiers := by
      refine insertTiers_complete (fun _ member => rankedTiers_show member)
        (fun _ member => accepted_checks takes.few takes.all member) names ?_
      intro tier _ tierId other found inShow
      have gone := ((Table.get_delete_query _ _ tierId other).mp found).2
      simp [inShow] at gone
    refine ⟨{ db with showTiers }, ?_⟩
    unfold replaceTiers storeTiers
    have length : ¬(inputs.length < 1 ∨ 5 < inputs.length) := by
      have some_ := takes.some_
      have few := takes.few
      omega
    rw [if_neg length, if_neg (by simp only [takes.all, takes.names, not_true, or_self,
      not_false_iff]), if_neg (not_not.mpr takes.enabled), host]
    dsimp only
    rw [if_neg (not_not.mpr owner), if_neg (not_not.mpr created), if_neg unreferenced, done]
    rfl

/-- After every run, each show has one to five tiers that all pass the database's checks, differ in
rank and name, and are not all switched off; what was booked or charged is what its tier says, and
the tier is still on offer; no creator has two live shows; a show can always be created; and the
tiers of a show can be replaced exactly when they are fit for it and it hasn't begun. -/
theorem tiers_stay_fit (toLower lower : Text → Text) (inputs : List (Time × Studio.Op)) :
    let db := (run (Studio.step toLower lower) Studio.empty inputs).db
    (∀ showId hotline, db.shows.get showId = some hotline →
        TiersFit lower ((db.showTiers.query fun t => t.showId == showId).map Prod.snd)) ∧
      Booked db ∧
      (∀ i j a b, db.shows.get i = some a → db.shows.get j = some b → a.creatorId = b.creatorId →
        a.status = .live → b.status = .live → i = j) ∧
      (∀ creatorId, ∃ after, createShow lower db creatorId = .ok after) ∧
      ∀ showId creatorId tiers,
        (∃ after, replaceTiers toLower lower db showId creatorId tiers = .ok after) ↔
          Takes toLower lower db showId creatorId tiers := by
  intro db
  have sound : (run (Studio.step toLower lower) Studio.empty inputs).Sound lower
      (Studio.Answered toLower lower inputs) := Studio.sound_run inputs
  have stocked : Stocked lower _ db := sound.stocked
  refine ⟨stocked.tiers, stocked.booked, stocked.single, fun creatorId => ?_,
    replaceTiers_iff stocked⟩
  have inserted : insertTier lower db.showTiers (defaultTier db.shows.next) =
      .ok (db.showTiers.insert (defaultTier db.shows.next)) := by
    unfold insertTier
    have checked : checks (defaultTier db.shows.next) = true := rfl
    rw [if_neg (not_not.mpr checked), if_neg]
    intro clash
    obtain ⟨tierId, other, found, matched⟩ := (Table.first_isSome_iff _ _).mp clash
    simp only [Bool.and_eq_true, beq_iff_eq] at matched
    obtain ⟨hotline, there⟩ := stocked.homed tierId other found
    exact Table.ne_next there matched.1
  unfold createShow
  rw [inserted]
  exact ⟨_, rfl⟩

/-- However starts, tier changes and payments interleave, nobody is charged but for an enabled tier
of a show that has begun, at the tier's price, and only in a show whose creator was found able to be
paid by a start of it before it began. -/
theorem charged_when_ready (toLower lower : Text → Text) (inputs : List (Time × Studio.Op))
    {attemptId : AttemptId} {attempt : PaymentAttempt}
    (charged : (run (Studio.step toLower lower) Studio.empty inputs).db.paymentAttempts.get
      attemptId = some attempt) :
    let db := (run (Studio.step toLower lower) Studio.empty inputs).db
    ∃ hotline tier front now back before,
      db.shows.get attempt.showId = some hotline ∧ hotline.status ≠ .created ∧
      db.showTiers.get attempt.tierId = some tier ∧ tier.showId = attempt.showId ∧
      tier.enabled = true ∧ 0 < tier.priceCents ∧ attempt.amountCents = tier.priceCents ∧
      inputs = front ++ (now, .resolve attempt.showId hotline.creatorId) :: back ∧
      (run (Studio.step toLower lower) Studio.empty front).ready hotline.creatorId = true ∧
      (run (Studio.step toLower lower) Studio.empty front).db.shows.get attempt.showId =
        some before ∧
      before.status = .created := by
  intro db
  have sound : (run (Studio.step toLower lower) Studio.empty inputs).Sound lower
      (Studio.Answered toLower lower inputs) := Studio.sound_run inputs
  obtain ⟨tier, ⟨found, inShow, enabled, hotline, host, begun⟩, paid, price⟩ :=
    sound.stocked.booked.attempts attemptId attempt charged
  have home : tier.showId = attempt.showId := inShow
  obtain ⟨front, now, back, before, split, yes, there, created⟩ :=
    sound.stocked.paid attempt.tierId tier hotline found enabled paid (home ▸ host) begun
  rw [home] at split there
  exact ⟨hotline, tier, front, now, back, before, host, begun, found, home, enabled, paid, price,
    split, yes, there, created⟩

namespace Studio

/-- A creator sets up payouts and a paid show, starts it, and a viewer goes to pay. -/
def sampleStart : List (Time × Op) :=
  [(0, .create 7), (1, .replaceTiers 0 7 [⟨[86, 73, 80], 300, 500, true⟩]), (2, .start 0 7),
    (3, .payouts 7 true), (4, .resolve 0 7), (5, .commit 0 7 true), (6, .queue (.prepare 0 1 1 1 (some 8) (some 80)))]

end Studio

set_option maxRecDepth 20000 in
theorem charged_when_ready_sample :
    ∃ attempt hotline front now back,
      (run (Studio.step id id) Studio.empty Studio.sampleStart).db.paymentAttempts.get 0 =
        some attempt ∧
      Studio.sampleStart = front ++ (now, .resolve attempt.showId hotline) :: back ∧
      (run (Studio.step id id) Studio.empty front).ready hotline = true := by
  have charged : ∃ attempt, (run (Studio.step id id) Studio.empty
      Studio.sampleStart).db.paymentAttempts.get 0 = some attempt := by
    apply Option.isSome_iff_exists.mp
    decide
  obtain ⟨attempt, charged⟩ := charged
  obtain ⟨hotline, _, front, now, back, _, _, _, _, _, _, _, _, split, ready, _⟩ :=
    charged_when_ready id id Studio.sampleStart charged
  exact ⟨attempt, hotline.creatorId, front, now, back, charged, split, ready⟩

end Names

end Bling.Api
