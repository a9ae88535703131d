import Bling.Library.Machine
import Bling.Library.Table

set_option autoImplicit false

namespace Library

/-! A service makes a thing for a key that asks for one, and a store keeps the first thing saved for
each key. What comes of many requests at once, each of which may be overtaken or die between its
steps. -/

variable {σ κ α β ρ : Type} [DecidableEq κ]

/-! ### A row for each key -/

namespace Table

variable (t : Table α) (key : α → κ)

def rowOf (k : κ) : Option α := (t.first fun a => key a == k).map Prod.snd

/-- A new row for a key that has none, or its row changed. -/
def upsert (k : κ) (added : α) (onConflict : α → α) : Table α :=
  match t.first fun a => key a == k with
  | none => t.insert added
  | some row => t.patch row.1 onConflict

/-- No key has two rows. -/
def Keyed : Prop := ∀ i j a b, t.get i = some a → t.get j = some b → key a = key b → i = j

variable {t key} {k : κ} {added : α} {onConflict : α → α}

theorem Keyed.rowOf (keyed : t.Keyed key) {id : Nat} {a : α} (present : t.get id = some a) :
    t.rowOf key (key a) = some a := by
  have found := first_of_unique (p := fun b => key b == key a) present (beq_self_eq_true _)
    fun other b there same => keyed other id b a there present (beq_iff_eq.mp same)
  unfold Table.rowOf
  rw [found]
  rfl

theorem Keyed.upsert (keyed : t.Keyed key) (added_key : key added = k)
    (kept : ∀ a, key (onConflict a) = key a) : (t.upsert key k added onConflict).Keyed key := by
  unfold Table.upsert
  split
  · rename_i absent
    have fresh (id : Nat) (a : α) (present : t.get id = some a) : key a ≠ k :=
      fun same => by simpa [same] using first_none absent present
    intro i j a b first second same
    rcases get_insert_row first with ⟨rfl, rfl⟩ | old
    · rcases get_insert_row second with ⟨rfl, rfl⟩ | other
      · rfl
      · exact (fresh j b other (same ▸ added_key)).elim
    · rcases get_insert_row second with ⟨rfl, rfl⟩ | other
      · exact (fresh i a old (same.trans added_key)).elim
      · exact keyed i j a b old other same
  · rename_i row _
    have before (id : Nat) (a : α) (present : (t.patch row.1 onConflict).get id = some a) :
        ∃ b, t.get id = some b ∧ key b = key a := by
      rw [get_patch] at present
      split at present
      · obtain ⟨b, there, rfl⟩ := Option.map_eq_some_iff.mp present
        exact ⟨b, there, (kept b).symm⟩
      · exact ⟨a, present, rfl⟩
    intro i j a b first second same
    obtain ⟨a', one, keyA⟩ := before i a first
    obtain ⟨b', two, keyB⟩ := before j b second
    exact keyed i j a' b' one two (keyA.trans (same.trans keyB.symm))

theorem rowOf_upsert (added_key : key added = k) (kept : ∀ a, key (onConflict a) = key a)
    (other : κ) : (t.upsert key k added onConflict).rowOf key other =
      if other = k then some ((t.rowOf key k).elim added onConflict) else t.rowOf key other := by
  unfold Table.upsert Table.rowOf
  cases before : t.first fun a => key a == k with
  | none =>
      dsimp only
      split
      · rename_i same
        subst same
        have absent := (first_none_iff t _).mp before
        have found := first_of_unique (p := fun a => key a == other) (get_insert_next t added)
          (beq_iff_eq.mpr added_key) fun id b present same => by
            rcases get_insert_row present with ⟨rfl, _⟩ | old
            · rfl
            · rw [absent id b old] at same
              cases same
        rw [found]
        rfl
      · rename_i apart
        rw [first_insert_other]
        exact beq_eq_false_iff_ne.mpr fun same => apart (same.symm.trans added_key)
  | some row =>
      dsimp only
      rw [first_patch t row.1 (fun a => congrArg (· == other) (kept a))]
      split
      · rename_i same
        subst same
        rw [before]
        simp only [Option.map_some, if_true, Option.elim_some]
      · rename_i apart
        cases found : t.first fun a => key a == other with
        | none => rfl
        | some row' =>
            have different : row'.1 ≠ row.1 := by
              intro same
              obtain ⟨here, mine⟩ := first_row before
              obtain ⟨there, theirs⟩ := first_row found
              rw [same] at there
              rw [Option.some.inj (there.symm.trans here)] at theirs
              exact apart ((beq_iff_eq.mp theirs).symm.trans (beq_iff_eq.mp mine))
            simp only [Option.map_some, if_neg different]

end Table

/-! ### The service and the store -/

/-- A service that gives the same answer to a key again, until it forgets it. What can be read of a
thing comes in two parts, and may change. -/
structure Service (κ α β : Type) where
  /-- The key each thing was made for. -/
  made : List κ
  remembered : List (κ × Nat × α)
  state : Nat → α × β
  /-- Every state a thing has been in. -/
  past : List (Nat × α × β)

def Service.empty (blank : α × β) : Service κ α β := ⟨[], [], fun _ => blank, []⟩

/-- A new thing is `fresh`, and nothing of its other part is there. -/
def Service.make (service : Service κ α β) (bare : β) (k : κ) (fresh : α) : Service κ α β :=
  let id := service.made.length
  { made := service.made ++ [k]
    remembered := service.remembered ++ [(k, id, fresh)]
    state := fun other => if other = id then (fresh, bare) else service.state other
    past := service.past ++ [(id, fresh, bare)] }

/-- A request with this key: the thing made for it, as it was then. -/
def Service.create (service : Service κ α β) (bare : β) (k : κ) (fresh : α) :
    Service κ α β × Nat × α :=
  match service.remembered.find? fun row => row.1 = k with
  | some row => (service, row.2)
  | none => (service.make bare k fresh, service.made.length, fresh)

def Service.change (service : Service κ α β) (id : Nat) (state : α × β) : Service κ α β :=
  { service with
    state := fun other => if other = id then state else service.state other
    past := service.past ++ [(id, state)] }

def Service.forget (service : Service κ α β) (k : κ) : Service κ α β :=
  { service with remembered := service.remembered.filter fun row => row.1 ≠ k }

/-- A store with a row for each key that names a thing, and keeps the name. -/
structure Keeping (σ κ α β ρ : Type) [DecidableEq κ] where
  entry : σ → κ → Option (Nat × ρ)
  save : σ → κ → Nat → ρ → σ
  project : α → β → ρ
  /-- What a row becomes. -/
  merge : Option (Nat × ρ) → Nat → ρ → Nat × ρ
  /-- Whoever asked is told what is stored, not what was made. -/
  tellsStored : Bool
  entry_save : ∀ s k id r other, entry (save s k id r) other =
    if other = k then some (merge (entry s k) id r) else entry s other
  merge_none : ∀ id r, merge none id r = (id, r)
  merge_same : ∀ id old r, merge (some (id, old)) id r = (id, r)
  merge_first : ∀ held old id r, (merge (some (held, old)) id r).1 = held

/-- A request between two of its steps. -/
inductive Request (κ α β : Type) where
  | creating (k : κ)
  | saving (k : κ) (id : Nat) (fresh : α)
  | reading (k : κ) (id : Nat)
  | readingRest (k : κ) (id : Nat) (first : α)
  | refreshing (k : κ) (id : Nat) (first : α) (rest : β)
deriving DecidableEq

structure Enrolment (σ κ α β : Type) where
  store : σ
  service : Service κ α β
  requests : List (Request κ α β)
  /-- Who has been told which thing is theirs. -/
  told : List (κ × Nat)

namespace Enrolment

inductive Op (κ α β : Type) where
  /-- Someone asks for the thing of a key. -/
  | ask (k : κ)
  /-- The stored row of a key is to be read anew. -/
  | refresh (k : κ)
  /-- A request goes on; a thing made by it is `fresh`. -/
  | advance (request : Request κ α β) (fresh : α)
  | die (request : Request κ α β)
  | change (id : Nat) (state : α × β)
  | forget (k : κ)

section Step

variable [DecidableEq α] [DecidableEq β] (keeping : Keeping σ κ α β ρ) (bare : β)
  (e : Enrolment σ κ α β)

def begin (request : Request κ α β) : Enrolment σ κ α β :=
  { e with requests := e.requests ++ [request] }

def tell (k : κ) (id : Nat) : Enrolment σ κ α β := { e with told := e.told ++ [(k, id)] }

def advance (fresh : α) : Request κ α β → Enrolment σ κ α β
  | .creating k =>
    let (service, id, fresh) := e.service.create bare k fresh
    { e with service }.begin (.saving k id fresh)
  | .saving k id fresh =>
    let record := keeping.project fresh bare
    let held := (keeping.merge (keeping.entry e.store k) id record).1
    { e with store := keeping.save e.store k id record }.tell k
      (if keeping.tellsStored then held else id)
  | .reading k id => e.begin (.readingRest k id (e.service.state id).1)
  | .readingRest k id first => e.begin (.refreshing k id first (e.service.state id).2)
  | .refreshing k id first rest =>
    { e with store := keeping.save e.store k id (keeping.project first rest) }

def step : Op κ α β → Enrolment σ κ α β
  | .ask k =>
    match keeping.entry e.store k with
    | some (id, _) => e.tell k id
    | none => e.begin (.creating k)
  | .refresh k =>
    match keeping.entry e.store k with
    | some (id, _) => e.begin (.reading k id)
    | none => e
  | .advance request fresh =>
    if request ∈ e.requests then
      { e with requests := e.requests.erase request }.advance keeping bare fresh request
    else e
  | .die request => { e with requests := e.requests.erase request }
  | .change id state =>
    if id < e.service.made.length then { e with service := e.service.change id state } else e
  | .forget k => { e with service := e.service.forget k }

end Step

/-! ### Whose a thing is -/

/-- The thing was made for the key. -/
def MadeFor (e : Enrolment σ κ α β) (k : κ) (id : Nat) : Prop := e.service.made[id]? = some k

/-- Both parts have been read off the thing, be it at different times. -/
def Glimpsed (service : Service κ α β) (id : Nat) (first : α) (rest : β) : Prop :=
  (∃ other, (id, first, other) ∈ service.past) ∧ ∃ other, (id, other, rest) ∈ service.past

/-- What a request goes by is so. -/
def Grounded (keeping : Keeping σ κ α β ρ) (bare : β) (e : Enrolment σ κ α β) :
    Request κ α β → Prop
  | .creating _ => True
  | .saving k id fresh => e.MadeFor k id ∧ Glimpsed e.service id fresh bare
  | .reading k id => ∃ r, keeping.entry e.store k = some (id, r)
  | .readingRest k id first => (∃ r, keeping.entry e.store k = some (id, r)) ∧
      ∃ other, (id, first, other) ∈ e.service.past
  | .refreshing k id first rest => (∃ r, keeping.entry e.store k = some (id, r)) ∧
      Glimpsed e.service id first rest

structure Sound (keeping : Keeping σ κ α β ρ) (bare : β) (e : Enrolment σ κ α β) : Prop where
  remembered : ∀ k id fresh, (k, id, fresh) ∈ e.service.remembered →
    e.MadeFor k id ∧ Glimpsed e.service id fresh bare
  state : ∀ id, id < e.service.made.length → (id, e.service.state id) ∈ e.service.past
  entries : ∀ k id r, keeping.entry e.store k = some (id, r) → e.MadeFor k id
  requests : ∀ request ∈ e.requests, e.Grounded keeping bare request
  told : ∀ k id, (k, id) ∈ e.told → e.MadeFor k id

/-- Everything made, seen and stored so far stays so. -/
structure Extends (keeping : Keeping σ κ α β ρ) (before after : Enrolment σ κ α β) : Prop where
  made : before.service.made <+: after.service.made
  past : ∀ row ∈ before.service.past, row ∈ after.service.past
  entries : ∀ k id, (∃ r, keeping.entry before.store k = some (id, r)) →
    ∃ r, keeping.entry after.store k = some (id, r)

section Extends

variable {keeping : Keeping σ κ α β ρ} {bare : β} {before after : Enrolment σ κ α β}

theorem Extends.madeFor (extends_ : Extends keeping before after) {k : κ} {id : Nat}
    (made : before.MadeFor k id) : after.MadeFor k id := by
  obtain ⟨more, whole⟩ := extends_.made
  unfold MadeFor at made ⊢
  rw [← whole]
  exact List.getElem?_append_left (List.getElem?_eq_some_iff.mp made).1 ▸ made

theorem Extends.glimpsed (extends_ : Extends keeping before after) {id : Nat} {first : α}
    {rest : β} (seen : Glimpsed before.service id first rest) :
    Glimpsed after.service id first rest := by
  obtain ⟨⟨b, one⟩, a, other⟩ := seen
  exact ⟨⟨b, extends_.past _ one⟩, a, extends_.past _ other⟩

theorem Extends.grounded (extends_ : Extends keeping before after) {request : Request κ α β}
    (grounded : before.Grounded keeping bare request) : after.Grounded keeping bare request := by
  cases request with
  | creating k => trivial
  | saving k id fresh => exact ⟨extends_.madeFor grounded.1, extends_.glimpsed grounded.2⟩
  | reading k id => exact extends_.entries k id grounded
  | readingRest k id first =>
      obtain ⟨stored, other, seen⟩ := grounded
      exact ⟨extends_.entries k id stored, other, extends_.past _ seen⟩
  | refreshing k id first rest =>
      exact ⟨extends_.entries k id grounded.1, extends_.glimpsed grounded.2⟩

end Extends

/-! ### What a save does -/

section Save

variable {keeping : Keeping σ κ α β ρ} {e : Enrolment σ κ α β} {k : κ} {id : Nat} {r : ρ}

/-- A key keeps the first name saved for it. -/
theorem save_keeps {other : κ} {held : Nat}
    (stored : ∃ old, keeping.entry e.store other = some (held, old)) :
    ∃ later, keeping.entry (keeping.save e.store k id r) other = some (held, later) := by
  obtain ⟨old, stored⟩ := stored
  rw [keeping.entry_save]
  split
  · rename_i same
    rw [← same, stored]
    refine ⟨(keeping.merge (some (held, old)) id r).2, ?_⟩
    exact congrArg some (Prod.ext (keeping.merge_first held old id r) rfl)
  · exact ⟨old, stored⟩

/-- A name in the store after a save was there before or is the one saved. -/
theorem save_origin {other : κ} {found : Nat} {later : ρ}
    (stored : keeping.entry (keeping.save e.store k id r) other = some (found, later)) :
    (∃ old, keeping.entry e.store other = some (found, old)) ∨ other = k ∧ found = id := by
  rw [keeping.entry_save] at stored
  split at stored
  · rename_i same
    cases before : keeping.entry e.store k with
    | none =>
        rw [before, keeping.merge_none] at stored
        exact Or.inr ⟨same, (Prod.mk.inj (Option.some.inj stored)).1.symm⟩
    | some row =>
        refine Or.inl ⟨row.2, ?_⟩
        rw [before] at stored
        have kept : found = row.1 := by
          rw [← keeping.merge_first row.1 row.2 id r, Option.some.inj stored]
        rw [same, before, kept]
  · exact Or.inl ⟨later, stored⟩

end Save

/-! ### What a step keeps -/

section Kept

variable {keeping : Keeping σ κ α β ρ} {bare : β} {e : Enrolment σ κ α β}

theorem Extends.refl (e : Enrolment σ κ α β) : Extends keeping e e :=
  ⟨List.prefix_refl _, fun _ => id, fun _ _ => id⟩

theorem Extends.trans {a b c : Enrolment σ κ α β} (first : Extends keeping a b)
    (second : Extends keeping b c) : Extends keeping a c :=
  ⟨first.made.trans second.made, fun row member => second.past row (first.past row member),
    fun k id stored => second.entries k id (first.entries k id stored)⟩

theorem Extends.same {before after other : Enrolment σ κ α β}
    (extends_ : Extends keeping before after) (store : other.store = after.store)
    (service : other.service = after.service) : Extends keeping before other :=
  ⟨service ▸ extends_.made, service ▸ extends_.past, store ▸ extends_.entries⟩

/-- What only adds requests that are grounded, and tells what is so. -/
theorem Sound.quiet (sound : Sound keeping bare e) {requests : List (Request κ α β)}
    {told : List (κ × Nat)} (grounded : ∀ request ∈ requests, e.Grounded keeping bare request)
    (true_ : ∀ k id, (k, id) ∈ told → e.MadeFor k id) :
    Sound keeping bare { e with requests, told } :=
  ⟨sound.remembered, sound.state, sound.entries, grounded, true_⟩

theorem Sound.begin (sound : Sound keeping bare e) {request : Request κ α β}
    (grounded : e.Grounded keeping bare request) : Sound keeping bare (e.begin request) := by
  refine sound.quiet ?_ sound.told
  intro other member
  rcases List.mem_append.mp member with old | new
  · exact sound.requests other old
  · rw [List.mem_singleton.mp new]
    exact grounded

theorem Sound.tell (sound : Sound keeping bare e) {k : κ} {id : Nat} (made : e.MadeFor k id) :
    Sound keeping bare (e.tell k id) := by
  refine sound.quiet sound.requests ?_
  intro other thing member
  rcases List.mem_append.mp member with old | new
  · exact sound.told other thing old
  · obtain ⟨rfl, rfl⟩ := Prod.mk.inj (List.mem_singleton.mp new)
    exact made

/-- A step of the service that makes, changes or forgets things. -/
theorem Sound.serve (sound : Sound keeping bare e) {service : Service κ α β}
    (made : e.service.made <+: service.made)
    (past : ∀ row ∈ e.service.past, row ∈ service.past)
    (state : ∀ id, id < service.made.length → (id, service.state id) ∈ service.past)
    (remembered : ∀ k id fresh, (k, id, fresh) ∈ service.remembered →
      (k, id, fresh) ∈ e.service.remembered ∨
        service.made[id]? = some k ∧ Glimpsed service id fresh bare) :
    Sound keeping bare { e with service } ∧ Extends keeping e { e with service } := by
  have extended : Extends keeping e { e with service } := ⟨made, past, fun _ _ => id⟩
  refine ⟨⟨?_, state, ?_, ?_, ?_⟩, extended⟩
  · intro k id fresh member
    rcases remembered k id fresh member with old | new
    · obtain ⟨mine, seen⟩ := sound.remembered k id fresh old
      exact ⟨extended.madeFor mine, extended.glimpsed seen⟩
    · exact new
  · exact fun k id r stored => extended.madeFor (sound.entries k id r stored)
  · exact fun request member => extended.grounded (sound.requests request member)
  · exact fun k id member => extended.madeFor (sound.told k id member)

theorem Sound.make (sound : Sound keeping bare e) (k : κ) (fresh : α) :
    Sound keeping bare { e with service := e.service.make bare k fresh } ∧
      Extends keeping e { e with service := e.service.make bare k fresh } ∧
      (e.service.make bare k fresh).made[e.service.made.length]? = some k ∧
      Glimpsed (e.service.make bare k fresh) e.service.made.length fresh bare := by
  have new : (e.service.make bare k fresh).made[e.service.made.length]? = some k := by
    simp [Service.make]
  have last : (e.service.made.length, fresh, bare) ∈ (e.service.make bare k fresh).past :=
    List.mem_append_right _ (List.mem_singleton_self _)
  have seen : Glimpsed (e.service.make bare k fresh) e.service.made.length fresh bare :=
    ⟨⟨bare, last⟩, fresh, last⟩
  have kept : Sound keeping bare { e with service := e.service.make bare k fresh } ∧
      Extends keeping e { e with service := e.service.make bare k fresh } := by
    refine sound.serve (List.prefix_append _ _)
      (fun row member => List.mem_append_left _ member) ?_ ?_
    · intro id less
      simp only [Service.make, List.length_append, List.length_singleton] at less ⊢
      split
      · rename_i same
        rw [same]
        exact List.mem_append_right _ (List.mem_singleton_self _)
      · exact List.mem_append_left _ (sound.state id (by omega))
    · intro other id first member
      rcases List.mem_append.mp member with old | added
      · exact Or.inl old
      · obtain ⟨rfl, rest⟩ := Prod.mk.inj (List.mem_singleton.mp added)
        obtain ⟨rfl, rfl⟩ := Prod.mk.inj rest
        exact Or.inr ⟨new, seen⟩
  exact ⟨kept.1, kept.2, new, seen⟩

theorem Sound.create (sound : Sound keeping bare e) (k : κ) (fresh : α) :
    let made := e.service.create bare k fresh
    Sound keeping bare { e with service := made.1 } ∧
      Extends keeping e { e with service := made.1 } ∧
      made.1.made[made.2.1]? = some k ∧ Glimpsed made.1 made.2.1 made.2.2 bare := by
  intro made
  simp only [made, Service.create]
  split
  · rename_i row found
    have mine : row.1 = k := by simpa using List.find?_some found
    obtain ⟨owned, seen⟩ :=
      sound.remembered row.1 row.2.1 row.2.2 (List.mem_of_find?_eq_some found)
    exact ⟨sound, .refl e, mine ▸ owned, seen⟩
  · exact sound.make k fresh

/-- A save of a thing for the key it was made for. -/
theorem Sound.save (sound : Sound keeping bare e) {k : κ} {id : Nat} (made : e.MadeFor k id)
    (r : ρ) :
    Sound keeping bare { e with store := keeping.save e.store k id r } ∧
      Extends keeping e { e with store := keeping.save e.store k id r } := by
  have extended : Extends keeping e { e with store := keeping.save e.store k id r } :=
    ⟨List.prefix_refl _, fun _ member => member, fun _ _ => save_keeps⟩
  refine ⟨⟨sound.remembered, sound.state, ?_, ?_, sound.told⟩, extended⟩
  · intro other found later stored
    rcases save_origin stored with ⟨old, before⟩ | ⟨rfl, rfl⟩
    · exact sound.entries other found old before
    · exact made
  · exact fun request member => extended.grounded (sound.requests request member)

/-- A request that is grounded goes on. -/
theorem Sound.advance (sound : Sound keeping bare e) (fresh : α) {request : Request κ α β}
    (grounded : e.Grounded keeping bare request) :
    Sound keeping bare (e.advance keeping bare fresh request) ∧
      Extends keeping e (e.advance keeping bare fresh request) := by
  cases request with
  | creating k =>
      obtain ⟨next, extended, mine, seen⟩ := sound.create k fresh
      exact ⟨next.begin ⟨mine, seen⟩, extended.same rfl rfl⟩
  | saving k id first =>
      obtain ⟨next, extended⟩ := sound.save grounded.1 (keeping.project first bare)
      refine ⟨next.tell ?_, extended.same rfl rfl⟩
      split
      · cases before : keeping.entry e.store k with
        | none =>
            rw [keeping.merge_none]
            exact grounded.1
        | some row =>
            rw [keeping.merge_first]
            exact sound.entries k row.1 row.2 before
      · exact grounded.1
  | reading k id =>
      obtain ⟨r, stored⟩ := grounded
      have bound := (List.getElem?_eq_some_iff.mp (sound.entries k id r stored)).1
      exact ⟨sound.begin ⟨⟨r, stored⟩, (e.service.state id).2, sound.state id bound⟩,
        (Extends.refl e).same rfl rfl⟩
  | readingRest k id first =>
      obtain ⟨⟨r, stored⟩, seen⟩ := grounded
      have bound := (List.getElem?_eq_some_iff.mp (sound.entries k id r stored)).1
      exact ⟨sound.begin ⟨⟨r, stored⟩, seen, (e.service.state id).1, sound.state id bound⟩,
        (Extends.refl e).same rfl rfl⟩
  | refreshing k id first rest =>
      obtain ⟨r, stored⟩ := grounded.1
      exact sound.save (sound.entries k id r stored) (keeping.project first rest)

/-- Nothing has happened yet. -/
def start (store : σ) (state : α × β) : Enrolment σ κ α β := ⟨store, .empty state, [], []⟩

theorem Sound.start {store : σ} (empty : ∀ k, keeping.entry store k = none) (state : α × β) :
    Sound keeping bare (start store state) := by
  refine ⟨?_, ?_, ?_, ?_, ?_⟩
  · intro k id fresh member
    cases member
  · intro id less
    cases less
  · intro k id r stored
    cases (empty k).symm.trans stored
  · intro request member
    cases member
  · intro k id member
    cases member

/-! ### What they are told -/

/-- Where they are told what is stored, it is. -/
def TellsStored (keeping : Keeping σ κ α β ρ) (e : Enrolment σ κ α β) : Prop :=
  ∀ k id, (k, id) ∈ e.told → ∃ r, keeping.entry e.store k = some (id, r)

/-- The service remembers what it made for a key, be it stored yet or not. -/
structure Remembers (keeping : Keeping σ κ α β ρ) (e : Enrolment σ κ α β) : Prop where
  one : ∀ k id other a b, (k, id, a) ∈ e.service.remembered →
    (k, other, b) ∈ e.service.remembered → id = other
  saving : ∀ k id fresh, .saving k id fresh ∈ e.requests →
    ∃ a, (k, id, a) ∈ e.service.remembered
  entries : ∀ k id r, keeping.entry e.store k = some (id, r) →
    ∃ a, (k, id, a) ∈ e.service.remembered

theorem Remembers.start {store : σ} (empty : ∀ k, keeping.entry store k = none) (state : α × β) :
    Remembers keeping (start store state) := by
  refine ⟨?_, ?_, ?_⟩
  · intro k id other a b member
    cases member
  · intro k id fresh member
    cases member
  · intro k id r stored
    cases (empty k).symm.trans stored

/-- What is saved for a key is its own thing, or the row stays as it was. -/
def Fits (keeping : Keeping σ κ α β ρ) (e : Enrolment σ κ α β) (k : κ) (id : Nat) : Prop :=
  ∀ held old, keeping.entry e.store k = some (held, old) →
    held = id ∨ ∀ r, keeping.merge (some (held, old)) id r = (held, old)

/-- Every row shows what was read off the thing it names. -/
def Shows (keeping : Keeping σ κ α β ρ) (e : Enrolment σ κ α β) : Prop :=
  ∀ k id r, keeping.entry e.store k = some (id, r) →
    ∃ first rest, r = keeping.project first rest ∧ Glimpsed e.service id first rest

theorem Shows.save (shows_ : Shows keeping e) {k : κ} {id : Nat} {first : α} {rest : β}
    (fits : Fits keeping e k id) (seen : Glimpsed e.service id first rest) :
    Shows keeping { e with store := keeping.save e.store k id (keeping.project first rest) } := by
  intro other found later stored
  dsimp only at stored
  rw [keeping.entry_save] at stored
  split at stored
  · cases before : keeping.entry e.store k with
    | none =>
        rw [before, keeping.merge_none] at stored
        obtain ⟨rfl, rfl⟩ := Prod.mk.inj (Option.some.inj stored)
        exact ⟨first, rest, rfl, seen⟩
    | some row =>
        rw [before] at stored
        rcases fits row.1 row.2 before with same | kept
        · obtain ⟨held, old⟩ := row
          subst same
          rw [keeping.merge_same] at stored
          obtain ⟨rfl, rfl⟩ := Prod.mk.inj (Option.some.inj stored)
          exact ⟨first, rest, rfl, seen⟩
        · rw [kept] at stored
          obtain ⟨rfl, rfl⟩ := Prod.mk.inj (Option.some.inj stored)
          exact shows_ k row.1 row.2 before
  · exact shows_ other found later stored

theorem Remembers.fits (remembers : Remembers keeping e) {k : κ} {id : Nat} {fresh : α}
    (member : .saving k id fresh ∈ e.requests) : Fits keeping e k id := by
  intro held old stored
  obtain ⟨a, mine⟩ := remembers.saving k id fresh member
  obtain ⟨b, other⟩ := remembers.entries k held old stored
  exact Or.inl (remembers.one k held id b a other mine)

/-- A service that makes a thing for a key knows none for it. -/
theorem Remembers.create (remembers : Remembers keeping e) (k : κ) (fresh : α) :
    let made := e.service.create bare k fresh
    (∀ row ∈ e.service.remembered, row ∈ made.1.remembered) ∧
      (k, made.2.1, made.2.2) ∈ made.1.remembered ∧
      ∀ other id third a b, (other, id, a) ∈ made.1.remembered →
        (other, third, b) ∈ made.1.remembered → id = third := by
  intro made
  simp only [made, Service.create]
  split
  · rename_i row found
    have mine : row.1 = k := by simpa using List.find?_some found
    exact ⟨fun _ member => member, mine ▸ List.mem_of_find?_eq_some found, remembers.one⟩
  · rename_i absent
    refine ⟨fun _ member => List.mem_append_left _ member,
      List.mem_append_right _ (List.mem_singleton_self _), ?_⟩
    have unknown (id : Nat) (a : α) : (k, id, a) ∉ e.service.remembered := by
      intro member
      have different := List.find?_eq_none.mp absent _ member
      exact different (decide_eq_true rfl)
    intro other id third a b one two
    rcases List.mem_append.mp one with old | new
    · rcases List.mem_append.mp two with older | newer
      · exact remembers.one other id third a b old older
      · obtain ⟨rfl, _⟩ := Prod.mk.inj (List.mem_singleton.mp newer)
        exact (unknown id a old).elim
    · obtain ⟨rfl, rest⟩ := Prod.mk.inj (List.mem_singleton.mp new)
      rcases List.mem_append.mp two with older | newer
      · exact (unknown third b older).elim
      · obtain ⟨_, more⟩ := Prod.mk.inj (List.mem_singleton.mp newer)
        exact (Prod.mk.inj rest).1.trans (Prod.mk.inj more).1.symm

theorem Remembers.begin (remembers : Remembers keeping e) {request : Request κ α β}
    (saves : ∀ k id fresh, request = .saving k id fresh →
      ∃ a, (k, id, a) ∈ e.service.remembered) : Remembers keeping (e.begin request) := by
  refine ⟨remembers.one, ?_, remembers.entries⟩
  intro k id fresh member
  rcases List.mem_append.mp member with old | new
  · exact remembers.saving k id fresh old
  · exact saves k id fresh (List.mem_singleton.mp new).symm

theorem Remembers.save (remembers : Remembers keeping e) {k : κ} {id : Nat} {r : ρ}
    (known : ∃ a, (k, id, a) ∈ e.service.remembered) :
    Remembers keeping { e with store := keeping.save e.store k id r } := by
  refine ⟨remembers.one, remembers.saving, ?_⟩
  intro other found later stored
  rcases save_origin stored with ⟨old, before⟩ | ⟨rfl, rfl⟩
  · exact remembers.entries other found old before
  · exact known

end Kept

section Steps

variable [DecidableEq α] [DecidableEq β] {keeping : Keeping σ κ α β ρ} {bare : β}
  {e : Enrolment σ κ α β}

theorem Sound.land (sound : Sound keeping bare e) (request : Request κ α β) :
    Sound keeping bare { e with requests := e.requests.erase request } :=
  sound.quiet (fun other member => sound.requests other (List.mem_of_mem_erase member)) sound.told

theorem Sound.step (sound : Sound keeping bare e) (op : Op κ α β) :
    Sound keeping bare (e.step keeping bare op) ∧ Extends keeping e (e.step keeping bare op) := by
  cases op with
  | ask k =>
      simp only [Enrolment.step]
      split
      · rename_i id r stored
        exact ⟨sound.tell (sound.entries k id r stored), (Extends.refl e).same rfl rfl⟩
      · exact ⟨sound.begin trivial, (Extends.refl e).same rfl rfl⟩
  | refresh k =>
      simp only [Enrolment.step]
      split
      · rename_i id r stored
        exact ⟨sound.begin ⟨r, stored⟩, (Extends.refl e).same rfl rfl⟩
      · exact ⟨sound, .refl e⟩
  | advance request fresh =>
      simp only [Enrolment.step]
      split
      · rename_i member
        obtain ⟨next, extended⟩ := (sound.land request).advance fresh
          (sound.requests request member)
        exact ⟨next, extended.made, extended.past, extended.entries⟩
      · exact ⟨sound, .refl e⟩
  | die request => exact ⟨sound.land request, (Extends.refl e).same rfl rfl⟩
  | change id state =>
      simp only [Enrolment.step]
      split
      · rename_i bound
        refine sound.serve (List.prefix_refl _) (fun row member => List.mem_append_left _ member)
          ?_ fun k id fresh => Or.inl
        intro other less
        simp only [Service.change] at less ⊢
        split
        · rename_i same
          rw [same]
          exact List.mem_append_right _ (List.mem_singleton_self _)
        · exact List.mem_append_left _ (sound.state other less)
      · exact ⟨sound, .refl e⟩
  | forget k =>
      refine sound.serve (List.prefix_refl _) (fun row member => member) sound.state ?_
      exact fun other id fresh member => Or.inl (List.mem_filter.mp member).1

/-! ### Runs -/

theorem store_step (e : Enrolment σ κ α β) (op : Op κ α β) :
    (e.step keeping bare op).store = e.store ∨
      ∃ k id r, (e.step keeping bare op).store = keeping.save e.store k id r := by
  cases op with
  | advance request fresh =>
      simp only [Enrolment.step]
      split
      · cases request with
        | saving k id first => exact Or.inr ⟨k, id, _, rfl⟩
        | refreshing k id first rest => exact Or.inr ⟨k, id, _, rfl⟩
        | _ => exact Or.inl rfl
      · exact Or.inl rfl
  | die request => exact Or.inl rfl
  | forget k => exact Or.inl rfl
  | _ =>
      simp only [Enrolment.step]
      split
      · exact Or.inl rfl
      · exact Or.inl rfl

/-- What saves keep of the store, runs keep. -/
theorem store_run (holds : σ → Prop)
    (saves : ∀ s k id r, holds s → holds (keeping.save s k id r)) (initial : holds e.store)
    (ops : List (Op κ α β)) : holds (Library.run (Enrolment.step keeping bare) e ops).store := by
  induction ops generalizing e with
  | nil => exact initial
  | cons op rest ih =>
      refine ih ?_
      rcases @store_step _ _ _ _ _ _ _ _ keeping bare e op with same | ⟨k, id, r, same⟩
      · rw [same]
        exact initial
      · rw [same]
        exact saves e.store k id r initial

theorem Sound.run (sound : Sound keeping bare e) (ops : List (Op κ α β)) :
    Sound keeping bare (Library.run (Enrolment.step keeping bare) e ops) ∧
      Extends keeping e (Library.run (Enrolment.step keeping bare) e ops) := by
  induction ops generalizing e with
  | nil => exact ⟨sound, .refl e⟩
  | cons op rest ih =>
      obtain ⟨next, extended⟩ := sound.step op
      obtain ⟨last, further⟩ := ih next
      exact ⟨last, extended.trans further⟩

/-- The service forgets what it has made for a key. -/
def Op.forgets : Op κ α β → Bool
  | .forget _ => true
  | _ => false

theorem Remembers.land (remembers : Remembers keeping e) (request : Request κ α β) :
    Remembers keeping { e with requests := e.requests.erase request } :=
  ⟨remembers.one,
    fun k id fresh member => remembers.saving k id fresh (List.mem_of_mem_erase member),
    remembers.entries⟩

theorem Remembers.step (remembers : Remembers keeping e) (sound : Sound keeping bare e)
    {op : Op κ α β} (keeps : op.forgets = false) :
    Remembers keeping (e.step keeping bare op) := by
  have plain {request : Request κ α β} (other : ∀ k id fresh, request ≠ .saving k id fresh) :
      Remembers keeping (e.begin request) :=
    remembers.begin fun k id fresh same => (other k id fresh same).elim
  cases op with
  | ask k =>
      simp only [Enrolment.step]
      split
      · exact ⟨remembers.one, remembers.saving, remembers.entries⟩
      · exact plain (fun _ _ _ same => by cases same)
  | refresh k =>
      simp only [Enrolment.step]
      split
      · exact plain (fun _ _ _ same => by cases same)
      · exact remembers
  | advance request fresh =>
      simp only [Enrolment.step]
      split
      · rename_i member
        have landed := remembers.land request
        cases request with
        | creating k =>
            obtain ⟨grows, made, one⟩ := @Remembers.create _ _ _ _ _ _ _ bare _ landed k fresh
            refine Remembers.begin ⟨one, ?_, ?_⟩ ?_
            · intro other id first flying
              obtain ⟨a, known⟩ := landed.saving other id first flying
              exact ⟨a, grows _ known⟩
            · intro other id r stored
              obtain ⟨a, known⟩ := landed.entries other id r stored
              exact ⟨a, grows _ known⟩
            · intro other id first same
              obtain ⟨rfl, rfl, rfl⟩ := Request.saving.inj same
              exact ⟨_, made⟩
        | saving k id first =>
            have saved := landed.save (r := keeping.project first bare)
              (remembers.saving k id first member)
            exact ⟨saved.one, saved.saving, saved.entries⟩
        | reading k id =>
            exact landed.begin fun _ _ _ same => by cases same
        | readingRest k id first =>
            exact landed.begin fun _ _ _ same => by cases same
        | refreshing k id first rest =>
            obtain ⟨r, stored⟩ := (sound.requests _ member).1
            exact landed.save (remembers.entries k id r stored)
      · exact remembers
  | die request => exact remembers.land request
  | change id state =>
      simp only [Enrolment.step]
      split
      · exact ⟨remembers.one, remembers.saving, remembers.entries⟩
      · exact remembers
  | forget k => cases keeps

/-- Whoever is told what is stored, or what the service remembers, is told what is stored. -/
theorem TellsStored.step (tells : TellsStored keeping e) (sound : Sound keeping bare e)
    (agrees : keeping.tellsStored = true ∨ Remembers keeping e) (op : Op κ α β) :
    TellsStored keeping (e.step keeping bare op) := by
  have kept : ∀ k id, (k, id) ∈ e.told →
      ∃ r, keeping.entry (e.step keeping bare op).store k = some (id, r) :=
    fun k id member => (sound.step op).2.entries k id (tells k id member)
  cases op with
  | ask k =>
      simp only [Enrolment.step] at kept ⊢
      split
      · rename_i id r stored
        intro other thing member
        rcases List.mem_append.mp member with old | new
        · exact tells other thing old
        · obtain ⟨rfl, rfl⟩ := Prod.mk.inj (List.mem_singleton.mp new)
          exact ⟨r, stored⟩
      · exact tells
  | refresh k =>
      simp only [Enrolment.step] at kept ⊢
      split
      · exact tells
      · exact tells
  | advance request fresh =>
      simp only [Enrolment.step] at kept ⊢
      split
      · rename_i member
        rw [if_pos member] at kept
        cases request with
        | saving k id first =>
            intro other thing told
            rcases List.mem_append.mp told with old | new
            · exact kept other thing old
            · obtain ⟨rfl, rfl⟩ := Prod.mk.inj (List.mem_singleton.mp new)
              simp only [advance, tell, keeping.entry_save, if_pos]
              split
              · exact ⟨_, rfl⟩
              · rename_i untold
                have remembers := agrees.resolve_left untold
                cases before : keeping.entry e.store other with
                | none => exact ⟨_, congrArg some (keeping.merge_none id _)⟩
                | some row =>
                    obtain ⟨held, old⟩ := row
                    let record := keeping.project first bare
                    refine ⟨(keeping.merge (some (held, old)) id record).2, ?_⟩
                    refine congrArg some (Prod.ext ?_ rfl)
                    rw [keeping.merge_first]
                    obtain ⟨a, mine⟩ := remembers.saving other id first member
                    obtain ⟨b, theirs⟩ := remembers.entries other held old before
                    exact remembers.one other held id b a theirs mine
        | creating k => exact kept
        | reading k id => exact kept
        | readingRest k id first => exact kept
        | refreshing k id first rest => exact kept
      · exact tells
  | die request => exact tells
  | change id state =>
      simp only [Enrolment.step] at kept ⊢
      split
      · exact tells
      · exact tells
  | forget k => exact tells

/-- Rows show their own things as long as saves of other things are turned down, or none come. -/
theorem Shows.step (shows_ : Shows keeping e) (sound : Sound keeping bare e)
    (careful : (∀ held old id r, held ≠ id → keeping.merge (some (held, old)) id r = (held, old)) ∨
      Remembers keeping e) (op : Op κ α β) :
    Shows keeping (e.step keeping bare op) := by
  have extended := (sound.step op).2
  have still (same : (e.step keeping bare op).store = e.store) :
      Shows keeping (e.step keeping bare op) := by
    intro k id r stored
    rw [same] at stored
    obtain ⟨first, rest, shown, seen⟩ := shows_ k id r stored
    exact ⟨first, rest, shown, extended.glimpsed seen⟩
  cases op with
  | advance request fresh =>
      simp only [Enrolment.step] at still ⊢
      split
      · rename_i member
        rw [if_pos member] at still
        have grounded := sound.requests request member
        cases request with
        | saving k id first =>
            have fits : Fits keeping e k id := by
              rcases careful with turned | remembers
              · intro held old _
                by_cases same : held = id
                · exact Or.inl same
                · exact Or.inr fun r => turned held old id r same
              · exact remembers.fits member
            exact shows_.save fits grounded.2
        | refreshing k id first rest =>
            obtain ⟨r, stored⟩ := grounded.1
            have fits : Fits keeping e k id := by
              intro held old found
              exact Or.inl (Prod.mk.inj (Option.some.inj (found.symm.trans stored))).1
            exact shows_.save fits grounded.2
        | creating k => exact still rfl
        | reading k id => exact still rfl
        | readingRest k id first => exact still rfl
      · exact shows_
  | ask k =>
      simp only [Enrolment.step] at still ⊢
      split
      · exact shows_
      · exact shows_
  | refresh k =>
      simp only [Enrolment.step] at still ⊢
      split
      · exact shows_
      · exact shows_
  | die request => exact shows_
  | change id state =>
      apply still
      simp only [Enrolment.step]
      split
      · rfl
      · rfl
  | forget k => exact shows_

/-- What steps keep, of a service that remembers or always, whole runs keep. -/
theorem Sound.run_keeps {always : Prop} (holds : Enrolment σ κ α β → Prop)
    (keeps : ∀ (e : Enrolment σ κ α β) op, Sound keeping bare e →
      always ∨ Remembers keeping e → holds e → holds (e.step keeping bare op))
    (sound : Sound keeping bare e) (initial : holds e) {ops : List (Op κ α β)}
    (agrees : always ∨ Remembers keeping e ∧ ∀ op ∈ ops, op.forgets = false) :
    holds (Library.run (Enrolment.step keeping bare) e ops) := by
  induction ops generalizing e with
  | nil => exact initial
  | cons op rest ih =>
      refine ih (sound.step op).1 (keeps e op sound (agrees.imp_right And.left) initial) ?_
      rcases agrees with is | ⟨remembers, all⟩
      · exact Or.inl is
      · exact Or.inr ⟨remembers.step sound (all op List.mem_cons_self),
          fun other member => all other (List.mem_cons_of_mem _ member)⟩

/-- Everyone is told the thing that is stored for their key: always where they are told what is
stored, and otherwise as long as the service doesn't forget. -/
theorem told_stored {store : σ} (empty : ∀ k, keeping.entry store k = none) (state : α × β)
    {ops : List (Op κ α β)}
    (agrees : keeping.tellsStored = true ∨ ∀ op ∈ ops, op.forgets = false) :
    TellsStored keeping (Library.run (Enrolment.step keeping bare) (start store state) ops) := by
  refine Sound.run_keeps (TellsStored keeping)
    (fun e op sound agrees tells => tells.step sound agrees op) (.start empty state) ?_
    (agrees.imp_right fun all => ⟨.start empty state, all⟩)
  intro k id member
  cases member

/-- Where they are told what is stored, a key is never told two things. -/
theorem told_same {store : σ} (empty : ∀ k, keeping.entry store k = none) (state : α × β)
    (stored : keeping.tellsStored = true) (ops more : List (Op κ α β)) {k : κ} {id other : Nat}
    (first : (k, id) ∈ (Library.run (Enrolment.step keeping bare) (start store state) ops).told)
    (second : (k, other) ∈ (Library.run (Enrolment.step keeping bare)
      (Library.run (Enrolment.step keeping bare) (start store state) ops) more).told) :
    id = other := by
  rw [← run_append] at second
  obtain ⟨r, here⟩ := told_stored empty state (Or.inl stored) k id first
  obtain ⟨later, there⟩ := told_stored empty state (Or.inl stored) k other second
  have sound := ((Sound.start empty state : Sound keeping bare (start store state)).run ops)
  obtain ⟨kept, still⟩ := (sound.1.run more).2.entries k id ⟨r, here⟩
  rw [← run_append] at still
  exact (Prod.mk.inj (Option.some.inj (still.symm.trans there))).1

/-- Every row shows what was read off its own thing: always where saves of another thing are turned
down, and otherwise as long as the service doesn't forget. -/
theorem rows_shown {store : σ} (empty : ∀ k, keeping.entry store k = none) (state : α × β)
    {ops : List (Op κ α β)}
    (careful : (∀ held old id r, held ≠ id → keeping.merge (some (held, old)) id r = (held, old)) ∨
      ∀ op ∈ ops, op.forgets = false) :
    Shows keeping (Library.run (Enrolment.step keeping bare) (start store state) ops) := by
  refine Sound.run_keeps (Shows keeping)
    (fun e op sound careful shown => shown.step sound careful op) (.start empty state) ?_
    (careful.imp_right fun all => ⟨.start empty state, all⟩)
  intro k id r stored
  cases (empty k).symm.trans stored

end Steps

end Enrolment

end Library
