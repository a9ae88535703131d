import Bling.Library.Json
import Bling.Library.Paging

set_option autoImplicit false

namespace Bling.Directory

open Library

/-! The directory of creators, from `social.go` and `store.go`. Strings are their bytes. -/

abbrev Bytes := List UInt8

/-! ### `social.go` -/

abbrev Uuid := Fin (2 ^ 128)

/-- The sizes of the groups between the dashes. -/
def uuidGroups : List Nat := [8, 4, 4, 4, 12]

def writeGroups : List Nat → Bytes → Bytes
  | [], _ => []
  | [size], digits => digits.take size
  | size :: next :: rest, digits =>
    digits.take size ++ 45 :: writeGroups (next :: rest) (digits.drop size)

def matchGroups : List Nat → Bytes → Bool
  | [], text => text == []
  | [size], text => text.length == size && text.all fun byte => (hexDigit byte).isSome
  | size :: next :: rest, text =>
    (text.take size).length == size && (text.take size).all (fun byte => (hexDigit byte).isSome) &&
      (text.drop size).head? == some 45 && matchGroups (next :: rest) (text.drop (size + 1))

def Uuid.text (id : Uuid) : Bytes := writeGroups uuidGroups ((toDigits 16 32 id).map hexByte)

def uuidPattern (text : Bytes) : Bool := matchGroups uuidGroups text

/-- The number of a text that has the pattern. -/
def uuidOf (text : Bytes) : Nat := ofDigits 16 (text.filterMap hexDigit)

/-- A row of `creator_profiles`; its `follower_count` is a bigint that is not negative. -/
structure Profile where
  id : Uuid
  username : Bytes
  displayName : Bytes
  bio : Bytes
  avatarURL : Bytes
  coverURL : Bytes
  published : Bool
  followerCount : Fin (2 ^ 63)
  isLive : Bool
  liveShowID : Option Uuid
  liveStartedAt : Option Nat
deriving DecidableEq

structure ListOptions where
  query : Bytes
  cursor : Bytes
  live : Bool
  following : Bool
  limit : Int
deriving DecidableEq

structure Page where
  items : List Profile
  nextCursor : Bytes
deriving DecidableEq

structure DirectoryCursor where
  live : Bool
  count : Int
  id : Bytes
  scope : Bytes
deriving DecidableEq

inductive Failure where
  | invalid
  /-- A query that the database refuses. -/
  | database
deriving DecidableEq

/-- `hex.EncodeToString`. -/
def hexText (bytes : Bytes) : Bytes :=
  bytes.flatMap fun byte => [hexByte (byte.toNat / 16), hexByte (byte.toNat % 16)]

/-- What an object's member does to a cursor; `null` leaves a field as it is. -/
def DirectoryCursor.set (c : DirectoryCursor) (member : Bytes × Json) : Option DirectoryCursor :=
  let name := Json.foldName member.1
  match member.2 with
  | .null => some c
  | value =>
    if name = ascii ['L'] then
      match value with
      | .bool live => some { c with live }
      | _ => none
    else if name = ascii ['N'] then
      match value with
      | .number text => (Json.toInt64 text).map fun count => { c with count }
      | _ => none
    else if name = ascii ['I', 'D'] then
      match value with
      | .string raw => some { c with id := Json.unquoteFrom 0 raw }
      | _ => none
    else if name = ascii ['S'] then
      match value with
      | .string raw => some { c with scope := Json.unquoteFrom 0 raw }
      | _ => none
    else some c

/-- `json.Unmarshal`. -/
def DirectoryCursor.unmarshal (text : Bytes) : Option DirectoryCursor :=
  let empty : DirectoryCursor := { live := false, count := 0, id := [], scope := [] }
  match Json.parse text with
  | some (.object members) => members.foldlM DirectoryCursor.set empty
  | some .null => some empty
  | _ => none

/-- `json.Marshal`. -/
def DirectoryCursor.marshal (c : DirectoryCursor) : Bytes :=
  Json.encodeObject
    [(ascii ['l'], Json.encodeBool c.live),
      (ascii ['n'], itoa c.count), (ascii ['i', 'd'], Json.quote c.id),
      (ascii ['s'], Json.quote c.scope)]

def encodeCursor (c : DirectoryCursor) : Bytes := Base64.encode c.marshal

section

variable (sum256 : Bytes → Bytes)

def ListOptions.scope (o : ListOptions) : Bytes :=
  let b := 91 :: Json.quote o.query ++ 44 :: Json.encodeBool o.live ++
    44 :: Json.encodeBool o.following ++ [93]
  hexText ((sum256 b).take 8)

def ListOptions.decodeCursor (o : ListOptions) : Except Failure (Option DirectoryCursor) :=
  if o.cursor = [] then .ok none
  else match (Base64.decode o.cursor).bind DirectoryCursor.unmarshal with
    | none => .error .invalid
    | some c =>
      if ¬ uuidPattern c.id ∨ c.count < 0 ∨ c.scope ≠ o.scope sum256 then .error .invalid
      else .ok (some c)

/-- It trims the query and fills in the limit. -/
def ListOptions.validate (o : ListOptions) : Except Failure ListOptions :=
  let o := { o with query := trimSpace o.query, limit := if o.limit = 0 then 24 else o.limit }
  if o.limit < 1 ∨ 50 < o.limit ∨ 80 < (runes o.query).length ∨ 512 < o.cursor.length then
    .error .invalid
  else (o.decodeCursor sum256).map fun _ => o

/-! ### `store.go` -/

structure CreatorFollow where
  followerId : Uuid
  creatorId : Uuid
deriving DecidableEq

/-- The tables, with their primary keys. -/
structure Tables where
  profiles : List Profile
  follows : List CreatorFollow
  oneProfile : (profiles.map Profile.id).Nodup
  oneFollow : follows.Nodup

/-- `(is_live, follower_count, user_id)`, compared row-wise. -/
abbrev Rank := Bool × Int × Nat

def rowLess (a b : Rank) : Prop :=
  a.1 < b.1 ∨ (a.1 = b.1 ∧ (a.2.1 < b.2.1 ∨ (a.2.1 = b.2.1 ∧ a.2.2 < b.2.2)))

instance : DecidableRel rowLess := fun _ _ => inferInstanceAs (Decidable (_ ∨ _))

def Profile.rank (p : Profile) : Rank := (p.isLive, p.followerCount.val, p.id.val)

def DirectoryCursor.rank (c : DirectoryCursor) : Rank := (c.live, c.count, uuidOf c.id)

/-- `ORDER BY p.is_live DESC, p.follower_count DESC, p.user_id DESC`. -/
def ranked (a b : Rank) : Prop := rowLess b a

instance : DecidableRel ranked := fun a b => inferInstanceAs (Decidable (rowLess b a))

/-- The `FROM`; an empty text is no `uuid` for the join. -/
def Tables.source (db : Tables) (following : Bool) (userID : Option Uuid) :
    Except Failure (List Profile) :=
  if following then
    match userID with
    | none => .error .database
    | some userID => .ok (db.profiles.flatMap fun p =>
        (db.follows.filter fun f => f.creatorId == p.id && f.followerId == userID).map fun _ => p)
  else .ok db.profiles

/-- `search` is the full-text match of the database, for the queries it takes. -/
def matching (search : Bytes → Option (Profile → Bool)) (query : Bytes) :
    Except Failure (Profile → Bool) :=
  if query = [] then .ok fun _ => true
  else match search query with
    | none => .error .database
    | some found => .ok found

/-- One row more than the limit tells whether there is a next page. -/
def cutPage (o : ListOptions) (rows : List Profile) : Page :=
  if o.limit.toNat < rows.length then
    let items := rows.take o.limit.toNat
    { items
      nextCursor := match items.getLast? with
        | none => []
        | some last => encodeCursor
            { live := last.isLive, count := last.followerCount.val, id := last.id.text
              scope := o.scope sum256 } }
  else { items := rows, nextCursor := [] }

def Tables.list (search : Bytes → Option (Profile → Bool)) (db : Tables) (o : ListOptions)
    (userID : Option Uuid) : Except Failure Page := do
  let cursor ← o.decodeCursor sum256
  let rows ← db.source o.following userID
  let found ← matching search o.query
  let rows := rows.filter fun p => p.published && (!o.live || p.isLive) && found p &&
    cursor.all fun c => decide (rowLess p.rank c.rank)
  .ok (cutPage sum256 o ((inOrder ranked Profile.rank rows).take (o.limit.toNat + 1)))

/-- A page as the service lists it: the options are validated first. -/
def Tables.page (search : Bytes → Option (Profile → Bool)) (db : Tables) (o : ListOptions)
    (userID : Option Uuid) : Except Failure Page := do
  let o ← o.validate sum256
  db.list sum256 search o userID

end

end Bling.Directory
