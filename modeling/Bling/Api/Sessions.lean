import Bling.Backend
import Bling.Library.Machine
import Bling.Library.Table

set_option autoImplicit false

namespace Bling.Api.Auth

open Library

/-! The sessions of `auth/provider_service.go` and `auth/provider_store.go`: calls
that read, refresh, rotate and revoke, interleaved at each call of the store or
the identity provider. -/

/-! ### The provider's tokens -/

abbrev RefreshToken := Nat

/-- The row of a session stands for the hash of its token, which is unique. -/
abbrev TokenHash := Nat

inductive ProviderError where
  | invalidIdentityToken | invalidCredentials
  /-- The provider is unavailable, or limits the rate. -/
  | other
deriving DecidableEq

structure IdentityTokens where
  accessToken : Option Nat
  refreshToken : Option RefreshToken
  expiresAt : Option Time

/-- The identity's id with its new tokens, or an error. -/
abbrev Answer := Except ProviderError (UserId × IdentityTokens)

/-- The versions of a keyring; its first key encrypts. -/
structure TokenCipher where
  active : Nat
  keys : List Nat
  listed : active ∈ keys

structure EncryptedToken where
  version : Nat
  nonce : Nat
  token : RefreshToken
deriving DecidableEq

def TokenCipher.sealed (cipher : TokenCipher) (nonce : Nat) (token : RefreshToken) :
    EncryptedToken :=
  ⟨cipher.active, nonce, token⟩

def TokenCipher.opened (cipher : TokenCipher) (value : EncryptedToken) : Option RefreshToken :=
  if value.version ∈ cipher.keys then some value.token else none

@[simp] theorem opened_sealed (cipher : TokenCipher) (nonce : Nat) (token : RefreshToken) :
    cipher.opened (cipher.sealed nonce token) = some token :=
  if_pos cipher.listed

def encryptRefreshToken (cipher : TokenCipher) (nonce : Nat) (tokens : IdentityTokens) :
    Option (EncryptedToken × Time) :=
  match tokens.refreshToken, tokens.expiresAt with
  | some token, some expiresAt => some (cipher.sealed nonce token, expiresAt)
  | _, _ => none

/-! ### The store -/

structure Session where
  userId : UserId
  encryptedRefreshToken : EncryptedToken
  providerAccessExpiresAt : Time
  providerValidatedAt : Time
  expiresAt : Time
  revokedAt : Option Time

structure RecoveryGrant where
  userId : UserId
  encryptedAccessToken : EncryptedToken
  expiresAt : Time
  usedAt : Option Time

def providerSessionByToken (sessions : Table Session) (tokenHash : TokenHash) (now : Time) :
    Option Session :=
  (sessions.get tokenHash).filter fun session => now < session.expiresAt &&
    session.revokedAt == none

/-- The update of `RotateProviderSession` concerns the row. -/
def Session.rotates (session : Session) (previous : EncryptedToken) : Bool :=
  session.encryptedRefreshToken == previous && session.revokedAt == none

def rotateProviderSession (sessions : Table Session) (tokenHash : TokenHash)
    (previous next : EncryptedToken) (providerExpiresAt validatedAt : Time) : Table Session :=
  sessions.patch tokenHash fun session => if session.rotates previous then
      { session with
        encryptedRefreshToken := next
        providerAccessExpiresAt := providerExpiresAt
        providerValidatedAt := validatedAt }
    else session

/-- `revoked_at` is set once. -/
def Session.revoke (session : Session) (now : Time) : Session :=
  { session with revokedAt := some (session.revokedAt.getD now) }

def revokeProviderSession (sessions : Table Session) (tokenHash : TokenHash) (now : Time) :
    Table Session :=
  sessions.patch tokenHash fun session => session.revoke now

def revokeUserSessions (sessions : Table Session) (userId : UserId) (now : Time) :
    Table Session :=
  sessions.patchWhere (fun session => session.userId == userId) fun session => session.revoke now

/-! ### Calls in progress -/

inductive CurrentUserStage where
  | reading
  | refreshing (session : Session) (refreshToken : RefreshToken)
  | rotating (session : Session) (next : EncryptedToken) (expiresAt : Time)
  | rereading
  | revoking

inductive LogoutStage where
  | reading
  | refreshing (refreshToken : RefreshToken) (session : Session)
  | signingOut
  | revoking

inductive ResetStage where
  | claiming (grantHash : TokenHash)
  | updating (userId : UserId)
  | revoking (userId : UserId)
  | signingOut

/-- A call, with the time at which it began. -/
inductive Request where
  | currentUser (tokenHash : TokenHash) (now : Time) (stage : CurrentUserStage)
  | logout (tokenHash : TokenHash) (now : Time) (stage : LogoutStage)
  | resetPassword (now : Time) (stage : ResetStage)

inductive AuthError where
  | invalidSession | identityProvider
  | provider (error : ProviderError)

/-- The answer of `CurrentUser`, or where it goes on. -/
inductive Next where
  | returns (result : Except AuthError UserId)
  | stage (stage : CurrentUserStage)

def providerRefreshLeeway : Time := 60000

def currentUserRead (cipher : TokenCipher) (now : Time) : Option Session → Next
  | none => .returns (.error .invalidSession)
  | some session =>
    if now + providerRefreshLeeway < session.providerAccessExpiresAt then
      .returns (.ok session.userId)
    else match cipher.opened session.encryptedRefreshToken with
      | none => .stage .revoking
      | some refreshToken => .stage (.refreshing session refreshToken)

def currentUserRefreshed (cipher : TokenCipher) (nonce : Nat) (session : Session) : Answer → Next
  | .error error =>
    if error = .invalidIdentityToken ∨ error = .invalidCredentials then .stage .revoking
    else .returns (.error (.provider error))
  | .ok (identityId, tokens) =>
    if identityId ≠ session.userId then .stage .revoking
    else match encryptRefreshToken cipher nonce tokens with
      | none => .returns (.error .identityProvider)
      | some (next, expiresAt) => .stage (.rotating session next expiresAt)

def currentUserRotated (session : Session) (rotated : Bool) : Next :=
  if rotated then .returns (.ok session.userId) else .stage .rereading

def currentUserReread : Option Session → Next
  | none => .returns (.error .invalidSession)
  | some current => .returns (.ok current.userId)

def logoutRead (cipher : TokenCipher) : Option Session → LogoutStage
  | none => .revoking
  | some session => match cipher.opened session.encryptedRefreshToken with
    | none => .revoking
    | some refreshToken => .refreshing refreshToken session

def logoutRefreshed : Answer → LogoutStage
  | .error _ => .revoking
  | .ok (_, tokens) => if tokens.accessToken.isSome then .signingOut else .revoking

/-! ### The machine -/

/-- A refresh token that the provider has issued. -/
structure ProviderToken where
  userId : UserId
  accepted : Bool

structure AuthConfig where
  cipher : TokenCipher
  sessionTTL : Time

structure AuthState where
  tokens : Table ProviderToken
  sessions : Table Session
  grants : Table RecoveryGrant
  requests : Table Request

inductive AuthInput where
  /-- A registration, a login or a confirmation ends with the session's row. -/
  | createSession (userId : UserId) (tokens : IdentityTokens) (nonce : Nat) (now : Time)
  | createRecoveryGrant (userId : UserId) (encryptedAccessToken : EncryptedToken) (now : Time)
  | currentUser (tokenHash : TokenHash) (now : Time)
  | logout (tokenHash : TokenHash) (now : Time)
  | resetPassword (grantHash : TokenHash) (now : Time)
  /-- The call of the store that a request has come to. -/
  | proceed (id : Nat)
  | refresh (id : Nat) (answer : Answer) (nonce : Nat)
  /-- The provider rotates the token, and its answer does not arrive. -/
  | loseAnswer (id : Nat)
  /-- The provider updates a password or signs out, or does not. -/
  | provide (id : Nat) (done : Bool)
  /-- A call of the store fails, or the request is cut off. -/
  | fail (id : Nat)
  | dropTokens (tokens : List RefreshToken)

namespace AuthState

def empty : AuthState := ⟨.empty, .empty, .empty, .empty⟩

def recoveryGrantTTL : Time := 900000

/-- The token is exchanged for a new one of the same user. -/
def exchanged (tokens : Table ProviderToken) (token : RefreshToken) (userId : UserId) :
    Table ProviderToken :=
  (tokens.patch token fun row => { row with accepted := false }).insert ⟨userId, true⟩

def finish (s : AuthState) (id : Nat) : AuthState := { s with requests := s.requests.delete id }

def goOn (s : AuthState) (id : Nat) (request : Request) : AuthState :=
  { s with requests := s.requests.patch id fun _ => request }

def currentUserNext (s : AuthState) (id : Nat) (tokenHash : TokenHash) (now : Time) :
    Next → AuthState
  | .returns _ => s.finish id
  | .stage stage => s.goOn id (.currentUser tokenHash now stage)

def proceed (config : AuthConfig) (s : AuthState) (id : Nat) : Request → AuthState
  | .currentUser tokenHash now .reading => s.currentUserNext id tokenHash now
      (currentUserRead config.cipher now (providerSessionByToken s.sessions tokenHash now))
  | .currentUser tokenHash now (.rotating session next expiresAt) =>
      let previous := session.encryptedRefreshToken
      let rotated := (s.sessions.get tokenHash).any fun row => row.rotates previous
      let sessions := rotateProviderSession s.sessions tokenHash previous next expiresAt now
      { s with sessions }.currentUserNext id tokenHash now (currentUserRotated session rotated)
  | .currentUser tokenHash now .rereading => s.currentUserNext id tokenHash now
      (currentUserReread (providerSessionByToken s.sessions tokenHash now))
  | .currentUser tokenHash now .revoking =>
      { s with sessions := revokeProviderSession s.sessions tokenHash now }.finish id
  | .logout tokenHash now .reading => s.goOn id (.logout tokenHash now
      (logoutRead config.cipher (providerSessionByToken s.sessions tokenHash now)))
  | .logout tokenHash now .revoking =>
      { s with sessions := revokeProviderSession s.sessions tokenHash now }.finish id
  | .resetPassword now (.claiming grantHash) =>
    match (s.grants.get grantHash).filter fun grant => grant.usedAt == none &&
        now < grant.expiresAt with
    | none => s.finish id
    | some grant =>
      let grants := s.grants.patch grantHash fun grant => { grant with usedAt := some now }
      let s := { s with grants }
      if (config.cipher.opened grant.encryptedAccessToken).isNone then s.finish id
      else s.goOn id (.resetPassword now (.updating grant.userId))
  | .resetPassword now (.revoking userId) =>
      { s with sessions := revokeUserSessions s.sessions userId now }.goOn id
        (.resetPassword now .signingOut)
  | _ => s

/-- The provider exchanges the token where it answers with new ones. -/
def answered (s : AuthState) (token : RefreshToken) : Answer → AuthState
  | .error _ => s
  | .ok (userId, _) => { s with tokens := exchanged s.tokens token userId }

def refresh (config : AuthConfig) (s : AuthState) (id : Nat) (answer : Answer) (nonce : Nat) :
    Request → AuthState
  | .currentUser tokenHash now (.refreshing session refreshToken) =>
      (s.answered refreshToken answer).currentUserNext id tokenHash now
        (currentUserRefreshed config.cipher nonce session answer)
  | .logout tokenHash now (.refreshing refreshToken _) =>
      (s.answered refreshToken answer).goOn id (.logout tokenHash now (logoutRefreshed answer))
  | _ => s

def loseAnswer (s : AuthState) (id : Nat) : Request → AuthState
  | .currentUser _ _ (.refreshing session refreshToken) =>
      { s with tokens := exchanged s.tokens refreshToken session.userId }.finish id
  | .logout tokenHash now (.refreshing refreshToken session) =>
      { s with tokens := exchanged s.tokens refreshToken session.userId }.goOn id
        (.logout tokenHash now .revoking)
  | _ => s

def provide (s : AuthState) (id : Nat) (done : Bool) : Request → AuthState
  | .logout tokenHash now .signingOut => s.goOn id (.logout tokenHash now .revoking)
  | .resetPassword now (.updating userId) =>
    if done then s.goOn id (.resetPassword now (.revoking userId)) else s.finish id
  | .resetPassword _ .signingOut => s.finish id
  | _ => s

def step (config : AuthConfig) (s : AuthState) : AuthInput → AuthState
  | .createSession userId tokens nonce now =>
    match encryptRefreshToken config.cipher nonce tokens with
    | none => s
    | some (encrypted, expiresAt) =>
      { s with
        tokens := s.tokens.insert ⟨userId, true⟩
        sessions := s.sessions.insert
          ⟨userId, encrypted, expiresAt, now, now + config.sessionTTL, none⟩ }
  | .createRecoveryGrant userId encryptedAccessToken now =>
    let expiresAt := now + recoveryGrantTTL
    { s with grants := s.grants.insert ⟨userId, encryptedAccessToken, expiresAt, none⟩ }
  | .currentUser tokenHash now =>
    { s with requests := s.requests.insert (.currentUser tokenHash now .reading) }
  | .logout tokenHash now =>
    { s with requests := s.requests.insert (.logout tokenHash now .reading) }
  | .resetPassword grantHash now =>
    { s with requests := s.requests.insert (.resetPassword now (.claiming grantHash)) }
  | .proceed id => (s.requests.get id).elim s (s.proceed config id)
  | .refresh id answer nonce => (s.requests.get id).elim s (s.refresh config id answer nonce)
  | .loseAnswer id => (s.requests.get id).elim s (s.loseAnswer id)
  | .provide id done => (s.requests.get id).elim s (s.provide id done)
  | .fail id => s.finish id
  | .dropTokens tokens =>
    { s with tokens := tokens.foldl (fun table token =>
        table.patch token fun row => { row with accepted := false }) s.tokens }

/-! ### Conditions -/

def accepts (s : AuthState) (token : RefreshToken) : Bool :=
  (s.tokens.get token).any ProviderToken.accepted

/-- The session is revoked. -/
def ended (s : AuthState) (tokenHash : TokenHash) : Bool :=
  (s.sessions.get tokenHash).all fun row => row.revokedAt.isSome

/-- A call that has spent the stored token, and is to write what comes of it. -/
def spends (tokenHash : TokenHash) (stored : EncryptedToken) : Request → Bool
  | .currentUser other _ (.rotating session _ _) =>
    other == tokenHash && session.encryptedRefreshToken == stored
  | .logout other _ .signingOut | .logout other _ .revoking => other == tokenHash
  | _ => false

/-- A call that has a new token for a session that is not over. -/
def holds (s : AuthState) (token : RefreshToken) : Request → Bool
  | .currentUser tokenHash _ (.rotating _ next _) => !s.ended tokenHash && next.token == token
  | _ => false

/-- What a provider answers whose tokens are single use, for an account in order. -/
def answers (s : AuthState) (token : RefreshToken) : Answer → Bool
  | .error error => error == .other || !s.accepts token && error == .invalidIdentityToken
  | .ok (userId, tokens) =>
    ((s.tokens.get token).any fun row => row.accepted && row.userId == userId) &&
      tokens.refreshToken == some s.tokens.next && tokens.expiresAt.isSome

/-- The provider keeps to single use, and drops no token of a session that is not over. -/
def inOrder (s : AuthState) : AuthInput → Bool
  | .createSession _ tokens _ _ => tokens.refreshToken.all fun token => token == s.tokens.next
  | .refresh id answer _ => match s.requests.get id with
    | some (.currentUser _ _ (.refreshing _ refreshToken))
    | some (.logout _ _ (.refreshing refreshToken _)) => s.answers refreshToken answer
    | _ => true
  | .dropTokens tokens => tokens.all fun token =>
      (s.sessions.rows.all fun row => row.2.revokedAt.isSome ||
        row.2.encryptedRefreshToken.token != token) &&
      s.requests.rows.all fun row => !s.holds token row.2
  | _ => true

def unavailable : Answer → Bool
  | .error error => error == .other
  | .ok _ => false

/-- No call presents a token that another has spent, and none that has spent one is
lost, but of a session that is over. -/
def unspent (s : AuthState) : AuthInput → Bool
  | .refresh id answer _ => match s.requests.get id with
    | some (.currentUser tokenHash _ (.refreshing _ refreshToken)) =>
      s.accepts refreshToken || s.ended tokenHash || unavailable answer
    | _ => true
  | .loseAnswer id => match s.requests.get id with
    | some (.currentUser tokenHash _ (.refreshing _ refreshToken)) =>
      !s.accepts refreshToken || s.ended tokenHash
    | _ => true
  | .fail id => (s.requests.get id).all fun request => s.sessions.rows.all fun row =>
      !spends row.1 row.2.encryptedRefreshToken request || row.2.revokedAt.isSome ||
        s.accepts row.2.encryptedRefreshToken.token || s.requests.rows.any fun other =>
          other.1 != id && spends row.1 row.2.encryptedRefreshToken other.2
  | _ => true

def tokenHashOf : Request → Option TokenHash
  | .currentUser tokenHash _ _ | .logout tokenHash _ _ => some tokenHash
  | .resetPassword .. => none

/-- No call logs a good session out, and a session that is over stays so. -/
structure Kept (config : AuthConfig) (inputs : List AuthInput) : Prop where
  unrevoked : ∀ front id rest tokenHash now row, inputs = front ++ .proceed id :: rest →
    (run (step config) empty front).requests.get id = some (.currentUser tokenHash now .revoking) →
    (run (step config) empty front).sessions.get tokenHash = some row → row.revokedAt ≠ none
  accepted : ∀ tokenHash row,
    (run (step config) empty inputs).sessions.get tokenHash = some row → row.revokedAt = none →
    (∀ id request, (run (step config) empty inputs).requests.get id = some request →
      tokenHashOf request ≠ some tokenHash) →
    (run (step config) empty inputs).accepts row.encryptedRefreshToken.token = true
  ended : ∀ front rest tokenHash row, inputs = front ++ rest →
    (run (step config) empty front).sessions.get tokenHash = some row → row.revokedAt ≠ none →
    ∀ now, providerSessionByToken (run (step config) empty inputs).sessions tokenHash now = none

/-! ### The invariant -/

/-- A token that a call has read is the stored one for as long as it is accepted. -/
structure Presents (s : AuthState) (tokenHash : TokenHash) (session : Session)
    (token : RefreshToken) : Prop where
  same : session.encryptedRefreshToken.token = token
  issued : token < s.tokens.next
  stored : ∃ row, s.sessions.get tokenHash = some row ∧ row.userId = session.userId ∧
    (s.accepts token = true → row.encryptedRefreshToken = session.encryptedRefreshToken)

/-- A call that rotates has spent the one token, and has the next. -/
structure Rotates (config : AuthConfig) (s : AuthState) (tokenHash : TokenHash)
    (session : Session) (next : EncryptedToken) : Prop where
  issued : session.encryptedRefreshToken.token < s.tokens.next
  spent : s.accepts session.encryptedRefreshToken.token = false
  opens : next.version ∈ config.cipher.keys
  nextIssued : next.token < s.tokens.next
  unstored : ∀ other row, s.sessions.get other = some row →
    row.encryptedRefreshToken.token ≠ next.token
  accepted : ∀ row, s.sessions.get tokenHash = some row → row.revokedAt = none →
    row.encryptedRefreshToken = session.encryptedRefreshToken → s.accepts next.token = true
  owner : ∃ row, s.sessions.get tokenHash = some row ∧
    ∀ token, s.tokens.get next.token = some token → token.userId = row.userId

def Fine (config : AuthConfig) (s : AuthState) : Request → Prop
  | .currentUser tokenHash _ (.refreshing session token)
  | .logout tokenHash _ (.refreshing token session) => Presents s tokenHash session token
  | .currentUser tokenHash _ (.rotating session next _) => Rotates config s tokenHash session next
  | .currentUser tokenHash _ .revoking =>
    ∃ row, s.sessions.get tokenHash = some row ∧ row.revokedAt.isSome = true
  | _ => True

def nextToken : Request → Option RefreshToken
  | .currentUser _ _ (.rotating _ next _) => some next.token
  | _ => none

structure Base (config : AuthConfig) (s : AuthState) : Prop where
  issued : ∀ tokenHash row, s.sessions.get tokenHash = some row →
    row.encryptedRefreshToken.token < s.tokens.next
  opens : ∀ tokenHash row, s.sessions.get tokenHash = some row →
    row.encryptedRefreshToken.version ∈ config.cipher.keys
  owner : ∀ tokenHash row token, s.sessions.get tokenHash = some row →
    s.tokens.get row.encryptedRefreshToken.token = some token → token.userId = row.userId
  apart : ∀ tokenHash other row row', s.sessions.get tokenHash = some row →
    s.sessions.get other = some row' →
    row.encryptedRefreshToken.token = row'.encryptedRefreshToken.token → tokenHash = other
  fine : ∀ id request, s.requests.get id = some request → Fine config s request
  alone : ∀ id other request request' token, s.requests.get id = some request →
    s.requests.get other = some request' → nextToken request = some token →
    nextToken request' = some token → id = other

/-- The stored token of a session that is not over is accepted, or a call has spent it. -/
def Held (s : AuthState) : Prop :=
  ∀ tokenHash row, s.sessions.get tokenHash = some row → row.revokedAt = none →
    s.accepts row.encryptedRefreshToken.token = true ∨
      ∃ id request, s.requests.get id = some request ∧
        spends tokenHash row.encryptedRefreshToken request = true

/-! ### Requests -/

section Requests

variable {config : AuthConfig} {s : AuthState} {id : Nat} {request next : Request}

theorem get_goOn (other : Nat) : (s.goOn id next).requests.get other =
    if other = id then (s.requests.get id).map fun _ => next else s.requests.get other := by
  unfold goOn
  rw [Table.get_patch]
  split
  · rename_i here
    rw [here]
  · rfl

theorem get_finish (other : Nat) : (s.finish id).requests.get other =
    if other = id then none else s.requests.get other :=
  Table.get_delete ..

/-- What a call has read and spent does not depend on other calls. -/
theorem Fine.frame (fine : Fine config s request) (grants : Table RecoveryGrant)
    (requests : Table Request) : Fine config { s with grants, requests } request := by
  match request with
  | .currentUser _ _ (.refreshing _ _) | .logout _ _ (.refreshing _ _) =>
      exact ⟨fine.same, fine.issued, fine.stored⟩
  | .currentUser _ _ (.rotating _ _ _) =>
      exact ⟨fine.issued, fine.spent, fine.opens, fine.nextIssued, fine.unstored, fine.accepted,
        fine.owner⟩
  | .currentUser _ _ .revoking => exact fine
  | .currentUser _ _ .reading | .currentUser _ _ .rereading | .logout _ _ .reading
  | .logout _ _ .signingOut | .logout _ _ .revoking | .resetPassword _ _ => trivial

theorem Base.goOn (base : Base config s) (fine : Fine config s next)
    (alone : ∀ other request token, other ≠ id → s.requests.get other = some request →
      nextToken request = some token → nextToken next ≠ some token) :
    Base config (s.goOn id next) := by
  refine ⟨base.issued, base.opens, base.owner, base.apart, ?_, ?_⟩
  · intro other request found
    rw [get_goOn] at found
    split at found
    · obtain ⟨_, _, rfl⟩ := Option.map_eq_some_iff.mp found
      exact fine.frame _ _
    · exact (base.fine other request found).frame _ _
  · intro one other first second token left right holds same
    rw [get_goOn] at left right
    split at left <;> split at right
    · rename_i here there
      rw [here, there]
    · rename_i _ apart
      obtain ⟨_, _, rfl⟩ := Option.map_eq_some_iff.mp left
      exact absurd holds (alone other second token apart right same)
    · rename_i apart _
      obtain ⟨_, _, rfl⟩ := Option.map_eq_some_iff.mp right
      exact absurd same (alone one first token apart left holds)
    · exact base.alone one other first second token left right holds same

theorem Base.finish (base : Base config s) (id : Nat) : Base config (s.finish id) := by
  refine ⟨base.issued, base.opens, base.owner, base.apart, ?_, ?_⟩
  · intro other request found
    rw [get_finish] at found
    split at found
    · cases found
    · exact (base.fine other request found).frame _ _
  · intro one other first second token left right holds same
    rw [get_finish] at left right
    split at left <;> split at right
    · cases left
    · cases left
    · cases right
    · exact base.alone one other first second token left right holds same

/-- A call that goes on has still what it has spent. -/
theorem Held.goOn (held : Held s) (found : s.requests.get id = some request)
    (still : ∀ tokenHash row, s.sessions.get tokenHash = some row → row.revokedAt = none →
      spends tokenHash row.encryptedRefreshToken request = true →
      s.accepts row.encryptedRefreshToken.token = true ∨
        spends tokenHash row.encryptedRefreshToken next = true) : Held (s.goOn id next) := by
  intro tokenHash row stored unrevoked
  rcases held tokenHash row stored unrevoked with accepted | ⟨other, holder, there, spent⟩
  · exact Or.inl accepted
  · by_cases here : other = id
    · rw [here, found] at there
      obtain rfl := Option.some.inj there
      rcases still tokenHash row stored unrevoked spent with accepted | goes
      · exact Or.inl accepted
      · refine Or.inr ⟨id, next, ?_, goes⟩
        rw [get_goOn, if_pos rfl, found]
        rfl
    · refine Or.inr ⟨other, holder, ?_, spent⟩
      rw [get_goOn, if_neg here]
      exact there

/-- A call that ends leaves nothing that it alone has spent. -/
theorem Held.finish (held : Held s) (found : s.requests.get id = some request)
    (left : ∀ tokenHash row, s.sessions.get tokenHash = some row → row.revokedAt = none →
      spends tokenHash row.encryptedRefreshToken request = true →
      s.accepts row.encryptedRefreshToken.token = true ∨
        ∃ other holder, other ≠ id ∧ s.requests.get other = some holder ∧
          spends tokenHash row.encryptedRefreshToken holder = true) : Held (s.finish id) := by
  intro tokenHash row stored unrevoked
  have kept {other : Nat} {holder : Request} (apart : other ≠ id)
      (there : s.requests.get other = some holder) :
      (s.finish id).requests.get other = some holder := by
    rw [get_finish, if_neg apart]
    exact there
  rcases held tokenHash row stored unrevoked with accepted | ⟨other, holder, there, spent⟩
  · exact Or.inl accepted
  · by_cases here : other = id
    · rw [here, found] at there
      obtain rfl := Option.some.inj there
      rcases left tokenHash row stored unrevoked spent with accepted | ⟨other, holder, apart, rest⟩
      · exact Or.inl accepted
      · exact Or.inr ⟨other, holder, kept apart rest.1, rest.2⟩
    · exact Or.inr ⟨other, holder, kept here there, spent⟩

end Requests

/-! ### Revocations -/

/-- Rows are revoked, and else stay as they are. -/
structure Revokes (before after : Table Session) : Prop where
  back : ∀ tokenHash row, after.get tokenHash = some row → ∃ old,
    before.get tokenHash = some old ∧ row.encryptedRefreshToken = old.encryptedRefreshToken ∧
    row.userId = old.userId ∧ (old.revokedAt.isSome = true → row.revokedAt.isSome = true)
  forth : ∀ tokenHash old, before.get tokenHash = some old → ∃ row,
    after.get tokenHash = some row ∧ row.encryptedRefreshToken = old.encryptedRefreshToken ∧
    row.userId = old.userId

theorem revokeProviderSession_revokes (sessions : Table Session) (tokenHash : TokenHash)
    (now : Time) : Revokes sessions (revokeProviderSession sessions tokenHash now) := by
  unfold revokeProviderSession
  constructor
  · intro other row found
    rw [Table.get_patch] at found
    split at found
    · obtain ⟨old, there, rfl⟩ := Option.map_eq_some_iff.mp found
      exact ⟨old, there, rfl, rfl, fun _ => rfl⟩
    · exact ⟨row, found, rfl, rfl, fun revoked => revoked⟩
  · intro other old found
    rw [Table.get_patch, found]
    split
    · exact ⟨_, rfl, rfl, rfl⟩
    · exact ⟨old, rfl, rfl, rfl⟩

theorem revokeUserSessions_revokes (sessions : Table Session) (userId : UserId) (now : Time) :
    Revokes sessions (revokeUserSessions sessions userId now) := by
  unfold revokeUserSessions
  constructor
  · intro other row found
    rw [Table.get_patchWhere] at found
    obtain ⟨old, there, rfl⟩ := Option.map_eq_some_iff.mp found
    refine ⟨old, there, ?_⟩
    split
    · exact ⟨rfl, rfl, fun _ => rfl⟩
    · exact ⟨rfl, rfl, fun revoked => revoked⟩
  · intro other old found
    rw [Table.get_patchWhere, found]
    refine ⟨_, rfl, ?_⟩
    dsimp only
    split <;> exact ⟨rfl, rfl⟩

section Database

variable {config : AuthConfig} {s : AuthState} {sessions : Table Session}

theorem Revokes.unrevoked {before after : Table Session} (revokes : Revokes before after)
    {tokenHash : TokenHash} {row : Session} (found : after.get tokenHash = some row)
    (unrevoked : row.revokedAt = none) : ∃ old, before.get tokenHash = some old ∧
      row.encryptedRefreshToken = old.encryptedRefreshToken ∧ old.revokedAt = none := by
  obtain ⟨old, there, same, _, revoked⟩ := revokes.back tokenHash row found
  refine ⟨old, there, same, ?_⟩
  rw [← Option.not_isSome_iff_eq_none] at unrevoked ⊢
  exact fun before => unrevoked (revoked before)

theorem Base.revoked (base : Base config s) (revokes : Revokes s.sessions sessions) :
    Base config { s with sessions } := by
  refine ⟨?_, ?_, ?_, ?_, ?_, base.alone⟩
  · intro tokenHash row found
    obtain ⟨old, there, same, _⟩ := revokes.back tokenHash row found
    rw [same]
    exact base.issued tokenHash old there
  · intro tokenHash row found
    obtain ⟨old, there, same, _⟩ := revokes.back tokenHash row found
    rw [same]
    exact base.opens tokenHash old there
  · intro tokenHash row token found issued
    obtain ⟨old, there, same, user, _⟩ := revokes.back tokenHash row found
    rw [same] at issued
    rw [user]
    exact base.owner tokenHash old token there issued
  · intro tokenHash other row row' left right equal
    obtain ⟨old, there, same, _⟩ := revokes.back tokenHash row left
    obtain ⟨old', there', same', _⟩ := revokes.back other row' right
    rw [same, same'] at equal
    exact base.apart tokenHash other old old' there there' equal
  · have presents {tokenHash : TokenHash} {session : Session} {token : RefreshToken}
        (before : Presents s tokenHash session token) :
        Presents { s with sessions } tokenHash session token := by
      obtain ⟨old, there, user, same⟩ := before.stored
      obtain ⟨row, found, same', user'⟩ := revokes.forth tokenHash old there
      exact ⟨before.same, before.issued, row, found, user'.trans user, fun accepted =>
        same'.trans (same accepted)⟩
    intro id request found
    have before := base.fine id request found
    match request with
    | .currentUser tokenHash _ (.refreshing session token) => exact presents before
    | .logout tokenHash _ (.refreshing token session) => exact presents before
    | .currentUser tokenHash _ (.rotating session next _) =>
        refine ⟨before.issued, before.spent, before.opens, before.nextIssued, ?_, ?_, ?_⟩
        · intro other row stored
          obtain ⟨old, there, same, _⟩ := revokes.back other row stored
          rw [same]
          exact before.unstored other old there
        · intro row stored unrevoked equal
          obtain ⟨old, there, same, open_⟩ := revokes.unrevoked stored unrevoked
          exact before.accepted old there open_ (same.symm.trans equal)
        · obtain ⟨old, there, owner⟩ := before.owner
          obtain ⟨row, stored, _, user⟩ := revokes.forth tokenHash old there
          exact ⟨row, stored, fun token issued => (owner token issued).trans user.symm⟩
    | .currentUser tokenHash _ .revoking =>
        obtain ⟨old, there, revoked⟩ := before
        obtain ⟨row, stored, _⟩ := revokes.forth tokenHash old there
        obtain ⟨old', there', _, _, stays⟩ := revokes.back tokenHash row stored
        rw [there] at there'
        obtain rfl := Option.some.inj there'
        exact ⟨row, stored, stays revoked⟩
    | .currentUser _ _ .reading | .currentUser _ _ .rereading | .logout _ _ .reading
    | .logout _ _ .signingOut | .logout _ _ .revoking | .resetPassword _ _ => trivial

theorem Held.revoked (held : Held s) (revokes : Revokes s.sessions sessions) :
    Held { s with sessions } := by
  intro tokenHash row found unrevoked
  obtain ⟨old, there, same, open_⟩ := revokes.unrevoked found unrevoked
  rw [same]
  exact held tokenHash old there open_

end Database

/-! ### Tokens -/

section Tokens

variable {config : AuthConfig} {s : AuthState} {token : RefreshToken} {userId : UserId}

theorem get_exchanged (tokens : Table ProviderToken) (other : RefreshToken) :
    (exchanged tokens token userId).get other =
      if other = tokens.next then some ⟨userId, true⟩
      else if other = token then (tokens.get token).map fun row => { row with accepted := false }
      else tokens.get other := by
  unfold exchanged
  rw [Table.get_insert, Table.get_patch, Table.patch_next]
  by_cases new : other = tokens.next
  · rw [if_pos new, if_pos new]
  · rw [if_neg new, if_neg new]
    by_cases here : other = token
    · rw [if_pos here, if_pos here, here]
    · rw [if_neg here, if_neg here]

theorem accepts_exchanged {other : RefreshToken} (issued : other < s.tokens.next) :
    ({ s with tokens := exchanged s.tokens token userId } : AuthState).accepts other =
      (s.accepts other && other != token) := by
  unfold accepts
  dsimp only
  rw [get_exchanged, if_neg (Nat.ne_of_lt issued)]
  by_cases here : other = token
  · rw [if_pos here, here]
    cases s.tokens.get token <;> simp
  · rw [if_neg here]
    simp [here]

/-- A row of a token that was issued is of the same user still. -/
theorem exchanged_owner {other : RefreshToken} {row : ProviderToken}
    (issued : other < s.tokens.next)
    (found : (exchanged s.tokens token userId).get other = some row) :
    ∃ old, s.tokens.get other = some old ∧ old.userId = row.userId := by
  rw [get_exchanged, if_neg (Nat.ne_of_lt issued)] at found
  split at found
  · rename_i here
    obtain ⟨old, there, rfl⟩ := Option.map_eq_some_iff.mp found
    exact ⟨old, here ▸ there, rfl⟩
  · exact ⟨row, found, rfl⟩

theorem lt_exchanged {other : RefreshToken} (issued : other < s.tokens.next) :
    other < (exchanged s.tokens token userId).next :=
  Nat.lt_succ_of_lt issued

/-- A token is exchanged that a session stores, or that is not accepted. -/
theorem Base.exchanged (base : Base config s)
    (presented : s.accepts token = true → ∃ tokenHash row,
      s.sessions.get tokenHash = some row ∧ row.encryptedRefreshToken.token = token) :
    Base config { s with tokens := exchanged s.tokens token userId } := by
  refine ⟨?_, base.opens, ?_, base.apart, ?_, base.alone⟩
  · intro tokenHash row found
    exact lt_exchanged (base.issued tokenHash row found)
  · intro tokenHash row other found issued
    obtain ⟨old, there, same⟩ := exchanged_owner (base.issued tokenHash row found) issued
    exact same.symm.trans (base.owner tokenHash row old found there)
  · have presents {tokenHash : TokenHash} {session : Session} {other : RefreshToken}
        (before : Presents s tokenHash session other) :
        Presents { s with tokens := AuthState.exchanged s.tokens token userId } tokenHash session
          other := by
      obtain ⟨row, found, user, stored⟩ := before.stored
      refine ⟨before.same, lt_exchanged before.issued, row, found, user, fun accepted => ?_⟩
      rw [accepts_exchanged before.issued, Bool.and_eq_true] at accepted
      exact stored accepted.1
    intro id request found
    have before := base.fine id request found
    match request with
    | .currentUser tokenHash _ (.refreshing session token) => exact presents before
    | .logout tokenHash _ (.refreshing token session) => exact presents before
    | .currentUser tokenHash _ (.rotating session next _) =>
        refine ⟨lt_exchanged before.issued, ?_, before.opens, lt_exchanged before.nextIssued,
          before.unstored, ?_, ?_⟩
        · rw [accepts_exchanged before.issued, before.spent, Bool.false_and]
        · intro row stored unrevoked equal
          have accepted := before.accepted row stored unrevoked equal
          rw [accepts_exchanged before.nextIssued, accepted, Bool.true_and, bne_iff_ne]
          intro here
          rw [here] at accepted
          obtain ⟨other, holder, there, same⟩ := presented accepted
          exact before.unstored other holder there (same.trans here.symm)
        · obtain ⟨row, stored, owner⟩ := before.owner
          refine ⟨row, stored, fun other issued => ?_⟩
          obtain ⟨old, there, same⟩ := exchanged_owner before.nextIssued issued
          exact same.symm.trans (owner old there)
    | .currentUser tokenHash _ .revoking => exact before
    | .currentUser _ _ .reading | .currentUser _ _ .rereading | .logout _ _ .reading
    | .logout _ _ .signingOut | .logout _ _ .revoking | .resetPassword _ _ => trivial

theorem get_dropped (dropped : List RefreshToken) (tokens : Table ProviderToken)
    (other : RefreshToken) :
    (dropped.foldl (fun table token => table.patch token fun row => { row with accepted := false })
      tokens).get other = (tokens.get other).map fun row =>
        if other ∈ dropped then { row with accepted := false } else row := by
  induction dropped generalizing tokens with
  | nil => simp
  | cons token rest ih =>
      rw [List.foldl_cons, ih, Table.get_patch]
      simp only [List.mem_cons]
      by_cases here : other = token
      · subst here
        cases tokens.get other <;> simp
      · simp [here]

theorem dropped_next (dropped : List RefreshToken) (tokens : Table ProviderToken) :
    (dropped.foldl (fun table token => table.patch token fun row => { row with accepted := false })
      tokens).next = tokens.next := by
  induction dropped generalizing tokens with
  | nil => rfl
  | cons token rest ih =>
      rw [List.foldl_cons, ih, Table.patch_next]

theorem accepts_dropped (dropped : List RefreshToken) (other : RefreshToken) :
    (s.step config (.dropTokens dropped)).accepts other =
      (s.accepts other && decide (other ∉ dropped)) := by
  simp only [step, accepts]
  rw [get_dropped]
  cases s.tokens.get other with
  | none => rfl
  | some row => by_cases member : other ∈ dropped <;> simp [member]

theorem dropped_owner {dropped : List RefreshToken} {other : RefreshToken} {row : ProviderToken}
    (found : (s.step config (.dropTokens dropped)).tokens.get other = some row) :
    ∃ old, s.tokens.get other = some old ∧ old.userId = row.userId := by
  simp only [step] at found
  rw [get_dropped] at found
  obtain ⟨old, there, rfl⟩ := Option.map_eq_some_iff.mp found
  refine ⟨old, there, ?_⟩
  split <;> rfl

theorem inOrder_drop {dropped : List RefreshToken} (order : s.inOrder (.dropTokens dropped) = true)
    {other : RefreshToken} (member : other ∈ dropped) :
    (∀ tokenHash row, s.sessions.get tokenHash = some row → row.revokedAt = none →
      row.encryptedRefreshToken.token ≠ other) ∧
    ∀ id request, s.requests.get id = some request → s.holds other request = false := by
  simp only [inOrder, List.all_eq_true, Bool.and_eq_true, Bool.or_eq_true, bne_iff_ne,
    Bool.not_eq_true'] at order
  refine ⟨fun tokenHash row found unrevoked => ?_, fun id request found => ?_⟩
  · rcases (order other member).1 (tokenHash, row) ((Table.mem_rows_iff ..).mpr found) with
      revoked | apart
    · rw [unrevoked] at revoked
      cases revoked
    · exact apart
  · exact (order other member).2 (id, request) ((Table.mem_rows_iff ..).mpr found)

theorem Base.dropped (base : Base config s) {dropped : List RefreshToken}
    (order : s.inOrder (.dropTokens dropped) = true) :
    Base config (s.step config (.dropTokens dropped)) := by
  have next : (s.step config (.dropTokens dropped)).tokens.next = s.tokens.next :=
    dropped_next dropped s.tokens
  refine ⟨?_, base.opens, ?_, base.apart, ?_, base.alone⟩
  · intro tokenHash row found
    rw [next]
    exact base.issued tokenHash row found
  · intro tokenHash row other found issued
    obtain ⟨old, there, same⟩ := dropped_owner issued
    exact same.symm.trans (base.owner tokenHash row old found there)
  · have presents {tokenHash : TokenHash} {session : Session} {other : RefreshToken}
        (before : Presents s tokenHash session other) :
        Presents (s.step config (.dropTokens dropped)) tokenHash session other := by
      obtain ⟨row, found, user, stored⟩ := before.stored
      refine ⟨before.same, next.symm ▸ before.issued, row, found, user, fun accepted => ?_⟩
      rw [accepts_dropped, Bool.and_eq_true] at accepted
      exact stored accepted.1
    intro id request found
    have before := base.fine id request found
    match request with
    | .currentUser tokenHash _ (.refreshing session token) => exact presents before
    | .logout tokenHash _ (.refreshing token session) => exact presents before
    | .currentUser tokenHash now (.rotating session following expiresAt) =>
        refine ⟨next.symm ▸ before.issued, ?_, before.opens, next.symm ▸ before.nextIssued,
          before.unstored, ?_, ?_⟩
        · rw [accepts_dropped, before.spent, Bool.false_and]
        · intro row stored unrevoked equal
          rw [accepts_dropped, before.accepted row stored unrevoked equal, Bool.true_and,
            decide_eq_true_eq]
          intro member
          have free := (inOrder_drop order member).2 id _ found
          have stored : s.sessions.get tokenHash = some row := stored
          simp [holds, AuthState.ended, stored, unrevoked] at free
        · obtain ⟨row, stored, owner⟩ := before.owner
          refine ⟨row, stored, fun other issued => ?_⟩
          obtain ⟨old, there, same⟩ := dropped_owner issued
          exact same.symm.trans (owner old there)
    | .currentUser tokenHash _ .revoking => exact before
    | .currentUser _ _ .reading | .currentUser _ _ .rereading | .logout _ _ .reading
    | .logout _ _ .signingOut | .logout _ _ .revoking | .resetPassword _ _ => trivial

theorem Held.dropped (held : Held s) {dropped : List RefreshToken}
    (order : s.inOrder (.dropTokens dropped) = true) :
    Held (s.step config (.dropTokens dropped)) := by
  intro tokenHash row found unrevoked
  rcases held tokenHash row found unrevoked with accepted | spent
  · left
    rw [accepts_dropped, accepted, Bool.true_and, decide_eq_true_eq]
    intro member
    exact (inOrder_drop order member).1 tokenHash row found unrevoked rfl
  · exact Or.inr spent

end Tokens

/-! ### Rotations -/

section Rotations

variable {config : AuthConfig} {s : AuthState} {tokenHash : TokenHash} {row : Session}
  {previous : EncryptedToken}

/-- The row after `RotateProviderSession`. -/
def Session.rotated (row : Session) (next : EncryptedToken) (expiresAt now : Time) : Session :=
  { row with
    encryptedRefreshToken := next
    providerAccessExpiresAt := expiresAt
    providerValidatedAt := now }

theorem get_rotate (next : EncryptedToken) (expiresAt now : Time)
    (found : s.sessions.get tokenHash = some row)
    (rotates : row.rotates previous = true) (other : TokenHash) :
    (rotateProviderSession s.sessions tokenHash previous next expiresAt now).get other =
      if other = tokenHash then some (Session.rotated row next expiresAt now)
      else s.sessions.get other := by
  unfold rotateProviderSession
  rw [Table.get_patch]
  by_cases here : other = tokenHash
  · rw [if_pos here, if_pos here, here, found, Option.map_some, if_pos rotates]
    rfl
  · rw [if_neg here, if_neg here]

theorem rotate_same {next : EncryptedToken} {expiresAt now : Time}
    (stays : ∀ row, s.sessions.get tokenHash = some row → row.rotates previous = false) :
    rotateProviderSession s.sessions tokenHash previous next expiresAt now = s.sessions := by
  refine Table.patch_eq_self fun row found => ?_
  rw [stays row found]
  rfl

/-- The next token takes the place of one that is spent, where no other call has it. -/
theorem Base.rotate {next : EncryptedToken} (expiresAt now : Time) (base : Base config s)
    (found : s.sessions.get tokenHash = some row)
    {session : Session} (before : Rotates config s tokenHash session next)
    (rotates : row.rotates session.encryptedRefreshToken = true)
    (alone : ∀ id request, s.requests.get id = some request →
      nextToken request ≠ some next.token) :
    Base config { s with
      sessions := rotateProviderSession s.sessions tokenHash session.encryptedRefreshToken next
        expiresAt now } := by
  have get := get_rotate next expiresAt now found rotates
  have ⟨stored, unrevoked⟩ : row.encryptedRefreshToken = session.encryptedRefreshToken ∧
      row.revokedAt = none := by
    simpa [Session.rotates] using rotates
  have accepted := before.accepted row found unrevoked stored
  refine ⟨?_, ?_, ?_, ?_, ?_, base.alone⟩
  · intro other holder there
    rw [get] at there
    split at there
    · obtain rfl := Option.some.inj there
      exact before.nextIssued
    · exact base.issued other holder there
  · intro other holder there
    rw [get] at there
    split at there
    · obtain rfl := Option.some.inj there
      exact before.opens
    · exact base.opens other holder there
  · intro other holder token there issued
    rw [get] at there
    split at there
    · obtain rfl := Option.some.inj there
      obtain ⟨holder, there, owner⟩ := before.owner
      rw [found] at there
      obtain rfl := Option.some.inj there
      exact owner token issued
    · exact base.owner other holder token there issued
  · intro one other left right there there' equal
    rw [get] at there there'
    split at there <;> split at there'
    · rename_i here here'
      rw [here, here']
    · obtain rfl := Option.some.inj there
      exact absurd equal.symm (before.unstored other right there')
    · obtain rfl := Option.some.inj there'
      exact absurd equal (before.unstored one left there)
    · exact base.apart one other left right there there' equal
  · have presents {other : TokenHash} {read : Session} {token : RefreshToken}
        (earlier : Presents s other read token) :
        Presents { s with
          sessions := rotateProviderSession s.sessions tokenHash session.encryptedRefreshToken next
            expiresAt now } other read token := by
      obtain ⟨holder, there, user, same⟩ := earlier.stored
      by_cases here : other = tokenHash
      · rw [here, found] at there
        obtain rfl := Option.some.inj there
        refine ⟨earlier.same, earlier.issued, Session.rotated row next expiresAt now, ?_, user,
          fun accepts => ?_⟩
        · rw [get, if_pos here]
        · have spent := before.spent
          rw [← stored, same accepts, earlier.same] at spent
          have accepts : s.accepts token = true := accepts
          rw [spent] at accepts
          cases accepts
      · refine ⟨earlier.same, earlier.issued, holder, ?_, user, same⟩
        rw [get, if_neg here]
        exact there
    intro id request there
    have earlier := base.fine id request there
    match request with
    | .currentUser other _ (.refreshing read token) => exact presents earlier
    | .logout other _ (.refreshing token read) => exact presents earlier
    | .currentUser other _ (.rotating read following _) =>
        refine ⟨earlier.issued, earlier.spent, earlier.opens, earlier.nextIssued, ?_, ?_, ?_⟩
        · intro one holder there'
          rw [get] at there'
          split at there'
          · obtain rfl := Option.some.inj there'
            intro same
            exact alone id _ there (congrArg some same.symm)
          · exact earlier.unstored one holder there'
        · intro holder there' unrevoked equal
          rw [get] at there'
          split at there'
          · obtain rfl := Option.some.inj there'
            have spent := earlier.spent
            rw [← equal] at spent
            exact absurd accepted (by rw [Bool.not_eq_true]; exact spent)
          · exact earlier.accepted holder there' unrevoked equal
        · obtain ⟨holder, there', owner⟩ := earlier.owner
          by_cases here : other = tokenHash
          · rw [here, found] at there'
            obtain rfl := Option.some.inj there'
            exact ⟨Session.rotated row next expiresAt now, by rw [get, if_pos here], owner⟩
          · exact ⟨holder, by rw [get, if_neg here, there'], owner⟩
    | .currentUser other _ .revoking =>
        obtain ⟨holder, there', revoked⟩ := earlier
        by_cases here : other = tokenHash
        · rw [here, found] at there'
          obtain rfl := Option.some.inj there'
          exact ⟨Session.rotated row next expiresAt now, by rw [get, if_pos here], revoked⟩
        · exact ⟨holder, by rw [get, if_neg here, there'], revoked⟩
    | .currentUser _ _ .reading | .currentUser _ _ .rereading | .logout _ _ .reading
    | .logout _ _ .signingOut | .logout _ _ .revoking | .resetPassword _ _ => trivial

end Rotations

/-! ### Steps -/

structure Sound (config : AuthConfig) (s : AuthState) : Prop where
  base : Base config s
  held : Held s

section Steps

variable {config : AuthConfig} {s : AuthState} {id : Nat} {request next : Request}
  {tokenHash : TokenHash} {now : Time}

theorem empty_sound (config : AuthConfig) : Sound config empty :=
  ⟨⟨nofun, nofun, nofun, nofun, nofun, nofun⟩, nofun⟩

theorem base_alone (base : Base config s) {other : Nat} {holder : Request} {session : Session}
    {next : EncryptedToken} {expiresAt : Time} (left : s.requests.get other = some holder)
    (found : s.requests.get id = some
      (.currentUser tokenHash now (.rotating session next expiresAt)))
    (same : nextToken holder = some next.token) : other = id :=
  base.alone other id holder _ next.token left found same rfl

/-- A call that has spent nothing goes on. -/
theorem Sound.goOn (sound : Sound config s) (found : s.requests.get id = some request)
    (fine : Fine config s next) (fresh : nextToken next = none)
    (still : ∀ tokenHash row, s.sessions.get tokenHash = some row → row.revokedAt = none →
      spends tokenHash row.encryptedRefreshToken request = true →
      spends tokenHash row.encryptedRefreshToken next = true) : Sound config (s.goOn id next) := by
  refine ⟨sound.base.goOn fine fun other holder token _ _ _ same => ?_,
    sound.held.goOn found fun tokenHash row stored unrevoked spent =>
      Or.inr (still tokenHash row stored unrevoked spent)⟩
  rw [fresh] at same
  cases same

theorem Sound.finish (sound : Sound config s) (found : s.requests.get id = some request)
    (unspent : ∀ tokenHash row, s.sessions.get tokenHash = some row → row.revokedAt = none →
      spends tokenHash row.encryptedRefreshToken request = false) : Sound config (s.finish id) := by
  refine ⟨sound.base.finish id, sound.held.finish found fun tokenHash row stored unrevoked spent =>
    ?_⟩
  rw [unspent tokenHash row stored unrevoked] at spent
  cases spent

theorem Sound.revoked (sound : Sound config s) {sessions : Table Session}
    (revokes : Revokes s.sessions sessions) : Sound config { s with sessions } :=
  ⟨sound.base.revoked revokes, sound.held.revoked revokes⟩

/-- A new call has spent nothing. -/
theorem Sound.begins (sound : Sound config s) (fine : Fine config s request)
    (fresh : nextToken request = none) :
    Sound config { s with requests := s.requests.insert request } := by
  obtain ⟨base, held⟩ := sound
  refine ⟨⟨base.issued, base.opens, base.owner, base.apart, ?_, ?_⟩, ?_⟩
  · intro other holder found
    rcases Table.get_insert_row found with ⟨_, rfl⟩ | old
    · exact fine.frame _ _
    · exact (base.fine other holder old).frame _ _
  · intro one other first second token left right holds same
    rcases Table.get_insert_row left with ⟨_, rfl⟩ | old
    · rw [fresh] at holds
      cases holds
    · rcases Table.get_insert_row right with ⟨_, rfl⟩ | old'
      · rw [fresh] at same
        cases same
      · exact base.alone one other first second token old old' holds same
  · intro tokenHash row stored unrevoked
    rcases held tokenHash row stored unrevoked with accepted | ⟨other, holder, there, spent⟩
    · exact Or.inl accepted
    · exact Or.inr ⟨other, holder, Table.get_insert_of_some there _, spent⟩

theorem providerSessionByToken_some {sessions : Table Session} {session : Session}
    (read : providerSessionByToken sessions tokenHash now = some session) :
    sessions.get tokenHash = some session ∧ session.revokedAt = none := by
  obtain ⟨found, valid⟩ := Option.filter_eq_some_iff.mp read
  simp only [Bool.and_eq_true, beq_iff_eq] at valid
  exact ⟨found, valid.2⟩

/-- What is read of a session, a call presents. -/
theorem Base.presents (base : Base config s) {session : Session}
    (read : providerSessionByToken s.sessions tokenHash now = some session) {token : RefreshToken}
    (opened : config.cipher.opened session.encryptedRefreshToken = some token) :
    Presents s tokenHash session token := by
  obtain ⟨found, _⟩ := providerSessionByToken_some read
  unfold TokenCipher.opened at opened
  split at opened
  · obtain rfl := Option.some.inj opened
    exact ⟨rfl, base.issued tokenHash session found, session, found, rfl, fun _ => rfl⟩
  · cases opened

theorem Base.opened (base : Base config s) {session : Session}
    (read : providerSessionByToken s.sessions tokenHash now = some session) :
    config.cipher.opened session.encryptedRefreshToken =
      some session.encryptedRefreshToken.token :=
  if_pos (base.opens tokenHash session (providerSessionByToken_some read).1)

theorem Sound.reading (sound : Sound config s)
    (found : s.requests.get id = some (.currentUser tokenHash now .reading)) :
    Sound config (s.proceed config id (.currentUser tokenHash now .reading)) := by
  show Sound config (s.currentUserNext id tokenHash now
    (currentUserRead config.cipher now (providerSessionByToken s.sessions tokenHash now)))
  cases read : providerSessionByToken s.sessions tokenHash now with
  | none => exact sound.finish found fun _ _ _ _ => rfl
  | some session =>
      simp only [currentUserRead]
      split
      · exact sound.finish found fun _ _ _ _ => rfl
      · rw [sound.base.opened read]
        exact sound.goOn found (sound.base.presents read (sound.base.opened read)) rfl
          fun _ _ _ _ spent => spent

theorem Sound.rotating (sound : Sound config s) {session : Session} {next : EncryptedToken}
    {expiresAt : Time} (found : s.requests.get id = some
      (.currentUser tokenHash now (.rotating session next expiresAt))) :
    Sound config (s.proceed config id
      (.currentUser tokenHash now (.rotating session next expiresAt))) := by
  have before : Rotates config s tokenHash session next := sound.base.fine id _ found
  obtain ⟨row, there, _⟩ := before.owner
  simp only [proceed, there, Option.any_some]
  by_cases rotates : row.rotates session.encryptedRefreshToken = true
  · rw [rotates]
    have accepted : s.accepts next.token = true := by
      have ⟨stored, unrevoked⟩ : row.encryptedRefreshToken = session.encryptedRefreshToken ∧
          row.revokedAt = none := by
        simpa [Session.rotates] using rotates
      exact before.accepted row there unrevoked stored
    have base := sound.base.finish id
    have rotated := Base.rotate expiresAt now base there
      ⟨before.issued, before.spent, before.opens, before.nextIssued, before.unstored,
        before.accepted, before.owner⟩ rotates fun other holder left same => by
        rw [get_finish] at left
        split at left
        · cases left
        · rename_i apart
          exact apart (base_alone sound.base left found same)
    refine ⟨rotated, fun other holder stored unrevoked => ?_⟩
    have stored : (rotateProviderSession s.sessions tokenHash session.encryptedRefreshToken next
        expiresAt now).get other = some holder := stored
    rw [get_rotate next expiresAt now there rotates] at stored
    split at stored
    · obtain rfl := Option.some.inj stored
      exact Or.inl accepted
    · rename_i apart
      rcases sound.held other holder stored unrevoked with accepted | ⟨one, holds, left, spent⟩
      · exact Or.inl accepted
      · refine Or.inr ⟨one, holds, ?_, spent⟩
        show (s.finish id).requests.get one = some holds
        rw [get_finish, if_neg]
        · exact left
        · intro here
          rw [here, found] at left
          obtain rfl := Option.some.inj left
          simp only [spends, Bool.and_eq_true, beq_iff_eq] at spent
          exact apart spent.1.symm
  · rw [Bool.not_eq_true] at rotates
    rw [rotates, rotate_same fun other same => by
      rw [there] at same
      obtain rfl := Option.some.inj same
      exact rotates]
    refine sound.goOn found trivial rfl fun other holder stored unrevoked spent => ?_
    simp only [spends, Bool.and_eq_true, beq_iff_eq] at spent
    obtain ⟨rfl, same⟩ := spent
    rw [there] at stored
    obtain rfl := Option.some.inj stored
    simp [Session.rotates, same, unrevoked] at rotates

/-- Only the store's calls are left of what a request does alone. -/
theorem Sound.proceed (sound : Sound config s) (found : s.requests.get id = some request) :
    Sound config (s.proceed config id request) := by
  match request with
  | .currentUser tokenHash now .reading => exact sound.reading found
  | .currentUser tokenHash now (.rotating session next expiresAt) => exact sound.rotating found
  | .currentUser tokenHash now .rereading =>
      show Sound config (s.currentUserNext id tokenHash now
        (currentUserReread (providerSessionByToken s.sessions tokenHash now)))
      cases providerSessionByToken s.sessions tokenHash now with
      | none => exact sound.finish found fun _ _ _ _ => rfl
      | some session => exact sound.finish found fun _ _ _ _ => rfl
  | .currentUser tokenHash now .revoking =>
      exact (sound.revoked (revokeProviderSession_revokes s.sessions tokenHash now)).finish found
        fun _ _ _ _ => rfl
  | .logout tokenHash now .reading =>
      show Sound config (s.goOn id (.logout tokenHash now
        (logoutRead config.cipher (providerSessionByToken s.sessions tokenHash now))))
      cases read : providerSessionByToken s.sessions tokenHash now with
      | none => exact sound.goOn found trivial rfl nofun
      | some session =>
          simp only [logoutRead]
          rw [sound.base.opened read]
          exact sound.goOn found (sound.base.presents read (sound.base.opened read)) rfl nofun
  | .logout tokenHash now .revoking =>
      refine (sound.revoked (revokeProviderSession_revokes s.sessions tokenHash now)).finish found
        fun other row stored unrevoked => ?_
      have stored : (revokeProviderSession s.sessions tokenHash now).get other = some row := stored
      unfold revokeProviderSession at stored
      rw [Table.get_patch] at stored
      split at stored
      · obtain ⟨_, _, rfl⟩ := Option.map_eq_some_iff.mp stored
        cases unrevoked
      · rename_i apart
        exact beq_eq_false_iff_ne.mpr (Ne.symm apart)
  | .resetPassword now (.claiming grantHash) =>
      simp only [AuthState.proceed]
      split
      · exact sound.finish found fun _ _ _ _ => rfl
      · have claimed (grants : Table RecoveryGrant) : Sound config { s with grants } :=
          ⟨⟨sound.base.issued, sound.base.opens, sound.base.owner, sound.base.apart,
            fun other holder there => (sound.base.fine other holder there).frame _ _,
            sound.base.alone⟩, sound.held⟩
        split
        · exact (claimed _).finish found fun _ _ _ _ => rfl
        · exact (claimed _).goOn found trivial rfl nofun
  | .resetPassword now (.revoking userId) =>
      exact (sound.revoked (revokeUserSessions_revokes s.sessions userId now)).goOn found trivial
        rfl nofun
  | .currentUser _ _ (.refreshing _ _) | .logout _ _ (.refreshing _ _)
  | .logout _ _ .signingOut | .resetPassword _ (.updating _) | .resetPassword _ .signingOut =>
      exact sound

theorem Sound.provide (sound : Sound config s) (found : s.requests.get id = some request)
    (done : Bool) : Sound config (s.provide id done request) := by
  match request with
  | .logout tokenHash now .signingOut =>
      exact sound.goOn found trivial rfl fun _ _ _ _ spent => spent
  | .resetPassword now (.updating userId) =>
      simp only [AuthState.provide]
      split
      · exact sound.goOn found trivial rfl nofun
      · exact sound.finish found fun _ _ _ _ => rfl
  | .resetPassword _ .signingOut => exact sound.finish found fun _ _ _ _ => rfl
  | .currentUser _ _ _ | .logout _ _ .reading | .logout _ _ (.refreshing _ _)
  | .logout _ _ .revoking | .resetPassword _ (.claiming _) | .resetPassword _ (.revoking _) =>
      exact sound

/-! ### Exchanges -/

variable {session : Session} {token : RefreshToken} {userId : UserId}

theorem nextToken_lt (base : Base config s) (found : s.requests.get id = some request)
    (holds : nextToken request = some token) : token < s.tokens.next := by
  have fine := base.fine id request found
  match request with
  | .currentUser _ _ (.rotating _ next _) =>
      obtain rfl := Option.some.inj holds
      exact fine.nextIssued
  | .currentUser _ _ .reading | .currentUser _ _ (.refreshing _ _) | .currentUser _ _ .rereading
  | .currentUser _ _ .revoking | .logout _ _ _ | .resetPassword _ _ => cases holds

theorem Presents.row (presents : Presents s tokenHash session token)
    (accepted : s.accepts token = true) : ∃ tokenHash row,
      s.sessions.get tokenHash = some row ∧ row.encryptedRefreshToken.token = token := by
  obtain ⟨row, found, _, stored⟩ := presents.stored
  exact ⟨tokenHash, row, found, by rw [stored accepted, presents.same]⟩

/-- After the exchange of a token that is presented, only its session may lack one. -/
theorem held_exchanged (sound : Sound config s) (presents : Presents s tokenHash session token)
    {other : TokenHash} {row : Session} (found : s.sessions.get other = some row)
    (unrevoked : row.revokedAt = none) :
    ({ s with tokens := exchanged s.tokens token userId } : AuthState).accepts
        row.encryptedRefreshToken.token = true ∨
      (∃ id request, s.requests.get id = some request ∧
        spends other row.encryptedRefreshToken request = true) ∨
      (s.accepts token = true ∧ other = tokenHash ∧
        row.encryptedRefreshToken = session.encryptedRefreshToken) := by
  rcases sound.held other row found unrevoked with accepted | spent
  · by_cases same : row.encryptedRefreshToken.token = token
    · right; right
      rw [same] at accepted
      obtain ⟨holder, there, _, stored⟩ := presents.stored
      have here := sound.base.apart other tokenHash row holder found there (by
        rw [same, stored accepted, presents.same])
      subst here
      rw [found] at there
      obtain rfl := Option.some.inj there
      exact ⟨accepted, rfl, stored accepted⟩
    · left
      rw [accepts_exchanged (sound.base.issued other row found), accepted, Bool.true_and]
      exact bne_iff_ne.mpr same
  · exact Or.inr (Or.inl spent)

/-- The call that has exchanged a token goes on with what comes of it. -/
theorem Sound.exchanges (sound : Sound config s) (found : s.requests.get id = some request)
    (idle : ∀ other stored, spends other stored request = false)
    (presents : Presents s tokenHash session token)
    (fine : Fine config { s with tokens := exchanged s.tokens token userId } next)
    (fresh : ∀ other, nextToken next = some other → other = s.tokens.next)
    (goes : spends tokenHash session.encryptedRefreshToken next = true) :
    Sound config ({ s with tokens := exchanged s.tokens token userId }.goOn id next) := by
  refine ⟨(sound.base.exchanged presents.row).goOn fine ?_, ?_⟩
  · intro other holder following _ there holds same
    have issued : following < s.tokens.next := nextToken_lt sound.base there holds
    exact Nat.ne_of_lt issued (fresh following same)
  · intro other row there unrevoked
    rcases held_exchanged sound presents there unrevoked with accepted | spent | ⟨_, rfl, same⟩
    · exact Or.inl accepted
    · obtain ⟨one, holder, held, spent⟩ := spent
      refine Or.inr ⟨one, holder, ?_, spent⟩
      rw [get_goOn, if_neg]
      · exact held
      · intro here
        rw [here, found] at held
        obtain rfl := Option.some.inj held
        rw [idle] at spent
        cases spent
    · refine Or.inr ⟨id, next, ?_, same ▸ goes⟩
      rw [get_goOn, if_pos rfl]
      exact congrArg (Option.map fun _ => next) found

/-- What the provider answers for a token in order. -/
theorem answers_ok {tokens : IdentityTokens}
    (order : s.answers token (.ok (userId, tokens)) = true) : s.accepts token = true ∧
      (∃ row, s.tokens.get token = some row ∧ row.userId = userId) ∧
      tokens.refreshToken = some s.tokens.next ∧
      ∃ expiresAt, tokens.expiresAt = some expiresAt := by
  simp only [answers, Bool.and_eq_true, beq_iff_eq, Option.any_eq_true,
    Option.isSome_iff_exists] at order
  obtain ⟨⟨⟨row, found, accepted, user⟩, refreshToken⟩, expiresAt⟩ := order
  refine ⟨?_, ⟨row, found, user⟩, refreshToken, expiresAt⟩
  rw [accepts, found]
  exact accepted

theorem answers_error {error : ProviderError} (order : s.answers token (.error error) = true) :
    error = .other ∨ s.accepts token = false ∧ error = .invalidIdentityToken := by
  simpa [answers] using order

theorem ended_row (ended : s.ended tokenHash = true) {row : Session}
    (found : s.sessions.get tokenHash = some row) : row.revokedAt.isSome = true := by
  rw [AuthState.ended, found] at ended
  exact ended

theorem Sound.refreshing (sound : Sound config s)
    (found : s.requests.get id = some (.currentUser tokenHash now (.refreshing session token)))
    {answer : Answer} (nonce : Nat) (order : s.answers token answer = true)
    (unspent : (s.accepts token || s.ended tokenHash || unavailable answer) = true) :
    Sound config (s.refresh config id answer nonce
      (.currentUser tokenHash now (.refreshing session token))) := by
  have presents : Presents s tokenHash session token := sound.base.fine id _ found
  obtain ⟨row, there, user, stored⟩ := presents.stored
  show Sound config ((s.answered token answer).currentUserNext id tokenHash now
    (currentUserRefreshed config.cipher nonce session answer))
  match answer with
  | .error error =>
      rcases answers_error order with rfl | ⟨refused, rfl⟩
      · exact sound.finish found fun _ _ _ _ => rfl
      · have ended : s.ended tokenHash = true := by
          simpa [refused, unavailable] using unspent
        exact sound.goOn found ⟨row, there, ended_row ended there⟩ rfl nofun
  | .ok (userId, tokens) =>
      obtain ⟨accepted, ⟨issued, held, rfl⟩, fresh, expiresAt, expires⟩ := answers_ok order
      have same := stored accepted
      have owner : issued.userId = session.userId := by
        rw [← user]
        refine sound.base.owner tokenHash row issued there ?_
        rw [same, presents.same]
        exact held
      have goes : currentUserRefreshed config.cipher nonce session (.ok (issued.userId, tokens)) =
          .stage (.rotating session (config.cipher.sealed nonce s.tokens.next) expiresAt) := by
        simp [currentUserRefreshed, encryptRefreshToken, owner, fresh, expires]
      rw [goes]
      refine sound.exchanges found (fun _ _ => rfl) presents ?_ ?_ ?_
      · refine ⟨?_, ?_, config.cipher.listed, Nat.lt_succ_self _, ?_, ?_, row, there, ?_⟩
        · rw [presents.same]
          exact lt_exchanged presents.issued
        · rw [presents.same, accepts_exchanged presents.issued, bne_self_eq_false, Bool.and_false]
        · intro other holder there
          exact Nat.ne_of_lt (sound.base.issued other holder there)
        · intro holder _ _ _
          show ((exchanged s.tokens token issued.userId).get s.tokens.next).any _ = true
          rw [get_exchanged, if_pos rfl]
          rfl
        · intro other there
          have there : (exchanged s.tokens token issued.userId).get s.tokens.next = some other :=
            there
          rw [get_exchanged, if_pos rfl] at there
          obtain rfl := Option.some.inj there
          exact owner.trans user.symm
      · intro other holds
        exact (Option.some.inj holds).symm
      · simp [spends]

theorem Sound.loggingOut (sound : Sound config s)
    (found : s.requests.get id = some (.logout tokenHash now (.refreshing token session)))
    (answer : Answer) (nonce : Nat) : Sound config (s.refresh config id answer nonce
      (.logout tokenHash now (.refreshing token session))) := by
  have presents : Presents s tokenHash session token := sound.base.fine id _ found
  show Sound config ((s.answered token answer).goOn id (.logout tokenHash now
    (logoutRefreshed answer)))
  match answer with
  | .error error => exact sound.goOn found trivial rfl nofun
  | .ok (userId, tokens) =>
      cases signs : tokens.accessToken.isSome with
      | true =>
          rw [logoutRefreshed, signs]
          exact sound.exchanges found (fun _ _ => rfl) presents trivial nofun (by simp [spends])
      | false =>
          rw [logoutRefreshed, signs]
          exact sound.exchanges found (fun _ _ => rfl) presents trivial nofun (by simp [spends])

theorem Sound.loseAnswer (sound : Sound config s) (found : s.requests.get id = some request)
    (unspent : s.unspent (.loseAnswer id) = true) : Sound config (s.loseAnswer id request) := by
  simp only [AuthState.unspent, found] at unspent
  match request with
  | .currentUser tokenHash now (.refreshing session token) =>
      have presents : Presents s tokenHash session token := sound.base.fine id _ found
      have lost : Sound config
          { s with tokens := exchanged s.tokens token session.userId } := by
        refine ⟨sound.base.exchanged presents.row, fun other row there unrevoked => ?_⟩
        rcases held_exchanged sound presents there unrevoked with held | spent | ⟨held, rfl, _⟩
        · exact Or.inl held
        · exact Or.inr spent
        · have ended : s.ended other = true := by simpa [held] using unspent
          have revoked := ended_row ended there
          rw [unrevoked] at revoked
          cases revoked
      exact lost.finish found fun _ _ _ _ => rfl
  | .logout tokenHash now (.refreshing token session) =>
      have presents : Presents s tokenHash session token := sound.base.fine id _ found
      exact sound.exchanges found (fun _ _ => rfl) presents trivial nofun (by simp [spends])
  | .currentUser _ _ .reading | .currentUser _ _ (.rotating _ _ _) | .currentUser _ _ .rereading
  | .currentUser _ _ .revoking | .logout _ _ .reading | .logout _ _ .signingOut
  | .logout _ _ .revoking | .resetPassword _ _ => exact sound

theorem Sound.fail (sound : Sound config s) (unspent : s.unspent (.fail id) = true) :
    Sound config (s.finish id) := by
  cases found : s.requests.get id with
  | none =>
      refine ⟨sound.base.finish id, fun tokenHash row stored unrevoked => ?_⟩
      rcases sound.held tokenHash row stored unrevoked with accepted | ⟨other, holder, there, spent⟩
      · exact Or.inl accepted
      · refine Or.inr ⟨other, holder, ?_, spent⟩
        rw [get_finish, if_neg]
        · exact there
        · intro here
          rw [here, found] at there
          cases there
  | some request =>
      refine ⟨sound.base.finish id, sound.held.finish found
        fun tokenHash row stored unrevoked spent => ?_⟩
      simp only [AuthState.unspent, found, Option.all_some, List.all_eq_true] at unspent
      have kept := unspent (tokenHash, row) ((Table.mem_rows_iff ..).mpr stored)
      simp only [spent, unrevoked, Bool.not_true, Option.isSome_none, Bool.false_or,
        Bool.or_eq_true, List.any_eq_true, Bool.and_eq_true, bne_iff_ne] at kept
      rcases kept with accepted | ⟨⟨other, holder⟩, member, apart, spends⟩
      · exact Or.inl accepted
      · exact Or.inr ⟨other, holder, apart, (Table.mem_rows_iff ..).mp member, spends⟩

/-- A session begins with a token that is new. -/
theorem Sound.created (sound : Sound config s) (nonce : Nat) (expiresAt ends : Time) :
    Sound config { s with
      tokens := s.tokens.insert ⟨userId, true⟩
      sessions := s.sessions.insert
        ⟨userId, config.cipher.sealed nonce s.tokens.next, expiresAt, now, ends, none⟩ } := by
  obtain ⟨base, held⟩ := sound
  have keeps {token : RefreshToken} (issued : token < s.tokens.next) :
      (s.tokens.insert ⟨userId, true⟩).get token = s.tokens.get token := by
    rw [Table.get_insert, if_neg (Nat.ne_of_lt issued)]
  have accepts {token : RefreshToken} (issued : token < s.tokens.next) :
      ((s.tokens.insert ⟨userId, true⟩).get token).any ProviderToken.accepted =
        s.accepts token := by
    rw [keeps issued]
    rfl
  refine ⟨⟨?_, ?_, ?_, ?_, ?_, base.alone⟩, ?_⟩
  · intro tokenHash row found
    rcases Table.get_insert_row found with ⟨_, rfl⟩ | old
    · exact Nat.lt_succ_self _
    · exact Nat.lt_succ_of_lt (base.issued tokenHash row old)
  · intro tokenHash row found
    rcases Table.get_insert_row found with ⟨_, rfl⟩ | old
    · exact config.cipher.listed
    · exact base.opens tokenHash row old
  · intro tokenHash row token found issued
    rcases Table.get_insert_row found with ⟨_, rfl⟩ | old
    · have issued : (s.tokens.insert ⟨userId, true⟩).get s.tokens.next = some token := issued
      rw [Table.get_insert_next] at issued
      obtain rfl := Option.some.inj issued
      rfl
    · exact base.owner tokenHash row token old
        ((keeps (base.issued tokenHash row old)).symm.trans issued)
  · intro tokenHash other row row' found found' same
    rcases Table.get_insert_row found with ⟨rfl, rfl⟩ | old
    · rcases Table.get_insert_row found' with ⟨rfl, _⟩ | old'
      · rfl
      · exact absurd same.symm (Nat.ne_of_lt (base.issued other row' old'))
    · rcases Table.get_insert_row found' with ⟨rfl, rfl⟩ | old'
      · exact absurd same (Nat.ne_of_lt (base.issued tokenHash row old))
      · exact base.apart tokenHash other row row' old old' same
  · intro other request found
    have before := base.fine other request found
    have presents {tokenHash : TokenHash} {session : Session} {token : RefreshToken}
        (before : Presents s tokenHash session token) :
        Presents { s with
          tokens := s.tokens.insert ⟨userId, true⟩
          sessions := s.sessions.insert
            ⟨userId, config.cipher.sealed nonce s.tokens.next, expiresAt, now, ends, none⟩ }
          tokenHash session token := by
      obtain ⟨row, there, user, stored⟩ := before.stored
      refine ⟨before.same, Nat.lt_succ_of_lt before.issued, row, Table.get_insert_of_some there _,
        user, fun accepted => stored ?_⟩
      exact (accepts before.issued).symm.trans accepted
    match request with
    | .currentUser tokenHash _ (.refreshing session token) => exact presents before
    | .logout tokenHash _ (.refreshing token session) => exact presents before
    | .currentUser tokenHash _ (.rotating session next _) =>
        obtain ⟨holder, there, owner⟩ := before.owner
        refine ⟨Nat.lt_succ_of_lt before.issued, (accepts before.issued).trans before.spent,
          before.opens, Nat.lt_succ_of_lt before.nextIssued, ?_, ?_, holder,
          Table.get_insert_of_some there _, ?_⟩
        · intro one row stored
          rcases Table.get_insert_row stored with ⟨_, rfl⟩ | old
          · exact Nat.ne_of_gt before.nextIssued
          · exact before.unstored one row old
        · intro row stored unrevoked equal
          rcases Table.get_insert_row stored with ⟨_, rfl⟩ | old
          · have issued := before.issued
            rw [← equal] at issued
            exact absurd issued (Nat.lt_irrefl _)
          · exact (accepts before.nextIssued).trans (before.accepted row old unrevoked equal)
        · exact fun token issued => owner token ((keeps before.nextIssued).symm.trans issued)
    | .currentUser tokenHash _ .revoking =>
        obtain ⟨row, there, revoked⟩ := before
        exact ⟨row, Table.get_insert_of_some there _, revoked⟩
    | .currentUser _ _ .reading | .currentUser _ _ .rereading | .logout _ _ .reading
    | .logout _ _ .signingOut | .logout _ _ .revoking | .resetPassword _ _ => trivial
  · intro tokenHash row found unrevoked
    rcases Table.get_insert_row found with ⟨_, rfl⟩ | old
    · left
      show ((s.tokens.insert ⟨userId, true⟩).get s.tokens.next).any _ = true
      rw [Table.get_insert_next]
      rfl
    · rcases held tokenHash row old unrevoked with accepted | spent
      · exact Or.inl ((accepts (base.issued tokenHash row old)).trans accepted)
      · exact Or.inr spent

/-- Where the provider is in order and no token is spent twice or lost, sessions stay sound. -/
theorem Sound.step (sound : Sound config s) {input : AuthInput} (order : s.inOrder input = true)
    (unspent : s.unspent input = true) : Sound config (s.step config input) := by
  cases input with
  | createSession userId tokens nonce now =>
      simp only [AuthState.step]
      cases tokens with
      | mk accessToken refreshToken expiresAt =>
          match refreshToken, expiresAt with
          | none, _ => exact sound
          | some _, none => exact sound
          | some token, some expiresAt =>
              obtain rfl : token = s.tokens.next := by simpa [inOrder] using order
              exact sound.created nonce expiresAt (now + config.sessionTTL)
  | createRecoveryGrant userId encryptedAccessToken now =>
      exact ⟨⟨sound.base.issued, sound.base.opens, sound.base.owner, sound.base.apart,
        fun other holder there => (sound.base.fine other holder there).frame _ _,
        sound.base.alone⟩, sound.held⟩
  | currentUser tokenHash now => exact sound.begins trivial rfl
  | logout tokenHash now => exact sound.begins trivial rfl
  | resetPassword grantHash now => exact sound.begins trivial rfl
  | proceed id =>
      cases found : s.requests.get id with
      | none =>
          rw [AuthState.step, found]
          exact sound
      | some request =>
          rw [AuthState.step, found]
          exact sound.proceed found
  | refresh id answer nonce =>
      cases found : s.requests.get id with
      | none =>
          rw [AuthState.step, found]
          exact sound
      | some request =>
          rw [AuthState.step, found]
          simp only [inOrder, AuthState.unspent, found] at order unspent
          match request with
          | .currentUser tokenHash now (.refreshing session token) =>
              exact sound.refreshing found nonce order unspent
          | .logout tokenHash now (.refreshing token session) =>
              exact sound.loggingOut found answer nonce
          | .currentUser _ _ .reading | .currentUser _ _ (.rotating _ _ _)
          | .currentUser _ _ .rereading | .currentUser _ _ .revoking | .logout _ _ .reading
          | .logout _ _ .signingOut | .logout _ _ .revoking | .resetPassword _ _ => exact sound
  | loseAnswer id =>
      cases found : s.requests.get id with
      | none =>
          rw [AuthState.step, found]
          exact sound
      | some request =>
          rw [AuthState.step, found]
          exact sound.loseAnswer found unspent
  | provide id done =>
      cases found : s.requests.get id with
      | none =>
          rw [AuthState.step, found]
          exact sound
      | some request =>
          rw [AuthState.step, found]
          exact sound.provide found done
  | fail id => exact sound.fail unspent
  | dropTokens tokens => exact ⟨sound.base.dropped order, sound.held.dropped order⟩

end Steps

/-! ### Any run -/

/-- What a step leaves of a session that is over. -/
theorem step_over (config : AuthConfig) {s : AuthState} {tokenHash : TokenHash} {row : Session}
    (found : s.sessions.get tokenHash = some row) (revoked : row.revokedAt ≠ none)
    (input : AuthInput) : ∃ after, (s.step config input).sessions.get tokenHash = some after ∧
      after.revokedAt ≠ none := by
  have revokes {sessions : Table Session} (change : Revokes s.sessions sessions) :
      ∃ after, sessions.get tokenHash = some after ∧ after.revokedAt ≠ none := by
    obtain ⟨after, there, _⟩ := change.forth tokenHash row found
    obtain ⟨old, there', _, _, stays⟩ := change.back tokenHash after there
    rw [found] at there'
    obtain rfl := Option.some.inj there'
    rw [← Option.isSome_iff_ne_none] at revoked
    exact ⟨after, there, Option.isSome_iff_ne_none.mp (stays revoked)⟩
  have same : ∃ after, s.sessions.get tokenHash = some after ∧ after.revokedAt ≠ none :=
    ⟨row, found, revoked⟩
  have goes (s' : AuthState) (id : Nat) (tokenHash : TokenHash) (now : Time) (next : Next) :
      (s'.currentUserNext id tokenHash now next).sessions = s'.sessions := by
    cases next <;> rfl
  cases input with
  | createSession userId tokens nonce now =>
      simp only [step]
      split
      · exact same
      · exact ⟨row, Table.get_insert_of_some found _, revoked⟩
  | createRecoveryGrant userId encryptedAccessToken now => exact same
  | currentUser tokenHash now => exact same
  | logout tokenHash now => exact same
  | resetPassword grantHash now => exact same
  | fail id => exact same
  | dropTokens tokens => exact same
  | proceed id =>
      simp only [step]
      cases s.requests.get id with
      | none => exact same
      | some request =>
          show ∃ after, (s.proceed config id request).sessions.get tokenHash = some after ∧ _
          match request with
          | .currentUser other now .reading =>
              simp only [proceed, goes]
              exact same
          | .currentUser other now (.rotating session next expiresAt) =>
              simp only [proceed, goes]
              by_cases here : tokenHash = other
              · refine ⟨row, ?_, revoked⟩
                rw [rotateProviderSession, here, Table.get_patch_self (here ▸ found), if_neg]
                simp [Session.rotates, revoked]
              · refine ⟨row, ?_, revoked⟩
                rw [rotateProviderSession, Table.get_patch_of_ne here, found]
          | .currentUser other now .rereading =>
              simp only [proceed, goes]
              exact same
          | .currentUser other now .revoking =>
              exact revokes (revokeProviderSession_revokes s.sessions other now)
          | .logout other now .revoking =>
              exact revokes (revokeProviderSession_revokes s.sessions other now)
          | .resetPassword now (.claiming grantHash) =>
              simp only [proceed]
              split
              · exact same
              · split <;> exact same
          | .resetPassword now (.revoking userId) =>
              exact revokes (revokeUserSessions_revokes s.sessions userId now)
          | .currentUser _ _ (.refreshing _ _) | .logout _ _ .reading
          | .logout _ _ (.refreshing _ _) | .logout _ _ .signingOut
          | .resetPassword _ (.updating _) | .resetPassword _ .signingOut => exact same
  | refresh id answer nonce =>
      simp only [step]
      have answered (token : RefreshToken) : (s.answered token answer).sessions = s.sessions := by
        cases answer <;> rfl
      cases s.requests.get id with
      | none => exact same
      | some request =>
          show ∃ after, (s.refresh config id answer nonce request).sessions.get tokenHash =
            some after ∧ _
          match request with
          | .currentUser other now (.refreshing session token) =>
              simp only [refresh, goes, answered]
              exact same
          | .logout other now (.refreshing token session) =>
              simp only [refresh, goOn, answered]
              exact same
          | .currentUser _ _ .reading | .currentUser _ _ (.rotating _ _ _)
          | .currentUser _ _ .rereading | .currentUser _ _ .revoking | .logout _ _ .reading
          | .logout _ _ .signingOut | .logout _ _ .revoking | .resetPassword _ _ => exact same
  | loseAnswer id =>
      simp only [step]
      cases s.requests.get id with
      | none => exact same
      | some request =>
          show ∃ after, (s.loseAnswer id request).sessions.get tokenHash = some after ∧ _
          unfold loseAnswer
          split <;> exact same
  | provide id done =>
      simp only [step]
      cases s.requests.get id with
      | none => exact same
      | some request =>
          show ∃ after, (s.provide id done request).sessions.get tokenHash = some after ∧ _
          unfold provide
          split
          · exact same
          · split <;> exact same
          · exact same
          · exact same

/-- A session that is over is never valid again, whatever follows. -/
theorem run_over (config : AuthConfig) {s : AuthState} {tokenHash : TokenHash}
    (ended : ∃ row, s.sessions.get tokenHash = some row ∧ row.revokedAt ≠ none)
    (inputs : List AuthInput) (now : Time) :
    providerSessionByToken (run (step config) s inputs).sessions tokenHash now = none := by
  induction inputs generalizing s with
  | nil =>
      obtain ⟨row, found, revoked⟩ := ended
      rw [run_nil, providerSessionByToken, found, Option.filter_some, if_neg]
      simp [revoked]
  | cons input rest ih =>
      obtain ⟨row, found, revoked⟩ := ended
      exact ih (step_over config found revoked input)

theorem spends_concerns {tokenHash : TokenHash} {stored : EncryptedToken} {request : Request}
    (spent : spends tokenHash stored request = true) : tokenHashOf request = some tokenHash := by
  match request with
  | .currentUser other _ (.rotating _ _ _) =>
      simp only [spends, Bool.and_eq_true, beq_iff_eq] at spent
      exact congrArg some spent.1
  | .logout other _ .signingOut | .logout other _ .revoking =>
      exact congrArg some (beq_iff_eq.mp spent)
  | .currentUser _ _ .reading | .currentUser _ _ (.refreshing _ _) | .currentUser _ _ .rereading
  | .currentUser _ _ .revoking | .logout _ _ .reading | .logout _ _ (.refreshing _ _)
  | .resetPassword _ _ => cases spent

/-- Where the provider's tokens are single use and its accounts in order, sessions are
kept as long as no call presents a token that another has spent, and none is cut off
with a token that it has spent. -/
theorem sessions_kept (config : AuthConfig) (inputs : List AuthInput)
    (order : Along (step config) (fun s input => s.inOrder input = true) empty inputs)
    (unspent : Along (step config) (fun s input => s.unspent input = true) empty inputs) :
    Kept config inputs := by
  have sound {front : List AuthInput} {rest : List AuthInput} (split : inputs = front ++ rest) :
      Sound config (run (step config) empty front) := by
    subst split
    refine run_keeps (Sound config) (fun _ _ sound meets => sound.step meets.1 meets.2)
      (empty_sound config) (Along.and ((along_append ..).mp order).1
        ((along_append ..).mp unspent).1)
  refine ⟨?_, ?_, ?_⟩
  · intro front id rest tokenHash now row split found there
    obtain ⟨holder, there', revoked⟩ := (sound split).base.fine id _ found
    rw [there] at there'
    obtain rfl := Option.some.inj there'
    exact Option.isSome_iff_ne_none.mp revoked
  · intro tokenHash row found unrevoked idle
    rcases (sound (List.append_nil inputs).symm).held tokenHash row found unrevoked with
      accepted | ⟨id, request, there, spent⟩
    · exact accepted
    · exact absurd (spends_concerns spent) (idle id request there)
  · intro front rest tokenHash row split found revoked now
    rw [split, run_append]
    exact run_over config ⟨row, found, revoked⟩ rest now

def sampleConfig : AuthConfig := ⟨⟨1, [1], by decide⟩, 2592000000⟩

def sampleTokens (refreshToken : RefreshToken) (expiresAt : Time) : IdentityTokens :=
  ⟨some 0, some refreshToken, some expiresAt⟩

/-- User 5 signs in, and an hour later a call refreshes the session's tokens. -/
def sampleVisit : List AuthInput :=
  [.createSession 5 (sampleTokens 0 3600000) 0 0, .currentUser 0 3600000, .proceed 0,
    .currentUser 0 3600001, .refresh 0 (.ok (5, sampleTokens 1 7200000)) 1]

set_option maxRecDepth 20000 in
theorem sessions_kept_visit : Kept sampleConfig
    (sampleVisit ++ [.proceed 0, .proceed 1, .logout 0 3700000, .proceed 2,
      .refresh 2 (.ok (5, sampleTokens 2 7300000)) 2, .provide 2 true, .proceed 2]) :=
  sessions_kept sampleConfig _ (by decide) (by decide)

set_option maxRecDepth 20000 in
/-- A second call has read the token that the first one spends, and revokes the session. -/
theorem second_refresh_revokes : ¬ ∀ config inputs,
    Along (step config) (fun s input => s.inOrder input = true) empty inputs →
      Kept config inputs := by
  intro always
  have kept := always sampleConfig ([.createSession 5 (sampleTokens 0 3600000) 0 0,
    .currentUser 0 3600000, .currentUser 0 3600001, .proceed 0, .proceed 1,
    .refresh 0 (.ok (5, sampleTokens 1 7200000)) 1, .refresh 1 (.error .invalidIdentityToken) 2] ++
    [.proceed 1]) (by decide)
  exact kept.unrevoked _ 1 [] 0 3600001 ⟨5, ⟨1, 0, 0⟩, 3600000, 0, 2592000000, none⟩ rfl rfl rfl rfl

end AuthState

end Bling.Api.Auth
