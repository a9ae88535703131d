import Bling.Ledger

set_option autoImplicit false

namespace Bling.Api

/-! The fees of the Go API, from `internal/payment/store.go`. Its `/` is
truncated division. -/

def platformFeeBPS : Int := 2000
def basicCardFeeBPS : Int := 290
def basicCardFixedFeeCents : Int := 30
def creatorProcessingFeeShareBPS : Int := 5000

def basicCardFeeCents (amountCents : Int) : Int :=
  let percentageFee := (amountCents * basicCardFeeBPS + 5000).tdiv 10000
  percentageFee + basicCardFixedFeeCents

def creatorProcessingFeeCents (basicFeeCents : Int) : Int :=
  (basicFeeCents * creatorProcessingFeeShareBPS).tdiv 10000

def platformFeeCents (amountCents creatorFeeCents : Int) : Int :=
  let creatorShareBPS := 10000 - platformFeeBPS
  let platformShareCents := amountCents - (amountCents * creatorShareBPS).tdiv 10000
  platformShareCents + creatorFeeCents

end Bling.Api

namespace Bling

/-! What a creator is told a call will pay, beside what it pays. -/

/-- What a creator keeps from a paid call, from `lib/site.ts`. -/
def creatorTakeHomeCents (priceCents : Nat) (creatorSharePercent : Int) : Int :=
  let cardFeeCents : Int := (priceCents * 290 + 5000) / 10000 + 30
  priceCents * creatorSharePercent * 100 / 10000 - cardFeeCents / 2

/-- The payout shown while a tier is priced, from `studio/format.ts`, with
`0.029` and `0.8` read as fractions. -/
def estimatedCreatorEarningsCents (amountCents : Nat) : Int :=
  let basicCardFeeCents := mathRound (amountCents * 29) 1000 + 30
  let creatorCardFeeCents := basicCardFeeCents / 2
  max 0 ((amountCents * 8 : Int) / 10 - creatorCardFeeCents)

/-- What `paymentFees` leaves to the creator. -/
theorem credit_eq (amountCents platformFeeBps : Nat) :
    let fees := paymentFees amountCents platformFeeBps
    amountCents - fees.platformFeeCents =
      (amountCents : Int) * (10000 - platformFeeBps) / 10000 - fees.basicCardFeeCents / 2 := by
  simp only [paymentFees, creatorProcessingFeeShareBps]
  omega

/-- The shares that a platform fee up to the standard one can leave. -/
theorem share_bounds (amountCents platformFeeBps : Nat)
    (standard : platformFeeBps ≤ standardPlatformFeeBps) :
    (amountCents : Int) * 8000 ≤ amountCents * (10000 - platformFeeBps) ∧
      (amountCents : Int) * (10000 - platformFeeBps) ≤ amountCents * 10000 := by
  unfold standardPlatformFeeBps at standard
  constructor
  · exact Int.mul_le_mul_of_nonneg_left (by omega) (Int.natCast_nonneg _)
  · exact Int.mul_le_mul_of_nonneg_left (by omega) (Int.natCast_nonneg _)

theorem credit_pos (amountCents platformFeeBps : Nat) (priced : 50 ≤ amountCents)
    (standard : platformFeeBps ≤ standardPlatformFeeBps) :
    0 < amountCents - (paymentFees amountCents platformFeeBps).platformFeeCents := by
  obtain ⟨least, most⟩ := share_bounds amountCents platformFeeBps standard
  rw [credit_eq]
  simp only [paymentFees, Bling.basicCardFeeBps, Bling.basicCardFixedFeeCents]
  omega

theorem credit_lt (amountCents platformFeeBps : Nat)
    (standard : platformFeeBps ≤ standardPlatformFeeBps) :
    amountCents - (paymentFees amountCents platformFeeBps).platformFeeCents < amountCents := by
  obtain ⟨least, most⟩ := share_bounds amountCents platformFeeBps standard
  rw [credit_eq]
  simp only [paymentFees, Bling.basicCardFeeBps, Bling.basicCardFixedFeeCents]
  omega

/-- A rate in whole percents is the share the pricing page quotes. -/
theorem credit_takeHome (amountCents platformFeeBps : Nat) (whole : 100 ∣ platformFeeBps) :
    amountCents - (paymentFees amountCents platformFeeBps).platformFeeCents =
      creatorTakeHomeCents amountCents ((10000 - platformFeeBps) / 100) := by
  obtain ⟨percent, rfl⟩ := whole
  have quoted : ((10000 : Int) - (100 * percent : Nat)) / 100 = 100 - percent := by omega
  have scaled : (amountCents : Int) * (10000 - (100 * percent : Nat)) =
      amountCents * (100 - percent) * 100 := by
    push_cast
    ring
  rw [credit_eq, scaled, quoted]
  simp only [paymentFees, creatorTakeHomeCents, Bling.basicCardFeeBps,
    Bling.basicCardFixedFeeCents]

/-- At the standard rate each fee is the one the Go API snapshots. -/
theorem paymentFees_standard (amountCents : Nat) :
    let fees := paymentFees amountCents standardPlatformFeeBps
    fees.basicCardFeeCents = Api.basicCardFeeCents amountCents ∧
      fees.creatorProcessingFeeCents = Api.creatorProcessingFeeCents fees.basicCardFeeCents ∧
      fees.platformFeeCents =
        Api.platformFeeCents amountCents fees.creatorProcessingFeeCents := by
  simp only [paymentFees, Bling.basicCardFeeBps, Bling.basicCardFixedFeeCents,
    Bling.creatorProcessingFeeShareBps, standardPlatformFeeBps, Api.basicCardFeeCents,
    Api.creatorProcessingFeeCents, Api.platformFeeCents, Api.basicCardFeeBPS,
    Api.basicCardFixedFeeCents, Api.creatorProcessingFeeShareBPS, Api.platformFeeBPS]
  have charged : (0 : Int) ≤ amountCents := Int.natCast_nonneg _
  refine ⟨?_, ?_, ?_⟩
  · rw [Int.tdiv_eq_ediv_of_nonneg (by omega)]
  · rw [Int.tdiv_eq_ediv_of_nonneg (by omega)]
  · rw [Int.tdiv_eq_ediv_of_nonneg (by omega)]
    omega

/-- Bling and the creator both gain on every call, Bling bears the odd cent of
the card fee, and the three formulas agree. -/
theorem fees_whole (amountCents platformFeeBps : Nat) (priced : 50 ≤ amountCents)
    (standard : platformFeeBps ≤ standardPlatformFeeBps) :
    let fees := paymentFees amountCents platformFeeBps
    let credit := amountCents - fees.platformFeeCents
    (0 < credit ∧ credit < amountCents) ∧
      credit =
        (amountCents : Int) * (10000 - platformFeeBps) / 10000 - fees.basicCardFeeCents / 2 ∧
      (100 ∣ platformFeeBps →
        credit = creatorTakeHomeCents amountCents ((10000 - platformFeeBps) / 100)) ∧
      (platformFeeBps = 2000 →
        fees.basicCardFeeCents = Api.basicCardFeeCents amountCents ∧
        fees.creatorProcessingFeeCents =
          Api.creatorProcessingFeeCents (Api.basicCardFeeCents amountCents) ∧
        fees.platformFeeCents = Api.platformFeeCents amountCents
          (Api.creatorProcessingFeeCents (Api.basicCardFeeCents amountCents))) := by
  refine ⟨⟨credit_pos _ _ priced standard, credit_lt _ _ standard⟩, credit_eq _ _,
    credit_takeHome _ _, ?_⟩
  intro rate
  subst rate
  obtain ⟨basic, processing, platform⟩ := paymentFees_standard amountCents
  refine ⟨basic, ?_, ?_⟩
  · rw [← basic]
    exact processing
  · rw [← basic, ← processing]
    exact platform

theorem fees_whole_least :
    0 < (50 : Nat) - (paymentFees 50 2000).platformFeeCents ∧
      (50 : Nat) - (paymentFees 50 2000).platformFeeCents < (50 : Nat) :=
  (fees_whole 50 2000 (by decide) (by decide)).1

/-- A creator whose account is as sign-up makes it, or made before rates were
stored, is credited nine tenths of the price less their half of the card fee. -/
theorem creatorFeeBps_signup {creator : User}
    (account : creator.platformFeeBps = some signupPlatformFeeBps ∨
      creator.platformFeeBps = none) :
    creatorFeeBps (some creator) = 1000 := by
  unfold creatorFeeBps
  cases account with
  | inl stored => simp [stored, signupPlatformFeeBps, betaPlatformFeeBps]
  | inr missing => simp [missing, betaPlatformFeeBps]

/-- The estimate keeps the standard rate's four fifths, which is less than what
such a creator is credited at every price a tier may have. -/
theorem estimate_short (creator : User) (amountCents : Nat) (priced : 50 ≤ amountCents)
    (account : creator.platformFeeBps = some signupPlatformFeeBps ∨
      creator.platformFeeBps = none) :
    estimatedCreatorEarningsCents amountCents ≠
      amountCents - (paymentFees amountCents (creatorFeeBps (some creator))).platformFeeCents := by
  rw [creatorFeeBps_signup account, credit_eq]
  simp only [estimatedCreatorEarningsCents, mathRound, paymentFees, Bling.basicCardFeeBps,
    Bling.basicCardFixedFeeCents]
  omega

/-- A creator as sign-up makes them. -/
def newCreator : User :=
  { isAnonymous := false
    username := some [97, 100, 97]
    platformFeeBps := some signupPlatformFeeBps }

/-- A new creator's five-dollar call pays $4.28, and the tier form says $3.78. -/
theorem estimate_differs :
    estimatedCreatorEarningsCents 500 = 378 ∧
      (500 : Nat) - (paymentFees 500 (creatorFeeBps (some newCreator))).platformFeeCents = 428 := by
  decide

theorem estimate_short_new :
    estimatedCreatorEarningsCents 500 ≠
      (500 : Nat) - (paymentFees 500 (creatorFeeBps (some newCreator))).platformFeeCents :=
  estimate_short newCreator 500 (by decide) (Or.inl rfl)

end Bling
