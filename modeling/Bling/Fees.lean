import Bling.Schema

set_option autoImplicit false

namespace Bling

/-! Fees, from `lib/stripe.ts`. -/

def standardPlatformFeeBps : Nat := 2000
def betaPlatformFeeBps : Nat := 1000
def signupPlatformFeeBps : Nat := betaPlatformFeeBps

def creatorFeeBps (creator : Option User) : Nat :=
  (creator.bind User.platformFeeBps).getD betaPlatformFeeBps

def basicCardFeeBps : Int := 290
def basicCardFixedFeeCents : Int := 30
def creatorProcessingFeeShareBps : Int := 5000

structure PaymentFees where
  platformFeeBps : Nat
  platformFeeCents : Int
  basicCardFeeCents : Int
  creatorProcessingFeeCents : Int
deriving DecidableEq

/-- `Math.floor(x / 10000)` is `Int` division, which rounds down. -/
def paymentFees (amountCents : Nat) (platformFeeBps : Nat) : PaymentFees :=
  let basicCardFeeCents := (amountCents * basicCardFeeBps + 5000) / 10000 + basicCardFixedFeeCents
  let creatorProcessingFeeCents := basicCardFeeCents * creatorProcessingFeeShareBps / 10000
  let creatorShareBps : Int := 10000 - platformFeeBps
  let platformFeeCents :=
    amountCents - amountCents * creatorShareBps / 10000 + creatorProcessingFeeCents
  { platformFeeBps, platformFeeCents, basicCardFeeCents, creatorProcessingFeeCents }

/-- What a call earns its creator: the price less the snapshotted platform fee. -/
def PaymentAttempt.earningCents (attempt : PaymentAttempt) : Int :=
  attempt.amountCents - attempt.platformFeeCents

example : (paymentFees 500 standardPlatformFeeBps).platformFeeCents = 122 := by decide

end Bling
