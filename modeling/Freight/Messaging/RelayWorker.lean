/-
Module: Freight.Messaging.RelayWorker
Purpose: The loop of the outbox worker around `publish_one`, with the delay that it makes of
  the settings.
Trusted boundary: none
Main exports:
  timedelta, PyError.isSQLAlchemyError, Relay.turn, Relay.run
-/
import Freight.Messaging.Relay
import Freight.Messaging.Topology
import Freight.Text.Binary64

namespace Freight

open Interaction.Computation (raise ofExcept tryExcept withState)

/-! ## Delays -/

/-- The microseconds of a number of seconds, the even number of two nearest ones. -/
def microsecondsOf (mantissa : Nat) (exponent : Int) : Nat :=
  Double.roundHalfEven (mantissa * 2 ^ exponent * 1000000)

/-- `timedelta(seconds=…)` of a float, in microseconds, rounded as documented: its days are
limited. -/
def timedelta : Double → Except PyError Int
  | .nan => .error (.value "cannot convert float NaN to integer")
  | .infinity _ =>
      .error (.exception "OverflowError" "cannot convert float infinity to integer")
  | .finite negative mantissa exponent =>
      let magnitude : Int := microsecondsOf mantissa exponent
      let microseconds := if negative then -magnitude else magnitude
      let days := microseconds / 86400000000
      if days.natAbs ≤ 999999999 then .ok microseconds
      else if -2147483648 ≤ days ∧ days ≤ 2147483647 then
        .error (.exception "OverflowError"
          ("days=" ++ toString days ++ "; must have magnitude <= 999999999"))
      else .error (.exception "OverflowError" "Python int too large to convert to C int")

/-! ## The loop -/

/-- Whether `except SQLAlchemyError` catches it. -/
def PyError.isSQLAlchemyError : PyError → Bool
  | .integrityError _ _ | .operationalError _ => true
  | _ => false

namespace Relay

/-- The body of the loop of `run`, up to its `stop.wait`: how long it would wait. -/
def turn (settings : OutboxSettings) : Py (Option Double) :=
  tryExcept
    (do
      let retryDelay ← ofExcept (timedelta settings.retrySeconds)
      let worked ← withState {} (publishOne retryDelay)
      pure (if worked then none else some settings.pollSeconds))
    (fun error =>
      if error.isSQLAlchemyError then do
        plain (Freight.call .observe)
        pure (some settings.retrySeconds)
      else raise error)

/-- `run`, where `stop` is set after a number of turns. -/
def run (settings : OutboxSettings) : Nat → Py Unit
  | 0 => pure ()
  | turns + 1 => do
      let _ ← turn settings
      run settings turns

end Relay

end Freight
