/-
Module: Freight.Proofs.RetryDelay
Purpose: Which accepted retry delays the relay can use: when a failed publication is recorded
  as a retry that is due later, and the loop goes on.
Trusted boundary: none
Main exports:
  Relay.failedTurn, Relay.Retries, Relay.retries_iff, Relay.retry_is_later_iff
-/
import Freight.Domain.Numbers
import Freight.Messaging.RelayWorker
import Freight.Proofs.RelayFairness

namespace Freight

open Interaction (Program Computation)
open Interaction.Computation (Returns.bind Raises.bind Returns.tryExcept Raises.tryExcept
  Returns.onExit Returns.withState)

/-! ## Delays -/

/-- What is more than half a microsecond is not rounded to nothing. -/
theorem Double.roundHalfEven_pos_iff {value : ℚ} : 0 < roundHalfEven value ↔ 1 / 2 < value := by
  rcases Nat.eq_zero_or_pos ⌊value⌋₊ with small | large
  · have below : value < 1 := Nat.floor_eq_zero.mp small
    simp only [roundHalfEven, small, Nat.cast_zero, sub_zero]
    split
    · rename_i half
      exact iff_of_false (lt_irrefl 0) (not_lt.mpr half.le)
    · split
      · rename_i half
        exact iff_of_true Nat.one_pos half
      · rename_i half
        exact iff_of_false (lt_irrefl 0) half
  · have above : (1 : ℚ) ≤ value := by
      have floor := (Nat.le_floor_iff' (Nat.ne_of_gt large)).mp le_rfl
      exact le_trans (by exact_mod_cast large) floor
    have rounded : ⌊value⌋₊ ≤ roundHalfEven value := by
      unfold roundHalfEven
      simp only
      split
      · exact le_rfl
      · split
        · omega
        · split <;> omega
    constructor
    · intro _
      linarith
    · intro _
      omega

/-- A delay is limited to 999999999 days. -/
theorem timedelta_finite_iff {mantissa : Nat} {exponent delay : Int} :
    timedelta (.finite false mantissa exponent) = .ok delay ↔
      delay = microsecondsOf mantissa exponent ∧
        microsecondsOf mantissa exponent < 1000000000 * 86400000000 := by
  simp only [timedelta, Bool.false_eq_true, if_false]
  split
  · rename_i fits
    rw [Except.ok.injEq]
    omega
  · rename_i large
    constructor
    · intro delayed
      split at delayed <;> cases delayed
    · intro delayed
      have small := delayed.2
      omega

/-- A sum is limited to the years up to 9999. -/
theorem DateTime.plus_eq_ok_iff {value sum : DateTime} {delta : Int} :
    value.plus delta = .ok sum ↔
      sum = value.add delta ∧ 0 ≤ value.wall + delta ∧ value.wall + delta < DateTime.ending := by
  unfold DateTime.plus
  split
  · rename_i within
    rw [Except.ok.injEq]
    constructor
    · intro same
      exact ⟨same.symm, within⟩
    · intro same
      exact same.1.symm
  · rename_i outside
    simp only [reduceCtorEq, false_iff, not_and]
    intro _ early late
    exact outside ⟨early, late⟩

/-- The delay that is accepted is finite and positive. -/
theorem getOutboxSettings_retrySeconds {float : String → Option Double}
    {environment : Environment} {settings : OutboxSettings}
    (accepted : getOutboxSettings float environment = .ok settings) :
    ∃ mantissa exponent, settings.retrySeconds = .finite false mantissa exponent := by
  have finite : ∀ {name default : String} {seconds : Double},
      positive float environment name default = .ok seconds →
        ∃ mantissa exponent, seconds = .finite false mantissa exponent := by
    intro name default seconds read
    unfold positive at read
    split at read
    · cases read
    · split at read
      · rename_i value finite
        cases read
        unfold Double.isFinitePositive at finite
        split at finite
        · exact ⟨_, _, rfl⟩
        · cases finite
      · cases read
  unfold getOutboxSettings at accepted
  dsimp only at accepted
  split at accepted
  · cases accepted
  split at accepted
  · cases accepted
  simp only [bind, Except.bind] at accepted
  split at accepted
  · cases accepted
  split at accepted
  · cases accepted
  rename_i retrySeconds read
  split at accepted
  · cases accepted
  cases accepted
  exact finite read

namespace Relay

/-! ## A turn whose publication fails -/

/-- What such a turn says when the failure is recorded. -/
def failedTurn (retryDelay : Int) (claimedAt : DateTime) (row : OutboxEventModel)
    (error : PyError) (failedAt : DateTime) : List Said :=
  failedCommit retryDelay claimedAt row error failedAt ++
    [⟨.statement .rollback, .ok ()⟩, ⟨.count .retryCommitted, .ok ()⟩]

/-- What it says when the clock and the delay have no sum. -/
def overflownTurn (claimedAt : DateTime) (row : OutboxEventModel) (error : PyError)
    (failedAt : DateTime) : List Said :=
  published claimedAt row (.error error) ++
    [⟨.statement .now, .ok failedAt⟩, ⟨.statement .rollback, .ok ()⟩,
      ⟨.statement .rollback, .ok ()⟩, ⟨.count .transactionFailed, .ok ()⟩]

section Turns

variable {retryDelay : Int} {claimedAt failedAt : DateTime} {row : OutboxEventModel}
  {error : PyError} {session : Session} {settings : OutboxSettings}

/-- The row is marked, and nothing is sent. -/
theorem converses_markFailed {retryAt : DateTime} {text : String} :
    (plain (SQLAlchemyOutboxRepository.markFailed row.id retryAt text)
        { outboxEvents := [{ loaded := row }] }).Converses []
      (.ok (),
        { outboxEvents :=
            [{ loaded := row
               assigned := some (SQLAlchemyOutboxRepository.failed retryAt text row) }] }) := by
  unfold SQLAlchemyOutboxRepository.markFailed
  rw [plain_congr mark_claimed]
  exact .done _

/-- Up to the second reading of the clock nothing depends on the delay. -/
theorem converses_execute {spoken : List Said}
    {outcome : Except PyError (Option PublicationResult) × Session}
    (ended : ((do
        let retryAt ← Computation.ofExcept (failedAt.plus retryDelay)
        plain (SQLAlchemyOutboxRepository.markFailed row.id retryAt
          (SQLAlchemyOutboxRepository.truncated error.typeName))
        pure (some
          { message := SQLAlchemyOutboxRepository.message row
            confirmed := false
            errorType := some error.typeName }) : Py (Option PublicationResult))
      { outboxEvents := [{ loaded := row }] }).Converses spoken outcome) :
    (execute retryDelay {}).Converses
      (published claimedAt row (.error error) ++ ⟨.statement .now, .ok failedAt⟩ :: spoken)
      outcome := by
  unfold execute
  iterate 5 apply Program.Converses.perform
  exact ended

/-- The marked row is sent and committed. -/
theorem converses_commit (attempt : Attempt) :
    (plain Session.commit
        { outboxEvents := [{ loaded := attempt.row, assigned := some attempt.marked }] }).Converses
      [⟨.statement (.updateOutbox attempt.row.id attempt.patch), .ok ()⟩,
        ⟨.statement .commit, .ok ()⟩]
      (.ok (), { outboxEvents := [{ loaded := attempt.marked }] }) := by
  rw [plain_congr (commit_marked attempt)]
  exact .perform _ (.perform _ (.done _))

/-- With a sum the failure is recorded. -/
theorem publishOne_recorded (later : failedAt.plus retryDelay = .ok (failedAt.add retryDelay)) :
    ∃ last, (publishOne retryDelay {}).Converses
      (failedTurn retryDelay claimedAt row error failedAt) (.ok true, last) := by
  have executed : (execute retryDelay {}).Converses
      (published claimedAt row (.error error) ++ [⟨.statement .now, .ok failedAt⟩])
      (.ok (some
          { message := SQLAlchemyOutboxRepository.message row
            confirmed := false
            errorType := some error.typeName }),
        { outboxEvents :=
            [{ loaded := row
               assigned :=
                some (attempt retryDelay row (.error error) failedAt).marked }] }) := by
    apply converses_execute
    rw [later]
    exact Returns.bind converses_markFailed (.done _)
  have begun : (sessionBegin (execute retryDelay) {}).Converses
      (failedCommit retryDelay claimedAt row error failedAt)
      (.ok (some
          { message := SQLAlchemyOutboxRepository.message row
            confirmed := false
            errorType := some error.typeName }),
        { outboxEvents :=
            [{ loaded := (attempt retryDelay row (.error error) failedAt).marked }] }) := by
    have committed := converses_commit (attempt retryDelay row (.error error) failedAt)
    apply Returns.tryExcept
    refine (Returns.bind executed (Returns.bind committed (.done _))).of_eq ?_
    simp [failedCommit, marked, attempt]
  have closed : (plain Session.close
      { outboxEvents :=
          [{ loaded := (attempt retryDelay row (.error error) failedAt).marked }] }).Converses
      [⟨.statement .rollback, .ok ()⟩]
      (.ok (),
        { outboxEvents :=
            [{ loaded := (attempt retryDelay row (.error error) failedAt).marked }] }) :=
    .perform _ (.done _)
  have counted : (count (if false then .publishedCommitted else .retryCommitted)
      { outboxEvents :=
          [{ loaded := (attempt retryDelay row (.error error) failedAt).marked }] }).Converses
      [⟨.count .retryCommitted, .ok ()⟩]
      (.ok (),
        { outboxEvents :=
            [{ loaded := (attempt retryDelay row (.error error) failedAt).marked }] }) :=
    .perform _ (.done _)
  refine ⟨_, (Returns.bind (Returns.tryExcept (Returns.onExit begun closed))
    (Returns.bind counted (.done _))).of_eq ?_⟩
  simp [failedTurn]

/-- Without one everything is rolled back, and the exception goes on. -/
theorem publishOne_overflown {overflow : PyError}
    (outside : failedAt.plus retryDelay = .error overflow) :
    ∃ last, (publishOne retryDelay {}).Converses
      (overflownTurn claimedAt row error failedAt) (.error overflow, last) := by
  have executed : (execute retryDelay {}).Converses
      (published claimedAt row (.error error) ++ [⟨.statement .now, .ok failedAt⟩])
      (.error overflow, { outboxEvents := [{ loaded := row }] }) := by
    apply converses_execute
    rw [outside]
    exact .done _
  have begun : (sessionBegin (execute retryDelay) {}).Converses
      (published claimedAt row (.error error) ++ [⟨.statement .now, .ok failedAt⟩] ++
        [⟨.statement .rollback, .ok ()⟩])
      (.error overflow, {}) := by
    refine Raises.tryExcept (Raises.bind executed) ?_
    apply Program.Converses.perform
    exact .done _
  have closed : (plain Session.close {}).Converses [⟨.statement .rollback, .ok ()⟩]
      (.ok (), {}) := .perform _ (.done _)
  have counted : ((do
      count .transactionFailed
      Computation.raise overflow : Py (Option PublicationResult)) {}).Converses
      [⟨.count .transactionFailed, .ok ()⟩] (.error overflow, {}) :=
    .perform _ (.done _)
  refine ⟨_, (Raises.bind (Raises.tryExcept (Returns.onExit begun closed) counted)).of_eq ?_⟩
  simp [overflownTurn]

/-! ## The loop -/

/-- The loop goes on after it. -/
theorem run_recorded (delayed : timedelta settings.retrySeconds = .ok retryDelay)
    (later : failedAt.plus retryDelay = .ok (failedAt.add retryDelay)) {turns : Nat}
    {following : List Said} {outcome : Except PyError Unit × Session}
    (continued : (run settings turns session).Converses following outcome) :
    (run settings (turns + 1) session).Converses
      (failedTurn retryDelay claimedAt row error failedAt ++ following) outcome := by
  obtain ⟨last, published⟩ : ∃ last, (publishOne retryDelay {}).Converses
      (failedTurn retryDelay claimedAt row error failedAt) (.ok true, last) :=
    publishOne_recorded later
  have turned : (turn settings session).Converses
      (failedTurn retryDelay claimedAt row error failedAt) (.ok none, session) := by
    apply Returns.tryExcept
    rw [delayed]
    apply Computation.Returns.ofExcept
    exact (Returns.bind (Returns.withState published) (.done _)).of_eq (by simp)
  exact Returns.bind turned continued

/-- The loop ends with it. -/
theorem run_overflown {overflow : PyError}
    (delayed : timedelta settings.retrySeconds = .ok retryDelay)
    (outside : failedAt.plus retryDelay = .error overflow)
    (uncaught : overflow.isSQLAlchemyError = false) {turns : Nat} :
    (run settings (turns + 1) session).Converses (overflownTurn claimedAt row error failedAt)
      (.error overflow, session) := by
  obtain ⟨last, raised⟩ : ∃ last, (publishOne retryDelay {}).Converses
      (overflownTurn claimedAt row error failedAt) (.error overflow, last) :=
    publishOne_overflown outside
  have turned : (turn settings session).Converses (overflownTurn claimedAt row error failedAt)
      (.error overflow, session) := by
    have failed : ((do
        let retryDelay ← Computation.ofExcept (timedelta settings.retrySeconds)
        let worked ← Computation.withState {} (publishOne retryDelay)
        pure (if worked then none else some settings.pollSeconds) : Py (Option Double))
        session).Converses (overflownTurn claimedAt row error failedAt)
        (.error overflow, session) := by
      rw [delayed]
      apply Computation.Returns.ofExcept
      exact Raises.bind (Returns.withState raised)
    have unhandled : ((if overflow.isSQLAlchemyError then do
        plain (Freight.call .observe)
        pure (some settings.retrySeconds)
      else Computation.raise overflow : Py (Option Double)) session).Converses []
        (.error overflow, session) := by
      rw [uncaught]
      exact .done _
    exact (Raises.tryExcept failed unhandled).of_eq (by simp)
  exact Raises.bind turned

/-- The loop cannot even claim a row when the delay is none. -/
theorem run_undelayed {overflow : PyError}
    (undelayed : timedelta settings.retrySeconds = .error overflow)
    (uncaught : overflow.isSQLAlchemyError = false) {turns : Nat} :
    (run settings (turns + 1) session).Converses [] (.error overflow, session) := by
  have turned : (turn settings session).Converses [] (.error overflow, session) := by
    unfold turn
    rw [undelayed]
    have unhandled : ((if overflow.isSQLAlchemyError then do
        plain (Freight.call .observe)
        pure (some settings.retrySeconds)
      else Computation.raise overflow : Py (Option Double)) session).Converses []
        (.error overflow, session) := by
      rw [uncaught]
      exact .done _
    exact (Raises.tryExcept (Raises.bind (.done _)) unhandled).of_eq rfl
  exact Raises.bind turned

/-! ## What can be used -/

/-- After every failed publication the loop goes on, and the row is due later than the clock
reading at which the failure was recorded. -/
def Retries (server : Server) (settings : OutboxSettings) (failedAt : DateTime) : Prop :=
  ∀ (claimedAt : DateTime) (row : OutboxEventModel) (error : PyError), ∃ retryDelay,
    failedAt.instant server.postgres.localize <
      server.attemptAt ((server.postgres.outboxPatch
        (attempt retryDelay row (.error error) failedAt).patch).applyTo row) ∧
      ∀ turns session following outcome,
        (run settings turns session).Converses following outcome →
          (run settings (turns + 1) session).Converses
            (failedTurn retryDelay claimedAt row error failedAt ++ following) outcome

theorem timedelta_uncaught {seconds : Double} {overflow : PyError}
    (undelayed : timedelta seconds = .error overflow) : overflow.isSQLAlchemyError = false := by
  cases seconds with
  | nan =>
      cases undelayed
      rfl
  | infinity negative =>
      cases undelayed
      rfl
  | finite negative mantissa exponent =>
      simp only [timedelta] at undelayed
      generalize (if negative then -(microsecondsOf mantissa exponent : Int)
        else microsecondsOf mantissa exponent) = delay at undelayed
      split at undelayed
      · cases undelayed
      · split at undelayed
        · cases undelayed
          rfl
        · cases undelayed
          rfl

/-- A delay can be used when it is one, is not rounded to nothing, and can be added. -/
theorem retries_iff {server : Server} (utc : failedAt.utcoffset = some 0) :
    Retries server settings failedAt ↔
      ∃ retryDelay, timedelta settings.retrySeconds = .ok retryDelay ∧ 0 < retryDelay ∧
        failedAt.plus retryDelay = .ok (failedAt.add retryDelay) := by
  constructor
  · intro retries
    let message : RecordedEventMessage := ⟨⟨0⟩, ⟨0⟩, ⟨0⟩, .null, none⟩
    let row := SQLAlchemyOutboxRepository.model message failedAt
    obtain ⟨recorded, late, continues⟩ := retries failedAt row (.typeError "")
    have conversed := continues 0 {} [] (.ok (), {}) (.done _)
    -- what is said after the second reading of the clock tells the cases apart
    have spoken : ∀ {next : Said} {rest : List Said} {outcome : Except PyError Unit × Session},
        (run settings 1 {}).Converses (published failedAt row (.error (.typeError "")) ++
          [⟨.statement .now, .ok failedAt⟩] ++ next :: rest) outcome →
        next.1 = .statement (.updateOutbox row.id
          (attempt recorded row (.error (.typeError "")) failedAt).patch) :=
      fun other => other.next_unique conversed
    cases delayed : timedelta settings.retrySeconds with
    | error overflow =>
        have ended : (run settings 1 {}).Converses [] (.error overflow, {}) :=
          run_undelayed delayed (timedelta_uncaught delayed)
        exact (ended.not_longer conversed).elim
    | ok retryDelay =>
        rcases DateTime.plus_cases failedAt retryDelay with later | outside
        · have other : (run settings 1 {}).Converses
              (failedTurn retryDelay failedAt row (.typeError "") failedAt ++ [])
              (.ok (), {}) := run_recorded delayed later (.done _)
          have same : (attempt retryDelay row (.error (.typeError "")) failedAt).patch =
              (attempt recorded row (.error (.typeError "")) failedAt).patch :=
            (Statement.updateOutbox.inj (Operation.statement.inj (spoken other))).2
          rw [← same, attemptAt_failed utc] at late
          exact ⟨retryDelay, rfl, by omega, later⟩
        · have other : (run settings 1 {}).Converses
              (overflownTurn failedAt row (.typeError "") failedAt) (.error _, {}) :=
            run_overflown delayed outside rfl
          cases spoken other
  · rintro ⟨retryDelay, delayed, positive, later⟩ claimedAt row error
    refine ⟨retryDelay, ?_, ?_⟩
    · rw [attemptAt_failed utc]
      omega
    · intro turns session following outcome continued
      exact run_recorded delayed later continued

end Turns

/-- Of the accepted settings those can be used whose delay is more than half a microsecond and
leads to no year after 9999, and no others: the one is rounded to nothing, and the other ends
the process. -/
theorem retry_is_later_iff (server : Server) (float : String → Option Double)
    (environment : Environment) (settings : OutboxSettings)
    (accepted : getOutboxSettings float environment = .ok settings) (failedAt : DateTime)
    (utc : failedAt.utcoffset = some 0) (representable : 0 ≤ failedAt.wall) :
    Retries server settings failedAt ↔
      ∃ seconds : ℚ, settings.retrySeconds.value = some (.inr seconds) ∧
        1 / 2 < seconds * 1000000 ∧
        failedAt.wall + Double.roundHalfEven (seconds * 1000000) < DateTime.ending := by
  obtain ⟨mantissa, exponent, finite⟩ := getOutboxSettings_retrySeconds accepted
  have value : settings.retrySeconds.value = some (.inr ((mantissa : ℚ) * 2 ^ exponent)) := by
    simp [finite, Double.value, Double.signed]
  rw [retries_iff utc, finite]
  constructor
  · rintro ⟨retryDelay, delayed, positive, later⟩
    obtain ⟨rfl, -⟩ := timedelta_finite_iff.mp delayed
    obtain ⟨-, -, within⟩ := DateTime.plus_eq_ok_iff.mp later
    refine ⟨_, finite ▸ value, ?_, within⟩
    exact Double.roundHalfEven_pos_iff.mp (by exact_mod_cast positive)
  · rintro ⟨seconds, read, positive, within⟩
    rw [← finite, value, Option.some.injEq, Sum.inr.injEq] at read
    subst read
    have rounded : 0 < microsecondsOf mantissa exponent :=
      Double.roundHalfEven_pos_iff.mpr positive
    have sum : failedAt.wall + microsecondsOf mantissa exponent < DateTime.ending := within
    have days : microsecondsOf mantissa exponent < 1000000000 * 86400000000 := by
      rw [DateTime.ending] at sum
      omega
    refine ⟨_, timedelta_finite_iff.mpr ⟨rfl, days⟩, by omega, ?_⟩
    exact DateTime.plus_eq_ok_iff.mpr ⟨rfl, by omega, sum⟩

/-! ## Delays that are accepted -/

/-- `float`, of the numbers below. -/
def floats : String → Option Double
  | "1" => some (.finite false 4503599627370496 (-52))
  | "5" => some (.finite false 5629499534213120 (-50))
  | "10" => some (.finite false 5629499534213120 (-49))
  | "1e-7" => some (.finite false 7555786372591432 (-76))
  | "1e12" => some (.finite false 8192000000000000 (-13))
  | "1e15" => some (.finite false 8000000000000000 (-3))
  | _ => none

/-- An environment that sets nothing but the delay. -/
def retryAfter (seconds : String) : Environment
  | "OUTBOX_RETRY_SECONDS" => some seconds
  | _ => none

/-- The settings of such an environment. -/
def retrying (retrySeconds : Double) : OutboxSettings where
  exchange := "freight.shipment-notifications"
  queue := "freight.shipment-event-notifications"
  pollSeconds := .finite false 4503599627370496 (-52)
  retrySeconds := retrySeconds
  publishTimeoutSeconds := .finite false 5629499534213120 (-49)

/-- Midnight on the first day of 2026. -/
def newYear : DateTime := .utc 63902822400000000

/-- The default can be used. -/
theorem five_seconds_retry :
    Retries Server.flaky (retrying (.finite false 5629499534213120 (-50))) newYear := by
  have accepted : getOutboxSettings floats (retryAfter "5") =
      .ok (retrying (.finite false 5629499534213120 (-50))) := by decide +kernel
  refine (retry_is_later_iff Server.flaky floats (retryAfter "5") _ accepted newYear rfl
    (by decide)).mpr ⟨5, ?_, by norm_num, ?_⟩
  · norm_num [retrying, Double.value, Double.signed]
  · have whole : Double.roundHalfEven (5 * 1000000) = 5000000 := by
      rw [← Double.roundHalfEven_natCast 5000000]
      norm_num
    rw [whole]
    decide

/-- Three settings that are accepted: the first delay is rounded to nothing, the second one
has no sum with the clock, and the third one is none. -/
theorem accepted_delays_unusable :
    (∃ settings, getOutboxSettings floats (retryAfter "1e-7") = .ok settings ∧
      ¬ Retries Server.flaky settings newYear) ∧
    (∃ settings, getOutboxSettings floats (retryAfter "1e12") = .ok settings ∧
      ¬ Retries Server.flaky settings newYear) ∧
    ∃ settings, getOutboxSettings floats (retryAfter "1e15") = .ok settings ∧
      ¬ Retries Server.flaky settings newYear := by
  refine ⟨⟨retrying (.finite false 7555786372591432 (-76)), by decide +kernel, ?_⟩,
    ⟨retrying (.finite false 8192000000000000 (-13)), by decide +kernel, ?_⟩,
    ⟨retrying (.finite false 8000000000000000 (-3)), by decide +kernel, ?_⟩⟩
  · rw [retries_iff rfl]
    rintro ⟨retryDelay, delayed, positive, -⟩
    obtain ⟨rfl, -⟩ := timedelta_finite_iff.mp delayed
    have half := Double.roundHalfEven_pos_iff.mp (Int.natCast_pos.mp positive)
    norm_num at half
  · rw [retries_iff rfl]
    rintro ⟨retryDelay, delayed, -, later⟩
    obtain ⟨rfl, -⟩ := timedelta_finite_iff.mp delayed
    have whole : microsecondsOf 8192000000000000 (-13) = 1000000000000000000 := by
      rw [microsecondsOf, ← Double.roundHalfEven_natCast 1000000000000000000]
      norm_num
    rw [whole] at later
    revert later
    decide
  · rw [retries_iff rfl]
    rintro ⟨retryDelay, delayed, -, -⟩
    obtain ⟨-, days⟩ := timedelta_finite_iff.mp delayed
    have whole : microsecondsOf 8000000000000000 (-3) = 1000000000000000000000 := by
      rw [microsecondsOf, ← Double.roundHalfEven_natCast 1000000000000000000000]
      norm_num
    rw [whole] at days
    omega

end Relay

end Freight
