/-
Module: Freight.Store.RelayProtocol
Purpose: What a relay says, one operation after the other, and that nobody else claims or
  marks rows of the outbox.
Trusted boundary: none
Main exports:
  Relay.claimed, Relay.published, Relay.marked, Relay.Protocol, Relay.holds_publishOne,
  Relay.Foreign, Relay.Law, Relay.relaying_lawful
-/
import Freight.Messaging.Relay
import Freight.Store.Relaying

namespace Freight.Relay

open Interaction (Contract Exchange ProcessId transcripts transcripts_call
  transcripts_perform_iff)

/-! ## The transcript of an attempt -/

/-- The outcome that the observed publisher counts. -/
def outcomeOf : Except PyError Unit → Outcome
  | .ok _ => .brokerConfirmed
  | .error _ => .publishFailed

/-- The outcome that the relay counts after its commit. -/
def committedOutcome : Except PyError Unit → Outcome
  | .ok _ => .publishedCommitted
  | .error _ => .retryCommitted

/-- An attempt to publish a row. -/
def attempt (retryDelay : Int) (row : OutboxEventModel) (report : Except PyError Unit)
    (now : DateTime) : Attempt where
  row := row
  lsn := 0
  confirmed := report.isOk
  now := now
  retryDelay := retryDelay
  failure :=
    match report with
    | .ok _ => none
    | .error error => some error

/-- A row has been claimed. -/
def claimed (claimedAt : DateTime) (row : OutboxEventModel) : List Said :=
  [⟨.statement .now, .ok claimedAt⟩, ⟨.statement (.claimOutbox claimedAt), .ok (some row)⟩]

/-- It has been published, or not, and this has been counted. -/
def published (claimedAt : DateTime) (row : OutboxEventModel) (report : Except PyError Unit) :
    List Said :=
  claimed claimedAt row ++
    [⟨.statement (.publish (SQLAlchemyOutboxRepository.message row)), report⟩,
      ⟨.count (outcomeOf report), .ok ()⟩]

/-- It has been marked. -/
def marked (retryDelay : Int) (claimedAt : DateTime) (row : OutboxEventModel)
    (report : Except PyError Unit) (now : DateTime) : List Said :=
  published claimedAt row report ++
    [⟨.statement .now, .ok now⟩,
      ⟨.statement (.updateOutbox row.id (attempt retryDelay row report now).patch), .ok ()⟩]

/-- What a relay may say next. -/
inductive Protocol (retryDelay : Int) : List Said → Said → Prop where
  | clock (answer : Except PyError DateTime) :
      Protocol retryDelay [] ⟨.statement .now, answer⟩
  | claim (now : DateTime) (answer : Except PyError (Option OutboxEventModel)) :
      Protocol retryDelay [⟨.statement .now, .ok now⟩] ⟨.statement (.claimOutbox now), answer⟩
  | publish (claimedAt : DateTime) (row : OutboxEventModel) (report : Except PyError Unit) :
      Protocol retryDelay (claimed claimedAt row)
        ⟨.statement (.publish (SQLAlchemyOutboxRepository.message row)), report⟩
  | observe (claimedAt : DateTime) (row : OutboxEventModel) (report : Except PyError Unit) :
      Protocol retryDelay
        (claimed claimedAt row ++
          [⟨.statement (.publish (SQLAlchemyOutboxRepository.message row)), report⟩])
        ⟨.count (outcomeOf report), .ok ()⟩
  | clockAgain (claimedAt : DateTime) (row : OutboxEventModel) (report : Except PyError Unit)
      (answer : Except PyError DateTime) :
      Protocol retryDelay (published claimedAt row report) ⟨.statement .now, answer⟩
  | mark (claimedAt : DateTime) (row : OutboxEventModel) (report : Except PyError Unit)
      (now : DateTime) (answer : Except PyError Unit) :
      Protocol retryDelay (published claimedAt row report ++ [⟨.statement .now, .ok now⟩])
        ⟨.statement (.updateOutbox row.id (attempt retryDelay row report now).patch), answer⟩
  | idle (now : DateTime) (answer : Except PyError Unit) :
      Protocol retryDelay
        [⟨.statement .now, .ok now⟩, ⟨.statement (.claimOutbox now), .ok none⟩]
        ⟨.statement .commit, answer⟩
  | commit (claimedAt : DateTime) (row : OutboxEventModel) (report : Except PyError Unit)
      (now : DateTime) (answer : Except PyError Unit) :
      Protocol retryDelay (marked retryDelay claimedAt row report now)
        ⟨.statement .commit, answer⟩
  | close (spoken : List Said) (answer : Except PyError Unit) :
      Protocol retryDelay spoken ⟨.statement .rollback, answer⟩
  | report (claimedAt : DateTime) (row : OutboxEventModel) (report : Except PyError Unit)
      (now : DateTime) :
      Protocol retryDelay
        (marked retryDelay claimedAt row report now ++
          [⟨.statement .commit, .ok ()⟩, ⟨.statement .rollback, .ok ()⟩])
        ⟨.count (committedOutcome report), .ok ()⟩
  | failed (spoken : List Said) (uncommitted : spoken.any commits = false) :
      Protocol retryDelay spoken ⟨.count .transactionFailed, .ok ()⟩

/-- What the environment may answer: see `permits`. -/
structure Permitted (spoken : List Said) (said : Said) : Prop where
  counts : ∀ outcome answer, said = ⟨.count outcome, answer⟩ → answer = .ok ()
  closes : ∀ answer, said = ⟨.statement .rollback, answer⟩ → spoken.any commits = true →
    answer = .ok ()

/-! ## The relay keeps to it -/

/-- How `publish_one` leaves its transaction. -/
inductive Ended (retryDelay : Int) :
    Except PyError (Option PublicationResult) → List Said → Prop where
  | idle (now : DateTime) :
      Ended retryDelay (.ok none)
        [⟨.statement .now, .ok now⟩, ⟨.statement (.claimOutbox now), .ok none⟩,
          ⟨.statement .commit, .ok ()⟩]
  | committed (claimedAt : DateTime) (row : OutboxEventModel) (report : Except PyError Unit)
      (now : DateTime) (result : PublicationResult)
      (confirmed : result.confirmed = report.isOk) :
      Ended retryDelay (.ok (some result))
        (marked retryDelay claimedAt row report now ++ [⟨.statement .commit, .ok ()⟩])
  | failed (error : PyError) (spoken : List Said) (uncommitted : spoken.any commits = false) :
      Ended retryDelay (.error error) spoken

section Rules

variable {retryDelay : Int} {spoken : List Said} {session : Session}

/-- `PublishOutboxEvent.execute` returns nothing, or a result for a marked row. -/
inductive Executed (retryDelay : Int) :
    Except PyError (Option PublicationResult) → Session → List Said → Prop where
  | idle (now : DateTime) :
      Executed retryDelay (.ok none) {}
        [⟨.statement .now, .ok now⟩, ⟨.statement (.claimOutbox now), .ok none⟩]
  | attempted (claimedAt : DateTime) (row : OutboxEventModel) (report : Except PyError Unit)
      (now : DateTime) (result : PublicationResult)
      (confirmed : result.confirmed = report.isOk) :
      Executed retryDelay (.ok (some result))
        { outboxEvents :=
            [{ loaded := row, assigned := some (attempt retryDelay row report now).marked }] }
        (published claimedAt row report ++ [⟨.statement .now, .ok now⟩])
  | failed (error : PyError) (session : Session) (spoken : List Said)
      (uncommitted : spoken.any commits = false) :
      Executed retryDelay (.error error) session spoken

/-- The observed publisher. -/
theorem holds_publish {claimedAt : DateTime} {row : OutboxEventModel}
    {post : Contract.Post PyError Session (List Said) Unit}
    (reported : ∀ report, post report session (published claimedAt row report)) :
    (transcripts Permitted (Protocol retryDelay)).holds
      (publish (SQLAlchemyOutboxRepository.message row)) post session
      (claimed claimedAt row) := by
  apply Contract.holds_bind
  apply Contract.holds_tryExcept
  apply transcripts_call
  intro report _
  refine ⟨.publish claimedAt row report, ?_⟩
  cases report with
  | ok reply =>
      apply transcripts_call
      intro answer permitted
      cases permitted.counts _ _ rfl
      exact ⟨.observe claimedAt row (.ok reply), reported (.ok reply)⟩
  | error error =>
      apply Contract.holds_bind
      apply transcripts_call
      intro answer permitted
      cases permitted.counts _ _ rfl
      exact ⟨.observe claimedAt row (.error error), reported (.error error)⟩

theorem plain_congr {α : Type} {body other : Freight.Py α}
    (same : body session = other session) : plain body session = plain other session := by
  unfold plain Interaction.Computation.relabel
  rw [same]

/-- Marking the one claimed row sends nothing. -/
theorem mark_claimed {row : OutboxEventModel} {change : OutboxEventModel → OutboxEventModel} :
    SQLAlchemyOutboxRepository.mark row.id change { outboxEvents := [{ loaded := row }] } =
      (Interaction.Computation.modify fun _ =>
          { outboxEvents := [{ loaded := row, assigned := some (change row) }] } :
        Freight.Py Unit) { outboxEvents := [{ loaded := row }] } := by
  have tracked : Session.trackedOutbox { outboxEvents := [{ loaded := row }] } row.id =
      some { loaded := row } := by
    rw [Session.trackedOutbox, Table.lookup_singleton]
    simp
  have changed : Session.changeOutbox row.id change { outboxEvents := [{ loaded := row }] } =
      { outboxEvents := [{ loaded := row, assigned := some (change row) }] } := by
    simp [Session.changeOutbox, Table.modify, Tracked.current]
  simp only [SQLAlchemyOutboxRepository.mark, Session.getOutbox, bind,
    Interaction.Computation.bind, Interaction.Computation.read, Interaction.Program.done_bind,
    pure, Interaction.Computation.pure, tracked, Option.map_some,
    Interaction.Computation.modify, changed]

theorem holds_mark {row : OutboxEventModel} {change : OutboxEventModel → OutboxEventModel}
    {post : Contract.Post PyError Session (List Said) Unit}
    (marked : post (.ok ())
      { outboxEvents := [{ loaded := row, assigned := some (change row) }] } spoken) :
    (transcripts Permitted (Protocol retryDelay)).holds
      (plain (SQLAlchemyOutboxRepository.mark row.id change)) post
      { outboxEvents := [{ loaded := row }] } spoken := by
  unfold Contract.holds
  rw [plain_congr mark_claimed]
  exact marked

/-- The clock is read again, and the row is marked. -/
theorem holds_settle {claimedAt : DateTime} {row : OutboxEventModel}
    {report : Except PyError Unit} {failure : Option PyError}
    (same : failure = (attempt retryDelay row report claimedAt).failure) :
    (transcripts Permitted (Protocol retryDelay)).holds
      (do
        let now : DateTime ← plain (call .now)
        match failure with
        | some error =>
            let retryAt ← Interaction.Computation.ofExcept (now.plus retryDelay)
            plain (SQLAlchemyOutboxRepository.markFailed row.id retryAt
              (SQLAlchemyOutboxRepository.truncated error.typeName))
            pure (some
              { message := SQLAlchemyOutboxRepository.message row
                confirmed := false
                errorType := some error.typeName })
        | none =>
            plain (SQLAlchemyOutboxRepository.markPublished row.id now)
            pure (some
              { message := SQLAlchemyOutboxRepository.message row, confirmed := true }))
      (Executed retryDelay) { outboxEvents := [{ loaded := row }] }
      (published claimedAt row report) := by
  apply Contract.holds_bind
  apply transcripts_call
  intro answer _
  refine ⟨.clockAgain claimedAt row report answer, ?_⟩
  cases answer with
  | error error =>
      refine .failed error _ _ ?_
      simp [published, claimed, commits]
  | ok now =>
      cases report with
      | ok reply =>
          subst same
          apply Contract.holds_bind
          refine holds_mark ?_
          exact .attempted claimedAt row (.ok reply) now _ rfl
      | error error =>
          subst same
          apply Contract.holds_bind
          apply Contract.holds_ofExcept
          rcases DateTime.plus_cases now retryDelay with later | overflow
          · rw [later]
            apply Contract.holds_bind
            refine holds_mark ?_
            exact .attempted claimedAt row (.error error) now _ rfl
          · rw [overflow]
            refine .failed _ _ _ ?_
            simp [published, claimed, commits]

/-- `PublishOutboxEvent.execute`. -/
theorem holds_execute :
    (transcripts Permitted (Protocol retryDelay)).holds (execute retryDelay)
      (Executed retryDelay) {} [] := by
  apply Contract.holds_bind
  apply transcripts_call
  intro answer _
  refine ⟨.clock answer, ?_⟩
  cases answer with
  | error error => exact .failed error _ _ rfl
  | ok claimedAt =>
      apply Contract.holds_bind
      refine transcripts_perform_iff.mpr ?_
      intro answer _
      refine ⟨.claim claimedAt answer, ?_⟩
      cases answer with
      | error error => exact .failed error _ _ rfl
      | ok found =>
          cases found with
          | none => exact .idle claimedAt
          | some row =>
              apply Contract.holds_bind
              apply Contract.holds_tryExcept
              apply Contract.holds_bind
              apply holds_publish
              intro report
              cases report with
              | ok reply => exact holds_settle rfl
              | error error => exact holds_settle rfl

/-- Flushing the marked row sends its update. -/
theorem commit_marked (attempt : Attempt) :
    Session.commit
        { outboxEvents := [{ loaded := attempt.row, assigned := some attempt.marked }] } =
      (do
        call (.updateOutbox attempt.row.id attempt.patch)
        Interaction.Computation.modify fun _ =>
          { outboxEvents := [{ loaded := attempt.marked }] }
        call .commit : Freight.Py Unit)
        { outboxEvents := [{ loaded := attempt.row, assigned := some attempt.marked }] } := by
  simp only [Session.commit, Session.flush, bind, Interaction.Computation.bind,
    Interaction.Computation.read, Interaction.Program.done_bind, Interaction.Computation.forEach,
    Session.updateOutbox_changed attempt.patch_ne]
  refine congrArg (Interaction.Program.perform _) (funext ?_)
  intro answer
  cases answer <;> rfl

theorem holds_commit (attempt : Attempt) {post : Contract.Post PyError Session (List Said) Unit}
    (verified : ∀ (answer : Except PyError Unit) (session : Session),
      Protocol retryDelay spoken
          ⟨.statement (.updateOutbox attempt.row.id attempt.patch), answer⟩ ∧
        Contract.Post.on
          (fun _ => (transcripts Permitted (Protocol retryDelay)).holds (plain (call .commit))
            post)
          (fun error => post (.error error)) answer session
          (spoken ++ [⟨.statement (.updateOutbox attempt.row.id attempt.patch), answer⟩])) :
    (transcripts Permitted (Protocol retryDelay)).holds (plain Session.commit) post
      { outboxEvents := [{ loaded := attempt.row, assigned := some attempt.marked }] }
      spoken := by
  unfold Contract.holds
  rw [plain_congr (commit_marked attempt)]
  refine transcripts_perform_iff.mpr ?_
  intro answer _
  refine ⟨(verified answer {}).1, ?_⟩
  cases answer with
  | error error => exact (verified (.error error) _).2
  | ok reply => exact (verified (.ok reply) _).2

/-- The handler of `with session.begin()`. -/
theorem holds_rollback {error : PyError} (uncommitted : spoken.any commits = false) :
    (transcripts Permitted (Protocol retryDelay)).holds
      (do
        plain Session.rollback
        Interaction.Computation.raise error : Py (Option PublicationResult))
      (fun outcome _ => Ended retryDelay outcome) session spoken := by
  apply Contract.holds_bind
  refine transcripts_perform_iff.mpr ?_
  intro answer _
  refine ⟨.close spoken answer, ?_⟩
  have still : (spoken ++ [(⟨.statement .rollback, answer⟩ : Said)]).any commits = false := by
    rw [List.any_append, uncommitted]
    rfl
  cases answer with
  | error other => exact .failed other _ still
  | ok reply => exact .failed error _ still

/-- `with session.begin()`. -/
theorem holds_sessionBegin :
    (transcripts Permitted (Protocol retryDelay)).holds (sessionBegin (execute retryDelay))
      (fun outcome _ => Ended retryDelay outcome) {} [] := by
  apply Contract.holds_tryExcept
  apply Contract.holds_bind
  refine Contract.holds_mono holds_execute ?_
  intro outcome session spoken executed
  cases executed with
  | failed error session spoken uncommitted => exact holds_rollback uncommitted
  | idle now =>
      apply Contract.holds_bind
      refine transcripts_perform_iff.mpr ?_
      intro answer _
      refine ⟨.idle now answer, ?_⟩
      cases answer with
      | error error => exact holds_rollback rfl
      | ok reply => exact .idle now
  | attempted claimedAt row report now result confirmed =>
      apply Contract.holds_bind
      refine holds_commit (attempt retryDelay row report now) ?_
      intro answer session
      refine ⟨.mark claimedAt row report now answer, ?_⟩
      cases answer with
      | error error =>
          refine holds_rollback ?_
          simp [published, claimed, commits]
      | ok reply =>
          have whole : published claimedAt row report ++ [⟨.statement .now, .ok now⟩] ++
              [⟨.statement (.updateOutbox row.id (attempt retryDelay row report now).patch),
                .ok reply⟩] = marked retryDelay claimedAt row report now := by
            simp [marked]
          refine transcripts_perform_iff.mpr ?_
          intro answer _
          constructor
          · exact whole ▸ .commit claimedAt row report now answer
          · cases answer with
            | error error =>
                refine holds_rollback ?_
                simp [published, claimed, commits]
            | ok reply => exact whole ▸ .committed claimedAt row report now result confirmed

/-- The handler of `publish_one`. -/
theorem holds_transactionFailed {error : PyError} (uncommitted : spoken.any commits = false)
    {post : Contract.Post PyError Session (List Said) (Option PublicationResult)}
    (raised : ∀ after, post (.error error) session after) :
    (transcripts Permitted (Protocol retryDelay)).holds
      (do
        count .transactionFailed
        Interaction.Computation.raise error)
      post session spoken := by
  apply Contract.holds_bind
  apply transcripts_call
  intro answer permitted
  cases permitted.counts _ _ rfl
  exact ⟨.failed spoken uncommitted, raised _⟩

/-- The end of `publish_one`. -/
theorem holds_report {claimedAt now : DateTime} {row : OutboxEventModel}
    {report : Except PyError Unit} {result : PublicationResult}
    (confirmed : result.confirmed = report.isOk) :
    (transcripts Permitted (Protocol retryDelay)).holds
      (do
        count (if result.confirmed then .publishedCommitted else .retryCommitted)
        pure true)
      (fun _ _ _ => True) session
      (marked retryDelay claimedAt row report now ++
        [⟨.statement .commit, .ok ()⟩, ⟨.statement .rollback, .ok ()⟩]) := by
  have named : (if result.confirmed then Outcome.publishedCommitted else .retryCommitted) =
      committedOutcome report := by
    rw [confirmed]
    cases report <;> rfl
  rw [named]
  apply Contract.holds_bind
  apply transcripts_call
  intro answer permitted
  cases permitted.counts _ _ rfl
  exact ⟨.report claimedAt row report now, trivial⟩

/-- `publish_one`. -/
theorem holds_publishOne :
    (transcripts Permitted (Protocol retryDelay)).holds (publishOne retryDelay)
      (fun _ _ _ => True) {} [] := by
  apply Contract.holds_bind
  apply Contract.holds_tryExcept
  apply Contract.holds_onExit
  refine Contract.holds_mono holds_sessionBegin ?_
  intro outcome session spoken ended
  refine transcripts_perform_iff.mpr ?_
  intro answer permitted
  refine ⟨.close spoken answer, ?_⟩
  cases ended with
  | failed error spoken uncommitted =>
      have still : (spoken ++ [(⟨.statement .rollback, answer⟩ : Said)]).any commits =
          false := by
        rw [List.any_append, uncommitted]
        rfl
      cases answer with
      | error other => exact holds_transactionFailed still fun _ => trivial
      | ok reply => exact holds_transactionFailed still fun _ => trivial
  | idle now =>
      cases permitted.closes _ rfl rfl
      trivial
  | committed claimedAt row report now result confirmed =>
      have closed := permitted.closes _ rfl (by simp [commits])
      cases closed
      rw [List.append_assoc]
      exact holds_report confirmed

end Rules

/-! ## The other processes -/

/-- A statement that claims or marks no row of the outbox. -/
def Foreign : Statement → Prop
  | .claimOutbox _ | .updateOutbox _ _ => False
  | _ => True

/-- A session in which no row of the outbox has been assigned to. -/
def Unmarked (session : Session) : Prop :=
  ∀ tracked ∈ session.outboxEvents, tracked.assigned = none

section Foreign

open Interaction.Computation (Within read modify)

/-- Code of a process that is no relay. -/
abbrev Outside {α : Type} (body : Freight.Py α) : Prop := Within Foreign Unmarked body

theorem outside_scalarShipment (id : UUID) : Outside (Session.scalarShipment id) := by
  refine (Within.call trivial).bind ?_
  intro row
  cases row with
  | none => exact Within.pure
  | some row =>
      refine Within.read_bind ?_
      intro session _
      cases session.trackedShipment row.id with
      | some tracked => exact Within.pure
      | none =>
          refine Within.bind (Within.modify ?_) fun _ => Within.pure
          exact fun _ unmarked => unmarked

theorem outside_getShipment (id : UUID) : Outside (Session.getShipment id) := by
  refine Within.read_bind ?_
  intro session _
  cases session.trackedShipment id with
  | some tracked => exact Within.pure
  | none => exact outside_scalarShipment id

theorem outside_flushNewShipments : Outside Session.flushNewShipments := by
  refine Within.read_bind ?_
  intro session _
  refine (Within.forEach fun row _ => Within.call trivial).bind ?_
  intro _
  exact Within.modify fun _ unmarked => unmarked

theorem outside_flushNewEvents : Outside Session.flushNewEvents := by
  refine Within.read_bind ?_
  intro session _
  refine (Within.forEach fun row _ => Within.call trivial).bind ?_
  intro _
  exact Within.modify fun _ unmarked => unmarked

theorem outside_flushNewOutboxEvents : Outside Session.flushNewOutboxEvents := by
  refine Within.read_bind ?_
  intro session _
  refine (Within.forEach fun row _ => Within.call trivial).bind ?_
  intro _
  refine Within.modify ?_
  intro state unmarked tracked member
  rcases List.mem_append.mp member with added | there
  · obtain ⟨row, -, rfl⟩ := List.mem_map.mp added
    rfl
  · exact unmarked tracked there

theorem outside_updateShipment (tracked : Tracked ShipmentModel) :
    Outside (Session.updateShipment tracked) := by
  unfold Session.updateShipment
  cases tracked.assigned with
  | none => exact Within.pure
  | some current => exact Within.ite Within.pure (Within.call trivial)

/-- A flush marks no row, because none has been assigned to. -/
theorem outside_flush : Outside Session.flush := by
  refine Within.read_bind ?_
  intro session unmarked
  refine (Within.forEach ?_).bind fun _ => ?_
  · intro tracked member
    rw [Session.updateOutbox, unmarked tracked member]
    exact Within.pure
  refine outside_flushNewOutboxEvents.bind fun _ => ?_
  refine (Within.forEach fun tracked _ => outside_updateShipment tracked).bind fun _ => ?_
  refine outside_flushNewShipments.bind fun _ => ?_
  refine outside_flushNewEvents.bind fun _ => ?_
  refine Within.modify ?_
  intro state clean tracked member
  obtain ⟨before, -, rfl⟩ := List.mem_map.mp member
  rfl

theorem outside_commit : Outside Session.commit :=
  outside_flush.bind fun _ => Within.call trivial

theorem outside_rollback : Outside Session.rollback :=
  (Within.call trivial).bind fun _ => Within.modify fun _ _ _ member => nomatch member

theorem outside_get (id : UUID) : Outside (SQLAlchemyShipmentRepository.get id) :=
  (outside_scalarShipment id).bind fun _ => Within.pure

theorem outside_saveShipment (shipment : Shipment) :
    Outside (SQLAlchemyShipmentRepository.save shipment) := by
  refine (Within.call trivial).bind fun _ => ?_
  refine (outside_getShipment shipment.id).bind ?_
  intro existing
  cases existing with
  | none => exact Within.modify fun _ unmarked => unmarked
  | some row => exact Within.modify fun _ unmarked => unmarked

theorem outside_saveEvent (event : ShipmentEvent) :
    Outside (SQLAlchemyShipmentEventRepository.save event) :=
  (Within.call trivial).bind fun _ => Within.modify fun _ unmarked => unmarked

theorem outside_add (message : RecordedEventMessage) :
    Outside (SQLAlchemyOutboxRepository.add message) := by
  refine outside_flushNewShipments.bind fun _ => ?_
  refine outside_flushNewEvents.bind fun _ => ?_
  refine (Within.call trivial).bind fun _ => ?_
  exact Within.modify fun _ unmarked => unmarked

theorem outside_record (event : ShipmentEvent) (correlationId : Option String) :
    Outside (RecordedEventMessage.record event correlationId) :=
  (Within.call trivial).bind fun _ => Within.ofExcept

theorem outside_transaction {α : Type} {body : Freight.Py α} (inside : Outside body) :
    Outside (transaction body) := by
  refine Within.onExit (Within.tryExcept ?_ ?_) (Within.call trivial)
  · refine inside.bind fun answer => ?_
    refine outside_commit.bind fun _ => ?_
    exact (Within.call trivial).bind fun _ => Within.pure
  · intro error
    refine outside_rollback.bind fun _ => ?_
    exact (Within.call trivial).bind fun _ => Within.raise

theorem outside_createShipment (correlationId : Option String) (input : CreateShipmentInput) :
    Outside (Freight.createShipment correlationId input) := by
  refine outside_transaction ?_
  refine Within.bind ?_ fun shipment => (Within.call trivial).bind fun _ => Within.pure
  refine (Within.call trivial).bind fun createdAt => ?_
  refine (Within.call trivial).bind fun id => ?_
  refine (Within.call trivial).bind fun eventId => ?_
  refine (Within.call trivial).bind fun receivedAt => ?_
  refine (outside_saveShipment _).bind fun _ => ?_
  refine (outside_saveEvent _).bind fun _ => ?_
  refine (outside_record _ _).bind fun message => ?_
  exact (outside_add message).bind fun _ => Within.pure

theorem outside_receive (correlationId : Option String) (event : ShipmentEvent) :
    Outside (ReceiveShipmentEvent.execute correlationId event) := by
  refine Within.ite Within.raise ((outside_get event.shipmentId).bind ?_)
  intro found
  cases found with
  | none => exact Within.raise
  | some shipment =>
      refine Within.bind ((Within.call trivial).bind fun _ => Within.pure) ?_
      intro duplicate
      refine Within.ite Within.pure (Within.ofExcept.bind fun status => ?_)
      refine (outside_saveEvent _).bind fun _ => ?_
      refine (outside_saveShipment _).bind fun _ => ?_
      refine (outside_record _ _).bind fun message => ?_
      exact (outside_add message).bind fun _ => Within.pure

theorem outside_recoverEvent (event : ShipmentEvent) (error : PyError) :
    Outside (recoverEvent event error) := by
  cases error with
  | integrityError constraintName text =>
      refine outside_rollback.bind fun _ => Within.ite ?_ Within.raise
      refine (outside_get event.shipmentId).bind ?_
      intro found
      cases found with
      | none => exact Within.raise
      | some shipment => exact Within.pure
  | _ => exact Within.raise

theorem outside_receiveEvent (correlationId : Option String) (request : ShipmentEventRequest) :
    Outside (Freight.receiveEvent correlationId request) := by
  refine outside_transaction ?_
  refine (Within.call trivial).bind fun receivedAt => ?_
  refine (Within.tryExcept ?_ (outside_recoverEvent _)).bind fun shipment =>
    (Within.call trivial).bind fun _ => Within.pure
  refine (outside_receive _ _).bind fun _ => ?_
  exact outside_flush.bind fun _ => Within.pure

theorem outside_handleEvent (correlationId : Option String) (event : ShipmentEvent) :
    Outside (Freight.handleEvent correlationId event) :=
  outside_transaction ((outside_receive _ _).bind fun _ => Within.pure)

end Foreign

/-! ## The law of the record -/

/-- What a process may say. -/
def Law : Request → List Said → Said → Prop
  | .publishOne retryDelay, spoken, said => Protocol retryDelay spoken said
  | _, _, said => ∃ statement, said.1 = .statement statement ∧ Foreign statement

/-- Code that is confined to statements of its own is lawful. -/
theorem plain_lawful {α : Type} {body : Freight.Py α} {law : List Said → Said → Prop}
    (outside : Outside body)
    (lawful : ∀ spoken (said : Said),
      (∃ statement, said.1 = .statement statement ∧ Foreign statement) → law spoken said) :
    (transcripts Permitted law).wp (plain body {}) (fun _ _ => True) [] := by
  refine Interaction.transcripts_relabel ?_ (outside {} [] fun _ member => nomatch member)
  intro spoken statement answer foreign
  exact lawful _ _ ⟨statement, rfl, foreign⟩

theorem code_lawful (request : Request) :
    (transcripts Permitted (Law request)).wp (code request {}) (fun _ _ => True) [] := by
  cases request with
  | publishOne retryDelay =>
      apply Interaction.Contract.wp_bind
      refine Interaction.Contract.wp_mono ?_ holds_publishOne
      intro outcome spoken _
      rcases outcome with ⟨error | value, session⟩
      · trivial
      · trivial
  | createShipment correlationId input =>
      exact plain_lawful ((outside_createShipment correlationId input).bind fun _ => .pure)
        fun _ _ foreign => foreign
  | receiveEvent correlationId request =>
      exact plain_lawful ((outside_receiveEvent correlationId request).bind fun _ => .pure)
        fun _ _ foreign => foreign
  | handleEvent correlationId event =>
      exact plain_lawful (outside_handleEvent correlationId event) fun _ _ foreign => foreign

/-- Run lemma: the record is lawful. -/
theorem relaying_lawful {server : Server} {requests : ProcessId → Request} {world : World}
    {state : RelayingState}
    (reached : (relaying server requests).Reachable { world := world } state) :
    Interaction.Journal.Lawful (fun process => Law (requests process)) state.world.log := by
  refine (Interaction.System.recorded_lawful (fun _ => Permitted) ?_
    (fun process => code_lawful (requests process)) reached).1
  intro process spoken operation choice before answer after possible acted
  constructor
  · intro outcome given same
    cases same
    simp only [permits, decide_eq_true_eq] at possible
    subst possible
    cases acted
    rfl
  · intro given same committed
    cases same
    cases choice with
    | fault error => simp [permits, committed] at possible
    | proceed =>
        cases acted
        rfl
    | _ => cases acted

end Freight.Relay
