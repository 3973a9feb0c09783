/-
Module: Freight.Store.OrderedTransactions
Purpose: The use cases and the owners of their transactions take locks in order, and every
  process ends without any.
Trusted boundary: none
Main exports:
  ordered_create, ordered_receive, Committable, ordered_transaction, ordered_publishOne,
  lockProtocol_follows
-/
import Freight.Store.LockOrder
import Freight.Store.Relaying

namespace Freight

open Interaction (Contract Protocol)

section Programs

variable {reached : Option LockPlace} {session : Session}

/-! ## Use cases -/

theorem ordered_create {correlationId : Option String} {input : CreateShipmentInput} :
    lockProtocol.contract.holds (CreateShipment.execute correlationId input)
      (Returning fun _ after last => AtMost 2 last ∧ after.Flushable) {}
      (some lockProtocol.start) := by
  have begun : AtMost 0 (some lockProtocol.start) := ⟨_, rfl, Nat.le_refl 0⟩
  apply Contract.holds_bind
  apply neutral_call (fun _ _ => rfl) rfl
  rintro (error | createdAt)
  · exact rfl
  apply Contract.holds_bind
  apply neutral_call (fun _ _ => rfl) rfl
  rintro (error | id)
  · exact rfl
  apply Contract.holds_bind
  apply neutral_call (fun _ _ => rfl) rfl
  rintro (error | eventId)
  · exact rfl
  apply Contract.holds_bind
  apply neutral_call (fun _ _ => rfl) rfl
  rintro (error | receivedAt)
  · exact rfl
  apply Contract.holds_bind
  refine Contract.holds_mono (ordered_saveShipment rfl rfl rfl) ?_
  intro outcome saved last established
  cases outcome with
  | error error => exact established
  | ok done =>
      obtain ⟨rfl, single, noEvents, noOutboxEvents, noObjects⟩ := established
      apply Contract.holds_bind
      refine Contract.holds_mono (ordered_saveEvent rfl) ?_
      intro outcome pending last established
      cases outcome with
      | error error => exact established
      | ok done =>
          obtain ⟨rfl, rfl⟩ := established
          apply Contract.holds_bind
          refine Contract.holds_mono (ordered_record rfl) ?_
          intro outcome after last established
          cases outcome with
          | error error => exact established
          | ok message =>
              obtain ⟨rfl, rfl⟩ := established
              apply Contract.holds_bind
              refine Contract.holds_mono
                (ordered_add begun single (by simp [noEvents]) noOutboxEvents noObjects) ?_
              intro outcome after last established
              cases outcome with
              | error error => exact established
              | ok done => exact Contract.holds_pure established

/-- Receiving an event ends in a session that is ready to be flushed, whether the event was
new or not. -/
theorem ordered_receive {correlationId : Option String} {event : ShipmentEvent} :
    lockProtocol.contract.holds (ReceiveShipmentEvent.execute correlationId event)
      (Returning fun _ after last => AtMost 2 last ∧ after.Flushable) {}
      (some lockProtocol.start) := by
  have begun : AtMost 0 (some lockProtocol.start) := ⟨_, rfl, Nat.le_refl 0⟩
  unfold ReceiveShipmentEvent.execute
  split
  · exact Contract.holds_raise rfl
  apply Contract.holds_bind
  refine Contract.holds_mono (ordered_get rfl) ?_
  rintro outcome after last ⟨rfl, rfl⟩
  rcases outcome with error | (missing | shipment)
  · exact rfl
  · exact Contract.holds_raise rfl
  apply Contract.holds_bind
  apply Contract.holds_bind
  apply neutral_call (fun _ _ => rfl) rfl
  rintro (error | found)
  · exact rfl
  apply Contract.holds_pure
  by_cases duplicate : found.isSome = true
  · simp only [Contract.Post.on, duplicate, if_true]
    exact Contract.holds_pure ⟨begun.mono (by omega), by simp, by simp, by simp, rfl, rfl⟩
  simp only [Contract.Post.on, duplicate]
  cases ShipmentEventHandler.handle shipment event with
  | mk result shipment =>
  apply Contract.holds_bind
  apply Contract.holds_ofExcept
  cases result with
  | error error => exact rfl
  | ok processingStatus =>
      apply Contract.holds_bind
      refine Contract.holds_mono (ordered_saveEvent rfl) ?_
      intro outcome pending last established
      cases outcome with
      | error error => exact established
      | ok done =>
          obtain ⟨rfl, rfl⟩ := established
          apply Contract.holds_bind
          refine Contract.holds_mono (ordered_saveShipment rfl rfl rfl) ?_
          intro outcome assigned last established
          cases outcome with
          | error error => exact established
          | ok done =>
              obtain ⟨rfl, single, events, noOutboxEvents, noObjects⟩ := established
              apply Contract.holds_bind
              refine Contract.holds_mono (ordered_record rfl) ?_
              intro outcome after last established
              cases outcome with
              | error error => exact established
              | ok message =>
                  obtain ⟨rfl, rfl⟩ := established
                  apply Contract.holds_bind
                  refine Contract.holds_mono
                    (ordered_add begun single (by simp [events]) noOutboxEvents noObjects) ?_
                  intro outcome after last established
                  cases outcome with
                  | error error => exact established
                  | ok done => exact Contract.holds_pure established

/-! ## Transactions -/

/-- A session that can be committed where its transaction stands. -/
def Committable (session : Session) (reached : Option LockPlace) : Prop :=
  lockProtocol.contract.holds Session.commit
    (Returning fun _ _ last => last = some lockProtocol.start) session reached

/-- The commit itself, once the session has been flushed. -/
theorem Committable.of_flush
    (flushes : lockProtocol.contract.holds Session.flush
      (Returning fun _ _ last => last.isSome = true) session reached) :
    Committable session reached := by
  apply Contract.holds_bind
  refine Contract.holds_mono flushes ?_
  intro outcome after last established
  cases outcome with
  | error error => exact established
  | ok done => exact commit_call established (fun _ => rfl) (fun _ => established)

theorem Committable.of_flushable (within : AtMost 2 reached) (ready : session.Flushable) :
    Committable session reached := by
  apply Committable.of_flush
  refine Contract.holds_mono (ordered_flush within ready) ?_
  intro outcome after last established
  cases outcome with
  | error error => exact established
  | ok done => exact established.2

theorem Committable.of_clean (inside : reached.isSome = true) (clean : session.Clean) :
    Committable session reached :=
  .of_flush (holds_flush_clean clean inside)

theorem ordered_rollback (inside : reached.isSome = true) :
    lockProtocol.contract.holds Session.rollback
      (Returning fun _ after last => after = {} ∧ last = some lockProtocol.start)
      session reached := by
  apply Contract.holds_bind
  apply rollback_call inside
  intro answer
  cases answer with
  | ok done => exact Contract.holds_modify ⟨rfl, rfl⟩
  | error error => exact rfl

/-- `session.close()` ends at the start, whatever has become of the transaction. -/
theorem ordered_closing {α : Type} {body : Py α}
    (verified : lockProtocol.contract.holds body (fun _ _ last => last.isSome = true) session
      reached) :
    lockProtocol.contract.holds (Interaction.Computation.onExit body Session.close)
      (fun _ _ last => last = some lockProtocol.start) session reached := by
  apply Contract.holds_onExit
  refine Contract.holds_mono verified ?_
  intro outcome after last inside
  apply rollback_call inside
  intro answer
  cases answer with
  | ok done => exact rfl
  | error error => exact rfl

/-- Rolling back and raising again. -/
theorem ordered_reraise {α : Type} {body : Py α}
    (again : ∀ state last, last.isSome = true →
      lockProtocol.contract.holds body (fun _ _ last => last.isSome = true) state last)
    (inside : reached.isSome = true) :
    lockProtocol.contract.holds (Session.rollback >>= fun _ => body)
      (fun _ _ last => last.isSome = true) session reached := by
  apply Contract.holds_bind
  refine Contract.holds_mono (ordered_rollback inside) ?_
  intro outcome after last established
  cases outcome with
  | error error => exact established
  | ok done =>
      obtain ⟨-, rfl⟩ := established
      exact again after _ rfl

/-- A transaction is back at the start however it ends. -/
theorem ordered_transaction {α : Type} {body : Py α}
    (verified : lockProtocol.contract.holds body
      (Returning fun _ after last => Committable after last) {} (some lockProtocol.start)) :
    lockProtocol.contract.holds (transaction body)
      (fun _ _ last => last = some lockProtocol.start) {} (some lockProtocol.start) := by
  apply ordered_closing
  apply Contract.holds_tryExcept
  apply Contract.holds_bind
  have handler : ∀ (error : PyError) state last, last.isSome = true →
      lockProtocol.contract.holds
        (do
          Session.rollback
          call .observe
          Interaction.Computation.raise error : Py α)
        (fun _ _ last => last.isSome = true) state last := by
    intro error state last inside
    apply ordered_reraise _ inside
    intro state last inside
    apply Contract.holds_bind
    apply neutral_call (fun _ _ => rfl) inside
    intro answer
    cases answer with
    | ok done =>
        simp only [Contract.Post.on]
        exact Contract.holds_raise inside
    | error error => exact inside
  refine Contract.holds_mono verified ?_
  intro outcome after last established
  cases outcome with
  | error error => exact handler error after last established
  | ok answer =>
      apply Contract.holds_bind
      refine Contract.holds_mono established ?_
      intro outcome committed last established
      cases outcome with
      | error error => exact handler error committed last established
      | ok done =>
          cases established
          apply Contract.holds_bind
          apply neutral_call (fun _ _ => rfl) rfl
          intro observed
          cases observed with
          | ok done => exact Contract.holds_pure rfl
          | error error => exact handler error committed _ rfl

/-! ## Processes -/

theorem ordered_createShipment {correlationId : Option String} {input : CreateShipmentInput} :
    lockProtocol.contract.holds (createShipment correlationId input)
      (fun _ _ last => last = some lockProtocol.start) {} (some lockProtocol.start) := by
  apply ordered_transaction
  apply Contract.holds_bind
  refine Contract.holds_mono ordered_create ?_
  intro outcome after last established
  cases outcome with
  | error error => exact established
  | ok shipment =>
      obtain ⟨within, ready⟩ := established
      apply Contract.holds_bind
      apply neutral_call (fun _ _ => rfl) within.inside
      intro answer
      cases answer with
      | error error => exact within.inside
      | ok done =>
          apply Contract.holds_pure
          exact .of_flushable within ready

theorem ordered_handleEvent {correlationId : Option String} {event : ShipmentEvent} :
    lockProtocol.contract.holds (handleEvent correlationId event)
      (fun _ _ last => last = some lockProtocol.start) {} (some lockProtocol.start) := by
  apply ordered_transaction
  apply Contract.holds_bind
  refine Contract.holds_mono ordered_receive ?_
  intro outcome after last established
  cases outcome with
  | error error => exact established
  | ok shipment =>
      apply Contract.holds_pure
      exact .of_flushable established.1 established.2

/-- The `except` clauses of `POST /events` leave a session with nothing to flush. -/
theorem ordered_recoverEvent {event : ShipmentEvent} {error : PyError}
    (inside : reached.isSome = true) :
    lockProtocol.contract.holds (recoverEvent event error)
      (Returning fun _ after last => after.Clean ∧ last.isSome = true) session reached := by
  cases error with
  | integrityError constraintName text =>
      apply Contract.holds_bind
      refine Contract.holds_mono (ordered_rollback inside) ?_
      intro outcome after last established
      cases outcome with
      | error error => exact established
      | ok done =>
          obtain ⟨rfl, rfl⟩ := established
          simp only [Contract.Post.on]
          split
          · apply Contract.holds_bind
            refine Contract.holds_mono (ordered_get rfl) ?_
            rintro outcome after last ⟨rfl, rfl⟩
            rcases outcome with error | (missing | shipment)
            · exact rfl
            · apply Contract.holds_raise
              exact rfl
            · apply Contract.holds_pure
              exact ⟨⟨rfl, by simp, rfl, rfl, rfl⟩, rfl⟩
          · apply Contract.holds_raise
            exact rfl
  | _ =>
      apply Contract.holds_raise
      exact inside

theorem ordered_receiveEvent {correlationId : Option String}
    {request : ShipmentEventRequest} :
    lockProtocol.contract.holds (receiveEvent correlationId request)
      (fun _ _ last => last = some lockProtocol.start) {} (some lockProtocol.start) := by
  apply ordered_transaction
  apply Contract.holds_bind
  apply neutral_call (fun _ _ => rfl) rfl
  rintro (error | receivedAt)
  · exact rfl
  apply Contract.holds_bind
  suffices answered : lockProtocol.contract.holds
      (Interaction.Computation.tryExcept
        (recordEvent correlationId (request.event receivedAt))
        (recoverEvent (request.event receivedAt)))
      (Returning fun _ after last => after.Clean ∧ last.isSome = true) {}
      (some lockProtocol.start) by
    refine Contract.holds_mono answered ?_
    intro outcome after last established
    cases outcome with
    | error error => exact established
    | ok shipment =>
        obtain ⟨clean, inside⟩ := established
        apply Contract.holds_bind
        apply neutral_call (fun _ _ => rfl) inside
        intro answer
        cases answer with
        | error error => exact inside
        | ok done =>
            apply Contract.holds_pure
            exact .of_clean inside clean
  apply Contract.holds_tryExcept
  apply Contract.holds_bind
  refine Contract.holds_mono ordered_receive ?_
  intro outcome after last established
  cases outcome with
  | error error => exact ordered_recoverEvent established
  | ok shipment =>
      apply Contract.holds_bind
      refine Contract.holds_mono (ordered_flush established.1 established.2) ?_
      intro outcome after last established
      cases outcome with
      | error error => exact ordered_recoverEvent established
      | ok done =>
          apply Contract.holds_pure
          exact established

/-- A relay that has claimed and marked a row updates that row. -/
theorem Committable.of_marked {row current : OutboxEventModel} {level : Nat} :
    Committable { outboxEvents := [{ loaded := row, assigned := some current }] }
      (some { level, claimed := some row.id }) := by
  apply Committable.of_flush
  apply Contract.holds_bind
  apply Contract.holds_read
  apply Contract.holds_bind
  suffices updates : lockProtocol.contract.holds
      (Session.updateOutbox { loaded := row, assigned := some current })
      (Returning fun _ after last => last.isSome = true ∧
        after = { outboxEvents := [{ loaded := row, assigned := some current }] })
      { outboxEvents := [{ loaded := row, assigned := some current }] }
      (some { level, claimed := some row.id }) by
    apply Contract.holds_forEach_cons
    refine Contract.holds_mono updates ?_
    intro outcome after last established
    cases outcome with
    | error error => exact established
    | ok done =>
        obtain ⟨inside, rfl⟩ := established
        apply Contract.holds_forEach_nil
        apply Contract.holds_bind
        refine holds_flushNewOutboxEvents_nil rfl ?_
        apply Contract.holds_bind
        apply Contract.holds_forEach_nil
        apply Contract.holds_bind
        refine holds_flushNewShipments_nil rfl ?_
        apply Contract.holds_bind
        refine holds_flushNewEvents_nil rfl ?_
        apply Contract.holds_modify
        exact inside
  by_cases unchanged : OutboxPatch.between row current = {}
  · simp only [Session.updateOutbox, unchanged]
    exact Contract.holds_pure ⟨rfl, rfl⟩
  · rw [Session.updateOutbox_changed unchanged]
    apply Protocol.holds_call
    intro answer
    refine ⟨_, if_pos rfl, ?_⟩
    cases answer with
    | ok done => exact ⟨rfl, rfl⟩
    | error error => exact rfl

/-- Publishing touches no lock, and neither does the observation of it. -/
theorem ordered_publish {message : RecordedEventMessage} (inside : reached.isSome = true) :
    lockProtocol.contract.holds (ObservedPublisher.publish message)
      (fun _ after last => after = session ∧ last = reached) session reached := by
  apply Contract.holds_onExit
  apply neutral_call (fun _ _ => rfl) inside
  intro published
  apply neutral_call (fun _ _ => rfl) inside
  intro observed
  cases observed with
  | ok done => exact ⟨rfl, rfl⟩
  | error error => exact ⟨rfl, rfl⟩

theorem ordered_publishOutboxEvent {retryDelay : Int} :
    lockProtocol.contract.holds (PublishOutboxEvent.execute retryDelay)
      (Returning fun _ after last => Committable after last) {} (some lockProtocol.start) := by
  apply Contract.holds_bind
  apply neutral_call (fun _ _ => rfl) rfl
  rintro (error | claimedAt)
  · exact rfl
  apply Contract.holds_bind
  apply Contract.holds_bind
  apply Protocol.holds_call
  rintro (error | (idle | row))
  · exact ⟨_, rfl, rfl⟩
  · refine ⟨_, rfl, ?_⟩
    apply Contract.holds_pure
    apply Contract.holds_pure
    exact .of_clean rfl ⟨by simp, by simp, rfl, rfl, rfl⟩
  refine ⟨{ level := 5, claimed := some row.id }, rfl, ?_⟩
  apply Contract.holds_bind
  apply Contract.holds_modify
  apply Contract.holds_pure
  apply Contract.holds_bind
  apply Contract.holds_tryExcept
  apply Contract.holds_bind
  have marks : ∀ (change : OutboxEventModel → OutboxEventModel) (result : PublicationResult),
      lockProtocol.contract.holds
        (do
          SQLAlchemyOutboxRepository.mark row.id change
          pure (some result) : Py (Option PublicationResult))
        (Returning fun _ after last => Committable after last)
        { outboxEvents := [{ loaded := row }] }
        (some { level := 5, claimed := some row.id }) := by
    intro change result
    apply Contract.holds_bind
    refine holds_mark rfl ?_
    apply Contract.holds_pure
    exact .of_marked
  refine Contract.holds_mono (ordered_publish rfl) ?_
  intro published after last established
  obtain ⟨rfl, rfl⟩ := established
  cases published with
  | ok done =>
      apply Contract.holds_pure
      apply Contract.holds_bind
      apply neutral_call (fun _ _ => rfl) rfl
      rintro (error | now)
      · exact rfl
      exact marks _ _
  | error error =>
      simp only [Contract.Post.on]
      apply Contract.holds_pure
      apply Contract.holds_bind
      apply neutral_call (fun _ _ => rfl) rfl
      rintro (error | now)
      · exact rfl
      apply Contract.holds_bind
      apply Contract.holds_ofExcept
      cases now.plus retryDelay with
      | error overflow => exact rfl
      | ok retryAt => exact marks _ _

theorem ordered_publishOne {retryDelay : Int} :
    lockProtocol.contract.holds (publishOne retryDelay)
      (fun _ _ last => last = some lockProtocol.start) {} (some lockProtocol.start) := by
  apply Contract.holds_bind
  apply Contract.holds_tryExcept
  suffices attempted : lockProtocol.contract.holds
      (sessionBegin (PublishOutboxEvent.execute retryDelay))
      (fun _ _ last => last.isSome = true) {} (some lockProtocol.start) by
    refine Contract.holds_mono (ordered_closing attempted) ?_
    intro outcome after last established
    subst established
    cases outcome with
    | error error =>
        apply Contract.holds_bind
        apply neutral_call (fun _ _ => rfl) rfl
        intro answer
        cases answer with
        | ok done => exact rfl
        | error error => exact rfl
    | ok result =>
        simp only [Contract.Post.on]
        cases result with
        | none => exact Contract.holds_pure rfl
        | some result =>
            apply Contract.holds_bind
            apply neutral_call (fun _ _ => rfl) rfl
            intro answer
            cases answer with
            | ok done => exact rfl
            | error error => exact rfl
  apply Contract.holds_tryExcept
  apply Contract.holds_bind
  have handler : ∀ (error : PyError) state last, last.isSome = true →
      lockProtocol.contract.holds
        (do
          Session.rollback
          Interaction.Computation.raise error : Py (Option PublicationResult))
        (fun _ _ last => last.isSome = true) state last := by
    intro error state last inside
    exact ordered_reraise (fun state last inside => Contract.holds_raise inside) inside
  refine Contract.holds_mono ordered_publishOutboxEvent ?_
  intro outcome after last established
  cases outcome with
  | error error => exact handler error after last established
  | ok result =>
      apply Contract.holds_bind
      refine Contract.holds_mono established ?_
      intro outcome committed last established
      cases outcome with
      | error error => exact handler error committed last established
      | ok done =>
          cases established
          exact Contract.holds_pure rfl

/-- Dropping the value of a computation. -/
theorem ordered_dropped {α : Type} {body : Py α}
    (verified : lockProtocol.contract.holds body
      (fun _ _ last => last = some lockProtocol.start) {} (some lockProtocol.start)) :
    lockProtocol.contract.holds (body >>= fun _ => pure ())
      (fun _ _ last => last = some lockProtocol.start) {} (some lockProtocol.start) := by
  apply Contract.holds_bind
  refine Contract.holds_mono verified ?_
  intro outcome after last established
  cases outcome with
  | error error => exact established
  | ok value => exact established

/-- Whatever a process is asked to do, its code follows the protocol and lets go of all
locks in the end. -/
theorem lockProtocol_follows (request : Request) :
    lockProtocol.Follows request.program lockProtocol.start := by
  suffices verified : lockProtocol.contract.holds request.code
      (fun _ _ last => last = some lockProtocol.start) {} (some lockProtocol.start) by
    exact verified
  cases request with
  | createShipment correlationId input => exact ordered_dropped ordered_createShipment
  | receiveEvent correlationId request => exact ordered_dropped ordered_receiveEvent
  | handleEvent correlationId event => exact ordered_handleEvent
  | publishOne retryDelay => exact ordered_dropped ordered_publishOne

end Programs

end Freight
