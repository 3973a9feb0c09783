/-
Module: Freight.Store.OutboxStatements
Purpose: The proof rules for the statements around the outbox and for the end of
  a transaction.
Trusted boundary: none
Main exports:
  holds_insertOutbox, holds_updateShipment, holds_claimOutbox,
  holds_updateOutbox, holds_publish, holds_commit, holds_rollback
-/
import Freight.Store.Statements

namespace Freight

open Interaction (ProcessId Contract)

section Rules

variable {server : Server} {base : Database} {quiet : Prop} {requests : ProcessId → Request}
  {process : ProcessId} {connection : Connection} {world : World}
  {assertion : World → Prop} {session : Session}

/-! ## The outbox row of a recorded event -/

/-- Why the insert of an outbox row is refused: never for the key of the
event. -/
inductive OutboxRefusal (server : Server) : PyError → Prop where
  | fault {error : PyError} (faults : server.faults error = true) :
      OutboxRefusal server error
  | constraint {constraint : String} (other : constraint ≠ "shipment_events_pkey") :
      OutboxRefusal server (violation constraint)

/-- While its event is only recorded by the transaction itself, an outbox row
with a fresh identifier violates nothing. -/
theorem outboxKeys_free (row : OutboxEventModel)
    (kept : Invariant server base quiet requests world) (references : base.References)
    (mine : Mine process connection assertion world)
    (issued : (process, row.id) ∈ world.uuids)
    (uncommitted : process ∉ world.wal.map Transaction.process)
    {event : ShipmentEventModel} (recorded : Write.insertEvent event ∈ connection.writes)
    (same : event.eventId = row.eventId)
    (single : ∀ other, Write.insertOutbox other ∉ connection.writes) :
    (∀ key ∈ outboxKeys (world.visible process) row, key.present = false) ∧
      ∀ reference ∈ outboxReferences (world.visible process) row,
        reference.present = true := by
  have writes : world.writes process = connection.writes :=
    congrArg Connection.writes mine.connection
  have backed := kept.locking.backed (writes ▸ recorded)
  have none : (world.visible process).outbox row.id = none := by
    rw [World.visible_eq kept mine]
    exact Database.outbox_writeAll_of_none (fun other member => absurd member (single other))
      (kept.ownership.outbox_free issued uncommitted)
  have unused : ∀ other ∈ (world.visible process).outboxEvents,
      other.eventId ≠ row.eventId := by
    intro other member equality
    rw [World.visible_eq kept mine] at member
    rcases Database.mem_outboxEvents_writeAll member with
      ⟨inserted, member, -⟩ | ⟨before, present, snapshot⟩
    · exact single inserted member
    · have found := kept.history.references references before present
      have eventId : before.snapshot.eventId = other.snapshot.eventId := by rw [snapshot]
      change before.eventId = other.eventId at eventId
      rw [eventId, equality, ← same, backed.2] at found
      cases found
  have visible : ((world.visible process).event row.eventId).isSome := by
    rw [World.visible_eq kept mine, ← same]
    exact Database.event_writeAll_of_inserted recorded
  constructor
  · intro key member
    simp only [outboxKeys, List.mem_cons, List.not_mem_nil, or_false] at member
    rcases member with rfl | rfl
    · simp [none]
    · simp only [List.any_eq_false, Bool.and_eq_true, decide_eq_true_eq, not_and]
      exact fun other member equality => absurd equality (unused other member)
  · intro reference member
    cases List.mem_singleton.mp member
    exact visible

theorem holds_insertOutbox {row : OutboxEventModel}
    {post : Contract.Post PyError Session World Unit}
    (lasting : Lasting base quiet process assertion)
    (mine : Mine process connection assertion world)
    (issued : ∀ before, assertion before → (process, row.id) ∈ before.uuids)
    (uncommitted : ∀ before, assertion before →
      process ∉ before.wal.map Transaction.process)
    (locked : ∀ before, assertion before → (process, .eventKey row.eventId) ∈ before.locks)
    {event : ShipmentEventModel} (recorded : Write.insertEvent event ∈ connection.writes)
    (same : event.eventId = row.eventId)
    (single : ∀ other, Write.insertOutbox other ∉ connection.writes)
    (returned : ∀ after,
      Mine process (connection.append (.insertOutbox (server.postgres.outboxRow row)))
        assertion after → post (.ok ()) session after)
    (raised : ∀ error after, OutboxRefusal server error →
      Refusable server base (requests process) error →
      Mine process (connection.raise error) assertion after →
        post (.error error) session after) :
    (storeContract server base quiet requests process).holds (call (.insertOutbox row)) post
      session world := by
  refine holds_plain (fun _ => rfl) lasting mine
    (fun error after faults => raised error after (.fault faults) (.of_fault faults)) ?_
  intro before choice reply after proper held kept acted
  cases choice with
  | fault error => exact absurd rfl (proper error)
  | proceed =>
      simp only [Server.execute, Server.proceed] at acted
      have free := fun references : base.References =>
        outboxKeys_free (server.postgres.outboxRow row) kept references held
          (issued before held.lasts) (uncommitted before held.lasts) recorded same single
      rcases insertRow_cases acted with
        ⟨key, member, present, rfl, rfl⟩ | ⟨reference, member, missing, rfl, rfl⟩ |
          ⟨rfl, rfl, unheld⟩
      · have other : key.constraint ≠ "shipment_events_pkey" := by
          simp only [outboxKeys, List.mem_cons, List.not_mem_nil, or_false] at member
          rcases member with rfl | rfl <;> simp
        have refusable : Refusable server base (requests process)
            (violation key.constraint) := by
          intro _ references
          rw [(free references).1 key member] at present
          cases present
        refine ⟨Step.refl kept, ?_,
          raised _ _ (.constraint other) refusable (held.raise lasting _)⟩
        rintro error ⟨⟩
        exact refusable
      · have other : reference.constraint ≠ "shipment_events_pkey" := by
          cases List.mem_singleton.mp member
          simp
        have refusable : Refusable server base (requests process)
            (violation reference.constraint) := by
          intro _ references
          rw [(free references).2 reference member] at missing
          cases missing
        refine ⟨Step.refl kept, ?_,
          raised _ _ (.constraint other) refusable (held.raise lasting _)⟩
        rintro error ⟨⟩
        exact refusable
      · refine ⟨Step.insert kept unheld (by simp [outboxKeys]) ?_ ?_, by simp,
          returned _ ?_⟩
        · intro eventId messageType member
          simp only [outboxKeys, List.map_cons, List.map_nil, List.mem_cons,
            Lock.outboxEventType.injEq, List.not_mem_nil, or_false, reduceCtorEq,
            false_or] at member
          rw [member.1]
          exact locked before held.lasts
        · refine ⟨by simp [outboxKeys], issued before held.lasts, ?_⟩
          have absent := (unheld _ List.mem_cons_self).2
          rw [World.visible_eq kept held] at absent
          exact Database.outbox_eq_none_of_writeAll absent
        · exact ((held.hold lasting _).append (lasting.and (Lasting.locks _)) _).weaken
            (fun holds => holds.1)
  | _ => cases acted

/-! ## Updates -/

/-- What an `UPDATE` can do: match no row, or write under the row's lock. -/
theorem updateRow_cases {lock : Lock} {present : Bool} {write : Write}
    {reply : Except PyError Unit} {after : World}
    (acted : updateRow process lock present write world = some (reply, after)) :
    world.heldByOther process lock = false ∧
      ((reply =
            .error (.exception "StaleDataError" "UPDATE statement matched no row") ∧
          after = world) ∨
        (reply = .ok () ∧ after = (world.hold process [lock]).append process write)) := by
  unfold updateRow at acted
  split at acted
  · cases acted
  rename_i free
  refine ⟨by simpa using free, ?_⟩
  split at acted
  · cases acted
    exact .inr ⟨rfl, rfl⟩
  · cases acted
    exact .inl ⟨rfl, rfl⟩

theorem holds_updateShipment {id : UUID} {patch : ShipmentPatch}
    {post : Contract.Post PyError Session World Unit}
    (lasting : Lasting base quiet process assertion)
    (mine : Mine process connection assertion world)
    (returned : ∀ after,
      Mine process
        (connection.append (.updateShipment id (server.postgres.shipmentPatch patch)))
        assertion after → post (.ok ()) session after)
    (raised : ∀ error after,
      (server.faults error = true ∨ ∃ name text, error = .exception name text) →
      Mine process (connection.raise error) assertion after →
        post (.error error) session after) :
    (storeContract server base quiet requests process).holds
      (call (.updateShipment id patch)) post session world := by
  refine holds_plain (fun _ => rfl) lasting mine
    (fun error after faults => raised error after (.inl faults)) ?_
  intro before choice reply after proper held kept acted
  cases choice with
  | fault error => exact absurd rfl (proper error)
  | proceed =>
      simp only [Server.execute, Server.proceed] at acted
      obtain ⟨free, ⟨rfl, rfl⟩ | ⟨rfl, rfl⟩⟩ := updateRow_cases acted
      · refine ⟨Step.refl kept, ?_, raised _ _ (.inr ⟨_, _, rfl⟩) (held.raise lasting _)⟩
        rintro error ⟨⟩ _ _ constraint text equality
        cases equality
      · have taken : Step server base quiet requests process before
            (before.hold process [.shipmentRow id]) := by
          refine Step.hold kept ?_ (by simp) (by simp)
          intro lock member
          cases List.mem_singleton.mp member
          exact free_of_heldByOther free
        refine ⟨taken.trans (Step.append taken.1 trivial), by simp, returned _ ?_⟩
        exact ((held.hold lasting _).append (lasting.and (Lasting.locks _)) _).weaken
          (fun holds => holds.1)
  | _ => cases acted

theorem holds_updateOutbox {id : UUID} {patch : OutboxPatch}
    {post : Contract.Post PyError Session World Unit}
    (lasting : Lasting base quiet process assertion)
    (mine : Mine process connection assertion world)
    (locked : ∀ before, assertion before → (process, .outboxRow id) ∈ before.locks)
    (returned : ∀ after,
      Mine process (connection.append (.updateOutbox id (server.postgres.outboxPatch patch)))
        assertion after → post (.ok ()) session after)
    (raised : ∀ error after, Mine process (connection.raise error) assertion after →
      post (.error error) session after) :
    (storeContract server base quiet requests process).holds
      (call (.updateOutbox id patch)) post session world := by
  refine holds_plain (fun _ => rfl) lasting mine (fun error after _ => raised error after) ?_
  intro before choice reply after proper held kept acted
  cases choice with
  | fault error => exact absurd rfl (proper error)
  | proceed =>
      simp only [Server.execute, Server.proceed] at acted
      obtain ⟨free, ⟨rfl, rfl⟩ | ⟨rfl, rfl⟩⟩ := updateRow_cases acted
      · refine ⟨Step.refl kept, ?_, raised _ _ (held.raise lasting _)⟩
        rintro error ⟨⟩ _ _ constraint text equality
        cases equality
      · have taken : Step server base quiet requests process before
            (before.hold process [.outboxRow id]) := by
          refine Step.hold kept ?_ (by simp) ?_
          · intro lock member
            cases List.mem_singleton.mp member
            exact free_of_heldByOther free
          · intro other member
            cases List.mem_singleton.mp member
            exact kept.locking.claimed (locked before held.lasts)
        have backed : Backed (replay base before.wal)
            (before.hold process [.outboxRow id]).locks before.uuids process
            (.updateOutbox id (server.postgres.outboxPatch patch)) :=
          List.mem_cons_self
        refine ⟨taken.trans (Step.append taken.1 backed), by simp, returned _ ?_⟩
        exact ((held.hold lasting _).append (lasting.and (Lasting.locks _)) _).weaken
          (fun holds => holds.1)
  | _ => cases acted

/-! ## Claims and publications -/

theorem Server.mem_of_first {rows : List OutboxEventModel} {row : OutboxEventModel}
    (chosen : server.first rows = some row) : row ∈ rows := by
  induction rows with
  | nil => cases chosen
  | cons head tail inductionHypothesis =>
      simp only [Server.first] at chosen
      split at chosen
      · cases chosen
        exact List.mem_cons_self
      · rename_i other found
        split at chosen
        · cases chosen
          exact List.mem_cons_of_mem _ (inductionHypothesis found)
        · cases chosen
          exact List.mem_cons_self

theorem holds_claimOutbox {now : DateTime}
    {post : Contract.Post PyError Session World (Option OutboxEventModel)}
    (keyed : base.outboxKeys.Nodup)
    (lasting : Lasting base quiet process assertion)
    (mine : Mine process connection assertion world)
    (clean : connection.writes = []) (silent : connection.response = none)
    (empty : ∀ after, Mine process connection assertion after →
      post (.ok none) session after)
    (claimed : ∀ row lsn after, row.publishedAt = none →
      Mine process (connection.note (.claimed lsn row))
        (fun world => assertion world ∧ (process, .outboxRow row.id) ∈ world.locks ∧
          (replay base world.wal).outbox row.id = some row) after →
      post (.ok (some row)) session after)
    (raised : ∀ error after, server.faults error = true →
      Mine process (connection.raise error) assertion after →
        post (.error error) session after) :
    (storeContract server base quiet requests process).holds (call (.claimOutbox now)) post
      session world := by
  refine holds_plain (fun _ => rfl) lasting mine raised ?_
  intro before choice reply after proper held kept acted
  cases choice with
  | fault error => exact absurd rfl (proper error)
  | proceed =>
      simp only [Server.execute, Server.proceed] at acted
      split at acted
      · cases acted
        exact ⟨Step.refl kept, by simp, empty _ held⟩
      · rename_i row chosen
        cases acted
        have member := Server.mem_of_first chosen
        simp only [Server.claimable, List.mem_filter, Bool.and_eq_true,
          Bool.not_eq_true', World.visible_eq kept held, clean,
          Database.writeAll_nil] at member
        obtain ⟨present, ⟨unpublished, -⟩, free⟩ := member
        have pending : row.publishedAt = none := by simpa using unpublished
        have found : (replay base before.wal).outbox row.id = some row :=
          Database.outbox_of_mem (kept.history.outboxKeys_nodup keyed) present
        have taken : Step server base quiet requests process before
            (before.hold process [.outboxRow row.id]) := by
          refine Step.hold kept ?_ (by simp) ?_
          · intro lock member
            cases List.mem_singleton.mp member
            exact free_of_heldByOther free
          · intro other member
            cases List.mem_singleton.mp member
            exact ⟨row, found, pending⟩
        have quietly : before.response process = none :=
          (congrArg Connection.response held.connection).trans silent
        have noted : Step server base quiet requests process
            (before.hold process [.outboxRow row.id])
            ((before.hold process [.outboxRow row.id]).note process
              (.claimed before.wal.length row)) := by
          refine Step.note taken.1 quietly ?_
          rintro lsn other ⟨⟩
          exact Pending.now found pending
        refine ⟨taken.trans noted, by simp, claimed row before.wal.length _ pending ?_⟩
        have holding := (held.hold lasting [.outboxRow row.id]).note
          (lasting.and (Lasting.locks _)) (.claimed before.wal.length row)
        exact holding.weaken fun holds => ⟨holds.1, holds.2 _ List.mem_cons_self, found⟩
  | _ => cases acted

/-- A connection after a call of the publisher. -/
def Connection.publish (connection : Connection) (publication : Publication) : Connection :=
  { connection with published := publication :: connection.published }

theorem Mine.publish (lasting : Lasting base quiet process assertion)
    (mine : Mine process connection assertion world) (message : RecordedEventMessage)
    (confirmed : Bool) :
    Mine process
      (connection.publish
        { process := process
          message := message
          confirmed := confirmed
          lsn := world.wal.length })
      assertion (world.publish process message confirmed) where
  connection := by
    simp [← mine.connection, World.connection, World.publish, Connection.publish]
  lasts := lasting.same world _ rfl (fun _ held => held) (fun _ issued => issued) mine.lasts

theorem holds_publish {row : OutboxEventModel}
    {post : Contract.Post PyError Session World Unit}
    (lasting : Lasting base quiet process assertion)
    (mine : Mine process connection assertion world)
    (uncommitted : ∀ before, assertion before →
      process ∉ before.wal.map Transaction.process)
    (first : connection.published = []) (pending : row.publishedAt = none)
    (found : ∀ before, assertion before →
      (replay base before.wal).outbox row.id = some row)
    (returned : ∀ lsn after,
      Mine process
        (connection.publish
          { process := process
            message := SQLAlchemyOutboxRepository.message row
            confirmed := true
            lsn := lsn })
        assertion after → post (.ok ()) session after)
    (raised : ∀ error lsn after,
      Mine process
        ((connection.publish
          { process := process
            message := SQLAlchemyOutboxRepository.message row
            confirmed := false
            lsn := lsn }).raise error)
        assertion after → post (.error error) session after) :
    (storeContract server base quiet requests process).holds
      (call (.publish (SQLAlchemyOutboxRepository.message row))) post session world := by
  refine holds_statement lasting mine ?_
  intro before choice reply after held kept acted
  have stepped : ∀ confirmed, Step server base quiet requests process before
      (before.publish process (SQLAlchemyOutboxRepository.message row) confirmed) := by
    intro confirmed
    have published : before.published process = [] :=
      (congrArg Connection.published held.connection).trans first
    exact Step.publish kept (uncommitted before held.lasts) published
      (Pending.now (found before held.lasts) pending) rfl
  cases choice with
  | fault error =>
      obtain ⟨faults, rfl, rfl⟩ := execute_fault acted
      refine ⟨stepped false, ?_, raised error _ _ ((held.publish lasting _ _).raise lasting _)⟩
      rintro other ⟨⟩
      exact Refusable.of_fault faults
  | proceed =>
      cases acted
      exact ⟨stepped true, by simp, returned _ _ (held.publish lasting _ _)⟩
  | _ => cases acted

/-! ## The end of a transaction -/

/-- A connection whose transaction has ended. -/
def Connection.ended (connection : Connection) : Connection :=
  { connection with writes := [] }

theorem holds_commit (archived : List Transaction → Prop)
    {post : Contract.Post PyError Session World Unit}
    (lasting : Lasting base quiet process assertion)
    (mine : Mine process connection assertion world)
    (uncommitted : ∀ before, assertion before →
      process ∉ before.wal.map Transaction.process)
    (effect : ∀ before, Mine process connection assertion before →
      Invariant server base quiet requests before →
      Effect server base quiet before.wal (requests process)
        { toConnection := connection, process := process })
    (commits : ∀ before, assertion before →
      archived (before.wal ++ [{ toConnection := connection, process := process }]))
    (returned : ∀ after,
      Mine process connection.ended (fun world => archived world.wal) after →
        post (.ok ()) session after)
    (raised : ∀ error after, server.faults error = true →
      Mine process (connection.raise error) assertion after →
        post (.error error) session after) :
    (storeContract server base quiet requests process).holds (call .commit) post session
      world := by
  refine holds_plain (fun _ => rfl) lasting mine raised ?_
  intro before choice reply after proper held kept acted
  cases choice with
  | fault error => exact absurd rfl (proper error)
  | proceed =>
      cases acted
      have legal := effect before held kept
      rw [← held.connection] at legal
      refine ⟨Step.commit kept (uncommitted before held.lasts) legal, by simp,
        returned _ ⟨?_, ?_⟩⟩
      · simp [← held.connection, World.connection, World.commit, World.discard,
          Connection.ended, World.settle]
      · simp only [World.commit, World.settle, held.connection]
        exact commits before held.lasts
  | _ => cases acted

theorem holds_rollback (archive : List Transaction → Prop)
    {post : Contract.Post PyError Session World Unit}
    (lasting : Lasting base quiet process assertion)
    (mine : Mine process connection assertion world)
    (archives : ∀ before, assertion before → archive before.wal)
    (returned : ∀ after,
      Mine process connection.ended (fun world => archive world.wal) after →
        post (.ok ()) session after)
    (raised : ∀ error after, server.faults error = true →
      Mine process (connection.ended.raise error) (fun world => archive world.wal) after →
        post (.error error) session after) :
    (storeContract server base quiet requests process).holds (call .rollback) post session
      world := by
  refine holds_statement lasting mine ?_
  intro before choice reply after held kept acted
  have ended := held.discard (archives before)
  cases choice with
  | fault error =>
      obtain ⟨faults, rfl, rfl⟩ := execute_fault acted
      refine ⟨Step.discard kept, ?_, raised error _ faults ⟨?_, ended.lasts⟩⟩
      · rintro other ⟨⟩
        exact Refusable.of_fault faults
      · have same := ended.connection
        simp only [World.connection, Connection.mk.injEq] at same
        simp [World.connection, World.settle, World.raise, Server.faulted,
          Connection.raise, Connection.ended, same]
  | proceed =>
      cases acted
      exact ⟨Step.discard kept, by simp, returned _ ended⟩
  | _ => cases acted

end Rules

end Freight
