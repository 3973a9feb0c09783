/-
Module: Freight.Store.Creating
Purpose: The specification of `POST /shipments`: the three rows it inserts, in
  the order of their references, or nothing.
Trusted boundary: none
Main exports:
  Creating, holds_create, holds_flush_created, holds_createShipment
-/
import Freight.Store.Repositories

namespace Freight

open Interaction (ProcessId Contract)

/-- What a creation may assert while its transaction is open. -/
def Creating (quiet : Prop) (process : ProcessId) (start : List Transaction)
    (creation : Creation) (world : World) : Prop :=
  Untouched quiet process start world.wal ∧ (process, creation.messageId) ∈ world.uuids ∧
    (process, .eventKey creation.eventId) ∈ world.locks

/-- How `CreateShipment.execute` returns: the shipment and its event have been
inserted, and the outbox row is pending; an answer may have been given since. -/
inductive Created (server : Server) (quiet : Prop) (process : ProcessId)
    (start : List Transaction) (correlationId : Option String)
    (input : CreateShipmentInput) (response : Option HttpResponse) :
    Session → World → Prop where
  | intro (creation : Creation) (lsn : Nat) {world : World}
      (same : creation.correlationId = correlationId ∧ creation.input = input)
      (createdAt : creation.createdAt.utcoffset = some 0)
      (receivedAt : creation.receivedAt.utcoffset = some 0)
      (mine : Mine process
        { writes :=
            [.insertShipment (creation.shipmentRow server.postgres),
              .insertEvent (creation.eventRow server.postgres)]
          reads := [.shipment lsn none]
          response := response }
        (Creating quiet process start creation) world) :
      Created server quiet process start correlationId input response
        { newOutboxEvents :=
            [SQLAlchemyOutboxRepository.model creation.message creation.enqueuedAt] }
        world

section Rules

variable {server : Server} {base : Database} {quiet : Prop} {requests : ProcessId → Request}
  {process : ProcessId} {start : List Transaction} {connection : Connection} {world : World}
  {assertion : World → Prop} {session : Session}

theorem Creating.lasting (creation : Creation) :
    Lasting base quiet process (Creating quiet process start creation) :=
  Untouched.archival.lasting.and ((Lasting.uuid _).and (Lasting.lock _))

/-- A creation that raises while its transaction is open. -/
theorem Abandoned.of_mine (lasting : Lasting base quiet process assertion)
    (mine : Mine process connection assertion world)
    (untouched : ∀ reached, assertion reached → Untouched quiet process start reached.wal) :
    Abandoned base quiet process start world :=
  ⟨connection, assertion, lasting, mine, untouched⟩

/-- `CreateShipment.execute`. -/
theorem holds_create {correlationId : Option String} {input : CreateShipmentInput}
    (requested : requests process = .createShipment correlationId input)
    (mine : Mine process {} (fun world => Untouched quiet process start world.wal) world) :
    (storeContract server base quiet requests process).holds
      (CreateShipment.execute correlationId input)
      (Contract.Post.on
        (fun _ => Created server quiet process start correlationId input none)
        (fun _ _ => Abandoned base quiet process start))
      {} world := by
  have creation : (requests process).isReception = false := by rw [requested]; rfl
  have opening : Lasting base quiet process fun world =>
      Untouched quiet process start world.wal := Untouched.archival.lasting
  apply Contract.holds_bind
  refine holds_now opening mine ?_ ?_
  swap
  · exact fun error after _ held => .of_mine opening held fun _ holds => holds
  intro createdAt after utc held
  apply Contract.holds_bind
  refine holds_uuid4 opening held ?_ ?_
  swap
  · exact fun error after _ held => .of_mine opening held fun _ holds => holds
  intro id after held
  have named := opening.and (Lasting.uuid id)
  apply Contract.holds_bind
  refine holds_uuid4 named held ?_ ?_
  swap
  · exact fun error after _ held => .of_mine named held fun _ holds => holds.1
  intro eventId after held
  have held : Mine process _ (fun world => Untouched quiet process start world.wal ∧
      (process, id) ∈ world.uuids) after := held.weaken fun holds => holds.1
  apply Contract.holds_bind
  refine holds_now named held ?_ ?_
  swap
  · exact fun error after _ held => .of_mine named held fun _ holds => holds.1
  intro receivedAt after utcReceived held
  -- the identifier is its own, so no committed shipment has it
  apply Contract.holds_bind
  refine holds_saveShipment_new rfl named held rfl rfl
    (fun reached holds kept => kept.ownership.shipment_free holds.2 holds.1.1) ?_ ?_
  swap
  · exact fun error after _ held => .of_mine named held fun _ holds => holds.1
  intro lsn after held
  apply Contract.holds_bind
  refine holds_saveEvent named held ?_ ?_
  swap
  · exact fun error after _ held => .of_mine named held fun _ holds => holds.1
  intro after held
  apply Contract.holds_bind
  refine holds_recordMessage named held ?_ ?_ ?_
  rotate_left
  · exact fun after held => .of_mine named held fun _ holds => holds.1
  · exact fun error after _ held => .of_mine named held fun _ holds => holds.1
  intro messageId after _ held
  have drawn := named.and (Lasting.uuid messageId)
  apply Contract.holds_bind
  apply Contract.holds_bind
  refine holds_flushNewShipments_single rfl
    (holds_insertShipment drawn held creation (fun _ holds => holds.1.2) ?_ ?_)
  swap
  · exact fun error after held => .of_mine drawn held fun _ holds => holds.1.1
  intro after held
  apply Contract.holds_bind
  refine holds_flushNewEvents_single rfl (holds_insertEvent drawn held ?_ ?_ ?_)
  · intro reception
    rw [creation] at reception
    cases reception
  swap
  · exact fun error after _ held => .of_mine drawn held fun _ holds => holds.1.1
  intro after held
  apply Contract.holds_bind
  have inserted := drawn.and (Lasting.lock (.eventKey eventId))
  refine holds_now inserted held ?_ ?_
  swap
  · exact fun error after _ held => .of_mine inserted held fun _ holds => holds.1.1.1
  intro enqueuedAt after _ held
  apply Contract.holds_modify
  apply Contract.holds_pure
  exact .intro
    { correlationId, input, id, eventId, messageId, createdAt, receivedAt, enqueuedAt }
    lsn ⟨rfl, rfl⟩ utc utcReceived
    (held.weaken fun holds => ⟨holds.1.1.1, holds.1.2, holds.2⟩)

/-- The effect of a creation whose rows have been flushed. -/
theorem Creating.effect {creation : Creation} {response : Option HttpResponse}
    {reads : List Read}
    (requested : requests process =
      .createShipment creation.correlationId creation.input)
    (createdAt : creation.createdAt.utcoffset = some 0)
    (receivedAt : creation.receivedAt.utcoffset = some 0)
    (connected : world.connection process =
      { writes := creation.writes server.postgres, reads, response })
    (kept : Invariant server base quiet requests world) :
    Effect server base quiet world.wal (requests process)
      { writes := creation.writes server.postgres, reads, response, process } := by
  have writes : world.writes process = creation.writes server.postgres :=
    congrArg Connection.writes connected
  have shipment : Write.insertShipment (creation.shipmentRow server.postgres) ∈
      world.writes process := by simp [writes, Creation.writes]
  have event : Write.insertEvent (creation.eventRow server.postgres) ∈
      world.writes process := by simp [writes, Creation.writes]
  have outbox : Write.insertOutbox (creation.outboxRow server.postgres) ∈
      world.writes process := by simp [writes, Creation.writes]
  rw [requested]
  exact .created creation createdAt receivedAt (kept.locking.backed shipment).2.2
    (kept.locking.backed event).2 (kept.locking.backed outbox).2.2 rfl rfl rfl

/-- Flushing what a creation has left pending makes it ready to commit. -/
theorem holds_flush_created {correlationId : Option String} {input : CreateShipmentInput}
    {response : Option HttpResponse}
    (requested : requests process = .createShipment correlationId input)
    (created : Created server quiet process start correlationId input response session
      world) :
    (storeContract server base quiet requests process).holds Session.flush
      (Contract.Post.on
        (fun _ _ => Ready server base quiet requests process start fun _ => True)
        (fun _ _ => Abandoned base quiet process start))
      session world := by
  obtain ⟨creation, lsn, ⟨rfl, rfl⟩, createdAt, receivedAt, mine⟩ := created
  have lasting : Lasting base quiet process (Creating quiet process start creation) :=
    Creating.lasting creation
  apply Contract.holds_bind
  apply Contract.holds_read
  apply Contract.holds_bind
  apply Contract.holds_forEach_nil
  apply Contract.holds_bind
  refine holds_flushNewOutboxEvents_single rfl
    (holds_insertOutbox lasting mine (fun _ holds => holds.2.1) (fun _ holds => holds.1.1)
      (fun _ holds => holds.2.2) (List.mem_cons_of_mem _ List.mem_cons_self) rfl (by simp)
      ?_ ?_)
  swap
  · exact fun error after _ _ held => .of_mine lasting held fun _ holds => holds.1
  intro after held
  apply Contract.holds_bind
  apply Contract.holds_forEach_nil
  apply Contract.holds_bind
  apply holds_flushNewShipments_nil rfl
  apply Contract.holds_bind
  apply holds_flushNewEvents_nil rfl
  apply Contract.holds_modify
  refine .intro _ _ lasting held (fun _ holds => holds.1) ?_ fun _ _ => trivial
  exact fun reached held kept =>
    Creating.effect requested createdAt receivedAt held.connection kept

/-- `POST /shipments`. -/
theorem holds_createShipment {correlationId : Option String} {input : CreateShipmentInput}
    (requested : requests process = .createShipment correlationId input)
    (mine : Mine process {} (fun world => Untouched quiet process start world.wal) world) :
    (storeContract server base quiet requests process).holds
      (createShipment correlationId input)
      (fun outcome _ last =>
        Settled quiet process start (fun _ => True) (fun _ _ => True) outcome last)
      {} world := by
  refine holds_transaction (fun _ _ => trivial) (fun _ => Archival.const True) ?_
  apply Contract.holds_bind
  refine Contract.holds_mono (holds_create requested mine) ?_
  rintro (error | shipment) session after established
  · exact ⟨trivial, established⟩
  obtain ⟨creation, lsn, same, createdAt, receivedAt, mine⟩ := established
  have lasting : Lasting base quiet process (Creating quiet process start creation) :=
    Creating.lasting creation
  apply Contract.holds_bind
  refine holds_respond lasting mine ?_ ?_ ?_
  · intro before _ _ _ reported equality
    rw [requested] at equality
    cases equality
  · intro answered held
    apply Contract.holds_pure
    refine Contract.holds_mono (holds_flush_created requested
      (.intro creation lsn same createdAt receivedAt held)) ?_
    rintro (error | done) flushed last outcome
    · exact ⟨trivial, outcome⟩
    · exact outcome
  · exact fun error answered _ held =>
      ⟨trivial, .of_mine lasting held fun _ holds => holds.1⟩

end Rules

end Freight
