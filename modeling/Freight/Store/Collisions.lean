/-
Module: Freight.Store.Collisions
Purpose: The ingestion worker on an event that others record as well: why it raises
  the integrity error of a duplicate, and that it raises nothing of its own once the
  event is recorded.
Trusted boundary: none
Main exports:
  Overtaken, AlreadyKnown, holds_handleEvent_explained, holds_handleEvent_known,
  ends_handleEvent_known, Unbegun, platform_log, platform_explained, platform_known,
  platform_returns
-/
import Freight.Store.Alone
import Freight.Store.Verified

namespace Freight

open Interaction (ProcessId Contract Computation)

section Definitions

variable (server : Server) (base : Database)

/-- An event that can be received has been recorded, and its shipment is there. -/
def AlreadyKnown (event : ShipmentEvent) (wal : List Transaction) : Prop :=
  event.eventType ≠ .shipmentCreated ∧
    (∃ row, (replay base wal).event event.eventId = some row) ∧
      ((replay base wal).shipment event.shipmentId).isSome

/-- What the integrity error of a duplicate says: the event was not there, and it has
been recorded since, by others. -/
def Overtaken (process : ProcessId) (event : ShipmentEvent) (error : PyError)
    (wal : List Transaction) : Prop :=
  server.Honest → ∀ text, error = .integrityError (some "shipment_events_pkey") text →
    process ∉ wal.map Transaction.process ∧ (∃ lsn, AbsentAt base lsn event.eventId wal) ∧
      AlreadyKnown base event wal

/-- The process has committed a write. -/
def Wrote (process : ProcessId) (wal : List Transaction) : Prop :=
  ∃ transaction ∈ wal, transaction.process = process ∧ transaction.writes ≠ []

end Definitions

section Rules

variable {server : Server} {base : Database} {quiet : Prop} {requests : ProcessId → Request}
  {process : ProcessId} {start : List Transaction} {world : World}
  {correlationId : Option String} {event : ShipmentEvent}

theorem AlreadyKnown.archival : Archival quiet process (AlreadyKnown base event) := by
  intro wal more others still ⟨received, recorded, shipped⟩
  exact ⟨received, Archival.recorded _ wal more others still recorded,
    Archival.shipped _ wal more others still shipped⟩

theorem Overtaken.archival (error : PyError) :
    Archival quiet process (Overtaken server base process event error) := by
  intro wal more others still overtaken honest text equality
  obtain ⟨uncommitted, ⟨lsn, absent⟩, known⟩ := overtaken honest text equality
  exact ⟨Archival.uncommitted wal more others still uncommitted,
    ⟨lsn, AbsentAt.archival wal more others still absent⟩,
    AlreadyKnown.archival wal more others still known⟩

theorem Archival.unwritten : Archival quiet process fun wal => ¬ Wrote process wal := by
  intro wal more others _ unwritten ⟨transaction, member, own, written⟩
  rcases List.mem_append.mp member with earlier | later
  · exact unwritten ⟨transaction, earlier, own, written⟩
  · exact others (own ▸ List.mem_map_of_mem later)

theorem Overtaken.of_ne {error : PyError} {wal : List Transaction}
    (other : ∀ constraintName text, error ≠ .integrityError constraintName text) :
    Overtaken server base process event error wal :=
  fun _ text equality => absurd equality (other _ text)

/-- A refused reception of an event that can be received has its reason. -/
theorem Refused.overtaken {error : PyError}
    (received : event.eventType ≠ .shipmentCreated)
    (refused : Refused server base quiet process start event error world) :
    Overtaken server base process event error world.wal := by
  obtain ⟨connection, assertion, -, mine, untouched, -, -, collision⟩ := refused
  intro honest text equality
  cases collision honest _ text equality with
  | duplicate read absent record shipped =>
      exact ⟨(untouched world mine.lasts).1, ⟨_, absent⟩, received, record, shipped⟩
  | inconsistent other missing => exact absurd rfl other

/-- The worker's `handle_event`, with the reason for what it raises. -/
theorem holds_handleEvent_explained
    (requested : requests process = .handleEvent correlationId event)
    (mine : Mine process {} (fun world => Untouched quiet process start world.wal) world) :
    (storeContract server base quiet requests process).holds
      (handleEvent correlationId event)
      (fun outcome _ last =>
        Settled quiet process start (fun _ => True)
            (fun _ wal => ∃ row, (replay base wal).event event.eventId = some row) outcome
            last ∧
          Explained server (Overtaken server base process event) outcome last)
      {} world := by
  have reports : (requests process).Reports correlationId event := by
    rw [requested]
    exact ⟨rfl, rfl⟩
  refine holds_transaction_explained (fun _ _ => trivial) (fun _ => Archival.recorded _)
    Overtaken.archival ?_
  apply Contract.holds_bind
  by_cases created : event.eventType = .shipmentCreated
  · -- such an event is refused before anything is read
    unfold ReceiveShipmentEvent.execute
    rw [if_pos created]
    apply Contract.holds_raise
    have lasting : Lasting base quiet process fun world =>
        Untouched quiet process start world.wal := Untouched.archival.lasting
    refine ⟨trivial, ⟨_, _, lasting, mine, fun _ holds => holds⟩, .inr (Overtaken.of_ne ?_)⟩
    exact fun _ _ equality => nomatch equality
  refine Contract.holds_mono (holds_receive reports mine) ?_
  intro outcome session world established
  cases outcome with
  | error error =>
      exact ⟨trivial, established.abandoned, .inr (established.overtaken created)⟩
  | ok shipment =>
      apply Contract.holds_pure
      refine Contract.holds_mono (holds_flush_received established reports.isReception) ?_
      intro outcome session world flushed
      cases outcome with
      | error error =>
          exact ⟨trivial, flushed.abandoned, .inr (flushed.overtaken created)⟩
      | ok done =>
          refine flushed.ready (fun wal row found => ⟨row, found⟩) fun _ _ equality => ?_
          rw [requested] at equality
          cases equality

/-- On an event that is recorded, `handle_event` returns without a write, or raises
what the environment does. -/
theorem holds_handleEvent_known
    (mine : Mine process {} (fun world => Untouched quiet process start world.wal ∧
      AlreadyKnown base event world.wal) world) :
    (storeContract server base quiet requests process).holds
      (handleEvent correlationId event)
      (fun outcome _ last =>
        Settled quiet process start (fun error => server.faults error = true)
          (fun _ wal => ¬ Wrote process wal) outcome last)
      {} world := by
  have lasting : Lasting base quiet process fun world =>
      Untouched quiet process start world.wal ∧ AlreadyKnown base event world.wal :=
    (Untouched.archival.and AlreadyKnown.archival).lasting
  have received : event.eventType ≠ .shipmentCreated := mine.lasts.2.1
  refine holds_transaction (fun _ faults => faults) (fun _ => Archival.unwritten) ?_
  apply Contract.holds_bind
  unfold ReceiveShipmentEvent.execute
  rw [if_neg received]
  apply Contract.holds_bind
  refine holds_get rfl lasting mine rfl rfl ?_ ?_ ?_
  · intro after missing held
    have shipped := held.lasts.2.2.2
    rw [missing] at shipped
    cases shipped
  · intro row read found held
    simp only [Contract.Post.on]
    apply Contract.holds_bind
    apply Contract.holds_bind
    refine holds_selectEventId lasting held rfl rfl ?_ ?_
    · intro record checked seen held
      apply Contract.holds_pure
      cases record with
      | none =>
          obtain ⟨row, recorded⟩ := held.lasts.2.2.1
          rw [← seen] at recorded
          cases recorded
      | some record =>
          simp only [Contract.Post.on, Option.map_some, Option.isSome_some, if_true]
          apply Contract.holds_pure
          apply Contract.holds_pure
          apply holds_flush_clean ⟨by simp, by simp, rfl, rfl, rfl⟩
          refine .intro _ _ lasting held (fun _ holds => holds.1)
            (fun _ _ _ => .nothing rfl rfl) ?_
          rintro reached holds ⟨transaction, member, own, written⟩
          rcases List.mem_append.mp member with earlier | last
          · exact holds.1.1 (own ▸ List.mem_map_of_mem earlier)
          · cases List.mem_singleton.mp last
            exact written rfl
    · exact fun error after faults held =>
        ⟨faults, _, _, lasting, held, fun _ holds => holds.1⟩
  · exact fun error after faults held =>
      ⟨faults, _, _, lasting, held, fun _ holds => holds.1⟩

/-- On an event that is recorded, nothing keeps `handle_event` from returning, whatever
others hold. -/
theorem ends_handleEvent_known (faultless : server.Faultless)
    (fresh : world.writes process = []) (received : event.eventType ≠ .shipmentCreated)
    (recorded : (world.database.event event.eventId).isSome)
    (shipped : (world.database.shipment event.shipmentId).isSome) :
    (handleEvent correlationId event).ends (server.perform process)
      (fun outcome _ _ => outcome = .ok ()) {} world := by
  obtain ⟨record, recorded⟩ := Option.isSome_iff_exists.mp recorded
  obtain ⟨row, shipped⟩ := Option.isSome_iff_exists.mp shipped
  have visible : world.visible process = world.database := by
    rw [World.visible, fresh, Database.writeAll_nil]
  apply Computation.ends_onExit
  apply Computation.ends_tryExcept
  apply Computation.ends_bind
  apply Computation.ends_bind
  unfold ReceiveShipmentEvent.execute
  rw [if_neg received]
  apply Computation.ends_bind
  apply Computation.ends_bind
  apply Computation.ends_bind
  refine ends_statement faultless rfl ?_
  simp only [visible, shipped, Contract.Post.on]
  apply Computation.ends_bind
  apply Computation.ends_read
  apply Computation.ends_pure
  simp only [Contract.Post.on, Option.map_some]
  apply Computation.ends_pure
  simp only [Contract.Post.on]
  apply Computation.ends_bind
  apply Computation.ends_bind
  refine ends_statement faultless rfl ?_
  have kept : (World.settle process
      (.ok (some row) : Except PyError (Reply (.selectShipment event.shipmentId)))
      (world.note process (.shipment world.wal.length (some row)))).visible process =
      world.database := visible
  simp only [kept, recorded, Contract.Post.on, Option.map_some]
  apply Computation.ends_pure
  simp only [Contract.Post.on, Option.isSome_some, if_true]
  apply Computation.ends_pure
  simp only [Contract.Post.on]
  apply Computation.ends_pure
  apply Computation.ends_bind
  apply Computation.ends_bind
  apply ends_flush_clean ⟨by simp, by simp, rfl, rfl, rfl⟩
  refine ends_statement faultless rfl ?_
  apply Computation.ends_bind
  refine ends_observe faultless ?_
  apply Computation.ends_pure
  exact ends_statement faultless rfl trivial

end Rules

/-! ## Among any other requests -/

section Platform

variable {server : Server} {base : Database} {requests : ProcessId → Request}
  {process : ProcessId} {correlationId : Option String} {event : ShipmentEvent}

/-- A process that has not begun. -/
structure Unbegun (requests : ProcessId → Request) (process : ProcessId)
    (state : PlatformState) : Prop where
  program : state.processes process = some (requests process).program
  connection : state.world.connection process = {}
  uncommitted : process ∉ state.world.wal.map Transaction.process

theorem Explained.stable {quiet : Prop} {reason : PyError → List Transaction → Prop}
    (reasons : ∀ error, Archival quiet process (reason error)) (outcome : Except PyError Unit) :
    (storeContract server base quiet requests process).Stable
      (Explained server reason outcome) := by
  intro before after explained moved _ error equality
  have lasting := (reasons error).lasting before after moved.1.toExtends moved.2
  exact (explained error equality).imp id lasting

/-- The log only grows. -/
theorem platform_log (keyed : base.outboxKeys.Nodup) {state final : PlatformState}
    (reached : (platform server requests).Reachable { base := base } state)
    {actions : List (Interaction.System.Action Choice)}
    (ran : (platform server requests).run actions state = some final) :
    ∃ more, final.world.wal = state.world.wal ++ more := by
  refine (platform_verified server requests keyed).relation_run
    (fun before after => ∃ more, after.wal = before.wal ++ more)
    (fun world => ⟨[], (List.append_nil _).symm⟩) ?_ ?_
    (fun process world => ⟨[], (List.append_nil _).symm⟩) reached ran
  · intro first second third ⟨more, one⟩ ⟨further, two⟩
    exact ⟨more ++ further, by rw [two, one, List.append_assoc]⟩
  · intro process before after undisturbed
    obtain ⟨more, grown, -⟩ := (undisturbed (process + 1) (Nat.succ_ne_self process)).log
    exact ⟨more, grown⟩

/-- Whatever a worker has raised is the environment's or has its reason. -/
theorem platform_explained (keyed : base.outboxKeys.Nodup) {state : PlatformState}
    (reached : (platform server requests).Reachable { base := base } state)
    (requested : requests process = .handleEvent correlationId event)
    {outcome : Except PyError Unit} {session : Session}
    (finished : state.processes process = some (.done (outcome, session))) :
    Explained server (Overtaken server base process event) outcome state.world := by
  obtain ⟨actions, ran⟩ := reached
  have verified := platform_verified server requests keyed
  refine verified.post_run ⟨[], rfl⟩
    (fun outcome => Explained server (Overtaken server base process event) outcome.1)
    (fun outcome => Explained.stable Overtaken.archival outcome.1) ?_ ran finished
  intro program same
  cases same
  have mine : Mine process {} (fun world => Untouched False process [] world.wal)
      { base := base } := ⟨rfl, by simp, fun _ => rfl⟩
  change (storeContract server base False requests process).wp ((requests process).code {}) _ _
  rw [requested]
  exact Contract.wp_mono (fun outcome last both => both.2)
    (holds_handleEvent_explained requested mine)

/-- A worker that begins after the event was recorded returns without a write, or
raises what the environment does. -/
theorem platform_known (keyed : base.outboxKeys.Nodup) {state final : PlatformState}
    (reached : (platform server requests).Reachable { base := base } state)
    (requested : requests process = .handleEvent correlationId event)
    (unbegun : Unbegun requests process state)
    (known : AlreadyKnown base event state.world.wal)
    {actions : List (Interaction.System.Action Choice)}
    (ran : (platform server requests).run actions state = some final)
    {outcome : Except PyError Unit} {session : Session}
    (finished : final.processes process = some (.done (outcome, session))) :
    Settled False process [] (fun error => server.faults error = true)
      (fun _ wal => ¬ Wrote process wal) outcome final.world := by
  have verified := platform_verified server requests keyed
  refine verified.post_run reached
    (fun outcome => Settled False process [] (fun error => server.faults error = true)
      (fun _ wal => ¬ Wrote process wal) outcome.1)
    (fun outcome => Settled.stable (fun _ => Archival.unwritten) outcome.1) ?_ ran finished
  intro program same
  rw [unbegun.program] at same
  cases same
  have mine : Mine process {} (fun world => Untouched False process [] world.wal ∧
      AlreadyKnown base event world.wal) state.world :=
    ⟨unbegun.connection, ⟨unbegun.uncommitted, False.elim⟩, known⟩
  change (storeContract server base False requests process).wp ((requests process).code {}) _ _
  rw [requested]
  exact holds_handleEvent_known mine

/-- It can return, whatever the others hold. -/
theorem platform_returns (keyed : base.outboxKeys.Nodup) {state final : PlatformState}
    (reached : (platform server requests).Reachable { base := base } state)
    (requested : requests process = .handleEvent correlationId event)
    (known : AlreadyKnown base event state.world.wal)
    {actions : List (Interaction.System.Action Choice)}
    (ran : (platform server requests).run actions state = some final)
    (unbegun : Unbegun requests process final) :
    ∃ choices session after,
      (requests process).program.run (server.perform process) choices final.world =
        some ((.ok (), session), after) := by
  obtain ⟨more, grown⟩ := platform_log keyed reached ran
  have kept : Invariant server base False requests final.world :=
    platform_invariant keyed (Interaction.System.Reachable.run _ reached ran)
  have database : final.world.database = replay (replay base state.world.wal) more := by
    rw [World.database, kept.start, grown, replay_append]
  obtain ⟨received, ⟨row, recorded⟩, shipped⟩ := known
  have still : (final.world.database.event event.eventId).isSome := by
    rw [database, replay_event_of_some recorded]
    rfl
  have there : (final.world.database.shipment event.shipmentId).isSome := by
    rw [database]
    exact replay_shipment_isSome shipped
  have fresh : final.world.writes process = [] := congrArg Connection.writes unbegun.connection
  have ended : Interaction.Program.ends (server.calm.perform process)
      (handleEvent correlationId event {}) (fun outcome _ => outcome.1 = .ok ())
      final.world :=
    ends_handleEvent_known server.calm_faultless fresh received still there
  obtain ⟨choices, ⟨outcome, session⟩, after, calm⟩ :=
    Interaction.Program.ends.exists_run ended
  have returned := Interaction.Program.ends.of_run ended calm
  change outcome = .ok () at returned
  subst returned
  refine ⟨choices, session, after, ?_⟩
  change ((requests process).code {}).run _ _ _ = _
  rw [requested]
  exact (Server.run_calm_iff.mp calm).2

end Platform

end Freight
