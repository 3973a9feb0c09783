/-
Module: Freight.Store.Sequence
Purpose: Requests served one after the other, each alone: what every reception leaves
  in the tables is the verdict on its event, and it leaves the next one alone.
Trusted boundary: none
Main exports:
  Sequence, Unstarted, Request.reported, Verdict.Leaves, ends_reported,
  Unstarted.tail, Unstarted.ends_reception, Unstarted.sequence
-/
import Freight.Store.Verdicts

namespace Freight

open Interaction (ProcessId Contract Computation Program)

/-! ## Sequences -/

/-- `uuid4` has an identifier left to hand out. -/
def World.Spare (world : World) : Prop := ∃ id, world.issued id = false

/-- The processes run to their ends one after the other, as long as identifiers last,
and however the environment resolves what it leaves open, they end in the
postcondition. -/
def Sequence (server : Server) (requests : ProcessId → Request) :
    List ProcessId → (World → Prop) → World → Prop
  | [], post, world => post world
  | process :: rest, post, world =>
      world.Spare → (requests process).program.ends (server.perform process)
        (fun _ after => Sequence server requests rest post after) world

theorem Sequence.mono {server : Server} {requests : ProcessId → Request}
    {post weaker : World → Prop} (implies : ∀ world, post world → weaker world)
    {processes : List ProcessId} : ∀ {world : World},
      Sequence server requests processes post world →
        Sequence server requests processes weaker world := by
  induction processes with
  | nil => exact fun established => implies _ established
  | cons process rest inductionHypothesis =>
      intro world verified spare
      exact Program.ends_mono (fun _ _ established => inductionHypothesis established)
        (verified spare)

/-- Nobody has started, and nothing is open. -/
structure Unstarted (server : Server) (base : Database) (requests : ProcessId → Request)
    (processes : List ProcessId) (world : World) : Prop where
  kept : Invariant server base True requests world
  locks : world.locks = []
  distinct : processes.Nodup
  fresh : ∀ process ∈ processes, world.connection process = {}
  uncommitted : ∀ process ∈ processes, process ∉ world.wal.map Transaction.process

/-- What a reception reports, received at no moment in particular. -/
def Request.reported : Request → Option ShipmentEvent
  | .receiveEvent _ request => some (request.event (.utc 0))
  | .handleEvent _ event => some event
  | _ => none

/-- The event that a request records is what it reports, received at some moment. -/
theorem Request.Reports.exists_reported {request : Request} {correlationId : Option String}
    {event : ShipmentEvent} (reports : request.Reports correlationId event) :
    ∃ reported, request.reported = some reported ∧
      event = { reported with receivedAt := event.receivedAt } := by
  cases request with
  | createShipment _ _ => cases reports
  | publishOne _ => cases reports
  | handleEvent _ handled =>
      obtain ⟨-, rfl⟩ := reports
      exact ⟨event, rfl, rfl⟩
  | receiveEvent _ reported =>
      obtain ⟨-, receivedAt, -, rfl⟩ := reports
      exact ⟨_, rfl, rfl⟩

/-- What the verdict on an event that a request reports leaves in the tables. -/
def Verdict.Leaves (verdict : Verdict) (postgres : Postgres) (request : Request)
    (event : ShipmentEvent) (before after : Database) : Prop :=
  match verdict with
  | .recorded row status shipment => ∃ reception : Reception,
      request.Reports reception.correlationId reception.event ∧ reception.event = event ∧
        reception.row = row ∧ reception.loaded = row ∧ reception.status = status ∧
        reception.after = shipment ∧ after = before.writeAll (reception.writes postgres)
  | _ => after = before

/-- What a request raises when its event is rejected. -/
def Request.refuse : Request → PyError → PyError
  | .receiveEvent _ _ => refusal
  | _ => id

/-- How a request ends under a verdict. -/
def Verdict.Answers {α : Type} (verdict : Verdict) (refuse : PyError → PyError)
    (outcome : Except PyError α) : Prop :=
  match verdict with
  | .rejected error => outcome = .error (refuse error)
  | _ => ∃ value, outcome = .ok value

namespace Verdict.Answers

variable {α β : Type} {verdict : Verdict} {refuse : PyError → PyError}

/-- The value of a request says nothing about the verdict. -/
theorem ok {value : α} (answers : verdict.Answers refuse (.ok value : Except PyError α))
    {other : β} : verdict.Answers refuse (.ok other : Except PyError β) := by
  cases verdict with
  | rejected error => cases answers
  | known row => exact ⟨other, rfl⟩
  | recorded row status shipment => exact ⟨other, rfl⟩

theorem error {error : PyError}
    (answers : verdict.Answers refuse (.error error : Except PyError α)) :
    verdict.Answers refuse (.error error : Except PyError β) := by
  cases verdict with
  | rejected reason =>
      cases answers
      rfl
  | known row => exact nomatch answers.choose_spec
  | recorded row status shipment => exact nomatch answers.choose_spec

/-- Only a rejection raises. -/
theorem rejected {error : PyError}
    (answers : verdict.Answers refuse (.error error : Except PyError α)) :
    ∃ reason, verdict = .rejected reason := by
  cases verdict with
  | rejected reason => exact ⟨reason, rfl⟩
  | known row => exact nomatch answers.choose_spec
  | recorded row status shipment => exact nomatch answers.choose_spec

end Verdict.Answers

section Rules

variable {server : Server} {base : Database} {requests : ProcessId → Request}
  {process : ProcessId} {rest : List ProcessId} {start world : World}

/-- What a process leaves behind that has ended under a verdict. -/
theorem Verdict.Ended.leaves {α : Type} {verdict : Verdict} {correlationId : Option String}
    {request : Request} {event : ShipmentEvent} {refuse : PyError → PyError}
    {answer : Shipment → α} {outcome : Except PyError α}
    (reports : request.Reports correlationId event)
    (ended : verdict.Ended server start process correlationId event refuse answer outcome
      world) :
    verdict.Leaves server.postgres request event start.database world.database ∧
      verdict.Answers refuse outcome ∧ world.locks = [] := by
  cases verdict with
  | rejected error =>
      obtain ⟨answered, closed⟩ := ended
      exact ⟨closed.database, answered, closed.locks⟩
  | known row =>
      obtain ⟨rfl, connection, writes, closed⟩ := ended
      refine ⟨?_, ⟨_, rfl⟩, closed.locks⟩
      exact closed.database.trans (congrArg start.database.writeAll writes)
  | recorded row status shipment =>
      obtain ⟨rfl, connection, messageId, enqueuedAt, writes, closed⟩ := ended
      refine ⟨⟨Verdict.reception start correlationId event row status shipment messageId
        enqueuedAt, reports, rfl, rfl, rfl, rfl, rfl, ?_⟩, ⟨_, rfl⟩, closed.locks⟩
      exact closed.database.trans (congrArg start.database.writeAll writes)

/-- What a verdict leaves: the tables as they were, or those after a reception of the
current row. -/
theorem Verdict.Leaves.cases {postgres : Postgres} {request : Request}
    {event : ShipmentEvent} {before after : Database}
    (leaves : (ReceiveShipmentEvent.verdict postgres before event).Leaves postgres request event
      before after) :
    after = before ∨ ∃ reception : Reception, reception.event = event ∧ reception.Unmoved ∧
      before.shipment event.shipmentId = some reception.row ∧
      before.event event.eventId = none ∧
      ShipmentEventHandler.handle (ShipmentMapper.toDomain reception.row) event =
        (.ok reception.status, reception.after) ∧
      after = before.writeAll (reception.writes postgres) := by
  cases verdict : ReceiveShipmentEvent.verdict postgres before event with
  | rejected error =>
      rw [verdict] at leaves
      exact .inl leaves
  | known row =>
      rw [verdict] at leaves
      exact .inl leaves
  | recorded row status shipment =>
      rw [verdict] at leaves
      obtain ⟨found, unrecorded, handled⟩ := ReceiveShipmentEvent.verdict_recorded verdict
      obtain ⟨reception, -, reported, rfl, unmoved, rfl, rfl, left⟩ := leaves
      exact .inr ⟨reception, reported, unmoved, found, unrecorded, handled, left⟩

/-- A reception alone ends in the verdict on what it reports, at some moment of
reception. -/
theorem ends_reported {request : Request} (faultless : server.Faultless)
    (idle : Idle process world) {reported : ShipmentEvent}
    (reports : request.reported = some reported) :
    request.code.ends (server.perform process)
      (fun outcome _ after => after.locks = [] ∧ ∃ receivedAt : DateTime,
        let event := { reported with receivedAt := receivedAt }
        let verdict := ReceiveShipmentEvent.verdict server.postgres world.database event
        verdict.Leaves server.postgres request event world.database after.database ∧
          verdict.Answers request.refuse outcome)
      {} world := by
  cases request with
  | createShipment correlationId input => cases reports
  | publishOne retryDelay => cases reports
  | receiveEvent correlationId request =>
      cases reports
      apply Computation.ends_bind
      refine Computation.ends_mono (ends_receiveEvent faultless idle) ?_
      intro outcome session after ⟨receivedAt, utc, ended⟩
      have reports : (Request.receiveEvent correlationId request).Reports correlationId
          (request.event receivedAt) := ⟨rfl, receivedAt, utc, rfl⟩
      obtain ⟨leaves, answers, released⟩ := ended.leaves reports
      cases outcome with
      | error error => exact ⟨released, receivedAt, leaves, answers.error⟩
      | ok shipment => exact ⟨released, receivedAt, leaves, answers.ok⟩
  | handleEvent correlationId event =>
      cases reports
      refine Computation.ends_mono (ends_handleEvent faultless idle) ?_
      intro outcome session after ended
      have reports : (Request.handleEvent correlationId reported).Reports correlationId
          reported := ⟨rfl, rfl⟩
      obtain ⟨leaves, answers, released⟩ := ended.leaves reports
      exact ⟨released, reported.receivedAt, leaves, answers⟩

namespace Unstarted

theorem idle (unstarted : Unstarted server base requests (process :: rest) world)
    (references : base.References) (spare : world.Spare) : Idle process world :=
  .of_invariant unstarted.kept references (unstarted.fresh process List.mem_cons_self)
    unstarted.locks spare

/-- What a reception that has run alone keeps, whatever its environment did, and what it
has committed, which is its own. -/
theorem ran_alone (unstarted : Unstarted server base requests (process :: rest) world)
    {reported : ShipmentEvent} (reports : (requests process).reported = some reported)
    {choices : List Choice} {outcome : Except PyError Unit} {session : Session}
    {after : World}
    (ran : (requests process).program.run (server.perform process) choices world =
      some ((outcome, session), after)) :
    Invariant server base True requests after ∧
      (∀ other, other ≠ process → Undisturbed base other world after) ∧
      ∃ log, after.wal = world.wal ++ log ∧
        ∀ transaction ∈ log, transaction.process = process := by
  have reception : ∀ retryDelay, requests process ≠ .publishOne retryDelay := by
    intro retryDelay requested
    rw [requested] at reports
    cases reports
  obtain ⟨-, kept, others⟩ :=
    run_alone (fun retryDelay requested => absurd requested (reception retryDelay))
      unstarted.kept (unstarted.fresh process List.mem_cons_self)
      (unstarted.uncommitted process List.mem_cons_self) ran
  refine ⟨kept, others, ?_⟩
  obtain ⟨log, grown, -⟩ := (others (process + 1) (Nat.succ_ne_self process)).log
  refine ⟨log, grown, ?_⟩
  intro transaction logged
  by_contra different
  obtain ⟨again, grownAgain, foreign⟩ := (others transaction.process different).log
  rw [List.append_cancel_left (grown.symm.trans grownAgain)] at logged
  exact foreign (List.mem_map_of_mem logged)

/-- A reception that has run alone, whatever its environment did, and has left no lock,
leaves the processes after it unstarted. -/
theorem tail (unstarted : Unstarted server base requests (process :: rest) world)
    {reported : ShipmentEvent} (reports : (requests process).reported = some reported)
    {choices : List Choice} {outcome : Except PyError Unit} {session : Session}
    {after : World}
    (ran : (requests process).program.run (server.perform process) choices world =
      some ((outcome, session), after))
    (released : after.locks = []) : Unstarted server base requests rest after := by
  obtain ⟨kept, others, log, grown, own⟩ := unstarted.ran_alone reports ran
  obtain ⟨first, distinct⟩ := List.nodup_cons.mp unstarted.distinct
  refine ⟨kept, released, distinct, ?_, ?_⟩
  · intro other member
    have different : other ≠ process := fun same => first (same ▸ member)
    rw [(others other different).connection]
    exact unstarted.fresh other (List.mem_cons_of_mem _ member)
  · intro other member
    have different : other ≠ process := fun same => first (same ▸ member)
    rw [grown, List.map_append, List.mem_append]
    intro committed
    rcases committed with earlier | last
    · exact unstarted.uncommitted other (List.mem_cons_of_mem _ member) earlier
    · obtain ⟨transaction, logged, same⟩ := List.mem_map.mp last
      exact different (same.symm.trans (own transaction logged))

/-- Whoever starts later has not started either. -/
theorem sublist {processes fewer : List ProcessId}
    (unstarted : Unstarted server base requests processes world)
    (part : fewer.Sublist processes) : Unstarted server base requests fewer world where
  kept := unstarted.kept
  locks := unstarted.locks
  distinct := unstarted.distinct.sublist part
  fresh := fun process member => unstarted.fresh process (part.subset member)
  uncommitted := fun process member => unstarted.uncommitted process (part.subset member)

/-- A reception alone ends in the verdict on what it reports, at some moment of
reception, and leaves the processes after it unstarted. -/
theorem ends_reception (unstarted : Unstarted server base requests (process :: rest) world)
    (faultless : server.Faultless) (references : base.References) (spare : world.Spare)
    {reported : ShipmentEvent} (reports : (requests process).reported = some reported) :
    (requests process).program.ends (server.perform process)
      (fun _ after => Unstarted server base requests rest after ∧
        ∃ receivedAt : DateTime,
          let event := { reported with receivedAt := receivedAt }
          (ReceiveShipmentEvent.verdict server.postgres world.database event).Leaves
            server.postgres (requests process) event world.database after.database)
      world := by
  have verdict := ends_reported faultless (unstarted.idle references spare) reports
  refine Program.ends_mono ?_ (Program.ends.and_of_run verdict fun choices outcome after ran =>
    Exists.intro choices ran)
  intro outcome after ⟨⟨released, receivedAt, leaves, _⟩, choices, ran⟩
  exact ⟨unstarted.tail reports ran released, receivedAt, leaves⟩

/-- A reception that has run alone and without a fault has done what the verdict says. -/
theorem ran_clean (unstarted : Unstarted server base requests (process :: rest) world)
    (references : base.References) (spare : world.Spare) {reported : ShipmentEvent}
    (reports : (requests process).reported = some reported) {choices : List Choice}
    (clean : ∀ choice ∈ choices, choice.isFault = false) {outcome : Except PyError Unit}
    {session : Session} {after : World}
    (ran : (requests process).program.run (server.perform process) choices world =
      some ((outcome, session), after)) :
    Unstarted server base requests rest after ∧ ∃ receivedAt : DateTime,
      let event := { reported with receivedAt := receivedAt }
      let verdict := ReceiveShipmentEvent.verdict server.postgres world.database event
      verdict.Leaves server.postgres (requests process) event world.database after.database ∧
        verdict.Answers (requests process).refuse outcome := by
  have calm := Server.run_calm_iff.mpr ⟨clean, ran⟩
  obtain ⟨released, settled⟩ := Program.ends.of_run
    (ends_reported server.calm_faultless (unstarted.idle references spare) reports) calm
  exact ⟨unstarted.tail reports ran released, settled⟩

/-- An induction principle for receptions one after the other: what holds of the
tables before them and is kept by every verdict holds of the tables after them. -/
theorem sequence {motive : List ProcessId → Database → Prop} (faultless : server.Faultless)
    (references : base.References)
    (keeps : ∀ process rest reported receivedAt before after,
      motive (process :: rest) before → (requests process).reported = some reported →
      (ReceiveShipmentEvent.verdict server.postgres before
          { reported with receivedAt := receivedAt }).Leaves server.postgres (requests process)
        { reported with receivedAt := receivedAt } before after →
      motive rest after)
    {processes : List ProcessId}
    (receptions : ∀ process ∈ processes, ((requests process).reported).isSome) :
    ∀ {world : World}, Unstarted server base requests processes world →
      motive processes world.database →
      Sequence server requests processes (fun final => motive [] final.database) world := by
  induction processes with
  | nil => exact fun _ holds => holds
  | cons process rest inductionHypothesis =>
      intro world unstarted holds spare
      obtain ⟨reported, reports⟩ :=
        Option.isSome_iff_exists.mp (receptions process List.mem_cons_self)
      refine Program.ends_mono ?_ (unstarted.ends_reception faultless references spare reports)
      rintro outcome after ⟨ready, receivedAt, leaves⟩
      refine inductionHypothesis
        (fun other member => receptions other (List.mem_cons_of_mem _ member)) ready ?_
      exact keeps process rest reported receivedAt _ _ holds reports leaves

end Unstarted

end Rules

end Freight
