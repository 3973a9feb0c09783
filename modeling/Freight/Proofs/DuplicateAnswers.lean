/-
Module: Freight.Proofs.DuplicateAnswers
Purpose: What a repeated `POST /events` is answered.  The projection was read
  after the recording transaction committed, unless that commit fell between the
  two lookups of the request.
Trusted boundary: none
Main exports:
  alreadyRecorded, RecordedAt, ShowsEffect, Straddled, answer_shows_effect_iff,
  stale_answer
-/
import Freight.Proofs.ExactlyOnce

namespace Freight

open Interaction (ProcessId)

/-- Whether a request that was answered successfully has taken the path of an
event that is already recorded, by what it had read, latest first: `exists`
returned true, or the projection was reloaded after a conflict. -/
def alreadyRecorded : List Read → Bool
  | [.event _ found, .shipment _ _] => found
  | [.shipment _ _, .shipment _ _, .event _ _, .shipment _ _] => true
  | _ => false

/-- The entry of the log that recorded an event. -/
def RecordedAt (base : Database) (wal : List Transaction) (eventId : UUID) (index : Nat) :
    Prop :=
  (replay base (wal.take index)).event eventId = none ∧
    ((replay base (wal.take (index + 1))).event eventId).isSome

/-- The answer's projection is one that the request has read after the entry
committed. -/
def ShowsEffect (base : Database) (wal : List Transaction) (reads : List Read)
    (shipmentId : UUID) (answer : Option Shipment) (index : Nat) : Prop :=
  ∃ lsn row, .shipment lsn (some row) ∈ reads ∧ index < lsn ∧
    (replay base (wal.take lsn)).shipment shipmentId = some row ∧
    answer = some (ShipmentMapper.toDomain row)

/-- The points of the log at which a request first looked for the shipment and for
the event. -/
def lookups : List Read → Option (Nat × Nat)
  | [.event existsLsn _, .shipment selectLsn _] => some (selectLsn, existsLsn)
  | [_, _, .event existsLsn _, .shipment selectLsn _] => some (selectLsn, existsLsn)
  | _ => none

/-- The entry committed after the request's first lookup of the shipment and
before its lookup of the event. -/
def Straddled (reads : List Read) (index : Nat) : Prop :=
  ∃ selectLsn existsLsn, lookups reads = some (selectLsn, existsLsn) ∧
    selectLsn ≤ index ∧ index < existsLsn

section Positions

variable {base : Database} {wal : List Transaction} {eventId : UUID} {index : Nat}

/-- A point of the log at which the event was recorded is after its entry. -/
theorem RecordedAt.lt (recorded : RecordedAt base wal eventId index) {lsn : Nat}
    {event : ShipmentEventModel}
    (found : (replay base (wal.take lsn)).event eventId = some event) : index < lsn := by
  by_contra earlier
  have still : ((replay base (wal.take index)).event eventId).isSome :=
    replay_event_take_mono (Nat.not_lt.mp earlier) (by rw [found]; rfl)
  rw [recorded.1] at still
  cases still

/-- A point of the log at which it was not is before its entry. -/
theorem RecordedAt.le (recorded : RecordedAt base wal eventId index) {lsn : Nat}
    (absent : (replay base (wal.take lsn)).event eventId = none) : lsn ≤ index := by
  by_contra later
  have already : ((replay base (wal.take lsn)).event eventId).isSome :=
    replay_event_take_mono (Nat.not_le.mp later) recorded.2
  rw [absent] at already
  cases already

end Positions

/-- In every reachable state, a repeated request that was answered through the
already-recorded path shows the recorded event's effect if and only if the
recording transaction did not commit between its two lookups. -/
theorem answer_shows_effect_iff (server : Server) (honest : server.Honest)
    (base : Database) (keyed : base.outboxKeys.Nodup) (requests : ProcessId → Request)
    (state : PlatformState)
    (reached : (platform server requests).Reachable { base := base } state)
    (process : ProcessId) (correlationId : Option String) (reported : ShipmentEventRequest)
    (requested : requests process = .receiveEvent correlationId reported)
    (response : HttpResponse) (answered : state.world.response process = some response)
    (known : alreadyRecorded (state.world.reads process) = true) (index : Nat)
    (recorded : RecordedAt base state.world.wal reported.eventId index) :
    ShowsEffect base state.world.wal (state.world.reads process) reported.shipmentId
        response.shipment index ↔
      ¬ Straddled (state.world.reads process) index := by
  have kept : Invariant server base False requests state.world :=
    platform_invariant keyed reached
  obtain ⟨shipment, rfl, source⟩ :=
    kept.answers process response answered honest correlationId reported requested
  generalize state.world.reads process = reads at known source ⊢
  cases source with
  | recorded => cases known
  | @known existsLsn lsn row event ordered inside found record =>
      have before : index < existsLsn := recorded.lt record
      constructor
      · rintro ⟨shownLsn, shown, member, shows, -⟩ ⟨selectLsn, otherLsn, same, early, -⟩
        obtain ⟨rfl, -⟩ : shownLsn = lsn ∧ shown = row := by simpa using member
        cases same
        exact absurd shows (Nat.not_lt.mpr early)
      · intro unstraddled
        have after : index < lsn := by
          by_contra early
          exact unstraddled ⟨lsn, existsLsn, rfl, Nat.not_lt.mp early, before⟩
        exact ⟨lsn, row, by simp, after, found, rfl⟩
  | @recovered existsLsn lsn saveLsn reloadLsn row before loaded event inside checked absent
      found record =>
      -- the event was absent when it was looked for, so its entry came later
      have after : index < reloadLsn := recorded.lt record
      constructor
      · rintro - ⟨selectLsn, otherLsn, same, -, straddled⟩
        cases same
        exact absurd straddled (Nat.not_lt.mpr (recorded.le absent))
      · intro _
        exact ⟨reloadLsn, row, by simp, after, found, rfl⟩

/-- The second of two identical requests comes after the first. -/
def promptSchedule : List (Interaction.System.Action Choice) :=
  lookUp 0 ++ recordRest 0 100 ++ lookUp 1 ++ turns 1 [.proceed, .proceed]

/-- What the second request has read and answered, and whether the log's first
entry has recorded the event. -/
theorem promptSchedule_runs :
    (((platform Server.utc deliveredTwice).run promptSchedule
      ((platform Server.utc deliveredTwice).initial { base := onItsWay })).map fun state =>
        (alreadyRecorded (state.world.reads 1), lookups (state.world.reads 1),
          (state.world.response 1).map HttpResponse.statusCode,
          ((replay onItsWay (state.world.wal.take 1)).event ⟨7#128⟩).isSome)) =
      some (true, some (1, 1), some 200, true) := by
  decide +kernel

/-- A request that comes after the recording shows its effect. -/
theorem prompt_answer :
    ∃ (state : PlatformState) (response : HttpResponse),
      (platform Server.utc deliveredTwice).Reachable { base := onItsWay } state ∧
      state.world.response 1 = some response ∧
      ShowsEffect onItsWay state.world.wal (state.world.reads 1) parcel
        response.shipment 0 := by
  obtain ⟨state, ran, shown⟩ := Option.map_eq_some_iff.mp promptSchedule_runs
  obtain ⟨known, looked, status, recorded⟩ :
      alreadyRecorded (state.world.reads 1) = true ∧
      lookups (state.world.reads 1) = some (1, 1) ∧
      (state.world.response 1).map HttpResponse.statusCode = some 200 ∧
      ((replay onItsWay (state.world.wal.take 1)).event ⟨7#128⟩).isSome := by
    simpa using shown
  obtain ⟨response, answered, -⟩ := Option.map_eq_some_iff.mp status
  have reached : (platform Server.utc deliveredTwice).Reachable { base := onItsWay } state :=
    ⟨promptSchedule, ran⟩
  refine ⟨state, response, reached, answered, ?_⟩
  refine (answer_shows_effect_iff Server.utc Server.utc_honest onItsWay List.nodup_nil
    deliveredTwice state reached 1 none (report 7 .delivered 20) rfl response answered known 0
    ⟨rfl, recorded⟩).mpr ?_
  rintro ⟨selectLsn, existsLsn, same, early, -⟩
  rw [looked] at same
  cases same
  cases early

/-! ## A stale answer -/

/-- The second of two identical requests looks up the shipment, the first one
records the event, and the second then finds it recorded. -/
def staleSchedule : List (Interaction.System.Action Choice) :=
  lookUp 1 ++ lookUp 0 ++ recordRest 0 100 ++ turns 1 [.proceed, .proceed]

/-- What the second request has read and answered, and whether the log's first
entry has recorded the event. -/
theorem staleSchedule_runs :
    (((platform Server.utc deliveredTwice).run staleSchedule
      ((platform Server.utc deliveredTwice).initial { base := onItsWay })).map fun state =>
        (state.world.reads 1, state.world.response 1,
          ((replay onItsWay (state.world.wal.take 1)).event ⟨7#128⟩).isSome)) =
      some ([.event 1 true, .shipment 0 (some travelling)],
        some { statusCode := 200, shipment := some (ShipmentMapper.toDomain travelling) },
        true) := by
  decide +kernel

/-- Not every answer to a repeated request shows the recorded event's effect. -/
theorem stale_answer :
    ¬ ∀ state : PlatformState,
      (platform Server.utc deliveredTwice).Reachable { base := onItsWay } state →
      ∀ process correlationId reported response index,
        deliveredTwice process = .receiveEvent correlationId reported →
        state.world.response process = some response →
        alreadyRecorded (state.world.reads process) = true →
        RecordedAt onItsWay state.world.wal reported.eventId index →
        ShowsEffect onItsWay state.world.wal (state.world.reads process)
          reported.shipmentId response.shipment index := by
  intro claim
  obtain ⟨state, ran, shown⟩ := Option.map_eq_some_iff.mp staleSchedule_runs
  obtain ⟨reads, answered, recorded⟩ :
      state.world.reads 1 = [.event 1 true, .shipment 0 (some travelling)] ∧
      state.world.response 1 =
        some { statusCode := 200, shipment := some (ShipmentMapper.toDomain travelling) } ∧
      ((replay onItsWay (state.world.wal.take 1)).event ⟨7#128⟩).isSome := by
    simpa using shown
  obtain ⟨lsn, row, member, later, -⟩ :=
    claim state ⟨staleSchedule, ran⟩ 1 none (report 7 .delivered 20) _ 0 rfl answered
      (by rw [reads]; rfl) ⟨rfl, recorded⟩
  rw [reads] at member
  obtain ⟨rfl, -⟩ : lsn = 0 ∧ row = travelling := by simpa using member
  cases later

end Freight
