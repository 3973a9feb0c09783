/-
Module: Freight.Proofs.IngestionLedger
Purpose: The metrics of all ingestion workers against the transactions that they have committed
  and the messages that they have moved: what the counters say, and what they may leave unsaid.
Trusted boundary: none
Main exports:
  Metered.Sound, Metered.Booked, Metered.booked_perform, Metered.metering_booked,
  Metered.Ledger, Metered.ingestion_ledger
-/
import Freight.Proofs.DeliveryCourses
import Freight.Proofs.MessageSafety
import Freight.Store.RelayLog

namespace Freight.Metered

open Interaction (Begins ProcessId story)
open Interaction.Journal (tally told)

/-! ## What the events of a delivery come to -/

/-- How the numbers of events of any deliveries are related, some of which may not have come to
their end. -/
def Sound (numbers : Event → Nat) : Prop :=
  numbers .finished ≤ numbers .delivered ∧
  numbers (.counted .committed) ≤ numbers .committed ∧
  numbers .committed + numbers .finished ≤
    numbers (.counted .committed) + numbers .delivered ∧
  numbers (.counted .retryPublishReturned) ≤ numbers (.published .retry) ∧
  numbers (.counted .dlqPublishReturned) ≤ numbers (.published .deadLetter) ∧
  numbers (.published .retry) + numbers (.refused .retry) + numbers (.published .deadLetter) +
      numbers (.refused .deadLetter) + numbers .finished ≤
    numbers (.counted .retryPublishReturned) + numbers (.counted .dlqPublishReturned) +
      numbers (.counted .republishFailed) + numbers .delivered ∧
  numbers (.counted .retryPublishReturned) + numbers (.counted .dlqPublishReturned) +
      numbers (.counted .republishFailed) ≤ numbers (.counted .processingFailed) ∧
  numbers (.counted .retryPublishReturned) + numbers (.counted .dlqPublishReturned) +
      numbers .finished ≤
    numbers (.counted .acked) + numbers (.counted .ackFailed) +
      numbers (.counted .processingFailed) ∧
  numbers (.counted .acked) + numbers (.counted .ackFailed) +
      numbers (.counted .processingFailed) ≤
    numbers .delivered + numbers (.counted .retryPublishReturned) +
      numbers (.counted .dlqPublishReturned)

instance (numbers : Event → Nat) : Decidable (Sound numbers) :=
  inferInstanceAs (Decidable (_ ∧ _))

theorem Sound.zero : Sound fun _ => 0 := by decide

theorem Sound.add {one two : Event → Nat} (first : Sound one) (second : Sound two) :
    Sound fun event => one event + two event := by
  unfold Sound at first second ⊢
  dsimp only
  omega

/-- A process of any role, wherever it is in its course. -/
theorem Sound.of_begins {role : Role} {told : List Event} (begins : Begins (courses role) told) :
    Sound (tally told) := by
  have each : ∀ course ∈ courses role, ∀ early ∈ course.inits, Sound (tally early) := by
    have idle : ∀ course ∈ [([] : List Event)], ∀ early ∈ course.inits, Sound (tally early) := by
      decide
    cases role with
    | delivery => decide +kernel
    | timer => decide
    | producer message => exact idle
    | request other => exact idle
  exact begins.all each

/-! ## What happens to the world -/

/-- How many transactions deliveries have committed. -/
def transactions (roles : ProcessId → Role) (world : Deployment) : Nat :=
  world.store.wal.countP fun transaction => delivers (roles transaction.process)

/-- The length of a queue. -/
def held (world : Deployment) (place : Place) : Nat := (world.broker.queues place).length

/-- How many messages have left a queue other than the main one. -/
def left (numbers : Event → Nat) : Place → Nat
  | .retry => numbers .expired
  | _ => 0

/-- Between two worlds, transactions and messages are as many as events tell: a publication that
has raised may have reached its queue. -/
structure Booked (roles : ProcessId → Role) (numbers : Event → Nat)
    (before after : Deployment) : Prop where
  committed : transactions roles after = transactions roles before + numbers .committed
  least : ∀ place, place ≠ .main →
    held before place + numbers (.published place) ≤ held after place + left numbers place
  most : ∀ place, place ≠ .main →
    held after place + left numbers place ≤
      held before place + numbers (.published place) + numbers (.refused place)

namespace Booked

variable {roles : ProcessId → Role} {one two numbers : Event → Nat}
  {before middle after : Deployment}

theorem trans (first : Booked roles one before middle) (second : Booked roles two middle after) :
    Booked roles (one + two) before after := by
  have gone : ∀ place, left (one + two) place = left one place + left two place := by
    intro place
    cases place <;> rfl
  constructor
  · rw [second.committed, first.committed, Pi.add_apply, Nat.add_assoc]
  · intro place queue
    have early := first.least place queue
    have late := second.least place queue
    rw [gone, Pi.add_apply]
    omega
  · intro place queue
    have early := first.most place queue
    have late := second.most place queue
    rw [gone, Pi.add_apply, Pi.add_apply]
    omega

/-- Nothing has been committed, and the queues are as they were. -/
theorem still (wal : after.store.wal = before.store.wal)
    (queues : ∀ place, place ≠ .main → held after place = held before place)
    (committed : numbers .committed = 0) (published : ∀ place, numbers (.published place) = 0)
    (expired : numbers .expired = 0) : Booked roles numbers before after := by
  have nothing : ∀ place, left numbers place = 0 := by
    intro place
    cases place with
    | retry => exact expired
    | _ => rfl
  constructor
  · rw [transactions, transactions, wal, committed, Nat.add_zero]
  · intro place queue
    rw [queues place queue, published, nothing]
  · intro place queue
    rw [queues place queue, nothing]
    omega

end Booked

/-! ## One step -/

section Step

variable {consumer : RabbitMQShipmentEventConsumer} {roles : ProcessId → Role} {server : Server}
  {process : ProcessId} {before after : Deployment}

/-- A message that is put on several queues. -/
theorem length_foldl_put {origin : Nat} {message : Message} (places : List Place)
    (broker : Broker) (place : Place) :
    ((places.foldl (fun broker place =>
      broker.put place [{ origin := origin, message := message }]) broker).queues place).length =
        (broker.queues place).length + places.count place := by
  induction places generalizing broker with
  | nil => rfl
  | cons first places inductionHypothesis =>
      rw [List.foldl_cons, inductionHypothesis, List.count_cons]
      by_cases same : first = place
      · subst same
        simp only [Broker.put, Function.update_self, List.length_append, List.length_singleton,
          beq_self_eq_true, if_true]
        omega
      · simp [Broker.put, Function.update_of_ne (Ne.symm same), same]

/-- A message gets to where its exchange and its routing key send it. -/
theorem count_route (republication : Consumer.Republication) {place : Place}
    (queue : place ≠ .main) :
    (route consumer republication.exchange republication.routingKey).count place =
      if destination consumer republication = place then 1 else 0 := by
  -- no message is one for both
  have different : retryRoutingKey ≠ deadLetterRoutingKey := by decide
  unfold route destination
  simp only [List.filterMap_cons, List.filterMap_nil]
  grind

/-- Another message is in the queue that it has been published to. -/
theorem held_republish {republication : Consumer.Republication} {broker : Broker}
    (published : before.broker.republish consumer process republication = some broker)
    {place : Place} (queue : place ≠ .main) :
    (broker.queues place).length =
      held before place + if destination consumer republication = place then 1 else 0 := by
  obtain ⟨letter, -, rfl⟩ := Option.map_eq_some_iff.mp published
  rw [length_foldl_put, count_route republication queue, held]

/-- A statement of the session that a process has open. -/
theorem booked_statement {statement : Statement} {choice : Choice}
    {answer : Except PyError (Reply statement)} {store : World}
    (performed : server.perform process statement choice before.store = some (answer, store)) :
    Booked roles
      (tally (shows consumer (roles process) ⟨.act (.statement statement), answer⟩).toList)
      before { before with store := store } := by
  have effect : Relay.Performed server process ⟨.statement statement, answer⟩ before.store store :=
    Relay.performed performed
  by_cases commits : Relay.commits ⟨.statement statement, answer⟩ = true
  · cases statement with
    | commit =>
        cases answer with
        | error error => cases commits
        | ok reply =>
            have grown : transactions roles { before with store := store } =
                transactions roles before + if delivers (roles process) then 1 else 0 := by
              rw [transactions, effect.wal, if_pos commits, List.countP_append,
                List.countP_singleton, transactions]
            have told : (shows consumer (roles process)
                ⟨.act (.statement .commit), .ok reply⟩).toList =
                  if delivers (roles process) then [.committed] else [] := by
              cases mine : delivers (roles process) <;> simp [shows, mine]
            rw [told]
            constructor
            · rw [grown]
              cases delivers (roles process) <;> rfl
            · intro place queue
              cases delivers (roles process) <;> cases place <;> exact Nat.le_refl _
            · intro place queue
              cases delivers (roles process) <;> cases place <;> exact Nat.le_refl _
    | _ => cases commits
  · have wal : store.wal = before.store.wal := by
      rw [effect.wal, if_neg commits]
    have unseen : shows consumer (roles process) ⟨.act (.statement statement), answer⟩ = none := by
      cases statement with
      | commit =>
          cases answer with
          | error error => rfl
          | ok reply => exact absurd rfl commits
      | _ => rfl
    rw [unseen]
    exact .still wal (fun _ _ => rfl) rfl (fun _ => rfl) rfl

/-- A publication that has reached its queue, whether it returns or raises. -/
theorem booked_republish {republication : Consumer.Republication} {broker : Broker}
    {event : Event}
    (published : before.broker.republish consumer process republication = some broker)
    (store : after.store = before.store) (queues : after.broker.queues = broker.queues)
    (shown : event = .published (destination consumer republication) ∨
      event = .refused (destination consumer republication)) :
    Booked roles (tally [event]) before after := by
  have longer : ∀ place, place ≠ .main → held after place =
      held before place + if destination consumer republication = place then 1 else 0 := by
    intro place queue
    rw [held, queues]
    exact held_republish published queue
  have stays : ∀ place, left (tally [event]) place = 0 := by
    intro place
    rcases shown with rfl | rfl <;> cases place <;> rfl
  have told : ∀ place, tally [event] (.published place) + tally [event] (.refused place) =
      if destination consumer republication = place then 1 else 0 := by
    intro place
    rcases shown with rfl | rfl <;> simp [tally, List.count_singleton]
  constructor
  · have nothing : tally [event] .committed = 0 := by
      rcases shown with rfl | rfl <;> rfl
    rw [transactions, transactions, store, nothing, Nat.add_zero]
  · intro place queue
    rw [longer place queue, stays, ← told place]
    omega
  · intro place queue
    rw [longer place queue, stays, ← told place]
    omega

/-- A message whose time in the retry queue is over. -/
theorem booked_expire {index : Nat} {properties : BasicProperties} {broker : Broker}
    (expired : before.broker.expire index properties = some broker) :
    Booked roles (tally [.expired]) before { before with broker := broker } := by
  obtain ⟨letter, present, moved⟩ := Option.map_eq_some_iff.mp expired
  have within : index < (before.broker.queues .retry).length :=
    (List.getElem?_eq_some_iff.mp present).1
  have taken : broker.queues .retry = (before.broker.queues .retry).eraseIdx index := by
    rw [← moved]
    rfl
  have shorter : (broker.queues .retry).length + 1 = (before.broker.queues .retry).length := by
    rw [taken, List.length_eraseIdx_add_one within]
  have same : broker.queues .deadLetter = before.broker.queues .deadLetter := by
    rw [← moved]
    rfl
  have balanced : ∀ place, place ≠ .main →
      (broker.queues place).length + left (tally [.expired]) place =
        (before.broker.queues place).length := by
    intro place queue
    cases place with
    | main => exact absurd rfl queue
    | retry => exact shorter
    | deadLetter => exact congrArg List.length same
  constructor
  · rfl
  · intro place queue
    exact (balanced place queue).ge
  · intro place queue
    exact (balanced place queue).le

/-- Spec lemma: what an operation does is what it shows. -/
theorem booked_perform {operation : Operation} {resolution : Resolution}
    {answer : Except PyError operation.Reply}
    (acted : Deployment.perform server consumer process operation resolution before =
      some (answer, after)) :
    Booked roles (tally (shows consumer (roles process) ⟨.act operation, answer⟩).toList) before
      after := by
  cases operation with
  | statement statement =>
      cases resolution with
      | statement choice =>
          obtain ⟨⟨reply, store⟩, performed, same⟩ := Option.map_eq_some_iff.mp acted
          cases same
          exact booked_statement performed
      | _ => cases acted
  | nextDelivery =>
      cases resolution with
      | delivers index deliveryTag =>
          obtain ⟨⟨delivery, broker⟩, delivered, same⟩ := Option.map_eq_some_iff.mp acted
          cases same
          obtain ⟨letter, -, same⟩ := Option.map_eq_some_iff.mp delivered
          cases same
          refine .still rfl ?_ rfl (fun _ => rfl) rfl
          intro place queue
          simp [held, Broker.take, Broker.note, Function.update_of_ne queue]
      | _ => cases acted
  | called correlationId event =>
      cases resolution with
      | returns =>
          cases acted
          exact .still rfl (fun _ _ => rfl) rfl (fun _ => rfl) rfl
      | _ => cases acted
  | returned =>
      cases resolution with
      | returns =>
          cases acted
          exact .still rfl (fun _ _ => rfl) rfl (fun _ => rfl) rfl
      | _ => cases acted
  | basicPublish republication =>
      cases resolution with
      | returns =>
          obtain ⟨broker, published, same⟩ := Option.map_eq_some_iff.mp acted
          cases same
          exact booked_republish published rfl rfl (.inl rfl)
      | raises error effective =>
          cases effective with
          | true =>
              obtain ⟨broker, published, same⟩ := Option.map_eq_some_iff.mp acted
              cases same
              exact booked_republish published rfl rfl (.inr rfl)
          | false =>
              cases acted
              exact .still rfl (fun _ _ => rfl) rfl (fun _ => rfl) rfl
      | _ => cases acted
  | basicAck deliveryTag =>
      cases resolution with
      | returns =>
          cases acted
          exact .still rfl (fun _ _ => rfl) rfl (fun _ => rfl) rfl
      | raises error effective =>
          cases acted
          refine .still rfl ?_ rfl (fun _ => rfl) rfl
          intro place queue
          cases effective <;> rfl
      | _ => cases acted
  | now =>
      cases resolution with
      | time value =>
          cases acted
          exact .still rfl (fun _ _ => rfl) rfl (fun _ => rfl) rfl
      | _ => cases acted
  | uuid4 =>
      cases resolution with
      | uuid id =>
          cases acted
          exact .still rfl (fun _ _ => rfl) rfl (fun _ => rfl) rfl
      | _ => cases acted
  | send message =>
      cases resolution with
      | returns =>
          cases acted
          refine .still rfl ?_ rfl (fun _ => rfl) rfl
          intro place queue
          simp [held, Broker.enter, Broker.put, Function.update_of_ne queue]
      | _ => cases acted
  | expire =>
      cases resolution with
      | expires index properties =>
          obtain ⟨broker, expired, same⟩ := Option.map_eq_some_iff.mp acted
          cases same
          exact booked_expire expired
      | _ => cases acted

/-- A process that is killed takes nothing along. -/
theorem booked_crash : Booked roles 0 before (Deployment.crash process before) := by
  refine .still ?_ ?_ rfl (fun _ => rfl) rfl
  · rfl
  · intro place queue
    simp [held, Deployment.crash, Broker.requeue, Broker.put, Function.update_of_ne queue]

end Step

/-! ## Runs -/

section Runs

variable {server : Server} {consumer : RabbitMQShipmentEventConsumer} {decoders : Decoders}
  {roles : ProcessId → Role} {world : Deployment} {state : MeteringState}

/-- How often each event has occurred in any process. -/
def numbers (consumer : RabbitMQShipmentEventConsumer) (roles : ProcessId → Role) (log : Log) :
    Event → Nat :=
  tally (log.told fun process => shows consumer (roles process))

/-- Run lemma: the world is what the events say. -/
theorem metering_booked
    (reached : (metering server consumer decoders roles).Reachable { world := world } state) :
    Booked roles (numbers consumer roles state.world.log) world state.world.world := by
  obtain ⟨actions, ran⟩ := reached
  refine (metering server consumer decoders roles).run_induction
    (motive := fun state =>
      Booked roles (numbers consumer roles state.world.log) world state.world.world) ?_ ?_ ran
  · intro action state next booked stepped
    have snoc : ∀ (process : ProcessId) (entry : LogEntry),
        numbers consumer roles (state.world.log ++ [(process, entry)]) =
          numbers consumer roles state.world.log +
            tally (entry.exchange.bind (shows consumer (roles process))).toList := by
      intro process entry
      funext event
      rw [numbers, Interaction.Journal.told_snoc, Pi.add_apply, tally, List.count_append]
      rfl
    rcases (metering server consumer decoders roles).step_cases stepped with
      ⟨process, choice, operation, resume, answer, after, rfl, found, acted, rfl⟩ |
        ⟨process, program, rfl, found, rfl⟩
    -- an operation, a signal, or a crash
    · obtain ⟨-, acts, logged⟩ := Interaction.System.recorded_act acted
      rw [logged, snoc]
      apply booked.trans
      cases operation with
      | act operation =>
          obtain ⟨chosen, performed⟩ := Interaction.System.signalled_act acts
          exact booked_perform performed
      | signal signal =>
          obtain ⟨-, same⟩ := Interaction.System.signalled_signal acts
          rw [same]
          cases signal <;> exact .still rfl (fun _ _ => rfl) rfl (fun _ => rfl) rfl
    · show Booked roles (numbers consumer roles
        (state.world.log ++ [(process, { stamp := (), exchange := none })])) _ _
      rw [snoc]
      exact booked.trans booked_crash
  · exact .still rfl (fun _ _ => rfl) rfl (fun _ => rfl) rfl

/-- Deliveries that have begun and have not come to their end: they are still running, or their
worker has been killed. -/
def underway (numbers : Event → Nat) : Nat := numbers .delivered - numbers .finished

/-- What the counters of the ingestion say about the store and the queues: nothing that they
count has not happened, and what has happened without being counted belongs to deliveries that
are underway or to publications that have raised. -/
structure Ledger (roles : ProcessId → Role) (numbers : Event → Nat)
    (before after : Deployment) : Prop where
  finished : numbers .finished ≤ numbers .delivered
  committedLeast : transactions roles before + numbers (.counted .committed) ≤
    transactions roles after
  committedMost : transactions roles after ≤
    transactions roles before + numbers (.counted .committed) + underway numbers
  retried : held before .retry + numbers (.counted .retryPublishReturned) ≤
    held after .retry + numbers .expired
  deadLettered : held before .deadLetter + numbers (.counted .dlqPublishReturned) ≤
    held after .deadLetter
  republished : held after .retry + numbers .expired + held after .deadLetter ≤
    held before .retry + held before .deadLetter + numbers (.counted .retryPublishReturned) +
      numbers (.counted .dlqPublishReturned) + numbers (.counted .republishFailed) +
      underway numbers
  failed : numbers (.counted .retryPublishReturned) + numbers (.counted .dlqPublishReturned) +
    numbers (.counted .republishFailed) ≤ numbers (.counted .processingFailed)
  settled : numbers (.counted .retryPublishReturned) + numbers (.counted .dlqPublishReturned) +
      numbers .finished ≤
    numbers (.counted .acked) + numbers (.counted .ackFailed) +
      numbers (.counted .processingFailed)
  settledOnce : numbers (.counted .acked) + numbers (.counted .ackFailed) +
      numbers (.counted .processingFailed) ≤
    numbers .delivered + numbers (.counted .retryPublishReturned) +
      numbers (.counted .dlqPublishReturned)

/-- What a process has shown. -/
def seen (consumer : RabbitMQShipmentEventConsumer) (roles : ProcessId → Role) (log : Log)
    (process : ProcessId) : List Event :=
  story (shows consumer (roles process)) (log.exchangesOf process)

/-- Deliveries that have begun have come to their end. -/
def AtRest (numbers : Event → Nat) : Prop := numbers .delivered = numbers .finished

instance (numbers : Event → Nat) : Decidable (AtRest numbers) :=
  inferInstanceAs (Decidable (_ = _))

/-- A process whose delivery, if it is one, has not begun or has come to its end. -/
theorem atRest_of_settled {role : Role} {told : List Event} (begins : Begins (courses role) told)
    (settled : role = .delivery → told = [] ∨ told ∈ courses role) :
    AtRest (tally told) := by
  have idle : ∀ course ∈ [([] : List Event)], ∀ early ∈ course.inits, AtRest (tally early) := by
    decide
  cases role with
  | delivery =>
      have whole : ∀ course ∈ deliveries, AtRest (tally course) := by decide
      rcases settled rfl with rfl | member
      · rfl
      · exact whole told member
  | timer =>
      have expires : ∀ course ∈ courses .timer, ∀ early ∈ course.inits,
          AtRest (tally early) := by decide
      exact begins.all expires
  | producer message => exact begins.all idle
  | request other => exact begins.all idle

/-- The metrics change nothing.  Whatever happens, save that a `COMMIT` that raises has not taken
effect, what every process shows is the beginning of one of its courses, a whole one once it has
come to its end; the counters of all deliveries together agree with the store and the queues up
to the deliveries that are underway; and none is underway where every delivery that has begun
has come to its end. -/
theorem ingestion_ledger (server : Server) (consumer : RabbitMQShipmentEventConsumer)
    (decoders : Decoders) (roles : ProcessId → Role) (world : Deployment) :
    (∀ reached, (Freight.ingestion server consumer decoders roles).Reachable world reached ↔
      ∃ state : MeteringState,
        (metering server consumer decoders roles).Reachable { world := world } state ∧
          reached = state.plain) ∧
    ∀ state : MeteringState,
      (metering server consumer decoders roles).Reachable { world := world } state →
        (∀ process,
          Begins (courses (roles process)) (seen consumer roles state.world.log process) ∧
            ∀ result, state.processes process = some (.done result) →
              seen consumer roles state.world.log process ∈ courses (roles process)) ∧
        Ledger roles (numbers consumer roles state.world.log) world state.world.world ∧
        ((∀ process, roles process = .delivery →
            seen consumer roles state.world.log process = [] ∨
              ∃ result, state.processes process = some (.done result)) →
          underway (numbers consumer roles state.world.log) = 0) := by
  refine ⟨fun reached => ingestion_iff_metering, ?_⟩
  intro state reached
  have tells := metering_tells reached
  refine ⟨tells, ?_, ?_⟩
  · have sound : Sound (numbers consumer roles state.world.log) := by
      apply Interaction.Journal.tally_induction .zero (fun _ _ => Sound.add)
      intro process
      exact .of_begins (tells process).1
    have booked := metering_booked reached
    have committed := booked.committed
    have retryLeast := booked.least .retry (by decide)
    have deadLeast := booked.least .deadLetter (by decide)
    have retryMost := booked.most .retry (by decide)
    have deadMost := booked.most .deadLetter (by decide)
    simp only [left] at retryLeast deadLeast retryMost deadMost
    unfold Sound at sound
    exact
      { finished := by omega
        committedLeast := by omega
        committedMost := by
          unfold underway
          omega
        retried := by omega
        deadLettered := by omega
        republished := by
          unfold underway
          omega
        failed := by omega
        settled := by omega
        settledOnce := by omega }
  · intro settled
    have rests : AtRest (numbers consumer roles state.world.log) := by
      refine Interaction.Journal.tally_induction rfl ?_ ?_
      · intro one two first second
        rw [AtRest, first, second]
      · intro process
        apply atRest_of_settled (tells process).1
        intro delivery
        rcases settled process delivery with nothing | ⟨result, ended⟩
        · exact .inl nothing
        · exact .inr ((tells process).2 result ended)
    rw [underway, rests, Nat.sub_self]

end Runs

/-- The first delivery dies with its worker after it has counted its failure, the second one sends
the message to the dead-letter queue. -/
def meteredSchedule : List (Interaction.System.Action (Option Resolution)) :=
  [.perform 0 (some .returns), .perform 1 (some (.delivers 0 7)), .perform 1 (some (.uuid ⟨5⟩)),
    .perform 1 none, .crash 1, .perform 2 (some (.delivers 0 9)), .perform 2 (some (.uuid ⟨6⟩)),
    .perform 2 none, .perform 2 (some (.time (.utc 0))), .perform 2 (some .returns),
    .perform 2 none, .perform 2 (some .returns), .perform 2 none, .perform 2 none]

def lossyConsumer : RabbitMQShipmentEventConsumer := { exchange := "freight.shipment-events" }

def lossyMetering := metering Server.utc lossyConsumer Consumer.strictDecoders lossyRoles

theorem meteredSchedule_runs :
    (lossyMetering.run meteredSchedule (lossyMetering.initial { world := {} })).map (fun state =>
      (state.world.log.told fun process => shows lossyConsumer (lossyRoles process),
        held state.world.world .deadLetter)) =
      some ([.delivered, .counted .processingFailed, .delivered, .counted .processingFailed,
        .published .deadLetter, .counted .dlqPublishReturned, .acknowledged, .counted .acked,
        .finished], 1) := by
  decide +kernel

/-- One of its two deliveries is underway for ever, and the other one is in the books. -/
theorem lossy_ledger :
    ∃ state : MeteringState, lossyMetering.Reachable { world := {} } state ∧
      Ledger lossyRoles (numbers lossyConsumer lossyRoles state.world.log) {} state.world.world ∧
      underway (numbers lossyConsumer lossyRoles state.world.log) = 1 ∧
      numbers lossyConsumer lossyRoles state.world.log (.counted .dlqPublishReturned) = 1 ∧
      held state.world.world .deadLetter = 1 := by
  obtain ⟨state, ran, shown⟩ := Option.map_eq_some_iff.mp meteredSchedule_runs
  have reached : lossyMetering.Reachable { world := {} } state := ⟨meteredSchedule, ran⟩
  obtain ⟨events, queued⟩ := Prod.mk.inj shown
  have kept := ((ingestion_ledger Server.utc _ _ _ {}).2 state reached).2.1
  refine ⟨state, reached, kept, ?_, ?_, queued⟩
  · rw [numbers, events]
    rfl
  · rw [numbers, events]
    rfl

end Freight.Metered
