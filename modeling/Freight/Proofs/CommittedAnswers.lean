/-
Module: Freight.Proofs.CommittedAnswers
Purpose: When a request that has been answered with success is committed: `get_db` commits
  after the answer, so it is unless the commit fails.
Trusted boundary: none
Main exports:
  SuccessAnswer, Committed, CommitRaises, Session.commit_converses, transaction_converses,
  PostRequest, PostRequest.code, PostRequest.converses_of_reachable,
  success_is_committed_iff
-/
import Freight.Application.EntryPoints
import Freight.Interaction.Transcript

namespace Freight

open Interaction (Exchange ProcessId Program)
open Interaction.Computation

/-! ## What a request says -/

/-- A statement of a request, and what came of it. -/
abbrev Said : Type := Exchange Statement fun op => Except PyError (Reply op)

/-- An operation that neither commits nor answers. -/
def Private (statement : Statement) : Prop :=
  statement ≠ .commit ∧ ∀ response, statement ≠ .respond response

/-- The client is told of success. -/
def SuccessAnswer (exchange : Said) : Prop :=
  ∃ response : HttpResponse, exchange = ⟨.respond response, .ok ()⟩ ∧
    200 ≤ response.statusCode ∧ response.statusCode < 300

/-- A `COMMIT` has gone through. -/
def Committed (transcript : List Said) : Prop :=
  (⟨.commit, .ok ()⟩ : Said) ∈ transcript

/-- An operation raises before a `COMMIT` has gone through. -/
def Unfinished : List Said → Prop
  | [] => False
  | exchange :: rest =>
      (∃ error, exchange.2 = .error error) ∨ (exchange.1 ≠ .commit ∧ Unfinished rest)

/-- After a success answer, an operation raises before a `COMMIT` has gone through: one of
those that `db.commit()` consists of. -/
def CommitRaises : List Said → Prop
  | [] => False
  | exchange :: rest => (SuccessAnswer exchange ∧ Unfinished rest) ∨ CommitRaises rest

/-- The test of `SuccessAnswer`. -/
def isSuccessAnswer : Said → Bool
  | ⟨.respond response, .ok _⟩ =>
      decide (200 ≤ response.statusCode ∧ response.statusCode < 300)
  | _ => false

theorem isSuccessAnswer_iff {exchange : Said} :
    isSuccessAnswer exchange = true ↔ SuccessAnswer exchange := by
  constructor
  · intro success
    unfold isSuccessAnswer at success
    split at success
    · exact ⟨_, rfl, of_decide_eq_true success⟩
    · cases success
  · intro answered
    obtain ⟨response, rfl, success⟩ := answered
    exact decide_eq_true success

instance : DecidablePred SuccessAnswer :=
  fun _ => decidable_of_iff _ isSuccessAnswer_iff

/-- The test of an exchange by which a transcript is `Committed`. -/
def isCommit : Said → Bool
  | ⟨.commit, .ok _⟩ => true
  | _ => false

theorem any_isCommit_iff {transcript : List Said} :
    transcript.any isCommit = true ↔ Committed transcript := by
  rw [List.any_eq_true]
  constructor
  · intro committed
    obtain ⟨exchange, member, commit⟩ := committed
    unfold isCommit at commit
    split at commit
    · exact member
    · cases commit
  · exact fun member => ⟨_, member, rfl⟩

instance : DecidablePred Committed := fun _ => decidable_of_iff _ any_isCommit_iff

instance decidableRaised (exchange : Said) : Decidable (∃ error, exchange.2 = .error error) :=
  match exchange with
  | ⟨_, .ok _⟩ => isFalse (by intro raised; obtain ⟨_, same⟩ := raised; cases same)
  | ⟨_, .error error⟩ => isTrue ⟨error, rfl⟩

instance decidableUnfinished : DecidablePred Unfinished
  | [] => inferInstanceAs (Decidable False)
  | exchange :: rest =>
      have := decidableUnfinished rest
      inferInstanceAs (Decidable ((∃ error, exchange.2 = .error error) ∨
        (exchange.1 ≠ .commit ∧ Unfinished rest)))

instance decidableCommitRaises : DecidablePred CommitRaises
  | [] => inferInstanceAs (Decidable False)
  | exchange :: rest =>
      have := decidableCommitRaises rest
      inferInstanceAs (Decidable ((SuccessAnswer exchange ∧ Unfinished rest) ∨
        CommitRaises rest))

theorem commitRaises_append {first second : List Said}
    (unanswered : ∀ exchange ∈ first, ¬ SuccessAnswer exchange) :
    CommitRaises (first ++ second) ↔ CommitRaises second := by
  induction first with
  | nil => exact Iff.rfl
  | cons exchange rest inductionHypothesis =>
      obtain ⟨head, tail⟩ := List.forall_mem_cons.mp unanswered
      simp only [List.cons_append, CommitRaises, head, false_and, false_or,
        inductionHypothesis tail]

theorem not_commitRaises {transcript : List Said}
    (unanswered : ∀ exchange ∈ transcript, ¬ SuccessAnswer exchange) :
    ¬ CommitRaises transcript := by
  have nothing : CommitRaises (transcript ++ []) ↔ CommitRaises [] :=
    commitRaises_append unanswered
  rw [List.append_nil] at nothing
  exact nothing.mp

/-- What goes through decides nothing. -/
theorem unfinished_append {first second : List Said}
    (succeeded : ∀ exchange ∈ first, Succeeded exchange)
    (uncommitted : ∀ exchange ∈ first, exchange.1 ≠ .commit) :
    Unfinished (first ++ second) ↔ Unfinished second := by
  induction first with
  | nil => exact Iff.rfl
  | cons exchange rest inductionHypothesis =>
      obtain ⟨⟨reply, ok⟩, succeeded⟩ := List.forall_mem_cons.mp succeeded
      obtain ⟨other, uncommitted⟩ := List.forall_mem_cons.mp uncommitted
      simp only [List.cons_append, Unfinished, ok, reduceCtorEq, exists_false, false_or, ne_eq,
        other, not_false_eq_true, true_and, inductionHypothesis succeeded uncommitted]

theorem not_unfinished_cons {exchange : Said} {rest : List Said}
    (committed : exchange = ⟨.commit, .ok ()⟩) : ¬ Unfinished (exchange :: rest) := by
  subst committed
  simp [Unfinished]

namespace Session

theorem flushNewShipments_straight : Straight Private flushNewShipments := by
  refine .bind .read fun _ => .bind (.forEach (fun row => .call ?_) _) fun _ => .modify _
  simp [Private]

theorem flushNewEvents_straight : Straight Private flushNewEvents := by
  refine .bind .read fun _ => .bind (.forEach (fun row => .call ?_) _) fun _ => .modify _
  simp [Private]

theorem flush_straight : Straight Private flush := by
  have outboxEvents : Straight Private flushNewOutboxEvents := by
    refine .bind .read fun _ => .bind (.forEach (fun row => .call ?_) _) fun _ => .modify _
    simp [Private]
  have changedOutbox : ∀ tracked, Straight Private (updateOutbox tracked) := by
    intro tracked
    unfold updateOutbox
    split
    · exact .pure ()
    · exact .ite (.pure ()) (.call (by simp [Private]))
  have changedShipment : ∀ tracked, Straight Private (updateShipment tracked) := by
    intro tracked
    unfold updateShipment
    split
    · exact .pure ()
    · exact .ite (.pure ()) (.call (by simp [Private]))
  exact .bind .read fun _ => .bind (.forEach changedOutbox _) fun _ =>
    .bind outboxEvents fun _ => .bind (.forEach changedShipment _) fun _ =>
      .bind flushNewShipments_straight fun _ => .bind flushNewEvents_straight fun _ => .modify _

/-- `db.commit()`: it flushes and commits, or it raises on the way. -/
theorem commit_converses {session last : Session} {transcript : List Said}
    {outcome : Except PyError Unit}
    (conversed : (commit session).Converses transcript (outcome, last)) :
    (∃ flushed, outcome = .ok () ∧ transcript = flushed ++ [⟨.commit, .ok ()⟩] ∧
        (∀ exchange ∈ flushed, Succeeded exchange) ∧
        ∀ exchange ∈ flushed, Private exchange.1) ∨
      ∃ earlier statement error, outcome = .error error ∧
        transcript = earlier ++ [⟨statement, .error error⟩] ∧
        (∀ exchange ∈ earlier, Succeeded exchange) ∧
        ∀ exchange ∈ earlier, Private exchange.1 := by
  rcases converses_bind conversed with
    ⟨_, middle, flushed, ended, rfl, started, committed⟩ | ⟨error, failed, started⟩
  · obtain ⟨_, _, succeeded⟩ | ⟨_, _, _, same, -⟩ := flush_straight.propagates started
    · have confined := (flush_straight.confined session).exchanges started
      obtain ⟨answer, rest, rfl, ended⟩ := Program.converses_perform_iff.mp committed
      obtain ⟨rfl, same⟩ := Program.converses_done_iff.mp ended
      cases same
      cases outcome with
      | ok _ => exact .inl ⟨flushed, rfl, rfl, succeeded, confined⟩
      | error error => exact .inr ⟨flushed, .commit, error, rfl, rfl, succeeded, confined⟩
    · cases same
  · cases failed
    rcases flush_straight.propagates started with
      ⟨_, same, -⟩ | ⟨earlier, statement, _, same, rfl, succeeded⟩
    · cases same
    · cases same
      have confined := (flush_straight.confined session).exchanges started
      exact .inr ⟨earlier, statement, _, rfl, rfl, succeeded, fun exchange member =>
        confined exchange (List.mem_append_left _ member)⟩

end Session

theorem Private.not_successAnswer {exchange : Said} (kept : Private exchange.1) :
    ¬ SuccessAnswer exchange := by
  intro answered
  obtain ⟨response, rfl, -⟩ := answered
  exact kept.2 response rfl

theorem Private.not_committed {exchange : Said} (kept : Private exchange.1) :
    exchange ≠ ⟨.commit, .ok ()⟩ := by
  intro committed
  subst committed
  exact kept.1 rfl

/-- `db.commit()`, and whatever else a request says that neither commits nor answers. -/
theorem commit_aftermath {session last : Session} {transcript tail : List Said}
    {outcome : Except PyError Unit}
    (conversed : (Session.commit session).Converses transcript (outcome, last))
    (kept : ∀ exchange ∈ tail, Private exchange.1) :
    (∀ exchange ∈ transcript ++ tail, ¬ SuccessAnswer exchange) ∧
      (Committed (transcript ++ tail) ↔ ¬ Unfinished (transcript ++ tail)) := by
  rcases Session.commit_converses conversed with
    ⟨flushed, -, rfl, succeeded, confined⟩ | ⟨earlier, statement, error, -, rfl, succeeded,
      confined⟩
  · constructor
    · intro exchange member
      rcases List.mem_append.mp member with before | after
      · rcases List.mem_append.mp before with early | commit
        · exact (confined exchange early).not_successAnswer
        · cases List.mem_singleton.mp commit
          intro answered
          obtain ⟨response, same, -⟩ := answered
          cases same
      · exact (kept exchange after).not_successAnswer
    · rw [List.append_assoc, unfinished_append succeeded fun exchange member =>
        (confined exchange member).1]
      have finished : ¬ Unfinished ((⟨.commit, .ok ()⟩ : Said) :: tail) :=
        not_unfinished_cons rfl
      refine iff_of_true ?_ finished
      simp [Committed]
  · constructor
    · intro exchange member
      rcases List.mem_append.mp member with before | after
      · rcases List.mem_append.mp before with early | failed
        · exact (confined exchange early).not_successAnswer
        · cases List.mem_singleton.mp failed
          intro answered
          obtain ⟨response, same, -⟩ := answered
          cases same
      · exact (kept exchange after).not_successAnswer
    · rw [List.append_assoc, unfinished_append succeeded fun exchange member =>
        (confined exchange member).1]
      refine iff_of_false ?_ (fun finished => finished (.inl ⟨error, rfl⟩))
      intro committed
      rcases List.mem_append.mp committed with early | later
      · exact (confined _ early).not_committed rfl
      · rcases List.mem_cons.mp later with failed | after
        · cases failed
        · exact (kept _ after).not_committed rfl

/-- What `get_db` and `handle_event` say around their body: no answer, and, once the body has
returned, a `COMMIT` unless an operation raises before it. -/
theorem transaction_converses {α : Type} {body : Py α} {session last : Session}
    {transcript : List Said} {outcome : Except PyError α}
    (conversed : (transaction body session).Converses transcript (outcome, last)) :
    ∃ spoken rest result middle, transcript = spoken ++ rest ∧
      (body session).Converses spoken (result, middle) ∧
      (∀ exchange ∈ rest, ¬ SuccessAnswer exchange) ∧
      ∀ value, result = .ok value → (Committed rest ↔ ¬ Unfinished rest) := by
  have rollback : Confined Private Session.rollback :=
    (confined_call (by simp [Private])).bind fun _ => confined_modify
  have close : Confined Private Session.close := confined_call (by simp [Private])
  have handled : ∀ error : PyError, Confined Private
      (do
        Session.rollback
        call .observe
        raise error : Py α) := fun error =>
    rollback.bind fun _ => (confined_call (by simp [Private])).bind fun _ => confined_raise
  obtain ⟨inside, ⟨reached, stopped⟩, closing, rfl, tried, closed⟩ :=
    Program.converses_bind_iff.mp conversed
  have quietClosing : ∀ exchange ∈ closing, Private exchange.1 := by
    obtain ⟨one, ⟨cleaned, left⟩, two, rfl, closes, ended⟩ :=
      Program.converses_bind_iff.mp closed
    have nothing : two = [] := by
      cases cleaned with
      | ok _ => exact (Program.converses_done_iff.mp ended).1
      | error _ => exact (Program.converses_done_iff.mp ended).1
    rw [nothing, List.append_nil]
    exact (close stopped).exchanges closes
  obtain ⟨worked, ⟨result, middle⟩, handling, rfl, works, handles⟩ :=
    Program.converses_bind_iff.mp tried
  have quietHandling : ∀ exchange ∈ handling, Private exchange.1 := by
    cases result with
    | ok value =>
        rw [(Program.converses_done_iff.mp handles).1]
        simp
    | error error => exact (handled error middle).exchanges handles
  have quiet : ∀ exchange ∈ handling ++ closing, Private exchange.1 := by
    intro exchange member
    rcases List.mem_append.mp member with early | late
    · exact quietHandling exchange early
    · exact quietClosing exchange late
  rcases converses_bind works with
    ⟨value, between, spoken, committing, rfl, spoke, committed⟩ | ⟨error, failed, spoke⟩
  · have kept : ∃ transcript tail committed last, committing = transcript ++ tail ∧
        (Session.commit between).Converses transcript (committed, last) ∧
        ∀ exchange ∈ tail, Private exchange.1 := by
      rcases converses_bind committed with
        ⟨_, left, one, two, rfl, commits, rest⟩ | ⟨error, -, commits⟩
      · refine ⟨one, two, _, _, rfl, commits, ?_⟩
        have observing : Confined Private (do call .observe; pure value : Py α) :=
          (confined_call (by simp [Private])).bind fun _ => confined_pure
        exact (observing left).exchanges rest
      · exact ⟨committing, [], _, _, by simp, commits, by simp⟩
    obtain ⟨committing, tail, _, _, rfl, commits, keptTail⟩ := kept
    have everything : ∀ exchange ∈ tail ++ (handling ++ closing), Private exchange.1 := by
      intro exchange member
      rcases List.mem_append.mp member with early | late
      · exact keptTail exchange early
      · exact quiet exchange late
    obtain ⟨unanswered, decided⟩ := commit_aftermath commits everything
    exact ⟨spoken, committing ++ (tail ++ (handling ++ closing)), .ok value, between, by simp,
      spoke, unanswered, fun _ _ => decided⟩
  · refine ⟨worked, handling ++ closing, .error error, middle, by simp, spoke, ?_, ?_⟩
    · exact fun exchange member => (quiet exchange member).not_successAnswer
    · intro value same
      cases same

/-! ## The two routes -/

section Confinement

theorem scalarShipment_confined (id : UUID) : Confined Private (Session.scalarShipment id) := by
  refine (confined_call (by simp [Private])).bind fun row => ?_
  cases row with
  | none => exact confined_pure
  | some row => exact confined_read.bind fun session => confined_pure

theorem getShipment_confined (id : UUID) : Confined Private (Session.getShipment id) := by
  refine confined_read.bind fun session => ?_
  split
  · exact confined_pure
  · exact scalarShipment_confined id

theorem saveShipment_confined (shipment : Shipment) :
    Confined Private (SQLAlchemyShipmentRepository.save shipment) := by
  refine (confined_call (by simp [Private])).bind fun _ => ?_
  refine (getShipment_confined _).bind fun existing => ?_
  cases existing with
  | none => exact confined_modify
  | some model => exact confined_modify

theorem saveEvent_confined (event : ShipmentEvent) :
    Confined Private (SQLAlchemyShipmentEventRepository.save event) :=
  (confined_call (by simp [Private])).bind fun _ => confined_modify

theorem record_confined (event : ShipmentEvent) (correlationId : Option String) :
    Confined Private (RecordedEventMessage.record event correlationId) :=
  (confined_call (by simp [Private])).bind fun _ => confined_ofExcept

theorem addOutbox_confined (message : RecordedEventMessage) :
    Confined Private (SQLAlchemyOutboxRepository.add message) :=
  Session.flushNewShipments_straight.confined.bind fun _ =>
    Session.flushNewEvents_straight.confined.bind fun _ =>
      (confined_call (by simp [Private])).bind fun _ => confined_modify

theorem CreateShipment.execute_confined (correlationId : Option String)
    (input : CreateShipmentInput) : Confined Private (execute correlationId input) := by
  refine (confined_call (by simp [Private])).bind fun createdAt => ?_
  refine (confined_call (by simp [Private])).bind fun id => ?_
  refine (confined_call (by simp [Private])).bind fun eventId => ?_
  refine (confined_call (by simp [Private])).bind fun receivedAt => ?_
  refine (saveShipment_confined _).bind fun _ => ?_
  refine (saveEvent_confined _).bind fun _ => ?_
  refine (record_confined _ _).bind fun message => ?_
  exact (addOutbox_confined message).bind fun _ => confined_pure

theorem getRepository_confined (id : UUID) :
    Confined Private (SQLAlchemyShipmentRepository.get id) :=
  (scalarShipment_confined id).bind fun _ => confined_pure

theorem ReceiveShipmentEvent.execute_confined (correlationId : Option String)
    (event : ShipmentEvent) : Confined Private (execute correlationId event) := by
  unfold execute
  split
  · exact confined_raise
  refine (getRepository_confined _).bind fun found => ?_
  cases found with
  | none => exact confined_raise
  | some shipment =>
      have checks : Confined Private (SQLAlchemyShipmentEventRepository.exists event.eventId) :=
        (confined_call (by simp [Private])).bind fun _ => confined_pure
      refine checks.bind fun known => ?_
      cases known with
      | true => exact confined_pure
      | false =>
          refine confined_ofExcept.bind fun status => ?_
          refine (saveEvent_confined _).bind fun _ => ?_
          refine (saveShipment_confined _).bind fun _ => ?_
          refine (record_confined _ _).bind fun message => ?_
          exact (addOutbox_confined message).bind fun _ => confined_pure

theorem recoverEvent_confined (event : ShipmentEvent) (error : PyError) :
    Confined Private (recoverEvent event error) := by
  cases error with
  | integrityError constraintName text =>
      have rolls : Confined Private Session.rollback :=
        (confined_call (by simp [Private])).bind fun _ => confined_modify
      refine rolls.bind fun _ => ?_
      split
      · refine (getRepository_confined _).bind fun current => ?_
        cases current with
        | none => exact confined_raise
        | some shipment => exact confined_pure
      · exact confined_raise
  | _ => exact confined_raise

end Confinement

/-- The end of both routes: the work of the endpoint, and the answer. -/
def answering (statusCode : Nat) (work : Py Shipment) : Py Shipment := do
  let shipment ← work
  call (.respond { statusCode, shipment := some shipment })
  pure shipment

/-- The answer is the last that an endpoint says, and it gives none when it raises. -/
theorem answering_converses {statusCode : Nat} {work : Py Shipment}
    (success : 200 ≤ statusCode ∧ statusCode < 300) (quiet : Confined Private work)
    {session last : Session} {transcript : List Said} {outcome : Except PyError Shipment}
    (conversed : (answering statusCode work session).Converses transcript (outcome, last)) :
    (∃ error, outcome = .error error ∧ ∀ exchange ∈ transcript, ¬ SuccessAnswer exchange) ∨
      ∃ shipment before answer, outcome = .ok shipment ∧ transcript = before ++ [answer] ∧
        SuccessAnswer answer ∧ ∀ exchange ∈ before, Private exchange.1 := by
  rcases converses_bind conversed with
    ⟨shipment, middle, before, ended, rfl, worked, answers⟩ | ⟨error, failed, worked⟩
  · have kept := (quiet session).exchanges worked
    obtain ⟨answer, rest, rfl, ends⟩ := Program.converses_perform_iff.mp answers
    cases answer with
    | ok _ =>
        obtain ⟨rfl, same⟩ := Program.converses_done_iff.mp ends
        cases same
        exact .inr ⟨shipment, before, _, rfl, rfl, ⟨_, rfl, success⟩, kept⟩
    | error error =>
        obtain ⟨rfl, same⟩ := Program.converses_done_iff.mp ends
        cases same
        refine .inl ⟨error, rfl, ?_⟩
        intro exchange member
        rcases List.mem_append.mp member with early | unsent
        · exact (kept exchange early).not_successAnswer
        · cases List.mem_singleton.mp unsent
          intro answered
          obtain ⟨_, same, -⟩ := answered
          cases same
  · have kept := (quiet session).exchanges worked
    exact .inl ⟨error, failed, fun exchange member => (kept exchange member).not_successAnswer⟩

/-- `POST /shipments` or `POST /events`. -/
inductive PostRequest where
  | shipments (correlationId : Option String) (input : CreateShipmentInput)
  | events (correlationId : Option String) (request : ShipmentEventRequest)
deriving DecidableEq, Repr

/-- The code of a route, under `get_db`. -/
def PostRequest.code : PostRequest → Py Shipment
  | .shipments correlationId input => createShipment correlationId input
  | .events correlationId request => receiveEvent correlationId request

/-- The process that serves it. -/
def PostRequest.request : PostRequest → Request
  | .shipments correlationId input => .createShipment correlationId input
  | .events correlationId request => .receiveEvent correlationId request

/-- A process of the platform that has served a request has had such a conversation, whatever
the others did meanwhile. -/
theorem PostRequest.converses_of_reachable {server : Server} {requests : ProcessId → Request}
    {world : World} {state : PlatformState}
    (reached : (platform server requests).Reachable world state) {process : ProcessId}
    {post : PostRequest} (posted : requests process = post.request)
    {value : Except PyError Unit × Session}
    (ended : state.processes process = some (.done value)) :
    ∃ transcript outcome, (post.code {}).Converses transcript outcome := by
  obtain ⟨transcript, conversed⟩ := Interaction.System.converses_of_reachable reached ended
  have program : (platform server requests).program process =
      (do let _ ← post.code : Py Unit) {} := by
    change (requests process).program = _
    rw [posted]
    cases post <;> rfl
  rw [program] at conversed
  obtain ⟨spoken, outcome, -, -, served, -⟩ := Program.converses_bind_iff.mp conversed
  exact ⟨spoken, outcome, served⟩

/-- Each route does work of its own, answers with success, and leaves the rest to `get_db`. -/
theorem PostRequest.code_eq (request : PostRequest) :
    ∃ statusCode work, request.code = transaction (answering statusCode work) ∧
      (200 ≤ statusCode ∧ statusCode < 300) ∧ Confined Private work := by
  cases request with
  | shipments correlationId input =>
      exact ⟨201, CreateShipment.execute correlationId input, rfl, by decide,
        CreateShipment.execute_confined correlationId input⟩
  | events correlationId request =>
      refine ⟨200, (do
        let receivedAt : DateTime ← call .now
        let event := request.event receivedAt
        tryExcept (recordEvent correlationId event) (recoverEvent event)), ?_, by decide, ?_⟩
      · refine congrArg transaction (funext fun session => ?_)
        refine congrArg (Program.perform Statement.now) (funext fun answer => ?_)
        cases answer <;> rfl
      · refine (confined_call (by simp [Private])).bind fun receivedAt => ?_
        refine Confined.tryExcept ?_ fun error => recoverEvent_confined _ error
        exact (ReceiveShipmentEvent.execute_confined _ _).bind fun shipment =>
          Session.flush_straight.confined.bind fun _ => confined_pure

/-! ## The answer and the commit -/

/-- Whatever the database, the clock and the client answer, a request that has answered with
success is committed, if and only if nothing that `db.commit()` consists of raises after
the answer. -/
theorem success_is_committed_iff (request : PostRequest) (transcript : List Said)
    (outcome : Except PyError Shipment × Session)
    (conversed : (request.code {}).Converses transcript outcome) :
    ((∃ exchange ∈ transcript, SuccessAnswer exchange) → Committed transcript) ↔
      ¬ CommitRaises transcript := by
  obtain ⟨statusCode, work, code, success, quiet⟩ := request.code_eq
  rw [code] at conversed
  obtain ⟨spoken, rest, result, middle, rfl, works, unanswered, decided⟩ :=
    transaction_converses conversed
  rcases answering_converses success quiet works with
    ⟨error, -, silent⟩ | ⟨shipment, before, answer, returned, rfl, answered, kept⟩
  · have none : ∀ exchange ∈ spoken ++ rest, ¬ SuccessAnswer exchange := by
      intro exchange member
      rcases List.mem_append.mp member with early | late
      · exact silent exchange early
      · exact unanswered exchange late
    refine iff_of_true ?_ (not_commitRaises none)
    intro some
    obtain ⟨exchange, member, success⟩ := some
    exact absurd success (none exchange member)
  · have committed : Committed ((before ++ [answer]) ++ rest) ↔ Committed rest := by
      constructor
      · intro member
        rcases List.mem_append.mp member with early | late
        · rcases List.mem_append.mp early with earlier | last
          · exact absurd rfl (kept _ earlier).not_committed
          · obtain ⟨_, same, -⟩ := answered
            cases (List.mem_singleton.mp last).trans same
        · exact late
      · exact fun member => List.mem_append_right _ member
    have raises : CommitRaises ((before ++ [answer]) ++ rest) ↔ Unfinished rest := by
      rw [List.append_assoc, commitRaises_append fun exchange member =>
        (kept exchange member).not_successAnswer]
      simp only [List.singleton_append, CommitRaises, answered, true_and,
        not_commitRaises unanswered, or_false]
    rw [committed, raises, ← decided shipment returned]
    constructor
    · exact fun claim => claim ⟨answer, by simp, answered⟩
    · exact fun done _ => done

/-! ## A commit that fails -/

/-- An environment in which everything goes through, but for the `COMMIT` perhaps. -/
def answers (commit : Except PyError Unit) (time : Nat) :
    (statement : Statement) → Except PyError (Reply statement)
  | .selectShipment _ => .ok none
  | .selectEventId _ => .ok none
  | .claimOutbox _ => .ok none
  | .uuid4 => .ok ⟨BitVec.ofNat 128 time⟩
  | .now => .ok (.utc time)
  | .commit => commit
  | .insertShipment _ | .insertEvent _ | .insertOutbox _ | .updateShipment _ _
  | .updateOutbox _ _ | .rollback | .observe | .publish _ | .respond _ => .ok ()

/-- The creation of a shipment. -/
def creation : PostRequest :=
  .shipments none
    { referenceNumber := "FRT-1", origin := "Porto", destination := "Lyon",
      carrier := "carrier" }

/-- What the creation and such an environment say. -/
def creationTranscript (commit : Except PyError Unit) : List Said :=
  (Program.transcribe (answers commit) 0 (creation.code {})).1

/-- A creation whose `COMMIT` goes through has been answered, and is committed. -/
theorem creation_committed :
    ∃ transcript outcome, (creation.code {}).Converses transcript outcome ∧
      (∃ exchange ∈ transcript, SuccessAnswer exchange) ∧ Committed transcript := by
  have answered : ∃ exchange ∈ creationTranscript (.ok ()), SuccessAnswer exchange := by
    decide +kernel
  have uneventful : ¬ CommitRaises (creationTranscript (.ok ())) := by
    decide +kernel
  have conversed := Program.converses_transcribe (answers (.ok ())) (creation.code {}) 0
  exact ⟨_, _, conversed, answered,
    (success_is_committed_iff creation _ _ conversed).mpr uneventful answered⟩

/-- A creation whose `COMMIT` fails has been answered with 201, and is not committed. -/
theorem creation_answered_uncommitted :
    ¬ ∀ (request : PostRequest) (transcript : List Said)
        (outcome : Except PyError Shipment × Session),
        (request.code {}).Converses transcript outcome →
        (∃ exchange ∈ transcript, SuccessAnswer exchange) → Committed transcript := by
  intro claim
  let lost : Except PyError Unit := .error (.exception "OperationalError" "server closed")
  have answered : ∃ exchange ∈ creationTranscript lost, SuccessAnswer exchange := by
    decide +kernel
  have uncommitted : ¬ Committed (creationTranscript lost) := by
    decide +kernel
  exact uncommitted (claim creation _ _
    (Program.converses_transcribe (answers lost) (creation.code {}) 0) answered)

end Freight
