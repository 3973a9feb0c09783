/-
Module: Freight.Store.Transactions
Purpose: The owners of a transaction.  A body that ends ready to commit, or
  raises with its transaction still open, leaves the log as it was or with one
  entry more.
Trusted boundary: none
Main exports:
  Untouched, Finished, Ready, Abandoned, holds_session_rollback, holds_close,
  Settled, Explained, holds_transaction_explained, holds_transaction,
  holds_sessionBegin
-/
import Freight.Store.UnitOfWork

namespace Freight

open Interaction (ProcessId Contract)

/-- The process has not committed, and in a quiet system nothing has. -/
def Untouched (quiet : Prop) (process : ProcessId) (start wal : List Transaction) : Prop :=
  process ∉ wal.map Transaction.process ∧ (quiet → wal = start)

/-- In a quiet system, what a process leaves behind: the log it found, or that
log and its own transaction. -/
def Finished (quiet : Prop) (process : ProcessId) (start wal : List Transaction) : Prop :=
  quiet → wal = start ∨ ∃ transaction : Transaction,
    transaction.process = process ∧ wal = start ++ [transaction]

/-- Everything noted before the process's commit, if it has committed, is still
on record; what is in front of it was raised since. -/
def Since (process : ProcessId) (raised : List PyError) (wal : List Transaction) : Prop :=
  ∀ transaction ∈ wal, transaction.process = process →
    ∃ newer, raised = newer ++ transaction.raised

/-- If the process has committed, the exception was raised by a statement after
the commit. -/
def Belated (process : ProcessId) (error : PyError) (raised : List PyError)
    (wal : List Transaction) : Prop :=
  ∀ transaction ∈ wal, transaction.process = process →
    ∃ newer, raised = newer ++ transaction.raised ∧ error ∈ newer

section Archives

variable {quiet : Prop} {process : ProcessId} {start wal : List Transaction}
  {raised : List PyError} {error other : PyError}

theorem Untouched.archival : Archival quiet process (Untouched quiet process start) :=
  Archival.uncommitted.and (Archival.still start)

theorem Finished.archival : Archival quiet process (Finished quiet process start) := by
  intro wal more _ still finished calm
  rw [still calm, List.append_nil]
  exact finished calm

theorem Untouched.finished (untouched : Untouched quiet process start wal) :
    Finished quiet process start wal :=
  fun calm => .inl (untouched.2 calm)

theorem Untouched.commit (untouched : Untouched quiet process start wal)
    {transaction : Transaction} (own : transaction.process = process) :
    Finished quiet process start (wal ++ [transaction]) :=
  fun calm => .inr ⟨transaction, own, by rw [untouched.2 calm]⟩

theorem Since.archival : Archival quiet process (Since process raised) := by
  intro wal more others _ holds transaction member own
  rcases List.mem_append.mp member with earlier | later
  · exact holds transaction earlier own
  · exact absurd (own ▸ List.mem_map_of_mem later) others

theorem Belated.archival : Archival quiet process (Belated process error raised) := by
  intro wal more others _ holds transaction member own
  rcases List.mem_append.mp member with earlier | later
  · exact holds transaction earlier own
  · exact absurd (own ▸ List.mem_map_of_mem later) others

/-- At the commit nothing has been raised since. -/
theorem Untouched.since (untouched : Untouched quiet process start wal)
    (transaction : Transaction) :
    Since process transaction.raised (wal ++ [transaction]) := by
  intro other member own
  rcases List.mem_append.mp member with earlier | last
  · exact absurd (own ▸ List.mem_map_of_mem earlier) untouched.1
  · cases List.mem_singleton.mp last
    exact ⟨[], rfl⟩

theorem Since.raise (since : Since process raised wal) :
    Belated process error (error :: raised) wal := by
  intro transaction member own
  obtain ⟨newer, rfl⟩ := since transaction member own
  exact ⟨error :: newer, rfl, List.mem_cons_self⟩

theorem Belated.cons (belated : Belated process error raised wal) :
    Belated process error (other :: raised) wal := by
  intro transaction member own
  obtain ⟨newer, rfl, noted⟩ := belated transaction member own
  exact ⟨other :: newer, rfl, List.mem_cons_of_mem _ noted⟩

theorem Belated.since (belated : Belated process error raised wal) :
    Since process raised wal := by
  intro transaction member own
  obtain ⟨newer, equality, -⟩ := belated transaction member own
  exact ⟨newer, equality⟩

/-- Before the commit every exception is in time. -/
theorem Untouched.belated (untouched : Untouched quiet process start wal) :
    Belated process error raised wal :=
  fun _ member own => absurd (own ▸ List.mem_map_of_mem member) untouched.1

/-- A recorded event stays recorded. -/
theorem Archival.recorded {base : Database} (eventId : UUID) :
    Archival quiet process fun wal => ∃ row, (replay base wal).event eventId = some row := by
  rintro wal more _ _ ⟨row, found⟩
  exact ⟨row, by rw [replay_append]; exact replay_event_of_some found⟩

/-- A shipment stays in the table. -/
theorem Archival.shipped {base : Database} (id : UUID) :
    Archival quiet process fun wal => ((replay base wal).shipment id).isSome := by
  intro wal more _ _ found
  rw [replay_append]
  exact replay_shipment_isSome found

end Archives

section Rules

variable (server : Server) (base : Database) (quiet : Prop) (requests : ProcessId → Request)
  (process : ProcessId) (start : List Transaction)

/-- The statement `COMMIT` would record a legal effect, after which `answered`
holds of the log. -/
inductive Ready (answered : List Transaction → Prop) (world : World) : Prop where
  | intro (connection : Connection) (assertion : World → Prop)
      (lasting : Lasting base quiet process assertion)
      (mine : Mine process connection assertion world)
      (untouched : ∀ reached, assertion reached → Untouched quiet process start reached.wal)
      (effect : ∀ reached, Mine process connection assertion reached →
        Invariant server base quiet requests reached →
        Effect server base quiet reached.wal (requests process)
          { toConnection := connection, process := process })
      (answers : ∀ reached, assertion reached →
        answered (reached.wal ++ [{ toConnection := connection, process := process }]))

/-- The transaction is still open and will not commit. -/
inductive Abandoned (world : World) : Prop where
  | intro (connection : Connection) (assertion : World → Prop)
      (lasting : Lasting base quiet process assertion)
      (mine : Mine process connection assertion world)
      (untouched : ∀ reached, assertion reached → Untouched quiet process start reached.wal)

variable {server base quiet requests process start} {connection : Connection}
  {world : World} {assertion : World → Prop} {archive : List Transaction → Prop}
  {session : Session} {α : Type}

theorem holds_session_rollback (archive : List Transaction → Prop)
    {post : Contract.Post PyError Session World Unit}
    (lasting : Lasting base quiet process assertion)
    (mine : Mine process connection assertion world)
    (archives : ∀ before, assertion before → archive before.wal)
    (returned : ∀ after, Mine process connection.ended (fun world => archive world.wal) after →
      post (.ok ()) {} after)
    (raised : ∀ error after, server.faults error = true →
      Mine process (connection.ended.raise error) (fun world => archive world.wal) after →
        post (.error error) session after) :
    (storeContract server base quiet requests process).holds Session.rollback post session
      world := by
  apply Contract.holds_bind
  refine holds_rollback archive lasting mine archives ?_ raised
  intro after ended
  apply Contract.holds_modify
  exact returned after ended

/-- Closing the session leaves the log alone. -/
theorem holds_close {post : Contract.Post PyError Session World Unit}
    (archival : Archival quiet process archive)
    (mine : Mine process connection (fun world => archive world.wal) world)
    (returned : ∀ after, Mine process connection.ended (fun world => archive world.wal) after →
      post (.ok ()) session after)
    (raised : ∀ error after, server.faults error = true →
      Mine process (connection.ended.raise error) (fun world => archive world.wal) after →
        post (.error error) session after) :
    (storeContract server base quiet requests process).holds Session.close post session
      world :=
  holds_rollback archive archival.lasting mine (fun _ kept => kept) returned raised

/-- Rolling back and re-raising: the error, or one met while rolling back. -/
theorem holds_abandon {error : PyError} {post : Contract.Post PyError Session World α}
    (archival : Archival quiet process archive)
    (lasting : Lasting base quiet process assertion)
    (mine : Mine process connection assertion world)
    (archives : ∀ before, assertion before →
      archive before.wal ∧ Belated process error connection.raised before.wal)
    (raised : ∀ other session after connection,
      (other = error ∨ server.faults other = true) →
      Mine process connection (fun world =>
        archive world.wal ∧ Belated process other connection.raised world.wal) after →
      post (.error other) session after) :
    (storeContract server base quiet requests process).holds
      (do
        Session.rollback
        call .observe
        Interaction.Computation.raise error : Py α) post session world := by
  apply Contract.holds_bind
  refine holds_session_rollback
    (fun wal => archive wal ∧ Belated process error connection.raised wal) lasting mine
    archives ?_ ?_
  · intro after ended
    apply Contract.holds_bind
    refine holds_observe (archival.and Belated.archival).lasting ended ?_ ?_
    · intro after observed
      apply Contract.holds_raise
      exact raised error _ after _ (.inl rfl) observed
    · exact fun other after faults observed => raised other _ after _ (.inr faults)
        (observed.weaken fun holds => ⟨holds.1, holds.2.since.raise⟩)
  · exact fun other after faults ended => raised other _ after _ (.inr faults)
      (ended.weaken fun holds => ⟨holds.1, holds.2.since.raise⟩)

/-- What a transaction's owner promises: the log is as it was or has one entry
more, a value that is returned has been answered for by the log, and only
allowed exceptions escape, after a commit only those raised since. -/
def Settled (quiet : Prop) (process : ProcessId) (start : List Transaction)
    (allowed : PyError → Prop) (answered : α → List Transaction → Prop)
    (outcome : Except PyError α) (world : World) : Prop :=
  Finished quiet process start world.wal ∧
    match outcome with
    | .ok value => answered value world.wal
    | .error error =>
        allowed error ∧ Belated process error (world.raised process) world.wal

variable {allowed : PyError → Prop} {answered : α → List Transaction → Prop}

theorem Settled.error (answered : α → List Transaction → Prop) {error : PyError}
    (mine : Mine process connection (fun world => Finished quiet process start world.wal ∧
      Belated process error connection.raised world.wal) world)
    (permitted : allowed error) :
    Settled quiet process start allowed answered (.error error : Except PyError α) world := by
  have raised : world.raised process = connection.raised :=
    congrArg Connection.raised mine.connection
  exact ⟨mine.lasts.1, permitted, raised ▸ mine.lasts.2⟩

/-- Whatever escapes is the environment's own exception or has a reason in the log. -/
def Explained (server : Server) (reason : PyError → List Transaction → Prop)
    (outcome : Except PyError α) (world : World) : Prop :=
  ∀ error, outcome = .error error → server.faults error = true ∨ reason error world.wal

/-- The rule for `transaction`: the body, followed by a flush, ends ready to commit, or
it raises, with a reason that lasts. -/
theorem holds_transaction_explained {body : Py α}
    {reason : PyError → List Transaction → Prop}
    (faulty : ∀ error, server.faults error = true → allowed error)
    (archival : ∀ value, Archival quiet process (answered value))
    (reasons : ∀ error, Archival quiet process (reason error))
    (verified : (storeContract server base quiet requests process).holds body
      (Contract.Post.on
        (fun value => (storeContract server base quiet requests process).holds Session.flush
          (Contract.Post.on
            (fun _ _ => Ready server base quiet requests process start (answered value))
            (fun error _ last => allowed error ∧
              Abandoned base quiet process start last ∧
                (server.faults error = true ∨ reason error last.wal))))
        (fun error _ last => allowed error ∧ Abandoned base quiet process start last ∧
          (server.faults error = true ∨ reason error last.wal)))
      session world) :
    (storeContract server base quiet requests process).holds (transaction body)
      (fun outcome _ last => Settled quiet process start allowed answered outcome last ∧
        Explained server reason outcome last)
      session world := by
  apply Contract.holds_onExit
  apply Contract.holds_tryExcept
  apply Contract.holds_bind
  -- the environment's exceptions explain themselves
  have faulted : ∀ {error : PyError} {last : World}, server.faults error = true →
      Explained server reason (.error error : Except PyError α) last := by
    intro error last faults other same
    cases same
    exact .inl faults
  -- an exception with the transaction still open
  have abandoned : ∀ error (flushing : Session) (last : World), allowed error →
      Abandoned base quiet process start last →
      (server.faults error = true ∨ reason error last.wal) →
      (storeContract server base quiet requests process).holds
        (do
          Session.rollback
          call .observe
          Interaction.Computation.raise error : Py α)
        (fun outcome => (storeContract server base quiet requests process).holds Session.close
          (Contract.Post.on
            (fun _ _ last => Settled quiet process start allowed answered outcome last ∧
              Explained server reason outcome last)
            (fun error _ last =>
              Settled quiet process start allowed answered (.error error) last ∧
                Explained server reason (.error error : Except PyError α) last)))
        flushing last := by
    intro error flushing last tolerated ⟨connection, assertion, lasting, mine, untouched⟩ cause
    have explaining : Archival quiet process fun wal =>
        server.faults error = true ∨ reason error wal := by
      intro wal more others still holds
      exact holds.imp id (reasons error wal more others still)
    have held : Mine process connection (fun world => assertion world ∧
        (server.faults error = true ∨ reason error world.wal)) last :=
      mine.weaken fun holds => ⟨holds, cause⟩
    refine holds_abandon (Untouched.archival.and explaining)
      (lasting.and explaining.lasting) held
      (fun before holds =>
        ⟨⟨untouched before holds.1, holds.2⟩, (untouched before holds.1).belated⟩) ?_
    intro other closing reached leaving origin ended
    have permitted : allowed other := origin.elim (fun same => same ▸ tolerated) (faulty other)
    refine holds_close (Untouched.archival.and explaining)
      (ended.weaken fun holds => holds.1) ?_ ?_
    · intro final kept
      refine ⟨.error answered
        (kept.weaken fun holds => ⟨holds.1.finished, holds.1.belated⟩) permitted, ?_⟩
      rcases origin with same | faults
      · subst same
        intro raised equality
        cases equality
        exact kept.lasts.2
      · exact faulted faults
    · exact fun further final faults kept =>
        ⟨.error answered (kept.weaken fun holds => ⟨holds.1.finished, holds.1.belated⟩)
          (faulty further faults), faulted faults⟩
  refine Contract.holds_mono verified ?_
  rintro (error | value) flushing reached established
  · exact abandoned error flushing reached established.1 established.2.1 established.2.2
  apply Contract.holds_bind
  apply Contract.holds_bind
  refine Contract.holds_mono established ?_
  rintro (error | done) flushed last ready
  · exact abandoned error flushed last ready.1 ready.2.1 ready.2.2
  obtain ⟨connection, assertion, lasting, mine, untouched, effect, answers⟩ := ready
  have committed : Archival quiet process fun wal =>
      (Finished quiet process start wal ∧ answered value wal) ∧
        Since process connection.raised wal :=
    (Finished.archival.and (archival value)).and Since.archival
  refine holds_commit
    (fun wal => (Finished quiet process start wal ∧ answered value wal) ∧
      Since process connection.raised wal) lasting mine
    (fun before holds => (untouched before holds).1) effect ?_ ?_ ?_
  · exact fun before holds => ⟨⟨(untouched before holds).commit rfl, answers before holds⟩,
      (untouched before holds).since { toConnection := connection, process := process }⟩
  · intro after ended
    apply Contract.holds_bind
    refine holds_observe committed.lasting ended ?_ ?_
    · intro observed kept
      apply Contract.holds_pure
      refine holds_close committed kept ?_ ?_
      · exact fun final kept => ⟨kept.lasts.1, fun error equality => nomatch equality⟩
      · exact fun error final faults kept =>
          ⟨.error answered (kept.weaken fun holds => ⟨holds.1.1, holds.2.raise⟩)
            (faulty error faults), faulted faults⟩
    · intro error observed faults kept
      simp only [Contract.Post.on]
      refine holds_abandon (Finished.archival.and (archival value)) committed.lasting kept
        (fun _ holds => ⟨holds.1, holds.2.raise⟩) ?_
      intro other closing reached leaving cause finished
      have own : server.faults other = true := cause.elim (fun same => same ▸ faults) id
      refine holds_close ((Finished.archival.and (archival value)).and Belated.archival)
        finished ?_ ?_
      · exact fun final kept =>
          ⟨.error answered (kept.weaken fun holds => ⟨holds.1.1, holds.2⟩)
            (faulty other own), faulted own⟩
      · exact fun further final faults kept =>
          ⟨.error answered (kept.weaken fun holds => ⟨holds.1.1, holds.2.since.raise⟩)
            (faulty further faults), faulted faults⟩
  · intro error after faults held
    exact abandoned error _ after (faulty error faults) ⟨_, _, lasting, held, untouched⟩
      (.inl faults)

/-- The rule for `transaction`, without a reason for what escapes. -/
theorem holds_transaction {body : Py α} (faulty : ∀ error, server.faults error = true →
      allowed error)
    (archival : ∀ value, Archival quiet process (answered value))
    (verified : (storeContract server base quiet requests process).holds body
      (Contract.Post.on
        (fun value => (storeContract server base quiet requests process).holds Session.flush
          (Contract.Post.on
            (fun _ _ => Ready server base quiet requests process start (answered value))
            (fun error _ last => allowed error ∧ Abandoned base quiet process start last)))
        (fun error _ last => allowed error ∧ Abandoned base quiet process start last))
      session world) :
    (storeContract server base quiet requests process).holds (transaction body)
      (fun outcome _ last => Settled quiet process start allowed answered outcome last)
      session world := by
  have anyReason : ∀ _ : PyError, Archival quiet process fun _ => True :=
    fun _ => Archival.const True
  refine Contract.holds_mono (holds_transaction_explained faulty archival anyReason ?_)
    fun _ _ _ both => both.1
  refine Contract.holds_mono verified ?_
  rintro (error | value) flushing reached established
  · exact ⟨established.1, established.2, .inr trivial⟩
  · refine Contract.holds_mono established ?_
    rintro (error | done) flushed last ready
    · exact ⟨ready.1, ready.2, .inr trivial⟩
    · exact ready

/-- The rule for `with session.begin()`: the same two ends, with the session still
open. -/
theorem holds_sessionBegin {body : Py α}
    (verified : (storeContract server base quiet requests process).holds body
      (Contract.Post.on
        (fun _ => (storeContract server base quiet requests process).holds Session.flush
          (Contract.Post.on
            (fun _ _ => Ready server base quiet requests process start fun _ => True)
            (fun _ _ => Abandoned base quiet process start)))
        (fun _ _ => Abandoned base quiet process start))
      session world) :
    (storeContract server base quiet requests process).holds (sessionBegin body)
      (fun _ _ last => ∃ connection,
        Mine process connection (fun world => Finished quiet process start world.wal) last)
      session world := by
  apply Contract.holds_tryExcept
  apply Contract.holds_bind
  have abandoned : ∀ error (flushing : Session) (last : World),
      Abandoned base quiet process start last →
      (storeContract server base quiet requests process).holds
        (do
          Session.rollback
          Interaction.Computation.raise error : Py α)
        (fun _ _ last => ∃ connection,
          Mine process connection (fun world => Finished quiet process start world.wal) last)
        flushing last := by
    rintro error flushing last ⟨connection, assertion, lasting, mine, untouched⟩
    apply Contract.holds_bind
    refine holds_session_rollback (Finished quiet process start) lasting mine
      (fun before holds => (untouched before holds).finished) ?_ ?_
    · intro after ended
      simp only [Contract.Post.on]
      apply Contract.holds_raise
      exact ⟨_, ended⟩
    · exact fun _ after _ ended => ⟨_, ended⟩
  refine Contract.holds_mono verified ?_
  rintro (error | value) flushing reached established
  · exact abandoned error flushing reached established
  apply Contract.holds_bind
  apply Contract.holds_bind
  refine Contract.holds_mono established ?_
  rintro (error | done) flushed last ready
  · exact abandoned error flushed last ready
  obtain ⟨connection, assertion, lasting, mine, untouched, effect, -⟩ := ready
  refine holds_commit (Finished quiet process start) lasting mine
    (fun before holds => (untouched before holds).1) effect
    (fun before holds => (untouched before holds).commit rfl) ?_ ?_
  · intro after ended
    apply Contract.holds_pure
    exact ⟨_, ended⟩
  · intro error after faults held
    exact abandoned error _ after ⟨_, _, lasting, held, untouched⟩

end Rules

end Freight
