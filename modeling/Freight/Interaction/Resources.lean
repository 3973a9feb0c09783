/-
Module: Freight.Interaction.Resources
Purpose: Processes that wait for each other's resources: when resources are taken in an
  order, nobody waits in a circle and everything can be brought to its end.
Trusted boundary: none
Main exports:
  Resources, Resources.WaitsFor, Resources.height, Resources.not_waitsFor_self,
  Resources.exists_unblocked, Resources.Disciplined, Resources.Disciplined.completes
-/
import Freight.Interaction.Concurrency
import Mathlib.Data.Finset.Card
import Mathlib.Data.Finset.Max
import Mathlib.Logic.Relation

namespace Interaction

/-- What the processes hold in a world, what an operation cannot go on without, and the
order in which resources are meant to be taken. -/
structure Resources (Op World Resource : Type) where
  held : World → List (ProcessId × Resource)
  wanted : Op → List Resource
  level : Resource → Nat

namespace Resources

variable {Op : Type} {Answer : Op → Type} {World Choice Resource α : Type}
variable (resources : Resources Op World Resource)

/-- The operation wants something that another process holds. -/
def Blocked (world : World) (process : ProcessId) (op : Op) (other : ProcessId) : Prop :=
  other ≠ process ∧ ∃ resource ∈ resources.wanted op, (other, resource) ∈ resources.held world

/-- An edge of the waits-for graph. -/
def WaitsFor (state : System.State Op Answer World α) (process other : ProcessId) : Prop :=
  ∃ op resume, state.processes process = some (.perform op resume) ∧
    resources.Blocked state.world process op other

/-- Whoever has to wait holds nothing as high as what it waits for. -/
def Ordered (state : System.State Op Answer World α) : Prop :=
  ∀ process op resume other resource, state.processes process = some (.perform op resume) →
    other ≠ process → resource ∈ resources.wanted op →
    (other, resource) ∈ resources.held state.world →
    ∀ own, (process, own) ∈ resources.held state.world →
      resources.level own < resources.level resource

/-! ## Heights -/

/-- How high a process has come: above the level of everything it holds. -/
def heightIn (level : Resource → Nat) (process : ProcessId) :
    List (ProcessId × Resource) → Nat
  | [] => 0
  | entry :: entries =>
      if entry.1 = process then max (level entry.2 + 1) (heightIn level process entries)
      else heightIn level process entries

def height (world : World) (process : ProcessId) : Nat :=
  heightIn resources.level process (resources.held world)

theorem heightIn_le_iff {level : Resource → Nat} {process : ProcessId} {bound : Nat} :
    ∀ {entries : List (ProcessId × Resource)},
      heightIn level process entries ≤ bound ↔
        ∀ resource, (process, resource) ∈ entries → level resource < bound := by
  intro entries
  induction entries with
  | nil => simp [heightIn]
  | cons entry entries inductionHypothesis =>
      obtain ⟨holder, first⟩ := entry
      simp only [heightIn, List.mem_cons, Prod.mk.injEq]
      split
      · rename_i same
        rw [max_le_iff, inductionHypothesis]
        constructor
        · intro both resource member
          rcases member with ⟨-, rfl⟩ | later
          · exact both.1
          · exact both.2 resource later
        · intro all
          exact ⟨all first (.inl ⟨same.symm, rfl⟩), fun resource later =>
            all resource (.inr later)⟩
      · rename_i different
        rw [inductionHypothesis]
        constructor
        · intro all resource member
          rcases member with ⟨same, -⟩ | later
          · exact absurd same.symm different
          · exact all resource later
        · exact fun all resource later => all resource (.inr later)

theorem height_le_iff {world : World} {process : ProcessId} {bound : Nat} :
    resources.height world process ≤ bound ↔
      ∀ resource, (process, resource) ∈ resources.held world →
        resources.level resource < bound :=
  heightIn_le_iff

theorem level_lt_height {world : World} {process : ProcessId} {resource : Resource}
    (held : (process, resource) ∈ resources.held world) :
    resources.level resource < resources.height world process :=
  (resources.height_le_iff.mp (Nat.le_refl _)) resource held

theorem height_eq_zero_iff {world : World} {process : ProcessId} :
    resources.height world process = 0 ↔
      ∀ resource, (process, resource) ∉ resources.held world := by
  rw [← Nat.le_zero, height_le_iff]
  simp

/-! ## The waits-for graph -/

variable {resources}

/-- A wait leads to a process that has come higher. -/
theorem Ordered.rises {state : System.State Op Answer World α}
    (ordered : resources.Ordered state) {process other : ProcessId}
    (waits : resources.WaitsFor state process other) :
    resources.height state.world process < resources.height state.world other := by
  obtain ⟨op, resume, found, different, resource, wanted, held⟩ := waits
  have below : resources.height state.world process ≤ resources.level resource :=
    resources.height_le_iff.mpr
      (ordered process op resume other resource found different wanted held)
  exact Nat.lt_of_le_of_lt below (resources.level_lt_height held)

/-- So does a chain of waits. -/
theorem Ordered.rises_chain {state : System.State Op Answer World α}
    (ordered : resources.Ordered state) {process other : ProcessId}
    (waits : Relation.TransGen (resources.WaitsFor state) process other) :
    resources.height state.world process < resources.height state.world other := by
  induction waits with
  | single wait => exact ordered.rises wait
  | tail _ wait inductionHypothesis => exact inductionHypothesis.trans (ordered.rises wait)

/-- Nobody waits for itself, not even through others. -/
theorem Ordered.not_waitsFor_self {state : System.State Op Answer World α}
    (ordered : resources.Ordered state) (process : ProcessId) :
    ¬ Relation.TransGen (resources.WaitsFor state) process process :=
  fun waits => Nat.lt_irrefl _ (ordered.rises_chain waits)

/-- Nobody has come higher than some bound. -/
theorem exists_height_bound (resources : Resources Op World Resource) (world : World) :
    ∃ bound, ∀ process, resources.height world process ≤ bound := by
  have general : ∀ entries : List (ProcessId × Resource),
      ∃ bound, ∀ process, heightIn resources.level process entries ≤ bound := by
    intro entries
    induction entries with
    | nil => exact ⟨0, fun process => Nat.le_refl 0⟩
    | cons entry entries inductionHypothesis =>
        obtain ⟨bound, limits⟩ := inductionHypothesis
        refine ⟨max (resources.level entry.2 + 1) bound, ?_⟩
        intro process
        have limit := limits process
        simp only [heightIn]
        split <;> omega
  exact general (resources.held world)

/-- From every process, waits lead to one that waits for nobody. -/
theorem Ordered.exists_unblocked {state : System.State Op Answer World α}
    (ordered : resources.Ordered state) (process : ProcessId) :
    ∃ last, Relation.ReflTransGen (resources.WaitsFor state) process last ∧
      ∀ other, ¬ resources.WaitsFor state last other := by
  obtain ⟨bound, limits⟩ := exists_height_bound resources state.world
  -- by induction on how far the process is below the bound
  have general : ∀ distance process,
      bound - resources.height state.world process ≤ distance →
      ∃ last, Relation.ReflTransGen (resources.WaitsFor state) process last ∧
        ∀ other, ¬ resources.WaitsFor state last other := by
    intro distance
    induction distance with
    | zero =>
        intro process near
        refine ⟨process, .refl, ?_⟩
        intro other waits
        have rise := ordered.rises waits
        have limit := limits other
        omega
    | succ distance inductionHypothesis =>
        intro process near
        by_cases waiting : ∃ other, resources.WaitsFor state process other
        · obtain ⟨other, waits⟩ := waiting
          have rise := ordered.rises waits
          have limit := limits other
          obtain ⟨last, chain, unblocked⟩ := inductionHypothesis other (by omega)
          exact ⟨last, .head waits chain, unblocked⟩
        · exact ⟨process, .refl, fun other waits => waiting ⟨other, waits⟩⟩
  exact general _ process (Nat.le_refl _)

/-! ## Bringing processes to their end -/

/-- A run without crashes, of choices of one kind. -/
def Calm (kind : Choice → Prop) (actions : List (System.Action Choice)) : Prop :=
  ∀ action ∈ actions, ∃ process choice, action = .perform process choice ∧ kind choice

theorem Calm.nil {kind : Choice → Prop} : Calm kind [] := by
  intro action member
  cases member

theorem Calm.cons {kind : Choice → Prop} {process : ProcessId} {choice : Choice}
    {actions : List (System.Action Choice)} (first : kind choice) (rest : Calm kind actions) :
    Calm kind (.perform process choice :: actions) := by
  intro action member
  rcases List.mem_cons.mp member with rfl | later
  · exact ⟨process, choice, rfl, first⟩
  · exact rest action later

theorem Calm.append {kind : Choice → Prop} {first second : List (System.Action Choice)}
    (one : Calm kind first) (two : Calm kind second) : Calm kind (first ++ second) := by
  intro action member
  rcases List.mem_append.mp member with early | late
  · exact one action early
  · exact two action late

/-- What is asked of a system.  A process takes resources for itself alone and lets go of
all of them at once; who is not alive or has finished holds nothing; and an operation that
nobody blocks can go through, unless the world is exhausted. -/
structure Disciplined (resources : Resources Op World Resource)
    (system : System Op Answer World Choice α) (kind : Choice → Prop)
    (exhausted : World → Prop) (start : World) : Prop where
  ordered : ∀ state, system.Reachable start state → resources.Ordered state
  others : ∀ {process other op choice before answer after resource}, other ≠ process →
    system.act process op choice before = some (answer, after) →
      ((other, resource) ∈ resources.held after ↔ (other, resource) ∈ resources.held before)
  grows : ∀ {process op choice before answer after},
    system.act process op choice before = some (answer, after) →
      (∀ resource, (process, resource) ∈ resources.held before →
        (process, resource) ∈ resources.held after) ∨
      ∀ resource, (process, resource) ∉ resources.held after
  holders : ∀ state, system.Reachable start state → ∀ process resource,
    (process, resource) ∈ resources.held state.world →
      ∃ op resume, state.processes process = some (.perform op resume)
  goes : ∀ {process op} (world : World), (∀ other, ¬ resources.Blocked world process op other) →
    exhausted world ∨
      ∃ choice answer after, kind choice ∧
        system.act process op choice world = some (answer, after)

namespace Disciplined

variable {system : System Op Answer World Choice α} {kind : Choice → Prop}
  {exhausted : World → Prop} {start : World}

/-- What a calm run can bring about: a goal, unless the world is exhausted. -/
def Leads (system : System Op Answer World Choice α) (kind : Choice → Prop)
    (exhausted : World → Prop) (state : System.State Op Answer World α)
    (goal : System.State Op Answer World α → Prop) : Prop :=
  ∃ actions final, Calm kind actions ∧ system.run actions state = some final ∧
    (goal final ∨ exhausted final.world)

theorem Leads.here {state : System.State Op Answer World α}
    {goal : System.State Op Answer World α → Prop} (met : goal state) :
    Leads system kind exhausted state goal :=
  ⟨[], state, .nil, rfl, .inl met⟩

theorem Leads.stuck {state : System.State Op Answer World α}
    {goal : System.State Op Answer World α → Prop} (empty : exhausted state.world) :
    Leads system kind exhausted state goal :=
  ⟨[], state, .nil, rfl, .inr empty⟩

theorem Leads.step {state next : System.State Op Answer World α}
    {goal : System.State Op Answer World α → Prop} {process : ProcessId} {choice : Choice}
    (calm : kind choice) (stepped : system.step (.perform process choice) state = some next)
    (rest : Leads system kind exhausted next goal) :
    Leads system kind exhausted state goal := by
  obtain ⟨actions, final, calmly, ran, reached⟩ := rest
  exact ⟨_, final, .cons calm calmly, (system.run_cons stepped).trans ran, reached⟩

theorem Leads.trans {state : System.State Op Answer World α}
    {middle goal : System.State Op Answer World α → Prop}
    (first : Leads system kind exhausted state middle)
    (second : ∀ {actions next}, Calm kind actions → system.run actions state = some next →
      middle next → Leads system kind exhausted next goal) :
    Leads system kind exhausted state goal := by
  obtain ⟨front, next, calm, ran, established | empty⟩ := first
  · obtain ⟨back, final, calmly, continued, reached⟩ := second calm ran established
    refine ⟨front ++ back, final, calm.append calmly, ?_, reached⟩
    rw [System.run_append, ran]
    exact continued
  · exact ⟨front, next, calm, ran, .inr empty⟩

/-- The processes that hold something. -/
def holding (resources : Resources Op World Resource) (world : World) : Finset ProcessId :=
  ((resources.held world).map Prod.fst).toFinset

theorem mem_holding {world : World} {process : ProcessId} :
    process ∈ holding resources world ↔
      ∃ resource, (process, resource) ∈ resources.held world := by
  simp [holding]

/-- One operation of a process that nobody blocks. -/
theorem goes_on (disciplined : resources.Disciplined system kind exhausted start)
    {state : System.State Op Answer World α} {process : ProcessId} {op : Op}
    {resume : Answer op → Program Op Answer α}
    (found : state.processes process = some (.perform op resume))
    (free : ∀ other, ¬ resources.Blocked state.world process op other)
    {goal : System.State Op Answer World α → Prop}
    (next : ∀ choice answer after, kind choice →
      system.act process op choice state.world = some (answer, after) →
      system.step (.perform process choice) state = some
        { world := after
          processes := Function.update state.processes process (some (resume answer)) } →
      Leads system kind exhausted
        { world := after
          processes := Function.update state.processes process (some (resume answer)) }
        goal) :
    Leads system kind exhausted state goal := by
  rcases disciplined.goes state.world free with empty | ⟨choice, answer, after, calm, acted⟩
  · exact .stuck empty
  · have stepped : system.step (.perform process choice) state = some
        { world := after
          processes := Function.update state.processes process (some (resume answer)) } := by
      simp [System.step, found, acted]
    exact .step calm stepped (next choice answer after calm acted stepped)

/-- The highest process can go on until it holds nothing any more. -/
theorem releases (disciplined : resources.Disciplined system kind exhausted start)
    {process : ProcessId} (program : Program Op Answer α) :
    ∀ {state : System.State Op Answer World α}, system.Reachable start state →
      state.processes process = some program →
      (∀ other, resources.height state.world other ≤ resources.height state.world process) →
      Leads system kind exhausted state fun final =>
        process ∉ holding resources final.world ∧
          holding resources final.world ⊆ holding resources state.world := by
  induction program with
  | done value =>
      intro state reached found _
      refine .here ⟨?_, Finset.Subset.refl _⟩
      intro member
      obtain ⟨resource, held⟩ := mem_holding.mp member
      obtain ⟨op, resume, still⟩ := disciplined.holders state reached process resource held
      cases found.symm.trans still
  | perform op resume inductionHypothesis =>
      intro state reached found highest
      by_cases holds : process ∈ holding resources state.world
      · have ordered := disciplined.ordered state reached
        -- who blocks the process would be higher still
        have free : ∀ other, ¬ resources.Blocked state.world process op other := by
          intro other blocked
          have rise := ordered.rises ⟨op, resume, found, blocked⟩
          exact absurd (highest other) (Nat.not_le_of_lt rise)
        apply disciplined.goes_on found free
        intro choice answer after calm acted stepped
        have others : ∀ other, other ≠ process →
            resources.height after other = resources.height state.world other := by
          intro other different
          refine Nat.le_antisymm ?_ ?_
          · rw [height_le_iff]
            intro resource held
            exact resources.level_lt_height ((disciplined.others different acted).mp held)
          · rw [height_le_iff]
            intro resource held
            exact resources.level_lt_height ((disciplined.others different acted).mpr held)
        have inside : holding resources after ⊆ holding resources state.world := by
          intro other member
          by_cases same : other = process
          · exact same ▸ holds
          · obtain ⟨resource, held⟩ := mem_holding.mp member
            exact mem_holding.mpr ⟨resource, (disciplined.others same acted).mp held⟩
        rcases disciplined.grows acted with keeps | released
        · have higher : resources.height state.world process ≤
              resources.height after process := by
            rw [height_le_iff]
            intro resource held
            exact resources.level_lt_height (keeps resource held)
          refine (inductionHypothesis answer (reached.step system stepped)
            (Function.update_self process _ _) ?_).trans ?_
          · intro other
            by_cases same : other = process
            · exact same ▸ Nat.le_refl _
            · rw [others other same]
              exact (highest other).trans higher
          · intro actions next calmly ran established
            exact .here ⟨established.1, established.2.trans inside⟩
        · refine .here ⟨?_, inside⟩
          intro member
          obtain ⟨resource, held⟩ := mem_holding.mp member
          exact released resource held
      · exact .here ⟨holds, Finset.Subset.refl _⟩

/-- Everything that is held can be let go of. -/
theorem clears (disciplined : resources.Disciplined system kind exhausted start) :
    ∀ {count : Nat} {state : System.State Op Answer World α}, system.Reachable start state →
      (holding resources state.world).card = count →
      Leads system kind exhausted state fun final => holding resources final.world = ∅ := by
  intro count
  induction count using Nat.strong_induction_on with
  | h count inductionHypothesis =>
      intro state reached number
      rcases (holding resources state.world).eq_empty_or_nonempty with none | some
      · exact .here none
      · -- let the highest of the holders go first
        obtain ⟨process, member, highest⟩ :=
          Finset.exists_max_image _ (resources.height state.world) some
        obtain ⟨resource, held⟩ := mem_holding.mp member
        obtain ⟨op, resume, found⟩ := disciplined.holders state reached process resource held
        have above : ∀ other, resources.height state.world other ≤
            resources.height state.world process := by
          intro other
          by_cases holds : other ∈ holding resources state.world
          · exact highest other holds
          · have nothing : resources.height state.world other = 0 := by
              rw [height_eq_zero_iff]
              exact fun resource held => holds (mem_holding.mpr ⟨resource, held⟩)
            omega
        refine (disciplined.releases _ reached found above).trans ?_
        intro actions next calm ran established
        refine inductionHypothesis _ ?_ (reached.run system ran) rfl
        rw [← number]
        refine Finset.card_lt_card ⟨established.2, ?_⟩
        intro equal
        exact established.1 (equal member)

/-- When nobody else holds anything, a process goes on to its end. -/
theorem finishes_alone (disciplined : resources.Disciplined system kind exhausted start)
    {process : ProcessId} (program : Program Op Answer α) :
    ∀ {state : System.State Op Answer World α}, system.Reachable start state →
      state.processes process = some program →
      (∀ other resource, other ≠ process → (other, resource) ∉ resources.held state.world) →
      Leads system kind exhausted state fun final =>
        ∃ value, final.processes process = some (.done value) := by
  induction program with
  | done value =>
      intro state reached found _
      exact .here ⟨value, found⟩
  | perform op resume inductionHypothesis =>
      intro state reached found alone
      have free : ∀ other, ¬ resources.Blocked state.world process op other := by
        intro other blocked
        obtain ⟨different, resource, -, held⟩ := blocked
        exact alone other resource different held
      apply disciplined.goes_on found free
      intro choice answer after calm acted stepped
      refine inductionHypothesis answer (reached.step system stepped)
        (Function.update_self process _ _) ?_
      intro other resource different held
      exact alone other resource different ((disciplined.others different acted).mp held)

/-- A calm run kills nobody. -/
theorem alive_run {process : ProcessId} {actions : List (System.Action Choice)} :
    ∀ {state final : System.State Op Answer World α}, Calm kind actions →
      system.run actions state = some final → state.processes process ≠ none →
      final.processes process ≠ none := by
  induction actions with
  | nil =>
      intro state final _ ran alive
      cases ran
      exact alive
  | cons action actions inductionHypothesis =>
      intro state final calm ran alive
      simp only [System.run] at ran
      split at ran
      · rename_i next stepped
        refine inductionHypothesis (fun later member => calm later (List.mem_cons_of_mem _ member))
          ran ?_
        obtain ⟨actor, choice, rfl, -⟩ := calm action List.mem_cons_self
        rcases system.step_cases stepped with
          ⟨_, _, op, resume, answer, world, same, found, acted, rfl⟩ | ⟨_, _, same, -, -⟩
        · cases same
          by_cases equal : process = actor
          · subst equal
            intro dead
            cases (Function.update_self process (some (resume answer))
              state.processes).symm.trans dead
          · intro dead
            exact alive ((Function.update_of_ne equal (some (resume answer))
              state.processes).symm.trans dead)
        · cases same
      · cases ran

/-- Who has finished stays so. -/
theorem done_run {process : ProcessId} {value : α} {actions : List (System.Action Choice)} :
    ∀ {state final : System.State Op Answer World α}, Calm kind actions →
      system.run actions state = some final → state.processes process = some (.done value) →
      final.processes process = some (.done value) := by
  induction actions with
  | nil =>
      intro state final _ ran finished
      cases ran
      exact finished
  | cons action actions inductionHypothesis =>
      intro state final calm ran finished
      simp only [System.run] at ran
      split at ran
      · rename_i next stepped
        refine inductionHypothesis (fun later member => calm later (List.mem_cons_of_mem _ member))
          ran ?_
        obtain ⟨actor, choice, rfl, -⟩ := calm action List.mem_cons_self
        rcases system.step_cases stepped with
          ⟨_, _, op, resume, answer, world, same, found, acted, rfl⟩ | ⟨_, _, same, -, -⟩
        · cases same
          by_cases equal : process = actor
          · subst equal
            cases finished.symm.trans found
          · exact (Function.update_of_ne equal (some (resume answer))
              state.processes).trans finished
        · cases same
      · cases ran

/-- From every reachable state, one run brings any number of live processes to their end. -/
theorem completes (disciplined : resources.Disciplined system kind exhausted start)
    {processes : List ProcessId} :
    ∀ {state : System.State Op Answer World α}, system.Reachable start state →
      (∀ process ∈ processes, state.processes process ≠ none) →
      Leads system kind exhausted state fun final =>
        ∀ process ∈ processes, ∃ value, final.processes process = some (.done value) := by
  induction processes with
  | nil =>
      intro state _ _
      exact .here fun process member => nomatch member
  | cons process processes inductionHypothesis =>
      intro state reached alive
      refine (disciplined.clears reached rfl).trans ?_
      intro front cleared calm ran empty
      have reached := reached.run system ran
      have remains : ∀ other ∈ process :: processes, cleared.processes other ≠ none :=
        fun other member => alive_run calm ran (alive other member)
      obtain ⟨program, found⟩ := Option.ne_none_iff_exists'.mp
        (remains process List.mem_cons_self)
      have nobody : ∀ other resource, other ≠ process →
          (other, resource) ∉ resources.held cleared.world := by
        intro other resource _ held
        have member := mem_holding.mpr ⟨resource, held⟩
        rw [empty] at member
        exact absurd member (Finset.notMem_empty _)
      refine (disciplined.finishes_alone program reached found nobody).trans ?_
      intro middle ended calmly continued finished
      obtain ⟨value, finished⟩ := finished
      refine (inductionHypothesis (reached.run system continued) ?_).trans ?_
      · intro other member
        exact alive_run calmly continued (remains other (List.mem_cons_of_mem _ member))
      · intro back final quietly closed all
        refine .here ?_
        intro other member
        rcases List.mem_cons.mp member with rfl | later
        · exact ⟨value, done_run quietly closed finished⟩
        · exact all other later

end Disciplined

end Resources

end Interaction
