/-
Module: Freight.Interaction.Noninterference
Purpose: A machine whose items are of two kinds, one of which leaves a view of the state
  alone: what the other kind is answered, and what it makes of the view, does not depend on
  how the two are interleaved.
Trusted boundary: none
Main exports:
  Interleaving, Interleaving.filter_left, Interleaving.filter_right, handleAll, Unwinding,
  Unwinding.handleAll, Unwinding.handleAll_congr
-/
import Mathlib.Data.List.Basic

namespace Interaction

/-! ## Interleavings -/

/-- Two lists merged into one, each in its own order. -/
inductive Interleaving {α : Type} : List α → List α → List α → Prop where
  | nil : Interleaving [] [] []
  | left (item : α) {lefts rights merged : List α} (rest : Interleaving lefts rights merged) :
      Interleaving (item :: lefts) rights (item :: merged)
  | right (item : α) {lefts rights merged : List α} (rest : Interleaving lefts rights merged) :
      Interleaving lefts (item :: rights) (item :: merged)

namespace Interleaving

variable {α : Type} {lefts rights merged : List α} {mine : α → Prop} [DecidablePred mine]

/-- The left list is what a property selects that holds of it and of nothing on the
right. -/
theorem filter_left (interleaving : Interleaving lefts rights merged)
    (onLeft : ∀ item ∈ lefts, mine item) (onRight : ∀ item ∈ rights, ¬ mine item) :
    merged.filter (fun item => decide (mine item)) = lefts := by
  induction interleaving with
  | nil => rfl
  | left item rest inductionHypothesis =>
      rw [List.forall_mem_cons] at onLeft
      rw [List.filter_cons_of_pos (by simpa using onLeft.1),
        inductionHypothesis onLeft.2 onRight]
  | right item rest inductionHypothesis =>
      rw [List.forall_mem_cons] at onRight
      rw [List.filter_cons_of_neg (by simpa using onRight.1),
        inductionHypothesis onLeft onRight.2]

theorem symm (interleaving : Interleaving lefts rights merged) :
    Interleaving rights lefts merged := by
  induction interleaving with
  | nil => exact .nil
  | left item rest inductionHypothesis => exact .right item inductionHypothesis
  | right item rest inductionHypothesis => exact .left item inductionHypothesis

/-- The right list is what the opposite property selects. -/
theorem filter_right (interleaving : Interleaving lefts rights merged)
    (onLeft : ∀ item ∈ lefts, mine item) (onRight : ∀ item ∈ rights, ¬ mine item) :
    merged.filter (fun item => decide (¬ mine item)) = rights :=
  interleaving.symm.filter_left onRight fun item member => not_not.mpr (onLeft item member)

end Interleaving

/-! ## Machines -/

section Machines

variable {State Item Answer View : Type}

/-- A machine over a list of items: the answer to each of them, and the last state. -/
def handleAll (step : State → Item → Answer × State) :
    State → List Item → List (Item × Answer) × State
  | state, [] => ([], state)
  | state, item :: items =>
      let (answer, next) := step state item
      let (answers, last) := handleAll step next items
      ((item, answer) :: answers, last)

/-- Items of one kind are answered from a view of the state, which the items of the other
kind leave alone. -/
structure Unwinding (step : State → Item → Answer × State) (mine : Item → Prop)
    (view : State → View) : Prop where
  consistent : ∀ {first second item}, mine item → view first = view second →
    (step first item).1 = (step second item).1 ∧
      view (step first item).2 = view (step second item).2
  respects : ∀ {state item}, ¬ mine item → view (step state item).2 = view state

namespace Unwinding

variable {step : State → Item → Answer × State} {mine : Item → Prop} [DecidablePred mine]
  {view : State → View}

/-- The items of the one kind are handled as if the others were not there. -/
theorem handleAll (unwinding : Unwinding step mine view) (items : List Item) :
    ∀ {first second : State}, view first = view second →
      ((Interaction.handleAll step first items).1.filter fun entry =>
          decide (mine entry.1)) =
        (Interaction.handleAll step second
          (items.filter fun item => decide (mine item))).1 ∧
      view (Interaction.handleAll step first items).2 =
        view (Interaction.handleAll step second
          (items.filter fun item => decide (mine item))).2 := by
  induction items with
  | nil => exact fun agree => ⟨rfl, agree⟩
  | cons item items inductionHypothesis =>
      intro first second agree
      by_cases own : mine item
      · obtain ⟨answer, next⟩ := unwinding.consistent own agree
        obtain ⟨answers, last⟩ := inductionHypothesis next
        rw [List.filter_cons_of_pos (by simpa using own)]
        simp only [Interaction.handleAll]
        rw [List.filter_cons_of_pos (by simpa using own), answers, answer]
        exact ⟨rfl, last⟩
      · rw [List.filter_cons_of_neg (by simpa using own)]
        simp only [Interaction.handleAll]
        rw [List.filter_cons_of_neg (by simpa using own)]
        exact inductionHypothesis ((unwinding.respects own).trans agree)

/-- Two lists with the same items of the one kind are alike to it. -/
theorem handleAll_congr (unwinding : Unwinding step mine view) (state : State)
    {first second : List Item}
    (same : first.filter (fun item => decide (mine item)) =
      second.filter fun item => decide (mine item)) :
    ((Interaction.handleAll step state first).1.filter fun entry =>
        decide (mine entry.1)) =
      ((Interaction.handleAll step state second).1.filter fun entry =>
        decide (mine entry.1)) ∧
    view (Interaction.handleAll step state first).2 =
      view (Interaction.handleAll step state second).2 := by
  have one := unwinding.handleAll first (Eq.refl (view state))
  have two := unwinding.handleAll second (Eq.refl (view state))
  rw [same] at one
  exact ⟨one.1.trans two.1.symm, one.2.trans two.2.symm⟩

end Unwinding

end Machines

end Interaction
