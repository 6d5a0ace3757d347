import Stencil.Script.Host

/-!
# Calls of the generator

A call that a script makes of the generator and its answer belong together. A list of them is the
whole story of the generator when each call has its answer in the place that the calls before it
have left.
-/

namespace Stencil.Script

/-- A call of the generator with its answer. -/
structure Exchange where
  /-- What is asked for. -/
  request : Request
  /-- The answer. -/
  answer : Except Failure Unit

namespace Exchange

/-- The failure that a call has for an answer. -/
def failure? (exchange : Exchange) : Option Failure :=
  match exchange.answer with
  | .ok () => none
  | .error failure => some failure

/-- A call has a failure when that is its answer. -/
theorem failure?_eq_some_iff {exchange : Exchange} {failure : Failure} :
    exchange.failure? = some failure ↔ exchange.answer = .error failure := by
  rw [failure?]
  cases exchange.answer <;> simp

/-- The failure of the latest call that had one. -/
def latestFailure? (exchanges : List Exchange) : Option Failure :=
  (exchanges.filterMap failure?).getLast?

/-- The latest failure is one of the later calls, if these had any. -/
theorem latestFailure?_append (earlier later : List Exchange) :
    latestFailure? (earlier ++ later) = (latestFailure? later).or (latestFailure? earlier) := by
  rw [latestFailure?, List.filterMap_append, List.getLast?_append]
  rfl

/-- The latest failure of one call is its own. -/
theorem latestFailure?_singleton (exchange : Exchange) :
    latestFailure? [exchange] = exchange.failure? := by
  rw [latestFailure?, List.filterMap_cons]
  cases exchange.failure? <;> rfl

/-- Whether calls lead from one place to another: each of them has its answer in the place that the
calls before it have left. -/
def Leads {Place : Type} (reply : Place → Request → Except Failure Unit × Place) (place : Place) :
    List Exchange → Place → Prop
  | [], last => place = last
  | exchange :: later, last =>
    (reply place exchange.request).1 = exchange.answer ∧
      Leads reply (reply place exchange.request).2 later last

variable {Place Other : Type} {reply : Place → Request → Except Failure Unit × Place}

/-- Calls lead to a place when some of them lead to another one and the rest of them on from
there. -/
theorem leads_append {place last : Place} {earlier later : List Exchange} :
    Leads reply place (earlier ++ later) last ↔
      ∃ middle, Leads reply place earlier middle ∧ Leads reply middle later last := by
  induction earlier generalizing place with
  | nil =>
    constructor
    · exact fun leads => ⟨place, rfl, leads⟩
    · rintro ⟨middle, rfl, leads⟩
      exact leads
  | cons exchange rest ih =>
    rw [List.cons_append, Leads, ih]
    simp only [Leads, and_assoc, exists_and_left]

/-- Calls lead on where other places are put in for places that reply in the same way. -/
theorem Leads.map {answer : Other → Request → Except Failure Unit × Other} {view : Place → Other}
    (same : ∀ place request, answer (view place) request =
      ((reply place request).1, view (reply place request).2))
    {place last : Place} {exchanges : List Exchange} (leads : Leads reply place exchanges last) :
    Leads answer (view place) exchanges (view last) := by
  induction exchanges generalizing place with
  | nil => exact congrArg view leads
  | cons exchange later ih =>
    rw [Leads, same]
    exact ⟨leads.1, ih leads.2⟩

end Exchange

end Stencil.Script
