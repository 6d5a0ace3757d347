import Stencil.Proofs.Script.Exchanges
import Stencil.Script.Execution

/-!
# Writing the calls of a script down

While a script is executed, its calls of the generator can be written down with their answers, and
that changes nothing else. The calls lead from the place that a computation starts in to the one
that it leaves. The failure that a script remembers is that of the latest call that had one, and a
failure of the generator that ends a computation is the answer to its last call, so nothing is asked
for behind it. In straight code, where nothing is attempted, a call that fails does end it. Each way
to put computations together keeps that.
-/

namespace Stencil.Script

/-! ## Steps of computations -/

section

variable {m : Type → Type} [Monad m] [LawfulMonad m] {context : Context m}

omit [LawfulMonad m] in
/-- What follows a computation of a script starts where it has ended well. -/
theorem run_bind {α β : Type} (first : Execution m α) (next : α → Execution m β) (state : State) :
    (first >>= next).run.run state =
      (first.run.run state >>= fun
        | (.ok value, after) => (next value).run.run after
        | (.error interrupt, after) => pure (.error interrupt, after)) := by
  simp only [ExceptT.run_bind, StateT.run_bind]
  congr 1
  funext ending
  obtain ⟨result, after⟩ := ending
  cases result <;> simp

/-- A change to what a script has is made. -/
theorem run_modify (change : State → State) (state : State) :
    (modify change : Execution m Unit).run.run state = pure (.ok (), change state) := by
  have changed : (modify change : Execution m Unit) =
      ExceptT.lift (modify change : StateT State m Unit) := rfl
  rw [changed, ExceptT.run_lift]
  simp

/-- A failure of the generator is remembered, and nothing is asked for. -/
theorem run_fail {α : Type} (failure : Failure) (state : State) :
    (Execution.fail failure : Execution m α).run.run state =
      pure (.error (.failed failure []), { state with failure := some failure }) := by
  rw [Execution.fail, run_bind, run_modify, pure_bind]
  rfl

/-- A request ends as its answer says: a failure is remembered. -/
theorem run_ask (request : Request) (state : State) :
    (Execution.ask context request).run.run state =
      (context.answer request >>= fun
        | .ok () => pure (.ok .unit, state)
        | .error failure => pure (.error (.failed failure []),
            { state with failure := some failure })) := by
  rw [Execution.ask, run_bind]
  simp only [ExceptT.run_lift, StateT.run_lift, StateT.run_bind, map_eq_pure_bind, bind_assoc,
    pure_bind, StateT.run_pure]
  congr 1
  funext answer
  cases answer with
  | ok done => rfl
  | error failure => exact run_fail failure state

end

/-! ## Traces -/

/-- Where a script is executed as before, and its calls of the generator are written down with their
answers. -/
def Context.traced {m : Type → Type} [Monad m] (context : Context m) :
    Context (StateT (List Exchange) m) where
  program := context.program
  answer request := do
    let answer ← context.answer request
    modify fun exchanges => exchanges ++ [⟨request, answer⟩]
    return answer

/-- A call is answered as before, and written down behind those before it. -/
theorem Context.run_answer_traced {m : Type → Type} [Monad m] [LawfulMonad m] (context : Context m)
    (request : Request) (before : List Exchange) :
    (context.traced.answer request).run before =
      (fun answer => (answer, before ++ [⟨request, answer⟩])) <$> context.answer request := by
  simp [traced]

/-- A computation of a script whose calls are answered in a place of two parts. -/
abbrev Plain (First Second α : Type) := Execution (StateT First (StateM Second)) α

/-- A computation of a script whose calls are written down. -/
abbrev Traced (First Second α : Type) :=
  Execution (StateT (List Exchange) (StateT First (StateM Second))) α

/-- The failure of the generator that a computation ends with, if it does. -/
def failureOf {α : Type} : Except Interrupt α → Option Failure
  | .error (.failed failure _) => some failure
  | _ => none

namespace Context

variable {First Second α β : Type}

/-- The answer to a request in a place, and the place it leaves. -/
def reply (context : Context (StateT First (StateM Second))) (place : First × Second)
    (request : Request) : Except Failure Unit × First × Second :=
  let ((answer, first), second) := ((context.answer request).run place.1).run place.2
  (answer, first, second)

/-- Whether calls account for how a computation ends that starts with some failure to remember: they
lead from its place to the one it leaves, it remembers the latest failure, and a failure of the
generator that ends it is the answer to the last call. When its code is straight, so that nothing is
attempted in it, it does end with the failure of a call that fails. -/
structure Accounts (context : Context (StateT First (StateM Second))) (straight : Prop)
    (place : First × Second) (remembered : Option Failure) (exchanges : List Exchange)
    (ended : ((Except Interrupt α × State) × First) × Second) : Prop where
  /-- The calls lead to the place that is left. -/
  leads : Exchange.Leads context.reply place exchanges (ended.1.2, ended.2)
  /-- The latest failure is remembered. -/
  latest : ended.1.1.2.failure = (Exchange.latestFailure? exchanges).or remembered
  /-- A failure of the generator is the answer to the last call. -/
  last : ∀ failure, failureOf ended.1.1.1 = some failure →
    ∃ earlier request, exchanges = earlier ++ [⟨request, .error failure⟩]
  /-- A call that fails ends straight code. -/
  stops : straight → ∀ exchange ∈ exchanges, ∀ failure, exchange.answer = .error failure →
    failureOf ended.1.1.1 = some failure

/-- Whether a computation with its calls written down is another one without, and they account for
how it ends. -/
def Traces (context : Context (StateT First (StateM Second))) (straight : Prop)
    (plain : Plain First Second α) (traced : Traced First Second α) : Prop :=
  ∀ state first second before, ∃ exchanges,
    let ended := ((plain.run.run state).run first).run second
    (((traced.run.run state).run before).run first).run second =
        (((ended.1.1, before ++ exchanges), ended.1.2), ended.2) ∧
      context.Accounts straight (first, second) state.failure exchanges ended

variable {context : Context (StateT First (StateM Second))} {straight : Prop}

namespace Accounts

variable {place : First × Second} {remembered : Option Failure} {exchanges : List Exchange}

/-- No calls account for a computation that makes none. -/
theorem nil {result : Except Interrupt α} {state : State} (kept : state.failure = remembered)
    (noFailure : failureOf result = none) :
    context.Accounts straight place remembered [] (((result, state), place.1), place.2) where
  leads := rfl
  latest := kept
  last failure failed := by
    rw [noFailure] at failed
    cases failed
  stops _ _ member := by cases member

/-- Calls account for an ending with the same failure that remembers the same one. -/
theorem congr {ended : ((Except Interrupt α × State) × First) × Second}
    (accounts : context.Accounts straight place remembered exchanges ended)
    {result : Except Interrupt β} {state : State} (kept : state.failure = ended.1.1.2.failure)
    (same : failureOf result = failureOf ended.1.1.1) :
    context.Accounts straight place remembered exchanges
      (((result, state), ended.1.2), ended.2) where
  leads := accounts.leads
  latest := kept.trans accounts.latest
  last failure failed := accounts.last failure (same.symm.trans failed)
  stops bare exchange member failure failed :=
    same.trans (accounts.stops bare exchange member failure failed)

/-- A call accounts for an ending that is as its answer says. -/
theorem single {request : Request} {answer : Except Failure Unit} {left : First × Second}
    (replied : context.reply place request = (answer, left)) {result : Except Interrupt α}
    {state : State} (kept : state.failure = (Exchange.failure? ⟨request, answer⟩).or remembered)
    (ends : failureOf result = Exchange.failure? ⟨request, answer⟩) :
    context.Accounts straight place remembered [⟨request, answer⟩]
      (((result, state), left.1), left.2) where
  leads := by
    rw [Exchange.Leads, Exchange.Leads, replied]
    exact ⟨rfl, rfl⟩
  latest := by
    rw [Exchange.latestFailure?_singleton]
    exact kept
  last failure failed := by
    have refused : answer = .error failure :=
      Exchange.failure?_eq_some_iff.mp (ends.symm.trans failed)
    exact ⟨[], request, by rw [refused, List.nil_append]⟩
  stops bare exchange member failure refused := by
    obtain rfl := List.mem_singleton.mp member
    exact ends.trans (Exchange.failure?_eq_some_iff.mpr refused)

/-- What follows a computation accounts for its ending together with the calls before it. -/
theorem append {result : Except Interrupt α} {state : State} {first : First} {second : Second}
    (accounts : context.Accounts straight place remembered exchanges
      (((result, state), first), second))
    (goesOn : straight → failureOf result = none) {later : List Exchange}
    {ended : ((Except Interrupt β × State) × First) × Second}
    (others : context.Accounts straight (first, second) state.failure later ended) :
    context.Accounts straight place remembered (exchanges ++ later) ended where
  leads := Exchange.leads_append.mpr ⟨(first, second), accounts.leads, others.leads⟩
  latest := by
    have before : state.failure = (Exchange.latestFailure? exchanges).or remembered :=
      accounts.latest
    rw [others.latest, before, Exchange.latestFailure?_append, Option.or_assoc]
  last failure failed := by
    obtain ⟨earlier, request, same⟩ := others.last failure failed
    exact ⟨exchanges ++ earlier, request, by rw [same, List.append_assoc]⟩
  stops bare exchange member failure failed := by
    rcases List.mem_append.mp member with early | late
    · -- no call before has failed, since the computation has gone on
      have stopped : failureOf result = some failure :=
        accounts.stops bare exchange early failure failed
      rw [goesOn bare] at stopped
      cases stopped
    · exact others.stops bare exchange late failure failed

end Accounts

namespace Traces

/-- A computation that makes no calls and neither fails as the generator nor forgets a failure. -/
theorem quiet {plain : Plain First Second α} {traced : Traced First Second α}
    (step : State → Except Interrupt α × State)
    (here : ∀ state, plain.run.run state = pure (step state))
    (there : ∀ state, traced.run.run state = pure (step state))
    (keeps : ∀ state, (step state).2.failure = state.failure)
    (noFailure : ∀ state, failureOf (step state).1 = none) :
    context.Traces straight plain traced := by
  intro state first second before
  refine ⟨[], ?_, ?_⟩
  · rw [here, there, List.append_nil]
    rfl
  · rw [here]
    exact .nil (keeps state) (noFailure state)

/-- A value makes no calls. -/
theorem ofValue (value : α) :
    context.Traces straight (Pure.pure value : Plain First Second α) (Pure.pure value) :=
  quiet (fun state => (.ok value, state)) (fun _ => rfl) (fun _ => rfl) (fun _ => rfl)
    fun _ => rfl

/-- An interrupt that is no failure of the generator makes no calls. -/
theorem ofInterrupt {interrupt : Interrupt}
    (other : failureOf (.error interrupt : Except Interrupt α) = none) :
    context.Traces straight (MonadExcept.throw interrupt : Plain First Second α)
      (MonadExcept.throw interrupt) :=
  quiet (fun state => (.error interrupt, state)) (fun _ => rfl) (fun _ => rfl) (fun _ => rfl)
    fun _ => other

/-- Looking at what a script has makes no calls. -/
theorem looks :
    context.Traces straight (MonadState.get : Plain First Second State) MonadState.get :=
  quiet (fun state => (.ok state, state)) (fun _ => rfl) (fun _ => rfl) (fun _ => rfl)
    fun _ => rfl

/-- Changing the variables of a script makes no calls. -/
theorem modifies {change : State → State}
    (keeps : ∀ state, (change state).failure = state.failure) :
    context.Traces straight (modify change : Plain First Second Unit) (modify change) :=
  quiet (fun state => (.ok (), change state)) (fun _ => rfl) (fun _ => rfl) keeps fun _ => rfl

/-- A computation that goes on makes the calls of its first part, and then those of the other. -/
theorem andThen {plain : Plain First Second α} {traced : Traced First Second α}
    {next : α → Plain First Second β} {nextTraced : α → Traced First Second β}
    (traces : context.Traces straight plain traced)
    (others : ∀ value, context.Traces straight (next value) (nextTraced value)) :
    context.Traces straight (plain >>= next) (traced >>= nextTraced) := by
  intro state first second before
  obtain ⟨exchanges, same, accounts⟩ := traces state first second before
  unfold ExceptT.run StateT.run at same accounts ⊢
  simp only [Bind.bind, ExceptT.bind, ExceptT.mk, StateT.bind, ExceptT.bindCont]
  rw [same]
  cases ended : plain state first second with
  | mk outcome rest =>
    obtain ⟨⟨result, after⟩, place⟩ := outcome
    rw [ended] at accounts
    cases result with
    | ok value =>
      obtain ⟨later, sameLater, accountsLater⟩ :=
        others value after place rest (before ++ exchanges)
      refine ⟨exchanges ++ later, ?_, accounts.append (fun _ => rfl) accountsLater⟩
      rw [← List.append_assoc]
      exact sameLater
    | error interrupt =>
      refine ⟨exchanges, rfl, accounts.congr rfl ?_⟩
      cases interrupt <;> rfl

/-- What happens around a computation makes no calls, as long as it remembers the same failure and
fails in the same way. -/
theorem around {plain : Plain First Second α} {traced : Traced First Second α}
    {wrapped : Plain First Second β} {wrappedTraced : Traced First Second β}
    (traces : context.Traces straight plain traced) (enter : State → State)
    (leave : State → Except Interrupt α × State → Except Interrupt β × State)
    (here : ∀ state, wrapped.run.run state = leave state <$> plain.run.run (enter state))
    (there : ∀ state, wrappedTraced.run.run state = leave state <$> traced.run.run (enter state))
    (keepsBefore : ∀ state, (enter state).failure = state.failure)
    (keepsAfter : ∀ state ended, (leave state ended).2.failure = ended.2.failure)
    (fails : ∀ state ended, failureOf (leave state ended).1 = failureOf ended.1) :
    context.Traces straight wrapped wrappedTraced := by
  intro state first second before
  obtain ⟨exchanges, same, accounts⟩ := traces (enter state) first second before
  rw [keepsBefore] at accounts
  refine ⟨exchanges, ?_, ?_⟩
  · rw [here, there]
    exact congrArg
      (fun ended => (((leave state ended.1.1.1, ended.1.1.2), ended.1.2), ended.2)) same
  · rw [here]
    exact accounts.congr (keepsAfter state _) (fails state _)

/-- A fault makes no calls. -/
theorem fault (message : String) :
    context.Traces straight (Execution.fault message : Plain First Second α)
      (Execution.fault message) :=
  ofInterrupt rfl

/-- An operation makes no calls. -/
theorem ofComputed (computed : Computed α) :
    context.Traces straight (Execution.ofComputed computed : Plain First Second α)
      (Execution.ofComputed computed) := by
  cases computed with
  | ok value => exact ofValue value
  | error message => exact fault message

/-- A request is a call, and its failure is the one that ends the computation. -/
theorem ask (request : Request) :
    context.Traces straight (Execution.ask context request)
      (Execution.ask context.traced request) := by
  intro state first second before
  cases ended : ((context.answer request).run first).run second with
  | mk outcome later =>
    obtain ⟨result, place⟩ := outcome
    have written : (((context.traced.answer request).run before).run first).run second =
        (((result, before ++ [⟨request, result⟩]), place), later) := by
      rw [run_answer_traced]
      exact congrArg (fun ended =>
        (((ended.1.1, before ++ [⟨request, ended.1.1⟩]), ended.1.2), ended.2)) ended
    have replied : context.reply (first, second) request = (result, place, later) := by
      rw [reply, ended]
    simp only [run_ask, StateT.run_bind, ended, written]
    refine ⟨[⟨request, result⟩], ?_⟩
    cases result with
    | ok done => exact ⟨rfl, .single replied rfl rfl⟩
    | error failure => exact ⟨rfl, .single replied rfl rfl⟩

/-- A block makes the calls of its computation. -/
theorem enclosed {plain : Plain First Second α} {traced : Traced First Second α}
    (traces : context.Traces straight plain traced) :
    context.Traces straight (Execution.enclosed plain) (Execution.enclosed traced) :=
  traces.around id
    (fun state ended => (ended.1, { ended.2 with
      locals := ended.2.locals.drop (ended.2.locals.length - state.locals.length) }))
    (fun _ => rfl) (fun _ => rfl) (fun _ => rfl) (fun _ _ => rfl) fun _ _ => rfl

/-- A computation with variables of its own makes the calls that it makes with others. -/
theorem isolated {plain : Plain First Second α} {traced : Traced First Second α}
    (locals : List Variable) (traces : context.Traces straight plain traced) :
    context.Traces straight (Execution.isolated locals plain) (Execution.isolated locals traced) :=
  traces.around (fun state => { state with locals })
    (fun state ended => (ended.1, { ended.2 with locals := state.locals }))
    (fun _ => rfl) (fun _ => rfl) (fun _ => rfl) (fun _ _ => rfl) fun _ _ => rfl

/-- A function makes the calls of its body, and hands on the failure that ends it. -/
theorem leaving (function : String) {plain : Plain First Second Value}
    {traced : Traced First Second Value} (traces : context.Traces straight plain traced) :
    context.Traces straight (ExceptT.mk (do return Execution.leaving function (← plain.run)))
      (ExceptT.mk (do return Execution.leaving function (← traced.run))) := by
  refine traces.around id (fun _ ended => (Execution.leaving function ended.1, ended.2))
    (fun _ => rfl) (fun _ => rfl) (fun _ => rfl) (fun _ _ => rfl) fun _ ended => ?_
  obtain ⟨result, after⟩ := ended
  cases result with
  | ok value => rfl
  | error interrupt => cases interrupt <;> rfl

/-- What a handler hands on fails as the generator only when the handler does. -/
theorem failureOf_rethrown {caught : Interrupt} {result : Except Interrupt Value}
    {failure : Failure} (failed : failureOf (Execution.rethrown caught result) = some failure) :
    failureOf result = some failure := by
  unfold Execution.rethrown at failed
  split at failed
  · cases failed
  · cases caught <;> cases failed
  · exact failed

/-- An attempt makes the calls of its body, and then those of its handler when there is something to
catch. It is nothing that straight code does. -/
theorem attempt {body : Plain First Second Value} {bodyTraced : Traced First Second Value}
    {handling : Value → Plain First Second Value}
    {handlingTraced : Value → Traced First Second Value} (crooked : ¬ straight)
    (traces : context.Traces straight body bodyTraced)
    (handles : ∀ value, context.Traces straight (handling value) (handlingTraced value)) :
    context.Traces straight
      (ExceptT.mk do
        match ← body.run with
        | .ok value => return .ok value
        | .error interrupt =>
          match Execution.caught? interrupt with
          | none => return .error interrupt
          | some value => return Execution.rethrown interrupt (← (handling value).run))
      (ExceptT.mk do
        match ← bodyTraced.run with
        | .ok value => return .ok value
        | .error interrupt =>
          match Execution.caught? interrupt with
          | none => return .error interrupt
          | some value => return Execution.rethrown interrupt (← (handlingTraced value).run)) := by
  intro state first second before
  obtain ⟨exchanges, same, accounts⟩ := traces state first second before
  unfold ExceptT.run StateT.run at same accounts ⊢
  simp only [Bind.bind, ExceptT.mk, StateT.bind]
  rw [same]
  cases ended : body state first second with
  | mk outcome rest =>
    obtain ⟨⟨result, after⟩, place⟩ := outcome
    rw [ended] at accounts
    cases result with
    | ok value => exact ⟨exchanges, rfl, accounts⟩
    | error interrupt =>
      dsimp only
      cases Execution.caught? interrupt with
      | none => exact ⟨exchanges, rfl, accounts⟩
      | some value =>
        -- the handler goes on from what the body has left
        obtain ⟨later, sameLater, accountsLater⟩ :=
          handles value after place rest (before ++ exchanges)
        have handled := accounts.append (fun bare => absurd bare crooked) accountsLater
        refine ⟨exchanges ++ later, ?_, handled.leads, handled.latest, fun failure failed =>
          handled.last failure (failureOf_rethrown failed), fun bare => absurd bare crooked⟩
        rw [← List.append_assoc]
        exact congrArg (fun handled =>
          ((((Execution.rethrown interrupt handled.1.1.1.1, handled.1.1.1.2), handled.1.1.2),
            handled.1.2), handled.2)) sameLater

/-- Looking a variable up makes no calls. -/
theorem lookup (name : String) :
    context.Traces straight (Execution.lookup name : Plain First Second Variable)
      (Execution.lookup name) := by
  refine andThen looks fun state => ?_
  cases state.locals.find? fun entry => entry.name = name with
  | some found => exact ofValue found
  | none => exact fault _

/-- Changing a variable makes no calls. -/
theorem change (name : String) (accessors : List Accessor) (update : Value → Computed Value) :
    context.Traces straight (Execution.change name accessors update : Plain First Second Unit)
      (Execution.change name accessors update) := by
  refine andThen (lookup name) fun found => ?_
  split
  · exact fault _
  · exact andThen (ofComputed _) fun value => modifies fun _ => rfl

/-- Asking for a truth value makes no calls. -/
theorem truth (value : Value) :
    context.Traces straight (Execution.truth value : Plain First Second Bool)
      (Execution.truth value) := by
  cases value with
  | boolean answer => exact ofValue answer
  | _ => exact fault _

/-- A known function makes the call that it asks for. -/
theorem callKnown (function : String) (arguments : List Value) :
    context.Traces straight (Execution.callKnown context function arguments)
      (Execution.callKnown context.traced function arguments) := by
  unfold Execution.callKnown
  cases Host.call? function arguments with
  | none => exact fault _
  | some answer =>
    cases answer with
    | value value => exact ofValue value
    | request request => exact ask request

end Traces

end Context

end Stencil.Script
