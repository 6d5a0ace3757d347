import Mathlib.Data.List.Infix
import Stencil.Evaluation.Store

/-!
# Scopes over whole runs

A store is used over time: scopes are opened and closed, names are set and looked up. The main
statement is that, whatever was done, a name has the value it was given last in the innermost scope
that is still open and in which it was given one at all. What a setting in an open scope is, is said
of the operations alone: since then, at no point more scopes were closed than opened.
-/

namespace Stencil

/-- What is found first is found in an item behind items in which nothing is found. -/
theorem findSome?_eq_some_iff_getElem? {α β : Type} {find : α → Option β} {items : List α}
    {found : β} : items.findSome? find = some found ↔ ∃ index : Nat,
      items[index]?.bind find = some found ∧
        ∀ earlier < index, items[earlier]?.bind find = none := by
  induction items with
  | nil => simp
  | cons first rest ih =>
    rw [List.findSome?_cons]
    cases here : find first with
    | some other =>
      constructor
      · rintro ⟨⟩
        exact ⟨0, by simpa using here, nofun⟩
      · rintro ⟨index, inside, nothing⟩
        cases index with
        | zero => simpa [here] using inside
        | succ index => simpa [here] using nothing 0 (Nat.succ_pos index)
    | none =>
      dsimp only
      rw [ih]
      constructor
      · rintro ⟨index, inside, nothing⟩
        refine ⟨index + 1, inside, fun earlier less => ?_⟩
        cases earlier with
        | zero => simpa using here
        | succ earlier => exact nothing earlier (Nat.lt_of_succ_lt_succ less)
      · rintro ⟨index, inside, nothing⟩
        cases index with
        | zero => simp [here] at inside
        | succ index =>
          exact ⟨index, inside, fun earlier less => nothing (earlier + 1) (Nat.succ_lt_succ less)⟩

namespace Store

/-- What is done to a store. -/
inductive Operation where
  /-- Open a scope inside. -/
  | push
  /-- Close the innermost scope. -/
  | pop
  /-- Give a name a value in the innermost scope. -/
  | set (name : String) (value : Value)
  /-- Look a name up. -/
  | get (name : String)

/-- The store after an operation; the outermost scope cannot be closed. -/
def perform? (store : Store) : Operation → Option Store
  | .push => some store.push
  | .pop => store.pop?
  | .set name value => some (store.set name value)
  | .get _ => some store

/-- The store after operations in a row, when each of them can be done. -/
def run? (store : Store) (operations : List Operation) : Option Store :=
  operations.foldlM perform? store

/-- What an operation answers: a lookup what it finds, and the others nothing. -/
def answer (store : Store) : Operation → List (Option Value)
  | .get name => [store.get? name]
  | .push | .pop | .set _ _ => []

/-- What operations in a row answer, up to the first one that cannot be done. -/
def answers (store : Store) : List Operation → List (Option Value)
  | [] => []
  | operation :: rest =>
    match store.perform? operation with
    | none => []
    | some after => store.answer operation ++ after.answers rest

variable {store after : Store} {operations since : List Operation} {operation : Operation}
  {name : String} {value : Value}

/-- Operations in a row and one more. -/
theorem run?_append_singleton (store : Store) (operations : List Operation)
    (operation : Operation) :
    store.run? (operations ++ [operation]) =
      (store.run? operations).bind (perform? · operation) := by
  simp only [run?, List.foldlM_append, List.foldlM_cons, List.foldlM_nil, bind_pure,
    Option.bind_eq_bind]

/-- What is answered behind operations does not depend on how the store there came about. -/
theorem answers_append (ran : store.run? operations = some after) (rest : List Operation) :
    store.answers (operations ++ rest) = store.answers operations ++ after.answers rest := by
  induction operations generalizing store with
  | nil =>
    cases ran
    rfl
  | cons operation operations ih =>
    rw [run?, List.foldlM_cons] at ran
    obtain ⟨next, applied, ran⟩ := Option.bind_eq_some_iff.mp ran
    rw [List.cons_append, answers, answers, applied]
    dsimp only
    rw [ih ran, List.append_assoc]

/-! ## How many scopes are open -/

namespace Operation

/-- How many scopes an operation opens, less those it closes. -/
def shift : Operation → Int
  | push => 1
  | pop => -1
  | set _ _ | get _ => 0

/-- How many scopes operations in a row open, less those they close. -/
def gain : List Operation → Int
  | [] => 0
  | operation :: rest => operation.shift + gain rest

/-- The scope in which operations start is still open behind them: at no point more scopes have
been closed than opened. -/
def KeepsScope (operations : List Operation) : Prop :=
  ∀ front, front <+: operations → 0 ≤ gain front

@[simp] theorem gain_append (first second : List Operation) :
    gain (first ++ second) = gain first + gain second := by
  induction first with
  | nil => rw [List.nil_append, gain, Int.zero_add]
  | cons operation rest ih => rw [List.cons_append, gain, ih, gain, Int.add_assoc]

@[simp] theorem gain_singleton (operation : Operation) : gain [operation] = operation.shift := by
  rw [gain, gain, Int.add_zero]

/-- Doing nothing closes nothing. -/
theorem keepsScope_nil : KeepsScope [] := by
  intro front inside
  rw [List.prefix_nil.mp inside]
  exact Int.le_refl 0

/-- One more operation closes the scope unless enough scopes are open inside. -/
theorem keepsScope_append_singleton_iff : KeepsScope (operations ++ [operation]) ↔
    KeepsScope operations ∧ 0 ≤ gain operations + operation.shift := by
  constructor
  · intro keeps
    have whole := keeps _ (List.prefix_refl _)
    rw [gain_append, gain_singleton] at whole
    exact ⟨fun front inside => keeps front (inside.trans (List.prefix_append _ _)), whole⟩
  · rintro ⟨keeps, enough⟩ front inside
    rcases List.prefix_concat_iff.mp inside with rfl | shorter
    · rwa [gain_append, gain_singleton]
    · exact keeps front shorter

/-- While the scope is kept, no scopes are missing. -/
theorem KeepsScope.gain_nonneg (keeps : KeepsScope operations) : 0 ≤ gain operations :=
  keeps operations (List.prefix_refl _)

end Operation

open Operation (gain shift KeepsScope keepsScope_nil keepsScope_append_singleton_iff)

/-- Operations that keep the scope they start in can be done, and change nothing around it. -/
theorem exists_run?_eq_some (store : Store) (keeps : KeepsScope operations) :
    ∃ inner opened, store.run? operations = some ⟨inner, opened ++ store.outer⟩ ∧
      (opened.length : Int) = gain operations := by
  induction operations using List.reverseRecOn with
  | nil => exact ⟨store.inner, [], rfl, rfl⟩
  | append_singleton operations operation ih =>
    obtain ⟨keeps, enough⟩ := keepsScope_append_singleton_iff.mp keeps
    obtain ⟨inner, opened, ran, counted⟩ := ih keeps
    rw [run?_append_singleton, ran, Option.bind_some, Operation.gain_append,
      Operation.gain_singleton]
    cases operation with
    | push =>
      refine ⟨[], inner :: opened, rfl, ?_⟩
      rw [List.length_cons, shift]
      omega
    | pop =>
      rw [shift] at enough ⊢
      cases opened with
      | nil =>
        rw [List.length_nil] at counted
        omega
      | cons scope opened =>
        refine ⟨scope, opened, rfl, ?_⟩
        rw [List.length_cons] at counted
        omega
    | set name value => exact ⟨(name, value) :: inner, opened, rfl, by rw [shift]; omega⟩
    | get name => exact ⟨inner, opened, rfl, by rw [shift]; omega⟩

/-- From a store of one scope, exactly those operations can be done that keep this scope. -/
theorem keepsScope_iff_exists_run? :
    KeepsScope operations ↔ ∃ after, empty.run? operations = some after := by
  constructor
  · intro keeps
    obtain ⟨inner, opened, ran, -⟩ := exists_run?_eq_some empty keeps
    exact ⟨_, ran⟩
  · rintro ⟨after, ran⟩
    induction operations using List.reverseRecOn generalizing after with
    | nil => exact keepsScope_nil
    | append_singleton operations operation ih =>
      rw [run?_append_singleton] at ran
      obtain ⟨before, ranBefore, applied⟩ := Option.bind_eq_some_iff.mp ran
      have keeps := ih before ranBefore
      refine keepsScope_append_singleton_iff.mpr ⟨keeps, ?_⟩
      have nonneg := keeps.gain_nonneg
      cases operation with
      | pop =>
        obtain ⟨inner, opened, same, counted⟩ := exists_run?_eq_some empty keeps
        obtain rfl := Option.some.inj (ranBefore.symm.trans same)
        cases opened with
        | nil => cases applied
        | cons scope opened =>
          rw [List.length_cons] at counted
          rw [shift]
          omega
      | push | set | get => rw [shift]; omega

/-- A scope that was opened and whose closing follows leaves nothing behind. -/
theorem run?_balanced (store : Store) (keeps : KeepsScope operations)
    (balanced : gain operations = 0) :
    store.run? (.push :: (operations ++ [.pop])) = some store := by
  obtain ⟨inner, opened, ran, counted⟩ := exists_run?_eq_some store.push keeps
  obtain rfl : opened = [] := List.eq_nil_of_length_eq_zero (by omega)
  have first : store.run? (.push :: (operations ++ [.pop])) =
      store.push.run? (operations ++ [.pop]) := rfl
  rw [first, run?_append_singleton, ran]
  rfl

/-- A setting is gone with its scope, and the scopes around it are as they were. -/
theorem run?_set_pop (store : Store) (name : String) (value : Value) (depth : Nat) :
    (store.set name value).run? (List.replicate (depth + 1) .pop) =
      store.run? (List.replicate (depth + 1) .pop) := rfl

/-! ## Settings in open scopes -/

/-- A name was given a value in a scope that is still open, in front of the operations since. -/
def Gives (operations : List Operation) (name : String) (value : Value)
    (since : List Operation) : Prop :=
  (∃ before, operations = before ++ .set name value :: since) ∧ KeepsScope since

/-- A name was given a value last in a scope, so many scopes around the innermost one. -/
def GivesLast (operations : List Operation) (depth : Int) (name : String) (value : Value) : Prop :=
  ∃ since, Gives operations name value since ∧ gain since = depth ∧
    ∀ other later, Gives operations name other later → gain later = depth →
      since.length ≤ later.length

/-- A scope with a setting of a name has a last one. -/
theorem Gives.exists_last (given : Gives operations name value since) :
    ∃ last, GivesLast operations (gain since) name last := by
  induction length : since.length using Nat.strongRecOn generalizing value since with
  | ind count ih =>
    by_cases later : ∃ other further, Gives operations name other further ∧
        gain further = gain since ∧ further.length < count
    · obtain ⟨other, further, givenLater, same, shorter⟩ := later
      rw [← same]
      exact ih further.length shorter givenLater rfl
    · refine ⟨value, since, given, rfl, fun other further also same => ?_⟩
      rw [length]
      exact Nat.le_of_not_lt fun shorter => later ⟨other, further, also, same, shorter⟩

/-- The setting of a name that counts: in the innermost open scope with one, the latest. -/
structure IsCurrent (operations : List Operation) (name : String) (value : Value)
    (since : List Operation) : Prop where
  /-- It is a setting in an open scope. -/
  given : Gives operations name value since
  /-- No open scope further in has a setting of the name. -/
  innermost : ∀ other later, Gives operations name other later → gain since ≤ gain later
  /-- Its scope has no later setting of the name. -/
  latest : ∀ other later, Gives operations name other later → gain later = gain since →
    since.length ≤ later.length

/-- Behind one more operation, that one is a setting, or a setting is one of those before whose
scope is not closed by it. -/
theorem gives_append_singleton_iff : Gives (operations ++ [operation]) name value since ↔
    (since = [] ∧ operation = .set name value) ∨
      ∃ earlier, since = earlier ++ [operation] ∧ Gives operations name value earlier ∧
        0 ≤ gain since := by
  constructor
  · rintro ⟨⟨before, whole⟩, keeps⟩
    cases since using List.reverseRecOn with
    | nil =>
      obtain ⟨-, same⟩ := List.append_inj' whole rfl
      exact .inl ⟨rfl, (List.cons.inj same).1⟩
    | append_singleton earlier last =>
      rw [← List.cons_append, ← List.append_assoc] at whole
      obtain ⟨parts, same⟩ := List.append_inj' whole rfl
      obtain rfl := (List.cons.inj same).1
      exact .inr ⟨earlier, rfl, ⟨⟨before, parts⟩, (keepsScope_append_singleton_iff.mp keeps).1⟩,
        keeps.gain_nonneg⟩
  · rintro (⟨rfl, rfl⟩ | ⟨earlier, rfl, ⟨⟨before, rfl⟩, keeps⟩, enough⟩)
    · exact ⟨⟨operations, rfl⟩, keepsScope_nil⟩
    · rw [Operation.gain_append, Operation.gain_singleton] at enough
      exact ⟨⟨before, by simp⟩, keepsScope_append_singleton_iff.mpr ⟨keeps, enough⟩⟩

/-- The last settings in the scopes are those before an operation that sets another name or none,
with the scopes shifted. -/
theorem givesLast_append_of_ne {depth : Int} (other : ∀ value, operation ≠ .set name value) :
    GivesLast (operations ++ [operation]) depth name value ↔
      0 ≤ depth ∧ GivesLast operations (depth - operation.shift) name value := by
  have gives {value : Value} {since : List Operation} :
      Gives (operations ++ [operation]) name value since ↔ ∃ earlier,
        since = earlier ++ [operation] ∧ Gives operations name value earlier ∧ 0 ≤ gain since := by
    rw [gives_append_singleton_iff]
    exact or_iff_right fun here => other value here.2
  constructor
  · rintro ⟨since, given, rfl, latest⟩
    obtain ⟨earlier, rfl, before, enough⟩ := gives.mp given
    refine ⟨enough, earlier, before, by simp, fun value later also same => ?_⟩
    have same : gain (later ++ [operation]) = gain (earlier ++ [operation]) := by
      simp only [Operation.gain_append, Operation.gain_singleton] at same ⊢
      omega
    have shorter := latest value _ (gives.mpr ⟨later, rfl, also, same ▸ enough⟩) same
    simpa using shorter
  · rintro ⟨nonneg, earlier, before, placed, latest⟩
    have depthIs : gain (earlier ++ [operation]) = depth := by
      rw [Operation.gain_append, Operation.gain_singleton]
      omega
    refine ⟨earlier ++ [operation], gives.mpr ⟨earlier, rfl, before, depthIs ▸ nonneg⟩, depthIs,
      fun value later also same => ?_⟩
    obtain ⟨later, rfl, alsoBefore, -⟩ := gives.mp also
    rw [Operation.gain_append, Operation.gain_singleton] at same
    have shorter := latest value later alsoBefore (by omega)
    simpa using shorter

/-- A setting is the last one in the innermost scope, and leaves those in the scopes around it. -/
theorem givesLast_append_set {depth : Int} {given : Value} :
    GivesLast (operations ++ [.set name given]) depth name value ↔
      if depth = 0 then value = given else 0 ≤ depth ∧ GivesLast operations depth name value := by
  have now : Gives (operations ++ [.set name given]) name given [] :=
    gives_append_singleton_iff.mpr (.inl ⟨rfl, rfl⟩)
  have stays (earlier : List Operation) : gain (earlier ++ [.set name given]) = gain earlier := by
    simp [shift]
  split
  · rename_i inner
    subst inner
    constructor
    · rintro ⟨since, before, -, latest⟩
      have shortest := latest given [] now rfl
      rcases gives_append_singleton_iff.mp before with ⟨-, same⟩ | ⟨earlier, rfl, -, -⟩
      · exact (Operation.set.inj same).2.symm
      · simp at shortest
    · rintro rfl
      exact ⟨[], now, rfl, fun _ _ _ _ => Nat.zero_le _⟩
  · rename_i outer
    constructor
    · rintro ⟨since, before, rfl, latest⟩
      rcases gives_append_singleton_iff.mp before with ⟨rfl, -⟩ | ⟨earlier, rfl, before, enough⟩
      · exact absurd rfl outer
      · refine ⟨enough, earlier, before, (stays earlier).symm, fun value later also same => ?_⟩
        rw [← stays later] at same
        have shorter := latest value _
          (gives_append_singleton_iff.mpr (.inr ⟨later, rfl, also, same ▸ enough⟩)) same
        simpa using shorter
    · rintro ⟨nonneg, earlier, before, rfl, latest⟩
      rw [← stays earlier] at nonneg
      refine ⟨earlier ++ [.set name given],
        gives_append_singleton_iff.mpr (.inr ⟨earlier, rfl, before, nonneg⟩), stays earlier,
        fun value later also same => ?_⟩
      rcases gives_append_singleton_iff.mp also with ⟨rfl, -⟩ | ⟨later, rfl, also, -⟩
      · exact absurd same.symm outer
      · rw [stays later] at same
        have shorter := latest value later also same
        simpa using shorter

/-! ## What a store knows -/

/-- The value of a name in the scope so many scopes around the innermost one. -/
def lookupAt (store : Store) (depth : Nat) (name : String) : Option Value :=
  (store.inner :: store.outer)[depth]?.bind (List.lookup name)

/-- Every scope of a store knows the last settings of names in it. -/
theorem lookupAt_eq_some_iff (ran : empty.run? operations = some store) (depth : Nat)
    (name : String) (value : Value) :
    store.lookupAt depth name = some value ↔ GivesLast operations depth name value := by
  induction operations using List.reverseRecOn generalizing store depth with
  | nil =>
    cases ran
    have nothing : empty.lookupAt depth name = none := by cases depth <;> rfl
    rw [nothing]
    refine ⟨nofun, ?_⟩
    rintro ⟨since, ⟨⟨before, whole⟩, -⟩, -⟩
    simp at whole
  | append_singleton operations operation ih =>
    rw [run?_append_singleton] at ran
    obtain ⟨before, ranBefore, applied⟩ := Option.bind_eq_some_iff.mp ran
    have known := ih ranBefore
    cases operation with
    | push =>
      cases applied
      rw [givesLast_append_of_ne (by simp), shift]
      cases depth with
      | zero =>
        refine ⟨nofun, ?_⟩
        rintro ⟨-, since, given, missing, -⟩
        have nonneg := given.2.gain_nonneg
        omega
      | succ depth =>
        have same : ((depth + 1 : Nat) : Int) - 1 = depth := by omega
        rw [same, and_iff_right (by omega)]
        exact known depth
    | pop =>
      have around : store.lookupAt depth name = before.lookupAt (depth + 1) name := by
        obtain ⟨inner, outer⟩ := before
        cases outer with
        | nil => cases applied
        | cons scope outer =>
          cases applied
          rfl
      rw [givesLast_append_of_ne (by simp), shift, around, known, and_iff_right (by omega)]
      exact Iff.rfl
    | get looked =>
      cases applied
      rw [givesLast_append_of_ne (by simp), shift, known, and_iff_right (by omega), Int.sub_zero]
    | set target given =>
      cases applied
      cases depth with
      | zero =>
        have first : (before.set target given).lookupAt 0 name =
            List.lookup name ((target, given) :: before.inner) := rfl
        by_cases same : name = target
        · subst same
          rw [first, List.lookup_cons_self, givesLast_append_set,
            if_pos (show ((0 : Nat) : Int) = 0 from rfl), Option.some.injEq]
          exact eq_comm
        · have unequal : (name == target) = false := by simpa using same
          have others : ∀ value, Operation.set target given ≠ .set name value := by
            rintro value ⟨⟩
            exact same rfl
          rw [first, List.lookup_cons, unequal, givesLast_append_of_ne others, shift,
            and_iff_right (by omega), Int.sub_zero]
          exact known 0
      | succ depth =>
        have around : (before.set target given).lookupAt (depth + 1) name =
            before.lookupAt (depth + 1) name := rfl
        rw [around, known]
        by_cases same : name = target
        · subst same
          rw [givesLast_append_set, if_neg (by omega), and_iff_right (by omega)]
        · have others : ∀ value, Operation.set target given ≠ .set name value := by
            rintro value ⟨⟩
            exact same rfl
          rw [givesLast_append_of_ne others, shift, and_iff_right (by omega), Int.sub_zero]

/-- A scope knows nothing of a name that was not set in it. -/
theorem lookupAt_eq_none_iff (ran : empty.run? operations = some store) (depth : Nat)
    (name : String) : store.lookupAt depth name = none ↔
      ∀ value since, Gives operations name value since → gain since ≠ depth := by
  rw [Option.eq_none_iff_forall_ne_some]
  simp only [ne_eq, lookupAt_eq_some_iff ran]
  refine ⟨fun unknown value since given placed => ?_, fun unset value => ?_⟩
  · obtain ⟨last, known⟩ := given.exists_last
    exact unknown last (placed ▸ known)
  · rintro ⟨since, given, placed, -⟩
    exact unset value since given placed

/-- A name has no value when no scope knows it. -/
theorem get?_eq_none_iff : store.get? name = none ↔ ∀ depth, store.lookupAt depth name = none := by
  rw [get?, List.findSome?_eq_none_iff]
  constructor
  · intro unknown depth
    rw [lookupAt]
    cases placed : (store.inner :: store.outer)[depth]? with
    | none => rfl
    | some scope => exact unknown scope (List.mem_of_getElem? placed)
  · intro unknown scope member
    obtain ⟨depth, placed⟩ := List.getElem?_of_mem member
    have known := unknown depth
    rwa [lookupAt, placed] at known

/-- The setting that counts is the last one in the innermost open scope with one. -/
theorem exists_isCurrent_iff : (∃ since, IsCurrent operations name value since) ↔
    ∃ depth : Nat, GivesLast operations depth name value ∧
      ∀ further < depth, ∀ other later, Gives operations name other later →
        gain later ≠ further := by
  constructor
  · rintro ⟨since, given, innermost, latest⟩
    have nonneg := given.2.gain_nonneg
    refine ⟨(gain since).toNat, ⟨since, given, by omega, fun other later also same => ?_⟩,
      fun further less other later also same => ?_⟩
    · exact latest other later also (by omega)
    · have around := innermost other later also
      omega
  · rintro ⟨depth, ⟨since, given, placed, latest⟩, unset⟩
    refine ⟨since, given, fun other later also => ?_, fun other later also same => ?_⟩
    · have nonneg := also.2.gain_nonneg
      by_contra inner
      exact unset (gain later).toNat (by omega) other later also (by omega)
    · exact latest other later also (same.trans placed)

/-- A store works like a stack of scopes, over every run from one scope without names. The run gets
to its end exactly when it closes no scope that was not opened. Behind it, a lookup answers what the
name was given last in the innermost open scope with a setting of it, and nothing when no open scope
has one; a setting changes nothing once its scope is closed, however many scopes are closed with it;
and a scope that is opened and closed again leaves the store as it was. -/
theorem runs_as_stack (operations : List Operation) :
    (KeepsScope operations ↔ ∃ store, empty.run? operations = some store) ∧
    ∀ store, empty.run? operations = some store →
      (∀ name rest, empty.answers (operations ++ .get name :: rest) =
        empty.answers operations ++ store.get? name :: store.answers rest) ∧
      (∀ name value, store.get? name = some value ↔
        ∃ since, IsCurrent operations name value since) ∧
      (∀ name, store.get? name = none ↔ ∀ value since, ¬Gives operations name value since) ∧
      (∀ name value depth, (store.set name value).run? (List.replicate (depth + 1) .pop) =
        store.run? (List.replicate (depth + 1) .pop)) ∧
      ∀ inside, KeepsScope inside → gain inside = 0 →
        store.run? (.push :: (inside ++ [.pop])) = some store := by
  refine ⟨keepsScope_iff_exists_run?, fun store ran => ⟨fun name rest => answers_append ran _,
    fun name value => ?_, fun name => ?_, run?_set_pop store,
    fun inside => run?_balanced store⟩⟩
  · rw [get?, findSome?_eq_some_iff_getElem?, exists_isCurrent_iff]
    simp only [← lookupAt_eq_some_iff ran, ← lookupAt_eq_none_iff ran]
    rfl
  · rw [get?_eq_none_iff]
    simp only [lookupAt_eq_none_iff ran]
    refine ⟨fun unset value since given => ?_, fun unset depth value since given _ =>
      unset value since given⟩
    have nonneg := given.2.gain_nonneg
    exact unset (gain since).toNat value since given (by omega)

/-- A name that is set again in a scope inside, and looked up in a scope further in, where another
name is set, and then in the scopes outside of that one. -/
theorem runs_as_stack_sample :
    let operations : List Operation := [.set "x" (.integer 1), .push, .set "x" (.integer 2),
      .set "x" (.integer 3), .push, .set "y" .null, .get "x", .pop]
    let store : Store := ⟨[("x", .integer 3), ("x", .integer 2)], [[("x", .integer 1)]]⟩
    let inside : List Operation := [.set "x" .null, .push, .get "x", .pop]
    empty.run? operations = some store ∧
      KeepsScope operations ∧
      empty.answers (operations ++ [.get "x", .get "y", .pop, .get "x"]) =
        [some (.integer 3), some (.integer 3), none, some (.integer 1)] ∧
      (∃ since, IsCurrent operations "x" (.integer 3) since) ∧
      (∀ value since, ¬Gives operations "y" value since) ∧
      (store.set "x" .null).run? [.pop] = store.run? [.pop] ∧
      KeepsScope inside ∧ gain inside = 0 ∧
      store.run? (.push :: (inside ++ [.pop])) = some store := by
  intro operations store inside
  have ran : empty.run? operations = some store := rfl
  have opens : KeepsScope inside := keepsScope_iff_exists_run?.mpr ⟨_, rfl⟩
  obtain ⟨complete, known⟩ := runs_as_stack operations
  obtain ⟨answered, current, unset, closed, balanced⟩ := known store ran
  exact ⟨ran, complete.mpr ⟨store, ran⟩, answered "x" _, (current "x" _).mp rfl,
    (unset "y").mp rfl, closed "x" .null 0, opens, rfl, balanced inside opens rfl⟩

end Store

end Stencil
