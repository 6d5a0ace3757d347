import Stencil.Value.Basic

/-!
# Stores

The names a template may use, in scopes around each other. A name means what the innermost scope
that has it says. Setting a name changes the innermost scope only, so everything outside is as
before once that scope is closed.
-/

namespace Stencil

/-- Names with their values, the latest first. -/
abbrev Scope := List (String × Value)

/-- Scopes around each other. -/
structure Store where
  /-- The innermost scope. -/
  inner : Scope
  /-- The scopes around it, from the inside out. -/
  outer : List Scope
deriving Repr, Inhabited

namespace Store

/-- One scope without names. -/
def empty : Store := ⟨[], []⟩

/-- Open a scope without names inside. -/
def push (store : Store) : Store := ⟨[], store.inner :: store.outer⟩

/-- Close the innermost scope; the outermost one stays open. -/
def pop? (store : Store) : Option Store :=
  match store.outer with
  | [] => none
  | scope :: rest => some ⟨scope, rest⟩

/-- Give a name a value in the innermost scope. -/
def set (store : Store) (name : String) (value : Value) : Store :=
  { store with inner := (name, value) :: store.inner }

/-- The value of a name in the innermost scope that has it. -/
def get? (store : Store) (name : String) : Option Value :=
  (store.inner :: store.outer).findSome? fun scope => scope.lookup name

/-- The value of a name; null when no scope has it. -/
def resolve (store : Store) (name : String) : Value := (store.get? name).getD .null

/-- Set names one after another. -/
def setAll (store : Store) (bindings : List (String × Value)) : Store :=
  bindings.foldl (fun store binding => store.set binding.1 binding.2) store

/-- An opened scope hides nothing. -/
theorem get?_push (store : Store) (name : String) : store.push.get? name = store.get? name := rfl

/-- A name that was set has its value. -/
theorem get?_set_self (store : Store) (name : String) (value : Value) :
    (store.set name value).get? name = some value := by
  simp [get?, set]

/-- Setting a name leaves the others as they were. -/
theorem get?_set_of_ne (store : Store) {name other : String} (value : Value)
    (different : other ≠ name) : (store.set name value).get? other = store.get? other := by
  have unequal : (other == name) = false := by simpa using different
  simp only [get?, set, List.findSome?_cons, List.lookup_cons, unequal]

/-- A name that was set means its value. -/
theorem resolve_set_self (store : Store) (name : String) (value : Value) :
    (store.set name value).resolve name = value := by
  rw [resolve, get?_set_self, Option.getD_some]

/-- Setting a name leaves what the others mean. -/
theorem resolve_set_of_ne (store : Store) {name other : String} (value : Value)
    (different : other ≠ name) : (store.set name value).resolve other = store.resolve other := by
  rw [resolve, get?_set_of_ne store value different, resolve]

/-- In an opened scope names mean what they meant outside. -/
theorem resolve_push (store : Store) (name : String) :
    store.push.resolve name = store.resolve name := by
  rw [resolve, get?_push, resolve]

end Store

end Stencil
