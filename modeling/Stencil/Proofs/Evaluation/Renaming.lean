import Stencil.Proofs.Evaluation.FreeNames

/-!
# Renaming what a block binds

Putting a name in the place of another one wherever that one is free is the same as rendering in a
store in which the old name means what the new one does, unless the new name is bound in between.
The main statement follows from this: the key and the value of a loop and the name of a binding can
be replaced by any name that does not occur in the block, in the header and where the body refers
to them, and the block renders as before.
-/

namespace Stencil

/-- A name, or the new one in the place of the old one. -/
def replaceName (old new name : String) : String := if name = old then new else name

/-- The new name stands in the place of the old one. -/
@[simp] theorem replaceName_self (old new : String) : replaceName old new old = new := if_pos rfl

/-- Other names are kept. -/
theorem replaceName_of_ne {old name : String} (different : name ≠ old) (new : String) :
    replaceName old new name = name := if_neg different

/-- A name becomes the new one only in the place of the old one, if it is not the new one itself. -/
theorem replaceName_eq_new_iff {old new name : String} (fresh : name ≠ new) :
    replaceName old new name = new ↔ name = old := by
  unfold replaceName
  split
  case isTrue same => exact iff_of_true rfl same
  case isFalse different => exact iff_of_false fresh different

/-- Two names become the same only when they are, unless one of them is the new name. -/
theorem replaceName_inj {old new first second : String} (firstFresh : first ≠ new)
    (secondFresh : second ≠ new) :
    replaceName old new first = replaceName old new second ↔ first = second := by
  by_cases isOld : second = old
  · rw [isOld, replaceName_self, replaceName_eq_new_iff firstFresh]
  · rw [replaceName_of_ne isOld]
    by_cases alsoOld : first = old
    · rw [alsoOld, replaceName_self]
      exact iff_of_false (Ne.symm secondFresh) (Ne.symm isOld)
    · rw [replaceName_of_ne alsoOld]

/-- Names among which the old one is not are kept. -/
theorem map_replaceName_of_notMem {old : String} {names : List String} (absent : old ∉ names)
    (new : String) : names.map (replaceName old new) = names := by
  refine (List.map_congr_left fun name member => ?_).trans (List.map_id names)
  exact replaceName_of_ne (fun same => absent (by rwa [← same])) new

/-- Renaming puts no name among others that it was not among before. -/
theorem replaceName_mem_map_iff {old new name : String} {names : List String} (fresh : name ≠ new)
    (absent : new ∉ names) :
    replaceName old new name ∈ names.map (replaceName old new) ↔ name ∈ names := by
  rw [List.mem_map]
  constructor
  · rintro ⟨other, member, same⟩
    rwa [← (replaceName_inj (fun isNew => absent (by rwa [← isNew])) fresh).mp same]
  · exact fun member => ⟨name, member, rfl⟩

/-- The names that are left when some are taken away are renamed when all are. -/
theorem filter_map_replaceName {old new : String} {names bound : List String} (fresh : new ∉ names)
    (absent : new ∉ bound) :
    (names.map (replaceName old new)).filter (fun name => name ∉ bound.map (replaceName old new)) =
      (names.filter fun name => name ∉ bound).map (replaceName old new) := by
  rw [List.filter_map]
  refine congrArg _ (List.filter_congr fun name member => ?_)
  have kept := @replaceName_mem_map_iff old new name bound (fun isNew => fresh (by rwa [← isNew]))
    absent
  simp only [Function.comp_apply, kept]

/-! ## What a renamed expression and a renamed node are -/

namespace Expr

mutual

/-- An expression with a new name in the place of an old one. -/
def rename (old new : String) : Expr → Expr
  | literal value => literal value
  | name text => name (replaceName old new text)
  | access target key => access (target.rename old new) (key.rename old new)
  | call builtin arguments => call builtin (renameItems old new arguments)
  | unary operator operand => unary operator (operand.rename old new)
  | binary operator left right => binary operator (left.rename old new) (right.rename old new)
  | array items => array (renameItems old new items)

/-- Expressions in a row with a new name in the place of an old one. -/
def renameItems (old new : String) : List Expr → List Expr
  | [] => []
  | item :: rest => item.rename old new :: renameItems old new rest

end

mutual

/-- The names of a renamed expression are those of the expression, renamed. -/
theorem names_rename (old new : String) (expression : Expr) :
    (expression.rename old new).names = expression.names.map (replaceName old new) := by
  match expression with
  | literal value => rfl
  | name text => rfl
  | access target key =>
    rw [rename, names, names, List.map_append, target.names_rename, key.names_rename]
  | call builtin arguments => rw [rename, names, names, namesAll_renameItems]
  | unary operator operand => rw [rename, names, names, operand.names_rename]
  | binary operator left right =>
    rw [rename, names, names, List.map_append, left.names_rename, right.names_rename]
  | array items => rw [rename, names, names, namesAll_renameItems]

/-- The names of renamed expressions in a row are those of the expressions, renamed. -/
theorem namesAll_renameItems (old new : String) (items : List Expr) :
    namesAll (renameItems old new items) = (namesAll items).map (replaceName old new) := by
  match items with
  | [] => rfl
  | item :: rest =>
    rw [renameItems, namesAll, namesAll, List.map_append, item.names_rename, namesAll_renameItems]

end

end Expr

/-- The names that the header of a loop binds in its body; a binding has no key. -/
def boundNames (key : Option String) (value : String) : List String := key.toList ++ [value]

/-- A name is bound as the key or as the value. -/
theorem mem_boundNames {key : Option String} {value name : String} :
    name ∈ boundNames key value ↔ key = some name ∨ name = value := by
  simp [boundNames]

namespace Node

/-- The names that a node binds in its body. -/
def binders : Node → List String
  | literal _ | output _ | conditional _ _ => []
  | loop key value _ _ _ => boundNames key value
  | binding name _ _ => boundNames none name

mutual

/-- All names that occur in a node, in headers and in expressions at every depth. -/
def names : Node → List String
  | literal _ => []
  | output expression => expression.names
  | conditional branches otherwise => namesInBranches branches ++ namesInAll otherwise
  | loop key value source body empty =>
    boundNames key value ++ source.names ++ namesInAll body ++ namesInAll empty
  | binding name value body => boundNames none name ++ value.names ++ namesInAll body

/-- All names that occur in branches. -/
def namesInBranches : List (Expr × List Node) → List String
  | [] => []
  | (condition, body) :: rest => condition.names ++ namesInAll body ++ namesInBranches rest

/-- All names that occur in nodes in a row. -/
def namesInAll : List Node → List String
  | [] => []
  | node :: rest => node.names ++ namesInAll rest

end

mutual

/-- A node with a new name in the place of an old one wherever that one is free. The body of a block
that binds the old name is left as it is; its source, its branch without entries or its value is
not. -/
def rename (old new : String) : Node → Node
  | literal text => literal text
  | output expression => output (expression.rename old new)
  | conditional branches otherwise =>
    conditional (renameBranches old new branches) (renameAll old new otherwise)
  | loop key value source body empty =>
    loop key value (source.rename old new)
      (if old ∈ boundNames key value then body else renameAll old new body)
      (renameAll old new empty)
  | binding name value body =>
    binding name (value.rename old new)
      (if old ∈ boundNames none name then body else renameAll old new body)

/-- Branches with a new name in the place of an old one wherever that one is free. -/
def renameBranches (old new : String) : List (Expr × List Node) → List (Expr × List Node)
  | [] => []
  | (condition, body) :: rest =>
    (condition.rename old new, renameAll old new body) :: renameBranches old new rest

/-- Nodes in a row with a new name in the place of an old one wherever that one is free. -/
def renameAll (old new : String) : List Node → List Node
  | [] => []
  | node :: rest => node.rename old new :: renameAll old new rest

end

/-- A block with a new name in the place of an old one that it binds: in its header, and wherever
its body refers to that binding. -/
def renameBinder (old new : String) : Node → Node
  | loop key value source body empty =>
    loop (key.map (replaceName old new)) (replaceName old new value) source
      (renameAll old new body) empty
  | binding name value body => binding (replaceName old new name) value (renameAll old new body)
  | other => other

/-! ## Free names -/

mutual

/-- A free name occurs in the node. -/
theorem freeNames_subset_names (node : Node) : node.freeNames ⊆ node.names := by
  match node with
  | literal text => exact List.Subset.refl _
  | output expression => exact List.Subset.refl _
  | conditional branches otherwise =>
    have inBranches := freeInBranches_subset branches
    have inOtherwise := freeInAll_subset otherwise
    rw [freeNames, names]
    grind
  | loop key value source body empty =>
    have inBody := freeInAll_subset body
    have inEmpty := freeInAll_subset empty
    rw [freeNames, names]
    grind
  | binding name value body =>
    have inBody := freeInAll_subset body
    rw [freeNames, names]
    grind

/-- A free name occurs in the branches. -/
theorem freeInBranches_subset (branches : List (Expr × List Node)) :
    freeInBranches branches ⊆ namesInBranches branches := by
  match branches with
  | [] => exact List.Subset.refl _
  | (condition, body) :: rest =>
    have inBody := freeInAll_subset body
    have inRest := freeInBranches_subset rest
    rw [freeInBranches, namesInBranches]
    grind

/-- A free name occurs in the nodes. -/
theorem freeInAll_subset (nodes : List Node) : freeInAll nodes ⊆ namesInAll nodes := by
  match nodes with
  | [] => exact List.Subset.refl _
  | node :: rest =>
    have inNode := node.freeNames_subset_names
    have inRest := freeInAll_subset rest
    rw [freeInAll, namesInAll]
    grind

end

/-- The free names of a loop are those of its source, of its branch without entries, and of its body
but for what it binds. -/
theorem freeNames_loop (key : Option String) (value : String) (source : Expr)
    (body empty : List Node) :
    (loop key value source body empty).freeNames = source.names ++ freeInAll empty ++
      (freeInAll body).filter fun name => name ∉ boundNames key value := by
  rw [freeNames]
  refine congrArg _ (List.filter_congr fun name _ => ?_)
  simp only [mem_boundNames, decide_eq_decide]
  grind

/-- The free names of a binding are those of its value, and of its body but for the bound one. -/
theorem freeNames_binding (name : String) (value : Expr) (body : List Node) :
    (binding name value body).freeNames = value.names ++
      (freeInAll body).filter fun other => other ∉ boundNames none name := by
  rw [freeNames]
  refine congrArg _ (List.filter_congr fun other _ => ?_)
  simp only [mem_boundNames, decide_eq_decide]
  grind

/-- What is free in a body and not bound around it is renamed with the body, which is left as it is
when the old name is bound around it. -/
theorem filter_freeInAll_body {old new : String} {bound : List String} {body : List Node}
    (fresh : new ∉ freeInAll body) (absent : new ∉ bound)
    (renamed : freeInAll (renameAll old new body) = (freeInAll body).map (replaceName old new)) :
    (freeInAll (if old ∈ bound then body else renameAll old new body)).filter
        (fun name => name ∉ bound) =
      ((freeInAll body).filter fun name => name ∉ bound).map (replaceName old new) := by
  split
  case isTrue shadowed =>
    refine (map_replaceName_of_notMem (fun free => ?_) new).symm
    exact of_decide_eq_true (List.mem_filter.mp free).2 shadowed
  case isFalse visible =>
    have whole := @filter_map_replaceName old new _ bound fresh absent
    rwa [map_replaceName_of_notMem visible, ← renamed] at whole

mutual

/-- The free names of a renamed node are those of the node, renamed: each free occurrence of the old
name is replaced, and the new name is nowhere captured. -/
theorem freeNames_rename (old : String) {new : String} (node : Node) (fresh : new ∉ node.names) :
    (node.rename old new).freeNames = node.freeNames.map (replaceName old new) := by
  match node with
  | literal text => rfl
  | output expression => exact expression.names_rename old new
  | conditional branches otherwise =>
    rw [names, List.mem_append, not_or] at fresh
    rw [rename, freeNames, freeNames, List.map_append, freeInBranches_rename old branches fresh.1,
      freeInAll_rename old otherwise fresh.2]
  | loop key value source body empty =>
    simp only [names, List.mem_append, not_or] at fresh
    obtain ⟨⟨⟨unbound, -⟩, outsideBody⟩, outsideEmpty⟩ := fresh
    have inBody := filter_freeInAll_body (fun free => outsideBody (freeInAll_subset body free))
      unbound (freeInAll_rename old body outsideBody)
    rw [rename, freeNames_loop, freeNames_loop, inBody, source.names_rename,
      freeInAll_rename old empty outsideEmpty, List.map_append, List.map_append]
  | binding name value body =>
    simp only [names, List.mem_append, not_or] at fresh
    obtain ⟨⟨unbound, -⟩, outsideBody⟩ := fresh
    have inBody := filter_freeInAll_body (fun free => outsideBody (freeInAll_subset body free))
      unbound (freeInAll_rename old body outsideBody)
    rw [rename, freeNames_binding, freeNames_binding, inBody, value.names_rename, List.map_append]

/-- The free names of renamed branches are those of the branches, renamed. -/
theorem freeInBranches_rename (old : String) {new : String} (branches : List (Expr × List Node))
    (fresh : new ∉ namesInBranches branches) :
    freeInBranches (renameBranches old new branches) =
      (freeInBranches branches).map (replaceName old new) := by
  match branches with
  | [] => rfl
  | (condition, body) :: rest =>
    simp only [namesInBranches, List.mem_append, not_or] at fresh
    rw [renameBranches, freeInBranches, freeInBranches, condition.names_rename,
      freeInAll_rename old body fresh.1.2, freeInBranches_rename old rest fresh.2, List.map_append,
      List.map_append]

/-- The free names of renamed nodes in a row are those of the nodes, renamed. -/
theorem freeInAll_rename (old : String) {new : String} (nodes : List Node)
    (fresh : new ∉ namesInAll nodes) :
    freeInAll (renameAll old new nodes) = (freeInAll nodes).map (replaceName old new) := by
  match nodes with
  | [] => rfl
  | node :: rest =>
    rw [namesInAll, List.mem_append, not_or] at fresh
    rw [renameAll, freeInAll, freeInAll, List.map_append, node.freeNames_rename old fresh.1,
      freeInAll_rename old rest fresh.2]

end

end Node

/-! ## Rendering -/

namespace Store

variable {store first second : Store} {key : Option String} {value name : String}
  {entry : Value × Value}

/-- In the body of a loop a name means what the loop binds it to, the value before the key, or what
it means outside. -/
theorem resolve_enter (store : Store) (key : Option String) (value name : String)
    (entry : Value × Value) : (store.enter key value entry).resolve name =
      if name = value then entry.2
      else if key = some name then entry.1
      else store.resolve name := by
  have set (outer : Store) (bound : String) (content : Value) :
      (outer.set bound content).resolve name =
        if name = bound then content else outer.resolve name := by
    split
    case isTrue same => rw [same, resolve_set_self]
    case isFalse different => exact resolve_set_of_ne outer content different
  cases key with
  | none => rw [enter, set, resolve_push, if_neg (Option.some_ne_none name).symm]
  | some bound =>
    rw [enter, set, set, resolve_push]
    simp only [Option.some.injEq, eq_comm]

/-- A bound name means the same whatever is outside. -/
theorem resolve_enter_of_mem (bound : name ∈ boundNames key value) :
    (first.enter key value entry).resolve name = (second.enter key value entry).resolve name := by
  rw [mem_boundNames] at bound
  rw [resolve_enter, resolve_enter]
  grind

/-- A name that is not bound means what it means outside. -/
theorem resolve_enter_of_notMem (free : name ∉ boundNames key value) :
    (store.enter key value entry).resolve name = store.resolve name := by
  rw [mem_boundNames, not_or] at free
  rw [resolve_enter, if_neg free.2, if_neg free.1]

/-- A name that means what another one means outside does so before or behind the scope of a loop
that binds neither of them. -/
theorem resolve_set_enter {old new : String} (visible : old ∉ boundNames key value)
    (unbound : new ∉ boundNames key value) :
    ((store.enter key value entry).set old ((store.enter key value entry).resolve new)).resolve
        name =
      ((store.set old (store.resolve new)).enter key value entry).resolve name := by
  by_cases isOld : name = old
  · rw [isOld, resolve_set_self, resolve_enter_of_notMem unbound, resolve_enter_of_notMem visible,
      resolve_set_self]
  · rw [resolve_set_of_ne _ _ isOld]
    by_cases bound : name ∈ boundNames key value
    · exact resolve_enter_of_mem bound
    · rw [resolve_enter_of_notMem bound, resolve_enter_of_notMem bound, resolve_set_of_ne _ _ isOld]

/-- Outside of a loop that binds it a name may mean anything. -/
theorem resolve_enter_set {old : String} {content : Value} (shadowed : old ∈ boundNames key value) :
    (store.enter key value entry).resolve name =
      ((store.set old content).enter key value entry).resolve name := by
  by_cases bound : name ∈ boundNames key value
  · exact resolve_enter_of_mem bound
  · have different : name ≠ old := fun same => bound (by rwa [same])
    rw [resolve_enter_of_notMem bound, resolve_enter_of_notMem bound,
      resolve_set_of_ne _ _ different]

/-- A name that means what another one means outside does so in a scope without names. -/
theorem resolve_set_push {old new : String} :
    (store.push.set old (store.push.resolve new)).resolve name =
      (store.set old (store.resolve new)).push.resolve name := by
  by_cases isOld : name = old
  · rw [isOld, resolve_push, resolve_push, resolve_set_self, resolve_set_self]
  · rw [resolve_set_of_ne _ _ isOld, resolve_push, resolve_push, resolve_set_of_ne _ _ isOld]

/-- Where a loop binds a new name in the place of an old one, the old name as another name for the
new one makes every name but the new one mean what it would without the replacement. -/
theorem resolve_enter_replaceName {old new : String} (bound : old ∈ boundNames key value)
    (unbound : new ∉ boundNames key value) (other : name ≠ new) :
    let renamed := store.enter (key.map (replaceName old new)) (replaceName old new value) entry
    (renamed.set old (renamed.resolve new)).resolve name =
      (store.enter key value entry).resolve name := by
  intro renamed
  rw [mem_boundNames] at bound unbound
  rw [not_or] at unbound
  have isValue : new = replaceName old new value ↔ old = value := by
    rw [eq_comm, replaceName_eq_new_iff (Ne.symm unbound.2), eq_comm]
  have isKey : key.map (replaceName old new) = some new ↔ key = some old := by
    cases key with
    | none => simp
    | some known =>
      have fresh : known ≠ new := fun same => unbound.1 (congrArg some same)
      rw [Option.map_some, Option.some.injEq, Option.some.injEq, replaceName_eq_new_iff fresh]
  by_cases isOld : name = old
  · -- The old name now stands for the new one, which the renamed header binds in its place.
    rw [isOld, resolve_set_self, resolve_enter, resolve_enter]
    simp only [isValue, isKey]
    grind
  · have keptValue : name = replaceName old new value ↔ name = value := by
      unfold replaceName
      grind
    have keptKey : key.map (replaceName old new) = some name ↔ key = some name := by
      cases key with
      | none => simp
      | some known =>
        rw [Option.map_some, Option.some.injEq, Option.some.injEq]
        unfold replaceName
        grind
    rw [resolve_set_of_ne _ _ isOld, resolve_enter, resolve_enter]
    simp only [keptValue, keptKey]

end Store

namespace Expr

mutual

/-- A renamed expression has the value that the expression has where the old name means what the new
one does. -/
theorem eval_rename (store : Store) (old new : String) (expression : Expr) :
    (expression.rename old new).eval store =
      expression.eval (store.set old (store.resolve new)) := by
  match expression with
  | literal value => rfl
  | name text =>
    rw [rename, eval, eval]
    by_cases isOld : text = old
    · rw [isOld, replaceName_self, Store.resolve_set_self]
    · rw [replaceName_of_ne isOld, Store.resolve_set_of_ne _ _ isOld]
  | access target key => rw [rename, eval, eval, target.eval_rename, key.eval_rename]
  | call builtin arguments => rw [rename, eval, eval, evalAll_renameItems]
  | unary operator operand => rw [rename, eval, eval, operand.eval_rename]
  | binary operator left right => rw [rename, eval, eval, left.eval_rename, right.eval_rename]
  | array items => rw [rename, eval, eval, evalAll_renameItems]

/-- Renamed expressions in a row have the values that the expressions have where the old name means
what the new one does. -/
theorem evalAll_renameItems (store : Store) (old new : String) (items : List Expr) :
    evalAll store (renameItems old new items) =
      evalAll (store.set old (store.resolve new)) items := by
  match items with
  | [] => rfl
  | item :: rest => rw [renameItems, evalAll, evalAll, item.eval_rename, evalAll_renameItems]

end

end Expr

namespace Node

/-- The body of a block inside a renamed node renders as it does where the old name means what the
new one does outside of the block: it is renamed, or the block hides the old name from it. -/
theorem renderAll_body_rename {limit depth : Nat} {old new : String} {key : Option String}
    {value : String} {body : List Node} (unbound : new ∉ boundNames key value)
    (renamed : ∀ store, renderAll limit depth store (renameAll old new body) =
      renderAll limit depth (store.set old (store.resolve new)) body)
    (store : Store) (entry : Value × Value) :
    renderAll limit depth (store.enter key value entry)
        (if old ∈ boundNames key value then body else renameAll old new body) =
      renderAll limit depth ((store.set old (store.resolve new)).enter key value entry) body := by
  split
  case isTrue shadowed =>
    exact renderAll_congr limit depth body fun _ _ => Store.resolve_enter_set shadowed
  case isFalse visible =>
    rw [renamed]
    exact renderAll_congr limit depth body fun _ _ => Store.resolve_set_enter visible unbound

mutual

/-- A renamed node renders as the node does where the old name means what the new one does, unless
the new name is bound inside. -/
theorem render_rename (limit depth : Nat) (store : Store) {new : String} (old : String)
    (node : Node) (fresh : new ∉ node.names) :
    (node.rename old new).render limit depth store =
      node.render limit depth (store.set old (store.resolve new)) := by
  match node with
  | literal text => rfl
  | output expression => rw [rename, render, render, expression.eval_rename]
  | conditional branches otherwise =>
    rw [names, List.mem_append, not_or] at fresh
    rw [rename, render, render, renderBranches_rename limit (depth + 1) store old branches fresh.1,
      renderAll_rename_push limit (depth + 1) store old otherwise fresh.2]
  | loop key value source body empty =>
    simp only [names, List.mem_append, not_or] at fresh
    obtain ⟨⟨⟨unbound, -⟩, outsideBody⟩, outsideEmpty⟩ := fresh
    have bodies := renderAll_body_rename unbound
      (fun inner => renderAll_rename limit (depth + 1) inner old body outsideBody) store
    rw [rename, render, render, source.eval_rename, funext bodies,
      renderAll_rename_push limit (depth + 1) store old empty outsideEmpty]
  | binding name value body =>
    simp only [names, List.mem_append, not_or] at fresh
    obtain ⟨⟨unbound, -⟩, outsideBody⟩ := fresh
    -- A binding is a loop without a key over one entry, as far as scopes go.
    have bodies := renderAll_body_rename unbound
      (fun inner => renderAll_rename limit (depth + 1) inner old body outsideBody) store
      (.null, value.eval (store.set old (store.resolve new)))
    rw [rename, render, render, value.eval_rename]
    exact congrArg (enter limit depth >>= fun _ => ·) bodies

/-- Renamed branches render as the branches do where the old name means what the new one does. -/
theorem renderBranches_rename (limit depth : Nat) (store : Store) {new : String} (old : String)
    (branches : List (Expr × List Node)) (fresh : new ∉ namesInBranches branches) :
    renderBranches limit depth store (renameBranches old new branches) =
      renderBranches limit depth (store.set old (store.resolve new)) branches := by
  match branches with
  | [] => rfl
  | (condition, body) :: rest =>
    simp only [namesInBranches, List.mem_append, not_or] at fresh
    rw [renameBranches, renderBranches, renderBranches, condition.eval_rename,
      renderAll_rename_push limit depth store old body fresh.1.2,
      renderBranches_rename limit depth store old rest fresh.2]

/-- Renamed nodes in a scope without names render as the nodes do where the old name means what the
new one does outside of it. -/
theorem renderAll_rename_push (limit depth : Nat) (store : Store) {new : String} (old : String)
    (nodes : List Node) (fresh : new ∉ namesInAll nodes) :
    renderAll limit depth store.push (renameAll old new nodes) =
      renderAll limit depth (store.set old (store.resolve new)).push nodes := by
  rw [renderAll_rename limit depth store.push old nodes fresh]
  exact renderAll_congr limit depth nodes fun _ _ => Store.resolve_set_push

/-- Renamed nodes in a row render as the nodes do where the old name means what the new one does. -/
theorem renderAll_rename (limit depth : Nat) (store : Store) {new : String} (old : String)
    (nodes : List Node) (fresh : new ∉ namesInAll nodes) :
    renderAll limit depth store (renameAll old new nodes) =
      renderAll limit depth (store.set old (store.resolve new)) nodes := by
  match nodes with
  | [] => rfl
  | node :: rest =>
    rw [namesInAll, List.mem_append, not_or] at fresh
    rw [renameAll, renderAll, renderAll, node.render_rename limit depth store old fresh.1,
      renderAll_rename limit depth store old rest fresh.2]

end

/-- What a block leaves free in its body is the same after a new name took the place of one that it
binds. -/
theorem filter_freeInAll_renamed {old new : String} {bound : List String} {body : List Node}
    (isBound : old ∈ bound) (unbound : new ∉ bound) (fresh : new ∉ namesInAll body) :
    (freeInAll (renameAll old new body)).filter
        (fun name => name ∉ bound.map (replaceName old new)) =
      (freeInAll body).filter fun name => name ∉ bound := by
  rw [freeInAll_rename old body fresh,
    filter_map_replaceName (fun free => fresh (freeInAll_subset body free)) unbound]
  refine map_replaceName_of_notMem (fun free => ?_) new
  exact of_decide_eq_true (List.mem_filter.mp free).2 isBound

/-- The body of a block in which a new name took the place of a bound one renders as before. -/
theorem renderAll_renamed (limit depth : Nat) (store : Store) {old new : String}
    {key : Option String} {value : String} {body : List Node}
    (isBound : old ∈ boundNames key value) (unbound : new ∉ boundNames key value)
    (fresh : new ∉ namesInAll body) (entry : Value × Value) :
    renderAll limit depth
        (store.enter (key.map (replaceName old new)) (replaceName old new value) entry)
        (renameAll old new body) =
      renderAll limit depth (store.enter key value entry) body := by
  rw [renderAll_rename limit depth _ old body fresh]
  refine renderAll_congr limit depth body fun name free => ?_
  have other : name ≠ new := fun same => fresh (by rw [← same]; exact freeInAll_subset body free)
  exact Store.resolve_enter_replaceName isBound unbound other

/-- What a block binds can be renamed: where a name that does not occur in the block takes the place
of one that it binds, in the header and wherever the body refers to that binding, the block binds
the new name, has the free names it had, and renders as before at every depth, within every limit
and in every store. -/
theorem render_renameBinder (block : Node) {old new : String} (bound : old ∈ block.binders)
    (fresh : new ∉ block.names) :
    (block.renameBinder old new).binders = block.binders.map (replaceName old new) ∧
      (block.renameBinder old new).freeNames = block.freeNames ∧
      ∀ (limit depth : Nat) (store : Store),
        (block.renameBinder old new).render limit depth store =
          block.render limit depth store := by
  have renamedNames (key : Option String) (value : String) :
      boundNames (key.map (replaceName old new)) (replaceName old new value) =
        (boundNames key value).map (replaceName old new) := by
    cases key <;> rfl
  cases block with
  | literal text => cases bound
  | output expression => cases bound
  | conditional branches otherwise => cases bound
  | loop key value source body empty =>
    rw [binders] at bound
    simp only [names, List.mem_append, not_or] at fresh
    obtain ⟨⟨⟨unbound, -⟩, outsideBody⟩, -⟩ := fresh
    refine ⟨renamedNames key value, ?_, fun limit depth store => ?_⟩
    · rw [renameBinder, freeNames_loop, freeNames_loop, renamedNames,
        filter_freeInAll_renamed bound unbound outsideBody]
    · have bodies := renderAll_renamed limit (depth + 1) store bound unbound outsideBody
      rw [renameBinder, render, render, funext bodies]
  | binding name value body =>
    rw [binders] at bound
    simp only [names, List.mem_append, not_or] at fresh
    obtain ⟨⟨unbound, -⟩, outsideBody⟩ := fresh
    refine ⟨renamedNames none name, ?_, fun limit depth store => ?_⟩
    · have kept := filter_freeInAll_renamed bound unbound outsideBody
      rw [← renamedNames none name] at kept
      exact (freeNames_binding _ _ _).trans
        ((congrArg _ kept).trans (freeNames_binding _ _ _).symm)
    · have bodies := renderAll_renamed limit (depth + 1) store bound unbound outsideBody
        (.null, value.eval store)
      rw [renameBinder, render, render]
      exact congrArg (enter limit depth >>= fun _ => ·) bodies

/-- A loop whose value is renamed: its source and its branch without entries mean an outer name by
the same word, an inner loop over that value binds the word again, and the value of the inner
binding is a key of the outer loop. -/
theorem render_renameBinder_sample :
    let block : Node := .loop (some "i") "row" (.name "row") [
      .loop none "row" (.name "row") [.output (.name "row")] [.output (.name "row")],
      .binding "row" (.access (.name "row") (.name "i")) [.output (.name "row")]]
      [.output (.name "row")]
    let renamed : Node := .loop (some "i") "x" (.name "row") [
      .loop none "row" (.name "x") [.output (.name "row")] [.output (.name "x")],
      .binding "row" (.access (.name "x") (.name "i")) [.output (.name "row")]]
      [.output (.name "row")]
    let store : Store := ⟨[("row", .array [.array [.string "a"], .array []])], []⟩
    block.renameBinder "row" "x" = renamed ∧ "row" ∈ block.binders ∧ "x" ∉ block.names ∧
      renamed.freeNames = block.freeNames ∧ "row" ∈ block.freeNames ∧
      renamed.render 3 0 store = block.render 3 0 store ∧
      block.render 3 0 store = .ok "aa[]" := by
  intro block renamed store
  have isRenamed : block.renameBinder "row" "x" = renamed := rfl
  have bound : "row" ∈ block.binders := by decide
  have fresh : "x" ∉ block.names := by decide
  obtain ⟨-, free, rendered⟩ := render_renameBinder block bound fresh
  exact ⟨isRenamed, bound, fresh, free, by decide, rendered 3 0 store, rfl⟩

end Node

end Stencil
