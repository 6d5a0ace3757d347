import Stencil.Evaluation.Render
import Stencil.Proofs.Expr.Written

/-!
# Free names

A name is free in a document where it is mentioned outside of every body that binds it: the body of
a loop binds its key and its value, and the body of a binding binds its name. The source of a loop,
its branch without entries and the value of a binding stand outside. The main statement says that
nothing but the values of free names reaches the text of a document, whatever scopes they are in.
-/

namespace Stencil

namespace Expr

mutual

/-- The names an expression mentions. -/
def names : Expr → List String
  | literal _ => []
  | name text => [text]
  | access target key => target.names ++ key.names
  | call _ arguments => namesAll arguments
  | unary _ operand => operand.names
  | binary _ left right => left.names ++ right.names
  | array items => namesAll items

/-- The names that expressions in a row mention. -/
def namesAll : List Expr → List String
  | [] => []
  | item :: rest => item.names ++ namesAll rest

end

/-- What one of some expressions mentions is mentioned by them. -/
theorem mem_namesAll {items : List Expr} {item : Expr} (member : item ∈ items) {text : String}
    (mentioned : text ∈ item.names) : text ∈ namesAll items := by
  induction items with
  | nil => cases member
  | cons first rest ih =>
    rw [namesAll, List.mem_append]
    rcases List.mem_cons.mp member with rfl | later
    · exact Or.inl mentioned
    · exact Or.inr (ih later)

/-- Expressions in a row are evaluated one by one. -/
theorem evalAll_eq_map (store : Store) (items : List Expr) :
    evalAll store items = items.map (eval store) := by
  induction items with
  | nil => rfl
  | cons first rest ih => rw [evalAll, ih, List.map_cons]

end Expr

namespace Node

mutual

/-- The names that are free in a node. -/
def freeNames : Node → List String
  | literal _ => []
  | output expression => expression.names
  | conditional branches otherwise => freeInBranches branches ++ freeInAll otherwise
  | loop key value source body empty =>
    source.names ++ freeInAll empty ++
      (freeInAll body).filter fun name => name ≠ value ∧ some name ≠ key
  | binding name value body =>
    value.names ++ (freeInAll body).filter fun other => other ≠ name

/-- The names that are free in branches: in their conditions and in their bodies. -/
def freeInBranches : List (Expr × List Node) → List String
  | [] => []
  | (condition, body) :: rest => condition.names ++ freeInAll body ++ freeInBranches rest

/-- The names that are free in nodes in a row. -/
def freeInAll : List Node → List String
  | [] => []
  | node :: rest => node.freeNames ++ freeInAll rest

end

end Node

/-- The names that are free in a document. -/
def Document.freeNames (document : Document) : List String := Node.freeInAll document.nodes

namespace Store

/-- Two stores say the same of some names; a name that no scope has counts as null. -/
def AgreeOn (names : List String) (first second : Store) : Prop :=
  ∀ name ∈ names, first.resolve name = second.resolve name

/-- The store with all its names in one scope. -/
def flatten (store : Store) : Store := ⟨(store.inner :: store.outer).flatten, []⟩

/-- A name is looked for in one part of a scope after the other. -/
theorem lookup_append (front back : Scope) (name : String) :
    (front ++ back).lookup name = (front.lookup name).or (back.lookup name) := by
  induction front with
  | nil => rfl
  | cons entry rest ih =>
    obtain ⟨known, value⟩ := entry
    rw [List.cons_append, List.lookup_cons, List.lookup_cons]
    split
    · rfl
    · exact ih

/-- A scope made of scopes has what the first of them has that knows the name. -/
theorem lookup_flatten (scopes : List Scope) (name : String) :
    scopes.flatten.lookup name = scopes.findSome? fun scope => scope.lookup name := by
  induction scopes with
  | nil => rfl
  | cons scope rest ih =>
    rw [List.flatten_cons, lookup_append, ih, List.findSome?_cons]
    cases scope.lookup name <;> rfl

/-- Names mean the same when all scopes are made one. -/
theorem resolve_flatten (store : Store) (name : String) :
    store.flatten.resolve name = store.resolve name := by
  have single : store.flatten.get? name = (store.inner :: store.outer).flatten.lookup name := by
    rw [get?, flatten, List.findSome?_singleton]
  rw [resolve, single, lookup_flatten, resolve, get?]

namespace AgreeOn

variable {names others : List String} {first second : Store}

/-- Agreement on more names is agreement on fewer. -/
theorem mono (agree : AgreeOn names first second) (fewer : others ⊆ names) :
    AgreeOn others first second :=
  fun name member => agree name (fewer member)

/-- Agreement on the first of two rows of names. -/
theorem left (agree : AgreeOn (names ++ others) first second) : AgreeOn names first second :=
  agree.mono (List.subset_append_left names others)

/-- Agreement on the second of two rows of names. -/
theorem right (agree : AgreeOn (names ++ others) first second) : AgreeOn others first second :=
  agree.mono (List.subset_append_right names others)

/-- Stores agree on the same names after a scope was opened in both. -/
theorem push (agree : AgreeOn names first second) : AgreeOn names first.push second.push := by
  intro name member
  rw [resolve_push, resolve_push]
  exact agree name member

/-- A name that is set in both stores need not have had one value before. -/
theorem set {name : String} (agree : AgreeOn (names.filter fun other => other ≠ name) first second)
    (value : Value) : AgreeOn names (first.set name value) (second.set name value) := by
  intro other member
  by_cases same : other = name
  · rw [same, resolve_set_self, resolve_set_self]
  · rw [resolve_set_of_ne first value same, resolve_set_of_ne second value same]
    exact agree other (List.mem_filter.mpr ⟨member, decide_eq_true same⟩)

/-- The names a loop binds need not have had one value before its body is entered. -/
theorem enter {key : Option String} {value : String}
    (agree : AgreeOn (names.filter fun name => name ≠ value ∧ some name ≠ key) first second)
    (entry : Value × Value) :
    AgreeOn names (first.enter key value entry) (second.enter key value entry) := by
  cases key with
  | none =>
    refine AgreeOn.set (AgreeOn.push (agree.mono fun name member => ?_)) entry.2
    simpa using member
  | some keyName =>
    refine AgreeOn.set (AgreeOn.set (AgreeOn.push (agree.mono fun name member => ?_)) entry.1)
      entry.2
    simp only [List.mem_filter, decide_eq_true_eq] at member ⊢
    exact ⟨member.1.1, member.1.2, fun same => member.2 (Option.some.inj same)⟩

end AgreeOn

end Store

/-- An expression has one value in all stores that agree on the names it mentions. -/
theorem Expr.eval_congr {first second : Store} (expression : Expr)
    (agree : Store.AgreeOn expression.names first second) :
    expression.eval first = expression.eval second := by
  have evalAll_congr : ∀ items : List Expr, Store.AgreeOn (namesAll items) first second →
      (∀ item ∈ items, Store.AgreeOn item.names first second →
        item.eval first = item.eval second) → evalAll first items = evalAll second items := by
    intro items agree each
    rw [evalAll_eq_map, evalAll_eq_map]
    exact List.map_congr_left fun item member =>
      each item member (agree.mono fun _ mentioned => mem_namesAll member mentioned)
  induction expression using Expr.induction with
  | literal value => rfl
  | name text => exact agree text (List.mem_singleton_self text)
  | access target key target_ih key_ih =>
    rw [names] at agree
    rw [eval, eval, target_ih agree.left, key_ih agree.right]
  | call builtin arguments each =>
    rw [names] at agree
    rw [eval, eval, evalAll_congr arguments agree each]
  | unary operator operand ih =>
    rw [names] at agree
    rw [eval, eval, ih agree]
  | binary operator left right left_ih right_ih =>
    rw [names] at agree
    rw [eval, eval, left_ih agree.left, right_ih agree.right]
  | array items each =>
    rw [names] at agree
    rw [eval, eval, evalAll_congr items agree each]

namespace Node

/-- Nodes in a row render one part after the other, both in the store that is around them: nothing
that is bound in the first part reaches the second. -/
theorem renderAll_append (limit depth : Nat) (store : Store) (earlier later : List Node) :
    renderAll limit depth store (earlier ++ later) = do
      let first ← renderAll limit depth store earlier
      let second ← renderAll limit depth store later
      return first ++ second := by
  induction earlier with
  | nil =>
    rw [List.nil_append, renderAll]
    cases renderAll limit depth store later with
    | error failure => rfl
    | ok text => exact congrArg Except.ok (String.empty_append).symm
  | cons node rest ih =>
    rw [List.cons_append, renderAll, ih, renderAll]
    cases node.render limit depth store with
    | error failure => rfl
    | ok first =>
      cases renderAll limit depth store rest with
      | error failure => rfl
      | ok second =>
        cases renderAll limit depth store later with
        | error failure => rfl
        | ok third => exact congrArg Except.ok (String.append_assoc).symm

mutual

/-- A node renders alike in stores that agree on its free names. -/
theorem render_congr (limit depth : Nat) {first second : Store} (node : Node)
    (agree : Store.AgreeOn node.freeNames first second) :
    node.render limit depth first = node.render limit depth second := by
  match node with
  | literal text => rfl
  | output expression =>
    rw [freeNames] at agree
    rw [render, render, expression.eval_congr agree]
  | conditional branches otherwise =>
    rw [freeNames] at agree
    rw [render, render, renderBranches_congr limit (depth + 1) branches agree.left,
      renderAll_congr limit (depth + 1) otherwise agree.right.push]
  | loop key value source body empty =>
    rw [freeNames] at agree
    have bodies : ∀ entry : Value × Value,
        renderAll limit (depth + 1) (first.enter key value entry) body =
          renderAll limit (depth + 1) (second.enter key value entry) body :=
      fun entry => renderAll_congr limit (depth + 1) body (agree.right.enter entry)
    rw [render, render, source.eval_congr agree.left.left,
      renderAll_congr limit (depth + 1) empty agree.left.right.push, funext bodies]
  | binding name value body =>
    rw [freeNames] at agree
    rw [render, render, value.eval_congr agree.left,
      renderAll_congr limit (depth + 1) body (agree.right.push.set _)]

/-- Branches render alike in stores that agree on their free names. -/
theorem renderBranches_congr (limit depth : Nat) {first second : Store}
    (branches : List (Expr × List Node))
    (agree : Store.AgreeOn (freeInBranches branches) first second) :
    renderBranches limit depth first branches = renderBranches limit depth second branches := by
  match branches with
  | [] => rfl
  | (condition, body) :: rest =>
    rw [freeInBranches] at agree
    rw [renderBranches, renderBranches, condition.eval_congr agree.left.left,
      renderAll_congr limit depth body agree.left.right.push,
      renderBranches_congr limit depth rest agree.right]

/-- Nodes in a row render alike in stores that agree on their free names. -/
theorem renderAll_congr (limit depth : Nat) {first second : Store} (nodes : List Node)
    (agree : Store.AgreeOn (freeInAll nodes) first second) :
    renderAll limit depth first nodes = renderAll limit depth second nodes := by
  match nodes with
  | [] => rfl
  | node :: rest =>
    rw [freeInAll] at agree
    rw [renderAll, renderAll, node.render_congr limit depth agree.left,
      renderAll_congr limit depth rest agree.right]

end

end Node

namespace Document

/-- A document renders alike, with the same text or the same failure, in two stores in which its
free names have the same values. So it renders in a chain of scopes as in one scope with the same
names; and what stands behind a block renders as it would without the block in front of it. -/
theorem render_determined_by_freeNames (limit : Nat) (document : Document) :
    (∀ first second : Store,
      (∀ name ∈ document.freeNames, first.resolve name = second.resolve name) →
        document.render limit first = document.render limit second) ∧
    (∀ store : Store, document.render limit store.flatten = document.render limit store) ∧
    ∀ (store : Store) (depth : Nat) (earlier later : List Node),
      Node.renderAll limit depth store (earlier ++ later) = do
        let first ← Node.renderAll limit depth store earlier
        let second ← Node.renderAll limit depth store later
        return first ++ second := by
  have determined : ∀ first second : Store, Store.AgreeOn document.freeNames first second →
      document.render limit first = document.render limit second :=
    fun _ _ agree => Node.renderAll_congr limit 0 document.nodes agree
  refine ⟨determined, fun store => ?_, fun store depth => Node.renderAll_append limit depth store⟩
  exact determined _ _ fun name _ => store.resolve_flatten name

/-- A loop and a binding that bind names the stores disagree about, before a free name that one
store has in its outer scope and the other in its only one. -/
theorem render_determined_by_freeNames_sample :
    let document : Document := ⟨[
      .loop (some "k") "v" (.name "rows") [.output (.name "k"), .output (.name "v")] [],
      .binding "w" (.name "title") [.output (.name "w")], .output (.name "title")]⟩
    let rows : Value := .array [.string "a", .string "b"]
    let first : Store :=
      ⟨[("rows", rows), ("v", .null)], [[("title", .string "T"), ("rows", .null)]]⟩
    let second : Store := ⟨[("w", .string "x"), ("title", .string "T"), ("rows", rows)], []⟩
    document.freeNames = ["rows", "title", "title"] ∧ first.resolve "v" ≠ second.resolve "w" ∧
      document.render 1 first = document.render 1 second ∧
        document.render 1 second = .ok "0a1bTT" := by
  intro document rows first second
  have free : document.freeNames = ["rows", "title", "title"] := by decide
  have agree : ∀ name ∈ document.freeNames, first.resolve name = second.resolve name := by
    rw [free]
    simp only [List.forall_mem_cons]
    exact ⟨rfl, rfl, rfl, List.forall_mem_nil _⟩
  exact ⟨free, nofun, (render_determined_by_freeNames 1 document).1 first second agree, rfl⟩

end Document

end Stencil
