import Stencil.Evaluation.Render
import Stencil.Proofs.Outcome

/-!
# Depth of rendering

Rendering fails for no other reason than blocks that are nested deeper than the limit allows.
-/

namespace Stencil

namespace Node

/-- A block that may not be entered fails with the limit. -/
theorem enter_eq_error {limit depth : Nat} {failure : Failure}
    (fails : enter limit depth = .error failure) : failure = .renderDepthExceeded limit := by
  unfold enter at fails
  split at fails
  · cases fails
  · exact (Except.error.inj fails).symm

mutual

/-- A node that cannot be rendered has blocks that are nested too deep. -/
theorem render_eq_error {limit depth : Nat} {store : Store} {failure : Failure} (node : Node)
    (fails : node.render limit depth store = .error failure) :
    failure = .renderDepthExceeded limit := by
  match node with
  | literal text => cases fails
  | output expression => cases fails
  | conditional branches otherwise =>
    rw [render] at fails
    rcases bind_eq_error_iff.mp fails with refused | ⟨_, _, fails⟩
    · exact enter_eq_error refused
    · cases taken : renderBranches limit (depth + 1) store branches with
      | some rendered =>
        rw [taken] at fails
        exact renderBranches_eq_error branches (taken.trans (congrArg some fails))
      | none =>
        rw [taken] at fails
        exact renderAll_eq_error otherwise fails
  | loop key value source body empty =>
    rw [render] at fails
    rcases bind_eq_error_iff.mp fails with refused | ⟨_, _, fails⟩
    · exact enter_eq_error refused
    · split at fails
      · exact renderAll_eq_error empty fails
      · rcases bind_eq_error_iff.mp fails with inside | ⟨_, _, done⟩
        · obtain ⟨entry, _, fails⟩ := mapM_eq_error inside
          exact renderAll_eq_error body fails
        · cases done
  | binding name value body =>
    rw [render] at fails
    rcases bind_eq_error_iff.mp fails with refused | ⟨_, _, fails⟩
    · exact enter_eq_error refused
    · exact renderAll_eq_error body fails

/-- A branch that is taken and cannot be rendered has blocks that are nested too deep. -/
theorem renderBranches_eq_error {limit depth : Nat} {store : Store} {failure : Failure}
    (branches : List (Expr × List Node))
    (fails : renderBranches limit depth store branches = some (.error failure)) :
    failure = .renderDepthExceeded limit := by
  match branches with
  | [] => cases fails
  | (condition, body) :: rest =>
    rw [renderBranches] at fails
    split at fails
    · exact renderAll_eq_error body (Option.some.inj fails)
    · exact renderBranches_eq_error rest fails

/-- Nodes in a row that cannot be rendered have blocks that are nested too deep. -/
theorem renderAll_eq_error {limit depth : Nat} {store : Store} {failure : Failure}
    (nodes : List Node) (fails : renderAll limit depth store nodes = .error failure) :
    failure = .renderDepthExceeded limit := by
  match nodes with
  | [] => cases fails
  | node :: rest =>
    rw [renderAll] at fails
    rcases bind_eq_error_iff.mp fails with first | ⟨_, _, fails⟩
    · exact node.render_eq_error first
    · rcases bind_eq_error_iff.mp fails with later | ⟨_, _, done⟩
      · exact renderAll_eq_error rest later
      · cases done

end

end Node

/-- A document that cannot be rendered has blocks that are nested too deep. -/
theorem Document.render_eq_error {limit : Nat} {document : Document} {store : Store}
    {failure : Failure} (fails : document.render limit store = .error failure) :
    failure = .renderDepthExceeded limit :=
  Node.renderAll_eq_error document.nodes fails

end Stencil
