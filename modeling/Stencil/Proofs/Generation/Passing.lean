import Stencil.Proofs.Evaluation.FreeNames
import Stencil.Proofs.Generation.History
import Stencil.Proofs.Script.Calls

/-!
# Passing metadata

A script passes metadata to a rendering as arguments, in an array or in a map. The first two hand
over the same entries. A map hands them over in the order of their names, and since names that are
apart mean the same in whatever order they are bound, the rendering is the same computation: it
comes to the same result, and leaves the same templates and files behind.
-/

namespace Stencil

/-! ## Metadata in another order -/

namespace Run

/-- Entries with keys that are apart mean the same in any order. -/
theorem meaning_perm (run : Run) {first second : List Metadata} (perm : first.Perm second)
    (apart : (first.map Metadata.key).Nodup) (name : String) :
    run.meaning first name = run.meaning second name := by
  have kept := perm.filter fun entry => entry.key = name
  have single : ((first.filter fun entry => entry.key = name).map Metadata.key).Nodup :=
    (List.filter_sublist.map Metadata.key).nodup apart
  have named : ∀ entry ∈ first.filter fun entry => entry.key = name, entry.key = name :=
    fun entry member => of_decide_eq_true (List.mem_filter.mp member).2
  -- at most one entry has the key, so there is nothing to reorder among those that have it
  have same : (first.filter fun entry => entry.key = name) =
      second.filter fun entry => entry.key = name := by
    generalize (first.filter fun entry => entry.key = name) = found at kept single named
    rcases found with _ | ⟨entry, _ | ⟨other, rest⟩⟩
    · exact (List.nil_perm.mp kept).symm
    · exact List.singleton_perm.mp kept
    · have keys : entry.key = other.key :=
        (named entry List.mem_cons_self).trans
          (named other (List.mem_cons_of_mem entry List.mem_cons_self)).symm
      exact absurd (keys ▸ List.mem_cons_self) (List.nodup_cons.mp single).1
  rw [meaning, meaning, same]

/-- Metadata in which all names mean the same gives a template the same text. -/
theorem renderFile_congr {m : Type → Type} [Monad m] [FileAccess m] (run : Run)
    {first second : List Metadata}
    (alike : ∀ name, run.meaning first name = run.meaning second name) (path : Path) :
    (run.renderFile path first : Generation m String) = run.renderFile path second := by
  have agree (document : Document) :
      document.render run.config.depthLimit (run.store first) =
        document.render run.config.depthLimit (run.store second) :=
    Node.renderAll_congr _ _ document.nodes fun name _ => by
      rw [resolve_store, resolve_store, alike name]
  rw [renderFile, renderFile]
  simp only [agree]

/-- Metadata in which all names mean the same gives an output file the same text. -/
theorem renderTemplate_congr {m : Type → Type} [Monad m] [FileAccess m] (run : Run)
    {first second : List Metadata}
    (alike : ∀ name, run.meaning first name = run.meaning second name) (template output : String) :
    (run.renderTemplate template output first : Generation m Unit) =
      run.renderTemplate template output second := by
  rw [renderTemplate, renderTemplate, run.renderFile_congr alike]

end Run

namespace Script

namespace Value

/-- A value under a new name comes to the others. -/
theorem insertEntry_perm {name : String} (value : Value) {entries : Entries}
    (new : name ∉ entries.map Prod.fst) :
    (insertEntry name value entries).Perm ((name, value) :: entries) := by
  induction entries with
  | nil => exact .refl _
  | cons entry rest ih =>
    obtain ⟨known, old⟩ := entry
    rw [List.map_cons, List.mem_cons, not_or] at new
    rw [insertEntry, if_neg new.1]
    split
    · exact .refl _
    · exact ((ih new.2).cons (known, old)).trans (.swap _ _ rest)

/-- Values under names that are apart come to those that are there. -/
theorem foldl_insertEntry_perm {front pairs : Entries}
    (apart : ((front ++ pairs).map Prod.fst).Nodup) :
    (pairs.foldl (fun entries pair => insertEntry pair.1 pair.2 entries) front).Perm
      (front ++ pairs) := by
  induction pairs generalizing front with
  | nil => rw [List.append_nil, List.foldl_nil]
  | cons pair rest ih =>
    have moved : (front ++ pair :: rest).Perm (pair :: (front ++ rest)) := List.perm_middle
    have new : pair.1 ∉ front.map Prod.fst := by
      have single := (moved.map Prod.fst).nodup apart
      rw [List.map_cons, List.nodup_cons, List.map_append, List.mem_append, not_or] at single
      exact single.1.1
    have added := (insertEntry_perm pair.2 new).append_right rest
    have all : ((insertEntry pair.1 pair.2 front ++ rest).map Prod.fst).Nodup :=
      ((added.trans moved.symm).map Prod.fst).symm.nodup apart
    exact (ih all).trans (added.trans moved.symm)

/-- A map of names that are apart has all values. -/
theorem entriesOf_perm {pairs : Entries} (apart : (pairs.map Prod.fst).Nodup) :
    (entriesOf pairs).Perm pairs :=
  foldl_insertEntry_perm apart

end Value

/-! ## Ways of passing -/

/-- How metadata is passed to a call that renders a template. -/
inductive Passing where
  /-- As arguments, each of them built by a call. -/
  | arguments (builder : Builder)
  /-- In an array of entries, each of them built by a call. -/
  | array (builder : Builder)
  /-- In a map. -/
  | map
deriving DecidableEq, Repr

namespace Passing

/-- What is written behind the template and the output. -/
def expressions (entries : Entries) : Passing → List Expr
  | arguments builder => entries.map fun entry => builder.expression entry.1 entry.2
  | array builder => [.array (entries.map fun entry => builder.expression entry.1 entry.2)]
  | map => [.map (entries.map fun entry => (entry.1, .literal entry.2))]

/-- A call that renders a template. -/
def expression (passing : Passing) (renderer : Renderer) (template output : String)
    (entries : Entries) : Expr :=
  .call renderer.name
    (.literal (.string template) :: .literal (.string output) :: passing.expressions entries)

/-- The entries of metadata for named values. -/
def metadataOf (entries : Entries) : List Metadata :=
  entries.map fun entry => ⟨entry.1, entry.2.plainText⟩

/-- The entries of metadata that are handed over. -/
def metadata (entries : Entries) : Passing → List Metadata
  | arguments _ | array _ => metadataOf entries
  | map => metadataOf (Value.entriesOf entries)

/-- The values that are handed over. -/
def values (entries : Entries) : Passing → List Value
  | arguments _ => (metadataOf entries).map .metadata
  | array _ => [.array ((metadataOf entries).map .metadata)]
  | map => [.map (Value.entriesOf entries)]

section

variable {m : Type → Type} [Monad m] [LawfulMonad m] {context : Context m}

/-- Whether a script has no function of its own that has the name of one that it calls to pass
metadata. -/
def Known (program : Program) : Prop :=
  ∀ function ∈ Call.functions, ∀ count, program.function? function count = none

/-- Named values that are written out come to themselves. -/
theorem evalEntries_literals (entries : Entries) (calls : Nat) {steps : Nat}
    (enough : entries.length + 2 ≤ steps) :
    Execution.evalEntries context calls steps
      (entries.map fun entry => (entry.1, .literal entry.2)) = pure entries := by
  induction entries generalizing steps with
  | nil =>
    obtain ⟨steps, rfl⟩ := Nat.exists_eq_succ_of_ne_zero (n := steps) (by omega)
    rw [List.map_nil, Execution.evalEntries]
  | cons entry rest ih =>
    rw [List.length_cons] at enough
    obtain ⟨steps, rfl⟩ := Nat.exists_eq_succ_of_ne_zero (n := steps) (by omega)
    rw [List.map_cons, Execution.evalEntries, yields_literal _ calls steps (by omega), pure_bind,
      ih (by omega), pure_bind]

/-- Calls that build entries from names and values come to these entries. -/
theorem forall_yields_builder (known : Known context.program) (builder : Builder)
    (entries : Entries) : List.Forall₂ (Yields context 4)
      (entries.map fun entry => builder.expression entry.1 entry.2)
      ((metadataOf entries).map .metadata) := by
  have unknown := known builder.name (by cases builder <;> decide)
  rw [metadataOf, List.map_map, List.forall₂_map_left_iff, List.forall₂_map_right_iff,
    List.forall₂_same]
  exact fun entry _ => builder.yields unknown entry.1 entry.2

/-- What is written comes to what is handed over. -/
theorem forall_yields (known : Known context.program) (passing : Passing) (entries : Entries) :
    List.Forall₂ (Yields context (entries.length + 5)) (passing.expressions entries)
      (passing.values entries) := by
  cases passing with
  | arguments builder =>
    exact (forall_yields_builder known builder entries).imp fun _ _ yields calls steps enough =>
      yields calls steps (by omega)
  | array builder =>
    have items := yields_array (by decide) (forall_yields_builder known builder entries)
    refine .cons (fun calls steps enough => items calls steps ?_) .nil
    rw [List.length_map]
    omega
  | map =>
    refine .cons (fun calls steps enough => ?_) .nil
    obtain ⟨steps, rfl⟩ := Nat.exists_eq_succ_of_ne_zero (n := steps) (by omega)
    rw [Execution.eval, evalEntries_literals entries calls (by omega), pure_bind]

/-- A call that renders a template is one of the function that every script knows. -/
theorem eval_renderer (known : Known context.program) (renderer : Renderer)
    (template output : String) {bound : Nat} {expressions : List Expr} {values : List Value}
    (all : List.Forall₂ (Yields context (bound + 1)) expressions values) (calls : Nat) {steps : Nat}
    (enough : bound + expressions.length + 4 ≤ steps) :
    Execution.eval context calls steps (.call renderer.name
        (.literal (.string template) :: .literal (.string output) :: expressions)) =
      Execution.callKnown context renderer.name
        (.string template :: .string output :: values) := by
  have text (content : String) :
      Yields context (bound + 1) (.literal (.string content)) (.string content) :=
    fun calls steps more => yields_literal _ calls steps (by omega)
  have unknown := known renderer.name (by cases renderer <;> decide)
  have noPush : renderer.name ≠ "push" := by
    cases renderer <;> decide
  refine eval_call unknown noPush (by omega) (.cons (text template) (.cons (text output) all))
    calls ?_
  simp only [List.length_cons]
  omega

/-- What is handed over is read as the entries that are passed. -/
theorem metadata?_values (passing : Passing) {entries : Entries}
    (few : entries.length ≤ Host.mostArguments) :
    Host.metadata? (passing.values entries) = some (.ok (passing.metadata entries)) := by
  cases passing with
  | arguments builder => exact Host.metadata?_arguments (by rwa [metadataOf, List.length_map])
  | array builder => exact Host.metadata?_array _
  | map => rfl

/-- A call that renders a template asks for that with the entries that are handed over. -/
theorem eval_expression (known : Known context.program) (passing : Passing) (renderer : Renderer)
    (template output : String) {entries : Entries} (few : entries.length ≤ Host.mostArguments)
    (calls : Nat) {steps : Nat} (enough : entries.length + 16 ≤ steps) :
    Execution.eval context calls steps (passing.expression renderer template output entries) =
      Execution.ask context (.render template output (passing.metadata entries)) := by
  have arguments : (passing.expressions entries).length ≤ 8 := by
    cases passing with
    | arguments builder => rwa [expressions, List.length_map]
    | array builder | map => exact Nat.le_of_ble_eq_true rfl
  rw [expression, eval_renderer known renderer template output
    (passing.forall_yields known entries) calls (by omega), Execution.callKnown,
    Host.call?_renderer, Host.render?, passing.metadata?_values few]
  rfl

end

end Passing

/-- An array with an item that is no entry is refused, and the first such item is named. -/
theorem Host.entriesOf_eq_error {items : List Value} {item : Value}
    (first : (items.find? fun item => (Host.entry? item).isNone) = some item) :
    Host.entriesOf items =
      .error (.script ("Expected metadata pairs in the array, got " ++ item.typeName)) := by
  induction items with
  | nil => cases first
  | cons head rest ih =>
    cases head with
    | metadata entry => rw [Host.entriesOf, ih first]; rfl
    | unit | boolean | integer | float | character | string | array | map | range =>
      cases first
      rfl

section

variable {m : Type → Type} [Monad m] {context : Context m}

/-- A call that renders a template with an array that has an item that is no entry asks for the
entries only. -/
theorem Passing.eval_refused [LawfulMonad m] (known : Known context.program) (renderer : Renderer)
    (template output : String) {bound : Nat} {expression : Expr} {items : List Value}
    (yields : Yields context bound expression (.array items)) {item : Value}
    (first : (items.find? fun item => (Host.entry? item).isNone) = some item) (calls : Nat)
    {steps : Nat} (enough : bound + 5 ≤ steps) :
    Execution.eval context calls steps (.call renderer.name
        [.literal (.string template), .literal (.string output), expression]) =
      Execution.ask context (.unpack items) := by
  have array : List.Forall₂ (Yields context (bound + 1)) [expression] [.array items] :=
    .cons (fun calls steps more => yields calls steps (by omega)) .nil
  rw [eval_renderer known renderer template output array calls enough, Execution.callKnown,
    Host.call?_renderer, Host.render?, Host.metadata?, Host.entriesOf_eq_error first]
  rfl

/-- Requests with the same answer are asked for alike. -/
theorem Execution.ask_congr {first second : Request}
    (alike : context.answer first = context.answer second) :
    Execution.ask context first = Execution.ask context second := by
  rw [Execution.ask, Execution.ask, alike]

end

end Script

/-! ## The three ways agree -/

namespace Run

section

variable {m : Type → Type} [Monad m] [LawfulMonad m] [FileAccess m]

omit [LawfulMonad m] in
/-- All entries mean the same whichever way they are handed over. -/
theorem meaning_passing (run : Run) {entries : Script.Entries} (passing : Script.Passing)
    (apart : passing = .map → (entries.map Prod.fst).Nodup) (name : String) :
    run.meaning (passing.metadata entries) name =
      run.meaning (Script.Passing.metadataOf entries) name := by
  cases passing with
  | arguments builder | array builder => rfl
  | map =>
    have perm := (Script.Value.entriesOf_perm (apart rfl)).symm.map
      fun entry => (⟨entry.1, entry.2.plainText⟩ : Metadata)
    refine (run.meaning_perm perm ?_ name).symm
    rw [List.map_map]
    exact apart rfl

omit [LawfulMonad m] in
/-- An array with an item that is no entry is refused, and the first such item is named. -/
theorem answer_unpack (run : Run) (program : Script.Program) {items : List Script.Value}
    {item : Script.Value}
    (first : (items.find? fun item => (Script.Host.entry? item).isNone) = some item) :
    (run.context (m := m) program).answer (.unpack items) = pure (.error (.script
      ("Expected metadata pairs in the array, got " ++ item.typeName))) := by
  have refused : (unpack items : Generation m Unit) = throw (.script
      ("Expected metadata pairs in the array, got " ++ item.typeName)) := by
    rw [unpack, Script.Host.entriesOf_eq_error first]
  exact congrArg ExceptT.run refused

/-- Every way of passing entries comes to the same computation of a script. -/
theorem eval_passing (run : Run) {program : Script.Program} (known : Script.Passing.Known program)
    (template output : String) {entries : Script.Entries}
    (few : entries.length ≤ Script.Host.mostArguments) (calls : Nat) {steps : Nat}
    (enough : entries.length + 16 ≤ steps) (renderer : Script.Renderer) (passing : Script.Passing)
    (apart : passing = .map → (entries.map Prod.fst).Nodup) :
    Script.Execution.eval (run.context (m := m) program) calls steps
        (passing.expression renderer template output entries) =
      Script.Execution.ask (run.context program)
        (.render template output (Script.Passing.metadataOf entries)) := by
  rw [Script.Passing.eval_expression known passing renderer template output few calls enough]
  exact Script.Execution.ask_congr (congrArg ExceptT.run
    (run.renderTemplate_congr (run.meaning_passing passing apart) template output))

/-- It makes no difference how a script passes metadata, nor which names of the functions it uses:
as arguments, in an array and, when their keys are apart, in a map, entries make the request to
render with them as they were given, which is the same computation for the script, for the templates
parsed so far and for the files. A call with an array that has an item that is no entry fails, and
it leaves the templates and the files alone. -/
theorem passing_agrees (run : Run) {program : Script.Program}
    (known : Script.Passing.Known program) (template output : String) (calls steps : Nat) :
    (∀ (entries : Script.Entries) (renderer other : Script.Renderer)
      (passing way : Script.Passing), entries.length ≤ Script.Host.mostArguments →
      (passing = .map ∨ way = .map → (entries.map Prod.fst).Nodup) →
      entries.length + 16 ≤ steps →
      let called := Script.Execution.eval (run.context (m := m) program) calls steps
        (passing.expression renderer template output entries)
      called = Script.Execution.ask (run.context program)
          (.render template output (Script.Passing.metadataOf entries)) ∧
        called = Script.Execution.eval (run.context program) calls steps
          (way.expression other template output entries)) ∧
    (∀ (renderer : Script.Renderer) (array : Script.Expr) (items : List Script.Value)
      (bound : Nat), Script.Yields (run.context (m := m) program) bound array (.array items) →
      (∃ item ∈ items, Script.Host.entry? item = none) → bound + 5 ≤ steps →
      ∃ item failure, (items.find? fun item => (Script.Host.entry? item).isNone) = some item ∧
        failure = .script ("Expected metadata pairs in the array, got " ++ item.typeName) ∧
        ∀ (state : Script.State) (documents : DocumentCache),
          ((Script.Execution.eval (run.context (m := m) program) calls steps
            (.call renderer.name [.literal (.string template), .literal (.string output),
              array])).run.run state).run documents =
            pure ((.error (.failed failure []), { state with failure := some failure }),
              documents)) := by
  constructor
  · intro entries renderer other passing way few apart enough called
    have here : called = _ := run.eval_passing known template output few calls enough renderer
      passing fun same => apart (.inl same)
    have there := run.eval_passing (m := m) known template output few calls enough other way
      fun same => apart (.inr same)
    exact ⟨here, here.trans there.symm⟩
  · intro renderer array items bound yields strange enough
    obtain ⟨item, first⟩ : ∃ item,
        (items.find? fun item => (Script.Host.entry? item).isNone) = some item := by
      obtain ⟨item, member, none⟩ := strange
      refine Option.isSome_iff_exists.mp (List.find?_isSome.mpr ⟨item, member, ?_⟩)
      rw [none]
      rfl
    refine ⟨item, _, first, rfl, fun state documents => ?_⟩
    rw [Script.Passing.eval_refused known renderer template output yields first calls enough,
      Script.run_ask, run.answer_unpack program first, pure_bind]
    rfl

end

/-- A map that is written against the order of its names is handed over in that order, and still
makes the same computation as arguments; an array with a number in it is refused. -/
theorem passing_agrees_sample :
    let run : Run := ⟨⟨⟨"entry"⟩, ⟨"data"⟩, ⟨"/"⟩, ⟨"/"⟩, .standard, 64⟩, .empty⟩
    let entries : Script.Entries := [("b", .integer 2), ("a", .unit)]
    let context : Script.Context (StateT DocumentCache (StateM FileTree)) := run.context ⟨[], []⟩
    let items : List Script.Value := [.metadata ⟨"a", ""⟩, .integer 2]
    Script.Passing.map.metadata entries = [⟨"a", ""⟩, ⟨"b", "2"⟩] ∧
      (Script.Passing.array .buildMetadataPair).metadata entries = [⟨"b", "2"⟩, ⟨"a", ""⟩] ∧
      Script.Execution.eval context 64 18
          (Script.Passing.map.expression .runTemplate "t" "o" entries) =
        Script.Execution.eval context 64 18
          ((Script.Passing.arguments .buildKeyValuePair).expression .renderTemplate "t" "o"
            entries) ∧
      ∃ failure, failure = .script "Expected metadata pairs in the array, got i64" ∧
        ∀ (state : Script.State) (documents : DocumentCache),
          ((Script.Execution.eval context 64 18 (.call "RenderTemplate"
            [.literal (.string "t"), .literal (.string "o"),
              .literal (.array items)])).run.run state).run documents =
            pure ((.error (.failed failure []), { state with failure := some failure }),
              documents) := by
  intro run entries context items
  have known : Script.Passing.Known ⟨[], []⟩ := fun _ _ _ => rfl
  obtain ⟨agree, refuse⟩ := run.passing_agrees (m := StateM FileTree) known "t" "o" 64 18
  obtain ⟨item, failure, first, named, refused⟩ := refuse .renderTemplate _ items 1
    (Script.yields_literal _) ⟨.integer 2, by simp [items], rfl⟩ (by decide)
  obtain rfl : .integer 2 = item := Option.some.inj first
  exact ⟨by decide +kernel, by decide +kernel,
    (agree entries .runTemplate .renderTemplate .map (.arguments .buildKeyValuePair) (by decide)
      (fun _ => by decide) (by decide)).2, failure, named, refused⟩

end Run

end Stencil
