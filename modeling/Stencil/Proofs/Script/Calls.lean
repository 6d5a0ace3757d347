import Mathlib.Data.List.Forall2
import Stencil.Proofs.Script.Failures
import Stencil.Proofs.Script.Parsing
import Stencil.Proofs.Script.Tracing

/-!
# Scripts of calls

A script may do nothing but call the generator, one statement for each call: to render a template
with metadata, which is passed as up to eight arguments or in an array, or to copy a folder. Such a
script asks for what its calls ask for, in order, up to the first failure, and it fails with that
failure.
-/

namespace Stencil.Script

/-! ## Calls -/

/-- A function that renders a template. -/
inductive Renderer where
  /-- By the usual name. -/
  | renderTemplate
  /-- By the other name. -/
  | runTemplate
deriving DecidableEq, Repr

/-- What a script calls a function that renders a template. -/
def Renderer.name : Renderer → String
  | renderTemplate => "RenderTemplate"
  | runTemplate => "RunTemplate"

/-- A function that builds an entry of metadata. -/
inductive Builder where
  /-- By the usual name. -/
  | buildMetadataPair
  /-- By the other name. -/
  | buildKeyValuePair
deriving DecidableEq, Repr

/-- What a script calls a function that builds an entry of metadata. -/
def Builder.name : Builder → String
  | buildMetadataPair => "BuildMetadataPair"
  | buildKeyValuePair => "BuildKeyValuePair"

/-- A call that builds an entry of metadata from a name and a value. -/
def Builder.expression (builder : Builder) (key : String) (value : Value) : Expr :=
  .call builder.name [.literal (.string key), .literal value]

/-- A call that builds an entry of metadata. -/
structure Pair where
  /-- The function that is called. -/
  builder : Builder
  /-- The entry. -/
  entry : Metadata
deriving DecidableEq, Repr

/-- How metadata is passed. -/
inductive Pairs where
  /-- As arguments, of which there are not too many. -/
  | arguments (pairs : List Pair) (few : pairs.length ≤ Host.mostArguments)
  /-- In an array. -/
  | array (pairs : List Pair)

/-- A call of the generator. -/
inductive Call where
  /-- Render a template to an output file. -/
  | render (renderer : Renderer) (template output : String) (pairs : Pairs)
  /-- Copy the files of a folder. -/
  | copy (source target : String)

namespace Pair

/-- How the call is written. -/
def phrase (pair : Pair) : Phrase :=
  .call pair.builder.name [.text pair.entry.key, .text pair.entry.value]

end Pair

namespace Pairs

/-- The calls that build the entries. -/
def list : Pairs → List Pair
  | arguments pairs _ => pairs
  | array pairs => pairs

/-- The entries. -/
def metadata (pairs : Pairs) : List Metadata := pairs.list.map Pair.entry

/-- How the entries are written, behind the other arguments. -/
def phrases : Pairs → List Phrase
  | arguments pairs _ => pairs.map Pair.phrase
  | array pairs => [.array (pairs.map Pair.phrase)]

/-- The values that are passed. -/
def values : Pairs → List Value
  | arguments pairs _ => pairs.map fun pair => .metadata pair.entry
  | array pairs => [.array (pairs.map fun pair => .metadata pair.entry)]

end Pairs

namespace Call

/-- How the call is written. -/
def phrase : Call → Phrase
  | render renderer template output pairs =>
    .call renderer.name (.text template :: .text output :: pairs.phrases)
  | copy source target => .call "CopyFolder" [.text source, .text target]

/-- What the call asks of the generator. -/
def request : Call → Request
  | render _ template output pairs => .render template output pairs.metadata
  | copy source target => .copy source target

/-- How many entries of metadata the call passes. -/
def entryCount : Call → Nat
  | render _ _ _ pairs => pairs.list.length
  | copy _ _ => 0

end Call

/-! ## Parsing -/

/-- The functions that calls are written with. -/
def Call.functions : List String :=
  ["RenderTemplate", "RunTemplate", "BuildMetadataPair", "BuildKeyValuePair", "CopyFolder"]

/-- What holds of texts, and of rows and calls one deeper than of their parts, holds of the calls
that build entries and of all others. -/
theorem Call.phrase_induction {motive : Nat → Phrase → Prop}
    (text : ∀ depth content, motive depth (.text content))
    (array : ∀ depth phrases, (∀ phrase ∈ phrases, motive depth phrase) →
      motive (depth + 1) (.array phrases))
    (call : ∀ depth, ∀ function ∈ functions, ∀ phrases, (∀ phrase ∈ phrases, motive depth phrase) →
      motive (depth + 1) (.call function phrases)) (depth : Nat) :
    (∀ pair : Pair, motive (depth + 1) pair.phrase) ∧
      ∀ asked : Call, motive (depth + 3) asked.phrase := by
  have two (depth : Nat) {function : String} (known : function ∈ functions)
      (first second : String) :
      motive (depth + 1) (.call function [.text first, .text second]) := by
    refine call depth function known _ ?_
    simp only [List.mem_cons, List.not_mem_nil, or_false, forall_eq_or_imp, forall_eq]
    exact ⟨text depth first, text depth second⟩
  have pairs (depth : Nat) (pair : Pair) : motive (depth + 1) pair.phrase :=
    two depth (by cases pair.builder <;> decide) _ _
  refine ⟨pairs depth, fun asked => ?_⟩
  cases asked with
  | copy source target => exact two (depth + 2) (by decide) source target
  | render renderer template output passed =>
    refine call (depth + 2) renderer.name (by cases renderer <;> decide) _ ?_
    simp only [List.mem_cons, forall_eq_or_imp]
    refine ⟨text _ template, text _ output, ?_⟩
    cases passed with
    | arguments entries few =>
      simp only [Pairs.phrases, List.forall_mem_map]
      exact fun pair _ => pairs (depth + 1) pair
    | array entries =>
      simp only [Pairs.phrases, List.mem_cons, List.not_mem_nil, or_false, forall_eq]
      refine array (depth + 1) _ ?_
      simp only [List.forall_mem_map]
      exact fun pair _ => pairs depth pair

/-- No function that calls are written with is a reserved word. -/
theorem Call.not_reserved {function : String} (known : function ∈ functions) :
    function ∉ Parser.reserved := by
  have all : ∀ function ∈ functions, function ∉ Parser.reserved := by decide
  exact all function known

/-- The functions that calls are written with can be written. -/
theorem Call.hasSpelling_function {function : String} (known : function ∈ functions) :
    (Token.word function).hasSpelling = true := by
  have all : ∀ function ∈ functions, (Token.word function).hasSpelling = true := by decide
  exact all function known

/-- A call that builds an entry is read by a level with one inside, and every call by a level with
three inside. -/
theorem Call.readBy_phrase (depth : Nat) :
    (∀ pair : Pair, pair.phrase.ReadBy (Parser.expression (Parser.level (depth + 1)))) ∧
      ∀ call : Call, call.phrase.ReadBy (Parser.expression (Parser.level (depth + 3))) :=
  phrase_induction
    (motive := fun depth phrase => phrase.ReadBy (Parser.expression (Parser.level depth)))
    (fun _ content => Phrase.readBy_text _ content) (fun _ _ read => Phrase.readBy_array read)
    (fun _ _ known _ read => Phrase.readBy_call (not_reserved known) read) depth

/-- No function that calls are written with is left out. -/
theorem Call.not_leftOut {function : String} (known : function ∈ functions) :
    function ∉ Checks.leftOut := by
  have all : ∀ function ∈ functions, function ∉ Checks.leftOut := by decide
  exact all function known

/-- Calls pass the checks. -/
theorem Call.passes_phrase (program : Program) (call : Call) (declared : Declarations) :
    Checks.passes program declared call.phrase.expression = true :=
  (phrase_induction (motive := fun _ phrase =>
      Checks.passes program declared phrase.expression = true)
    (fun _ content => Phrase.passes_text content)
    (fun _ _ pass => Phrase.passes_array pass)
    (fun _ _ known _ pass => Phrase.passes_call (not_leftOut known) pass) 0).2 call

/-- Calls can be written. -/
theorem Call.isSpelled_phrase (call : Call) : call.phrase.IsSpelled :=
  (phrase_induction (motive := fun _ phrase => phrase.IsSpelled)
    (fun _ content => Phrase.isSpelled_text content)
    (fun _ _ spelled => Phrase.isSpelled_array spelled)
    (fun _ _ known _ spelled =>
      Phrase.isSpelled_call (hasSpelling_function known) spelled) 0).2 call

/-- A call starts with the name of its function, which is no reserved word. -/
theorem Call.isNamed_phrase (call : Call) : call.phrase.IsNamed := by
  cases call with
  | copy source target => exact ⟨_, _, by decide, rfl⟩
  | render renderer template output pairs =>
    exact ⟨renderer.name, _, by cases renderer <;> decide, rfl⟩

/-! ## Evaluation -/

section

variable {m : Type → Type} [Monad m] [LawfulMonad m] {context : Context m}

/-- Whether an expression has a value that it comes to in so many steps, without any effect. -/
def Yields (context : Context m) (bound : Nat) (expression : Expr) (value : Value) : Prop :=
  ∀ calls steps, bound ≤ steps → Execution.eval context calls steps expression = pure value

/-- Expressions in a row come to their values. -/
theorem evalAll_eq {bound : Nat} (positive : 0 < bound) {expressions : List Expr}
    {values : List Value} (all : List.Forall₂ (Yields context bound) expressions values)
    (calls : Nat) {steps : Nat} (enough : bound + expressions.length ≤ steps) :
    Execution.evalAll context calls steps expressions = pure values := by
  induction all generalizing steps with
  | nil =>
    obtain ⟨steps, rfl⟩ := Nat.exists_eq_succ_of_ne_zero (n := steps) (by omega)
    rw [Execution.evalAll]
  | cons here others ih =>
    rw [List.length_cons] at enough
    obtain ⟨steps, rfl⟩ := Nat.exists_eq_succ_of_ne_zero (n := steps) (by omega)
    rw [Execution.evalAll, here calls steps (by omega), pure_bind, ih (by omega), pure_bind]

omit [LawfulMonad m] in
/-- A value written out comes to itself. -/
theorem yields_literal (value : Value) : Yields context 1 (.literal value) value := by
  intro calls steps enough
  obtain ⟨steps, rfl⟩ := Nat.exists_eq_succ_of_ne_zero (Nat.ne_of_gt enough)
  rw [Execution.eval]

/-- An array comes to the values of its items. -/
theorem yields_array {bound : Nat} (positive : 0 < bound) {expressions : List Expr}
    {values : List Value} (all : List.Forall₂ (Yields context bound) expressions values) :
    Yields context (bound + expressions.length + 1) (.array expressions) (.array values) := by
  intro calls steps enough
  obtain ⟨steps, rfl⟩ := Nat.exists_eq_succ_of_ne_zero (n := steps) (by omega)
  rw [Execution.eval, evalAll_eq positive all calls (by omega), pure_bind]

omit [Monad m] [LawfulMonad m] in
/-- A script without functions has none of any name. -/
theorem Context.function?_of_bare (bare : context.program.functions = []) (function : String)
    (count : Nat) : context.program.function? function count = none := by
  rw [Program.function?, bare]
  rfl

/-- A call of a function that the script does not have is a call of one that all scripts have. -/
theorem eval_call {function : String}
    (unknown : ∀ count, context.program.function? function count = none)
    (noPush : function ≠ "push") {bound : Nat} (positive : 0 < bound) {expressions : List Expr}
    {values : List Value} (all : List.Forall₂ (Yields context bound) expressions values)
    (calls : Nat) {steps : Nat} (enough : bound + expressions.length + 1 ≤ steps) :
    Execution.eval context calls steps (.call function expressions) =
      Execution.callKnown context function values := by
  obtain ⟨steps, rfl⟩ : ∃ fewer, steps = fewer + 2 := ⟨steps - 2, by omega⟩
  have arguments := evalAll_eq positive all calls (show _ ≤ steps + 1 by omega)
  rw [Execution.eval]
  · rw [arguments, pure_bind, Execution.apply]
    exact unknown _
  · exact fun _ _ _ push _ => noPush push

/-- A call that builds an entry from a name and a value comes to the entry of that name, with the
plain text of the value. -/
theorem Builder.yields (builder : Builder)
    (unknown : ∀ count, context.program.function? builder.name count = none) (key : String)
    (value : Value) : Yields context 4 (builder.expression key value)
      (.metadata ⟨key, value.plainText⟩) := by
  intro calls steps enough
  have arguments : List.Forall₂ (Yields context 1) [.literal (.string key), .literal value]
      [.string key, value] :=
    .cons (yields_literal _) (.cons (yields_literal _) .nil)
  have known : Host.call? builder.name [.string key, value] =
      some (.value (.metadata ⟨key, value.plainText⟩)) := by
    cases builder <;> rfl
  have noPush : builder.name ≠ "push" := by
    cases builder <;> decide
  refine (eval_call unknown noPush Nat.one_pos arguments calls enough).trans ?_
  rw [Execution.callKnown, known]

/-- A call that builds an entry comes to the entry. -/
theorem Pair.yields (bare : context.program.functions = []) (pair : Pair) :
    Yields context 4 pair.phrase.expression (.metadata pair.entry) :=
  pair.builder.yields (Context.function?_of_bare bare _) pair.entry.key (.string pair.entry.value)

/-- Calls that build entries come to the entries. -/
theorem Pair.forall_yields (bare : context.program.functions = []) (pairs : List Pair) :
    List.Forall₂ (Yields context 4) ((pairs.map Pair.phrase).map Phrase.expression)
      (pairs.map fun pair => .metadata pair.entry) := by
  rw [List.map_map, List.forall₂_map_left_iff, List.forall₂_map_right_iff, List.forall₂_same]
  exact fun pair _ => pair.yields bare

/-- The entries of an array of entries are these. -/
theorem Host.entriesOf_map (entries : List Metadata) :
    Host.entriesOf (entries.map .metadata) = .ok entries := by
  induction entries with
  | nil => rfl
  | cons first others ih =>
    rw [List.map_cons, Host.entriesOf, ih]
    rfl

/-- The entries of entries as arguments are these. -/
theorem Host.mapM_entry? (entries : List Metadata) :
    (entries.map Value.metadata).mapM Host.entry? = some entries := by
  induction entries with
  | nil => rfl
  | cons first others ih =>
    rw [List.map_cons, List.mapM_cons, ih]
    rfl

/-- Entries as arguments, of which there are not too many, are read as they are. -/
theorem Host.metadata?_arguments {entries : List Metadata}
    (few : entries.length ≤ Host.mostArguments) :
    Host.metadata? (entries.map .metadata) = some (.ok entries) := by
  have passed := mapM_entry? entries
  rw [Host.metadata?]
  · rw [passed, List.length_map, if_pos few]
    rfl
  all_goals
    cases entries <;> simp

/-- Entries in an array are read as they are. -/
theorem Host.metadata?_array (entries : List Metadata) :
    Host.metadata? [.array (entries.map .metadata)] = some (.ok entries) := by
  rw [Host.metadata?, entriesOf_map]
  rfl

/-- Metadata is passed as its entries, as arguments and in an array. -/
theorem Host.metadata?_values (pairs : Pairs) :
    Host.metadata? pairs.values = some (.ok pairs.metadata) := by
  have values (list : List Pair) :
      (list.map fun pair => Value.metadata pair.entry) = (list.map Pair.entry).map .metadata := by
    rw [List.map_map]
    rfl
  cases pairs with
  | array pairs =>
    rw [Pairs.values, values]
    exact metadata?_array _
  | arguments pairs few =>
    rw [Pairs.values, values]
    exact metadata?_arguments (Nat.le_trans (Nat.le_of_eq (List.length_map _)) few)

/-- The functions that render templates differ in their names only. -/
theorem Host.call?_renderer (renderer : Renderer) (arguments : List Value) :
    Host.call? renderer.name arguments = Host.render? arguments := by
  cases renderer <;> rfl

/-- Calls with the values of a call ask for what the call asks for. -/
theorem Host.call?_render (renderer : Renderer) (template output : String) (pairs : Pairs) :
    Host.call? renderer.name (.string template :: .string output :: pairs.values) =
      some (.request (.render template output pairs.metadata)) := by
  rw [call?_renderer, render?, metadata?_values]
  rfl

/-- The arguments for metadata come to the values that are passed. -/
theorem Pairs.forall_yields (bare : context.program.functions = []) (pairs : Pairs) :
    List.Forall₂ (Yields context (pairs.list.length + 5))
      (pairs.phrases.map Phrase.expression) pairs.values := by
  have weaken {bound more : Nat} (less : bound ≤ more) (expression : Expr) (value : Value)
      (yields : Yields context bound expression value) : Yields context more expression value :=
    fun calls steps enough => yields calls steps (Nat.le_trans less enough)
  cases pairs with
  | arguments pairs few =>
    exact (Pair.forall_yields bare pairs).imp (weaken (by omega))
  | array pairs =>
    have items := yields_array (by decide) (Pair.forall_yields bare pairs)
    refine .cons (weaken ?_ _ _ items) .nil
    simp only [List.length_map, Pairs.list]
    omega

/-- Metadata is passed in no more arguments than may be written. -/
theorem Pairs.length_phrases_le (pairs : Pairs) : pairs.phrases.length ≤ Host.mostArguments := by
  cases pairs with
  | arguments pairs few =>
    rw [phrases, List.length_map]
    exact few
  | array pairs => exact Nat.le_of_ble_eq_true rfl

/-- A call makes its request. -/
theorem Call.eval_phrase (bare : context.program.functions = []) (call : Call) (calls : Nat)
    {steps : Nat} (enough : call.entryCount + 16 ≤ steps) :
    Execution.eval context calls steps call.phrase.expression =
      Execution.ask context call.request := by
  cases call with
  | copy source target =>
    have arguments : List.Forall₂ (Yields context 1)
        [(Phrase.text source).expression, (Phrase.text target).expression]
        [.string source, .string target] :=
      .cons (yields_literal _) (.cons (yields_literal _) .nil)
    have fits : 1 + 2 + 1 ≤ steps := Nat.le_trans (by simp [entryCount]) enough
    have unknown := Context.function?_of_bare bare "CopyFolder"
    exact (eval_call unknown (by decide) Nat.one_pos arguments calls fits).trans rfl
  | render renderer template output pairs =>
    have text (content : String) : Yields context (pairs.list.length + 5)
        (Phrase.text content).expression (.string content) :=
      fun calls steps more => yields_literal _ calls steps (by omega)
    have arguments := List.Forall₂.cons (text template)
      (.cons (text output) (pairs.forall_yields bare))
    have noPush : renderer.name ≠ "push" := by
      cases renderer <;> decide
    have few : pairs.phrases.length ≤ 8 := pairs.length_phrases_le
    have unknown := Context.function?_of_bare bare renderer.name
    refine (eval_call unknown noPush (by omega) arguments calls ?_).trans ?_
    · simp only [List.length_cons, List.length_map]
      rw [entryCount] at enough
      omega
    · rw [Execution.callKnown, Host.call?_render]
      rfl

end

/-! ## Execution -/

/-- The answer to requests in order, up to the first one that fails. -/
def answerAll {m : Type → Type} [Monad m] (answer : Request → m (Except Failure Unit)) :
    List Request → m (Except Failure Unit)
  | [] => return .ok ()
  | first :: others => do
    match ← answer first with
    | .ok () => answerAll answer others
    | .error failure => return .error failure

section

variable {m : Type → Type} [Monad m] [LawfulMonad m] {context : Context m}

/-- Statements that make requests are executed as these are answered, and end with the failure of
the first one that fails. -/
theorem outcome_runAll {bound : Nat} {statements : List Statement} {requests : List Request}
    (all : List.Forall₂ (fun statement request => ∀ calls steps, bound ≤ steps →
      Execution.perform context calls steps statement = Execution.ask context request)
      statements requests) (calls : Nat) {steps : Nat}
    (enough : bound + statements.length < steps) (state : State) :
    ((Execution.runAll context calls steps statements).run.run state >>= fun ending =>
      pure (outcome ending.1 ending.2.failure)) = answerAll context.answer requests := by
  induction all generalizing steps state with
  | nil =>
    obtain ⟨steps, rfl⟩ := Nat.exists_eq_succ_of_ne_zero (n := steps) (by omega)
    simp [Execution.runAll, answerAll, outcome]
  | @cons first request others requests here later ih =>
    rw [List.length_cons] at enough
    obtain ⟨steps, rfl⟩ := Nat.exists_eq_succ_of_ne_zero (n := steps) (by omega)
    have asks := here calls steps (by omega)
    cases others with
    | nil =>
      cases later
      rw [Execution.runAll, asks, run_ask, answerAll, bind_assoc]
      congr 1
      funext answer
      cases answer with
      | ok done => simp [answerAll, outcome]
      | error failure => simp [outcome_failed]
    | cons second others =>
      rw [Execution.runAll, asks, run_bind, run_ask, answerAll, bind_assoc, bind_assoc]
      · congr 1
        funext answer
        cases answer with
        | ok done =>
          rw [pure_bind]
          exact ih (by omega) state
        | error failure => simp [outcome_failed]
      · exact fun same => by cases same

/-- A script of calls is executed as its requests are answered. -/
theorem Context.execute_calls {written : List Call}
    (program : context.program = ⟨written.map fun call => .expression call.phrase.expression, []⟩)
    {steps : Nat} (enough : written.length < steps)
    (each : ∀ call ∈ written, call.entryCount + written.length + 17 < steps) :
    context.execute steps = answerAll context.answer (written.map Call.request) := by
  have bare : context.program.functions = [] := congrArg Program.functions program
  have asks (call : Call) (member : call ∈ written) (calls fewer : Nat)
      (fits : steps - written.length - 1 ≤ fewer) :
      Execution.perform context calls fewer (.expression call.phrase.expression) =
        Execution.ask context call.request := by
    have needed := each call member
    obtain ⟨fewer, rfl⟩ := Nat.exists_eq_succ_of_ne_zero (n := fewer) (by omega)
    rw [Execution.perform]
    exact call.eval_phrase bare calls (by omega)
  rw [execute, program]
  refine @outcome_runAll m _ _ context (steps - written.length - 1) _ _ ?_ _ _ ?_ _
  · rw [List.forall₂_map_left_iff, List.forall₂_map_right_iff, List.forall₂_same]
    exact asks
  · rw [List.length_map]
    omega

end

/-! ## Scripts -/

/-- A text that writes calls: one statement for each of them, in order. -/
def Call.Writes (calls : List Call) (source : String) : Prop :=
  ∃ tokens, Phrase.Statements (calls.map phrase) tokens ∧ Token.Writes tokens source.toList

/-- The script that writes calls with a semicolon behind each of them, and with a space behind each
token. -/
def Call.script (calls : List Call) : String :=
  String.ofList (Token.spaced (Phrase.script (calls.map phrase)))

/-- Every list of calls has a script. -/
theorem Call.writes_script (calls : List Call) : Writes calls (script calls) := by
  have statements := Phrase.statements_script (calls.map phrase)
  have spelled := statements.hasSpelling
    (List.forall_mem_map.mpr fun call _ => call.isSpelled_phrase)
  refine ⟨_, statements, ?_⟩
  rw [script, String.toList_ofList]
  exact Token.writes_spaced spelled

/-- A script of calls is parsed into them. -/
theorem Call.parse?_of_writes {calls : List Call} {source : String}
    (writes : Writes calls source) :
    Program.parse? source =
      some ⟨calls.map fun call => .expression call.phrase.expression, []⟩ := by
  obtain ⟨tokens, statements, written⟩ := writes
  have parsed := Program.parse?_of_writes statements written
    (List.forall_mem_map.mpr fun call _ => call.isNamed_phrase)
    (List.forall_mem_map.mpr fun call _ => (readBy_phrase 125).2 call)
    (fun program => List.forall_mem_map.mpr fun call _ => call.passes_phrase program [])
  rwa [List.map_map] at parsed

/-- A call has more tokens than it passes entries. -/
theorem Call.entryCount_lt (call : Call) : call.entryCount < call.phrase.tokens.length := by
  cases call with
  | copy source target => exact Nat.succ_pos _
  | render renderer template output pairs =>
    have inRow : pairs.list.length ≤ (Phrase.row pairs.phrases).length := by
      have enough (entries : List Pair) : entries.length ≤
          (Phrase.row (entries.map Pair.phrase)).length := by
        have written := Phrase.length_le_length_row
          (List.forall_mem_map.mpr fun pair (_ : pair ∈ entries) => (readBy_phrase 0).1 pair)
        rwa [List.length_map] at written
      cases pairs with
      | arguments entries few => exact enough entries
      | array entries =>
        have written := enough entries
        simp only [Pairs.phrases, Phrase.row, Phrase.array, Pairs.list, List.length_cons,
          List.length_append]
        omega
    have more := Phrase.length_row_le (.text output) pairs.phrases
    have most := Phrase.length_row_le (.text template) (.text output :: pairs.phrases)
    simp only [phrase, Phrase.call, entryCount, List.length_cons, List.length_append]
    omega

/-- Calls have at least as many tokens as there are calls, and one of them has entries besides. -/
theorem Call.length_statements {calls : List Call} {tokens : Tokens}
    (statements : Phrase.Statements (calls.map phrase) tokens) :
    calls.length ≤ tokens.length ∧
      ∀ call ∈ calls, call.entryCount + calls.length ≤ tokens.length := by
  induction calls generalizing tokens with
  | nil => exact ⟨Nat.zero_le _, nofun⟩
  | cons first others ih =>
    have here := first.entryCount_lt
    rw [List.map_cons] at statements
    generalize rest : others.map phrase = phrases at statements
    cases statements with
    | last =>
      obtain rfl : others = [] := List.map_eq_nil_iff.mp rest
      refine ⟨Nat.succ_le_of_lt (Nat.zero_lt_of_lt here), ?_⟩
      simp only [List.mem_cons, List.not_mem_nil, or_false, forall_eq]
      exact Nat.succ_le_of_lt here
    | cons first later =>
      obtain ⟨enough, each⟩ := ih (rest ▸ later)
      simp only [List.length_cons, List.length_append, List.mem_cons, forall_eq_or_imp]
      refine ⟨by omega, by omega, fun call member => ?_⟩
      have fits := each call member
      omega

/-- Calls have at least as many characters as there are calls, and one of them has entries
besides. -/
theorem Call.length_source {calls : List Call} {source : String} (writes : Writes calls source) :
    calls.length ≤ source.length ∧
      ∀ call ∈ calls, call.entryCount + calls.length ≤ source.length := by
  obtain ⟨tokens, statements, written⟩ := writes
  have characters := written.length_le
  rw [String.length_toList] at characters
  obtain ⟨enough, each⟩ := length_statements statements
  exact ⟨Nat.le_trans enough characters,
    fun call member => Nat.le_trans (each call member) characters⟩

end Stencil.Script
