import CedarDrt.Trial

/-!
# The type-directed fuzz inputs

`ABACTypeDirectedFuzzTargetInput::arbitrary`, the test target's
`FuzzTargetInput::arbitrary` and `EvalTypeDirectedFuzzTargetInput::arbitrary` draw a
schema, a hierarchy for it, and the scenario's policy or expression and requests for
that hierarchy; they convert the hierarchy to an entity store and hand the store to
`drop_some_entities`.  That function is in the crate root, which this repository does
not hold, and all its call sites fix is that it sees the store and the byte stream: every
draw here takes it as a parameter, a draw of a store from a store.

The two ABAC draws also time themselves: they read the wall clock before the first
draw and, when every draw succeeded, again, and `expect("Time went backwards")` panics
when it went back.  The eval draw reads no clock.

## Main definitions

* `FuzzTargetInput`, `ABACTypeDirectedFuzzTargetInput`, `EvalTypeDirectedFuzzTargetInput`
  — the inputs, with their draws and their observation records.
* `FuzzTargetInput.drawScenario` — the draws the two ABAC inputs share.

## Main results

* `FuzzTargetInput.arbitrary_of_ok`, `FuzzTargetInput.arbitrary_of_error`,
  `FuzzTargetInput.arbitrary_of_panic` — what a timed draw does, by the outcome of its
  draws.
-/

namespace CedarDrt

/-! ### Settings -/

/-- `SETTINGS` of `abac_type_directed.rs`; `eval_type_directed.rs`, the test target and
the `cedar-bolero` target `eval_type_directed_derived` declare the same constant. -/
def typeDirectedSettings : ABACSettings where
  matchTypes := true
  enableExtensions := true
  maxDepth := 3
  maxWidth := 3
  enableAdditionalAttributes := false
  enableLike := true
  enableActionGroupsAndAttrs := true
  enableArbitraryFuncCall := true
  enableUnknowns := false
  enableActionInConstraints := true
  enableUnspecifiedApplySpec := true

/-! ### The ABAC inputs -/

/-- The test target's `FuzzTargetInput`: a schema, the entities, one policy, and
eight requests (`gen_time` is left out). -/
structure FuzzTargetInput where
  schema : Schema
  entities : Entities
  policy : GeneratedPolicy
  requests : List Request
  requests_length : requests.length = 8

/-- `ABACTypeDirectedFuzzTargetInput`: the same, with the `valid` flag. -/
structure ABACTypeDirectedFuzzTargetInput extends FuzzTargetInput where
  valid : Bool

/-- The draws of the two ABAC inputs' `arbitrary`, with `drop_some_entities` as the
parameter `drop`: schema, hierarchy, policy, eight requests, the hierarchy converted to
entities (an `Err` is `NotEnoughData`), and the drop. -/
def FuzzTargetInput.drawScenario (drop : Entities → Gen Entities) (g : Generators) :
    Gen FuzzTargetInput := do
  let schema ← g.schemaArbitrary typeDirectedSettings
  let hierarchy ← g.arbitraryHierarchy schema
  let policy ← g.arbitraryPolicy schema hierarchy
  let requests ← drawN (g.arbitraryRequest schema hierarchy) 8
  let allEntities ← Gen.ofLibrary
    ((g.entitiesTryFrom hierarchy).map fun r => r.mapError fun _ => .notEnoughData)
  let entities ← drop allEntities
  pure ⟨schema, entities, policy, requests.1, requests.2⟩

/-- `FuzzTargetInput::arbitrary` of the test target: the clock is read, the scenario
drawn, and, when every draw succeeded, the clock checked; the `Err` of a draw is
returned, and a panic inside one unwinds. -/
def FuzzTargetInput.arbitrary {C : Type} (drop : Entities → Gen Entities) (g : Generators)
    (u : Unstructured) : Trial C (Except Error FuzzTargetInput) := do
  let startTime ← SystemTime.now
  match FuzzTargetInput.drawScenario drop g u with
  | .ok (input, _) => do
    let _ ← timeSince startTime
    pure (.ok input)
  | .error (.error e) => pure (.error e)
  | .error (.panic p) => Trial.panic p

/-- `ABACTypeDirectedFuzzTargetInput::arbitrary`: the draws and the clock of
`FuzzTargetInput::arbitrary`.  Its `valid` flag is cleared only inside the `map_err`
whose `Err` the `?` returns, so every input it returns is `valid`. -/
def ABACTypeDirectedFuzzTargetInput.arbitrary {C : Type} (drop : Entities → Gen Entities)
    (g : Generators) (u : Unstructured) : Trial C (Except Error ABACTypeDirectedFuzzTargetInput) := do
  let input ← FuzzTargetInput.arbitrary drop g u
  pure (input.map fun input => { input with valid := true })

section timedDraw

variable {C : Type} {drop : Entities → Gen Entities} {g : Generators} {u u' : Unstructured}

/-- A timed draw whose draws succeed checks the clock it started, and returns the input. -/
theorem FuzzTargetInput.arbitrary_of_ok {input : FuzzTargetInput}
    (h : FuzzTargetInput.drawScenario drop g u = .ok (input, u')) (w : World C) :
    FuzzTargetInput.arbitrary drop g u w =
      (timeSince (w.time w.ticks) >>= fun _ => pure (.ok input))
        { w with ticks := w.ticks + 1 } := by
  simp only [FuzzTargetInput.arbitrary, Trial.bind_apply, SystemTime.now_apply, h]

/-- A timed draw that returns an `Err` returns it, having read the clock once. -/
theorem FuzzTargetInput.arbitrary_of_error {e : Error}
    (h : FuzzTargetInput.drawScenario drop g u = .error (.error e)) (w : World C) :
    FuzzTargetInput.arbitrary drop g u w = .done (.error e) { w with ticks := w.ticks + 1 } := by
  simp only [FuzzTargetInput.arbitrary, Trial.bind_apply, SystemTime.now_apply, h]
  rfl

/-- A panic inside a draw unwinds the timed draw, after one reading of the clock. -/
theorem FuzzTargetInput.arbitrary_of_panic {p : Panic}
    (h : FuzzTargetInput.drawScenario drop g u = .error (.panic p)) (w : World C) :
    FuzzTargetInput.arbitrary drop g u w = .panicked p { w with ticks := w.ticks + 1 } := by
  simp only [FuzzTargetInput.arbitrary, Trial.bind_apply, SystemTime.now_apply, h]
  rfl

/-- With a clock that does not go back, a timed draw whose draws succeed returns the
input, having read the clock twice. -/
theorem FuzzTargetInput.arbitrary_of_forward {input : FuzzTargetInput}
    (h : FuzzTargetInput.drawScenario drop g u = .ok (input, u')) {w : World C}
    (hc : w.ClockForward) :
    FuzzTargetInput.arbitrary drop g u w = .done (.ok input) { w with ticks := w.ticks + 2 } := by
  rw [FuzzTargetInput.arbitrary_of_ok h, Trial.bind_of_done
    (timeSince_of_forward (w := { w with ticks := w.ticks + 1 }) hc rfl (Nat.le_succ _))]
  rfl

/-- A timed draw only reads the clock. -/
theorem FuzzTargetInput.arbitrary_appendsOnly (w : World C) {P : String × TycheTest → Prop}
    {F : FsCall → Prop} : (FuzzTargetInput.arbitrary drop g u w).AppendsOnly w P F := by
  refine Trial.bind_appendsOnly (.of_calls [] 1 (by simp)) fun _ _ _ => ?_
  rcases FuzzTargetInput.drawScenario drop g u with (e | p) | ⟨input, u'⟩
  · exact .done_self _
  · exact .panicked_self _
  · exact Trial.bind_appendsOnly (timeSince_appendsOnly _ _) fun _ _ _ => .done_self _

end timedDraw

/-- The `namespace_name` that `get_features` measures: the schema's namespace, or the
empty string when it has none. -/
def Schema.namespaceName (s : Schema) : String :=
  match s.namespace with
  | none => ""
  | some name => name.namespace

/-- `get_features` of both ABAC inputs: the length of the namespace's name and the
number of actions, entity types and common types, with no validation error yet. -/
def FuzzTargetInput.getFeatures (input : FuzzTargetInput) : Features :=
  let namespaceName := input.schema.namespaceName
  (((((⟨[]⟩ : Features).set "namespace_name_len" namespaceName.utf8ByteSize).set
    "num_actions" input.schema.schema.actions.length).set
    "num_entity_types" input.schema.schema.entityTypes.length).set
    "num_common_types" input.schema.schema.commonTypes.length).set "validation_errors" 0

/-- `to_tyche` of the test target's input; `dflt` is `TycheTest::default()`. -/
def FuzzTargetInput.toTyche (dflt : TycheTest) (input : FuzzTargetInput) : TycheTest :=
  { dflt with property := "abac-type-directed", features := input.getFeatures }

/-- `ABACTypeDirectedFuzzTargetInput::to_tyche`, the same record. -/
def ABACTypeDirectedFuzzTargetInput.toTyche (dflt : TycheTest)
    (input : ABACTypeDirectedFuzzTargetInput) : TycheTest :=
  input.toFuzzTargetInput.toTyche dflt

/-- The scenario the sample generators draw from any non-empty buffer when the drop keeps
every entity: eight requests of `alice`, whose hierarchy holds `alice` alone. -/
def sampleScenario : FuzzTargetInput :=
  ⟨⟨none, ⟨[], ["User"], ["view"]⟩⟩, ⟨sampleHierarchy.entities⟩, ⟨.fromString "policy0", []⟩,
    List.replicate 8 aliceRequest, rfl⟩

/-! ### The eval input -/

/-- The expression generators of `cedar_policy_generators` the eval input calls. -/
structure ExprGenerators (SchemaType Expr : Type) where
  /-- `arbitrary_schematype_with_bounded_depth(settings, entity_types, max_depth, u)`. -/
  arbitrarySchematypeWithBoundedDepth : ABACSettings → List String → Nat → Gen SchemaType
  /-- `schema.exprgenerator(Some(hierarchy)).generate_expr_for_schematype(ty, depth, u)`. -/
  generateExprForSchematype : Schema → Hierarchy → SchemaType → Nat → Gen Expr

/-- `EvalTypeDirectedFuzzTargetInput`: a schema, the entities, an expression, and one
request. -/
structure EvalTypeDirectedFuzzTargetInput (Expr : Type) where
  schema : Schema
  entities : Entities
  expression : Expr
  request : Request

/-- `EvalTypeDirectedFuzzTargetInput::arbitrary`, with `drop_some_entities` as the
parameter `drop`: schema, hierarchy, a type and an expression of it, one request, the
hierarchy converted to entities (an `Err` is `Error::EntitiesError`), and the drop. -/
def EvalTypeDirectedFuzzTargetInput.arbitrary {SchemaType Expr : Type}
    (drop : Entities → Gen Entities) (g : Generators) (eg : ExprGenerators SchemaType Expr) :
    Gen (EvalTypeDirectedFuzzTargetInput Expr) := do
  let schema ← g.schemaArbitrary typeDirectedSettings
  let hierarchy ← g.arbitraryHierarchy schema
  let toplevelType ← eg.arbitrarySchematypeWithBoundedDepth typeDirectedSettings
    schema.entityTypes typeDirectedSettings.maxDepth
  let expression ← eg.generateExprForSchematype schema hierarchy toplevelType
    typeDirectedSettings.maxDepth
  let request ← g.arbitraryRequest schema hierarchy
  let allEntities ← Gen.ofLibrary ((g.entitiesTryFrom hierarchy).map fun r => r.mapError g.entitiesError)
  let entities ← drop allEntities
  pure ⟨schema, entities, expression, request⟩

/-- `EvalTypeDirectedFuzzTargetInput::to_tyche`: no features.  It first serializes the
input and the entities to JSON and unwraps each result; `representable` says whether
all of them succeed, and a failure is a panic. -/
def EvalTypeDirectedFuzzTargetInput.toTyche {Expr : Type} (dflt : TycheTest)
    (representable : EvalTypeDirectedFuzzTargetInput Expr → Bool)
    (input : EvalTypeDirectedFuzzTargetInput Expr) : Except Panic TycheTest :=
  if representable input then .ok { dflt with property := "eval-type-directed", features := ⟨[]⟩ }
  else .error .unwrap

end CedarDrt
