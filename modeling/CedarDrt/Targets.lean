import CedarDrt.Harnesses

/-!
# The parser target and the derived targets

`fuzz/fuzz_targets/simple-parser.rs` parses an arbitrary string as a policy set, timing
the parse.  It is the one target whose record can say `failed`: a string the parser
rejects is recorded as `failed`, for `Parse error!`.  The target panics, writing nothing,
when the parser itself panics, which is the crash the target exists to find, when one of
the parser's errors is one it reports for an internal invariant violation, when the
clock went back, and when `FUZZ_TARGET` is unset.  Its observation file is
`tyche-out/<FUZZ_TARGET>_testcases.jsonl`.

The `cedar-bolero` targets draw their inputs with the `cedar` crates' own `Arbitrary`
implementations and hand them to the differential oracles, with no assertion and no
record of their own.

## Main definitions

* `ParseError`, `ParseError.isInvariantViolation` — what the parser target reads of
  the parser's errors.
* `simpleParser` — the body of `simple-parser`'s `fuzz_target!`; `parserRecord`, the
  record it appends, and `parserCrash`, the panic it ends with.
* `DerivedGenerators` — the `cedar` crates' `Arbitrary` implementations.
* `AbacDerived.run`, `EvalTypeDirectedDerived.run`, `ValidationDrtDerived.run` — the
  closures the derived targets hand to `for_each`.

## Main results

* `simpleParser_of_writable`, `simpleParser_of_crash` — **what a named parser trial
  does**, in a writable world whose clock does not go back.
-/

namespace CedarDrt

/-! ### The parser target -/

/-- `ToASTErrorKind`, kept to the kinds the target tells apart: the three it asserts
never to see, and the rest. -/
inductive ToASTErrorKind where
  | annotationInvariantViolation
  | membershipInvariantViolation
  | missingNodeData
  | other
  deriving DecidableEq, Repr

/-- A `ParseError` of `parse_policyset`: a `ToAST` error of some kind, or another. -/
inductive ParseError where
  | toAST (kind : ToASTErrorKind)
  | other
  deriving DecidableEq, Repr

/-- The `matches!` of the target's `assert!`: a `ToAST` error of one of the three
kinds. -/
def ParseError.isInvariantViolation : ParseError → Bool
  | .toAST .annotationInvariantViolation => true
  | .toAST .membershipInvariantViolation => true
  | .toAST .missingNodeData => true
  | _ => false

/-- The body of `simple-parser`'s `fuzz_target!` on the string `input`; `parse` is
`parse_policyset`, which is not in this repository (`none` is a panic inside it), and
`dflt` is `TycheTest::default()`.  The record's representation and timing are left
out. -/
def simpleParser {C : Type} (parse : String → Option (Except (List ParseError) Unit))
    (dflt : TycheTest) (input : String) : Trial C Unit := do
  let startTime ← SystemTime.now
  let some testName ← envVar "FUZZ_TARGET" | Trial.panic .unwrap
  let obsOut : TycheTest := { dflt with property := testName }
  let parseOut ← Trial.library (parse input)
  let _ ← timeSince startTime
  let obsOut ← match parseOut with
    | .ok _ => pure obsOut
    | .error errs => do
      let obsOut := { obsOut with status := "failed", statusReason := "Parse error!" }
      if errs.any ParseError.isInvariantViolation then Trial.panic .assert
      else pure obsOut
  appendObservation "tyche-out" testName obsOut

/-- The record `simple-parser` appends for `input` under the test name `testName`. -/
def parserRecord (parse : String → Option (Except (List ParseError) Unit)) (dflt : TycheTest)
    (testName input : String) : TycheTest :=
  match parse input with
  | some (.error _) => { dflt with property := testName, status := "failed", statusReason := "Parse error!" }
  | _ => { dflt with property := testName }

/-- The panic a named trial on `input` ends with, whatever the world: a panic inside the
parser, or the `assert!` on an invariant violation among its errors. -/
def parserCrash (parse : String → Option (Except (List ParseError) Unit)) (input : String) :
    Option Panic :=
  match parse input with
  | none => some .library
  | some (.ok _) => none
  | some (.error errs) => if errs.any ParseError.isInvariantViolation then some .assert else none

section simpleParser

variable {C : Type} {parse : String → Option (Except (List ParseError) Unit)} {dflt : TycheTest}
  {input testName : String} {w : World C}

/-- **A named trial in a writable world whose clock does not go back**, on a string the
parser neither panics on nor reports an invariant violation on, makes the tail's
filesystem calls and appends the string's record. -/
theorem simpleParser_of_writable (h : w.env.lookup "FUZZ_TARGET" = some testName)
    (hw : Writable w "tyche-out" testName) (hc : w.ClockForward)
    (hcrash : parserCrash parse input = none) :
    simpleParser parse dflt input w = .done () { w with
      fsCalls := w.fsCalls ++ observationFsCalls "tyche-out" testName,
      log := w.log ++
        [(observationFile "tyche-out" testName, parserRecord parse dflt testName input)],
      ticks := w.ticks + 2 } := by
  have htime := timeSince_of_forward (w := { w with ticks := w.ticks + 1 }) hc rfl (Nat.le_succ _)
  have htail := fun obs => appendObservation_of_writable
    (w := { w with ticks := w.ticks + 1 + 1 }) (hw.frame w.calls w.fsCalls w.log _) obs
  rcases hp : parse input with _ | errs | ⟨⟩
  · simp [parserCrash, hp] at hcrash
  · cases hv : errs.any ParseError.isInvariantViolation
    · simp only [simpleParser, parserRecord, Trial.bind_apply, SystemTime.now_apply, envVar_apply,
        h, hp, Trial.library_some, Trial.pure_bind, htime, hv, Bool.false_eq_true, ↓reduceIte,
        htail]
    · simp [parserCrash, hp, hv] at hcrash
  · simp only [simpleParser, parserRecord, Trial.bind_apply, SystemTime.now_apply, envVar_apply, h,
      hp, Trial.library_some, Trial.pure_bind, htime, htail]

/-- **A named trial on a string that crashes the target** panics, having read the clock
and appended nothing, when the clock does not go back. -/
theorem simpleParser_of_crash (dflt : TycheTest) {p : Panic}
    (h : w.env.lookup "FUZZ_TARGET" = some testName)
    (hc : w.ClockForward) (hcrash : parserCrash parse input = some p) :
    ∃ k, simpleParser parse dflt input w = .panicked p { w with ticks := w.ticks + k } := by
  have htime := timeSince_of_forward (w := { w with ticks := w.ticks + 1 }) hc rfl (Nat.le_succ _)
  rcases hp : parse input with _ | errs | ⟨⟩
  · obtain rfl : p = .library := by simpa [parserCrash, hp] using hcrash.symm
    exact ⟨1, by simp only [simpleParser, Trial.bind_apply, SystemTime.now_apply, envVar_apply, h,
      hp, Trial.library_none, Trial.panic_apply]⟩
  · cases hv : errs.any ParseError.isInvariantViolation
    · simp [parserCrash, hp, hv] at hcrash
    · obtain rfl : p = .assert := by simpa [parserCrash, hp, hv] using hcrash.symm
      exact ⟨2, by simp only [simpleParser, Trial.bind_apply, SystemTime.now_apply, envVar_apply,
        h, hp, Trial.library_some, Trial.pure_bind, htime, hv, ↓reduceIte, Trial.panic_bind,
        Trial.panic_apply]⟩
  · simp [parserCrash, hp] at hcrash

end simpleParser

/-! ### The derived targets -/

/-- The `Arbitrary` implementations of the `cedar` crates that the derived targets draw
with, and `try_into_ast_policy`, which turns an EST policy into a static policy of the
given id; none of them is in this repository. -/
structure DerivedGenerators (EstPolicy Expr SchemaFragment : Type) where
  estPolicy : Gen EstPolicy
  tryIntoAstPolicy : EstPolicy → PolicyID → Except String GeneratedPolicy
  entities : Gen Entities
  expression : Gen Expr
  request : Gen Request
  schemaFragment : Gen SchemaFragment

variable {EstPolicy Expr SF VS : Type}

/-- The policy of the two derived targets' `arbitrary`: an EST policy, converted with the
id `policy0`; a policy that does not convert is `IncorrectFormat`. -/
def DerivedGenerators.policy (g : DerivedGenerators EstPolicy Expr SF) : Gen GeneratedPolicy := do
  let estPolicy ← g.estPolicy
  Gen.ofExcept ((g.tryIntoAstPolicy estPolicy (.fromString "policy0")).mapError
    fun _ => .incorrectFormat)

namespace AbacDerived

/-- The input of `abac_derived`: an entity store, a policy and eight requests. -/
structure FuzzTargetInput where
  entities : Entities
  policy : GeneratedPolicy
  requests : List Request
  requests_length : requests.length = 8

/-- `<FuzzTargetInput as Arbitrary>::arbitrary` of `abac_derived`. -/
def FuzzTargetInput.arbitrary (g : DerivedGenerators EstPolicy Expr SF) : Gen FuzzTargetInput := do
  let policy ← g.policy
  let entities ← g.entities
  let requests ← drawN g.request 8
  pure ⟨entities, policy, requests.1, requests.2⟩

/-- The closure `abac_derived` hands to `for_each`: the policy in a policy set of its
own, and the eight requests sent to `run_auth_test` in order, each reply dropped, as in
the loop of `test_rbac`. -/
def run (oracle : AuthOracle) (input : FuzzTargetInput) : Trial AuthCall Unit := do
  let policyset ← Trial.ofExcept ((PolicySet.new.addStatic input.policy).mapError
    fun _ => Panic.unwrap)
  rbacRequestLoop oracle policyset input.entities input.requests

end AbacDerived

namespace EvalTypeDirectedDerived

/-- The input of `eval_type_directed_derived`, drawn field by field. -/
structure FuzzTargetInput (Expr : Type) where
  entities : Entities
  expression : Expr
  request : Request

/-- The derived `<FuzzTargetInput as Arbitrary>::arbitrary`: the fields in order. -/
def FuzzTargetInput.arbitrary (g : DerivedGenerators EstPolicy Expr SF) :
    Gen (FuzzTargetInput Expr) := do
  let entities ← g.entities
  let expression ← g.expression
  let request ← g.request
  pure ⟨entities, expression, request⟩

/-- The closure `eval_type_directed_derived` hands to `for_each`. -/
def run (oracle : EvalOracle Expr) (input : FuzzTargetInput Expr) : Trial (EvalCall Expr) Unit :=
  runEvalTest oracle input.request input.expression input.entities
    typeDirectedSettings.enableExtensions

end EvalTypeDirectedDerived

/-- A call of `run_val_test`, in strict mode: the converted schema and the policy set. -/
structure ValCall (VS : Type) where
  schema : VS
  policySet : PolicySet

/-- The validation oracle: `none` for a panic inside `run_val_test`, where the two
validators disagreed. -/
abbrev ValOracle (VS : Type) := List (ValCall VS) → ValCall VS → Option Unit

/-- `run_val_test(&def_impl, schema, &policyset, ValidationMode::Strict)`. -/
def runValTest (oracle : ValOracle VS) (schema : VS) (policySet : PolicySet) :
    Trial (ValCall VS) Unit :=
  Trial.call oracle ⟨schema, policySet⟩

namespace ValidationDrtDerived

/-- The input of `validation_drt_derived`: a schema fragment and a policy. -/
structure FuzzTargetInput (SF : Type) where
  schema : SF
  policy : GeneratedPolicy

/-- `<FuzzTargetInput as Arbitrary>::arbitrary` of `validation_drt_derived`. -/
def FuzzTargetInput.arbitrary (g : DerivedGenerators EstPolicy Expr SF) :
    Gen (FuzzTargetInput SF) := do
  let policy ← g.policy
  let schema ← g.schemaFragment
  pure ⟨schema, policy⟩

/-- The closure `validation_drt_derived` hands to `for_each`; `schemaTryFrom` is
`ValidatorSchema::try_from`, and `none` a panic inside it. -/
def run (schemaTryFrom : SF → Option (Except String VS)) (oracle : ValOracle VS)
    (input : FuzzTargetInput SF) : Trial (ValCall VS) Unit := do
  match ← Trial.library (schemaTryFrom input.schema) with
  | .ok schema =>
    let policy := input.policy
    let policyset ← Trial.ofExcept ((PolicySet.new.addStatic policy).mapError
      fun _ => Panic.unwrap)
    runValTest oracle schema policyset
  | .error _ => pure ()

end ValidationDrtDerived

end CedarDrt
