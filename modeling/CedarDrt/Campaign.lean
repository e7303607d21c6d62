import CedarDrt.Targets

/-!
# Campaigns

A fuzzer runs a target's body once per input, in one process: each trial starts from
the world the one before left, so the observation files, which the targets open for
appending, collect one line per trial.  A panic is a crash, and the fuzzer stops there.
`campaign` is that loop; the fuzzers' own loops are not in this repository.

What a campaign writes follows from what one trial may do to the world.  The AFL
targets' trials only make calls, read the clock, create the observation directory and
file, and append records of one kind, fixed by the environment, so whole campaigns do.

What a campaign of `abac-type-directed` is for is said by `abstractCampaign`, over
`AbacRun`, the calls and the records of a run: each byte string becomes one scenario,
whose eight requests go to the engines and whose record, with the validator's verdict
and counting the errors of the engines' answers, goes to the test's file.  Against
engines that agree, a validator that answers, a writable file and a clock that does not
go back, the code's campaign projects onto exactly that, one trial per abstract step,
until the first byte string the generators reject, which crashes it.  Whatever the
engines, the validator and the clock do, the calls of a campaign come in scenario order.
A campaign of `eval-type-directed`, by contrast, records a byte string the generators
reject as a failed generation and goes on; one of the parser target crashes at the first
string the parser panics on or reports an invariant violation on.

## Main definitions

* `campaign` — the trials of a target on a list of inputs.
* `AbacRecord`, `EvalRecord` — the records the AFL targets write.
* `AbacRun`, `World.abacRun`, `scenarioStep`, `abstractCampaign` — the abstract campaign
  of `abac-type-directed`, and the projection onto it.
* `drawnScenarios` — the scenarios drawn from a campaign's byte strings.
* `evalCallsOf`, `evalRecordOf`, `parserLines` — what an eval or a parser campaign
  leaves, string by string.

## Main results

* `campaign_appendsOnly` — the run lemma: what every trial may do, a campaign may do.
* `afl_campaigns_append_only` — **what an AFL campaign may do to the world.**
* `abac_campaign_refines` — **a campaign in a well-behaved world refines the abstract
  campaign.**
* `abac_campaign_calls_in_order` — **a campaign's calls come in scenario order, whatever
  the engines do.**
* `eval_campaign_records_every_input` — **an eval campaign records every byte string and
  goes on.**
* `simple_parser_campaign_log` — **the parser target's file after a campaign.**
-/

namespace CedarDrt

/-! ### The fuzzer's loop -/

/-- A fuzzing campaign: the target's trial on each input in turn, each from the world
the one before left; the first panic ends it. -/
def campaign {C I : Type} (trial : I → Trial C Unit) : List I → Trial C Unit
  | [] => pure ()
  | input :: inputs => do
    trial input
    campaign trial inputs

section campaign

variable {C I : Type} {trial : I → Trial C Unit}

theorem campaign_cons (input : I) (inputs : List I) :
    campaign trial (input :: inputs) = trial input >>= fun _ => campaign trial inputs := rfl

/-- A campaign on two lists of inputs is the campaign on the first, then on the second. -/
theorem campaign_append (xs ys : List I) :
    campaign trial (xs ++ ys) = campaign trial xs >>= fun _ => campaign trial ys := by
  induction xs with
  | nil =>
    funext w
    simp only [List.nil_append, campaign, Trial.bind_apply, Trial.pure_apply]
  | cons x xs ih =>
    funext w
    simp only [List.cons_append, campaign_cons, ih, Trial.bind_apply]
    cases trial x w <;> rfl

/-- **The run lemma.**  If every trial, from every world, only makes calls, reads the
clock, and makes the filesystem calls and appends the records that the world's
environment allows, then so does every campaign. -/
theorem campaign_appendsOnly {P : List (String × String) → String × TycheTest → Prop}
    {F : List (String × String) → FsCall → Prop}
    (h : ∀ input w, (trial input w).AppendsOnly w (P w.env) (F w.env)) :
    ∀ (inputs : List I) (w : World C), (campaign trial inputs w).AppendsOnly w (P w.env) (F w.env)
  | [], w => .done_self ()
  | input :: inputs, w => Trial.bind_appendsOnly (h input w) fun _ w₁ hd => by
    have henv : w₁.env = w.env := by simpa [hd] using (h input w).env_eq
    rw [← henv]
    exact campaign_appendsOnly h inputs w₁

end campaign

/-! ### What an AFL campaign may do -/

/-- The records the AFL target `abac-type-directed` writes under the environment `env`:
to the test's file in `fuzz/observations`, saying `passed` or `gave_up`. -/
def AbacRecord (env : List (String × String)) (rec : String × TycheTest) : Prop :=
  rec.1 = observationFile observationsDir ((env.lookup "FUZZ_TARGET").getD "fuzz-target") ∧
    (rec.2.status = "passed" ∨ rec.2.status = "gave_up")

/-- The records the AFL target `eval-type-directed` writes under the environment `env`:
to the test's file in `fuzz/observations`, saying `gave_up` or keeping the default
record's status. -/
def EvalRecord (dflt : TycheTest) (env : List (String × String)) (rec : String × TycheTest) :
    Prop :=
  rec.1 = observationFile observationsDir ((env.lookup "FUZZ_TARGET").getD "eval-type-directed") ∧
    (rec.2.status = "gave_up" ∨ rec.2.status = dflt.status)

@[simp] theorem abacRecord_mk {env : List (String × String)} {path : String} {obs : TycheTest} :
    AbacRecord env (path, obs) ↔
      path = observationFile observationsDir ((env.lookup "FUZZ_TARGET").getD "fuzz-target") ∧
        (obs.status = "passed" ∨ obs.status = "gave_up") := Iff.rfl

@[simp] theorem evalRecord_mk {dflt : TycheTest} {env : List (String × String)} {path : String}
    {obs : TycheTest} :
    EvalRecord dflt env (path, obs) ↔
      path = observationFile observationsDir
          ((env.lookup "FUZZ_TARGET").getD "eval-type-directed") ∧
        (obs.status = "gave_up" ∨ obs.status = dflt.status) := Iff.rfl

variable {VS : Type}

/-- The harnesses' tail, from a world with the environment `env`, makes only the
filesystem calls of the test's file and appends only its record there. -/
theorem recordObservation_appendsOnly_of_env {C : Type} (d : String) {obs : TycheTest}
    {w : World C} {env : List (String × String)} (henv : w.env = env)
    {P : String × TycheTest → Prop}
    (hP : P (observationFile observationsDir ((env.lookup "FUZZ_TARGET").getD d), obs)) :
    (recordObservation d obs w).AppendsOnly w P
      (· ∈ observationFsCalls observationsDir ((env.lookup "FUZZ_TARGET").getD d)) := by
  subst henv
  exact (recordObservation_appendsOnly d obs w).mono (fun rec h => h ▸ hP) fun _ => id

/-- A trial of `test_abac_type_directed` makes its calls, reads the clock, and appends at
most a record of the target's kind. -/
theorem testAbacTypeDirected_appendsOnly (oracle : AuthOracle) (v : Validator VS)
    (dflt : TycheTest) (input : ABACTypeDirectedFuzzTargetInput) (valid : Bool)
    (w : World AuthCall) :
    (testAbacTypeDirected oracle v dflt input valid w).AppendsOnly w (AbacRecord w.env)
      (· ∈ observationFsCalls observationsDir
        ((w.env.lookup "FUZZ_TARGET").getD "fuzz-target")) := by
  cases valid with
  | false =>
    exact recordObservation_appendsOnly_of_env "fuzz-target" rfl (abacRecord_mk.mpr ⟨rfl, .inr rfl⟩)
  | true =>
    rw [testAbacTypeDirected_true, SystemTime.now_bind]
    refine (Outcome.AppendsOnly.of_calls (o := Outcome.done () { w with ticks := w.ticks + 1 }) []
      1 (by simp)).trans (Trial.bind_appendsOnly (executeScenario_appendsOnly _ _ _)
        fun obs w₂ hexec => Trial.bind_appendsOnly (timeSince_appendsOnly _ _) fun _ w₃ h₃ => ?_)
    have henv : w₂.env = w.env :=
      (executeScenario_appendsOnly (fun _ => True) (fun _ => True)
        { w with ticks := w.ticks + 1 }).env_of_done hexec
    have henv₃ : w₃.env = w₂.env :=
      (timeSince_appendsOnly (P := fun _ => True) (F := fun _ => True) _ _).env_of_done h₃
    obtain ⟨c, total, -, rfl⟩ := executeScenario_eq_done hexec
    refine recordObservation_appendsOnly_of_env "fuzz-target" (henv₃.trans henv)
      (abacRecord_mk.mpr ⟨rfl, ?_⟩)
    simp only [scenarioRecord, validationRecord_status]
    split <;> simp

/-- A trial of the AFL target `abac-type-directed` draws, reads the clock, makes its
calls and appends at most a record of the target's kind. -/
theorem abacTypeDirectedMain_appendsOnly (drop : Entities → Gen Entities) (g : Generators)
    (oracle : AuthOracle) (v : Validator VS) (dflt : TycheTest) (data : List UInt8)
    (w : World AuthCall) :
    (abacTypeDirectedMain drop g oracle v dflt data w).AppendsOnly w (AbacRecord w.env)
      (· ∈ observationFsCalls observationsDir
        ((w.env.lookup "FUZZ_TARGET").getD "fuzz-target")) := by
  have hdraw : (FuzzTargetInput.arbitrary drop g (.new data) w).AppendsOnly w (AbacRecord w.env)
      (· ∈ observationFsCalls observationsDir ((w.env.lookup "FUZZ_TARGET").getD "fuzz-target")) :=
    FuzzTargetInput.arbitrary_appendsOnly w
  cases hd : FuzzTargetInput.arbitrary drop g (.new data) w with
  | done r w₁ =>
    rw [hd] at hdraw
    rw [abacTypeDirectedMain_of_draw hd]
    cases r with
    | error e => exact hdraw
    | ok input =>
      have henv : w₁.env = w.env := hdraw.env_eq
      refine hdraw.trans ?_
      rw [Outcome.world_done, ← henv]
      exact testAbacTypeDirected_appendsOnly oracle v dflt _ true w₁
  | panicked p w₁ =>
    rw [hd] at hdraw
    rw [abacTypeDirectedMain_of_draw_panic hd]
    exact hdraw

/-- A trial of `test_eval_type_directed` makes at most its one call and appends at most a
record of the target's kind. -/
theorem testEvalTypeDirected_appendsOnly {Expr : Type} (oracle : EvalOracle Expr)
    (dflt : TycheTest) (representable : EvalTypeDirectedFuzzTargetInput Expr → Bool)
    (input : Except Error (EvalTypeDirectedFuzzTargetInput Expr)) (w : World (EvalCall Expr)) :
    (testEvalTypeDirected oracle dflt representable input w).AppendsOnly w (EvalRecord dflt w.env)
      (· ∈ observationFsCalls observationsDir
        ((w.env.lookup "FUZZ_TARGET").getD "eval-type-directed")) := by
  cases input with
  | error e =>
    exact recordObservation_appendsOnly_of_env "eval-type-directed" rfl
      (evalRecord_mk.mpr ⟨rfl, .inl rfl⟩)
  | ok input =>
    rw [testEvalTypeDirected_apply, EvalTypeDirectedFuzzTargetInput.toTyche]
    by_cases hrep : representable input = true
    · simp only [hrep, ↓reduceIte]
      have hcall := Trial.call_appendsOnly (P := EvalRecord dflt w.env)
        (F := (· ∈ observationFsCalls observationsDir
          ((w.env.lookup "FUZZ_TARGET").getD "eval-type-directed")))
        oracle ⟨input.request, input.expression, input.entities, true⟩ w
      cases hr : runEvalTest oracle input.request input.expression input.entities true w with
      | done _ w₁ =>
        rw [← runEvalTest, hr] at hcall
        exact hcall.trans
          (recordObservation_appendsOnly_of_env "eval-type-directed" hcall.env_eq
            (evalRecord_mk.mpr ⟨rfl, .inr rfl⟩))
      | panicked p w₁ =>
        rw [← runEvalTest, hr] at hcall
        exact hcall
    · simp only [hrep, Bool.false_eq_true, ↓reduceIte]
      exact .panicked_self _

/-- A trial of the AFL target `eval-type-directed` draws, makes at most its one call and
appends at most a record of the target's kind. -/
theorem evalTypeDirectedMain_appendsOnly {SchemaType Expr : Type} (drop : Entities → Gen Entities)
    (g : Generators) (eg : ExprGenerators SchemaType Expr) (oracle : EvalOracle Expr)
    (dflt : TycheTest) (representable : EvalTypeDirectedFuzzTargetInput Expr → Bool)
    (data : List UInt8) (w : World (EvalCall Expr)) :
    (evalTypeDirectedMain drop g eg oracle dflt representable data w).AppendsOnly w
      (EvalRecord dflt w.env) (· ∈ observationFsCalls observationsDir
        ((w.env.lookup "FUZZ_TARGET").getD "eval-type-directed")) := by
  rcases hd : EvalTypeDirectedFuzzTargetInput.arbitrary drop g eg (.new data) with
    (e | p) | ⟨input, u'⟩
  · rw [evalTypeDirectedMain_of_error hd]
    exact testEvalTypeDirected_appendsOnly oracle dflt representable _ w
  · have hp : evalTypeDirectedMain drop g eg oracle dflt representable data w = .panicked p w := by
      simp [evalTypeDirectedMain, Trial.ofGen, hd, bind, Trial.bind]
    rw [hp]
    exact .panicked_self _
  · rw [evalTypeDirectedMain_of_ok hd]
    exact testEvalTypeDirected_appendsOnly oracle dflt representable _ w

/-- **What an AFL campaign may do to the world.**  Over any inputs, a campaign of
`abac-type-directed` keeps the environment, the records already written, the paths that
fail and the clock's readings; its only filesystem calls create `fuzz/observations` and
open the test's file there, and it appends only records to
`fuzz/observations/<FUZZ_TARGET, or fuzz-target>_testcases.jsonl` that say `passed` or
`gave_up`.  A campaign of `eval-type-directed` does the same with the file of
`FUZZ_TARGET`, or of `eval-type-directed`, and records that say `gave_up` or keep the
default record's status. -/
theorem afl_campaigns_append_only {SchemaType Expr : Type} (drop : Entities → Gen Entities)
    (g : Generators) (eg : ExprGenerators SchemaType Expr) (oracle : AuthOracle)
    (evalOracle : EvalOracle Expr) (v : Validator VS) (dflt : TycheTest)
    (representable : EvalTypeDirectedFuzzTargetInput Expr → Bool) :
    (∀ (inputs : List (List UInt8)) (w : World AuthCall),
      (campaign (abacTypeDirectedMain drop g oracle v dflt) inputs w).AppendsOnly w
        (AbacRecord w.env) (· ∈ observationFsCalls observationsDir
          ((w.env.lookup "FUZZ_TARGET").getD "fuzz-target"))) ∧
    ∀ (inputs : List (List UInt8)) (w : World (EvalCall Expr)),
      (campaign (evalTypeDirectedMain drop g eg evalOracle dflt representable) inputs w).AppendsOnly
        w (EvalRecord dflt w.env) (· ∈ observationFsCalls observationsDir
          ((w.env.lookup "FUZZ_TARGET").getD "eval-type-directed")) :=
  ⟨campaign_appendsOnly (F := fun env => (· ∈ observationFsCalls observationsDir
      ((env.lookup "FUZZ_TARGET").getD "fuzz-target")))
      (abacTypeDirectedMain_appendsOnly drop g oracle v dflt),
    campaign_appendsOnly (F := fun env => (· ∈ observationFsCalls observationsDir
      ((env.lookup "FUZZ_TARGET").getD "eval-type-directed")))
      (evalTypeDirectedMain_appendsOnly drop g eg evalOracle dflt representable)⟩

/-! ### The abstract campaign of `abac-type-directed` -/

/-- What a campaign of `abac-type-directed` is for: the calls it makes to the engines and
the records it appends, in order. -/
structure AbacRun where
  calls : List AuthCall
  log : List (String × TycheTest)

/-- The part of the world the abstract campaign speaks of. -/
def World.abacRun (w : World AuthCall) : AbacRun := ⟨w.calls, w.log⟩

/-- Engines that agree: `run_auth_test` answers every call, whatever came before, and no
answer holds a wrong-arity error. -/
def Agreeing (oracle : AuthOracle) : Prop :=
  ∀ hist c, ∃ r, oracle hist c = some r ∧ r.Fine

/-- The generators draw the scenario `input` from the byte string `data`. -/
def Draws (drop : Entities → Gen Entities) (g : Generators) (data : List UInt8)
    (input : FuzzTargetInput) : Prop :=
  ∃ u', FuzzTargetInput.drawScenario drop g (.new data) = .ok (input, u')

/-- The errors that the answers to `calls`, made after the calls `hist`, hold in all. -/
def answeredErrors (oracle : AuthOracle) (hist calls : List AuthCall) : Nat :=
  (((replies oracle hist calls).filterMap id).map fun r => r.errors.length).sum

/-- One scenario of the abstract campaign: its eight calls, then its record in the file
`file`, with the validator's verdict and counting the errors of the answers. -/
def scenarioStep (oracle : AuthOracle) (verdict : Schema → PolicySet → Except String ValidationResult)
    (dflt : TycheTest) (file : String) (s : AbacRun) (input : FuzzTargetInput) : AbacRun :=
  ⟨s.calls ++ input.authCalls, s.log ++ [(file, scenarioRecord
    (verdict input.schema ⟨[.static input.policy]⟩) (input.toTyche dflt)
    (answeredErrors oracle s.calls input.authCalls))]⟩

/-- The abstract campaign of `abac-type-directed`: one scenario per drawn input, in turn. -/
def abstractCampaign (oracle : AuthOracle)
    (verdict : Schema → PolicySet → Except String ValidationResult) (dflt : TycheTest)
    (file : String) (s : AbacRun) (inputs : List FuzzTargetInput) : AbacRun :=
  inputs.foldl (scenarioStep oracle verdict dflt file) s

section agreeing

variable {drop : Entities → Gen Entities} {g : Generators} {oracle : AuthOracle}
  {v : Validator VS} {verdict : Schema → PolicySet → Except String ValidationResult}
  {dflt : TycheTest}

/-- Agreeing engines answer every sequence of calls, and accept every answer. -/
theorem replies_of_agreeing (h : Agreeing oracle) : ∀ (hist calls : List AuthCall),
    ∃ rs : List AuthResponse, replies oracle hist calls = rs.map some ∧ ∀ r ∈ rs, r.Fine
  | _, [] => ⟨[], rfl, by simp⟩
  | hist, c :: cs => by
    obtain ⟨r, hr, hfine⟩ := h hist c
    obtain ⟨rs, hrs, hall⟩ := replies_of_agreeing h (hist ++ [c]) cs
    exact ⟨r :: rs, by simp [replies, hr, hrs], List.forall_mem_cons.mpr ⟨hfine, hall⟩⟩

/-- With `valid` set, against agreeing engines and a validator that gives `c`, with the
test's file writable and a clock that does not go back, `test_abac_type_directed` makes
the scenario's calls, creates the file, appends the scenario's record and reads the clock
twice. -/
theorem testAbacTypeDirected_of_agreeing {input : FuzzTargetInput}
    {c : Except String ValidationResult}
    {w : World AuthCall} (hagree : Agreeing oracle)
    (hv : v.check input.schema ⟨[.static input.policy]⟩ = some c)
    (hw : Writable w observationsDir ((w.env.lookup "FUZZ_TARGET").getD "fuzz-target"))
    (hc : w.ClockForward) :
    testAbacTypeDirected oracle v dflt ⟨input, true⟩ true w = .done () { w with
      calls := w.calls ++ input.authCalls,
      fsCalls := w.fsCalls ++
        observationFsCalls observationsDir ((w.env.lookup "FUZZ_TARGET").getD "fuzz-target"),
      log := w.log ++ [(observationFile observationsDir
          ((w.env.lookup "FUZZ_TARGET").getD "fuzz-target"),
        scenarioRecord c (input.toTyche dflt) (answeredErrors oracle w.calls input.authCalls))],
      ticks := w.ticks + 2 } := by
  obtain ⟨rs, hrs, hfine⟩ := replies_of_agreeing hagree w.calls input.authCalls
  have hloop := authLoop_of_fine rs input.requests 0 { w with ticks := w.ticks + 1 } hfine hrs
  rw [testAbacTypeDirected_true, SystemTime.now_bind, executeScenario_of_check hv, Trial.bind_assoc,
    Trial.bind_of_done hloop]
  simp only [Trial.pure_bind]
  rw [Trial.bind_of_done (timeSince_of_forward hc _ _)]
  · refine (recordObservation_of_writable
      (hw.frame (w.calls ++ input.authCalls) w.fsCalls w.log (w.ticks + 2)) _).trans ?_
    rw [FuzzTargetInput.authCalls] at hrs
    simp [answeredErrors, hrs, List.filterMap_map, FuzzTargetInput.authCalls,
      ABACTypeDirectedFuzzTargetInput.toTyche]
  · rfl
  · simp

/-- **One trial is one abstract step**: against agreeing engines and a validator that
answers as `verdict`, with the test's file writable and a clock that does not go back, a
trial on a byte string that draws takes the abstract step of the drawn scenario, and
leaves the world as well-behaved as it found it. -/
theorem abacTypeDirectedMain_of_agreeing {data : List UInt8} {input : FuzzTargetInput}
    {w : World AuthCall} (hagree : Agreeing oracle)
    (hv : ∀ schema ps, v.check schema ps = some (verdict schema ps))
    (hw : Writable w observationsDir ((w.env.lookup "FUZZ_TARGET").getD "fuzz-target"))
    (hc : w.ClockForward) (hd : Draws drop g data input) :
    ∃ w₁, abacTypeDirectedMain drop g oracle v dflt data w = .done () w₁ ∧
      w₁.abacRun = scenarioStep oracle verdict dflt
        (observationFile observationsDir ((w.env.lookup "FUZZ_TARGET").getD "fuzz-target"))
        w.abacRun input ∧
      w₁.env = w.env ∧
      Writable w₁ observationsDir ((w.env.lookup "FUZZ_TARGET").getD "fuzz-target") ∧
      w₁.ClockForward := by
  obtain ⟨u', hd⟩ := hd
  exact ⟨_, (abacTypeDirectedMain_of_draw (FuzzTargetInput.arbitrary_of_forward hd hc)).trans
    (testAbacTypeDirected_of_agreeing (w := { w with ticks := w.ticks + 2 }) hagree (hv _ _)
      (hw.frame w.calls w.fsCalls w.log (w.ticks + 2)) (hc.frame w.calls w.fsCalls w.log 2)),
    rfl, rfl,
    hw.frame _ _ _ _, hc.frame _ _ _ 4⟩

/-- The run lemma of the abstract campaign: over byte strings that all draw, the campaign
returns in a world that projects onto the abstract campaign. -/
theorem campaign_abac_of_agreeing (hagree : Agreeing oracle)
    (hv : ∀ schema ps, v.check schema ps = some (verdict schema ps)) {datas : List (List UInt8)}
    {inputs : List FuzzTargetInput} (h : List.Forall₂ (Draws drop g) datas inputs) :
    ∀ w : World AuthCall,
      Writable w observationsDir ((w.env.lookup "FUZZ_TARGET").getD "fuzz-target") →
      w.ClockForward →
      ∃ w', campaign (abacTypeDirectedMain drop g oracle v dflt) datas w = .done () w' ∧
        w'.abacRun = abstractCampaign oracle verdict dflt
          (observationFile observationsDir ((w.env.lookup "FUZZ_TARGET").getD "fuzz-target"))
          w.abacRun inputs := by
  induction h with
  | nil => exact fun w _ _ => ⟨w, rfl, rfl⟩
  | cons hd _ ih =>
    intro w hw hc
    obtain ⟨w₁, htrial, hstep, henv, hw₁, hc₁⟩ :=
      abacTypeDirectedMain_of_agreeing hagree hv hw hc hd
    obtain ⟨w', hrun, habs⟩ := ih w₁ (by rw [henv]; exact hw₁) hc₁
    refine ⟨w', by rw [campaign_cons, Trial.bind_of_done htrial, hrun], ?_⟩
    rw [habs, henv, hstep]
    rfl

end agreeing

/-- **A campaign in a well-behaved world refines the abstract campaign.**  With engines
that answer every call without a wrong-arity error, a validator that answers as
`verdict`, the test's file writable and a clock that does not go back, a campaign of the
AFL target `abac-type-directed` over byte strings that all draw returns, and its calls
and records are those of the abstract campaign: each drawn scenario's eight calls, then
its record, in order, each record carrying the verdict and counting the errors of its
scenario's answers.  At the first byte string the generators reject, the campaign
crashes on the `unwrap` instead of recording that generation failed, after the
scenarios of the strings before it. -/
theorem abac_campaign_refines (drop : Entities → Gen Entities) (g : Generators)
    (oracle : AuthOracle) (v : Validator VS)
    (verdict : Schema → PolicySet → Except String ValidationResult) (dflt : TycheTest)
    (w : World AuthCall) (hagree : Agreeing oracle)
    (hv : ∀ schema ps, v.check schema ps = some (verdict schema ps))
    (hw : Writable w observationsDir ((w.env.lookup "FUZZ_TARGET").getD "fuzz-target"))
    (hc : w.ClockForward) :
    (∀ datas inputs, List.Forall₂ (Draws drop g) datas inputs →
      ∃ w', campaign (abacTypeDirectedMain drop g oracle v dflt) datas w = .done () w' ∧
        w'.abacRun = abstractCampaign oracle verdict dflt
          (observationFile observationsDir ((w.env.lookup "FUZZ_TARGET").getD "fuzz-target"))
          w.abacRun inputs) ∧
    ∀ pre inputs data e rest, List.Forall₂ (Draws drop g) pre inputs →
      FuzzTargetInput.drawScenario drop g (.new data) = .error (.error e) →
      ∃ w', campaign (abacTypeDirectedMain drop g oracle v dflt) (pre ++ data :: rest) w =
          .panicked .unwrap w' ∧
        w'.abacRun = abstractCampaign oracle verdict dflt
          (observationFile observationsDir ((w.env.lookup "FUZZ_TARGET").getD "fuzz-target"))
          w.abacRun inputs := by
  refine ⟨fun datas inputs h => campaign_abac_of_agreeing hagree hv h w hw hc,
    fun pre inputs data e rest hpre hd => ?_⟩
  obtain ⟨w', hrun, habs⟩ := campaign_abac_of_agreeing hagree hv hpre w hw hc
  exact ⟨{ w' with ticks := w'.ticks + 1 }, by rw [campaign_append, Trial.bind_of_done hrun,
    campaign_cons, Trial.bind_of_panicked (abacTypeDirectedMain_of_error hd w')], habs⟩

/-- The world of the campaign samples: observability on, no test name, nothing failing. -/
def sampleAbacWorld : World AuthCall := World.init [("DRT_OBSERVABILITY", "1")]

theorem abac_campaign_refines_sample :
    Agreeing fineOracle ∧
    (∀ schema ps, rejectingValidator.check schema ps = some (.error "rejected")) ∧
    Writable sampleAbacWorld observationsDir
      ((sampleAbacWorld.env.lookup "FUZZ_TARGET").getD "fuzz-target") ∧
    sampleAbacWorld.ClockForward ∧
    ∃ w', campaign (abacTypeDirectedMain pure Generators.sample fineOracle rejectingValidator
        ⟨"", "", "", ⟨[]⟩⟩) [[1, 0]] sampleAbacWorld = .done () w' ∧
      w'.abacRun = abstractCampaign fineOracle (fun _ _ => .error "rejected") ⟨"", "", "", ⟨[]⟩⟩
        (observationFile observationsDir "fuzz-target") sampleAbacWorld.abacRun [sampleScenario] :=
  have hagree : Agreeing fineOracle := fun _ _ => ⟨⟨[]⟩, rfl, rfl⟩
  have hv : ∀ schema ps, rejectingValidator.check schema ps = some (.error "rejected") :=
    fun _ _ => rfl
  have hw : Writable sampleAbacWorld observationsDir
      ((sampleAbacWorld.env.lookup "FUZZ_TARGET").getD "fuzz-target") :=
    ⟨by decide, by decide, by decide, by decide⟩
  have hc : sampleAbacWorld.ClockForward := World.init_clockForward _
  ⟨hagree, hv, hw, hc, (abac_campaign_refines pure Generators.sample fineOracle rejectingValidator
    (fun _ _ => .error "rejected") ⟨"", "", "", ⟨[]⟩⟩ sampleAbacWorld hagree hv hw hc).1 _ _
    (.cons ⟨⟨[1, 0]⟩, rfl⟩ .nil)⟩

/-! ### The order of a campaign's calls -/

/-- The scenarios the generators draw from the byte strings `datas`, in order, up to the
first string they reject. -/
def drawnScenarios (drop : Entities → Gen Entities) (g : Generators) :
    List (List UInt8) → List FuzzTargetInput
  | [] => []
  | data :: datas =>
    match FuzzTargetInput.drawScenario drop g (.new data) with
    | .ok (input, _) => input :: drawnScenarios drop g datas
    | .error _ => []

/-- Whatever the replies, the validator and the clock, a trial of `test_abac_type_directed`
with `valid` set makes a prefix of its scenario's calls, and all of them when it
returns. -/
theorem testAbacTypeDirected_calls (oracle : AuthOracle) (v : Validator VS) (dflt : TycheTest)
    (input : ABACTypeDirectedFuzzTargetInput) (w : World AuthCall) :
    ∃ cs, (testAbacTypeDirected oracle v dflt input true w).world.calls = w.calls ++ cs ∧
      cs <+: input.authCalls ∧
      ∀ w', testAbacTypeDirected oracle v dflt input true w = .done () w' →
        cs = input.authCalls := by
  rw [testAbacTypeDirected_true, SystemTime.now_bind]
  cases hc : v.check input.schema ⟨[.static input.policy]⟩ with
  | none =>
    rw [Trial.bind_of_panicked (executeScenario_of_panic hc _)]
    exact ⟨[], by simp, List.nil_prefix, fun _ h => nomatch h⟩
  | some c =>
    rw [executeScenario_of_check hc]
    simp only [Trial.bind_assoc, Trial.pure_bind]
    obtain ⟨cs, hcs, hpre, hdone⟩ := @authLoop_calls oracle ⟨[.static input.policy]⟩ input.entities
      input.requests 0 { w with ticks := w.ticks + 1 }
    cases hl : authLoop oracle ⟨[.static input.policy]⟩ input.entities input.requests 0
        { w with ticks := w.ticks + 1 } with
    | done t w₁ =>
      rw [hl] at hcs
      rw [Trial.bind_of_done hl]
      exact ⟨cs, by rw [(abacTail_onlyRecords _ _ w₁).1]; exact hcs, hpre, fun _ _ => hdone t w₁ hl⟩
    | panicked p w₁ =>
      rw [hl] at hcs
      rw [Trial.bind_of_panicked hl]
      exact ⟨cs, hcs, hpre, fun _ h => nomatch h⟩

/-- Whatever the replies, the validator and the clock, a trial of the AFL target
`abac-type-directed` makes a prefix of the calls of the scenario its byte string draws,
and all of them when it returns; when the generators draw no scenario, it makes no call
and does not return. -/
theorem abacTypeDirectedMain_calls (drop : Entities → Gen Entities) (g : Generators)
    (oracle : AuthOracle) (v : Validator VS) (dflt : TycheTest) (data : List UInt8)
    (w : World AuthCall) :
    ∃ cs, (abacTypeDirectedMain drop g oracle v dflt data w).world.calls = w.calls ++ cs ∧
      match FuzzTargetInput.drawScenario drop g (.new data) with
      | .ok (input, _) => cs <+: input.authCalls ∧
          ∀ w', abacTypeDirectedMain drop g oracle v dflt data w = .done () w' →
            cs = input.authCalls
      | .error _ => cs = [] ∧
          ∀ w', abacTypeDirectedMain drop g oracle v dflt data w ≠ .done () w' := by
  rcases hd : FuzzTargetInput.drawScenario drop g (.new data) with (e | p) | ⟨input, u'⟩
  · rw [abacTypeDirectedMain_of_error hd w]
    exact ⟨[], by simp, rfl, fun _ h => nomatch h⟩
  · rw [abacTypeDirectedMain_of_draw_panic (FuzzTargetInput.arbitrary_of_panic hd w)]
    exact ⟨[], by simp, rfl, fun _ h => nomatch h⟩
  · rcases timeSince_cases (w.time w.ticks) { w with ticks := w.ticks + 1 } with ⟨n, ht⟩ | ht
    · have hdraw : FuzzTargetInput.arbitrary drop g (.new data) w =
          .done (.ok input) { w with ticks := w.ticks + 1 + 1 } := by
        rw [FuzzTargetInput.arbitrary_of_ok hd, Trial.bind_of_done ht]; rfl
      rw [abacTypeDirectedMain_of_draw hdraw]
      exact testAbacTypeDirected_calls oracle v dflt _ _
    · rw [abacTypeDirectedMain_of_draw_panic
        (by rw [FuzzTargetInput.arbitrary_of_ok hd, Trial.bind_of_panicked ht])]
      exact ⟨[], by simp, List.nil_prefix, fun _ h => nomatch h⟩

/-- **A campaign's calls come in scenario order, whatever the engines do.**  The calls a
campaign of the AFL target `abac-type-directed` makes are, in order, the calls of the
scenarios drawn from its byte strings, each scenario's calls all made before the next
one's begin: a prefix of their concatenation, and, when the campaign returns, all of
it, with every byte string drawn. -/
theorem abac_campaign_calls_in_order (drop : Entities → Gen Entities) (g : Generators)
    (oracle : AuthOracle) (v : Validator VS) (dflt : TycheTest) :
    ∀ (datas : List (List UInt8)) (w : World AuthCall),
      ∃ cs, (campaign (abacTypeDirectedMain drop g oracle v dflt) datas w).world.calls = w.calls ++ cs ∧
        cs <+: (drawnScenarios drop g datas).flatMap FuzzTargetInput.authCalls ∧
        ∀ w', campaign (abacTypeDirectedMain drop g oracle v dflt) datas w = .done () w' →
          (drawnScenarios drop g datas).length = datas.length ∧
            cs = (drawnScenarios drop g datas).flatMap FuzzTargetInput.authCalls
  | [], w => ⟨[], by simp [campaign], List.nil_prefix, fun w' h => by
      simp [campaign, drawnScenarios] at h ⊢⟩
  | data :: datas, w => by
    obtain ⟨cs₁, hcs₁, h₁⟩ := abacTypeDirectedMain_calls drop g oracle v dflt data w
    rw [campaign_cons]
    rcases hd : FuzzTargetInput.drawScenario drop g (.new data) with e | ⟨input, u'⟩ <;>
      simp only [hd] at h₁ <;> simp only [drawnScenarios, hd, List.flatMap_cons, List.length_cons]
    · obtain ⟨rfl, hnone⟩ := h₁
      cases hm : abacTypeDirectedMain drop g oracle v dflt data w with
      | done _ w₁ => exact absurd hm (hnone w₁)
      | panicked p w₁ =>
        rw [hm] at hcs₁
        rw [Trial.bind_of_panicked hm]
        exact ⟨[], hcs₁, List.nil_prefix, fun _ h => nomatch h⟩
    · obtain ⟨hpre₁, hdone₁⟩ := h₁
      cases hm : abacTypeDirectedMain drop g oracle v dflt data w with
      | done _ w₁ =>
        rw [hm] at hcs₁
        obtain rfl := hdone₁ w₁ hm
        obtain ⟨cs₂, hcs₂, hpre₂, hdone₂⟩ :=
          abac_campaign_calls_in_order drop g oracle v dflt datas w₁
        rw [Trial.bind_of_done hm]
        refine ⟨input.authCalls ++ cs₂, by simp [hcs₂, show w₁.calls = _ from hcs₁],
          (List.prefix_append_right_inj _).mpr hpre₂, fun w' h => ?_⟩
        obtain ⟨hlen, hcs⟩ := hdone₂ w' h
        exact ⟨by rw [hlen], by rw [hcs]⟩
      | panicked p w₁ =>
        rw [hm] at hcs₁
        rw [Trial.bind_of_panicked hm]
        exact ⟨cs₁, hcs₁, hpre₁.trans (List.prefix_append _ _), fun _ h => nomatch h⟩

/-! ### The campaign of `eval-type-directed` -/

/-- Evaluation engines that answer every call. -/
def Answering {Expr : Type} (oracle : EvalOracle Expr) : Prop :=
  ∀ hist c, oracle hist c = some ()

section eval

variable {SchemaType Expr : Type} {drop : Entities → Gen Entities} {g : Generators}
  {eg : ExprGenerators SchemaType Expr} {oracle : EvalOracle Expr} {dflt : TycheTest}
  {representable : EvalTypeDirectedFuzzTargetInput Expr → Bool}

/-- A byte string the eval draw takes without a panic, and whose input, if it draws one,
the record can render. -/
def DrawsCleanly (drop : Entities → Gen Entities) (g : Generators)
    (eg : ExprGenerators SchemaType Expr)
    (representable : EvalTypeDirectedFuzzTargetInput Expr → Bool) (data : List UInt8) : Prop :=
  match EvalTypeDirectedFuzzTargetInput.arbitrary drop g eg (.new data) with
  | .ok (input, _) => representable input = true
  | .error (.error _) => True
  | .error (.panic _) => False

/-- The evaluation call the eval target makes for the byte string `data`: the drawn
input's, or none. -/
def evalCallsOf (drop : Entities → Gen Entities) (g : Generators)
    (eg : ExprGenerators SchemaType Expr) (data : List UInt8) : List (EvalCall Expr) :=
  match EvalTypeDirectedFuzzTargetInput.arbitrary drop g eg (.new data) with
  | .ok (input, _) => [⟨input.request, input.expression, input.entities, true⟩]
  | .error _ => []

/-- The record the eval target writes for the byte string `data`: the drawn input's, or
that generation failed. -/
def evalRecordOf (drop : Entities → Gen Entities) (g : Generators)
    (eg : ExprGenerators SchemaType Expr) (dflt : TycheTest) (data : List UInt8) : TycheTest :=
  match EvalTypeDirectedFuzzTargetInput.arbitrary drop g eg (.new data) with
  | .ok _ => { dflt with property := "eval-type-directed", features := ⟨[]⟩ }
  | .error _ => generationFailedRecord dflt

/-- One eval trial against answering engines, in a writable world, on a byte string that
draws cleanly: its call, if it drew an input, the tail's filesystem calls, and its
record. -/
theorem evalTypeDirectedMain_of_answering {data : List UInt8} {w : World (EvalCall Expr)}
    (hans : Answering oracle)
    (hw : Writable w observationsDir ((w.env.lookup "FUZZ_TARGET").getD "eval-type-directed"))
    (hclean : DrawsCleanly drop g eg representable data) :
    evalTypeDirectedMain drop g eg oracle dflt representable data w =
      .done () { w with
        calls := w.calls ++ evalCallsOf drop g eg data,
        fsCalls := w.fsCalls ++ observationFsCalls observationsDir
          ((w.env.lookup "FUZZ_TARGET").getD "eval-type-directed"),
        log := w.log ++ [(observationFile observationsDir
          ((w.env.lookup "FUZZ_TARGET").getD "eval-type-directed"),
          evalRecordOf drop g eg dflt data)] } := by
  rcases hd : EvalTypeDirectedFuzzTargetInput.arbitrary drop g eg (.new data) with
    (e | p) | ⟨input, u'⟩
  · rw [evalTypeDirectedMain_of_error hd, testEvalTypeDirected_error,
      recordObservation_of_writable hw]
    simp [evalCallsOf, evalRecordOf, hd]
  · simp only [DrawsCleanly, hd] at hclean
  · simp only [DrawsCleanly, hd] at hclean
    rw [evalTypeDirectedMain_of_ok hd, testEvalTypeDirected_apply,
      EvalTypeDirectedFuzzTargetInput.toTyche, if_pos hclean]
    dsimp only
    rw [runEvalTest, Trial.call_of_some (hans _ _)]
    dsimp only
    refine (recordObservation_of_writable (hw.frame
      (w.calls ++ [⟨input.request, input.expression, input.entities, true⟩])
      w.fsCalls w.log w.ticks) _).trans ?_
    simp [evalCallsOf, evalRecordOf, hd]

/-- **An eval campaign records every byte string and goes on.**  Against engines that
answer every call, with the test's file writable, a campaign of the AFL target
`eval-type-directed` over byte strings that draw without a panic, and whose drawn inputs
the record can render, returns, having made one evaluation call per drawn input, the
tail's filesystem calls and one record per byte string, all in order: that generation
failed, for a string the generators reject, and the input's record otherwise. -/
theorem eval_campaign_records_every_input (hans : Answering oracle) :
    ∀ (datas : List (List UInt8)) (w : World (EvalCall Expr)),
      Writable w observationsDir ((w.env.lookup "FUZZ_TARGET").getD "eval-type-directed") →
      (∀ data ∈ datas, DrawsCleanly drop g eg representable data) →
      campaign (evalTypeDirectedMain drop g eg oracle dflt representable) datas w =
        .done () { w with
          calls := w.calls ++ datas.flatMap (evalCallsOf drop g eg)
          fsCalls := w.fsCalls ++ datas.flatMap fun _ => observationFsCalls observationsDir
            ((w.env.lookup "FUZZ_TARGET").getD "eval-type-directed")
          log := w.log ++ datas.map fun data => (observationFile observationsDir
            ((w.env.lookup "FUZZ_TARGET").getD "eval-type-directed"), evalRecordOf drop g eg dflt data) }
  | [], w, _, _ => by simp [campaign]
  | data :: datas, w, hw, hclean => by
    rw [campaign_cons, Trial.bind_of_done
      (evalTypeDirectedMain_of_answering hans hw (hclean data (.head _)))]
    refine Eq.trans (eval_campaign_records_every_input hans datas _ ?_
      fun d hd => hclean d (.tail _ hd)) (by simp)
    exact hw.frame _ _ _ _

end eval

/-- Expression generators that draw nothing, for the sample eval campaign. -/
def sampleExprGenerators : ExprGenerators Unit Unit := ⟨fun _ _ _ => pure (), fun _ _ _ _ => pure ()⟩

/-- The world of the sample eval campaign: observability on, no test name, nothing
failing. -/
def sampleEvalWorld : World (EvalCall Unit) := World.init [("DRT_OBSERVABILITY", "1")]

theorem eval_campaign_records_every_input_sample :
    Answering (fun (_ : List (EvalCall Unit)) _ => some ()) ∧
    campaign (evalTypeDirectedMain pure Generators.sample sampleExprGenerators (fun _ _ => some ())
        ⟨"", "", "", ⟨[]⟩⟩ fun _ => true) [[], [1, 0]] sampleEvalWorld =
      .done () { sampleEvalWorld with
        calls := [[], [1, 0]].flatMap (evalCallsOf pure Generators.sample sampleExprGenerators)
        fsCalls := [[], [1, 0]].flatMap fun _ => observationFsCalls observationsDir "eval-type-directed"
        log := [[], [1, 0]].map fun data => (observationFile observationsDir "eval-type-directed",
          evalRecordOf pure Generators.sample sampleExprGenerators ⟨"", "", "", ⟨[]⟩⟩ data) } :=
  have hans : Answering (fun (_ : List (EvalCall Unit)) _ => some ()) := fun _ _ => rfl
  ⟨hans, eval_campaign_records_every_input hans [[], [1, 0]] sampleEvalWorld
    ⟨by decide, by decide, by decide, by decide⟩
    (List.forall_mem_cons.mpr ⟨trivial, List.forall_mem_singleton.mpr rfl⟩)⟩

/-! ### The parser target -/

section simpleParser

variable {C : Type} {parse : String → Option (Except (List ParseError) Unit)} {dflt : TycheTest}
  {testName : String}

/-- The lines a campaign of the parser target appends for `inputs`. -/
def parserLines (parse : String → Option (Except (List ParseError) Unit)) (dflt : TycheTest)
    (testName : String) (inputs : List String) : List (String × TycheTest) :=
  inputs.map fun input => (observationFile "tyche-out" testName, parserRecord parse dflt testName input)

/-- The run lemma of the parser target: in a writable world whose clock does not go back,
a campaign on strings that crash nothing makes the tail's filesystem calls and appends
their records, in order. -/
theorem campaign_simpleParser_of_clean :
    ∀ (inputs : List String) (w : World C), w.env.lookup "FUZZ_TARGET" = some testName →
      Writable w "tyche-out" testName → w.ClockForward →
      (∀ input ∈ inputs, parserCrash parse input = none) →
      campaign (simpleParser parse dflt) inputs w = .done () { w with
        fsCalls := w.fsCalls ++ inputs.flatMap fun _ => observationFsCalls "tyche-out" testName,
        log := w.log ++ parserLines parse dflt testName inputs,
        ticks := w.ticks + 2 * inputs.length }
  | [], w, _, _, _, _ => by simp [campaign, parserLines]
  | input :: inputs, w, h, hw, hc, hcrash => by
    rw [campaign_cons, Trial.bind_of_done
      (simpleParser_of_writable h hw hc (hcrash input (.head _))),
      campaign_simpleParser_of_clean inputs { w with
        fsCalls := w.fsCalls ++ observationFsCalls "tyche-out" testName,
        log := w.log ++ [(observationFile "tyche-out" testName, parserRecord parse dflt testName input)],
        ticks := w.ticks + 2 } h (hw.frame _ _ _ _) (hc.frame _ _ _ 2)
        fun s hs => hcrash s (.tail _ hs)]
    simp [parserLines, Nat.mul_succ]
    omega

/-- **The parser target's file after a campaign.**  With the test named, its file
writable and a clock that does not go back, a campaign on strings none of which the
parser panics on or reports an invariant violation on returns, having appended one
record per string, in order; otherwise it crashes at the first such string, with the
parser's panic or the `assert!`, having appended the records of the strings before
it. -/
theorem simple_parser_campaign_log (parse : String → Option (Except (List ParseError) Unit))
    (dflt : TycheTest) (testName : String) (inputs : List String) (w : World C)
    (h : w.env.lookup "FUZZ_TARGET" = some testName) (hw : Writable w "tyche-out" testName)
    (hc : w.ClockForward) :
    ((∀ input ∈ inputs, parserCrash parse input = none) →
      campaign (simpleParser parse dflt) inputs w = .done () { w with
        fsCalls := w.fsCalls ++ inputs.flatMap fun _ => observationFsCalls "tyche-out" testName,
        log := w.log ++ parserLines parse dflt testName inputs,
        ticks := w.ticks + 2 * inputs.length }) ∧
    ∀ pre input rest p, inputs = pre ++ input :: rest →
      (∀ s ∈ pre, parserCrash parse s = none) → parserCrash parse input = some p →
      ∃ w', campaign (simpleParser parse dflt) inputs w = .panicked p w' ∧
        w'.log = w.log ++ parserLines parse dflt testName pre := by
  refine ⟨campaign_simpleParser_of_clean inputs w h hw hc, fun pre input rest p hin hpre hp => ?_⟩
  obtain ⟨k, hk⟩ := simpleParser_of_crash dflt (w := { w with
      fsCalls := w.fsCalls ++ pre.flatMap fun _ => observationFsCalls "tyche-out" testName,
      log := w.log ++ parserLines parse dflt testName pre,
      ticks := w.ticks + 2 * pre.length }) h (hc.frame _ _ _ _) hp
  exact ⟨_, by rw [hin, campaign_append, Trial.bind_of_done
    (campaign_simpleParser_of_clean pre w h hw hc hpre), campaign_cons,
    Trial.bind_of_panicked hk], rfl⟩

end simpleParser

/-- A parser that rejects the empty string with an error of no invariant kind, and
accepts every other string. -/
def sampleParse (input : String) : Option (Except (List ParseError) Unit) :=
  if input = "" then some (.error [.other]) else some (.ok ())

/-- A world with the test named `simple-parser`, observability on, and no failing
filesystem call. -/
def sampleParserWorld : World Unit :=
  World.init [("FUZZ_TARGET", "simple-parser"), ("DRT_OBSERVABILITY", "1")]

theorem simple_parser_campaign_log_sample :
    sampleParserWorld.env.lookup "FUZZ_TARGET" = some "simple-parser" ∧
    Writable sampleParserWorld "tyche-out" "simple-parser" ∧
    sampleParserWorld.ClockForward ∧
    campaign (simpleParser sampleParse ⟨"", "", "", ⟨[]⟩⟩) ["permit", ""] sampleParserWorld =
      .done () { sampleParserWorld with
                   fsCalls := ["permit", ""].flatMap fun _ => observationFsCalls "tyche-out" "simple-parser",
                   log := parserLines sampleParse ⟨"", "", "", ⟨[]⟩⟩ "simple-parser" ["permit", ""],
                   ticks := 4 } :=
  have h : sampleParserWorld.env.lookup "FUZZ_TARGET" = some "simple-parser" := by decide
  have hw : Writable sampleParserWorld "tyche-out" "simple-parser" :=
    ⟨by decide, by decide, by decide, by decide⟩
  have hc : sampleParserWorld.ClockForward := World.init_clockForward _
  ⟨h, hw, hc, (simple_parser_campaign_log sampleParse ⟨"", "", "", ⟨[]⟩⟩ "simple-parser"
    ["permit", ""] sampleParserWorld h hw hc).1 (by decide)⟩

end CedarDrt
