import CedarDrt.Cedar

/-!
# Trials

A trial of the harness runs against the world: the process environment, the wall
clock, the filesystem, and the oracles.  `Trial` is that computation.  It returns a
value and the world it leaves, or it panics; a panic leaves the world as it found it at
that point, since what was done before stays done.  Every oracle call and every
filesystem call a trial makes is recorded in the world, in order, so that which requests
reached an oracle, and which directories and files the observability tail created before
a later call of it failed, are facts about the run.

The oracles are parameters.  An oracle's reply may depend on every call made before, so
the theorems cover every sequence of replies, and `none` is a panic inside the oracle,
where the two engines disagreed.  The clock is a reading per tick, of which nothing is
assumed: `SystemTime::duration_since` fails, and the targets' `expect` panics, when it
went back.

## Main definitions

* `World`, `Outcome`, `Trial` — the world, and a run against it.
* `SystemTime.now`, `timeSince`, `World.ClockForward` — the wall clock, the check that
  closes every timed block, and a clock that does not go back.
* `Trial.call` — a call to an oracle; `runAuthTest` — `run_auth_test`, as the harness
  sees it.
* `Path.join`, `observationFile` — where a record goes.
* `writeObservation`, `appendObservation`, `recordObservation` — the observability tail of
  the fuzz targets, and of the harnesses.
* `authLoop` — the request loop of the ABAC harnesses, with its assertion.
* `Outcome.AppendsOnly` — what a run may do to the world: make calls, read the clock, make
  filesystem calls and append records of a kind; `Outcome.RecordsOnce`,
  `Outcome.OnlyRecords` — a run that appends at most one record, of a kind, and none when
  it panics; `Writable` — a world whose observation file takes the record.
* `World.init` — a fresh process: its environment, and a clock that counts its ticks.

## Main results

* `writeObservation_cases` — what the tail can do: panic, having made a prefix of its
  filesystem calls, or append its one record.
* `Trial.bind_appendsOnly`, `Trial.bind_recordsOnce` — sequencing keeps what the two
  halves may do, so each harness's bound follows from those of its calls and its tail.
* `timeSince_cases`, `timeSince_of_forward` — the clock check panics with
  `Time went backwards` or returns, and returns whenever the clock did not go back.
* `appendObservation_of_writable`, `recordObservation_of_writable` — a writable world
  takes the tail's record, after its two filesystem calls.
* `authLoop_eq_done`, `authLoop_halts` — the run lemmas of the request loop: a
  loop that returns called the oracle on every request, in order, and a loop stops
  at the first reply it rejects.
-/

namespace CedarDrt

/-! ### The world and the trial monad -/

/-- A filesystem call of the observability tail, as the world records it. -/
inductive FsCall where
  /-- `std::fs::create_dir_all(dir)`: the directory and those above it exist after it. -/
  | createDirAll (dir : String)
  /-- `OpenOptions::new().create(true).append(true).open(path)`: the file exists after it. -/
  | openAppend (path : String)
  deriving DecidableEq, Repr

/-- What a trial reads and writes outside itself: the environment variables, the
oracle calls and the filesystem calls made so far, the records appended to observation
files (with the file's path), the paths at which each filesystem call of the
observability tail fails, and the wall clock: its reading at each tick, and the number of
ticks read so far. -/
structure World (Call : Type) where
  env : List (String × String)
  calls : List Call
  fsCalls : List FsCall
  log : List (String × TycheTest)
  dirFails : List String
  openFails : List String
  writeFails : List String
  time : Nat → Int
  ticks : Nat

/-- How a run ends: with a value, or with a panic; either way, in a world. -/
inductive Outcome (σ α : Type) where
  | done (a : α) (s : σ)
  | panicked (p : Panic) (s : σ)

/-- A run of harness code against the world. -/
def Trial (Call α : Type) : Type := World Call → Outcome (World Call) α

namespace Trial

variable {C α β : Type}

/-- Return `a`, touching nothing. -/
protected def pure (a : α) : Trial C α := fun w => .done a w

/-- Run `x`, then `f` on its value; a panic skips `f`. -/
protected def bind (x : Trial C α) (f : α → Trial C β) : Trial C β := fun w =>
  match x w with
  | .done a w' => f a w'
  | .panicked p w' => .panicked p w'

instance : Monad (Trial C) where
  pure := Trial.pure
  bind := Trial.bind

/-- `panic!`, `unwrap` on an `Err`, a failed assertion. -/
def panic (p : Panic) : Trial C α := fun w => .panicked p w

/-- Rust's `unwrap` on a computation that panics on its `Err`. -/
def ofExcept (x : Except Panic α) : Trial C α := fun w =>
  match x with
  | .ok a => .done a w
  | .error p => .panicked p w

/-- A call of a library function that returns its value, or panics (`none`). -/
def library (x : Option α) : Trial C α := fun w =>
  match x with
  | some a => .done a w
  | none => .panicked .library w

/-- Draw from a byte buffer: the draw's value, or the `Err` it returned; a panic
inside the draw panics the trial. -/
def ofGen (g : Gen α) (u : Unstructured) : Trial C (Except Error α) := fun w =>
  match g u with
  | .ok (a, _) => .done (.ok a) w
  | .error (.error e) => .done (.error e) w
  | .error (.panic p) => .panicked p w

@[simp] theorem pure_apply (a : α) (w : World C) : (pure a : Trial C α) w = .done a w := rfl

@[simp] theorem panic_apply (p : Panic) (w : World C) :
    (panic p : Trial C α) w = .panicked p w := rfl

theorem bind_apply (x : Trial C α) (f : α → Trial C β) (w : World C) :
    (x >>= f) w = match x w with
      | .done a w' => f a w'
      | .panicked p w' => .panicked p w' := rfl

@[simp] theorem bind_of_done {x : Trial C α} {f : α → Trial C β} {w w' : World C} {a : α}
    (h : x w = .done a w') : (x >>= f) w = f a w' := by
  rw [bind_apply, h]

@[simp] theorem bind_of_panicked {x : Trial C α} {f : α → Trial C β} {w w' : World C}
    {p : Panic} (h : x w = .panicked p w') : (x >>= f) w = .panicked p w' := by
  rw [bind_apply, h]

/-- **A `bind` that returned** ran both halves to the end. -/
theorem bind_eq_done {x : Trial C α} {f : α → Trial C β} {w w'' : World C} {b : β} :
    (x >>= f) w = .done b w'' ↔ ∃ a w', x w = .done a w' ∧ f a w' = .done b w'' := by
  rw [bind_apply]
  constructor
  · intro h
    split at h
    · exact ⟨_, _, ‹_›, h⟩
    · cases h
  · rintro ⟨a, w', hx, hf⟩
    rw [hx]
    exact hf

theorem bind_assoc {γ : Type} (x : Trial C α) (f : α → Trial C β) (g : β → Trial C γ) :
    x >>= f >>= g = x >>= fun a => f a >>= g := by
  funext w
  simp only [bind_apply]
  cases x w <;> rfl

@[simp] theorem pure_bind (a : α) (f : α → Trial C β) : (pure a >>= f) = f a := rfl

@[simp] theorem panic_bind (p : Panic) (f : α → Trial C β) : (panic p >>= f) = panic p := rfl

@[simp] theorem ofExcept_ok (a : α) : (ofExcept (.ok a) : Trial C α) = pure a := rfl

@[simp] theorem library_some (a : α) : (library (some a) : Trial C α) = pure a := rfl

@[simp] theorem library_none : (library none : Trial C α) = panic .library := rfl

end Trial

/-- `std::env::var`: the variable's value, if it is set. -/
def envVar {C : Type} (key : String) : Trial C (Option String) := fun w =>
  .done (w.env.lookup key) w

@[simp] theorem envVar_apply {C : Type} (key : String) (w : World C) :
    (envVar key : Trial C (Option String)) w = .done (w.env.lookup key) w := rfl

/-- The world a run ends in, whether it returned or panicked. -/
def Outcome.world {σ α : Type} : Outcome σ α → σ
  | .done _ s => s
  | .panicked _ s => s

@[simp] theorem Outcome.world_done {σ α : Type} (a : α) (s : σ) :
    (Outcome.done a s).world = s := rfl

@[simp] theorem Outcome.world_panicked {σ α : Type} (p : Panic) (s : σ) :
    (Outcome.panicked p s : Outcome σ α).world = s := rfl

/-- A run from `w` that appended at most one record, one satisfying `P`, and nothing if
it panicked. -/
def Outcome.RecordsOnce {C α : Type} (w : World C) (P : TycheTest → Prop) :
    Outcome (World C) α → Prop
  | .done _ w' => w'.log = w.log ∨ ∃ path r, P r ∧ w'.log = w.log ++ [(path, r)]
  | .panicked _ w' => w'.log = w.log

/-- A run from `w` that called no oracle and appended at most the record `r`, and nothing
if it panicked. -/
def Outcome.OnlyRecords {C α : Type} (w : World C) (r : TycheTest) (o : Outcome (World C) α) :
    Prop :=
  o.world.calls = w.calls ∧ o.RecordsOnce w (· = r)

namespace Outcome.RecordsOnce

variable {C α : Type} {w w₁ : World C} {P Q : TycheTest → Prop} {o : Outcome (World C) α}

/-- Every record such a run appended satisfies `P`. -/
theorem appended (h : o.RecordsOnce w P) : ∀ rec ∈ o.world.log.drop w.log.length, P rec.2 := by
  cases o with
  | done a w' =>
    rcases h with h | ⟨path, r, hr, h⟩
    · simp [h]
    · simpa [h] using hr
  | panicked p w' => simp [show w'.log = w.log from h]

theorem mono (h : o.RecordsOnce w P) (hPQ : ∀ r, P r → Q r) : o.RecordsOnce w Q := by
  cases o with
  | done a w' => exact h.imp_right fun ⟨path, r, hr, h⟩ => ⟨path, r, hPQ r hr, h⟩
  | panicked p w' => exact h

/-- Only the records of the world a run starts from matter. -/
theorem of_log_eq (h : o.RecordsOnce w₁ P) (hlog : w₁.log = w.log) : o.RecordsOnce w P := by
  cases o <;> simpa [Outcome.RecordsOnce, hlog] using h

end Outcome.RecordsOnce

/-- A step that leaves the calls and the records as they were, followed by a run that only
records `r`, only records `r`. -/
theorem Trial.bind_onlyRecords {C α : Type} {x : Trial C α} {f : α → Trial C Unit} {w : World C}
    {r : TycheTest} (hx : (x w).world.calls = w.calls ∧ (x w).world.log = w.log)
    (hf : ∀ a w₁, x w = .done a w₁ → (f a w₁).OnlyRecords w₁ r) :
    ((x >>= f) w).OnlyRecords w r := by
  cases hxw : x w with
  | done a w₁ =>
    rw [hxw, Outcome.world_done] at hx
    obtain ⟨hc, hl⟩ := hf a w₁ hxw
    rw [Trial.bind_of_done hxw]
    exact ⟨hc.trans hx.1, hl.of_log_eq hx.2⟩
  | panicked p w₁ =>
    rw [hxw] at hx
    rw [Trial.bind_of_panicked hxw]
    exact hx

/-! ### What a trial may do to the world -/

/-- A run from `w` that only made oracle calls, read the clock, made filesystem calls
satisfying `F` and appended records satisfying `P`: the environment, the records already
written, the failing paths and the clock's readings are as they were. -/
def Outcome.AppendsOnly {C α : Type} (w : World C) (P : String × TycheTest → Prop)
    (F : FsCall → Prop) (o : Outcome (World C) α) : Prop :=
  ∃ cs fs new k, o.world = { w with
      calls := w.calls ++ cs, fsCalls := w.fsCalls ++ fs, log := w.log ++ new,
      ticks := w.ticks + k } ∧ (∀ c ∈ fs, F c) ∧ ∀ rec ∈ new, P rec

namespace Outcome.AppendsOnly

variable {C α β : Type} {w : World C} {P Q : String × TycheTest → Prop} {F G : FsCall → Prop}

/-- A run that only made calls and read the clock. -/
theorem of_calls {o : Outcome (World C) α} (cs : List C) (k : Nat)
    (h : o.world = { w with calls := w.calls ++ cs, ticks := w.ticks + k }) : o.AppendsOnly w P F :=
  ⟨cs, [], [], k, by simpa using h, by simp, by simp⟩

theorem done_self (a : α) : (Outcome.done a w).AppendsOnly w P F := of_calls [] 0 (by simp)

theorem panicked_self (p : Panic) :
    (Outcome.panicked p w : Outcome (World C) α).AppendsOnly w P F :=
  of_calls [] 0 (by simp)

theorem mono {o : Outcome (World C) α} (h : o.AppendsOnly w P F) (hPQ : ∀ rec, P rec → Q rec)
    (hFG : ∀ c, F c → G c) : o.AppendsOnly w Q G :=
  let ⟨cs, fs, new, k, hw, hF, hP⟩ := h
  ⟨cs, fs, new, k, hw, fun c hc => hFG c (hF c hc), fun rec hrec => hPQ rec (hP rec hrec)⟩

/-- Such a run leaves the environment as it was. -/
theorem env_eq {o : Outcome (World C) α} (h : o.AppendsOnly w P F) : o.world.env = w.env := by
  obtain ⟨cs, fs, new, k, hw, -⟩ := h
  rw [hw]

/-- A run that returned left the environment as it was. -/
theorem env_of_done {o : Outcome (World C) α} {a : α} {w' : World C} (h : o.AppendsOnly w P F)
    (ho : o = .done a w') : w'.env = w.env := by
  subst ho
  exact h.env_eq

/-- Runs from `w` and from where the first left compose. -/
theorem trans {o : Outcome (World C) α} {o' : Outcome (World C) β} (h : o.AppendsOnly w P F)
    (h' : o'.AppendsOnly o.world P F) : o'.AppendsOnly w P F := by
  obtain ⟨cs, fs, new, k, hw, hF, hP⟩ := h
  obtain ⟨cs', fs', new', k', hw', hF', hP'⟩ := h'
  refine ⟨cs ++ cs', fs ++ fs', new ++ new', k + k', by simp [hw', hw, Nat.add_assoc],
    fun c hc => ?_, fun rec hrec => ?_⟩
  · rcases List.mem_append.mp hc with hc | hc
    exacts [hF c hc, hF' c hc]
  · rcases List.mem_append.mp hrec with hrec | hrec
    exacts [hP rec hrec, hP' rec hrec]

end Outcome.AppendsOnly

/-- **Sequencing keeps what the halves may do.** -/
theorem Trial.bind_appendsOnly {C α β : Type} {x : Trial C α} {f : α → Trial C β} {w : World C}
    {P : String × TycheTest → Prop} {F : FsCall → Prop} (hx : (x w).AppendsOnly w P F)
    (hf : ∀ a w₁, x w = .done a w₁ → (f a w₁).AppendsOnly w₁ P F) :
    ((x >>= f) w).AppendsOnly w P F := by
  cases hxw : x w with
  | done a w₁ =>
    rw [Trial.bind_of_done hxw]
    rw [hxw] at hx
    exact hx.trans (hf a w₁ hxw)
  | panicked p w₁ =>
    rw [Trial.bind_of_panicked hxw]
    rw [hxw] at hx
    exact hx

/-- `SystemTime::now()`: the clock's reading at the next tick. -/
def SystemTime.now {C : Type} : Trial C Int := fun w =>
  .done (w.time w.ticks) { w with ticks := w.ticks + 1 }

/-- `SystemTime::now().duration_since(start).expect("Time went backwards")`, which closes
every timed block of the targets: the time since `start`, or a panic when the clock went
back. -/
def timeSince {C : Type} (start : Int) : Trial C Nat := do
  let now ← SystemTime.now
  if start ≤ now then pure (now - start).toNat else Trial.panic (.expect "Time went backwards")

/-- The clock does not go back from the world's next tick on. -/
def World.ClockForward {C : Type} (w : World C) : Prop :=
  ∀ i j, w.ticks ≤ i → i ≤ j → w.time i ≤ w.time j

@[simp] theorem SystemTime.now_apply {C : Type} (w : World C) :
    (SystemTime.now : Trial C Int) w = .done (w.time w.ticks) { w with ticks := w.ticks + 1 } := rfl

@[simp] theorem SystemTime.now_bind {C α : Type} (f : Int → Trial C α) (w : World C) :
    (SystemTime.now >>= f) w = f (w.time w.ticks) { w with ticks := w.ticks + 1 } := rfl

/-- The check of a timed block reads the clock once, and panics exactly when the clock
reads earlier than `start`. -/
theorem timeSince_apply {C : Type} (start : Int) (w : World C) :
    timeSince start w = if start ≤ w.time w.ticks
      then .done (w.time w.ticks - start).toNat { w with ticks := w.ticks + 1 }
      else .panicked (.expect "Time went backwards") { w with ticks := w.ticks + 1 } := by
  by_cases h : start ≤ w.time w.ticks <;> simp [timeSince, h, Trial.bind_apply]

/-- The check of a timed block reads the clock once, and returns or panics. -/
theorem timeSince_cases {C : Type} (start : Int) (w : World C) :
    (∃ n, timeSince start w = .done n { w with ticks := w.ticks + 1 }) ∨
      timeSince start w =
        .panicked (.expect "Time went backwards") { w with ticks := w.ticks + 1 } := by
  rw [timeSince_apply]
  split
  · exact .inl ⟨_, rfl⟩
  · exact .inr rfl

@[simp] theorem timeSince_world {C : Type} (start : Int) (w : World C) :
    (timeSince start w).world = { w with ticks := w.ticks + 1 } := by
  rw [timeSince_apply]
  split <;> rfl

/-- A clock that does not go back passes the check of a block it started. -/
theorem timeSince_of_forward {C : Type} {w₀ w : World C} (hc : w₀.ClockForward)
    (htime : w.time = w₀.time) (hticks : w₀.ticks ≤ w.ticks) :
    timeSince (w₀.time w₀.ticks) w =
      .done (w.time w.ticks - w₀.time w₀.ticks).toNat { w with ticks := w.ticks + 1 } := by
  rw [timeSince_apply, if_pos (htime ▸ hc _ _ le_rfl hticks)]

/-- The clock only ticks. -/
theorem timeSince_appendsOnly {C : Type} (start : Int) (w : World C) {P : String × TycheTest → Prop}
    {F : FsCall → Prop} : (timeSince start w).AppendsOnly w P F := by
  apply Outcome.AppendsOnly.of_calls [] 1
  rw [timeSince_apply]
  split <;> simp

/-- Calls, filesystem calls, records and later ticks keep a clock that does not go back. -/
theorem World.ClockForward.frame {C : Type} {w : World C} (hc : w.ClockForward) (calls : List C)
    (fsCalls : List FsCall) (log : List (String × TycheTest)) (k : Nat) :
    ({ w with calls := calls, fsCalls := fsCalls, log := log, ticks := w.ticks + k } :
      World C).ClockForward :=
  fun i j hi hj => hc i j (by simp at hi; omega) hj

/-- A world with the environment `env` in which nothing has been done yet and nothing
fails, and whose clock reads its tick. -/
def World.init {C : Type} (env : List (String × String)) : World C :=
  ⟨env, [], [], [], [], [], [], fun n => n, 0⟩

theorem World.init_clockForward {C : Type} (env : List (String × String)) :
    (World.init env : World C).ClockForward := fun i j _ hij => by
  simpa [World.init] using hij

/-! ### Oracles -/

/-- A call to an oracle: the call is recorded, then the oracle replies (its reply may
depend on every call before) or panics. -/
def Trial.call {C R : Type} (oracle : List C → C → Option R) (c : C) : Trial C R := fun w =>
  match oracle w.calls c with
  | some r => .done r { w with calls := w.calls ++ [c] }
  | none => .panicked .oracle { w with calls := w.calls ++ [c] }

theorem Trial.call_of_some {C R : Type} {oracle : List C → C → Option R} {c : C} {r : R}
    {w : World C} (h : oracle w.calls c = some r) :
    Trial.call oracle c w = .done r { w with calls := w.calls ++ [c] } := by
  simp [Trial.call, h]

theorem Trial.call_of_none {C R : Type} {oracle : List C → C → Option R} {c : C}
    {w : World C} (h : oracle w.calls c = none) :
    Trial.call oracle c w = .panicked .oracle { w with calls := w.calls ++ [c] } := by
  simp [Trial.call, h]

/-- A call makes one call, and appends nothing. -/
theorem Trial.call_appendsOnly {C R : Type} (oracle : List C → C → Option R) (c : C)
    (w : World C) {P : String × TycheTest → Prop} {F : FsCall → Prop} :
    (Trial.call oracle c w).AppendsOnly w P F := by
  apply Outcome.AppendsOnly.of_calls [c] 0
  cases h : oracle w.calls c <;> simp [Trial.call, h]

/-- The replies an oracle gives to the calls `cs`, made in order after `hist`. -/
def replies {C R : Type} (oracle : List C → C → Option R) : List C → List C → List (Option R)
  | _, [] => []
  | hist, c :: cs => oracle hist c :: replies oracle (hist ++ [c]) cs

/-- One call of `run_auth_test`: the policy set, entities and request it was given. -/
structure AuthCall where
  policySet : PolicySet
  entities : Entities
  request : Request
  deriving DecidableEq, Repr

/-- What the harness reads of `run_auth_test`'s response: the text of each error of
its diagnostics. -/
structure AuthResponse where
  errors : List String
  deriving DecidableEq, Repr

/-- The authorization oracle: its reply to a call after the calls before it, or
`none` for a panic inside `run_auth_test`. -/
abbrev AuthOracle := List AuthCall → AuthCall → Option AuthResponse

/-- `run_auth_test(&def_impl, request, &policyset, &entities)`. -/
def runAuthTest (oracle : AuthOracle) (ps : PolicySet) (entities : Entities)
    (request : Request) : Trial AuthCall AuthResponse :=
  Trial.call oracle ⟨ps, entities, request⟩

/-! ### Observations -/

/-- The directory the harnesses write their observations to. -/
def observationsDir : String := "fuzz/observations"

/-- `Path::new(dir).join(name)`, as `PathBuf::push` does it on Unix: an absolute `name`
replaces `dir`; otherwise a separator goes between them, unless `dir` is empty or already
ends in one. -/
def Path.join (dir name : String) : String :=
  if name.startsWith "/" then name
  else if dir.isEmpty || dir.endsWith "/" then dir ++ name
  else dir ++ "/" ++ name

/-- The observation file of a test in a directory,
`Path::new(dir).join(format!("{}_testcases.jsonl", test_name))`. -/
def observationFile (dir testName : String) : String :=
  Path.join dir s!"{testName}_testcases.jsonl"

/-- `std::fs::create_dir_all(dir).expect("Error creating tyche-out directory")`: the call is
made, and fails where the world says. -/
def createDirAll {C : Type} (dir : String) : Trial C Unit := fun w =>
  let w := { w with fsCalls := w.fsCalls ++ [.createDirAll dir] }
  if dir ∈ w.dirFails then .panicked (.expect "Error creating tyche-out directory") w
  else .done () w

/-- `OpenOptions::new().create(true).append(true).open(path).unwrap()`: the call is made,
and fails where the world says. -/
def openAppend {C : Type} (path : String) : Trial C Unit := fun w =>
  let w := { w with fsCalls := w.fsCalls ++ [.openAppend path] }
  if path ∈ w.openFails then .panicked .unwrap w
  else .done () w

/-- `writeln!(file, ..).expect("Error writing to tyche file")`: the record is appended to
the file, unless the write fails. -/
def writeRecord {C : Type} (path : String) (obs : TycheTest) : Trial C Unit := fun w =>
  if path ∈ w.writeFails then .panicked (.expect "Error writing to tyche file") w
  else .done () { w with log := w.log ++ [(path, obs)] }

/-- The body of the observability tail: create the directory, open the test's file in it
for appending, and append the record.  `serde_json::to_value` of the record, which holds
only strings and JSON values, is taken to succeed, so its `unwrap` is left out. -/
def writeObservation {C : Type} (dir testName : String) (obs : TycheTest) : Trial C Unit := do
  createDirAll dir
  let path := observationFile dir testName
  openAppend path
  writeRecord path obs

/-- The observability tail of the fuzz targets: when `DRT_OBSERVABILITY` is set, write the
record. -/
def appendObservation {C : Type} (dir testName : String) (obs : TycheTest) : Trial C Unit := do
  let some _ ← envVar "DRT_OBSERVABILITY" | pure ()
  writeObservation dir testName obs

/-- The tail of the harnesses: the directory `fuzz/observations`, and the test named by
`FUZZ_TARGET`, or by the harness's default. -/
def recordObservation {C : Type} (defaultName : String) (obs : TycheTest) : Trial C Unit := do
  let some _ ← envVar "DRT_OBSERVABILITY" | pure ()
  let testName := (← envVar "FUZZ_TARGET").getD defaultName
  writeObservation observationsDir testName obs

/-- The filesystem calls of a tail that writes to the test's file in `dir`, in order. -/
def observationFsCalls (dir testName : String) : List FsCall :=
  [.createDirAll dir, .openAppend (observationFile dir testName)]

/-- **What the tail's body can do**: panic, having made a prefix of its filesystem calls and
appended nothing, or make them all and append its record to the test's file. -/
theorem writeObservation_cases {C : Type} (dir testName : String) (obs : TycheTest)
    (w : World C) :
    (∃ p fs, fs <+: observationFsCalls dir testName ∧
      writeObservation dir testName obs w = .panicked p { w with fsCalls := w.fsCalls ++ fs }) ∨
    writeObservation dir testName obs w = .done () { w with
      fsCalls := w.fsCalls ++ observationFsCalls dir testName,
      log := w.log ++ [(observationFile dir testName, obs)] } := by
  simp only [writeObservation, Trial.bind_apply, createDirAll, openAppend, writeRecord]
  by_cases hd : dir ∈ w.dirFails
  · exact .inl ⟨.expect "Error creating tyche-out directory", [.createDirAll dir],
      by simp [observationFsCalls], by simp [hd]⟩
  by_cases ho : observationFile dir testName ∈ w.openFails
  · exact .inl ⟨.unwrap, observationFsCalls dir testName, List.prefix_refl _,
      by simp [hd, ho, observationFsCalls]⟩
  by_cases hw : observationFile dir testName ∈ w.writeFails
  · exact .inl ⟨.expect "Error writing to tyche file", observationFsCalls dir testName,
      List.prefix_refl _, by simp [hd, ho, hw, observationFsCalls]⟩
  · exact .inr (by simp [hd, ho, hw, observationFsCalls])

/-- The tail's body calls no oracle and appends at most its record. -/
theorem writeObservation_onlyRecords {C : Type} (dir testName : String) (obs : TycheTest)
    (w : World C) : (writeObservation dir testName obs w).OnlyRecords w obs := by
  rcases writeObservation_cases dir testName obs w with ⟨p, fs, -, h⟩ | h <;> rw [h]
  · exact ⟨rfl, rfl⟩
  · exact ⟨rfl, .inr ⟨_, _, rfl, rfl⟩⟩

/-- The tail's body makes only its own filesystem calls and appends only its record, to
the test's file. -/
theorem writeObservation_appendsOnly {C : Type} (dir testName : String) (obs : TycheTest)
    (w : World C) : (writeObservation dir testName obs w).AppendsOnly w
      (· = (observationFile dir testName, obs)) (· ∈ observationFsCalls dir testName) := by
  rcases writeObservation_cases dir testName obs w with ⟨p, fs, hfs, h⟩ | h <;> rw [h]
  · exact ⟨[], fs, [], 0, by simp, fun c hc => hfs.subset hc, by simp⟩
  · exact ⟨[], _, [(observationFile dir testName, obs)], 0, by simp, fun _ => id, by simp⟩

/-- A world in which the tail writes to the test's file in `dir`: observability is on,
and none of the tail's filesystem calls fails there. -/
structure Writable {C : Type} (w : World C) (dir testName : String) : Prop where
  observability : w.env.lookup "DRT_OBSERVABILITY" ≠ none
  createDir : dir ∉ w.dirFails
  openFile : observationFile dir testName ∉ w.openFails
  writeFile : observationFile dir testName ∉ w.writeFails

/-- Calls, filesystem calls, records and clock ticks leave a world writable. -/
theorem Writable.frame {C : Type} {w : World C} {dir testName : String}
    (h : Writable w dir testName) (calls : List C) (fsCalls : List FsCall)
    (log : List (String × TycheTest)) (ticks : Nat) :
    Writable { w with calls := calls, fsCalls := fsCalls, log := log, ticks := ticks }
      dir testName :=
  ⟨h.observability, h.createDir, h.openFile, h.writeFile⟩

/-- In a writable world the tail's body makes its filesystem calls and appends its
record. -/
theorem writeObservation_of_writable {C : Type} {w : World C} {dir testName : String}
    (h : Writable w dir testName) (obs : TycheTest) :
    writeObservation dir testName obs w = .done () { w with
      fsCalls := w.fsCalls ++ observationFsCalls dir testName,
      log := w.log ++ [(observationFile dir testName, obs)] } := by
  simp [writeObservation, Trial.bind_apply, createDirAll, openAppend, writeRecord, h.createDir,
    h.openFile, h.writeFile, observationFsCalls]

/-- In a writable world the fuzz targets' tail writes its record. -/
theorem appendObservation_of_writable {C : Type} {w : World C} {dir testName : String}
    (h : Writable w dir testName) (obs : TycheTest) :
    appendObservation dir testName obs w = .done () { w with
      fsCalls := w.fsCalls ++ observationFsCalls dir testName,
      log := w.log ++ [(observationFile dir testName, obs)] } := by
  obtain ⟨x, hx⟩ := Option.ne_none_iff_exists'.mp h.observability
  rw [← writeObservation_of_writable h]
  simp [appendObservation, Trial.bind_apply, hx]

/-- The harnesses' tail is its body, with the test's name, when observability is on, and
does nothing otherwise. -/
theorem recordObservation_apply {C : Type} (d : String) (obs : TycheTest) (w : World C) :
    recordObservation d obs w = match w.env.lookup "DRT_OBSERVABILITY" with
      | none => .done () w
      | some _ => writeObservation observationsDir ((w.env.lookup "FUZZ_TARGET").getD d) obs w := by
  unfold recordObservation
  cases h : w.env.lookup "DRT_OBSERVABILITY" <;> simp [Trial.bind_apply, h]

/-- In a world where the test's file in `fuzz/observations` is writable, the harnesses'
tail writes its record there. -/
theorem recordObservation_of_writable {C : Type} {w : World C} {d : String}
    (h : Writable w observationsDir ((w.env.lookup "FUZZ_TARGET").getD d)) (obs : TycheTest) :
    recordObservation d obs w = .done () { w with
      fsCalls := w.fsCalls ++
        observationFsCalls observationsDir ((w.env.lookup "FUZZ_TARGET").getD d),
      log := w.log ++
        [(observationFile observationsDir ((w.env.lookup "FUZZ_TARGET").getD d), obs)] } := by
  obtain ⟨x, hx⟩ := Option.ne_none_iff_exists'.mp h.observability
  rw [recordObservation_apply, hx, writeObservation_of_writable h]

theorem recordObservation_onlyRecords {C : Type} (d : String) (obs : TycheTest) (w : World C) :
    (recordObservation d obs w).OnlyRecords w obs := by
  rw [recordObservation_apply]
  split
  · exact ⟨rfl, .inl rfl⟩
  · exact writeObservation_onlyRecords _ _ obs w

/-- The harnesses' tail makes only the filesystem calls and appends only the record of the
test that `FUZZ_TARGET` names, or of the harness's default. -/
theorem recordObservation_appendsOnly {C : Type} (d : String) (obs : TycheTest) (w : World C) :
    (recordObservation d obs w).AppendsOnly w
      (· = (observationFile observationsDir ((w.env.lookup "FUZZ_TARGET").getD d), obs))
      (· ∈ observationFsCalls observationsDir ((w.env.lookup "FUZZ_TARGET").getD d)) := by
  rw [recordObservation_apply]
  split
  · exact .done_self ()
  · exact writeObservation_appendsOnly _ _ obs w


/-! ### The request loop of the ABAC harnesses -/

/-- `err.contains("wrong number of arguments")`. -/
def wrongArity (err : String) : Bool := decide ("wrong number of arguments".data <:+: err.data)

/-- A reply the loop accepts: no error mentions a wrong number of arguments. -/
def AuthResponse.Fine (r : AuthResponse) : Prop := r.errors.filter wrongArity = []

instance (r : AuthResponse) : Decidable r.Fine := inferInstanceAs (Decidable (_ = _))

/-- The request loop of `test_abac_type_directed` and `test_fuzz_input`: each request
goes to `run_auth_test`, its error count is added to the total, and the harness
asserts that none of its errors mentions a wrong number of arguments. -/
def authLoop (oracle : AuthOracle) (ps : PolicySet) (entities : Entities) :
    List Request → Nat → Trial AuthCall Nat
  | [], total => pure total
  | request :: requests, total => do
    let res ← runAuthTest oracle ps entities request
    let total := total + res.errors.length
    if res.errors.filter wrongArity = [] then authLoop oracle ps entities requests total
    else Trial.panic .assertEq

variable {oracle : AuthOracle} {ps : PolicySet} {entities : Entities}

/-- One request of the loop: the call, the assertion on its reply, then the rest. -/
theorem authLoop_cons (request : Request) (requests : List Request) (total : Nat)
    (w : World AuthCall) :
    authLoop oracle ps entities (request :: requests) total w =
      match runAuthTest oracle ps entities request w with
      | .done res w₁ =>
        if res.Fine then authLoop oracle ps entities requests (total + res.errors.length) w₁
        else .panicked .assertEq w₁
      | .panicked p w₁ => .panicked p w₁ := by
  show Trial.bind (runAuthTest oracle ps entities request) _ w = _
  simp only [Trial.bind]
  cases runAuthTest oracle ps entities request w with
  | done res w₁ =>
    by_cases hc : res.errors.filter wrongArity = []
    · simp only [AuthResponse.Fine, hc, ↓reduceIte]
    · simp only [AuthResponse.Fine, hc, ↓reduceIte]
      rfl
  | panicked => rfl

/-- **A loop that returned** called the oracle once per request, in order, got a
reply to each, none with a wrong-arity error, and summed their error counts. -/
theorem authLoop_eq_done : ∀ {requests : List Request} {total total' : Nat}
    {w w' : World AuthCall},
    authLoop oracle ps entities requests total w = .done total' w' →
      ∃ rs : List AuthResponse,
        replies oracle w.calls (requests.map (AuthCall.mk ps entities)) = rs.map some ∧
        (∀ r ∈ rs, r.Fine) ∧ total' = total + (rs.map fun r => r.errors.length).sum ∧
        w' = { w with calls := w.calls ++ requests.map (AuthCall.mk ps entities) }
  | [], total, total', w, w', h => by
    simp only [authLoop, Trial.pure_apply, Outcome.done.injEq] at h
    obtain ⟨rfl, rfl⟩ := h
    exact ⟨[], rfl, by simp, by simp, by simp⟩
  | request :: requests, total, total', w, w', h => by
    rw [authLoop_cons, runAuthTest] at h
    cases hr : oracle w.calls ⟨ps, entities, request⟩ with
    | none => simp [Trial.call_of_none hr] at h
    | some r =>
      rw [Trial.call_of_some hr] at h
      dsimp only at h
      by_cases hfine : r.Fine
      · rw [if_pos hfine] at h
        obtain ⟨rs, hrs, hall, htot, rfl⟩ := authLoop_eq_done h
        refine ⟨r :: rs, by simp [replies, hr, hrs], ?_, by simp [htot]; omega, by simp⟩
        exact List.forall_mem_cons.mpr ⟨hfine, hall⟩
      · simp [if_neg hfine] at h

/-- **A loop whose every reply is accepted** calls the oracle on every request, in
order, and returns the sum of the error counts. -/
theorem authLoop_of_fine : ∀ (rs : List AuthResponse) (requests : List Request) (total : Nat)
    (w : World AuthCall), (∀ r ∈ rs, r.Fine) →
    replies oracle w.calls (requests.map (AuthCall.mk ps entities)) = rs.map some →
    authLoop oracle ps entities requests total w =
      .done (total + (rs.map fun r => r.errors.length).sum)
        { w with calls := w.calls ++ requests.map (AuthCall.mk ps entities) }
  | [], [], _, _, _, _ => by simp [authLoop]
  | [], _ :: _, _, _, _, h => by simp [replies] at h
  | _ :: _, [], _, _, _, h => by simp [replies] at h
  | r :: rs, request :: requests, total, w, hfine, h => by
    simp only [List.map_cons, replies, List.cons.injEq] at h
    rw [authLoop_cons, runAuthTest, Trial.call_of_some h.1]
    dsimp only
    rw [if_pos (List.forall_mem_cons.mp hfine).1, authLoop_of_fine rs requests _ _
      (List.forall_mem_cons.mp hfine).2 h.2]
    simp [Nat.add_assoc]

/-- The loop's replies before the one it stops at: the calls made so far are
recorded, and the world is otherwise untouched. -/
theorem authLoop_halts {p : Panic} (stop : Option AuthResponse)
    (hstop : ∀ r, stop = some r → ¬ r.Fine) (hp : stop = none → p = .oracle)
    (hp' : ∀ r, stop = some r → p = .assertEq) :
    ∀ (pre : List AuthResponse) (requests : List Request) (total : Nat) (w : World AuthCall)
      (rest : List (Option AuthResponse)),
      (∀ r ∈ pre, r.Fine) →
      replies oracle w.calls (requests.map (AuthCall.mk ps entities)) =
        pre.map some ++ stop :: rest →
      authLoop oracle ps entities requests total w = .panicked p
        { w with calls :=
            w.calls ++ (requests.take (pre.length + 1)).map (AuthCall.mk ps entities) }
  | [], [], _, _, _, _, h => by simp [replies] at h
  | [], request :: requests, total, w, rest, _, h => by
    simp only [List.map_cons, replies, List.map_nil, List.nil_append, List.cons.injEq] at h
    rw [authLoop_cons, runAuthTest]
    cases stop with
    | none => simp [Trial.call_of_none h.1, hp rfl]
    | some r => simp [Trial.call_of_some h.1, if_neg (hstop r rfl), hp' r rfl]
  | r :: pre, [], _, _, _, _, h => by simp [replies] at h
  | r :: pre, request :: requests, total, w, rest, hfine, h => by
    simp only [List.map_cons, replies, List.cons_append, List.cons.injEq] at h
    rw [authLoop_cons, runAuthTest, Trial.call_of_some h.1]
    dsimp only
    rw [if_pos (List.forall_mem_cons.mp hfine).1, authLoop_halts stop hstop hp hp' pre requests _ _
      rest (List.forall_mem_cons.mp hfine).2 h.2]
    simp

/-- The request loop only makes calls. -/
theorem authLoop_appendsOnly (P : String × TycheTest → Prop) (F : FsCall → Prop) :
    ∀ (requests : List Request) (total : Nat) (w : World AuthCall),
      (authLoop oracle ps entities requests total w).AppendsOnly w P F
  | [], total, w => .done_self total
  | request :: requests, total, w => by
    refine Trial.bind_appendsOnly (Trial.call_appendsOnly _ _ w) fun res w₁ _ => ?_
    by_cases h : res.errors.filter wrongArity = []
    · simp only [h, ↓reduceIte]
      exact authLoop_appendsOnly P F requests _ w₁
    · simp only [h, ↓reduceIte]
      exact .panicked_self .assertEq

/-- **Whatever the replies**, the loop calls the oracle on a prefix of its requests, in
order, and on all of them when it returns. -/
theorem authLoop_calls : ∀ (requests : List Request) (total : Nat) (w : World AuthCall),
    ∃ cs, (authLoop oracle ps entities requests total w).world.calls = w.calls ++ cs ∧
      cs <+: requests.map (AuthCall.mk ps entities) ∧
      ∀ t w', authLoop oracle ps entities requests total w = .done t w' →
        cs = requests.map (AuthCall.mk ps entities)
  | [], total, w => ⟨[], by simp [authLoop], List.nil_prefix, fun _ _ _ => rfl⟩
  | request :: requests, total, w => by
    rw [authLoop_cons, runAuthTest]
    cases hr : oracle w.calls ⟨ps, entities, request⟩ with
    | none =>
      rw [Trial.call_of_none hr]
      exact ⟨[⟨ps, entities, request⟩], rfl, by simp, fun _ _ h => nomatch h⟩
    | some r =>
      rw [Trial.call_of_some hr]
      dsimp only
      by_cases hfine : r.Fine
      · obtain ⟨cs, hcs, hpre, hdone⟩ := authLoop_calls requests (total + r.errors.length)
          { w with calls := w.calls ++ [⟨ps, entities, request⟩] }
        simp only [if_pos hfine]
        exact ⟨⟨ps, entities, request⟩ :: cs, by simp [hcs], by simpa using hpre,
          fun t w' h => by simp [hdone t w' h]⟩
      · simp only [if_neg hfine]
        exact ⟨[⟨ps, entities, request⟩], rfl, by simp, fun _ _ h => nomatch h⟩

end CedarDrt
