import ModelGateway.Health.Monitor

/-!
# The monitor's clock

Ready jobs run in their order until none is left.  Then the clock goes on to the next timer, and all
timers that are due make their jobs ready, in the order in which they were set.
-/

namespace ModelGateway.Monitor

def workOf (rows : Nat) : Job → Nat
  | .testNext b => 4 * b.rest.length + 3
  | .tested b _ _ => 4 * b.rest.length + 6
  | .trigger _ => 4 * rows + 4
  | _ => 1

def work (m : Monitor σ) : Nat :=
  m.ready.foldr (fun job n => workOf m.store.table.rows.length job + n) 0

def runSteps (s : HealthSettings) (probe : Probe σ) : (steps : Nat) → Monitor σ → Monitor σ
  | 0, m => m
  | steps + 1, m =>
    match m.step? s probe with
    | none => m
    | some m => runSteps s probe steps m

def settle (s : HealthSettings) (probe : Probe σ) (m : Monitor σ) : Monitor σ :=
  runSteps s probe m.work m

def nextDue? (m : Monitor σ) : Option Nat :=
  (m.timers.map (·.due)).min?

def fire (m : Monitor σ) (due : Nat) : Monitor σ :=
  { m with
    clock := due
    ready := m.ready ++ (m.timers.filter (·.due == due)).map (·.job)
    timers := m.timers.filter (·.due != due) }

/-- Goes from timer to timer up to a time, at most so many times. -/
def goTo (s : HealthSettings) (probe : Probe σ) (target : Nat) :
    (rounds : Nat) → Monitor σ → Monitor σ
  | 0, m => { m with clock := target }
  | rounds + 1, m =>
    match m.nextDue? with
    | none => { m with clock := target }
    | some due =>
      if target < due then { m with clock := target }
      else goTo s probe target rounds ((m.fire due).settle s probe)

/-- Each round sets a timer later by at least one, so the time that is left bounds the rounds. -/
def roundsTo (m : Monitor σ) (target : Nat) : Nat :=
  m.timers.foldr (fun t n => target + 1 - t.due + n) 0

def advanceTo (s : HealthSettings) (probe : Probe σ) (target : Nat) (m : Monitor σ) : Monitor σ :=
  let m := m.settle s probe
  goTo s probe target (m.roundsTo target) m

def sleep (s : HealthSettings) (probe : Probe σ) (ms : Nat) (m : Monitor σ) : Monitor σ :=
  advanceTo s probe (m.clock + ms) m

def isBatch : Job → Bool
  | .testNext _ | .tested _ _ _ => true
  | _ => false

def batchDue? (m : Monitor σ) : Option Nat :=
  (m.timers.find? (isBatch ·.job)).map (·.due)

def awaitBatch (s : HealthSettings) (probe : Probe σ) : (waits : Nat) → Monitor σ → Monitor σ
  | 0, m => m
  | waits + 1, m =>
    match m.batchDue? with
    | none => m
    | some due => awaitBatch s probe waits (advanceTo s probe due m)

/-- Lets the running batch come to its end; it waits at most twice for each channel. -/
def finishBatch (s : HealthSettings) (probe : Probe σ) (m : Monitor σ) : Monitor σ :=
  let m := m.settle s probe
  awaitBatch s probe (2 * m.store.table.rows.length + 1) m

def testAll (s : HealthSettings) (probe : Probe σ) (m : Monitor σ) (notifies waits : Bool) :
    Except GatewayError Unit × Monitor σ :=
  match m.start notifies none with
  | (.error e, m) => (.error e, m)
  | (.ok (), m) => (.ok (), if waits then m.finishBatch s probe else m.settle s probe)

def unknownChannel (id : Int) : GatewayError :=
  .notFound ("channel " ++ Text.ofInt id ++ " not found")

/-- Tests one channel; none if the probe crashes.  The time of a test that passes is recorded, and
no status is changed. -/
def testOne (s : HealthSettings) (probe : Probe σ) (m : Monitor σ) (id : Int)
    (model : Option String) (kind : TestKind) :
    Except GatewayError (Option TestResult) × Monitor σ :=
  match m.store.get id with
  | .error e => (.error e, m)
  | .ok none => (.error (unknownChannel id), m)
  | .ok (some c) =>
    let (run, world) := probe c model kind m.world
    let m := { m with world }
    let m := if run.delayMs = 0 then m else m.sleep s probe run.delayMs
    let m :=
      match run.result with
      | some r => if r.failure.isNone then m.spawn (.recordTime id (keptMs r)) else m
      | none => m
    (.ok run.result, m.settle s probe)

/-- Starts the periodic trigger; zero minutes mean none.  A period of more than 64 bits of seconds
crashes. -/
def startPeriodic (s : HealthSettings) (probe : Probe σ) (m : Monitor σ) (minutes : Nat) :
    Except Halt (Bool × Monitor σ) :=
  if minutes = 0 then .ok (false, m)
  else if UInt64.size ≤ minutes * 60 then .error .crashed
  else .ok (true, (m.spawn (.await minutes)).settle s probe)

end ModelGateway.Monitor
