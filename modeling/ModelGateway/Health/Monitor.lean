import ModelGateway.Channel.Table
import ModelGateway.Health.Notice
import ModelGateway.Health.Policy
import ModelGateway.Health.TestRequest

/-!
# Testing channels

A batch tests every channel once, in the order of ids, as they were when it began.  What a test
means for a channel's status is left to jobs of their own, which run whenever their turn comes; so a
status may have been changed by someone else in between.  At most one batch runs at a time: it holds
a flag from before the channels are listed until it ends in whatever way.

Every job is one step without interruption.  A job that has to wait becomes a timer.
-/

namespace ModelGateway

/-- The operations of the store that fail. -/
structure Outage where
  get : Bool := false
  list : Bool := false
  status : Bool := false
  time : Bool := false
  deriving DecidableEq, Repr

structure ChannelStore where
  table : ChannelTable := {}
  outage : Outage := {}
  deriving DecidableEq, Repr

namespace ChannelStore

def offline (operation : String) : GatewayError := .config (operation ++ " offline")

def get (s : ChannelStore) (id : Int) : Except GatewayError (Option Channel) :=
  if s.outage.get then .error (offline "get") else s.table.get id

def list (s : ChannelStore) : Except GatewayError (List Channel) :=
  if s.outage.list then .error (offline "list") else s.table.list

def setStatus (s : ChannelStore) (id : Int) (status : ChannelStatus) (reason : Option String) :
    Except GatewayError Bool × ChannelStore :=
  if s.outage.status then (.error (offline "status"), s)
  else
    let (known, table) := s.table.setStatus id status reason
    (.ok known, { s with table })

def setResponseTime (s : ChannelStore) (id : Int) (ms : Int) (now : Instant) : ChannelStore :=
  if s.outage.time then s else { s with table := s.table.setResponseTime id ms now }

end ChannelStore

/-- The time that a probe takes, and its result; none if it crashes. -/
structure ProbeRun where
  delayMs : Nat
  result : Option TestResult
  deriving DecidableEq, Repr

abbrev Probe (σ : Type) := Channel → Option String → TestKind → StateM σ ProbeRun

structure Batch where
  /-- The channels still to be tested. -/
  rest : List Channel
  notifies : Bool
  /-- The period in minutes of the trigger that waits for the end of the batch. -/
  waiter : Option Nat
  deriving DecidableEq, Repr

inductive Job where
  | disable (id : Int) (name reason : String)
  | enable (id : Int) (name : String)
  | recordTime (id ms : Int)
  /-- A batch about to test its next channel, or to end. -/
  | testNext (b : Batch)
  /-- A batch with the result of a probe. -/
  | tested (b : Batch) (channel : Channel) (result : Option TestResult)
  /-- A periodic trigger about to wait, with its period in minutes. -/
  | await (minutes : Nat)
  /-- A periodic trigger whose time has come. -/
  | trigger (minutes : Nat)
  deriving DecidableEq, Repr

structure Timer where
  due : Nat
  job : Job
  deriving DecidableEq, Repr

/-- The monitor, with the world that its probes act on. -/
structure Monitor (σ : Type) where
  store : ChannelStore
  running : Bool := false
  ready : List Job := []
  timers : List Timer := []
  /-- Milliseconds. -/
  clock : Nat := 0
  notices : List Notice := []
  world : σ

namespace Monitor

def now (m : Monitor σ) : Instant :=
  ⟨m.clock / 1000, m.clock % 1000 * 1000000⟩

def spawn (m : Monitor σ) (job : Job) : Monitor σ :=
  { m with ready := m.ready ++ [job] }

def continueWith (m : Monitor σ) (job : Job) : Monitor σ :=
  { m with ready := job :: m.ready }

def after (m : Monitor σ) (ms : Nat) (job : Job) : Monitor σ :=
  if ms = 0 then m.continueWith job
  else { m with timers := m.timers ++ [⟨m.clock + ms, job⟩] }

def notify (m : Monitor σ) (n : Notice) : Monitor σ :=
  { m with notices := m.notices ++ [n] }

def runDisable (m : Monitor σ) (id : Int) (name reason : String) : Monitor σ :=
  match m.store.setStatus id .autoDisabled (some reason) with
  | (.ok true, store) => { m with store }.notify (.disabled id name reason)
  | (_, store) => { m with store }

def runEnable (m : Monitor σ) (id : Int) (name : String) : Monitor σ :=
  match m.store.setStatus id .enabled none with
  | (.ok true, store) => { m with store }.notify (.enabled id name)
  | (_, store) => { m with store }

def recordTime (m : Monitor σ) (id ms : Int) : Monitor σ :=
  { m with store := m.store.setResponseTime id ms m.now }

def acquire? (m : Monitor σ) : Option (Monitor σ) :=
  if m.running then none else some { m with running := true }

def release (m : Monitor σ) : Monitor σ :=
  { m with running := false }

def finish (m : Monitor σ) (b : Batch) (completed : Bool) : Monitor σ :=
  let m := m.release
  let m := if completed && b.notifies then m.notify .allTested else m
  match b.waiter with
  | some minutes => m.spawn (.await minutes)
  | none => m

def testNext (probe : Probe σ) (m : Monitor σ) (b : Batch) : Monitor σ :=
  match b.rest with
  | [] => m.finish b true
  | c :: rest =>
    let (run, world) := probe c none .text m.world
    { m with world }.after run.delayMs (.tested { b with rest } c run.result)

def elapsedMs (r : TestResult) : Nat :=
  r.elapsedNanos / 1000000

def keptMs (r : TestResult) : Int :=
  Int.bmod (elapsedMs r) UInt64.size

/-- The jobs for a verdict, by the status that the channel had when it was listed. -/
def consequences (s : HealthSettings) (c : Channel) (v : Verdict) : List Job :=
  (if c.isEnabled && v.ban && c.autoBan then
    [.disable c.id c.name ((v.failure.map (·.message)).getD "")] else []) ++
  (if !c.isEnabled && Policy.shouldEnable s v.failure c.status then [.enable c.id c.name] else [])

/-- The result of a test.  A crash of the probe or of the judgement ends the batch. -/
def tested (s : HealthSettings) (m : Monitor σ) (b : Batch) (c : Channel)
    (result : Option TestResult) : Monitor σ :=
  match result.bind fun r => (Policy.judge? s c r).map (r, ·) with
  | none => m.finish b false
  | some (r, v) =>
    let m := (consequences s c v).foldl spawn m
    (m.recordTime c.id (keptMs r)).after s.requestIntervalMs (.testNext b)

/-- Lists the channels and starts testing them, with the flag taken; it is given back if the listing
fails. -/
def launch (m : Monitor σ) (notifies : Bool) (waiter : Option Nat) :
    Except GatewayError Unit × Monitor σ :=
  match m.store.list with
  | .error e => (.error e, m.release)
  | .ok channels => (.ok (), m.spawn (.testNext ⟨channels, notifies, waiter⟩))

def start (m : Monitor σ) (notifies : Bool) (waiter : Option Nat) :
    Except GatewayError Unit × Monitor σ :=
  match m.acquire? with
  | none => (.error .batchRunning, m)
  | some m => m.launch notifies waiter

/-- The delay in place of one that the clock cannot count: thirty years. -/
def farAwaySecs : Nat := 30 * 365 * 86400

def periodMs (minutes : Nat) : Nat :=
  let secs := minutes * 60
  (if secs < Instant.countableSecs then secs else farAwaySecs) * 1000

def await (m : Monitor σ) (minutes : Nat) : Monitor σ :=
  m.after (periodMs minutes) (.trigger minutes)

/-- If the batch cannot be started, the trigger waits for another period. -/
def trigger (m : Monitor σ) (minutes : Nat) : Monitor σ :=
  match m.start false (some minutes) with
  | (.ok (), m) => m
  | (.error _, m) => m.await minutes

def runJob (s : HealthSettings) (probe : Probe σ) (m : Monitor σ) : Job → Monitor σ
  | .disable id name reason => m.runDisable id name reason
  | .enable id name => m.runEnable id name
  | .recordTime id ms => m.recordTime id ms
  | .testNext b => testNext probe m b
  | .tested b c result => tested s m b c result
  | .await minutes => m.await minutes
  | .trigger minutes => m.trigger minutes

def step? (s : HealthSettings) (probe : Probe σ) (m : Monitor σ) : Option (Monitor σ) :=
  match m.ready with
  | [] => none
  | job :: rest => some (runJob s probe { m with ready := rest } job)

end Monitor

end ModelGateway
