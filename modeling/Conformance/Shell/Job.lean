import Conformance.Shell.Machine

/-!
# Jobs

A signal reaches another shell that waits for this process as soon as it goes on, and a process in the
background at once.  The processes that a shell has started in the background are its jobs, which it counts.
-/

namespace Conformance.Shell

open Effect

/-! ## Signals that come -/

/-- Take a signal: do at the next occasion what is set for it, or else what it does by itself. -/
def takeSignal (n : Nat) : Effect Unit := do
  match (← process).traps.lookup (signalName n), signalEffect n with
  | some _, .kill | some _, .nothing =>
    if n == 0 then pure ()
    else if n == 9 then throw (.killed 9)
    else update fun p => { p with pending := p.pending.filter (· != n) ++ [n] }
  | _, .nothing => pure ()
  | _, .stop => throw .timedOut
  | _, .kill => throw (.killed n)

/-- Take the signals that have come from other processes by now. -/
def takeSignals : Effect Unit := do
  let m ← get
  let isHere (s : Sent) : Bool := s.target == m.process.own && s.time ≤ m.now
  let here := (m.sent.filter isHere).reverse.mergeSort fun a b => decide (a.time ≤ b.time)
  set { m with sent := m.sent.filter (!isHere ·) }
  here.forM fun s => takeSignal s.signal

/-- Kill a job; what it would have done afterwards is not done. -/
def killJob (n : Nat) (job : Job) : Effect Unit :=
  modify fun m =>
    let killed := { job with ends := m.now, status := 128 + n, signal := some n }
    { m with
      jobs := m.jobs.map fun j => if j.process == job.process then killed else j
      sent := m.sent.filter fun s => s.job != job.process || s.time ≤ m.now
      written := m.written.filter fun w => w.job != job.process || w.time ≤ m.now }

/-- Send a signal to a process; the answer is whether there is one.  A job that has ended is there until it
has been waited for, which a shell does whenever it waits for anything. -/
def sendSignal (n target : Nat) : Effect Bool := do
  let m ← get
  if target == m.process.own || target == 0 then
    takeSignal n
    pure true
  else if m.waiting.contains target then
    set { m with sent := ⟨target, n, m.now, m.job⟩ :: m.sent }
    pure true
  else
    match m.jobs.find? (·.process == target) with
    | some job =>
      if job.isAwaited || job.ends < m.now then pure false
      else
        if n != 0 && signalEffect n == .kill && m.now < job.ends then killJob n job
        pure true
    | none => pure false

/-! ## Jobs -/

/-- The jobs of the shell that are listed, the last one first. -/
def listedJobs : Effect (List Job) := do
  let m ← get
  pure (m.jobs.reverse.filter fun j => j.parent == m.process.own && j.place.isSome)

/-- Change the job of a process. -/
def changeJob (number : Nat) (change : Job → Job) : Effect Unit :=
  modify fun m => { m with jobs := m.jobs.map fun j => if j.process == number then change j else j }

/-- The first place among the jobs that is free, or is that of a job that has ended and been waited for. -/
def claimPlace : Effect Nat := do
  let listed ← listedJobs
  let holder? (place : Nat) : Option Job := listed.find? (·.place == some place)
  let places := (List.range (listed.length + 1)).map (· + 1)
  let isFree (place : Nat) : Bool := (holder? place).all (·.isAwaited)
  let place := (places.find? isFree).getD 1
  match holder? place with
  | some job => changeJob job.process fun j => { j with place := none }
  | none => pure ()
  pure place

/-- The job that an argument behind a percent sign names. -/
def jobNamed (argument : String) : Effect Job := do
  let listed ← listedJobs
  let found := match (argument.drop 1).toString with
    | "" | "%" | "+" => listed.head?
    | "-" => listed[1]?
    | name => (name.toNat?).bind fun place => listed.find? (·.place == some place)
  match found with
  | some job => pure job
  | none => failWith 2 s!"No such job: {argument}"

/-- How a job is doing. -/
def jobState (now : Nat) (job : Job) : String :=
  if now < job.ends then "Running"
  else
    match job.signal.bind killedText?, job.status with
    | some text, _ => text
    | none, 0 => "Done"
    | none, status => s!"Done({status})"

/-- The first signal that interrupts waiting up to some time. -/
def interruption? (ends : Nat) : Effect (Option Sent) := do
  let m ← get
  let interrupts (s : Sent) : Bool :=
    s.target == m.process.own && s.time < ends &&
      match m.process.traps.lookup (signalName s.signal) with
      | some action => !action.isEmpty
      | none => signalEffect s.signal == .kill
  pure ((m.sent.filter interrupts).foldr (fun s first =>
    match first with
    | some other => if other.time ≤ s.time then some other else some s
    | none => some s) none)

end Conformance.Shell
