import MeshSidecar.Agent.Basic

/-!
# Stopping the proxies

To shut down, the agent sends SIGTERM to all processes on record and gives them a time to
stop. If some are still on record when that time is over, it sends SIGKILL to those and waits
for them, though not for ever. It returns as soon as no process is on record.

The time that processes are given is the one after which the timer of the runtime wakes the
agent. So a limit of that timer is no matter of the agent: it is part of the time that the
agent is called with (`Controller.stopWait`). The wait after SIGKILL is far below it.

On its own a process takes no time to be reaped once it has ended, so time passes only from
the end of one process to the end of the next.
-/

namespace MeshSidecar

/-- How long the agent waits for processes after SIGKILL, in milliseconds. -/
def killPeriod : Nat := 10000

namespace AgentState

/-- The next time after now, no later than a deadline, at which a process ends. -/
def nextEnding (state : AgentState) (deadline : Nat) : Option Nat :=
  let times := state.processes.filterMap fun process =>
    process.ending.bind fun (time, _) =>
      if state.now < time ∧ time ≤ deadline then some time else none
  times.min?

/-- Waits until no process is on record or a deadline is reached, for the ends of at most
    `fuel` processes. -/
def awaitWithin (deadline : Nat) : Nat → AgentState → AgentState
  | 0, state => state
  | fuel + 1, state =>
    let state := state.settle
    if state.live.isEmpty then state
    else
      match state.nextEnding deadline with
      | some time => awaitWithin deadline fuel { state with now := time }
      | none => { state with now := max state.now deadline }

/-- Waits for a number of milliseconds until no process is on record. -/
def awaitReaped (state : AgentState) (period : Nat) : AgentState :=
  awaitWithin (state.now + period) (state.processes.length + 1) state

/-- Stops every process, giving it a number of milliseconds to do so of its own accord. -/
def shutdown (state : AgentState) (timeout : Nat) : AgentState :=
  if state.records.isEmpty then state
  else
    let state := (state.signalAll .term).awaitReaped timeout
    if state.live.isEmpty then state
    else
      let state := ((state.warn .notStopped).signalAll .kill).awaitReaped killPeriod
      if state.live.isEmpty then state else state.warn .notKilled

end AgentState

end MeshSidecar
