import GuardedDispatch.Policy.Breaker.Window
import GuardedDispatch.Policy.Failure

/-!
# The circuit breaker

While closed the breaker records the outcomes of calls and opens as soon as enough of the recorded
ones failed or were slow. While open it refuses calls until its wait is over; the next request
then begins a half-open round of probes, whose outcomes decide between closed and open.

Every change of state begins a new generation. A permit carries the generation that issued it, and
an outcome counts only for the generation of its permit.
-/

namespace GuardedDispatch

open Number

/-- When a breaker opens, for how long, and how it probes. Thresholds are percentages, durations
milliseconds. -/
structure BreakerConfig where
  failureRateThreshold : Single := 50
  slowCallRateThreshold : Single := 100
  slowCallDuration : Nat := 60000
  slidingWindowSize : Nat := 20
  minimumNumberOfCalls : Nat := 10
  waitInOpenState : Nat := 30000
  callsInHalfOpenState : Nat := 5
  deriving DecidableEq, Repr, Inhabited

namespace BreakerConfig

/-- The window size in effect: at least one. -/
def windowSize (c : BreakerConfig) : Nat := max 1 c.slidingWindowSize

/-- The count of outcomes that must be in before a rate is judged: between one and the window. -/
def minimumCalls (c : BreakerConfig) : Nat := min (max 1 c.minimumNumberOfCalls) c.windowSize

/-- The number of probes in effect: at least one. -/
def halfOpenCalls (c : BreakerConfig) : Nat := max 1 c.callsInHalfOpenState

/-- Numerical equality; a threshold that is not a number equals nothing. -/
def agrees (a b : BreakerConfig) : Bool :=
  a.failureRateThreshold.sameNumber b.failureRateThreshold &&
  a.slowCallRateThreshold.sameNumber b.slowCallRateThreshold &&
  a.slowCallDuration == b.slowCallDuration &&
  a.slidingWindowSize == b.slidingWindowSize &&
  a.minimumNumberOfCalls == b.minimumNumberOfCalls &&
  a.waitInOpenState == b.waitInOpenState &&
  a.callsInHalfOpenState == b.callsInHalfOpenState

/-- Whether a window's failure rate or slow rate reaches its threshold. -/
def exceededBy (c : BreakerConfig) (w : Window) : Bool :=
  w.failureRate.atLeast c.failureRateThreshold || w.slowRate.atLeast c.slowCallRateThreshold

end BreakerConfig

/-- Permission for one call, with the generation and state that granted it. -/
structure CallPermit where
  generation : Nat
  state : CircuitState
  deriving DecidableEq, Repr

/-- A circuit breaker: its configuration, the state it is in and since when, the outcomes of the
current closed and half-open rounds, the state shown to observers, and lifetime counters. -/
structure Breaker where
  name : String
  config : BreakerConfig
  state : CircuitState := .closed
  generation : Nat := 0
  enteredAt : Nat
  window : Window
  probesIssued : Nat := 0
  probes : Window
  shown : CircuitState := .closed
  successful : Nat := 0
  failed : Nat := 0
  slow : Nat := 0
  notPermitted : Nat := 0
  deriving DecidableEq, Repr

namespace Breaker

/-- A closed breaker without history. -/
def new (name : String) (config : BreakerConfig) (now : Nat) : Breaker :=
  { name, config, enteredAt := now
    window := { capacity := config.windowSize }
    probes := { capacity := config.halfOpenCalls } }

/-- Enters a state: a new generation with no probes, and an empty window when it is closed. -/
def enter (b : Breaker) (target : CircuitState) (now : Nat) : Breaker :=
  { b with
    state := target
    generation := b.generation + 1
    enteredAt := now
    probesIssued := 0
    probes := { capacity := b.config.halfOpenCalls }
    window := if target = .closed then { capacity := b.config.windowSize } else b.window
    shown := target }

/-- Begins the half-open round if the breaker is open and its wait is over. -/
def wake (b : Breaker) (now : Nat) : Breaker :=
  if b.state = .opened ∧ b.config.waitInOpenState ≤ now - b.enteredAt then b.enter .halfOpen now
  else b

/-- The permit that the current generation issues. -/
def permit (b : Breaker) : CallPermit := ⟨b.generation, b.state⟩

/-- Asks for permission to make one call. -/
def request (b : Breaker) (now : Nat) : Breaker × Option CallPermit :=
  let b := b.wake now
  let refused := { b with notPermitted := b.notPermitted + 1 }
  match b.state with
  | .closed => (b, some b.permit)
  | .opened => (refused, none)
  | .halfOpen =>
    if b.probesIssued < b.config.halfOpenCalls then
      ({ b with probesIssued := b.probesIssued + 1 }, some b.permit)
    else (refused, none)

/-- Gives a permit back unused; a probe of the current generation may then be issued again. -/
def release (b : Breaker) (p : CallPermit) : Breaker :=
  if p.state = .halfOpen ∧ p.generation = b.generation then
    { b with probesIssued := b.probesIssued - 1 }
  else b

/-- Counts an outcome in the lifetime counters. -/
def tally (b : Breaker) (o : Outcome) : Breaker :=
  { b with
    successful := b.successful + (!o.failed).toNat
    failed := b.failed + o.failed.toNat
    slow := b.slow + o.slow.toNat }

/-- Records an outcome of the current generation and changes state where it decides one. -/
def judge (b : Breaker) (o : Outcome) (now : Nat) : Breaker :=
  match b.state with
  | .closed =>
    let b := { b with window := b.window.record o }
    if b.config.minimumCalls ≤ b.window.size ∧ b.config.exceededBy b.window then
      b.enter .opened now
    else b
  | .halfOpen =>
    let b := { b with probes := b.probes.record o }
    if b.config.halfOpenCalls ≤ b.probes.size then
      b.enter (if b.config.exceededBy b.probes then .opened else .closed) now
    else b
  | .opened => b

/-- Reports how a permitted call ended: it is slow if it took longer than the threshold. -/
def complete (b : Breaker) (p : CallPermit) (duration : Nat) (failed : Bool) (now : Nat) :
    Breaker :=
  let o : Outcome := ⟨failed, decide (b.config.slowCallDuration < duration)⟩
  let b := b.tally o
  if p.generation = b.generation then b.judge o now else b

/-- Closes the breaker and forgets its history. -/
def reset (b : Breaker) (now : Nat) : Breaker := b.enter .closed now

/-- Opens the breaker by hand. -/
def trip (b : Breaker) (now : Nat) : Breaker := b.enter .opened now

/-- Puts another configuration into effect; the windows keep what fits of their latest outcomes.
Nothing happens if the configuration is numerically the current one. -/
def reconfigure (b : Breaker) (config : BreakerConfig) : Breaker :=
  if b.config.agrees config then b
  else
    { b with
      config
      window := b.window.resized config.windowSize
      probes := b.probes.resized config.halfOpenCalls }

/-- The failure that a refused caller sees. -/
def refusal {ε : Type} (b : Breaker) : PolicyFailure ε := .circuitOpen b.name b.shown

/-- The window that statistics describe: the probes while half-open. -/
def observed (b : Breaker) : Window := if b.state = .halfOpen then b.probes else b.window

/-- The shown state follows every change of state. -/
@[simp] theorem shown_enter (b : Breaker) (target : CircuitState) (now : Nat) :
    (b.enter target now).shown = (b.enter target now).state := rfl

/-- Every change of state begins the next generation. -/
@[simp] theorem generation_enter (b : Breaker) (target : CircuitState) (now : Nat) :
    (b.enter target now).generation = b.generation + 1 := rfl

end Breaker

/-- What a breaker reports about itself. -/
structure BreakerStats where
  state : CircuitState
  failureRate : Single
  slowRate : Single
  buffered : Nat
  failedBuffered : Nat
  slowBuffered : Nat
  successful : Nat
  failed : Nat
  slow : Nat
  notPermitted : Nat
  deriving DecidableEq, Repr, Inhabited

/-- The breaker's statistics. -/
def Breaker.stats (b : Breaker) : BreakerStats :=
  { state := b.state
    failureRate := b.observed.failureRate
    slowRate := b.observed.slowRate
    buffered := b.observed.size
    failedBuffered := b.observed.failed
    slowBuffered := b.observed.slow
    successful := b.successful
    failed := b.failed
    slow := b.slow
    notPermitted := b.notPermitted }

end GuardedDispatch
