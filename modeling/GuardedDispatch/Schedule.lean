/-!
# Running waiting tasks under a virtual clock

A world holds tasks that take steps until they have to wait, and a clock that stands still while
any of them can move. Tasks that become able to move run in the order in which they did; tasks
that become so together run in the order in which they began to wait. When every task waits, the
clock jumps to the next moment at which one of them moves by itself.

Whoever waits for an outcome may do some tasks itself, in the foreground. It comes before the other
tasks when the clock has moved, and otherwise only once none of them can move.
-/

namespace GuardedDispatch

/-- Tasks are known by number. -/
abbrev TaskId := Nat

/-- A world of tasks. -/
class World (W : Type) where
  /-- The clock, in milliseconds. -/
  now : W → Nat
  /-- The world at another time. -/
  setNow : W → Nat → W
  /-- The tasks in the order in which they began to wait. -/
  tasks : W → List TaskId
  /-- Puts a task behind the others. -/
  requeue : W → TaskId → W
  /-- One step of a task; none while it waits and once it is over. -/
  step? : W → TaskId → Option W
  /-- The next moment at which a waiting task moves by itself. -/
  wakeAt? : W → TaskId → Option Nat

namespace World

variable {W : Type} [World W]

/-- A bound on loops that no run comes near: durations have sixty-four bits. -/
def patience : Nat := Nat.pow 2 80

/-- The tasks that can take a step, in the order in which they began to wait. -/
def movable (w : W) : List TaskId := (tasks w).filter fun t => (step? w t).isSome

/-- Lets one task run until it waits, for at most `fuel` steps. -/
def runTaskFor (fuel : Nat) (w : W) (t : TaskId) : W :=
  match fuel with
  | 0 => w
  | fuel + 1 =>
    match step? w t with
    | some w => runTaskFor fuel w t
    | none => w

/-- Lets one task run until it waits, and puts it behind the others. -/
def runTask (w : W) (t : TaskId) : W := requeue (runTaskFor patience w t) t

/-- The tasks outside the foreground that can take a step. -/
def behind (foreground : List TaskId) (w : W) : List TaskId :=
  (movable w).filter (!foreground.contains ·)

/-- Runs the ready tasks in turn, and those outside the foreground that they make movable after
them. -/
def settleFor (fuel : Nat) (foreground ready : List TaskId) (w : W) : W :=
  match fuel, ready with
  | 0, _ | _, [] => w
  | fuel + 1, t :: rest =>
    let w := runTask w t
    settleFor fuel foreground (rest ++ (behind foreground w).filter (!rest.contains ·)) w

/-- Runs the tasks of the foreground that can take a step. -/
def runForeground (foreground : List TaskId) (w : W) : W :=
  foreground.foldl (fun w t => if (step? w t).isSome then runTask w t else w) w

/-- Lets every task run as far as it can without time passing, the foreground in turn with all
others. -/
def settleAround (fuel : Nat) (foreground : List TaskId) (w : W) : W :=
  let ready := behind foreground w
  let w := runForeground foreground w
  let woken := (behind foreground w).filter (!ready.contains ·)
  let w := settleFor patience foreground (ready ++ woken) w
  match fuel with
  | 0 => w
  | fuel + 1 =>
    if foreground.any fun t => (step? w t).isSome then settleAround fuel foreground w else w

/-- Lets every task run as far as it can without time passing. -/
def settle (w : W) : W := settleFor patience [] (movable w) w

/-- The next moment at which some task moves by itself. -/
def nextWake? (w : W) : Option Nat :=
  ((tasks w).filterMap (wakeAt? w)).min?

/-- Moves the clock and never back. -/
def tick (w : W) (time : Nat) : W := setNow w (max (now w) time)

/-- Lets time pass up to `target`, running every task that becomes movable on the way. -/
def advanceFor (fuel : Nat) (target : Nat) (w : W) : W :=
  let w := settle w
  match fuel, nextWake? w with
  | fuel + 1, some time =>
    if time ≤ target then advanceFor fuel target (tick w time) else tick w target
  | _, _ => tick w target

/-- Lets a duration pass. -/
def pass (w : W) (duration : Nat) : W := advanceFor patience (now w + duration) w

/-- The longest that the clock is moved in one go: thirty years. -/
def longestAdvance : Nat := 30 * 365 * 24 * 60 * 60 * 1000

/-- Moves the clock on by hand. -/
def advance (w : W) (duration : Nat) : W := pass w (min duration longestAdvance)

/-- Lets time pass until the world is as wanted or nothing moves any more. -/
def awaitFor (fuel : Nat) (foreground : List TaskId) (wanted : W → Bool) (w : W) : W :=
  let w := settleAround patience foreground w
  if wanted w then w
  else match fuel, nextWake? w with
    | fuel + 1, some time => awaitFor fuel foreground wanted (tick w time)
    | _, _ => w

/-- Lets time pass until the world is as wanted, with some tasks in the foreground. -/
def await (w : W) (foreground : List TaskId) (wanted : W → Bool) : W :=
  awaitFor patience foreground wanted w

end World

end GuardedDispatch
