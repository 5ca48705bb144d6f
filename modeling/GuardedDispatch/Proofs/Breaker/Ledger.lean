import GuardedDispatch.Proofs.Breaker.Operations
import Mathlib.Data.List.Count

/-!
# Runs of a breaker, with a record of its permits

A breaker keeps no account of the permits it handed out. A ledger does: beside the breaker and the
clock it lists every permit issued, every outcome reported under which permit, and the permits
still out. From it the history of a generation is read off: the outcomes of that generation's
permits, in the order in which they were reported.

Permits of one generation are equal values, so the ledger counts them.
-/

namespace GuardedDispatch

/-- One use of a breaker, or the passing of time. -/
inductive BreakerAction where
  | request
  | complete (permit : CallPermit) (duration : Nat) (failed : Bool)
  | release (permit : CallPermit)
  | reset
  | trip
  | reconfigure (config : BreakerConfig)
  | wait (duration : Nat)
  deriving DecidableEq, Repr

/-- A breaker with what became of its permits. -/
structure Ledger where
  breaker : Breaker
  now : Nat
  issued : List CallPermit := []
  completed : List (CallPermit × Outcome) := []
  pending : List CallPermit := []
  deriving DecidableEq, Repr

/-- The outcomes reported under permits of one generation, oldest first. -/
def outcomesOf (generation : Nat) (log : List (CallPermit × Outcome)) : List Outcome :=
  (log.filter fun e ↦ e.1.generation = generation).map Prod.snd

namespace Ledger

/-- A new breaker, of which nothing was asked yet. -/
def new (name : String) (config : BreakerConfig) (start : Nat) : Ledger :=
  { breaker := .new name config start, now := start }

/-- The outcomes of the current generation. -/
def history (l : Ledger) : List Outcome := outcomesOf l.breaker.generation l.completed

/-- The number of permits of the current generation that are still out. -/
def outstanding (l : Ledger) : Nat :=
  l.pending.countP fun p ↦ p.generation = l.breaker.generation

/-- Whether a request would be granted now. -/
def Grants (l : Ledger) : Prop := (l.breaker.request l.now).2.isSome = true

instance (l : Ledger) : Decidable l.Grants := inferInstanceAs (Decidable (_ = _))

/-- Notes a permit as issued. -/
def issue (l : Ledger) (p : CallPermit) : Ledger :=
  { l with issued := p :: l.issued, pending := p :: l.pending }

/-- Notes an outcome as reported under a permit. -/
def log (l : Ledger) (p : CallPermit) (o : Outcome) : Ledger :=
  { l with completed := l.completed ++ [(p, o)], pending := l.pending.erase p }

/-- Does one thing with the breaker and notes it. -/
def apply (l : Ledger) : BreakerAction → Ledger
  | .request =>
    match l.breaker.request l.now with
    | (b, some p) => { l with breaker := b }.issue p
    | (b, none) => { l with breaker := b }
  | .complete p duration failed =>
    { l with breaker := l.breaker.complete p duration failed l.now }.log p
      (l.breaker.config.outcome duration failed)
  | .release p => { l with breaker := l.breaker.release p, pending := l.pending.erase p }
  | .reset => { l with breaker := l.breaker.reset l.now }
  | .trip => { l with breaker := l.breaker.trip l.now }
  | .reconfigure config => { l with breaker := l.breaker.reconfigure config }
  | .wait duration => { l with now := l.now + duration }

/-- Does one thing after another. -/
def run (l : Ledger) (actions : List BreakerAction) : Ledger := actions.foldl apply l

/-- Whether every action of a run is one that a rule allows where it is taken. -/
def Follows (rule : Ledger → BreakerAction → Prop) : Ledger → List BreakerAction → Prop
  | _, [] => True
  | l, a :: rest => rule l a ∧ Follows rule (l.apply a) rest

instance decidableFollows (rule : Ledger → BreakerAction → Prop) [∀ l a, Decidable (rule l a)] :
    ∀ (l : Ledger) (actions : List BreakerAction), Decidable (l.Follows rule actions)
  | _, [] => inferInstanceAs (Decidable True)
  | l, a :: rest =>
    have := decidableFollows rule (l.apply a) rest
    inferInstanceAs (Decidable (_ ∧ _))

/-! ### Rules of use -/

/-- Permits are used only if they were issued, and none is completed twice. -/
def CompletesOnce (l : Ledger) : BreakerAction → Prop
  | .complete p _ _ => (l.completed.map Prod.fst).count p < l.issued.count p
  | .release p => p ∈ l.issued
  | _ => True

/-- Each permit is completed or released at most once. -/
def SettlesOnce (l : Ledger) : BreakerAction → Prop
  | .complete p _ _ | .release p => p ∈ l.pending
  | _ => True

/-- The settings stay as they are. -/
def KeepsSettings (_ : Ledger) : BreakerAction → Prop
  | .reconfigure _ => False
  | _ => True

/-- No other settings come into effect during a half-open round than such with as many probes. -/
def KeepsProbeCount (l : Ledger) : BreakerAction → Prop
  | .reconfigure config =>
    l.breaker.state = .halfOpen → config.halfOpenCalls = l.breaker.config.halfOpenCalls
  | _ => True

/-- The breaker is neither set by hand nor given other settings. -/
def LeavesAlone (_ : Ledger) : BreakerAction → Prop
  | .reset | .trip | .reconfigure _ => False
  | _ => True

instance (l : Ledger) : DecidablePred l.CompletesOnce
  | .complete .. => inferInstanceAs (Decidable (_ < _))
  | .release _ => inferInstanceAs (Decidable (_ ∈ _))
  | .request | .reset | .trip | .reconfigure _ | .wait _ => isTrue trivial

instance (l : Ledger) : DecidablePred l.SettlesOnce
  | .complete .. | .release _ => inferInstanceAs (Decidable (_ ∈ _))
  | .request | .reset | .trip | .reconfigure _ | .wait _ => isTrue trivial

instance (l : Ledger) : DecidablePred l.KeepsSettings
  | .reconfigure _ => inferInstanceAs (Decidable False)
  | .request | .complete .. | .release _ | .reset | .trip | .wait _ => isTrue trivial

instance (l : Ledger) : DecidablePred l.LeavesAlone
  | .reset | .trip | .reconfigure _ => inferInstanceAs (Decidable False)
  | .request | .complete .. | .release _ | .wait _ => isTrue trivial

end Ledger

end GuardedDispatch
