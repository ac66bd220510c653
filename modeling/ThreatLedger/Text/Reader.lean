/-
  Readers: what a text starts with, and the rest of it.

  1. **Data** — a `Reader τ ε α` runs on a list of tokens `τ` and gives a value and what is left, or an
     error `ε`.  The law it carries says that what is left is shorter, so that no reader stands still.
  2. **Building** — `one` reads a token; `fail`, `map`, `bind`, `after`, `followedBy` and `byFirst` give
     readers again, law included.
  3. **Loops** — `loop` repeats a step until the step says it is done, and `toEnd` until the text is used
     up.  Both end because every turn leaves a shorter text; no turns are counted.
-/
namespace ThreatLedger

/-- A reader takes a value off the front of a text; what it leaves is shorter. -/
structure Reader (τ ε α : Type) where
  run : List τ → Except ε (α × List τ)
  shorter : ∀ {s a r}, run s = .ok (a, r) → r.length < s.length

namespace Reader

variable {τ ε α β σ : Type}

/-- The reader that reads nothing and fails. -/
def fail (e : ε) : Reader τ ε α where
  run _ := .error e
  shorter h := by cases h

/-- Reads as `p` does and changes the value. -/
def map (f : α → β) (p : Reader τ ε α) : Reader τ ε β where
  run s :=
    match p.run s with
    | .error e => .error e
    | .ok (a, r) => .ok (f a, r)
  shorter h := by
    split at h
    · cases h
    · next hp => cases h; exact p.shorter hp

/-- Reads as `p` does, then as `f` says of the value. -/
def bind (p : Reader τ ε α) (f : α → Reader τ ε β) : Reader τ ε β where
  run s :=
    match p.run s with
    | .error e => .error e
    | .ok (a, r) => (f a).run r
  shorter h := by
    split at h
    · cases h
    · next hp => exact Nat.lt_trans ((f _).shorter h) (p.shorter hp)

/-- Drops tokens with `f`, which may drop none, then reads as `p` does. -/
def after (f : List τ → List τ) (hf : ∀ s, (f s).length ≤ s.length) (p : Reader τ ε α) :
    Reader τ ε α where
  run s := p.run (f s)
  shorter h := Nat.lt_of_lt_of_le (p.shorter h) (hf _)

/-- Reads as `p` does, then with `f`, which may read nothing. -/
def followedBy (p : Reader τ ε α) (f : α → List τ → Except ε (β × List τ))
    (hf : ∀ {a s b r}, f a s = .ok (b, r) → r.length ≤ s.length) : Reader τ ε β where
  run s :=
    match p.run s with
    | .error e => .error e
    | .ok (a, r) => f a r
  shorter h := by
    split at h
    · cases h
    · next hp => exact Nat.lt_of_le_of_lt (hf h) (p.shorter hp)

/-- Reads one token and takes the value that `f` gives for it. -/
def one (onEnd : ε) (f : τ → Except ε α) : Reader τ ε α where
  run s :=
    match s with
    | [] => .error onEnd
    | x :: r => (f x).map (·, r)
  shorter {s _ _} h := by
    cases s with
    | nil => cases h
    | cons x r =>
      cases hx : f x with
      | error e => simp [hx, Except.map] at h
      | ok a =>
        simp only [hx, Except.map, Except.ok.injEq, Prod.mk.injEq] at h
        simp [← h.2]

/-- Reads as the first token says, which is left in the text. -/
def byFirst (onEnd : ε) (f : τ → Reader τ ε α) : Reader τ ε α where
  run s :=
    match s with
    | [] => .error onEnd
    | x :: r => (f x).run (x :: r)
  shorter {s _ _} h := by
    cases s with
    | nil => cases h
    | cons x r => exact (f x).shorter h

/-! ## Loops -/

/-- Repeats `step` from a state until it gives a result. -/
def loopFrom (step : σ → Reader τ ε (σ ⊕ β)) (state : σ) (s : List τ) : Except ε (β × List τ) :=
  match h : (step state).run s with
  | .error e => .error e
  | .ok (.inr b, r) => .ok (b, r)
  | .ok (.inl state, r) =>
    have := (step _).shorter h
    loopFrom step state r
termination_by s.length

/-- One turn of a loop: it fails with its step, ends with it, or goes on from the state and the rest
that the step leaves. -/
theorem loopFrom_eq (step : σ → Reader τ ε (σ ⊕ β)) (state : σ) (s : List τ) :
    loopFrom step state s =
      match (step state).run s with
      | .error e => .error e
      | .ok (.inr b, r) => .ok (b, r)
      | .ok (.inl state', r) => loopFrom step state' r := by
  rw [loopFrom]
  split <;> simp_all

/-- A loop that ends has read something.  By induction on its turns: each of its steps is a reader, and
leaves less than it is given. -/
theorem loopFrom_shorter (step : σ → Reader τ ε (σ ⊕ β)) (state : σ) (s : List τ) {b : β}
    {r : List τ} (h : loopFrom step state s = .ok (b, r)) : r.length < s.length := by
  induction state, s using loopFrom.induct step with
  | case1 state s e he =>
    rw [loopFrom_eq, he] at h
    cases h
  | case2 state s b' r' he =>
    rw [loopFrom_eq, he] at h
    cases h
    exact (step state).shorter he
  | case3 state s state' r' he hlt ih =>
    rw [loopFrom_eq, he] at h
    exact Nat.lt_trans (ih h) hlt

/-- Repeats `step` from `state` until it gives a result. -/
def loop (step : σ → Reader τ ε (σ ⊕ β)) (state : σ) : Reader τ ε β where
  run := loopFrom step state
  shorter := loopFrom_shorter step state _

/-- Repeats `step` until the text is used up. -/
def toEnd (step : σ → Reader τ ε σ) (state : σ) (s : List τ) : Except ε σ :=
  if s.isEmpty then .ok state
  else
    match h : (step state).run s with
    | .error e => .error e
    | .ok (state, r) =>
      have := (step _).shorter h
      toEnd step state r
termination_by s.length

end Reader
end ThreatLedger
