/-
  Actions on a store: what they answer, what they leave behind, and what they report.

  1. **Data** — an `Action σ ε α` takes a store `σ` to an `Outcome`: a result or an error `ε`, the store
     afterwards, and the events of the action in order.  A failed action leaves a store behind too.
  2. **Sequence** — actions form a monad: an error ends the sequence, and events are appended.
  3. **Attempts** — `attempt` turns the result of an action into a value, error or not.
  4. **Runs** — actions one after the other, none of which is kept from being carried out by the failure of
     another one.  `outcomes` is what happens; answers and stores are read off it.
-/
import ThreatLedger.Log.Event

namespace ThreatLedger

/-- What an action answers, leaves behind and reports. -/
structure Outcome (σ ε α : Type) where
  result : Except ε α
  store : σ
  events : List Event

/-- An outcome is its result and its events, with the store that it leaves behind.  Where only the first
two are known, this puts the outcome back together. -/
theorem outcome_eq {σ ε α : Type} {o : Outcome σ ε α} {r : Except ε α} {events : List Event}
    (hr : o.result = r) (he : o.events = events) : o = ⟨r, o.store, events⟩ := by
  rw [← hr, ← he]

/-- The outcome of what comes after earlier events. -/
def Outcome.after {σ ε α : Type} (events : List Event) (o : Outcome σ ε α) : Outcome σ ε α :=
  ⟨o.result, o.store, events ++ o.events⟩

/-- An action on a store. -/
def Action (σ ε α : Type) := σ → Outcome σ ε α

namespace Action

variable {σ ε ε' α β : Type}

/-- Carries an action out. -/
def run (x : Action σ ε α) (s : σ) : Outcome σ ε α := x s

/-- Answers `a` and does nothing. -/
def succeed (a : α) : Action σ ε α := fun s => ⟨.ok a, s, []⟩

/-- Fails with `e` and does nothing. -/
def fail (e : ε) : Action σ ε α := fun s => ⟨.error e, s, []⟩

/-- Reports an event. -/
def report (event : Event) : Action σ ε Unit := fun s => ⟨.ok (), s, [event]⟩

/-- Carries out `x`, and with its answer `f`; an error of `x` ends both. -/
def andThen (x : Action σ ε α) (f : α → Action σ ε β) : Action σ ε β := fun s =>
  let o := x s
  match o.result with
  | .error e => ⟨.error e, o.store, o.events⟩
  | .ok a =>
    let p := f a o.store
    ⟨p.result, p.store, o.events ++ p.events⟩

instance : Monad (Action σ ε) where
  pure := succeed
  bind := andThen

/-- Answers with the result of `x`, be it an error. -/
def attempt (x : Action σ ε α) : Action σ ε' (Except ε α) := fun s =>
  let o := x s
  ⟨.ok o.result, o.store, o.events⟩

/-- Changes the errors of an action. -/
def mapError (f : ε → ε') (x : Action σ ε α) : Action σ ε' α := fun s =>
  let o := x s
  ⟨o.result.mapError f, o.store, o.events⟩

/-- Answers with a result that is already known. -/
def ofExcept (x : Except ε α) : Action σ ε α := fun s => ⟨x, s, []⟩

/-! ## Runs -/

/-- The outcomes of actions one after the other: each is carried out on the store that the one before it has
left behind, whether that one succeeded or not. -/
def outcomes (s : σ) : List (Action σ ε α) → List (Outcome σ ε α)
  | [] => []
  | x :: xs => x.run s :: outcomes (x.run s).store xs

/-- What actions one after the other are answered, and the store afterwards. -/
def runAll (s : σ) (xs : List (Action σ ε α)) : List (Except ε α) × σ :=
  ((outcomes s xs).map (·.result), (outcomes s xs).foldl (fun _ o => o.store) s)

/-- The stores of a run: the one that it begins with, and the one after each action. -/
def stages (s : σ) (xs : List (Action σ ε α)) : List σ := s :: (outcomes s xs).map (·.store)

/-! ## Laws -/

@[simp] theorem pure_run (a : α) (s : σ) : (pure a : Action σ ε α).run s = ⟨.ok a, s, []⟩ := rfl

/-- A sequence, by the result of its first action; an error ends it, with the store and the events so
far. -/
theorem bind_run (x : Action σ ε α) (f : α → Action σ ε β) (s : σ) :
    (x >>= f).run s =
      match (x.run s).result with
      | .error e => ⟨.error e, (x.run s).store, (x.run s).events⟩
      | .ok a =>
        ⟨((f a).run (x.run s).store).result, ((f a).run (x.run s).store).store,
          (x.run s).events ++ ((f a).run (x.run s).store).events⟩ := rfl

/-- A sequence, by the outcome of its first action: this is the form to rewrite with where that outcome
is known as a whole. -/
theorem run_bind (x : Action σ ε α) (f : α → Action σ ε β) (s : σ) :
    (x >>= f).run s =
      match x.run s with
      | ⟨.error e, s', events⟩ => ⟨.error e, s', events⟩
      | ⟨.ok a, s', events⟩ => ((f a).run s').after events := by
  rw [bind_run]
  rcases h : x.run s with ⟨_ | _, s', events⟩ <;> rfl

/-- A sequence succeeds if both of its actions do, the second one on the answer and the store of the
first one. -/
theorem result_bind {x : Action σ ε α} {f : α → Action σ ε β} {s : σ} {b : β} :
    ((x >>= f).run s).result = .ok b ↔
      ∃ a, (x.run s).result = .ok a ∧ ((f a).run (x.run s).store).result = .ok b := by
  rw [bind_run]
  cases hx : (x.run s).result with
  | error e => exact iff_of_false (by rintro ⟨⟩) (by rintro ⟨_, ⟨⟩, _⟩)
  | ok a => exact ⟨fun h => ⟨a, rfl, h⟩, by rintro ⟨_, ⟨⟩, h⟩; exact h⟩

/-- If the first action succeeds, a sequence leaves behind what the second one does. -/
theorem store_bind {x : Action σ ε α} {f : α → Action σ ε β} {s : σ} {a : α}
    (h : (x.run s).result = .ok a) :
    ((x >>= f).run s).store = ((f a).run (x.run s).store).store := by
  rw [bind_run, h]

theorem ofExcept_ok (a : α) : (ofExcept (.ok a) : Action σ ε α) = pure a := rfl

theorem run_fail (e : ε) (s : σ) : (fail e : Action σ ε α).run s = ⟨.error e, s, []⟩ := rfl

theorem run_attempt (x : Action σ ε α) (s : σ) :
    (x.attempt : Action σ ε' _).run s = ⟨.ok (x.run s).result, (x.run s).store, (x.run s).events⟩ :=
  rfl

/-- Mapping an answer changes neither the store that is left behind nor what is reported, and an error
not at all. -/
theorem run_map (f : α → β) (x : Action σ ε α) (s : σ) :
    (f <$> x).run s = ⟨(x.run s).result.map f, (x.run s).store, (x.run s).events⟩ := by
  show (x >>= fun a => pure (f a)).run s = _
  rw [run_bind]
  rcases x.run s with ⟨_ | _, s', events⟩
  · rfl
  · exact congrArg (Outcome.mk _ _) (List.append_nil events)

/-- The laws of a monad hold up to the equality of actions, since outcomes carry nothing but what they
show, and reports are put together by appending. -/
theorem id_map_action (x : Action σ ε α) : id <$> x = x := by
  funext s
  show andThen x succeed s = x s
  simp only [andThen, succeed]
  cases h : (x s).result <;> simp [← h]

theorem pure_bind_action (a : α) (f : α → Action σ ε β) : (pure a >>= f) = f a := by
  funext s
  show andThen (succeed a) f s = f a s
  simp [andThen, succeed]

/-- Three actions one after the other may be grouped in either way, as their events are appended in the
same order. -/
theorem bind_assoc_action {γ : Type} (x : Action σ ε α) (f : α → Action σ ε β)
    (g : β → Action σ ε γ) : (x >>= f >>= g) = (x >>= fun a => f a >>= g) := by
  funext s
  show andThen (andThen x f) g s = andThen x (fun a => andThen (f a) g) s
  simp only [andThen]
  cases h : (x s).result with
  | error e => rfl
  | ok a =>
    simp only
    cases h' : (f a (x s).store).result <;> simp

instance : LawfulMonad (Action σ ε) :=
  LawfulMonad.mk' (Action σ ε) id_map_action pure_bind_action bind_assoc_action

end Action
end ThreatLedger
