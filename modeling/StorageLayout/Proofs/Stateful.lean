import StorageLayout.Proofs.Lists

/-!
# Computations that fail and leave something behind

A computation that changes a state and may fail gives an answer and the state it leaves, also when
it fails. A sequence goes on from there, unless its first step has failed. A run through a list of
steps that fail without a trace ends in the state that the steps before the first failure have
made.
-/
namespace StorageLayout.Stateful

variable {ε σ α β γ : Type}

/-- A sequence goes on from what the first step leaves, unless the step fails. -/
theorem run_bind (x : ExceptT ε (StateM σ) α) (next : α → ExceptT ε (StateM σ) β) (s : σ) :
    (x >>= next).run s = match x.run s with
      | (.ok a, after) => (next a).run after
      | (.error e, after) => (.error e, after) := by
  rw [ExceptT.run_bind]
  change StateT.bind x.run _ s = _
  unfold StateT.bind
  rcases x.run s with ⟨outcome, after⟩
  cases outcome <;> rfl

theorem run_throw (e : ε) (s : σ) :
    (throw e : ExceptT ε (StateM σ) α).run s = (.error e, s) := rfl

theorem run_get (s : σ) : (get : ExceptT ε (StateM σ) σ).run s = (.ok s, s) := rfl

theorem run_modify (change : σ → σ) (s : σ) :
    (modify change : ExceptT ε (StateM σ) Unit).run s = (.ok (), change s) := rfl

theorem run_map (f : α → β) (x : ExceptT ε (StateM σ) α) (s : σ) :
    (f <$> x).run s = match x.run s with
      | (.ok a, after) => (.ok (f a), after)
      | (.error e, after) => (.error e, after) := by
  rw [map_eq_pure_bind, run_bind]
  rfl

theorem run_discard (x : ExceptT ε (StateM σ) α) (s : σ) :
    (discard x).run s = match x.run s with
      | (.ok _, after) => (.ok (), after)
      | (.error e, after) => (.error e, after) := by
  change ((fun _ => ()) <$> x).run s = _
  rw [run_map]

theorem run_ofExcept (answer : Except ε α) (s : σ) :
    (MonadExcept.ofExcept answer : ExceptT ε (StateM σ) α).run s = (answer, s) := by
  cases answer <;> rfl

/-- A sequence that begins with a check goes on as if nothing had been checked. -/
theorem run_ofExcept_bind (answer : Except ε α) (next : α → ExceptT ε (StateM σ) β) (s : σ) :
    ((MonadExcept.ofExcept answer : ExceptT ε (StateM σ) α) >>= next).run s = match answer with
      | .ok a => (next a).run s
      | .error e => (.error e, s) := by
  rw [run_bind, run_ofExcept]
  cases answer <;> rfl

theorem run_adapt {ε' : Type} (explain : ε → ε') (x : ExceptT ε (StateM σ) α) (s : σ) :
    (ExceptT.adapt explain x).run s = ((x.run s).1.mapError explain, (x.run s).2) := rfl

/-- A list is run through from the first element on, up to the first failure. -/
theorem run_mapM_cons (f : α → ExceptT ε (StateM σ) β) (a : α) (rest : List α) (s : σ) :
    ((a :: rest).mapM f).run s = match (f a).run s with
      | (.ok b, after) => match (rest.mapM f).run after with
        | (.ok bs, last) => (.ok (b :: bs), last)
        | (.error e, last) => (.error e, last)
      | (.error e, after) => (.error e, after) := by
  rw [List.mapM_cons, run_bind]
  rcases (f a).run s with ⟨_ | b, after⟩
  · rfl
  · dsimp only
    rw [run_bind]
    rcases (rest.mapM f).run after with ⟨_ | bs, last⟩ <;> rfl

/-- Steps that either make a change or fail without a trace are run through if none of them fails,
and then all changes have been made. -/
theorem run_forM {step : α → ExceptT ε (StateM σ) Unit} {f : α → Except ε γ} {change : σ → γ → σ}
    (passes : ∀ a c, f a = .ok c → ∀ s, (step a).run s = (.ok (), change s c))
    (fails : ∀ a e, f a = .error e → ∀ s, (step a).run s = (.error e, s)) (list : List α) (s : σ) :
    ((list.forM step).run s).1 = (list.mapM f).map (fun _ => ()) ∧
      ∀ found, list.mapM f = .ok found → ((list.forM step).run s).2 = found.foldl change s := by
  induction list generalizing s with
  | nil =>
    refine ⟨rfl, fun found ran => ?_⟩
    obtain rfl := Except.ok.inj ran
    rfl
  | cons a rest ih =>
    have unrolled : (a :: rest).forM step = step a >>= fun _ => rest.forM step := rfl
    rw [List.mapM_cons, unrolled, run_bind]
    cases first : f a with
    | error e =>
      rw [fails a e first]
      refine ⟨rfl, fun found ran => ?_⟩
      cases ran
    | ok c =>
      obtain ⟨answer, state⟩ := ih (change s c)
      rw [passes a c first]
      constructor
      · dsimp only
        rw [answer]
        cases rest.mapM f <;> rfl
      · intro found ran
        obtain ⟨_, given, ran⟩ := bind_eq_ok_iff.1 ran
        obtain rfl := Except.ok.inj given
        obtain ⟨others, passed, ran⟩ := bind_eq_ok_iff.1 ran
        obtain rfl := Except.ok.inj ran
        exact state others passed

end StorageLayout.Stateful
