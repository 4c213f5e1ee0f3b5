import ShaderCheck.Check.Document

/-!
What the steps of a check come to: their value, their notes, and whether they end in a fault. Each is read off a
sequence of steps from those of its parts, so that no proof about a check opens the steps themselves.
-/

namespace ShaderCheck

namespace Notes

theorem append_assoc (a b c : Notes) : a ++ b ++ c = a ++ (b ++ c) := by
  change Notes.mk (a.incidents ++ b.incidents ++ c.incidents) (a.used ++ b.used ++ c.used) = _
  rw [List.append_assoc, List.append_assoc]
  rfl

@[simp] theorem append_empty (a : Notes) : a ++ ({} : Notes) = a := by
  change Notes.mk _ _ = a
  rw [List.append_nil, List.append_nil]

@[simp] theorem empty_append (a : Notes) : ({} : Notes) ++ a = a := rfl

@[simp] theorem incidents_append (a b : Notes) : (a ++ b).incidents = a.incidents ++ b.incidents := rfl

end Notes

namespace Noted

variable {α β : Type}

@[simp] theorem value_pure (a : α) : (pure a : Noted α).value = a := rfl

@[simp] theorem value_bind (step : Noted α) (next : α → Noted β) :
    (step >>= next).value = (next step.value).value := rfl

@[simp] theorem notes_pure (a : α) : (pure a : Noted α).notes = {} := rfl

@[simp] theorem notes_bind (step : Noted α) (next : α → Noted β) :
    (step >>= next).notes = step.notes ++ (next step.value).notes := rfl

/-- Everything that a step reports is allowed. -/
def Within (allowed : Incident → Prop) (step : Noted α) : Prop :=
  ∀ incident ∈ step.notes.incidents, allowed incident

variable {allowed : Incident → Prop}

@[simp] theorem within_pure (a : α) : Within allowed (pure a : Noted α) := by
  intro incident member
  cases member

@[simp] theorem within_bind (step : Noted α) (next : α → Noted β) :
    Within allowed (step >>= next) ↔ Within allowed step ∧ Within allowed (next step.value) := by
  simp only [Within, notes_bind, Notes.incidents_append, List.mem_append]
  exact ⟨fun all => ⟨fun i first => all i (.inl first), fun i second => all i (.inr second)⟩,
    fun both i member => member.elim (both.1 i) (both.2 i)⟩

@[simp] theorem within_use (name : String) : Within allowed (use name) := by
  intro incident member
  cases member

@[simp] theorem within_report (node : NodeRef) (cause : Cause) :
    Within allowed (report node cause) ↔ allowed ⟨cause, some node⟩ := by
  simp [Within, report]

@[simp] theorem within_expect (condition : Bool) (node : NodeRef) (cause : Cause) :
    Within allowed (expect condition node cause) ↔ (condition = false → allowed ⟨cause, some node⟩) := by
  cases condition <;> simp [expect]

end Noted

namespace Attempt

variable {α β : Type}

def result (step : Attempt α) : Except Fault α := Noted.value (ExceptT.run step)

def notes (step : Attempt α) : Notes := Noted.notes (ExceptT.run step)

@[simp] theorem result_pure (a : α) : result (pure a : Attempt α) = .ok a := rfl

@[simp] theorem result_lift (step : Noted α) : result (liftM step : Attempt α) = .ok step.value := rfl

@[simp] theorem result_of (outcome : Except Fault α) : result (Attempt.of outcome) = outcome := rfl

theorem result_bind (step : Attempt α) (next : α → Attempt β) :
    result (step >>= next) = (result step).bind fun a => result (next a) := by
  unfold result
  rw [ExceptT.run_bind, Noted.value_bind]
  cases Noted.value (ExceptT.run step) <;> rfl

@[simp] theorem notes_pure (a : α) : notes (pure a : Attempt α) = {} := rfl

@[simp] theorem notes_lift (step : Noted α) : notes (liftM step : Attempt α) = step.notes := by
  change step.notes ++ ({} : Notes) = step.notes
  rw [Notes.append_empty]

@[simp] theorem notes_of (outcome : Except Fault α) : notes (Attempt.of outcome) = {} := rfl

theorem notes_bind_ok {step : Attempt α} {a : α} (ends : result step = .ok a) (next : α → Attempt β) :
    notes (step >>= next) = notes step ++ notes (next a) := by
  unfold notes result at *
  rw [ExceptT.run_bind, Noted.notes_bind, ends]

theorem notes_bind_error {step : Attempt α} {fault : Fault} (ends : result step = .error fault)
    (next : α → Attempt β) : notes (step >>= next) = notes step := by
  unfold notes result at *
  rw [ExceptT.run_bind, Noted.notes_bind, ends]
  exact Notes.append_empty _

/-- A step ends without a fault, and all it reports is allowed. -/
def Yields (allowed : Incident → Prop) (step : Attempt α) (a : α) : Prop :=
  result step = .ok a ∧ ∀ incident ∈ (notes step).incidents, allowed incident

variable {allowed : Incident → Prop}

@[simp] theorem yields_pure {a b : α} : Yields allowed (pure a) b ↔ a = b := by
  simp [Yields]

@[simp] theorem yields_lift {step : Noted α} {a : α} :
    Yields allowed (liftM step) a ↔ step.value = a ∧ Noted.Within allowed step := by
  simp [Yields, Noted.Within]

@[simp] theorem yields_of {outcome : Except Fault α} {a : α} :
    Yields allowed (Attempt.of outcome) a ↔ outcome = .ok a := by
  simp [Yields]

@[simp] theorem yields_bind {step : Attempt α} {next : α → Attempt β} {b : β} :
    Yields allowed (step >>= next) b ↔ ∃ a, Yields allowed step a ∧ Yields allowed (next a) b := by
  cases ends : result step with
  | error fault =>
    simp [Yields, result_bind, ends, Except.bind]
  | ok a =>
    simp only [Yields, result_bind, ends, Except.bind, notes_bind_ok ends, Notes.incidents_append,
      List.forall_mem_append, Except.ok.injEq]
    constructor
    · rintro ⟨last, first, second⟩
      exact ⟨a, ⟨rfl, first⟩, last, second⟩
    · rintro ⟨_, ⟨rfl, first⟩, last, second⟩
      exact ⟨last, first, second⟩

theorem yields_of_result {step : Attempt α} {a : α} (ends : result step = .ok a) : Yields (fun _ => True) step a :=
  ⟨ends, fun _ _ => trivial⟩

/-- A step ends in a fault exactly if names clash, that fault names one of them, and a result is as expected. -/
def Settles (step : Attempt α) (clash : Prop) (post : α → Prop) : Prop :=
  match result step with
  | .ok a => ¬ clash ∧ post a
  | .error (.duplicateInScope _) => clash
  | .error _ => False

namespace Settles

variable {step : Attempt α} {clash clash' : Prop} {post post' : α → Prop}

theorem of_ok {a : α} (ends : result step = .ok a) (clear : ¬ clash) (holds : post a) : Settles step clash post := by
  simp only [Settles, ends]
  exact ⟨clear, holds⟩

theorem result_ok (settles : Settles step clash post) (clear : ¬ clash) : ∃ a, result step = .ok a ∧ post a := by
  unfold Settles at settles
  split at settles
  case h_1 a ends => exact ⟨a, ends, settles.2⟩
  case h_2 name ends => exact (clear settles).elim
  case h_3 fault other ends => exact settles.elim

theorem result_error (settles : Settles step clash post) (clashes : clash) :
    ∃ name, result step = .error (.duplicateInScope name) := by
  unfold Settles at settles
  split at settles
  case h_1 a ends => exact (settles.1 clashes).elim
  case h_2 name ends => exact ⟨name, ends⟩
  case h_3 fault other ends => exact settles.elim

theorem weaken (settles : Settles step clash post) (weaker : ∀ a, post a → post' a) : Settles step clash post' := by
  unfold Settles at *
  split at settles
  · exact ⟨settles.1, weaker _ settles.2⟩
  · exact settles
  · exact settles

theorem congr (settles : Settles step clash post) (same : clash ↔ clash') : Settles step clash' post :=
  propext same ▸ settles

theorem bind {next : α → Attempt β} {later : Prop} {last : β → Prop} (first : Settles step clash post)
    (second : ∀ a, post a → Settles (next a) later last) : Settles (step >>= next) (clash ∨ later) last := by
  unfold Settles at first
  unfold Settles
  rw [result_bind]
  split at first
  case h_1 a ends =>
    rw [ends]
    exact (second a first.2).congr (or_iff_right first.1).symm
  case h_2 name ends =>
    rw [ends]
    exact .inl first
  case h_3 fault other ends => exact first.elim

/-- A step without a clash of its own may come first. -/
theorem after {next : α → Attempt β} {last : β → Prop} {a : α} (ends : result step = .ok a)
    (second : Settles (next a) clash last) : Settles (step >>= next) clash last := by
  unfold Settles
  rw [result_bind, ends]
  exact second

theorem bind_of_clear {next : α → Attempt β} {last : β → Prop} (first : Settles step False post)
    (second : ∀ a, post a → Settles (next a) clash last) : Settles (step >>= next) clash last :=
  (first.bind second).congr (or_iff_right not_false)

/-- A step without a clash of its own may come last. -/
theorem before {next : α → Attempt β} {last : β → Prop} (first : Settles step clash post)
    (second : ∀ a, post a → ∃ b, result (next a) = .ok b ∧ last b) : Settles (step >>= next) clash last := by
  have settles : ∀ a, post a → Settles (next a) False last := by
    intro a held
    obtain ⟨b, ends, holds⟩ := second a held
    exact of_ok ends not_false holds
  exact (first.bind settles).congr (or_iff_left not_false)

theorem map {f : α → β} {last : β → Prop} (first : Settles step clash post) (holds : ∀ a, post a → last (f a)) :
    Settles (step >>= fun a => Pure.pure (f a)) clash last :=
  first.before fun a held => ⟨f a, rfl, holds a held⟩

end Settles

end Attempt

namespace Analysis

variable {α β : Type}

/-- A step on a context does what an effect on what is in force says: it ends alike, notes the same, and unless it
ends in a fault leaves the same in force. -/
def Does (step : Analysis α) (effect : Env → Attempt (α × Env)) : Prop :=
  ∀ context : Context, ∃ after : Context,
    step.run context = ((effect context.env).result.map Prod.fst, after)
    ∧ after.notes = context.notes ++ (effect context.env).notes
    ∧ ∀ a env, (effect context.env).result = .ok (a, env) → after.env = env

theorem run_attempt (effect : Env → Attempt (α × Env)) (context : Context) :
    (Analysis.attempt effect).run context =
      match (effect context.env).result with
      | .ok (a, env) => (.ok a, ⟨env, context.notes ++ (effect context.env).notes⟩)
      | .error fault => (.error fault, { context with notes := context.notes ++ (effect context.env).notes }) :=
  rfl

theorem run_bind (step : Analysis α) (next : α → Analysis β) (context : Context) :
    (step >>= next).run context =
      match step.run context with
      | (.ok a, after) => (next a).run after
      | (.error fault, after) => (.error fault, after) := by
  change (ExceptT.bindCont next (step context).1 : StateM Context _) (step context).2 = _
  unfold run
  cases step context with
  | mk ends after => cases ends <;> rfl

theorem Does.attempt (effect : Env → Attempt (α × Env)) : Does (Analysis.attempt effect) effect := by
  intro context
  rw [run_attempt]
  cases (effect context.env).result with
  | ok outcome => exact ⟨_, rfl, rfl, by rintro a env ⟨⟩; rfl⟩
  | error fault => exact ⟨_, rfl, rfl, by rintro a env ⟨⟩⟩

theorem Does.pure (a : α) : Does (Pure.pure a) fun env => Pure.pure (a, env) := by
  intro context
  exact ⟨context, rfl, (Notes.append_empty _).symm, by rintro _ env ⟨⟩; rfl⟩

theorem Does.update (change : Env → Except Fault Env) :
    Does (Analysis.update change) fun env =>
      Attempt.of (change env) >>= fun changed => Pure.pure ((), changed) := by
  intro context
  cases changed : change context.env with
  | ok env =>
    refine ⟨{ context with env }, ?_, ?_, ?_⟩
    · simp [run, Analysis.update, changed, Attempt.result_bind, Except.bind, Except.map]
    · simp [changed, Attempt.notes_bind_ok (Attempt.result_of (.ok env))]
    · simp [changed, Attempt.result_bind, Except.bind]
  | error fault =>
    refine ⟨context, ?_, ?_, ?_⟩
    · simp [run, Analysis.update, changed, Attempt.result_bind, Except.bind, Except.map]
    · simp [changed, Attempt.notes_bind_error (Attempt.result_of (.error fault))]
    · simp [changed, Attempt.result_bind, Except.bind]

theorem Does.bind {step : Analysis α} {effect : Env → Attempt (α × Env)} {next : α → Analysis β}
    {continuation : α → Env → Attempt (β × Env)} (first : Does step effect)
    (second : ∀ a, Does (next a) (continuation a)) :
    Does (step >>= next) fun env => effect env >>= fun outcome => continuation outcome.1 outcome.2 := by
  intro context
  obtain ⟨middle, ran, noted, left⟩ := first context
  rw [run_bind, ran]
  cases ends : (effect context.env).result with
  | error fault =>
    refine ⟨middle, ?_, ?_, ?_⟩
    · simp [Attempt.result_bind, ends, Except.bind, Except.map]
    · rw [noted, Attempt.notes_bind_error ends]
    · simp [Attempt.result_bind, ends, Except.bind]
  | ok outcome =>
    obtain ⟨a, env⟩ := outcome
    obtain rfl := left a env ends
    obtain ⟨after, ran', noted', left'⟩ := second a middle
    refine ⟨after, ?_, ?_, ?_⟩
    · simpa [Attempt.result_bind, ends, Except.bind, Except.map] using ran'
    · rw [noted', noted, Attempt.notes_bind_ok ends, Notes.append_assoc]
    · simpa [Attempt.result_bind, ends, Except.bind] using left'

theorem Does.noted {step : Analysis α} {effect : Env → Attempt (α × Env)} (does : Does step effect)
    {context after : Context} {ends : Except Fault α} (ran : step.run context = (ends, after)) :
    after.notes = context.notes ++ (effect context.env).notes := by
  obtain ⟨other, same, noted, -⟩ := does context
  obtain ⟨-, rfl⟩ := Prod.mk.inj (same.symm.trans ran)
  exact noted

/-- A step that ended well shows what its effect gave. -/
theorem Does.yields {step : Analysis α} {effect : Env → Attempt (α × Env)} (does : Does step effect)
    {context after : Context} {a : α} (ran : step.run context = (.ok a, after)) {allowed : Incident → Prop}
    (within : ∀ incident ∈ after.incidents, allowed incident) :
    Attempt.Yields allowed (effect context.env) (a, after.env) := by
  obtain ⟨other, same, noted, left⟩ := does context
  obtain ⟨ends, rfl⟩ := Prod.mk.inj (same.symm.trans ran)
  cases outcome : (effect context.env).result with
  | error fault =>
    rw [outcome] at ends
    cases ends
  | ok pair =>
    rw [outcome] at ends
    obtain rfl : pair.1 = a := Except.ok.inj ends
    rw [left pair.1 pair.2 outcome]
    refine ⟨outcome, fun incident member => within incident ?_⟩
    rw [Context.incidents, noted, Notes.incidents_append]
    exact List.mem_append_right _ member

theorem Does.of_eq {step : Analysis α} {effect other : Env → Attempt (α × Env)} (does : Does step effect)
    (same : ∀ env, other env = effect env) : Does step other := by
  obtain rfl := funext same
  exact does

end Analysis

end ShaderCheck
