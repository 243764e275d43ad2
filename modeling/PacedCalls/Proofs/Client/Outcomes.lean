import PacedCalls.Proofs.Client.Meaning

set_option autoImplicit false

namespace PacedCalls

namespace Outcome

inductive Built : {α : Type} → Outcome α → Prop where
  | success {α : Type} (a : α) : Built (success a)
  | absent {α : Type} : Built (absent : Outcome α)
  | notNeeded {α : Type} (message : String) : Built (notNeeded message : Outcome α)
  | failure {α : Type} {status : Status} {message : String} {o : Outcome α}
    (made : failure status message = .ok o) : Built o
  | fatal {α : Type} (message : String) (cause : Cause) : Built (fatal message cause : Outcome α)
  | answered {α : Type} {response : Response} {request : Request} {decode : Body.Reader α}
    {o : Outcome α} (read : response.toOutcome request decode = .ok o) : Built o
  | raised {α : Type} {e : TransportError} {request : Request} {o : Outcome α}
    (read : e.toOutcome? request = some o) : Built o
  | returned {R T U S α : Type} [Scalar R] [Transport T] {client : Client R U S}
    {decode : Body.Reader α} {now : ℕ} {call : Call R U S} {lane lane' : Lane R T U}
    {events : List (Event R)} {o : Outcome α}
    (ends : (client.call decode).move now call lane = .ends (.ok o) lane' events) : Built o
  | map {α β : Type} {o : Outcome α} (built : Built o) (f : α → β) : Built (o.map f)
  | discard {α : Type} {o : Outcome α} (built : Built o) : Built o.discard
  | withCause {α : Type} {o : Outcome α} (built : Built o) (cause : Cause) :
    Built (o.withCause cause)

/-- Made by hand as a failure without saying why, and never told a cause since. -/
inductive Bare : {α : Type} → Outcome α → Prop where
  | failure {α : Type} {message : String} {o : Outcome α}
    (made : failure .fatalError message = .ok o) : Bare o
  | map {α β : Type} {o : Outcome α} (bare : Bare o) (f : α → β) : Bare (o.map f)
  | discard {α : Type} {o : Outcome α} (bare : Bare o) : Bare o.discard

variable {α β : Type} {o : Outcome α}

/-- Something is returned by a success only, and all else is explained. -/
structure Sound (o : Outcome α) : Prop where
  entity : o.entity.isSome = true → o.status = .success
  errors : o.errors.isSome = true ↔ o.status ≠ .success

theorem sound_success (a : α) : (success a).Sound := ⟨fun _ => rfl, by simp [success]⟩

theorem sound_absent : (absent : Outcome α).Sound := ⟨nofun, by simp [absent]⟩

theorem sound_failed {status : Status} (failed : status ≠ .success) (message : String) :
    (Outcome.failed status message : Outcome α).Sound :=
  ⟨nofun, by simp [Outcome.failed, failed]⟩

theorem failure_eq_ok {status : Status} {message : String} :
    failure status message = .ok o ↔ status.isOk = false ∧ o = .failed status message := by
  cases ok : status.isOk <;> simp [failure, ok, eq_comm]

theorem Sound.withCause (sound : o.Sound) (cause : Cause) : (o.withCause cause).Sound :=
  ⟨sound.entity, sound.errors⟩

theorem Sound.map (sound : o.Sound) (f : α → β) : (o.map f).Sound where
  entity some := sound.entity (by simpa [Outcome.map] using some)
  errors := sound.errors

def Explained (o : Outcome α) : Prop := o.status = .fatalError → o.cause.isSome = true

theorem bare_status (bare : o.Bare) : o.status = .fatalError ∧ o.cause = none := by
  induction bare with
  | failure made =>
    obtain ⟨-, rfl⟩ := failure_eq_ok.mp made
    exact ⟨rfl, rfl⟩
  | map _ f ih => exact ih
  | discard _ ih => exact ih

end Outcome

open Outcome (Sound Explained)

variable {α : Type} {request : Request} {decode : Body.Reader α} {o : Outcome α}

theorem Response.toOutcome_cases {response : Response}
    (read : response.toOutcome request decode = .ok o) :
    (∃ a, decode response = .ok a ∧ o = .success a) ∨
      ∃ message, response.callStatus ≠ .success ∧ o = .failed response.callStatus message := by
  simp only [toOutcome] at read
  split at read
  · split at read
    · next decoded =>
      cases read
      exact .inl ⟨_, decoded, rfl⟩
    · cases read
  · next status =>
    cases read
    exact .inr ⟨_, by simp [status], by rw [status]⟩
  · next status =>
    cases read
    exact .inr ⟨_, by simp [status], by rw [status]⟩
  · next other _ _ =>
    cases read
    exact .inr ⟨_, other, rfl⟩

theorem Response.callStatus_ne_fatalError (response : Response) :
    response.callStatus ≠ .fatalError := by
  obtain ⟨status, -⟩ | ⟨status, -⟩ | ⟨status | status | status, -⟩ := response.callStatus_cases <;>
    simp [status]

theorem Response.sound_toOutcome {response : Response}
    (read : response.toOutcome request decode = .ok o) : o.Sound ∧ o.Explained := by
  obtain ⟨a, -, rfl⟩ | ⟨message, failed, rfl⟩ := toOutcome_cases read
  · exact ⟨Outcome.sound_success a, nofun⟩
  · exact ⟨Outcome.sound_failed failed message,
      fun fatal => absurd fatal response.callStatus_ne_fatalError⟩

theorem TransportError.sound_toOutcome? {e : TransportError}
    (read : e.toOutcome? request = some o) : o.Sound ∧ o.Explained := by
  have other {status : Status} (failed : status ≠ .success) (alive : status ≠ .fatalError)
      (message : String) : (Outcome.failed status message : Outcome α).Sound ∧
        (Outcome.failed status message : Outcome α).Explained :=
    ⟨Outcome.sound_failed failed message, fun fatal => absurd fatal alive⟩
  cases e with
  | serviceUnavailable | internalServerError | connectionReset => cases read
  | aborted m =>
    cases read
    exact other (by decide) (by decide) _
  | notFound m =>
    simp only [toOutcome?] at read
    split at read
    · cases read
      exact ⟨Outcome.sound_absent, fun fatal => by cases fatal⟩
    · cases read
      exact other (by decide) (by decide) _
  | io m cause =>
    cases read
    exact ⟨(Outcome.sound_failed (by decide) _).withCause cause, fun _ => rfl⟩
  | request m cause =>
    cases read
    exact ⟨(Outcome.sound_failed (by decide) _).withCause cause, fun _ => rfl⟩

theorem Client.sound_call {R T U S : Type} [Scalar R] [Transport T] {client : Client R U S}
    {now : ℕ} {call : Call R U S} {lane lane' : Lane R T U} {events : List (Event R)}
    (ends : (client.call decode).move now call lane = .ends (.ok o) lane' events) :
    o.Sound ∧ o.Explained := by
  obtain ⟨_, exchange, -, -, meant | ⟨_, -, exhausted⟩⟩ := call_ends_cases ends
  · cases exchange with
    | ok response => exact response.sound_toOutcome meant.symm
    | error e =>
      simp only [resultOf] at meant
      split at meant
      · next read =>
        cases meant
        exact e.sound_toOutcome? read
      · cases meant
  · cases exhausted

namespace Outcome

theorem Built.sound (built : o.Built) : o.Sound := by
  induction built with
  | success a => exact sound_success a
  | absent => exact sound_absent
  | notNeeded message => exact sound_failed (by decide) message
  | failure made =>
    obtain ⟨failed, rfl⟩ := failure_eq_ok.mp made
    exact sound_failed (by rintro rfl; cases failed) _
  | fatal message cause => exact (sound_failed (by decide) message).withCause cause
  | answered read => exact (Response.sound_toOutcome read).1
  | raised read => exact (TransportError.sound_toOutcome? read).1
  | returned ends => exact (Client.sound_call ends).1
  | map _ f ih => exact ih.map f
  | discard _ ih => exact ih.map _
  | withCause _ cause ih => exact ih.withCause cause

theorem Built.explained_or_bare (built : o.Built) : o.Explained ∨ o.Bare := by
  induction built with
  | success | absent | notNeeded => exact .inl nofun
  | @failure α status message o made =>
    by_cases fatal : status = .fatalError
    · subst fatal
      exact .inr (.failure made)
    · obtain ⟨-, rfl⟩ := failure_eq_ok.mp made
      exact .inl fun same => absurd same fatal
  | fatal message cause => exact .inl fun _ => rfl
  | answered read => exact .inl (Response.sound_toOutcome read).2
  | raised read => exact .inl (TransportError.sound_toOutcome? read).2
  | returned ends => exact .inl (Client.sound_call ends).2
  | map _ f ih => exact ih.imp id (.map · f)
  | discard _ ih => exact ih.imp id .discard
  | withCause _ cause => exact .inl fun _ => rfl

/-- However an outcome was made, it returns something only as a success, and it is explained exactly
if it is none. A fatal error has its cause, unless it was made as a failure by hand. -/
theorem invariants_of_built (built : o.Built) :
    (o.entity.isSome = true → o.status = .success) ∧
    (o.errors.isSome = true ↔ o.status ≠ .success) ∧
    (o.status = .fatalError ∧ o.cause = none ↔ o.Bare) := by
  refine ⟨built.sound.entity, built.sound.errors, ?_, bare_status⟩
  rintro ⟨fatal, uncaused⟩
  rcases built.explained_or_bare with explained | bare
  · have caused := explained fatal
    rw [uncaused] at caused
    cases caused
  · exact bare

/-- A failure that is fatal, read by a caller that expects a number. -/
def unsent : Outcome ℕ := (failed .fatalError "cannot send" : Outcome Unit).map fun _ => 3

theorem invariants_of_built_unsent :
    unsent.Built ∧ (unsent.withCause "no route").Built ∧
      (unsent.errors.isSome = true ↔ unsent.status ≠ .success) ∧
      ((unsent.withCause "no route").status = .fatalError ∧
          (unsent.withCause "no route").cause = none ↔ (unsent.withCause "no route").Bare) ∧
      unsent.Bare := by
  have made : (failure .fatalError "cannot send" : Except NotAFailure (Outcome Unit)) =
      .ok (failed .fatalError "cannot send") := rfl
  have built : unsent.Built := .map (.failure made) _
  have told : (unsent.withCause "no route").Built := built.withCause _
  exact ⟨built, told, (invariants_of_built built).2.1, (invariants_of_built told).2.2,
    (invariants_of_built built).2.2.mp ⟨rfl, rfl⟩⟩

/-- Not every fatal error has a cause. -/
theorem fatal_without_cause :
    ¬ ∀ (α : Type) (o : Outcome α), o.Built →
      (o.entity.isSome = true → o.status = .success) ∧
      (o.errors.isSome = true ↔ o.status ≠ .success) ∧
      (o.status = .fatalError → o.cause.isSome = true) := by
  intro claim
  have made : (failure .fatalError "cannot send" : Except NotAFailure (Outcome Unit)) =
      .ok (failed .fatalError "cannot send") := rfl
  have caused := (claim Unit _ (.failure made)).2.2 rfl
  cases caused

end Outcome

end PacedCalls
