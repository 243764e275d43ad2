import PacedCalls.Proofs.Client.Fleet

set_option autoImplicit false

namespace PacedCalls.Fleet

/-- What may happen to a fleet; jobs are named by their places in the list. -/
inductive Deed (R U S V P : Type) where
  | begin (place : P) (client : Client R U S) (decode : Body.Reader V) (request : Request)
  | go (index : ℕ)
  | cancel (index : ℕ)
  | heed (signal : Rate.Signal R)
  | reserve
  | drift (user : U)
  | wait (later : ℕ)

variable {R T U S V P : Type} [Scalar R] [Transport T] [DecidableEq P]

def perform (fleet : Fleet R T U S V P) : Deed R U S V P → Option (Fleet R T U S V P)
  | .begin place client decode request =>
    some { fleet with jobs := fleet.jobs ++ [.call place client decode request] }
  | .go index =>
    match fleet.jobs[index]? with
    | none => none
    | some job =>
      match Job.process.move fleet.now job ((lane job.place).get fleet) with
      | .waits _ => none
      | .goes job' world _ =>
        some ((lane job.place).set world
          { fleet with jobs := fleet.jobs.take index ++ job' :: fleet.jobs.drop (index + 1) })
      | .ends _ world _ =>
        some ((lane job.place).set world
          { fleet with jobs := fleet.jobs.take index ++ fleet.jobs.drop (index + 1) })
  | .cancel index =>
    match fleet.jobs[index]? with
    | none => none
    | some job =>
      some ((lane job.place).set (Job.process.abandon job ((lane job.place).get fleet))
        { fleet with jobs := fleet.jobs.take index ++ fleet.jobs.drop (index + 1) })
  | .heed signal => some { fleet with governor := fleet.governor.heed signal }
  | .reserve => some { fleet with governor := (fleet.governor.reserve fleet.now).2 }
  | .drift user => some { fleet with user := user }
  | .wait later =>
    if fleet.now ≤ later ∧ fleet.jobs.all fun job =>
        job.idle fleet.now later ((lane job.place).get fleet) then
      some { fleet with now := later }
    else none

def play : List (Deed R U S V P) → Fleet R T U S V P → Option (Fleet R T U S V P)
  | [], fleet => some fleet
  | deed :: more, fleet => (fleet.perform deed).bind (play more)

omit [Scalar R] [Transport T] [DecidableEq P] in
theorem jobs_at {fleet : Fleet R T U S V P} {index : ℕ} {job : Job R U S V P}
    (h : fleet.jobs[index]? = some job) :
    fleet.jobs = fleet.jobs.take index ++ job :: fleet.jobs.drop (index + 1) := by
  obtain ⟨hlt, rfl⟩ := List.getElem?_eq_some_iff.mp h
  rw [← List.drop_eq_getElem_cons hlt, List.take_append_drop]

theorem step_of_perform {fleet fleet' : Fleet R T U S V P} {deed : Deed R U S V P}
    (h : fleet.perform deed = some fleet') : Step fleet fleet' := by
  cases deed with
  | begin place client decode request =>
    cases h
    exact .begin place client decode request
  | go index =>
    simp only [perform] at h
    split at h
    · cases h
    · next job here =>
      split at h
      · cases h
      · next moves =>
        cases h
        exact .move _ _ job _ _ _ (jobs_at here) moves
      · next moves =>
        cases h
        exact .finish _ _ job _ _ (jobs_at here) moves
  | cancel index =>
    simp only [perform] at h
    split at h
    · cases h
    · next job here =>
      cases h
      exact .cancel _ _ job (jobs_at here)
  | heed signal =>
    cases h
    exact .heed signal
  | reserve =>
    cases h
    exact .reserve
  | drift user =>
    cases h
    exact .drift user
  | wait later =>
    simp only [perform] at h
    split at h
    · next possible =>
      cases h
      exact .wait later possible.1 (List.all_eq_true.mp possible.2)
    · cases h

theorem reach_of_play {deeds : List (Deed R U S V P)} {fleet fleet' : Fleet R T U S V P}
    (h : play deeds fleet = some fleet') : Reach fleet fleet' := by
  induction deeds generalizing fleet with
  | nil =>
    cases h
    exact .refl
  | cons deed more ih =>
    obtain ⟨next, hp, hm⟩ := Option.bind_eq_some_iff.mp h
    exact .head (step_of_perform hp) (ih hm)

end PacedCalls.Fleet
