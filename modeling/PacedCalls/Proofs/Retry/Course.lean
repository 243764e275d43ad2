import Mathlib.Data.List.Basic
import Mathlib.Logic.Relation
import Mathlib.Order.MinMax
import PacedCalls.Retry.Loop

/-!
The retry loop over work of which everything is known beforehand. What the loop does then is fixed
too: when each attempt begins, what is said after it, how long the pause is, which attempt is the
last one, and what is returned.
-/

set_option autoImplicit false

namespace PacedCalls

theorem Instant.le_after (now d : ℕ) : now ≤ after now d := by
  unfold after
  split <;> exact Nat.le_add_right _ _

theorem Instant.due_tick (moment : ℕ) : due moment (tick moment) = true := by
  rw [due, decide_eq_true_eq]

theorem Instant.not_due {moment now : ℕ} (early : now < tick moment) : due moment now = false := by
  rw [due, decide_eq_false_iff_not]
  exact Nat.not_le.mpr early

namespace Retry

def passing? {α : Type} : Except CallError α → Option TransportError
  | .error (.transient failure) => some failure
  | _ => none

theorem eq_of_passing {α : Type} {result : Except CallError α} {failure : TransportError}
    (h : passing? result = some failure) : result = .error (.transient failure) := by
  unfold passing? at h
  split at h <;> cases h
  rfl

def attemptNo (i : ℕ) : ℕ := min (i + 1) lastAttempt

theorem attemptNo_le (i : ℕ) : attemptNo i ≤ lastAttempt := min_le_right _ _

theorem attemptNo_pos (i : ℕ) : 1 ≤ attemptNo i := le_min (Nat.le_add_left 1 i) (by decide)

theorem attemptNo_succ (i : ℕ) : min (attemptNo i + 1) lastAttempt = attemptNo (i + 1) := by
  unfold attemptNo
  omega

theorem attemptNo_eq {i : ℕ} (h : i + 1 ≤ lastAttempt) : attemptNo i = i + 1 := min_eq_left h

/-- Work that is known beforehand: what comes of it each time, and how long it takes. -/
structure Recital (α : Type) where
  result : ℕ → Except CallError α
  takes : ℕ → ℕ

structure Course (R α : Type) where
  policy : Policy R
  target : String
  recital : Recital α
  since : ℕ

/-- A loop on its way: where it stands, when its work was begun, what was said when, and when it
began to wait, and until when. -/
structure Session (R α : Type) where
  now : ℕ
  phase : Phase (Option (ℕ × Except CallError α))
  starts : List ℕ := []
  said : List (ℕ × Event R) := []
  waits : List (ℕ × ℕ) := []

def Phase.count {s : Type} : Phase s → ℕ
  | .attempting n _ => n
  | .waiting n _ => n

def Phase.wake? {s : Type} : Phase s → Option ℕ
  | .attempting _ _ => none
  | .waiting _ wake => some wake

section

variable {R α : Type} [Scalar R]

omit [Scalar R] in
def Recital.work (r : Recital α) :
    Process (Event R) (List ℕ) (Option (ℕ × Except CallError α)) (Except CallError α) where
  move now st starts :=
    match st with
    | none =>
      .goes (some (Instant.after now (r.takes starts.length), r.result starts.length))
        (starts ++ [now]) []
    | some (due, result) =>
      if Instant.due due now then .ends result starts [] else .waits (some due)

omit [Scalar R] in
theorem Recital.move_ends {r : Recital α} {due now : ℕ} (h : Instant.due due now = true)
    (result : Except CallError α) (starts : List ℕ) :
    (r.work : Process (Event R) _ _ _).move now (some (due, result)) starts =
      .ends result starts [] := by
  simp only [Recital.work, h, if_true]

omit [Scalar R] in
theorem Recital.move_waits {r : Recital α} {due now : ℕ} (h : Instant.due due now = false)
    (result : Except CallError α) (starts : List ℕ) :
    (r.work : Process (Event R) _ _ _).move now (some (due, result)) starts =
      .waits (some due) := by
  simp only [Recital.work, h, Bool.false_eq_true, if_false]

section

variable {σ s : Type} {policy : Policy R} {target : String}
  {work : Process (Event R) σ s (Except CallError α)} {fresh st st' : s} {n now wake : ℕ} {w w' : σ}
  {events : List (Event R)} {result : Except CallError α} {failure : TransportError}

theorem loop_of_goes (h : work.move now st w = .goes st' w' events) :
    (loop policy target work fresh).move now (.attempting n st) w =
      .goes (.attempting n st') w' events := by
  simp only [loop, h]

theorem loop_of_waits (h : work.move now st w = .waits (some wake)) :
    (loop policy target work fresh).move now (.attempting n st) w = .waits (some wake) := by
  simp only [loop, h]

theorem loop_of_return {attempted : Except CallError α}
    (h : work.move now st w = .ends attempted w' events)
    (verdict : policy.verdict n attempted = .return result) :
    (loop policy target work fresh).move now (.attempting n st) w = .ends result w' events := by
  simp only [loop, h, verdict]

theorem loop_of_giveUp (h : work.move now st w = .ends result w' events)
    (verdict : policy.verdict n result = .giveUp failure) :
    (loop policy target work fresh).move now (.attempting n st) w =
      .ends (.error (.retryExhausted target n failure)) w'
        (events ++ [.retryGivesUp target n failure.text]) := by
  simp only [loop, h, verdict]

theorem loop_of_wait {d : ℕ} (h : work.move now st w = .ends result w' events)
    (verdict : policy.verdict n result = .wait d failure) :
    (loop policy target work fresh).move now (.attempting n st) w =
      .goes (.waiting n (Instant.after now d)) w'
        (events ++ [.retryWaits target n d failure.text]) := by
  simp only [loop, h, verdict]

theorem loop_of_due (h : Instant.due wake now = true) :
    (loop policy target work fresh).move now (.waiting n wake) w =
      .goes (.attempting (min (n + 1) lastAttempt) fresh) w [] := by
  simp only [loop, h, if_true]

theorem loop_of_not_due (h : Instant.due wake now = false) :
    (loop policy target work fresh).move now (.waiting n wake) w = .waits (some wake) := by
  simp only [loop, h, Bool.false_eq_true, if_false]

end

namespace Course

variable (c : Course R α)

def process :
    Process (Event R) (List ℕ) (Phase (Option (ℕ × Except CallError α))) (Except CallError α) :=
  loop c.policy c.target c.recital.work none

def move (x : Session R α) :
    Move (Event R) (List ℕ) (Phase (Option (ℕ × Except CallError α))) (Except CallError α) :=
  c.process.move x.now x.phase x.starts

def opening : Session R α := { now := c.since, phase := .start none }

/-- Left to itself, a loop moves, or sleeps until the timer wakes it. -/
inductive Step : Session R α → Session R α → Prop where
  | goes {x : Session R α} {phase : Phase (Option (ℕ × Except CallError α))} {starts : List ℕ}
      {events : List (Event R)}
      (moves : c.move x = .goes phase starts events) :
      Step x
        { now := x.now
          phase := phase
          starts := starts
          said := x.said ++ events.map (x.now, ·)
          waits := x.waits ++ (phase.wake?.map (x.now, ·)).toList }
  | sleeps {x : Session R α} {wake : ℕ}
      (waits : c.move x = .waits (some wake)) :
      Step x { x with now := Instant.tick wake }

def Reach : Session R α → Session R α → Prop := Relation.ReflTransGen c.Step

def pause (i : ℕ) : ℕ := c.policy.backoff.delay (attemptNo i - 1)

/-- When an attempt begins: the pause after the one before is rounded up to what the timer can
tell. -/
def begins : ℕ → ℕ
  | 0 => c.since
  | i + 1 =>
    Instant.tick
      (Instant.after (Instant.tick (Instant.after (begins i) (c.recital.takes i))) (c.pause i))

def done (i : ℕ) : ℕ := Instant.tick (Instant.after (c.begins i) (c.recital.takes i))

def starts (i : ℕ) : List ℕ := (List.range i).map c.begins

def warnings (i : ℕ) : List (ℕ × Event R) :=
  (List.range i).filterMap fun j => (passing? (c.recital.result j)).map fun failure =>
    (c.done j, .retryWaits c.target (attemptNo j) (c.pause j) failure.text)

def pauses (i : ℕ) : List (ℕ × ℕ) :=
  (List.range i).map fun j => (c.done j, Instant.after (c.done j) (c.pause j))

/-- The loop is through after attempt `i`: it came so far with one warning and one wait between
any two attempts, it ends here, and it could come to nothing else. -/
structure Settles (i : ℕ) (result : Except CallError α) (parting : List (Event R))
    (last : Session R α) : Prop where
  reach : c.Reach c.opening last
  ends : c.move last = .ends result last.starts parting
  now : last.now = c.done i
  starts : last.starts = c.starts (i + 1)
  said : last.said = c.warnings i
  waits : last.waits = c.pauses i
  only : ∀ x, c.Reach c.opening x → c.Reach x last

def ready (i : ℕ) : Session R α where
  now := c.begins i
  phase := .attempting (attemptNo i) none
  starts := c.starts i
  said := c.warnings i
  waits := c.pauses i

def busy (i now : ℕ) : Session R α where
  now := now
  phase := .attempting (attemptNo i)
    (some (Instant.after (c.begins i) (c.recital.takes i), c.recital.result i))
  starts := c.starts (i + 1)
  said := c.warnings i
  waits := c.pauses i

def resting (i now : ℕ) : Session R α where
  now := now
  phase := .waiting (attemptNo i) (Instant.after (c.done i) (c.pause i))
  starts := c.starts (i + 1)
  said := c.warnings (i + 1)
  waits := c.pauses (i + 1)

def GoesOn (i : ℕ) : Prop :=
  ∃ failure, c.policy.verdict (attemptNo i) (c.recital.result i) = .wait (c.pause i) failure ∧
    passing? (c.recital.result i) = some failure

variable {c} {x y z : Session R α} {i now : ℕ}

theorem begins_succ (i : ℕ) :
    c.begins (i + 1) = Instant.tick (Instant.after (c.done i) (c.pause i)) := rfl

theorem begins_le_done (i : ℕ) : c.begins i ≤ c.done i :=
  (Instant.le_after _ _).trans (Instant.le_tick _)

theorem done_le_begins (i : ℕ) : c.done i ≤ c.begins (i + 1) :=
  (Instant.le_after _ _).trans (Instant.le_tick _)

theorem starts_succ (i : ℕ) : c.starts (i + 1) = c.starts i ++ [c.begins i] := by
  simp [starts, List.range_succ]

@[simp]
theorem length_starts (i : ℕ) : (c.starts i).length = i := by simp [starts]

theorem pauses_succ (i : ℕ) :
    c.pauses (i + 1) = c.pauses i ++ [(c.done i, Instant.after (c.done i) (c.pause i))] := by
  simp [pauses, List.range_succ]

theorem warnings_succ {failure : TransportError}
    (h : passing? (c.recital.result i) = some failure) :
    c.warnings (i + 1) = c.warnings i ++
      [(c.done i, .retryWaits c.target (attemptNo i) (c.pause i) failure.text)] := by
  simp [warnings, List.range_succ, h]

theorem Step.unique (hy : c.Step x y) (hz : c.Step x z) : y = z := by
  cases hy with
  | goes moves =>
    cases hz with
    | goes moves' =>
      cases moves.symm.trans moves'
      rfl
    | sleeps waits => cases moves.symm.trans waits
  | sleeps waits =>
    cases hz with
    | goes moves => cases waits.symm.trans moves
    | sleeps waits' =>
      cases waits.symm.trans waits'
      rfl

section

variable {n wake : ℕ} {st st' : Option (ℕ × Except CallError α)} {starts starts' : List ℕ}
  {said : List (ℕ × Event R)} {waits : List (ℕ × ℕ)} {result : Except CallError α}
  {failure : TransportError}

theorem Step.begin (h : c.recital.work.move now st starts =
      (.goes st' starts' [] : Move (Event R) _ _ _)) :
    c.Step ⟨now, .attempting n st, starts, said, waits⟩
      ⟨now, .attempting n st', starts', said, waits⟩ := by
  have moves : c.move ⟨now, .attempting n st, starts, said, waits⟩ = _ := loop_of_goes h
  simpa [Phase.wake?] using Step.goes moves

theorem Step.work (h : c.recital.work.move now st starts =
      (.waits (some wake) : Move (Event R) _ _ _)) :
    c.Step ⟨now, .attempting n st, starts, said, waits⟩
      ⟨Instant.tick wake, .attempting n st, starts, said, waits⟩ :=
  Step.sleeps (x := ⟨now, .attempting n st, starts, said, waits⟩) (loop_of_waits h)

theorem Step.fail {d : ℕ} (h : c.recital.work.move now st starts =
      (.ends result starts [] : Move (Event R) _ _ _))
    (verdict : c.policy.verdict n result = .wait d failure) :
    c.Step ⟨now, .attempting n st, starts, said, waits⟩
      ⟨now, .waiting n (Instant.after now d), starts,
        said ++ [(now, .retryWaits c.target n d failure.text)],
        waits ++ [(now, Instant.after now d)]⟩ := by
  have moves : c.move ⟨now, .attempting n st, starts, said, waits⟩ = _ := loop_of_wait h verdict
  simpa [Phase.wake?] using Step.goes moves

theorem Step.rest (h : Instant.due wake now = false) :
    c.Step ⟨now, .waiting n wake, starts, said, waits⟩
      ⟨Instant.tick wake, .waiting n wake, starts, said, waits⟩ :=
  Step.sleeps (x := ⟨now, .waiting n wake, starts, said, waits⟩) (loop_of_not_due h)

theorem Step.again (h : Instant.due wake now = true) :
    c.Step ⟨now, .waiting n wake, starts, said, waits⟩
      ⟨now, .attempting (min (n + 1) lastAttempt) none, starts, said, waits⟩ := by
  have moves : c.move ⟨now, .waiting n wake, starts, said, waits⟩ = _ := loop_of_due h
  simpa [Phase.wake?] using Step.goes moves

theorem move_return {attempted : Except CallError α}
    (h : c.recital.work.move now st starts =
      (.ends attempted starts [] : Move (Event R) _ _ _))
    (verdict : c.policy.verdict n attempted = .return result) :
    c.move ⟨now, .attempting n st, starts, said, waits⟩ = .ends result starts [] :=
  loop_of_return h verdict

theorem move_giveUp (h : c.recital.work.move now st starts =
      (.ends result starts [] : Move (Event R) _ _ _))
    (verdict : c.policy.verdict n result = .giveUp failure) :
    c.move ⟨now, .attempting n st, starts, said, waits⟩ =
      .ends (.error (.retryExhausted c.target n failure)) starts
        [.retryGivesUp c.target n failure.text] :=
  loop_of_giveUp h verdict

end

theorem due_done (i : ℕ) :
    Instant.due (Instant.after (c.begins i) (c.recital.takes i)) (c.done i) = true := by
  rw [done, Instant.due_tick]

theorem due_begins (i : ℕ) :
    Instant.due (Instant.after (c.done i) (c.pause i)) (c.begins (i + 1)) = true := by
  rw [begins_succ, Instant.due_tick]

theorem step_ready (i : ℕ) : c.Step (c.ready i) (c.busy i (c.begins i)) := by
  rw [busy, starts_succ]
  refine Step.begin ?_
  simp only [Recital.work, length_starts]

theorem step_busy (early : now < c.done i) : c.Step (c.busy i now) (c.busy i (c.done i)) := by
  rw [done] at early
  rw [busy, busy, done]
  exact Step.work (Recital.move_waits (Instant.not_due early) _ _)

theorem step_rest (on : c.GoesOn i) : c.Step (c.busy i (c.done i)) (c.resting i (c.done i)) := by
  obtain ⟨failure, verdict, passing⟩ := on
  rw [busy, resting, warnings_succ passing, pauses_succ]
  exact Step.fail (Recital.move_ends (due_done i) _ _) verdict

theorem step_resting (early : now < c.begins (i + 1)) :
    c.Step (c.resting i now) (c.resting i (c.begins (i + 1))) := by
  rw [begins_succ] at early
  rw [resting, resting, begins_succ]
  exact Step.rest (Instant.not_due early)

theorem step_again (i : ℕ) : c.Step (c.resting i (c.begins (i + 1))) (c.ready (i + 1)) := by
  rw [resting, ready, ← attemptNo_succ]
  exact Step.again (due_begins i)

inductive Stage (c : Course R α) : Session R α → Prop where
  | ready (i : ℕ) (on : ∀ j < i, c.GoesOn j) : Stage c (c.ready i)
  | busy (i : ℕ) {now : ℕ} (on : ∀ j < i, c.GoesOn j) (h : now ≤ c.done i) : Stage c (c.busy i now)
  | resting (i : ℕ) {now : ℕ} (on : ∀ j < i + 1, c.GoesOn j) (h : now ≤ c.begins (i + 1)) :
      Stage c (c.resting i now)

theorem not_step_of_ends {result : Except CallError α} {starts : List ℕ} {events : List (Event R)}
    (ends : c.move x = .ends result starts events) : ¬c.Step x y := by
  intro step
  cases step with
  | goes moves => cases ends.symm.trans moves
  | sleeps waits => cases ends.symm.trans waits

theorem ends_return {result : Except CallError α}
    (verdict : c.policy.verdict (attemptNo i) (c.recital.result i) = .return result) :
    c.move (c.busy i (c.done i)) = .ends result (c.starts (i + 1)) [] := by
  rw [busy]
  exact move_return (Recital.move_ends (due_done i) _ _) verdict

theorem ends_giveUp {failure : TransportError}
    (verdict : c.policy.verdict (attemptNo i) (c.recital.result i) = .giveUp failure) :
    c.move (c.busy i (c.done i)) =
      .ends (.error (.retryExhausted c.target (attemptNo i) failure)) (c.starts (i + 1))
        [.retryGivesUp c.target (attemptNo i) failure.text] := by
  rw [busy]
  exact move_giveUp (Recital.move_ends (due_done i) _ _) verdict

theorem verdict_settled (n : ℕ) {result : Except CallError α} (settled : passing? result = none) :
    c.policy.verdict n result = .return result := by
  unfold Policy.verdict
  split
  · cases settled
  · rfl

theorem goesOn {failure : TransportError} (enabled : c.policy.enabled = true)
    (passing : passing? (c.recital.result i) = some failure)
    (more : ∀ most ∈ c.policy.maxAttempts, attemptNo i < most) : c.GoesOn i := by
  have unspent : c.policy.maxAttempts.any (· ≤ attemptNo i) = false := by
    rw [Option.any_eq_false_iff_get]
    intro h
    exact decide_eq_false (Nat.not_le.mpr (more _ (Option.get_mem h)))
  refine ⟨failure, ?_, passing⟩
  simp [eq_of_passing passing, Policy.verdict, enabled, unspent, pause]

theorem verdict_spent {failure : TransportError} {most : ℕ} (enabled : c.policy.enabled = true)
    (passing : passing? (c.recital.result i) = some failure) (limit : most ∈ c.policy.maxAttempts)
    (spent : most ≤ attemptNo i) :
    c.policy.verdict (attemptNo i) (c.recital.result i) = .giveUp failure := by
  simp [eq_of_passing passing, Policy.verdict, enabled, Option.mem_def.mp limit, spent]

theorem verdict_cases (c : Course R α) (i : ℕ) :
    c.GoesOn i ∨
    (∃ result, c.policy.verdict (attemptNo i) (c.recital.result i) = .return result) ∨
    ∃ failure, c.policy.verdict (attemptNo i) (c.recital.result i) = .giveUp failure := by
  rcases passing : passing? (c.recital.result i) with - | failure
  · exact .inr (.inl ⟨_, verdict_settled _ passing⟩)
  · cases enabled : c.policy.enabled with
    | false => exact .inr (.inl ⟨_, Policy.verdict_disabled enabled _ _⟩)
    | true =>
      by_cases more : ∀ most ∈ c.policy.maxAttempts, attemptNo i < most
      · exact .inl (goesOn enabled passing more)
      · push Not at more
        obtain ⟨most, limit, spent⟩ := more
        exact .inr (.inr ⟨failure, verdict_spent enabled passing limit spent⟩)

theorem goesOn_succ (before : ∀ j < i, c.GoesOn j) (on : c.GoesOn i) : ∀ j < i + 1, c.GoesOn j :=
  fun j hj => (Nat.lt_succ_iff_lt_or_eq.mp hj).elim (before j) fun eq => eq ▸ on

theorem Stage.step (stage : c.Stage x) (step : c.Step x y) : c.Stage y := by
  cases stage with
  | ready i before =>
    rw [step.unique (step_ready i)]
    exact .busy i before (begins_le_done i)
  | busy i before h =>
    rcases h.lt_or_eq with early | rfl
    · rw [step.unique (step_busy early)]
      exact .busy i before le_rfl
    · obtain on | ⟨result, verdict⟩ | ⟨failure, verdict⟩ := c.verdict_cases i
      · rw [step.unique (step_rest on)]
        exact .resting i (goesOn_succ before on) (done_le_begins i)
      · exact absurd step (not_step_of_ends (ends_return verdict))
      · exact absurd step (not_step_of_ends (ends_giveUp verdict))
  | resting i before h =>
    rcases h.lt_or_eq with early | rfl
    · rw [step.unique (step_resting early)]
      exact .resting i before le_rfl
    · rw [step.unique (step_again i)]
      exact .ready (i + 1) before

theorem opening_eq (c : Course R α) : c.opening = c.ready 0 := rfl

theorem Reach.stage (reach : c.Reach c.opening x) : c.Stage x := by
  induction reach with
  | refl => exact c.opening_eq ▸ .ready 0 nofun
  | tail _ step ih => exact ih.step step

theorem reach_done (i : ℕ) : c.Reach (c.ready i) (c.busy i (c.done i)) := by
  have begun : c.Reach (c.ready i) (c.busy i (c.begins i)) := .single (step_ready i)
  rcases (begins_le_done (c := c) i).lt_or_eq with early | eq
  · exact begun.tail (step_busy early)
  · exact eq ▸ begun

theorem reach_next (on : c.GoesOn i) : c.Reach (c.ready i) (c.ready (i + 1)) := by
  have rested : c.Reach (c.ready i) (c.resting i (c.done i)) := (reach_done i).tail (step_rest on)
  rcases (done_le_begins (c := c) i).lt_or_eq with early | eq
  · exact (rested.tail (step_resting early)).tail (step_again i)
  · rw [eq] at rested
    exact rested.tail (step_again i)

theorem reach_ready (on : ∀ j < i, c.GoesOn j) : c.Reach c.opening (c.ready i) := by
  induction i with
  | zero => exact .refl
  | succ i ih =>
    exact (ih fun j hj => on j (hj.trans i.lt_succ_self)).trans (reach_next (on i i.lt_succ_self))

theorem exists_settles {result : Except CallError α} {parting : List (Event R)}
    (on : ∀ j < i, c.GoesOn j)
    (ends : c.move (c.busy i (c.done i)) =
      .ends result (c.starts (i + 1)) parting) :
    ∃ last, c.Settles i result parting last := by
  have reach : c.Reach c.opening (c.busy i (c.done i)) := (reach_ready on).trans (reach_done i)
  refine ⟨c.busy i (c.done i), reach, ends, rfl, rfl, rfl, rfl, fun x way => ?_⟩
  -- There is one way on at a time, so whatever else is reached lies on this way or beyond its end.
  have unique : Relator.RightUnique c.Step := fun _ _ _ => Step.unique
  obtain onward | back := Relation.ReflTransGen.total_of_right_unique unique way reach
  · exact onward
  · obtain rfl | ⟨y, step, -⟩ := back.cases_head
    · exact .refl
    · exact absurd step (not_step_of_ends ends)

/-- What a loop does, from what is known beforehand of its work. Attempts are counted from zero
here, so that attempt `i` is the last of `i + 1`. -/
structure Specified (c : Course R α) : Prop where
  disabled : c.policy.enabled = false → ∃ last, c.Settles 0 (c.recital.result 0) [] last
  returns : c.policy.enabled = true → ∀ k, passing? (c.recital.result k) = none →
    (∀ i < k, (passing? (c.recital.result i)).isSome) →
    (∀ most ∈ c.policy.maxAttempts, k + 1 ≤ max most 1) →
    ∃ last, c.Settles k (c.recital.result k) [] last
  givesUp : c.policy.enabled = true → ∀ most ∈ c.policy.maxAttempts,
    (∀ i < max most 1, (passing? (c.recital.result i)).isSome) →
    ∃ failure last, c.recital.result (max most 1 - 1) = .error (.transient failure) ∧
      c.Settles (max most 1 - 1) (.error (.retryExhausted c.target (max most 1) failure))
        [.retryGivesUp c.target (max most 1) failure.text] last
  forever : c.policy.enabled = true → c.policy.maxAttempts = none →
    (∀ i, (passing? (c.recital.result i)).isSome) →
    (∀ n, ∃ x, c.Reach c.opening x ∧ x.starts.length = n) ∧
      ∀ x, c.Reach c.opening x → ∃ y, c.Step x y
  /-- At any time so many attempts have begun, and all but perhaps the last one have been warned of
  and were followed by one wait. -/
  logs : ∀ x, c.Reach c.opening x → ∃ i j, (i = j ∨ i = j + 1) ∧
    x.starts = c.starts i ∧ x.said = c.warnings j ∧ x.waits = c.pauses j ∧
      ∀ k < j, (passing? (c.recital.result k)).isSome
  numbers : ∀ x, c.Reach c.opening x → 1 ≤ x.phase.count ∧ x.phase.count ≤ lastAttempt
  fits : ∀ i, (c.done i + c.pause i) / Duration.second < 9223372036854775808 →
    c.begins (i + 1) = Instant.tick (c.done i + c.pause i)

theorem Stage.count (stage : c.Stage x) : ∃ i, x.phase.count = attemptNo i := by
  cases stage with
  | ready i => exact ⟨i, rfl⟩
  | busy i => exact ⟨i, rfl⟩
  | resting i => exact ⟨i, rfl⟩

theorem GoesOn.isSome (on : c.GoesOn i) : (passing? (c.recital.result i)).isSome := by
  obtain ⟨failure, -, passing⟩ := on
  rw [passing]
  rfl

theorem Stage.logs (stage : c.Stage x) : ∃ i j, (i = j ∨ i = j + 1) ∧
    x.starts = c.starts i ∧ x.said = c.warnings j ∧ x.waits = c.pauses j ∧
      ∀ k < j, (passing? (c.recital.result k)).isSome := by
  cases stage with
  | ready i on => exact ⟨i, i, .inl rfl, rfl, rfl, rfl, fun k hk => (on k hk).isSome⟩
  | busy i on => exact ⟨i + 1, i, .inr rfl, rfl, rfl, rfl, fun k hk => (on k hk).isSome⟩
  | resting i on => exact ⟨i + 1, i + 1, .inl rfl, rfl, rfl, rfl, fun k hk => (on k hk).isSome⟩

theorem goesOn_of_lt (enabled : c.policy.enabled = true)
    (passing : (passing? (c.recital.result i)).isSome)
    (limit : ∀ most ∈ c.policy.maxAttempts, i + 1 < max most 1) : c.GoesOn i := by
  obtain ⟨failure, passing⟩ := Option.isSome_iff_exists.mp passing
  refine goesOn enabled passing fun most mem => (min_le_left _ _).trans_lt ?_
  have lt := limit most mem
  omega

/-- The loop does what is expected, whatever its work comes to; limits are numbers of attempts that
can be counted. -/
theorem specified (c : Course R α) (countable : ∀ most ∈ c.policy.maxAttempts, most ≤ lastAttempt) :
    c.Specified where
  disabled disabled := exists_settles nofun (ends_return (Policy.verdict_disabled disabled _ _))
  returns enabled k settled before limit := by
    refine exists_settles (fun j hj => ?_) (ends_return (verdict_settled _ settled))
    exact goesOn_of_lt enabled (before j hj) fun most mem =>
      (Nat.succ_lt_succ hj).trans_le (limit most mem)
  givesUp enabled most limit failing := by
    have pos : 0 < max most 1 := Nat.le_max_right most 1
    obtain ⟨i, eq⟩ : ∃ i, max most 1 = i + 1 := Nat.exists_eq_add_one.mpr pos
    -- Below the limit the number of an attempt does not stop to count.
    have counted : attemptNo i = i + 1 :=
      attemptNo_eq (eq ▸ max_le (countable most limit) (by decide))
    rw [eq] at failing ⊢
    obtain ⟨failure, passing⟩ := Option.isSome_iff_exists.mp (failing i i.lt_succ_self)
    have spent : most ≤ attemptNo i := by
      rw [counted, ← eq]
      exact le_max_left _ _
    have ends := ends_giveUp (verdict_spent enabled passing limit spent)
    rw [counted] at ends
    obtain ⟨last, settles⟩ := exists_settles (fun j hj => goesOn_of_lt enabled
      (failing j (hj.trans i.lt_succ_self)) fun other mem => by
        rw [Option.mem_unique mem limit, eq]
        exact Nat.succ_lt_succ hj) ends
    exact ⟨failure, last, eq_of_passing passing, settles⟩
  forever enabled unlimited failing := by
    have on (i : ℕ) : c.GoesOn i :=
      goesOn_of_lt enabled (failing i) fun most mem => by rw [unlimited] at mem; cases mem
    refine ⟨fun n => ⟨c.ready n, reach_ready fun j _ => on j, length_starts n⟩, fun x reach => ?_⟩
    cases reach.stage with
    | ready i => exact ⟨_, step_ready i⟩
    | busy i _ h =>
      rcases h.lt_or_eq with early | rfl
      · exact ⟨_, step_busy early⟩
      · exact ⟨_, step_rest (on i)⟩
    | resting i _ h =>
      rcases h.lt_or_eq with early | rfl
      · exact ⟨_, step_resting early⟩
      · exact ⟨_, step_again i⟩
  logs _ reach := reach.stage.logs
  numbers _ reach := by
    obtain ⟨i, count⟩ := reach.stage.count
    exact count ▸ ⟨attemptNo_pos i, attemptNo_le i⟩
  fits i fits := by rw [begins_succ, Instant.after, if_pos fits]

end Course

end

/-- Two failures, and then a result; at most three attempts, a little over five milliseconds
apart. -/
def thirdTime : Course Float ℕ where
  policy := { backoff := .constant 5000001, maxAttempts := some 3 }
  target := "users"
  recital :=
    { result := fun i => if i < 2 then .error (.transient (.connectionReset "by peer")) else .ok i
      takes := fun _ => Duration.ofMillis 2 }
  since := 0

theorem Course.specified_thirdTime :
    thirdTime.Specified ∧ (∃ last, thirdTime.Settles 2 (.ok 2) [] last) ∧
      thirdTime.starts 3 = [0, 8000000, 16000000] ∧
      thirdTime.pauses 2 = [(2000000, 7000001), (10000000, 15000001)] ∧
      thirdTime.warnings 2 =
        [(2000000, .retryWaits "users" 1 5000001 "Connection reset: by peer"),
          (10000000, .retryWaits "users" 2 5000001 "Connection reset: by peer")] := by
  have spec : thirdTime.Specified := specified thirdTime (by decide)
  refine ⟨spec, spec.returns rfl 2 rfl (by decide) (by decide), by decide +kernel,
    by decide +kernel, by rfl⟩

end Retry

end PacedCalls
