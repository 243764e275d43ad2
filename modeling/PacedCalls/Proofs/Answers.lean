import PacedCalls.Proofs.Client.Conclusions
import PacedCalls.Proofs.Parts

/-!
Work that comes to a value for certain: whenever it is looked at, and whatever others do to the
world in the meantime, it ends, and always with the same value. So do parts side by side, each of
which does, in whatever order they come to their ends.
-/

set_option autoImplicit false

namespace PacedCalls

section

variable {ν σ s t α β : Type}

/-- A move in the right direction, in a world of some kind: on to a state that is wanted, or to the
end with the value. Until some instant it may also wait, for one that is still to come. -/
def Move.Sure (kind : σ → Prop) (next : s → Prop) (a : α) (now limit : ℕ) : Move ν σ s α → Prop
  | .waits wake => ∃ moment, wake = some moment ∧ now < Instant.tick moment ∧
      Instant.tick moment ≤ limit
  | .goes st w _ => kind w ∧ next st
  | .ends b w _ => b = a ∧ kind w

namespace Process

/-- From a state a process comes to a value for certain, as long as others leave the world one of
some kind: whenever it is looked at, it moves towards it. -/
inductive Answers (p : Process ν σ s α) (kind : σ → Prop) (a : α) : s → Prop where
  | intro {st : s} (limit : ℕ) (next : s → Prop)
      (sure : ∀ now w, kind w → (p.move now st w).Sure kind next a now limit)
      (later : ∀ st', next st' → Answers p kind a st') : Answers p kind a st

variable {p : Process ν σ s α} {q : Process ν σ t β} {kind : σ → Prop} {st : s} {a : α}

theorem Answers.of_sure (limit : ℕ)
    (sure : ∀ now w, kind w → (p.move now st w).Sure kind (p.Answers kind a) a now limit) :
    p.Answers kind a st :=
  .intro limit _ sure fun _ h => h

theorem Wraps.answers {e : s → t} {f : α → β} (wraps : p.Wraps q e f)
    (answers : p.Answers kind a st) : q.Answers kind (f a) (e st) := by
  induction answers with
  | @intro st limit next sure _ ih =>
    refine .of_sure limit fun now w here => ?_
    have wrapped := wraps now st w
    have inner := sure now w here
    generalize p.move now st w = m at wrapped inner
    generalize q.move now (e st) w = m' at wrapped
    cases wrapped with
    | waits wake => exact inner
    | goes st' w' => exact ⟨inner.1, ih st' inner.2⟩
    | ends b w' => exact ⟨congrArg f inner.1, inner.2⟩

theorem Answers.map (answers : p.Answers kind a st) (f : α → β) :
    (p.map f).Answers kind (f a) st :=
  (wraps_map p f).answers answers

theorem Answers.of_idle {idle : s}
    (moves : ∀ now w, ∃ events, p.move now idle w = .goes st w events)
    (answers : p.Answers kind a st) : p.Answers kind a idle := by
  refine .of_sure 0 fun now w here => ?_
  obtain ⟨events, moved⟩ := moves now w
  rw [moved]
  exact ⟨here, answers⟩

/-- Where work stands that is looked at again and again: at the instants of some clock, and each
time after others have done something to the world. -/
def watched (p : Process ν σ s α) (clock : ℕ → ℕ) (others : ℕ → σ → σ) (st : s) (w : σ) :
    ℕ → (s ⊕ α) × σ
  | 0 => (.inl st, w)
  | n + 1 =>
    match watched p clock others st w n with
    | (.inr a, w) => (.inr a, others n w)
    | (.inl st, w) =>
      match p.move (clock n) st (others n w) with
      | .waits _ => (.inl st, others n w)
      | .goes st w _ => (.inl st, w)
      | .ends a w _ => (.inr a, w)

section

variable {clock : ℕ → ℕ} {others : ℕ → σ → σ} {st₀ : s} {w w₀ : σ} {n : ℕ}

theorem watched_succ (here : p.watched clock others st₀ w₀ n = (.inl st, w)) :
    p.watched clock others st₀ w₀ (n + 1) =
      match p.move (clock n) st (others n w) with
      | .waits _ => (.inl st, others n w)
      | .goes st w _ => (.inl st, w)
      | .ends a w _ => (.inr a, w) := by
  rw [watched, here]

theorem watched_waits {limit : ℕ} {next : s → Prop}
    (sure : ∀ now w, kind w → (p.move now st w).Sure kind next a now limit)
    (keeps : ∀ i w, kind w → kind (others i w)) (fits : kind w)
    (here : p.watched clock others st₀ w₀ n = (.inl st, w)) (k : ℕ) :
    (∃ w', kind w' ∧ p.watched clock others st₀ w₀ (n + k) = (.inl st, w')) ∨
      ∃ m, (∃ w', p.watched clock others st₀ w₀ m = (.inr a, w')) ∨
        ∃ st' w', next st' ∧ kind w' ∧ p.watched clock others st₀ w₀ m = (.inl st', w') := by
  induction k with
  | zero => exact .inl ⟨w, fits, here⟩
  | succ k ih =>
    obtain ⟨w', fits', stood⟩ | gone := ih
    · have moved := watched_succ stood
      have forward := sure (clock (n + k)) _ (keeps (n + k) w' fits')
      generalize p.move (clock (n + k)) st (others (n + k) w') = m at moved forward
      cases m with
      | waits wake => exact .inl ⟨_, keeps (n + k) w' fits', moved⟩
      | goes st' w'' events => exact .inr ⟨_, .inr ⟨st', w'', forward.2, forward.1, moved⟩⟩
      | ends b w'' events =>
        obtain ⟨rfl, -⟩ := forward
        exact .inr ⟨_, .inl ⟨w'', moved⟩⟩
    · exact .inr gone

theorem Answers.returns (answers : p.Answers kind a st)
    (onward : ∀ moment, ∃ i, ∀ j, i ≤ j → moment ≤ clock j)
    (keeps : ∀ i w, kind w → kind (others i w)) (fits : kind w)
    (here : p.watched clock others st₀ w₀ n = (.inl st, w)) :
    ∃ m w', p.watched clock others st₀ w₀ m = (.inr a, w') := by
  induction answers generalizing n w with
  | @intro st limit next sure _ ih =>
    obtain ⟨i, late⟩ := onward limit
    obtain ⟨w', fits', stood⟩ | ⟨m, ⟨w', ended⟩ | ⟨st', w', wanted, fits', went⟩⟩ :=
      watched_waits sure keeps fits here i
    · -- From then on it does not wait any more.
      have moved := watched_succ stood
      have forward := sure (clock (n + i)) _ (keeps (n + i) w' fits')
      generalize p.move (clock (n + i)) st (others (n + i) w') = m at moved forward
      cases m with
      | waits wake =>
        obtain ⟨moment, -, early, bounded⟩ := forward
        have := late (n + i) (by omega)
        omega
      | goes st' w'' events => exact ih st' forward.2 forward.1 moved
      | ends b w'' events =>
        obtain ⟨rfl, -⟩ := forward
        exact ⟨_, w'', moved⟩
    · exact ⟨m, w', ended⟩
    · exact ih st' wanted fits' went

end

theorem wraps_ended (p : Process ν σ s α) (a : α) : p.all.Wraps p.all (.inr a :: ·) (a :: ·) := by
  intro now parts w
  simp only [all, results?, moveFirst]
  cases results? parts with
  | some values => exact .ends values w [] []
  | none =>
    simp only [Option.map_none]
    cases moveFirst p now parts w with
    | waits wake => exact .waits wake
    | goes parts' w' events => exact .goes parts' w' events events
    | ends parts' w' events => exact .goes parts' w' events events

theorem all_of_waits {now : ℕ} {w : σ} {wake : Option ℕ} (h : p.move now st w = .waits wake)
    (rest : List (s ⊕ α)) :
    p.all.move now (.inl st :: rest) w =
      match p.all.move now rest w with
      | .waits wake' => .waits (earlier wake wake')
      | .goes rest' w' events => .goes (.inl st :: rest') w' events
      | .ends _ _ _ => .waits wake := by
  have alone : earlier wake none = wake := by cases wake <;> rfl
  simp only [all, results?, moveFirst, h]
  cases ended : results? rest with
  | some values =>
    have none (values : List α) :
        moveFirst p now (values.map .inr) w = .waits none := by
      induction values with
      | nil => rfl
      | cons a values ih => simp only [List.map_cons, moveFirst, ih, Move.lift]
    rw [results?_eq_some ended, none]
    simp only [alone]
  | none => cases moveFirst p now rest w <;> rfl

theorem Answers.beside {rest : List (s ⊕ α)} {values : List α} (first : p.Answers kind a st)
    (others : p.all.Answers kind values rest) :
    p.all.Answers kind (a :: values) (.inl st :: rest) := by
  induction first generalizing rest with
  | @intro st limit next sure later ih =>
    have mine : p.Answers kind a st := .intro limit next sure later
    induction others with
    | @intro rest limit' next' sure' later' ih' =>
      have theirs : p.all.Answers kind values rest := .intro limit' next' sure' later'
      refine .of_sure (max limit limit') fun now w here => ?_
      have forward := sure now w here
      cases moved : p.move now st w with
      | goes st' w' events =>
        rw [moved] at forward
        rw [show Sum.inl st :: rest = ([] : List α).map .inr ++ .inl st :: rest from rfl,
          all_goes_at moved]
        exact ⟨forward.1, ih st' forward.2 theirs⟩
      | ends b w' events =>
        rw [moved] at forward
        obtain ⟨rfl, fits⟩ := forward
        rw [show Sum.inl st :: rest = ([] : List α).map .inr ++ .inl st :: rest from rfl,
          all_ends_at moved]
        exact ⟨fits, (wraps_ended p b).answers theirs⟩
      | waits wake =>
        rw [moved] at forward
        obtain ⟨moment, rfl, early, bounded⟩ := forward
        have forward' := sure' now w here
        rw [all_of_waits moved]
        generalize p.all.move now rest w = m at forward' ⊢
        cases m with
        | goes rest' w' events => exact ⟨forward'.1, ih' rest' forward'.2⟩
        | ends values' w' events => exact ⟨moment, rfl, early, by omega⟩
        | waits wake' =>
          obtain ⟨moment', rfl, early', bounded'⟩ := forward'
          refine ⟨min moment moment', rfl, ?_⟩
          rcases le_total moment moment' with le | le
          · rw [min_eq_left le]
            omega
          · rw [min_eq_right le]
            omega

theorem answers_all {states : List s} {values : List α}
    (each : List.Forall₂ (fun st a => p.Answers kind a st) states values) :
    p.all.Answers kind values (states.map .inl) := by
  induction each with
  | nil => exact .of_sure 0 fun _ _ here => ⟨rfl, here⟩
  | cons first _ ih => exact first.beside ih

end Process

end

end PacedCalls
