import PacedCalls.Process

set_option autoImplicit false

namespace PacedCalls.Process

variable {ν σ τ s t α β : Type}

theorem lift_goes {m : Move ν σ s α} {state : s → t} {value : α → β} {world : σ → τ} {st' : t}
    {w' : τ} {events : List ν} (h : m.lift state value world = .goes st' w' events) :
    ∃ st w, m = .goes st w events ∧ state st = st' ∧ world w = w' := by
  cases m with
  | waits wake => cases h
  | goes st w more =>
    cases h
    exact ⟨st, w, rfl, rfl, rfl⟩
  | ends a w more => cases h

theorem lift_ends {m : Move ν σ s α} {state : s → t} {value : α → β} {world : σ → τ} {b : β}
    {w' : τ} {events : List ν} (h : m.lift state value world = .ends b w' events) :
    ∃ a w, m = .ends a w events ∧ value a = b ∧ world w = w' := by
  cases m with
  | waits wake => cases h
  | goes st w more => cases h
  | ends a w more =>
    cases h
    exact ⟨a, w, rfl, rfl, rfl⟩

theorem lift_waits {m : Move ν σ s α} {state : s → t} {value : α → β} {world : σ → τ}
    {wake : Option Nat} (h : m.lift state value world = .waits wake) : m = .waits wake := by
  cases m with
  | waits wake' =>
    cases h
    rfl
  | goes st w more => cases h
  | ends a w more => cases h

theorem results?_eq_some {parts : List (s ⊕ α)} {values : List α}
    (h : results? parts = some values) : parts = values.map .inr := by
  induction parts generalizing values with
  | nil =>
    simp only [results?, Option.some.injEq] at h
    subst h
    rfl
  | cons part rest ih =>
    cases part with
    | inl st => simp [results?] at h
    | inr a =>
      simp only [results?, Option.map_eq_some_iff] at h
      obtain ⟨more, hm, rfl⟩ := h
      simp [ih hm]

/-- One part has moved, and maybe ended; the others stand where they stood. -/
inductive OneMoved (p : Process ν σ s α) (now : Nat) (w : σ) (parts : List (s ⊕ α))
    (parts' : List (s ⊕ α)) (w' : σ) (events : List ν) : Prop where
  | went (before after : List (s ⊕ α)) (st st' : s)
      (old : parts = before ++ .inl st :: after) (new : parts' = before ++ .inl st' :: after)
      (move : p.move now st w = .goes st' w' events)
  | ended (before after : List (s ⊕ α)) (st : s) (a : α)
      (old : parts = before ++ .inl st :: after) (new : parts' = before ++ .inr a :: after)
      (move : p.move now st w = .ends a w' events)

theorem moveFirst_ne_ends (p : Process ν σ s α) (now : Nat) (parts : List (s ⊕ α)) (w : σ)
    (values : List (s ⊕ α)) (w' : σ) (events : List ν) :
    moveFirst p now parts w ≠ .ends values w' events := by
  induction parts generalizing values w' events with
  | nil => simp [moveFirst]
  | cons part rest ih =>
    cases part with
    | inl st =>
      intro h
      simp only [moveFirst] at h
      split at h
      · cases h
      · cases h
      · cases hr : moveFirst p now rest w with
        | waits wake => simp [hr] at h
        | goes st' w'' events' => simp [hr, Move.lift] at h
        | ends values' w'' events' => exact ih _ _ _ hr
    | inr a =>
      intro h
      simp only [moveFirst] at h
      cases hr : moveFirst p now rest w with
      | waits wake => simp [hr, Move.lift] at h
      | goes st' w'' events' => simp [hr, Move.lift] at h
      | ends values' w'' events' => exact ih _ _ _ hr

theorem waits_of_moveFirst {p : Process ν σ s α} {now : Nat} {parts : List (s ⊕ α)} {w : σ}
    {wake : Option Nat} (h : moveFirst p now parts w = .waits wake) :
    ∀ st, .inl st ∈ parts → ∃ wake, p.move now st w = .waits wake := by
  induction parts generalizing wake with
  | nil => simp
  | cons part rest ih =>
    intro st hst
    cases part with
    | inl first =>
      simp only [moveFirst] at h
      split at h
      · cases h
      · cases h
      · next wake' hm =>
        rcases List.mem_cons.mp hst with hst | hst
        · cases hst
          exact ⟨wake', hm⟩
        · cases hr : moveFirst p now rest w with
          | waits wake'' => exact ih hr st hst
          | goes rest' w' events => simp [hr, Move.lift] at h
          | ends values w' events => simp [hr, Move.lift] at h
    | inr a =>
      rcases List.mem_cons.mp hst with hst | hst
      · cases hst
      · exact ih (lift_waits h) st hst

theorem waits_of_all {p : Process ν σ s α} {now : Nat} {parts : List (s ⊕ α)} {w : σ}
    {wake : Option Nat} (h : p.all.move now parts w = .waits wake) :
    ∀ st, .inl st ∈ parts → ∃ wake, p.move now st w = .waits wake := by
  simp only [all] at h
  split at h
  · cases h
  · split at h
    · next hm => exact waits_of_moveFirst hm
    · cases h
    · cases h

/-- The part whose turn it is: the first one that does not wait. -/
def mover (p : Process ν σ s α) (now : Nat) (w : σ) : List (s ⊕ α) → Option s
  | [] => none
  | .inr _ :: rest => mover p now w rest
  | .inl st :: rest =>
    match p.move now st w with
    | .waits _ => mover p now w rest
    | _ => some st

theorem mover_ended (p : Process ν σ s α) (now : Nat) (w : σ) (values : List α) :
    mover p now w (values.map .inr) = none := by
  induction values with
  | nil => rfl
  | cons a rest ih => exact ih

theorem mover_of_moveFirst {p : Process ν σ s α} {now : Nat} {parts parts' : List (s ⊕ α)}
    {w w' : σ} {events : List ν} (h : moveFirst p now parts w = .goes parts' w' events) :
    ∃ before st after, parts = before ++ .inl st :: after ∧ mover p now w parts = some st ∧
      ((∃ st', parts' = before ++ .inl st' :: after ∧ p.move now st w = .goes st' w' events) ∨
        ∃ a, parts' = before ++ .inr a :: after ∧ p.move now st w = .ends a w' events) := by
  induction parts generalizing parts' with
  | nil => simp [moveFirst] at h
  | cons part rest ih =>
    have later {rest'} (hr : moveFirst p now rest w = .goes rest' w' events)
        (hm : mover p now w (part :: rest) = mover p now w rest) (hp : parts' = part :: rest') :
        ∃ before st after, part :: rest = before ++ .inl st :: after ∧
          mover p now w (part :: rest) = some st ∧
          ((∃ st', parts' = before ++ .inl st' :: after ∧ p.move now st w = .goes st' w' events) ∨
            ∃ a, parts' = before ++ .inr a :: after ∧ p.move now st w = .ends a w' events) := by
      obtain ⟨before, st, after, old, turn, moved⟩ := ih hr
      refine ⟨part :: before, st, after, by simp [old], hm.trans turn, ?_⟩
      rw [hp]
      exact moved.imp (fun ⟨st', new, move⟩ => ⟨st', by simp [new], move⟩)
        fun ⟨a, new, move⟩ => ⟨a, by simp [new], move⟩
    cases part with
    | inl st =>
      simp only [moveFirst] at h
      split at h
      · next st' w'' events' hm =>
        cases h
        exact ⟨[], st, rest, rfl, by simp [mover, hm], .inl ⟨st', rfl, hm⟩⟩
      · next a w'' events' hm =>
        cases h
        exact ⟨[], st, rest, rfl, by simp [mover, hm], .inr ⟨a, rfl, hm⟩⟩
      · next wake hm =>
        cases hr : moveFirst p now rest w with
        | waits wake' => simp [hr] at h
        | goes rest' w'' events' =>
          simp only [hr, Move.lift, id_eq, Move.goes.injEq] at h
          obtain ⟨rfl, rfl, rfl⟩ := h
          exact later hr (by simp [mover, hm]) rfl
        | ends values w'' events' => exact (moveFirst_ne_ends _ _ _ _ _ _ _ hr).elim
    | inr a =>
      simp only [moveFirst] at h
      cases hr : moveFirst p now rest w with
      | waits wake => simp [hr, Move.lift] at h
      | goes rest' w'' events' =>
        simp only [hr, Move.lift, id_eq, Move.goes.injEq] at h
        obtain ⟨rfl, rfl, rfl⟩ := h
        exact later hr rfl rfl
      | ends values w'' events' => exact (moveFirst_ne_ends _ _ _ _ _ _ _ hr).elim

theorem moveFirst_of_all {p : Process ν σ s α} {now : Nat} {parts parts' : List (s ⊕ α)} {w w' : σ}
    {events : List ν} (h : p.all.move now parts w = .goes parts' w' events) :
    moveFirst p now parts w = .goes parts' w' events := by
  simp only [all] at h
  split at h
  · cases h
  · split at h
    · cases h
    · next hm =>
      cases h
      exact hm
    · next hm => exact (moveFirst_ne_ends _ _ _ _ _ _ _ hm).elim

theorem all_goes {p : Process ν σ s α} {now : Nat} {parts parts' : List (s ⊕ α)} {w w' : σ}
    {events : List ν} (h : p.all.move now parts w = .goes parts' w' events) :
    OneMoved p now w parts parts' w' events := by
  obtain ⟨before, st, after, old, -, ⟨st', new, move⟩ | ⟨a, new, move⟩⟩ :=
    mover_of_moveFirst (moveFirst_of_all h)
  · exact .went before after st st' old new move
  · exact .ended before after st a old new move

theorem all_ends {p : Process ν σ s α} {now : Nat} {parts : List (s ⊕ α)} {values : List α}
    {w w' : σ} {events : List ν} (h : p.all.move now parts w = .ends values w' events) :
    parts = values.map .inr ∧ w' = w ∧ events = [] := by
  simp only [all] at h
  split at h
  · next hr =>
    cases h
    exact ⟨results?_eq_some hr, rfl, rfl⟩
  · split at h <;> cases h

theorem mem_of_ne {before after : List α} {x y z : α} (h : x ∈ before ++ y :: after) (ne : x ≠ y) :
    x ∈ before ++ z :: after := by
  rcases List.mem_append.mp h with h | h
  · exact List.mem_append_left _ h
  · exact List.mem_append_right _ (.tail _ ((List.mem_cons.mp h).resolve_left ne))

def ofEnded (f : s → α → List β) (before after : List (s ⊕ α)) : List β :=
  (before.zip after).flatMap fun
    | (.inl st, .inr a) => f st a
    | _ => []

theorem ofEnded_self (f : s → α → List β) (parts : List (s ⊕ α)) : ofEnded f parts parts = [] := by
  induction parts with
  | nil => rfl
  | cons part rest ih =>
    simp only [ofEnded, List.zip_cons_cons, List.flatMap_cons] at ih ⊢
    rw [ih]
    cases part <;> rfl

theorem ofEnded_at (f : s → α → List β) (before after : List (s ⊕ α)) (x y : s ⊕ α) :
    ofEnded f (before ++ x :: after) (before ++ y :: after) = ofEnded f [x] [y] := by
  have hb := ofEnded_self f before
  have ha := ofEnded_self f after
  simp only [ofEnded] at hb ha ⊢
  rw [List.zip_append rfl, List.flatMap_append, hb, List.zip_cons_cons, List.flatMap_cons, ha]
  simp

/-- A process comes to its end at one instant, move by move, without waiting. -/
inductive Runs (p : Process ν σ s α) (now : Nat) : s → σ → α → σ → Prop where
  | ends {st : s} {w w' : σ} {a : α} {events : List ν} (h : p.move now st w = .ends a w' events) :
      Runs p now st w a w'
  | goes {st st' : s} {w w₁ w' : σ} {a : α} {events : List ν}
      (h : p.move now st w = .goes st' w₁ events) (rest : Runs p now st' w₁ a w') :
      Runs p now st w a w'

inductive RunsEach (p : Process ν σ s α) (now : Nat) : List s → σ → List α → σ → Prop where
  | nil (w : σ) : RunsEach p now [] w [] w
  | cons {st : s} {more : List s} {w w₁ w' : σ} {a : α} {values : List α}
      (first : p.Runs now st w a w₁) (rest : RunsEach p now more w₁ values w') :
      RunsEach p now (st :: more) w (a :: values) w'

/-- Some moves at one instant that nobody disturbs and that report nothing; `on` is where they
start from. -/
inductive Passes (p : Process ν σ s α) (on : s → Prop) (now : Nat) : Nat → s → σ → s → σ → Prop where
  | done (st : s) (w : σ) : Passes p on now 0 st w st w
  | goes {n : Nat} {st st' st'' : s} {w w' w'' : σ} (here : on st)
      (h : p.move now st w = .goes st' w' []) (rest : Passes p on now n st' w' st'' w'') :
      Passes p on now (n + 1) st w st'' w''

section

variable {p : Process ν σ s α} {now : Nat} {st st' : s} {w w' : σ} {a : α}

namespace Passes

variable {on : s → Prop} {m n : Nat}

theorem trans {st'' : s} {w'' : σ} (h : p.Passes on now m st w st' w')
    (h' : p.Passes on now n st' w' st'' w'') : p.Passes on now (m + n) st w st'' w'' := by
  induction h with
  | done st w => rwa [Nat.zero_add]
  | goes here move _ ih =>
    rw [Nat.add_right_comm]
    exact .goes here move (ih h')

theorem runs {w'' : σ} (h : p.Passes on now n st w st' w') (more : p.Runs now st' w' a w'') :
    p.Runs now st w a w'' := by
  induction h with
  | done st w => exact more
  | goes _ move _ ih => exact .goes move (ih more)

end Passes

theorem results?_ended (values : List α) :
    results? (values.map .inr : List (s ⊕ α)) = some values := by
  induction values with
  | nil => rfl
  | cons a rest ih => simp only [List.map_cons, results?, ih, Option.map_some]

theorem results?_at (ended : List α) (st : s) (rest : List (s ⊕ α)) :
    results? (ended.map .inr ++ .inl st :: rest) = none := by
  induction ended with
  | nil => rfl
  | cons a more ih => simp only [List.map_cons, List.cons_append, results?, ih, Option.map_none]

theorem moveFirst_at (p : Process ν σ s α) (now : Nat) (ended : List α) (parts : List (s ⊕ α))
    (w : σ) :
    moveFirst p now (ended.map .inr ++ parts) w =
      (moveFirst p now parts w).lift (ended.map .inr ++ ·) (ended.map .inr ++ ·) id := by
  induction ended with
  | nil =>
    simp only [List.map_nil, List.nil_append]
    cases moveFirst p now parts w <;> rfl
  | cons a more ih =>
    simp only [List.map_cons, List.cons_append, moveFirst, ih]
    cases moveFirst p now parts w <;> rfl

theorem all_goes_at {events : List ν} (h : p.move now st w = .goes st' w' events)
    (ended : List α) (rest : List (s ⊕ α)) :
    p.all.move now (ended.map .inr ++ .inl st :: rest) w =
      .goes (ended.map .inr ++ .inl st' :: rest) w' events := by
  simp only [all, results?_at, moveFirst_at, moveFirst, h]
  rfl

theorem all_ends_at {events : List ν} (h : p.move now st w = .ends a w' events)
    (ended : List α) (rest : List (s ⊕ α)) :
    p.all.move now (ended.map .inr ++ .inl st :: rest) w =
      .goes ((ended ++ [a]).map .inr ++ rest) w' events := by
  simp only [all, results?_at, moveFirst_at, moveFirst, h, List.map_append, List.append_assoc]
  rfl

theorem Runs.first (first : p.Runs now st w a w') {ended values : List α} {rest : List (s ⊕ α)}
    {w'' : σ} (later : p.all.Runs now ((ended ++ [a]).map .inr ++ rest) w' values w'') :
    p.all.Runs now (ended.map .inr ++ .inl st :: rest) w values w'' := by
  induction first with
  | ends h => exact .goes (all_ends_at h ended rest) later
  | goes h _ ih => exact .goes (all_goes_at h ended rest) (ih later)

theorem RunsEach.all {sts : List s} {values : List α} (h : p.RunsEach now sts w values w')
    (ended : List α) :
    p.all.Runs now (ended.map .inr ++ sts.map .inl) w (ended ++ values) w' := by
  induction h generalizing ended with
  | nil w =>
    have ends : p.all.move now (ended.map .inr) w = .ends ended w [] := by
      simp only [Process.all, results?_ended]
    rw [List.map_nil, List.append_nil, List.append_nil]
    exact .ends ends
  | @cons st more w w₁ w' a values first rest ih =>
    have later := ih (ended ++ [a])
    rw [List.append_assoc] at later
    exact first.first later

end

end PacedCalls.Process
