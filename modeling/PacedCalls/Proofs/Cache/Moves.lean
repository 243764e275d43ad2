import PacedCalls.Cache.ReadAll
import PacedCalls.Proofs.Parts

/-!
What a move of a read can be, by where the read stands. Laws about moves begin here and need not
look into the processes themselves.
-/

set_option autoImplicit false

namespace PacedCalls.Cache

theorem flatten_chunksOf {α : Type} {size : Nat} (hs : 0 < size) (fuel : Nat) (xs : List α)
    (hf : xs.length ≤ fuel) : (chunksOf size fuel xs).flatten = xs := by
  induction fuel generalizing xs with
  | zero =>
    cases xs with
    | nil => rfl
    | cons x rest => simp at hf
  | succ fuel ih =>
    cases xs with
    | nil => rfl
    | cons x rest =>
      have hlen : ((x :: rest).drop size).length ≤ fuel := by
        simp only [List.length_drop, List.length_cons] at hf ⊢
        omega
      rw [chunksOf, List.flatten_cons, ih _ hlen, List.take_append_drop]
      exact List.cons_ne_nil x rest

section

variable {R K V E σ L B : Type} [DecidableEq K] {loader : Loader (Event R) K V E σ L B} {now : Nat}
  {s s' : State K V E} {w w' : σ} {events : List (Event R)}

namespace Read

variable {key : K} {missed : Bool} {g : Guard K} {l : L} {flight : Nat} {read : Read K L}
  {answer : Lookup V E}

theorem looking_goes
    (h : (process loader).move now (.looking key missed) (s, w) = .goes read (s', w') events) :
    s.readStore key now = (none, s') ∧ read = .claiming key missed ∧ w' = w := by
  simp only [process] at h
  split at h <;> cases h
  next hr => exact ⟨hr, rfl, rfl⟩

theorem looking_ends
    (h : (process loader).move now (.looking key missed) (s, w) = .ends answer (s', w') events) :
    s.readStore key now = (some answer, s') ∧ w' = w := by
  simp only [process] at h
  split at h <;> cases h
  next hr => exact ⟨hr, rfl⟩

theorem claiming_goes
    (h : (process loader).move now (.claiming key missed) (s, w) = .goes read (s', w') events) :
    (∃ g s₁, s.claim key now = (.owner g, s₁) ∧ read = .loading g (loader.begin key) ∧
      s' = (if missed then s₁ else s₁.countMiss).countLoads 1 ∧ w' = w) ∨
    ∃ flight s₁, s.claim key now = (.joined flight, s₁) ∧ read = .waiting key flight ∧
      s' = (if missed then s₁ else s₁.countMiss).countJoin ∧ w' = w := by
  simp only [process, claim] at h
  split at h <;> cases h
  · next g s₁ hc => exact .inl ⟨g, s₁, hc, rfl, rfl, rfl⟩
  · next flight s₁ hc => exact .inr ⟨flight, s₁, hc, rfl, rfl, rfl⟩

theorem claiming_ends
    (h : (process loader).move now (.claiming key missed) (s, w) = .ends answer (s', w') events) :
    s.claim key now = (.stored answer, s') ∧ w' = w := by
  simp only [process, claim] at h
  split at h <;> cases h
  next hc => exact ⟨hc, rfl⟩

theorem loading_goes
    (h : (process loader).move now (.loading g l) (s, w) = .goes read (s', w') events) :
    ∃ l', loader.load.move now l w = .goes l' w' events ∧ read = .loading g l' ∧ s' = s := by
  simp only [process] at h
  split at h <;> cases h
  next moves => exact ⟨_, moves, rfl, rfl⟩

theorem loading_ends
    (h : (process loader).move now (.loading g l) (s, w) = .ends answer (s', w') events) :
    ∃ more, loader.load.move now l w = .ends answer w' more ∧ s' = s.settle g answer now := by
  simp only [process] at h
  split at h <;> cases h
  next moves => exact ⟨_, moves, rfl⟩

theorem waiting_goes
    (h : (process loader).move now (.waiting key flight) (s, w) = .goes read (s', w') events) :
    s.flight flight = .lost ∧ read = .looking key true ∧ s' = s ∧ w' = w := by
  simp only [process] at h
  split at h <;> cases h
  next lost => exact ⟨lost, rfl, rfl, rfl⟩

theorem waiting_ends
    (h : (process loader).move now (.waiting key flight) (s, w) = .ends answer (s', w') events) :
    s.flight flight = .landed answer ∧ s' = s ∧ w' = w := by
  simp only [process] at h
  split at h <;> cases h
  next landed => exact ⟨landed, rfl, rfl⟩

end Read

namespace Part

variable {key : K} {flight : Nat} {read : Read K L} {part : Part K L} {found : K × Lookup V E}

theorem watching_goes
    (h : (process loader).move now (.watching key flight) (s, w) = .goes part (s', w') events) :
    s.flight flight = .lost ∧ part = .reading key (.start key) ∧ s' = s ∧ w' = w := by
  simp only [process] at h
  split at h <;> cases h
  next lost => exact ⟨lost, rfl, rfl, rfl⟩

theorem watching_ends
    (h : (process loader).move now (.watching key flight) (s, w) = .ends found (s', w') events) :
    ∃ answer, s.flight flight = .landed answer ∧ found = (key, answer) ∧ s' = s ∧ w' = w := by
  simp only [process] at h
  split at h <;> cases h
  next answer landed => exact ⟨answer, landed, rfl, rfl, rfl⟩

theorem reading_goes
    (h : (process loader).move now (.reading key read) (s, w) = .goes part (s', w') events) :
    ∃ read', (Read.process loader).move now read (s, w) = .goes read' (s', w') events ∧
      part = .reading key read' := by
  obtain ⟨read', w₁, moves, rfl, rfl⟩ := Process.lift_goes h
  exact ⟨read', moves, rfl⟩

theorem reading_ends
    (h : (process loader).move now (.reading key read) (s, w) = .ends found (s', w') events) :
    ∃ answer, (Read.process loader).move now read (s, w) = .ends answer (s', w') events ∧
      found = (key, answer) := by
  obtain ⟨answer, w₁, moves, rfl, rfl⟩ := Process.lift_ends h
  exact ⟨answer, moves, rfl⟩

end Part

namespace Chunk

variable {chunk chunk' : Chunk K B} {found : List (K × Lookup V E)}

theorem move_goes
    (h : (process loader).move now chunk (s, w) = .goes chunk' (s', w') events) :
    ∃ b, loader.loadBatch.move now chunk.state w = .goes b w' events ∧
      chunk' = { chunk with state := b } ∧ s' = s := by
  simp only [process] at h
  split at h <;> cases h
  next moves => exact ⟨_, moves, rfl, rfl⟩

/-- A batch that failed is counted before its keys are settled. -/
theorem move_ends
    (h : (process loader).move now chunk (s, w) = .ends found (s', w') events) :
    (∃ values more, loader.loadBatch.move now chunk.state w = .ends (.ok values) w' more ∧
      s.settleChunk now (.ok values) chunk.guards = (found, s')) ∨
    ∃ e more, loader.loadBatch.move now chunk.state w = .ends (.error e) w' more ∧
      s.countLoadFailure.settleChunk now (.error e) chunk.guards = (found, s') := by
  simp only [process] at h
  split at h
  · cases h
  · cases h
  · next moves =>
    cases h
    exact .inl ⟨_, _, moves, rfl⟩
  · next moves =>
    cases h
    exact .inr ⟨_, _, moves, rfl⟩

theorem move_waits {wake : Option Nat}
    (h : (process loader).move now chunk (s, w) = .waits wake) :
    loader.loadBatch.move now chunk.state w = .waits wake := by
  simp only [process] at h
  split at h <;> cases h
  assumption

end Chunk

namespace ReadAll

variable {keys : List K} {slots : List (Option (Lookup V E))} {c : Claims K V E} {wanted : List K}
  {resolved : List (K × Lookup V E)} {guards : List (Guard K)}
  {chunks : List (Chunk K B ⊕ List (K × Lookup V E))} {joined : List (K × Nat)}
  {parts : List (Part K L ⊕ (K × Lookup V E))} {read : ReadAll K V E L B}
  {answers : List (Lookup V E)}

/-- The batches that a read begins for the keys that it owns. -/
def started (loader : Loader (Event R) K V E σ L B) (owned : List (Guard K)) : List (Chunk K B) :=
  (chunksOf (max loader.maxBatch 1) owned.length owned).map fun guards =>
    { guards := guards, state := loader.beginBatch (guards.map (·.key)) }

omit [DecidableEq K] in
theorem guards_started (loader : Loader (Event R) K V E σ L B) (owned : List (Guard K)) :
    (started loader owned).flatMap (·.guards) = owned := by
  have pieces := flatten_chunksOf (Nat.le_max_right loader.maxBatch 1) _ owned (Nat.le_refl _)
  rw [started, List.flatMap_map, List.flatMap_id', pieces]

omit [DecidableEq K] in
theorem load_cases (loader : Loader (Event R) K V E σ L B) (keys : List K)
    (slots : List (Option (Lookup V E))) (c : Claims K V E) (s : State K V E) (w : σ) :
    (c.owned = [] ∧ load loader keys slots c s w =
        .goes (join keys slots c.resolved c.joined) (s, w) []) ∨
      (c.owned ≠ [] ∧ load loader keys slots c s w =
        .goes (.loading keys slots c.resolved c.owned ((started loader c.owned).map .inl) c.joined)
          (s.countLoads (started loader c.owned).length, w)
          [.missesBatched c.owned.length (started loader c.owned).length c.joined.length]) := by
  by_cases none_ : c.owned = []
  · exact .inl ⟨none_, by simp [load, none_]⟩
  · refine .inr ⟨none_, ?_⟩
    rw [load, if_neg (by simpa using none_)]
    simp [started, Function.comp_def]

theorem looking_goes
    (h : (process loader).move now (.looking keys slots) (s, w) = .goes read (s', w') events) :
    (∃ key, keys[slots.length]? = some key ∧
      read = .looking keys (slots ++ [(s.readStore key now).1]) ∧
        s' = (s.readStore key now).2 ∧ w' = w) ∨
    (keys[slots.length]? = none ∧ missing keys slots ≠ [] ∧
      read = .claiming keys slots {} (missing keys slots) ∧ s' = s ∧ w' = w) := by
  simp only [process] at h
  split at h
  · next key next =>
    cases h
    exact .inl ⟨key, next, rfl, rfl, rfl⟩
  · next next =>
    split at h <;> cases h
    next none_ => exact .inr ⟨next, none_, rfl, rfl, rfl⟩

theorem looking_ends
    (h : (process loader).move now (.looking keys slots) (s, w) = .ends answers (s', w') events) :
    keys[slots.length]? = none ∧ missing keys slots = [] ∧
      answers = assemble keys slots [] ∧ s' = s ∧ w' = w := by
  simp only [process] at h
  split at h
  · cases h
  · next next =>
    split at h <;> cases h
    next none_ => exact ⟨next, none_, rfl, rfl, rfl⟩

theorem claiming_goes
    (h : (process loader).move now (.claiming keys slots c wanted) (s, w) =
      .goes read (s', w') events) :
    (∃ key rest claim s₁, wanted = key :: rest ∧ s.claim key now = (claim, s₁) ∧
      read = .claiming keys slots (c.add key claim) rest ∧ s' = s₁.countClaim claim ∧ w' = w) ∨
    wanted = [] ∧
      ((c.owned = [] ∧ read = join keys slots c.resolved c.joined ∧ s' = s ∧ w' = w) ∨
        c.owned ≠ [] ∧ read = .loading keys slots c.resolved c.owned
            ((started loader c.owned).map .inl) c.joined ∧
          s' = s.countLoads (started loader c.owned).length ∧ w' = w) := by
  cases wanted with
  | nil =>
    have h : load loader keys slots c s w = _ := h
    refine .inr ⟨rfl, ?_⟩
    obtain ⟨none_, eq⟩ | ⟨some_, eq⟩ := load_cases loader keys slots c s w
    · cases eq.symm.trans h
      exact .inl ⟨none_, rfl, rfl, rfl⟩
    · cases eq.symm.trans h
      exact .inr ⟨some_, rfl, rfl, rfl⟩
  | cons key rest =>
    rcases hc : s.claim key now with ⟨claim, s₁⟩
    simp only [process, hc] at h
    cases h
    exact .inl ⟨key, rest, claim, s₁, rfl, hc, rfl, rfl, rfl⟩

theorem not_claiming_ends :
    (process loader).move now (.claiming keys slots c wanted) (s, w) ≠
      .ends answers (s', w') events := by
  intro h
  cases wanted with
  | nil =>
    simp only [process, load] at h
    split at h <;> cases h
  | cons key rest => cases h

theorem loading_goes
    (h : (process loader).move now (.loading keys slots resolved guards chunks joined) (s, w) =
      .goes read (s', w') events) :
    (∃ chunks', (Chunk.process loader).all.move now chunks (s, w) =
        .goes chunks' (s', w') events ∧
      read = .loading keys slots resolved guards chunks' joined) ∨
    ∃ found : List (List (K × Lookup V E)), chunks = found.map .inr ∧
      read = join keys slots (resolved ++ found.flatten) joined ∧
      s' = s.retireAll guards ∧ w' = w := by
  simp only [process] at h
  split at h
  · cases h
  · next moves =>
    cases h
    exact .inl ⟨_, moves, rfl⟩
  · next found _ _ moves =>
    cases h
    obtain ⟨rfl, same, -⟩ := Process.all_ends moves
    cases same
    exact .inr ⟨found, rfl, rfl, rfl, rfl⟩

theorem not_loading_ends :
    (process loader).move now (.loading keys slots resolved guards chunks joined) (s, w) ≠
      .ends answers (s', w') events := by
  intro h
  simp only [process] at h
  split at h <;> cases h

theorem joining_goes
    (h : (process loader).move now (.joining keys slots resolved parts) (s, w) =
      .goes read (s', w') events) :
    ∃ parts', (Part.process loader).all.move now parts (s, w) = .goes parts' (s', w') events ∧
      read = .joining keys slots resolved parts' := by
  simp only [process] at h
  split at h <;> cases h
  next moves => exact ⟨_, moves, rfl⟩

theorem joining_ends
    (h : (process loader).move now (.joining keys slots resolved parts) (s, w) =
      .ends answers (s', w') events) :
    ∃ found : List (K × Lookup V E), parts = found.map .inr ∧
      answers = assemble keys slots (resolved ++ found) ∧ s' = s ∧ w' = w := by
  simp only [process] at h
  split at h <;> cases h
  next found moves =>
    obtain ⟨rfl, same, -⟩ := Process.all_ends moves
    cases same
    exact ⟨found, rfl, rfl, rfl, rfl⟩

end ReadAll

end

end PacedCalls.Cache
