import Mathlib.Algebra.BigOperators.Group.Multiset.Basic
import PacedCalls.Proofs.Cache.Moves
import PacedCalls.Proofs.Cache.Room

set_option autoImplicit false

namespace PacedCalls.Cache

section

variable {ν K V E σ L B : Type}

def Loader.either (loader : Loader ν K V E σ L B) : Process ν σ (L ⊕ B) Unit :=
  (loader.load.map fun _ => ()).either (loader.loadBatch.map fun _ => ())

/-- A load that has just begun; a batch only if batches are allowed. -/
inductive Loader.Fresh (loader : Loader ν K V E σ L B) (batches : Prop) : L ⊕ B → Prop where
  | load (key : K) : Fresh loader batches (.inl (loader.begin key))
  | batch (allowed : batches) (keys : List K) :
      Fresh loader batches (.inr (loader.beginBatch keys))

/-- The number of loads so far, the world of the loader, and the loads that are running. -/
structure Traffic (σ L B : Type) where
  loads : ℕ
  world : σ
  running : Multiset (L ⊕ B)

inductive Loader.Works (loader : Loader ν K V E σ L B) (now : ℕ) (batches : Prop) :
    Traffic σ L B → Traffic σ L B → Prop where
  | begins (n : ℕ) (w : σ) {new : Multiset (L ⊕ B)} (running : Multiset (L ⊕ B))
      (fresh : ∀ x ∈ new, loader.Fresh batches x) :
      Works loader now batches ⟨n, w, running⟩ ⟨n + new.card, w, new + running⟩
  | goes (n : ℕ) {w w' : σ} {x x' : L ⊕ B} {events : List ν} (running : Multiset (L ⊕ B))
      (moves : loader.either.move now x w = .goes x' w' events) :
      Works loader now batches ⟨n, w, x ::ₘ running⟩ ⟨n, w', x' ::ₘ running⟩
  | ends (n : ℕ) {w w' : σ} {x : L ⊕ B} {events : List ν} (running : Multiset (L ⊕ B))
      (moves : loader.either.move now x w = .ends () w' events) :
      Works loader now batches ⟨n, w, x ::ₘ running⟩ ⟨n, w', running⟩

namespace Loader

theorem either_load (loader : Loader ν K V E σ L B) (now : ℕ) (l : L) (w : σ) :
    loader.either.move now (.inl l) w =
      (loader.load.move now l w).lift .inl (fun _ => ()) id := by
  simp only [either, Process.either, Process.map]
  cases loader.load.move now l w <;> rfl

theorem either_loadBatch (loader : Loader ν K V E σ L B) (now : ℕ) (b : B) (w : σ) :
    loader.either.move now (.inr b) w =
      (loader.loadBatch.move now b w).lift .inr (fun _ => ()) id := by
  simp only [either, Process.either, Process.map]
  cases loader.loadBatch.move now b w <;> rfl

variable {loader : Loader ν K V E σ L B} {now : ℕ} {batches more : Prop} {t t' : Traffic σ L B}

theorem Fresh.mono {x : L ⊕ B} (h : loader.Fresh batches x) (imp : batches → more) :
    loader.Fresh more x := by
  cases h with
  | load key => exact .load key
  | batch allowed keys => exact .batch (imp allowed) keys

namespace Works

theorem mono (h : loader.Works now batches t t') (imp : batches → more) :
    loader.Works now more t t' := by
  cases h with
  | begins n w running fresh => exact .begins n w running fun x hx => (fresh x hx).mono imp
  | goes n running moves => exact .goes n running moves
  | ends n running moves => exact .ends n running moves

theorem still (n : ℕ) (w : σ) (running : Multiset (L ⊕ B)) :
    loader.Works now batches ⟨n, w, running⟩ ⟨n, w, running⟩ := by
  have none : ∀ x ∈ (0 : Multiset (L ⊕ B)), loader.Fresh batches x := by simp
  have begun : loader.Works now batches _ _ := .begins n w running none
  simpa using begun

theorem beside (h : loader.Works now batches t t') (others : Multiset (L ⊕ B)) :
    loader.Works now batches { t with running := t.running + others }
      { t' with running := t'.running + others } := by
  cases h with
  | begins n w running fresh =>
    rw [add_assoc]
    exact .begins n w (running + others) fresh
  | goes n running moves =>
    rw [Multiset.cons_add, Multiset.cons_add]
    exact .goes n (running + others) moves
  | ends n running moves =>
    rw [Multiset.cons_add]
    exact .ends n (running + others) moves

theorem world_eq (h : loader.Works now batches t t') (idle : t.running = 0) :
    t'.world = t.world := by
  cases h with
  | begins n w running fresh => rfl
  | goes n running moves => exact absurd idle (Multiset.cons_ne_zero)
  | ends n running moves => exact absurd idle (Multiset.cons_ne_zero)

end Works

end Loader

def runningOf {α s : Type} (running : s → Multiset (L ⊕ B)) (parts : List (s ⊕ α)) :
    Multiset (L ⊕ B) :=
  (parts.map (Sum.elim running fun _ => 0)).sum

def Read.running : Read K L → Multiset (L ⊕ B)
  | .loading _ state => {.inl state}
  | _ => 0

def Chunk.running (chunk : Chunk K B) : Multiset (L ⊕ B) := {.inr chunk.state}

def Part.running : Part K L → Multiset (L ⊕ B)
  | .watching _ _ => 0
  | .reading _ read => read.running

def ReadAll.running : ReadAll K V E L B → Multiset (L ⊕ B)
  | .looking _ _ => 0
  | .claiming _ _ _ _ => 0
  | .loading _ _ _ _ chunks _ => runningOf Chunk.running chunks
  | .joining _ _ _ parts => runningOf Part.running parts

def Reader.running : Reader K V E L B → Multiset (L ⊕ B)
  | .one read => read.running
  | .many read => read.running

def Reader.IsMany : Reader K V E L B → Prop
  | .one _ => False
  | .many _ => True

section

variable {α s : Type} (running : s → Multiset (L ⊕ B))

theorem runningOf_at (before after : List (s ⊕ α)) (x : s ⊕ α) :
    runningOf running (before ++ x :: after) =
      x.elim running (fun _ => 0) + runningOf running (before ++ after) := by
  simp [runningOf, add_left_comm]

theorem runningOf_ended (values : List α) : runningOf running (values.map .inr) = 0 := by
  simp [runningOf, Function.comp_def]

end

theorem runningOf_watched (joined : List (K × ℕ)) :
    runningOf Part.running (joined.map fun (k, flight) => .inl (.watching k flight) :
      List (Part K L ⊕ (K × Lookup V E))) = (0 : Multiset (L ⊕ B)) := by
  simp [runningOf, Part.running, Function.comp_def]

theorem runningOf_begun (chunks : List (Chunk K B)) :
    runningOf Chunk.running (chunks.map .inl : List (Chunk K B ⊕ List (K × Lookup V E))) =
      (Multiset.ofList (chunks.map fun chunk => .inr chunk.state) : Multiset (L ⊕ B)) := by
  induction chunks with
  | nil => rfl
  | cons chunk rest ih =>
    rw [List.map_cons, List.map_cons, ← Multiset.cons_coe, ← ih]
    rfl

theorem Read.card_running (read : Read K L) :
    (read.running : Multiset (L ⊕ B)).card = read.calls.length := by
  cases read <;> rfl

theorem Part.card_running (part : Part K L) :
    (part.running : Multiset (L ⊕ B)).card = part.calls.length := by
  cases part with
  | watching key flight => rfl
  | reading key read => exact read.card_running

theorem ReadAll.card_running (read : ReadAll K V E L B) :
    read.running.card = read.calls.length := by
  cases read with
  | looking keys slots => rfl
  | claiming keys slots claims wanted => rfl
  | loading keys slots resolved guards chunks joined =>
    simp only [running, calls, List.length_map]
    induction chunks with
    | nil => rfl
    | cons chunk rest ih =>
      cases chunk with
      | inl chunk => simpa [runningOf, Chunk.running, add_comm] using ih
      | inr found => simpa [runningOf, List.filterMap_cons] using ih
  | joining keys slots resolved parts =>
    simp only [running, calls]
    induction parts with
    | nil => rfl
    | cons part rest ih =>
      cases part with
      | inl part => simpa [runningOf, part.card_running] using ih
      | inr x => simpa [runningOf, List.filterMap_cons] using ih

theorem Reader.card_running (reader : Reader K V E L B) :
    reader.running.card = reader.calls.length := by
  cases reader with
  | one read => exact read.card_running
  | many read => exact read.card_running

end

namespace State

variable {K V E : Type} [DecidableEq K] (s : State K V E) (now : ℕ)

@[simp]
theorem readStore_loads (key : K) : (s.readStore key now).2.stats.loads = s.stats.loads := by
  simp only [readStore]
  split <;> rfl

@[simp]
theorem claim_loads (key : K) : (s.claim key now).2.stats.loads = s.stats.loads := by
  simp only [claim]
  split
  · rfl
  · split <;> rfl

@[simp]
theorem insert_loads (key : K) (value : Option V) :
    (s.insert key value now).stats.loads = s.stats.loads := by
  simp only [insert]
  split <;> rfl

@[simp]
theorem retire_loads (g : Guard K) : (s.retire g).stats.loads = s.stats.loads := by
  simp only [retire]
  split <;> rfl

@[simp]
theorem settle_loads (g : Guard K) (result : Lookup V E) :
    (s.settle g result now).stats.loads = s.stats.loads := by
  simp only [settle, retire_loads, publish]
  cases result.settled? with
  | some value => exact s.insert_loads now g.key value
  | none => rfl

@[simp]
theorem retireAll_loads (guards : List (Guard K)) :
    (s.retireAll guards).stats.loads = s.stats.loads := by
  induction guards generalizing s with
  | nil => rfl
  | cons g rest ih => exact (ih (s.retire g)).trans (s.retire_loads g)

omit [DecidableEq K] in
@[simp]
theorem countClaim_loads (c : Claim K V E) : (s.countClaim c).stats.loads = s.stats.loads := by
  cases c <;> rfl

@[simp]
theorem settleChunk_loads (result : Except E (List (K × V))) (guards : List (Guard K)) :
    (s.settleChunk now result guards).2.stats.loads = s.stats.loads := by
  induction guards generalizing s with
  | nil => rfl
  | cons g rest ih =>
    cases result with
    | ok found => exact (ih _).trans (s.insert_loads now g.key _)
    | error e => exact ih _

end State

section

variable {R K V E σ L B : Type} [DecidableEq K] {loader : Loader (Event R) K V E σ L B} {now : ℕ}
  {s s' : State K V E} {w w' : σ} {events : List (Event R)}

structure Loader.Drives {α st : Type} (loader : Loader (Event R) K V E σ L B) (batches : Prop)
    (p : Process (Event R) (State K V E × σ) st α) (running : st → Multiset (L ⊕ B)) : Prop where
  goes : ∀ {now x x' s s' w w' events}, p.move now x (s, w) = .goes x' (s', w') events →
    loader.Works now batches ⟨s.stats.loads, w, running x⟩ ⟨s'.stats.loads, w', running x'⟩
  ends : ∀ {now x a s s' w w' events}, p.move now x (s, w) = .ends a (s', w') events →
    loader.Works now batches ⟨s.stats.loads, w, running x⟩ ⟨s'.stats.loads, w', 0⟩

theorem Read.drives (batches : Prop) :
    loader.Drives batches (Read.process loader) Read.running where
  goes {now x x' s s' w w' events} h := by
    cases x with
    | looking key missed =>
      obtain ⟨hr, rfl, rfl⟩ := looking_goes h
      rw [← s.readStore_loads now key, hr]
      exact .still _ w' 0
    | claiming key missed =>
      have claimed := s.claim_loads now key
      obtain ⟨g, s₁, hc, rfl, rfl, rfl⟩ | ⟨flight, s₁, hc, rfl, rfl, rfl⟩ := claiming_goes h
      all_goals
        rw [hc] at claimed
        have counted : (if missed then s₁ else s₁.countMiss).stats.loads = s.stats.loads := by
          split <;> exact claimed
        rw [← counted]
      · have one : ∀ x ∈ ({.inl (loader.begin key)} : Multiset (L ⊕ B)), loader.Fresh batches x := by
          simpa using Loader.Fresh.load key
        exact .begins _ w' 0 one
      · exact .still _ w' 0
    | loading g l =>
      obtain ⟨l', moves, rfl, rfl⟩ := loading_goes h
      exact .goes _ 0 (by rw [loader.either_load, moves]; rfl)
    | waiting key flight =>
      obtain ⟨-, rfl, rfl, rfl⟩ := waiting_goes h
      exact .still _ w' 0
  ends {now x a s s' w w' events} h := by
    cases x with
    | looking key missed =>
      obtain ⟨hr, rfl⟩ := looking_ends h
      rw [← s.readStore_loads now key, hr]
      exact .still _ w' 0
    | claiming key missed =>
      obtain ⟨hc, rfl⟩ := claiming_ends h
      rw [← s.claim_loads now key, hc]
      exact .still _ w' 0
    | loading g l =>
      obtain ⟨more, moves, rfl⟩ := loading_ends h
      rw [s.settle_loads]
      exact .ends _ 0 (by rw [loader.either_load, moves]; rfl)
    | waiting key flight =>
      obtain ⟨-, rfl, rfl⟩ := waiting_ends h
      exact .still _ w' 0

theorem Chunk.drives (batches : Prop) :
    loader.Drives batches (Chunk.process loader) Chunk.running where
  goes {now x x' s s' w w' events} h := by
    obtain ⟨b, moves, rfl, rfl⟩ := move_goes h
    exact .goes _ 0 (by rw [loader.either_loadBatch, moves]; rfl)
  ends {now x a s s' w w' events} h := by
    obtain ⟨values, more, moves, settled⟩ | ⟨e, more, moves, settled⟩ := move_ends h
    · have loads := s.settleChunk_loads now (.ok values) x.guards
      rw [settled] at loads
      rw [loads]
      exact .ends _ 0 (by rw [loader.either_loadBatch, moves]; rfl)
    · have loads := s.countLoadFailure.settleChunk_loads now (.error e) x.guards
      rw [settled] at loads
      rw [loads]
      exact .ends _ 0 (by rw [loader.either_loadBatch, moves]; rfl)

theorem Part.drives (batches : Prop) :
    loader.Drives batches (Part.process loader) Part.running where
  goes {now x x' s s' w w' events} h := by
    cases x with
    | watching key flight =>
      obtain ⟨-, rfl, rfl, rfl⟩ := watching_goes h
      exact .still _ w' 0
    | reading key read =>
      obtain ⟨read', moves, rfl⟩ := reading_goes h
      exact (Read.drives batches).goes moves
  ends {now x a s s' w w' events} h := by
    cases x with
    | watching key flight =>
      obtain ⟨answer, -, rfl, rfl, rfl⟩ := watching_ends h
      exact .still _ w' 0
    | reading key read =>
      obtain ⟨answer, moves, rfl⟩ := reading_ends h
      exact (Read.drives batches).ends moves

omit [DecidableEq K] in
theorem Loader.Drives.all {α st : Type} {batches : Prop}
    {p : Process (Event R) (State K V E × σ) st α} {running : st → Multiset (L ⊕ B)}
    (drives : loader.Drives batches p running) :
    loader.Drives batches p.all (runningOf running) where
  goes {now x x' s s' w w' events} h := by
    obtain ⟨before, after, part, part', rfl, rfl, moves⟩ | ⟨before, after, part, a, rfl, rfl, moves⟩ :=
      Process.all_goes h
    · rw [runningOf_at, runningOf_at]
      exact (drives.goes moves).beside _
    · rw [runningOf_at, runningOf_at]
      exact (drives.ends moves).beside _
  ends {now x a s s' w w' events} h := by
    obtain ⟨rfl, same, -⟩ := Process.all_ends h
    cases same
    rw [runningOf_ended]
    exact .still _ w 0

omit [DecidableEq K] in
theorem ReadAll.started_works (loader : Loader (Event R) K V E σ L B) (now : ℕ) (keys : List K)
    (slots : List (Option (Lookup V E))) (resolved : List (K × Lookup V E)) (owned : List (Guard K))
    (joined : List (K × ℕ)) (loads : ℕ) (w : σ) :
    loader.Works now True ⟨loads, w, 0⟩ ⟨loads + (started loader owned).length, w,
      (loading keys slots resolved owned ((started loader owned).map .inl) joined :
        ReadAll K V E L B).running⟩ := by
  have fresh : ∀ x ∈ Multiset.ofList ((started loader owned).map fun chunk => .inr chunk.state),
      loader.Fresh True x := by
    intro x hx
    obtain ⟨chunk, hc, rfl⟩ := List.mem_map.mp (Multiset.mem_coe.mp hx)
    obtain ⟨guards, -, rfl⟩ := List.mem_map.mp hc
    exact .batch trivial _
  have begun : loader.Works now True _ _ := .begins loads w 0 fresh
  rw [Multiset.coe_card, List.length_map, add_zero] at begun
  rw [running, runningOf_begun]
  exact begun

theorem ReadAll.drives : loader.Drives True (ReadAll.process loader) ReadAll.running where
  goes {now x x' s s' w w' events} h := by
    cases x with
    | looking keys slots =>
      obtain ⟨key, -, rfl, rfl, rfl⟩ | ⟨-, -, rfl, rfl, rfl⟩ := looking_goes h
      · rw [State.readStore_loads]
        exact .still _ w' 0
      · exact .still _ w' 0
    | claiming keys slots claims wanted =>
      obtain ⟨key, rest, claim, s₁, -, hc, rfl, rfl, rfl⟩ |
        ⟨-, ⟨-, rfl, rfl, rfl⟩ | ⟨-, rfl, rfl, rfl⟩⟩ := claiming_goes h
      · rw [State.countClaim_loads, ← s.claim_loads now key, hc]
        exact .still _ w' 0
      · rw [join, running, running, runningOf_watched]
        exact .still _ w' 0
      · exact started_works loader now keys slots _ _ _ _ w'
    | loading keys slots resolved guards chunks joined =>
      obtain ⟨chunks', moves, rfl⟩ | ⟨found, rfl, rfl, rfl, rfl⟩ := loading_goes h
      · exact (Chunk.drives True).all.goes moves
      · rw [State.retireAll_loads, join, running, running, runningOf_watched, runningOf_ended]
        exact .still _ w' 0
    | joining keys slots resolved parts =>
      obtain ⟨parts', moves, rfl⟩ := joining_goes h
      exact (Part.drives True).all.goes moves
  ends {now x a s s' w w' events} h := by
    cases x with
    | looking keys slots =>
      obtain ⟨-, -, -, rfl, rfl⟩ := looking_ends h
      exact .still _ w' 0
    | claiming keys slots claims wanted => exact absurd h not_claiming_ends
    | loading keys slots resolved guards chunks joined => exact absurd h not_loading_ends
    | joining keys slots resolved parts =>
      obtain ⟨found, rfl, -, rfl, rfl⟩ := joining_ends h
      rw [running, runningOf_ended]
      exact .still _ w' 0

theorem Reader.goes_works {reader reader' : Reader K V E L B}
    (h : (process loader).move now reader (s, w) = .goes reader' (s', w') events) :
    loader.Works now reader.IsMany ⟨s.stats.loads, w, reader.running⟩
      ⟨s'.stats.loads, w', reader'.running⟩ := by
  cases reader with
  | one read =>
    obtain ⟨read', w₁, moves, rfl, rfl⟩ := Process.lift_goes h
    exact (Read.drives False).goes moves
  | many read =>
    obtain ⟨read', w₁, moves, rfl, rfl⟩ := Process.lift_goes h
    exact ReadAll.drives.goes moves

theorem Reader.ends_works {reader : Reader K V E L B} {answers : List (Lookup V E)}
    (h : (process loader).move now reader (s, w) = .ends answers (s', w') events) :
    loader.Works now reader.IsMany ⟨s.stats.loads, w, reader.running⟩ ⟨s'.stats.loads, w', 0⟩ := by
  cases reader with
  | one read =>
    obtain ⟨answer, w₁, moves, rfl, rfl⟩ := Process.lift_ends h
    exact (Read.drives False).ends moves
  | many read =>
    obtain ⟨answers', w₁, moves, rfl, rfl⟩ := Process.lift_ends h
    exact ReadAll.drives.ends moves

/-- The next move of a reader leaves the world of the loader as it is. -/
def Reader.Still (loader : Loader (Event R) K V E σ L B) (now : ℕ) (reader : Reader K V E L B)
    (w : State K V E × σ) : Prop :=
  match (process loader).move now reader w with
  | .waits _ => True
  | .goes _ w' _ => w'.2 = w.2
  | .ends _ w' _ => w'.2 = w.2

theorem Reader.still_of_calls {reader : Reader K V E L B} (idle : reader.calls = [])
    (loader : Loader (Event R) K V E σ L B) (now : ℕ) (w : State K V E × σ) :
    reader.Still loader now w := by
  have none : reader.running = 0 := by
    rw [← Multiset.card_eq_zero, reader.card_running, idle]
    rfl
  unfold Still
  split
  · trivial
  · next moves => exact (goes_works moves).world_eq none
  · next moves => exact (ends_works moves).world_eq none

end

end PacedCalls.Cache
