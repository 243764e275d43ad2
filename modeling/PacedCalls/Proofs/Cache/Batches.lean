import Mathlib.Algebra.Order.Sub.Basic
import Mathlib.Tactic.Abel
import PacedCalls.Proofs.Cache.Loads
import PacedCalls.Proofs.Cache.Looks
import PacedCalls.Proofs.Cache.Provenance
import PacedCalls.Proofs.Cache.Turns
import PacedCalls.Proofs.Cache.Waiting

/-!
Which calls of the loader a read of many keys makes. With its pass over the store it begins a batch
for each run of the keys that nobody has: they are cut into pieces in order, and all of them begin
at once. Later it begins nothing but single loads, each for a key whose flight it has joined and
which is lost.
-/

set_option autoImplicit false

namespace PacedCalls.Cache

/-- A list in pieces of a size, of which only the last one may be smaller. -/
structure Batched {α : Type} (size : ℕ) (keys : List α) (batches : List (List α)) : Prop where
  flatten : batches.flatten = keys
  full : ∀ batch ∈ batches.dropLast, batch.length = size
  filled : ∀ batch ∈ batches, batch ≠ []
  bounded : ∀ batch ∈ batches, batch.length ≤ size

section

variable {α β : Type} {size : ℕ}

theorem Batched.map {keys : List α} {batches : List (List α)} (h : Batched size keys batches)
    (f : α → β) : Batched size (keys.map f) (batches.map (·.map f)) where
  flatten := by rw [← List.map_flatten, h.flatten]
  full batch hb := by
    rw [← List.map_dropLast] at hb
    obtain ⟨piece, hp, rfl⟩ := List.mem_map.mp hb
    rw [List.length_map]
    exact h.full piece hp
  filled batch hb := by
    obtain ⟨piece, hp, rfl⟩ := List.mem_map.mp hb
    rw [ne_eq, List.map_eq_nil_iff]
    exact h.filled piece hp
  bounded batch hb := by
    obtain ⟨piece, hp, rfl⟩ := List.mem_map.mp hb
    rw [List.length_map]
    exact h.bounded piece hp

end

section

variable {K V E : Type} [DecidableEq K]

def State.Fallen (s : State K V E) (flight : ℕ) : Prop :=
  flight < s.flights.size ∧ s.flight flight = .lost

variable {s : State K V E} {flight now : ℕ} {d d' : Desk K V E}
  {held held' : Multiset (Holding K V E)} {gains : List (Gain K V E)}

theorem State.Fallen.retire (h : s.Fallen flight) (g : Guard K) : (s.retire g).Fallen flight := by
  refine ⟨by rw [retire_flights_size]; exact h.1, ?_⟩
  by_cases same : flight = g.flight
  · have lost : s.flight g.flight = .lost := same ▸ h.2
    have stays : (s.retire g).flights = s.flights := by
      simp only [State.retire]
      split
      · next aloft =>
        have aloft : s.flight g.flight = .aloft := aloft
        rw [lost] at aloft
        cases aloft
      · rfl
    rw [State.flight, stays]
    exact h.2
  · rw [State.flight_retire_of_ne same]
    exact h.2

theorem Act.fallen {before after rest : Multiset (Holding K V E)}
    (h : Act now d before gains d' after) (ho : Orderly d (before + rest))
    (hf : d.cache.Fallen flight) : d'.cache.Fallen flight := by
  obtain ⟨below, lost⟩ := hf
  cases h with
  | depart s l key hk =>
    refine ⟨?_, ?_⟩
    · simp only [State.launch, Array.size_push]
      exact Nat.lt_succ_of_lt below
    · rw [State.flight_launch, if_neg below.ne]
      exact lost
  | land s l g answer =>
    have aloft : s.flight g.flight = .aloft := ho.aloft g (by simp)
    have other : flight ≠ g.flight := by
      rintro rfl
      rw [aloft] at lost
      cases lost
    refine ⟨by simpa [State.publish] using below, ?_⟩
    rw [State.flight_publish, if_neg (by simp [other]), State.flight, State.keep_flights]
    exact lost
  | _ => exact ⟨below, lost⟩

theorem Acts.fallen (h : Acts now d held gains d' held') (ho : Orderly d held)
    (hf : d.cache.Fallen flight) : d'.cache.Fallen flight := by
  induction h with
  | done => exact hf
  | act rest h _ ih => exact ih (h.orderly ho) (h.fallen ho hf)
  | retire g safe _ ih => exact ih (ho.retire safe) (hf.retire g)

theorem Room.Step.fallen {R σ L B : Type} {loader : Loader (Event R) K V E σ L B}
    {outside : σ → σ → Prop} {room room' : Room K V E σ L B} (h : room.Sound)
    (step : Step loader outside room room') (hf : room.cache.Fallen flight) :
    room'.cache.Fallen flight := by
  rcases step.acts h with ⟨gains, acts⟩ | ⟨flights, -⟩
  · exact acts.fallen h.orderly hf
  · rwa [State.Fallen, State.flight, flights]

end

section

variable {R K V E σ L B : Type} [DecidableEq K] {loader : Loader (Event R) K V E σ L B} {now : ℕ}
  {s s' : State K V E} {w w' : σ} {events : List (Event R)}

/-- No call begins, or one for a single key; each that begins is counted. -/
inductive Calling (allowed : K → Prop) (s s' : State K V E) (calls calls' : Multiset (List K)) :
    Prop where
  | none_ (fewer : calls' ≤ calls) (loads : s'.stats.loads = s.stats.loads)
  | single (key : K) (may : allowed key) (more : calls' = [key] ::ₘ calls)
      (loads : s'.stats.loads = s.stats.loads + 1)

namespace Calling

variable {allowed more : K → Prop} {calls calls' : Multiset (List K)}

omit [DecidableEq K] in
theorem mono (h : Calling allowed s s' calls calls') (imp : ∀ key, allowed key → more key) :
    Calling more s s' calls calls' := by
  cases h with
  | none_ fewer loads => exact .none_ fewer loads
  | single key may more loads => exact .single key (imp key may) more loads

omit [DecidableEq K] in
theorem beside (h : Calling allowed s s' calls calls') (others : Multiset (List K)) :
    Calling allowed s s' (calls + others) (calls' + others) := by
  cases h with
  | none_ fewer loads => exact .none_ (add_le_add_left fewer others) loads
  | single key may more loads =>
    exact .single key may (by rw [more, Multiset.cons_add]) loads

theorem coe_diff (new old : List (List K)) :
    (new.diff old : Multiset (List K)) = (new : Multiset (List K)) - (old : Multiset (List K)) := by
  have same : (List.instBEq : BEq (List K)) = instBEqOfDecidableEq := lawful_beq_subsingleton ..
  rw [Multiset.coe_sub, same]

theorem begun {old new : List (List K)} (h : Calling allowed s s' (old : Multiset (List K)) new) :
    (new.diff old = [] ∨ ∃ key, allowed key ∧ new.diff old = [[key]]) ∧
      s'.stats.loads = s.stats.loads + (new.diff old).length := by
  cases h with
  | none_ fewer loads =>
    have none_ : new.diff old = [] := by
      rw [← Multiset.coe_eq_zero, coe_diff]
      exact tsub_eq_zero_of_le fewer
    rw [none_]
    exact ⟨.inl rfl, loads⟩
  | single key may more loads =>
    have one : new.diff old = [[key]] := by
      rw [← Multiset.coe_eq_singleton, coe_diff, more, ← Multiset.singleton_add]
      exact add_tsub_cancel_right ..
    rw [one]
    exact ⟨.inr ⟨key, may, rfl⟩, loads⟩

end Calling

/-- What a process does to the calls that are running with each of its moves. -/
structure Calls {α st : Type} (p : Process (Event R) (State K V E × σ) st α)
    (calls : st → List (List K)) (allowed : st → K → Prop) : Prop where
  goes : ∀ {now x x' s s' w w' events}, p.move now x (s, w) = .goes x' (s', w') events →
    Calling (allowed x) s s' (calls x : Multiset (List K)) (calls x')
  ends : ∀ {now x a s s' w w' events}, p.move now x (s, w) = .ends a (s', w') events →
    s'.stats.loads = s.stats.loads

omit [DecidableEq K] in
theorem Loader.Works.loads_eq {batches : Prop} {t t' : Traffic σ L B}
    (h : loader.Works now batches t t') (idle : t'.running = 0) : t'.loads = t.loads := by
  cases h with
  | begins n w running fresh =>
    obtain ⟨rfl, -⟩ := add_eq_zero.mp idle
    rfl
  | goes n running moves => rfl
  | ends n running moves => rfl

omit [DecidableEq K] in
theorem Loader.Drives.ends_loads {α st : Type} {batches : Prop}
    {p : Process (Event R) (State K V E × σ) st α} {running : st → Multiset (L ⊕ B)}
    (drives : loader.Drives batches p running) {x : st} {a : α}
    (h : p.move now x (s, w) = .ends a (s', w') events) : s'.stats.loads = s.stats.loads :=
  (drives.ends h).loads_eq rfl

theorem Read.calls_calling :
    Calls (Read.process loader) Read.calls fun read key => read.key = key where
  goes {now x x' s s' w w' events} h := by
    cases x with
    | looking key missed =>
      obtain ⟨hr, rfl, -⟩ := looking_goes h
      have looked := s.readStore_loads now key
      rw [hr] at looked
      exact .none_ le_rfl looked
    | claiming key missed =>
      have claimed := s.claim_loads now key
      obtain ⟨g, s₁, hc, rfl, rfl, -⟩ | ⟨flight, s₁, hc, rfl, rfl, -⟩ := claiming_goes h
      · rw [hc] at claimed
        have mine : ([[g.key]] : Multiset (List K)) = [key] ::ₘ 0 := by
          rw [State.claim_owner_key hc]
          rfl
        refine .single key rfl mine ?_
        cases missed <;> exact congrArg (· + 1) claimed
      · rw [hc] at claimed
        refine .none_ le_rfl ?_
        cases missed <;> exact claimed
    | loading g l =>
      obtain ⟨l', -, rfl, rfl⟩ := loading_goes h
      exact .none_ le_rfl rfl
    | waiting key flight =>
      obtain ⟨-, rfl, rfl, -⟩ := waiting_goes h
      exact .none_ le_rfl rfl
  ends h := (drives True).ends_loads h

theorem Chunk.calls_calling : Calls (Chunk.process loader) (fun chunk => [chunk.keys])
    fun _ _ => False where
  goes {now x x' s s' w w' events} h := by
    obtain ⟨guards, rfl⟩ := Chunk.goes h
    rw [Chunk.keys, Chunk.keys, guards]
    exact .none_ le_rfl rfl
  ends h := (drives True).ends_loads h

theorem Part.calls_calling : Calls (Part.process loader) Part.calls
    fun part k => ∃ key read, part = .reading key read ∧ read.key = k where
  goes {now x x' s s' w w' events} h := by
    cases x with
    | watching key flight =>
      obtain ⟨-, rfl, rfl, -⟩ := watching_goes h
      exact .none_ le_rfl rfl
    | reading key read =>
      obtain ⟨read', moves, rfl⟩ := reading_goes h
      exact (Read.calls_calling.goes moves).mono fun k same => ⟨key, read, rfl, same⟩
  ends h := (drives True).ends_loads h

def callsOf {α st : Type} (calls : st → List (List K)) (parts : List (st ⊕ α)) : List (List K) :=
  (parts.filterMap Sum.getLeft?).flatMap calls

omit [DecidableEq K] in
theorem callsOf_at {α st : Type} (calls : st → List (List K)) (before after : List (st ⊕ α))
    (x : st ⊕ α) :
    (callsOf calls (before ++ x :: after) : Multiset (List K)) =
      ((x.elim calls fun _ => [] : List (List K)) : Multiset (List K)) +
        (callsOf calls (before ++ after) : Multiset (List K)) := by
  cases x with
  | inl st =>
    simp only [callsOf, List.filterMap_append, List.filterMap_cons, Sum.getLeft?_inl,
      List.flatMap_append, List.flatMap_cons, Sum.elim_inl, ← Multiset.coe_add]
    abel
  | inr a =>
    simp only [callsOf, List.filterMap_append, List.filterMap_cons, Sum.getLeft?_inr, Sum.elim_inr,
      Multiset.coe_nil, zero_add]

omit [DecidableEq K] in
theorem Calls.all {α st : Type} {p : Process (Event R) (State K V E × σ) st α}
    {calls : st → List (List K)} {allowed : st → K → Prop} (c : Calls p calls allowed) :
    Calls p.all (callsOf calls) fun parts key => ∃ st, .inl st ∈ parts ∧ allowed st key where
  goes {now x x' s s' w w' events} h := by
    obtain ⟨before, after, st, st', rfl, rfl, move⟩ | ⟨before, after, st, a, rfl, rfl, move⟩ :=
      Process.all_goes h
    all_goals
      rw [callsOf_at, callsOf_at]
      refine Calling.beside ?_ _
    · exact (c.goes move).mono fun key may => ⟨st, by simp, may⟩
    · exact .none_ (Multiset.zero_le _) (c.ends move)
  ends {now x a s s' w w' events} h := by
    obtain ⟨-, same, -⟩ := Process.all_ends h
    cases same
    rfl

section

omit [DecidableEq K]

def Reader.Begun : Reader K V E L B → Prop
  | .many (.loading _ _ _ _ _ _) => True
  | .many (.joining _ _ _ _) => True
  | _ => False

def Reader.Awaits (key : K) (flight : ℕ) : Reader K V E L B → Prop
  | .many (.loading _ _ _ _ _ joined) => (key, flight) ∈ joined
  | .many (.joining _ _ _ parts) => .inl (.watching key flight) ∈ parts
  | _ => False

def Reader.Rereads (key : K) : Reader K V E L B → Prop
  | .many (.joining _ _ _ parts) => ∃ read, .inl (.reading key read) ∈ parts
  | _ => False

end

omit [DecidableEq K] in
theorem ReadAll.calls_join (keys : List K) (slots : List (Option (Lookup V E)))
    (resolved : List (K × Lookup V E)) (joined : List (K × ℕ)) :
    (join keys slots resolved joined : ReadAll K V E L B).calls = [] := by
  rw [← List.length_eq_zero_iff, ← card_running, join, running, runningOf_watched,
    Multiset.card_zero]

theorem Reader.calling {reader reader' : Reader K V E L B} (begun : reader.Begun)
    (whole : reader.Whole)
    (h : (process loader).move now reader (s, w) = .goes reader' (s', w') events) :
    Calling (fun key => reader.Rereads key) s s' (reader.calls : Multiset (List K))
      reader'.calls := by
  cases reader with
  | one read => exact begun.elim
  | many read =>
    obtain ⟨read', w₁, moves, rfl, rfl⟩ := Process.lift_goes h
    cases read with
    | looking keys slots => exact begun.elim
    | claiming keys slots c wanted => exact begun.elim
    | loading keys slots resolved guards chunks joined =>
      obtain ⟨chunks', goes, rfl⟩ | ⟨found, rfl, rfl, rfl, -⟩ := ReadAll.loading_goes moves
      · have calling := Chunk.calls_calling.all.goes goes
        simp only [callsOf, ← List.map_eq_flatMap] at calling
        refine calling.mono ?_
        rintro k ⟨chunk, -, no⟩
        exact no.elim
      · rw [calls, calls, ReadAll.calls_join]
        exact .none_ (Multiset.zero_le _) (s.retireAll_loads guards)
    | joining keys slots resolved parts =>
      obtain ⟨parts', goes, rfl⟩ := ReadAll.joining_goes moves
      refine (Part.calls_calling.all.goes goes).mono ?_
      rintro k ⟨part, hp, key, read, rfl, same⟩
      obtain ⟨-, -, parts_whole⟩ := whole
      have about : read.key = key := parts_whole _ hp
      exact ⟨read, about.symm.trans same ▸ hp⟩

section

variable {keys : List K} {slots : List (Option (Lookup V E))} {resolved : List (K × Lookup V E)}
  {joined : List (K × ℕ)} {key : K} {flight : ℕ}

omit [DecidableEq K] in
theorem Reader.mem_of_awaits_join
    (h : (many (.join keys slots resolved joined) : Reader K V E L B).Awaits key flight) :
    (key, flight) ∈ joined := by
  obtain ⟨p, hp, same⟩ := List.mem_map.mp h
  cases same
  exact hp

omit [DecidableEq K] in
theorem Reader.not_rereads_join :
    ¬ (many (.join keys slots resolved joined) : Reader K V E L B).Rereads key := by
  rintro ⟨read, h⟩
  obtain ⟨p, hp, same⟩ := List.mem_map.mp h
  cases same

end

/-- No flight is joined later, and a key is read anew when its flight is lost. -/
theorem Reader.begun_goes {reader reader' : Reader K V E L B} (begun : reader.Begun)
    (h : (process loader).move now reader (s, w) = .goes reader' (s', w') events) :
    reader'.Begun ∧ (∀ key flight, reader'.Awaits key flight → reader.Awaits key flight) ∧
      ∀ key, reader'.Rereads key →
        reader.Rereads key ∨ ∃ flight, reader.Awaits key flight ∧ s.flight flight = .lost := by
  cases reader with
  | one read => exact begun.elim
  | many read =>
    obtain ⟨read', w₁, moves, rfl, rfl⟩ := Process.lift_goes h
    cases read with
    | looking keys slots => exact begun.elim
    | claiming keys slots c wanted => exact begun.elim
    | loading keys slots resolved guards chunks joined =>
      obtain ⟨chunks', -, rfl⟩ | ⟨found, -, rfl, -, -⟩ := ReadAll.loading_goes moves
      · exact ⟨trivial, fun _ _ awaited => awaited, fun _ anew => anew.elim⟩
      · exact ⟨trivial, fun _ _ => mem_of_awaits_join, fun _ anew => absurd anew not_rereads_join⟩
    | joining keys slots resolved parts =>
      obtain ⟨parts', goes, rfl⟩ := ReadAll.joining_goes moves
      obtain ⟨before, after, part, part', rfl, rfl, move⟩ |
        ⟨before, after, part, found, rfl, rfl, move⟩ := Process.all_goes goes
      · cases part with
        | watching k f =>
          obtain ⟨lost, rfl, -⟩ := Part.watching_goes move
          refine ⟨trivial, fun key flight awaited => Process.mem_of_ne awaited (by simp), ?_⟩
          rintro key ⟨read, anew⟩
          by_cases mine : key = k
          · subst mine
            exact .inr ⟨f, by simp [Awaits], lost⟩
          · exact .inl ⟨read, Process.mem_of_ne anew (by simp [mine])⟩
        | reading k r =>
          obtain ⟨r', -, rfl⟩ := Part.reading_goes move
          refine ⟨trivial, fun key flight awaited => Process.mem_of_ne awaited (by simp), ?_⟩
          rintro key ⟨read, anew⟩
          by_cases mine : key = k
          · subst mine
            exact .inl ⟨r, by simp⟩
          · exact .inl ⟨read, Process.mem_of_ne anew (by simp [mine])⟩
      · refine ⟨trivial, fun key flight awaited => Process.mem_of_ne awaited (by simp), ?_⟩
        rintro key ⟨read, anew⟩
        exact .inl ⟨read, Process.mem_of_ne anew (by simp)⟩

namespace ReadAll

end ReadAll

def Turn.begun (loader : Loader (Event R) K V E σ L B) (t : Turn K V E σ L B) : List (List K) :=
  match t.move loader with
  | .goes reader _ _ => reader.calls.diff t.reader.calls
  | _ => []

theorem Turn.begun_of_begun {t : Turn K V E σ L B} (begun : t.reader.Begun)
    (whole : t.reader.Whole) :
    (t.begun loader = [] ∨ ∃ key, t.reader.Rereads key ∧ t.begun loader = [[key]]) ∧
      (t.after loader).stats.loads = t.cache.stats.loads + (t.begun loader).length := by
  unfold Turn.begun Turn.after
  cases moves : t.move loader with
  | waits wake => exact ⟨.inl rfl, rfl⟩
  | goes reader w events => exact (Reader.calling begun whole moves).begun
  | ends answers w events => exact ⟨.inl rfl, (Reader.ends_works moves).loads_eq rfl⟩

namespace Room

variable {outside : σ → σ → Prop} {room room' a b : Room K V E σ L B} {n : ℕ}
  {joined : K → ℕ → Prop} {c : Config} {world : σ} {start : ℕ}

/-- The visitor with a number, if it is there, has had its batches begun; it waits for nothing but
flights it has joined, and reads no key anew but that of such a flight which is lost. -/
def Pursues (n : ℕ) (joined : K → ℕ → Prop) (room : Room K V E σ L B) : Prop :=
  ∀ u ∈ room.visits, u.number = n → u.reader.Begun ∧
    (∀ key flight, u.reader.Awaits key flight → joined key flight) ∧
    ∀ key, u.reader.Rereads key → ∃ flight, joined key flight ∧ room.cache.Fallen flight

theorem Pursues.step (h : room.Pursues n joined) (sound : room.Sound) (come : n < room.admitted)
    (below : ∀ key flight, joined key flight → flight < room.cache.flights.size)
    (step : Step loader outside room room') : room'.Pursues n joined := by
  have still {key : K} (lost : ∃ flight, joined key flight ∧ room.cache.Fallen flight) :
      ∃ flight, joined key flight ∧ room'.cache.Fallen flight := by
    obtain ⟨flight, mine, fallen⟩ := lost
    exact ⟨flight, mine, step.fallen sound fallen⟩
  intro u hu number
  rcases step.visits_cases u hu with hu | ⟨new, -⟩ | ⟨v, hv, same, events, moves⟩
  · obtain ⟨begun, awaits, rereads⟩ := h u hu number
    exact ⟨begun, awaits, fun key anew => still (rereads key anew)⟩
  · -- Who arrives now has a number of its own.
    omega
  · obtain ⟨begun, awaits, rereads⟩ := h v hv (same.trans number)
    obtain ⟨begun', awaits', rereads'⟩ := Reader.begun_goes begun moves
    refine ⟨begun', fun key flight awaited => awaits key flight (awaits' key flight awaited),
      fun key anew => still ?_⟩
    rcases rereads' key anew with anew | ⟨flight, awaited, lost⟩
    · exact rereads key anew
    · have mine := awaits key flight awaited
      exact ⟨flight, mine, below key flight mine, lost⟩

theorem Pursues.reach (h : room.Pursues n joined) (sound : room.Sound) (come : n < room.admitted)
    (below : ∀ key flight, joined key flight → flight < room.cache.flights.size)
    (run : Reach loader outside room room') : room'.Pursues n joined := by
  induction run with
  | refl => exact h
  | tail before step ih =>
    have since := Since.reach sound before
    refine ih.step (sound.reach before) (come.trans_le (Reach.admitted_le before)) ?_ step
    exact fun key flight mine => (below key flight mine).trans_le since.desk.size

theorem Pursues.turn (h : room.Pursues n joined) (sound : room.Sound) {u : Visit K V E L B}
    (hu : u ∈ room.visits) (number : u.number = n) :
    ((u.turn room).begun loader = [] ∨ ∃ key flight, joined key flight ∧
        room.cache.flight flight = .lost ∧ (u.turn room).begun loader = [[key]]) ∧
      ((u.turn room).after loader).stats.loads =
        room.cache.stats.loads + ((u.turn room).begun loader).length := by
  obtain ⟨begun, -, rereads⟩ := h u hu number
  obtain ⟨calls, loads⟩ := Turn.begun_of_begun (t := u.turn room) begun (sound.visits u hu).whole
  refine ⟨calls.imp id ?_, loads⟩
  rintro ⟨key, anew, eq⟩
  obtain ⟨flight, mine, -, lost⟩ := rereads key anew
  exact ⟨key, flight, mine, lost, eq⟩

end Room

end

end PacedCalls.Cache
