import Mathlib.Tactic.Abel
import PacedCalls.Proofs.Cache.Acts

set_option autoImplicit false

namespace PacedCalls.Cache

section

variable {K V E : Type}

theorem landed_own_cons (now : Nat) (g : Guard K) (answer : Lookup V E) (gains : List (Gain K V E))
    (l : List (Landing K V E)) :
    landed now ({ key := g.key, answer := answer, flight := g.flight, own := true } :: gains) l =
      landed now gains
        ({ key := g.key, flight := g.flight, answer := answer, moment := now } :: l) := by
  simp [landed, Gain.landing?]

theorem Chunk.gains_cons (g : Guard K) (guards : List (Guard K)) (x : K × Lookup V E)
    (found : List (K × Lookup V E)) :
    Chunk.gains (g :: guards) (x :: found) =
      { key := g.key, answer := x.2, flight := g.flight, own := true } ::
        Chunk.gains guards found :=
  rfl

theorem landed_of_not_own (now : Nat) {gains : List (Gain K V E)} (l : List (Landing K V E))
    (h : ∀ x ∈ gains, x.own = false) : landed now gains l = l := by
  have hn : gains.filterMap (Gain.landing? now) = [] := by
    rw [List.filterMap_eq_nil_iff]
    intro x hx
    simp [Gain.landing?, h x hx]
  simp [landed, hn]

theorem Gain.own_stored {origin : K → Option Nat} {found : K × Lookup V E} {x : Gain K V E}
    (h : x ∈ Gain.stored origin found) : x.own = false := by
  simp only [Gain.stored, List.mem_map] at h
  obtain ⟨f, -, rfl⟩ := h
  rfl

theorem landed_stored_one (now : Nat) (origin : K → Option Nat) (found : K × Lookup V E)
    (l : List (Landing K V E)) : landed now (Gain.stored origin found) l = l :=
  landed_of_not_own now l fun _ hx => Gain.own_stored hx

theorem landed_stored (now : Nat) (origin : K → Option Nat) (found : List (K × Lookup V E))
    (l : List (Landing K V E)) : landed now (found.flatMap (Gain.stored origin)) l = l := by
  refine landed_of_not_own now l fun x hx => ?_
  obtain ⟨p, -, hp⟩ := List.mem_flatMap.mp hx
  exact Gain.own_stored hp

theorem answersHeld_append (a b : List (K × Lookup V E)) :
    answersHeld (a ++ b) = answersHeld a + answersHeld b := by
  simp [answersHeld, ← Multiset.coe_add]

theorem answersHeld_cons (x : K × Lookup V E) (a : List (K × Lookup V E)) :
    answersHeld (x :: a) = {.answer x.1 x.2} + answersHeld a := by
  rw [Multiset.singleton_add]
  rfl

theorem mem_answersHeld {found : List (K × Lookup V E)} {p : K × Lookup V E} (h : p ∈ found) :
    .answer p.1 p.2 ∈ answersHeld found :=
  Multiset.mem_coe.mpr (List.mem_map.mpr ⟨p, h, rfl⟩)

theorem answersHeld_flatten (found : List (List (K × Lookup V E))) :
    answersHeld found.flatten = (found.map answersHeld).sum := by
  induction found with
  | nil => rfl
  | cons first rest ih => simp [answersHeld_append, ih]

theorem guardsHeld_cons (g : Guard K) (guards : List (Guard K)) :
    (guardsHeld (g :: guards) : Multiset (Holding K V E)) = {.guard g} + guardsHeld guards := by
  rw [Multiset.singleton_add]
  rfl

theorem loadsHeld_cons (g : Guard K) (guards : List (Guard K)) :
    (loadsHeld (g :: guards) : Multiset (Holding K V E)) = {.load g} + loadsHeld guards := by
  rw [Multiset.singleton_add]
  rfl

@[simp]
theorem loadsOf_guardsHeld (guards : List (Guard K)) :
    loadsOf (guardsHeld guards : Multiset (Holding K V E)) = 0 := by
  induction guards with
  | nil => rfl
  | cons g guards ih => simp [guardsHeld_cons, ih, Holding.load?]

theorem waitsHeld_cons (x : K × Nat) (joined : List (K × Nat)) :
    (waitsHeld (x :: joined) : Multiset (Holding K V E)) = {.wait x.1 x.2} + waitsHeld joined := by
  rw [Multiset.singleton_add]
  rfl

theorem ReadAll.seen_cons (key : K) (keys : List K) (slot : Option (Lookup V E))
    (slots : List (Option (Lookup V E))) :
    ReadAll.seen (key :: keys) (slot :: slots) = slot.toList.map (key, ·) ++ seen keys slots := by
  cases slot <;> rfl

@[simp]
theorem loadsOf_answersHeld (found : List (K × Lookup V E)) : loadsOf (answersHeld found) = 0 := by
  induction found with
  | nil => rfl
  | cons x found ih => simp [answersHeld_cons, ih, Holding.load?]

@[simp]
theorem guardsOf_answersHeld (found : List (K × Lookup V E)) :
    guardsOf (answersHeld found) = 0 := by
  induction found with
  | nil => rfl
  | cons x found ih => simp [answersHeld_cons, ih, Holding.guard?]

@[simp]
theorem guardsOf_loadsHeld (guards : List (Guard K)) :
    guardsOf (loadsHeld guards : Multiset (Holding K V E)) = 0 := by
  induction guards with
  | nil => rfl
  | cons g guards ih => simp [loadsHeld_cons, ih, Holding.guard?]

theorem guardsOf_guardsHeld (guards : List (Guard K)) :
    guardsOf (guardsHeld guards : Multiset (Holding K V E)) = guards := by
  induction guards with
  | nil => rfl
  | cons g guards ih => rw [guardsHeld_cons, guardsOf_guard_add, ih, Multiset.cons_coe]

theorem loadsOf_loadsHeld (guards : List (Guard K)) :
    loadsOf (loadsHeld guards : Multiset (Holding K V E)) = guards := by
  induction guards with
  | nil => rfl
  | cons g guards ih => rw [loadsHeld_cons, loadsOf_load_add, ih, Multiset.cons_coe]

@[simp]
theorem guardsOf_waitsHeld (joined : List (K × Nat)) :
    guardsOf (waitsHeld joined : Multiset (Holding K V E)) = 0 := by
  induction joined with
  | nil => rfl
  | cons x joined ih => simp [waitsHeld_cons, ih, Holding.guard?]

@[simp]
theorem loadsOf_waitsHeld (joined : List (K × Nat)) :
    loadsOf (waitsHeld joined : Multiset (Holding K V E)) = 0 := by
  induction joined with
  | nil => rfl
  | cons x joined ih => simp [waitsHeld_cons, ih, Holding.load?]

theorem guardsHeld_append (a b : List (Guard K)) :
    (guardsHeld (a ++ b) : Multiset (Holding K V E)) = guardsHeld a + guardsHeld b := by
  simp [guardsHeld, ← Multiset.coe_add]

theorem waitsHeld_append (a b : List (K × Nat)) :
    (waitsHeld (a ++ b) : Multiset (Holding K V E)) = waitsHeld a + waitsHeld b := by
  simp [waitsHeld, ← Multiset.coe_add]

theorem loadsHeld_append (a b : List (Guard K)) :
    (loadsHeld (a ++ b) : Multiset (Holding K V E)) = loadsHeld a + loadsHeld b := by
  simp [loadsHeld, ← Multiset.coe_add]

/-- What a batch says of a key: what it found, an absence if it left the key out, or its failure. -/
def batchAnswer [DecidableEq K] (result : Except E (List (K × V))) (key : K) : Lookup V E :=
  match result with
  | .ok values => .ofOption (values.lookup key)
  | .error e => .error e

def Claim.gains (origin : K → Option Nat) (key : K) : Claim K V E → List (Gain K V E)
  | .stored result => Gain.stored origin (key, result)
  | _ => []

def Claim.held (key : K) : Claim K V E → Multiset (Holding K V E)
  | .stored result => {.answer key result}
  | .owner g => {.guard g} + {.load g}
  | .joined flight => {.wait key flight}

theorem Claims.held_add (c : Claims K V E) (key : K) (claim : Claim K V E) :
    (c.add key claim).held = claim.held key + c.held := by
  cases claim with
  | stored result =>
    simp only [Claims.add, Claims.held, Claim.held, answersHeld_append, answersHeld_cons]
    simp only [answersHeld, List.map_nil, Multiset.coe_nil]
    abel
  | owner g =>
    simp only [Claims.add, Claims.held, Claim.held, guardsHeld_append, guardsHeld_cons,
      loadsHeld_append, loadsHeld_cons]
    simp only [guardsHeld, loadsHeld, List.map_nil, Multiset.coe_nil]
    abel
  | joined flight =>
    simp only [Claims.add, Claims.held, Claim.held, waitsHeld_append, waitsHeld_cons]
    simp only [waitsHeld, List.map_nil, Multiset.coe_nil]
    abel

theorem Claims.gains_add (origin : K → Option Nat) (c : Claims K V E) (key : K)
    (claim : Claim K V E) :
    ((c.add key claim).resolved.drop c.resolved.length).flatMap (Gain.stored origin) =
      claim.gains origin key := by
  cases claim <;> simp [Claims.add, Claim.gains]

end

section

variable {K V E : Type} [DecidableEq K]

namespace State

theorem glance_acts (s : State K V E) (key : K) (now : Nat) (l : List (Landing K V E))
    (rest : Multiset (Holding K V E)) :
    Acts now ⟨s, l⟩ rest [] ⟨{ s with store := (s.store.read key now).2 }, l⟩ rest :=
  .quiet (.glance s l key) rest

theorem count_acts (s : State K V E) (f : Stats → Stats) (now : Nat) (l : List (Landing K V E))
    (held : Multiset (Holding K V E)) : Acts now ⟨s, l⟩ held [] ⟨s.count f, l⟩ held :=
  .quiet (.tally s l f) held

theorem land_acts (s : State K V E) (g : Guard K) (answer : Lookup V E) (now : Nat)
    (l : List (Landing K V E)) (rest : Multiset (Holding K V E)) :
    Acts now ⟨s, l⟩ ({.load g} + rest)
      [{ key := g.key, answer := answer, flight := g.flight, own := true }]
      ⟨(s.keep g answer now).publish g answer,
        { key := g.key, flight := g.flight, answer := answer, moment := now } :: l⟩
      ({.answer g.key answer} + rest) :=
  .single (.land s l g answer) rest

theorem readStore_acts {s s' : State K V E} {key : K} {now : Nat} {slot : Option (Lookup V E)}
    (h : s.readStore key now = (slot, s')) (l : List (Landing K V E))
    (rest : Multiset (Holding K V E)) :
    Acts now ⟨s, l⟩ rest (slot.toList.flatMap fun a => Gain.stored (origin l) (key, a)) ⟨s', l⟩
      (answersHeld (slot.toList.map (key, ·)) + rest) := by
  simp only [readStore] at h
  split at h
  · next value hr =>
    cases h
    have acts := (Acts.fresh (Act.hit s l key value hr) rest).tallied
      fun t => { t with hits := t.hits + 1 }
    simpa [answersHeld] using acts
  · next hr =>
    cases h
    have acts := (s.glance_acts key now l rest).tallied
      fun t => { t with expirations := t.expirations + 1 }
    simpa [answersHeld] using acts
  · next hr =>
    cases h
    simpa [answersHeld] using s.glance_acts key now l rest

theorem readStore_none_acts {s s' : State K V E} {key : K} {now : Nat}
    (h : s.readStore key now = (none, s')) (l : List (Landing K V E))
    (rest : Multiset (Holding K V E)) : Acts now ⟨s, l⟩ rest [] ⟨s', l⟩ rest := by
  simpa [answersHeld] using readStore_acts h l rest

theorem claim_acts {s s' : State K V E} {key : K} {now : Nat} {c : Claim K V E}
    (h : s.claim key now = (c, s')) (l : List (Landing K V E))
    (rest : Multiset (Holding K V E)) :
    Acts now ⟨s, l⟩ rest (c.gains (origin l) key) ⟨s', l⟩ (c.held key + rest) := by
  simp only [claim] at h
  split at h
  · next value hr =>
    cases h
    exact (Acts.fresh (Act.hit s l key value hr) rest).tallied _
  · have looked := s.glance_acts key now l rest
    split at h
    · next flight hf =>
      cases h
      exact looked.before (.fresh (.join { s with store := (s.store.read key now).2 } l key flight hf) rest)
    · next hf =>
      cases h
      exact looked.before (.fresh (.depart { s with store := (s.store.read key now).2 } l key hf) rest)

theorem claim_owner_key {s s' : State K V E} {key : K} {now : Nat} {g : Guard K}
    (h : s.claim key now = (.owner g, s')) : g.key = key := by
  simp only [claim] at h
  split at h
  · cases h
  · split at h
    · cases h
    · cases h
      rfl

theorem countClaim_acts (s : State K V E) (c : Claim K V E) (now : Nat) (l : List (Landing K V E))
    (held : Multiset (Holding K V E)) : Acts now ⟨s, l⟩ held [] ⟨s.countClaim c, l⟩ held := by
  have missed := s.count_acts (fun t => { t with misses := t.misses + 1 }) now l held
  cases c with
  | stored result => exact .done _ _
  | owner g => exact missed
  | joined flight => exact missed.tallied fun t => { t with coalesced := t.coalesced + 1 }

theorem settle_acts (s : State K V E) (g : Guard K) (answer : Lookup V E) (now : Nat)
    (l : List (Landing K V E)) {rest : Multiset (Holding K V E)} (hr : Covered rest) :
    Acts now ⟨s, l⟩ ({.guard g} + {.load g} + rest)
      [{ key := g.key, answer := answer, flight := g.flight, own := true }]
      ⟨s.settle g answer now,
        { key := g.key, flight := g.flight, answer := answer, moment := now } :: l⟩
      ({.answer g.key answer} + rest) := by
  have safe : Covered ({.answer g.key answer} + rest) := (covered_of_loadsOf rfl).add hr
  have start : ({.guard g} + {.load g} + rest : Multiset (Holding K V E)) =
      {.load g} + ({.guard g} + rest) := by abel
  have finish : ({.answer g.key answer} + ({.guard g} + rest) : Multiset (Holding K V E)) =
      {.guard g} + ({.answer g.key answer} + rest) := by abel
  rw [start]
  cases hv : answer.settled? with
  | some value =>
    have lands := (s.land_acts g answer now l ({.guard g} + rest)).holding finish
    simp only [settle, keep, hv] at lands ⊢
    exact lands.andThen (.retire g safe (.done _ _))
  | none =>
    have fails := s.count_acts (fun t => { t with loadFailures := t.loadFailures + 1 }) now l
      ({.load g} + ({.guard g} + rest))
    have lands := (s.countLoadFailure.land_acts g answer now l ({.guard g} + rest)).holding finish
    simp only [settle, keep, hv] at lands ⊢
    exact (fails.before lands).andThen (.retire g safe (.done _ _))

theorem settleChunk_cons (s : State K V E) (now : Nat) (result : Except E (List (K × V)))
    (g : Guard K) (guards : List (Guard K)) :
    s.settleChunk now result (g :: guards) =
      ((g.key, batchAnswer result g.key) ::
        (((s.keep g (batchAnswer result g.key) now).publish g (batchAnswer result g.key)).settleChunk now
          result guards).1,
        (((s.keep g (batchAnswer result g.key) now).publish g (batchAnswer result g.key)).settleChunk now
          result guards).2) := by
  cases result with
  | ok values =>
    simp only [settleChunk, batchAnswer, keep, Lookup.settled?_ofOption]
  | error e => simp only [settleChunk, batchAnswer, keep, Lookup.settled?]

theorem settleChunk_acts {guards : List (Guard K)} {s s' : State K V E} {now : Nat}
    {result : Except E (List (K × V))} {found : List (K × Lookup V E)}
    (h : s.settleChunk now result guards = (found, s')) (l : List (Landing K V E))
    (rest : Multiset (Holding K V E)) :
    found.map (·.1) = guards.map (·.key) ∧
      Acts now ⟨s, l⟩ (loadsHeld guards + rest) (Chunk.gains guards found)
        ⟨s', landed now (Chunk.gains guards found) l⟩ (answersHeld found + rest) := by
  induction guards generalizing s found l rest with
  | nil =>
    cases h
    exact ⟨rfl, .done _ _⟩
  | cons g guards ih =>
    rw [settleChunk_cons] at h
    cases h
    obtain ⟨hkeys, acts⟩ := ih rfl
      ({ key := g.key, flight := g.flight, answer := batchAnswer result g.key, moment := now } :: l)
      ({.answer g.key (batchAnswer result g.key)} + rest)
    refine ⟨by simp [hkeys], ?_⟩
    have lands := (s.land_acts g (batchAnswer result g.key) now l (loadsHeld guards + rest)).holding
      (add_left_comm ..)
    rw [loadsHeld_cons, answersHeld_cons, add_assoc, Chunk.gains_cons, landed_own_cons]
    exact (lands.trans acts).holding (by abel)

theorem retireAll_acts (guards : List (Guard K)) (s : State K V E) (now : Nat)
    (l : List (Landing K V E)) {rest : Multiset (Holding K V E)} (hr : Covered rest) :
    Acts now ⟨s, l⟩ (guardsHeld guards + rest) [] ⟨s.retireAll guards, l⟩ rest := by
  induction guards generalizing s with
  | nil =>
    simpa [guardsHeld, retireAll] using Acts.done _ _
  | cons g guards ih =>
    rw [guardsHeld_cons, add_assoc]
    exact .retire g ((covered_of_loadsOf (loadsOf_guardsHeld guards)).add hr) (ih (s.retire g))

end State

end

end PacedCalls.Cache
