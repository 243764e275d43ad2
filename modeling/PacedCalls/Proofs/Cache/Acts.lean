import Mathlib.Data.Multiset.Filter
import Mathlib.Data.Multiset.OrderedMonoid
import Mathlib.Algebra.BigOperators.Group.Multiset.Basic
import PacedCalls.Proofs.Cache.Room

/-!
What readers hold, and the single acts that their moves are made of. A move of a reader is a
sequence of acts on the desk, the part of a room that all readers share; every law about the
interplay of readers is proved for one act and carried over.
-/

set_option autoImplicit false

namespace PacedCalls.Cache

/-- What a reader may hold. -/
inductive Holding (K V E : Type) where
  | guard (g : Guard K)
  /-- The flight of a guard is still to be landed: by a call of the loader for its key, which is
  running or about to begin. -/
  | load (g : Guard K)
  | wait (key : K) (flight : Nat)
  | answer (key : K) (result : Lookup V E)

/-- The cache, and which loads returned when. -/
structure Desk (K V E : Type) where
  cache : State K V E
  landings : List (Landing K V E)

section

variable {K V E σ L B : Type}

def Room.desk (room : Room K V E σ L B) : Desk K V E :=
  { cache := room.cache, landings := room.landings }

def Holding.guard? : Holding K V E → Option (Guard K)
  | guard g => some g
  | _ => none

def Holding.load? : Holding K V E → Option (Guard K)
  | load g => some g
  | _ => none

def guardsOf (held : Multiset (Holding K V E)) : Multiset (Guard K) :=
  held.filterMap Holding.guard?

def loadsOf (held : Multiset (Holding K V E)) : Multiset (Guard K) :=
  held.filterMap Holding.load?

/-- Each load is made under a guard of its own. -/
def Covered (held : Multiset (Holding K V E)) : Prop := loadsOf held ≤ guardsOf held

def answersHeld (found : List (K × Lookup V E)) : Multiset (Holding K V E) :=
  (found.map fun x => .answer x.1 x.2 : List (Holding K V E))

def guardsHeld (guards : List (Guard K)) : Multiset (Holding K V E) :=
  (guards.map .guard : List (Holding K V E))

def loadsHeld (guards : List (Guard K)) : Multiset (Holding K V E) :=
  (guards.map .load : List (Holding K V E))

def waitsHeld (joined : List (K × Nat)) : Multiset (Holding K V E) :=
  (joined.map fun x => .wait x.1 x.2 : List (Holding K V E))

def Read.held : Read K L → Multiset (Holding K V E)
  | .looking _ _ => 0
  | .claiming _ _ => 0
  | .loading g _ => {.guard g} + {.load g}
  | .waiting key flight => {.wait key flight}

def Part.held : Part K L → Multiset (Holding K V E)
  | .watching key flight => {.wait key flight}
  | .reading _ read => read.held

def partsHeld (parts : List (Part K L ⊕ (K × Lookup V E))) : Multiset (Holding K V E) :=
  (parts.map (Sum.elim Part.held fun x => {.answer x.1 x.2})).sum

def chunksHeld (chunks : List (Chunk K B ⊕ List (K × Lookup V E))) : Multiset (Holding K V E) :=
  (chunks.map (Sum.elim (fun chunk => loadsHeld chunk.guards) answersHeld)).sum

/-- What a reader holds that has claimed some keys and has begun no load yet. -/
def Claims.held (c : Claims K V E) : Multiset (Holding K V E) :=
  answersHeld c.resolved + guardsHeld c.owned + loadsHeld c.owned + waitsHeld c.joined

def ReadAll.held : ReadAll K V E L B → Multiset (Holding K V E)
  | .looking keys slots => answersHeld (seen keys slots)
  | .claiming keys slots claims _ => answersHeld (seen keys slots) + claims.held
  | .loading keys slots resolved guards chunks joined =>
    answersHeld (seen keys slots ++ resolved) + guardsHeld guards +
      chunksHeld chunks + waitsHeld joined
  | .joining keys slots resolved parts =>
    answersHeld (seen keys slots ++ resolved) + partsHeld parts

def Reader.held : Reader K V E L B → Multiset (Holding K V E)
  | .one read => read.held
  | .many read => read.held

def heldBy (visits : List (Visit K V E L B)) : Multiset (Holding K V E) :=
  (visits.map (·.reader.held)).sum

@[simp]
theorem guardsOf_add (a b : Multiset (Holding K V E)) :
    guardsOf (a + b) = guardsOf a + guardsOf b :=
  Multiset.filterMap_add ..

@[simp]
theorem loadsOf_add (a b : Multiset (Holding K V E)) : loadsOf (a + b) = loadsOf a + loadsOf b :=
  Multiset.filterMap_add ..

@[simp]
theorem guardsOf_singleton (h : Holding K V E) :
    guardsOf {h} = (h.guard?.toList : Multiset (Guard K)) := by
  cases h <;> rfl

@[simp]
theorem loadsOf_singleton (h : Holding K V E) :
    loadsOf {h} = (h.load?.toList : Multiset (Guard K)) := by
  cases h <;> rfl

@[simp]
theorem guardsOf_cons (h : Holding K V E) (held : Multiset (Holding K V E)) :
    guardsOf (h ::ₘ held) = (h.guard?.toList : Multiset (Guard K)) + guardsOf held := by
  rw [← Multiset.singleton_add, guardsOf_add, guardsOf_singleton]

@[simp]
theorem loadsOf_cons (h : Holding K V E) (held : Multiset (Holding K V E)) :
    loadsOf (h ::ₘ held) = (h.load?.toList : Multiset (Guard K)) + loadsOf held := by
  rw [← Multiset.singleton_add, loadsOf_add, loadsOf_singleton]

theorem guardsOf_guard_add (g : Guard K) (rest : Multiset (Holding K V E)) :
    guardsOf ({.guard g} + rest) = g ::ₘ guardsOf rest := by
  rw [guardsOf_add, guardsOf_singleton]
  rfl

theorem loadsOf_load_add (g : Guard K) (rest : Multiset (Holding K V E)) :
    loadsOf ({.load g} + rest) = g ::ₘ loadsOf rest := by
  rw [loadsOf_add, loadsOf_singleton]
  rfl

theorem mem_guardsOf {g : Guard K} {held : Multiset (Holding K V E)} :
    g ∈ guardsOf held ↔ .guard g ∈ held := by
  simp only [guardsOf, Multiset.mem_filterMap]
  constructor
  · rintro ⟨h, hm, hg⟩
    cases h <;> simp_all [Holding.guard?]
  · intro h
    exact ⟨.guard g, h, rfl⟩

theorem mem_loadsOf {g : Guard K} {held : Multiset (Holding K V E)} :
    g ∈ loadsOf held ↔ .load g ∈ held := by
  simp only [loadsOf, Multiset.mem_filterMap]
  constructor
  · rintro ⟨h, hm, hg⟩
    cases h <;> simp_all [Holding.load?]
  · intro h
    exact ⟨.load g, h, rfl⟩

theorem covered_zero : Covered (0 : Multiset (Holding K V E)) := le_refl _

theorem Covered.add {a b : Multiset (Holding K V E)} (ha : Covered a) (hb : Covered b) :
    Covered (a + b) := by
  simp only [Covered, guardsOf_add, loadsOf_add] at *
  exact add_le_add ha hb

theorem covered_of_loadsOf {held : Multiset (Holding K V E)} (h : loadsOf held = 0) :
    Covered held := by
  simp only [Covered, h]
  exact Multiset.zero_le _

def State.keep [DecidableEq K] (s : State K V E) (g : Guard K) (answer : Lookup V E) (now : Nat) :
    State K V E :=
  match answer.settled? with
  | some value => s.insert g.key value now
  | none => s

def State.launch (s : State K V E) (key : K) : State K V E :=
  { s with underWay := (key, s.flights.size) :: s.underWay, flights := s.flights.push .aloft }

theorem State.flight_launch (s : State K V E) (key : K) (n : Nat) :
    (s.launch key).flight n = if n = s.flights.size then .aloft else s.flight n := by
  simp only [flight, launch, Array.getD_eq_getD_getElem?, Array.getElem?_push]
  split <;> simp_all

section

variable [DecidableEq K]

@[simp]
theorem State.keep_underWay (s : State K V E) (g : Guard K) (answer : Lookup V E) (now : Nat) :
    (s.keep g answer now).underWay = s.underWay := by
  unfold keep
  split <;> simp

@[simp]
theorem State.keep_flights (s : State K V E) (g : Guard K) (answer : Lookup V E) (now : Nat) :
    (s.keep g answer now).flights = s.flights := by
  unfold keep
  split <;> simp

theorem State.keep_ttl (s : State K V E) (g : Guard K) (answer : Lookup V E) (now : Nat) :
    (s.keep g answer now).store.ttl = s.store.ttl := by
  unfold keep
  split
  · rw [insert_store, Store.insert_ttl]
  · rfl

/-- Nothing is stored but what has just landed, and for its own key only. -/
theorem State.mem_keep {s : State K V E} {g : Guard K} {answer : Lookup V E} {now : Nat}
    {e : Entry K V} (h : e ∈ (s.keep g answer now).store.entries) :
    (∃ value, answer.settled? = some value ∧ e = { key := g.key, value := value, since := now }) ∨
      e ∈ s.store.entries ∧ (answer.settled?.isSome → e.key ≠ g.key) := by
  unfold keep at h
  split at h
  · next value hv =>
    rw [insert_store] at h
    rcases Store.mem_insert h with rfl | ⟨hm, hk⟩
    · exact .inl ⟨value, hv, rfl⟩
    · exact .inr ⟨hm, fun _ => hk⟩
  · exact .inr ⟨h, by simp_all⟩

end

end

section

variable {K V E : Type} [DecidableEq K]

/-- A single act at an instant, on the desk and on what is held for it. A guard is given back by an
act of its own kind, since that depends on what else is held. -/
inductive Act (now : Nat) :
    Desk K V E → Multiset (Holding K V E) → List (Gain K V E) → Desk K V E →
      Multiset (Holding K V E) → Prop where
  | tally (s : State K V E) (l : List (Landing K V E)) (f : Stats → Stats) :
      Act now ⟨s, l⟩ 0 [] ⟨s.count f, l⟩ 0
  | glance (s : State K V E) (l : List (Landing K V E)) (key : K) :
      Act now ⟨s, l⟩ 0 [] ⟨{ s with store := (s.store.read key now).2 }, l⟩ 0
  | hit (s : State K V E) (l : List (Landing K V E)) (key : K) (value : Option V)
      (h : (s.store.read key now).1 = .hit value) :
      Act now ⟨s, l⟩ 0 (Gain.stored (origin l) (key, .ofOption value))
        ⟨{ s with store := (s.store.read key now).2 }, l⟩ {.answer key (.ofOption value)}
  | depart (s : State K V E) (l : List (Landing K V E)) (key : K)
      (h : s.underWay.lookup key = none) :
      Act now ⟨s, l⟩ 0 [] ⟨s.launch key, l⟩
        ({.guard ⟨key, s.flights.size⟩} + {.load ⟨key, s.flights.size⟩})
  | join (s : State K V E) (l : List (Landing K V E)) (key : K) (flight : Nat)
      (h : s.underWay.lookup key = some flight) :
      Act now ⟨s, l⟩ 0 [] ⟨s, l⟩ {.wait key flight}
  | land (s : State K V E) (l : List (Landing K V E)) (g : Guard K) (answer : Lookup V E) :
      Act now ⟨s, l⟩ {.load g}
        [{ key := g.key, answer := answer, flight := g.flight, own := true }]
        ⟨(s.keep g answer now).publish g answer,
          { key := g.key, flight := g.flight, answer := answer, moment := now } :: l⟩
        {.answer g.key answer}
  | observe (s : State K V E) (l : List (Landing K V E)) (key : K) (flight : Nat)
      (answer : Lookup V E) (h : s.flight flight = .landed answer) :
      Act now ⟨s, l⟩ {.wait key flight}
        [{ key := key, answer := answer, flight := flight, own := false }] ⟨s, l⟩
        {.answer key answer}
  | forget (d : Desk K V E) (h : Holding K V E) (no : h.guard? = none) : Act now d {h} [] d 0

theorem Act.covered {now : Nat} {d d' : Desk K V E} {before after rest : Multiset (Holding K V E)}
    {gains : List (Gain K V E)} (h : Act now d before gains d' after)
    (hc : Covered (before + rest)) : Covered (after + rest) := by
  cases h with
  | tally => exact hc
  | glance => exact hc
  | hit => simpa [Covered, Holding.guard?, Holding.load?] using hc
  | depart s l key hn =>
    have fresh : Covered ({.guard ⟨key, s.flights.size⟩} + {.load ⟨key, s.flights.size⟩} :
        Multiset (Holding K V E)) := le_refl _
    exact fresh.add (by simpa using hc)
  | join => simpa [Covered, Holding.guard?, Holding.load?] using hc
  | land s l g answer =>
    simp only [Covered, loadsOf_add, guardsOf_add, loadsOf_singleton, guardsOf_singleton,
      Holding.guard?, Holding.load?] at hc ⊢
    exact le_trans (by simp [Multiset.le_cons_self]) hc
  | observe => simpa [Covered, Holding.guard?, Holding.load?] using hc
  | forget d h no =>
    simp only [Covered, loadsOf_add, guardsOf_add, guardsOf_singleton, no] at hc ⊢
    exact (add_le_add_left (Multiset.zero_le _) _).trans hc

/-- Acts one after another. A guard goes only when no load is left without one. -/
inductive Acts (now : Nat) :
    Desk K V E → Multiset (Holding K V E) → List (Gain K V E) → Desk K V E →
      Multiset (Holding K V E) → Prop where
  | done (d : Desk K V E) (held : Multiset (Holding K V E)) : Acts now d held [] d held
  | act {d d' d'' : Desk K V E} {before after held : Multiset (Holding K V E)}
      {gains more : List (Gain K V E)} (rest : Multiset (Holding K V E))
      (h : Act now d before gains d' after) (then_ : Acts now d' (after + rest) more d'' held) :
      Acts now d (before + rest) (gains ++ more) d'' held
  | retire {s : State K V E} {l : List (Landing K V E)} {d : Desk K V E}
      {held rest : Multiset (Holding K V E)} {gains : List (Gain K V E)} (g : Guard K)
      (safe : Covered rest) (then_ : Acts now ⟨s.retire g, l⟩ rest gains d held) :
      Acts now ⟨s, l⟩ ({.guard g} + rest) gains d held

namespace Acts

variable {now : Nat} {d d' d'' : Desk K V E} {held held' held'' : Multiset (Holding K V E)}
  {gains more : List (Gain K V E)}

theorem trans (h : Acts now d held gains d' held') (h' : Acts now d' held' more d'' held'') :
    Acts now d held (gains ++ more) d'' held'' := by
  induction h with
  | done => simpa using h'
  | act rest h _ ih =>
    rw [List.append_assoc]
    exact .act rest h (ih h')
  | retire g safe _ ih => exact .retire g safe (ih h')

theorem holding (h : Acts now d held gains d' held') (e : held' = held'') :
    Acts now d held gains d' held'' :=
  e ▸ h

theorem before (h : Acts now d held [] d' held') (h' : Acts now d' held' more d'' held'') :
    Acts now d held more d'' held'' :=
  h.trans h'

theorem andThen (h : Acts now d held gains d' held') (h' : Acts now d' held' [] d'' held'') :
    Acts now d held gains d'' held'' := by
  simpa using h.trans h'

theorem single {before after : Multiset (Holding K V E)} (h : Act now d before gains d' after)
    (rest : Multiset (Holding K V E)) : Acts now d (before + rest) gains d' (after + rest) := by
  simpa using Acts.act rest h (.done d' (after + rest))

theorem fresh {after : Multiset (Holding K V E)} (h : Act now d 0 gains d' after)
    (rest : Multiset (Holding K V E)) : Acts now d rest gains d' (after + rest) := by
  simpa using single h rest

theorem quiet (h : Act now d 0 gains d' 0) (rest : Multiset (Holding K V E)) :
    Acts now d rest gains d' rest := by
  simpa using single h rest

theorem tallied {s : State K V E} {l : List (Landing K V E)}
    (h : Acts now d held gains ⟨s, l⟩ held') (f : Stats → Stats) :
    Acts now d held gains ⟨s.count f, l⟩ held' :=
  h.andThen (quiet (.tally s l f) held')

theorem frame (h : Acts now d held gains d' held') {others : Multiset (Holding K V E)}
    (ho : Covered others) : Acts now d (held + others) gains d' (held' + others) := by
  induction h with
  | done => exact .done _ _
  | act rest h _ ih =>
    rw [add_assoc] at ih ⊢
    exact .act (rest + others) h ih
  | retire g safe _ ih =>
    rw [add_assoc]
    exact .retire g (safe.add ho) ih

theorem drop (now : Nat) (d : Desk K V E) {held : Multiset (Holding K V E)} (h : guardsOf held = 0)
    (rest : Multiset (Holding K V E)) : Acts now d (held + rest) [] d rest := by
  induction held using Multiset.induction with
  | empty =>
    rw [zero_add]
    exact .done _ _
  | cons x held ih =>
    rw [guardsOf_cons, add_eq_zero] at h
    have no : x.guard? = none := by
      cases hx : x.guard? with
      | none => rfl
      | some g => simp [hx] at h
    rw [← Multiset.singleton_add, add_assoc]
    exact before (single (.forget d x no) (held + rest)) (by simpa using ih h.2)

theorem covered (h : Acts now d held gains d' held') (hc : Covered held) : Covered held' := by
  induction h with
  | done => exact hc
  | retire g safe _ ih => exact ih safe
  | act rest h _ ih => exact ih (h.covered hc)

end Acts

end

end PacedCalls.Cache
