import Mathlib.Data.List.Nodup
import PacedCalls.Assoc
import PacedCalls.Proofs.Cache.Acts

set_option autoImplicit false

namespace PacedCalls.Cache

section

variable {K V E : Type}

/-- A flight is known to belong to a key: it is under way, waited for, or has landed. -/
def Tied (d : Desk K V E) (held : Multiset (Holding K V E)) (key : K) (flight : Nat) : Prop :=
  (key, flight) ∈ d.cache.underWay ∨ .wait key flight ∈ held ∨
    ∃ l ∈ d.landings, l.key = key ∧ l.flight = flight

/-- The desk in order, as seen by those who hold all guards there are. -/
structure Orderly [DecidableEq K] (d : Desk K V E) (held : Multiset (Holding K V E)) : Prop where
  table : (d.cache.underWay : Multiset (K × Nat)) =
    (guardsOf held).map fun g => (g.key, g.flight)
  keys : (d.cache.underWay.map (·.1)).Nodup
  covered : Covered held
  aloft : ∀ g, .load g ∈ held → d.cache.flight g.flight = .aloft
  numbered : ∀ key flight, Tied d held key flight → flight < d.cache.flights.size
  tied : ∀ key key' flight, Tied d held key flight → Tied d held key' flight → key = key'
  landed : ∀ flight a, d.cache.flight flight = .landed a →
    ∃ l ∈ d.landings, l.flight = flight ∧ l.answer = a
  landings : ∀ l ∈ d.landings, d.cache.flight l.flight = .landed l.answer
  once : (d.landings.map (·.flight)).Nodup
  store : ∀ e ∈ d.cache.store.entries, ∃ l ∈ d.landings, l.key = e.key ∧
    origin d.landings e.key = some l.flight ∧ l.answer = .ofOption e.value ∧ l.moment = e.since
  latest : ∀ key flight a, (key, flight) ∈ d.cache.underWay → d.cache.flight flight = .landed a →
    a.settled?.isSome → origin d.landings key = some flight

def Gain.Landed (landings : List (Landing K V E)) (x : Gain K V E) : Prop :=
  ∃ l ∈ landings, l.key = x.key ∧ l.flight = x.flight ∧ l.answer = x.answer

variable [DecidableEq K]

theorem origin_cons (l : Landing K V E) (landings : List (Landing K V E)) (key : K) :
    origin (l :: landings) key =
      if l.key = key ∧ l.answer.settled?.isSome then some l.flight else origin landings key := by
  by_cases h : l.key = key <;> by_cases hs : l.answer.settled?.isSome <;>
    simp [origin, h, hs]

/-- A load has returned: its answer is kept and published, and the landing is noted. -/
def Desk.land (d : Desk K V E) (g : Guard K) (answer : Lookup V E) (now : Nat) : Desk K V E where
  cache := (d.cache.keep g answer now).publish g answer
  landings := { key := g.key, flight := g.flight, answer := answer, moment := now } :: d.landings

omit [DecidableEq K] in
theorem Tied.of_launch {s : State K V E} {l : List (Landing K V E)}
    {rest : Multiset (Holding K V E)} {key k : K} {flight : Nat}
    (t : Tied ⟨s.launch key, l⟩
      ({.guard ⟨key, s.flights.size⟩} + {.load ⟨key, s.flights.size⟩} + rest) k flight) :
    (k = key ∧ flight = s.flights.size) ∨ Tied ⟨s, l⟩ rest k flight := by
  simp only [Tied, State.launch, List.mem_cons, Prod.mk.injEq, Multiset.mem_add,
    Multiset.mem_singleton, reduceCtorEq, false_or] at t ⊢
  tauto

theorem Tied.of_land {d : Desk K V E} {rest : Multiset (Holding K V E)} {g : Guard K}
    {answer : Lookup V E} {now : Nat} {k : K} {flight : Nat}
    (t : Tied (d.land g answer now) ({.answer g.key answer} + rest) k flight)
    (here : (g.key, g.flight) ∈ d.cache.underWay) : Tied d ({.load g} + rest) k flight := by
  simp only [Tied, Desk.land, State.publish, State.keep_underWay, Multiset.mem_add,
    Multiset.mem_singleton, reduceCtorEq, false_or, List.mem_cons] at t ⊢
  rcases t with t | t | ⟨x, rfl | hx, hk, hf⟩
  · exact .inl t
  · exact .inr (.inl t)
  · cases hk
    cases hf
    exact .inl here
  · exact .inr (.inr ⟨x, hx, hk, hf⟩)

theorem not_mem_of_lookup {pairs : List (K × Nat)} {key : K}
    (none_ : pairs.lookup key = none) : key ∉ pairs.map (·.1) := by
  intro hm
  obtain ⟨p, hp, rfl⟩ := List.mem_map.mp hm
  simpa using List.lookup_eq_none_iff.mp none_ p hp

namespace Orderly

variable {d d' : Desk K V E} {held held' : Multiset (Holding K V E)}

theorem guards_nodup (h : Orderly d held) : (guardsOf held).Nodup := by
  have pairs : (d.cache.underWay : Multiset (K × Nat)).Nodup :=
    Multiset.coe_nodup.mpr (List.Nodup.of_map _ h.keys)
  rw [h.table] at pairs
  exact Multiset.Nodup.of_map _ pairs

theorem mem_underWay (h : Orderly d held) {key : K} {flight : Nat} :
    (key, flight) ∈ d.cache.underWay ↔ .guard ⟨key, flight⟩ ∈ held := by
  rw [← Multiset.mem_coe, h.table, Multiset.mem_map, ← mem_guardsOf]
  constructor
  · rintro ⟨g, hg, he⟩
    cases he
    exact hg
  · intro hg
    exact ⟨_, hg, rfl⟩

/-- A load runs under a guard, so its flight is under way. -/
theorem load_underWay (h : Orderly d held) {g : Guard K} (hl : .load g ∈ held) :
    (g.key, g.flight) ∈ d.cache.underWay := by
  rw [h.mem_underWay, ← mem_guardsOf]
  exact Multiset.mem_of_le h.covered (mem_loadsOf.mpr hl)

theorem guard_eq (h : Orderly d held) {g g' : Guard K} (hg : g ∈ guardsOf held)
    (hg' : g' ∈ guardsOf held) (hf : g'.flight = g.flight) : g' = g := by
  have t : Tied d held g.key g.flight := .inl (h.mem_underWay.mpr (mem_guardsOf.mp hg))
  have t' : Tied d held g'.key g'.flight := .inl (h.mem_underWay.mpr (mem_guardsOf.mp hg'))
  rw [hf] at t'
  have hk := h.tied _ _ _ t' t
  cases g
  cases g'
  simp_all

theorem landing_eq (h : Orderly d held) {l l' : Landing K V E} (hl : l ∈ d.landings)
    (hl' : l' ∈ d.landings) (hf : l.flight = l'.flight) : l = l' :=
  List.inj_on_of_nodup_map h.once hl hl' hf

theorem mono (h : Orderly d held) (hu : d'.cache.underWay = d.cache.underWay)
    (hf : d'.cache.flights = d.cache.flights) (hl : d'.landings = d.landings)
    (hs : ∀ e ∈ d'.cache.store.entries, e ∈ d.cache.store.entries)
    (hg : guardsOf held' = guardsOf held) (hc : loadsOf held' ≤ loadsOf held)
    (hw : ∀ key flight, .wait key flight ∈ held' → Tied d held key flight) :
    Orderly d' held' := by
  have tied (key flight) (t : Tied d' held' key flight) : Tied d held key flight := by
    rcases t with t | t | t
    · exact .inl (hu ▸ t)
    · exact hw _ _ t
    · exact .inr (.inr (hl ▸ t))
  have flights (n : Nat) : d'.cache.flight n = d.cache.flight n := by simp only [State.flight, hf]
  constructor
  · rw [hu, hg]
    exact h.table
  · rw [hu]
    exact h.keys
  · exact le_trans hc (hg ▸ h.covered)
  · intro g hm
    rw [flights]
    exact h.aloft g (mem_loadsOf.mp (Multiset.mem_of_le hc (mem_loadsOf.mpr hm)))
  · intro key flight t
    rw [hf]
    exact h.numbered key flight (tied _ _ t)
  · intro key key' flight t t'
    exact h.tied _ _ _ (tied _ _ t) (tied _ _ t')
  · intro flight a ha
    rw [hl]
    exact h.landed flight a (flights flight ▸ ha)
  · intro l hm
    rw [flights]
    exact h.landings l (hl ▸ hm)
  · rw [hl]
    exact h.once
  · intro e he
    rw [hl]
    exact h.store e (hs e he)
  · intro key flight a hm ha
    rw [hl]
    exact h.latest key flight a (hu ▸ hm) (flights flight ▸ ha)

theorem launch {s : State K V E} {l : List (Landing K V E)} {rest : Multiset (Holding K V E)}
    {key : K} (hn : s.underWay.lookup key = none) (h : Orderly ⟨s, l⟩ rest) :
    Orderly ⟨s.launch key, l⟩
      ({.guard ⟨key, s.flights.size⟩} + {.load ⟨key, s.flights.size⟩} + rest) := by
  have below (k flight) (t : Tied ⟨s, l⟩ rest k flight) : flight < s.flights.size :=
    h.numbered k flight t
  -- The new flight is nobody else's, since it is numbered above all others.
  have still (flight) (hf : flight < s.flights.size) :
      (s.launch key).flight flight = s.flight flight := by
    rw [State.flight_launch, if_neg hf.ne]
  have old (flight a) (ha : (s.launch key).flight flight = .landed a) :
      flight ≠ s.flights.size ∧ s.flight flight = .landed a := by
    rw [State.flight_launch] at ha
    split at ha
    · cases ha
    · next other => exact ⟨other, ha⟩
  constructor
  · have table := h.table
    simp only at table
    simp [State.launch, Holding.guard?, ← Multiset.cons_coe, table]
  · exact List.nodup_cons.mpr ⟨not_mem_of_lookup hn, h.keys⟩
  · exact (le_refl _ : Covered _).add h.covered
  · intro g hg
    simp only [Multiset.mem_add, Multiset.mem_singleton, reduceCtorEq, false_or,
      Holding.load.injEq] at hg
    rcases hg with rfl | hg
    · rw [State.flight_launch, if_pos rfl]
    · exact (still _ (below _ _ (.inl (h.load_underWay hg)))).trans (h.aloft g hg)
  · intro k flight t
    simp only [State.launch, Array.size_push]
    rcases t.of_launch with ⟨-, rfl⟩ | t
    · omega
    · have := below k flight t
      omega
  · intro k k' flight t t'
    rcases t.of_launch with ⟨hk, hf⟩ | t <;> rcases t'.of_launch with ⟨hk', hf'⟩ | t'
    · rw [hk, hk']
    · exact absurd (below k' flight t') (by omega)
    · exact absurd (below k flight t) (by omega)
    · exact h.tied _ _ _ t t'
  · exact fun flight a ha => h.landed flight a (old flight a ha).2
  · intro x hx
    exact (still _ (below x.key _ (.inr (.inr ⟨x, hx, rfl, rfl⟩)))).trans (h.landings x hx)
  · exact h.once
  · exact h.store
  · intro k flight a hm ha
    obtain ⟨other, ha⟩ := old flight a ha
    rcases List.mem_cons.mp hm with hm | hm
    · cases hm
      exact absurd rfl other
    · exact h.latest k flight a hm ha

section

variable {rest : Multiset (Holding K V E)} {g : Guard K} {answer : Lookup V E} {now : Nat}

theorem flight_land (answer : Lookup V E) (now : Nat) (below : g.flight < d.cache.flights.size)
    (flight : Nat) :
    (d.land g answer now).cache.flight flight =
      if flight = g.flight then .landed answer else d.cache.flight flight := by
  rw [Desk.land, State.flight_publish, State.keep_flights]
  by_cases same : flight = g.flight
  · rw [if_pos ⟨same, same ▸ below⟩, if_pos same]
  · rw [if_neg fun hc => same hc.1, if_neg same]
    simp only [State.flight, State.keep_flights]

theorem load_ne (h : Orderly d ({.load g} + rest)) {g' : Guard K} (hg : .load g' ∈ rest) :
    g'.flight ≠ g.flight := by
  intro hf
  have loads : (loadsOf ({.load g} + rest)).Nodup := Multiset.nodup_of_le h.covered h.guards_nodup
  rw [loadsOf_load_add, Multiset.nodup_cons] at loads
  have mine : .load g ∈ {Holding.load g} + rest := by simp
  have its : .load g' ∈ {Holding.load g} + rest := by simp [hg]
  have same := h.guard_eq (Multiset.mem_of_le h.covered (mem_loadsOf.mpr mine))
    (Multiset.mem_of_le h.covered (mem_loadsOf.mpr its)) hf
  exact loads.1 (same ▸ mem_loadsOf.mpr hg)

theorem landing_ne (h : Orderly d held) (hl : .load g ∈ held) {x : Landing K V E}
    (hx : x ∈ d.landings) : x.flight ≠ g.flight := by
  intro hf
  have landed := h.landings x hx
  rw [hf, h.aloft g hl] at landed
  cases landed

theorem stored_land (h : Orderly d held) (g : Guard K) (answer : Lookup V E) (now : Nat)
    {e : Entry K V} (he : e ∈ (d.land g answer now).cache.store.entries) :
    ∃ x ∈ (d.land g answer now).landings, x.key = e.key ∧
      origin (d.land g answer now).landings e.key = some x.flight ∧ x.answer = .ofOption e.value ∧
      x.moment = e.since := by
  rcases State.mem_keep he with ⟨value, hv, rfl⟩ | ⟨hm, hk⟩
  · refine ⟨_, List.mem_cons_self, rfl, ?_, (Lookup.ofOption_of_settled? hv).symm, rfl⟩
    rw [Desk.land, origin_cons, if_pos ⟨rfl, by simp [hv]⟩]
  · obtain ⟨x, hx, same, latest, said⟩ := h.store e hm
    refine ⟨x, List.mem_cons_of_mem _ hx, same, ?_, said⟩
    rw [Desk.land, origin_cons, if_neg fun hc => hk hc.2 hc.1.symm]
    exact latest

/-- The flight that is under way for a key is the latest one, also after it has landed. -/
theorem latest_land (h : Orderly d held) (hl : .load g ∈ held) {k : K} {flight : Nat}
    {a : Lookup V E} (hm : (k, flight) ∈ d.cache.underWay)
    (ha : (d.land g answer now).cache.flight flight = .landed a) (hs : a.settled?.isSome) :
    origin (d.land g answer now).landings k = some flight := by
  have here := h.load_underWay hl
  rw [flight_land _ _ (h.numbered _ _ (.inl here))] at ha
  rw [Desk.land, origin_cons]
  split at ha
  · next same =>
    cases ha
    subst same
    exact if_pos ⟨h.tied _ _ _ (.inl here) (.inl hm), hs⟩
  · next other =>
    have hk : g.key ≠ k := by
      rintro rfl
      have one := Assoc.lookup_of_mem h.keys hm
      rw [Assoc.lookup_of_mem h.keys here] at one
      exact other (Option.some.inj one).symm
    rw [if_neg fun hc => hk hc.1]
    exact h.latest k flight a hm ha hs

theorem land (h : Orderly d ({.load g} + rest)) :
    Orderly (d.land g answer now) ({.answer g.key answer} + rest) := by
  have mine : .load g ∈ {Holding.load g} + rest := by simp
  have here := h.load_underWay mine
  have flights := flight_land answer now (h.numbered _ _ (.inl here))
  constructor
  · simpa [Desk.land, State.publish, Holding.guard?] using h.table
  · simpa [Desk.land, State.publish] using h.keys
  · refine le_trans ?_ (le_trans h.covered ?_) <;> simp [Holding.guard?, Holding.load?]
    exact Multiset.le_cons_self _ _
  · intro g' hg'
    have hm : .load g' ∈ rest := by simpa using hg'
    rw [flights, if_neg (h.load_ne hm)]
    exact h.aloft g' (by simp [hm])
  · intro k flight t
    simpa [Desk.land, State.publish] using h.numbered k flight (t.of_land here)
  · exact fun k k' flight t t' => h.tied _ _ _ (t.of_land here) (t'.of_land here)
  · intro flight a ha
    rw [flights] at ha
    split at ha
    · next same =>
      cases ha
      exact ⟨_, List.mem_cons_self, same.symm, rfl⟩
    · obtain ⟨x, hx, said⟩ := h.landed flight a ha
      exact ⟨x, List.mem_cons_of_mem _ hx, said⟩
  · intro x hx
    rw [flights]
    rcases List.mem_cons.mp hx with rfl | hx
    · exact if_pos rfl
    · rw [if_neg (h.landing_ne mine hx)]
      exact h.landings x hx
  · refine List.nodup_cons.mpr ⟨fun hm => ?_, h.once⟩
    obtain ⟨x, hx, hf⟩ := List.mem_map.mp hm
    exact h.landing_ne mine hx hf
  · exact fun e he => h.stored_land g answer now he
  · intro k flight a hm
    exact h.latest_land mine (by simpa [Desk.land, State.publish] using hm)

end

theorem retire {s : State K V E} {l : List (Landing K V E)} {rest : Multiset (Holding K V E)}
    {g : Guard K} (safe : Covered rest) (h : Orderly ⟨s, l⟩ ({.guard g} + rest)) :
    Orderly ⟨s.retire g, l⟩ rest := by
  have nodup := h.guards_nodup
  rw [guardsOf_guard_add, Multiset.nodup_cons] at nodup
  have tied (k flight) (t : Tied ⟨s.retire g, l⟩ rest k flight) :
      Tied ⟨s, l⟩ ({.guard g} + rest) k flight := by
    simp only [Tied, State.retire_underWay, List.mem_filter, Multiset.mem_add] at t ⊢
    tauto
  have others (g' : Guard K) (hg : g' ∈ guardsOf rest) : g'.flight ≠ g.flight := by
    intro hf
    have := h.guard_eq (by simp [Holding.guard?]) (by simp [hg]) hf
    exact nodup.1 (this ▸ hg)
  constructor
  · have table := h.table
    rw [guardsOf_guard_add, Multiset.map_cons] at table
    rw [State.retire_underWay, ← Multiset.filter_coe, table,
      Multiset.filter_cons_of_neg _ (by simp), Multiset.filter_eq_self]
    intro p hp
    obtain ⟨g', hg', rfl⟩ := Multiset.mem_map.mp hp
    have := others g' hg'
    simp_all
  · rw [State.retire_underWay]
    exact List.Nodup.sublist ((List.filter_sublist).map _) h.keys
  · exact safe
  · intro g' hg'
    rw [State.flight_retire_of_ne (others g' (Multiset.mem_of_le safe (mem_loadsOf.mpr hg')))]
    exact h.aloft g' (by simp [hg'])
  · intro k flight t
    rw [State.retire_flights_size]
    exact h.numbered k flight (tied k flight t)
  · intro k k' flight t t'
    exact h.tied _ _ _ (tied _ _ t) (tied _ _ t')
  · intro flight a ha
    exact h.landed flight a (State.flight_retire_landed.mp ha)
  · intro x hx
    exact State.flight_retire_landed.mpr (h.landings x hx)
  · exact h.once
  · rw [State.retire_store]
    exact h.store
  · intro k flight a hm ha
    rw [State.retire_underWay] at hm
    exact h.latest k flight a (List.mem_filter.mp hm).1 (State.flight_retire_landed.mp ha)

end Orderly

variable {now : Nat} {d d' : Desk K V E} {held held' : Multiset (Holding K V E)}
  {gains : List (Gain K V E)}

theorem Act.orderly {before after rest : Multiset (Holding K V E)}
    (h : Act now d before gains d' after) (ho : Orderly d (before + rest)) :
    Orderly d' (after + rest) := by
  cases h with
  | tally s l f =>
    exact ho.mono rfl rfl rfl (fun _ he => he) rfl (le_refl _) fun _ _ hw => .inr (.inl hw)
  | glance s l key =>
    exact ho.mono rfl rfl rfl (fun _ he => Store.mem_of_mem_read he) rfl (le_refl _)
      fun _ _ hw => .inr (.inl hw)
  | hit s l key value hv =>
    refine ho.mono rfl rfl rfl (fun _ he => Store.mem_of_mem_read he) ?_ ?_ fun _ _ hw => ?_
    · simp [Holding.guard?]
    · simp [Holding.load?]
    · exact .inr (.inl (by simpa using hw))
  | depart s l key hn => exact Orderly.launch hn (by simpa using ho)
  | join s l key flight hf =>
    refine ho.mono rfl rfl rfl (fun _ he => he) ?_ ?_ fun k f hw => ?_
    · simp [Holding.guard?]
    · simp [Holding.load?]
    · rcases Multiset.mem_add.mp hw with hw | hw
      · cases Multiset.mem_singleton.mp hw
        exact .inl (Assoc.mem_of_lookup hf)
      · exact .inr (.inl (by simp [hw]))
  | land s l g answer => exact ho.land
  | observe s l key flight answer hf =>
    refine ho.mono rfl rfl rfl (fun _ he => he) ?_ ?_ fun _ _ hw => ?_
    · simp [Holding.guard?]
    · simp [Holding.load?]
    · exact .inr (.inl (by simpa using Or.inr (by simpa using hw)))
  | forget d x no =>
    refine ho.mono rfl rfl rfl (fun _ he => he) ?_ ?_ fun _ _ hw => ?_
    · simp [no]
    · simp
    · exact .inr (.inl (by simpa using Or.inr (by simpa using hw)))

theorem Acts.orderly (h : Acts now d held gains d' held') (ho : Orderly d held) :
    Orderly d' held' := by
  induction h with
  | done => exact ho
  | act rest h _ ih => exact ih (h.orderly ho)
  | retire g safe _ ih => exact ih (ho.retire safe)

theorem Act.landings_subset {before after : Multiset (Holding K V E)}
    (h : Act now d before gains d' after) : d.landings ⊆ d'.landings := by
  cases h with
  | land s l g answer => exact List.subset_cons_self _ _
  | _ => exact fun _ hx => hx

theorem Acts.landings_subset (h : Acts now d held gains d' held') : d.landings ⊆ d'.landings := by
  induction h with
  | done => exact fun _ hx => hx
  | act rest h _ ih => exact fun _ hx => ih (h.landings_subset hx)
  | retire g safe _ ih => exact ih

omit [DecidableEq K] in
theorem Gain.Landed.mono {l l' : List (Landing K V E)} {x : Gain K V E} (h : x.Landed l)
    (hs : l ⊆ l') : x.Landed l' := by
  obtain ⟨y, hy, hx⟩ := h
  exact ⟨y, hs hy, hx⟩

theorem Orderly.stored {s : State K V E} {l : List (Landing K V E)} {key : K} {value : Option V}
    (h : Orderly ⟨s, l⟩ held) (hv : (s.store.read key now).1 = .hit value) :
    ∃ e ∈ s.store.entries, e.key = key ∧ now ≤ e.since + s.store.ttl ∧ ∃ x ∈ l,
      x.key = key ∧ origin l key = some x.flight ∧ x.answer = .ofOption value ∧
        x.moment = e.since := by
  obtain ⟨e, he, rfl, rfl, hlive⟩ := Store.exists_of_hit hv
  obtain ⟨x, hx⟩ := h.store e he
  exact ⟨e, he, rfl, hlive, x, hx⟩

theorem Act.gained {before after rest : Multiset (Holding K V E)}
    (h : Act now d before gains d' after) (ho : Orderly d (before + rest)) :
    (∀ x ∈ gains, x.Landed d'.landings) ∧
      ∀ key a, .answer key a ∈ after → ∃ x ∈ gains, x.key = key ∧ x.answer = a := by
  cases h with
  | tally s l f => simp
  | glance s l key => simp
  | hit s l key value hv =>
    obtain ⟨e, -, -, -, x, hx, hxk, hxo, hxa, -⟩ := ho.stored hv
    simp only [Gain.stored, hxo, Option.toList_some, List.map_cons, List.map_nil,
      List.mem_singleton, forall_eq, exists_eq_left, Multiset.mem_singleton,
      Holding.answer.injEq]
    exact ⟨⟨x, hx, hxk, rfl, hxa⟩, fun k a hka => ⟨hka.1.symm, hka.2.symm⟩⟩
  | depart s l key hn => simp
  | join s l key flight hf => simp
  | land s l g answer =>
    simp only [List.mem_singleton, forall_eq, exists_eq_left, Multiset.mem_singleton,
      Holding.answer.injEq]
    exact ⟨⟨_, List.mem_cons_self, rfl, rfl, rfl⟩, fun k a hka => ⟨hka.1.symm, hka.2.symm⟩⟩
  | observe s l key flight answer hf =>
    obtain ⟨x, hx, hxf, hxa⟩ := ho.landed flight answer hf
    have hxk : x.key = key :=
      ho.tied _ _ flight (.inr (.inr ⟨x, hx, rfl, hxf⟩)) (.inr (.inl (by simp)))
    simp only [List.mem_singleton, forall_eq, exists_eq_left, Multiset.mem_singleton,
      Holding.answer.injEq]
    exact ⟨⟨x, hx, hxk, hxf, hxa⟩, fun k a hka => ⟨hka.1.symm, hka.2.symm⟩⟩
  | forget d x no => simp

theorem Acts.gained (h : Acts now d held gains d' held') {others : Multiset (Holding K V E)}
    (hc : Covered others) (ho : Orderly d (held + others)) :
    (∀ x ∈ gains, x.Landed d'.landings) ∧
      ∀ key a, .answer key a ∈ held' → .answer key a ∈ held ∨
        ∃ x ∈ gains, x.key = key ∧ x.answer = a := by
  induction h with
  | done => exact ⟨by simp, fun key a hm => .inl hm⟩
  | act rest h more ih =>
    rw [add_assoc] at ho
    obtain ⟨landed, answers⟩ := h.gained ho
    obtain ⟨landed', answers'⟩ := ih (by rw [add_assoc]; exact h.orderly ho)
    refine ⟨fun x hx => ?_, fun key a hm => ?_⟩
    · rcases List.mem_append.mp hx with hx | hx
      · exact (landed x hx).mono more.landings_subset
      · exact landed' x hx
    · have later := answers' key a hm
      have now_ := answers key a
      simp only [Multiset.mem_add, List.mem_append] at later ⊢
      grind
  | retire g safe _ ih =>
    rw [add_assoc] at ho
    obtain ⟨landed, answers⟩ := ih (ho.retire (safe.add hc))
    refine ⟨landed, fun key a hm => ?_⟩
    have later := answers key a hm
    simp only [Multiset.mem_add]
    grind

end

end PacedCalls.Cache
