import PacedCalls.Proofs.Cache.Sound

set_option autoImplicit false

namespace PacedCalls.Cache

section

variable {K V E : Type} [DecidableEq K]

omit [DecidableEq K] in
/-- A flight was under way for a key at a desk, or has been begun since then. -/
def Desk.Flown (a : Desk K V E) (key : K) (flight : Nat) : Prop :=
  (key, flight) ∈ a.cache.underWay ∨ a.cache.flights.size ≤ flight

/-- What a reader may gain who comes to a desk at a moment. -/
def Desk.Supplies (a : Desk K V E) (moment : Nat) (x : Gain K V E) : Prop :=
  a.Flown x.key x.flight ∨
    ∃ e ∈ a.cache.store.entries, e.key = x.key ∧ origin a.landings x.key = some x.flight ∧
      moment ≤ e.since + a.cache.store.ttl

/-- What an earlier desk tells about a later one. -/
structure Later (a : Desk K V E) (moment : Nat) (d : Desk K V E) : Prop where
  size : a.cache.flights.size ≤ d.cache.flights.size
  ttl : d.cache.store.ttl = a.cache.store.ttl
  underWay : ∀ key flight, (key, flight) ∈ d.cache.underWay → a.Flown key flight
  store : ∀ e ∈ d.cache.store.entries,
    (∃ flight, origin d.landings e.key = some flight ∧ a.Flown e.key flight) ∨
      (e ∈ a.cache.store.entries ∧ origin d.landings e.key = origin a.landings e.key)
  landings : ∃ newer, d.landings = newer ++ a.landings ∧ ∀ l ∈ newer, moment ≤ l.moment

namespace Later

variable {a d d' : Desk K V E} {moment : Nat}

theorem refl (a : Desk K V E) (moment : Nat) : Later a moment a where
  size := le_refl _
  ttl := rfl
  underWay := fun _ _ h => .inl h
  store := fun _ he => .inr ⟨he, rfl⟩
  landings := ⟨[], rfl, by simp⟩

theorem mono (h : Later a moment d) (hs : d'.cache.flights.size = d.cache.flights.size)
    (ht : d'.cache.store.ttl = d.cache.store.ttl)
    (hu : ∀ p ∈ d'.cache.underWay, p ∈ d.cache.underWay)
    (he : ∀ e ∈ d'.cache.store.entries, e ∈ d.cache.store.entries)
    (hl : d'.landings = d.landings) : Later a moment d' where
  size := hs ▸ h.size
  ttl := ht.trans h.ttl
  underWay := fun key flight hm => h.underWay key flight (hu _ hm)
  store := fun e hm => by
    rw [hl]
    exact h.store e (he e hm)
  landings := hl ▸ h.landings

theorem retire {s : State K V E} {l : List (Landing K V E)} (g : Guard K)
    (h : Later a moment ⟨s, l⟩) : Later a moment ⟨s.retire g, l⟩ := by
  refine h.mono ?_ ?_ (fun p hp => ?_) (fun e he => ?_) rfl
  · exact State.retire_flights_size s g
  · rw [State.retire_store]
  · rw [State.retire_underWay] at hp
    exact (List.mem_filter.mp hp).1
  · rwa [State.retire_store] at he

theorem launch {s : State K V E} {l : List (Landing K V E)} (key : K)
    (h : Later a moment ⟨s, l⟩) : Later a moment ⟨s.launch key, l⟩ where
  size := by
    simp only [State.launch, Array.size_push]
    exact Nat.le_succ_of_le h.size
  ttl := h.ttl
  underWay := fun k flight hm => by
    rcases List.mem_cons.mp hm with hm | hm
    · cases hm
      exact .inr h.size
    · exact h.underWay k flight hm
  store := h.store
  landings := h.landings

theorem land {s : State K V E} {l : List (Landing K V E)} {g : Guard K} {now : Nat}
    {answer : Lookup V E} (h : Later a moment ⟨s, l⟩) (hg : (g.key, g.flight) ∈ s.underWay)
    (hn : moment ≤ now) :
    Later a moment ⟨(s.keep g answer now).publish g answer,
      { key := g.key, flight := g.flight, answer := answer, moment := now } :: l⟩ where
  size := by simpa [State.publish] using h.size
  ttl := (State.keep_ttl s g answer now).trans h.ttl
  underWay := fun k flight hm => h.underWay k flight (by simpa [State.publish] using hm)
  store := fun e he => by
    rcases State.mem_keep he with ⟨value, hv, rfl⟩ | ⟨hm, hk⟩
    · refine .inl ⟨g.flight, ?_, h.underWay _ _ hg⟩
      rw [origin_cons, if_pos ⟨rfl, by simp [hv]⟩]
    · have same : origin ({ key := g.key, flight := g.flight, answer := answer, moment := now } :: l)
          e.key = origin l e.key := by
        rw [origin_cons, if_neg]
        rintro ⟨hge, hs⟩
        exact hk hs hge.symm
      rw [same]
      exact h.store e hm
  landings := by
    obtain ⟨newer, hnew, hmom⟩ := h.landings
    refine ⟨_ :: newer, by rw [List.cons_append, ← hnew], fun x hx => ?_⟩
    rcases List.mem_cons.mp hx with rfl | hx
    · exact hn
    · exact hmom x hx

end Later

variable {a d d' : Desk K V E} {moment now : Nat} {held held' : Multiset (Holding K V E)}
  {gains : List (Gain K V E)}

theorem Act.later {before after rest : Multiset (Holding K V E)}
    (h : Act now d before gains d' after) (ho : Orderly d (before + rest)) (hn : moment ≤ now)
    (hl : Later a moment d) : Later a moment d' := by
  cases h with
  | tally s l f => exact hl.mono rfl rfl (fun _ hp => hp) (fun _ he => he) rfl
  | glance s l key =>
    exact hl.mono rfl (Store.read_ttl ..) (fun _ hp => hp) (fun _ he => Store.mem_of_mem_read he) rfl
  | hit s l key value hv =>
    exact hl.mono rfl (Store.read_ttl ..) (fun _ hp => hp) (fun _ he => Store.mem_of_mem_read he) rfl
  | depart s l key hk => exact hl.launch key
  | join s l key flight hf => exact hl
  | land s l g answer => exact hl.land (ho.load_underWay (by simp)) hn
  | observe s l key flight answer hf => exact hl
  | forget d x no => exact hl

theorem Act.supplies {before after rest : Multiset (Holding K V E)}
    (h : Act now d before gains d' after) (ho : Orderly d (before + rest)) (hn : moment ≤ now)
    (hl : Later a moment d) (hw : ∀ key flight, .wait key flight ∈ before → a.Flown key flight) :
    (∀ x ∈ gains, a.Supplies moment x) ∧
      ∀ key flight, .wait key flight ∈ after → a.Flown key flight := by
  cases h with
  | tally s l f => simp
  | glance s l key => simp
  | hit s l key value hv =>
    obtain ⟨e, he, rfl, hlive, x, hx, -, hxo, -⟩ := ho.stored hv
    refine ⟨fun y hy => ?_, by simp⟩
    simp only [Gain.stored, hxo, Option.toList_some, List.map_cons, List.map_nil,
      List.mem_singleton] at hy
    subst hy
    rcases hl.store e he with ⟨flight, hf, flown⟩ | ⟨hm, hsame⟩
    · rw [hf] at hxo
      cases hxo
      exact .inl flown
    · have ttl : s.store.ttl = a.cache.store.ttl := hl.ttl
      exact .inr ⟨e, hm, rfl, hsame ▸ hxo, by omega⟩
  | depart s l key hk => simp
  | join s l key flight hf =>
    refine ⟨by simp, fun k f hm => ?_⟩
    cases Multiset.mem_singleton.mp hm
    exact hl.underWay _ _ (Assoc.mem_of_lookup hf)
  | land s l g answer =>
    refine ⟨fun y hy => ?_, by simp⟩
    cases List.mem_singleton.mp hy
    exact .inl (hl.underWay _ _ (ho.load_underWay (by simp)))
  | observe s l key flight answer hf =>
    refine ⟨fun y hy => ?_, by simp⟩
    cases List.mem_singleton.mp hy
    exact .inl (hw key flight (by simp))
  | forget d x no => simp

theorem Acts.later (h : Acts now d held gains d' held') {others : Multiset (Holding K V E)}
    (hc : Covered others) (ho : Orderly d (held + others)) (hn : moment ≤ now)
    (hl : Later a moment d) : Later a moment d' := by
  induction h with
  | done => exact hl
  | act rest h _ ih =>
    rw [add_assoc] at ho
    exact ih (by rw [add_assoc]; exact h.orderly ho) (h.later ho hn hl)
  | retire g safe _ ih =>
    rw [add_assoc] at ho
    exact ih (ho.retire (safe.add hc)) (hl.retire g)

theorem Acts.supplies (h : Acts now d held gains d' held') {others : Multiset (Holding K V E)}
    (hc : Covered others) (ho : Orderly d (held + others)) (hn : moment ≤ now)
    (hl : Later a moment d) (hw : ∀ key flight, .wait key flight ∈ held → a.Flown key flight) :
    (∀ x ∈ gains, a.Supplies moment x) ∧
      ∀ key flight, .wait key flight ∈ held' → a.Flown key flight := by
  induction h with
  | done => exact ⟨by simp, hw⟩
  | act rest h _ ih =>
    rw [add_assoc] at ho
    obtain ⟨first, waits⟩ := h.supplies ho hn hl fun key flight hm => hw key flight (by simp [hm])
    obtain ⟨later, waits'⟩ := ih (by rw [add_assoc]; exact h.orderly ho) (h.later ho hn hl)
      fun key flight hm => (Multiset.mem_add.mp hm).elim (waits key flight)
        fun hm => hw key flight (by simp [hm])
    refine ⟨fun x hx => ?_, waits'⟩
    exact (List.mem_append.mp hx).elim (first x) (later x)
  | retire g safe _ ih =>
    rw [add_assoc] at ho
    exact ih (ho.retire (safe.add hc)) (hl.retire g) fun key flight hm =>
      hw key flight (by simp [hm])

end

section

variable {R K V E σ L B : Type} [DecidableEq K] {loader : Loader (Event R) K V E σ L B}
  {outside : σ → σ → Prop}

namespace Room

/-- What a room tells about a later one: what readers wait for and have gained who came after. -/
structure Since (a room : Room K V E σ L B) : Prop where
  time : a.now ≤ room.now
  desk : Later a.desk a.now room.desk
  waits : ∀ v ∈ room.visits, a.admitted ≤ v.number →
    ∀ key flight, .wait key flight ∈ v.reader.held → a.desk.Flown key flight
  visits : ∀ v ∈ room.visits, a.admitted ≤ v.number → ∀ x ∈ v.gains, a.desk.Supplies a.now x
  records : ∀ r ∈ room.records, a.admitted ≤ r.number → ∀ x ∈ r.gains, a.desk.Supplies a.now x

variable {a room room' : Room K V E σ L B}

theorem Since.refl (h : a.Sound) : a.Since a where
  time := le_refl _
  desk := .refl _ _
  waits := fun v hv hn => absurd (h.visitors v hv) (by omega)
  visits := fun v hv hn => absurd (h.visitors v hv) (by omega)
  records := fun r hr hn => absurd (h.readers r hr) (by omega)

theorem Since.worked (h : a.Since room) (hs : room.Sound) {before after : List (Visit K V E L B)}
    {v : Visit K V E L B} (here : room.visits = before ++ v :: after) {d : Desk K V E}
    {gains : List (Gain K V E)} {held : Multiset (Holding K V E)}
    (acts : Acts room.now room.desk v.reader.held gains d held) :
    Later a.desk a.now d ∧ (a.admitted ≤ v.number →
      (∀ key flight, .wait key flight ∈ held → a.desk.Flown key flight) ∧
        ∀ x ∈ v.gains ++ gains, a.desk.Supplies a.now x) := by
  have hc : Covered (heldBy (before ++ after)) := covered_heldBy fun u hu =>
    (hs.visits u (here ▸ mem_at hu)).covered
  have ho := hs.orderly
  rw [here, heldBy_at] at ho
  have hv : v ∈ room.visits := by simp [here]
  refine ⟨acts.later hc ho h.time h.desk, fun hn => ?_⟩
  obtain ⟨new, waits⟩ := acts.supplies hc ho h.time h.desk (h.waits v hv hn)
  exact ⟨waits, fun x hx => (List.mem_append.mp hx).elim (h.visits v hv hn x) (new x)⟩

theorem Since.dropped (h : a.Since room)
    (hs : ∀ e ∈ room'.cache.store.entries, e ∈ room.cache.store.entries)
    (ht : room'.cache.store.ttl = room.cache.store.ttl)
    (hu : room'.cache.underWay = room.cache.underWay)
    (hf : room'.cache.flights = room.cache.flights) (hl : room'.landings = room.landings)
    (hv : room'.visits = room.visits) (hr : room'.records = room.records)
    (hn : room.now ≤ room'.now) : a.Since room' where
  time := le_trans h.time hn
  desk := h.desk.mono (congrArg Array.size hf) ht (fun _ hp => hu ▸ hp) hs hl
  waits := hv ▸ h.waits
  visits := hv ▸ h.visits
  records := hr ▸ h.records

theorem Since.arrive (h : a.Since room) (inquiry : Inquiry K) : a.Since (room.arrive inquiry) where
  time := h.time
  desk := h.desk
  waits := by
    intro v hv hn
    rcases List.mem_append.mp hv with hv | hv
    · exact h.waits v hv hn
    · cases List.mem_singleton.mp hv
      simp [held_start]
  visits := by
    intro v hv hn
    rcases List.mem_append.mp hv with hv | hv
    · exact h.visits v hv hn
    · cases List.mem_singleton.mp hv
      simp
  records := h.records

theorem Since.step (h : a.Since room) (hs : room.Sound) (step : Step loader outside room room') :
    a.Since room' := by
  cases step with
  | arrive inquiry => exact h.arrive inquiry
  | move before after v reader cache world events here moves =>
    obtain ⟨-, -, acts⟩ := Reader.goes moves (hs.visits v (by simp [here])).whole room.landings
    obtain ⟨desk, new⟩ := h.worked hs here acts
    refine ⟨h.time, desk, fun u hu hn => ?_, fun u hu hn => ?_, h.records⟩
    all_goals
      rw [List.mem_append, List.mem_cons] at hu
      have old : u ∈ before ++ after → u ∈ room.visits := fun hm => here ▸ mem_at hm
      rw [List.mem_append] at old
    · rcases hu with hu | rfl | hu
      · exact h.waits u (old (.inl hu)) hn
      · exact (new hn).1
      · exact h.waits u (old (.inr hu)) hn
    · rcases hu with hu | rfl | hu
      · exact h.visits u (old (.inl hu)) hn
      · exact (new hn).2
      · exact h.visits u (old (.inr hu)) hn
  | finish before after v answers cache world events here moves =>
    obtain ⟨-, found, -, acts⟩ := Reader.ends moves (hs.visits v (by simp [here])).whole room.landings
    obtain ⟨desk, new⟩ := h.worked hs here acts
    refine ⟨h.time, desk, fun u hu => h.waits u (here ▸ mem_at hu),
      fun u hu => h.visits u (here ▸ mem_at hu), fun r hr hn => ?_⟩
    rcases List.mem_cons.mp hr with rfl | hr
    · exact (new hn).2
    · exact h.records r hr hn
  | cancel before after v cache world here leaves =>
    obtain ⟨desk, -⟩ := h.worked hs here (Reader.leaves leaves room.now room.landings)
    exact ⟨h.time, desk, fun u hu => h.waits u (here ▸ mem_at hu),
      fun u hu => h.visits u (here ▸ mem_at hu), h.records⟩
  | invalidate key =>
    exact h.dropped (fun e he => (Store.mem_remove.mp he).1) rfl rfl rfl rfl rfl rfl (le_refl _)
  | invalidateAll => exact h.dropped (fun e he => by cases he) rfl rfl rfl rfl rfl rfl (le_refl _)
  | wait later hl => exact h.dropped (fun e he => he) rfl rfl rfl rfl rfl rfl hl
  | outside world ho => exact h.dropped (fun e he => he) rfl rfl rfl rfl rfl rfl (le_refl _)

theorem Since.reach (ha : a.Sound) (h : Reach loader outside a room) : a.Since room := by
  induction h with
  | refl => exact .refl ha
  | tail before step ih => exact ih.step (ha.reach before) step

end Room

end

end PacedCalls.Cache
