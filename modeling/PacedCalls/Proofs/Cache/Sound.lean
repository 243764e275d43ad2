import PacedCalls.Proofs.Cache.Order
import PacedCalls.Proofs.Cache.ReaderMoves

set_option autoImplicit false

namespace PacedCalls.Cache

section

variable {K V E σ L B : Type}

structure Visit.Sound (landings : List (Landing K V E)) (v : Visit K V E L B) : Prop where
  whole : v.reader.Whole
  keys : v.reader.keys = v.inquiry.keys
  covered : Covered v.reader.held
  answers : ∀ key a, .answer key a ∈ v.reader.held → ∃ x ∈ v.gains, x.key = key ∧ x.answer = a
  gains : ∀ x ∈ v.gains, x.Landed landings

/-- A finished read has an answer for each key it asked for, and has gained it for that key. -/
structure Record.Sound (landings : List (Landing K V E)) (r : Record K V E) : Prop where
  length : r.answers.length = r.inquiry.keys.length
  answers : ∀ p ∈ r.inquiry.keys.zip r.answers, ∃ x ∈ r.gains, x.key = p.1 ∧ x.answer = p.2
  gains : ∀ x ∈ r.gains, x.Landed landings

structure Room.Sound [DecidableEq K] (room : Room K V E σ L B) : Prop where
  orderly : Orderly room.desk (heldBy room.visits)
  visits : ∀ v ∈ room.visits, v.Sound room.landings
  records : ∀ r ∈ room.records, r.Sound room.landings
  visitors : ∀ v ∈ room.visits, v.number < room.admitted
  readers : ∀ r ∈ room.records, r.number < room.admitted

/-- What is known after a visitor has done something, of it and of the others. -/
structure Room.Worked [DecidableEq K] (room : Room K V E σ L B) (others : List (Visit K V E L B))
    (v : Visit K V E L B) (d : Desk K V E) (gains : List (Gain K V E))
    (held : Multiset (Holding K V E)) : Prop where
  visit : v.Sound room.landings
  covered : Covered held
  orderly : Orderly d (held + heldBy others)
  landed : ∀ x ∈ v.gains ++ gains, x.Landed d.landings
  gained : ∀ key a, .answer key a ∈ held → ∃ x ∈ v.gains ++ gains, x.key = key ∧ x.answer = a
  others : ∀ u ∈ others, u.Sound d.landings
  records : ∀ r ∈ room.records, r.Sound d.landings

theorem heldBy_append (a b : List (Visit K V E L B)) : heldBy (a ++ b) = heldBy a + heldBy b := by
  simp [heldBy]

theorem heldBy_cons (v : Visit K V E L B) (visits : List (Visit K V E L B)) :
    heldBy (v :: visits) = v.reader.held + heldBy visits := by
  simp [heldBy]

theorem heldBy_at (before after : List (Visit K V E L B)) (v : Visit K V E L B) :
    heldBy (before ++ v :: after) = v.reader.held + heldBy (before ++ after) := by
  rw [heldBy_append, heldBy_cons, heldBy_append, add_left_comm]

theorem mem_at {before after : List (Visit K V E L B)} {u v : Visit K V E L B}
    (h : u ∈ before ++ after) : u ∈ before ++ v :: after := by
  simp only [List.mem_append, List.mem_cons] at h ⊢
  tauto

theorem covered_heldBy {visits : List (Visit K V E L B)}
    (h : ∀ v ∈ visits, Covered v.reader.held) : Covered (heldBy visits) := by
  induction visits with
  | nil => exact covered_zero
  | cons v rest ih =>
    rw [heldBy_cons]
    exact (h v (by simp)).add (ih fun v hv => h v (by simp [hv]))

theorem Visit.Sound.mono {l l' : List (Landing K V E)} {v : Visit K V E L B} (h : v.Sound l)
    (hs : l ⊆ l') : v.Sound l' :=
  { h with gains := fun x hx => (h.gains x hx).mono hs }

theorem Record.Sound.mono {l l' : List (Landing K V E)} {r : Record K V E} (h : r.Sound l)
    (hs : l ⊆ l') : r.Sound l' :=
  { h with gains := fun x hx => (h.gains x hx).mono hs }

theorem keys_start (inquiry : Inquiry K) :
    (inquiry.start : Reader K V E L B).keys = inquiry.keys := by
  cases inquiry <;> rfl

theorem held_start (inquiry : Inquiry K) : (inquiry.start : Reader K V E L B).held = 0 := by
  cases inquiry with
  | one key => rfl
  | many keys =>
    simp [Inquiry.start, ReadAll.start, Reader.held, ReadAll.held, ReadAll.seen, answersHeld]

theorem whole_start (inquiry : Inquiry K) : (inquiry.start : Reader K V E L B).Whole := by
  cases inquiry with
  | one key => trivial
  | many keys => exact Nat.zero_le _

end

section

variable {R K V E σ L B : Type} [DecidableEq K] {loader : Loader (Event R) K V E σ L B}
  {outside : σ → σ → Prop}

namespace Room

theorem sound_opening (c : Config) (world : σ) (now : Nat) :
    (opening c world now : Room K V E σ L B).Sound where
  orderly := by
    have none_ : guardsOf (0 : Multiset (Holding K V E)) = 0 := rfl
    constructor <;>
      simp [opening, desk, State.ofConfig, heldBy, Tied, State.flight, covered_zero, none_]
  visits := by simp [opening]
  records := by simp [opening]
  visitors := by simp [opening]
  readers := by simp [opening]

theorem Sound.worked {room : Room K V E σ L B} (h : room.Sound)
    {before after : List (Visit K V E L B)} {v : Visit K V E L B}
    (here : room.visits = before ++ v :: after) {d : Desk K V E} {gains : List (Gain K V E)}
    {held : Multiset (Holding K V E)}
    (acts : Acts room.now room.desk v.reader.held gains d held) :
    room.Worked (before ++ after) v d gains held := by
  have hv := h.visits v (by simp [here])
  have others (u) (hu : u ∈ before ++ after) : u.Sound room.landings :=
    h.visits u (here ▸ mem_at hu)
  have hc : Covered (heldBy (before ++ after)) := covered_heldBy fun u hu => (others u hu).covered
  have ho := h.orderly
  rw [here, heldBy_at] at ho
  have more : room.landings ⊆ d.landings := acts.landings_subset
  obtain ⟨landed, answers⟩ := acts.gained hc ho
  constructor
  · exact hv
  · exact acts.covered hv.covered
  · exact (acts.frame hc).orderly ho
  · intro x hx
    rcases List.mem_append.mp hx with hx | hx
    · exact (hv.gains x hx).mono more
    · exact landed x hx
  · intro key a hm
    rcases answers key a hm with hm | ⟨x, hx, hxa⟩
    · obtain ⟨x, hx, hxa⟩ := hv.answers key a hm
      exact ⟨x, by simp [hx], hxa⟩
    · exact ⟨x, by simp [hx], hxa⟩
  · exact fun u hu => (others u hu).mono more
  · exact fun r hr => (h.records r hr).mono more

theorem Sound.move {room : Room K V E σ L B} (h : room.Sound)
    {before after : List (Visit K V E L B)} {v : Visit K V E L B} {reader : Reader K V E L B}
    {cache : State K V E} {world : σ} {events : List (Event R)}
    (here : room.visits = before ++ v :: after)
    (moves : (Reader.process loader).move room.now v.reader (room.cache, room.world) =
      .goes reader (cache, world) events) :
    Sound { room with
      cache := cache
      world := world
      visits := before ++
        { v with reader := reader, gains := v.gains ++ v.reader.gains room.origin reader } :: after
      landings := landed room.now (v.reader.gains room.origin reader) room.landings } := by
  obtain ⟨whole, keys, acts⟩ := Reader.goes moves (h.visits v (by simp [here])).whole room.landings
  have done := h.worked here acts
  constructor
  · have ho := done.orderly
    rw [heldBy_at]
    exact ho
  · intro u hu
    by_cases hn : u ∈ before ++ after
    · exact done.others u hn
    · obtain rfl : u = { v with
          reader := reader
          gains := v.gains ++ v.reader.gains room.origin reader } := by
        simp only [List.mem_append, List.mem_cons] at hu hn
        tauto
      exact ⟨whole, keys.trans done.visit.keys, done.covered, done.gained, done.landed⟩
  · exact done.records
  · intro u hu
    have old := h.visitors
    rw [here] at old
    simp only [List.mem_append, List.mem_cons] at hu old
    rcases hu with hu | rfl | hu
    · exact old u (.inl hu)
    · exact old v (.inr (.inl rfl))
    · exact old u (.inr (.inr hu))
  · exact h.readers

theorem Sound.finish {room : Room K V E σ L B} (h : room.Sound)
    {before after : List (Visit K V E L B)} {v : Visit K V E L B} {answers : List (Lookup V E)}
    {cache : State K V E} {world : σ} {events : List (Event R)}
    (here : room.visits = before ++ v :: after)
    (moves : (Reader.process loader).move room.now v.reader (room.cache, room.world) =
      .ends answers (cache, world) events) :
    Sound { room with
      cache := cache
      world := world
      visits := before ++ after
      landings := landed room.now (v.reader.lastGains room.origin answers) room.landings
      records :=
        { number := v.number
          inquiry := v.inquiry
          answers := answers
          gains := v.gains ++ v.reader.lastGains room.origin answers } :: room.records } := by
  obtain ⟨length, found, mem, acts⟩ :=
    Reader.ends moves (h.visits v (by simp [here])).whole room.landings
  have done := h.worked here acts
  have hk := done.visit.keys
  constructor
  · have gone := Acts.drop room.now
      ⟨cache, landed room.now (v.reader.lastGains room.origin answers) room.landings⟩
      (guardsOf_answersHeld found) (heldBy (before ++ after))
    exact gone.orderly done.orderly
  · exact done.others
  · intro r hr
    rcases List.mem_cons.mp hr with rfl | hr
    · refine ⟨hk ▸ length, fun p hp => ?_, done.landed⟩
      exact done.gained p.1 p.2 (mem_answersHeld (mem p (hk ▸ hp)))
    · exact done.records r hr
  · exact fun u hu => h.visitors u (here ▸ mem_at hu)
  · intro r hr
    rcases List.mem_cons.mp hr with rfl | hr
    · exact h.visitors v (by simp [here])
    · exact h.readers r hr

theorem Sound.cancel {room : Room K V E σ L B} (h : room.Sound)
    {before after : List (Visit K V E L B)} {v : Visit K V E L B} {cache : State K V E} {world : σ}
    (here : room.visits = before ++ v :: after)
    (leaves : (Reader.process loader).abandon v.reader (room.cache, room.world) =
      (cache, world)) :
    Sound { room with cache := cache, world := world, visits := before ++ after } := by
  have done := h.worked here (Reader.leaves leaves room.now room.landings)
  refine ⟨?_, done.others, done.records, fun u hu => h.visitors u (here ▸ mem_at hu), h.readers⟩
  have ho := done.orderly
  rw [zero_add] at ho
  exact ho

theorem Sound.dropped {room room' : Room K V E σ L B} (h : room.Sound)
    (hs : ∀ e ∈ room'.cache.store.entries, e ∈ room.cache.store.entries)
    (hu : room'.cache.underWay = room.cache.underWay)
    (hf : room'.cache.flights = room.cache.flights) (hl : room'.landings = room.landings)
    (hv : room'.visits = room.visits) (hr : room'.records = room.records)
    (ha : room'.admitted = room.admitted) : room'.Sound where
  orderly := by
    rw [hv]
    exact h.orderly.mono hu hf hl hs rfl (le_refl _) fun _ _ hw => .inr (.inl hw)
  visits := by
    rw [hv, hl]
    exact h.visits
  records := by
    rw [hr, hl]
    exact h.records
  visitors := by
    rw [hv, ha]
    exact h.visitors
  readers := by
    rw [hr, ha]
    exact h.readers

theorem Sound.arrive {room : Room K V E σ L B} (h : room.Sound) (inquiry : Inquiry K) :
    (room.arrive inquiry).Sound := by
  have held : heldBy (room.arrive inquiry).visits = heldBy room.visits := by
    simp only [Room.arrive, heldBy_append, heldBy_cons, held_start]
    simp [heldBy]
  constructor
  · rw [held]
    exact h.orderly
  · intro v hv
    rcases List.mem_append.mp hv with hv | hv
    · exact h.visits v hv
    · cases List.mem_singleton.mp hv
      refine ⟨whole_start inquiry, keys_start inquiry, ?_, ?_, ?_⟩
      · rw [held_start]
        exact covered_zero
      · simp [held_start]
      · simp
  · exact h.records
  · intro v hv
    rcases List.mem_append.mp hv with hv | hv
    · exact Nat.lt_succ_of_lt (h.visitors v hv)
    · cases List.mem_singleton.mp hv
      exact Nat.lt_succ_self _
  · exact fun r hr => Nat.lt_succ_of_lt (h.readers r hr)

theorem Sound.step {room room' : Room K V E σ L B} (h : room.Sound)
    (hs : Step loader outside room room') : room'.Sound := by
  cases hs with
  | arrive inquiry => exact h.arrive inquiry
  | move before after v reader cache world events here moves => exact h.move here moves
  | finish before after v answers cache world events here moves => exact h.finish here moves
  | cancel before after v cache world here leaves => exact h.cancel here leaves
  | invalidate key =>
    exact h.dropped (fun e he => (Store.mem_remove.mp he).1) rfl rfl rfl rfl rfl rfl
  | invalidateAll => exact h.dropped (fun e he => by cases he) rfl rfl rfl rfl rfl rfl
  | wait later hl => exact h.dropped (fun e he => he) rfl rfl rfl rfl rfl rfl
  | outside world ho => exact h.dropped (fun e he => he) rfl rfl rfl rfl rfl rfl

theorem Sound.reach {room room' : Room K V E σ L B} (h : room.Sound)
    (hr : Reach loader outside room room') : room'.Sound := by
  induction hr with
  | refl => exact h
  | tail _ hs ih => exact ih.step hs

end Room

end

end PacedCalls.Cache
