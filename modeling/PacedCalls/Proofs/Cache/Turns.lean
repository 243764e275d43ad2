import PacedCalls.Proofs.Cache.Runs
import PacedCalls.Proofs.Cache.Steps

set_option autoImplicit false

namespace PacedCalls.Cache

/-- A visitor has its turn. -/
structure Turn (K V E σ L B : Type) where
  number : ℕ
  reader : Reader K V E L B
  now : ℕ
  cache : State K V E
  world : σ

section

variable {R K V E σ L B : Type}

def Turn.of (number : ℕ) (turns : List (Turn K V E σ L B)) : List (Turn K V E σ L B) :=
  turns.filter (·.number = number)

theorem Turn.of_append (number : ℕ) (a b : List (Turn K V E σ L B)) :
    of number (a ++ b) = of number a ++ of number b :=
  List.filter_append ..

def Visit.turn (v : Visit K V E L B) (room : Room K V E σ L B) : Turn K V E σ L B where
  number := v.number
  reader := v.reader
  now := room.now
  cache := room.cache
  world := room.world

variable [DecidableEq K]

def Turn.move (loader : Loader (Event R) K V E σ L B) (t : Turn K V E σ L B) :
    Move (Event R) (State K V E × σ) (Reader K V E L B) (List (Lookup V E)) :=
  (Reader.process loader).move t.now t.reader (t.cache, t.world)

def Turn.after (loader : Loader (Event R) K V E σ L B) (t : Turn K V E σ L B) : State K V E :=
  match t.move loader with
  | .waits _ => t.cache
  | .goes _ w _ => w.1
  | .ends _ w _ => w.1

namespace Room

def turn (room : Room K V E σ L B) : Deed K σ → List (Turn K V E σ L B)
  | .go place => room.visits[place]?.toList.map (·.turn room)
  | _ => []

def turns (loader : Loader (Event R) K V E σ L B) :
    List (Deed K σ) → Room K V E σ L B → List (Turn K V E σ L B)
  | [], _ => []
  | deed :: more, room =>
    room.turn deed ++ (room.perform loader deed).toList.flatMap (turns loader more)

end Room

section

variable {loader : Loader (Event R) K V E σ L B} {t : Turn K V E σ L B} {w : State K V E × σ}
  {events : List (Event R)}

theorem Turn.after_goes {reader : Reader K V E L B} (h : t.move loader = .goes reader w events) :
    t.after loader = w.1 := by
  simp only [after, h]

theorem Turn.after_ends {answers : List (Lookup V E)} (h : t.move loader = .ends answers w events) :
    t.after loader = w.1 := by
  simp only [after, h]

end

end

namespace Room

variable {R K V E σ L B : Type} [DecidableEq K] {loader : Loader (Event R) K V E σ L B}
  {outside : σ → σ → Prop} {room room' : Room K V E σ L B} {deed : Deed K σ}
  {more : List (Deed K σ)}

theorem turns_cons (h : room.perform loader deed = some room') :
    turns loader (deed :: more) room = room.turn deed ++ turns loader more room' := by
  simp [turns, h]

omit [DecidableEq K] in
def numbers (room : Room K V E σ L B) : List ℕ :=
  room.visits.map (·.number) ++ room.records.map (·.number)

structure Numbered (room : Room K V E σ L B) : Prop where
  once : room.numbers.Nodup
  below : ∀ n ∈ room.numbers, n < room.admitted

omit [DecidableEq K] in
theorem numbered_opening (c : Config) (world : σ) (start : ℕ) :
    (opening c world start : Room K V E σ L B).Numbered :=
  ⟨List.nodup_nil, by simp [numbers, opening]⟩

omit [DecidableEq K] in
theorem numbers_at {before after : List (Visit K V E L B)} {v : Visit K V E L B}
    (here : room.visits = before ++ v :: after) :
    room.numbers.Perm (v.number ::
      ((before ++ after).map (·.number) ++ room.records.map (·.number))) := by
  simp only [numbers, here, List.map_append, List.map_cons, List.append_assoc, List.cons_append]
  exact List.perm_middle

omit [DecidableEq K] in
theorem Numbered.alone (h : room.Numbered) {before after : List (Visit K V E L B)}
    {v : Visit K V E L B} (here : room.visits = before ++ v :: after) :
    (∀ u ∈ before ++ after, u.number ≠ v.number) ∧ ∀ r ∈ room.records, r.number ≠ v.number := by
  have once := (numbers_at here).nodup_iff.mp h.once
  have absent := (List.nodup_cons.mp once).1
  simp only [List.mem_append, List.mem_map, not_or, not_exists, not_and] at absent ⊢
  exact ⟨absent.1, absent.2⟩

omit [DecidableEq K] in
theorem Numbered.fewer (h : room.Numbered) (sub : room'.numbers.Subperm room.numbers)
    (admitted : room'.admitted = room.admitted) : room'.Numbered where
  once := by
    obtain ⟨same, perm, sub⟩ := sub
    exact perm.nodup_iff.mp (h.once.sublist sub)
  below n hn := admitted ▸ h.below n (sub.subset hn)

omit [DecidableEq K] in
theorem Numbered.arrive (h : room.Numbered) (inquiry : Inquiry K) :
    (room.arrive inquiry).Numbered := by
  have fresh : room.admitted ∉ room.numbers := fun hm => (h.below _ hm).false
  have perm : (room.arrive inquiry).numbers.Perm (room.admitted :: room.numbers) :=
    (numbers_at rfl).trans (by simp [numbers, Room.arrive])
  refine ⟨perm.nodup_iff.mpr (List.nodup_cons.mpr ⟨fresh, h.once⟩), fun n hn => ?_⟩
  rcases List.mem_cons.mp (perm.mem_iff.mp hn) with rfl | hn
  · exact Nat.lt_succ_self _
  · exact Nat.lt_succ_of_lt (h.below n hn)

theorem Numbered.step (h : room.Numbered) (s : Step loader outside room room') :
    room'.Numbered := by
  cases s with
  | arrive inquiry => exact h.arrive inquiry
  | move before after v reader cache world events here moves =>
    refine h.fewer (List.Perm.subperm (.of_eq ?_)) rfl
    simp [numbers, here]
  | finish before after v answers cache world events here moves =>
    refine h.fewer (List.Perm.subperm ?_) rfl
    exact List.perm_middle.trans (numbers_at here).symm
  | cancel before after v cache world here leaves =>
    refine h.fewer ?_ rfl
    exact (List.sublist_cons_self _ _).subperm.trans (numbers_at here).symm.subperm
  | invalidate key => exact ⟨h.once, h.below⟩
  | invalidateAll => exact ⟨h.once, h.below⟩
  | wait later hl => exact ⟨h.once, h.below⟩
  | outside world ho => exact ⟨h.once, h.below⟩

theorem Numbered.reach (h : room.Numbered) (run : Reach loader outside room room') :
    room'.Numbered := by
  induction run with
  | refl => exact h
  | tail _ s ih => exact ih.step s

theorem go_cases {place : ℕ} (h : room.perform loader (.go place) = some room') :
    ∃ before v after, room.visits = before ++ v :: after ∧ before.length = place ∧
      ((∃ reader cache world events,
        (v.turn room).move loader = .goes reader (cache, world) events ∧
        room' = { room with
          cache := cache
          world := world
          visits := before ++
            { v with reader := reader, gains := v.gains ++ v.reader.gains room.origin reader } ::
              after
          landings := landed room.now (v.reader.gains room.origin reader) room.landings }) ∨
      ∃ answers cache world events,
        (v.turn room).move loader = .ends answers (cache, world) events ∧
        room' = { room with
          cache := cache
          world := world
          visits := before ++ after
          landings := landed room.now (v.reader.lastGains room.origin answers) room.landings
          records :=
            { number := v.number
              inquiry := v.inquiry
              answers := answers
              gains := v.gains ++ v.reader.lastGains room.origin answers } :: room.records }) := by
  simp only [perform] at h
  split at h
  · cases h
  · next v hv =>
    have length : (room.visits.take place).length = place := by
      obtain ⟨lt, -⟩ := List.getElem?_eq_some_iff.mp hv
      simp [lt.le]
    refine ⟨_, v, _, visits_at hv, length, ?_⟩
    split at h
    · cases h
    · next moves =>
      cases h
      exact .inl ⟨_, _, _, _, moves, rfl⟩
    · next moves =>
      cases h
      exact .inr ⟨_, _, _, _, moves, rfl⟩

theorem leave_cases {place : ℕ} (h : room.perform loader (.leave place) = some room') :
    ∃ before v after, room.visits = before ++ v :: after ∧
      room' = { room with
        cache := ((Reader.process loader).abandon v.reader (room.cache, room.world)).1
        world := ((Reader.process loader).abandon v.reader (room.cache, room.world)).2
        visits := before ++ after } := by
  simp only [perform] at h
  split at h
  · cases h
  · next v hv =>
    cases h
    exact ⟨_, v, _, visits_at hv, rfl⟩

theorem wait_eq {later : ℕ} (h : room.perform loader (.wait later) = some room') :
    room' = { room with now := later } := by
  simp only [perform] at h
  split at h <;> cases h
  rfl

theorem now_eq (h : room.perform loader deed = some room') (goes_on : ∀ later, deed ≠ .wait later) :
    room'.now = room.now := by
  cases deed with
  | go place =>
    obtain ⟨before, v, after, -, -, ⟨reader, cache, world, events, -, rfl⟩ |
      ⟨answers, cache, world, events, -, rfl⟩⟩ := go_cases h <;> rfl
  | leave place =>
    obtain ⟨before, v, after, -, rfl⟩ := leave_cases h
    rfl
  | wait later => exact absurd rfl (goes_on later)
  | arrive inquiry => cases h; rfl
  | invalidate key => cases h; rfl
  | invalidateAll => cases h; rfl
  | change world => cases h; rfl

omit [DecidableEq K] in
theorem turn_go {before after : List (Visit K V E L B)} {v : Visit K V E L B}
    (here : room.visits = before ++ v :: after) :
    room.turn (.go before.length : Deed K σ) = [v.turn room] := by
  simp [turn, here]

/-- Some moves of a visitor that nobody disturbs are as many turns of it, one after another. -/
theorem play_passes {now n : ℕ} {start reader : Reader K V E L B} {w w' : State K V E × σ}
    (passes : (Reader.process loader).Passes Reader.Passing now n start w reader w')
    (passing : reader.Passing) {before after : List (Visit K V E L B)} {v : Visit K V E L B}
    (here : room.visits = before ++ v :: after) (stands : v.reader = start)
    (clock : room.now = now) (found : (room.cache, room.world) = w) :
    ∃ room' u, play loader (List.replicate n (.go before.length)) room = some room' ∧
      room'.visits = before ++ u :: after ∧ u.number = v.number ∧ u.reader = reader ∧
      (room'.cache, room'.world) = w' ∧ room'.now = now ∧
      ∀ t ∈ turns loader (List.replicate n (.go before.length)) room, t.reader.Passing ∧
        ∃ reader w, t.move loader = .goes reader w [] ∧ reader.Passing := by
  induction passes generalizing room v with
  | done st w => exact ⟨room, v, rfl, here, rfl, stands, found, clock, by simp [turns]⟩
  | @goes n st st' st'' w w₁ w₂ on move rest ih =>
    subst stands clock found
    obtain ⟨cache, world⟩ := w₁
    have next : st'.Passing := by
      cases rest with
      | done => exact passing
      | goes on' => exact on'
    obtain ⟨between, v', went, here', number', stands, clock, found⟩ : ∃ room' v',
        room.perform loader (.go before.length) = some room' ∧
        room'.visits = before ++ v' :: after ∧ v'.number = v.number ∧ v'.reader = st' ∧
        room'.now = room.now ∧ (room'.cache, room'.world) = (cache, world) :=
      ⟨_, _, perform_go here move, rfl, rfl, rfl, rfl, rfl⟩
    obtain ⟨room', u, played, visits, number, stands, found, clock, quiet⟩ :=
      ih passing here' stands clock found
    refine ⟨room', u, ?_, visits, number.trans number', stands, found, clock, ?_⟩
    · rw [List.replicate_succ, play, went]
      exact played
    · rw [List.replicate_succ, turns_cons went, turn_go here]
      exact List.forall_mem_cons.mpr ⟨⟨on, _, _, move, next⟩, quiet⟩

/-- What a visitor keeps from turn to turn, and what it has got when it is done; the cache is as it
may be whenever it has its turn. -/
structure Habit (loader : Loader (Event R) K V E σ L B) (ok : State K V E → Prop)
    (P : List (Turn K V E σ L B) → Reader K V E L B → Prop)
    (Q : List (Turn K V E σ L B) → List (Lookup V E) → Prop) : Prop where
  goes : ∀ {past t reader w events}, ok t.cache → P past t.reader →
    t.move loader = .goes reader w events → P (past ++ [t]) reader
  ends : ∀ {past t answers w events}, ok t.cache → P past t.reader →
    t.move loader = .ends answers w events → Q (past ++ [t]) answers

section

variable {ok : State K V E → Prop} {P : List (Turn K V E σ L B) → Reader K V E L B → Prop}
  {Q : List (Turn K V E σ L B) → List (Lookup V E) → Prop} {n : ℕ}
  {past : List (Turn K V E σ L B)}

/-- What is kept of the visitor with a number, as long as it is there and when it is done. -/
def Tracked (P : List (Turn K V E σ L B) → Reader K V E L B → Prop)
    (Q : List (Turn K V E σ L B) → List (Lookup V E) → Prop) (n : ℕ)
    (past : List (Turn K V E σ L B)) (room : Room K V E σ L B) : Prop :=
  (∀ v ∈ room.visits, v.number = n → P past v.reader) ∧
    ∀ r ∈ room.records, r.number = n → Q past r.answers

section

variable {before after : List (Visit K V E L B)} {v : Visit K V E L B}

theorem Habit.turn (habit : Habit loader ok P Q) (numbered : room.Numbered) (safe : ok room.cache)
    (here : room.visits = before ++ v :: after)
    (h : room.perform loader (.go before.length) = some room')
    (kept : room.Tracked P Q v.number past) :
    room'.Tracked P Q v.number (past ++ [v.turn room]) := by
  obtain ⟨others, gone⟩ := numbered.alone here
  have kept : P past v.reader := kept.1 v (by simp [here]) rfl
  obtain ⟨before', v', after', here', length, moved⟩ := go_cases h
  obtain ⟨rfl, rest⟩ := List.append_inj (here'.symm.trans here) length
  obtain ⟨rfl, rfl⟩ := List.cons.inj rest
  obtain ⟨reader, cache, world, events, moves, rfl⟩ | ⟨answers, cache, world, events, moves, rfl⟩ :=
    moved
  · refine ⟨fun u hu number => ?_, fun r hr number => absurd number (gone r hr)⟩
    by_cases other : u ∈ before' ++ after'
    · exact absurd number (others u other)
    · obtain rfl : u = { v' with
          reader := reader
          gains := v'.gains ++ v'.reader.gains room.origin reader } := by
        simp only [List.mem_append, List.mem_cons] at hu other
        tauto
      exact habit.goes safe kept moves
  · refine ⟨fun u hu number => absurd number (others u hu), fun r hr number => ?_⟩
    rcases List.mem_cons.mp hr with rfl | hr
    · exact habit.ends safe kept moves
    · exact absurd number (gone r hr)

theorem Tracked.beside (kept : room.Tracked P Q n past) (here : room.visits = before ++ v :: after)
    (other : v.number ≠ n) (h : room.perform loader (.go before.length) = some room') :
    room'.Tracked P Q n past := by
  obtain ⟨visits, records⟩ := kept
  rw [here] at visits
  obtain ⟨before', v', after', here', length, moved⟩ := go_cases h
  obtain ⟨rfl, rest⟩ := List.append_inj (here'.symm.trans here) length
  obtain ⟨rfl, rfl⟩ := List.cons.inj rest
  obtain ⟨reader, cache, world, events, -, rfl⟩ | ⟨answers, cache, world, events, -, rfl⟩ := moved
  · refine ⟨fun u hu number => ?_, records⟩
    simp only [List.mem_append, List.mem_cons] at hu visits
    rcases hu with hu | rfl | hu
    · exact visits u (.inl hu) number
    · exact absurd number other
    · exact visits u (.inr (.inr hu)) number
  · refine ⟨fun u hu => visits u (mem_at hu), fun r hr number => ?_⟩
    rcases List.mem_cons.mp hr with rfl | hr
    · exact absurd number other
    · exact records r hr number

end

theorem Habit.perform (habit : Habit loader ok P Q) (numbered : room.Numbered)
    (safe : ok room.cache) (come : n < room.admitted) (h : room.perform loader deed = some room')
    (kept : room.Tracked P Q n past) :
    room'.Tracked P Q n (past ++ Turn.of n (room.turn deed)) := by
  have still (none_ : room.turn deed = []) : past ++ Turn.of n (room.turn deed) = past := by
    simp [none_, Turn.of]
  cases deed with
  | go place =>
    obtain ⟨before, v, after, here, rfl, -⟩ := go_cases h
    rw [turn_go here]
    by_cases mine : v.number = n
    · subst mine
      have own : Turn.of v.number [v.turn room] = [v.turn room] := by simp [Turn.of, Visit.turn]
      rw [own]
      exact habit.turn numbered safe here h kept
    · have none_ : Turn.of n [v.turn room] = [] := by simp [Turn.of, Visit.turn, mine]
      rw [none_, List.append_nil]
      exact kept.beside here mine h
  | arrive inquiry =>
    cases h
    rw [still rfl]
    refine ⟨fun u hu number => ?_, kept.2⟩
    rcases List.mem_append.mp hu with hu | hu
    · exact kept.1 u hu number
    · rw [List.mem_singleton.mp hu] at number
      exact absurd number come.ne'
  | leave place =>
    obtain ⟨before, v, after, here, rfl⟩ := leave_cases h
    rw [still rfl]
    exact ⟨fun u hu => kept.1 u (here ▸ mem_at hu), kept.2⟩
  | wait later =>
    obtain rfl := wait_eq h
    rwa [still rfl]
  | invalidate key => cases h; rwa [still rfl]
  | invalidateAll => cases h; rwa [still rfl]
  | change world => cases h; rwa [still rfl]

omit [DecidableEq K] in
theorem Numbered.tracked_arrive {a : Room K V E σ L B} (numbered : a.Numbered)
    {inquiry : Inquiry K} (starts : P [] inquiry.start) :
    (a.arrive inquiry).Tracked P Q a.admitted [] := by
  constructor
  · intro v hv number
    rcases List.mem_append.mp hv with hv | hv
    · have := numbered.below v.number (List.mem_append_left _ (List.mem_map_of_mem hv))
      omega
    · rw [List.mem_singleton.mp hv]
      exact starts
  · intro r hr number
    have := numbered.below r.number (List.mem_append_right _ (List.mem_map_of_mem hr))
    omega

theorem turns_append (first rest : List (Deed K σ)) (run : play loader first room = some room') :
    turns loader (first ++ rest) room = turns loader first room ++ turns loader rest room' := by
  induction first generalizing room with
  | nil =>
    cases run
    rfl
  | cons deed more ih =>
    obtain ⟨next, hp, hm⟩ := Option.bind_eq_some_iff.mp run
    rw [List.cons_append, turns_cons hp, turns_cons hp, ih hm, List.append_assoc]

theorem Habit.play (habit : Habit loader ok P Q) (numbered : room.Numbered)
    (safe : ∀ b, Reach loader (fun _ _ => True) room b → ok b.cache) (come : n < room.admitted)
    (run : play loader more room = some room') (kept : room.Tracked P Q n past) :
    room'.Tracked P Q n (past ++ Turn.of n (turns loader more room)) := by
  induction more generalizing room past with
  | nil =>
    cases run
    simpa [turns, Turn.of] using kept
  | cons deed more ih =>
    obtain ⟨next, hp, hm⟩ := Option.bind_eq_some_iff.mp run
    have step : Step loader (fun _ _ => True) room next := step_of_perform (fun _ _ => trivial) hp
    have kept' := habit.perform numbered (safe room .refl) come hp kept
    have later := ih (numbered.step step) (fun b hb => safe b (.head step hb))
      (come.trans_le step.admitted_le) hm kept'
    rwa [List.append_assoc, ← Turn.of_append, ← turns_cons hp] at later

end

end Room

end PacedCalls.Cache
