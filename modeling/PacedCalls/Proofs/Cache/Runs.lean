import PacedCalls.Proofs.Cache.Room

set_option autoImplicit false

namespace PacedCalls.Cache

/-- What may happen in a room; visitors are named by their places. -/
inductive Deed (K σ : Type) where
  | arrive (inquiry : Inquiry K)
  | go (place : Nat)
  | leave (place : Nat)
  | invalidate (key : K)
  | invalidateAll
  | wait (later : Nat)
  | change (world : σ)

/-- A loader for a board on which values are posted under their keys: a load returns once the value
of its key is there, a batch once those of all its keys are. -/
def Loader.board (maxBatch : Nat) :
    Loader (Event Nat) Nat Nat Unit (List (Nat × Nat)) Nat (List Nat) where
  load :=
    { move := fun _ key board =>
        match board.lookup key with
        | some value => .ends (.found value) board []
        | none => .waits none }
  begin := id
  loadBatch :=
    { move := fun _ keys board =>
        if keys.all fun key => (board.lookup key).isSome then
          .ends (.ok (board.filter fun p => keys.contains p.1)) board []
        else .waits none }
  beginBatch := id
  maxBatch := maxBatch

/-- The board with failures and absences among what is posted: a batch fails with the first failure
posted for its keys. -/
def Loader.notices (maxBatch : Nat) :
    Loader (Event Nat) Nat Nat Unit (List (Nat × Lookup Nat Unit)) Nat (List Nat) where
  load :=
    { move := fun _ key board =>
        match board.lookup key with
        | some answer => .ends answer board []
        | none => .waits none }
  begin := id
  loadBatch :=
    { move := fun _ keys board =>
        if keys.all fun key => (board.lookup key).isSome then
          .ends (collect [] (board.filter fun p => keys.contains p.1)) board []
        else .waits none }
  beginBatch := id
  maxBatch := maxBatch

namespace Room

variable {R K V E σ L B : Type} [DecidableEq K]

def perform (loader : Loader (Event R) K V E σ L B) (room : Room K V E σ L B) :
    Deed K σ → Option (Room K V E σ L B)
  | .arrive inquiry => some (room.arrive inquiry)
  | .go place =>
    match room.visits[place]? with
    | none => none
    | some v =>
      match (Reader.process loader).move room.now v.reader (room.cache, room.world) with
      | .waits _ => none
      | .goes reader (cache, world) _ =>
        some { room with
          cache := cache
          world := world
          visits := room.visits.take place ++
            { v with
              reader := reader
              gains := v.gains ++ v.reader.gains room.origin reader } ::
            room.visits.drop (place + 1)
          landings := landed room.now (v.reader.gains room.origin reader) room.landings }
      | .ends answers (cache, world) _ =>
        some { room with
          cache := cache
          world := world
          visits := room.visits.take place ++ room.visits.drop (place + 1)
          landings := landed room.now (v.reader.lastGains room.origin answers) room.landings
          records :=
            { number := v.number
              inquiry := v.inquiry
              answers := answers
              gains := v.gains ++ v.reader.lastGains room.origin answers } :: room.records }
  | .leave place =>
    match room.visits[place]? with
    | none => none
    | some v =>
      let (cache, world) := (Reader.process loader).abandon v.reader (room.cache, room.world)
      some { room with
        cache := cache
        world := world
        visits := room.visits.take place ++ room.visits.drop (place + 1) }
  | .invalidate key => some (room.invalidate key)
  | .invalidateAll => some room.invalidateAll
  | .wait later => if room.now ≤ later then some { room with now := later } else none
  | .change world => some { room with world := world }

def play (loader : Loader (Event R) K V E σ L B) :
    List (Deed K σ) → Room K V E σ L B → Option (Room K V E σ L B)
  | [], room => some room
  | deed :: more, room => (room.perform loader deed).bind (play loader more)

theorem play_append (loader : Loader (Event R) K V E σ L B) (before more : List (Deed K σ))
    (room : Room K V E σ L B) :
    play loader (before ++ more) room = (play loader before room).bind (play loader more) := by
  induction before generalizing room with
  | nil => rfl
  | cons deed rest ih =>
    rw [List.cons_append, play, play, Option.bind_assoc]
    exact congrArg _ (funext ih)

omit [DecidableEq K] in
theorem visits_at {room : Room K V E σ L B} {place : Nat} {v : Visit K V E L B}
    (h : room.visits[place]? = some v) :
    room.visits = room.visits.take place ++ v :: room.visits.drop (place + 1) := by
  obtain ⟨hlt, rfl⟩ := List.getElem?_eq_some_iff.mp h
  rw [← List.drop_eq_getElem_cons hlt, List.take_append_drop]

theorem step_of_perform {loader : Loader (Event R) K V E σ L B} {outside : σ → σ → Prop}
    {room room' : Room K V E σ L B} {deed : Deed K σ}
    (may : ∀ world, deed = .change world → outside room.world world)
    (h : room.perform loader deed = some room') : Step loader outside room room' := by
  cases deed with
  | arrive inquiry =>
    cases h
    exact .arrive inquiry
  | go place =>
    simp only [perform] at h
    split at h
    · cases h
    · next v hv =>
      split at h
      · cases h
      · next moves =>
        cases h
        exact .move _ _ v _ _ _ _ (visits_at hv) moves
      · next moves =>
        cases h
        exact .finish _ _ v _ _ _ _ (visits_at hv) moves
  | leave place =>
    simp only [perform] at h
    split at h
    · cases h
    · next v hv =>
      cases h
      exact .cancel _ _ v _ _ (visits_at hv) rfl
  | invalidate key =>
    cases h
    exact .invalidate key
  | invalidateAll =>
    cases h
    exact .invalidateAll
  | wait later =>
    simp only [perform] at h
    split at h
    · next hl =>
      cases h
      exact .wait later hl
    · cases h
  | change world =>
    cases h
    exact .outside world (may world rfl)

/-- A room that is played can be reached, if every change of the world is one that may happen. -/
theorem reach_of_allowed_play {loader : Loader (Event R) K V E σ L B} {outside : σ → σ → Prop}
    {deeds : List (Deed K σ)} {room room' : Room K V E σ L B}
    (allowed : ∀ world, .change world ∈ deeds → ∀ w, outside w world)
    (h : play loader deeds room = some room') : Reach loader outside room room' := by
  induction deeds generalizing room with
  | nil =>
    cases h
    exact .refl
  | cons deed more ih =>
    obtain ⟨next, hp, hm⟩ := Option.bind_eq_some_iff.mp h
    have may (world : σ) (change : deed = .change world) : outside room.world world :=
      allowed world (change ▸ List.mem_cons_self) _
    exact .head (step_of_perform may hp) (ih (fun world mem => allowed world (.tail _ mem)) hm)

theorem reach_of_play {loader : Loader (Event R) K V E σ L B} {deeds : List (Deed K σ)}
    {room room' : Room K V E σ L B} (h : play loader deeds room = some room') :
    Reach loader (fun _ _ => True) room room' :=
  reach_of_allowed_play (fun _ _ _ => trivial) h

variable {loader : Loader (Event R) K V E σ L B} {outside : σ → σ → Prop}
  {room room' : Room K V E σ L B}

theorem perform_go {before after : List (Visit K V E L B)} {v : Visit K V E L B}
    (here : room.visits = before ++ v :: after) {reader : Reader K V E L B} {cache : State K V E}
    {world : σ} {events : List (Event R)}
    (moves : (Reader.process loader).move room.now v.reader (room.cache, room.world) =
      .goes reader (cache, world) events) :
    room.perform loader (.go before.length) =
      some { room with
        cache := cache
        world := world
        visits := before ++
          { v with reader := reader, gains := v.gains ++ v.reader.gains room.origin reader } :: after
        landings := landed room.now (v.reader.gains room.origin reader) room.landings } := by
  have place : room.visits[before.length]? = some v := by simp [here]
  simp only [perform, place, moves]
  simp [here]

theorem perform_go_last {before after : List (Visit K V E L B)} {v : Visit K V E L B}
    (here : room.visits = before ++ v :: after) {answers : List (Lookup V E)} {cache : State K V E}
    {world : σ} {events : List (Event R)}
    (moves : (Reader.process loader).move room.now v.reader (room.cache, room.world) =
      .ends answers (cache, world) events) :
    room.perform loader (.go before.length) =
      some { room with
        cache := cache
        world := world
        visits := before ++ after
        landings := landed room.now (v.reader.lastGains room.origin answers) room.landings
        records :=
          { number := v.number
            inquiry := v.inquiry
            answers := answers
            gains := v.gains ++ v.reader.lastGains room.origin answers } :: room.records } := by
  have place : room.visits[before.length]? = some v := by simp [here]
  simp only [perform, place, moves]
  simp [here]

end Room

end PacedCalls.Cache
