import PacedCalls.Proofs.Cache.Sources
import PacedCalls.Proofs.Cache.Turns

/-!
A read of many keys answers every position, in order: by what the first look at the position found,
or, like every other position of its key that was left open, by what was found out for the key.
Looks at the same instant, with nobody in between, find the same for a key wherever it stands,
since a look that finds a key leaves it there.
-/

set_option autoImplicit false

namespace PacedCalls.Cache

section

variable {K V E L B : Type} [DecidableEq K]

def Reading.hit? : Reading V → Option (Option V)
  | .hit value => some value
  | _ => none

theorem Store.hit?_read (s : Store K V) (key : K) (now : Nat) :
    (s.read key now).1.hit? = ((s.find? key).filter (s.live · now)).map (·.value) := by
  unfold read
  split
  · next none_ => simp [none_, Reading.hit?]
  · next e found =>
    by_cases live : s.live e now <;> simp [found, live, Reading.hit?]

theorem Store.hit?_read_read (s : Store K V) (first key : K) (now : Nat) :
    ((s.read first now).2.read key now).1.hit? = (s.read key now).1.hit? := by
  have lives (t : Store K V) (ht : t.ttl = s.ttl) (e : Entry K V) : t.live e now = s.live e now := by
    simp only [live, ht]
  simp only [hit?_read, lives _ (read_ttl s first now)]
  have find : (s.read first now).2.find? key = s.find? key ∨
      (s.read first now).2.find? key = none ∧ (s.find? key).filter (s.live · now) = none := by
    -- The first read finds nothing, or an entry that moves to the front, or one that is too old.
    unfold read
    split
    · exact .inl rfl
    · next e found =>
      have removed := s.find?_remove first key
      have hk : e.key = first := by simpa using List.find?_some found
      by_cases live : s.live e now
      · simp only [live, if_true]
        refine .inl ?_
        by_cases same : key = first
        · rw [same, found]
          simp [find?, hk]
        · rw [if_neg same] at removed
          rw [← removed]
          simp [find?, remove, hk, Ne.symm same]
      · rw [if_neg live]
        by_cases same : key = first
        · rw [if_pos same] at removed
          exact .inr ⟨removed, by simp [same, found, live]⟩
        · rw [if_neg same] at removed
          exact .inl removed
  rcases find with find | ⟨gone, old⟩
  · rw [find]
  · rw [gone, old]
    rfl

namespace State

def peek (s : State K V E) (now : Nat) (key : K) : Option (Lookup V E) := (s.readStore key now).1

theorem peek_eq (s : State K V E) (now : Nat) (key : K) :
    s.peek now key = (s.store.read key now).1.hit?.map .ofOption := by
  simp only [peek, readStore]
  split <;> simp_all [Reading.hit?]

theorem readStore_store (s : State K V E) (key : K) (now : Nat) :
    (s.readStore key now).2.store = (s.store.read key now).2 := by
  simp only [readStore]
  split <;> rfl

theorem peek_readStore (s : State K V E) (first key : K) (now : Nat) :
    (s.readStore first now).2.peek now key = s.peek now key := by
  rw [peek_eq, peek_eq, readStore_store, Store.hit?_read_read]

def skim (s : State K V E) (now : Nat) (keys : List K) : State K V E :=
  keys.foldl (fun s key => (s.readStore key now).2) s

end State

namespace ReadAll

def slots : ReadAll K V E L B → List (Option (Lookup V E))
  | .looking _ slots => slots
  | .claiming _ slots _ _ => slots
  | .loading _ slots _ _ _ _ => slots
  | .joining _ slots _ _ => slots

theorem assemble_map (keys : List K) (slot : K → Option (Lookup V E))
    (resolved : List (K × Lookup V E)) :
    assemble keys (keys.map slot) resolved =
      keys.map fun key => ((slot key).or (resolved.lookup key)).getD .notFound := by
  induction keys with
  | nil => rfl
  | cons key rest ih =>
    simp only [assemble, List.map_cons, List.zip_cons_cons] at ih ⊢
    rw [ih]

/-- Once all that was sought is found, no position is left open. -/
theorem Whole.closed {keys : List K} {slots : List (Option (Lookup V E))}
    {resolved found : List (K × Lookup V E)}
    (h : (ReadAll.joining keys slots resolved (found.map .inr) : ReadAll K V E L B).Whole) :
    ∀ p ∈ keys.zip slots, (p.2.or ((resolved ++ found).lookup p.1)).isSome := by
  obtain ⟨-, sought, -⟩ := h
  rintro ⟨key, slot⟩ hp
  cases slot with
  | some a => rfl
  | none =>
    have := sought key hp
    rw [Option.none_or, Assoc.isSome_lookup]
    simpa [ReadAll.sought] using this

end ReadAll

end

section

variable {R K V E σ L B : Type} [DecidableEq K] {loader : Loader (Event R) K V E σ L B} {now : Nat}
  {s s' : State K V E} {w w' : σ} {events : List (Event R)}

/-- What the store has for the position that a first look is at. -/
def Reader.found? (s : State K V E) (now : Nat) : Reader K V E L B → Option (Option (Lookup V E))
  | .one (.looking key false) => some (s.peek now key)
  | .many (.looking keys slots) => keys[slots.length]?.map (s.peek now)
  | _ => none

/-- What the first looks of a visitor have found, position by position. -/
def Turn.findings (turns : List (Turn K V E σ L B)) : List (Option (Lookup V E)) :=
  turns.filterMap fun t => t.reader.found? t.cache t.now

theorem Turn.findings_append (first rest : List (Turn K V E σ L B)) :
    findings (first ++ rest) = findings first ++ findings rest :=
  List.filterMap_append ..

theorem Turn.findings_concat (turns : List (Turn K V E σ L B)) (t : Turn K V E σ L B) :
    findings (turns ++ [t]) = findings turns ++ (t.reader.found? t.cache t.now).toList := by
  rw [findings_append]
  cases h : t.reader.found? t.cache t.now <;> simp [findings, h]

namespace ReadAll

theorem looks_pass_from (loader : Loader (Event R) K V E σ L B) (now : Nat) {seen : List K}
    (rest : List K) {slots : List (Option (Lookup V E))} (here : slots.length = seen.length)
    (s : State K V E) (w : σ) :
    (process loader).Passes Passing now rest.length (.looking (seen ++ rest) slots) (s, w)
      (.looking (seen ++ rest) (slots ++ rest.map (s.peek now))) (s.skim now rest, w) := by
  induction rest generalizing seen slots s with
  | nil =>
    rw [List.map_nil, List.append_nil slots]
    exact .done _ _
  | cons key rest ih =>
    have next : (seen ++ key :: rest)[slots.length]? = some key := by simp [here]
    have move : (process loader).move now (.looking (seen ++ key :: rest) slots) (s, w) =
        .goes (.looking (seen ++ key :: rest) (slots ++ [s.peek now key]))
          ((s.readStore key now).2, w) [] := by
      simp only [process, next]
      rfl
    have same : (s.readStore key now).2.peek now = s.peek now :=
      funext fun k => s.peek_readStore key k now
    have one_more : (slots ++ [s.peek now key]).length = (seen ++ [key]).length := by simp [here]
    have more := ih one_more (s.readStore key now).2
    rw [same] at more
    simp only [List.append_assoc, List.singleton_append] at more
    exact .goes trivial move more

theorem looks_pass (loader : Loader (Event R) K V E σ L B) (now : Nat) (keys : List K)
    (s : State K V E) (w : σ) :
    (process loader).Passes Passing now keys.length (.start keys) (s, w)
      (.looking keys (keys.map (s.peek now))) (s.skim now keys, w) := by
  have none_ : ([] : List (Option (Lookup V E))).length = ([] : List K).length := rfl
  exact looks_pass_from loader now keys none_ s w

end ReadAll

theorem ReadAll.goes_slots {read read' : ReadAll K V E L B}
    (h : (process loader).move now read (s, w) = .goes read' (s', w') events) :
    read'.slots = read.slots ++ ((Reader.many read).found? s now).toList := by
  cases read with
  | looking keys slots =>
    obtain ⟨key, next, rfl, -⟩ | ⟨next, -, rfl, -⟩ := looking_goes h
    · simp only [Reader.found?, next]
      rfl
    · simp [Reader.found?, next, ReadAll.slots]
  | claiming keys slots claims wanted =>
    obtain ⟨key, rest, claim, s₁, -, -, rfl, -⟩ | ⟨-, ⟨-, rfl, -⟩ | ⟨-, rfl, -⟩⟩ := claiming_goes h
    all_goals exact (List.append_nil _).symm
  | loading keys slots resolved guards chunks joined =>
    obtain ⟨chunks', -, rfl⟩ | ⟨found, -, rfl, -⟩ := loading_goes h
    all_goals exact (List.append_nil _).symm
  | joining keys slots resolved parts =>
    obtain ⟨parts', -, rfl⟩ := joining_goes h
    exact (List.append_nil _).symm

theorem ReadAll.ends_slots {read : ReadAll K V E L B} {answers : List (Lookup V E)}
    (h : (process loader).move now read (s, w) = .ends answers (s', w') events)
    (whole : read.Whole) :
    read.slots.length = read.keys.length ∧ (Reader.many read).found? s now = none ∧
      ∃ resolved, answers = assemble read.keys read.slots resolved := by
  cases read with
  | looking keys slots =>
    obtain ⟨next, -, rfl, -⟩ := looking_ends h
    have length : slots.length = keys.length :=
      Nat.le_antisymm whole (List.getElem?_eq_none_iff.mp next)
    exact ⟨length, by simp [Reader.found?, next], [], rfl⟩
  | claiming keys slots claims wanted => exact absurd h not_claiming_ends
  | loading keys slots resolved guards chunks joined => exact absurd h not_loading_ends
  | joining keys slots resolved parts =>
    obtain ⟨found, -, rfl, -⟩ := joining_ends h
    exact ⟨whole.1, rfl, _, rfl⟩

theorem ReadAll.assemble_eq (keys : List K) (slots : List (Option (Lookup V E)))
    (resolved : List (K × Lookup V E)) :
    assemble keys slots resolved = (keys.zip slots).map fun p =>
      p.2.getD ((resolved.lookup p.1).getD .notFound) := by
  refine List.map_congr_left fun (key, slot) _ => ?_
  cases slot <;> rfl

namespace Room

theorem habit_slots (loader : Loader (Event R) K V E σ L B) (keys : List K) :
    Habit loader (fun _ => True)
      (fun past reader => ∃ read, reader = .many read ∧ read.Whole ∧ read.keys = keys ∧
        Turn.findings past = read.slots)
      (fun past answers => (Turn.findings past).length = keys.length ∧
        ∃ resolved, answers = ReadAll.assemble keys (Turn.findings past) resolved) where
  goes := by
    rintro past ⟨number, reader, now, cache, world⟩ reader' ⟨s', w'⟩ events -
      ⟨read, rfl, whole, rfl, found⟩ moves
    obtain ⟨read', w₁, move, rfl, rfl⟩ := Process.lift_goes moves
    obtain ⟨whole', keys', -⟩ := ReadAll.goes move whole []
    refine ⟨read', rfl, whole', keys', ?_⟩
    rw [Turn.findings_concat, found, ReadAll.goes_slots move]
  ends := by
    rintro past ⟨number, reader, now, cache, world⟩ answers ⟨s', w'⟩ events -
      ⟨read, rfl, whole, rfl, found⟩ moves
    obtain ⟨answers, w₁, move, rfl, rfl⟩ := Process.lift_ends moves
    obtain ⟨length, none_, resolved, eq⟩ := ReadAll.ends_slots move whole
    rw [Turn.findings_concat, none_, Option.toList_none, List.append_nil, found]
    exact ⟨length, resolved, eq⟩

variable {before more : List (Deed K σ)} {a room : Room K V E σ L B} {keys : List K}

/-- The first looks of the visitor with a number follow one another: nobody else has a turn in
between, nothing is dropped from the store, and no time passes. -/
def LooksAtOnce (loader : Loader (Event R) K V E σ L B) (number : ℕ) (keys : List K)
    (deeds : List (Deed K σ)) (room : Room K V E σ L B) : Prop :=
  ∃ early late b before v after,
    deeds = early ++ (List.replicate keys.length (.go before.length) ++ late) ∧
      play loader early room = some b ∧ b.visits = before ++ v :: after ∧ v.number = number ∧
      v.reader = .many (.start keys)

theorem tracked_slots (numbered : a.Numbered) {deeds : List (Deed K σ)} {b : Room K V E σ L B}
    (run : play loader deeds (a.arrive (.many keys)) = some b) :
    b.Tracked
      (fun past reader => ∃ read, reader = .many read ∧ read.Whole ∧ read.keys = keys ∧
        Turn.findings past = read.slots)
      (fun past answers => (Turn.findings past).length = keys.length ∧
        ∃ resolved, answers = ReadAll.assemble keys (Turn.findings past) resolved)
      a.admitted (Turn.of a.admitted (turns loader deeds (a.arrive (.many keys)))) := by
  refine (habit_slots loader keys).play (numbered.arrive (.many keys)) (fun _ _ => trivial)
    (Nat.lt_succ_self a.admitted) run (numbered.tracked_arrive ?_)
  exact ⟨.start keys, rfl, Nat.zero_le _, rfl, rfl⟩

theorem findings_of_looksAtOnce (numbered : a.Numbered)
    (run : play loader more (a.arrive (.many keys)) = some room)
    (once : LooksAtOnce loader a.admitted keys more (a.arrive (.many keys))) :
    ∃ (slot : K → Option (Lookup V E)) (rest : List (Option (Lookup V E))),
      Turn.findings (Turn.of a.admitted (turns loader more (a.arrive (.many keys)))) =
        keys.map slot ++ rest := by
  obtain ⟨early, late, b, before, v, after, rfl, come, here, number, stands⟩ := once
  have looks := ReadAll.passes_many (ReadAll.looks_pass loader b.now keys b.cache b.world)
  obtain ⟨b', u, on, visits, number', stands', -⟩ := play_passes looks trivial here stands rfl rfl
  have run' : play loader (early ++ List.replicate keys.length (.go before.length))
      (a.arrive (.many keys)) = some b' := by
    rw [play_append, come, Option.bind_some, on]
  obtain ⟨read, eq, -, -, found⟩ :=
    (tracked_slots numbered run').1 u (by simp [visits]) (number'.trans number)
  cases stands'.symm.trans eq
  rw [← List.append_assoc, turns_append _ late run', Turn.of_append, Turn.findings_append, found]
  exact ⟨b.cache.peek b.now, _, rfl⟩

/-- A read of many keys, whatever else happens before it comes and while it is there: when it is
done it has one answer for each position. A position is answered by what its first look found, or,
like every other position of its key that was left open, by what was found out for the key later;
if the looks follow one another, equal keys get equal answers everywhere. Each answer was returned
for its key by a call of the loader, and was stored when the reader came, or on a flight still under
way then, or returned later. Whenever such a read has found out all that it sought, no position is
left without an answer. -/
theorem answers_in_place (c : Config) (world : σ) (start : Nat)
    (come : play loader before (opening c world start) = some a)
    (run : play loader more (a.arrive (.many keys)) = some room) :
    (∀ r ∈ room.records, r.number = a.admitted → ∃ slots, ∃ answer : K → Lookup V E,
      slots = Turn.findings (Turn.of a.admitted (turns loader more (a.arrive (.many keys)))) ∧
      slots.length = keys.length ∧
      r.answers = ((keys.zip slots).map fun p => p.2.getD (answer p.1)) ∧
      (LooksAtOnce loader a.admitted keys more (a.arrive (.many keys)) →
        ∃ answer : K → Lookup V E, r.answers = keys.map answer) ∧
      ∀ p ∈ keys.zip r.answers,
        (∃ d ∈ history loader (before ++ .arrive (.many keys) :: more) (opening c world start),
          d.Says p.1 p.2) ∧
        (a.Keeps p.1 p.2 ∨ a.Lingers p.1 p.2 ∨
          ∃ d ∈ history loader more (a.arrive (.many keys)), d.Says p.1 p.2)) ∧
      ∀ v ∈ room.visits, ∀ sought slots resolved found,
        v.reader = .many (.joining sought slots resolved (found.map .inr)) →
          ∀ p ∈ sought.zip slots, (p.2.or ((resolved ++ found).lookup p.1)).isSome := by
  have reach : Reach loader (fun _ _ => True) (opening c world start) a := reach_of_play come
  have ha : a.Sound := (sound_opening c world start).reach reach
  have numbered : a.Numbered := (numbered_opening c world start).reach reach
  have all : play loader (before ++ .arrive (.many keys) :: more) (opening c world start) =
      some room := by
    rw [play_append, come, Option.bind_some, play, perform, Option.bind_some, run]
  refine ⟨fun r hr number => ?_, fun v hv sought slots resolved found reader => ?_⟩
  · obtain ⟨asked, sources⟩ := ha.source run hr number
    obtain ⟨length, resolved, answers⟩ := (tracked_slots numbered run).2 r hr number
    have said := said_of_play c world start all r hr
    rw [asked] at said
    refine ⟨_, fun key => (resolved.lookup key).getD .notFound, rfl, length, ?_, fun once => ?_,
      fun p hp => ⟨said p hp, sources p hp⟩⟩
    · rw [answers, ReadAll.assemble_eq]
    · obtain ⟨slot, rest, eq⟩ := findings_of_looksAtOnce numbered run once
      have none_ : rest = [] := by
        rw [eq, List.length_append, List.length_map] at length
        exact List.eq_nil_of_length_eq_zero (by omega)
      rw [answers, eq, none_, List.append_nil, ReadAll.assemble_map]
      exact ⟨_, rfl⟩
  · have whole := ((ha.arrive (.many keys)).reach (reach_of_play run)).visits v hv |>.whole
    rw [reader] at whole
    exact ReadAll.Whole.closed whole

/-- A reader is loading a key when another one comes for that key and for two more, one of them
twice, which are loaded one by one. One of these loads fails, and the first reader finds nothing. -/
def mixedLoads : List (Deed Nat (List (Nat × Lookup Nat Unit))) :=
  List.replicate 9 (.go 1) ++ .change [(1, .found 10), (2, .error ()), (3, .notFound)] ::
    [.go 1, .go 1, .go 1, .go 0, .go 0, .go 0]

theorem answers_in_place_mixedLoads :
    ∃ a room, play (Loader.notices 1) [.arrive (.one 3), .go 0, .go 0] (opening {} [] 0) = some a ∧
      play (Loader.notices 1) mixedLoads (a.arrive (.many [1, 2, 3, 1])) = some room ∧
      ∃ r ∈ room.records, r.number = a.admitted ∧
        r.answers = [.found 10, .error (), .notFound, .found 10] ∧
        (∃ answer : Nat → Lookup Nat Unit, r.answers = [1, 2, 3, 1].map answer) ∧
        ∀ p ∈ [1, 2, 3, 1].zip r.answers, ∃ d ∈ history (Loader.notices 1)
          ([.arrive (.one 3), .go 0, .go 0] ++ .arrive (.many [1, 2, 3, 1]) :: mixedLoads)
          (opening {} [] 0), d.Says p.1 p.2 := by
  obtain ⟨a, come, room, run, r, hr, number, said, once⟩ : ∃ a,
      play (Loader.notices 1) [.arrive (.one 3), .go 0, .go 0] (opening {} [] 0) = some a ∧
      ∃ room, play (Loader.notices 1) mixedLoads (a.arrive (.many [1, 2, 3, 1])) = some room ∧
      ∃ r ∈ room.records, r.number = a.admitted ∧
        r.answers = [.found 10, .error (), .notFound, .found 10] ∧
        LooksAtOnce (Loader.notices 1) a.admitted [1, 2, 3, 1] mixedLoads
          (a.arrive (.many [1, 2, 3, 1])) :=
    ⟨_, rfl, _, rfl, _, List.mem_cons_self, rfl, rfl, [], _, _, [_], _, [], rfl, rfl, rfl, rfl, rfl⟩
  obtain ⟨answers, -⟩ := answers_in_place {} [] 0 come run
  obtain ⟨slots, answer, -, -, -, same, sources⟩ := answers r hr number
  exact ⟨a, room, come, run, r, hr, number, said, same once, fun p hp => (sources p hp).1⟩

/-- A key that is asked for twice is found by the first look and too old for the second one; then it
is loaded anew. -/
def expiresInBetween : List (Deed Nat (List (Nat × Nat))) :=
  .go 0 :: .wait 6 :: List.replicate 7 (.go 0)

theorem answers_apart_when_expiring :
    ∃ a room, play (Loader.board 1) [.arrive (.one 1), .go 0, .go 0, .go 0, .change [(1, 11)],
        .wait 5] (opening { ttl := 5 } [(1, 10)] 0) = some a ∧
      play (Loader.board 1) expiresInBetween (a.arrive (.many [1, 1])) = some room ∧
      ∃ r ∈ room.records, r.number = a.admitted ∧ r.inquiry = .many [1, 1] ∧
        r.answers = [.found 10, .found 11] ∧
        ¬ ∃ answer : Nat → Lookup Nat Unit, r.answers = [1, 1].map answer := by
  refine ⟨_, _, rfl, rfl, _, List.mem_cons_self, rfl, rfl, rfl, ?_⟩
  rintro ⟨answer, eq⟩
  obtain ⟨first, rest⟩ := List.cons.inj eq
  cases first.trans (List.cons.inj rest).1.symm

end Room

end

end PacedCalls.Cache
