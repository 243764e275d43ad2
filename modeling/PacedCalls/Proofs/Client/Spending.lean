import PacedCalls.Proofs.Cache.Runs
import PacedCalls.Proofs.Cache.Tariff
import PacedCalls.Proofs.Client.Exchanges

/-!
What the loads of a cache spend on a lane that nobody else uses. Without middlewares of the user and
without retries each load takes one permit, sends one request, and tells the controller at most
once how that went; so the counters of the controller, the journal and the counter of loads agree.
-/

set_option autoImplicit false

namespace PacedCalls

abbrev Account := (ℕ × ℕ × ℕ) × ℕ

def Account.OneExchange (a : Account) : Prop := a.1.1 = 1 ∧ a.1.2.1 + a.1.2.2 ≤ 1 ∧ a.2 = 1

theorem Account.sum_oneExchange {paid : Multiset Account} (fair : ∀ a ∈ paid, OneExchange a) :
    paid.sum.1.1 = paid.card ∧ paid.sum.1.2.1 + paid.sum.1.2.2 ≤ paid.card ∧
      paid.sum.2 = paid.card := by
  induction paid using Multiset.induction with
  | empty => exact ⟨rfl, Nat.le_refl _, rfl⟩
  | cons a paid ih =>
    obtain ⟨⟨permits, words, requests⟩, fair⟩ := Multiset.forall_mem_cons.mp fair
    obtain ⟨permits', words', requests'⟩ := ih fair
    simp only [Multiset.sum_cons, Multiset.card_cons, Prod.fst_add, Prod.snd_add]
    omega

section

variable {R T U S V : Type}

def Lane.spent (lane : Lane R T U) : Account := (lane.governor.counts, lane.remote.journal.length)

/-- Nobody takes a permit, sends a request, or is heard by the controller. -/
def Lane.Undisturbed (lane lane' : Lane R T U) : Prop := lane'.spent = lane.spent

def Chain.Pass.spent (pass : Chain.Pass R U S) (t : Trial) : Account :=
  (t.counts, pass.heard?.toList.length)

namespace Chain

variable {count : Bool} {request : Request} {pass pass' : Pass R U S} {t : Trial} {now : ℕ}
  {lane lane' : Lane R T U} {events : List (Event R)}

theorem Stage.spends [Scalar R] [Transport T] (stage : Stage [] count request pass t)
    (h : process.move now pass lane = .goes pass' lane' events) :
    ∃ t' d, Stage [] count request pass' t' ∧ pass'.spent t' = pass.spent t + d ∧
      lane'.spent = lane.spent + d := by
  have timed : ∀ layer ∈ ([] : List (Layer R U S)), layer.IsTimeout := by simp
  have grow := (process_affects h).counts
  obtain ⟨counts, more⟩ := exists_add_of_le grow
  have noted := t.counts_note now pass grow
  obtain ⟨heard, journal⟩ := stage.heard_goes h
  refine ⟨_, (counts, pass.sends?.toList.length), stage.goes timed h, ?_, ?_⟩
  · -- The counters only grow, so that nothing is lost in the difference that is noted.
    have same : (t.note now pass lane.governor lane'.governor).counts = t.counts + counts := by
      rw [more, ← add_assoc, add_right_comm] at noted
      exact add_right_cancel noted
    have one : (pass.sends?.map lane.answer).toList.length = pass.sends?.toList.length := by
      cases pass.sends? <;> rfl
    simp [Pass.spent, same, heard, one]
  · simp [Lane.spent, more, journal]

theorem words_answered (options : CallOptions) (s : Option Status) :
    (Trial.answered count options s).increases + (Trial.answered count options s).decreases ≤ 1 := by
  cases s with
  | none => exact Nat.zero_le _
  | some s =>
    simp only [Trial.answered]
    cases ok : s.isOk with
    | true => simp [slows_of_isOk count options ok]
    | false => cases slows count options s <;> simp

theorem Stage.oneExchange {exchange : Exchange}
    (stage : Stage ([] : List (Layer R U S)) count request (.leaving exchange []) t) :
    ((Pass.leaving exchange [] : Pass R U S).spent t).OneExchange := by
  cases stage with
  | told result around =>
    refine ⟨?_, words_answered _ _, rfl⟩
    cases statusOf? request exchange <;> rfl
  | cut point bounded around => exact absurd rfl bounded

end Chain

namespace Client

variable [Scalar R] [Transport T] {c : Client R U S} {decode : Body.Reader V} {now n : ℕ}
  {st st' : Call R U S} {pass : Chain.Pass R U S} {lane lane' : Lane R T U}
  {events : List (Event R)}

theorem call_goes_once (once : c.policy.enabled = false) (here : st.phase = .attempting n pass)
    (h : (c.call decode).move now st lane = .goes st' lane' events) :
    st'.request = st.request ∧ ∃ pass' events, st'.phase = .attempting n pass' ∧
      Chain.process.move now pass lane = .goes pass' lane' events := by
  obtain ⟨phase', _, rfl, looped⟩ := call_goes_loop h
  refine ⟨rfl, ?_⟩
  rw [here] at looped
  obtain ⟨n, pass, pass', ⟨⟩, rfl, _, attempted⟩ |
    ⟨n, pass, wake, ⟨⟩, rfl, result, _, attempted, d, failure, ruled⟩ | ⟨n, wake, ⟨⟩, -⟩ :=
      Retry.loop_goes looped
  · obtain ⟨pass'', w, passed, rfl, rfl⟩ := Process.lift_goes attempted
    exact ⟨pass'', _, rfl, passed⟩
  · -- No verdict of a disabled policy is to wait.
    rw [Retry.Policy.verdict_disabled once] at ruled
    cases ruled

end Client

namespace RemoteLoader

def Trip.Spent (client : Client R U S) (trip : Trip R U S) (a : Account) : Prop :=
  ∃ n pass t, trip.2.phase = .attempting n pass ∧
    Chain.Stage [] client.countNotFound trip.2.request pass t ∧ a = pass.spent t

section

variable {c : Client R U S} {notices : List (Event R)} {trip trip' : Trip R U S} {a : Account}
  {now : ℕ} {lane lane' : Lane R T U} {events : List (Event R)}

theorem Trip.spent_start (bare : c.outer = []) (request : Request) :
    Trip.Spent c (true, c.start request) 0 := by
  refine ⟨1, .start c.layers request, {}, rfl, ?_, rfl⟩
  rw [Client.layers, bare]
  exact .outside (List.nil_subset []) (by simp)

variable [Scalar R] [Transport T] {decode : Body.Reader V}

theorem Trip.Spent.goes (spent : trip.Spent c a) (once : c.policy.enabled = false)
    (h : (lookupCall c notices decode).move now trip lane = .goes trip' lane' events) :
    ∃ d, trip'.Spent c (a + d) ∧ lane'.spent = lane.spent + d := by
  obtain ⟨-, rfl, rfl⟩ | ⟨-, -, _, moves⟩ := lookupCall_goes h
  · refine ⟨0, ?_, (add_zero _).symm⟩
    rw [add_zero]
    exact spent
  · obtain ⟨n, pass, t, here, stage, rfl⟩ := spent
    obtain ⟨request, pass', _, there, moves⟩ := Client.call_goes_once once here moves
    obtain ⟨t', d, stage', spent, paid⟩ := stage.spends moves
    exact ⟨d, ⟨n, pass', t', there, request ▸ stage', spent.symm⟩, paid⟩

theorem Trip.Spent.ends {value : Lookup V Failure} (spent : trip.Spent c a)
    (h : (lookupCall c notices decode).move now trip lane = .ends value lane' events) :
    a.OneExchange ∧ lane' = lane := by
  obtain ⟨-, result, _, moves, -⟩ := lookupCall_ends h
  obtain ⟨n', exchange, last, same, -⟩ := Client.call_ends_cases moves
  obtain ⟨n, pass, t, here, stage, rfl⟩ := spent
  rw [last] at here
  cases here
  exact ⟨stage.oneExchange, same⟩

end

variable {K : Type} [DecidableEq K] [Scalar R] [Transport T]

theorem exists_loadBatch (l : RemoteLoader R U S K V) :
    ∃ notices decode, l.loadBatch (T := T) = (l.loadTogether notices decode).either l.loadEach := by
  cases batch : l.batch with
  | some b => exact ⟨b.notices, b.decode, by simp only [loadBatch, batch]⟩
  | none => exact ⟨[], fun _ => .ok [], by simp only [loadBatch, batch]⟩

/-- What the loads of a cache spend that do not try again, as long as each batch is one request. -/
def tariff (l : RemoteLoader R U S K V) (bare : l.client.outer = [])
    (once : l.client.policy.enabled = false) :
    Cache.Tariff (l.toLoader (T := T)) (l.batch.isSome = true) Account where
  total := Lane.spent
  spent x a := match x with
    | .inl trip => trip.Spent l.client a
    | .inr (.inl trip) => trip.Spent l.client a
    | .inr (.inr _) => False
  price := Account.OneExchange
  fresh fresh := by
    cases fresh with
    | load key => exact Trip.spent_start bare _
    | batch allowed keys =>
      obtain ⟨b, batch⟩ := Option.isSome_iff_exists.mp allowed
      simp only [toLoader, beginBatch, batch]
      exact Trip.spent_start bare _
  goes {now x x' w w' events a} spent moves := by
    cases x with
    | inl trip =>
      rw [Cache.Loader.either_load] at moves
      obtain ⟨trip', w₁, goes, rfl, rfl⟩ := Process.lift_goes moves
      exact spent.goes once goes
    | inr batch =>
      cases batch with
      | inl trip =>
        obtain ⟨notices, decode, same⟩ := l.exists_loadBatch (T := T)
        have batch : (l.toLoader (T := T)).loadBatch = _ := same
        rw [Cache.Loader.either_loadBatch, batch] at moves
        obtain ⟨b, w₁, batched, rfl, rfl⟩ := Process.lift_goes moves
        obtain ⟨trip', w₂, together, rfl, rfl⟩ := Process.lift_goes batched
        obtain ⟨trip'', w₃, goes, rfl, rfl⟩ := Process.lift_goes together
        exact spent.goes once goes
      | inr each => exact spent.elim
  ends {now x w w' events a} spent moves := by
    have closed {w₁ : Lane R T U} (ended : a.OneExchange ∧ w₁ = w) :
        ∃ d, (a + d).OneExchange ∧ Lane.spent w₁ = w.spent + d :=
      ⟨0, by simpa using ended.1, by rw [ended.2, add_zero]⟩
    cases x with
    | inl trip =>
      rw [Cache.Loader.either_load] at moves
      obtain ⟨value, w₁, ends, -, rfl⟩ := Process.lift_ends moves
      exact closed (spent.ends ends)
    | inr batch =>
      cases batch with
      | inl trip =>
        obtain ⟨notices, decode, same⟩ := l.exists_loadBatch (T := T)
        have batch : (l.toLoader (T := T)).loadBatch = _ := same
        rw [Cache.Loader.either_loadBatch, batch] at moves
        obtain ⟨found, w₁, batched, -, rfl⟩ := Process.lift_ends moves
        obtain ⟨found', w₂, together, -, rfl⟩ := Process.lift_ends batched
        obtain ⟨value, w₃, ends, -, rfl⟩ := Process.lift_ends together
        exact closed (spent.ends ends)
      | inr each => exact spent.elim

/-- Only loads spend permits. Whatever is asked in whatever order, as long as nobody is given up and
nobody else uses the lane: when no load is running, as many permits were granted and as many requests
sent as there were loads, and no more often the rate was moved; and a reader who has no load running
does nothing to the lane. -/
theorem granted_eq_loads (l : RemoteLoader R U S K V) (bare : l.client.outer = [])
    (once : l.client.policy.enabled = false) {config : Rate.Config R}
    {governor : Rate.Controller R} {events : List (Event R)}
    (made : Rate.Controller.create config = .ok (governor, events)) (transport : T) (user : U)
    (c : Cache.Config) (start : ℕ)
    {room : Cache.Room K V Failure (Lane R T U) (Trip R U S) (Batch R U S K V)}
    (run : Cache.Room.Reach l.toLoader Lane.Undisturbed
      (.opening c ⟨governor, ⟨transport, []⟩, user⟩ start) room)
    (stayed : room.Unbroken) (asked : l.batch.isSome = true ∨ room.OneByOne) :
    (room.calls = [] →
      room.world.governor.granted = room.cache.stats.loads ∧
        room.world.remote.journal.length = room.cache.stats.loads ∧
        room.world.governor.increases + room.world.governor.decreases ≤ room.cache.stats.loads) ∧
      ∀ v ∈ room.visits, v.reader.calls = [] →
        v.reader.Still l.toLoader room.now (room.cache, room.world) := by
  refine ⟨fun idle => ?_, fun v _ none => v.reader.still_of_calls none _ _ _⟩
  obtain ⟨paid, owed, fair, running, total, loads⟩ :=
    (l.tariff bare once).accounts_of_reach (fun _ _ same => same) c _ start run stayed asked
  have none : room.traffic.running = 0 := by
    rw [← Multiset.card_eq_zero]
    exact room.card_running.trans (congrArg List.length idle)
  rw [none] at running loads
  obtain rfl := Multiset.rel_zero_left.mp running
  obtain ⟨-, rfl⟩ := Rate.create_ok made
  have spent : room.world.spent = 0 + paid.sum + 0 := total
  have counted : room.cache.stats.loads = paid.card := loads
  obtain ⟨permits, words, requests⟩ := Account.sum_oneExchange fair
  rw [zero_add, add_zero] at spent
  rw [← spent] at permits words requests
  rw [counted]
  exact ⟨permits, requests, words⟩

end RemoteLoader

end

def paged : RemoteLoader Float Unit Unit ℕ ℕ where
  client := { policy := .disabled }
  request key := { method := ⟨"GET"⟩, url := "/" ++ Nat.repr key }
  decode := Body.size
  batch := some
    { request := fun _ => { method := ⟨"GET"⟩, url := "/" }
      decode := fun _ => .ok [(1, 10), (2, 20)]
      maxSize := 2 }

def secondAborted : Script :=
  let good : Reply := { result := .ok { status := Http.StatusCode.success } }
  Script.ofList [good, { result := .error (.aborted "closed") }, good]

/-- Three keys are loaded in two batches, of which the second one fails, and somebody waits for one
of the keys; later two keys are found in the store, and one of them is dropped and loaded anew. -/
def threeLoads : List (Cache.Deed ℕ (Lane Float Script Unit)) :=
  List.flatten
    [[.arrive (.many [1, 2, 3])], .replicate 8 (.go 0), [.arrive (.one 2), .go 1, .go 1],
      .replicate 10 (.go 0), [.wait (Duration.ofMillis 250)], .replicate 10 (.go 0),
      [.arrive (.many [1, 2]), .go 0, .go 0, .go 0, .invalidate 1, .wait Duration.second,
        .arrive (.many [1, 2])],
      .replicate 15 (.go 0)]

def pagedRoom : Cache.Room ℕ ℕ Failure (Lane Float Script Unit) (RemoteLoader.Trip Float Unit Unit)
    (RemoteLoader.Batch Float Unit Unit ℕ ℕ) :=
  .opening {} ⟨.ofConfig { base := 4, min := 1 }, ⟨secondAborted, []⟩, ()⟩ 0

/-- Four reads come to three loads, with one permit and one request each. -/
theorem RemoteLoader.granted_eq_loads_threeLoads :
    ∃ room, Cache.Room.Reach paged.toLoader Lane.Undisturbed pagedRoom room ∧
      room.records.map (fun r => r.answers.map Lookup.value?) =
        [[some 10, some 20], [some 10, some 20], [some 20], [some 10, some 20, none]] ∧
      room.calls = [] ∧ room.cache.stats.loads = 3 ∧ room.world.governor.granted = 3 ∧
      room.world.remote.journal.length = 3 ∧
      room.world.governor.increases + room.world.governor.decreases ≤ 3 := by
  obtain ⟨room, run, inquired, answers, idle, loads⟩ :
      ∃ room, room ∈ Cache.Room.play paged.toLoader threeLoads pagedRoom ∧
        room.inquiries.card = room.admitted ∧
        room.records.map (fun r => r.answers.map Lookup.value?) =
          [[some 10, some 20], [some 10, some 20], [some 20], [some 10, some 20, none]] ∧
        room.calls = [] ∧ room.cache.stats.loads = 3 := by
    decide +kernel
  have quiet (world : Lane Float Script Unit) : .change world ∉ threeLoads := by simp [threeLoads]
  have reach : Cache.Room.Reach paged.toLoader Lane.Undisturbed pagedRoom room :=
    Cache.Room.reach_of_allowed_play (fun world mem => absurd mem (quiet world)) run
  have made : Rate.Controller.create ({ base := 4, min := 1 } : Rate.Config Float) =
      .ok (.ofConfig { base := 4, min := 1 }, _) := rfl
  obtain ⟨granted, requests, words⟩ := (granted_eq_loads paged rfl rfl made secondAborted () {} 0
    reach inquired (.inl rfl)).1 idle
  rw [loads] at granted requests words
  exact ⟨room, reach, answers, idle, loads, granted, requests, words⟩

end PacedCalls
