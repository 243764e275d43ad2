import PacedCalls.Proofs.Cache.Agreement
import PacedCalls.Proofs.Client.Steady

set_option autoImplicit false

namespace PacedCalls

namespace Cache

variable {ν K V E σ L : Type} [DecidableEq K] {table : K → Lookup V E} {keys : List K}

/-- What loads of some keys amount to: the first failure in the order of the keys, or a value for
each key that was found, and for no other. -/
structure Amounts (table : K → Lookup V E) (keys : List K) (result : Except E (List (K × V))) :
    Prop where
  fails : ∀ before key after e, keys = before ++ key :: after →
    (∀ k ∈ before, (table k).isError = false) → table key = .error e → result = .error e
  finds : (∀ key ∈ keys, (table key).isError = false) → ∃ found, result = .ok found ∧
    (found.map (·.1)).Nodup ∧
    ∀ key, found.lookup key = if key ∈ keys then (table key).value? else none

theorem mem_keys_putFound {key k : K} {value : V} {found : List (K × V)} :
    k ∈ (putFound key value found).map (·.1) ↔ k = key ∨ k ∈ found.map (·.1) := by
  rw [← Assoc.isSome_lookup, ← Assoc.isSome_lookup, lookup_putFound]
  split_ifs with same <;> simp [same]

theorem nodup_putFound (key : K) (value : V) {found : List (K × V)}
    (once : (found.map (·.1)).Nodup) : ((putFound key value found).map (·.1)).Nodup := by
  induction found with
  | nil => simp [putFound]
  | cons p rest ih =>
    obtain ⟨k, v⟩ := p
    obtain ⟨fresh, once⟩ := List.nodup_cons.mp once
    rw [putFound]
    split_ifs with same
    · subst same
      exact List.nodup_cons.mpr ⟨fresh, once⟩
    · refine List.nodup_cons.mpr ⟨fun mem => ?_, ih once⟩
      rcases mem_keys_putFound.mp mem with eq | mem
      · exact same eq
      · exact fresh mem

/-- What comes behind the first failure does not count. -/
theorem collect_of_error {before after : List K} {key : K} {e : E}
    (fine : ∀ k ∈ before, (table k).isError = false) (failed : table key = .error e)
    (found : List (K × V)) :
    collect found ((before ++ key :: after).map fun k => (k, table k)) = .error e := by
  induction before generalizing found with
  | nil => simp only [List.nil_append, List.map_cons, failed, collect]
  | cons k before ih =>
    obtain ⟨well, fine⟩ := List.forall_mem_cons.mp fine
    simp only [List.cons_append, List.map_cons]
    cases here : table k with
    | found v => exact ih fine _
    | notFound => exact ih fine _
    | error e' => simp [here, Lookup.isError] at well

theorem collect_of_fine (fine : ∀ key ∈ keys, (table key).isError = false)
    (found : List (K × V)) (once : (found.map (·.1)).Nodup) :
    ∃ found', collect found (keys.map fun k => (k, table k)) = .ok found' ∧
      (found'.map (·.1)).Nodup ∧ ∀ key, found'.lookup key =
        if key ∈ keys then (table key).value?.or (found.lookup key) else found.lookup key := by
  induction keys generalizing found with
  | nil => exact ⟨found, rfl, once, fun key => by simp⟩
  | cons k rest ih =>
    obtain ⟨well, fine⟩ := List.forall_mem_cons.mp fine
    cases here : table k with
    | found v =>
      obtain ⟨found', eq, once', reads⟩ := ih fine _ (nodup_putFound k v once)
      refine ⟨found', by simpa only [List.map_cons, here, collect] using eq, once', fun key => ?_⟩
      rw [reads, lookup_putFound]
      by_cases same : key = k
      · subst same
        simp [here, Lookup.value?]
      · simp [same]
    | notFound =>
      obtain ⟨found', eq, once', reads⟩ := ih fine found once
      refine ⟨found', by simpa only [List.map_cons, here, collect] using eq, once', fun key => ?_⟩
      rw [reads]
      by_cases same : key = k
      · subst same
        simp [here, Lookup.value?]
      · simp [same]
    | error e => simp [here, Lookup.isError] at well

theorem amounts_collect (table : K → Lookup V E) (keys : List K) :
    Amounts table keys (collect [] (keys.map fun k => (k, table k))) where
  fails before key after e split fine failed := by
    rw [split]
    exact collect_of_error fine failed []
  finds fine := by
    obtain ⟨found, eq, once, reads⟩ := collect_of_fine fine [] List.nodup_nil
    exact ⟨found, eq, once, fun key => by simpa using reads key⟩

namespace Sequence

variable {load : Process ν σ L (Lookup V E)} {begin : K → L} {kind : σ → Prop}

theorem answers_current {key : K} {l : L} {upcoming : List K} {value : Lookup V E}
    {others : List (K × Lookup V E)} (current : load.Answers kind value l)
    (more : ∀ found, (process load begin).Answers kind (collect found others)
      (next begin found upcoming)) (found : List (K × V)) :
    (process load begin).Answers kind (collect found ((key, value) :: others))
      { current := some (key, l), upcoming := upcoming, found := found } := by
  induction current with
  | @intro l limit next sure _ ih =>
    refine .of_sure limit fun now w here => ?_
    have forward := sure now w here
    simp only [process]
    generalize load.move now l w = m at forward
    cases m with
    | waits wake => exact forward
    | goes l' w' events => exact ⟨forward.1, ih l' forward.2⟩
    | ends b w' events =>
      obtain ⟨rfl, fits⟩ := forward
      cases b with
      | found v => exact ⟨fits, more _⟩
      | notFound => exact ⟨fits, more _⟩
      | error e => exact ⟨rfl, fits⟩

theorem answers_process (loads : ∀ key ∈ keys, load.Answers kind (table key) (begin key))
    (found : List (K × V)) :
    (process load begin).Answers kind (collect found (keys.map fun k => (k, table k)))
      (next begin found keys) := by
  induction keys generalizing found with
  | nil => exact .of_sure 0 fun _ _ here => ⟨rfl, here⟩
  | cons key rest ih =>
    obtain ⟨first, loads⟩ := List.forall_mem_cons.mp loads
    exact answers_current first (ih loads) found

end Sequence

end Cache

namespace RemoteLoader

variable {R T U S K V ν σ L : Type} [DecidableEq K] [Scalar R] [Transport T]
  {l : RemoteLoader R U S K V} {kind : Lane R T U → Prop} {table : K → Lookup V Failure}
  {keys : List K}

theorem answers_loadEach (loads : ∀ key ∈ keys, l.load.Answers kind (table key) (l.begin key)) :
    l.loadEach.Answers kind (Cache.collect [] (keys.map fun k => (k, table k)))
      (keys.map fun k => .inl (k, l.begin k)) := by
  have named (key : K) : (l.load (T := T)).Wraps l.loadKey (key, ·) (key, ·) :=
    fun _ _ _ => Process.wraps_lift _ _ _
  have each : List.Forall₂ (fun st a => l.loadKey.Answers kind a st)
      (keys.map fun k => (k, l.begin k)) (keys.map fun k => (k, table k)) := by
    rw [List.forall₂_map_left_iff, List.forall₂_map_right_iff, List.forall₂_same]
    exact fun key mem => (named key).answers (loads key mem)
  simpa only [loadEach, List.map_map, Function.comp_def]
    using (Process.answers_all each).map (Cache.collect [])

/-- Whatever each key comes to, and whenever, a batch of loads side by side and a batch of loads one
after another come to the same. -/
theorem batches_agree (alone : l.batch = none) {load : Process ν σ L (Lookup V Failure)}
    {begin : K → L} {kind' : σ → Prop}
    (beside : ∀ key ∈ keys, l.load.Answers kind (table key) (l.begin key))
    (inTurn : ∀ key ∈ keys, load.Answers kind' (table key) (begin key)) :
    ∃ result, Cache.Amounts table keys result ∧
      l.loadBatch.Answers kind result (l.beginBatch keys) ∧
      (Cache.Loader.ofLoad load begin).loadBatch.Answers kind' result
        ((Cache.Loader.ofLoad load begin).beginBatch keys) := by
  refine ⟨_, Cache.amounts_collect table keys, ?_, Cache.Sequence.answers_process inTurn []⟩
  have each := answers_loadEach beside
  have begun : l.beginBatch keys = .inr (keys.map fun k => .inl (k, l.begin k)) := by
    rw [beginBatch, alone]
  have either : l.loadEach.Wraps (l.loadBatch (T := T)) .inr id :=
    fun _ _ _ => Process.wraps_lift _ _ _
  rw [begun]
  exact either.answers each

end RemoteLoader

structure Catalogue where
  reply : Request → Reply

instance : Transport Catalogue where
  exchange request c := (c.reply request, c)

def threeAnswers : Catalogue where
  reply request :=
    match request.url with
    | "/1" => { result := .ok { status := Http.StatusCode.success, body := [7, 7] }
                delay := Duration.ofMillis 50 }
    | "/2" => { result := .error (.aborted "cut short"), delay := Duration.ofMillis 100 }
    | _ => { result := .error (.io "lost" "lost") }

def threeLookups : ℕ → Lookup ℕ Failure
  | 1 => .found 2
  | 2 => .error ⟨.aborted, "GET /2: ABORTED cut short"⟩
  | key => .error ⟨.error, "GET /" ++ Nat.repr key ++ ": ERROR lost"⟩

/-- The second key fails last, and still it is its failure that counts; so it is under a clock that
goes on by a millisecond from look to look. -/
theorem RemoteLoader.batches_agree_lateFailure :
    let failed : Except Failure (List (ℕ × ℕ)) := .error ⟨.aborted, "GET /2: ABORTED cut short"⟩
    let inTurn := Cache.Loader.ofLoad (sizes.load (T := Catalogue)) sizes.begin
    let fresh : Lane Float Catalogue Unit :=
      { governor := .ofConfig { base := 4, min := 1 }, remote := { transport := threeAnswers }
        user := () }
    (sizes.loadBatch.Answers (Lane.Over threeAnswers) failed (sizes.beginBatch [1, 2, 3, 2]) ∧
      inTurn.loadBatch.Answers (Lane.Over threeAnswers) failed (inTurn.beginBatch [1, 2, 3, 2])) ∧
    ∃ n lane', sizes.loadBatch.watched Duration.ofMillis (fun _ => id)
      (sizes.beginBatch [1, 2, 3, 2]) fresh n = (.inr failed, lane') := by
  intro failed inTurn fresh
  have load (key : ℕ) {result : Except CallError (Outcome ℕ)}
      (ruled : sizes.client.policy.verdict 1
        (Client.resultOf ((sizes.request key).notFound .absent) sizes.decode
          (Transport.answer ((sizes.request key).notFound .absent) threeAnswers)) = .return result)
      (read : Client.lookupOf result = threeLookups key) :
      (sizes.load (T := Catalogue)).Answers (Lane.Over threeAnswers) (threeLookups key)
        (sizes.begin key) :=
    read ▸ sizes.answers_load key rfl rfl ruled
  have loads : ∀ key ∈ [1, 2, 3, 2], (sizes.load (T := Catalogue)).Answers
      (Lane.Over threeAnswers) (threeLookups key) (sizes.begin key) := by
    simp only [List.forall_mem_cons]
    exact ⟨load 1 rfl rfl, load 2 rfl rfl, load 3 rfl rfl, load 2 rfl rfl, nofun⟩
  obtain ⟨result, amounts, beside, after⟩ := batches_agree rfl loads loads
  obtain rfl : result = failed := amounts.fails [1] 2 [3, 2] _ rfl (by decide) rfl
  have held : Lane.Over threeAnswers fresh := rfl
  have onward (moment : ℕ) : ∃ i, ∀ j, i ≤ j → moment ≤ Duration.ofMillis j :=
    ⟨moment, fun j le => le.trans (Nat.le_mul_of_pos_right j (by decide))⟩
  exact ⟨⟨beside, after⟩, beside.returns onward (fun _ _ fits => fits) held (n := 0) rfl⟩

end PacedCalls
