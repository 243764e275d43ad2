import PacedCalls.Proofs.Cache.Chronicle
import PacedCalls.Proofs.Cache.Freshness
import PacedCalls.Proofs.Cache.Positions
import PacedCalls.Proofs.Cache.Steps

/-!
What looks and claims come to: a pass over the store that nobody disturbs finds nothing the second
time that it did not find the first time. Every key that it has missed is loaded then, or a load of
it is joined.
-/

set_option autoImplicit false

namespace PacedCalls.Cache

section

variable {α : Type} [DecidableEq α]

theorem eraseDups_concat (xs : List α) (x : α) :
    (xs ++ [x]).eraseDups = if x ∈ xs then xs.eraseDups else xs.eraseDups ++ [x] := by
  rw [List.eraseDups_append]
  by_cases h : x ∈ xs <;> simp [List.removeAll, h, List.eraseDups_cons]

theorem foldl_eraseDups (xs : List α) :
    xs.foldl (fun acc x => if acc.contains x then acc else acc ++ [x]) [] = xs.eraseDups := by
  induction xs using List.reverseRecOn with
  | nil => rfl
  | append_singleton xs x ih =>
    rw [List.foldl_append, ih, eraseDups_concat]
    by_cases h : x ∈ xs <;> simp [h]

theorem nodup_eraseDups (xs : List α) : xs.eraseDups.Nodup := by
  induction xs using List.reverseRecOn with
  | nil => exact List.nodup_nil
  | append_singleton xs x ih =>
    rw [eraseDups_concat]
    by_cases h : x ∈ xs
    · simpa [h] using ih
    · have fresh : x ∉ xs.eraseDups := by simpa using h
      simpa [h] using List.nodup_append_comm.mp (List.nodup_cons.mpr ⟨fresh, ih⟩)

end

section

variable {K V E σ L B : Type} [DecidableEq K]

instance (s : State K V E) (key : K) (now : ℕ) : Decidable (s.Stale key now) :=
  inferInstanceAs (Decidable (∀ e ∈ s.store.entries, e.key = key → e.since + s.store.ttl < now))

namespace Store

variable {s : Store K V} {key : K} {now : ℕ} {e : Entry K V}

omit [DecidableEq K] in
theorem eq_of_key (once : s.keys.Nodup) {x : Entry K V} (hx : x ∈ s.entries) (he : e ∈ s.entries)
    (same : x.key = e.key) : x = e :=
  List.inj_on_of_nodup_map once hx he same

theorem length_others (once : s.keys.Nodup) (he : e ∈ s.entries) :
    (s.others e.key).length + 1 = s.size := by
  have one : s.keys.count e.key = 1 :=
    List.count_eq_one_of_mem once (mem_keys.mpr ⟨e, he, rfl⟩)
  have split := List.length_eq_length_filter_add (l := s.entries) fun x => decide (x.key = e.key)
  rw [List.count, keys, List.countP_map, List.countP_eq_length_filter] at one
  simp only [Function.comp_def, beq_eq_decide] at one
  simp only [others, size, ne_eq, decide_not] at split ⊢
  omega

theorem mem_read (once : s.keys.Nodup) :
    e ∈ (s.read key now).2.entries ↔
      e ∈ s.entries ∧ (e.key = key → now ≤ e.since + s.ttl) := by
  obtain ⟨absent, eq⟩ | ⟨x, hx, rfl, young, eq⟩ | ⟨x, hx, rfl, old, eq⟩ := s.read_cases key now
  · rw [eq]
    refine ⟨fun he => ⟨he, fun hk => ?_⟩, And.left⟩
    exact absurd (mem_keys.mpr ⟨e, he, hk⟩) absent
  · simp only [eq, List.mem_cons, others, List.mem_filter, decide_eq_true_eq]
    constructor
    · rintro (rfl | ⟨he, ne⟩)
      · exact ⟨hx, fun _ => young⟩
      · exact ⟨he, fun hk => absurd hk ne⟩
    · rintro ⟨he, -⟩
      by_cases hk : e.key = x.key
      · exact .inl (eq_of_key once he hx hk)
      · exact .inr ⟨he, hk⟩
  · simp only [eq, others, List.mem_filter, decide_eq_true_eq]
    constructor
    · rintro ⟨he, ne⟩
      exact ⟨he, fun hk => absurd hk ne⟩
    · rintro ⟨he, live⟩
      refine ⟨he, fun hk => ?_⟩
      have := live hk
      rw [eq_of_key once he hx hk] at this
      omega

theorem nodup_read (once : s.keys.Nodup) : (s.read key now).2.keys.Nodup := by
  obtain ⟨-, eq⟩ | ⟨x, hx, rfl, -, eq⟩ | ⟨x, -, rfl, -, eq⟩ := s.read_cases key now
  · rwa [eq]
  · rw [eq, keys_cons, List.nodup_cons]
    refine ⟨fun hm => ?_, once.sublist (keys_sublist (s.others_sublist x.key))⟩
    exact (mem_keys_others.mp hm).2 rfl
  · rw [eq]
    exact once.sublist (keys_sublist (s.others_sublist x.key))

theorem nodup_insert (once : s.keys.Nodup) (value : Option V) :
    (s.insert key value now).2.keys.Nodup := by
  unfold insert
  split
  · rw [keys_cons, List.nodup_cons]
    refine ⟨fun hm => ?_, once.sublist (keys_sublist (s.others_sublist key))⟩
    exact (mem_keys_others.mp hm).2 rfl
  · next found =>
    have absent : key ∉ s.keys := find?_eq_none.mp found
    split
    · exact List.nodup_cons.mpr ⟨absent, once⟩
    · have fewer := keys_sublist (s := s) (List.take_sublist (s.capacity - 1) s.entries)
      exact List.nodup_cons.mpr ⟨fun hm => absent (fewer.subset hm), once.sublist fewer⟩

def Current (s : Store K V) (now : ℕ) (key : K) : Prop :=
  ∀ e ∈ s.entries, e.key = key → now ≤ e.since + s.ttl

omit [DecidableEq K] in
theorem current_of_absent (absent : key ∉ s.keys) : s.Current now key :=
  fun e he same => absurd (mem_keys.mpr ⟨e, he, same⟩) absent

theorem Current.serve (h : s.Current now key) (op : Op K V) :
    (s.serve now op).2.Current now key := by
  intro e he same
  rw [(s.serve_settings now op).2]
  have old (here : e ∈ s.entries) : now ≤ e.since + s.ttl := h e here same
  cases op with
  | read k =>
    obtain ⟨-, eq⟩ | ⟨x, hx, -, -, eq⟩ | ⟨x, -, -, -, eq⟩ := s.read_cases k now
    all_goals
      simp only [Store.serve, eq] at he
    · exact old he
    · rcases List.mem_cons.mp he with rfl | he
      · exact old hx
      · exact old (List.mem_of_mem_filter he)
    · exact old (List.mem_of_mem_filter he)
  | insert k value =>
    have new_or : e = ⟨k, value, now⟩ ∨ e ∈ s.entries := by
      simp only [Store.serve, insert] at he
      split at he
      · exact (List.mem_cons.mp he).imp id List.mem_of_mem_filter
      · split at he
        · exact List.mem_cons.mp he
        · exact (List.mem_cons.mp he).imp id List.mem_of_mem_take
    rcases new_or with rfl | he
    · exact Nat.le_add_right ..
    · exact old he
  | remove k => exact old (List.mem_of_mem_filter he)
  | clear => cases he

theorem nodup_serve (once : s.keys.Nodup) (op : Op K V) : (s.serve now op).2.keys.Nodup := by
  cases op with
  | read key => exact nodup_read once
  | insert key value => exact nodup_insert once value
  | remove key => exact once.sublist (keys_sublist (s.others_sublist key))
  | clear => exact List.nodup_nil

end Store

namespace State

variable {s s' : State K V E} {key : K} {now : ℕ}

@[simp]
theorem retire_stats (s : State K V E) (g : Guard K) : (s.retire g).stats = s.stats := by
  simp only [retire]
  split <;> rfl

@[simp]
theorem retireAll_stats (s : State K V E) (guards : List (Guard K)) :
    (s.retireAll guards).stats = s.stats := by
  induction guards generalizing s with
  | nil => rfl
  | cons g rest ih => exact (ih (s.retire g)).trans (s.retire_stats g)

@[simp]
theorem retireAll_store (s : State K V E) (guards : List (Guard K)) :
    (s.retireAll guards).store = s.store := by
  induction guards generalizing s with
  | nil => rfl
  | cons g rest ih => exact (ih (s.retire g)).trans (s.retire_store g)

theorem insert_stats (s : State K V E) (key : K) (value : Option V) (now : ℕ) :
    (s.insert key value now).stats = { s.stats with
      evictions := s.stats.evictions + (s.store.insert key value now).1.toNat } := by
  simp only [insert]
  cases (s.store.insert key value now).1 <;> rfl

theorem settle_stats (s : State K V E) (g : Guard K) (result : Lookup V E) (now : ℕ) :
    (s.settle g result now).stats =
      match result.settled? with
      | some value => (s.insert g.key value now).stats
      | none => { s.stats with loadFailures := s.stats.loadFailures + 1 } := by
  simp only [settle, retire_stats, publish]
  cases result.settled? <;> rfl

theorem readStore_cases (s : State K V E) (key : K) (now : ℕ) :
    (∃ e ∈ s.store.entries, e.key = key ∧ now ≤ e.since + s.store.ttl ∧
      s.readStore key now = (some (.ofOption e.value),
        { s with
          store := { s.store with entries := e :: s.store.others e.key }
          stats := { s.stats with hits := s.stats.hits + 1 } })) ∨
    (key ∉ s.store.keys ∧ s.readStore key now = (none, s)) ∨
    ∃ e ∈ s.store.entries, e.key = key ∧ e.since + s.store.ttl < now ∧
      s.readStore key now = (none,
        { s with
          store := { s.store with entries := s.store.others e.key }
          stats := { s.stats with expirations := s.stats.expirations + 1 } }) := by
  obtain ⟨absent, eq⟩ | ⟨e, he, hk, live, eq⟩ | ⟨e, he, hk, old, eq⟩ := s.store.read_cases key now
  · exact .inr (.inl ⟨absent, by simp [readStore, eq]⟩)
  · exact .inl ⟨e, he, hk, live, by simp [readStore, eq, count]⟩
  · exact .inr (.inr ⟨e, he, hk, old, by simp [readStore, eq, count]⟩)

theorem absent_of_readStore (h : s.readStore key now = (none, s')) : key ∉ s'.store.keys := by
  obtain ⟨e, -, -, -, eq⟩ | ⟨absent, eq⟩ | ⟨e, -, rfl, -, eq⟩ := s.readStore_cases key now
  · rw [eq] at h
    cases h
  · rw [eq] at h
    cases h
    exact absent
  · rw [eq] at h
    cases h
    exact fun hm => (Store.mem_keys_others.mp hm).2 rfl

theorem claim_of_absent (absent : key ∉ s.store.keys) (now : ℕ) :
    s.claim key now =
      match s.underWay.lookup key with
      | some flight => (.joined flight, s)
      | none => (.owner ⟨key, s.flights.size⟩, s.launch key) := by
  have eq : s.store.read key now = (.miss, s.store) := by
    obtain ⟨-, eq⟩ | ⟨e, he, hk, -⟩ | ⟨e, he, hk, -⟩ := s.store.read_cases key now
    · exact eq
    · exact absurd (Store.mem_keys.mpr ⟨e, he, hk⟩) absent
    · exact absurd (Store.mem_keys.mpr ⟨e, he, hk⟩) absent
  simp only [claim, eq]
  cases s.underWay.lookup key <;> rfl

theorem peek_of_claim {c : Claim K V E} (h : s.claim key now = (c, s')) :
    s.peek now key = match c with
      | .stored a => some a
      | _ => none := by
  rw [peek_eq]
  simp only [claim] at h
  split at h
  · next hit =>
    cases h
    rw [hit]
    rfl
  · next miss =>
    have none_ : (s.store.read key now).1.hit? = none := by
      cases hr : (s.store.read key now).1 with
      | hit value => exact absurd hr (miss value)
      | miss => rfl
      | expired => rfl
    rw [none_]
    split at h <;> cases h <;> rfl

theorem claim_store (once : s.store.keys.Nodup) {c : Claim K V E} (h : s.claim key now = (c, s')) :
    (∀ e ∈ s'.store.entries, e ∈ s.store.entries) ∧
      s'.stats = { s.stats with hits := s'.stats.hits } ∧
      (∀ g, c = .owner g → g.key = key ∧ key ∉ s'.store.keys) ∧
      (s.store.Current now key → s'.store.size = s.store.size) := by
  obtain ⟨absent, eq⟩ | ⟨e, he, rfl, -, eq⟩ | ⟨e, he, rfl, old, eq⟩ := s.store.read_cases key now
  · simp only [claim, eq] at h
    split at h <;> cases h
    · exact ⟨fun e he => he, rfl, by simp, fun _ => rfl⟩
    · refine ⟨fun e he => he, rfl, fun g hg => ?_, fun _ => rfl⟩
      cases hg
      exact ⟨rfl, absent⟩
  · simp only [claim, eq] at h
    cases h
    refine ⟨fun x hx => ?_, rfl, by simp, fun _ => Store.length_others once he⟩
    rcases List.mem_cons.mp hx with rfl | hx
    · exact he
    · exact List.mem_of_mem_filter hx
  · have stale (current : s.store.Current now e.key) : False := by
      have := current e he rfl
      omega
    simp only [claim, eq] at h
    split at h <;> cases h
    · exact ⟨fun x hx => List.mem_of_mem_filter hx, rfl, by simp, fun no => (stale no).elim⟩
    · refine ⟨fun x hx => List.mem_of_mem_filter hx, rfl, fun g hg => ?_, fun no => (stale no).elim⟩
      cases hg
      exact ⟨rfl, fun hm => (Store.mem_keys_others.mp hm).2 rfl⟩

theorem peek_eq_none (once : s.store.keys.Nodup) (now : ℕ) (key : K) :
    s.peek now key = none ↔ s.Stale key now := by
  simp only [peek]
  obtain ⟨e, he, rfl, live, eq⟩ | ⟨absent, eq⟩ | ⟨e, he, rfl, old, eq⟩ := s.readStore_cases key now
  · simp only [eq, reduceCtorEq, false_iff]
    intro stale
    have := stale e he rfl
    omega
  · simp only [eq, true_iff]
    exact fun e he hk => absurd (Store.mem_keys.mpr ⟨e, he, hk⟩) absent
  · simp only [eq, true_iff]
    intro x hx hk
    rw [Store.eq_of_key once hx he hk]
    exact old

theorem isNone_peek (once : s.store.keys.Nodup) :
    (s.peek now key).isNone = decide (s.Stale key now) := by
  rw [Bool.eq_iff_iff, Option.isNone_iff_eq_none, peek_eq_none once, decide_eq_true_eq]

/-- What it comes to that some keys are read one after another. -/
structure Skimmed (s : State K V E) (now : ℕ) (keys : List K) (s' : State K V E) : Prop where
  once : s'.store.keys.Nodup
  capacity : s'.store.capacity = s.store.capacity
  ttl : s'.store.ttl = s.store.ttl
  entries : ∀ e, e ∈ s'.store.entries ↔
    e ∈ s.store.entries ∧ (e.key ∈ keys → now ≤ e.since + s.store.ttl)
  expired : s'.store.size + s'.stats.expirations = s.store.size + s.stats.expirations
  hits : s'.stats.hits = s.stats.hits + keys.countP fun key => !decide (s.Stale key now)
  counted : s'.stats =
    { s.stats with hits := s'.stats.hits, expirations := s'.stats.expirations }
  underWay : s'.underWay = s.underWay
  flights : s'.flights = s.flights

namespace Skimmed

variable {s'' : State K V E} {keys more : List K}

theorem stale (h : s.Skimmed now keys s') (key : K) : s'.Stale key now ↔ s.Stale key now := by
  constructor
  · intro stale e he hk
    by_contra live
    have stays : e ∈ s'.store.entries := (h.entries e).mpr ⟨he, fun _ => by omega⟩
    have := stale e stays hk
    rw [h.ttl] at this
    omega
  · intro stale e he hk
    rw [h.ttl]
    exact stale e ((h.entries e).mp he).1 hk

theorem absent (h : s.Skimmed now keys s') (hk : key ∈ keys) (stale : s.Stale key now) :
    key ∉ s'.store.keys := by
  intro hm
  obtain ⟨e, he, rfl⟩ := Store.mem_keys.mp hm
  obtain ⟨old, live⟩ := (h.entries e).mp he
  have := stale e old rfl
  have := live hk
  omega

theorem trans (h : s.Skimmed now keys s') (h' : s'.Skimmed now more s'') :
    s.Skimmed now (keys ++ more) s'' where
  once := h'.once
  capacity := h'.capacity.trans h.capacity
  ttl := h'.ttl.trans h.ttl
  entries e := by
    rw [h'.entries, h.entries, h.ttl, List.mem_append]
    tauto
  expired := h'.expired.trans h.expired
  hits := by
    have same : (fun key => !decide (s'.Stale key now)) = fun key => !decide (s.Stale key now) := by
      funext key
      simp only [h.stale key]
    rw [h'.hits, h.hits, same, List.countP_append, Nat.add_assoc]
  counted := by
    rw [h'.counted, h.counted]
  underWay := h'.underWay.trans h.underWay
  flights := h'.flights.trans h.flights

theorem nil (once : s.store.keys.Nodup) : s.Skimmed now [] s where
  once := once
  capacity := rfl
  ttl := rfl
  entries e := by simp
  expired := rfl
  hits := by simp
  counted := rfl
  underWay := rfl
  flights := rfl

end Skimmed

theorem readStore_skimmed (once : s.store.keys.Nodup) (key : K) (now : ℕ) :
    s.Skimmed now [key] (s.readStore key now).2 := by
  have entries (e : Entry K V) : e ∈ (s.readStore key now).2.store.entries ↔
      e ∈ s.store.entries ∧ (e.key ∈ [key] → now ≤ e.since + s.store.ttl) := by
    rw [readStore_store, Store.mem_read once, List.mem_singleton]
  have kept : (s.readStore key now).2.store.keys.Nodup := by
    rw [readStore_store]
    exact Store.nodup_read once
  have stale_iff := peek_eq_none once now key
  simp only [peek] at stale_iff
  obtain ⟨e, he, rfl, live, eq⟩ | ⟨absent, eq⟩ | ⟨e, he, rfl, old, eq⟩ := s.readStore_cases key now
  all_goals
    simp only [eq] at entries kept stale_iff ⊢
  · have fresh : ¬ s.Stale e.key now := by simp [← stale_iff]
    have size := Store.length_others once he
    refine ⟨kept, rfl, rfl, entries, ?_, by simp [fresh], rfl, rfl, rfl⟩
    simp only [Store.size, List.length_cons] at size ⊢
    omega
  · have stale : s.Stale key now := stale_iff.mp trivial
    exact ⟨kept, rfl, rfl, entries, rfl, by simp [stale], rfl, rfl, rfl⟩
  · have stale : s.Stale e.key now := stale_iff.mp trivial
    have size := Store.length_others once he
    refine ⟨kept, rfl, rfl, entries, ?_, by simp [stale], rfl, rfl, rfl⟩
    simp only [Store.size] at size ⊢
    omega

theorem skim_skimmed (once : s.store.keys.Nodup) (keys : List K) (now : ℕ) :
    s.Skimmed now keys (s.skim now keys) := by
  induction keys generalizing s with
  | nil => exact .nil once
  | cons key rest ih =>
    have first := readStore_skimmed once key now
    exact first.trans (ih first.once)

/-- What it comes to that absent keys are claimed: those whose load is under way are joined, and
the others are owned. -/
structure Claimed (s : State K V E) (keys : List K) (c c' : Claims K V E) (s' : State K V E) :
    Prop where
  resolved : c'.resolved = c.resolved
  owned : c'.owned.map (·.key) =
    c.owned.map (·.key) ++ keys.filter fun key => (s.underWay.lookup key).isNone
  joined : c'.joined =
    c.joined ++ keys.filterMap fun key => (s.underWay.lookup key).map (key, ·)
  store : s'.store = s.store
  loads : s'.stats.loads = s.stats.loads

end State

end

section

variable {R K V E σ L B : Type} [DecidableEq K] {loader : Loader (Event R) K V E σ L B}

namespace ReadAll

theorem claims_pass (loader : Loader (Event R) K V E σ L B) (now : ℕ) (keys : List K)
    (slots : List (Option (Lookup V E))) {wanted : List K} (once : wanted.Nodup)
    {s : State K V E} (absent : ∀ key ∈ wanted, key ∉ s.store.keys) (c : Claims K V E) (w : σ) :
    ∃ c' s', s.Claimed wanted c c' s' ∧
      (process loader).Passes Passing now wanted.length (.claiming keys slots c wanted) (s, w)
        (.claiming keys slots c' []) (s', w) := by
  induction wanted generalizing s c with
  | nil => exact ⟨c, s, ⟨rfl, by simp, by simp, rfl, rfl⟩, .done _ _⟩
  | cons key rest ih =>
    obtain ⟨fresh, once⟩ := List.nodup_cons.mp once
    obtain ⟨gone, absent⟩ := List.forall_mem_cons.mp absent
    have claim := State.claim_of_absent gone now
    cases under : s.underWay.lookup key with
    | some flight =>
      simp only [under] at claim
      obtain ⟨c', s', ⟨resolved, owned, joined, store, loads⟩, more⟩ :=
        ih once (s := s.countMiss.countJoin) absent (c.add key (.joined flight))
      refine ⟨c', s', ⟨resolved, ?_, ?_, store, loads⟩, .goes trivial ?_ more⟩
      · rw [owned, List.filter_cons_of_neg (by simp [under])]
        rfl
      · rw [joined, List.filterMap_cons_some (by rw [under]; rfl)]
        exact List.append_assoc ..
      · simp only [process, claim]
        rfl
    | none =>
      simp only [under] at claim
      obtain ⟨c', s', ⟨resolved, owned, joined, store, loads⟩, more⟩ :=
        ih once (s := (s.launch key).countMiss) absent (c.add key (.owner ⟨key, s.flights.size⟩))
      -- The flight that has been launched is that of a key which does not come again.
      have later (k) (hk : k ∈ rest) :
          (s.launch key).countMiss.underWay.lookup k = s.underWay.lookup k := by
        have ne : k ≠ key := fun same => fresh (same ▸ hk)
        exact (Assoc.lookup_cons_eq k key _ _).trans (if_neg ne)
      refine ⟨c', s', ⟨resolved, ?_, ?_, store, loads⟩, .goes trivial ?_ more⟩
      · rw [owned, List.filter_cons_of_pos (by simp [under]),
          List.filter_congr fun k hk => by rw [later k hk]]
        simp [Claims.add]
      · rw [joined, List.filterMap_cons_none (by simp [under]),
          List.filterMap_congr fun k hk => by rw [later k hk]]
        rfl
      · simp only [process, claim]
        rfl

theorem missing_eq (keys : List K) (slots : List (Option (Lookup V E))) :
    missing keys slots =
      ((keys.zip slots).filterMap fun p => if p.2.isNone then some p.1 else none).eraseDups :=
  foldl_eraseDups _

theorem missing_map (keys : List K) (slot : K → Option (Lookup V E)) :
    missing keys (keys.map slot) = (keys.filter fun key => (slot key).isNone).eraseDups := by
  have wanted : (keys.zip (keys.map slot)).filterMap
      (fun p => if p.2.isNone then some p.1 else none) =
        keys.filter fun key => (slot key).isNone := by
    induction keys with
    | nil => rfl
    | cons key rest ih =>
      rw [List.map_cons, List.zip_cons_cons, List.filterMap_cons, ih, List.filter_cons]
      by_cases none_ : (slot key).isNone <;> simp [none_]
  rw [← wanted]
  exact missing_eq ..

/-- The keys without a live entry, each once, in order of first appearance. -/
def wanted (s : State K V E) (now : ℕ) (keys : List K) : List K :=
  (keys.filter fun key => decide (s.Stale key now)).eraseDups

theorem mem_wanted {s : State K V E} {now : ℕ} {keys : List K} {key : K} :
    key ∈ wanted s now keys ↔ key ∈ keys ∧ s.Stale key now := by
  simp [wanted]

theorem nodup_wanted (s : State K V E) (now : ℕ) (keys : List K) : (wanted s now keys).Nodup :=
  nodup_eraseDups _

/-- What comes of a pass over the store that nobody disturbs: all keys are found, or those that are
missed are claimed. -/
theorem pass_cases (loader : Loader (Event R) K V E σ L B) (now : ℕ) (keys : List K)
    {s : State K V E} (w : σ) (once : s.store.keys.Nodup) :
    ∃ n s₁, s.Skimmed now keys s₁ ∧
      ((wanted s now keys = [] ∧
        (process loader).Passes Passing now n (.start keys) (s, w)
          (.looking keys (keys.map (s.peek now))) (s₁, w) ∧
        (process loader).move now (.looking keys (keys.map (s.peek now))) (s₁, w) =
          .ends (assemble keys (keys.map (s.peek now)) []) (s₁, w) []) ∨
      ∃ c s₂, s₁.Claimed (wanted s now keys) {} c s₂ ∧ wanted s now keys ≠ [] ∧
        (process loader).Passes Passing now n (.start keys) (s, w)
          (.claiming keys (keys.map (s.peek now)) c []) (s₂, w)) := by
  have looks := looks_pass loader now keys s w
  have skimmed := State.skim_skimmed once keys now
  have missed : missing keys (keys.map (s.peek now)) = wanted s now keys := by
    rw [missing_map, wanted]
    simp only [State.isNone_peek once]
  have done : keys[(keys.map (s.peek now)).length]? = none := by simp
  by_cases none_ : wanted s now keys = []
  · refine ⟨keys.length, _, skimmed, .inl ⟨none_, looks, ?_⟩⟩
    simp only [process, done, missed, none_]
  · have move : (process loader).move now (.looking keys (keys.map (s.peek now)))
        (s.skim now keys, w) =
          .goes (.claiming keys (keys.map (s.peek now)) {} (wanted s now keys))
            (s.skim now keys, w) [] := by
      simp only [process, done, missed]
    obtain ⟨c, s₂, claimed, claims⟩ := claims_pass loader now keys (keys.map (s.peek now))
      (nodup_wanted s now keys) (fun key hk => skimmed.absent (mem_wanted.mp hk).1
        (mem_wanted.mp hk).2) {} w
    exact ⟨_, _, skimmed, .inr ⟨c, s₂, claimed, none_, looks.trans (.goes trivial move claims)⟩⟩

end ReadAll

theorem Read.leaves_alone (loader : Loader (Event R) K V E σ L B) (read : Read K L)
    (w : State K V E × σ) :
    ((process loader).abandon read w).1.store = w.1.store ∧
      ((process loader).abandon read w).1.stats = w.1.stats := by
  cases read with
  | loading g l => exact ⟨w.1.retire_store g, w.1.retire_stats g⟩
  | _ => exact ⟨rfl, rfl⟩

theorem Part.leave_alone (loader : Loader (Event R) K V E σ L B)
    (parts : List (Part K L ⊕ (K × Lookup V E))) (w : State K V E × σ) :
    (Process.abandonAll (Part.process loader) parts w).1.store = w.1.store ∧
      (Process.abandonAll (Part.process loader) parts w).1.stats = w.1.stats := by
  induction parts generalizing w with
  | nil => exact ⟨rfl, rfl⟩
  | cons part rest ih =>
    cases part with
    | inr found => exact ih w
    | inl part =>
      have first : ((Part.process loader).abandon part w).1.store = w.1.store ∧
          ((Part.process loader).abandon part w).1.stats = w.1.stats := by
        cases part with
        | watching key flight => exact ⟨rfl, rfl⟩
        | reading key read => exact read.leaves_alone loader w
      obtain ⟨store, stats⟩ := ih ((Part.process loader).abandon part w)
      exact ⟨store.trans first.1, stats.trans first.2⟩

theorem Reader.leaves_alone (loader : Loader (Event R) K V E σ L B)
    (reader : Reader K V E L B) (w : State K V E × σ) :
    ((process loader).abandon reader w).1.store = w.1.store ∧
      ((process loader).abandon reader w).1.stats = w.1.stats := by
  cases reader with
  | one read => exact read.leaves_alone loader w
  | many read =>
    cases read with
    | looking keys slots => exact ⟨rfl, rfl⟩
    | claiming keys slots claims wanted =>
      exact ⟨State.retireAll_store _ claims.owned, State.retireAll_stats _ claims.owned⟩
    | loading keys slots resolved guards chunks joined =>
      have chunks : (Process.abandonAll (Chunk.process loader) chunks w).1 = w.1 :=
        ReadAll.chunks_leave chunks w.1 w.2
      exact ⟨(State.retireAll_store _ guards).trans (congrArg State.store chunks),
        (State.retireAll_stats _ guards).trans (congrArg State.stats chunks)⟩
    | joining keys slots resolved parts => exact Part.leave_alone loader parts w

theorem Room.once_of_reach {outside : σ → σ → Prop} {c : Config} {world : σ} {start : ℕ}
    {room : Room K V E σ L B} (h : Reach loader outside (opening c world start) room) :
    room.cache.store.keys.Nodup :=
  store_of_reach (S := fun s => s.keys.Nodup) (fun _ _ op once => Store.nodup_serve once op) h
    List.nodup_nil

end

end PacedCalls.Cache
