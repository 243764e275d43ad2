import Mathlib.Data.Finset.Card
import Mathlib.Data.List.TakeWhile
import PacedCalls.Cache.Store

/-!
The store in the light of its past. A chronicle has every request to a store with its answer, and
what the store holds is read off it: the value and the age of a key come from the latest insertion
of it, and the order of the entries is the order of the latest uses. A use is an insertion, or a
read with a hit.
-/

set_option autoImplicit false

namespace PacedCalls.Cache

inductive Op (K V : Type) where
  | read (key : K)
  | insert (key : K) (value : Option V)
  | remove (key : K)
  | clear
  deriving DecidableEq, Repr

inductive Answer (V : Type) where
  | reading (found : Reading V)
  | inserted (gaveWay : Bool)
  | done
  deriving DecidableEq, Repr

structure Line (K V : Type) where
  now : ℕ
  op : Op K V
  answer : Answer V
  deriving DecidableEq, Repr

/-- Something that answers requests, and what it was asked so far, the latest first. -/
structure Chronicle (σ K V : Type) where
  state : σ
  past : List (Line K V) := []

namespace Chronicle

variable {σ K V : Type} (serve : σ → ℕ → Op K V → Answer V × σ)

def next (c : Chronicle σ K V) (asked : ℕ × Op K V) : Chronicle σ K V where
  state := (serve c.state asked.1 asked.2).2
  past := ⟨asked.1, asked.2, (serve c.state asked.1 asked.2).1⟩ :: c.past

def play (c : Chronicle σ K V) (asked : List (ℕ × Op K V)) : Chronicle σ K V :=
  asked.foldl (next serve) c

end Chronicle

section

variable {K V : Type}

def Line.used? : Line K V → Option K
  | ⟨_, .insert key _, _⟩ => some key
  | ⟨_, .read key, .reading (.hit _)⟩ => some key
  | _ => none

def uses (past : List (Line K V)) : List K := past.filterMap Line.used?

variable [DecidableEq K]

def Line.stored? (key : K) : Line K V → Option (Option V × ℕ)
  | ⟨now, .insert k value, _⟩ => if k = key then some (value, now) else none
  | _ => none

def latest (past : List (Line K V)) (key : K) : Option (Option V × ℕ) :=
  past.findSome? (Line.stored? key)

/-- The keys that were used after the latest use of a key. -/
def usedSince (past : List (Line K V)) (key : K) : List K := (uses past).takeWhile (· ≠ key)

theorem latest_cons (line : Line K V) (past : List (Line K V)) (key : K) :
    latest (line :: past) key = (line.stored? key).or (latest past key) := by
  rw [latest, List.findSome?_cons]
  cases line.stored? key <;> rfl

section

variable {line : Line K V} {past : List (Line K V)} {i j key : K}

theorem usedSince_of_unused (unused : line.used? = none) :
    usedSince (line :: past) key = usedSince past key := by
  rw [usedSince, usedSince, uses, List.filterMap_cons_none unused, uses]

theorem usedSince_of_used (used : line.used? = some i) (ne : i ≠ key) :
    usedSince (line :: past) key = i :: usedSince past key := by
  rw [usedSince, usedSince, uses, List.filterMap_cons_some used, uses,
    List.takeWhile_cons_of_pos (by simpa using ne)]

theorem ne_of_usedSince (h : i ∈ usedSince past j) : i ≠ j := by
  simpa using List.mem_takeWhile_imp h

theorem usedSince_asymm (h : i ∈ usedSince past j) : j ∉ usedSince past i := by
  unfold usedSince at h ⊢
  generalize uses past = order at h ⊢
  induction order with
  | nil => cases h
  | cons a rest ih =>
    by_cases ha : a = j
    · simp [ha] at h
    · rw [List.takeWhile_cons_of_pos (by simpa using ha), List.mem_cons] at h
      rcases h with rfl | h
      · simp
      · by_cases hi : a = i
        · simp [hi]
        · rw [List.takeWhile_cons_of_pos (by simpa using hi), List.mem_cons, not_or]
          exact ⟨Ne.symm ha, ih h⟩

end

namespace Store

omit [DecidableEq K] in
def keys (s : Store K V) : List K := s.entries.map (·.key)

def serve (s : Store K V) (now : ℕ) : Op K V → Answer V × Store K V
  | .read key => (.reading (s.read key now).1, (s.read key now).2)
  | .insert key value => (.inserted (s.insert key value now).1, (s.insert key value now).2)
  | .remove key => (.done, s.remove key)
  | .clear => (.done, s.clear)

section

variable {s : Store K V} {key k : K} {value : Option V} {now : ℕ} {e : Entry K V}

omit [DecidableEq K] in
theorem mem_keys : k ∈ s.keys ↔ ∃ e ∈ s.entries, e.key = k := List.mem_map

omit [DecidableEq K] in
@[simp]
theorem keys_cons (s : Store K V) (e : Entry K V) (rest : List (Entry K V)) :
    ({ s with entries := e :: rest } : Store K V).keys =
      e.key :: ({ s with entries := rest } : Store K V).keys := rfl

theorem find?_eq_none : s.find? key = none ↔ key ∉ s.keys := by
  simp [find?, mem_keys]

theorem mem_of_find? (h : s.find? key = some e) : e ∈ s.entries ∧ e.key = key :=
  ⟨List.mem_of_find?_eq_some h, by simpa using List.find?_some h⟩

theorem others_sublist (s : Store K V) (key : K) : (s.others key).Sublist s.entries :=
  List.filter_sublist

theorem ne_of_mem_others (h : e ∈ s.others key) : e.key ≠ key := by
  simpa using (List.mem_filter.mp h).2

theorem mem_keys_others :
    k ∈ ({ s with entries := s.others key } : Store K V).keys ↔ k ∈ s.keys ∧ k ≠ key := by
  simp only [mem_keys, others, List.mem_filter, decide_eq_true_eq]
  constructor
  · rintro ⟨e, ⟨mem, ne⟩, rfl⟩
    exact ⟨⟨e, mem, rfl⟩, ne⟩
  · rintro ⟨⟨e, mem, rfl⟩, ne⟩
    exact ⟨e, ⟨mem, ne⟩, rfl⟩

theorem length_others_lt (mem : e ∈ s.entries) : (s.others e.key).length < s.size :=
  List.length_filter_lt_length_iff_exists.mpr ⟨e, mem, by simp⟩

theorem read_cases (s : Store K V) (key : K) (now : ℕ) :
    (key ∉ s.keys ∧ s.read key now = (.miss, s)) ∨
    (∃ e ∈ s.entries, e.key = key ∧ now ≤ e.since + s.ttl ∧
      s.read key now = (.hit e.value, { s with entries := e :: s.others e.key })) ∨
    ∃ e ∈ s.entries, e.key = key ∧ e.since + s.ttl < now ∧
      s.read key now = (.expired, { s with entries := s.others e.key }) := by
  rcases found : s.find? key with - | e
  · exact .inl ⟨find?_eq_none.mp found, by rw [read, found]⟩
  · obtain ⟨mem, rfl⟩ := mem_of_find? found
    by_cases live : s.live e now = true
    · have young : now - e.since ≤ s.ttl := by simpa [Store.live] using live
      exact .inr (.inl ⟨e, mem, rfl, by omega, by rw [read, found]; simp [live]⟩)
    · have old : ¬now - e.since ≤ s.ttl := by simpa [Store.live] using live
      exact .inr (.inr ⟨e, mem, rfl, by omega, by rw [read, found]; simp [live]⟩)

theorem insert_cases (value : Option V) (now : ℕ) (key : K) (room : 0 < s.capacity)
    (bounded : s.size ≤ s.capacity) :
    (key ∈ s.keys ∧ s.insert key value now =
      (false, { s with entries := ⟨key, value, now⟩ :: s.others key })) ∨
    (key ∉ s.keys ∧ s.size < s.capacity ∧ s.insert key value now =
      (false, { s with entries := ⟨key, value, now⟩ :: s.entries })) ∨
    ∃ stay last, key ∉ s.keys ∧ s.size = s.capacity ∧ s.entries = stay ++ [last] ∧
      s.insert key value now = (true, { s with entries := ⟨key, value, now⟩ :: stay }) := by
  rcases found : s.find? key with - | e
  · have absent := find?_eq_none.mp found
    by_cases lt : s.entries.length < s.capacity
    · exact .inr (.inl ⟨absent, lt, by rw [insert, found]; simp [lt]⟩)
    · have full : s.entries.length = s.capacity := le_antisymm bounded (not_lt.mp lt)
      have filled : s.entries ≠ [] := List.ne_nil_of_length_pos (full ▸ room)
      refine .inr (.inr ⟨s.entries.dropLast, s.entries.getLast filled, absent, full,
        (List.dropLast_concat_getLast filled).symm, ?_⟩)
      rw [insert, found, ← full, ← List.dropLast_eq_take]
      simp
  · obtain ⟨mem, rfl⟩ := mem_of_find? found
    exact .inl ⟨mem_keys.mpr ⟨e, mem, rfl⟩, by rw [insert, found]⟩

end

/-- The entries are those of the latest insertions, and stand in the order of the latest uses. -/
structure Kept (s : Store K V) (past : List (Line K V)) : Prop where
  bounded : s.size ≤ s.capacity
  order : s.keys.Pairwise fun i j => i ∈ usedSince past j
  latest : ∀ e ∈ s.entries, latest past e.key = some (e.value, e.since)

section

variable {s : Store K V} {past : List (Line K V)} {line : Line K V} {rest : List (Entry K V)}

omit [DecidableEq K] in
theorem keys_sublist (sub : rest.Sublist s.entries) :
    ({ s with entries := rest } : Store K V).keys.Sublist s.keys := sub.map _

theorem Kept.nodup (kept : s.Kept past) : s.keys.Nodup :=
  kept.order.imp ne_of_usedSince

theorem Kept.thin (kept : s.Kept past) (sub : rest.Sublist s.entries) (unused : line.used? = none)
    (unstored : ∀ key, line.stored? key = none) :
    ({ s with entries := rest } : Store K V).Kept (line :: past) where
  bounded := sub.length_le.trans kept.bounded
  order := (kept.order.sublist (keys_sublist sub)).imp fun h => by
    rwa [usedSince_of_unused unused]
  latest e mem := by
    rw [latest_cons, unstored, Option.none_or]
    exact kept.latest e (sub.subset mem)

theorem Kept.front {e : Entry K V} (kept : s.Kept past) (sub : rest.Sublist s.entries)
    (lt : rest.length < s.capacity) (ne : ∀ x ∈ rest, x.key ≠ e.key)
    (used : line.used? = some e.key)
    (stored : Cache.latest (line :: past) e.key = some (e.value, e.since))
    (unstored : ∀ key, key ≠ e.key → line.stored? key = none) :
    ({ s with entries := e :: rest } : Store K V).Kept (line :: past) where
  bounded := lt
  order := by
    have ahead : ∀ k ∈ ({ s with entries := rest } : Store K V).keys, e.key ≠ k := by
      intro k mem
      obtain ⟨x, hx, rfl⟩ := mem_keys.mp mem
      exact (ne x hx).symm
    -- The key in front has just been used, after all others; among these the order stays.
    rw [keys_cons, List.pairwise_cons]
    constructor
    · intro k mem
      rw [usedSince_of_used used (ahead k mem)]
      exact List.mem_cons_self
    · refine (kept.order.sublist (keys_sublist sub)).imp_of_mem fun _ mem h => ?_
      rw [usedSince_of_used used (ahead _ mem)]
      exact List.mem_cons_of_mem _ h
  latest x mem := by
    rcases List.mem_cons.mp mem with rfl | mem
    · exact stored
    · rw [latest_cons, unstored _ (ne x mem), Option.none_or]
      exact kept.latest x (sub.subset mem)

theorem Kept.empty (capacity ttl : ℕ) : (⟨capacity, ttl, []⟩ : Store K V).Kept [] where
  bounded := Nat.zero_le _
  order := List.Pairwise.nil
  latest _ mem := by cases mem

theorem Kept.serve (kept : s.Kept past) (room : 0 < s.capacity) (now : ℕ) (op : Op K V) :
    (s.serve now op).2.Kept (⟨now, op, (s.serve now op).1⟩ :: past) := by
  cases op with
  | read key =>
    obtain ⟨-, eq⟩ | ⟨e, mem, rfl, -, eq⟩ | ⟨e, -, rfl, -, eq⟩ := s.read_cases key now
    · simp only [Store.serve, eq]
      exact kept.thin (List.Sublist.refl _) rfl fun _ => rfl
    · simp only [Store.serve, eq]
      refine kept.front (s.others_sublist e.key) ((length_others_lt mem).trans_le kept.bounded)
        (fun x => ne_of_mem_others) rfl ?_ fun _ _ => rfl
      rw [latest_cons]
      exact kept.latest e mem
    · simp only [Store.serve, eq]
      exact kept.thin (s.others_sublist e.key) rfl fun _ => rfl
  | insert key value =>
    have stored (gaveWay : Bool) :
        Cache.latest (⟨now, .insert key value, .inserted gaveWay⟩ :: past) key =
          some (value, now) := by
      simp [latest_cons, Line.stored?]
    have unstored (gaveWay : Bool) (k : K) (ne : k ≠ key) :
        (⟨now, .insert key value, .inserted gaveWay⟩ : Line K V).stored? k = none :=
      if_neg ne.symm
    have absent_ne (absent : key ∉ s.keys) (x : Entry K V) (mem : x ∈ s.entries) : x.key ≠ key :=
      fun eq => absent (mem_keys.mpr ⟨x, mem, eq⟩)
    obtain ⟨present, eq⟩ | ⟨absent, lt, eq⟩ | ⟨stay, last, absent, full, split, eq⟩ :=
      insert_cases value now key room kept.bounded
    · simp only [Store.serve, eq]
      obtain ⟨e, mem, rfl⟩ := mem_keys.mp present
      exact kept.front (s.others_sublist e.key) ((length_others_lt mem).trans_le kept.bounded)
        (fun x => ne_of_mem_others) rfl (stored false) (unstored false)
    · simp only [Store.serve, eq]
      exact kept.front (List.Sublist.refl _) lt (absent_ne absent) rfl (stored false)
        (unstored false)
    · simp only [Store.serve, eq]
      have sub : stay.Sublist s.entries := split ▸ List.sublist_append_left stay [last]
      have lt : stay.length < s.capacity := by
        rw [← full, size, split, List.length_append, List.length_singleton]
        exact Nat.lt_succ_self _
      exact kept.front sub lt (fun x mem => absent_ne absent x (sub.subset mem)) rfl
        (stored true) (unstored true)
  | remove key => exact kept.thin (s.others_sublist key) rfl fun _ => rfl
  | clear => exact kept.thin (List.nil_sublist _) rfl fun _ => rfl

theorem serve_settings (s : Store K V) (now : ℕ) (op : Op K V) :
    (s.serve now op).2.capacity = s.capacity ∧ (s.serve now op).2.ttl = s.ttl := by
  cases op with
  | read key =>
    obtain ⟨-, eq⟩ | ⟨e, -, -, -, eq⟩ | ⟨e, -, -, -, eq⟩ := s.read_cases key now <;>
      simp [Store.serve, eq]
  | insert key value =>
    refine ⟨?_, s.insert_ttl key value now⟩
    simp only [Store.serve, insert]
    split
    · rfl
    · split <;> rfl
  | remove key => exact ⟨rfl, rfl⟩
  | clear => exact ⟨rfl, rfl⟩

structure LeastRecent (s : Store K V) (past : List (Line K V)) (key : K) : Prop where
  mem : key ∈ s.keys
  others : ∀ k ∈ s.keys, k ≠ key → k ∈ usedSince past key

section

variable {e : Entry K V} {key k : K} {value : Option V} {now : ℕ}

theorem Kept.latest_eq (kept : s.Kept past) (mem : e ∈ s.entries) (v : Option V) (since : ℕ) :
    Cache.latest past e.key = some (v, since) ↔ e.value = v ∧ e.since = since := by
  rw [kept.latest e mem, Option.some_inj, Prod.mk.injEq]

theorem Kept.hit_iff (kept : s.Kept past) (key : K) (now : ℕ) (v : Option V) :
    (s.read key now).1 = .hit v ↔
      key ∈ s.keys ∧ ∃ since, Cache.latest past key = some (v, since) ∧ now ≤ since + s.ttl := by
  obtain ⟨absent, eq⟩ | ⟨e, mem, rfl, young, eq⟩ | ⟨e, mem, rfl, old, eq⟩ := s.read_cases key now
  · simp [eq, absent]
  · have present : e.key ∈ s.keys := mem_keys.mpr ⟨e, mem, rfl⟩
    simp only [eq, present, true_and, kept.latest_eq mem, Reading.hit.injEq]
    exact ⟨fun hv => ⟨e.since, ⟨hv, rfl⟩, young⟩, fun ⟨_, ⟨hv, _⟩, _⟩ => hv⟩
  · simp only [eq, reduceCtorEq, kept.latest_eq mem, false_iff]
    rintro ⟨-, since, ⟨-, rfl⟩, young⟩
    omega

theorem Kept.expired_iff (kept : s.Kept past) (key : K) (now : ℕ) :
    (s.read key now).1 = .expired ↔
      key ∈ s.keys ∧ ∃ v since, Cache.latest past key = some (v, since) ∧ since + s.ttl < now := by
  obtain ⟨absent, eq⟩ | ⟨e, mem, rfl, young, eq⟩ | ⟨e, mem, rfl, old, eq⟩ := s.read_cases key now
  · simp [eq, absent]
  · simp only [eq, reduceCtorEq, kept.latest_eq mem, false_iff]
    rintro ⟨-, v, since, ⟨-, rfl⟩, old⟩
    omega
  · have present : e.key ∈ s.keys := mem_keys.mpr ⟨e, mem, rfl⟩
    simp only [eq, present, true_and, kept.latest_eq mem, true_iff]
    exact ⟨e.value, e.since, ⟨rfl, rfl⟩, old⟩

theorem mem_keys_read (s : Store K V) (key : K) (now : ℕ) (k : K) :
    k ∈ (s.read key now).2.keys ↔ k ∈ s.keys ∧ ((s.read key now).1 = .expired → k ≠ key) := by
  obtain ⟨absent, eq⟩ | ⟨e, mem, rfl, -, eq⟩ | ⟨e, -, rfl, -, eq⟩ := s.read_cases key now
  · simp [eq]
  · have present : e.key ∈ s.keys := mem_keys.mpr ⟨e, mem, rfl⟩
    simp only [eq, keys_cons, List.mem_cons, mem_keys_others, reduceCtorEq, false_implies,
      and_true]
    constructor
    · rintro (rfl | ⟨mem, -⟩)
      · exact present
      · exact mem
    · intro mem
      exact (em (k = e.key)).imp id fun ne => ⟨mem, ne⟩
  · simp [eq, mem_keys_others]

omit [DecidableEq K] in
theorem keys_concat {stay : List (Entry K V)} {last : Entry K V}
    (split : s.entries = stay ++ [last]) : s.keys = stay.map (·.key) ++ [last.key] := by
  rw [keys, split, List.map_append]
  rfl

theorem Kept.leastRecent_iff {stay : List (Entry K V)} {last : Entry K V} (kept : s.Kept past)
    (split : s.entries = stay ++ [last]) : s.LeastRecent past k ↔ k = last.key := by
  have keys_eq := keys_concat split
  have after : ∀ j ∈ stay.map (·.key), j ∈ usedSince past last.key := by
    have order := kept.order
    rw [keys_eq, List.pairwise_append] at order
    exact fun j mem => order.2.2 j mem last.key (by simp)
  have cases : ∀ j ∈ s.keys, j ≠ last.key → j ∈ usedSince past last.key := by
    intro j mem ne
    rw [keys_eq, List.mem_append, List.mem_singleton] at mem
    exact after j (mem.resolve_right ne)
  have last_mem : last.key ∈ s.keys := by rw [keys_eq]; simp
  constructor
  · intro least
    by_contra ne
    exact usedSince_asymm (cases k least.mem ne) (least.others last.key last_mem (Ne.symm ne))
  · rintro rfl
    exact ⟨last_mem, cases⟩

theorem Kept.gaveWay_iff_full (kept : s.Kept past) (room : 0 < s.capacity) (key : K)
    (value : Option V) (now : ℕ) :
    (s.insert key value now).1 = true ↔ key ∉ s.keys ∧ s.size = s.capacity := by
  obtain ⟨present, eq⟩ | ⟨absent, lt, eq⟩ | ⟨stay, last, absent, full, split, eq⟩ :=
    insert_cases value now key room kept.bounded
  · simp [eq, present]
  · simp [eq, lt.ne]
  · simp [eq, absent, full]

theorem Kept.mem_keys_insert (kept : s.Kept past) (room : 0 < s.capacity) (key : K)
    (value : Option V) (now : ℕ) (k : K) :
    k ∈ (s.insert key value now).2.keys ↔ k = key ∨
      k ∈ s.keys ∧ ¬(key ∉ s.keys ∧ s.size = s.capacity ∧ s.LeastRecent past k) := by
  obtain ⟨present, eq⟩ | ⟨absent, lt, eq⟩ | ⟨stay, last, absent, full, split, eq⟩ :=
    insert_cases value now key room kept.bounded
  · simp only [eq, keys_cons, List.mem_cons, mem_keys_others, present, not_true, false_and,
      not_false_iff, and_true]
    constructor
    · exact Or.imp id And.left
    · intro h
      exact (em (k = key)).imp id fun ne => ⟨h.resolve_left ne, ne⟩
  · simp only [eq, keys_cons, List.mem_cons, lt.ne, false_and, and_false, not_false_iff, and_true]
  · have once := kept.nodup
    rw [keys_concat split, List.nodup_append_comm, List.singleton_append, List.nodup_cons] at once
    simp only [eq, keys_cons, List.mem_cons, absent, not_false_iff, full, true_and,
      kept.leastRecent_iff split]
    rw [keys_concat split, List.mem_append, List.mem_singleton]
    refine or_congr_right ⟨fun mem => ⟨.inl mem, ?_⟩, fun ⟨mem, ne⟩ => mem.resolve_right ne⟩
    rintro rfl
    exact once.1 mem

theorem Kept.of_gone (kept : s.Kept past) (room : 0 < s.capacity) (mem : k ∈ s.keys)
    (gone : k ∉ (s.insert key value now).2.keys) :
    key ∉ s.keys ∧ s.size = s.capacity ∧ s.LeastRecent past k := by
  rw [kept.mem_keys_insert room] at gone
  exact not_not.mp fun stays => gone (.inr ⟨mem, stays⟩)

theorem Kept.exists_leastRecent (kept : s.Kept past) (filled : s.entries ≠ []) :
    ∃ k, s.LeastRecent past k :=
  ⟨_, (kept.leastRecent_iff (List.dropLast_concat_getLast filled).symm).mpr rfl⟩

theorem Kept.gaveWay_iff_gone (kept : s.Kept past) (room : 0 < s.capacity) (key : K)
    (value : Option V) (now : ℕ) :
    (s.insert key value now).1 = true ↔
      ∃ k ∈ s.keys, k ≠ key ∧ k ∉ (s.insert key value now).2.keys := by
  rw [kept.gaveWay_iff_full room]
  constructor
  · rintro ⟨absent, full⟩
    have filled : s.entries ≠ [] := List.ne_nil_of_length_pos (room.trans_eq full.symm)
    obtain ⟨k, least⟩ := kept.exists_leastRecent filled
    have ne : k ≠ key := by
      rintro rfl
      exact absent least.mem
    refine ⟨k, least.mem, ne, fun stays => ?_⟩
    rw [kept.mem_keys_insert room] at stays
    exact (stays.resolve_left ne).2 ⟨absent, full, least⟩
  · rintro ⟨k, mem, -, gone⟩
    obtain ⟨absent, full, -⟩ := kept.of_gone room mem gone
    exact ⟨absent, full⟩

/-- A key goes when as many other keys as there is room for have been used after it. -/
theorem Kept.patience (kept : s.Kept past) (room : 0 < s.capacity) (key : K) (value : Option V)
    (now : ℕ) (mem : k ∈ s.keys) (ne : k ≠ key) (gone : k ∉ (s.insert key value now).2.keys) :
    s.capacity ≤ (usedSince (⟨now, .insert key value, .inserted true⟩ :: past) k).toFinset.card := by
  obtain ⟨absent, full, least⟩ := kept.of_gone room mem gone
  -- The new key and all keys that stay have been used since, and these are as many as there is room.
  have once : (key :: s.keys.erase k).Nodup :=
    List.nodup_cons.mpr ⟨fun h => absent (List.mem_of_mem_erase h), kept.nodup.erase k⟩
  have count : (key :: s.keys.erase k).length = s.capacity := by
    have pos : 0 < s.keys.length := List.length_pos_of_mem mem
    have length_eq : s.keys.length = s.capacity := by rw [keys, List.length_map]; exact full
    rw [List.length_cons, List.length_erase_of_mem mem]
    omega
  rw [← count, ← List.toFinset_card_of_nodup once]
  refine Finset.card_le_card fun j hj => ?_
  rw [List.mem_toFinset] at hj ⊢
  rw [usedSince_of_used rfl (Ne.symm ne)]
  refine List.mem_cons.mpr ((List.mem_cons.mp hj).imp id fun h => ?_)
  have other := (kept.nodup.mem_erase_iff).mp h
  exact least.others j other.2 other.1

end

/-- What a bounded store with lifetimes that drops the least recent key says of its past, and of
any request that comes next. -/
structure Faithful (capacity ttl : ℕ) (past : List (Line K V)) (s : Store K V) : Prop where
  bounded : s.size ≤ capacity
  once : s.keys.Nodup
  hit : ∀ key now v, (s.read key now).1 = .hit v ↔
    key ∈ s.keys ∧ ∃ since, Cache.latest past key = some (v, since) ∧ now ≤ since + ttl
  expired : ∀ key now, (s.read key now).1 = .expired ↔
    key ∈ s.keys ∧ ∃ v since, Cache.latest past key = some (v, since) ∧ since + ttl < now
  reads : ∀ key now k, k ∈ (s.read key now).2.keys ↔
    k ∈ s.keys ∧ ((s.read key now).1 = .expired → k ≠ key)
  gone : ∀ key value now, (s.insert key value now).1 = true ↔
    ∃ k ∈ s.keys, k ≠ key ∧ k ∉ (s.insert key value now).2.keys
  full : ∀ key value now, (s.insert key value now).1 = true ↔ key ∉ s.keys ∧ s.size = capacity
  inserts : ∀ key value now k, k ∈ (s.insert key value now).2.keys ↔ k = key ∨
    k ∈ s.keys ∧ ¬(key ∉ s.keys ∧ s.size = capacity ∧ s.LeastRecent past k)
  patience : ∀ key value now, ∀ k ∈ s.keys, k ≠ key → k ∉ (s.insert key value now).2.keys →
    capacity ≤ (usedSince (⟨now, .insert key value, .inserted true⟩ :: past) k).toFinset.card
  removes : ∀ key k, k ∈ (s.remove key).keys ↔ k ∈ s.keys ∧ k ≠ key
  clears : s.clear.keys = []

theorem Kept.faithful {capacity ttl : ℕ} (kept : s.Kept past) (room : 0 < capacity)
    (capacity_eq : s.capacity = capacity) (ttl_eq : s.ttl = ttl) :
    s.Faithful capacity ttl past := by
  subst capacity_eq ttl_eq
  exact
    { bounded := kept.bounded
      once := kept.nodup
      hit := kept.hit_iff
      expired := kept.expired_iff
      reads := s.mem_keys_read
      gone := kept.gaveWay_iff_gone room
      full := kept.gaveWay_iff_full room
      inserts := kept.mem_keys_insert room
      patience := fun key value now _ mem ne gone => kept.patience room key value now mem ne gone
      removes := fun _ _ => mem_keys_others
      clears := rfl }

end

end Store

end

end PacedCalls.Cache
