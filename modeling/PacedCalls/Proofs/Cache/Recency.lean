import PacedCalls.Proofs.Cache.Chronicle

/-!
A store on top of a bounded table that keeps its keys by recency of use. Of the table only its laws
are known: a read or a write brings a key to the front, and a new key in a full table takes the
place of the one at the back. Under these laws such a store answers as the one that keeps its
entries itself, and both say of any past what is expected of them.
-/

set_option autoImplicit false

namespace PacedCalls.Cache

/-- The operations of a table of keys, the one that was used last in front. -/
structure Recency (K A C : Type) where
  empty : C
  contents : C → List (K × A)
  get : C → K → Option A × C
  push : C → K → A → Option (K × A) × C
  pop : C → K → C
  clear : C → C

namespace Recency

section

variable {K A C : Type} [DecidableEq K]

def without (l : List (K × A)) (key : K) : List (K × A) := l.filter (·.1 ≠ key)

/-- The laws of a table for so many keys, as long as it has every key once. -/
structure Lawful (t : Recency K A C) (capacity : ℕ) : Prop where
  empty : t.contents t.empty = []
  get_absent : ∀ c key, key ∉ (t.contents c).map (·.1) →
    (t.get c key).1 = none ∧ t.contents (t.get c key).2 = t.contents c
  get_present : ∀ c key a, ((t.contents c).map (·.1)).Nodup → (key, a) ∈ t.contents c →
    (t.get c key).1 = some a ∧
      t.contents (t.get c key).2 = (key, a) :: without (t.contents c) key
  push_present : ∀ c key old a, ((t.contents c).map (·.1)).Nodup → (key, old) ∈ t.contents c →
    (t.push c key a).1 = some (key, old) ∧
      t.contents (t.push c key a).2 = (key, a) :: without (t.contents c) key
  push_room : ∀ c key a, key ∉ (t.contents c).map (·.1) → (t.contents c).length < capacity →
    (t.push c key a).1 = none ∧ t.contents (t.push c key a).2 = (key, a) :: t.contents c
  push_full : ∀ c key a stay last, key ∉ (t.contents c).map (·.1) →
    (t.contents c).length = capacity → t.contents c = stay ++ [last] →
    (t.push c key a).1 = some last ∧ t.contents (t.push c key a).2 = (key, a) :: stay
  pop : ∀ c key, t.contents (t.pop c key) = without (t.contents c) key
  clear : ∀ c, t.contents (t.clear c) = []

end

section

variable {K V C : Type} [DecidableEq K]

omit [DecidableEq K] in
def read (t : Recency K (Option V × ℕ) C) (ttl : ℕ) (c : C) (key : K) (now : ℕ) : Reading V × C :=
  match t.get c key with
  | (none, c) => (.miss, c)
  | (some (value, since), c) =>
    if now - since ≤ ttl then (.hit value, c) else (.expired, t.pop c key)

/-- Another key had to give way if what comes back is not of the same key. -/
def insert (t : Recency K (Option V × ℕ) C) (c : C) (key : K) (value : Option V) (now : ℕ) :
    Bool × C :=
  match t.push c key (value, now) with
  | (none, c) => (false, c)
  | (some (old, _), c) => (old ≠ key, c)

def serve (t : Recency K (Option V × ℕ) C) (ttl : ℕ) (c : C) (now : ℕ) : Op K V → Answer V × C
  | .read key => (.reading (t.read ttl c key now).1, (t.read ttl c key now).2)
  | .insert key value => (.inserted (t.insert c key value now).1, (t.insert c key value now).2)
  | .remove key => (.done, t.pop c key)
  | .clear => (.done, t.clear c)

omit [DecidableEq K] in
def entries (l : List (K × Option V × ℕ)) : List (Entry K V) := l.map fun p => ⟨p.1, p.2.1, p.2.2⟩

omit [DecidableEq K] in
@[simp]
theorem entries_cons (key : K) (value : Option V) (since : ℕ) (l : List (K × Option V × ℕ)) :
    entries ((key, value, since) :: l) = ⟨key, value, since⟩ :: entries l := rfl

omit [DecidableEq K] in
theorem mem_entries {l : List (K × Option V × ℕ)} {e : Entry K V} :
    e ∈ entries l ↔ (e.key, e.value, e.since) ∈ l := by
  rw [entries, List.mem_map]
  exact ⟨fun ⟨_, mem, eq⟩ => eq ▸ mem, fun mem => ⟨_, mem, rfl⟩⟩

def Mirrors (t : Recency K (Option V × ℕ) C) (c : C) (s : Store K V) : Prop :=
  entries (t.contents c) = s.entries

variable {t : Recency K (Option V × ℕ) C} {c : C} {s : Store K V} {key : K}

omit [DecidableEq K] in
theorem Mirrors.keys (mirrors : t.Mirrors c s) : (t.contents c).map (·.1) = s.keys := by
  rw [Store.keys, ← mirrors, entries, List.map_map]
  rfl

omit [DecidableEq K] in
theorem Mirrors.length (mirrors : t.Mirrors c s) : (t.contents c).length = s.size := by
  rw [Store.size, ← mirrors, entries, List.length_map]

theorem Mirrors.others (mirrors : t.Mirrors c s) (key : K) :
    entries (without (t.contents c) key) = s.others key := by
  rw [Store.others, ← mirrors, entries, entries, List.filter_map]
  rfl

theorem without_cons_self (key : K) (a : Option V × ℕ) (l : List (K × Option V × ℕ)) :
    without ((key, a) :: without l key) key = without l key := by
  simp [without, List.filter_filter]

variable {capacity : ℕ} {past : List (Line K V)}

theorem Lawful.read (lawful : t.Lawful capacity) (mirrors : t.Mirrors c s) (once : s.keys.Nodup)
    (key : K) (now : ℕ) :
    (t.read s.ttl c key now).1 = (s.read key now).1 ∧
      t.Mirrors (t.read s.ttl c key now).2 (s.read key now).2 := by
  obtain ⟨absent, eq⟩ | ⟨e, mem, rfl, young, eq⟩ | ⟨e, mem, rfl, old, eq⟩ := s.read_cases key now
  · obtain ⟨none, same⟩ := lawful.get_absent c key (by rwa [mirrors.keys])
    rw [eq, Recency.read]
    generalize t.get c key = got at none same
    obtain ⟨_, c'⟩ := got
    subst none
    exact ⟨rfl, (congrArg entries same).trans mirrors⟩
  all_goals
    have present : (e.key, e.value, e.since) ∈ t.contents c := mem_entries.mp (mirrors ▸ mem)
    obtain ⟨some, front⟩ := lawful.get_present c _ _ (by rwa [mirrors.keys]) present
    rw [eq, Recency.read]
    generalize t.get c e.key = got at some front
    obtain ⟨_, c'⟩ := got
    subst some
  · have live : now - e.since ≤ s.ttl := by omega
    simp only [live, if_true, true_and]
    rw [Mirrors, front, entries_cons, mirrors.others]
  · -- The entry is dropped after the table has brought it to the front.
    have dead : ¬now - e.since ≤ s.ttl := by omega
    simp only [dead, if_false, true_and]
    rw [Mirrors, lawful.pop, front, without_cons_self, mirrors.others]

theorem Lawful.insert (lawful : t.Lawful capacity) (mirrors : t.Mirrors c s)
    (kept : s.Kept past) (room : 0 < s.capacity) (same : s.capacity = capacity) (key : K)
    (value : Option V) (now : ℕ) :
    (t.insert c key value now).1 = (s.insert key value now).1 ∧
      t.Mirrors (t.insert c key value now).2 (s.insert key value now).2 := by
  obtain ⟨present, eq⟩ | ⟨absent, lt, eq⟩ | ⟨stay, last, absent, full, split, eq⟩ :=
    Store.insert_cases value now key room kept.bounded
  · obtain ⟨e, mem, rfl⟩ := Store.mem_keys.mp present
    have found : (e.key, e.value, e.since) ∈ t.contents c := mem_entries.mp (mirrors ▸ mem)
    obtain ⟨some, front⟩ :=
      lawful.push_present c _ _ (value, now) (by rw [mirrors.keys]; exact kept.nodup) found
    rw [eq, Recency.insert]
    generalize t.push c e.key (value, now) = pushed at some front
    obtain ⟨_, c'⟩ := pushed
    subst some
    refine ⟨by simp, ?_⟩
    rw [Mirrors, front, entries_cons, mirrors.others]
  · obtain ⟨none, front⟩ := lawful.push_room c key (value, now) (by rwa [mirrors.keys])
      (by rwa [mirrors.length, ← same])
    rw [eq, Recency.insert]
    generalize t.push c key (value, now) = pushed at none front
    obtain ⟨_, c'⟩ := pushed
    subst none
    refine ⟨rfl, ?_⟩
    rw [Mirrors, front, entries_cons, mirrors]
  · have split' := mirrors.trans split
    rw [entries, List.map_eq_append_iff] at split'
    obtain ⟨front, back, contents_eq, rfl, back_eq⟩ := split'
    obtain ⟨p, rfl, rfl⟩ := List.map_eq_singleton_iff.mp back_eq
    obtain ⟨some, front⟩ := lawful.push_full c key (value, now) _ _ (by rwa [mirrors.keys])
      (by rw [mirrors.length, full, same]) contents_eq
    rw [eq, Recency.insert]
    generalize t.push c key (value, now) = pushed at some front
    obtain ⟨_, c'⟩ := pushed
    subst some
    have ne : p.1 ≠ key := by
      rintro rfl
      exact absent (Store.mem_keys.mpr ⟨⟨p.1, p.2.1, p.2.2⟩, by simp [split], rfl⟩)
    refine ⟨by simpa using ne, ?_⟩
    rw [Mirrors, front]
    rfl

theorem Lawful.serve (lawful : t.Lawful capacity) (mirrors : t.Mirrors c s) (kept : s.Kept past)
    (room : 0 < s.capacity) (same : s.capacity = capacity) (now : ℕ) (op : Op K V) :
    (t.serve s.ttl c now op).1 = (s.serve now op).1 ∧
      t.Mirrors (t.serve s.ttl c now op).2 (s.serve now op).2 := by
  cases op with
  | read key =>
    obtain ⟨answer, after⟩ := lawful.read mirrors kept.nodup key now
    exact ⟨congrArg Answer.reading answer, after⟩
  | insert key value =>
    obtain ⟨answer, after⟩ := lawful.insert mirrors kept room same key value now
    exact ⟨congrArg Answer.inserted answer, after⟩
  | remove key => exact ⟨rfl, (congrArg entries (lawful.pop c key)).trans (mirrors.others key)⟩
  | clear => exact ⟨rfl, congrArg entries (lawful.clear c)⟩

/-- A store over a table and one that keeps its entries itself, after the same requests. -/
structure Alike (t : Recency K (Option V × ℕ) C) (capacity ttl : ℕ) (laid : Chronicle C K V)
    (own : Chronicle (Store K V) K V) : Prop where
  past : laid.past = own.past
  mirrors : t.Mirrors laid.state own.state
  kept : own.state.Kept own.past
  capacity : own.state.capacity = capacity
  ttl : own.state.ttl = ttl

variable {ttl : ℕ} {laid : Chronicle C K V} {own : Chronicle (Store K V) K V}

theorem Alike.empty (lawful : t.Lawful capacity) (ttl : ℕ) :
    t.Alike capacity ttl ⟨t.empty, []⟩ ⟨⟨capacity, ttl, []⟩, []⟩ where
  past := rfl
  mirrors := congrArg entries lawful.empty
  kept := Store.Kept.empty capacity ttl
  capacity := rfl
  ttl := rfl

theorem Alike.next (alike : t.Alike capacity ttl laid own) (lawful : t.Lawful capacity)
    (room : 0 < capacity) (asked : ℕ × Op K V) :
    t.Alike capacity ttl (laid.next (t.serve ttl) asked) (own.next Store.serve asked) := by
  obtain ⟨past, mirrors, kept, rfl, rfl⟩ := alike
  obtain ⟨answer, after⟩ := lawful.serve mirrors kept room rfl asked.1 asked.2
  obtain ⟨capacity_eq, ttl_eq⟩ := own.state.serve_settings asked.1 asked.2
  refine ⟨?_, after, kept.serve room asked.1 asked.2, capacity_eq, ttl_eq⟩
  simp only [Chronicle.next, answer, past]

theorem Alike.play (alike : t.Alike capacity ttl laid own) (lawful : t.Lawful capacity)
    (room : 0 < capacity) (asked : List (ℕ × Op K V)) :
    t.Alike capacity ttl (laid.play (t.serve ttl) asked) (own.play Store.serve asked) := by
  induction asked generalizing laid own with
  | nil => exact alike
  | cons first rest ih => exact ih (alike.next lawful room first)

/-- Whatever is asked, a store over a lawful table gives the answers of the store that keeps its
entries itself, and holds the same in the same order; and what is held agrees with the past. -/
theorem faithful_over_table (t : Recency K (Option V × ℕ) C) {capacity : ℕ}
    (lawful : t.Lawful capacity) (room : 0 < capacity) (ttl : ℕ) (asked : List (ℕ × Op K V)) :
    let laid := Chronicle.play (t.serve ttl) ⟨t.empty, []⟩ asked
    let own := Chronicle.play Store.serve ⟨⟨capacity, ttl, []⟩, []⟩ asked
    laid.past = own.past ∧ t.Mirrors laid.state own.state ∧
      own.state.Faithful capacity ttl own.past := by
  have alike := (Alike.empty lawful ttl).play lawful room asked
  exact ⟨alike.past, alike.mirrors, alike.kept.faithful room alike.capacity alike.ttl⟩

end

section

variable {K A : Type} [DecidableEq K]

def ofList (capacity : ℕ) : Recency K A (List (K × A)) where
  empty := []
  contents := id
  get l key :=
    match l.find? (·.1 = key) with
    | none => (none, l)
    | some found => (some found.2, found :: without l key)
  push l key a :=
    match l.find? (·.1 = key) with
    | some old => (some old, (key, a) :: without l key)
    | none =>
      if l.length < capacity then (none, (key, a) :: l) else (l.getLast?, (key, a) :: l.dropLast)
  pop := without
  clear _ := []

theorem find?_eq_none {l : List (K × A)} {key : K} (absent : key ∉ l.map (·.1)) :
    l.find? (·.1 = key) = none := by
  rw [List.find?_eq_none]
  rintro p mem eq
  exact absent (List.mem_map.mpr ⟨p, mem, by simpa using eq⟩)

theorem find?_eq_some {l : List (K × A)} {key : K} {a : A} (once : (l.map (·.1)).Nodup)
    (mem : (key, a) ∈ l) : l.find? (·.1 = key) = some (key, a) := by
  obtain ⟨p, found⟩ : ∃ p, l.find? (·.1 = key) = some p :=
    Option.isSome_iff_exists.mp (List.find?_isSome.mpr ⟨(key, a), mem, by simp⟩)
  have key_eq : p.1 = key := by simpa using List.find?_some found
  rw [found, List.inj_on_of_nodup_map once (List.mem_of_find?_eq_some found) mem key_eq]

theorem ofList_lawful (capacity : ℕ) : (ofList capacity : Recency K A _).Lawful capacity where
  empty := rfl
  get_absent l key absent := by
    have none : l.find? (·.1 = key) = none := find?_eq_none absent
    simp only [ofList, none, id, and_self]
  get_present l key a once mem := by
    have some : l.find? (·.1 = key) = some (key, a) := find?_eq_some once mem
    simp only [ofList, some, id, and_self]
  push_present l key old a once mem := by
    have some : l.find? (·.1 = key) = some (key, old) := find?_eq_some once mem
    simp only [ofList, some, id, and_self]
  push_room l key a absent lt := by
    have none : l.find? (·.1 = key) = none := find?_eq_none absent
    have lt : l.length < capacity := lt
    simp only [ofList, none, lt, if_true, id, and_self]
  push_full l key a stay last absent full split := by
    have none : l.find? (·.1 = key) = none := find?_eq_none absent
    have full : ¬l.length < capacity := Nat.not_lt.mpr (Nat.le_of_eq (Eq.symm full))
    have split : l = stay ++ [last] := split
    simp only [ofList, none, full, if_false, id]
    simp [split]
  pop _ _ := rfl
  clear _ := rfl

end

/-- A read keeps the first key in a full store, so that the second gives way to the third; and the
first key goes when it is too old. -/
def dayOfUse : List (ℕ × Op ℕ ℕ) :=
  [(0, .insert 1 (some 10)), (2, .insert 2 none), (4, .read 1), (6, .insert 3 (some 30)),
    (8, .read 2), (9, .insert 3 none), (10, .read 1), (11, .read 1), (11, .read 3)]

theorem faithful_over_table_dayOfUse :
    let laid := Chronicle.play ((ofList 2).serve 10) ⟨(ofList 2).empty, []⟩ dayOfUse
    let own := Chronicle.play Store.serve ⟨⟨2, 10, []⟩, []⟩ dayOfUse
    (laid.past.reverse.map (·.answer) =
        [.inserted false, .inserted false, .reading (.hit (some 10)), .inserted true,
          .reading .miss, .inserted false, .reading (.hit (some 10)), .reading .expired,
          .reading (.hit none)] ∧
      own.state.entries = [⟨3, none, 9⟩]) ∧
    laid.past = own.past ∧ (ofList 2).Mirrors laid.state own.state ∧
      own.state.Faithful 2 10 own.past :=
  ⟨by decide +kernel, faithful_over_table (ofList 2) (ofList_lawful 2) (by decide) 10 dayOfUse⟩

end Recency

end PacedCalls.Cache
