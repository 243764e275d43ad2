/-!
A bounded store of results. Entries are kept in order of use, the one used last at the front; the
one at the back gives way when the store is full, and an entry past its lifetime is dropped when
it is read.
-/

set_option autoImplicit false

namespace PacedCalls.Cache

/-- A stored result: a value, or a confirmed absence, and when it was stored. -/
structure Entry (K V : Type) where
  key : K
  value : Option V
  since : Nat
  deriving DecidableEq, Repr

inductive Reading (V : Type) where
  | hit (value : Option V)
  | miss
  | expired
  deriving DecidableEq, Repr

structure Store (K V : Type) where
  capacity : Nat
  ttl : Nat
  entries : List (Entry K V) := []
  deriving DecidableEq, Repr

namespace Store

variable {K V : Type} [DecidableEq K]

def find? (s : Store K V) (key : K) : Option (Entry K V) := s.entries.find? (·.key = key)

def others (s : Store K V) (key : K) : List (Entry K V) := s.entries.filter (·.key ≠ key)

omit [DecidableEq K] in
def live (s : Store K V) (e : Entry K V) (now : Nat) : Bool := now - e.since ≤ s.ttl

def read (s : Store K V) (key : K) (now : Nat) : Reading V × Store K V :=
  match s.find? key with
  | none => (.miss, s)
  | some e =>
    if s.live e now then (.hit e.value, { s with entries := e :: s.others key })
    else (.expired, { s with entries := s.others key })

def insert (s : Store K V) (key : K) (value : Option V) (now : Nat) : Bool × Store K V :=
  let e : Entry K V := { key := key, value := value, since := now }
  match s.find? key with
  | some _ => (false, { s with entries := e :: s.others key })
  | none =>
    if s.entries.length < s.capacity then (false, { s with entries := e :: s.entries })
    else (true, { s with entries := e :: s.entries.take (s.capacity - 1) })

def remove (s : Store K V) (key : K) : Store K V := { s with entries := s.others key }

omit [DecidableEq K] in
def clear (s : Store K V) : Store K V := { s with entries := [] }

omit [DecidableEq K] in
def size (s : Store K V) : Nat := s.entries.length

theorem find?_remove (s : Store K V) (key k : K) :
    (s.remove key).find? k = if k = key then none else s.find? k := by
  unfold remove find? others
  induction s.entries with
  | nil => by_cases h : k = key <;> simp [h]
  | cons e rest ih =>
    by_cases he : e.key = key <;> by_cases h : k = key <;> by_cases hk : e.key = k <;>
      simp_all [List.filter, List.find?]

theorem exists_of_hit {s : Store K V} {key : K} {now : Nat} {value : Option V}
    (h : (s.read key now).1 = .hit value) :
    ∃ e ∈ s.entries, e.key = key ∧ e.value = value ∧ now ≤ e.since + s.ttl := by
  unfold read at h
  split at h
  · cases h
  · next e he =>
    split at h
    · next hl =>
      cases h
      have hkey : e.key = key := by simpa using List.find?_some he
      have hlive : now - e.since ≤ s.ttl := by simpa [live] using hl
      exact ⟨e, List.mem_of_find?_eq_some he, hkey, rfl, by omega⟩
    · cases h

theorem read_ttl (s : Store K V) (key : K) (now : Nat) : (s.read key now).2.ttl = s.ttl := by
  unfold read
  split
  · rfl
  · split <;> rfl

theorem insert_ttl (s : Store K V) (key : K) (value : Option V) (now : Nat) :
    (s.insert key value now).2.ttl = s.ttl := by
  unfold insert
  split
  · rfl
  · split <;> rfl

theorem mem_of_mem_read {s : Store K V} {key : K} {now : Nat} {e : Entry K V}
    (h : e ∈ (s.read key now).2.entries) : e ∈ s.entries := by
  unfold read at h
  split at h
  · exact h
  · next found hf =>
    have hm := List.mem_of_find?_eq_some hf
    split at h <;> simp only [others, List.mem_cons, List.mem_filter] at h <;> grind

theorem mem_insert {s : Store K V} {key : K} {value : Option V} {now : Nat} {e : Entry K V}
    (h : e ∈ (s.insert key value now).2.entries) :
    e = { key := key, value := value, since := now } ∨ e ∈ s.entries ∧ e.key ≠ key := by
  unfold insert at h
  split at h
  · simp only [others, List.mem_cons, List.mem_filter, decide_eq_true_eq] at h
    exact h
  · next hn =>
    have absent : ∀ e ∈ s.entries, e.key ≠ key := by simpa [find?] using hn
    split at h
    · exact (List.mem_cons.mp h).imp id fun hm => ⟨hm, absent e hm⟩
    · exact (List.mem_cons.mp h).imp id fun hm =>
        ⟨List.mem_of_mem_take hm, absent e (List.mem_of_mem_take hm)⟩

theorem mem_remove {s : Store K V} {key : K} {e : Entry K V} :
    e ∈ (s.remove key).entries ↔ e ∈ s.entries ∧ e.key ≠ key := by
  simp [remove, others]

end Store

end PacedCalls.Cache
