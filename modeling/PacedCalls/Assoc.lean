set_option autoImplicit false

namespace PacedCalls.Assoc

variable {α β : Type} [BEq α] [LawfulBEq α]

theorem lookup_cons_eq (a k : α) (b : β) (rest : List (α × β)) [Decidable (a = k)] :
    ((k, b) :: rest).lookup a = if a = k then some b else rest.lookup a := by
  by_cases h : a = k
  · subst h
    simp
  · have hk : (a == k) = false := by simpa using h
    simp [List.lookup_cons, hk, h]

theorem mem_of_lookup {l : List (α × β)} {a : α} {b : β} (h : l.lookup a = some b) : (a, b) ∈ l := by
  obtain ⟨before, after, rfl, -⟩ := List.lookup_eq_some_iff.mp h
  simp

theorem lookup_of_mem {l : List (α × β)} {a : α} {b : β} (hk : (l.map (·.1)).Nodup)
    (h : (a, b) ∈ l) : l.lookup a = some b := by
  induction l with
  | nil => cases h
  | cons p rest ih =>
    rw [List.map_cons, List.nodup_cons] at hk
    rcases List.mem_cons.mp h with rfl | h
    · simp
    · have hne : (a == p.1) = false := by
        rw [beq_eq_false_iff_ne]
        rintro rfl
        exact hk.1 (List.mem_map.mpr ⟨_, h, rfl⟩)
      rw [List.lookup_cons, hne]
      exact ih hk.2 h

theorem isSome_lookup {l : List (α × β)} {a : α} : (l.lookup a).isSome ↔ a ∈ l.map (·.1) := by
  constructor
  · intro h
    obtain ⟨b, hb⟩ := Option.isSome_iff_exists.mp h
    exact List.mem_map.mpr ⟨(a, b), mem_of_lookup hb, rfl⟩
  · intro h
    obtain ⟨p, hp, rfl⟩ := List.mem_map.mp h
    rw [← Option.ne_none_iff_isSome]
    intro absent
    simpa using List.lookup_eq_none_iff.mp absent p hp

end PacedCalls.Assoc
