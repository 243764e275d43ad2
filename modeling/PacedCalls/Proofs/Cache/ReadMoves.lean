import PacedCalls.Proofs.Cache.Moves
import PacedCalls.Proofs.Cache.Operations

set_option autoImplicit false

namespace PacedCalls.Cache

section

variable {K L B : Type}

def Read.key : Read K L → K
  | .looking key _ => key
  | .claiming key _ => key
  | .loading g _ => g.key
  | .waiting key _ => key

def Part.key : Part K L → K
  | .watching key _ => key
  | .reading key _ => key

/-- A key that is read anew is the one that was waited for. -/
def Part.Whole : Part K L → Prop
  | .watching _ _ => True
  | .reading key read => read.key = key

def Chunk.keys (chunk : Chunk K B) : List K := chunk.guards.map (·.key)

end

section

variable {R K V E σ L B : Type} [DecidableEq K] {loader : Loader (Event R) K V E σ L B}

namespace Read

theorem claim_goes {now : Nat} {key : K} {missed : Bool} {read : Read K L} {s s' : State K V E}
    {w w' : σ} {events : List (Event R)}
    (h : (process loader).move now (.claiming key missed) (s, w) = .goes read (s', w') events)
    (l : List (Landing K V E)) (rest : Multiset (Holding K V E)) :
    read.key = key ∧ Acts now ⟨s, l⟩ rest [] ⟨s', l⟩ (read.held + rest) := by
  obtain ⟨g, s₁, hc, rfl, rfl, -⟩ | ⟨flight, s₁, hc, rfl, rfl, -⟩ := claiming_goes h
  · refine ⟨State.claim_owner_key hc, ?_⟩
    have acts := State.claim_acts hc l rest
    split
    · exact acts.tallied _
    · exact (acts.tallied _).tallied _
  · refine ⟨rfl, ?_⟩
    have acts := State.claim_acts hc l rest
    split
    · exact acts.tallied _
    · exact (acts.tallied _).tallied _

theorem goes {now : Nat} {read read' : Read K L} {s s' : State K V E} {w w' : σ}
    {events : List (Event R)}
    (h : (process loader).move now read (s, w) = .goes read' (s', w') events)
    (l : List (Landing K V E)) (rest : Multiset (Holding K V E)) :
    read'.key = read.key ∧ Acts now ⟨s, l⟩ (read.held + rest) [] ⟨s', l⟩ (read'.held + rest) := by
  cases read with
  | looking key missed =>
    obtain ⟨hr, rfl, -⟩ := looking_goes h
    exact ⟨rfl, by simpa [held] using State.readStore_none_acts hr l rest⟩
  | claiming key missed =>
    have none_ : (claiming key missed : Read K L).held = (0 : Multiset (Holding K V E)) := rfl
    rw [none_, zero_add]
    exact claim_goes h l rest
  | loading g st =>
    obtain ⟨st', -, rfl, rfl⟩ := loading_goes h
    exact ⟨rfl, .done _ _⟩
  | waiting key flight =>
    obtain ⟨-, rfl, rfl, -⟩ := waiting_goes h
    exact ⟨rfl, .single (.forget _ (.wait key flight) rfl) rest⟩

theorem ends {now : Nat} {read : Read K L} {answer : Lookup V E} {s s' : State K V E} {w w' : σ}
    {events : List (Event R)}
    (h : (process loader).move now read (s, w) = .ends answer (s', w') events)
    (l : List (Landing K V E)) {rest : Multiset (Holding K V E)} (hr : Covered rest) :
    Acts now ⟨s, l⟩ (read.held + rest) (read.gains (origin l) answer)
      ⟨s', landed now (read.gains (origin l) answer) l⟩ ({.answer read.key answer} + rest) := by
  cases read with
  | looking key missed =>
    obtain ⟨hr, -⟩ := looking_ends h
    simp only [held, gains, landed_stored_one, zero_add]
    simpa [answersHeld, Read.key] using State.readStore_acts hr l rest
  | claiming key missed =>
    obtain ⟨hc, -⟩ := claiming_ends h
    simp only [held, gains, landed_stored_one, zero_add]
    exact State.claim_acts hc l rest
  | loading g st =>
    obtain ⟨more, -, rfl⟩ := loading_ends h
    exact s.settle_acts g answer now l hr
  | waiting key flight =>
    obtain ⟨landed, rfl, -⟩ := waiting_ends h
    exact .single (.observe s' l key flight answer landed) rest

theorem leaves {read : Read K L} {s s' : State K V E} {w w' : σ}
    (h : (process loader).abandon read (s, w) = (s', w')) (now : Nat) (l : List (Landing K V E))
    {rest : Multiset (Holding K V E)} (hr : Covered rest) :
    Acts now ⟨s, l⟩ (read.held + rest) [] ⟨s', l⟩ rest := by
  cases read with
  | looking key missed =>
    cases h
    simpa [held] using Acts.done _ _
  | claiming key missed =>
    cases h
    simpa [held] using Acts.done _ _
  | loading g st =>
    cases h
    have start : ((loading g st : Read K L).held + rest : Multiset (Holding K V E)) =
        {.load g} + ({.guard g} + rest) := by
      simp only [held]
      abel
    rw [start]
    exact Acts.before (.single (.forget _ (.load g) rfl) _)
      (by simpa using Acts.retire g hr (.done _ _))
  | waiting key flight =>
    cases h
    simpa [held] using Acts.single (Act.forget _ (.wait key flight) rfl) rest

omit [DecidableEq K] in
theorem covered_held (read : Read K L) : Covered (read.held : Multiset (Holding K V E)) := by
  cases read with
  | looking key missed => exact covered_zero
  | claiming key missed => exact covered_zero
  | loading g st => exact le_refl _
  | waiting key flight => exact covered_of_loadsOf rfl

end Read

namespace Part

theorem goes {now : Nat} {part part' : Part K L} {s s' : State K V E} {w w' : σ}
    {events : List (Event R)}
    (h : (process loader).move now part (s, w) = .goes part' (s', w') events)
    (hw : part.Whole) (l : List (Landing K V E)) (rest : Multiset (Holding K V E)) :
    part'.Whole ∧ part'.key = part.key ∧
      Acts now ⟨s, l⟩ (part.held + rest) [] ⟨s', l⟩ (part'.held + rest) := by
  cases part with
  | watching key flight =>
    obtain ⟨-, rfl, rfl, -⟩ := watching_goes h
    exact ⟨rfl, rfl, .single (.forget _ (.wait key flight) rfl) rest⟩
  | reading key read =>
    obtain ⟨read', moves, rfl⟩ := reading_goes h
    obtain ⟨hkey, acts⟩ := Read.goes moves l rest
    exact ⟨hkey.trans hw, rfl, acts⟩

theorem ends {now : Nat} {part : Part K L} {found : K × Lookup V E} {s s' : State K V E}
    {w w' : σ} {events : List (Event R)}
    (h : (process loader).move now part (s, w) = .ends found (s', w') events)
    (hw : part.Whole) (l : List (Landing K V E)) {rest : Multiset (Holding K V E)}
    (hr : Covered rest) :
    found.1 = part.key ∧
      Acts now ⟨s, l⟩ (part.held + rest) (part.gains (origin l) found)
        ⟨s', landed now (part.gains (origin l) found) l⟩ ({.answer found.1 found.2} + rest) := by
  cases part with
  | watching key flight =>
    obtain ⟨answer, landed, rfl, rfl, -⟩ := watching_ends h
    exact ⟨rfl, .single (.observe s' l key flight answer landed) rest⟩
  | reading key read =>
    obtain ⟨answer, moves, rfl⟩ := reading_ends h
    have acts := Read.ends moves l hr
    rw [show read.key = key from hw] at acts
    exact ⟨rfl, acts⟩

theorem leaves {part : Part K L} {s s' : State K V E} {w w' : σ}
    (h : (process loader).abandon part (s, w) = (s', w')) (now : Nat) (l : List (Landing K V E))
    {rest : Multiset (Holding K V E)} (hr : Covered rest) :
    Acts now ⟨s, l⟩ (part.held + rest) [] ⟨s', l⟩ rest := by
  cases part with
  | watching key flight =>
    cases h
    simpa [held] using Acts.single (Act.forget _ (.wait key flight) rfl) rest
  | reading key read => exact Read.leaves h now l hr

omit [DecidableEq K] in
theorem covered_held (part : Part K L) : Covered (part.held : Multiset (Holding K V E)) := by
  cases part with
  | watching key flight => exact covered_of_loadsOf rfl
  | reading key read => exact read.covered_held

end Part

namespace Chunk

theorem goes {now : Nat} {chunk chunk' : Chunk K B} {s s' : State K V E} {w w' : σ}
    {events : List (Event R)}
    (h : (process loader).move now chunk (s, w) = .goes chunk' (s', w') events) :
    chunk'.guards = chunk.guards ∧ s' = s := by
  obtain ⟨b, -, rfl, rfl⟩ := move_goes h
  exact ⟨rfl, rfl⟩

theorem ends {now : Nat} {chunk : Chunk K B} {found : List (K × Lookup V E)} {s s' : State K V E}
    {w w' : σ} {events : List (Event R)}
    (h : (process loader).move now chunk (s, w) = .ends found (s', w') events)
    (l : List (Landing K V E)) (rest : Multiset (Holding K V E)) :
    found.map (·.1) = chunk.keys ∧
      Acts now ⟨s, l⟩ (loadsHeld chunk.guards + rest) (gains chunk.guards found)
        ⟨s', landed now (gains chunk.guards found) l⟩ (answersHeld found + rest) := by
  obtain ⟨values, more, -, settled⟩ | ⟨e, more, -, settled⟩ := move_ends h
  · exact State.settleChunk_acts settled l rest
  · obtain ⟨hkeys, acts⟩ := State.settleChunk_acts settled l rest
    exact ⟨hkeys, Acts.before (s.count_acts _ now l _) acts⟩

end Chunk

end

end PacedCalls.Cache
