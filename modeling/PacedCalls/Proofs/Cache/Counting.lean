import PacedCalls.Proofs.Cache.Looks
import PacedCalls.Proofs.Cache.Turns

/-!
How often a read is counted. Each of its first looks counts if it answers its position, and every
other key is counted when it is claimed; that is all, unless the read has to look again: a read of
one key whose flight was lost counts again if it then finds the key stored, and a read of many keys
counts a key anew whenever a flight that it has joined is lost.
-/

set_option autoImplicit false

namespace PacedCalls.Cache

section

variable {R K V E σ L B : Type}

def State.reads (s : State K V E) : ℕ := s.stats.hits + s.stats.misses

variable [DecidableEq K]

/-- With its next move a read that has been counted comes to be counted again. -/
def Reader.Recounts (loader : Loader (Event R) K V E σ L B) (now : ℕ) (w : State K V E × σ) :
    Reader K V E L B → Prop
  | .one (.looking key true) => w.1.peek now key ≠ none
  | .one (.claiming key true) => w.1.peek now key ≠ none
  | .many (.joining _ _ _ parts) => ∃ key flight,
      (Part.process loader).mover now w parts = some (.watching key flight) ∧
        w.1.flight flight = .lost
  | _ => False

def Turn.Recounts (loader : Loader (Event R) K V E σ L B) (t : Turn K V E σ L B) : Prop :=
  t.reader.Recounts loader t.now (t.cache, t.world)

def Turn.counts (loader : Loader (Event R) K V E σ L B) (t : Turn K V E σ L B) : ℕ :=
  (t.after loader).reads - t.cache.reads

def Turn.counted (loader : Loader (Event R) K V E σ L B) (turns : List (Turn K V E σ L B)) : ℕ :=
  (turns.map (counts loader)).sum

def Turn.Clean (loader : Loader (Event R) K V E σ L B) (turns : List (Turn K V E σ L B)) : Prop :=
  ∀ t ∈ turns, ¬ t.Recounts loader

/-- What is to be counted of a read: the positions that its first looks have answered, and the
other keys, each once. -/
def ReadAll.due (keys : List K) (slots : List (Option (Lookup V E))) : ℕ :=
  slots.countP (·.isSome) + (missing keys slots).length

end

section

variable {K V E L B : Type}

def Read.owed : Read K L → ℕ
  | .looking _ false => 1
  | .claiming _ false => 1
  | _ => 0

def Read.ahead : Read K L → ℕ
  | .looking _ false => 1
  | _ => 0

def ReadAll.Owes (parts : List (Part K L ⊕ (K × Lookup V E))) : Prop :=
  ∃ key read, .inl (.reading key read) ∈ parts ∧ read.owed = 1

end

section

variable {K V E : Type} [DecidableEq K]

namespace State

variable (s : State K V E)

theorem readStore_reads (key : K) (now : ℕ) :
    (s.readStore key now).2.reads = s.reads + (s.peek now key).isSome.toNat := by
  obtain ⟨e, -, -, -, eq⟩ | ⟨-, eq⟩ | ⟨e, -, -, -, eq⟩ := s.readStore_cases key now
  · simp only [peek, eq]
    exact Nat.add_right_comm ..
  · simp only [peek, eq]
    rfl
  · simp only [peek, eq]
    rfl

theorem claim_reads {s s' : State K V E} {key : K} {now : ℕ} {c : Claim K V E}
    (h : s.claim key now = (c, s')) : s'.reads = s.reads + (s.peek now key).isSome.toNat := by
  rw [peek_of_claim h]
  simp only [claim] at h
  split at h
  · cases h
    exact Nat.add_right_comm ..
  · split at h <;> cases h <;> rfl

theorem countClaim_reads {s s' : State K V E} {key : K} {now : ℕ} {c : Claim K V E}
    (h : s.claim key now = (c, s')) : (s'.countClaim c).reads = s.reads + 1 := by
  have reads := claim_reads h
  rw [peek_of_claim h] at reads
  cases c with
  | stored a => exact reads
  | owner g => exact congrArg (· + 1) reads
  | joined flight => exact congrArg (· + 1) reads

@[simp]
theorem insert_reads (key : K) (value : Option V) (now : ℕ) :
    (s.insert key value now).reads = s.reads := by
  simp only [reads, insert_stats]

@[simp]
theorem settle_reads (g : Guard K) (result : Lookup V E) (now : ℕ) :
    (s.settle g result now).reads = s.reads := by
  simp only [reads, settle_stats]
  split <;> simp only [insert_stats]

@[simp]
theorem settleChunk_reads (now : ℕ) (result : Except E (List (K × V))) (guards : List (Guard K)) :
    (s.settleChunk now result guards).2.reads = s.reads := by
  induction guards generalizing s with
  | nil => rfl
  | cons g rest ih =>
    cases result with
    | ok found => exact (ih _).trans (s.insert_reads g.key _ now)
    | error e => exact ih _

@[simp]
theorem retireAll_reads (guards : List (Guard K)) : (s.retireAll guards).reads = s.reads := by
  simp only [reads, retireAll_stats]

end State

end

section

variable {R K V E σ L B : Type} [DecidableEq K] {loader : Loader (Event R) K V E σ L B} {now : ℕ}
  {s s' : State K V E} {w w' : σ} {events : List (Event R)}

theorem Read.goes_reads {read read' : Read K L}
    (h : (process loader).move now read (s, w) = .goes read' (s', w') events) :
    s.reads ≤ s'.reads ∧ s'.reads + read'.owed = s.reads + read.owed ∧
      ¬ (Reader.one read : Reader K V E L B).Recounts loader now (s, w) ∧
      ((Reader.one read : Reader K V E L B).found? s now).toList.length + read'.ahead =
        read.ahead := by
  cases read with
  | looking key missed =>
    obtain ⟨hr, rfl, -⟩ := looking_goes h
    have none_ : s.peek now key = none := by rw [State.peek, hr]
    have reads := s.readStore_reads key now
    rw [hr, none_] at reads
    have reads : s'.reads = s.reads := reads
    cases missed with
    | true => exact ⟨reads.ge, congrArg (· + 0) reads, fun found => found none_, rfl⟩
    | false => exact ⟨reads.ge, congrArg (· + 1) reads, id, rfl⟩
  | claiming key missed =>
    have counts {s₁ : State K V E} {c : Claim K V E} (hc : s.claim key now = (c, s₁))
        (open_ : ∀ a, c ≠ .stored a) : s.peek now key = none ∧ s₁.reads = s.reads := by
      have none_ : s.peek now key = none := by
        rw [State.peek_of_claim hc]
        cases c with
        | stored a => exact absurd rfl (open_ a)
        | _ => rfl
      have reads := State.claim_reads hc
      rw [none_] at reads
      exact ⟨none_, reads⟩
    obtain ⟨g, s₁, hc, rfl, rfl, -⟩ | ⟨flight, s₁, hc, rfl, rfl, -⟩ := claiming_goes h
    all_goals
      obtain ⟨none_, reads⟩ := counts hc (by simp)
      have more : s.reads ≤ s₁.reads + 1 := reads ▸ Nat.le_succ _
      cases missed with
      | true => exact ⟨reads.ge, congrArg (· + 0) reads, fun found => found none_, rfl⟩
      | false => exact ⟨more, congrArg (· + 1) reads, id, rfl⟩
  | loading g l =>
    obtain ⟨l', -, rfl, rfl⟩ := loading_goes h
    exact ⟨le_rfl, rfl, id, rfl⟩
  | waiting key flight =>
    obtain ⟨-, rfl, rfl, -⟩ := waiting_goes h
    exact ⟨le_rfl, rfl, id, rfl⟩

theorem Read.ends_reads {read : Read K L} {answer : Lookup V E}
    (h : (process loader).move now read (s, w) = .ends answer (s', w') events) :
    s.reads ≤ s'.reads ∧
      ((Reader.one read : Reader K V E L B).found? s now).toList.length = read.ahead ∧
      (((Reader.one read : Reader K V E L B).Recounts loader now (s, w) ∧ read.owed = 0 ∧
          s'.reads = s.reads + 1) ∨
        ¬ (Reader.one read : Reader K V E L B).Recounts loader now (s, w) ∧
          s'.reads = s.reads + read.owed) := by
  cases read with
  | looking key missed =>
    obtain ⟨hr, -⟩ := looking_ends h
    have found : s.peek now key = some answer := by rw [State.peek, hr]
    have reads := s.readStore_reads key now
    rw [hr, found] at reads
    have some_ : s.peek now key ≠ none := by simp [found]
    have more : s.reads ≤ s'.reads := reads ▸ Nat.le_succ _
    cases missed with
    | true => exact ⟨more, rfl, .inl ⟨some_, rfl, reads⟩⟩
    | false => exact ⟨more, rfl, .inr ⟨id, reads⟩⟩
  | claiming key missed =>
    obtain ⟨hc, -⟩ := claiming_ends h
    have found : s.peek now key = some answer := State.peek_of_claim hc
    have reads := State.claim_reads hc
    rw [found] at reads
    have some_ : s.peek now key ≠ none := by simp [found]
    have more : s.reads ≤ s'.reads := reads ▸ Nat.le_succ _
    cases missed with
    | true => exact ⟨more, rfl, .inl ⟨some_, rfl, reads⟩⟩
    | false => exact ⟨more, rfl, .inr ⟨id, reads⟩⟩
  | loading g l =>
    obtain ⟨more, -, rfl⟩ := loading_ends h
    have reads := s.settle_reads g answer now
    exact ⟨reads.ge, rfl, .inr ⟨id, reads⟩⟩
  | waiting key flight =>
    obtain ⟨-, rfl, -⟩ := waiting_ends h
    exact ⟨le_rfl, rfl, .inr ⟨id, rfl⟩⟩

theorem Chunk.ends_reads {chunk : Chunk K B} {found : List (K × Lookup V E)}
    (h : (process loader).move now chunk (s, w) = .ends found (s', w') events) :
    s'.reads = s.reads := by
  obtain ⟨values, more, -, settled⟩ | ⟨e, more, -, settled⟩ := move_ends h
  · have reads := s.settleChunk_reads now (.ok values) chunk.guards
    rw [settled] at reads
    exact reads
  · have reads := s.countLoadFailure.settleChunk_reads now (.error e) chunk.guards
    rw [settled] at reads
    exact reads

theorem Part.goes_le {part part' : Part K L}
    (h : (process loader).move now part (s, w) = .goes part' (s', w') events) :
    s.reads ≤ s'.reads := by
  cases part with
  | watching key flight =>
    obtain ⟨-, -, rfl, -⟩ := watching_goes h
    exact le_rfl
  | reading key read =>
    obtain ⟨read', moves, -⟩ := reading_goes h
    exact (Read.goes_reads (B := B) moves).1

theorem Part.ends_le {part : Part K L} {found : K × Lookup V E}
    (h : (process loader).move now part (s, w) = .ends found (s', w') events) :
    s.reads ≤ s'.reads := by
  cases part with
  | watching key flight =>
    obtain ⟨answer, -, -, rfl, -⟩ := watching_ends h
    exact le_rfl
  | reading key read =>
    obtain ⟨answer, moves, -⟩ := reading_ends h
    exact (Read.ends_reads (B := B) moves).1

namespace ReadAll

variable {keys : List K} {slots : List (Option (Lookup V E))} {resolved : List (K × Lookup V E)}
  {parts parts' : List (Part K L ⊕ (K × Lookup V E))}

theorem chunks_reads {chunks chunks' : List (Chunk K B ⊕ List (K × Lookup V E))}
    (h : (Chunk.process loader).all.move now chunks (s, w) = .goes chunks' (s', w') events) :
    s'.reads = s.reads := by
  obtain ⟨-, -, chunk, chunk', -, -, move⟩ | ⟨-, -, chunk, found, -, -, move⟩ := Process.all_goes h
  · rw [(Chunk.goes move).2]
  · exact Chunk.ends_reads move

theorem parts_le
    (h : (Part.process loader).all.move now parts (s, w) = .goes parts' (s', w') events) :
    s.reads ≤ s'.reads := by
  obtain ⟨-, -, part, part', -, -, move⟩ | ⟨-, -, part, found, -, -, move⟩ := Process.all_goes h
  · exact Part.goes_le move
  · exact Part.ends_le move

theorem parts_paid
    (h : (Part.process loader).all.move now parts (s, w) = .goes parts' (s', w') events)
    (paid : ∀ key read, .inl (.reading key read) ∉ parts) :
    s'.reads = s.reads ∧
      (((Reader.many (.joining keys slots resolved parts) : Reader K V E L B).Recounts loader now
            (s, w) ∧ Owes parts') ∨
        ¬ (Reader.many (.joining keys slots resolved parts) : Reader K V E L B).Recounts loader now
            (s, w) ∧ ∀ key read, .inl (.reading key read) ∉ parts') := by
  obtain ⟨before, part, after, rfl, turn, moved⟩ :=
    Process.mover_of_moveFirst (Process.moveFirst_of_all h)
  cases part with
  | reading key read => exact absurd (by simp) (paid key read)
  | watching key flight =>
    simp only [Reader.Recounts, turn, Option.some.injEq, Part.watching.injEq]
    obtain ⟨part', rfl, move⟩ | ⟨found, rfl, move⟩ := moved
    · obtain ⟨lost, rfl, rfl, -⟩ := Part.watching_goes move
      exact ⟨rfl, .inl ⟨⟨key, flight, ⟨rfl, rfl⟩, lost⟩, key, .start key, by simp, rfl⟩⟩
    · obtain ⟨answer, landed, -, rfl, -⟩ := Part.watching_ends move
      refine ⟨rfl, .inr ⟨?_, fun k read hm => paid k read ?_⟩⟩
      · rintro ⟨k, f, ⟨rfl, rfl⟩, lost⟩
        cases landed.symm.trans lost
      · simpa using hm

theorem parts_owe
    (h : (Part.process loader).all.move now parts (s, w) = .goes parts' (s', w') events)
    (owes : Owes parts) : s.reads < s'.reads ∨ Owes parts' := by
  obtain ⟨key, read, hm, owed⟩ := owes
  obtain ⟨before, after, part, part', rfl, rfl, move⟩ |
    ⟨before, after, part, found, rfl, rfl, move⟩ := Process.all_goes h
  · by_cases mine : part = .reading key read
    · subst mine
      obtain ⟨read', moves, rfl⟩ := Part.reading_goes move
      obtain ⟨-, reads, -⟩ := Read.goes_reads (B := B) moves
      by_cases still : read'.owed = 1
      · exact .inr ⟨key, read', by simp, still⟩
      · have small : read'.owed ≤ 1 := by cases read' <;> simp [Read.owed] <;> split <;> simp
        exact .inl (by omega)
    · exact .inr ⟨key, read, Process.mem_of_ne hm fun same => mine (Sum.inl.inj same).symm, owed⟩
  · by_cases mine : part = .reading key read
    · subst mine
      obtain ⟨answer, moves, -⟩ := Part.reading_ends move
      obtain ⟨-, -, ⟨-, none_, -⟩ | ⟨-, reads⟩⟩ := Read.ends_reads (B := B) moves
      · omega
      · exact .inl (by omega)
    · exact .inr ⟨key, read, Process.mem_of_ne hm fun same => mine (Sum.inl.inj same).symm, owed⟩

omit [DecidableEq K] in
theorem not_owes_ended (found : List (K × Lookup V E)) :
    ¬ Owes (found.map .inr : List (Part K L ⊕ (K × Lookup V E))) := by
  rintro ⟨key, read, hm, -⟩
  simp at hm

theorem goes_reads {read read' : ReadAll K V E L B}
    (h : (process loader).move now read (s, w) = .goes read' (s', w') events) :
    s.reads ≤ s'.reads := by
  cases read with
  | looking keys slots =>
    obtain ⟨key, -, -, rfl, -⟩ | ⟨-, -, -, rfl, -⟩ := looking_goes h
    · exact s.readStore_reads key now ▸ Nat.le_add_right ..
    · exact le_rfl
  | claiming keys slots c wanted =>
    obtain ⟨key, rest, claim, s₁, -, hc, -, rfl, -⟩ | ⟨-, ⟨-, -, rfl, -⟩ | ⟨-, -, rfl, -⟩⟩ :=
      claiming_goes h
    · exact State.countClaim_reads hc ▸ Nat.le_succ _
    · exact le_rfl
    · exact le_rfl
  | loading keys slots resolved guards chunks joined =>
    obtain ⟨chunks', goes, -⟩ | ⟨found, -, -, rfl, -⟩ := loading_goes h
    · exact (chunks_reads goes).ge
    · exact (s.retireAll_reads guards).ge
  | joining keys slots resolved parts =>
    obtain ⟨parts', goes, -⟩ := joining_goes h
    exact parts_le goes

theorem ends_reads {read : ReadAll K V E L B} {answers : List (Lookup V E)}
    (h : (process loader).move now read (s, w) = .ends answers (s', w') events) : s' = s := by
  cases read with
  | looking keys slots => exact (looking_ends h).2.2.2.1
  | claiming keys slots c wanted => exact absurd h not_claiming_ends
  | loading keys slots resolved guards chunks joined => exact absurd h not_loading_ends
  | joining keys slots resolved parts =>
    obtain ⟨-, -, -, same, -⟩ := joining_ends h
    exact same

end ReadAll

/-- What the turns of a visitor have counted so far, by where it stands. -/
def Reader.Tallied (loader : Loader (Event R) K V E σ L B) (past : List (Turn K V E σ L B)) :
    Reader K V E L B → Prop
  | .one read => Turn.Clean loader past ∧ (Turn.findings past).length + read.ahead = 1 ∧
      Turn.counted loader past + read.owed = 1
  | .many (.looking _ slots) => Turn.Clean loader past ∧
      Turn.counted loader past = slots.countP (·.isSome)
  | .many (.claiming keys slots _ wanted) => Turn.Clean loader past ∧
      Turn.counted loader past + wanted.length = ReadAll.due keys slots
  | .many (.loading keys slots _ _ _ _) => Turn.Clean loader past ∧
      Turn.counted loader past = ReadAll.due keys slots
  | .many (.joining keys slots _ parts) =>
      (Turn.Clean loader past ∧ Turn.counted loader past = ReadAll.due keys slots ∧
        ∀ key read, .inl (.reading key read) ∉ parts) ∨
      ¬ Turn.Clean loader past ∧ ReadAll.due keys slots ≤ Turn.counted loader past ∧
        (ReadAll.due keys slots < Turn.counted loader past ∨ ReadAll.Owes parts)

section

variable {past : List (Turn K V E σ L B)} {t : Turn K V E σ L B}

theorem Turn.clean_concat :
    Clean loader (past ++ [t]) ↔ Clean loader past ∧ ¬ t.Recounts loader := by
  simp [Clean, or_imp, forall_and]

theorem Turn.counted_concat (loader : Loader (Event R) K V E σ L B)
    (past : List (Turn K V E σ L B)) (t : Turn K V E σ L B) :
    counted loader (past ++ [t]) = counted loader past + t.counts loader := by
  simp [counted]

theorem ReadAll.due_one (key : K) {slots : List (Option (Lookup V E))}
    (one : slots.length = 1) : due [key] slots = 1 := by
  obtain ⟨slot, rfl⟩ := List.length_eq_one_iff.mp one
  cases slot <;> rfl

theorem Reader.Tallied.goes_one {number : ℕ} {read read' : Read K L} {world : σ}
    (moves : (Read.process loader).move now read (s, world) = .goes read' (s', w') events)
    (counts : t.counts loader = s'.reads - s.reads)
    (here : t = ⟨number, .one read, now, s, world⟩)
    (tallied : (Reader.one read : Reader K V E L B).Tallied loader past) :
    (Reader.one read' : Reader K V E L B).Tallied loader (past ++ [t]) := by
  obtain ⟨clean, found, counted⟩ := tallied
  obtain ⟨le, reads, not_, ahead⟩ := Read.goes_reads (B := B) moves
  refine ⟨Turn.clean_concat.mpr ⟨clean, here ▸ not_⟩, ?_, ?_⟩
  · subst here
    rw [Turn.findings_concat, List.length_append]
    dsimp only
    omega
  · rw [Turn.counted_concat, counts]
    omega

theorem Reader.Tallied.goes_many {number : ℕ} {read read' : ReadAll K V E L B} {world : σ}
    (moves : (ReadAll.process loader).move now read (s, world) = .goes read' (s', w') events)
    (counts : t.counts loader = s'.reads - s.reads)
    (here : t = ⟨number, .many read, now, s, world⟩)
    (tallied : (Reader.many read).Tallied loader past) :
    (Reader.many read').Tallied loader (past ++ [t]) := by
  cases read with
  | looking keys slots =>
    obtain ⟨clean, counted⟩ := tallied
    have clean : Turn.Clean loader (past ++ [t]) := Turn.clean_concat.mpr ⟨clean, here ▸ id⟩
    obtain ⟨key, -, rfl, rfl, -⟩ | ⟨-, -, rfl, rfl, -⟩ := ReadAll.looking_goes moves
    · have reads := s.readStore_reads key now
      refine ⟨clean, ?_⟩
      rw [Turn.counted_concat, counts, reads, List.countP_append, counted, Nat.add_sub_cancel_left,
        State.peek]
      cases (s.readStore key now).1 <;> rfl
    · refine ⟨clean, ?_⟩
      rw [Turn.counted_concat, counts, Nat.sub_self, counted]
      rfl
  | claiming keys slots c wanted =>
    obtain ⟨clean, counted⟩ := tallied
    have clean : Turn.Clean loader (past ++ [t]) := Turn.clean_concat.mpr ⟨clean, here ▸ id⟩
    obtain ⟨key, rest, claim, s₁, rfl, hc, rfl, rfl, -⟩ |
      ⟨rfl, ⟨-, rfl, rfl, -⟩ | ⟨-, rfl, rfl, -⟩⟩ := ReadAll.claiming_goes moves
    · have reads := State.countClaim_reads hc
      refine ⟨clean, ?_⟩
      rw [Turn.counted_concat, counts]
      rw [List.length_cons] at counted
      omega
    · refine .inl ⟨clean, ?_, fun key read hm => by simp at hm⟩
      rw [Turn.counted_concat, counts, Nat.sub_self]
      exact counted
    · have reads : (s.countLoads (ReadAll.started loader c.owned).length).reads = s.reads := rfl
      refine ⟨clean, ?_⟩
      rw [Turn.counted_concat, counts, reads, Nat.sub_self]
      exact counted
  | loading keys slots resolved guards chunks joined =>
    obtain ⟨clean, counted⟩ := tallied
    have clean : Turn.Clean loader (past ++ [t]) := Turn.clean_concat.mpr ⟨clean, here ▸ id⟩
    obtain ⟨chunks', goes, rfl⟩ | ⟨found, -, rfl, rfl, -⟩ := ReadAll.loading_goes moves
    · refine ⟨clean, ?_⟩
      rw [Turn.counted_concat, counts, ReadAll.chunks_reads goes, Nat.sub_self]
      exact counted
    · refine .inl ⟨clean, ?_, fun key read hm => by simp at hm⟩
      rw [Turn.counted_concat, counts, s.retireAll_reads, Nat.sub_self]
      exact counted
  | joining keys slots resolved parts =>
    obtain ⟨parts', goes, rfl⟩ := ReadAll.joining_goes moves
    have sum := Turn.counted_concat loader past t
    obtain ⟨clean, counted, paid⟩ | ⟨again, least, more⟩ := tallied
    · obtain ⟨reads, ⟨recounts, owes⟩ | ⟨not_, paid⟩⟩ := ReadAll.parts_paid goes paid
      · refine .inr ⟨fun clean => (Turn.clean_concat.mp clean).2 (here ▸ recounts), ?_, .inr owes⟩
        omega
      · exact .inl ⟨Turn.clean_concat.mpr ⟨clean, here ▸ not_⟩, by omega, paid⟩
    · -- It has come to be counted again before: it has counted since, or it is still about to.
      refine .inr ⟨fun clean => again (Turn.clean_concat.mp clean).1, by omega, ?_⟩
      obtain lt | owes := more
      · exact .inl (by omega)
      · obtain grows | owes := ReadAll.parts_owe goes owes
        · exact .inl (by omega)
        · exact .inr owes

end

section

variable {past : List (Turn K V E σ L B)} {t : Turn K V E σ L B} {w : State K V E × σ}

theorem Reader.Tallied.goes {reader : Reader K V E L B} (tallied : t.reader.Tallied loader past)
    (moves : t.move loader = .goes reader w events) : reader.Tallied loader (past ++ [t]) := by
  obtain ⟨number, start, now, s, world⟩ := t
  obtain ⟨s', w'⟩ := w
  have counts : Turn.counts loader ⟨number, start, now, s, world⟩ = s'.reads - s.reads := by
    rw [Turn.counts, Turn.after_goes moves]
  cases start with
  | one read =>
    obtain ⟨read', w₁, move, rfl, rfl⟩ := Process.lift_goes moves
    exact tallied.goes_one move counts rfl
  | many read =>
    obtain ⟨read', w₁, move, rfl, rfl⟩ := Process.lift_goes moves
    exact tallied.goes_many move counts rfl

theorem Reader.Tallied.ends {answers : List (Lookup V E)} (tallied : t.reader.Tallied loader past)
    (whole : t.reader.Whole)
    (slots : ∀ read, t.reader = .many read → Turn.findings past = read.slots)
    (moves : t.move loader = .ends answers w events) :
    (Turn.findings (past ++ [t])).length = t.reader.keys.length ∧
      (Turn.counted loader (past ++ [t]) =
          ReadAll.due t.reader.keys (Turn.findings (past ++ [t])) ↔
        Turn.Clean loader (past ++ [t])) := by
  obtain ⟨number, start, now, s, world⟩ := t
  obtain ⟨s', w'⟩ := w
  have counts : Turn.counts loader ⟨number, start, now, s, world⟩ = s'.reads - s.reads := by
    rw [Turn.counts, Turn.after_ends moves]
  rw [Turn.clean_concat, Turn.counted_concat, Turn.findings_concat, counts]
  dsimp only
  cases start with
  | one read =>
    obtain ⟨answer, w₁, move, -, rfl⟩ := Process.lift_ends moves
    dsimp only at move
    obtain ⟨clean, found, counted⟩ := tallied
    obtain ⟨le, ahead, ends⟩ := Read.ends_reads (B := B) move
    have one : (Turn.findings past ++
        ((Reader.one read : Reader K V E L B).found? s now).toList).length = 1 := by
      rw [List.length_append]
      omega
    refine ⟨one, ?_⟩
    rw [show (Reader.one read : Reader K V E L B).keys = [read.key] from rfl, ReadAll.due_one _ one]
    obtain ⟨recounts, none_, more⟩ | ⟨not_, more⟩ := ends
    · exact ⟨fun eq => by omega, fun both => absurd recounts both.2⟩
    · exact ⟨fun _ => ⟨clean, not_⟩, fun _ => by omega⟩
  | many read =>
    obtain ⟨answers', w₁, move, -, rfl⟩ := Process.lift_ends moves
    obtain rfl := ReadAll.ends_reads move
    obtain ⟨length, none_, -⟩ := ReadAll.ends_slots move whole
    have found := slots read rfl
    simp only [none_, Option.toList_none, List.append_nil, found, Nat.sub_self, Nat.add_zero]
    refine ⟨length, ?_⟩
    cases read with
    | looking keys slots =>
      obtain ⟨clean, counted⟩ := tallied
      have missed := (ReadAll.looking_ends move).2.1
      refine ⟨fun _ => ⟨clean, id⟩, fun _ => ?_⟩
      rw [counted]
      simp [ReadAll.due, ReadAll.slots, Reader.keys, ReadAll.keys, missed]
    | claiming keys slots c wanted => exact absurd move ReadAll.not_claiming_ends
    | loading keys slots resolved guards chunks joined => exact absurd move ReadAll.not_loading_ends
    | joining keys slots resolved parts =>
      obtain ⟨ended, rfl, -⟩ := ReadAll.joining_ends move
      obtain ⟨clean, counted, -⟩ | ⟨again, least, more⟩ := tallied
      · refine ⟨fun _ => ⟨clean, ?_⟩, fun _ => counted⟩
        rintro ⟨key, flight, turn, -⟩
        rw [Process.mover_ended] at turn
        cases turn
      · have lt := more.resolve_right (ReadAll.not_owes_ended ended)
        exact ⟨fun eq => absurd eq lt.ne', fun both => absurd both.1 again⟩

theorem Turn.stats_of_found {slot : Option (Lookup V E)}
    (h : t.reader.found? t.cache t.now = some slot) :
    (t.after loader).stats.hits = t.cache.stats.hits + slot.isSome.toNat ∧
      (t.after loader).stats.misses = t.cache.stats.misses := by
  obtain ⟨number, reader, now, s, world⟩ := t
  have stats (key : K) : (s.readStore key now).2.stats.hits =
        s.stats.hits + (s.peek now key).isSome.toNat ∧
      (s.readStore key now).2.stats.misses = s.stats.misses := by
    obtain ⟨e, -, -, -, eq⟩ | ⟨-, eq⟩ | ⟨e, -, -, -, eq⟩ := s.readStore_cases key now <;>
      simp [State.peek, eq]
  have after_ (key : K) (looks : slot = s.peek now key)
      (left : Turn.after loader ⟨number, reader, now, s, world⟩ = (s.readStore key now).2) :
      (Turn.after loader ⟨number, reader, now, s, world⟩).stats.hits =
          s.stats.hits + slot.isSome.toNat ∧
        (Turn.after loader ⟨number, reader, now, s, world⟩).stats.misses = s.stats.misses := by
    rw [left, looks]
    exact stats key
  cases reader with
  | one read =>
    cases read with
    | looking key missed =>
      cases missed with
      | true => cases h
      | false =>
        refine after_ key (Option.some.inj h).symm ?_
        rcases hr : s.readStore key now with ⟨slot, s'⟩
        cases slot <;> simp [Turn.after, Turn.move, Reader.process, Read.process, hr, Move.lift]
    | _ => cases h
  | many read =>
    cases read with
    | looking keys slots =>
      obtain ⟨key, next, looks⟩ := Option.map_eq_some_iff.mp h
      refine after_ key looks.symm ?_
      simp [Turn.after, Turn.move, Reader.process, ReadAll.process, next, Move.lift]
    | _ => cases h

end

theorem Reader.goes_le {reader reader' : Reader K V E L B}
    (h : (process loader).move now reader (s, w) = .goes reader' (s', w') events) :
    s.reads ≤ s'.reads := by
  cases reader with
  | one read =>
    obtain ⟨read', w₁, moves, rfl, rfl⟩ := Process.lift_goes h
    exact (Read.goes_reads (B := B) moves).1
  | many read =>
    obtain ⟨read', w₁, moves, rfl, rfl⟩ := Process.lift_goes h
    exact ReadAll.goes_reads moves

theorem Reader.ends_le {reader : Reader K V E L B} {answers : List (Lookup V E)}
    (h : (process loader).move now reader (s, w) = .ends answers (s', w') events) :
    s.reads ≤ s'.reads := by
  cases reader with
  | one read =>
    obtain ⟨answer, w₁, moves, rfl, rfl⟩ := Process.lift_ends h
    exact (Read.ends_reads (B := B) moves).1
  | many read =>
    obtain ⟨answers', w₁, moves, rfl, rfl⟩ := Process.lift_ends h
    exact (congrArg State.reads (ReadAll.ends_reads moves)).ge

namespace Room

variable {outside : σ → σ → Prop} {room room' a : Room K V E σ L B} {deed : Deed K σ}
  {before more deeds : List (Deed K σ)} {inquiry : Inquiry K}

theorem reads_of_perform (h : room.perform loader deed = some room') :
    room'.cache.reads = room.cache.reads + ((room.turn deed).map (Turn.counts loader)).sum := by
  cases deed with
  | go place =>
    obtain ⟨before, v, after, here, rfl, moved⟩ := go_cases h
    rw [turn_go here, List.map_singleton, List.sum_singleton, Turn.counts]
    obtain ⟨reader, cache, world, events, moves, rfl⟩ |
      ⟨answers, cache, world, events, moves, rfl⟩ := moved
    · have le : room.cache.reads ≤ cache.reads := Reader.goes_le moves
      rw [Turn.after_goes moves]
      exact (Nat.add_sub_of_le le).symm
    · have le : room.cache.reads ≤ cache.reads := Reader.ends_le moves
      rw [Turn.after_ends moves]
      exact (Nat.add_sub_of_le le).symm
  | leave place =>
    obtain ⟨before, v, after, -, rfl⟩ := leave_cases h
    simp only [State.reads, (Reader.leaves_alone _ _ _).2]
    rfl
  | wait later =>
    obtain rfl := wait_eq h
    rfl
  | arrive inquiry => cases h; rfl
  | invalidate key => cases h; rfl
  | invalidateAll => cases h; rfl
  | change world => cases h; rfl

theorem reads_of_play (run : play loader deeds room = some room') :
    room'.cache.reads =
      room.cache.reads + ((turns loader deeds room).map (Turn.counts loader)).sum := by
  induction deeds generalizing room with
  | nil =>
    cases run
    simp [turns]
  | cons deed more ih =>
    obtain ⟨next, hp, hm⟩ := Option.bind_eq_some_iff.mp run
    rw [turns_cons hp, List.map_append, List.sum_append, ih hm, reads_of_perform hp, Nat.add_assoc]

theorem habit_tallied (loader : Loader (Event R) K V E σ L B) (inquiry : Inquiry K) :
    Habit loader (fun _ => True)
      (fun past reader => reader.Whole ∧ reader.keys = inquiry.keys ∧ reader.Tallied loader past ∧
        ∀ read, reader = .many read → Turn.findings past = read.slots)
      (fun past _ => (Turn.findings past).length = inquiry.keys.length ∧
        (Turn.counted loader past = ReadAll.due inquiry.keys (Turn.findings past) ↔
          Turn.Clean loader past)) where
  goes := by
    rintro past t reader ⟨s', w'⟩ events - ⟨whole, keys, tallied, slots⟩ moves
    obtain ⟨whole', keys', -⟩ := Reader.goes moves whole []
    refine ⟨whole', keys'.trans keys, tallied.goes moves, ?_⟩
    rintro read rfl
    obtain ⟨number, start, now, s, world⟩ := t
    cases start with
    | one read =>
      obtain ⟨read', w₁, -, no, -⟩ := Process.lift_goes moves
      cases no
    | many read =>
      obtain ⟨read', w₁, move, same, rfl⟩ := Process.lift_goes moves
      cases same
      rw [Turn.findings_concat, slots read rfl, ReadAll.goes_slots move]
  ends := by
    rintro past t answers w events - ⟨whole, keys, tallied, slots⟩ moves
    rw [← keys]
    exact tallied.ends whole slots moves

theorem tallied_start (loader : Loader (Event R) K V E σ L B) (inquiry : Inquiry K) :
    (inquiry.start : Reader K V E L B).Whole ∧
      (inquiry.start : Reader K V E L B).keys = inquiry.keys ∧
      (inquiry.start : Reader K V E L B).Tallied loader [] ∧
      ∀ read, (inquiry.start : Reader K V E L B) = .many read → Turn.findings
        ([] : List (Turn K V E σ L B)) = read.slots := by
  refine ⟨whole_start inquiry, keys_start inquiry, ?_, ?_⟩
  · cases inquiry with
    | one key => exact ⟨by simp [Turn.Clean], rfl, rfl⟩
    | many keys => exact ⟨by simp [Turn.Clean], rfl⟩
  · rintro read same
    cases inquiry <;> cases same
    rfl

/-- Whatever happens in a room, with reads that are given up: what its cache has counted is what the
turns of its visitors have counted. A read that is done has looked once at each of its positions at
first, and each of these looks has counted a hit if it answered the position, and nothing else. All
in all it has counted these positions and the other keys, each once, if and only if it did not come
to be counted again, which takes that a flight it had joined was lost. -/
theorem counted_once_iff (c : Config) (world : σ) (start : ℕ)
    (come : play loader before (opening c world start) = some a)
    (run : play loader more (a.arrive inquiry) = some room) :
    room.cache.reads = Turn.counted loader
        (turns loader (before ++ .arrive inquiry :: more) (opening c world start)) ∧
      ∀ r ∈ room.records, r.number = a.admitted → ∃ mine,
        mine = Turn.of a.admitted (turns loader more (a.arrive inquiry)) ∧
        (Turn.findings mine).length = inquiry.keys.length ∧
        (∀ t ∈ mine, ∀ slot, t.reader.found? t.cache t.now = some slot →
          (t.after loader).stats.hits = t.cache.stats.hits + slot.isSome.toNat ∧
            (t.after loader).stats.misses = t.cache.stats.misses) ∧
        (Turn.counted loader mine = ReadAll.due inquiry.keys (Turn.findings mine) ↔
          ∀ t ∈ mine, ¬ t.Recounts loader) := by
  have all : play loader (before ++ .arrive inquiry :: more) (opening c world start) =
      some room := by
    rw [play_append, come, Option.bind_some, play, perform, Option.bind_some, run]
  have numbered : a.Numbered := (numbered_opening c world start).reach (reach_of_play come)
  constructor
  · rw [reads_of_play all]
    exact Nat.zero_add _
  · intro r hr number
    have kept := (habit_tallied loader inquiry).play (numbered.arrive inquiry) (fun _ _ => trivial)
      (Nat.lt_succ_self a.admitted) run (numbered.tracked_arrive (tallied_start loader inquiry))
    obtain ⟨length, exact_⟩ := kept.2 r hr number
    exact ⟨_, rfl, length, fun t _ slot => Turn.stats_of_found, exact_⟩

/-- A reader joins a load of another one, who is given up; it loads the key itself. -/
def takenOver : List (Deed ℕ (List (ℕ × ℕ))) :=
  [.go 1, .go 1, .leave 0, .go 0, .go 0, .go 0, .change [(1, 10)], .go 0]

theorem counted_once_iff_takenOver :
    ∃ a room, play (Loader.board 1) [.arrive (.one 1), .go 0, .go 0] (opening {} [] 0) = some a ∧
      play (Loader.board 1) takenOver (a.arrive (.one 1)) = some room ∧
      (∃ r ∈ room.records, r.number = a.admitted ∧ r.answers = [.found 10]) ∧
      Turn.counted (Loader.board 1)
        (Turn.of a.admitted (turns (Loader.board 1) takenOver (a.arrive (.one 1)))) = 1 := by
  obtain ⟨a, come, room, run, r, hr, number, said⟩ : ∃ a,
      play (Loader.board 1) [.arrive (.one 1), .go 0, .go 0] (opening {} [] 0) = some a ∧
      ∃ room, play (Loader.board 1) takenOver (a.arrive (.one 1)) = some room ∧
      ∃ r ∈ room.records, r.number = a.admitted ∧ r.answers = [.found 10] :=
    ⟨_, rfl, _, rfl, _, List.mem_cons_self, rfl, rfl⟩
  obtain ⟨-, once⟩ := counted_once_iff {} [] 0 come run
  obtain ⟨mine, rfl, length, -, exact_⟩ := once r hr number
  refine ⟨a, room, come, run, ⟨r, hr, number, said⟩, ?_⟩
  rw [← ReadAll.due_one 1 length]
  cases come
  -- It learns that the flight is lost, looks and claims anew, and has its own load return.
  refine exact_.mpr ?_
  exact List.forall_mem_cons.mpr ⟨id, List.forall_mem_cons.mpr ⟨id,
    List.forall_mem_cons.mpr ⟨id, List.forall_mem_cons.mpr ⟨fun found => found rfl,
      List.forall_mem_cons.mpr ⟨fun found => found rfl, List.forall_mem_singleton.mpr id⟩⟩⟩⟩⟩

def takenOverByMany : List (Deed ℕ (List (ℕ × ℕ))) :=
  [.go 1, .go 1, .go 1, .go 1, .leave 0, .go 0, .go 0, .go 0, .change [(1, 10)], .go 0, .go 0]

/-- A read of many keys has joined the load of a key that is given up; it counts the key once more
when it loads it itself. -/
theorem counts_twice_taken_over :
    ∃ a room, play (Loader.board 1) [.arrive (.one 1), .go 0, .go 0] (opening {} [] 0) = some a ∧
      play (Loader.board 1) takenOverByMany (a.arrive (.many [1])) = some room ∧
      (∃ r ∈ room.records, r.number = a.admitted ∧ r.answers = [.found 10]) ∧
      ∃ mine, mine = Turn.of a.admitted
          (turns (Loader.board 1) takenOverByMany (a.arrive (.many [1]))) ∧
        ReadAll.due [1] (Turn.findings mine) = 1 ∧ Turn.counted (Loader.board 1) mine = 2 :=
  ⟨_, _, rfl, rfl, ⟨_, List.mem_cons_self, rfl, rfl⟩, _, rfl, by decide, by decide⟩

end Room

end

end PacedCalls.Cache
