import Mathlib.Algebra.Order.Monoid.Prod
import Mathlib.Tactic.Abel
import PacedCalls.Proofs.Client.Jobs

/-!
A ledger of what calls do with the controller that they share. For every attempt of every call it
notes the permits that were taken, the statuses that were fed back, and how often that raised or
lowered the rate; when a call returns, it leaves a receipt. What the controller has counted is the
sum of what is noted.
-/

set_option autoImplicit false

namespace PacedCalls

/-- Where a timeout cuts an attempt: while it waits for its slot, or for an answer. -/
inductive Cut where
  | atSlot
  | atAnswer
  deriving DecidableEq

structure Trial where
  permits : ℕ := 0
  increases : ℕ := 0
  decreases : ℕ := 0
  fed : List Status := []
  cut : Option Cut := none
  deriving DecidableEq

structure Entry (R U S V P : Type) where
  place : P
  client : Client R U S
  decode : Body.Reader V
  call : Call R U S
  earlier : List Trial := []
  trial : Trial := {}

structure Receipt (R U S V : Type) where
  client : Client R U S
  request : Request
  result : Except CallError (Outcome V)
  trials : List Trial

structure Ledger (R T U S V P : Type) where
  governor : Rate.Controller R
  remotes : P → Remote T
  user : U
  now : ℕ
  entries : List (Entry R U S V P) := []
  receipts : List (Receipt R U S V) := []

section

variable {R T U S V P : Type}

def Chain.Pass.feeds? : Chain.Pass R U S → Option Status
  | .leaving result (.throttle _ request :: _) => statusOf? request result
  | _ => none

/-- Whether the next move of a pass is that one of its layers stops waiting. -/
def Chain.Pass.cut? (now : ℕ) : Chain.Pass R U S → Option Cut
  | .queued slot _ _ _ frames =>
    if Instant.due slot now then none else (expired? now frames).map fun _ => .atSlot
  | .sent _ arrival frames =>
    if Instant.due arrival now then none else (expired? now frames).map fun _ => .atAnswer
  | _ => none

def Trial.note (t : Trial) (now : ℕ) (pass : Chain.Pass R U S) (c c' : Rate.Controller R) :
    Trial where
  permits := t.permits + (c'.granted - c.granted)
  increases := t.increases + (c'.increases - c.increases)
  decreases := t.decreases + (c'.decreases - c.decreases)
  fed := t.fed ++ pass.feeds?.toList
  cut := t.cut.or (pass.cut? now)

def Rate.Controller.counts (c : Rate.Controller R) : ℕ × ℕ × ℕ :=
  (c.granted, c.increases, c.decreases)

def Trial.counts (t : Trial) : ℕ × ℕ × ℕ := (t.permits, t.increases, t.decreases)

namespace Entry

def begin (place : P) (client : Client R U S) (decode : Body.Reader V) (request : Request) :
    Entry R U S V P where
  place := place
  client := client
  decode := decode
  call := client.start request

def trials (e : Entry R U S V P) : List Trial := e.earlier ++ [e.trial]

/-- A move in an attempt is noted there; between two attempts it begins a new one. -/
def moved (e : Entry R U S V P) (now : ℕ) (c c' : Rate.Controller R) (call : Call R U S) :
    Entry R U S V P :=
  match e.call.phase with
  | .attempting _ pass => { e with call := call, trial := e.trial.note now pass c c' }
  | .waiting _ _ => { e with call := call, earlier := e.trials, trial := {} }

theorem moved_client (e : Entry R U S V P) (now : ℕ) (c c' : Rate.Controller R)
    (call : Call R U S) : (e.moved now c c' call).client = e.client := by
  simp only [moved]
  split <;> rfl

def receipt (e : Entry R U S V P) (result : Except CallError (Outcome V)) : Receipt R U S V where
  client := e.client
  request := e.call.request
  result := result
  trials := e.trials

end Entry

namespace Ledger

def opening (governor : Rate.Controller R) (transports : P → T) (user : U) (now : ℕ) :
    Ledger R T U S V P where
  governor := governor
  remotes place := { transport := transports place }
  user := user
  now := now

def lane [DecidableEq P] (place : P) : Lens (Ledger R T U S V P) (Lane R T U) where
  get l := { governor := l.governor, remote := l.remotes place, user := l.user }
  set lane l :=
    { l with
      governor := lane.governor
      remotes := Function.update l.remotes place lane.remote
      user := lane.user }

def trials (l : Ledger R T U S V P) : List Trial :=
  l.receipts.flatMap Receipt.trials ++ l.entries.flatMap Entry.trials

/-- What may happen; calls are named by their places in the list. -/
inductive Deed (R U S V P : Type) where
  | begin (place : P) (client : Client R U S) (decode : Body.Reader V) (request : Request)
  | go (index : ℕ)
  | govern (limits : Rate.Limits R) (lastSlot : Option ℕ)
  | drift (user : U)
  | wait (d : ℕ)

variable [Scalar R] [Transport T] [DecidableEq P]

def perform (l : Ledger R T U S V P) : Deed R U S V P → Ledger R T U S V P
  | .begin place client decode request =>
    { l with entries := l.entries ++ [.begin place client decode request] }
  | .go index =>
    match l.entries[index]? with
    | none => l
    | some e =>
      match (e.client.call e.decode).move l.now e.call ((lane e.place).get l) with
      | .waits _ => l
      | .goes call world _ =>
        (lane e.place).set world
          { l with
            entries := l.entries.take index ++
              e.moved l.now l.governor world.governor call :: l.entries.drop (index + 1) }
      | .ends result world _ =>
        (lane e.place).set world
          { l with
            entries := l.entries.take index ++ l.entries.drop (index + 1)
            receipts := l.receipts ++
              [(e.moved l.now l.governor world.governor e.call).receipt result] }
  | .govern limits lastSlot =>
    { l with governor := { l.governor with limits := limits, lastSlot := lastSlot } }
  | .drift user => { l with user := user }
  | .wait d => { l with now := l.now + d }

def play (l : Ledger R T U S V P) (deeds : List (Deed R U S V P)) : Ledger R T U S V P :=
  deeds.foldl perform l

end Ledger

end

namespace Chain

variable {R T U S : Type} [Scalar R] {now : ℕ} {lane lane' : Lane R T U} {events : List (Event R)}

omit [Scalar R] in
theorem Pass.follow_governor {m : Middleware R U S} {inner : List (Layer R U S)}
    {frames : List (Frame R U S)} {act : Act S × U × List (Event R)} {pass : Pass R U S}
    (h : Pass.follow m inner frames lane act = .goes pass lane' events) :
    lane'.governor = lane.governor := by
  obtain ⟨act, user, reports⟩ := act
  cases act <;> cases h <;> rfl

omit [Scalar R] in
theorem Pass.wait_governor {moment : ℕ} {frames : List (Frame R U S)} {pass : Pass R U S}
    (h : Pass.wait now moment frames lane = .goes pass lane' events) :
    lane'.governor = lane.governor := by
  simp only [Pass.wait] at h
  split at h
  · exact Pass.follow_governor h
  · cases h

/-- What one move of a request can make of the controller. -/
inductive Affects (now : ℕ) (c : Rate.Controller R) : Rate.Controller R → Prop where
  | keep : Affects now c c
  | reserve : Affects now c (c.reserve now).2
  | granted : Affects now c (c.reserve now).2.grant
  | grant : Affects now c c.grant
  | feedback (count : Bool) (request : Request) (result : Exchange) :
      Affects now c (feedback count request result c).1

theorem process_affects [Transport T] {pass pass' : Pass R U S}
    (h : process.move now pass lane = .goes pass' lane' events) :
    Affects now lane.governor lane'.governor := by
  have same (h : lane'.governor = lane.governor) : Affects now lane.governor lane'.governor :=
    h ▸ .keep
  cases pass with
  | entering layers request frames =>
    cases layers with
    | nil =>
      cases h
      exact .keep
    | cons layer inner =>
      cases layer with
      | custom m => exact same (Pass.follow_governor h)
      | throttle count =>
        simp only [process, Pass.enter] at h
        split at h
        · cases h
          exact .reserve
        · cases h
          exact .granted
      | tracing =>
        cases h
        exact .keep
  | queued slot count inner request frames =>
    simp only [process] at h
    split at h
    · cases h
      exact .grant
    · exact same (Pass.wait_governor h)
  | sent result arrival frames =>
    simp only [process] at h
    split at h
    · cases h
      exact .keep
    · exact same (Pass.wait_governor h)
  | leaving result frames =>
    cases frames with
    | nil => cases h
    | cons frame outer =>
      cases frame with
      | custom m memo limit inner => exact same (Pass.follow_governor h)
      | throttle count request =>
        cases h
        exact .feedback count request result
      | tracing =>
        cases h
        exact .keep

theorem counts_feedback (count : Bool) (request : Request) (result : Exchange)
    (c : Rate.Controller R) : c.counts ≤ (feedback count request result c).1.counts := by
  simp only [feedback]
  split
  · exact le_rfl
  · split
    · exact ⟨le_rfl, Nat.le_succ _, le_rfl⟩
    · split
      · exact ⟨le_rfl, le_rfl, Nat.le_succ _⟩
      · exact le_rfl

theorem Affects.counts {c c' : Rate.Controller R} (h : Affects now c c') : c.counts ≤ c'.counts := by
  cases h with
  | keep => exact le_rfl
  | reserve => exact le_rfl
  | granted => exact ⟨Nat.le_succ _, le_rfl, le_rfl⟩
  | grant => exact ⟨Nat.le_succ _, le_rfl, le_rfl⟩
  | feedback count request result => exact counts_feedback count request result c

end Chain

theorem Client.call_goes_counts {R T U S V : Type} [Scalar R] [Transport T] {c : Client R U S}
    {decode : Body.Reader V} {now : ℕ} {st st' : Call R U S} {lane lane' : Lane R T U}
    {events : List (Event R)} (h : (c.call decode).move now st lane = .goes st' lane' events) :
    lane.governor.counts ≤ lane'.governor.counts ∧
      ∀ n wake, st.phase = .waiting n wake → lane'.governor = lane.governor := by
  obtain ⟨-, ⟨n, pass, pass', _, hp, -, moves⟩ | ⟨n, exchange, wake, failure, -, -, rfl, -⟩ |
    ⟨n, wake, -, -, rfl⟩⟩ := call_goes_cases h
  · refine ⟨(Chain.process_affects moves).counts, fun n' wake hw => ?_⟩
    rw [hp] at hw
    cases hw
  · exact ⟨le_rfl, fun _ _ _ => rfl⟩
  · exact ⟨le_rfl, fun _ _ _ => rfl⟩

section

variable {R T U S V P : Type}

theorem Trial.counts_note (t : Trial) (now : ℕ) (pass : Chain.Pass R U S)
    {c c' : Rate.Controller R} (grow : c.counts ≤ c'.counts) :
    (t.note now pass c c').counts + c.counts = t.counts + c'.counts := by
  obtain ⟨permits, increases, decreases⟩ := grow
  simp only [Rate.Controller.counts] at permits increases decreases
  simp only [counts, note, Rate.Controller.counts, Prod.mk_add_mk, Prod.mk.injEq]
  omega

def countsOf (trials : List Trial) : ℕ × ℕ × ℕ := (trials.map Trial.counts).sum

theorem countsOf_append (trials more : List Trial) :
    countsOf (trials ++ more) = countsOf trials + countsOf more := by
  rw [countsOf, List.map_append, List.sum_append]
  rfl

theorem Entry.countsOf_trials (e : Entry R U S V P) :
    countsOf e.trials = countsOf e.earlier + e.trial.counts := by
  rw [trials, countsOf_append]
  exact congrArg _ (List.sum_singleton)

theorem Entry.counts_moved (e : Entry R U S V P) (now : ℕ) {c c' : Rate.Controller R}
    (call : Call R U S) (grow : c.counts ≤ c'.counts)
    (still : ∀ n wake, e.call.phase = .waiting n wake → c' = c) :
    countsOf (e.moved now c c' call).trials + c.counts = countsOf e.trials + c'.counts := by
  simp only [moved]
  split
  · next n pass hp =>
    rw [countsOf_trials, countsOf_trials, add_assoc, e.trial.counts_note now pass grow, add_assoc]
  · next n wake hp =>
    rw [still n wake hp, countsOf_trials]
    exact congrArg (· + c.counts) (add_zero _)

namespace Ledger

variable [Scalar R] [Transport T] [DecidableEq P] {l : Ledger R T U S V P}

omit [Scalar R] [Transport T] [DecidableEq P] in
theorem entries_at {index : ℕ} {e : Entry R U S V P} (h : l.entries[index]? = some e) :
    l.entries = l.entries.take index ++ e :: l.entries.drop (index + 1) := by
  obtain ⟨hlt, rfl⟩ := List.getElem?_eq_some_iff.mp h
  rw [← List.drop_eq_getElem_cons hlt, List.take_append_drop]

inductive Gone (l : Ledger R T U S V P) : Ledger R T U S V P → Prop where
  | still : Gone l l
  | goes (before after : List (Entry R U S V P)) (e : Entry R U S V P) (call : Call R U S)
      (world : Lane R T U) (events : List (Event R)) (here : l.entries = before ++ e :: after)
      (moves : (e.client.call e.decode).move l.now e.call ((lane e.place).get l) =
        .goes call world events) :
      Gone l ((lane e.place).set world
        { l with entries := before ++ e.moved l.now l.governor world.governor call :: after })
  | ends (before after : List (Entry R U S V P)) (e : Entry R U S V P)
      (result : Except CallError (Outcome V)) (world : Lane R T U) (events : List (Event R))
      (here : l.entries = before ++ e :: after)
      (moves : (e.client.call e.decode).move l.now e.call ((lane e.place).get l) =
        .ends result world events) :
      Gone l ((lane e.place).set world
        { l with
          entries := before ++ after
          receipts := l.receipts ++
            [(e.moved l.now l.governor world.governor e.call).receipt result] })

theorem gone_go (l : Ledger R T U S V P) (index : ℕ) : l.Gone (l.perform (.go index)) := by
  simp only [perform]
  split
  · exact .still
  · next e here =>
    split
    · exact .still
    · next moves => exact .goes _ _ e _ _ _ (entries_at here) moves
    · next moves => exact .ends _ _ e _ _ _ (entries_at here) moves

omit [Scalar R] [Transport T] [DecidableEq P] in
/-- What is true of all calls that are under way, and of all that have returned. -/
structure Holds (l : Ledger R T U S V P) (going : Entry R U S V P → Prop)
    (returned : Receipt R U S V → Prop) : Prop where
  entries : ∀ e ∈ l.entries, going e
  receipts : ∀ r ∈ l.receipts, returned r

omit [DecidableEq P] in
structure Invariant (T : Type) [Transport T] (going : Entry R U S V P → Prop)
    (returned : Receipt R U S V → Prop) : Prop where
  goes {e : Entry R U S V P} {now : ℕ} {lane lane' : Lane R T U} {call : Call R U S}
    {events : List (Event R)} : going e →
    (e.client.call e.decode).move now e.call lane = .goes call lane' events →
    going (e.moved now lane.governor lane'.governor call)
  ends {e : Entry R U S V P} {now : ℕ} {lane lane' : Lane R T U}
    {result : Except CallError (Outcome V)} {events : List (Event R)} : going e →
    (e.client.call e.decode).move now e.call lane = .ends result lane' events →
    returned ((e.moved now lane.governor lane'.governor e.call).receipt result)

section

variable {going : Entry R U S V P → Prop} {returned : Receipt R U S V → Prop}

theorem Invariant.gone {l' : Ledger R T U S V P} (inv : Invariant T going returned)
    (h : l.Holds going returned) (gone : l.Gone l') : l'.Holds going returned := by
  cases gone with
  | still => exact h
  | goes before after e call world events here moves =>
    have held := here ▸ h.entries
    refine ⟨fun e' he => ?_, h.receipts⟩
    rcases List.mem_append.mp he with he | he
    · exact held e' (List.mem_append_left _ he)
    · rcases List.mem_cons.mp he with rfl | he
      · exact inv.goes (held e (by simp)) moves
      · exact held e' (by simp [he])
  | ends before after e result world events here moves =>
    have held := here ▸ h.entries
    refine ⟨fun e' he => ?_, fun r hr => ?_⟩
    · rcases List.mem_append.mp he with he | he
      · exact held e' (List.mem_append_left _ he)
      · exact held e' (by simp [he])
    · rcases List.mem_append.mp hr with hr | hr
      · exact h.receipts r hr
      · rw [List.mem_singleton.mp hr]
        exact inv.ends (held e (by simp)) moves

theorem Invariant.perform (inv : Invariant T going returned) (h : l.Holds going returned)
    (deed : Deed R U S V P) (begins : ∀ place client decode request,
      deed = .begin place client decode request → going (.begin place client decode request)) :
    (l.perform deed).Holds going returned := by
  cases deed with
  | begin place client decode request =>
    refine ⟨fun e he => ?_, h.receipts⟩
    rcases List.mem_append.mp he with he | he
    · exact h.entries e he
    · rw [List.mem_singleton.mp he]
      exact begins place client decode request rfl
  | go index => exact inv.gone h (l.gone_go index)
  | govern limits lastSlot => exact ⟨h.entries, h.receipts⟩
  | drift user => exact ⟨h.entries, h.receipts⟩
  | wait d => exact ⟨h.entries, h.receipts⟩

/-- What holds of calls at their beginning, and is not made false, holds of all. -/
theorem Invariant.play (inv : Invariant T going returned) (h : l.Holds going returned)
    {deeds : List (Deed R U S V P)} (begins : ∀ place client decode request,
      .begin place client decode request ∈ deeds → going (.begin place client decode request)) :
    (l.play deeds).Holds going returned := by
  induction deeds generalizing l with
  | nil => exact h
  | cons deed more ih =>
    refine ih (inv.perform h deed fun place client decode request eq => ?_)
      fun place client decode request mem => ?_
    · exact begins place client decode request (eq ▸ List.mem_cons_self)
    · exact begins place client decode request (List.mem_cons_of_mem _ mem)

omit [Scalar R] [Transport T] [DecidableEq P] in
theorem holds_opening (governor : Rate.Controller R) (transports : P → T) (user : U) (now : ℕ) :
    (opening governor transports user now).Holds going returned :=
  ⟨fun _ he => absurd he List.not_mem_nil, fun _ hr => absurd hr List.not_mem_nil⟩

theorem clients_play {p : Client R U S → Prop} (governor : Rate.Controller R) (transports : P → T)
    (user : U) (now : ℕ) {deeds : List (Deed R U S V P)}
    (begins : ∀ place client decode request, .begin place client decode request ∈ deeds → p client) :
    ((opening governor transports user now).play deeds).Holds (p ·.client) (p ·.client) := by
  have inv : Invariant T (fun e : Entry R U S V P => p e.client) (p ·.client) := by
    constructor
    · intro e now lane lane' call events client moves
      rwa [e.moved_client]
    · intro e now lane lane' result events client moves
      show p (e.moved now lane.governor lane'.governor e.call).client
      rwa [e.moved_client]
  exact inv.play (holds_opening governor transports user now) begins

end

omit [Scalar R] [Transport T] [DecidableEq P] in
def Balanced (l : Ledger R T U S V P) : Prop := l.governor.counts = countsOf l.trials

omit [Scalar R] [Transport T] [DecidableEq P] in
theorem countsOf_at {before after : List (Entry R U S V P)} {e : Entry R U S V P} :
    countsOf ({ l with entries := before ++ e :: after }).trials =
      countsOf e.trials + countsOf ({ l with entries := before ++ after }).trials := by
  simp only [trials, List.flatMap_append, List.flatMap_cons, countsOf_append]
  abel

omit [Scalar R] [Transport T] [DecidableEq P] in
theorem Balanced.swap (h : l.Balanced) {before after : List (Entry R U S V P)}
    {e e' : Entry R U S V P} {c : Rate.Controller R} (here : l.entries = before ++ e :: after)
    (noted : countsOf e'.trials + l.governor.counts = countsOf e.trials + c.counts) :
    c.counts = countsOf e'.trials + countsOf ({ l with entries := before ++ after }).trials := by
  have old : l.governor.counts =
      countsOf e.trials + countsOf ({ l with entries := before ++ after }).trials := by
    rw [h, ← countsOf_at, ← here]
  rw [old] at noted
  -- There is no subtraction here: what the old entry stood for is added on both sides.
  refine add_left_cancel (noted.symm.trans ?_)
  abel

theorem Balanced.perform (h : l.Balanced) (deed : Deed R U S V P) : (l.perform deed).Balanced := by
  cases deed with
  | begin place client decode request =>
    refine Eq.trans h ?_
    simp only [Ledger.perform, trials, List.flatMap_append, countsOf_append]
    exact congrArg _ (add_zero _).symm
  | go index =>
    generalize next : l.perform (.go index) = l'
    have gone := next ▸ l.gone_go index
    cases gone with
    | still => exact h
    | goes before after e call world events here moves =>
      obtain ⟨grow, still⟩ := Client.call_goes_counts moves
      exact (h.swap here (e.counts_moved l.now call grow still)).trans countsOf_at.symm
    | ends before after e result world events here moves =>
      obtain ⟨n, exchange, hp, rfl, -⟩ := Client.call_ends_cases moves
      refine (h.swap here (e.counts_moved l.now e.call le_rfl fun _ _ _ => rfl)).trans ?_
      simp only [trials, lane, List.flatMap_append, List.flatMap_singleton, countsOf_append]
      show countsOf (e.moved l.now l.governor l.governor e.call).trials + _ =
        _ + countsOf (e.moved l.now l.governor l.governor e.call).trials + _
      abel
  | govern limits lastSlot => exact h
  | drift user => exact h
  | wait d => exact h

theorem Balanced.play (h : l.Balanced) (deeds : List (Deed R U S V P)) :
    (l.play deeds).Balanced := by
  induction deeds generalizing l with
  | nil => exact h
  | cons deed more ih => exact ih (h.perform deed)

end Ledger

end

end PacedCalls
