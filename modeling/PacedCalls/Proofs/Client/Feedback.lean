import PacedCalls.Proofs.Client.Attempts

/-!
What callers see, and what the controller is told. Without middlewares of the user the two agree on
every call, and the counters of the controller are the sum of what all attempts did. With timeouts
they agree on an attempt exactly if no timeout has cut it.
-/

set_option autoImplicit false

namespace PacedCalls

section

variable {R T U S V P : Type}

namespace Receipt

def fed (r : Receipt R U S V) : List Status := r.trials.flatMap Trial.fed

def increases (r : Receipt R U S V) : ℕ := (r.trials.map Trial.increases).sum

def decreases (r : Receipt R U S V) : ℕ := (r.trials.map Trial.decreases).sum

end Receipt

/-- Whether "not found" lowers the rate: the request decides it first, and then the client. -/
def countsNotFound (client : Client R U S) (request : Request) : Prop :=
  request.options.countNotFound.getD client.countNotFound = true

instance (client : Client R U S) (request : Request) :
    Decidable (countsNotFound client request) :=
  inferInstanceAs (Decidable (_ = _))

def Trial.Silent (t : Trial) : Prop := t.fed = [] ∧ t.increases = 0 ∧ t.decreases = 0

structure Trial.Told (t : Trial) (client : Client R U S) (request : Request) (s : Status) :
    Prop where
  permits : t.permits = 1
  fed : t.fed = [s]
  increases : t.increases = if s.isOk then 1 else 0
  decreases : t.decreases =
    if s.needsRetry ∧ (s = .notFound → countsNotFound client request) then 1 else 0

structure Receipt.Faithful (r : Receipt R U S V) : Prop where
  permits : ∀ t ∈ r.trials, t.permits = 1
  outcome : ∀ o, r.result = .ok o → r.fed = [o.status] ∧
    r.increases = (if o.status.isOk then 1 else 0) ∧
    r.decreases = if o.status.needsRetry ∧
      (o.status = .notFound → countsNotFound r.client r.request) then 1 else 0
  decode : ∀ description reason, r.result = .error (.decode description reason) →
    r.fed = [.success] ∧ r.increases = 1 ∧ r.decreases = 0
  transient : ∀ failure, r.result = .error (.transient failure) → ∀ t ∈ r.trials, t.Silent
  exhausted : ∀ description n failure,
    r.result = .error (.retryExhausted description n failure) →
      n = min r.trials.length Retry.lastAttempt ∧ ∀ t ∈ r.trials, t.Silent
  error : ∀ e, r.result = .error e →
    e.isTransient = true ∨ ∃ description reason, e = .decode description reason

theorem Trial.silent_quiet : quiet.Silent := ⟨rfl, rfl, rfl⟩

theorem slows_iff (client : Client R U S) (request : Request) (s : Status) :
    Chain.slows client.countNotFound request.options s = true ↔
      s.needsRetry = true ∧ (s = .notFound → countsNotFound client request) := by
  cases s <;> simp [Chain.slows, countsNotFound, Status.needsRetry]

theorem Trial.told_answered (client : Client R U S) (request : Request) (s : Status) :
    (answered client.countNotFound request.options (some s)).Told client request s where
  permits := rfl
  fed := rfl
  increases := rfl
  decreases := if_congr (slows_iff client request s) rfl rfl

namespace Receipt

variable {r : Receipt R U S V} {earlier : List Trial} {last : Trial}

/-- Only the last attempt of a call has anything to feed back. -/
theorem sums_of_quiet (trials : r.trials = earlier ++ [last])
    (quiet : ∀ t ∈ earlier, t = .quiet) :
    r.fed = last.fed ∧ r.increases = last.increases ∧ r.decreases = last.decreases := by
  have fed : earlier.flatMap Trial.fed = [] :=
    List.flatMap_eq_nil_iff.mpr fun t ht => by rw [quiet t ht]; rfl
  have none (f : Trial → ℕ) (zero : f .quiet = 0) : (earlier.map f).sum = 0 := by
    refine List.sum_eq_zero fun n hn => ?_
    obtain ⟨t, ht, rfl⟩ := List.mem_map.mp hn
    rw [quiet t ht, zero]
  refine ⟨?_, ?_, ?_⟩
  · rw [Receipt.fed, trials, List.flatMap_append, fed, List.flatMap_singleton, List.nil_append]
  · rw [increases, trials, List.map_append, List.sum_append, none _ rfl, List.map_singleton,
      List.sum_singleton, zero_add]
  · rw [decreases, trials, List.map_append, List.sum_append, none _ rfl, List.map_singleton,
      List.sum_singleton, zero_add]

theorem Kept.faithful (h : r.Kept) (unbounded : r.client.outer = []) : r.Faithful := by
  obtain ⟨earlier, last, trials, quiet, yields⟩ := h
  obtain ⟨fed, increases, decreases⟩ := sums_of_quiet trials quiet
  have all {p : Trial → Prop} (q : p .quiet) (l : p last) : ∀ t ∈ r.trials, p t := by
    intro t ht
    rw [trials] at ht
    rcases List.mem_append.mp ht with ht | ht
    · rwa [quiet t ht]
    · rwa [List.mem_singleton.mp ht]
  generalize returned : r.result = result at yields
  cases yields with
  | failed failure =>
    exact {
      permits := all rfl rfl
      outcome := by simp [returned]
      decode := by simp [returned]
      transient := fun _ _ => all Trial.silent_quiet Trial.silent_quiet
      exhausted := by simp [returned]
      error := by
        rw [returned]
        rintro e ⟨⟩
        exact .inl rfl }
  | gaveUp failure =>
    exact {
      permits := all rfl rfl
      outcome := by simp [returned]
      decode := by simp [returned]
      transient := by simp [returned]
      exhausted := by
        rw [returned]
        rintro _ _ _ ⟨⟩
        exact ⟨rfl, all Trial.silent_quiet Trial.silent_quiet⟩
      error := by
        rw [returned]
        rintro e ⟨⟩
        exact .inl rfl }
  | undecoded reason =>
    exact {
      permits := all rfl rfl
      outcome := by simp [returned]
      decode := fun _ _ _ => ⟨fed, increases, decreases⟩
      transient := by simp [returned]
      exhausted := by simp [returned]
      error := by
        rw [returned]
        rintro e ⟨⟩
        exact .inr ⟨_, _, rfl⟩ }
  | outcome o =>
    have told := Trial.told_answered r.client r.request o.status
    exact {
      permits := all rfl rfl
      outcome := by
        rw [returned]
        rintro _ ⟨⟩
        exact ⟨fed.trans told.fed, increases.trans told.increases, decreases.trans told.decreases⟩
      decode := by simp [returned]
      transient := by simp [returned]
      exhausted := by simp [returned]
      error := by simp [returned] }
  | cut point bounded o error => exact absurd unbounded bounded

end Receipt

theorem countsOf_eq (trials : List Trial) :
    countsOf trials = ((trials.map Trial.permits).sum, (trials.map Trial.increases).sum,
      (trials.map Trial.decreases).sum) := by
  induction trials with
  | nil => rfl
  | cons t trials ih =>
    have cons : countsOf (t :: trials) = t.counts + countsOf trials := List.sum_cons
    rw [cons, ih]
    rfl

namespace Ledger

variable [Scalar R] [Transport T] [DecidableEq P]

omit [Transport T] [DecidableEq P] in
theorem balanced_opening {config : Rate.Config R} {governor : Rate.Controller R}
    {events : List (Event R)} (made : Rate.Controller.create config = .ok (governor, events))
    (transports : P → T) (user : U) (now : ℕ) :
    (opening governor transports user now : Ledger R T U S V P).Balanced := by
  obtain ⟨-, rfl⟩ := Rate.create_ok made
  rfl

/-- What calls return agrees with what they have caused, whatever they do side by side, and nothing
else is ever counted. -/
theorem feedback_agrees {config : Rate.Config R} {governor : Rate.Controller R}
    {events : List (Event R)} (made : Rate.Controller.create config = .ok (governor, events))
    (transports : P → T) (user : U) (now : ℕ) (deeds : List (Deed R U S V P)) :
    let l := (opening governor transports user now).play deeds
    (∀ r ∈ l.receipts, r.client.outer = [] → r.Faithful) ∧
      l.governor.granted = (l.trials.map Trial.permits).sum ∧
      l.governor.increases = (l.trials.map Trial.increases).sum ∧
      l.governor.decreases = (l.trials.map Trial.decreases).sum := by
  intro l
  have kept := kept_play governor transports user now deeds
  have balanced : l.Balanced := (balanced_opening made transports user now).play deeds
  refine ⟨fun r hr unbounded => (kept.receipts r hr ?_).faithful unbounded, ?_⟩
  · intro layer hl
    rw [unbounded] at hl
    cases hl
  · have counts := balanced.trans (countsOf_eq l.trials)
    simpa only [Rate.Controller.counts, Prod.mk.injEq] using counts

def quarterly : Rate.Config Float := { base := 4, min := 1 }

/-- The first exchange fails, and is tried again; one finds nothing, one succeeds, and all others
find nothing. -/
def mixedAnswers : Script :=
  let missing : Reply := { result := .ok { status := ⟨404, by decide, by decide⟩ } }
  let good : Reply := { result := .ok { status := Http.StatusCode.success } }
  Script.ofList [{ result := .error (.connectionReset "down") }, missing, good, missing]

/-- Three calls side by side: the second does not count what is not found, and the third cannot read
what it gets. -/
def threeCalls : List (Deed Float Unit Unit Unit Unit) :=
  let client : Client Float Unit Unit := { policy := .fixed (Duration.ofMillis 5) }
  let request : Request := { method := ⟨"GET"⟩, url := "/" }
  let uncounted : Request := { request with options := { countNotFound := some false } }
  let round : List (Deed Float Unit Unit Unit Unit) :=
    [.go 0, .go 1, .go 2, .wait (Duration.ofMillis 100)]
  [.begin () client Body.ignore request, .begin () client Body.ignore uncounted,
    .begin () client (fun _ => .error {}) request] ++ (List.replicate 20 round).flatten

def threeReturned : Ledger Float Script Unit Unit Unit Unit :=
  (opening (.ofConfig quarterly) (fun _ => mixedAnswers) () 0).play threeCalls

/-- They have all returned, and the controller has counted one increase and one decrease. -/
theorem feedback_agrees_threeCalls :
    (∀ r ∈ threeReturned.receipts, r.Faithful) ∧
      threeReturned.receipts.map
        (fun r => (r.result.toOption.map Outcome.status, r.trials.length)) =
          [(some .notFound, 1), (none, 1), (some .notFound, 2)] ∧
      threeReturned.entries.length = 0 ∧ threeReturned.governor.granted = 4 ∧
      threeReturned.governor.increases = 1 ∧ threeReturned.governor.decreases = 1 := by
  have made : Rate.Controller.create quarterly = .ok (.ofConfig quarterly, _) := rfl
  obtain ⟨faithful, granted, increases, decreases⟩ :=
    feedback_agrees made (fun _ => mixedAnswers) () 0 threeCalls
  have bare : threeReturned.receipts.all (fun r => r.client.outer.isEmpty) = true := by
    decide +kernel
  refine ⟨fun r hr => faithful r hr (List.isEmpty_iff.mp (List.all_eq_true.mp bare r hr)),
    by decide +kernel, by decide +kernel, granted.trans ?_, increases.trans ?_,
    decreases.trans ?_⟩ <;> decide +kernel

/-- An attempt that gives the caller a status has taken a permit and fed back that status if, and
only if, no timeout has cut it. One that was cut feeds nothing back, though the caller is given an
error; and it has no permit if it still waited for its slot. -/
theorem told_iff_not_cut (governor : Rate.Controller R) (transports : P → T) (user : U) (now : ℕ)
    (deeds : List (Deed R U S V P)) {r : Receipt R U S V}
    (returned : r ∈ ((opening governor transports user now).play deeds).receipts)
    (timed : r.client.Timed) :
    ∃ (earlier : List Trial) (last : Trial), r.trials = earlier ++ [last] ∧
      (∀ t ∈ earlier, t.permits = 1 ∧ t.Silent ∧ t.cut = none) ∧
      ∀ o, r.result = .ok o →
        (last.Told r.client r.request o.status ↔ last.cut = none) ∧
        ∀ point, last.cut = some point → o.status = .error ∧ last.Silent ∧
          last.permits = if point = .atAnswer then 1 else 0 := by
  have kept := kept_play governor transports user now deeds
  obtain ⟨earlier, last, trials, quiet, yields⟩ := kept.receipts r returned timed
  refine ⟨earlier, last, trials, fun t ht => ?_, ?_⟩
  · rw [quiet t ht]
    exact ⟨rfl, Trial.silent_quiet, rfl⟩
  · intro o ok
    rw [ok] at yields
    cases yields with
    | outcome =>
      have told := Trial.told_answered r.client r.request o.status
      exact ⟨⟨fun _ => rfl, fun _ => told⟩, nofun⟩
    | cut point bounded _ error =>
      refine ⟨⟨fun told => ?_, nofun⟩, ?_⟩
      · exact absurd told.fed nofun
      · rintro _ ⟨⟩
        refine ⟨error, ⟨rfl, rfl, rfl⟩, ?_⟩
        cases point <;> rfl

def impatient : Client Float Unit Unit where
  outer := [.custom (.timeout () (Duration.ofMillis 100))]
  policy := .disabled

theorem timed_impatient : impatient.Timed := by
  intro layer hl
  rw [List.mem_singleton.mp hl]
  exact ⟨(), _, rfl⟩

/-- The first exchange is refused at once, and the others take a second. -/
def slowAnswers : Script :=
  Script.ofList
    [{ result := .ok { status := ⟨503, by decide, by decide⟩ } },
      { result := .ok { status := Http.StatusCode.success }, delay := Duration.second }]

/-- One call is answered; of the two that come half a second later one is not answered in time, and
the other does not even get its permit. -/
def oneInTime : List (Deed Float Unit Unit Unit Unit) :=
  let request : Request := { method := ⟨"GET"⟩, url := "/" }
  let begin : Deed Float Unit Unit Unit Unit := .begin () impatient Body.ignore request
  List.flatten
    [[begin], .replicate 10 (.go 0), [.wait (Duration.ofMillis 500), begin, begin],
      .replicate 5 (.go 0), .replicate 2 (.go 1), [.wait (Duration.ofMillis 100)],
      .replicate 6 (.go 0)]

def twoCut : Ledger Float Script Unit Unit Unit Unit :=
  (opening (.ofConfig quarterly) (fun _ => slowAnswers) () 0).play oneInTime

theorem timed_twoCut : ∀ r ∈ twoCut.receipts, r.client.Timed := by
  refine (clients_play _ _ _ _ fun place client decode request mem => ?_).receipts
  have begun : client = impatient ∧ decode = Body.ignore ∧
      request = { method := ⟨"GET"⟩, url := "/" } := by
    simpa [oneInTime] using mem
  rw [begun.1]
  exact timed_impatient

theorem told_iff_not_cut_oneInTime :
    twoCut.receipts.map (fun r => (r.result.toOption.map Outcome.status, r.trials.map Trial.cut)) =
        [(some .error, [none]), (some .error, [some .atAnswer]), (some .error, [some .atSlot])] ∧
      ∀ r ∈ twoCut.receipts, ∃ last ∈ r.trials, ∀ o, r.result = .ok o →
        (last.Told r.client r.request o.status ↔ last.cut = none) := by
  refine ⟨by decide +kernel, fun r hr => ?_⟩
  obtain ⟨earlier, last, trials, -, told⟩ :=
    told_iff_not_cut _ _ () 0 oneInTime hr (timed_twoCut r hr)
  exact ⟨last, by simp [trials], fun o ok => (told o ok).1⟩

/-- Two calls give their callers an error, and the controller is not told of it: the one has taken a
permit, and the other has not. The rate is lowered for the first call only. -/
theorem cut_unheard :
    twoCut.receipts.map (fun r => (r.result.toOption.map Outcome.status, r.trials)) =
        [(some .error, [{ permits := 1, decreases := 1, fed := [.error] }]),
          (some .error, [{ permits := 1, cut := some .atAnswer }]),
          (some .error, [{ cut := some .atSlot }])] ∧
      twoCut.governor.granted = 2 ∧ twoCut.governor.decreases = 1 := by
  decide +kernel

end Ledger

end

end PacedCalls
