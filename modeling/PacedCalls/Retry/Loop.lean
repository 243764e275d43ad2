import PacedCalls.CallError
import PacedCalls.Event
import PacedCalls.Process
import PacedCalls.Retry.Policy

/-!
The retry loop: work is done again, after a wait, as long as it fails with a transient error and
the policy allows it. Every other result is returned as it is.
-/

set_option autoImplicit false

namespace PacedCalls.Retry

inductive Verdict (α : Type) where
  | return (result : Except CallError α)
  | giveUp (failure : TransportError)
  | wait (d : Nat) (failure : TransportError)

namespace Policy

variable {R α : Type} [Scalar R]

/-- The rule of the loop, after attempt `n`, attempts counted from one. -/
def verdict (p : Policy R) (n : Nat) (result : Except CallError α) : Verdict α :=
  match result with
  | .error (.transient failure) =>
    if !p.enabled then .return (.error (.transient failure))
    else if p.maxAttempts.any (· ≤ n) then .giveUp failure
    else .wait (p.backoff.delay (n - 1)) failure
  | other => .return other

theorem verdict_disabled {p : Policy R} (disabled : p.enabled = false) (n : Nat)
    (result : Except CallError α) : p.verdict n result = .return result := by
  unfold verdict
  split
  · simp [disabled]
  · rfl

end Policy

/-- Where the loop stands: in an attempt, or between two; `n` attempts have begun. -/
inductive Phase (s : Type) where
  | attempting (n : Nat) (state : s)
  | waiting (n : Nat) (wake : Nat)

variable {R σ s α : Type} [Scalar R]

def Phase.start (fresh : s) : Phase s := .attempting 1 fresh

/-- The loop over some work, each attempt of which starts in state `fresh`. -/
def loop (policy : Policy R) (target : String)
    (work : Process (Event R) σ s (Except CallError α)) (fresh : s) :
    Process (Event R) σ (Phase s) (Except CallError α) where
  move now phase w :=
    match phase with
    | .attempting n st =>
      match work.move now st w with
      | .waits wake => .waits wake
      | .goes st w events => .goes (.attempting n st) w events
      | .ends result w events =>
        match policy.verdict n result with
        | .return result => .ends result w events
        | .giveUp failure =>
          .ends (.error (.retryExhausted target n failure)) w
            (events ++ [.retryGivesUp target n failure.text])
        | .wait d failure =>
          .goes (.waiting n (Instant.after now d)) w
            (events ++ [.retryWaits target n d failure.text])
    | .waiting n wake =>
      if Instant.due wake now then .goes (.attempting (min (n + 1) lastAttempt) fresh) w []
      else .waits (some wake)
  abandon phase w :=
    match phase with
    | .attempting _ st => work.abandon st w
    | .waiting _ _ => w

end PacedCalls.Retry
