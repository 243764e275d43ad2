import PacedCalls.Client.RemoteLoader
import PacedCalls.Proofs.Client.Attempts

set_option autoImplicit false

namespace PacedCalls

def Exchange.Transient (x : Exchange) : Prop := ∃ e, x = .error e ∧ e.isTransient = true

def Lane.answer {R T U : Type} [Transport T] (lane : Lane R T U) (request : Request) : Exchange :=
  (Transport.exchange request lane.remote.transport).1.result

namespace Chain

variable {R T U S : Type}

def Pass.sends? : Pass R U S → Option Request
  | .entering [] request _ => some request
  | _ => none

def Pass.heard? : Pass R U S → Option Exchange
  | .sent result _ _ => some result
  | .leaving result _ => some result
  | _ => none

theorem Frame.eq_nil_of_bare {frames : List (Frame R U S)}
    (around : ∀ f ∈ frames, f.Of ([] : List (Layer R U S))) : frames = [] := by
  refine List.eq_nil_iff_forall_not_mem.mpr fun f mem => ?_
  cases f with
  | custom m memo limit inner => cases around _ mem
  | throttle count request => exact around _ mem
  | tracing => exact around _ mem

theorem Stage.heard_goes [Scalar R] [Transport T] {count : Bool} {request : Request} {now : ℕ}
    {pass pass' : Pass R U S} {t : Trial} {lane lane' : Lane R T U} {events : List (Event R)}
    (stage : Stage [] count request pass t)
    (h : process.move now pass lane = .goes pass' lane' events) :
    pass'.heard?.toList = pass.heard?.toList ++ (pass.sends?.map lane.answer).toList ∧
      lane'.remote.journal.length = lane.remote.journal.length + pass.sends?.toList.length := by
  cases stage with
  | outside rest around =>
    obtain rfl := List.subset_nil.mp rest
    simp only [process, Pass.enter, List.nil_append] at h
    split at h <;> cases h <;> exact ⟨rfl, rfl⟩
  | queued slot around =>
    obtain rfl := Frame.eq_nil_of_bare around
    simp only [process] at h
    split at h
    · cases h
      exact ⟨rfl, rfl⟩
    · cases h
  | permitted around =>
    cases h
    exact ⟨rfl, rfl⟩
  | arrived around =>
    cases h
    exact ⟨rfl, rfl⟩
  | sent result arrival around =>
    obtain rfl := Frame.eq_nil_of_bare around
    simp only [process] at h
    split at h
    · cases h
      exact ⟨rfl, rfl⟩
    · cases h
  | back result around =>
    cases h
    exact ⟨rfl, rfl⟩
  | judged result around =>
    cases h
    exact ⟨rfl, rfl⟩
  | told result around =>
    obtain rfl := Frame.eq_nil_of_bare around
    cases h
  | cut point bounded around => exact absurd rfl bounded

end Chain

section

variable {R T U S V s α : Type}

/-- The request that a call gives to the transport with its next move. -/
def Call.sends? (call : Call R U S) : Option Request := call.phase.attempt?.bind Chain.Pass.sends?

def RemoteLoader.Trip.sends? (trip : RemoteLoader.Trip R U S) : Option Request :=
  if trip.1 then none else trip.2.sends?

/-- Moves of a process and what it hears by them. At each move the clock and the lane are as they
happen to be. -/
inductive Hears [Transport T] (p : Process (Event R) (Lane R T U) s α)
    (sends? : s → Option Request) (first : s) : List Exchange → s → Prop where
  | start : Hears p sends? first [] first
  | move {heard : List Exchange} {st st' : s} {now : ℕ} {lane lane' : Lane R T U}
      {events : List (Event R)} (before : Hears p sends? first heard st)
      (moves : p.move now st lane = .goes st' lane' events) :
      Hears p sends? first (heard ++ ((sends? st).map lane.answer).toList) st'

inductive Returns [Transport T] (p : Process (Event R) (Lane R T U) s α)
    (sends? : s → Option Request) (first : s) (heard : List Exchange) (value : α) : Prop where
  | intro (last : s) (before : Hears p sends? first heard last) (now : ℕ) (lane lane' : Lane R T U)
      (events : List (Event R)) (ends : p.move now last lane = .ends value lane' events)

/-- Where a call stands after some answers: all attempts but the present one have failed. -/
inductive Call.Heard (client : Client R U S) (request : Request) :
    Call R U S → List Exchange → Prop where
  | attempting (n : ℕ) {pass : Chain.Pass R U S} {t : Trial} {earlier : List Exchange}
      (stage : Chain.Stage [] client.countNotFound request pass t)
      (failed : ∀ x ∈ earlier, Exchange.Transient x) :
      Heard client request ⟨request, .attempting n pass⟩ (earlier ++ pass.heard?.toList)
  | waiting (n wake : ℕ) {earlier : List Exchange} (failed : ∀ x ∈ earlier, Exchange.Transient x) :
      Heard client request ⟨request, .waiting n wake⟩ earlier

namespace Client

theorem resultOf_transient {request : Request} {decode : Body.Reader V} {x : Exchange}
    {failure : TransportError}
    (h : resultOf request decode x = .error (.transient failure)) :
    x = .error failure ∧ failure.isTransient = true := by
  cases x with
  | ok response =>
    simp only [resultOf, Response.toOutcome] at h
    split at h
    · split at h <;> cases h
    all_goals cases h
  | error e =>
    simp only [resultOf, TransportError.toOutcome?] at h
    cases e with
    | notFound m => cases policy : request.options.notFound <;> simp [policy] at h
    | serviceUnavailable m | internalServerError m | connectionReset m =>
      cases h
      exact ⟨rfl, rfl⟩
    | aborted m | io m cause | request m cause => cases h

end Client

namespace Call.Heard

variable {client : Client R U S} {request : Request} {heard : List Exchange}

theorem fresh (bare : client.outer = []) (request : Request) (n : ℕ)
    (failed : ∀ x ∈ heard, Exchange.Transient x) :
    Call.Heard client request ⟨request, .attempting n (.start client.layers request)⟩ heard := by
  have stage : Chain.Stage [] client.countNotFound request (.start client.layers request) {} := by
    rw [Client.layers, bare]
    exact .outside (List.nil_subset []) (by simp)
  have first : Call.Heard client request _ _ := attempting n stage failed
  simpa [Chain.Pass.start, Chain.Pass.heard?] using first

variable [Scalar R] [Transport T] {decode : Body.Reader V} {call call' : Call R U S} {now : ℕ}
  {lane lane' : Lane R T U} {events : List (Event R)}

theorem goes (place : call.Heard client request heard) (bare : client.outer = [])
    (h : (client.call decode).move now call lane = .goes call' lane' events) :
    call'.Heard client request (heard ++ (call.sends?.map lane.answer).toList) := by
  obtain ⟨same, ⟨n, pass, pass', _, old, new, moves⟩ | ⟨n, exchange, wake, failure, old, new, -, failed⟩ |
    ⟨n, wake, old, new, -⟩⟩ := Client.call_goes_cases h
  all_goals
    obtain ⟨request', phase'⟩ := call'
    cases new
  · cases place with
    | attempting n stage failed =>
      cases old
      cases same
      have timed : ∀ layer ∈ ([] : List (Chain.Layer R U S)), layer.IsTimeout := by simp
      have heard_eq := (stage.heard_goes moves).1
      have next : Call.Heard client request _ _ := attempting n (stage.goes timed moves) failed
      rwa [heard_eq, ← List.append_assoc] at next
    | waiting n wake failed => cases old
  · -- The attempt has failed, so that its answer joins the earlier ones.
    cases place with
    | @attempting n pass t earlier stage before =>
      cases old
      cases same
      obtain ⟨rfl, transient⟩ := Client.resultOf_transient failed
      have all : ∀ x ∈ earlier ++ [Except.error failure], Exchange.Transient x := by
        intro x mem
        rcases List.mem_append.mp mem with mem | mem
        · exact before x mem
        · exact ⟨failure, List.mem_singleton.mp mem, transient⟩
      have next : Call.Heard client request ⟨request, _⟩ _ := waiting n wake all
      simpa [Call.sends?, Chain.Pass.sends?, Chain.Pass.heard?, Retry.Phase.attempt?] using next
    | waiting n wake failed => cases old
  · cases place with
    | attempting n stage failed => cases old
    | waiting n wake failed =>
      cases old
      cases same
      simpa [Call.sends?, Retry.Phase.attempt?] using fresh bare request _ failed

theorem ends {result : Except CallError (Outcome V)} (place : call.Heard client request heard)
    (h : (client.call decode).move now call lane = .ends result lane' events) :
    ∃ earlier last, heard = earlier ++ [last] ∧ (∀ x ∈ earlier, Exchange.Transient x) ∧
      (result = Client.resultOf request decode last ∨
        ∃ n failure, Client.resultOf request decode last = .error (.transient failure) ∧
          result = .error (.retryExhausted request.description n failure)) := by
  obtain ⟨n, exchange, here, -, returned⟩ := Client.call_ends_cases h
  cases place with
  | @attempting n' pass t earlier stage failed =>
    cases here
    exact ⟨earlier, exchange, rfl, failed, returned.imp id fun ⟨failure, told, eq⟩ =>
      ⟨_, failure, told, eq⟩⟩
  | waiting n' wake failed => cases here

end Call.Heard

theorem Hears.call [Scalar R] [Transport T] {p : Process (Event R) (Lane R T U) s α}
    {sends? : s → Option Request} {first st : s} {heard : List Exchange} {client : Client R U S}
    {request : Request} (decode : Body.Reader V) (call : s → Call R U S) (bare : client.outer = [])
    (begins : call first = client.start request)
    (moves : ∀ {now : ℕ} {st st' : s} {lane lane' : Lane R T U} {events : List (Event R)},
      p.move now st lane = .goes st' lane' events →
        (sends? st = none ∧ call st' = call st) ∨
        (sends? st = (call st).sends? ∧
          ∃ events, (client.call decode).move now (call st) lane = .goes (call st') lane' events))
    (hears : Hears p sends? first heard st) : (call st).Heard client request heard := by
  induction hears with
  | start =>
    rw [begins]
    exact Call.Heard.fresh bare request 1 (List.forall_mem_nil _)
  | move before went ih =>
    obtain ⟨silent, same⟩ | ⟨sends, _, goes⟩ := moves went
    · rw [silent, same]
      simpa using ih
    · rw [sends]
      exact ih.goes bare goes

namespace RemoteLoader

variable [Scalar R] [Transport T] {c : Client R U S} {notices : List (Event R)}
  {decode : Body.Reader V} {trip trip' : Trip R U S} {now : ℕ} {lane lane' : Lane R T U}
  {events : List (Event R)}

theorem lookupCall_goes
    (h : (lookupCall c notices decode).move now trip lane = .goes trip' lane' events) :
    (trip.1 = true ∧ trip' = (false, trip.2) ∧ lane' = lane) ∨
    (trip.1 = false ∧ trip'.1 = false ∧
      ∃ events, (c.call decode).move now trip.2 lane = .goes trip'.2 lane' events) := by
  obtain ⟨told, call⟩ := trip
  cases told with
  | true =>
    cases h
    exact .inl ⟨rfl, rfl, rfl⟩
  | false =>
    obtain ⟨call', w, mapped, rfl, rfl⟩ := Process.lift_goes h
    obtain ⟨call'', w', moves, rfl, rfl⟩ := Process.lift_goes mapped
    refine .inr ⟨rfl, rfl, ?_⟩
    simp only [Process.thenReport] at moves
    split at moves
    · cases moves
    · exact ⟨_, moves⟩

theorem lookupCall_ends {value : Lookup V Failure}
    (h : (lookupCall c notices decode).move now trip lane = .ends value lane' events) :
    trip.1 = false ∧ ∃ result events,
      (c.call decode).move now trip.2 lane = .ends result lane' events ∧
        value = Client.lookupOf result := by
  obtain ⟨told, call⟩ := trip
  cases told with
  | true => cases h
  | false =>
    obtain ⟨value', w, mapped, rfl, rfl⟩ := Process.lift_ends h
    obtain ⟨result, w', moves, rfl, rfl⟩ := Process.lift_ends mapped
    refine ⟨rfl, result, ?_⟩
    simp only [Process.thenReport] at moves
    split at moves
    · next moves' =>
      cases moves
      exact ⟨_, moves', rfl⟩
    · exact ⟨_, moves, rfl⟩

theorem lookupCall_returns {request : Request} {heard : List Exchange} {value : Lookup V Failure}
    (bare : c.outer = [])
    (returns : Returns (lookupCall (T := T) c notices decode) Trip.sends? (true, c.start request)
      heard value) :
    ∃ earlier last, heard = earlier ++ [last] ∧ (∀ x ∈ earlier, Exchange.Transient x) ∧
      ∃ result, value = Client.lookupOf result ∧
        (result = Client.resultOf request decode last ∨
          ∃ n failure, Client.resultOf request decode last = .error (.transient failure) ∧
            result = .error (.retryExhausted request.description n failure)) := by
  obtain ⟨trip, before, now, lane, lane', events, ends⟩ := returns
  have place : trip.2.Heard c request heard := by
    refine before.call decode Prod.snd bare rfl fun went => ?_
    obtain ⟨untold, rfl, -⟩ | ⟨told, -, goes⟩ := lookupCall_goes went
    · exact .inl ⟨by rw [Trip.sends?, if_pos untold], rfl⟩
    · exact .inr ⟨by simp [Trip.sends?, told], goes⟩
  obtain ⟨-, result, _, ended, rfl⟩ := lookupCall_ends ends
  obtain ⟨earlier, last, rfl, failed, returned⟩ := place.ends ended
  exact ⟨earlier, last, rfl, failed, result, rfl, returned⟩

end RemoteLoader

theorem Client.lookup_returns [Scalar R] [Transport T] {c : Client R U S} {decode : Body.Reader V}
    {request : Request} {heard : List Exchange} {l : Lookup V Failure} (bare : c.outer = [])
    (returns : Returns (c.lookup (T := T) decode) Call.sends? (c.start request) heard (.ok l)) :
    ∃ earlier last o, heard = earlier ++ [last] ∧ resultOf request decode last = .ok o ∧
      l = o.toLookup := by
  obtain ⟨call, before, now, lane, lane', events, ends⟩ := returns
  have place : call.Heard c request heard := by
    refine before.call decode id bare rfl fun went => .inr ⟨rfl, ?_⟩
    obtain ⟨call', w, moves, rfl, rfl⟩ := Process.lift_goes went
    exact ⟨_, moves⟩
  obtain ⟨result, w, ended, told, rfl⟩ := Process.lift_ends ends
  obtain ⟨earlier, last, rfl, -, returned⟩ := place.ends ended
  rcases returned with rfl | ⟨n, failure, -, rfl⟩
  · cases result : resultOf request decode last with
    | ok o =>
      rw [result] at told
      cases told
      exact ⟨earlier, last, o, rfl, result, rfl⟩
    | error e =>
      rw [result] at told
      cases told
  · cases told

/-- Moves a process at some instants, one after the other, until it returns. -/
def converse [Transport T] (p : Process (Event R) (Lane R T U) s α) (sends? : s → Option Request) :
    List ℕ → s → Lane R T U → Option (List Exchange × α)
  | [], _, _ => none
  | now :: later, st, lane =>
    match p.move now st lane with
    | .waits _ => none
    | .ends value _ _ => some ([], value)
    | .goes st' lane' _ =>
      (converse p sends? later st' lane').map fun (heard, value) =>
        (((sends? st).map lane.answer).toList ++ heard, value)

theorem Hears.converse [Transport T] {p : Process (Event R) (Lane R T U) s α}
    {sends? : s → Option Request} {first st : s} {before heard : List Exchange} {value : α}
    {instants : List ℕ} {lane : Lane R T U} (hears : Hears p sends? first before st)
    (h : PacedCalls.converse p sends? instants st lane = some (heard, value)) :
    Returns p sends? first (before ++ heard) value := by
  induction instants generalizing st before heard lane with
  | nil => cases h
  | cons now later ih =>
    simp only [PacedCalls.converse] at h
    split at h
    · cases h
    · next ends =>
      cases h
      rw [List.append_nil]
      exact ⟨st, hears, now, lane, _, _, ends⟩
    · next moves =>
      obtain ⟨⟨rest, value'⟩, more, told⟩ := Option.map_eq_some_iff.mp h
      cases told
      rw [← List.append_assoc]
      exact ih (.move hears moves) more

end

end PacedCalls
