import PacedCalls.Cache.Read
import PacedCalls.Proofs.Client.Exchanges

set_option autoImplicit false

namespace PacedCalls

section

variable {R T U S K V : Type}

namespace Response

theorem callStatus_cases (r : Response) :
    (r.callStatus = .success ∧ (r.status.val = 200 ∨ r.status.val = 202)) ∨
    (r.callStatus = .notFound ∧ r.status.val = 404) ∨
    ((r.callStatus = .error ∨ r.callStatus = .invalid ∨ r.callStatus = .denied) ∧
      r.status.val ≠ 200 ∧ r.status.val ≠ 202 ∧ r.status.val ≠ 404) := by
  unfold callStatus Status.ofResponse
  split
  · next code => exact .inl ⟨rfl, .inl code⟩
  · next code => exact .inl ⟨rfl, .inr code⟩
  · next code => exact .inr (.inr ⟨.inr (.inl rfl), by omega⟩)
  · next code => exact .inr (.inl ⟨rfl, code⟩)
  · next code => exact .inr (.inr ⟨.inr (.inr rfl), by omega⟩)
  · next code => exact .inr (.inr ⟨.inl rfl, by omega⟩)
  · next ok accepted _ missing _ _ =>
    refine .inr (.inr ⟨?_, ok, accepted, missing⟩)
    split
    · exact .inr (.inl rfl)
    · exact .inl rfl

end Response

inductive Exchange.Means (decode : Body.Reader V) : Exchange → Lookup V Failure → Prop where
  | found {response : Response} {v : V} (success : response.callStatus = .success)
      (code : response.status.val = 200 ∨ response.status.val = 202)
      (decoded : decode response = .ok v) : Means decode (.ok response) (.found v)
  | undecoded {response : Response} {e : Body.Error} {message : String}
      (success : response.callStatus = .success)
      (code : response.status.val = 200 ∨ response.status.val = 202)
      (failed : decode response = .error e) :
      Means decode (.ok response) (.error ⟨.fatalError, message⟩)
  | missing {response : Response} (status : response.callStatus = .notFound)
      (code : response.status.val = 404) : Means decode (.ok response) .notFound
  | refused {response : Response} {message : String}
      (status : response.callStatus = .error ∨ response.callStatus = .invalid ∨
        response.callStatus = .denied)
      (code : response.status.val ≠ 200 ∧ response.status.val ≠ 202 ∧ response.status.val ≠ 404) :
      Means decode (.ok response) (.error ⟨response.callStatus, message⟩)
  | absent {m : String} : Means decode (.error (.notFound m)) .notFound
  | aborted {m message : String} :
      Means decode (.error (.aborted m)) (.error ⟨.aborted, message⟩)
  | io {m message : String} {cause : Cause} :
      Means decode (.error (.io m cause)) (.error ⟨.error, message⟩)
  | request {m message : String} {cause : Cause} :
      Means decode (.error (.request m cause)) (.error ⟨.fatalError, message⟩)
  | transient {e : TransportError} {message : String} (passing : e.isTransient = true) :
      Means decode (.error e) (.error ⟨.error, message⟩)

namespace Client

variable {request : Request} {decode : Body.Reader V}

theorem means_resultOf (policy : request.options.notFound = .absent) (decode : Body.Reader V)
    (x : Exchange) : Exchange.Means decode x (lookupOf (resultOf request decode x)) := by
  cases x with
  | ok response =>
    simp only [resultOf, Response.toOutcome]
    obtain ⟨success, code⟩ | ⟨status, code⟩ | ⟨status, code⟩ := response.callStatus_cases
    · rw [success]
      cases decoded : decode response with
      | ok v => exact .found success code decoded
      | error e => exact .undecoded success code decoded
    · rw [status]
      exact .missing status code
    · have refused (message : String) :
          Exchange.Means decode (.ok response) (.error ⟨response.callStatus, message⟩) :=
        .refused status code
      rcases status with status | status | status <;> rw [status] at refused ⊢ <;>
        exact refused _
  | error e =>
    cases e with
    | serviceUnavailable m | internalServerError m | connectionReset m => exact .transient rfl
    | aborted m => exact .aborted
    | notFound m =>
      simp only [resultOf, TransportError.toOutcome?, policy]
      exact .absent
    | io m cause => exact .io
    | request m cause => exact .request

theorem means_exhausted {x : Exchange} {failure : TransportError}
    (failed : resultOf request decode x = .error (.transient failure)) (n : ℕ) :
    Exchange.Means decode x
      (lookupOf (.error (.retryExhausted request.description n failure) :
        Except CallError (Outcome V))) := by
  obtain ⟨rfl, passing⟩ := resultOf_transient failed
  exact .transient passing

end Client

structure Exchange.Decides [DecidableEq K] (decode : Body.Reader V) (last : Exchange)
    (value : Lookup V Failure) : Prop where
  found : ∀ v, value = .found v ↔ ∃ response, last = .ok response ∧
    (response.status.val = 200 ∨ response.status.val = 202) ∧ decode response = .ok v
  notFound : value = .notFound ↔
    (∃ response, last = .ok response ∧ response.status.val = 404) ∨ ∃ m, last = .error (.notFound m)
  retryable : ∀ f, value = .error f → (f.isRetryable = true ↔
    Transient last ∨ (∃ m, last = .error (.aborted m)) ∨ (∃ m cause, last = .error (.io m cause)) ∨
      ∃ response, last = .ok response ∧ response.callStatus = .error)
  permanent : ((∃ response e, last = .ok response ∧ response.callStatus = .success ∧
      decode response = .error e) ∨
    (∃ response, last = .ok response ∧
      (response.callStatus = .denied ∨ response.callStatus = .invalid)) ∨
    ∃ m cause, last = .error (.request m cause)) → ∃ f, value = .error f ∧ f.isRetryable = false
  stored : ∀ (s : Cache.State K V Failure) (g : Cache.Guard K) (now : ℕ),
    (∀ v, value = .found v →
      (s.settle g value now).store = (s.store.insert g.key (some v) now).2) ∧
    (value = .notFound → (s.settle g value now).store = (s.store.insert g.key none now).2) ∧
    ∀ f, value = .error f → (s.settle g value now).store = s.store

theorem Exchange.Means.decides [DecidableEq K] {decode : Body.Reader V} {last : Exchange}
    {value : Lookup V Failure} (means : Means decode last value) :
    Decides (K := K) decode last value where
  found v := by
    cases means with
    | found success code decoded => simp [code, decoded]
    | undecoded success code failed => simp [failed]
    | missing status code => simp [code]
    | refused status code => simp [code]
    | absent | aborted | io | request | transient => simp
  notFound := by
    cases means with
    | found success code decoded => simp; omega
    | undecoded success code failed => simp; omega
    | missing status code => simp [code]
    | refused status code => simp [code]
    | absent | aborted | io | request => simp
    | @transient e message passing => cases e <;> simp_all [TransportError.isTransient]
  retryable f eq := by
    cases means with
    | found | missing | absent => cases eq
    | undecoded success code failed =>
      cases eq
      simp [Failure.isRetryable, Status.needsRetry, Transient, success]
    | refused status code =>
      cases eq
      rcases status with status | status | status <;>
        simp [Failure.isRetryable, Status.needsRetry, Transient, status]
    | aborted | io => cases eq; simp [Failure.isRetryable, Status.needsRetry]
    | request =>
      cases eq
      simp [Failure.isRetryable, Status.needsRetry, Transient, TransportError.isTransient]
    | transient passing =>
      cases eq
      simp [Failure.isRetryable, Status.needsRetry, Transient, passing]
  permanent := by
    rintro (⟨response, e, rfl, success, failed⟩ | ⟨response, rfl, status⟩ | ⟨m, cause, rfl⟩)
    · cases means <;> simp_all [Failure.isRetryable, Status.needsRetry]
    · cases means <;> rcases status with status | status <;>
        simp_all [Failure.isRetryable, Status.needsRetry]
    · cases means with
      | request => exact ⟨_, rfl, rfl⟩
      | transient passing => cases passing
  stored s g now := by
    simp only [s.settle_store]
    exact ⟨fun _ eq => eq ▸ rfl, fun eq => eq ▸ rfl, fun _ eq => eq ▸ rfl⟩

/-- A load has heard transient failures and then one exchange that decides. A lookup of the same
request that hears the same finds out the same, unless it tells of an error. -/
theorem RemoteLoader.load_decided [DecidableEq K] [Scalar R] [Transport T]
    (l : RemoteLoader R U S K V) (bare : l.client.outer = []) (key : K) {heard : List Exchange}
    {value : Lookup V Failure}
    (returns : Returns (l.load (T := T)) Trip.sends? (l.begin key) heard value) :
    ∃ earlier last, heard = earlier ++ [last] ∧ (∀ x ∈ earlier, Exchange.Transient x) ∧
      Exchange.Decides (K := K) l.decode last value ∧
      ∀ found, Returns (l.client.lookup (T := T) l.decode) Call.sends?
        (l.client.startLookup (l.request key)) heard (.ok found) → value = found := by
  have policy : ((l.request key).notFound .absent).options.notFound = .absent := rfl
  obtain ⟨earlier, last, rfl, failed, result, rfl, returned⟩ := lookupCall_returns bare returns
  refine ⟨earlier, last, rfl, failed, ?_, fun found looked => ?_⟩
  · rcases returned with rfl | ⟨n, failure, told, rfl⟩
    · exact (Client.means_resultOf policy l.decode last).decides
    · exact (Client.means_exhausted told n).decides
  · obtain ⟨earlier', last', o, same, meant, rfl⟩ := Client.lookup_returns bare looked
    obtain ⟨-, same⟩ := List.append_inj' same rfl
    cases same
    rcases returned with rfl | ⟨n, failure, told, -⟩
    · rw [meant]
      rfl
    · cases told.symm.trans meant

end

def sizes : RemoteLoader Float Unit Unit ℕ ℕ where
  client := { policy := .fixed (Duration.ofMillis 5) }
  request key := { method := ⟨"GET"⟩, url := "/" ++ Nat.repr key }
  decode := Body.size

/-- The first answer is a failure to be waited out, all others have two octets. -/
def secondGood : Lane Float Script Unit where
  governor := .ofConfig { base := 4, min := 1 }
  remote :=
    { transport := .ofList [{ result := .error (.connectionReset "down") },
        { result := .ok { status := Http.StatusCode.success, body := [7, 7] } }] }
  user := ()

def secondGoodHeard : List Exchange :=
  [.error (.connectionReset "down"), .ok { status := Http.StatusCode.success, body := [7, 7] }]

/-- When a call moves: it fails at once, and its second permit comes after a quarter of a second. -/
def callInstants : List ℕ :=
  List.replicate 7 0 ++ List.replicate 2 (Duration.ofMillis 5) ++
    List.replicate 7 (Duration.ofMillis 250)

/-- A load hears both answers and finds what a lookup finds. -/
theorem RemoteLoader.load_decided_secondTime :
    Returns (sizes.load (T := Script)) Trip.sends? (sizes.begin 8) secondGoodHeard (.found 2) ∧
      Returns (sizes.client.lookup (T := Script) sizes.decode) Call.sends?
        (sizes.client.startLookup (sizes.request 8)) secondGoodHeard (.ok (.found 2)) ∧
      ∃ earlier last, secondGoodHeard = earlier ++ [last] ∧
        (∀ x ∈ earlier, Exchange.Transient x) ∧ Exchange.Decides (K := ℕ) Body.size last (.found 2) ∧
        ∀ found, Returns (sizes.client.lookup (T := Script) sizes.decode) Call.sends?
          (sizes.client.startLookup (sizes.request 8)) secondGoodHeard (.ok found) →
            Lookup.found 2 = found := by
  have load : converse (sizes.load (T := Script)) Trip.sends? (0 :: callInstants) (sizes.begin 8)
      secondGood = some (secondGoodHeard, .found 2) := rfl
  have lookup : converse (sizes.client.lookup (T := Script) sizes.decode) Call.sends? callInstants
      (sizes.client.startLookup (sizes.request 8)) secondGood =
        some (secondGoodHeard, .ok (.found 2)) := rfl
  have returns := Hears.start.converse load
  exact ⟨returns, Hears.start.converse lookup, sizes.load_decided rfl 8 returns⟩

end PacedCalls
