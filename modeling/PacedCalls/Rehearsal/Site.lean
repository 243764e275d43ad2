import PacedCalls.Client.Build
import PacedCalls.Client.Site
import PacedCalls.Rehearsal.Chain

set_option autoImplicit false

namespace PacedCalls.Rehearsal.Working

/-- How a loader is set up. A draft has places for the key, or for the keys of a batch. -/
structure LoaderPlan where
  single : Draft
  decode : Body.Reader Json
  batch : Option (Draft × Nat) := none

structure StationPlan where
  hasTransport : Bool := true
  script : Script := Script.ofList []
  layers : List Layer := []
  rate : Rate.Config Float := Rate.Config.standard
  policy : Retry.Policy Float := {}
  countNotFound : Bool := true
  loader : Option LoaderPlan := none
  cache : Cache.Config := {}

abbrev Loader := RemoteLoader Float Notes Memo String Json

structure Station where
  post : Post Float Notes Memo
  loader : Option Loader := none

/-- The stations and what they work on; how many requests each had sent before the last step. -/
structure World where
  stations : Array Station := #[]
  site : Site Float Script Notes Json :=
    { governors := #[], remotes := #[], caches := #[], user := [] }
  told : List Nat := []

namespace World

def remote (w : World) (i : Nat) : Remote Script := w.site.remotes.getD i default

def sent (w : World) (i : Nat) : List Request := (w.remote i).requests.drop (w.told.getD i 0)

def quiet (w : World) : World :=
  { w with
    site := { w.site with user := [] }
    told := w.site.remotes.toList.map (·.journal.length) }

def governor (w : World) (s : Station) : Rate.Controller Float :=
  w.site.governors.getD s.post.governor default

def withGovernor (w : World) (s : Station) (c : Rate.Controller Float) : World :=
  { w with site := { w.site with governors := w.site.governors.setIfInBounds s.post.governor c } }

def cache (w : World) (s : Station) : Cache.State String Json Failure :=
  w.site.caches.getD s.post.place default

def withCache (w : World) (s : Station) (c : Cache.State String Json Failure) : World :=
  { w with site := { w.site with caches := w.site.caches.setIfInBounds s.post.place c } }

def lens : Lens World (Site Float Script Notes Json) where
  get := site
  set site w := { w with site := site }

end World

def LoaderPlan.loader (p : LoaderPlan) (client : Client Float Notes Memo) : Loader :=
  { client := client
    request := fun key => (p.single.forKey key).request
    notices := p.single.events
    decode := p.decode
    batch := p.batch.map fun (draft, maxSize) =>
      { request := fun keys => (draft.forKey (",".intercalate keys)).request
        notices := draft.events
        decode := Body.saying Body.members "bad batch"
        maxSize := maxSize } }

/-- What is reported when the drafts of a loader are looked through. -/
def LoaderPlan.events (p : LoaderPlan) : List (Event Float) :=
  p.single.events ++ p.batch.toList.flatMap (·.1.events)

inductive BuildError where
  | rate (e : Rate.ConfigError Float)
  | call (e : CallError)
  | status (e : Http.StatusCode.OutOfRange)
  | tableTooLarge

def BuildError.ofCache : Cache.CreationError → BuildError
  | .config e => .call (.cache e.reason)
  | .tableTooLarge => .tableTooLarge

/-- Adds a station. Its client is built first, then its loader and the cache for it. -/
def addStation (shared : Option (Rate.Controller Float)) (w : World) (p : StationPlan) :
    Except BuildError (World × List (Event Float)) := do
  let plan : Client.Plan Notes Memo :=
    { hasTransport := p.hasTransport, rate := p.rate, shared := shared, policy := p.policy
      countNotFound := p.countNotFound, outer := p.layers }
  let (client, governor, events) ← plan.build.mapError .call
  let place := w.stations.size
  let post : Post Float Notes Memo :=
    { client := client, governor := if shared.isSome then 0 else place, place := place }
  let loader := p.loader.map (·.loader client)
  let cache ←
    if loader.isSome then (Cache.State.create p.cache).mapError .ofCache else pure default
  let created := p.loader.toList.flatMap fun l =>
    l.events ++ [Event.cacheCreated p.cache.ttl p.cache.maxSize]
  pure
    ({ w with
        stations := w.stations.push { post := post, loader := loader }
        site := { w.site with
          governors := if shared.isSome then w.site.governors else w.site.governors.push governor
          remotes := w.site.remotes.push { transport := p.script }
          caches := w.site.caches.push cache } },
      events ++ created)

abbrev StationDraft := Except Http.StatusCode.OutOfRange StationPlan

def addStations (shared : Option (Rate.Controller Float)) (w : World) :
    List StationDraft → Except BuildError (World × List (Event Float))
  | [] => .ok (w, [])
  | p :: rest => do
    let (w, events) ← addStation shared w (← p.mapError .status)
    let (w, more) ← addStations shared w rest
    pure (w, events ++ more)

/-- The first scene. A shared controller is made before the clients. -/
def build (share : Option (Rate.Config Float)) (plans : List StationDraft) :
    Except BuildError (World × List (Event Float)) := do
  let w : World := {}
  match share with
  | none => addStations none w plans
  | some config =>
    let (governor, events) ← (Rate.Controller.create config).mapError .rate
    let (w, more) ←
      addStations (some governor) { w with site := { w.site with governors := #[governor] } } plans
    pure (w, events ++ more)

inductive Order where
  | call (decode : Body.Reader Json) (d : Draft)
  | lookup (decode : Body.Reader Json) (d : Draft)
  | load (key : String)
  | loadBatch (keys : List String)
  | read (key : String)
  | readAll (keys : List String)

/-- What is asked of a station about itself, or changed in it at once. -/
inductive Matter where
  | setBase (rate : Float)
  | setMin (rate : Float)
  | reset
  | rate
  | requests
  | policy
  | listing
  | maxBatch
  | inFlight
  | invalidate (key : String)
  | invalidateAll

inductive Step where
  | work (station : Nat) (order : Order)
  | join (group : List (Entry (Nat × Order)))
  | attend (station : Nat) (matter : Matter)
  | advance (d : Nat)

inductive Shown where
  | answer (a : Option (Answer Json))
  | answers (as : List (Ended (Answer Json)))
  | done
  | refused (e : Rate.ConfigError Float)
  | rate (x : Float)
  | requests (rs : List Request)
  | policy (p : Retry.Policy Float)
  | listing (text : String)
  | count (n : Option Nat)

abbrev Stage := Scene World Shown

abbrev Work := Task Float Notes Memo Json

def Order.events : Order → List (Event Float)
  | .call _ d | .lookup _ d => d.events
  | _ => []

/-- The work of an order; orders for a loader are none for a station without one. -/
def Order.start (s : Station) : Order → Option Work
  | .call decode d => some (.call s.post decode (s.post.client.start d.request))
  | .lookup decode d => some (.lookup s.post decode (s.post.client.startLookup d.request))
  | .load key => s.loader.map fun l => .load s.post l (l.begin key)
  | .loadBatch keys => s.loader.map fun l => .loadBatch s.post l (l.beginBatch keys)
  | .read key => s.loader.map fun l => .read s.post l (.start key)
  | .readAll keys => s.loader.map fun l => .readAll s.post l (.start keys)

def process : Process (Event Float) World Work (Answer Json) := Site.process.on World.lens

def World.begin (w : World) (order : Nat × Order) : Option Work :=
  w.stations[order.1]?.bind order.2.start

def World.member (w : World) (e : Entry (Nat × Order)) : Option (Entry Work) :=
  (w.begin e.work).map fun work => { work := work, delay := e.delay, patience := e.patience }

def attempted (s : Station)
    (change : Except (Rate.ConfigError Float) (Rate.Controller Float × List (Event Float)))
    (sc : Stage) : Stage :=
  match change with
  | .ok (c, events) => ((sc.become (sc.world.withGovernor s c)).report events).present .done
  | .error e => sc.present (.refused e)

def attend (s : Station) (matter : Matter) (sc : Stage) : Stage :=
  let w := sc.world
  let governor := w.governor s
  match matter with
  | .setBase x => attempted s (governor.setBase x) sc
  | .setMin x => attempted s (governor.setMin x) sc
  | .reset => sc.become (w.withGovernor s governor.reset)
  | .rate => sc.present (.rate governor.limits.current)
  | .requests => sc.present (.requests (w.remote s.post.place).requests)
  | .policy => sc.present (.policy s.post.client.policy)
  | .listing => sc.present (.listing (s.post.client.listing governor))
  | .maxBatch => sc.present (.count (s.loader.map (·.maxBatch)))
  | .inFlight => sc.present (.count (some (w.cache s).inFlight))
  | .invalidate key => sc.become (w.withCache s ((w.cache s).invalidate key))
  | .invalidateAll =>
    (sc.become (w.withCache s (w.cache s).invalidateAll)).report [.cacheCleared]

def take (sc : Stage) (step : Step) : Stage :=
  let sc := sc.fresh.become sc.world.quiet
  match step with
  | .work station order =>
    match sc.world.begin (station, order) with
    | some work =>
      let (sc, a) := (sc.report order.events).runOne process { work := work }
      sc.present (.answer a)
    | none => sc
  | .join group =>
    let (sc, as) :=
      (sc.report (group.flatMap (·.work.2.events))).run process (group.filterMap sc.world.member)
    sc.present (.answers as)
  | .attend station matter =>
    match sc.world.stations[station]? with
    | some s => attend s matter sc
    | none => sc
  | .advance d => sc.advance d

def play (share : Option (Rate.Config Float)) (plans : List StationDraft) (steps : List Step) :
    Except BuildError (List Stage) := do
  let (w, events) ← build share plans
  pure (Scene.play take { world := w, events := events } steps)

end PacedCalls.Rehearsal.Working
