import PacedCalls.Cache.ReadAll
import PacedCalls.Client.RemoteLoader

set_option autoImplicit false

namespace PacedCalls

/-- Controllers, transports, caches, and the state of the users' middlewares. -/
structure Site (R T U V : Type) where
  governors : Array (Rate.Controller R)
  remotes : Array (Remote T)
  caches : Array (Cache.State String V Failure)
  user : U

/-- A client of a site: which controller is its own, and which transport and cache. -/
structure Post (R U S : Type) where
  client : Client R U S
  governor : Nat
  place : Nat

inductive Task (R U S V : Type) where
  | call (post : Post R U S) (decode : Body.Reader V) (state : Call R U S)
  | lookup (post : Post R U S) (decode : Body.Reader V) (state : Call R U S)
  | load (post : Post R U S) (loader : RemoteLoader R U S String V)
      (state : RemoteLoader.Trip R U S)
  | loadBatch (post : Post R U S) (loader : RemoteLoader R U S String V)
      (state : RemoteLoader.Batch R U S String V)
  | read (post : Post R U S) (loader : RemoteLoader R U S String V)
      (state : Cache.Read String (RemoteLoader.Trip R U S))
  | readAll (post : Post R U S) (loader : RemoteLoader R U S String V)
      (state : Cache.ReadAll String V Failure (RemoteLoader.Trip R U S)
        (RemoteLoader.Batch R U S String V))

inductive Answer (V : Type) where
  | outcome (result : Except CallError (Outcome V))
  | lookup (result : Except CallError (Lookup V Failure))
  | loaded (result : Lookup V Failure)
  | batch (result : Except Failure (List (String × V)))
  | answers (results : List (Lookup V Failure))

namespace Site

variable {R T U S V : Type}

def lane [Inhabited (Rate.Controller R)] [Inhabited (Remote T)] (post : Post R U S) :
    Lens (Site R T U V) (Lane R T U) where
  get site :=
    { governor := site.governors.getD post.governor default
      remote := site.remotes.getD post.place default
      user := site.user }
  set lane site :=
    { site with
      governors := site.governors.setIfInBounds post.governor lane.governor
      remotes := site.remotes.setIfInBounds post.place lane.remote
      user := lane.user }

/-- A client's cache together with the part that its calls work on. -/
def cached [Inhabited (Rate.Controller R)] [Inhabited (Remote T)] (post : Post R U S) :
    Lens (Site R T U V) (Cache.State String V Failure × Lane R T U) where
  get site := (site.caches.getD post.place default, (lane post).get site)
  set part site :=
    let site := { site with caches := site.caches.setIfInBounds post.place part.1 }
    (lane post).set part.2 site

variable [Scalar R] [Transport T] [Inhabited (Rate.Controller R)] [Inhabited (Remote T)]

def process : Process (Event R) (Site R T U V) (Task R U S V) (Answer V) where
  move now task site :=
    match task with
    | .call post decode st =>
      (((post.client.call decode).on (lane post)).move now st site).lift
        (.call post decode ·) .outcome id
    | .lookup post decode st =>
      (((post.client.lookup decode).on (lane post)).move now st site).lift
        (.lookup post decode ·) .lookup id
    | .load post loader st =>
      ((loader.load.on (lane post)).move now st site).lift (.load post loader ·) .loaded id
    | .loadBatch post loader st =>
      ((loader.loadBatch.on (lane post)).move now st site).lift (.loadBatch post loader ·) .batch id
    | .read post loader st =>
      (((Cache.Read.process loader.toLoader).on (cached post)).move now st site).lift
        (.read post loader ·) .loaded id
    | .readAll post loader st =>
      (((Cache.ReadAll.process loader.toLoader).on (cached post)).move now st site).lift
        (.readAll post loader ·) .answers id
  abandon task site :=
    match task with
    | .call post decode st => ((post.client.call decode).on (lane post)).abandon st site
    | .lookup post decode st => ((post.client.lookup decode).on (lane post)).abandon st site
    | .load post loader st => (loader.load.on (lane post)).abandon st site
    | .loadBatch post loader st => (loader.loadBatch.on (lane post)).abandon st site
    | .read post loader st =>
      ((Cache.Read.process loader.toLoader).on (cached post)).abandon st site
    | .readAll post loader st =>
      ((Cache.ReadAll.process loader.toLoader).on (cached post)).abandon st site

end Site

instance {T : Type} [Inhabited T] : Inhabited (Remote T) := ⟨{ transport := default }⟩

instance : Inhabited Script := ⟨Script.ofList []⟩

instance {R : Type} [Scalar R] : Inhabited (Rate.Controller R) :=
  ⟨Rate.Controller.ofConfig { base := Scalar.ofNat 1, min := Scalar.ofNat 1 }⟩

end PacedCalls
