import PacedCalls.Document.Calls
import PacedCalls.Document.Settings
import PacedCalls.Rehearsal.Site

set_option autoImplicit false

namespace PacedCalls.Document

open Rehearsal

abbrev Checked := Except Http.StatusCode.OutOfRange

/-- A line of a script: a response, at once or after a while, or a failure. -/
def readReply (j : Json) : Reading (Checked Reply) := do
  let (name, arg) ← readStep j
  match name with
  | "respond" | "respond_text" => .ok ((← readResponse arg).map ({ result := .ok · }))
  | "respond_after" =>
    let delay ← readMillis (field "delay_ms" arg)
    .ok ((← readResponse arg).map ({ result := .ok ·, delay := delay }))
  | "fail" => .ok (.ok { result := .error (← readTransportError arg) })
  | _ => expected "script line"

def readScript (j : Json) : Reading (Checked Script) := do
  .ok (((← readListOf readReply j).mapM id).map Script.ofList)

def readLayer (j : Json) : Reading (Checked Layer) := do
  let (name, arg) ← readStep j
  match name with
  | "recorder" => .ok (.ok (.custom (.recorder none (← readText arg))))
  | "twice" => .ok (.ok (.custom .twice))
  | "timeout_ms" => .ok (.ok (.custom (.timeout none (← readMillis arg))))
  | "tracing" => .ok (.ok .tracing)
  | "add_header" =>
    let (name, value) ← readPair readText readText arg
    .ok (.ok (.custom (.addHeader none name value)))
  | "short" => .ok ((← readResponse arg).map fun r => .custom (.short (.ok r)))
  | "throttle" => .ok (.ok (.throttle ((← readOption readBool arg).getD true)))
  | _ => expected "middleware"

def readLayers (j : Json) : Reading (Checked (List Layer)) := do
  .ok ((← readListOf readLayer j).mapM id)

def readRatesOr (standard : Rate.Config Float) (j : Json) : Reading (Rate.Config Float) := do
  .ok ((← readOption readRates j).getD standard)

def readLoaderPlan (j : Json) : Reading Working.LoaderPlan := do
  let decode ← match ← readText (field "decode" j) with
    | "json" => pure Body.json
    | "strict" => pure (Body.saying Body.json "bad json")
    | "text" => pure (Body.map Body.text .str)
    | _ => expected "body reader"
  let batch ← readOption (fun b => do
    pure (← readDraft (field "request" b), ← readNat (field "max_size" b))) (field "batch" j)
  .ok { single := ← readDraft (field "request" j), decode := decode, batch := batch }

def readStation (j : Json) : Reading (Checked Working.StationPlan) := do
  let script ← readScript (field "script" j)
  let layers ← readLayers (field "middlewares" j)
  let plan : Working.StationPlan :=
    { hasTransport := match field "transport" j with
        | .str "none" => false
        | _ => true
      rate := ← readRatesOr Rate.Config.standard (field "rate" j)
      policy := ← readPolicy (field "retry" j)
      countNotFound := (← readOption readBool (field "count_not_found" j)).getD true
      loader := ← readOption readLoaderPlan (field "loader" j)
      cache := ← readCacheConfig (field "cache" j) }
  .ok do pure { plan with script := ← script, layers := ← layers }

end PacedCalls.Document
