import ArrayWatch.Dashboard.Credentials
import ArrayWatch.Dashboard.Route
import ArrayWatch.Metrics.Exposition
import ArrayWatch.Snapshot.Document

/-!
# Dashboard

What the dashboard answers to a request. It reads the snapshot that was published last, and changes
nothing. A path leads to a handler, which asks for the credentials itself before it looks anything
up. The parts of the path are read before that, and a path that leads nowhere has no handler.

* `Dashboard.handle_of_not_admitted`: without the right credentials every handler refuses.
-/

namespace ArrayWatch

/-- A request, with its headers in order. -/
structure HttpRequest where
  method : String
  target : String
  headers : List (String × String)
  deriving DecidableEq, Repr

namespace HttpRequest

/-- The first header with a name, in whatever case it is written. -/
def header? (r : HttpRequest) (name : String) : Option String :=
  (r.headers.find? fun header => header.1.toLower == name).map Prod.snd

def authorization? (r : HttpRequest) : Option String := r.header? "authorization"

end HttpRequest

/-- What an answer holds. -/
inductive Body where
  | empty
  | document (v : Value)
  /-- The start page, of which only the number of bytes is known here. -/
  | page (bytes : Nat)
  | lines (lines : List String)
  deriving Repr, Inhabited

/-- An answer. -/
structure Response where
  status : Nat
  contentType : Option String
  /-- How to give credentials. -/
  challenge : Option String
  allow : Option String
  body : Body
  deriving Repr, Inhabited

namespace Response

def jsonType : String := "application/json"

def document (v : Value) : Response := ⟨200, some jsonType, none, none, .document v⟩

/-- The number of bytes in the start page. -/
def pageLength : Nat := 3757

def page : Response := ⟨200, some "text/html; charset=utf-8", none, none, .page pageLength⟩

def metrics (lines : List String) : Response :=
  ⟨200, some "text/plain; version=0.0.4", none, none, .lines lines⟩

/-- A document that tells what is wrong. -/
def failure (reason : String) : Body := .document (.table [("error", .text reason)])

def notFound (reason : String) : Response := ⟨404, some jsonType, none, none, failure reason⟩

def unauthorized : Response :=
  ⟨401, some jsonType, some "Basic realm=\"katmon\"", none, failure "unauthorized"⟩

def methodNotAllowed : Response := ⟨405, none, none, some "GET,HEAD", .empty⟩

def badParameter (p : BadParameter) : Response :=
  ⟨400, some "text/plain; charset=utf-8", none, none, .lines [p.message]⟩

/-- The answer without what it holds. -/
def headOnly (r : Response) : Response :=
  { r with body := match r.body with
      | .page _ => .page 0
      | _ => .empty }

end Response

/-- Why a handler does not give what is asked for. -/
inductive Refusal where
  | unauthorized
  | notFound (what : String)
  deriving DecidableEq, Repr

def Refusal.response : Refusal → Response
  | unauthorized => .unauthorized
  | notFound what => .notFound what

/-- The answer of a handler. -/
def Response.ofHandler : Except Refusal Response → Response
  | .ok response => response
  | .error refusal => refusal.response

/-- The published snapshot and the metrics, behind the configured credentials. -/
structure Dashboard where
  config : DashboardConfig
  snapshot : Snapshot
  metrics : Metrics
  deriving Repr, Inhabited

namespace Dashboard

/-! ## Handlers -/

/-- Refuses a request without the right credentials, where some are asked for. -/
def authorize (d : Dashboard) (r : HttpRequest) : Except Refusal Unit :=
  if d.config.admits r.authorization? then .ok () else .error .unauthorized

/-- A place that is counted from one. -/
def place (what text : String) : Except Refusal Nat :=
  match (Decimal.read? Decimal.word64 text.toList).filter (0 < ·) with
  | some position => .ok position
  | none => .error (.notFound ("no " ++ what ++ " " ++ text))

/-- The document of what was found, or the reason why nothing was. -/
def found (reason : String) : Option Value → Except Refusal Response
  | some v => .ok (.document v)
  | none => .error (.notFound reason)

/-- The list of CMCs with summaries of their arrays, and the ranking. -/
def cmcList (s : Snapshot) : Value :=
  .table [("generated_at", .time s.generatedAt), ("cmcs", .list (s.cmcs.map CmcView.summary)),
    ("ranked", .list (s.ranked.map RankEntry.toValue))]

def serveIndex (d : Dashboard) (r : HttpRequest) : Except Refusal Response := do
  d.authorize r
  return .page

def listCmcs (d : Dashboard) (r : HttpRequest) : Except Refusal Response := do
  d.authorize r
  return .document (cmcList d.snapshot)

def showCmc (d : Dashboard) (r : HttpRequest) (cmc : String) : Except Refusal Response := do
  d.authorize r
  let position ← place "cmc" cmc
  found ("no cmc " ++ cmc) ((d.snapshot.cmc? position).map CmcView.summary)

def showCmcArray (d : Dashboard) (r : HttpRequest) (cmc array : String) :
    Except Refusal Response := do
  d.authorize r
  let position ← place "cmc" cmc
  found ("no array " ++ array ++ " on cmc " ++ cmc)
    ((d.snapshot.array? position array).map ArrayView.toValue)

def showRankedArray (d : Dashboard) (r : HttpRequest) (rank : String) :
    Except Refusal Response := do
  d.authorize r
  let position ← place "array ranked" rank
  found ("no array ranked " ++ rank) ((d.snapshot.rankedArray? position).map ArrayView.toValue)

def showMetrics (d : Dashboard) (r : HttpRequest) : Except Refusal Response := do
  d.authorize r
  return .metrics d.metrics.exposition

/-- The handler of a route. -/
def handle (d : Dashboard) (r : HttpRequest) : Route → Except Refusal Response
  | .index => d.serveIndex r
  | .cmcList => d.listCmcs r
  | .cmc cmc => d.showCmc r cmc
  | .cmcArray cmc array => d.showCmcArray r cmc array
  | .rankedArray rank => d.showRankedArray r rank
  | .metrics => d.showMetrics r

theorem handle_of_not_admitted {d : Dashboard} {r : HttpRequest}
    (h : d.config.admits r.authorization? = false) (route : Route) :
    d.handle r route = .error .unauthorized := by
  have hauthorize : d.authorize r = .error .unauthorized := by simp [authorize, h]
  cases route with
  | index => simp only [handle, serveIndex, hauthorize]; rfl
  | cmcList => simp only [handle, listCmcs, hauthorize]; rfl
  | cmc cmc => simp only [handle, showCmc, hauthorize]; rfl
  | cmcArray cmc array => simp only [handle, showCmcArray, hauthorize]; rfl
  | rankedArray rank => simp only [handle, showRankedArray, hauthorize]; rfl
  | metrics => simp only [handle, showMetrics, hauthorize]; rfl

/-! ## Requests -/

/-- The answer to a request for a route, whose parameters were read from the path. -/
def respondTo (d : Dashboard) (r : HttpRequest) (route : Except BadParameter Route) : Response :=
  if r.method = "GET" ∨ r.method = "HEAD" then
    match route with
    | .error parameter => .badParameter parameter
    | .ok route => .ofHandler (d.handle r route)
  else .methodNotAllowed

/-- The answer to a request, before its content is left out where only the head is asked for. -/
def dispatch (d : Dashboard) (r : HttpRequest) : Response :=
  match Route.ofTarget? r.target with
  | none => .notFound "no such route"
  | some route => d.respondTo r route

/-- The answer to a request. -/
def respond (d : Dashboard) (r : HttpRequest) : Response :=
  if r.method = "HEAD" then (d.dispatch r).headOnly else d.dispatch r

end Dashboard

end ArrayWatch
