/-
  Routes: where the path of a request leads.

  * `Route`: the six routes of the service, each with its path and its method;
  * `leads`: what counts as the path of a route; `Route.ofPath?` is the route of a path;
  * `otherEnding`: the path that differs in the slashes at its end only;
  * `Destination` and `destination`: a route, a page of the documentation, a path to be corrected at
    its end, or nothing.

  `ofPath?_eq_some_iff`: a path belongs to one route at most.  `destination_path`: the path of a
  route leads to that route.
-/
import DiagramLint.Text.Strip

namespace DiagramLint.Http

/-- A path, character by character. -/
abbrev Path := List Char

/-! ## Routes -/

/-- A route of the service. -/
inductive Route where
  | root
  | health
  | info
  | validate
  | batch
  | realtime
  deriving Repr, DecidableEq

namespace Route

/-- The routes. -/
def all : List Route := [root, health, info, validate, batch, realtime]

/-- The path of a route. -/
def path : Route → String
  | root => "/"
  | health => "/api/v1/health"
  | info => "/api/v1/info"
  | validate => "/api/v1/validate"
  | batch => "/api/v1/validate/batch"
  | realtime => "/api/v1/validate/realtime"

/-- The one method that a route answers. -/
def method : Route → String
  | root | health | info => "GET"
  | validate | batch | realtime => "POST"

end Route

/-- The pages of the documentation. -/
def pages : List String := ["/openapi.json", "/docs", "/docs/oauth2-redirect", "/redoc"]

/-- The methods that a page answers. -/
def pageMethods : List String := ["GET", "HEAD"]

/-! ## Paths -/

/-- The path is the target, to the letter; one newline may follow it. -/
def leads (p : Path) (target : String) : Bool :=
  p == target.toList || p == target.toList ++ ['\n']

/-- The route of a path. -/
def Route.ofPath? (p : Path) : Option Route := all.find? fun r => leads p r.path

/-- The path is that of a page. -/
def isPage (p : Path) : Bool := pages.any (leads p)

/-- The path without the slashes at its end, or with one if there is none. -/
def otherEnding (p : Path) : Path :=
  if p.getLast? = some '/' then Text.stripEnd (· == '/') p else p ++ ['/']

/-- Where a path leads. -/
inductive Destination where
  | route (r : Route)
  | page
  /-- Another path leads somewhere, which differs in the slashes at its end only. -/
  | redirection
  | nowhere
  deriving Repr, DecidableEq

/-- Where a path leads; only if it leads nowhere by itself, its other ending is tried. -/
def destination (p : Path) : Destination :=
  match Route.ofPath? p with
  | some r => .route r
  | none =>
    if isPage p then .page
    else if (Route.ofPath? (otherEnding p)).isSome || isPage (otherEnding p) then .redirection
    else .nowhere

/-! ## A path has one route -/

theorem leads_iff {p : Path} {target : String} :
    leads p target = true ↔ p = target.toList ∨ p = target.toList ++ ['\n'] := by
  simp [leads]

theorem Route.mem_all (r : Route) : r ∈ all := by
  cases r <;> decide

/-- Of two routes no path leads to both. -/
theorem Route.eq_of_leads {p : Path} {r s : Route} (hr : leads p r.path = true)
    (hs : leads p s.path = true) : r = s := by
  rcases leads_iff.1 hr with rfl | rfl <;> cases r <;> cases s <;>
    first | rfl | exact absurd hs (by decide)

/-- **A path belongs to one route at most**: the one that it leads to. -/
theorem Route.ofPath?_eq_some_iff {p : Path} {r : Route} :
    ofPath? p = some r ↔ leads p r.path = true := by
  constructor
  · intro h
    have h' := List.find?_some h
    exact h'
  · intro h
    unfold ofPath?
    cases hf : all.find? fun r => leads p r.path with
    | none =>
      rw [List.find?_eq_none] at hf
      exact absurd h (hf r (mem_all r))
    | some s =>
      have hs := List.find?_some hf
      exact congrArg some (eq_of_leads hs h)

theorem destination_path (r : Route) : destination r.path.toList = .route r := by
  unfold destination
  rw [Route.ofPath?_eq_some_iff.2 (leads_iff.2 (.inl rfl))]

end DiagramLint.Http
