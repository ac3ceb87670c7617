import EdgeRouting.Resource.Metadata

/-!
# Routes

What the proxy does with the requests that match a path prefix and some headers: forward them to
weighted clusters, redirect them to HTTPS, or answer them itself.
-/

namespace EdgeRouting

structure Duration where
  milliseconds : Nat
  deriving DecidableEq, Repr

/-- A request header and the text that it must have; without a text it must only be there. -/
structure HeaderMatcher where
  name : String
  exactMatch : Option String
  deriving DecidableEq, Repr

structure RouteMatch where
  pathPrefix : String
  headers : List HeaderMatcher
  deriving DecidableEq, Repr

/-- A header that is added to requests, or takes the place of one that is there. -/
structure HeaderValue where
  key : String
  value : String
  append : Bool
  deriving DecidableEq, Repr

structure WeightedCluster where
  name : String
  weight : UInt32
  requestHeaders : List HeaderValue
  deriving DecidableEq, Repr

structure ForwardAction where
  weightedClusters : List WeightedCluster
  /-- Zero for no limit. -/
  timeout : Duration
  upgrades : List String
  hostOverride : Option String
  deriving DecidableEq, Repr

inductive RouteAction where
  | forward (action : ForwardAction)
  | redirect (https : Bool) (status : UInt16)
  | respond (status : UInt16)
  deriving DecidableEq, Repr

/-- A setting of the external authorization filter. -/
inductive ExtAuthz where
  | disabled
  | check (contextExtensions : TextMap)
  deriving DecidableEq

structure Route where
  name : String
  criteria : RouteMatch
  action : RouteAction
  requestHeaders : List HeaderValue
  extAuthz : Option ExtAuthz
  deriving DecidableEq

inductive RouteKind where
  /-- Forwards to weighted clusters. -/
  | normal
  /-- Forwards to weighted clusters without authorization. -/
  | extAuthzDisabled
  | redirect
  /-- Rejects requests without asking a backend. -/
  | drop
  deriving DecidableEq, Repr

def RouteKind.label : RouteKind → String
  | normal => "Normal"
  | extAuthzDisabled => "ExtAuthzDisabled"
  | redirect => "Redirect"
  | drop => "Drop"

/-- The prefix of the paths by which certificates are issued. -/
def acmeChallengePrefix : String := "/.well-known/acme-challenge/"

/-- The headers of a map, in key order, each overwriting one that is there. -/
def headersToAdd (headers : TextMap) : List HeaderValue :=
  headers.entries.map fun header => ⟨header.1, header.2, false⟩

def WeightedCluster.make (name : String) (weight : UInt32) (headers : TextMap) :
    WeightedCluster :=
  ⟨name, weight, headersToAdd headers⟩

namespace Route

/-- Forwards requests to weighted clusters and lets connections become web sockets. -/
def forward (name : String) (headers : List HeaderMatcher) (path : String)
    (weightedClusters : List WeightedCluster) (timeout : Duration) (appendHeaders : TextMap)
    (hostOverride : Option String) : Route where
  name
  criteria := ⟨path, headers⟩
  action := .forward ⟨weightedClusters, timeout, ["websocket"], hostOverride⟩
  requestHeaders := headersToAdd appendHeaders
  extAuthz := none

/-- Redirects requests to HTTPS for good. -/
def redirect (name : String) (headers : List HeaderMatcher) (path : String) : Route where
  name
  criteria := ⟨path, headers⟩
  action := .redirect true 301
  requestHeaders := []
  extAuthz := none

/-- Answers requests as if nothing were there. -/
def drop (name : String) (path : String) : Route where
  name
  criteria := ⟨path, []⟩
  action := .respond 404
  requestHeaders := []
  extAuthz := none

def withoutExtAuthz (route : Route) : Route := { route with extAuthz := some .disabled }

def kind (route : Route) : RouteKind :=
  match route.action, route.extAuthz with
  | .forward _, some .disabled => .extAuthzDisabled
  | .forward _, _ => .normal
  | .redirect _ _, _ => .redirect
  | .respond _, _ => .drop

/-- The clusters of a route that forwards; other routes have none. -/
def weightedClusters (route : Route) : List WeightedCluster :=
  match route.action with
  | .forward action => action.weightedClusters
  | _ => []

end Route

end EdgeRouting
