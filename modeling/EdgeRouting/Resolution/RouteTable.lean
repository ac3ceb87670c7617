import EdgeRouting.Text.Start
import EdgeRouting.Resolution.Backend

/-!
# The routes of a rule

Each path with a backend has one route, followed by the routes to drop.  If the ingress is served
with TLS, the same is built a second time for the listeners with TLS, where nothing is redirected.

A path by which certificates are issued bypasses authorization, and this takes precedence over
redirection, so that certificates can always be issued.
-/

namespace EdgeRouting

/-- Routes have no limit of time; the services have their own. -/
def routeTimeout : Duration := ⟨0⟩

/-- One matcher for each header of a path, in key order. -/
def HttpPath.headerMatchers (path : HttpPath) : List HeaderMatcher :=
  path.headers.entries.map fun header => ⟨header.1, header.2.exactOrPresent⟩

/-- What one path adds to the table of its rule. -/
structure PathRoutes where
  route : Route
  /-- The route that takes its place for listeners with TLS, if there are any. -/
  tlsRoute : Option Route
  dropped : List Route
  clusters : List Cluster
  deriving DecidableEq

structure RouteTable where
  routes : List Route
  tlsRoutes : List Route
  clusters : List Cluster
  deriving DecidableEq

namespace RouteTable

def empty : RouteTable := ⟨[], [], []⟩

/-- The table with one more path; a path without routes is skipped.  Among the TLS routes the routes
to drop have a place only behind another one. -/
def addPath (table : RouteTable) : Option PathRoutes → RouteTable
  | none => table
  | some path =>
      let tlsRoutes := table.tlsRoutes ++ path.tlsRoute.toList
      { routes := table.routes ++ path.route :: path.dropped
        tlsRoutes := if tlsRoutes.isEmpty then [] else tlsRoutes ++ path.dropped
        clusters := table.clusters ++ path.clusters }

end RouteTable

structure PathContext where
  config : Config
  ingress : Ingress
  rule : Rule
  ruleName : String
  path : HttpPath

namespace PathContext

def routeName (context : PathContext) : String :=
  context.ruleName ++ ".Paths[" ++ context.path.pathOrRoot ++ "]"

def forward (context : PathContext) (weighted : List WeightedCluster) : Route :=
  .forward context.routeName context.path.headerMatchers context.path.pathOrRoot weighted
    routeTimeout context.path.appendHeaders context.path.hostOverride

/-- Requests of the path are not authorized although those of the ingress are. -/
def bypassesExtAuthz (context : PathContext) : Bool :=
  context.config.extAuthzEnabledFor context.ingress &&
    Text.startsWith context.path.pathOrRoot acmeChallengePrefix

def plainRoute (context : PathContext) (weighted : List WeightedCluster) : Route :=
  if context.bypassesExtAuthz then
    (context.forward weighted).withoutExtAuthz
  else if context.config.redirects context.ingress context.rule then
    .redirect context.routeName context.path.headerMatchers context.path.pathOrRoot
  else
    context.forward weighted

def tlsRoute (context : PathContext) (weighted : List WeightedCluster) : Route :=
  if context.bypassesExtAuthz then (context.forward weighted).withoutExtAuthz
  else context.forward weighted

/-- The routes that reject requests, which follow the route of every path. -/
def dropped (context : PathContext) (routes : DropRoutes) : List Route :=
  routes.paths.map (Route.drop context.routeName)

def pathRoutes (context : PathContext) (backends : List Backend) (routes : DropRoutes) :
    PathRoutes :=
  let weighted := backends.map Backend.weighted
  { route := context.plainRoute weighted
    tlsRoute :=
      if context.config.servesTls context.ingress then some (context.tlsRoute weighted) else none
    dropped := context.dropped routes
    clusters := backends.map Backend.cluster }

end PathContext

namespace Plan

def dropRoutes (ingress : Ingress) : Plan DropRoutes :=
  match Annotations.dropRoutes ingress.metadata.annotationsOrEmpty with
  | .ok routes => done routes
  | .error fault => fail (.dropRoutes fault)

/-- What a path adds to the table of its rule; without backends it is nothing. -/
def pathRoutes (context : PathContext) : Plan (Option PathRoutes) := do
  let backends ← each (backend context.config context.ingress context.path) context.path.splits
  if backends.isEmpty then
    return none
  else
    let routes ← dropRoutes context.ingress
    return some (context.pathRoutes backends routes)

/-- The table of a rule.  A rule without routes is not ready, as its virtual host would be
incomplete. -/
def ruleTable (config : Config) (ingress : Ingress) (rule : Rule) (ruleName : String) :
    Plan RouteTable := do
  let paths ← each (fun path => pathRoutes ⟨config, ingress, rule, ruleName, path⟩) rule.paths
  let table := paths.foldl RouteTable.addPath .empty
  if table.routes.isEmpty then notReady else return table

end Plan

end EdgeRouting
