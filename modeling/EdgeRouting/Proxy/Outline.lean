import EdgeRouting.Proxy.Config
import EdgeRouting.Text.Quoted

/-!
# Outlines

A configuration for a reader: every field, item and entry on a line of its own, with four more
spaces at each level and a comma at its end.
-/

namespace EdgeRouting

/-- What is shown: words, named records, lists, maps, and values in a named wrapper. -/
inductive Outline where
  | word (text : String)
  | record (name : String) (fields : List (String × Outline))
  | wrapped (name : String) (content : Outline)
  | list (items : List Outline)
  | map (entries : List (String × Outline))

namespace Outline

/-- The beginning of a line at a level. -/
def margin (level : Nat) : String := String.ofList (List.replicate (4 * level) ' ')

mutual

/-- The lines of an outline, whose first line is begun and whose last one is not ended. -/
def render (level : Nat) : Outline → String
  | word text => text
  | record name fields =>
      name ++ " \x7b\n" ++ renderFields (level + 1) fields ++ margin level ++ "\x7d"
  | wrapped name content =>
      name ++ "(\n" ++ margin (level + 1) ++ render (level + 1) content ++ ",\n" ++
        margin level ++ ")"
  | list [] => "[]"
  | list (first :: rest) =>
      "[\n" ++ margin (level + 1) ++ render (level + 1) first ++ ",\n" ++
        renderItems (level + 1) rest ++ margin level ++ "]"
  | map [] => "\x7b\x7d"
  | map ((key, first) :: rest) =>
      "\x7b\n" ++ margin (level + 1) ++ key ++ ": " ++ render (level + 1) first ++ ",\n" ++
        renderFields (level + 1) rest ++ margin level ++ "\x7d"

def renderFields (level : Nat) : List (String × Outline) → String
  | [] => ""
  | (name, value) :: rest =>
      margin level ++ name ++ ": " ++ render level value ++ ",\n" ++ renderFields level rest

def renderItems (level : Nat) : List Outline → String
  | [] => ""
  | item :: rest =>
      margin level ++ render level item ++ ",\n" ++ renderItems level rest

end

def text (value : String) : Outline := word (Text.quoted value)

def number (value : Nat) : Outline := word (toString value)

def switch (value : Bool) : Outline := word (if value then "true" else "false")

def option {α : Type} (form : α → Outline) : Option α → Outline
  | none => word "None"
  | some value => wrapped "Some" (form value)

def texts (values : List String) : Outline := list (values.map text)

def bytes (content : Bytes) : Outline := list (content.map fun byte => number byte.toNat)

def textMap (entries : TextMap) : Outline :=
  map (entries.entries.map fun entry => (Text.quoted entry.1, text entry.2))

end Outline

open Outline

/-- The decimals of a fraction of a second, without zeros at the end. -/
def Duration.decimals (milliseconds : Nat) : String :=
  let digits := (toString (1000 + milliseconds)).toList.drop 1
  String.ofList (digits.reverse.dropWhile (· = '0')).reverse

/-- Whole and broken seconds from one second on, milliseconds below that, and no time at all in
nanoseconds. -/
def Duration.display (duration : Duration) : String :=
  let seconds := duration.milliseconds / 1000
  let rest := duration.milliseconds % 1000
  if duration.milliseconds = 0 then "0ns"
  else if seconds = 0 then toString rest ++ "ms"
  else if rest = 0 then toString seconds ++ "s"
  else toString seconds ++ "." ++ Duration.decimals rest ++ "s"

def ObjectName.outline (object : ObjectName) : Outline :=
  record "NamespacedName" [("namespace", text object.ns), ("name", text object.name)]

def SniMatch.outline (sni : SniMatch) : Outline :=
  record "SniMatch" [
    ("hosts", texts sni.hosts),
    ("cert_source", sni.certSource.outline),
    ("certificate_chain", bytes sni.certificateChain),
    ("private_key", bytes sni.privateKey)]

def Endpoint.outline (endpoint : Endpoint) : Outline :=
  record "LbEndpoint" [
    ("address", record "SocketAddress" [
      ("address", text endpoint.address),
      ("port_value", number endpoint.port.toNat)])]

def TransportSocket.outline (socket : TransportSocket) : Outline :=
  record "TransportSocket" [
    ("name", text socket.name),
    ("typed_config", record "Any" [
      ("type_url", text socket.typeUrl),
      ("value", bytes socket.value)])]

def Cluster.outline (cluster : Cluster) : Outline :=
  record "Cluster" [
    ("name", text cluster.name),
    ("discovery_type", word cluster.discovery.label),
    ("connect_timeout", word cluster.connectTimeout.display),
    ("load_assignment", record "ClusterLoadAssignment" [
      ("cluster_name", text cluster.assignmentName),
      ("endpoints", list (cluster.endpoints.map Endpoint.outline))]),
    ("http2", switch cluster.http2),
    ("transport_socket", option TransportSocket.outline cluster.transportSocket)]

def HeaderMatcher.outline (header : HeaderMatcher) : Outline :=
  record "HeaderMatcher" [
    ("name", text header.name),
    ("exact_match", option text header.exactMatch)]

def HeaderValue.outline (header : HeaderValue) : Outline :=
  record "HeaderValueOption" [
    ("key", text header.key),
    ("value", text header.value),
    ("append", switch header.append)]

def WeightedCluster.outline (cluster : WeightedCluster) : Outline :=
  record "WeightedCluster" [
    ("name", text cluster.name),
    ("weight", number cluster.weight.toNat),
    ("request_headers_to_add", list (cluster.requestHeaders.map HeaderValue.outline))]

def ForwardAction.outline (action : ForwardAction) : Outline :=
  record "ForwardAction" [
    ("weighted_clusters", list (action.weightedClusters.map WeightedCluster.outline)),
    ("timeout", word action.timeout.display),
    ("upgrade_configs", texts action.upgrades),
    ("host_rewrite_literal", option text action.hostOverride)]

def RouteAction.outline : RouteAction → Outline
  | forward action => wrapped "Route" action.outline
  | redirect https status =>
      wrapped "Redirect" (record "RedirectAction" [
        ("https_redirect", switch https),
        ("response_code", number status.toNat)])
  | respond status =>
      wrapped "DirectResponse" (record "DirectResponseAction" [("status", number status.toNat)])

def ExtAuthz.outline : ExtAuthz → Outline
  | disabled => word "Disabled"
  | check contextExtensions =>
      record "CheckSettings" [("context_extensions", textMap contextExtensions)]

def Route.outline (route : Route) : Outline :=
  record "Route" [
    ("name", text route.name),
    ("match", record "RouteMatch" [
      ("prefix", text route.criteria.pathPrefix),
      ("headers", list (route.criteria.headers.map HeaderMatcher.outline))]),
    ("action", route.action.outline),
    ("request_headers_to_add", list (route.requestHeaders.map HeaderValue.outline)),
    ("ext_authz", option ExtAuthz.outline route.extAuthz)]

def VirtualHost.outline (host : VirtualHost) : Outline :=
  record "VirtualHost" [
    ("name", text host.name),
    ("domains", texts host.domains),
    ("routes", list (host.routes.map Route.outline)),
    ("ext_authz", option ExtAuthz.outline host.extAuthz)]

def ProxyConfig.outline (config : ProxyConfig) : Outline :=
  record "Translated" [
    ("name", config.name.outline),
    ("listener_port", option text config.listenerPort),
    ("sni_matches", list (config.sniMatches.map SniMatch.outline)),
    ("clusters", list (config.clusters.map Cluster.outline)),
    ("external_virtual_hosts", list (config.externalVirtualHosts.map VirtualHost.outline)),
    ("external_tls_virtual_hosts",
      list (config.externalTlsVirtualHosts.map VirtualHost.outline)),
    ("internal_virtual_hosts", list (config.internalVirtualHosts.map VirtualHost.outline))]

def ProxyConfig.display (config : ProxyConfig) : String := config.outline.render 0

end EdgeRouting
