import EdgeRouting.Ingress.Annotations
import EdgeRouting.Ingress.Basic
import EdgeRouting.Text.Quoted

/-!
# Configuration

The switches that apply to every ingress.
-/

namespace EdgeRouting

/-- How ingresses are assigned to listeners. -/
inductive TrafficIsolation where
  /-- All ingresses share the default listeners. -/
  | none
  /-- The namespace of an ingress names its listener. -/
  | port
  deriving DecidableEq, Repr

namespace TrafficIsolation

def label : TrafficIsolation → String
  | none => "none"
  | port => "port"

/-- The meaning of a word; the empty one means no isolation. -/
def parse? (word : String) : Option TrafficIsolation :=
  if word = "" ∨ word = "none" then some none
  else if word = "port" then some port
  else .none

def complaint (word : String) : String :=
  "invalid traffic isolation: " ++ Text.quoted word

end TrafficIsolation

structure Config where
  /-- Traffic to backends is encrypted, and only the platform's authority is trusted. -/
  internalEncryption : Bool
  trafficIsolation : TrafficIsolation
  /-- Requests are never redirected to HTTPS. -/
  httpOptionDisabled : Bool
  extAuthzEnabled : Bool
  /-- One certificate for all hosts; with it TLS routes are made for every ingress. -/
  certsSecret : Option ObjectName
  servingNamespace : String
  caSecretName : String
  deriving DecidableEq, Repr

namespace Config

def defaultServingNamespace : String := "knative-serving"

def defaultCaSecretName : String := "routing-serving-certs"

def standard : Config where
  internalEncryption := false
  trafficIsolation := .none
  httpOptionDisabled := false
  extAuthzEnabled := false
  certsSecret := none
  servingNamespace := defaultServingNamespace
  caSecretName := defaultCaSecretName

def caSecret (config : Config) : ObjectName := ⟨config.servingNamespace, config.caSecretName⟩

def usesOneCertificate (config : Config) : Bool := config.certsSecret.isSome

def extAuthzEnabledFor (config : Config) (ingress : Ingress) : Bool :=
  config.extAuthzEnabled &&
    !Annotations.disablesExtAuthz ingress.metadata.annotationsOrEmpty

/-- The plain requests of a rule are redirected to HTTPS. -/
def redirects (config : Config) (ingress : Ingress) (rule : Rule) : Bool :=
  ingress.httpOption = .redirected && !config.httpOptionDisabled && rule.visibility.isExternal

/-- Routes of an ingress are also made for listeners with TLS. -/
def servesTls (config : Config) (ingress : Ingress) : Bool :=
  !ingress.tls.isEmpty || config.usesOneCertificate

end Config

end EdgeRouting
