import EdgeRouting.Index
import EdgeRouting.References
import EdgeRouting.Resolution.IngressPlan

/-!
# Sessions

A session keeps an index and the references of owners while objects come and go and ingresses are
resolved.  A resolution reads the index and leaves the references that were accepted for its
ingress.
-/

namespace EdgeRouting

structure Session where
  index : Index
  references : References
  deriving DecidableEq

namespace Session

def empty : Session := ⟨.empty, .empty⟩

inductive Step where
  | apply (resource : Resource)
  | delete (query : Query)
  | track (reference : Reference) (owner : ObjectName)
  | untrack (owner : ObjectName)
  /-- The registrar decides which of the ingress's references are accepted. -/
  | resolve (config : Config) (registrar : Registrar) (ingress : Ingress)

def resolution (session : Session) (config : Config) (registrar : Registrar)
    (ingress : Ingress) : Run ProxyConfig :=
  EdgeRouting.resolve config session.index.lookup registrar ingress

def keepReferences (session : Session) (owner : ObjectName) (run : Run ProxyConfig) : Session :=
  { session with references := session.references.trackAll run.accepted owner }

def step (session : Session) : Step → Session
  | .apply resource => { session with index := session.index.apply resource }
  | .delete query => { session with index := session.index.delete query }
  | .track reference owner =>
      { session with references := session.references.track reference owner }
  | .untrack owner => { session with references := session.references.untrack owner }
  | .resolve config registrar ingress =>
      session.keepReferences ingress.owner (session.resolution config registrar ingress)

def run (session : Session) (steps : List Step) : Session := steps.foldl step session

end Session

end EdgeRouting
