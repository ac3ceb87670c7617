import EdgeRouting.Ingress.DropRoutes
import EdgeRouting.Resource.Metadata

/-!
# Annotations that tune routing

Switches are on if their annotation is `true` in any mixture of ASCII capitals and small letters.
-/

namespace EdgeRouting.Annotations

def disableHttp2Key : String := "ingress.translator.io/disable-http2"

def disableExtAuthzKey : String := "ingress.translator.io/disable-ext-authz"

def dropRoutesKey : String := "ingress.translator.io/drop-routes"

def listenerPortKey : String := "ingress.translator.io/listener-port"

/-- The text is `true`, whatever the case of its ASCII letters. -/
def isTrueText (text : String) : Bool :=
  text.toList.map Char.toLower = ['t', 'r', 'u', 'e']

def isOn (annotations : TextMap) (key : String) : Bool :=
  (annotations.get? key).any isTrueText

theorem isOn_eq_false_iff {annotations : TextMap} {key : String} :
    isOn annotations key = false ↔
      ∀ text, annotations.get? key = some text →
        text.toList.map Char.toLower ≠ ['t', 'r', 'u', 'e'] := by
  unfold isOn
  cases annotations.get? key with
  | none => simp
  | some text => simp [isTrueText]

/-- HTTP/2 is off for every backend of the ingress. -/
def disablesHttp2 (annotations : TextMap) : Bool := isOn annotations disableHttp2Key

/-- External authorization is off for the ingress. -/
def disablesExtAuthz (annotations : TextMap) : Bool := isOn annotations disableExtAuthzKey

/-- The listener that serves the ingresses of a namespace. -/
def listenerPort (annotations : TextMap) : Option String := annotations.get? listenerPortKey

/-- The routes to drop; without the annotation there are none. -/
def dropRoutes (annotations : TextMap) : Except Json.Fault DropRoutes :=
  match annotations.get? dropRoutesKey with
  | none => .ok .empty
  | some document => DropRoutes.parse document

end EdgeRouting.Annotations
