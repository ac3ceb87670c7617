import EdgeRouting.CommandLine.LogFilter
import EdgeRouting.Config

/-!
# Options

What may be given on the command line, and what stands in for it: an option, else its environment
variable, else its default.  `Parameter` lists the parameters in the order in which their variables
are looked at.
-/

namespace EdgeRouting

inductive Parameter where
  | logLevel
  | logFormat
  | internalEncryption
  | trafficIsolation
  | httpOptionDisabled
  | extAuthzEnabled
  | certsSecretNamespace
  | certsSecretName
  | servingNamespace
  | caSecretName
  | resources
  /-- The path of the ingress, which is given without a name. -/
  | ingress
  deriving DecidableEq, Repr

inductive UsageError where
  | missingIngress
  /-- A value is missing or empty, or a switch is neither on nor off. -/
  | invalidValue (parameter : Parameter)
  /-- A value is not one of those that the parameter knows. -/
  | refusedValue (parameter : Parameter)
  /-- A value cannot be taken apart, and brings the program down. -/
  | brokenValue (parameter : Parameter)
  | unknownArgument (argument : String)
  | givenTwice (parameter : Parameter)
  /-- A switch has a value attached to it. -/
  | unwantedValue (parameter : Parameter)
  deriving DecidableEq, Repr

namespace Parameter

def all : List Parameter :=
  [logLevel, logFormat, internalEncryption, trafficIsolation, httpOptionDisabled,
    extAuthzEnabled, certsSecretNamespace, certsSecretName, servingNamespace, caSecretName,
    resources, ingress]

/-- The name of the option, after two hyphens. -/
def optionName? : Parameter → Option String
  | logLevel => some "log-level"
  | logFormat => some "log-format"
  | internalEncryption => some "internal-encryption"
  | trafficIsolation => some "traffic-isolation"
  | httpOptionDisabled => some "http-option-disabled"
  | extAuthzEnabled => some "ext-authz-enabled"
  | certsSecretNamespace => some "certs-secret-namespace"
  | certsSecretName => some "certs-secret-name"
  | servingNamespace => some "serving-namespace"
  | caSecretName => some "ca-secret-name"
  | resources => some "resources"
  | ingress => none

def environmentName? : Parameter → Option String
  | logLevel => some "INGRESS_TRANSLATOR_LOG"
  | internalEncryption => some "INTERNAL_ENCRYPTION"
  | trafficIsolation => some "TRAFFIC_ISOLATION"
  | httpOptionDisabled => some "HTTPOPTION_DISABLED"
  | extAuthzEnabled => some "EXT_AUTHZ_ENABLED"
  | certsSecretNamespace => some "CERTS_SECRET_NAMESPACE"
  | certsSecretName => some "CERTS_SECRET_NAME"
  | servingNamespace => some "SERVING_NAMESPACE"
  | _ => none

/-- The parameter is on if it is given, and takes no value. -/
def isSwitch : Parameter → Bool
  | internalEncryption => true
  | httpOptionDisabled => true
  | extAuthzEnabled => true
  | _ => false

def isRepeatable (parameter : Parameter) : Bool := parameter = resources

def ofOptionName? (name : String) : Option Parameter :=
  all.find? fun parameter => parameter.optionName? = some name

def check (parameter : Parameter) (value : String) : Option UsageError :=
  let fault? : Parameter → Option UsageError
    | logLevel =>
        match LogFilter.check value with
        | .ok () => none
        | .error .refused => some (.refusedValue parameter)
        | .error .withinCharacter => some (.brokenValue parameter)
    | logFormat =>
        if value = "plain" ∨ value = "json" then none else some (.refusedValue parameter)
    | trafficIsolation =>
        if (TrafficIsolation.parse? value).isSome then none else some (.refusedValue parameter)
    | resources => if value = "" then some (.invalidValue parameter) else none
    | ingress => if value = "" then some (.invalidValue parameter) else none
    | _ => none
  if parameter.isSwitch then
    if value = "true" ∨ value = "false" then none else some (.invalidValue parameter)
  else fault? parameter

end Parameter

/-- The values that were given, in order; a switch that was given has the value `true`. -/
abbrev GivenValues := List (Parameter × String)

namespace GivenValues

def last? (given : GivenValues) (parameter : Parameter) : Option String :=
  (given.reverse.find? fun entry => entry.1 = parameter).map Prod.snd

def allOf (given : GivenValues) (parameter : Parameter) : List String :=
  (given.filter fun entry => entry.1 = parameter).map Prod.snd

/-- Takes a value, which must be the only one unless the parameter is repeatable. -/
def accept (given : GivenValues) (parameter : Parameter) (value : String) :
    Except UsageError GivenValues :=
  if !parameter.isRepeatable && (given.last? parameter).isSome then
    .error (.givenTwice parameter)
  else
    match parameter.check value with
    | some error => .error error
    | none => .ok (given ++ [(parameter, value)])

end GivenValues

/-- A word of the command line by its form. -/
inductive ArgumentForm where
  /-- Two hyphens alone, behind which all words are plain. -/
  | escape
  /-- An option by its name, and a value that is attached to it. -/
  | option (name : String) (attached : Option String)
  /-- An option by a letter, and what is attached to it. -/
  | letter (name : Char) (attached : List Char)
  | plain
  deriving DecidableEq, Repr

def ArgumentForm.ofChars : List Char → ArgumentForm
  | ['-', '-'] => escape
  | '-' :: '-' :: word =>
      let name := String.ofList (word.takeWhile (· ≠ '='))
      match word.dropWhile (· ≠ '=') with
      | [] => option name none
      | _ :: value => option name (some (String.ofList value))
  | '-' :: name :: attached => letter name attached
  | _ => plain

/-- How far a command line has been read. -/
structure CommandLine where
  given : GivenValues
  /-- The parameter read last, whose value is taken only when the next one begins, and its value,
  if there is one yet. -/
  pending : Option (Parameter × Option String)
  hasIngress : Bool
  /-- Two hyphens have been read. -/
  escaped : Bool
  deriving DecidableEq, Repr

namespace CommandLine

def start : CommandLine := ⟨[], none, false, false⟩

def settle (line : CommandLine) : Except UsageError CommandLine :=
  match line.pending with
  | none => .ok line
  | some (parameter, none) => .error (.invalidValue parameter)
  | some (parameter, some value) =>
      match line.given.accept parameter value with
      | .error error => .error error
      | .ok given => .ok { line with given, pending := none }

/-- Takes a value at once, after that of the pending parameter. -/
def take (line : CommandLine) (parameter : Parameter) (value : String) :
    Except UsageError CommandLine :=
  match line.settle with
  | .error error => .error error
  | .ok line =>
      match line.given.accept parameter value with
      | .error error => .error error
      | .ok given => .ok { line with given }

def await (line : CommandLine) (parameter : Parameter) (value : Option String) :
    Except UsageError CommandLine :=
  match line.settle with
  | .error error => .error error
  | .ok line => .ok { line with pending := some (parameter, value) }

/-- Refuses the command line.  The value of the pending parameter is taken nevertheless: nothing
that is wrong with it is reported, but if it is broken there is no report at all. -/
def refuse (line : CommandLine) (error : UsageError) : Except UsageError CommandLine :=
  match line.settle with
  | .error (.brokenValue parameter) => .error (.brokenValue parameter)
  | _ => .error error

/-- A word that is no option: the path of the ingress. -/
def plain (line : CommandLine) (word : String) : Except UsageError CommandLine :=
  if line.hasIngress then line.refuse (.unknownArgument word)
  else
    match line.await .ingress (some word) with
    | .error error => .error error
    | .ok line => .ok { line with hasIngress := true }

/-- A word that may be the value of the pending option. -/
def valueOrPlain (line : CommandLine) (word : String) : Except UsageError CommandLine :=
  match line.pending with
  | some (parameter, none) => .ok { line with pending := some (parameter, some word) }
  | _ => line.plain word

/-- Reads a word.  Unknown options and values on switches are reported rather than what is wrong
with the pending parameter, unless its value is broken. -/
def read (line : CommandLine) (word : String) : Except UsageError CommandLine :=
  if line.escaped then line.plain word
  else
    match ArgumentForm.ofChars word.toList with
    | .escape => .ok { line with escaped := true }
    | .option name attached =>
        match Parameter.ofOptionName? name with
        | none => line.refuse (.unknownArgument word)
        | some parameter =>
            if parameter.isSwitch then
              match attached with
              | none => line.take parameter "true"
              | some _ => line.refuse (.unwantedValue parameter)
            else
              match attached with
              | none => line.await parameter none
              | some value => line.take parameter value
    | .letter name attached =>
        if name ≠ 'r' then line.refuse (.unknownArgument word)
        else
          match attached with
          | [] => line.await .resources none
          | '=' :: value => line.take .resources (String.ofList value)
          | value => line.take .resources (String.ofList value)
    | .plain => line.valueOrPlain word

def readAll (words : List String) : Except UsageError GivenValues := do
  let line ← words.foldlM read start
  let line ← line.settle
  return line.given

end CommandLine

/-- The environment: the value of each variable that is set. -/
abbrev Environment := String → Option String

/-- Adds the values of the variables whose parameters were not given. -/
def GivenValues.addVariables (environment : Environment) (given : GivenValues) :
    Except UsageError GivenValues :=
  Parameter.all.foldlM
    (fun given parameter =>
      match given.last? parameter, parameter.environmentName?.bind environment with
      | none, some value => given.accept parameter value
      | _, _ => .ok given)
    given

structure Options where
  config : Config
  resources : List String
  ingress : String
  deriving DecidableEq, Repr

namespace GivenValues

def isOn (given : GivenValues) (parameter : Parameter) : Bool :=
  given.last? parameter = some "true"

/-- The secret with one certificate for all hosts, if both parts of its name are given and not
empty. -/
def certsSecret (given : GivenValues) : Option ObjectName :=
  match given.last? .certsSecretNamespace, given.last? .certsSecretName with
  | some ns, some name => if ns = "" ∨ name = "" then none else some ⟨ns, name⟩
  | _, _ => none

def config (given : GivenValues) : Config where
  internalEncryption := given.isOn .internalEncryption
  trafficIsolation :=
    ((given.last? .trafficIsolation).bind TrafficIsolation.parse?).getD .none
  httpOptionDisabled := given.isOn .httpOptionDisabled
  extAuthzEnabled := given.isOn .extAuthzEnabled
  certsSecret := given.certsSecret
  servingNamespace := (given.last? .servingNamespace).getD Config.defaultServingNamespace
  caSecretName := (given.last? .caSecretName).getD Config.defaultCaSecretName

end GivenValues

def Options.parse (environment : Environment) (words : List String) :
    Except UsageError Options := do
  let given ← (← CommandLine.readAll words).addVariables environment
  match given.last? .ingress with
  | none => .error .missingIngress
  | some ingress => return ⟨given.config, given.allOf .resources, ingress⟩

end EdgeRouting
