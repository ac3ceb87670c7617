import EdgeRouting.CommandLine.Options
import EdgeRouting.Proxy.Outline
import EdgeRouting.Resource.FieldTables
import EdgeRouting.ResourceFile
import EdgeRouting.Session

/-!
# The program

The program loads the resource files in order, reads the ingress, resolves it, and prints the
configuration of the proxy.  If something does not exist yet there is nothing to print.

The log goes to the standard output as well.  What is logged, and what a line of it looks like, is
up to the log filter, the log format and the clock, and it has no part in what else the program
does.
-/

namespace EdgeRouting

inductive ProgramError where
  | usage (error : UsageError)
  | load (error : LoadError)
  | resolve (error : ResolveError)
  deriving DecidableEq, Repr

namespace ProgramError

/-- The outermost message of a failure at work. -/
def message? : ProgramError → Option String
  | usage _ => none
  | load error => some error.message
  | resolve error => some error.message

def exitCode : ProgramError → Nat
  | usage (.brokenValue _) => 101
  | usage _ => 2
  | load _ => 1
  | resolve _ => 1

end ProgramError

namespace Program

section Run

variable [FieldTypes]

def loadAll (files : Files) (index : Index) : List String → Except LoadError Index
  | [] => .ok index
  | path :: rest =>
      match ResourceFile.load files index path with
      | (_, .error error) => .error error
      | (index, .ok _) => loadAll files index rest

def outcome (files : Files) (options : Options) : Except ProgramError (Outcome ProxyConfig) :=
  match loadAll files .empty options.resources with
  | .error error => .error (.load error)
  | .ok index =>
      match ResourceFile.readIngress files options.ingress with
      | .error error => .error (.load error)
      | .ok ingress =>
          match (resolve options.config index.lookup .accepting ingress).result with
          | .error error => .error (.resolve error)
          | .ok outcome => .ok outcome

def run (files : Files) (environment : Environment) (words : List String) :
    Except ProgramError (Outcome ProxyConfig) :=
  match Options.parse environment words with
  | .error error => .error (.usage error)
  | .ok options => outcome files options

end Run

def output : Outcome ProxyConfig → String
  | .ready config => config.display ++ "\n"
  | .notReady => ""

/-- What is printed; a failure is reported elsewhere. -/
def printed : Except ProgramError (Outcome ProxyConfig) → String
  | .ok outcome => output outcome
  | .error _ => ""

/-- The standard output of a run that logs these lines.  Nothing is logged once the result has been
printed. -/
def stdout (log : List String) (result : Except ProgramError (Outcome ProxyConfig)) : String :=
  String.join log ++ printed result

def exitCode : Except ProgramError (Outcome ProxyConfig) → Nat
  | .ok _ => 0
  | .error error => error.exitCode

end Program

end EdgeRouting
