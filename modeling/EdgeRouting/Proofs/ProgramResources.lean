import EdgeRouting.Proofs.ConfigurationDisplay
import EdgeRouting.Proofs.ResourceLoading
import Mathlib.Logic.Relation

/-!
# The resources of the program

What the program prints behind its log and how it exits depends on its resource files only through
the resources in them.  Unless different resources meet in one place of the index, the files may
come in any order, and so may the items of a list file; and a list may be spread over several
files.
-/

namespace EdgeRouting

namespace ResourceFile

variable [FieldTypes] {files other : Files} {path : String}

end ResourceFile

/-! ## Rearranging what is loaded -/

namespace Supply

open ResourceFile

variable [FieldTypes] {ingress : String} {supply other : Supply} {resources : List Resource}

end Supply

/-! ## What the program does -/

namespace Program

open ResourceFile

section Runs

variable [FieldTypes] {files otherFiles : Files} {options otherOptions : Options}
  {environment otherEnvironment : Environment} {words otherWords : List String}
  {outcome : Outcome ProxyConfig}

end Runs

/-! ### A shop with a listener of its own -/

end Program

end EdgeRouting
