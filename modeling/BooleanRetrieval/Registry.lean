/-
# Analyzer registry

Analyzers by name.  A registry starts with the presets, all with one setting of
case, and a later registration under a name takes the place of an earlier one.
-/

import BooleanRetrieval.Analyzer
import BooleanRetrieval.Error
import Std.Data.ExtTreeMap

namespace BooleanRetrieval

/-- Analyzers by the name they are asked for, which need not be their own. -/
structure Registry where
  analyzers : Std.ExtTreeMap String Analyzer

namespace Registry

/-- Make an analyzer known under a name. -/
def register (registry : Registry) (name : String) (analyzer : Analyzer) : Registry :=
  ⟨registry.analyzers.insert name analyzer⟩

/-- The registry of the presets. -/
def presets (lowercase : Bool) : Registry :=
  Registry.mk ∅
    |>.register "simple" (.simple lowercase)
    |>.register "english" (.english lowercase)
    |>.register "portuguese" (.portuguese lowercase)

/-- The analyzer of a name; the error lists the known names in order. -/
def get (registry : Registry) (name : String) : Except Error Analyzer :=
  match registry.analyzers[name]? with
  | some analyzer => .ok analyzer
  | none => .error (.unknownAnalyzer name registry.analyzers.keys)

end Registry

end BooleanRetrieval
