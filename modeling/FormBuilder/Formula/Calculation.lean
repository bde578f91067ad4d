/-
The text that a calculated field shows.
-/
import FormBuilder.Formula.Currency
import FormBuilder.Formula.Eval
import FormBuilder.Formula.Parser
import FormBuilder.Field.Config
import FormBuilder.Log

namespace FormBuilder

/-- What a calculated field shows when its formula cannot be read. -/
def Formula.failureText : String := "Error"

def Formatting.show : Formatting → Float → String
  | .plain, x => formatNumber x
  | .currency, x => Formula.formatCurrency x

namespace CalculatedConfig

def calculate (c : CalculatedConfig) (inputs : Inputs) : String :=
  match Formula.parse c.formula with
  | .ok e => c.formatting.show (e.eval inputs)
  | .error _ => Formula.failureText

def log (c : CalculatedConfig) : Log.Entries :=
  match Formula.parse c.formula with
  | .ok _ => []
  | .error e => [Log.debug ("Formula '" ++ c.formula ++ "' failed: " ++ e.message)]

end CalculatedConfig

end FormBuilder
