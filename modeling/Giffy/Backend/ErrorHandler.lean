import Giffy.Backend.ClaimLinks
import Giffy.Chain.Errors

/-! How the error handler takes the chain layer's errors. -/

namespace Giffy.Backend

open Chain

/-- What the handler tells apart in what the chain layer throws; the details stay behind. -/
def caught : ChainFailure → Caught
  | .chain code message => .chain code message
  | .other => .unrecognized

inductive LogLevel
  | warn
  | error
deriving DecidableEq

def logLevel (error : Caught) : LogLevel := if 500 ≤ (toResponse error).status then .error else .warn

end Giffy.Backend
