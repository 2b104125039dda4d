import Cellbook.IoFault
import Cellbook.Json.Fault
import Cellbook.Notebook.Stored

/-!
# Faults of cells

Why a cell did not run to its end, or was not run at all.
-/

namespace Cellbook

/-- Why a cell did not run to its end. -/
inductive CellFault where
  /-- The name is no notebook's. -/
  | invalidName (name : String)
  /-- The source cannot be read. -/
  | parse (message : String)
  /-- The source failed as it ran. -/
  | execution (message : String)
  /-- The result could not be delivered. -/
  | channel (fault : IoFault)
  /-- A store or a device failed. -/
  | io (fault : IoFault)
  /-- A JSON text could not be read. -/
  | json (fault : Json.Fault)
  deriving Repr, DecidableEq

/-- The message of a fault. -/
def CellFault.message : CellFault → String
  | .invalidName name => NotebookId.invalidMessage name
  | .parse message => "parse error: " ++ message
  | .execution message => "execution error: " ++ message
  | .channel fault => "channel error: " ++ fault.message
  | .io fault => "IO error: " ++ fault.message
  | .json fault => "JSON error: " ++ fault.message

end Cellbook
