import OpenCloud.Lib.Binary64

/-!
# The journals

`AuditLog` is the journal of the cabinet, which names cabinet users; `AdminAction` is the
operators'. A row is written once and never changed.
-/

namespace OpenCloud

/-- A value in the `detail` of a journal row. -/
inductive Detail where
  | text (s : String)
  | num (x : Double)
  | flag (b : Bool)
  | texts (values : List String)
  | null
  deriving DecidableEq

/-- How the recorded action ended. -/
inductive Outcome where
  | success
  | failure
  deriving DecidableEq, Repr

/-- A row of the cabinet's journal. -/
structure AuditLog where
  username : String
  account : String
  action : String
  resourceType : String
  resourceId : String
  resourceName : String
  outcome : Outcome
  errorCode : String
  detail : List (String × Detail)
  deriving DecidableEq

/-- A row of the operators' journal. -/
structure AdminAction where
  actorEmail : String
  action : String
  targetAccount : String
  targetType : String
  targetId : String
  targetName : String
  outcome : Outcome
  errorCode : String
  detail : List (String × Detail)
  deriving DecidableEq

end OpenCloud
