import OpenCloud.Accounts.Sessions
import OpenCloud.Audit.Services

/-!
# The machine endpoints that change something

A user starts, stops and reboots a machine and opens its console with their own token.  Every
attempt that reaches the cloud is recorded, successful or not.
-/

namespace OpenCloud

/-- What the cloud answers and does while a request of the cabinet runs. -/
structure Upstream (W : Type) extends Cloud, WriteApi W where
  /-- `get_vm`. -/
  vm (token vmId : String) : Except ZadaraError VmRow
  /-- The ids of `list_security_groups`. -/
  securityGroups (token : String) : Except ZadaraError (List String)
  /-- The rules behind `list_security_group_rules`. -/
  rules (token : String) : Except ZadaraError (List RawRule)
  /-- `list_domain_users`: ids and names. -/
  domainUsers (domainId : String) : Except ZadaraError (List (String × String))

/-- `_token`: what the vault holds for the session, if anything. -/
def requireToken (vaulted : Option String) : Except Refusal String :=
  match keep vaulted with
  | none => .error (.app sessionExpired)
  | some token => .ok token

/-- `_STATUS_BY_CODE` of the machine endpoints. -/
def vmStatusByCode : Dict String ℕ :=
  [("forbidden", 403), ("console_forbidden", 403), ("console_unavailable", 502), ("not_found", 404),
    ("conflict", 409), ("invalid_request", 400), ("invalid_credentials", 401)]

/-- `_fail`. -/
def vmFail (fallback : String) (err : ZadaraError) : AppError :=
  ⟨orElse err.message fallback, err.code, (vmStatusByCode.get? err.code).getD 502⟩

/-- The payload of an action on a machine. -/
structure VmActionData where
  action : Option String
  force : Bool
  name : Option String

/-- The state of the machine shown after an action. -/
inductive ShownVmState where
  | vm (row : VmRow)
  | unknown (id : String)

/-- What `VmActionView` answers. -/
structure VmActionReply where
  data : ShownVmState
  action : VmAction

section

variable {W : Type} (c : Casing) (up : Upstream W) (vaulted : Option String) (vmId : String)

/-- An entry about a machine. -/
def vmEntry (action : String) (name : Option String) (detail : List (String × Detail)) : Entry where
  action := action
  resourceType := "vm"
  resourceId := vmId
  resourceName := strip (name.getD "")
  detail := detail

/-- `VmActionView.post` up to the cloud. -/
def vmActionAsk (data : VmActionData) : Except Refusal (Change W Unit VmActionReply) := do
  let token ← requireToken vaulted
  match VmAction.ofValue (c.lower (strip (data.action.getD ""))) with
  | none =>
    throw (.app ⟨"Unknown action. Expected one of: " ++
      join ", " (VmAction.all.map VmAction.value) ++ ".", "invalid_request", 400⟩)
  | some action =>
    let entry := vmEntry vmId ("vm." ++ action.value) data.name
      (if action = .stop then [("force", .flag data.force)] else [])
    return {
      call := vmAction up.toWriteApi token vmId action data.force
      failed := entry
      refuse := vmFail "The cloud refused this action"
      aside := fun _ => none
      done := fun _ => entry
      reply := fun _ => ⟨match up.vm token vmId with
        | .ok row => .vm row
        | .error _ => .unknown vmId, action⟩ }

/-- What a refused console is answered. -/
def consoleFail (err : ZadaraError) : AppError :=
  if err.code = "console_forbidden" then
    ⟨"Console access is not enabled for this machine. " ++
      "The project owner has to allow it in the cloud console.", "console_forbidden", 403⟩
  else vmFail "Could not open the console" err

/-- `VmConsoleView.post` up to the cloud. -/
def vmConsoleAsk (name : Option String) :
    Except Refusal (Change W ConsoleSession ConsoleSession) := do
  let token ← requireToken vaulted
  return {
    call := getVmConsole up.toWriteApi token vmId
    failed := vmEntry vmId "vm.console" name []
    refuse := consoleFail
    aside := fun _ => none
    done := fun _ => vmEntry vmId "vm.console" name []
    reply := id }

variable (user : CabinetUser) (w : CabinetWorld W)

/-- `VmActionView.post`. -/
def vmActionPost (data : VmActionData) : Except Refusal VmActionReply × CabinetWorld W :=
  attempt user (vmActionAsk c up vaulted vmId data) w

/-- `VmConsoleView.post`. -/
def vmConsolePost (name : Option String) : Except Refusal ConsoleSession × CabinetWorld W :=
  attempt user (vmConsoleAsk up vaulted vmId name) w

end

end OpenCloud
