import OpenCloud.Integrations.Listings

/-!
# Writes to the cloud

What the cabinet changes in the cloud, with the token of the user who asked for it.  A call may
change the cloud whether it answers or raises, so the state of the cloud goes through it; what the
cloud does with a request is a parameter, `WriteApi`.

A body carries the fields that are read of it.
-/

namespace OpenCloud

/-- A call to the cloud, whose state is a `W`. -/
abbrev CloudCall (W : Type) := ExceptT ZadaraError (StateM W)

/-- A response; its body is none where it is no JSON.  A body that is JSON is taken to be an object:
where an accepted write is answered another value, the code raises what nothing catches, and that is
not modelled. -/
structure Http (B : Type) where
  statusCode : ℕ
  body : Option B

/-- `resp.ok`. -/
def Http.ok {B : Type} (resp : Http B) : Bool := resp.statusCode < 400

/-- `Zadara returned status …`. -/
def upstreamError (statusCode : ℕ) : ZadaraError :=
  ⟨"upstream_error", "Zadara returned status " ++ toString statusCode⟩

/-- `VM_ACTIONS`. -/
inductive VmAction where
  | start
  | stop
  | reboot
  deriving DecidableEq

namespace VmAction

def value : VmAction → String
  | start => "start"
  | stop => "stop"
  | reboot => "reboot"

def all : List VmAction := [start, stop, reboot]

/-- The action of a name. -/
def ofValue (value : String) : Option VmAction := all.find? fun a => a.value = value

end VmAction

/-- What is posted to `/vms/{id}/action`. -/
inductive PowerRequest where
  | powerup
  | shutdown (force : Bool)

/-- The body of a console request: the address itself, or an object that has it under one of
these. -/
inductive ConsoleBody where
  | text (address : String)
  | object (url consoleUrl link href consoleDotUrl : Option String)

/-- A response to a console request; the body is none unless it says that it is JSON, and is. -/
structure ConsoleResponse extends Http ConsoleBody where
  location : Option String

/-- A firewall rule, as Neutron has it. -/
structure RawRule where
  id : Option String
  securityGroupId : Option String
  direction : Option String
  ethertype : Option String
  protocol : Option String
  portRangeMin : Option ℤ
  portRangeMax : Option ℤ
  remoteIpPrefix : Option String
  remoteGroupId : Option String
  description : Option String

/-- A rule as it is posted; a key that does not apply is absent. -/
structure RulePayload where
  securityGroupId : String
  direction : String
  ethertype : String
  description : String
  protocol : Option String
  portRange : Option (ℤ × ℤ)
  remoteIpPrefix : Option String
  remoteGroupId : Option String

/-- The body of an answer about a rule. -/
structure RuleBody where
  /-- `NeutronError.message`. -/
  neutronMessage : Option String
  securityGroupRule : Option RawRule

/-- A user as it is posted. -/
structure UserPayload where
  name : String
  email : String
  password : String
  projectId : String
  domainId : String
  mustChangePassword : Bool

/-- The fields of a user that a request changes. -/
structure UserFields where
  name : Option String
  email : Option String
  enabled : Option Bool
  password : Option String
  passwordNeverExpires : Option Bool

/-- The body of an answer about a user. -/
structure IdentityBody where
  id : Option String
  description : Option String

/-- What the cloud does on the routes that are written to, each `http.request` on its route. -/
structure WriteApi (W : Type) where
  /-- `ZADARA_API_URL`. -/
  apiUrl : String
  /-- `POST /api/v2/vms/{id}/action`. -/
  postAction (token vmId : String) (request : PowerRequest) : CloudCall W (Http Unit)
  /-- `POST /api/v2/vms/{id}/actions/guest-reboot`. -/
  postGuestReboot (token vmId : String) : CloudCall W (Http Unit)
  /-- `GET /api/v2/vms/{id}/vnc`, which prepares a session. -/
  getVnc (token vmId : String) : CloudCall W ConsoleResponse
  /-- `POST` to the firewall rules. -/
  postRule (token : String) (rule : RulePayload) : CloudCall W (Http RuleBody)
  /-- `DELETE` of a firewall rule. -/
  deleteRule (token ruleId : String) : CloudCall W (Http Unit)
  /-- `POST /api/v2/identity/users`. -/
  postUser (token : String) (payload : UserPayload) : CloudCall W (Http IdentityBody)
  /-- `PUT /api/v2/identity/users/{id}`. -/
  putUser (token userId : String) (fields : UserFields) : CloudCall W (Http IdentityBody)
  /-- `DELETE /api/v2/identity/users/{id}`. -/
  deleteUser (token userId : String) : CloudCall W (Http IdentityBody)
  /-- `PUT /api/v2/identity/projects/{pid}/users/{uid}/roles/{role}`. -/
  putRole (token projectId userId role : String) : CloudCall W (Http IdentityBody)

/-! ### Machines -/

section

variable {W : Type} (api : WriteApi W) (token : String)

/-- `_authed_post`, once the cloud has answered. -/
def authedPost (resp : Http Unit) : Except ZadaraError Unit :=
  if resp.statusCode = 401 then
    .error ⟨"session_expired", "Your session with the cloud has expired, please sign in again."⟩
  else if resp.statusCode = 403 then
    .error ⟨"forbidden", "You are not authorized to perform this action"⟩
  else if resp.statusCode = 404 then
    .error ⟨"not_found", "This virtual machine no longer exists"⟩
  else if resp.statusCode = 409 then
    .error ⟨"conflict", "The machine is busy with another operation"⟩
  else if !resp.ok then .error (upstreamError resp.statusCode)
  else .ok ()

/-- `vm_action`: start, stop or reboot a machine. -/
def vmAction (vmId : String) (action : VmAction) (force : Bool) : CloudCall W Unit := do
  let resp ← match action with
    | .start => api.postAction token vmId .powerup
    | .stop => api.postAction token vmId (.shutdown force)
    | .reboot => api.postGuestReboot token vmId
  MonadExcept.ofExcept (authedPost resp)

/-- `_absolute`: an address may be relative to the cloud's own host. -/
def absolute (apiUrl : String) (url : Option String) : Option String :=
  (keep url).map fun url =>
    if "http://".toList <+: url.toList ∨ "https://".toList <+: url.toList then url
    else String.ofList (apiUrl.toList.reverse.dropWhile (· = '/')).reverse ++ "/" ++
      String.ofList (url.toList.dropWhile (· = '/'))

/-- A console session. -/
structure ConsoleSession where
  url : String
  clientPath : String
  status : ℕ

/-- The address in the body of a console response. -/
def ConsoleBody.address : ConsoleBody → Option String
  | text address => keep (some (strip address))
  | object url consoleUrl link href consoleDotUrl =>
    firstOf url (firstOf consoleUrl (firstOf link (firstOf href consoleDotUrl)))

/-- `get_vm_console`, once the cloud has answered.  A redirect has a status below 400 too. -/
def consoleSession (apiUrl : String) (resp : ConsoleResponse) : Except ZadaraError ConsoleSession :=
  if resp.statusCode = 404 then
    .error ⟨"not_found", "This virtual machine no longer exists"⟩
  else if resp.statusCode = 403 then
    .error ⟨"console_forbidden", "Console access is not allowed for this machine"⟩
  else if resp.statusCode = 401 then
    .error ⟨"session_expired", "Your session with the cloud has expired, please sign in again."⟩
  else if !resp.ok then .error (upstreamError resp.statusCode)
  else match absolute apiUrl (firstOf resp.location (resp.body.bind ConsoleBody.address)) with
    | none => .error ⟨"console_unavailable", "The cloud did not return a console address"⟩
    | some url => .ok ⟨url, "/vnc/vnc_auto.html", resp.statusCode⟩

/-- `get_vm_console`: open a console session for one machine. -/
def getVmConsole (vmId : String) : CloudCall W ConsoleSession := do
  let resp ← api.getVnc token vmId
  MonadExcept.ofExcept (consoleSession api.apiUrl resp)

/-! ### Firewall rules -/

/-- A rule, as `normalize_security_group_rule` gives it. -/
structure SecurityGroupRule where
  id : String
  groupId : String
  direction : String
  ethertype : String
  protocol : Option String
  portFrom : Option ℤ
  portTo : Option ℤ
  cidr : Option String
  remoteGroupId : Option String
  description : String
  label : String

/-- `_rule_label`: a rule as a person reads it. -/
def ruleLabel (raw : RawRule) : String :=
  let shown : Option ℤ → String := fun port => (port.map toString).getD "None"
  let protocol := (firstOf raw.protocol (some "any")).getD ""
  let ports :=
    if raw.portRangeMin = none ∧ raw.portRangeMax = none then "all ports"
    else if raw.portRangeMin = raw.portRangeMax then shown raw.portRangeMin
    else shown raw.portRangeMin ++ "-" ++ shown raw.portRangeMax
  let source := match keep raw.remoteIpPrefix with
    | some cidr => cidr
    | none => if truthy raw.remoteGroupId then "another group" else "anywhere"
  protocol ++ " " ++ ports ++ " · " ++ source

def normalizeSecurityGroupRule (raw : RawRule) : SecurityGroupRule where
  id := raw.id.getD ""
  groupId := raw.securityGroupId.getD ""
  direction := (firstOf raw.direction (some "ingress")).getD ""
  ethertype := (firstOf raw.ethertype (some "IPv4")).getD ""
  protocol := raw.protocol
  portFrom := raw.portRangeMin
  portTo := raw.portRangeMax
  cidr := raw.remoteIpPrefix
  remoteGroupId := raw.remoteGroupId
  description := raw.description.getD ""
  label := ruleLabel raw

/-- A rule as a request asks for it. -/
structure RuleRequest where
  direction : String
  protocol : Option String
  portFrom : Option ℤ
  portTo : Option ℤ
  cidr : Option String
  remoteGroupId : Option String
  description : String

/-- What `create_security_group_rule` posts. -/
def RuleRequest.payload (rule : RuleRequest) (groupId : String) : RulePayload where
  securityGroupId := groupId
  direction := rule.direction
  ethertype := "IPv4"
  description := rule.description
  protocol := keep rule.protocol
  portRange := rule.portFrom.map fun portFrom => (portFrom, rule.portTo.getD portFrom)
  remoteIpPrefix := keep rule.cidr
  remoteGroupId := if truthy rule.cidr then none else keep rule.remoteGroupId

/-- `create_security_group_rule`, once the cloud has answered: Neutron explains a refusal in its
body, and a gateway that refuses the write outright does not. -/
def createdRule (resp : Http RuleBody) : Except ZadaraError SecurityGroupRule :=
  let message := (resp.body.bind RuleBody.neutronMessage).getD ""
  if resp.ok then
    .ok (normalizeSecurityGroupRule ((resp.body.bind RuleBody.securityGroupRule).getD
      ⟨none, none, none, none, none, none, none, none, none, none⟩))
  else if resp.statusCode = 401 ∨ resp.statusCode = 403 then
    .error ⟨"forbidden", orElse message "You are not allowed to change this security group"⟩
  else if resp.statusCode = 409 then
    .error ⟨"conflict", orElse message "That rule already exists in this group"⟩
  else if resp.statusCode = 400 then
    .error ⟨"invalid_request", orElse message "The cloud rejected this rule"⟩
  else if resp.statusCode = 404 then
    if message = "" then
      .error ⟨"write_not_allowed",
        "This cloud does not accept firewall changes from your account through this path."⟩
    else .error ⟨"not_found", message⟩
  else .error ⟨"upstream_error", orElse message (upstreamError resp.statusCode).message⟩

/-- `create_security_group_rule`. -/
def createSecurityGroupRule (groupId : String) (rule : RuleRequest) :
    CloudCall W SecurityGroupRule := do
  let resp ← api.postRule token (rule.payload groupId)
  MonadExcept.ofExcept (createdRule resp)

/-- `delete_security_group_rule`, once the cloud has answered. -/
def deletedRule (resp : Http Unit) : Except ZadaraError Unit :=
  if resp.statusCode = 401 ∨ resp.statusCode = 403 then
    .error ⟨"forbidden", "You are not allowed to change this security group"⟩
  else if resp.statusCode = 404 then .error ⟨"not_found", "That rule no longer exists"⟩
  else if !resp.ok then .error (upstreamError resp.statusCode)
  else .ok ()

/-- `delete_security_group_rule`. -/
def deleteSecurityGroupRule (ruleId : String) : CloudCall W Unit := do
  let resp ← api.deleteRule token ruleId
  MonadExcept.ofExcept (deletedRule resp)

/-! ### Users -/

/-- `_result`: the body of an answer about a user. -/
def identityResult (resp : Http IdentityBody) (action : String) :
    Except ZadaraError (Option IdentityBody) :=
  if resp.statusCode = 401 ∨ resp.statusCode = 403 then
    .error ⟨"forbidden", "You are not allowed to " ++ action⟩
  else if resp.statusCode = 404 then .error ⟨"not_found", "That user or project no longer exists"⟩
  else if resp.statusCode = 409 then .error ⟨"conflict", "A user with that name already exists"⟩
  else if resp.statusCode = 400 then
    .error ⟨"invalid_request",
      orElse ((resp.body.bind IdentityBody.description).getD "") "The cloud rejected these details"⟩
  else if !resp.ok then .error (upstreamError resp.statusCode)
  else .ok resp.body

/-- `create_user`. -/
def createUser (payload : UserPayload) : CloudCall W (Option IdentityBody) := do
  let resp ← api.postUser token payload
  MonadExcept.ofExcept (identityResult resp "create users")

/-- `update_user`; the fields are those to change, of which there is one. -/
def updateUser (userId : String) (fields : UserFields) : CloudCall W (Option IdentityBody) := do
  let resp ← api.putUser token userId fields
  MonadExcept.ofExcept (identityResult resp "change this user")

/-- `delete_user`. -/
def deleteUser (userId : String) : CloudCall W (Option IdentityBody) := do
  let resp ← api.deleteUser token userId
  MonadExcept.ofExcept (identityResult resp "delete this user")

/-- `grant_project_role`, of the role `_member_`. -/
def grantProjectRole (projectId userId : String) : CloudCall W (Option IdentityBody) := do
  let resp ← api.putRole token projectId userId "_member_"
  MonadExcept.ofExcept (identityResult resp "grant roles in this project")

end

end OpenCloud
