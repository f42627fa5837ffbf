import OpenCloud.Compute.Views

/-!
# The firewall endpoints

Neutron has no update for a rule, so a rule is created or deleted, never edited.  Either runs with
the caller's own token and is recorded.
-/

namespace OpenCloud

/-- A port of a payload, as `int` reads it. -/
inductive PortField where
  /-- Absent, null or empty. -/
  | blank
  | number (n : ℤ)
  | notNumber

/-- The payload of a new rule. -/
structure RuleData where
  direction : Option String
  cidr : Option String
  remoteGroupId : Option String
  protocol : Option String
  portFrom : PortField
  portTo : PortField
  description : Option String

/-- The port, if it is one. -/
def PortField.read : PortField → Except Refusal (Option ℤ)
  | blank => .ok none
  | number n => .ok (some n)
  | notNumber => .error (.app ⟨"Ports must be numbers.", "invalid_request", 400⟩)

/-- `_WRITE_STATUS` of the firewall endpoints. -/
def ruleWriteStatus : Dict String ℕ :=
  [("forbidden", 403), ("not_found", 404), ("conflict", 409), ("invalid_request", 400),
    ("write_not_allowed", 403)]

/-- What a refused write of a rule is answered. -/
def ruleWriteFailed (err : ZadaraError) : AppError :=
  ⟨err.message, err.code, (ruleWriteStatus.get? err.code).getD 502⟩

/-- A list that could not be read. -/
def unreachable (err : ZadaraError) : Refusal := .app ⟨"Failed to reach the cloud", err.code, 502⟩

/-- `_opens_the_internet`. -/
def opensTheInternet (cidr : Option String) : Bool := strip (cidr.getD "") ∈ ["0.0.0.0/0", "::/0"]

/-- A text or null in a detail. -/
def Detail.ofText : Option String → Detail
  | none => .null
  | some s => .text s

/-- An entry about a firewall group. -/
def ruleEntry (action groupId name : String) (detail : List (String × Detail)) : Entry where
  action := action
  resourceType := "security_group"
  resourceId := groupId
  resourceName := name
  detail := detail

section

variable {W : Type} (c : Casing) (up : Upstream W) (vaulted : Option String)

/-- `SecurityGroupRuleView.post` up to the cloud; the group must be one this session can see. -/
def ruleCreateAsk (groupId : String) (data : RuleData) :
    Except Refusal (Change W SecurityGroupRule SecurityGroupRule) := do
  let token ← requireToken vaulted
  let direction := c.lower (strip ((firstOf data.direction (some "ingress")).getD ""))
  if direction ≠ "ingress" ∧ direction ≠ "egress" then
    throw (.app ⟨"Direction must be ingress or egress.", "invalid_request", 400⟩)
  let cidr := keep (some (strip (data.cidr.getD "")))
  let remoteGroupId := keep (some (strip (data.remoteGroupId.getD "")))
  let protocol := keep (some (c.lower (strip (data.protocol.getD ""))))
  let portFrom ← data.portFrom.read
  let portTo ← data.portTo.read
  -- a group of another project is refused here, before the cloud is asked
  let visible ← (up.securityGroups token).mapError unreachable
  if groupId ∉ visible then
    throw (.app ⟨"No such security group in this project.", "not_found", 404⟩)
  return {
    call := createSecurityGroupRule up.toWriteApi token groupId
      ⟨direction, protocol, portFrom, portTo, cidr, remoteGroupId, strip (data.description.getD "")⟩
    failed := ruleEntry "security_group.rule.create" groupId ""
      [("direction", .text direction), ("protocol", .ofText protocol), ("cidr", .ofText cidr)]
    refuse := ruleWriteFailed
    aside := fun _ => none
    done := fun created => ruleEntry "security_group.rule.create" groupId created.label
      [("rule", .text created.label), ("direction", .text direction),
        ("openToInternet", .flag (opensTheInternet cidr))]
    reply := id }

/-- The rule of an id: the last one listed under it. -/
def ruleById (rules : List SecurityGroupRule) (ruleId : String) : Option SecurityGroupRule :=
  (rules.filter fun r => r.id = ruleId).getLast?

/-- `SecurityGroupRuleDeleteView.delete` up to the cloud; the answer is what it says. -/
def ruleDeleteAsk (ruleId : String) : Except Refusal (Change W Unit String) := do
  let token ← requireToken vaulted
  let rules ← (up.rules token).mapError unreachable
  match ruleById (rules.map normalizeSecurityGroupRule) ruleId with
  | none => throw (.app ⟨"No such rule in this project.", "not_found", 404⟩)
  | some rule =>
    return {
      call := deleteSecurityGroupRule up.toWriteApi token ruleId
      failed := ruleEntry "security_group.rule.delete" rule.groupId rule.label []
      refuse := ruleWriteFailed
      aside := fun _ => none
      done := fun _ => ruleEntry "security_group.rule.delete" rule.groupId rule.label
        [("rule", .text rule.label), ("direction", .text rule.direction)]
      reply := fun _ => "Rule removed." }

variable (user : CabinetUser) (w : CabinetWorld W)

/-- `SecurityGroupRuleView.post`. -/
def ruleCreatePost (groupId : String) (data : RuleData) :
    Except Refusal SecurityGroupRule × CabinetWorld W :=
  attempt user (ruleCreateAsk c up vaulted groupId data) w

/-- `SecurityGroupRuleDeleteView.delete`. -/
def ruleDelete (ruleId : String) : Except Refusal String × CabinetWorld W :=
  attempt user (ruleDeleteAsk up vaulted ruleId) w

end

end OpenCloud
