import OpenCloud.Common.Exceptions
import OpenCloud.Integrations.Fetches
import OpenCloud.Integrations.Writes
import OpenCloud.Lib.Gathers
import OpenCloud.Lib.Tallies

/-!
# The network page

Eight lists are read at the same time, and the page is put together from what was read: a network
has its subnets counted, a firewall group gets its rules, and names stand beside identifiers.  A
list that is refused is left out and named; the page is refused only when all seven of its sections
are.

## Main results

* `networks_in_turn` : under every schedule, the page is the one of reading in turn, from nine
  answers.
* `networkOverview_cases` : what the page shows of the lists, whichever of them are refused.
-/

namespace OpenCloud

/-! ### The rows of the cloud -/

/-- A row of `/api/v2/vpcs`. -/
structure RawVpc where
  id : Option String
  name : Option String
  cidrBlock : Option String
  state : Option String
  isDefault : Bool
  projectId : Option String

/-- A row of `/api/v2/vpcs/networks`. -/
structure RawSubnet where
  id : Option String
  name : Option String
  cidrBlock : Option String
  vpcId : Option String
  state : Option String
  isDefault : Bool
  isDirectNetwork : Bool
  networkType : Option String
  mtu : Option ℤ
  totalIpAddressCount : Option ℤ
  availableIpAddressCount : Option ℤ
  projectId : Option String

/-- A permission of a firewall group. -/
structure RawPermission where
  ipProtocol : Option String
  fromPort : Option ℤ
  toPort : Option ℤ
  /-- `cidr_ip` of the ranges. -/
  ipRanges : List (Option String)
  /-- How many groups it names. -/
  groups : ℕ

/-- A row of `/api/v2/vpcs/security-groups`. -/
structure RawSecurityGroup where
  id : Option String
  name : Option String
  description : Option String
  vpcId : Option String
  ipPermissionsIngress : List RawPermission
  ipPermissionsEgress : List RawPermission
  projectId : Option String

/-- A row of `/api/v2/vpcs/elastic-ips`, the whole of it. -/
structure RawAddress extends RawElasticIp where
  id : Option String
  publicDnsName : Option String
  privateIpAddress : Option String
  networkInterfaceId : Option String

/-- A row of `/api/v2/vpcs/internet-gateways`; an attachment is a network and a state. -/
structure RawInternetGateway where
  id : Option String
  name : Option String
  attachmentSet : List (Option String × Option String)
  projectId : Option String

/-- A row of `/api/v2/vpcs/nat-gateways`. -/
structure RawNatGateway where
  id : Option String
  name : Option String
  publicIp : Option String
  privateIp : Option String
  state : Option String
  vpcId : Option String
  failureMessage : Option String
  createdAt : Option String
  deletedAt : Option String
  projectId : Option String

/-! ### The lists -/

/-- A row of `list_vpcs`. -/
structure Vpc where
  id : String
  name : String
  cidrBlock : Option String
  state : String
  isDefault : Bool
  projectId : Option String

/-- `list_vpcs`, on one row. -/
def normalizeVpc (raw : RawVpc) : Vpc where
  id := raw.id.getD ""
  name := raw.name.getD ""
  cidrBlock := raw.cidrBlock
  state := orElse (raw.state.getD "") "unknown"
  isDefault := raw.isDefault
  projectId := keep raw.projectId

/-- A row of `list_subnets`. -/
structure Subnet where
  id : String
  name : String
  cidrBlock : Option String
  vpcId : Option String
  state : String
  isDefault : Bool
  isDirect : Bool
  networkType : Option String
  mtu : Option ℤ
  totalIps : ℤ
  availableIps : ℤ
  projectId : Option String

/-- `list_subnets`, on one row. -/
def normalizeSubnet (raw : RawSubnet) : Subnet where
  id := raw.id.getD ""
  name := raw.name.getD ""
  cidrBlock := raw.cidrBlock
  vpcId := keep raw.vpcId
  state := orElse (raw.state.getD "") "unknown"
  isDefault := raw.isDefault
  isDirect := raw.isDirectNetwork
  networkType := raw.networkType
  mtu := raw.mtu
  totalIps := raw.totalIpAddressCount.getD 0
  availableIps := raw.availableIpAddressCount.getD 0
  projectId := keep raw.projectId

/-- `_describe_rule`: a permission as a person reads it. -/
def describeRule (rule : RawPermission) : String :=
  let shown : Option ℤ → String := fun port => (port.map toString).getD "None"
  let named := orElse (rule.ipProtocol.getD "") "any"
  let protocol := if named = "-1" then "any" else named
  let ports :=
    if (rule.fromPort = none ∨ rule.fromPort = some 0) ∧
        (rule.toPort = none ∨ rule.toPort = some 0 ∨ rule.toPort = some 65535) then "all ports"
    else if rule.fromPort = rule.toPort ∨ rule.toPort = none then shown rule.fromPort
    else shown rule.fromPort ++ "-" ++ shown rule.toPort
  let sources := rule.ipRanges.filterMap keep ++ List.replicate rule.groups "group"
  protocol ++ " " ++ ports ++ " · " ++
    (if sources = [] then "no source" else ", ".intercalate sources)

/-- A row of `list_security_groups`. -/
structure SecurityGroup where
  id : String
  name : String
  description : Option String
  vpcId : Option String
  ingress : List String
  egress : List String
  projectId : Option String

/-- `list_security_groups`, on one row. -/
def normalizeSecurityGroup (raw : RawSecurityGroup) : SecurityGroup where
  id := raw.id.getD ""
  name := raw.name.getD ""
  description := keep raw.description
  vpcId := keep raw.vpcId
  ingress := raw.ipPermissionsIngress.map describeRule
  egress := raw.ipPermissionsEgress.map describeRule
  projectId := keep raw.projectId

/-- A row of `list_elastic_ips`, the whole of it. -/
structure NetworkAddress extends ListedElasticIp where
  id : String
  publicDnsName : Option String
  privateIp : Option String
  networkInterfaceId : Option String

/-- `list_elastic_ips`, on one row. -/
def normalizeAddress (raw : RawAddress) : NetworkAddress :=
  { normalizeElasticIp raw.toRawElasticIp with
    id := raw.id.getD ""
    publicDnsName := keep (raw.publicDnsName.map fun name =>
      String.ofList (name.toList.reverse.dropWhile (· = '.')).reverse)
    privateIp := raw.privateIpAddress
    networkInterfaceId := raw.networkInterfaceId }

/-- A row of `list_internet_gateways`. -/
structure InternetGateway where
  id : String
  name : String
  vpcIds : List String
  state : Option String
  projectId : Option String

/-- `list_internet_gateways`, on one row. -/
def normalizeInternetGateway (raw : RawInternetGateway) : InternetGateway where
  id := raw.id.getD ""
  name := raw.name.getD ""
  vpcIds := raw.attachmentSet.filterMap fun attachment => keep attachment.1
  state := match raw.attachmentSet with
    | attachment :: _ => attachment.2
    | [] => some "detached"
  projectId := keep raw.projectId

/-- A row of `list_nat_gateways`. -/
structure NatGateway where
  id : String
  name : String
  publicIp : Option String
  privateIp : Option String
  state : String
  vpcId : Option String
  failure : Option String
  createdAt : Option String
  projectId : Option String

/-- `list_nat_gateways`: a deleted gateway is left out. -/
def listNatGateways (rows : List RawNatGateway) : List NatGateway :=
  (rows.filter fun raw => !truthy raw.deletedAt).map fun raw =>
    { id := raw.id.getD ""
      name := raw.name.getD ""
      publicIp := raw.publicIp
      privateIp := raw.privateIp
      state := orElse (raw.state.getD "") "unknown"
      vpcId := keep raw.vpcId
      failure := raw.failureMessage
      createdAt := raw.createdAt
      projectId := keep raw.projectId }

/-! ### The reads -/

/-- The lists of the cloud that the page reads. -/
inductive NetworkRead where
  | vpcs
  | subnets
  | securityGroups
  | firewallRules
  | elasticIps
  | internetGateways
  | natGateways
  | vms

/-- What a read is answered. -/
def NetworkRead.Answer : NetworkRead → Type
  | vpcs => Except ZadaraError (List RawVpc)
  | subnets => Except ZadaraError (List RawSubnet)
  | securityGroups => Except ZadaraError (List RawSecurityGroup)
  | firewallRules => Except ZadaraError (List RawRule)
  | elasticIps => Except ZadaraError (List RawAddress)
  | internetGateways => Except ZadaraError (List RawInternetGateway)
  | natGateways => Except ZadaraError (List RawNatGateway)
  | vms => Except ZadaraError (List RawVm)

/-- The sources of the page, by the names `gather` gives them. -/
inductive NetworkSource where
  | vpcs
  | subnets
  | securityGroups
  | firewallRules
  | elasticIps
  | internetGateways
  | natGateways
  | machines
  deriving DecidableEq

namespace NetworkSource

/-- The sources, in their order. -/
def all : List NetworkSource :=
  [vpcs, subnets, securityGroups, firewallRules, elasticIps, internetGateways, natGateways,
    machines]

instance : Fintype NetworkSource where
  elems := all.toFinset
  complete s := by cases s <;> decide

/-- The name of a source. -/
def name : NetworkSource → String
  | vpcs => "vpcs"
  | subnets => "subnets"
  | securityGroups => "security groups"
  | firewallRules => "firewall rules"
  | elasticIps => "elastic ips"
  | internetGateways => "internet gateways"
  | natGateways => "nat gateways"
  | machines => "machines"

/-- A row of a source. -/
def Row : NetworkSource → Type
  | vpcs => Vpc
  | subnets => Subnet
  | securityGroups => SecurityGroup
  | firewallRules => SecurityGroupRule
  | elasticIps => NetworkAddress
  | internetGateways => InternetGateway
  | natGateways => NatGateway
  | machines => ListedVm

/-- The sections of the page: the machines only label the addresses. -/
def sections : List NetworkSource := all.filter (· ≠ machines)

end NetworkSource

/-- What became of the sources. -/
abbrev NetworkResults := (s : NetworkSource) → Except ZadaraError (List s.Row)

/-- The rows of the sources. -/
structure NetworkRows where
  vpcs : List Vpc
  subnets : List Subnet
  securityGroups : List SecurityGroup
  firewallRules : List SecurityGroupRule
  elasticIps : List NetworkAddress
  internetGateways : List InternetGateway
  natGateways : List NatGateway
  machines : List ListedVm

/-- `fetched.value or []`. -/
def valueOrNone {α : Type} : Except ZadaraError (List α) → List α
  | .ok rows => rows
  | .error _ => []

/-- The rows that were read. -/
def NetworkResults.rows (results : NetworkResults) : NetworkRows where
  vpcs := valueOrNone (results .vpcs)
  subnets := valueOrNone (results .subnets)
  securityGroups := valueOrNone (results .securityGroups)
  firewallRules := valueOrNone (results .firewallRules)
  elasticIps := valueOrNone (results .elasticIps)
  internetGateways := valueOrNone (results .internetGateways)
  natGateways := valueOrNone (results .natGateways)
  machines := valueOrNone (results .machines)

/-- The source was refused. -/
def NetworkResults.refused (results : NetworkResults) (s : NetworkSource) : Bool :=
  match results s with
  | .ok _ => false
  | .error _ => true

/-! ### The page -/

/-- A network, with what is counted in it. -/
structure ShownVpc extends Vpc where
  subnets : ℕ
  securityGroups : ℕ
  hasInternetGateway : Bool

/-- A subnet, with the name of its network. -/
structure ShownSubnet extends Subnet where
  vpcName : String

/-- A firewall group, with its rules. -/
structure ShownGroup extends SecurityGroup where
  rules : List SecurityGroupRule
  vpcName : String

/-- An address, with the name of its machine. -/
structure ShownAddress extends NetworkAddress where
  instanceName : String

/-- A gateway, with the name of its network. -/
structure ShownNatGateway extends NatGateway where
  vpcName : String

/-- `meta` of the answer. -/
structure NetworkMeta where
  vpcs : ℕ
  subnets : ℕ
  securityGroups : ℕ
  elasticIps : ℕ
  elasticIpsFree : ℕ
  unavailable : List String

/-- The body of the answer. -/
structure NetworkPage where
  vpcs : List ShownVpc
  subnets : List ShownSubnet
  securityGroups : List ShownGroup
  elasticIps : List ShownAddress
  natGateways : List ShownNatGateway
  metadata : NetworkMeta

/-- `{x['id']: x['name'] for x in xs}`. -/
def nameIndex {α : Type} (id name : α → String) (xs : List α) : Dict String String :=
  xs.foldl (fun names x => names.set (id x) (name x)) []

/-- `names.get(id or '', '')`. -/
def shownName (names : Dict String String) (id : Option String) : String :=
  (names.get? (id.getD "")).getD ""

/-- `[r['label'] for r in rules if r['direction'] == …] or labels`. -/
def directionLabels (rules : List SecurityGroupRule) (direction : String) (labels : List String) :
    List String :=
  match (rules.filter fun r => r.direction = direction).map SecurityGroupRule.label with
  | [] => labels
  | shown => shown

/-- The rules of a group are put beside it. -/
def showGroup (byGroup : Dict String (List SecurityGroupRule)) (vpcNames : Dict String String)
    (group : SecurityGroup) :
    ShownGroup :=
  let rules := (byGroup.get? group.id).getD []
  { group with
    rules := rules
    ingress := directionLabels rules "ingress" group.ingress
    egress := directionLabels rules "egress" group.egress
    vpcName := shownName vpcNames group.vpcId }

/-- The page of the rows. -/
def networkPage (rows : NetworkRows) (unavailable : List String) : NetworkPage :=
  let byGroup :=
    Dict.collect (fun r : SecurityGroupRule => some r.groupId) [] (fun r rules => rules ++ [r]) []
    rows.firewallRules
  let vpcNames := nameIndex Vpc.id Vpc.name rows.vpcs
  let vmNames := nameIndex (fun vm : ListedVm => vm.id) (fun vm => vm.name) rows.machines
  let attachedGateways := rows.internetGateways.flatMap InternetGateway.vpcIds
  { vpcs := rows.vpcs.map fun vpc =>
      { vpc with
        subnets := rows.subnets.countP fun s => s.vpcId = some vpc.id
        securityGroups := rows.securityGroups.countP fun g => g.vpcId = some vpc.id
        hasInternetGateway := vpc.id ∈ attachedGateways }
    subnets := rows.subnets.map fun subnet =>
      { subnet with vpcName := shownName vpcNames subnet.vpcId }
    securityGroups := rows.securityGroups.map (showGroup byGroup vpcNames)
    elasticIps := rows.elasticIps.map fun address =>
      { address with instanceName := shownName vmNames address.instanceId }
    natGateways := rows.natGateways.map fun gateway =>
      { gateway with vpcName := shownName vpcNames gateway.vpcId }
    metadata :=
      { vpcs := rows.vpcs.length
        subnets := rows.subnets.length
        securityGroups := rows.securityGroups.length
        elasticIps := rows.elasticIps.length
        elasticIpsFree := rows.elasticIps.countP fun a => !truthy a.instanceId
        unavailable := unavailable } }

/-- `NetworkOverviewView.get`, from what became of the sources on. -/
def networkOverview (results : NetworkResults) : Except AppError NetworkPage :=
  let unavailable := NetworkSource.sections.filter results.refused
  if unavailable.length = NetworkSource.sections.length then
    .error ⟨"Failed to load networking", "upstream_error", 502⟩
  else .ok (networkPage results.rows (unavailable.map NetworkSource.name))

/-! ### Reading at the same time -/

/-- What `list_vms` gathers. -/
inductive VmSource where
  | vms
  | eips
  deriving DecidableEq

namespace VmSource

instance : Fintype VmSource where
  elems := [vms, eips].toFinset
  complete s := by cases s <;> decide

/-- What a source of `list_vms` gives. -/
def Result : VmSource → Type
  | vms => Except ZadaraError (List RawVm)
  | eips => Dict String (List String)

end VmSource

/-- `_public_ips_by_instance`, once the addresses have been read. -/
def publishedIps (answer : Except ZadaraError (List RawElasticIp)) : Dict String (List String) :=
  match answer.map (List.map normalizeElasticIp) with
  | .ok eips => publicIpsByInstance eips
  | .error _ => []

/-- `list_vms`, once its sources have been read. -/
def machinesOf (vms : Except ZadaraError (List RawVm)) (published : Dict String (List String)) :
    Except ZadaraError (List ListedVm) :=
  vms.map fun items => items.map fun raw =>
    let vm := normalizeVm raw
    { vm with publicIps := (published.get? vm.id).getD [] }

/-- `list_vms`, with the two reads it gathers. -/
def listVmsFetch : Fetch NetworkRead NetworkRead.Answer (Except ZadaraError (List ListedVm)) :=
  @Fetch.gather _ _ _ VmSource _ _ VmSource.Result
    (fun
      | .vms => .call .vms .done
      | .eips => .call .elasticIps fun answer =>
        .done (publishedIps (answer.map (List.map RawAddress.toRawElasticIp))))
    fun results => .done (machinesOf (results .vms) (results .eips))

/-- A source of the page. -/
def NetworkSource.fetch : (s : NetworkSource) →
    Fetch NetworkRead NetworkRead.Answer (Except ZadaraError (List s.Row))
  | vpcs => .call .vpcs fun answer => .done (answer.map (List.map normalizeVpc))
  | subnets => .call .subnets fun answer => .done (answer.map (List.map normalizeSubnet))
  | securityGroups => .call .securityGroups fun answer =>
    .done (answer.map (List.map normalizeSecurityGroup))
  | firewallRules => .call .firewallRules fun answer =>
    .done (answer.map (List.map normalizeSecurityGroupRule))
  | elasticIps => .call .elasticIps fun answer => .done (answer.map (List.map normalizeAddress))
  | internetGateways => .call .internetGateways fun answer =>
    .done (answer.map (List.map normalizeInternetGateway))
  | natGateways => .call .natGateways fun answer => .done (answer.map listNatGateways)
  | machines => listVmsFetch

/-- `NetworkOverviewView.get`, once the session's token has been found. -/
def networkOverviewFetch : Fetch NetworkRead NetworkRead.Answer (Except AppError NetworkPage) :=
  .gather NetworkSource.fetch fun results => .done (networkOverview results)

/-- The answers to the nine reads of the page; the addresses are read for their section and for the
machines. -/
structure NetworkAnswers where
  vpcs : NetworkRead.vpcs.Answer
  subnets : NetworkRead.subnets.Answer
  securityGroups : NetworkRead.securityGroups.Answer
  firewallRules : NetworkRead.firewallRules.Answer
  elasticIps : NetworkRead.elasticIps.Answer
  internetGateways : NetworkRead.internetGateways.Answer
  natGateways : NetworkRead.natGateways.Answer
  vms : NetworkRead.vms.Answer
  vmElasticIps : NetworkRead.elasticIps.Answer

namespace NetworkAnswers

variable (answers : NetworkAnswers)

/-- The reads of a source, with their answers. -/
def callsOf : NetworkSource → Multiset (Σ r : NetworkRead, r.Answer)
  | .vpcs => {⟨.vpcs, answers.vpcs⟩}
  | .subnets => {⟨.subnets, answers.subnets⟩}
  | .securityGroups => {⟨.securityGroups, answers.securityGroups⟩}
  | .firewallRules => {⟨.firewallRules, answers.firewallRules⟩}
  | .elasticIps => {⟨.elasticIps, answers.elasticIps⟩}
  | .internetGateways => {⟨.internetGateways, answers.internetGateways⟩}
  | .natGateways => {⟨.natGateways, answers.natGateways⟩}
  | .machines => {⟨.vms, answers.vms⟩} + {⟨.elasticIps, answers.vmElasticIps⟩}

/-- What becomes of the sources. -/
def results : NetworkResults
  | .vpcs => answers.vpcs.map (List.map normalizeVpc)
  | .subnets => answers.subnets.map (List.map normalizeSubnet)
  | .securityGroups => answers.securityGroups.map (List.map normalizeSecurityGroup)
  | .firewallRules => answers.firewallRules.map (List.map normalizeSecurityGroupRule)
  | .elasticIps => answers.elasticIps.map (List.map normalizeAddress)
  | .internetGateways => answers.internetGateways.map (List.map normalizeInternetGateway)
  | .natGateways => answers.natGateways.map listNatGateways
  | .machines =>
    machinesOf answers.vms
      (publishedIps (answers.vmElasticIps.map (List.map RawAddress.toRawElasticIp)))

end NetworkAnswers

section

variable {calls : Multiset (Σ r : NetworkRead, r.Answer)}

theorem yields_read {r : NetworkRead} {υ : Type} {f : r.Answer → υ} {value : υ}
    (h : (Fetch.call r fun answer => Fetch.done (f answer)).Yields calls value) :
    ∃ answer : r.Answer, calls = {⟨r, answer⟩} ∧ value = f answer := by
  cases h with
  | @call _ _ _ answer _ _ hnext =>
    cases hnext
    exact ⟨answer, add_zero _, rfl⟩

theorem yields_listVmsFetch {value : Except ZadaraError (List ListedVm)}
    (h : listVmsFetch.Yields calls value) :
    ∃ (vms : NetworkRead.vms.Answer) (eips : NetworkRead.elasticIps.Answer),
      calls = {⟨.vms, vms⟩} + {⟨.elasticIps, eips⟩} ∧
      value = machinesOf vms (publishedIps (eips.map (List.map RawAddress.toRawElasticIp))) := by
  unfold listVmsFetch at h
  cases h with
  | @gather _ _ _ _ _ _ _ each values _ _ heach hnext =>
    cases hnext
    obtain ⟨vms, hvms, hitems⟩ := yields_read (f := fun a => a) (heach .vms)
    obtain ⟨eips, heips, hpublished⟩ := yields_read (heach .eips)
    refine ⟨vms, eips, ?_, by rw [hitems, hpublished]⟩
    have hsum : ∑ s, each s = each .vms + (each .eips + 0) := rfl
    rw [hsum, hvms, heips, add_zero, add_zero]

/-- **The page does not depend on the schedule.**  An answer is served, after these reads, exactly
if it is the page of nine answers that were given to them: one to each list, and a second to the
addresses. -/
theorem networks_in_turn {answer : Except AppError NetworkPage} :
    (networkOverviewFetch.begin (gatherWorkers maxWorkers)).Steps (gatherWorkers maxWorkers) calls
      (.returned answer) ↔
      ∃ answers : NetworkAnswers, calls = ∑ s, answers.callsOf s ∧
        answer = networkOverview answers.results := by
  rw [← Fetch.yields_iff_steps fun _ => gatherWorkers_pos (show 0 < maxWorkers by decide)]
  constructor
  · intro h
    unfold networkOverviewFetch at h
    cases h with
    | @gather _ _ _ _ _ _ _ each results _ _ heach hnext =>
      cases hnext
      obtain ⟨vpcs, hvpcs, hvpcs'⟩ := yields_read (heach .vpcs)
      obtain ⟨subnets, hsubnets, hsubnets'⟩ := yields_read (heach .subnets)
      obtain ⟨groups, hgroups, hgroups'⟩ := yields_read (heach .securityGroups)
      obtain ⟨rules, hrules, hrules'⟩ := yields_read (heach .firewallRules)
      obtain ⟨eips, heips, heips'⟩ := yields_read (heach .elasticIps)
      obtain ⟨internet, hinternet, hinternet'⟩ := yields_read (heach .internetGateways)
      obtain ⟨nat, hnat, hnat'⟩ := yields_read (heach .natGateways)
      obtain ⟨vms, vmEips, hmachines, hmachines'⟩ := yields_listVmsFetch (heach .machines)
      let answers : NetworkAnswers :=
        ⟨vpcs, subnets, groups, rules, eips, internet, nat, vms, vmEips⟩
      refine ⟨answers, ?_, ?_⟩
      · rw [add_zero]
        refine Finset.sum_congr rfl fun s _ => ?_
        cases s <;> assumption
      · congr 1
        funext s
        cases s <;> assumption
  · rintro ⟨answers, rfl, rfl⟩
    rw [← add_zero (∑ s, answers.callsOf s)]
    refine .gather (fun s => ?_) (.done _)
    have hread : ∀ {r : NetworkRead} {υ : Type} (a : r.Answer) (f : r.Answer → υ),
        (Fetch.call r fun answer => Fetch.done (f answer)).Yields {⟨r, a⟩} (f a) := by
      intro r υ a f
      rw [← add_zero ({⟨r, a⟩} : Multiset (Σ r : NetworkRead, r.Answer))]
      exact .call (.done _)
    cases s with
    | vpcs => exact hread _ _
    | subnets => exact hread _ _
    | securityGroups => exact hread _ _
    | firewallRules => exact hread _ _
    | elasticIps => exact hread _ _
    | internetGateways => exact hread _ _
    | natGateways => exact hread _ _
    | machines =>
      -- the machines fork once more, over the list and the addresses of the instances
      let each : VmSource → Multiset (Σ r : NetworkRead, r.Answer)
        | .vms => {⟨.vms, answers.vms⟩}
        | .eips => {⟨.elasticIps, answers.vmElasticIps⟩}
      let results : (s : VmSource) → s.Result
        | .vms => answers.vms
        | .eips => publishedIps (answers.vmElasticIps.map (List.map RawAddress.toRawElasticIp))
      have hsum : answers.callsOf .machines = ∑ s, each s + 0 := by
        have : ∑ s, each s = each .vms + (each .eips + 0) := rfl
        rw [this, add_zero, add_zero]
        rfl
      rw [hsum]
      refine @Fetch.Yields.gather _ _ _ _ _ _ _ _ _ each results _ _ (fun s => ?_) (.done _)
      cases s with
      | vms => exact hread _ fun a => a
      | eips => exact hread _ _

end

/-! ### What the page shows -/

/-- The rows are those of the answer, and none where it was refused. -/
def RowsRead {α : Type} (answer : Except ZadaraError (List α)) (rows : List α) : Prop :=
  answer = .ok rows ∨ (∃ e, answer = .error e) ∧ rows = []

/-- The rows are what the readable lists say. -/
structure NetworkRows.ReadFrom (rows : NetworkRows) (results : NetworkResults) : Prop where
  vpcs : RowsRead (results .vpcs) rows.vpcs
  subnets : RowsRead (results .subnets) rows.subnets
  securityGroups : RowsRead (results .securityGroups) rows.securityGroups
  firewallRules : RowsRead (results .firewallRules) rows.firewallRules
  elasticIps : RowsRead (results .elasticIps) rows.elasticIps
  internetGateways : RowsRead (results .internetGateways) rows.internetGateways
  natGateways : RowsRead (results .natGateways) rows.natGateways
  machines : RowsRead (results .machines) rows.machines

/-- The name that stands beside a key: that of the last row with this id, and nothing where no row
has it. -/
structure NamedBy {α : Type} (id name : α → String) (rows : List α) (key shown : String) :
    Prop where
  listed : ∀ before row after, rows = before ++ row :: after → id row = key →
    (∀ r ∈ after, id r ≠ key) →
    shown = name row
  unlisted : (∀ r ∈ rows, id r ≠ key) → shown = ""

/-- The labels of a direction are those of the rules that have it, in their order, and the group's
own where no rule has it. -/
structure LabelledBy (rules : List SecurityGroupRule) (direction : String)
    (own shown : List String) : Prop where
  ruled : (∃ r ∈ rules, r.direction = direction) →
    shown = (rules.filter fun r => r.direction = direction).map fun r => r.label
  unruled : (∀ r ∈ rules, r.direction ≠ direction) → shown = own

/-- A network of the page: the listed one, with the subnets and the groups that name it, and whether
a gateway is attached to it. -/
structure ShownVpc.Shows (rows : NetworkRows) (vpc : Vpc) (shown : ShownVpc) : Prop where
  row : shown.toVpc = vpc
  subnets : shown.subnets = rows.subnets.countP fun s => s.vpcId = some vpc.id
  securityGroups : shown.securityGroups = rows.securityGroups.countP fun g => g.vpcId = some vpc.id
  hasInternetGateway : shown.hasInternetGateway = true ↔
    ∃ g ∈ rows.internetGateways, vpc.id ∈ g.vpcIds

/-- A group of the page: the listed one, with the rules that name it and their labels. -/
structure ShownGroup.Shows (rows : NetworkRows) (group : SecurityGroup) (shown : ShownGroup) :
    Prop where
  id : shown.id = group.id
  name : shown.name = group.name
  description : shown.description = group.description
  vpcId : shown.vpcId = group.vpcId
  projectId : shown.projectId = group.projectId
  rules : shown.rules = rows.firewallRules.filter fun r => r.groupId = group.id
  ingress : LabelledBy shown.rules "ingress" group.ingress shown.ingress
  egress : LabelledBy shown.rules "egress" group.egress shown.egress
  vpcName :
    NamedBy (fun v : Vpc => v.id) (fun v => v.name) rows.vpcs (group.vpcId.getD "") shown.vpcName

/-- The page shows the rows, each at its place: what the row says, and beside it what the other
lists say of it. -/
structure NetworkPage.Shows (rows : NetworkRows) (page : NetworkPage) : Prop where
  vpcs : List.Forall₂ (ShownVpc.Shows rows) rows.vpcs page.vpcs
  subnets : List.Forall₂ (fun subnet shown => shown.toSubnet = subnet ∧
    NamedBy (fun v : Vpc => v.id) (fun v => v.name) rows.vpcs (subnet.vpcId.getD "") shown.vpcName)
      rows.subnets page.subnets
  securityGroups : List.Forall₂ (ShownGroup.Shows rows) rows.securityGroups page.securityGroups
  elasticIps : List.Forall₂ (fun address shown => shown.toNetworkAddress = address ∧
    NamedBy (fun vm : ListedVm => vm.id) (fun vm => vm.name) rows.machines
      (address.instanceId.getD "")
      shown.instanceName) rows.elasticIps page.elasticIps
  natGateways : List.Forall₂ (fun gateway shown => shown.toNatGateway = gateway ∧
    NamedBy (fun v : Vpc => v.id) (fun v => v.name) rows.vpcs (gateway.vpcId.getD "") shown.vpcName)
      rows.natGateways page.natGateways
  counts : page.metadata.vpcs = rows.vpcs.length ∧ page.metadata.subnets = rows.subnets.length ∧
    page.metadata.securityGroups = rows.securityGroups.length ∧
      page.metadata.elasticIps = rows.elasticIps.length
  elasticIpsFree : page.metadata.elasticIpsFree =
    rows.elasticIps.countP fun a => a.instanceId = none ∨ a.instanceId = some ""
  /-- Where the ids are distinct, each row is counted once, or names nothing that is listed. -/
  subnetsCounted : (rows.vpcs.map Vpc.id).Nodup →
    (page.vpcs.map ShownVpc.subnets).sum +
      rows.subnets.countP (fun s => ∀ v ∈ rows.vpcs, s.vpcId ≠ some v.id) =
      rows.subnets.length
  groupsCounted : (rows.vpcs.map Vpc.id).Nodup →
    (page.vpcs.map ShownVpc.securityGroups).sum +
      rows.securityGroups.countP (fun g => ∀ v ∈ rows.vpcs, g.vpcId ≠ some v.id) =
        rows.securityGroups.length
  rulesCounted : (rows.securityGroups.map SecurityGroup.id).Nodup →
    (page.securityGroups.map fun g => g.rules.length).sum +
      rows.firewallRules.countP (fun r => ∀ g ∈ rows.securityGroups, r.groupId ≠ g.id) =
        rows.firewallRules.length

section

theorem sum_countP_key {α β κ : Type} [DecidableEq κ] {keyed : List α} {key : α → κ}
    {items : List β} (keyOf : β → κ) (hkeys : (keyed.map key).Nodup) :
    (keyed.map fun a => items.countP fun b => keyOf b = key a).sum +
      items.countP (fun b => ∀ a ∈ keyed, keyOf b ≠ key a) = items.length := by
  have hsplit :
    tally (fun k => tally (fun _ => 1) (items.filter fun b => keyOf b = k)) (keyed.map key) +
      tally (fun _ => 1) (items.filter fun b => keyOf b ∉ keyed.map key) =
        tally (fun _ => 1) items := tally_by_key hkeys
  simp only [tally_one] at hsplit
  rw [← hsplit, tally, List.map_map, List.countP_eq_length_filter]
  congr 1
  · congr 1
    refine List.map_congr_left fun a _ => ?_
    rw [List.countP_eq_length_filter]
    rfl
  · congr 2
    funext b
    simp [eq_comm]

theorem rowsRead_valueOrNone {α : Type} (answer : Except ZadaraError (List α)) :
    RowsRead answer (valueOrNone answer) := by
  cases answer with
  | ok rows => exact .inl rfl
  | error e => exact .inr ⟨⟨e, rfl⟩, rfl⟩

theorem namedBy_shownName {α : Type} (id name : α → String) (rows : List α) (key : Option String) :
    NamedBy id name rows (key.getD "") (shownName (nameIndex id name rows) key) := by
  have hshown : shownName (nameIndex id name rows) key =
      (((rows.filter fun r => id r = key.getD "").getLast?.map name).or none).getD "" := by
    rw [shownName, nameIndex, Dict.get?_foldl_set_last]
    rfl
  constructor
  case listed =>
    rintro before row after rfl hid hafter
    have hnone : after.filter (fun r => id r = key.getD "") = [] := by simpa using hafter
    rw [hshown, List.filter_append, List.filter_cons_of_pos (by simpa using hid), hnone,
      List.getLast?_concat]
    rfl
  case unlisted =>
    intro h
    have hnone : rows.filter (fun r => id r = key.getD "") = [] := by simpa using h
    rw [hshown, hnone]
    rfl

theorem labelledBy_directionLabels (rules : List SecurityGroupRule) (direction : String)
    (own : List String) :
    LabelledBy rules direction own (directionLabels rules direction own) := by
  have hnil : (rules.filter fun r => r.direction = direction) = [] ↔
    ∀ r ∈ rules, r.direction ≠ direction := by
    simp [List.filter_eq_nil_iff]
  unfold directionLabels
  constructor
  case ruled =>
    rintro ⟨r, hr, hdirection⟩
    split
    · rename_i hlabels
      exact absurd hdirection (hnil.1 (List.map_eq_nil_iff.1 hlabels) r hr)
    · rfl
  case unruled =>
    intro h
    rw [hnil.2 h]
    rfl

/-- The page shows the rows. -/
theorem networkPage_shows (rows : NetworkRows) (unavailable : List String) :
    (networkPage rows unavailable).Shows rows := by
  -- the rules under the id of a group, collected in one pass, are the rules that name it
  have hrules : ∀ id : String, ((Dict.collect (fun r : SecurityGroupRule => some r.groupId) []
      (fun r rules => rules ++ [r]) [] rows.firewallRules).get? id).getD [] =
        rows.firewallRules.filter fun r => r.groupId = id := fun id => by
    rw [Dict.getD_group]
    simp only [Option.some_inj]
  have hkeys : (rows.vpcs.map Vpc.id).Nodup → (rows.vpcs.map fun v => some v.id).Nodup :=
    fun hids => by
    have hsome := hids.map (Option.some_injective _)
    rwa [List.map_map] at hsome
  constructor
  case vpcs =>
    refine List.forall₂_map_right_iff.2 (List.forall₂_same.2 fun vpc _ => ⟨rfl, rfl, rfl, ?_⟩)
    simp [List.mem_flatMap]
  case subnets =>
    exact List.forall₂_map_right_iff.2 (List.forall₂_same.2 fun subnet _ =>
      ⟨rfl, namedBy_shownName _ _ _ _⟩)
  case securityGroups =>
    refine List.forall₂_map_right_iff.2 (List.forall₂_same.2 fun group _ => ?_)
    exact ⟨rfl, rfl, rfl, rfl, rfl, hrules group.id, labelledBy_directionLabels _ _ _,
      labelledBy_directionLabels _ _ _, namedBy_shownName _ _ _ _⟩
  case elasticIps =>
    exact List.forall₂_map_right_iff.2 (List.forall₂_same.2 fun address _ =>
      ⟨rfl, namedBy_shownName _ _ _ _⟩)
  case natGateways =>
    exact List.forall₂_map_right_iff.2 (List.forall₂_same.2 fun gateway _ =>
      ⟨rfl, namedBy_shownName _ _ _ _⟩)
  case counts => exact ⟨rfl, rfl, rfl, rfl⟩
  case elasticIpsFree =>
    refine List.countP_congr fun a _ => ?_
    cases a.instanceId <;> simp [truthy]
  case subnetsCounted =>
    intro hids
    rw [← sum_countP_key (fun s : Subnet => s.vpcId) (hkeys hids), networkPage, List.map_map]
    rfl
  case groupsCounted =>
    intro hids
    rw [← sum_countP_key (fun g : SecurityGroup => g.vpcId) (hkeys hids), networkPage, List.map_map]
    rfl
  case rulesCounted =>
    intro hids
    rw [← sum_countP_key (fun r : SecurityGroupRule => r.groupId) hids, networkPage, List.map_map]
    congr 2
    refine List.map_congr_left fun g _ => ?_
    rw [Function.comp_apply, List.countP_eq_length_filter, ← hrules g.id]
    rfl

theorem refused_iff {results : NetworkResults} {s : NetworkSource} :
    results.refused s = true ↔ ∃ e, results s = .error e := by
  unfold NetworkResults.refused
  cases results s <;> simp

theorem mem_sections {s : NetworkSource} : s ∈ NetworkSource.sections ↔ s ≠ .machines := by
  cases s <;> decide

theorem name_mem_unavailable {results : NetworkResults} {s : NetworkSource} (hs : s ≠ .machines) :
    s.name ∈ (NetworkSource.sections.filter results.refused).map NetworkSource.name ↔
      ∃ e, results s = .error e := by
  have hinj : Function.Injective NetworkSource.name := by decide
  rw [List.mem_map_of_injective hinj, List.mem_filter, mem_sections, refused_iff]
  exact and_iff_right hs

/-- **A refused list takes nothing else with it.**  The page is refused where all of its sections
are, and otherwise it shows all that was read and names what was not. -/
theorem networkOverview_cases (results : NetworkResults) :
    ((∀ s, s ≠ .machines → ∃ e, results s = .error e) ∧
      networkOverview results = .error ⟨"Failed to load networking", "upstream_error", 502⟩) ∨
    ((∃ s, s ≠ .machines ∧ ∃ rows, results s = .ok rows) ∧
      ∃ page, networkOverview results = .ok page ∧
        (∃ rows : NetworkRows, rows.ReadFrom results ∧ page.Shows rows) ∧
        page.metadata.unavailable.Sublist ["vpcs", "subnets", "security groups", "firewall rules",
          "elastic ips", "internet gateways", "nat gateways"] ∧
        ∀ s : NetworkSource, s ≠ .machines →
          (s.name ∈ page.metadata.unavailable ↔ ∃ e, results s = .error e)) := by
  by_cases hall : ∀ s ∈ NetworkSource.sections, results.refused s = true
  · refine .inl ⟨fun s hs => refused_iff.1 (hall s (mem_sections.2 hs)), ?_⟩
    have hsame : NetworkSource.sections.filter results.refused = NetworkSource.sections :=
      List.filter_eq_self.2 hall
    unfold networkOverview
    rw [hsame, if_pos rfl]
  · have hlength : ¬ (NetworkSource.sections.filter results.refused).length =
      NetworkSource.sections.length :=
      fun h => hall (List.length_filter_eq_length_iff.1 h)
    obtain ⟨s, hs, hread⟩ : ∃ s ∈ NetworkSource.sections, ¬ results.refused s = true := by
      simpa using hall
    have hrows : ∃ rows, results s = .ok rows := by
      rw [refused_iff] at hread
      cases h : results s with
      | ok rows => exact ⟨rows, rfl⟩
      | error e => exact absurd ⟨e, h⟩ hread
    refine .inr ⟨⟨s, mem_sections.1 hs, hrows⟩, _, if_neg hlength, ⟨_, ?_, networkPage_shows _ _⟩,
      ?_, ?_⟩
    · constructor <;> exact rowsRead_valueOrNone _
    · exact (List.filter_sublist.map NetworkSource.name)
    · exact fun s hs => name_mem_unavailable hs

end

end OpenCloud
