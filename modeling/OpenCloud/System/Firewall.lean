import OpenCloud.System.Trail

/-!
# What a firewall rule admits

A port range that is absent from a rule means every port, a source that is absent every peer.  A
request for a rule names its ports and its source in four optional fields; here they are compared
with the rule that is posted, and with what the journal says of it.

How the cloud reads a CIDR is a parameter, `prefixLength`.

## Main results

* `never_wider_iff` : a rule that is posted is no wider than what was asked for, unless only the
  upper port was.
* `flagged_iff` : the journal flags the rules open to the internet, except those without a source
  and those whose prefix is spelled in another way.
-/

namespace OpenCloud

/-- The ports a rule admits. -/
def RulePayload.AdmitsPort (rule : RulePayload) (port : ℤ) : Prop :=
  ∀ range, rule.portRange = some range → range.1 ≤ port ∧ port ≤ range.2

/-- The rule admits every address of its family. -/
def RulePayload.Open (prefixLength : String → Option ℕ) (rule : RulePayload) : Prop :=
  (rule.remoteIpPrefix = none ∧ rule.remoteGroupId = none) ∨
    ∃ cidr, rule.remoteIpPrefix = some cidr ∧ prefixLength cidr = some 0

/-- The text a field names, if it is not blank. -/
def named (field : Option String) : Option String := keep (some (strip (field.getD "")))

/-- The rule is no wider than what the request asks for. -/
structure RuleData.NotWider (data : RuleData) (rule : RulePayload) : Prop where
  ports : (∃ n, data.portFrom = .number n) ∨ (∃ n, data.portTo = .number n) → rule.portRange.isSome
  bounds : ∀ port, rule.AdmitsPort port →
    (∀ n, data.portFrom = .number n → n ≤ port) ∧ (∀ n, data.portTo = .number n → port ≤ n)
  source : (named data.cidr).isSome ∨ (named data.remoteGroupId).isSome →
    (rule.remoteIpPrefix.isSome ∧ rule.remoteIpPrefix = named data.cidr) ∨
      (rule.remoteGroupId.isSome ∧ rule.remoteGroupId = named data.remoteGroupId)

/-! ### The rules that are posted -/

section

variable {W L α : Type}

/-- A call, beside a list it leaves alone. -/
def CloudCall.beside (call : CloudCall W α) : CloudCall (W × L) α :=
  ExceptT.mk fun w => ((call.run w.1).1, (call.run w.1).2, w.2)

/-- The same cloud, with a list of the rules posted to it. -/
def Upstream.recording (up : Upstream W) : Upstream (W × List RulePayload) :=
  { up with
    postAction := fun token vmId request => CloudCall.beside (up.postAction token vmId request)
    postGuestReboot := fun token vmId => CloudCall.beside (up.postGuestReboot token vmId)
    getVnc := fun token vmId => CloudCall.beside (up.getVnc token vmId)
    postRule := fun token rule => ExceptT.mk fun w =>
      (((up.postRule token rule).run w.1).1, ((up.postRule token rule).run w.1).2, w.2 ++ [rule])
    deleteRule := fun token ruleId => CloudCall.beside (up.deleteRule token ruleId)
    postUser := fun token payload => CloudCall.beside (up.postUser token payload)
    putUser := fun token userId fields => CloudCall.beside (up.putUser token userId fields)
    deleteUser := fun token userId => CloudCall.beside (up.deleteUser token userId)
    putRole := fun token projectId userId role =>
      CloudCall.beside (up.putRole token projectId userId role) }

end

section

variable {W : Type} {c : Casing} {up : Upstream W} {vaulted : Option String} {groupId : String}
  {data : RuleData}

/-- The rule a request asks for, once its ports are read. -/
def RuleData.asked (c : Casing) (data : RuleData) (portFrom portTo : Option ℤ) : RuleRequest where
  direction := c.lower (strip ((firstOf data.direction (some "ingress")).getD ""))
  protocol := keep (some (c.lower (strip (data.protocol.getD ""))))
  portFrom := portFrom
  portTo := portTo
  cidr := named data.cidr
  remoteGroupId := named data.remoteGroupId
  description := strip (data.description.getD "")

/-- A request that reaches the cloud asks for one rule, and its entry says whether that is open. -/
theorem ruleCreateAsk_eq_ok {change : Change W SecurityGroupRule SecurityGroupRule}
    (h : ruleCreateAsk c up vaulted groupId data = .ok change) : ∃ token portFrom portTo,
    data.portFrom.read = .ok portFrom ∧ data.portTo.read = .ok portTo ∧
      change.call = createSecurityGroupRule up.toWriteApi token groupId
        (data.asked c portFrom portTo) ∧
      change.aside = (fun _ => none) ∧
      ∀ created, (change.done created).detail = [("rule", .text created.label),
        ("direction", .text (data.asked c portFrom portTo).direction),
        ("openToInternet", .flag (opensTheInternet (named data.cidr)))] := by
  unfold ruleCreateAsk at h
  obtain ⟨token, -, h⟩ := exists_of_bind_eq_ok h
  dsimp only at h
  split_ifs at h with hdirection
  · cases h
  obtain ⟨portFrom, hfrom, h⟩ := exists_of_bind_eq_ok h
  obtain ⟨portTo, hto, h⟩ := exists_of_bind_eq_ok h
  -- the group has to be one of the session's own
  obtain ⟨visible, -, h⟩ := exists_of_bind_eq_ok h
  split_ifs at h with hvisible
  · cases h
    exact ⟨token, portFrom, portTo, hfrom, hto, rfl, rfl, fun _ => rfl⟩
  · cases h

theorem PortField.read_eq_ok {field : PortField} {port : Option ℤ} (h : field.read = .ok port)
    (n : ℤ) :
    field = .number n ↔ port = some n := by
  cases field with
  | blank =>
    cases h
    simp
  | number m =>
    cases h
    simp
  | notNumber => cases h

theorem payload_source (c : Casing) (groupId : String) (data : RuleData)
    (portFrom portTo : Option ℤ) :
    ((data.asked c portFrom portTo).payload groupId).remoteIpPrefix = named data.cidr ∧
      ((data.asked c portFrom portTo).payload groupId).remoteGroupId =
        if (named data.cidr).isSome then none else named data.remoteGroupId := by
  have hcidr : keep (named data.cidr) = named data.cidr := keep_keep _
  have hgroup : keep (named data.remoteGroupId) = named data.remoteGroupId := keep_keep _
  have htruthy : truthy (named data.cidr) = (named data.cidr).isSome := truthy_keep _
  simp only [RuleRequest.payload, RuleData.asked, hcidr, hgroup, true_and]
  exact if_congr (Bool.eq_iff_iff.1 htruthy) rfl rfl

theorem source_payload {rule : RulePayload} {portFrom portTo : Option ℤ}
    (hrule : rule = (data.asked c portFrom portTo).payload groupId)
    (h : (named data.cidr).isSome ∨ (named data.remoteGroupId).isSome) :
    (rule.remoteIpPrefix.isSome ∧ rule.remoteIpPrefix = named data.cidr) ∨
      (rule.remoteGroupId.isSome ∧ rule.remoteGroupId = named data.remoteGroupId) := by
  obtain ⟨hpre, hgroup⟩ := payload_source c groupId data portFrom portTo
  rw [← hrule] at hpre hgroup
  by_cases hcidr : (named data.cidr).isSome
  · exact .inl ⟨hpre ▸ hcidr, hpre⟩
  · rw [if_neg hcidr] at hgroup
    exact .inr ⟨hgroup ▸ h.resolve_left hcidr, hgroup⟩

theorem strip_named {field : Option String} {s : String} (h : named field = some s) :
    strip s = s := by
  obtain ⟨hs, -⟩ := keep_eq_some.1 h
  rw [← Option.some.inj hs, strip_strip]

/-- The flag of a rule is right where a source is named, and no prefix of length zero in another
spelling. -/
theorem flag_payload {prefixLength : String → Option ℕ} (h4 : prefixLength "0.0.0.0/0" = some 0)
    (h6 : prefixLength "::/0" = some 0) {portFrom portTo : Option ℤ} :
    (opensTheInternet (named data.cidr) = true ↔
        ((data.asked c portFrom portTo).payload groupId).Open prefixLength) ↔
      ((named data.cidr).isSome ∨ (named data.remoteGroupId).isSome) ∧
        ∀ cidr, named data.cidr = some cidr → prefixLength cidr = some 0 →
          cidr = "0.0.0.0/0" ∨ cidr = "::/0" := by
  obtain ⟨hpre, hgroup⟩ := payload_source c groupId data portFrom portTo
  rw [RulePayload.Open, hpre, hgroup]
  cases hcidr : named data.cidr with
  | none =>
    have hflag : opensTheInternet none = false := rfl
    cases named data.remoteGroupId <;> simp [hflag]
  | some cidr =>
    have hflag : opensTheInternet (some cidr) = true ↔ cidr = "0.0.0.0/0" ∨ cidr = "::/0" := by
      simp [opensTheInternet, strip_named hcidr]
    have hopen : cidr = "0.0.0.0/0" ∨ cidr = "::/0" → prefixLength cidr = some 0 := by
      rintro (rfl | rfl)
      · exact h4
      · exact h6
    simpa [hflag] using ⟨fun h => h.2, fun h => ⟨hopen, h⟩⟩

/-- The rule that is posted is no wider, unless the upper port alone is named. -/
theorem notWider_payload {portFrom portTo : Option ℤ} (hfrom : data.portFrom.read = .ok portFrom)
    (hto : data.portTo.read = .ok portTo) :
    data.NotWider ((data.asked c portFrom portTo).payload groupId) ↔
      (∃ n, data.portFrom = .number n) ∨ ¬ ∃ n, data.portTo = .number n := by
  have hnamed : ∀ n, data.portFrom = .number n ↔ portFrom = some n := PortField.read_eq_ok hfrom
  have hnamed' : ∀ n, data.portTo = .number n ↔ portTo = some n := PortField.read_eq_ok hto
  have hrange : ((data.asked c portFrom portTo).payload groupId).portRange =
      portFrom.map fun n => (n, portTo.getD n) := rfl
  generalize hrule : (data.asked c portFrom portTo).payload groupId = rule at hrange
  cases portFrom with
  | none =>
    -- no range is written, and an upper port that was named is lost
    have hlower : ¬ ∃ n, data.portFrom = .number n := by simp [hnamed]
    constructor
    · rintro ⟨hports, -, -⟩
      refine .inr fun hupper => ?_
      simpa [hrange] using hports (.inr hupper)
    · intro h
      have hupper : ¬ ∃ n, data.portTo = .number n := h.resolve_left hlower
      constructor
      case ports => exact fun hbound => absurd hbound (not_or.2 ⟨hlower, hupper⟩)
      case bounds => exact fun _ _ =>
        ⟨fun n hn => absurd ⟨n, hn⟩ hlower, fun n hn => absurd ⟨n, hn⟩ hupper⟩
      case source => exact source_payload hrule.symm
  | some lower =>
    -- both ends are written, the upper one the same as the lower if it is absent
    refine ⟨fun _ => .inl ⟨lower, (hnamed lower).2 rfl⟩, fun _ => ?_⟩
    constructor
    case ports =>
      intro _
      rw [hrange]
      rfl
    case bounds =>
      intro port hport
      obtain ⟨hlower, hupper⟩ := hport _ hrange
      refine ⟨fun n hn => ?_, fun n hn => ?_⟩
      · cases (hnamed n).1 hn
        exact hlower
      · cases (hnamed' n).1 hn
        exact hupper
    case source => exact source_payload hrule.symm

end

/-! ### The rule that is posted -/

section

variable {W : Type} {c : Casing} {up : Upstream W} {vaulted : Option String} {groupId : String}
  {data : RuleData} {user : CabinetUser} {w : CabinetWorld (W × List RulePayload)}

theorem createSecurityGroupRule_recording {token : String} {rule : RuleRequest}
    {cloud : W × List RulePayload} :
    (createSecurityGroupRule up.recording.toWriteApi token groupId rule cloud).2.2 =
      cloud.2 ++ [rule.payload groupId] := by
  have hpost : ∃ out cloud', up.recording.postRule token (rule.payload groupId) cloud =
      (out, cloud', cloud.2 ++ [rule.payload groupId]) := ⟨_, _, rfl⟩
  obtain ⟨out, cloud', hpost⟩ := hpost
  -- an answer without a rule comes after the rule was posted
  simp only [createSecurityGroupRule, bind, ExceptT.bind, ExceptT.mk, StateT.bind, hpost]
  cases out with
  | error err => rfl
  | ok resp =>
    simp only [ExceptT.bindCont]
    cases createdRule resp <;> rfl

/-- A request that is cleared posts its rule; if the cloud creates it, one row says so. -/
theorem ruleCreatePost_of_eq_ok
    {change : Change (W × List RulePayload) SecurityGroupRule SecurityGroupRule}
    (h : ruleCreateAsk c up.recording vaulted groupId data = .ok change) : ∃ portFrom portTo,
    data.portFrom.read = .ok portFrom ∧ data.portTo.read = .ok portTo ∧
      (ruleCreatePost c up.recording vaulted user w groupId data).2.cloud.2 =
        w.cloud.2 ++ [(data.asked c portFrom portTo).payload groupId] ∧
      ∀ created, (ruleCreatePost c up.recording vaulted user w groupId data).1 = .ok created →
        ∃ row,
        w.newRows (ruleCreatePost c up.recording vaulted user w groupId data).2 = [row] ∧
          row.outcome = .success ∧
          row.detail.lookup "openToInternet" =
            some (.flag (opensTheInternet (named data.cidr))) := by
  obtain ⟨token, portFrom, portTo, hfrom, hto, hcall, haside, hdone⟩ := ruleCreateAsk_eq_ok h
  refine ⟨portFrom, portTo, hfrom, hto, ?_⟩
  have hposted :=
    @createSecurityGroupRule_recording W up groupId token (data.asked c portFrom portTo) w.cloud
  rw [← hcall] at hposted
  unfold ruleCreatePost
  rw [h, attempt, Change.make, haside]
  cases hmade : change.call w.cloud with
  | mk out cloud =>
    rw [hmade] at hposted
    cases out with
    | error err => exact ⟨hposted, fun created hcreated => by cases hcreated⟩
    | ok b =>
      refine ⟨hposted, fun created _ => ⟨(change.done b).row user .success "", ?_, rfl, ?_⟩⟩
      · simp [CabinetWorld.newRows, CabinetWorld.record, Db.audit]
      · rw [Entry.row, hdone b]
        rfl

/-- **A firewall rule is no wider than what was asked for**, unless the request names an upper port
and no lower one. -/
theorem never_wider_iff (h : ∃ change, ruleCreateAsk c up.recording vaulted groupId data =
    .ok change) : ∃ rule,
    (ruleCreatePost c up.recording vaulted user w groupId data).2.cloud.2 = w.cloud.2 ++ [rule] ∧
      (data.NotWider rule ↔ (∃ n, data.portFrom = .number n) ∨ ¬ ∃ n, data.portTo = .number n) := by
  obtain ⟨change, hask⟩ := h
  obtain ⟨portFrom, portTo, hfrom, hto, hposted, -⟩ := ruleCreatePost_of_eq_ok hask
  exact ⟨_, hposted, notWider_payload hfrom hto⟩

/-- **The journal flags the rules open to the internet**, of those the cloud creates, where a source
is named and no prefix of length zero is spelled in another way. -/
theorem flagged_iff {prefixLength : String → Option ℕ} (h4 : prefixLength "0.0.0.0/0" = some 0)
    (h6 : prefixLength "::/0" = some 0) {created : SecurityGroupRule}
    (h : (ruleCreatePost c up.recording vaulted user w groupId data).1 = .ok created) :
    ∃ rule row flag,
    (ruleCreatePost c up.recording vaulted user w groupId data).2.cloud.2 = w.cloud.2 ++ [rule] ∧
      w.newRows (ruleCreatePost c up.recording vaulted user w groupId data).2 = [row] ∧
      row.outcome = .success ∧ row.detail.lookup "openToInternet" = some (.flag flag) ∧
      ((flag = true ↔ rule.Open prefixLength) ↔
        ((named data.cidr).isSome ∨ (named data.remoteGroupId).isSome) ∧
          ∀ cidr, named data.cidr = some cidr → prefixLength cidr = some 0 →
            cidr = "0.0.0.0/0" ∨ cidr = "::/0") := by
  obtain ⟨change, hask⟩ :
      ∃ change, ruleCreateAsk c up.recording vaulted groupId data = .ok change := by
    cases hask : ruleCreateAsk c up.recording vaulted groupId data with
    | error err =>
      rw [ruleCreatePost, hask] at h
      cases h
    | ok change => exact ⟨change, rfl⟩
  obtain ⟨portFrom, portTo, -, -, hposted, hrow⟩ := ruleCreatePost_of_eq_ok hask
  obtain ⟨row, hrows, hsuccess, hflag⟩ := hrow created h
  exact ⟨_, row, _, hposted, hrows, hsuccess, hflag, flag_payload h4 h6⟩

end

/-! ### Rules that are wider, and not flagged -/

/-- A rule as it is answered. -/
def RulePayload.created (rule : RulePayload) : RawRule where
  id := some "r1"
  securityGroupId := some rule.securityGroupId
  direction := some rule.direction
  ethertype := some rule.ethertype
  protocol := rule.protocol
  portRangeMin := rule.portRange.map Prod.fst
  portRangeMax := rule.portRange.map Prod.snd
  remoteIpPrefix := rule.remoteIpPrefix
  remoteGroupId := rule.remoteGroupId
  description := some rule.description

/-- A cloud of one firewall group that creates every rule. -/
def obliging : Upstream Unit :=
  { readOnly with
    securityGroups := fun _ => .ok ["g1"]
    postRule := fun _ rule => pure ⟨201, some ⟨none, some rule.created⟩⟩ }

/-- Nothing is posted to it yet. -/
def firewallWorld : CabinetWorld (Unit × List RulePayload) := ⟨((), []), .empty, acmeWorld.db, 0⟩

/-- TCP from a private network. -/
def tcpFrom (cidr : Option String) (portFrom portTo : PortField) : RuleData :=
  ⟨none, cidr, none, some "tcp", portFrom, portTo, none⟩

/-- The length after the slash. -/
def lengthOf (cidr : String) : Option ℕ :=
  match cidr.toList.dropWhile (· != '/') with
  | _ :: digit :: digits => some (Nat.ofDigitChars 10 (digit :: digits) 0)
  | _ => none

/-- A request for a rule of the group. -/
def postRule (data : RuleData) :
    Except Refusal SecurityGroupRule × CabinetWorld (Unit × List RulePayload) :=
  ruleCreatePost .ascii obliging.recording (some "token")
    ⟨"Acme", "ann", "u1"⟩ firewallWorld "g1" data

/-- Port 22 from a private network. -/
theorem never_wider_iff_ssh : ∃ rule,
    (postRule (tcpFrom (some "10.0.0.0/8") (.number 22) .blank)).2.cloud.2 =
      firewallWorld.cloud.2 ++ [rule] ∧
      ((tcpFrom (some "10.0.0.0/8") (.number 22) .blank).NotWider rule ↔
        (∃ n, PortField.number 22 = .number n) ∨ ¬ ∃ n, PortField.blank = .number n) :=
  never_wider_iff ⟨_, rfl⟩

/-- Up to port 22 is every port. -/
theorem wider_of_upper_alone : ¬ ∀ data : RuleData,
    (∃ change, ruleCreateAsk .ascii obliging.recording (some "token") "g1" data = .ok change) →
      ∃ rule,
      (postRule data).2.cloud.2 = firewallWorld.cloud.2 ++ [rule] ∧ data.NotWider rule := by
  intro h
  obtain ⟨rule, hposted, hnarrow⟩ := h (tcpFrom (some "10.0.0.0/8") .blank (.number 22)) ⟨_, rfl⟩
  cases hposted
  simpa [tcpFrom, RuleRequest.payload, RuleData.asked] using hnarrow.ports (.inr ⟨22, rfl⟩)

/-- Port 22 from anywhere, by the usual name. -/
theorem flagged_iff_of_anywhere : ∃ rule row flag,
    (postRule (tcpFrom (some "0.0.0.0/0") (.number 22) .blank)).2.cloud.2 = firewallWorld.cloud.2 ++
      [rule] ∧
      firewallWorld.newRows (postRule (tcpFrom (some "0.0.0.0/0") (.number 22) .blank)).2 = [row] ∧
      row.outcome = .success ∧ row.detail.lookup "openToInternet" = some (.flag flag) ∧
      ((flag = true ↔ rule.Open lengthOf) ↔
        ((named (some "0.0.0.0/0")).isSome ∨ (named none).isSome) ∧
          ∀ cidr, named (some "0.0.0.0/0") = some cidr → lengthOf cidr = some 0 →
            cidr = "0.0.0.0/0" ∨ cidr = "::/0") :=
  flagged_iff (by decide +kernel) (by decide +kernel) rfl

/-- A rule without a source admits everyone, and is not flagged. -/
theorem unflagged_without_source : ∃ rule row,
    (postRule (tcpFrom none (.number 22) .blank)).2.cloud.2 = firewallWorld.cloud.2 ++ [rule] ∧
      rule.Open lengthOf ∧
      firewallWorld.newRows (postRule (tcpFrom none (.number 22) .blank)).2 = [row] ∧
      row.outcome = .success ∧ row.detail.lookup "openToInternet" = some (.flag false) :=
  ⟨_, _, rfl, .inl ⟨rfl, rfl⟩, rfl, rfl, rfl⟩

end OpenCloud
