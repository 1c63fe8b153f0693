import Pop3Detector.Server

namespace Pop3Detector.Pop3ServiceDetector

open Pop3Detector.State Pop3Detector.Server

/-- `POP3_COUNT_THRESHOLD`. -/
def pop3CountThreshold : Nat := 4

/-- `pd->version[0] ? pd->version : nullptr`. -/
def reportedVersion (version : Fin 64 → UInt8) : Option (List UInt8) :=
  if versionString version = [] then none else some (versionString version)

/-- The end of `Pop3ServiceDetector::validate` once `pop3_server_validate` has returned, given
whether the session has `APPID_SESSION_SERVICE_DETECTED`: the record, the calls and the status. -/
def conclude (serviceDetected : Bool) (r : ServerResult) : POP3DetectorData × List Call × Status :=
  if r.ret = 0 then
    if pop3CountThreshold ≤ r.data.server.count ∧ serviceDetected = false then
      ({ r.data with server.subtype := [] },
        [.addServiceConsumeSubtype (if r.data.client.state = .stlsCmd then .pop3s else .pop3)
          r.data.server.vendor (reportedVersion r.data.server.version) r.data.server.subtype,
          .stat .popFlows], .success)
    else (r.data, [.serviceInprocess], .inprocess)
  else if serviceDetected = false then (r.data, [.failService], .nomatch)
  else (r.data, [.clearSessionFlags .continue, .stat .popFlows], .success)

/-- `Pop3ServiceDetector::validate`, given whether the session already has
`APPID_SESSION_SERVICE_DETECTED`: the per-flow record, the calls made and the status returned. -/
def validate (serviceDetected : Bool) (blob : Option POP3DetectorData) (dir : Direction)
    (data : List UInt8) : Option POP3DetectorData × List Call × Status :=
  if data = [] ∨ dir ≠ .fromResponder then (blob, [.serviceInprocess], .inprocess)
  else
    let dd := blob.getD POP3DetectorData.init
    let calls := [Call.clearSessionFlags .clientGetsServerPackets]
    if dd.needContinue = false ∧ serviceDetected = true then
      (some dd, calls ++ [.clearSessionFlags .continue, .stat .popFlows], .success)
    else
      let calls := calls ++
        [if dd.needContinue then .setSessionFlags .continue else .clearSessionFlags .continue]
      let r := pop3ServerValidate dd data true
      let t := conclude serviceDetected r
      (some t.1, calls ++ r.calls ++ t.2.1, t.2.2)

theorem conclude_cases (serviceDetected : Bool) (r : ServerResult) :
    ((conclude serviceDetected r).1 = r.data ∧ ∀ c ∈ (conclude serviceDetected r).2.1,
      c.quiet = true ∨ (c = .failService ∧ serviceDetected = false)) ∨
    (serviceDetected = false ∧ r.ret = 0 ∧ pop3CountThreshold ≤ r.data.server.count ∧
      (conclude serviceDetected r).1 = { r.data with server.subtype := [] } ∧
      ∃ a, a.reportsService = true ∧ (conclude serviceDetected r).2.1 = [a, .stat .popFlows]) := by
  unfold conclude
  split_ifs with h0 hc hd <;> first
    | exact .inr ⟨hc.2, h0, hc.1, rfl, .addServiceConsumeSubtype _ _ _ _, rfl, rfl⟩
    | exact .inl ⟨rfl, by simp [Call.quiet, *]⟩

theorem conclude_report (serviceDetected : Bool) (r : ServerResult) {c : Call}
    (hc : c ∈ (conclude serviceDetected r).2.1) (hr : c.reportsService = true) :
    ∃ a, c = .addServiceConsumeSubtype a r.data.server.vendor
      (reportedVersion r.data.server.version) r.data.server.subtype := by
  unfold conclude at hc
  split_ifs at hc <;> simp only [List.mem_cons, List.mem_singleton, List.not_mem_nil, or_false] at hc <;>
    rcases hc with rfl | rfl <;> first | exact ⟨_, rfl⟩ | cases hr

theorem reportedVersion_eq_some {version : Fin 64 → UInt8} {w : List UInt8}
    (h : reportedVersion version = some w) : w = versionString version := by
  unfold reportedVersion at h
  split_ifs at h
  exact (Option.some.inj h).symm

theorem conclude_userReports (serviceDetected : Bool) (r : ServerResult) :
    userReports (conclude serviceDetected r).2.1 = [] := by
  unfold conclude
  split_ifs <;> rfl

theorem conclude_data (serviceDetected : Bool) (r : ServerResult) :
    (conclude serviceDetected r).1.client = r.data.client ∧
    (conclude serviceDetected r).1.needContinue = r.data.needContinue ∧
    (conclude serviceDetected r).1.server.state = r.data.server.state ∧
    (conclude serviceDetected r).1.server.count = r.data.server.count := by
  rcases conclude_cases serviceDetected r with ⟨h, -⟩ | ⟨-, -, -, h, -⟩ <;> rw [h] <;>
    exact ⟨rfl, rfl, rfl, rfl⟩

theorem conclude_addApp (serviceDetected : Bool) (r : ServerResult) (a b : AppId) :
    Call.addApp a b ∉ (conclude serviceDetected r).2.1 := by
  unfold conclude
  split_ifs <;> simp

end Pop3Detector.Pop3ServiceDetector
