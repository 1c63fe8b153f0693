import Pop3Detector.ServiceReport

namespace Pop3Detector.Version

open Pop3Detector.State Pop3Detector.Greeting Pop3Detector.Server Pop3Detector.Pop3ClientDetector
  Pop3Detector.Pop3ServiceDetector Pop3Detector.Session

/-- The last byte of the flow's version buffer, `pd->version[MAX_VERSION_SIZE - 1]`, is a NUL. -/
def NulEnd (f : Flow) : Prop := f.record.server.version 63 = 0

theorem nulEnd_init : NulEnd Flow.init := rfl

theorem step_nulEnd (beyond : Bool) (f : Flow) (e : Event) (h : NulEnd f) :
    NulEnd (step beyond f e).1 := by
  obtain ⟨dd, -, -, hs, hcase⟩ := step_cases beyond f e
  unfold NulEnd at h ⊢
  rw [← hs] at h
  rcases hcase with ⟨hr, -⟩ | ⟨data, -, hr, -⟩ |
    ⟨data, server, pre, post, -, -, -, -, ⟨hr, -⟩ | ⟨-, -, -, -, -, -, hr, -⟩⟩ <;> rw [hr]
  · exact h
  · rw [commandLoop_server]
    exact h
  all_goals exact (pop3ServerValidate_writes dd data server).nul_end h

/-- In every reachable per-flow state the version buffer ends with a NUL; every write of
`pop3_server_validate` into it lies below `v_end` or is that NUL, whatever the greeting; and so
every version reported with the service is a C string of at most 63 bytes. -/
theorem version_nul_terminated (beyond : Bool) :
    (∀ es : List Event, (run beyond Flow.init es).1.record.server.version 63 = 0) ∧
    (∀ (dd : POP3DetectorData) (data : List UInt8) (server : Bool),
      WritesBelowVEnd dd.server.version (pop3ServerValidate dd data server).data.server.version) ∧
    (∀ es : List Event, ∀ c ∈ (run beyond Flow.init es).2, ∀ a vendor w subtype,
      c = .addServiceConsumeSubtype a vendor (some w) subtype → w.length ≤ 63 ∧ ∀ x ∈ w, x ≠ 0) := by
  refine ⟨fun es => run_invariant beyond NulEnd (step_nulEnd beyond) es _ nulEnd_init,
    pop3ServerValidate_writes, fun es => run_calls beyond NulEnd _ (step_nulEnd beyond)
      (fun f e hf c hc => ?_) es _ nulEnd_init⟩
  rintro a vendor w subtype rfl
  obtain ⟨data, a', -, heq⟩ := ServiceReport.step_report_call beyond f e hc rfl
  obtain ⟨-, -, hw, -⟩ := Call.addServiceConsumeSubtype.inj heq
  rw [reportedVersion_eq_some hw.symm]
  exact ⟨versionString_length_le ((pop3ServerValidate_writes _ data true).nul_end hf),
    fun x hx => versionString_ne_zero hx⟩

end Pop3Detector.Version
