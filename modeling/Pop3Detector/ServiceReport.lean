import Pop3Detector.Session

namespace Pop3Detector.ServiceReport

open Pop3Detector.Bytes Pop3Detector.State Pop3Detector.Server Pop3Detector.Pop3ClientDetector
  Pop3Detector.Pop3ServiceDetector Pop3Detector.Session

/-- A call that neither reports nor fails the service. -/
def Clean (c : Call) : Prop := c.reportsService = false ∧ c ≠ .failService

theorem Clean.of_quiet {c : Call} (h : c.quiet = true) : Clean c :=
  ⟨(Call.quiet_spec h).2.1, (Call.quiet_spec h).2.2.1⟩

theorem Clean.of_loopCall {c : Call} (h : LoopCall c) : Clean c := by
  rcases h with rfl | rfl | rfl <;> exact ⟨rfl, by simp⟩

theorem step_detected (beyond : Bool) (f : Flow) (e : Event) (h : f.serviceDetected = true) :
    ∀ c ∈ (step beyond f e).2, Clean c := by
  obtain ⟨dd, -, -, -, hcase⟩ := step_cases beyond f e
  rcases hcase with ⟨-, hc⟩ | ⟨data, -, -, hc⟩ |
    ⟨data, server, pre, post, -, -, hpre, hcalls, ⟨-, hpost⟩ | ⟨-, -, -, hsd, -⟩⟩
  · exact fun c hm => Clean.of_quiet (hc c hm)
  · exact fun c hm => (hc c hm).elim Clean.of_loopCall Clean.of_quiet
  · rw [hcalls]
    intro c hm
    simp only [List.mem_append] at hm
    rcases hm with (hm | hm) | hm
    · exact Clean.of_quiet (hpre c hm)
    · exact pop3ServerValidate_calls dd data server c hm
    · rcases hpost c hm with hq | ⟨-, hsd⟩
      · exact Clean.of_quiet hq
      · rw [h] at hsd; cases hsd
  · rw [h] at hsd; cases hsd

/-- A detector call that reports the service is a service-detector call on a server payload
whose `pop3_server_validate` returned 0 with `count >= POP3_COUNT_THRESHOLD`; the report is its
last call but one, before `pop_flows++`, and the subtype list is handed over. -/
theorem step_report (beyond : Bool) (f : Flow) (e : Event)
    (h : (step beyond f e).2.any Call.reportsService = true) :
    f.serviceDetected = false ∧
    (∃ data, e = .service .fromResponder data ∧ data ≠ [] ∧
      (pop3ServerValidate f.record data true).ret = 0 ∧
      pop3CountThreshold ≤ (pop3ServerValidate f.record data true).data.server.count ∧
      (step beyond f e).1.record =
        { (pop3ServerValidate f.record data true).data with server.subtype := [] }) ∧
    ∃ pre a, (step beyond f e).2 = pre ++ [a, .stat .popFlows] ∧ ∀ c ∈ pre, Clean c := by
  obtain ⟨dd, -, -, -, hcase⟩ := step_cases beyond f e
  have none : (∀ c ∈ (step beyond f e).2, c.reportsService = false) → False := fun hc => by
    obtain ⟨c, hm, hr⟩ := List.any_eq_true.mp h
    rw [hc c hm] at hr
    cases hr
  rcases hcase with ⟨-, hc⟩ | ⟨data, -, -, hc⟩ |
    ⟨data, server, pre, post, -, h0, hpre, hcalls, ⟨-, hpost⟩ | ⟨he, rfl, rfl, hsd, hret, hcount, hr, a, -, rfl⟩⟩
  · exact (none fun c hm => (Clean.of_quiet (hc c hm)).1).elim
  · exact (none fun c hm => ((hc c hm).elim Clean.of_loopCall Clean.of_quiet).1).elim
  · refine (none fun c hm => ?_).elim
    rw [hcalls] at hm
    simp only [List.mem_append] at hm
    rcases hm with (hm | hm) | hm
    · exact (Clean.of_quiet (hpre c hm)).1
    · exact (pop3ServerValidate_calls dd data server c hm).1
    · rcases hpost c hm with hq | ⟨rfl, -⟩
      · exact (Clean.of_quiet hq).1
      · rfl
  · subst he
    refine ⟨hsd, ⟨data, rfl, h0, hret, hcount, hr⟩, pre ++ (pop3ServerValidate f.record data true).calls, a,
      by rw [hcalls, List.append_assoc], fun c hm => ?_⟩
    rcases List.mem_append.mp hm with hm | hm
    · exact Clean.of_quiet (hpre c hm)
    · exact pop3ServerValidate_calls _ data true c hm

theorem step_report_call (beyond : Bool) (f : Flow) (e : Event) {c : Call}
    (hc : c ∈ (step beyond f e).2) (hr : c.reportsService = true) :
    ∃ data a, e = .service .fromResponder data ∧
      c = .addServiceConsumeSubtype a (pop3ServerValidate f.record data true).data.server.vendor
        (reportedVersion (pop3ServerValidate f.record data true).data.server.version)
        (pop3ServerValidate f.record data true).data.server.subtype := by
  obtain ⟨hsd, ⟨data, rfl, h0, -⟩, -⟩ := step_report beyond f e (List.any_eq_true.mpr ⟨c, hc, hr⟩)
  rw [(step_service beyond f data h0 (.inr hsd)).2] at hc
  rcases List.mem_append.mp hc with hc | hc
  · rcases List.mem_append.mp hc with hc | hc
    · simp only [List.mem_cons, List.mem_singleton, List.not_mem_nil, or_false] at hc
      rcases hc with rfl | rfl
      · cases hr
      · split at hr <;> cases hr
    · rw [(pop3ServerValidate_calls _ data true c hc).1] at hr
      cases hr
  · obtain ⟨a, rfl⟩ := conclude_report _ _ hc hr
    exact ⟨data, a, rfl, rfl⟩

/-- After a call that reports the service, no call reports it again or fails it. -/
def ReportedLast (calls : List Call) : Prop :=
  ∀ pre c post, calls = pre ++ c :: post → c.reportsService = true → ∀ c' ∈ post, Clean c'

theorem ReportedLast.of_none {calls : List Call} (h : ∀ c ∈ calls, c.reportsService = false) :
    ReportedLast calls := by
  rintro pre c post rfl hc
  rw [h c (by simp)] at hc
  cases hc

theorem ReportedLast.cons {a : Call} {tail : List Call} (h : ∀ c ∈ tail, Clean c) :
    ReportedLast (a :: tail) := by
  rintro (_ | ⟨x, pre⟩) c post heq hc
  · obtain ⟨-, rfl⟩ := List.cons.inj heq
    exact h
  · obtain ⟨-, rfl⟩ := List.cons.inj heq
    rw [(h c (by simp)).1] at hc
    cases hc

theorem ReportedLast.append {l₁ l₂ : List Call} (h₁ : ReportedLast l₁) (h₂ : ReportedLast l₂)
    (h : l₁.any Call.reportsService = true → ∀ c ∈ l₂, Clean c) : ReportedLast (l₁ ++ l₂) := by
  intro pre c post heq hc
  rcases List.append_eq_append_iff.mp heq with ⟨a', rfl, h2⟩ | ⟨c', rfl, h2⟩
  · exact h₂ a' c post h2 hc
  · rcases c' with _ | ⟨x, c'⟩
    · exact h₂ [] c post (by simpa using h2.symm) hc
    · obtain ⟨rfl, rfl⟩ := List.cons.inj h2
      intro c'' hm
      rcases List.mem_append.mp hm with hm | hm
      · exact h₁ pre c c' rfl hc c'' hm
      · exact h (List.any_eq_true.mpr ⟨c, by simp, hc⟩) c'' hm

theorem step_reportedLast (beyond : Bool) (f : Flow) (e : Event) :
    ReportedLast (step beyond f e).2 := by
  cases hr : (step beyond f e).2.any Call.reportsService
  · exact ReportedLast.of_none fun c hm => by simpa using List.any_eq_false.mp hr c hm
  · obtain ⟨-, -, pre, a, heq, hpre⟩ := step_report beyond f e hr
    rw [heq]
    refine (ReportedLast.of_none fun c hm => (hpre c hm).1).append
      (ReportedLast.cons (by simp [Clean, Call.reportsService])) fun h => ?_
    obtain ⟨c, hm, hc⟩ := List.any_eq_true.mp h
    rw [(hpre c hm).1] at hc
    cases hc

theorem run_reportedLast (beyond : Bool) :
    ∀ (es : List Event) (f : Flow), ReportedLast (run beyond f es).2
  | [], f => ReportedLast.of_none (by simp)
  | e :: es, f => by
    rw [run_cons]
    refine (step_reportedLast beyond f e).append (run_reportedLast beyond es _) fun h => ?_
    have hsd : (step beyond f e).1.serviceDetected = true := by
      rw [step_serviceDetected, h, Bool.or_true]
    exact run_calls beyond (fun f => f.serviceDetected = true) Clean
      (fun f e (h : f.serviceDetected = true) => by
        show (step beyond f e).1.serviceDetected = true
        rw [step_serviceDetected, h, Bool.true_or]) (step_detected beyond) es _ hsd

/-- Once the service is detected, the record's subtype list is empty and it has left
`POP3_STATE_CONNECT`. -/
def Handed (f : Flow) : Prop :=
  f.serviceDetected = true → f.record.server.subtype = [] ∧ f.record.server.state ≠ .connect

theorem step_handed (beyond : Bool) (f : Flow) (e : Event) (h : Handed f) :
    Handed (step beyond f e).1 := by
  intro hsd'
  cases hr : (step beyond f e).2.any Call.reportsService
  · have hsd : f.serviceDetected = true := by
      rwa [step_serviceDetected, hr, Bool.or_false] at hsd'
    obtain ⟨hsub, hst⟩ := h hsd
    obtain ⟨dd, -, -, hsv, hcase⟩ := step_cases beyond f e
    rw [← hsv] at hsub hst
    rcases hcase with ⟨hrec, -⟩ | ⟨data, -, hrec, -⟩ |
      ⟨data, server, pre, post, -, -, -, -, ⟨hrec, -⟩ | ⟨-, -, -, hsd0, -⟩⟩
    · rw [hrec]
      exact ⟨hsub, hst⟩
    · rw [hrec, commandLoop_server]
      exact ⟨hsub, hst⟩
    · rw [hrec, pop3ServerValidate_subtype dd data server hst]
      exact ⟨hsub, pop3ServerValidate_state_ne_connect dd data server⟩
    · rw [hsd] at hsd0
      cases hsd0
  · obtain ⟨-, ⟨data, -, -, -, -, hrec⟩, -⟩ := step_report beyond f e hr
    rw [hrec]
    exact ⟨rfl, pop3ServerValidate_state_ne_connect _ data true⟩

/-- The service is reported at most once in a run, only by a service-detector call whose
`pop3_server_validate` returned 0 with `count >= 4`, with no `fail_service` after it. The report
hands over the flow's subtype list, which is empty from then on. -/
theorem service_reported_once (beyond : Bool) :
    (∀ es f pre c post, (run beyond f es).2 = pre ++ c :: post → c.reportsService = true →
      ∀ c' ∈ post, c'.reportsService = false ∧ c' ≠ .failService) ∧
    (∀ f e c, c ∈ (step beyond f e).2 → c.reportsService = true →
      f.serviceDetected = false ∧ ∃ data, e = .service .fromResponder data ∧
        (pop3ServerValidate f.record data true).ret = 0 ∧
        pop3CountThreshold ≤ (pop3ServerValidate f.record data true).data.server.count ∧
        (∃ a vendor version, c = .addServiceConsumeSubtype a vendor version
          (pop3ServerValidate f.record data true).data.server.subtype) ∧
        (step beyond f e).1.record.server.subtype = []) ∧
    (∀ es, (run beyond Flow.init es).2.any Call.reportsService = true →
      (run beyond Flow.init es).1.record.server.subtype = []) := by
  refine ⟨fun es f => run_reportedLast beyond es f, fun f e c hc hr => ?_, fun es h => ?_⟩
  · obtain ⟨hsd, ⟨data, he, -, hret, hcount, hrec⟩, -⟩ :=
      step_report beyond f e (List.any_eq_true.mpr ⟨c, hc, hr⟩)
    obtain ⟨data', a, he', rfl⟩ := step_report_call beyond f e hc hr
    obtain rfl : data = data' := (Event.service.inj (he.symm.trans he')).2
    exact ⟨hsd, data, he, hret, hcount, ⟨a, _, _, rfl⟩, by rw [hrec]⟩
  · have hinv := run_invariant beyond Handed (step_handed beyond) es Flow.init (by simp [Handed, Flow.init])
    exact (hinv (by rw [run_serviceDetected, h, Bool.or_true])).1

/-- A server payload on which `pop3_server_validate` can count a response: nonempty, and ending
with CRLF or free of line terminators. -/
def countsResponse : Event → Bool
  | .client .fromResponder data | .service .fromResponder data =>
    !data.isEmpty && closesResponse data
  | _ => false

theorem countsResponse_of_isResponse {e : Event} {data : List UInt8} (he : IsResponse e data)
    (h0 : data ≠ []) (h : closesResponse data = true) : countsResponse e = true := by
  rcases he with rfl | rfl <;> simp [countsResponse, h0, h]

theorem step_count (beyond : Bool) (f : Flow) (e : Event) :
    (step beyond f e).1.record.server.count = f.record.server.count ∨
    ((step beyond f e).1.record.server.count = incr f.record.server.count ∧
      countsResponse e = true) := by
  obtain ⟨dd, -, -, hsv, hcase⟩ := step_cases beyond f e
  rw [← hsv]
  rcases hcase with ⟨hrec, -⟩ | ⟨data, -, hrec, -⟩ |
    ⟨data, server, pre, post, he, h0, -, -, hpost⟩
  · exact .inl (by rw [hrec])
  · exact .inl (by rw [hrec, commandLoop_server])
  · have hrec : (step beyond f e).1.record.server.count =
        (pop3ServerValidate dd data server).data.server.count := by
      rcases hpost with ⟨hrec, -⟩ | ⟨-, -, -, -, -, -, hrec, -⟩ <;> rw [hrec]
    rw [hrec]
    exact (pop3ServerValidate_count dd data server).imp_right
      fun ⟨hc, hcl⟩ => ⟨hc, countsResponse_of_isResponse he h0 hcl⟩

theorem step_count_le (beyond : Bool) (f : Flow) (e : Event) :
    (step beyond f e).1.record.server.count ≤
      f.record.server.count + if countsResponse e then 1 else 0 := by
  rcases step_count beyond f e with h | ⟨h, hc⟩
  · rw [h]
    exact Nat.le_add_right _ _
  · rw [h, hc, if_pos rfl]
    exact incr_le _

theorem run_count (beyond : Bool) :
    ∀ (es : List Event) (f : Flow),
      (run beyond f es).1.record.server.count ≤ f.record.server.count + es.countP countsResponse
  | [], f => by simp
  | e :: es, f => by
    have h1 := step_count_le beyond f e
    have h2 := run_count beyond es (step beyond f e).1
    rw [run_cons, List.countP_cons]
    dsimp only
    omega

theorem run_report_count (beyond : Bool) :
    ∀ (es : List Event) (f : Flow), (run beyond f es).2.any Call.reportsService = true →
      pop3CountThreshold ≤ f.record.server.count + es.countP countsResponse
  | [], f, h => by simp at h
  | e :: es, f, h => by
    rw [run_cons, List.any_append, Bool.or_eq_true] at h
    rw [List.countP_cons]
    rcases h with h | h
    · obtain ⟨-, ⟨data, rfl, h0, -, hcount, -⟩, -⟩ := step_report beyond f e h
      have : (pop3ServerValidate f.record data true).data.server.count ≤
          f.record.server.count + if countsResponse (.service .fromResponder data) then 1 else 0 := by
        rcases pop3ServerValidate_count f.record data true with hc | ⟨hc, hcl⟩
        · rw [hc]
          exact Nat.le_add_right _ _
        · rw [hc, countsResponse_of_isResponse (.inr rfl) h0 hcl, if_pos rfl]
          exact incr_le _
      omega
    · have h1 := step_count_le beyond f e
      have h2 := run_report_count beyond es _ h
      omega

/-- `count` never exceeds the number of server payloads that end with CRLF or hold no line
terminator, so the service is only reported after four such payloads. -/
theorem count_bounded_by_closing_payloads (beyond : Bool) (es : List Event) :
    (run beyond Flow.init es).1.record.server.count ≤ es.countP countsResponse ∧
    ((run beyond Flow.init es).2.any Call.reportsService = true →
      pop3CountThreshold ≤ es.countP countsResponse) := by
  have h0 : Flow.init.record.server.count = 0 := rfl
  exact ⟨by simpa [h0] using run_count beyond es Flow.init,
    fun h => by simpa [h0] using run_report_count beyond es Flow.init h⟩

/-- Four payloads `+OK x`, none with a line terminator. -/
def unterminatedOks : List Event := List.replicate 4 (.service .fromResponder (ascii "+OK x"))

theorem unterminated_oks_report :
    ((run false Flow.init unterminatedOks).1.record.server.count = 4 ∧
      (run false Flow.init unterminatedOks).2.any Call.reportsService = true) ∧
    ((run true Flow.init unterminatedOks).1.record.server.count = 4 ∧
      (run true Flow.init unterminatedOks).2.any Call.reportsService = true) ∧
    ∀ e ∈ unterminatedOks, ∀ data, e = .service .fromResponder data → cr ∉ data ∧ lf ∉ data := by
  refine ⟨by decide, by decide, ?_⟩
  simp only [unterminatedOks, List.mem_replicate]
  rintro e ⟨-, rfl⟩ data h
  cases h
  decide

/-- After the greeting, a one-byte `+` makes either caller read the byte past the payload, and
on a nonempty payload that is the only read past its end. -/
theorem plus_reads_past_payload :
    (run false Flow.init [.service .fromResponder (ascii "+OK\r\n")]).1.record.server.state =
      .response ∧
    (pop3ServerValidate (run false Flow.init [.service .fromResponder (ascii "+OK\r\n")]).1.record
      (ascii "+") true).overread = true ∧
    (pop3ServerValidate (run false Flow.init [.service .fromResponder (ascii "+OK\r\n")]).1.record
      (ascii "+") false).overread = true ∧
    ∀ (dd : POP3DetectorData) (data : List UInt8) (server : Bool), data ≠ [] →
      ((pop3ServerValidate dd data server).overread = true ↔
        dd.server.state = .response ∧ data = [0x2B]) :=
  ⟨by decide, by decide, by decide, pop3ServerValidate_overread⟩

end Pop3Detector.ServiceReport
