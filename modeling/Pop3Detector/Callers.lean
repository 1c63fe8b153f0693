import Pop3Detector.ServiceReport

namespace Pop3Detector.Callers

open Pop3Detector.Bytes Pop3Detector.State Pop3Detector.Greeting Pop3Detector.Server
  Pop3Detector.Pop3ClientDetector Pop3Detector.Session

/-- The server has left CONNECT with vendor `v` and version buffer `ver`. -/
def Settled (v : Option Vendor) (ver : Fin 64 → UInt8) (f : Flow) : Prop :=
  f.record.server.state ≠ .connect ∧ f.record.server.vendor = v ∧ f.record.server.version = ver

theorem pop3ServerValidate_settled (dd : POP3DetectorData) (data : List UInt8) (server : Bool)
    (h : dd.server.state ≠ .connect) :
    greetingFields (pop3ServerValidate dd data server).data.server = greetingFields dd.server ∧
      (pop3ServerValidate dd data server).data.server.state ≠ .connect :=
  ⟨by_contra fun hg => h (pop3ServerValidate_greetingFields dd data server hg).2.1,
    pop3ServerValidate_state_ne_connect dd data server⟩

theorem step_settled (beyond : Bool) {v : Option Vendor} {ver : Fin 64 → UInt8} (f : Flow) (e : Event)
    (h : Settled v ver f) : Settled v ver (step beyond f e).1 := by
  obtain ⟨dd, -, -, hs, hcase⟩ := step_cases beyond f e
  unfold Settled at h ⊢
  rw [← hs] at h
  rcases hcase with ⟨hr, -⟩ | ⟨data, -, hr, -⟩ |
    ⟨data, server, pre, post, -, -, -, -, ⟨hr, -⟩ | ⟨-, -, -, -, -, -, hr, -⟩⟩ <;> rw [hr]
  · exact h
  · rw [commandLoop_server]
    exact h
  all_goals
    obtain ⟨hg, hc⟩ := pop3ServerValidate_settled dd data server h.1
    simp only [greetingFields, Prod.mk.injEq] at hg
    exact ⟨hc, hg.1.trans h.2.1, hg.2.1.trans h.2.2⟩

theorem step_subtype (beyond : Bool) (f : Flow) (e : Event) (h : f.record.server.state ≠ .connect) :
    (step beyond f e).1.record.server.subtype = f.record.server.subtype ∨
    ((step beyond f e).1.record.server.subtype = [] ∧ ∃ a v ver,
      Call.addServiceConsumeSubtype a v ver f.record.server.subtype ∈ (step beyond f e).2) := by
  obtain ⟨dd, -, -, hs, hcase⟩ := step_cases beyond f e
  rcases hcase with ⟨hr, -⟩ | ⟨data, -, hr, -⟩ |
    ⟨data, server, pre, post, -, -, -, hcalls, ⟨hr, -⟩ | ⟨-, rfl, -, -, -, -, hr, a, ha, hpost⟩⟩
  · exact .inl (by rw [hr, hs])
  · exact .inl (by rw [hr, commandLoop_server, hs])
  · exact .inl (by rw [hr, pop3ServerValidate_subtype dd data server (hs ▸ h), hs])
  · have hm : a ∈ (step beyond f e).2 := by simp [hcalls, hpost]
    obtain ⟨data', a', -, heq⟩ := ServiceReport.step_report_call beyond f e hm ha
    rw [pop3ServerValidate_subtype _ data' true h] at heq
    exact .inr ⟨by rw [hr], a', _, _, heq ▸ hm⟩

theorem run_subtype (beyond : Bool) :
    ∀ (es : List Event) (f : Flow), f.record.server.state ≠ .connect →
      (run beyond f es).1.record.server.subtype = f.record.server.subtype ∨
      ((run beyond f es).1.record.server.subtype = [] ∧ ∃ a v ver,
        Call.addServiceConsumeSubtype a v ver f.record.server.subtype ∈ (run beyond f es).2)
  | [], _, _ => .inl rfl
  | e :: es, f, h => by
    have h' := (step_settled beyond f e ⟨h, rfl, rfl⟩).1
    rw [run_cons]
    rcases step_subtype beyond f e h with h1 | ⟨h1, a, v, ver, hm⟩
    · rcases run_subtype beyond es _ h' with h2 | ⟨h2, a, v, ver, hm⟩
      · exact .inl (h2.trans h1)
      · exact .inr ⟨h2, a, v, ver, List.mem_append_right _ (h1 ▸ hm)⟩
    · refine .inr ⟨?_, a, v, ver, List.mem_append_left _ hm⟩
      rcases run_subtype beyond es _ h' with h2 | ⟨h2, -⟩
      · exact h2.trans h1
      · exact h2

/-- The two callers of `pop3_server_validate` agree on everything but the greeting fields, which
change only in a `server = 1` call leaving CONNECT and after that only by the subtype hand-over. -/
theorem callers_agree (beyond : Bool) :
    (∀ (dd : POP3DetectorData) (data : List UInt8),
      (pop3ServerValidate dd data true).ret = (pop3ServerValidate dd data false).ret ∧
      (pop3ServerValidate dd data true).calls = (pop3ServerValidate dd data false).calls ∧
      (pop3ServerValidate dd data true).overread = (pop3ServerValidate dd data false).overread ∧
      (pop3ServerValidate dd data true).data.client = (pop3ServerValidate dd data false).data.client ∧
      (pop3ServerValidate dd data true).data.needContinue =
        (pop3ServerValidate dd data false).data.needContinue ∧
      Untouched (pop3ServerValidate dd data false).data.server
        (pop3ServerValidate dd data true).data.server) ∧
    (∀ (dd : POP3DetectorData) (data : List UInt8) (server : Bool),
      greetingFields (pop3ServerValidate dd data server).data.server ≠ greetingFields dd.server →
      server = true ∧ dd.server.state = .connect ∧
      (∃ rest, statusPrefix data = some (false, rest) ∧ 0 ≤ (pop3CheckLine rest).1) ∧
      (pop3ServerValidate dd data server).data.server.state ≠ .connect) ∧
    (∀ (f : Flow) (es : List Event), f.record.server.state ≠ .connect →
      (run beyond f es).1.record.server.vendor = f.record.server.vendor ∧
      (run beyond f es).1.record.server.version = f.record.server.version ∧
      ((run beyond f es).1.record.server.subtype = f.record.server.subtype ∨
        ((run beyond f es).1.record.server.subtype = [] ∧ ∃ a v ver,
          Call.addServiceConsumeSubtype a v ver f.record.server.subtype ∈ (run beyond f es).2))) := by
  refine ⟨fun dd data => ?_, pop3ServerValidate_greetingFields, fun f es hf =>
    ⟨(run_invariant beyond _ (step_settled beyond) es f ⟨hf, rfl, rfl⟩).2.1,
      (run_invariant beyond _ (step_settled beyond) es f ⟨hf, rfl, rfl⟩).2.2, run_subtype beyond es f hf⟩⟩
  obtain ⟨g, hg⟩ := pop3ServerValidate_agree dd data
  rw [hg]
  exact ⟨rfl, rfl, rfl, rfl, rfl, rfl, rfl, rfl⟩

end Pop3Detector.Callers
