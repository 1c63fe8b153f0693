import Pop3Detector.Session

namespace Pop3Detector.ClientStates

open Pop3Detector.Bytes Pop3Detector.State Pop3Detector.Server Pop3Detector.Pop3ClientDetector
  Pop3Detector.Pop3ServiceDetector Pop3Detector.Session

theorem pop3ServerValidate_trans (dd : POP3DetectorData) (data : List UInt8) (server : Bool)
    (h : dd.client.state = .trans) : (pop3ServerValidate dd data server).data.client.state = .trans := by
  rcases pop3ServerValidate_client_state dd data server with h' | ⟨h', -⟩
  · rw [h', h]
  · rw [h] at h'
    cases h'

theorem step_trans (beyond : Bool) (f : Flow) (e : Event) (h : f.record.client.state = .trans) :
    (step beyond f e).1.record.client.state = .trans := by
  obtain ⟨dd, hs, -, -, hcase⟩ := step_cases beyond f e
  rw [← hs] at h
  rcases hcase with ⟨hr, -⟩ | ⟨data, -, hr, -⟩ |
    ⟨data, server, pre, post, -, -, -, -, ⟨hr, -⟩ | ⟨-, -, -, -, -, -, hr, -⟩⟩ <;> rw [hr]
  · exact h
  · exact commandLoop_trans beyond _ dd data h
  · exact pop3ServerValidate_trans dd data server h
  · exact pop3ServerValidate_trans dd data server h

theorem step_pop3s (beyond : Bool) (f : Flow) (e : Event)
    (h : Call.addApp .pop3s .pop3s ∈ (step beyond f e).2) :
    f.record.client.state = .stlsCmd ∧ (step beyond f e).1.record.client.state = .stlsCmd ∧
      (step beyond f e).2.count (.addApp .pop3s .pop3s) = 1 ∧ stlsOkCalls <:+: (step beyond f e).2 ∧
      ∃ data rest, IsResponse e data ∧ statusPrefix data = some (false, rest) ∧
        0 ≤ (pop3CheckLine rest).1 := by
  obtain ⟨dd, hs, -, -, hcase⟩ := step_cases beyond f e
  have hq : ∀ {c : Call}, c.quiet = true → c ≠ .addApp .pop3s .pop3s :=
    fun hc => (Call.quiet_spec hc).2.2.2 _ _
  rcases hcase with ⟨-, hc⟩ | ⟨data, -, -, hc⟩ | ⟨data, server, pre, post, he, -, hpre, hcalls, hpost⟩
  · exact absurd rfl (hq (hc _ h))
  · rcases hc _ h with hl | hl
    · rcases hl with hl | hl | hl <;> cases hl
    · exact absurd rfl (hq hl)
  · have hpost' : ∀ c ∈ post, c ≠ .addApp .pop3s .pop3s := by
      rcases hpost with ⟨-, hp⟩ | ⟨-, -, -, -, -, -, -, a, ha, rfl⟩
      · intro c hc
        rcases hp c hc with hp | ⟨rfl, -⟩
        · exact hq hp
        · simp
      · intro c hc
        rcases List.mem_pair.mp hc with rfl | rfl
        · intro e; rw [e] at ha; cases ha
        · simp
    have hr : Call.addApp .pop3s .pop3s ∈ (pop3ServerValidate dd data server).calls := by
      rw [hcalls] at h
      rcases List.mem_append.mp h with h | h
      · rcases List.mem_append.mp h with h | h
        · exact absurd rfl (hq (hpre _ h))
        · exact h
      · exact absurd rfl (hpost' _ h)
    obtain ⟨h1, ⟨rest, hsp, hchk⟩, h3, h4⟩ := pop3ServerValidate_pop3s dd data server hr
    refine ⟨hs ▸ h1, ?_, ?_, ?_, data, rest, he, hsp, hchk⟩
    · rcases hpost with ⟨hd, -⟩ | ⟨-, -, -, -, -, -, hd, -⟩ <;> rw [hd] <;> exact h4
    · rw [hcalls, h3, List.count_append, List.count_append,
        List.count_eq_zero.mpr fun h => hq (hpre _ h) rfl,
        List.count_eq_zero.mpr fun h => hpost' _ h rfl]
      decide
    · rw [hcalls, h3]
      exact ⟨pre, post, rfl⟩

/-- The client sub-state, the transitions into STLS and the POP3S report around
`POP3_CLIENT_STATE_TRANS`: it is never left, a command only enters STLS from AUTH or STLS, and no
POP3S report is made once it is reached. -/
theorem trans_absorbing (beyond : Bool) :
    (∀ f e, f.record.client.state = .trans → (step beyond f e).1.record.client.state = .trans) ∧
    (∀ idx fd s, (command beyond idx fd s).1.state = .stlsCmd →
      fd.state = .auth ∨ fd.state = .stlsCmd) ∧
    (∀ f e, (step beyond f e).1.record.client.state = .stlsCmd →
      f.record.client.state = .auth ∨ f.record.client.state = .stlsCmd) ∧
    (∀ es f, f.record.client.state = .trans →
      (run beyond f es).1.record.client.state = .trans ∧
      Call.addApp .pop3s .pop3s ∉ (run beyond f es).2) := by
  have entered : ∀ {s s' : POP3ClientState}, (s = .trans → s' = .trans) → s' = .stlsCmd →
      s = .auth ∨ s = .stlsCmd := by
    intro s s' h h'
    cases s
    · exact .inl rfl
    · rw [h rfl] at h'; cases h'
    · exact .inr rfl
  refine ⟨step_trans beyond, fun idx fd s => entered (command_trans beyond idx fd s),
    fun f e => entered (step_trans beyond f e), fun es f h => ⟨?_, ?_⟩⟩
  · exact run_invariant beyond (fun f => f.record.client.state = .trans) (step_trans beyond) es f h
  · intro hmem
    exact run_calls beyond (fun f => f.record.client.state = .trans) (· ≠ .addApp .pop3s .pop3s)
      (step_trans beyond) (fun f e (hf : f.record.client.state = .trans) c hc hp => by
        subst hp
        rw [(step_pop3s beyond f e hc).1] at hf
        cases hf) es f h _ hmem rfl

/-- A flow waiting in STLS for the server's answer, with the server's packets still asked for. -/
def StlsPending (f : Flow) : Prop :=
  f.record.client.state = .stlsCmd ∧ f.record.needContinue = true ∧
    f.record.server.state ≠ .continue

theorem step_ok_stlsPending (beyond : Bool) (f : Flow) (h : StlsPending f) :
    StlsPending (step beyond f (.service .fromResponder (ascii "+OK\r\n"))).1 ∧
    (step beyond f (.service .fromResponder (ascii "+OK\r\n"))).2.count
      (.addApp .pop3s .pop3s) = 1 := by
  obtain ⟨hst, hn, hs⟩ := h
  obtain ⟨hrec, hcalls⟩ := step_service beyond f (ascii "+OK\r\n") (by decide) (.inl hn)
  obtain ⟨hc, hcl, hnc, -, hss⟩ := pop3ServerValidate_ok f.record hs true
  obtain ⟨hdc, hdn, hds, -⟩ :=
    conclude_data f.serviceDetected (pop3ServerValidate f.record (ascii "+OK\r\n") true)
  have hD := correlate_stls { f.record with server.state := .response, server.error := false } hst
  simp only [Bool.false_eq_true, if_false] at hD
  rw [hD] at hc hcl hnc
  refine ⟨⟨?_, ?_, ?_⟩, ?_⟩
  · rw [hrec, hdc, hcl, hst]
  · rw [hrec, hdn, hnc, hn]
  · rw [hrec, hds, hss]
    decide
  · rw [hcalls, hc, List.count_append, List.count_append,
      List.count_eq_zero.mpr (conclude_addApp _ _ _ _)]
    simp [hn, stlsOkCalls]

theorem run_oks_stlsPending (beyond : Bool) :
    ∀ (k : Nat) (f : Flow), StlsPending f →
      (run beyond f (List.replicate k (.service .fromResponder (ascii "+OK\r\n")))).2.count
        (.addApp .pop3s .pop3s) = k
  | 0, _, _ => rfl
  | k + 1, f, h => by
    rw [List.replicate_succ, run_cons, List.count_append, (step_ok_stlsPending beyond f h).2,
      run_oks_stlsPending beyond k _ (step_ok_stlsPending beyond f h).1, Nat.add_comm]

theorem stlsPending_after_stls (beyond : Bool) :
    StlsPending (step beyond Flow.init (.client .fromInitiator (ascii "STLS\r\n"))).1 ∧
    (step beyond Flow.init (.client .fromInitiator (ascii "STLS\r\n"))).2.count
      (.addApp .pop3s .pop3s) = 0 := by
  cases beyond <;> exact ⟨⟨rfl, rfl, by decide⟩, rfl⟩

/-- `add_app(POP3S)` is made once per detector call that accepts `+OK` while STLS is pending,
with `ENCRYPTED` set and `pop3s_clients` counted, and STLS stays pending: after one `STLS`, each
of `k` server `+OK` payloads is reported. -/
theorem pop3s_per_accepted_ok (beyond : Bool) :
    (∀ f e, Call.addApp .pop3s .pop3s ∈ (step beyond f e).2 →
      f.record.client.state = .stlsCmd ∧ (step beyond f e).1.record.client.state = .stlsCmd ∧
      (step beyond f e).2.count (.addApp .pop3s .pop3s) = 1 ∧ stlsOkCalls <:+: (step beyond f e).2 ∧
      ∃ data rest, IsResponse e data ∧ statusPrefix data = some (false, rest) ∧
        0 ≤ (pop3CheckLine rest).1) ∧
    ∀ k, (run beyond Flow.init (.client .fromInitiator (ascii "STLS\r\n") ::
      List.replicate k (.service .fromResponder (ascii "+OK\r\n")))).2.count
        (.addApp .pop3s .pop3s) = k := by
  refine ⟨step_pop3s beyond, fun k => ?_⟩
  rw [run_cons, List.count_append, (stlsPending_after_stls beyond).2,
    run_oks_stlsPending beyond k _ (stlsPending_after_stls beyond).1, Nat.zero_add]

/-- `STLS`, then two server `+OK` payloads. -/
def stlsTwoOks : List Event :=
  [.client .fromInitiator (ascii "STLS\r\n"), .service .fromResponder (ascii "+OK\r\n"),
    .service .fromResponder (ascii "+OK\r\n")]

theorem stls_two_oks_two_reports :
    (run false Flow.init stlsTwoOks).2.count (.addApp .pop3s .pop3s) = 2 ∧
    (run true Flow.init stlsTwoOks).2.count (.addApp .pop3s .pop3s) = 2 := by
  decide

end Pop3Detector.ClientStates
