import Pop3Detector.Pop3ClientDetector
import Pop3Detector.Pop3ServiceDetector

namespace Pop3Detector.Session

open Pop3Detector.State Pop3Detector.Server Pop3Detector.Pop3ClientDetector
  Pop3Detector.Pop3ServiceDetector

/-- Modelled from the spec: `data_get`, `data_add` and the session's flags are not in the source.
What one flow's session holds for this detector: the per-flow record, once a detector has
allocated it, and `APPID_SESSION_SERVICE_DETECTED`, the one session flag the detectors test. -/
structure Flow where
  blob : Option POP3DetectorData
  serviceDetected : Bool

def Flow.init : Flow := ⟨none, false⟩

/-- A payload the framework hands to one of the two detectors. -/
inductive Event
  | client (dir : Direction) (data : List UInt8)
  | service (dir : Direction) (data : List UInt8)

/-- The record a detector call works on: the stored one, or the one both detectors allocate. -/
def Flow.record (f : Flow) : POP3DetectorData := f.blob.getD POP3DetectorData.init

/-- The detector call an event makes. `beyond` is the byte past the `eoc` table. -/
def dispatch (beyond : Bool) (f : Flow) : Event → Option POP3DetectorData × List Call × Status
  | .client dir data => Pop3ClientDetector.validate beyond f.blob dir data
  | .service dir data => Pop3ServiceDetector.validate f.serviceDetected f.blob dir data

/-- One detector call on the flow: the framework sets `APPID_SESSION_SERVICE_DETECTED` when the
service is reported. -/
def step (beyond : Bool) (f : Flow) (e : Event) : Flow × List Call :=
  let r := dispatch beyond f e
  (⟨r.1, f.serviceDetected || r.2.1.any Call.reportsService⟩, r.2.1)

theorem step_serviceDetected (beyond : Bool) (f : Flow) (e : Event) :
    (step beyond f e).1.serviceDetected =
      (f.serviceDetected || (step beyond f e).2.any Call.reportsService) := rfl

/-- A sequence of detector calls on the flow: the final flow and every call made, in order. -/
def run (beyond : Bool) : Flow → List Event → Flow × List Call
  | f, [] => (f, [])
  | f, e :: es =>
    let r := step beyond f e
    let r' := run beyond r.1 es
    (r'.1, r.2 ++ r'.2)

/-- `e` hands the server payload `data` to one of the detectors. -/
def IsResponse (e : Event) (data : List UInt8) : Prop :=
  e = .client .fromResponder data ∨ e = .service .fromResponder data

@[simp] theorem run_nil (beyond : Bool) (f : Flow) : run beyond f [] = (f, []) := rfl

theorem run_cons (beyond : Bool) (f : Flow) (e : Event) (es : List Event) :
    run beyond f (e :: es) =
      ((run beyond (step beyond f e).1 es).1,
        (step beyond f e).2 ++ (run beyond (step beyond f e).1 es).2) := rfl

theorem run_append (beyond : Bool) (f : Flow) (es es' : List Event) :
    run beyond f (es ++ es') =
      ((run beyond (run beyond f es).1 es').1,
        (run beyond f es).2 ++ (run beyond (run beyond f es).1 es').2) := by
  induction es generalizing f with
  | nil => simp
  | cons e es ih => simp [run_cons, ih]

theorem step_service (beyond : Bool) (f : Flow) (data : List UInt8) (h0 : data ≠ [])
    (hc : f.record.needContinue = true ∨ f.serviceDetected = false) :
    (step beyond f (.service .fromResponder data)).1.record =
      (conclude f.serviceDetected (pop3ServerValidate f.record data true)).1 ∧
    (step beyond f (.service .fromResponder data)).2 =
      [.clearSessionFlags .clientGetsServerPackets,
        if f.record.needContinue then .setSessionFlags .continue else .clearSessionFlags .continue] ++
      (pop3ServerValidate f.record data true).calls ++
      (conclude f.serviceDetected (pop3ServerValidate f.record data true)).2.1 := by
  have h1 : ¬(data = [] ∨ Direction.fromResponder ≠ Direction.fromResponder) := by simpa using h0
  have h2 : ¬((f.blob.getD POP3DetectorData.init).needContinue = false ∧
      f.serviceDetected = true) := by
    rcases hc with hc | hc
    · simp [show (f.blob.getD POP3DetectorData.init).needContinue = true from hc]
    · simp [hc]
  simp only [step, dispatch, Pop3ServiceDetector.validate, if_neg h1]
  rw [if_neg h2]
  exact ⟨rfl, rfl⟩

/-- An invariant that every detector call keeps holds after every run. -/
theorem run_invariant (beyond : Bool) (P : Flow → Prop)
    (hstep : ∀ f e, P f → P (step beyond f e).1) :
    ∀ (es : List Event) (f : Flow), P f → P (run beyond f es).1
  | [], _, h => h
  | e :: es, f, h => run_invariant beyond P hstep es _ (hstep f e h)

/-- Every detector call is one of three kinds, on a record `dd` that agrees with the stored one
on the sub-states, the username and the service side: it leaves the record alone, runs the client
command loop, or hands a server payload to `pop3_server_validate`. -/
theorem step_cases (beyond : Bool) (f : Flow) (e : Event) :
    ∃ dd : POP3DetectorData, dd.client.state = f.record.client.state ∧
      dd.client.username = f.record.client.username ∧ dd.server = f.record.server ∧
      (((step beyond f e).1.record = dd ∧ ∀ c ∈ (step beyond f e).2, c.quiet = true) ∨
      (∃ data, e = .client .fromInitiator data ∧
        (step beyond f e).1.record = (commandLoop beyond data.length dd data).1 ∧
        ∀ c ∈ (step beyond f e).2, LoopCall c ∨ c.quiet = true) ∨
      (∃ data server pre post, IsResponse e data ∧ data ≠ [] ∧ (∀ c ∈ pre, c.quiet = true) ∧
        (step beyond f e).2 = pre ++ (pop3ServerValidate dd data server).calls ++ post ∧
        (((step beyond f e).1.record = (pop3ServerValidate dd data server).data ∧
          ∀ c ∈ post, c.quiet = true ∨ (c = .failService ∧ f.serviceDetected = false)) ∨
        (e = .service .fromResponder data ∧ dd = f.record ∧ server = true ∧
          f.serviceDetected = false ∧
          (pop3ServerValidate dd data server).ret = 0 ∧
          pop3CountThreshold ≤ (pop3ServerValidate dd data server).data.server.count ∧
          (step beyond f e).1.record =
            { (pop3ServerValidate dd data server).data with server.subtype := [] } ∧
          ∃ a, a.reportsService = true ∧ post = [a, .stat .popFlows])))) := by
  cases e with
  | client dir data =>
    simp only [step, dispatch]
    by_cases h0 : data = []
    · simp only [Pop3ClientDetector.validate, h0, if_true]
      exact ⟨f.record, rfl, rfl, rfl, .inl ⟨rfl, by simp⟩⟩
    cases dir
    · simp only [Pop3ClientDetector.validate, h0, if_false, reduceCtorEq]
      refine ⟨_, initFlags_state _, initFlags_username _, initFlags_server _, .inr (.inl
        ⟨data, rfl, rfl, ?_⟩)⟩
      simp only [List.mem_append]
      rintro c (hc | hc)
      · exact .inr (initFlags_quiet _ c hc)
      · exact .inl (commandLoop_calls beyond _ _ _ c hc)
    · simp only [Pop3ClientDetector.validate, h0, if_true, if_false]
      refine ⟨_, initFlags_state _, initFlags_username _, initFlags_server _, .inr (.inr
        ⟨data, false, _, _, .inl rfl, h0, initFlags_quiet _, rfl, .inl ⟨rfl, ?_⟩⟩)⟩
      split_ifs <;> simp [Call.quiet]
  | service dir data =>
    simp only [step, dispatch]
    by_cases h0 : data = [] ∨ dir ≠ .fromResponder
    · simp only [Pop3ServiceDetector.validate, h0, if_true]
      exact ⟨f.record, rfl, rfl, rfl, .inl ⟨rfl, by simp [Call.quiet]⟩⟩
    by_cases hd : (f.blob.getD POP3DetectorData.init).needContinue = false ∧ f.serviceDetected = true
    · simp only [Pop3ServiceDetector.validate, h0, hd, if_true, if_false]
      exact ⟨f.record, rfl, rfl, rfl, .inl ⟨rfl, by simp [Call.quiet]⟩⟩
    simp only [Pop3ServiceDetector.validate, h0, hd, if_false]
    simp only [not_or, not_not] at h0
    obtain ⟨h0, rfl⟩ := h0
    refine ⟨f.record, rfl, rfl, rfl, .inr (.inr ⟨data, true, _, _, .inr rfl, h0, ?_, rfl, ?_⟩)⟩
    · simp only [List.mem_append, List.mem_singleton]
      rintro c (rfl | rfl) <;> (try split) <;> rfl
    · rcases conclude_cases f.serviceDetected (pop3ServerValidate f.record data true) with
        ⟨h1, h2⟩ | ⟨h1, h2, h3, h4, h5⟩
      · exact .inl ⟨congrArg (fun dd => Option.getD (some dd) _) h1, h2⟩
      · exact .inr ⟨rfl, rfl, rfl, h1, h2, h3, congrArg (fun dd => Option.getD (some dd) _) h4, h5⟩

/-- A property of calls that every detector call from an invariant state has holds of every call
of a run from such a state. -/
theorem run_calls (beyond : Bool) (P : Flow → Prop) (Q : Call → Prop)
    (hstep : ∀ f e, P f → P (step beyond f e).1)
    (hcalls : ∀ f e, P f → ∀ c ∈ (step beyond f e).2, Q c) :
    ∀ (es : List Event) (f : Flow), P f → ∀ c ∈ (run beyond f es).2, Q c
  | [], _, _ => by simp
  | e :: es, f, h => by
    rw [run_cons]
    intro c hc
    rcases List.mem_append.mp hc with hc | hc
    · exact hcalls f e h c hc
    · exact run_calls beyond P Q hstep hcalls es _ (hstep f e h) c hc

theorem run_serviceDetected (beyond : Bool) :
    ∀ (es : List Event) (f : Flow), (run beyond f es).1.serviceDetected =
      (f.serviceDetected || (run beyond f es).2.any Call.reportsService)
  | [], f => by simp
  | e :: es, f => by
    rw [run_cons, run_serviceDetected beyond es, List.any_append, step_serviceDetected,
      Bool.or_assoc]

end Pop3Detector.Session
