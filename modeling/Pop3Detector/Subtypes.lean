import Pop3Detector.ServiceReport

namespace Pop3Detector.Subtypes

open Pop3Detector.Bytes Pop3Detector.State Pop3Detector.Greeting Pop3Detector.Server
  Pop3Detector.Pop3ClientDetector Pop3Detector.Pop3ServiceDetector Pop3Detector.Session

/-- A string the Post.Office scan copies into a subtype entry: nonempty, with no NUL and no
space, so that `strlen` of the `snort_calloc`ed copy is the length of the scanned run. -/
def Word (t : List UInt8) : Prop := t ≠ [] ∧ ∀ c ∈ t, c ≠ 0 ∧ c ≠ sp

/-- A subtype entry as the Post.Office scan builds it. -/
def WellFormed (s : RNAServiceSubtype) : Prop := Word s.service ∧ ∀ w ∈ s.version, Word w

/-- The subtype list of a service record: empty in CONNECT, and afterwards at most the one
well-formed entry of the greeting. -/
def SubtypesOk (pd : ServicePOP3Data) : Prop :=
  (pd.state = .connect → pd.subtype = []) ∧ pd.subtype.length ≤ 1 ∧ ∀ s ∈ pd.subtype, WellFormed s

theorem slice_scanTo (g : List UInt8) (lineEnd p : Nat) (stop : UInt8) :
    slice g p (scanTo g lineEnd p stop) =
      ((g.take lineEnd).drop p).takeWhile fun c => c != 0 && c != stop := by
  unfold Greeting.slice scanTo
  rw [Nat.add_sub_cancel_left]
  have h : (((g.take lineEnd).drop p).takeWhile fun c => c != 0 && c != stop) <+: g.drop p :=
    (List.takeWhile_prefix _).trans (by rw [List.drop_take]; exact List.take_prefix _ _)
  exact (List.prefix_iff_eq_take.mp h).symm

theorem word_slice_scanTo {g : List UInt8} {lineEnd p : Nat} (h : scanTo g lineEnd p sp ≠ p) :
    Word (slice g p (scanTo g lineEnd p sp)) := by
  rw [slice_scanTo]
  refine ⟨fun he => h ?_, fun c hc => by simpa using List.mem_takeWhile_imp hc⟩
  unfold scanTo
  rw [he, List.length_nil, Nat.add_zero]

theorem postOfficeSubtype_wellFormed {g : List UInt8} {lineEnd p2 : Nat} {sub : RNAServiceSubtype}
    (h : postOfficeSubtype g lineEnd p2 = some sub) : WellFormed sub := by
  let P : Option RNAServiceSubtype → Prop := fun o => o = some sub → WellFormed sub
  revert h
  show P (postOfficeSubtype g lineEnd p2)
  unfold postOfficeSubtype
  dsimp only
  refine iteInduction (fun _ => nofun) fun _ => iteInduction (fun _ => nofun) fun hp => ?_
  rintro ⟨⟩
  refine ⟨word_slice_scanTo fun he => hp (.inl he), fun w => ?_⟩
  let Q : Option (List UInt8) → Prop := fun o => w ∈ o → Word w
  show Q _
  refine iteInduction (fun _ => iteInduction (fun hq => ?_) fun _ => nofun) fun _ => nofun
  rintro ⟨⟩
  exact word_slice_scanTo hq.1

theorem postOffice_subtype (g : List UInt8) (lineEnd i : Nat) (pd : ServicePOP3Data) :
    (postOffice g lineEnd i pd).vendor = some .postOffice ∧
    ((postOffice g lineEnd i pd).subtype = pd.subtype ∨
      ∃ s p2, postOfficeSubtype g lineEnd p2 = some s ∧
        (postOffice g lineEnd i pd).subtype = s :: pd.subtype) := by
  let P : ServicePOP3Data → Prop := fun x => x.vendor = some .postOffice ∧
    (x.subtype = pd.subtype ∨ ∃ s p2, postOfficeSubtype g lineEnd p2 = some s ∧ x.subtype = s :: pd.subtype)
  show P (postOffice g lineEnd i pd)
  unfold postOffice
  dsimp only
  iterate 4 refine iteInduction (fun _ => ⟨rfl, .inl rfl⟩) fun _ => ?_
  split
  · exact ⟨rfl, .inr ⟨_, _, ‹_›, rfl⟩⟩
  · exact ⟨rfl, .inl rfl⟩

theorem scanGreeting_subtype (g : List UInt8) (lineEnd : Nat) (pd : ServicePOP3Data) :
    (scanGreeting g lineEnd pd).subtype = pd.subtype ∨
      ∃ s p2, postOfficeSubtype g lineEnd p2 = some s ∧
        (scanGreeting g lineEnd pd).subtype = s :: pd.subtype ∧
        (scanGreeting g lineEnd pd).vendor = some .postOffice := by
  unfold scanGreeting
  dsimp only
  split
  · split_ifs <;> exact .inl rfl
  · split
    · split_ifs <;> exact .inl rfl
    · split_ifs
      · exact .inl rfl
      · split
        · exact (postOffice_subtype ..).2.imp id fun ⟨s, p2, h1, h2⟩ =>
            ⟨s, p2, h1, h2, (postOffice_subtype ..).1⟩
        · exact .inl rfl

theorem pop3ServerValidate_subtype_cases (dd : POP3DetectorData) (data : List UInt8)
    (server : Bool) :
    (pop3ServerValidate dd data server).data.server.subtype = dd.server.subtype ∨
      dd.server.state = .connect ∧ (∃ rest, statusPrefix data = some (false, rest)) ∧
      ∃ s, (∃ lineEnd p2, postOfficeSubtype data lineEnd p2 = some s) ∧
        (pop3ServerValidate dd data server).data.server.subtype = s :: dd.server.subtype ∧
        (pop3ServerValidate dd data server).data.server.vendor = some .postOffice := by
  rcases pop3ServerValidate_server dd data server with ⟨-, h⟩ | ⟨e, h⟩ |
    ⟨error, rest, -, rest', hsp, -, -, h⟩ <;> rw [h]
  · rcases continueLoop_cases data.length dd.server data with h' | ⟨h', -⟩ <;> rw [h'] <;>
      exact .inl rfl
  · exact .inl rfl
  · rw [endOfStatus_subtype, show ∀ pd, (endOfStatus pd rest').1.vendor = pd.vendor from
      fun pd => congrArg Prod.fst (endOfStatus_greetingFields pd rest')]
    split_ifs with hc
    · obtain ⟨-, hs, rfl⟩ := hc
      exact (scanGreeting_subtype _ _ _).imp id fun ⟨s, p2, h1, h2, h3⟩ =>
        ⟨hs, ⟨rest, hsp⟩, s, ⟨_, p2, h1⟩, h2, h3⟩
    · exact .inl rfl

theorem pop3ServerValidate_subtypesOk (dd : POP3DetectorData) (data : List UInt8) (server : Bool)
    (h : SubtypesOk dd.server) : SubtypesOk (pop3ServerValidate dd data server).data.server := by
  refine ⟨fun hc => absurd hc (pop3ServerValidate_state_ne_connect dd data server), ?_⟩
  rcases pop3ServerValidate_subtype_cases dd data server with he | ⟨hs, -, s, ⟨_, _, hw⟩, he, -⟩ <;>
    rw [he]
  · exact h.2
  · rw [h.1 hs]
    exact ⟨le_rfl, by simpa using postOfficeSubtype_wellFormed hw⟩

theorem step_subtypesOk (beyond : Bool) (f : Flow) (e : Event) (h : SubtypesOk f.record.server) :
    SubtypesOk (step beyond f e).1.record.server := by
  obtain ⟨dd, -, -, hs, hcase⟩ := step_cases beyond f e
  rw [← hs] at h
  rcases hcase with ⟨hr, -⟩ | ⟨data, -, hr, -⟩ |
    ⟨data, server, pre, post, -, -, -, -, ⟨hr, -⟩ | ⟨-, -, -, -, -, -, hr, -⟩⟩ <;> rw [hr]
  · exact h
  · rw [commandLoop_server]
    exact h
  · exact pop3ServerValidate_subtypesOk dd data server h
  · exact ⟨fun _ => rfl, Nat.zero_le _, nofun⟩

theorem step_subtype_added (beyond : Bool) (f : Flow) (e : Event) {s : RNAServiceSubtype}
    (hs : s ∈ (step beyond f e).1.record.server.subtype) (hn : s ∉ f.record.server.subtype) :
    f.record.server.state = .connect ∧ (step beyond f e).1.record.server.vendor = some .postOffice ∧
    ∃ data, IsResponse e data ∧ (∃ rest, statusPrefix data = some (false, rest)) ∧
      ∃ lineEnd p2, postOfficeSubtype data lineEnd p2 = some s := by
  obtain ⟨dd, -, -, hsv, hcase⟩ := step_cases beyond f e
  rw [← hsv] at hn ⊢
  rcases hcase with ⟨hr, -⟩ | ⟨data, -, hr, -⟩ |
    ⟨data, server, pre, post, he, -, -, -, ⟨hr, -⟩ | ⟨-, -, -, -, -, -, hr, -⟩⟩ <;> rw [hr] at hs ⊢
  · exact absurd hs hn
  · rw [commandLoop_server] at hs
    exact absurd hs hn
  · rcases pop3ServerValidate_subtype_cases dd data server with h | ⟨hc, hok, s', hfound, h, hv⟩
    · rw [h] at hs
      exact absurd hs hn
    · rw [h] at hs
      obtain rfl := (List.mem_cons.mp hs).resolve_right hn
      exact ⟨hc, hv, data, he, hok, hfound⟩
  · cases hs

/-- In every run the subtype list holds at most one well-formed entry, added only by the
Post.Office scan of a `+OK` greeting in CONNECT, and every list handed over is such a list. -/
theorem subtypes_well_formed (beyond : Bool) :
    (∀ es : List Event, SubtypesOk (run beyond Flow.init es).1.record.server) ∧
    (∀ f e s, s ∈ (step beyond f e).1.record.server.subtype → s ∉ f.record.server.subtype →
      f.record.server.state = .connect ∧ (step beyond f e).1.record.server.vendor = some .postOffice ∧
      ∃ data, IsResponse e data ∧ (∃ rest, statusPrefix data = some (false, rest)) ∧
        ∃ lineEnd p2, postOfficeSubtype data lineEnd p2 = some s) ∧
    (∀ es : List Event, ∀ c ∈ (run beyond Flow.init es).2, ∀ a vendor version subtype,
      c = .addServiceConsumeSubtype a vendor version subtype →
      subtype.length ≤ 1 ∧ ∀ s ∈ subtype, WellFormed s) := by
  have hinit : SubtypesOk Flow.init.record.server := ⟨fun _ => rfl, Nat.zero_le _, nofun⟩
  refine ⟨fun es => run_invariant beyond (fun f => SubtypesOk f.record.server)
    (step_subtypesOk beyond) es _ hinit, fun f e s => step_subtype_added beyond f e, fun es => run_calls beyond (fun f => SubtypesOk f.record.server)
      _ (step_subtypesOk beyond) (fun f e hf c hc => ?_) es _ hinit⟩
  rintro a vendor version subtype rfl
  obtain ⟨data, a', -, heq⟩ := ServiceReport.step_report_call beyond f e hc rfl
  obtain ⟨-, -, -, rfl⟩ := Call.addServiceConsumeSubtype.inj heq
  exact (pop3ServerValidate_subtypesOk _ data true hf).2

end Pop3Detector.Subtypes
