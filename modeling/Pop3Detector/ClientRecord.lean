import Pop3Detector.Capture

namespace Pop3Detector.ClientRecord

open Pop3Detector.Bytes Pop3Detector.Patterns Pop3Detector.State Pop3Detector.Server
  Pop3Detector.Pop3ClientDetector Pop3Detector.Pop3ServiceDetector Pop3Detector.Session


/-- A name the USER/APOP loop stores in `fd->username` with `snort_strdup(username)`: nonempty,
ended by its NUL before `p_end`, so at most 247 bytes, each one the loop copies. -/
def StoredName (u : List UInt8) : Prop :=
  u ≠ [] ∧ u.length < usernameSize - 1 ∧ ∀ c ∈ u, isUsernameChar c = true

/-- The per-flow record holds no username, or a stored name. -/
def NameOk (fd : ClientPOP3Data) : Prop := ∀ u, fd.username = some u → StoredName u

theorem scanUsername_stored : ∀ (s name : List UInt8) (foundTick : Bool) {u : List UInt8},
    (∀ c ∈ name, isUsernameChar c = true) → (scanUsername s name foundTick).1 = some u →
    StoredName u
  | [], _, _, _, _, h => by cases h
  | c :: s, name, foundTick, u, hn, h => by
    unfold scanUsername at h
    by_cases hl : name.length < usernameSize - 1
    · rw [if_pos hl] at h
      by_cases hc : isUsernameChar c = true
      · rw [if_pos hc] at h
        refine scanUsername_stored s _ foundTick (fun x hx => ?_) h
        cases foundTick
        · rcases List.mem_append.mp hx with hx | hx
          · exact hn x hx
          · rw [List.mem_singleton.mp hx]
            exact hc
        · exact hn x hx
      rw [if_neg hc] at h
      by_cases ht : c = tick
      · rw [if_pos ht] at h
        exact scanUsername_stored s name true hn h
      rw [if_neg ht] at h
      split at h
      · dsimp only at h
        split at h
        · cases h
        · cases h
          exact ⟨‹_›, hl, hn⟩
      · cases h
    · rw [if_neg hl] at h
      cases h

theorem authCommand_nameOk (beyond : Bool) (idx : Nat) {fd : ClientPOP3Data} (s : List UInt8)
    (h : NameOk fd) : NameOk (authCommand beyond idx fd s).1 := by
  by_cases hu : idx = ClientAppPatternIndex.toNat .apop ∨ idx = ClientAppPatternIndex.toNat .user
  · have hst : ¬(idx = ClientAppPatternIndex.toNat .stlsEoc ∨
        idx = ClientAppPatternIndex.toNat .stlsEoc2) := by
      rcases hu with rfl | rfl <;> decide
    intro v hv
    unfold authCommand at hv
    rw [if_neg hst, if_pos hu] at hv
    simp only [apply_ite (fun p : ClientPOP3Data × List UInt8 => p.1.username),
      apply_ite ClientPOP3Data.username, ite_self] at hv
    cases hr : (scanUsername s [] false).1 with
    | none => exact h v (by simpa [hr] using hv)
    | some w =>
      rw [hr, Option.or_some, Option.some.injEq] at hv
      exact scanUsername_stored s [] false nofun (hv ▸ hr)
  · rw [NameOk, Capture.authCommand_username beyond fd s hu]
    exact h

theorem command_nameOk (beyond : Bool) (idx : Nat) {fd : ClientPOP3Data} (s : List UInt8)
    (h : NameOk fd) : NameOk (command beyond idx fd s).1 := by
  unfold command transCommand
  split
  · exact authCommand_nameOk beyond idx s h
  · exact authCommand_nameOk beyond idx s h
  · dsimp only
    split_ifs <;> exact h

theorem correlate_username (dd : POP3DetectorData) :
    (correlate dd).1.client.username = dd.client.username ∨
      (correlate dd).1.client.username = none := by
  unfold correlate
  by_cases hs : dd.client.state = .stlsCmd
  · rw [if_pos hs]
    split_ifs <;> exact .inl rfl
  · rw [if_neg hs]
    split
    · split_ifs <;> exact .inr rfl
    · exact .inl rfl

theorem pop3ServerValidate_nameOk (dd : POP3DetectorData) (data : List UInt8) (server : Bool)
    (h : NameOk dd.client) : NameOk (pop3ServerValidate dd data server).data.client := by
  rcases pop3ServerValidate_client dd data server with ⟨-, hc, -⟩ | ⟨error, rest, -, -, -, -, hc, -⟩
  · rw [hc]
    exact h
  · intro u hu
    rw [hc] at hu
    rcases correlate_username { dd with server.state := .response, server.error := error } with
      he | he <;> rw [he] at hu
    · exact h u hu
    · cases hu

theorem step_nameOk (beyond : Bool) (f : Flow) (e : Event) (h : NameOk f.record.client) :
    NameOk (step beyond f e).1.record.client := by
  obtain ⟨dd, -, hu, -, hcase⟩ := step_cases beyond f e
  have h' : NameOk dd.client := fun u hv => h u (hu ▸ hv)
  rcases hcase with ⟨hr, -⟩ | ⟨data, -, hr, -⟩ |
    ⟨data, server, pre, post, -, -, -, -, ⟨hr, -⟩ | ⟨-, -, -, -, -, -, hr, -⟩⟩ <;> rw [hr]
  · exact h'
  · exact commandLoop_invariant beyond (fun d => NameOk d.client)
      (fun idx d s hd => command_nameOk beyond idx s hd) (fun _ hd => hd) _ dd data h'
  · exact pop3ServerValidate_nameOk dd data server h'
  · exact pop3ServerValidate_nameOk dd data server h'

theorem step_addUser (beyond : Bool) (f : Flow) (e : Event) :
    ∀ r ∈ userReports (step beyond f e).2, f.record.client.username = some r.1 ∧ r.2.1 = .pop3 := by
  obtain ⟨dd, -, hu, -, hcase⟩ := step_cases beyond f e
  rcases hcase with ⟨-, hc⟩ | ⟨data, -, -, hc⟩ | ⟨data, server, pre, post, -, -, hpre, hcalls, hpost⟩
  · rw [userReports_eq_nil fun c h => (Call.quiet_spec (hc c h)).1]
    nofun
  · rw [userReports_eq_nil fun c h => (hc c h).elim LoopCall.addUserArgs
      fun hq => (Call.quiet_spec hq).1]
    nofun
  · have hpost' : userReports post = [] := by
      rcases hpost with ⟨-, hp⟩ | ⟨-, -, -, -, -, -, -, a, ha, rfl⟩
      · refine userReports_eq_nil fun c h => ?_
        rcases hp c h with hq | ⟨rfl, -⟩
        · exact (Call.quiet_spec hq).1
        · rfl
      · rw [userReports_cons, Call.addUserArgs_of_reportsService ha]
        rfl
    rw [hcalls, userReports_append, userReports_append,
      userReports_eq_nil fun c h => (Call.quiet_spec (hpre c h)).1, hpost', List.nil_append,
      List.append_nil]
    rcases pop3ServerValidate_userReports dd data server with h | ⟨u, error, rest, hu', -, -, -, h, -⟩
    · rw [h]
      nofun
    · rw [h]
      intro r hr
      rw [List.mem_singleton.mp hr]
      exact ⟨hu ▸ hu', rfl⟩

/-- In every run from a fresh flow, through any interleaving of both detectors' calls, the record
holds no username or a nonempty one of at most 247 bytes, each alphanumeric or one of `.@-_`; and
every `add_user` call reports such a name, with app POP3. -/
theorem usernames_stored (beyond : Bool) :
    (∀ (es : List Event) (u : List UInt8),
      (run beyond Flow.init es).1.record.client.username = some u → StoredName u) ∧
    (∀ es : List Event, ∀ r ∈ userReports (run beyond Flow.init es).2,
      StoredName r.1 ∧ r.2.1 = .pop3) := by
  have hinit : NameOk Flow.init.record.client := fun _ h => by cases h
  refine ⟨fun es => run_invariant beyond (fun f => NameOk f.record.client) (step_nameOk beyond) es _
    hinit, fun es r hr => ?_⟩
  obtain ⟨c, hc, hcr⟩ := List.mem_filterMap.mp hr
  refine run_calls beyond (fun f => NameOk f.record.client)
    (fun c => ∀ r, c.addUserArgs = some r → StoredName r.1 ∧ r.2.1 = .pop3) (step_nameOk beyond)
    (fun f e hf c hc r hcr => ?_) es _ hinit c hc r hcr
  obtain ⟨hu, hp⟩ := step_addUser beyond f e r (List.mem_filterMap.mpr ⟨c, hc, hcr⟩)
  exact ⟨hf _ hu, hp⟩


/-- Where the flow stands with `need_continue`: 0 before the client detector's first call sets
`set_flags`, 1 while `need_continue` is set, 2 once it has been cleared. -/
def continuePhase (dd : POP3DetectorData) : Nat :=
  if dd.client.setFlags then (if dd.needContinue then 1 else 2) else 0

/-- What every operation but the `!fd->set_flags` block does to the two fields: `set_flags` is
kept, and `need_continue` is kept or cleared. -/
def Keeps (dd dd' : POP3DetectorData) : Prop :=
  dd'.client.setFlags = dd.client.setFlags ∧
    (dd'.needContinue = dd.needContinue ∨ dd'.needContinue = false)

theorem Keeps.refl (dd : POP3DetectorData) : Keeps dd dd := ⟨rfl, .inl rfl⟩

theorem Keeps.trans {a b c : POP3DetectorData} (h₁ : Keeps a b) (h₂ : Keeps b c) : Keeps a c :=
  ⟨h₂.1.trans h₁.1, h₂.2.elim (fun h => h ▸ h₁.2) .inr⟩

theorem Keeps.phase_le {a b : POP3DetectorData} (h : Keeps a b) :
    continuePhase a ≤ continuePhase b := by
  unfold continuePhase
  rw [h.1]
  rcases h.2 with h2 | h2
  · rw [h2]
  · rw [h2]
    cases a.client.setFlags <;> cases a.needContinue <;> decide

theorem Keeps.needContinue {a b : POP3DetectorData} (h : Keeps a b)
    (ha : a.needContinue = true → a.client.setFlags = true) :
    b.needContinue = true → b.client.setFlags = true := fun hb => by
  rw [h.1]
  rcases h.2 with h2 | h2
  · exact ha (h2 ▸ hb)
  · rw [h2] at hb
    cases hb

theorem continuePhase_le_two (dd : POP3DetectorData) : continuePhase dd ≤ 2 := by
  unfold continuePhase
  split_ifs <;> omega

theorem continuePhase_eq_two (dd : POP3DetectorData) :
    continuePhase dd = 2 ↔ dd.client.setFlags = true ∧ dd.needContinue = false := by
  unfold continuePhase
  cases dd.client.setFlags <;> cases dd.needContinue <;> decide

theorem commandLoop_keeps (beyond : Bool) (n : Nat) (dd : POP3DetectorData) (s : List UInt8) :
    Keeps dd (commandLoop beyond n dd s).1 :=
  commandLoop_invariant beyond (Keeps dd)
    (fun _ _ _ h => h.trans ⟨Segmentation.command_setFlags _ _ _ _, .inl rfl⟩)
    (fun _ h => h.trans ⟨rfl, .inr rfl⟩) n dd s (.refl dd)

theorem correlate_keeps (dd : POP3DetectorData) : Keeps dd (correlate dd).1 := by
  unfold correlate
  by_cases hs : dd.client.state = .stlsCmd
  · rw [if_pos hs]
    split_ifs <;> exact .refl _
  · rw [if_neg hs]
    split
    · by_cases he : dd.server.error = true
      · rw [if_pos he]
        exact .refl _
      · rw [if_neg he]
        exact ⟨rfl, .inr rfl⟩
    · exact .refl _

theorem pop3ServerValidate_keeps (dd : POP3DetectorData) (data : List UInt8) (server : Bool) :
    Keeps dd (pop3ServerValidate dd data server).data := by
  rcases pop3ServerValidate_client dd data server with ⟨-, hc, hn⟩ |
    ⟨error, rest, -, -, -, -, hc, hn⟩
  · exact ⟨by rw [hc], .inl hn⟩
  · have h := correlate_keeps { dd with server.state := .response, server.error := error }
    exact ⟨by rw [hc]; exact h.1, by rw [hn]; exact h.2⟩

theorem initFlags_phase (dd : POP3DetectorData) :
    continuePhase dd ≤ continuePhase (initFlags dd).1 ∧ (initFlags dd).1.client.setFlags = true := by
  by_cases h : dd.client.setFlags = true
  · rw [Segmentation.initFlags_of_setFlags h]
    exact ⟨le_rfl, h⟩
  · unfold initFlags
    rw [if_neg h]
    exact ⟨by simp [continuePhase, h], rfl⟩

/-- The session flags a detector call can set after the client detector's `!fd->set_flags`
block: CONTINUE while `need_continue` is set, ENCRYPTED after STLS, CLIENT_DETECTED. -/
def SetsLater (dd : POP3DetectorData) (fl : Flag) : Prop :=
  (fl = .continue ∧ dd.needContinue = true) ∨ fl = .encrypted ∨ fl = .clientDetected

theorem loopCall_setFlag {fl : Flag} (h : LoopCall (.setSessionFlags fl)) : fl = .clientDetected := by
  rcases h with h | h | h
  · cases h
  · cases h
  · exact Call.setSessionFlags.inj h

theorem correlate_setFlag (dd : POP3DetectorData) {fl : Flag}
    (h : .setSessionFlags fl ∈ (correlate dd).2) : fl = .encrypted ∨ fl = .clientDetected := by
  unfold correlate at h
  by_cases hs : dd.client.state = .stlsCmd
  · rw [if_pos hs] at h
    split_ifs at h <;> simp at h
    exact .inl h
  · rw [if_neg hs] at h
    split at h
    · split_ifs at h <;> simp at h
      exact .inr h
    · cases h

theorem pop3ServerValidate_setFlag (dd : POP3DetectorData) (data : List UInt8) (server : Bool)
    {fl : Flag} (h : .setSessionFlags fl ∈ (pop3ServerValidate dd data server).calls) :
    fl = .encrypted ∨ fl = .clientDetected := by
  rcases pop3ServerValidate_client dd data server with ⟨hc, -⟩ | ⟨error, rest, -, -, -, hc, -⟩ <;>
    rw [hc] at h
  · cases h
  · exact correlate_setFlag _ h

theorem conclude_setFlag (serviceDetected : Bool) (r : ServerResult) {fl : Flag}
    (h : .setSessionFlags fl ∈ (conclude serviceDetected r).2.1) : False := by
  unfold conclude at h
  split_ifs at h <;> simp at h

theorem initFlags_calls (dd : POP3DetectorData) :
    (initFlags dd).2 = if dd.client.setFlags then [] else [.setSessionFlags .clientGetsServerPackets] := by
  unfold initFlags
  split_ifs <;> rfl

theorem step_flags (beyond : Bool) (f : Flow) (e : Event) :
    ∃ post : List Call, (∀ fl, .setSessionFlags fl ∈ post → SetsLater f.record fl) ∧
      ((step beyond f e).2 = post ∧ Keeps f.record (step beyond f e).1.record ∨
        (step beyond f e).2 = (initFlags f.record).2 ++ post ∧
          Keeps (initFlags f.record).1 (step beyond f e).1.record) := by
  cases e with
  | client dir data =>
    simp only [step, dispatch, Pop3ClientDetector.validate, Flow.record]
    by_cases h0 : data = []
    · rw [if_pos h0]
      exact ⟨[], nofun, .inl ⟨rfl, .refl _⟩⟩
    rw [if_neg h0]
    by_cases hd : dir = .fromResponder
    · rw [if_pos hd, Option.getD_some, List.append_assoc]
      refine ⟨_, fun fl h => ?_, .inr ⟨rfl, pop3ServerValidate_keeps _ data false⟩⟩
      rcases List.mem_append.mp h with h | h
      · exact .inr (pop3ServerValidate_setFlag _ data false h)
      · split at h <;> simp at h
    · rw [if_neg hd, Option.getD_some]
      exact ⟨_, fun fl h => .inr (.inr (loopCall_setFlag (commandLoop_calls beyond _ _ _ _ h))),
        .inr ⟨rfl, commandLoop_keeps beyond _ _ data⟩⟩
  | service dir data =>
    simp only [step, dispatch, Pop3ServiceDetector.validate, Flow.record]
    by_cases h0 : data = [] ∨ dir ≠ .fromResponder
    · rw [if_pos h0]
      exact ⟨_, fun fl h => by simp at h, .inl ⟨rfl, .refl _⟩⟩
    rw [if_neg h0]
    by_cases hd : (f.blob.getD POP3DetectorData.init).needContinue = false ∧ f.serviceDetected = true
    · rw [if_pos hd, Option.getD_some]
      exact ⟨_, fun fl h => by simp at h, .inl ⟨rfl, .refl _⟩⟩
    rw [if_neg hd, Option.getD_some]
    have h := pop3ServerValidate_keeps (f.blob.getD POP3DetectorData.init) data true
    obtain ⟨hc, hn, -⟩ := conclude_data f.serviceDetected
      (pop3ServerValidate (f.blob.getD POP3DetectorData.init) data true)
    refine ⟨_, fun fl hm => ?_, .inl ⟨rfl, hc ▸ h.1, hn ▸ h.2⟩⟩
    simp only [List.mem_append, List.mem_cons, List.mem_singleton, List.not_mem_nil, or_false] at hm
    rcases hm with ((hm | hm) | hm) | hm
    · cases hm
    · split at hm
      · cases hm
        exact .inl ⟨rfl, ‹_›⟩
      · cases hm
    · exact .inr (pop3ServerValidate_setFlag _ data true hm)
    · exact (conclude_setFlag _ _ hm).elim

theorem step_phase (beyond : Bool) (f : Flow) (e : Event) :
    continuePhase f.record ≤ continuePhase (step beyond f e).1.record ∧
    ((f.record.needContinue = true → f.record.client.setFlags = true) →
      (step beyond f e).1.record.needContinue = true →
        (step beyond f e).1.record.client.setFlags = true) := by
  obtain ⟨-, -, ⟨-, h⟩ | ⟨-, h⟩⟩ := step_flags beyond f e
  · exact ⟨h.phase_le, h.needContinue⟩
  · obtain ⟨hp, hs⟩ := initFlags_phase f.record
    exact ⟨hp.trans h.phase_le, fun _ _ => h.1.trans hs⟩

theorem step_setContinue (beyond : Bool) (f : Flow) (e : Event)
    (h : Call.setSessionFlags .continue ∈ (step beyond f e).2) : f.record.needContinue = true := by
  obtain ⟨post, hpost, ⟨hc, -⟩ | ⟨hc, -⟩⟩ := step_flags beyond f e <;> rw [hc] at h
  · rcases hpost _ h with ⟨-, h⟩ | h | h
    · exact h
    all_goals cases h
  · rcases List.mem_append.mp h with h | h
    · rw [initFlags_calls] at h
      split at h <;> simp at h
    · rcases hpost _ h with ⟨-, h⟩ | h | h
      · exact h
      all_goals cases h

theorem step_requestsPackets (beyond : Bool) (f : Flow) (e : Event) :
    (step beyond f e).2.count (.setSessionFlags .clientGetsServerPackets) +
        (if (step beyond f e).1.record.client.setFlags then 0 else 1) ≤
      if f.record.client.setFlags then 0 else 1 := by
  obtain ⟨post, hpost, ⟨hc, h⟩ | ⟨hc, h⟩⟩ := step_flags beyond f e <;> rw [hc, h.1]
  all_goals have hp : post.count (.setSessionFlags .clientGetsServerPackets) = 0 :=
    List.count_eq_zero.mpr fun hm => by rcases hpost _ hm with ⟨h, -⟩ | h | h <;> cases h
  · rw [hp, Nat.zero_add]
  · rw [List.count_append, hp, (initFlags_phase _).2, initFlags_calls]
    split <;> simp

/-- The `need_continue` protocol between the two detectors over every run: set by the client
detector's first call, cleared for good, and never again followed by `APPID_SESSION_CONTINUE`. -/
theorem continue_released_for_good (beyond : Bool) :
    (∀ es : List Event, (run beyond Flow.init es).1.record.needContinue = true →
      (run beyond Flow.init es).1.record.client.setFlags = true) ∧
    (∀ (f : Flow) (es : List Event),
      continuePhase f.record ≤ continuePhase (run beyond f es).1.record) ∧
    (∀ (f : Flow) (es : List Event), f.record.client.setFlags = true →
      f.record.needContinue = false →
      ∀ c ∈ (run beyond f es).2, c ≠ .setSessionFlags .continue) := by
  refine ⟨fun es => run_invariant beyond
      (fun f => f.record.needContinue = true → f.record.client.setFlags = true)
      (fun f e hf => (step_phase beyond f e).2 hf) es _ nofun,
    fun f es => ?_, fun f es hs hn => ?_⟩
  · induction es generalizing f with
    | nil => exact le_rfl
    | cons e es ih => exact (step_phase beyond f e).1.trans (ih _)
  · refine run_calls beyond (fun f => continuePhase f.record = 2) _
      (fun f e hf => le_antisymm (continuePhase_le_two _) (hf ▸ (step_phase beyond f e).1))
      (fun f e hf c hc he => ?_) es f ((continuePhase_eq_two _).mpr ⟨hs, hn⟩)
    rw [he] at hc
    have hn' := ((continuePhase_eq_two _).mp hf).2
    rw [step_setContinue beyond f e hc] at hn'
    cases hn'

/-- Over every run from any flow, through any interleaving of both detectors' calls,
`APPID_SESSION_CLIENT_GETS_SERVER_PACKETS` is set at most once, and not at all once `set_flags`
is set: the client detector asks for the server's packets only on its first call. -/
theorem client_packets_requested_once (beyond : Bool) (f : Flow) (es : List Event) :
    (run beyond f es).2.count (.setSessionFlags .clientGetsServerPackets) ≤
      if f.record.client.setFlags then 0 else 1 := by
  suffices h : ∀ f, (run beyond f es).2.count (.setSessionFlags .clientGetsServerPackets) +
      (if (run beyond f es).1.record.client.setFlags then 0 else 1) ≤
        if f.record.client.setFlags then 0 else 1 from
    (Nat.le_add_right _ _).trans (h f)
  induction es with
  | nil => intro f; simp
  | cons e es ih =>
    intro f
    rw [run_cons, List.count_append]
    dsimp only
    have h1 := step_requestsPackets beyond f e
    have h2 := ih (step beyond f e).1
    omega

end Pop3Detector.ClientRecord
