import Pop3Detector.Session

namespace Pop3Detector.Segmentation

open Pop3Detector.Bytes Pop3Detector.Patterns Pop3Detector.State Pop3Detector.Server
  Pop3Detector.Pop3ClientDetector Pop3Detector.Session

theorem dropWhile_append_of_le {P : UInt8 → Bool} {v t : List UInt8}
    (h : t.length ≤ (List.dropWhile P (v ++ t)).length) :
    List.dropWhile P (v ++ t) = List.dropWhile P v ++ t := by
  rw [List.dropWhile_append] at h ⊢
  by_cases hv : (List.dropWhile P v).isEmpty
  · rw [if_pos hv] at h ⊢
    rw [List.isEmpty_iff.mp hv, List.nil_append]
    exact (List.dropWhile_suffix P).eq_of_length_le h
  · rw [if_neg hv]

theorem skipCrLf_suffix (s : List UInt8) : skipCrLf s <:+ s := List.dropWhile_suffix _

theorem skipToEol_suffix (s : List UInt8) : skipToEol s <:+ s := List.dropWhile_suffix _

theorem scanUsername_suffix : ∀ (s name : List UInt8) (foundTick : Bool),
    (scanUsername s name foundTick).2 <:+ s
  | [], _, _ => List.suffix_refl _
  | c :: s, name, foundTick => by
    have next := fun name foundTick =>
      (scanUsername_suffix s name foundTick).trans (List.suffix_cons c s)
    rw [scanUsername]
    by_cases hl : name.length < usernameSize - 1
    · rw [if_pos hl]
      by_cases hc : isUsernameChar c = true
      · rw [if_pos hc]
        exact next _ _
      rw [if_neg hc]
      by_cases ht : c = tick
      · rw [if_pos ht]
        exact next _ _
      rw [if_neg ht]
      split <;> exact List.suffix_refl _
    · rw [if_neg hl]

theorem skipCrLf_append {v t : List UInt8} (h : t.length ≤ (skipCrLf (v ++ t)).length) :
    skipCrLf (v ++ t) = skipCrLf v ++ t := dropWhile_append_of_le h

theorem skipToEol_append {v t : List UInt8} (h : t.length ≤ (skipToEol (v ++ t)).length) :
    skipToEol (v ++ t) = skipToEol v ++ t := dropWhile_append_of_le h

theorem skipLine_append {v t : List UInt8}
    (h : t.length ≤ (skipCrLf (skipToEol (v ++ t))).length) :
    skipCrLf (skipToEol (v ++ t)) = skipCrLf (skipToEol v) ++ t := by
  have hl := skipToEol_append (h.trans (skipCrLf_suffix _).length_le)
  rw [hl] at h ⊢
  exact skipCrLf_append h

theorem skipLine_shorter {t : List UInt8} (h : t.length ≤ (skipCrLf (skipToEol t)).length) :
    t = [] := by
  cases t with
  | nil => rfl
  | cons c t =>
    have hs : skipCrLf (skipToEol (c :: t)) <:+ t := by
      cases hc : isCrLf c
      · rw [skipToEol, List.dropWhile_cons_of_pos (by simp [hc])]
        exact (skipCrLf_suffix _).trans (skipToEol_suffix t)
      · rw [skipToEol, List.dropWhile_cons_of_neg (by simp [hc]), skipCrLf,
          List.dropWhile_cons_of_pos hc]
        exact List.dropWhile_suffix _
    have := hs.length_le
    rw [List.length_cons] at h
    omega

theorem scanUsername_append (t : List UInt8) : ∀ (v name : List UInt8) (foundTick : Bool),
    scanUsername (v ++ t) name foundTick =
      ((scanUsername v name foundTick).1, (scanUsername v name foundTick).2 ++ t) ∨
    ((scanUsername v name foundTick).2 = [] ∧ (scanUsername (v ++ t) name foundTick).2 <:+ t)
  | [], name, foundTick => .inr ⟨rfl, scanUsername_suffix t name foundTick⟩
  | c :: v, name, foundTick => by
    simp only [List.cons_append, scanUsername]
    by_cases hl : name.length < usernameSize - 1
    · rw [if_pos hl, if_pos hl]
      by_cases hc : isUsernameChar c = true
      · rw [if_pos hc, if_pos hc]
        exact scanUsername_append t v _ _
      rw [if_neg hc, if_neg hc]
      by_cases ht : c = tick
      · rw [if_pos ht, if_pos ht]
        exact scanUsername_append t v _ _
      rw [if_neg ht, if_neg ht]
      by_cases hs : c = cr ∨ c = lf ∨ c = sp
      · rw [if_pos hs, if_pos hs]
        exact .inl rfl
      · rw [if_neg hs, if_neg hs]
        exact .inl rfl
    · rw [if_neg hl, if_neg hl]
      exact .inl rfl

theorem scanLine_append {v t : List UInt8}
    (h : t.length ≤ (skipCrLf (skipToEol (scanUsername (v ++ t) [] false).2)).length) :
    scanUsername (v ++ t) [] false =
      ((scanUsername v [] false).1, (scanUsername v [] false).2 ++ t) := by
  rcases scanUsername_append t v [] false with h' | ⟨-, hs⟩
  · exact h'
  · have hle := (skipCrLf_suffix (skipToEol (scanUsername (v ++ t) [] false).2)).length_le.trans
      (skipToEol_suffix _).length_le
    rw [hs.eq_of_length_le (h.trans hle)] at h
    obtain rfl := skipLine_shorter h
    simp

theorem authCommand_cases (beyond : Bool) (idx : Nat) (fd : ClientPOP3Data) (s s' : List UInt8) :
    (∃ st k, (k = skipCrLf ∨ k = fun u => skipCrLf (skipToEol u)) ∧
      authCommand beyond idx fd s = ({ fd with state := st }, k s) ∧
      authCommand beyond idx fd s' = ({ fd with state := st }, k s')) ∨
    (∃ st, authCommand beyond idx fd s =
        ({ fd with username := (scanUsername s [] false).1.or fd.username, state := st },
          skipCrLf (skipToEol (scanUsername s [] false).2)) ∧
      authCommand beyond idx fd s' =
        ({ fd with username := (scanUsername s' [] false).1.or fd.username, state := st },
          skipCrLf (skipToEol (scanUsername s' [] false).2))) := by
  rw [authCommand, authCommand]
  by_cases hstls :
      idx = ClientAppPatternIndex.toNat .stlsEoc ∨ idx = ClientAppPatternIndex.toNat .stlsEoc2
  · rw [if_pos hstls, if_pos hstls]
    exact .inl ⟨_, _, .inl rfl, rfl, rfl⟩
  rw [if_neg hstls, if_neg hstls]
  by_cases huser : idx = ClientAppPatternIndex.toNat .apop ∨ idx = ClientAppPatternIndex.toNat .user
  · rw [if_pos huser, if_pos huser]
    dsimp only
    by_cases hapop : idx = ClientAppPatternIndex.toNat .apop
    · rw [if_pos hapop, if_pos hapop]
      exact .inr ⟨_, rfl, rfl⟩
    · rw [if_neg hapop, if_neg hapop]
      exact .inr ⟨_, rfl, rfl⟩
  rw [if_neg huser, if_neg huser]
  by_cases hauth : idx = ClientAppPatternIndex.toNat .auth
  · rw [if_pos hauth, if_pos hauth]
    exact .inl ⟨_, _, .inr rfl, rfl, rfl⟩
  rw [if_neg hauth, if_neg hauth]
  by_cases heoc :
      idx = ClientAppPatternIndex.toNat .authEoc ∨ idx = ClientAppPatternIndex.toNat .authEoc2 ∨
        idx = ClientAppPatternIndex.toNat .authEoc3 ∨ idx = ClientAppPatternIndex.toNat .authEoc4
  · rw [if_pos heoc, if_pos heoc]
    exact .inl ⟨_, _, .inl rfl, rfl, rfl⟩
  rw [if_neg heoc, if_neg heoc]
  by_cases hpass : idx = ClientAppPatternIndex.toNat .pass ∧ fd.gotUser = true
  · rw [if_pos hpass, if_pos hpass]
    exact .inl ⟨_, _, .inr rfl, rfl, rfl⟩
  rw [if_neg hpass, if_neg hpass]
  by_cases hat : eocAt beyond idx = true
  · rw [if_pos hat, if_pos hat]
    exact .inl ⟨fd.state, _, .inl rfl, rfl, rfl⟩
  · rw [if_neg hat, if_neg hat]
    exact .inl ⟨fd.state, _, .inr rfl, rfl, rfl⟩

theorem authCommand_append (beyond : Bool) (idx : Nat) (fd : ClientPOP3Data) {v t : List UInt8}
    (h : t.length ≤ (authCommand beyond idx fd (v ++ t)).2.length) :
    authCommand beyond idx fd (v ++ t) =
      ((authCommand beyond idx fd v).1, (authCommand beyond idx fd v).2 ++ t) := by
  rcases authCommand_cases beyond idx fd (v ++ t) v with
    ⟨st, k, hk | hk, h1, h2⟩ | ⟨st, h1, h2⟩ <;> rw [h1, h2] <;> rw [h1] at h <;> subst_vars
  · rw [skipCrLf_append h]
  · beta_reduce at h ⊢
    rw [skipLine_append h]
  · have hs := scanLine_append h
    rw [hs] at h ⊢
    rw [skipLine_append h]

theorem transCommand_append (beyond : Bool) (idx : Nat) (fd : ClientPOP3Data) {v t : List UInt8}
    (h : t.length ≤ (transCommand beyond idx fd (v ++ t)).2.2.length) :
    transCommand beyond idx fd (v ++ t) = ((transCommand beyond idx fd v).1,
      (transCommand beyond idx fd v).2.1, (transCommand beyond idx fd v).2.2 ++ t) := by
  unfold transCommand at h ⊢
  split_ifs at h ⊢ <;> first | rw [skipCrLf_append h] | rw [skipLine_append h]

theorem command_append (beyond : Bool) (idx : Nat) (fd : ClientPOP3Data) {v t : List UInt8}
    (h : t.length ≤ (command beyond idx fd (v ++ t)).2.2.length) :
    command beyond idx fd (v ++ t) = ((command beyond idx fd v).1,
      (command beyond idx fd v).2.1, (command beyond idx fd v).2.2 ++ t) := by
  unfold command at h ⊢
  cases hs : fd.state <;> simp only [hs] at h ⊢ <;>
    first | exact transCommand_append beyond idx fd h | rw [authCommand_append beyond idx _ h]

theorem authCommand_suffix (beyond : Bool) (idx : Nat) (fd : ClientPOP3Data) (s : List UInt8) :
    (authCommand beyond idx fd s).2 <:+ s := by
  rcases authCommand_cases beyond idx fd s s with ⟨st, k, rfl | rfl, h, -⟩ | ⟨st, h, -⟩ <;> rw [h]
  · exact skipCrLf_suffix s
  · exact (skipCrLf_suffix _).trans (skipToEol_suffix s)
  · exact ((skipCrLf_suffix _).trans (skipToEol_suffix _)).trans (scanUsername_suffix s [] false)

theorem command_suffix (beyond : Bool) (idx : Nat) (fd : ClientPOP3Data) (s : List UInt8) :
    (command beyond idx fd s).2.2 <:+ s := by
  unfold command transCommand
  split
  · exact authCommand_suffix beyond idx _ s
  · exact authCommand_suffix beyond idx _ s
  · split_ifs
    all_goals first
      | exact skipCrLf_suffix s
      | exact (skipCrLf_suffix _).trans (skipToEol_suffix s)

theorem commandLoop_succ (beyond : Bool) (n : Nat) (dd : POP3DetectorData) {s : List UInt8}
    (h0 : s ≠ []) (hi : patternIndex s ≠ 0) :
    commandLoop beyond (n + 1) dd s =
      let r := command beyond (patternIndex s) dd.client (s.drop (patternOf (patternIndex s)).length)
      let r' := commandLoop beyond n { dd with client := r.1 } r.2.2
      (r'.1, r.2.1 ++ r'.2.1, r'.2.2) := by
  rw [commandLoop, if_neg h0, if_neg hi]

theorem command_cursor_lt (beyond : Bool) (fd : ClientPOP3Data) {s : List UInt8}
    (hi : patternIndex s ≠ 0) :
    (command beyond (patternIndex s) fd (s.drop (patternOf (patternIndex s)).length)).2.2.length + 4 ≤
      s.length := by
  obtain ⟨hp, -, h4⟩ := patternIndex_spec hi
  have := (command_suffix beyond (patternIndex s) fd (s.drop (patternOf (patternIndex s)).length)).length_le
  have := hp.length_le
  simp only [List.length_drop] at *
  omega

theorem pass_append (beyond : Bool) (fd : ClientPOP3Data) {s t : List UInt8}
    (hi : patternIndex (s ++ t) ≠ 0)
    (h : t.length ≤ (command beyond (patternIndex (s ++ t)) fd
      ((s ++ t).drop (patternOf (patternIndex (s ++ t))).length)).2.2.length) :
    patternIndex s = patternIndex (s ++ t) ∧
    (s ++ t).drop (patternOf (patternIndex (s ++ t))).length =
      s.drop (patternOf (patternIndex (s ++ t))).length ++ t := by
  obtain ⟨hp, -, -⟩ := patternIndex_spec hi
  have hsuf := (command_suffix beyond (patternIndex (s ++ t)) fd
    ((s ++ t).drop (patternOf (patternIndex (s ++ t))).length)).length_le
  have hpl := hp.length_le
  simp only [List.length_drop, List.length_append] at hsuf hpl
  have hps : patternOf (patternIndex (s ++ t)) <+: s :=
    List.prefix_of_prefix_length_le hp (List.prefix_append _ _) (by omega)
  refine ⟨?_, List.drop_append_of_le_length hps.length_le⟩
  rw [patternIndex_eq] at hi hps ⊢
  rw [patternIndex_eq]
  exact firstPrefix_of_prefix hi hps

theorem commandLoop_fuel (beyond : Bool) : ∀ (n m : Nat) (dd : POP3DetectorData) (s : List UInt8),
    s.length ≤ n → s.length ≤ m → commandLoop beyond n dd s = commandLoop beyond m dd s
  | 0, m, dd, s, hn, _ => by
    rw [List.eq_nil_of_length_eq_zero (Nat.le_zero.mp hn), commandLoop_nil, commandLoop_nil]
  | n + 1, 0, dd, s, _, hm => by
    rw [List.eq_nil_of_length_eq_zero (Nat.le_zero.mp hm), commandLoop_nil, commandLoop_nil]
  | n + 1, m + 1, dd, s, hn, hm => by
    by_cases h0 : s = []
    · rw [h0, commandLoop_nil, commandLoop_nil]
    by_cases hi : patternIndex s = 0
    · simp only [commandLoop, if_neg h0, hi, if_true]
    have hc := command_cursor_lt beyond dd.client hi
    rw [commandLoop_succ beyond n dd h0 hi, commandLoop_succ beyond m dd h0 hi]
    dsimp only
    rw [commandLoop_fuel beyond n m _ _ (by omega) (by omega)]

/-- The cursors at which the command loop starts a pass over the payload, the one where it stops
included. -/
def loopCursors (beyond : Bool) : Nat → POP3DetectorData → List UInt8 → List (List UInt8)
  | 0, _, s => [s]
  | fuel + 1, dd, s =>
    if s = [] then [s]
    else if patternIndex s = 0 then [s]
    else
      let r := command beyond (patternIndex s) dd.client (s.drop (patternOf (patternIndex s)).length)
      s :: loopCursors beyond fuel { dd with client := r.1 } r.2.2

theorem mem_loopCursors_suffix (beyond : Bool) : ∀ (n : Nat) (dd : POP3DetectorData) (s c : List UInt8),
    c ∈ loopCursors beyond n dd s → c <:+ s
  | 0, _, s, c, h => by
    rw [List.mem_singleton.mp h]
  | n + 1, dd, s, c, h => by
    unfold loopCursors at h
    split_ifs at h
    · rw [List.mem_singleton.mp h]
    · rw [List.mem_singleton.mp h]
    · rcases List.mem_cons.mp h with rfl | h
      · exact List.suffix_refl _
      · exact (mem_loopCursors_suffix beyond n _ _ c h).trans
          ((command_suffix _ _ _ _).trans (List.drop_suffix _ _))

/-- Cut at a cursor where the loop starts a pass, the loop over the payload is the loop over the
bytes before the cut, then the loop over the rest from the record it left. -/
theorem commandLoop_split (beyond : Bool) (t : List UInt8) (n : Nat) :
    ∀ (dd : POP3DetectorData) (s : List UInt8), (s ++ t).length ≤ n →
      t ∈ loopCursors beyond n dd (s ++ t) →
    commandLoop beyond n dd (s ++ t) =
      ((commandLoop beyond n (commandLoop beyond n dd s).1 t).1,
        (commandLoop beyond n dd s).2.1 ++ (commandLoop beyond n (commandLoop beyond n dd s).1 t).2.1,
        (commandLoop beyond n (commandLoop beyond n dd s).1 t).2.2) := by
  induction n with
  | zero =>
    intro dd s hl _
    rw [List.eq_nil_of_length_eq_zero (Nat.le_zero.mp hl)] at *
    rfl
  | succ n ih =>
    intro dd s hl ht
    by_cases hs : s = []
    · subst hs
      simp [commandLoop_nil]
    have h0 : s ++ t ≠ [] := by simp [hs]
    have hne : t ≠ s ++ t := fun h => hs (List.append_left_eq_self.mp h.symm)
    by_cases hi : patternIndex (s ++ t) = 0
    · simp only [loopCursors, if_neg h0, hi, if_true, List.mem_singleton] at ht
      exact absurd ht hne
    simp only [loopCursors, if_neg h0, if_neg hi, List.mem_cons] at ht
    rcases ht with ht | ht
    · exact absurd ht hne
    have hct := (mem_loopCursors_suffix beyond n _ _ _ ht).length_le
    obtain ⟨hidx, hdrop⟩ := pass_append beyond dd.client hi hct
    have hc := command_cursor_lt beyond dd.client hi
    rw [hdrop] at ht hct hc
    have hcmd := command_append beyond _ dd.client hct
    rw [hcmd] at ht hc
    simp only [List.length_append] at hc hl
    rw [commandLoop_succ beyond n dd h0 hi, commandLoop_succ beyond n dd hs (hidx ▸ hi)]
    dsimp only
    rw [hidx, hdrop, hcmd, ih _ _ (by simp only [List.length_append]; omega) ht,
      commandLoop_fuel beyond (n + 1) n _ t (by omega) (by omega)]
    simp

theorem command_setFlags (beyond : Bool) (idx : Nat) (fd : ClientPOP3Data) (s : List UInt8) :
    (command beyond idx fd s).1.setFlags = fd.setFlags := by
  have auth : ∀ fd : ClientPOP3Data, (authCommand beyond idx fd s).1.setFlags = fd.setFlags :=
    fun fd => by
      rcases authCommand_cases beyond idx fd s s with ⟨st, k, -, h, -⟩ | ⟨st, h, -⟩ <;> rw [h]
  unfold command transCommand
  split
  · exact auth _
  · exact auth _
  · split_ifs <;> rfl

theorem initFlags_of_setFlags {dd : POP3DetectorData} (h : dd.client.setFlags = true) :
    initFlags dd = (dd, []) := if_pos h

theorem validate_setFlags (beyond : Bool) (blob : Option POP3DetectorData) {w : List UInt8}
    (h : w ≠ []) : ((validate beyond blob .fromInitiator w).1.getD .init).client.setFlags = true := by
  have hf : (initFlags (blob.getD .init)).1.client.setFlags = true := by
    unfold initFlags; split_ifs with h' <;> simp [h']
  simp only [validate, if_neg h, reduceCtorEq, if_false, Option.getD_some]
  exact commandLoop_invariant beyond (fun d => d.client.setFlags = true)
    (fun _ _ _ h => (command_setFlags _ _ _ _).trans h) (fun _ h => h) _ _ _ hf

theorem validate_split (beyond : Bool) (blob : Option POP3DetectorData) {w1 w2 : List UInt8}
    (h1 : w1 ≠ []) (h2 : w2 ≠ [])
    (hcut : w2 ∈ loopCursors beyond (w1 ++ w2).length (initFlags (blob.getD .init)).1 (w1 ++ w2)) :
    validate beyond blob .fromInitiator (w1 ++ w2) =
      ((validate beyond (validate beyond blob .fromInitiator w1).1 .fromInitiator w2).1,
        (validate beyond blob .fromInitiator w1).2.1 ++
          (validate beyond (validate beyond blob .fromInitiator w1).1 .fromInitiator w2).2.1,
        (validate beyond (validate beyond blob .fromInitiator w1).1 .fromInitiator w2).2.2) := by
  have hf := validate_setFlags beyond blob h1
  have h12 : w1 ++ w2 ≠ [] := by simp [h1]
  simp only [validate, if_neg h1, reduceCtorEq, if_false, Option.getD_some] at hf
  simp only [validate, if_neg h1, if_neg h2, if_neg h12, reduceCtorEq, if_false, Option.getD_some,
    initFlags_of_setFlags hf]
  rw [commandLoop_split beyond w2 _ _ w1 le_rfl hcut,
    commandLoop_fuel beyond w1.length (w1 ++ w2).length _ w1 le_rfl (by simp),
    commandLoop_fuel beyond w2.length (w1 ++ w2).length _ w2 le_rfl (by simp)]
  simp

/-- A client payload cut where the command loop over it starts a command, or where it stops, gives
the same flow, the same calls and the same final status as the payload in one piece. -/
theorem client_cut_at_command (beyond : Bool) (f : Flow) {w1 w2 : List UInt8} (h1 : w1 ≠ [])
    (h2 : w2 ≠ [])
    (hcut : w2 ∈ loopCursors beyond (w1 ++ w2).length (initFlags f.record).1 (w1 ++ w2)) :
    run beyond f [.client .fromInitiator (w1 ++ w2)] =
      run beyond f [.client .fromInitiator w1, .client .fromInitiator w2] ∧
    (dispatch beyond f (.client .fromInitiator (w1 ++ w2))).2.2 =
      (dispatch beyond (step beyond f (.client .fromInitiator w1)).1
        (.client .fromInitiator w2)).2.2 := by
  have hv := validate_split beyond f.blob h1 h2 hcut
  simp only [run_cons, run_nil, step, dispatch, hv, List.append_nil, List.any_append, Bool.or_assoc,
    and_true]

theorem user_then_noop_cut :
    ascii "USER alice\r\n" ≠ [] ∧ ascii "NOOP\r\n" ≠ [] ∧
    ascii "NOOP\r\n" ∈ loopCursors false (ascii "USER alice\r\n" ++ ascii "NOOP\r\n").length
      (initFlags Flow.init.record).1 (ascii "USER alice\r\n" ++ ascii "NOOP\r\n") ∧
    (run false Flow.init [.client .fromInitiator (ascii "USER alice\r\n" ++ ascii "NOOP\r\n")] =
      run false Flow.init [.client .fromInitiator (ascii "USER alice\r\n"),
        .client .fromInitiator (ascii "NOOP\r\n")] ∧
    (dispatch false Flow.init
      (.client .fromInitiator (ascii "USER alice\r\n" ++ ascii "NOOP\r\n"))).2.2 =
      (dispatch false (step false Flow.init (.client .fromInitiator (ascii "USER alice\r\n"))).1
        (.client .fromInitiator (ascii "NOOP\r\n"))).2.2) :=
  ⟨by decide, by decide, by decide,
    client_cut_at_command false Flow.init (by decide) (by decide) (by decide)⟩

/-- A status line whole, and cut inside its text. -/
def okWhole : List Event := [.service .fromResponder (ascii "+OK hello\r\n")]

def okCut : List Event :=
  [.service .fromResponder (ascii "+OK h"), .service .fromResponder (ascii "ello\r\n")]

/-- Two status lines in one server payload, and one per payload. -/
def twoOksWhole : List Event := [.service .fromResponder (ascii "+OK a\r\n+OK b\r\n")]

def twoOksCut : List Event :=
  [.service .fromResponder (ascii "+OK a\r\n"), .service .fromResponder (ascii "+OK b\r\n")]

/-- A command whole, and cut inside its keyword. -/
def noopWhole : List Event := [.client .fromInitiator (ascii "NOOP\r\n")]

def noopCut : List Event :=
  [.client .fromInitiator (ascii "NO"), .client .fromInitiator (ascii "OP\r\n")]

/-- The cut status line fails the service; two status lines in one payload are not counted, one
per payload they are; the command cut in its keyword ends client detection. -/
theorem cuts_change_results :
    Call.failService ∉ (run false Flow.init okWhole).2 ∧
    Call.failService ∈ (run false Flow.init okCut).2 ∧
    Call.failService ∉ (run true Flow.init okWhole).2 ∧
    Call.failService ∈ (run true Flow.init okCut).2 ∧
    (run false Flow.init twoOksWhole).1.record.server.count = 0 ∧
    (run false Flow.init twoOksCut).1.record.server.count = 2 ∧
    (run true Flow.init twoOksWhole).1.record.server.count = 0 ∧
    (run true Flow.init twoOksCut).1.record.server.count = 2 ∧
    Call.setSessionFlags .clientDetected ∉ (run false Flow.init noopWhole).2 ∧
    Call.setSessionFlags .clientDetected ∈ (run false Flow.init noopCut).2 ∧
    Call.setSessionFlags .clientDetected ∉ (run true Flow.init noopWhole).2 ∧
    Call.setSessionFlags .clientDetected ∈ (run true Flow.init noopCut).2 := by
  decide

end Pop3Detector.Segmentation
