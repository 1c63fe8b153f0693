import Pop3Detector.Segmentation

namespace Pop3Detector.Capture

open Pop3Detector.Bytes Pop3Detector.Patterns Pop3Detector.State
  Pop3Detector.Pop3ClientDetector Pop3Detector.Segmentation

theorem skipLine_of_crlf {v e : List UInt8} (hv : ∀ c ∈ v, isCrLf c = false)
    (he : ∀ c ∈ e, isCrLf c = true) : skipCrLf (skipToEol (v ++ e)) = [] := by
  have h1 : skipToEol (v ++ e) = e := by
    rw [skipToEol, List.dropWhile_append_of_pos fun c hc => by simp [hv c hc]]
    cases e with
    | nil => rfl
    | cons c e => exact List.dropWhile_cons_of_neg (by simp [he c (List.mem_cons_self _ _)])
  rw [h1, skipCrLf, List.dropWhile_eq_nil_iff]
  exact he

theorem authCommand_username (beyond : Bool) {idx : Nat} (fd : ClientPOP3Data) (s : List UInt8)
    (h : ¬(idx = ClientAppPatternIndex.toNat .apop ∨ idx = ClientAppPatternIndex.toNat .user)) :
    (authCommand beyond idx fd s).1.username = fd.username := by
  unfold authCommand
  rw [if_neg h]
  simp only [apply_ite (fun p : ClientPOP3Data × List UInt8 => p.1.username), ite_self]

/-- The first pass over `USER ` (id 1, the value of `PATTERN_PASS`) or `APOP ` (id 3, the value
of `PATTERN_AUTH`) in AUTH or STLS: neither reaches the name scan, and the line is skipped. -/
theorem user_apop_pass (beyond : Bool) (fd : ClientPOP3Data)
    (hs : fd.state = .auth ∨ fd.state = .stlsCmd) (w : List UInt8) :
    patternIndex (ascii "USER " ++ w) = ClientAppPatternIndex.toNat .pass ∧
    (command beyond (ClientAppPatternIndex.toNat .pass) fd w).1.username = fd.username ∧
    (command beyond (ClientAppPatternIndex.toNat .pass) fd w).2.2 = skipCrLf (skipToEol w) ∧
    patternIndex (ascii "APOP " ++ w) = ClientAppPatternIndex.toNat .auth ∧
    (command beyond (ClientAppPatternIndex.toNat .auth) fd w).1.username = fd.username ∧
    (command beyond (ClientAppPatternIndex.toNat .auth) fd w).2.2 = skipCrLf (skipToEol w) := by
  have hpass : ∀ fd : ClientPOP3Data,
      (authCommand beyond (ClientAppPatternIndex.toNat .pass) fd w).2 = skipCrLf (skipToEol w) := by
    intro fd
    rw [authCommand, if_neg (by decide), if_neg (by decide), if_neg (by decide), if_neg (by decide),
      show eocAt beyond (ClientAppPatternIndex.toNat .pass) = false from rfl, if_neg Bool.false_ne_true]
    split_ifs <;> rfl
  have hauth : ∀ fd : ClientPOP3Data,
      (authCommand beyond (ClientAppPatternIndex.toNat .auth) fd w).2 = skipCrLf (skipToEol w) := by
    intro fd
    rw [authCommand, if_neg (by decide), if_neg (by decide), if_pos rfl]
  refine ⟨by rw [patternIndex_eq, firstPrefix_append (by decide)]; decide, ?_, ?_,
    by rw [patternIndex_eq, firstPrefix_append (by decide)]; decide, ?_, ?_⟩ <;>
    rcases hs with hs | hs <;> simp only [command, hs]
  all_goals first
    | exact authCommand_username beyond _ w (by decide)
    | exact hpass _
    | exact hauth _

theorem commandLoop_one (beyond : Bool) (n : Nat) (dd : POP3DetectorData) {pre w : List UInt8}
    {idx : Nat} (hidx : patternIndex (pre ++ w) = idx) (hi : idx ≠ 0)
    (hdrop : (pre ++ w).drop (patternOf idx).length = w)
    (hcur : (command beyond idx dd.client w).2.2 = []) :
    commandLoop beyond (n + 1) dd (pre ++ w) =
      ({ dd with client := (command beyond idx dd.client w).1 }, (command beyond idx dd.client w).2.1,
        .inprocess) := by
  have h0 : pre ++ w ≠ [] := fun h => hi (by rw [← hidx, h]; rfl)
  rw [commandLoop_succ beyond n dd h0 (hidx ▸ hi)]
  simp only [hidx, hdrop, hcur, commandLoop_nil, List.append_nil]

theorem validate_one_command (beyond : Bool) (dd : POP3DetectorData) {pre w : List UInt8}
    {idx : Nat} (hidx : patternIndex (pre ++ w) = idx) (hi : idx ≠ 0)
    (hdrop : (pre ++ w).drop (patternOf idx).length = w)
    (hcur : (command beyond idx (initFlags dd).1.client w).2.2 = []) :
    (Pop3ClientDetector.validate beyond (some dd) .fromInitiator (pre ++ w)).1.map
      (·.client.username) = some (command beyond idx (initFlags dd).1.client w).1.username := by
  have h0 : pre ++ w ≠ [] := fun h => hi (by rw [← hidx, h]; rfl)
  obtain ⟨n, hn⟩ : ∃ n, (pre ++ w).length = n + 1 :=
    ⟨(pre ++ w).length - 1, by have := List.length_pos.mpr h0; omega⟩
  rw [Pop3ClientDetector.validate, if_neg h0, Option.getD_some, if_neg (by decide), hn,
    commandLoop_one beyond n _ hidx hi hdrop hcur]
  rfl

theorem scanUsername_full {name : List UInt8} (h : usernameSize - 1 ≤ name.length) :
    ∀ (s : List UInt8) (foundTick : Bool), (scanUsername s name foundTick).1 = none
  | [], _ => rfl
  | _ :: _, _ => by rw [scanUsername, if_neg (by omega)]

theorem scanUsername_long {w : List UInt8} (hw : ∀ c ∈ w, isUsernameChar c = true) (s : List UInt8) :
    ∀ name : List UInt8, usernameSize - 1 ≤ name.length + w.length →
      (scanUsername (w ++ s) name false).1 = none := by
  induction w with
  | nil => exact fun name h => scanUsername_full h _ _
  | cons c w ih =>
    intro name h
    by_cases hn : name.length < usernameSize - 1
    · rw [List.cons_append, scanUsername, if_pos hn, if_pos (hw c (List.mem_cons_self _ _)),
        if_neg Bool.false_ne_true]
      exact ih (fun x hx => hw x (List.mem_cons_of_mem _ hx)) _
        (by simp only [List.length_append, List.length_singleton, List.length_cons] at h ⊢; omega)
    · exact scanUsername_full (by omega) _ _

/-- `USER ` u t and `APOP ` u SP digest CRLF, in AUTH or STLS, leave the stored username as it
was, whatever the name; and the name scan that neither reaches stores no name of 248 bytes or
more. -/
theorem username_not_captured (beyond : Bool) (dd : POP3DetectorData)
    (hs : dd.client.state = .auth ∨ dd.client.state = .stlsCmd) (u : List UInt8)
    (hu : ∀ c ∈ u, isCrLf c = false) :
    (∀ t, t = cr ∨ t = lf ∨ t = sp →
      (Pop3ClientDetector.validate beyond (some dd) .fromInitiator (ascii "USER " ++ u ++ [t])).1.map
        (·.client.username) = some dd.client.username) ∧
    (∀ digest, (∀ c ∈ digest, isCrLf c = false) →
      (Pop3ClientDetector.validate beyond (some dd) .fromInitiator
        (ascii "APOP " ++ u ++ sp :: digest ++ [cr, lf])).1.map (·.client.username) =
        some dd.client.username) ∧
    (∀ w s, (∀ c ∈ w, isUsernameChar c = true) → usernameSize - 1 ≤ w.length →
      (scanUsername (w ++ s) [] false).1 = none) := by
  have hs' : (initFlags dd).1.client.state = .auth ∨ (initFlags dd).1.client.state = .stlsCmd := by
    rw [initFlags_state]; exact hs
  refine ⟨fun t ht => ?_, fun digest hd => ?_,
    fun w s hw hl => scanUsername_long hw s [] (by simpa using hl)⟩
  · obtain ⟨hidx, hname, hcur, -⟩ := user_apop_pass beyond _ hs' (u ++ [t])
    have hline : skipCrLf (skipToEol (u ++ [t])) = [] := by
      rcases ht with rfl | rfl | rfl
      · exact skipLine_of_crlf hu (by decide)
      · exact skipLine_of_crlf hu (by decide)
      · rw [← List.append_nil (u ++ [sp])]
        exact skipLine_of_crlf (by simpa [or_imp, forall_and] using ⟨hu, rfl⟩) (by simp)
    rw [List.append_assoc, validate_one_command beyond dd hidx (by decide) (List.drop_left' rfl)
      (hcur.trans hline), hname, initFlags_username]
  · obtain ⟨-, -, -, hidx, hname, hcur⟩ :=
      user_apop_pass beyond _ hs' ((u ++ sp :: digest) ++ [cr, lf])
    have hline : skipCrLf (skipToEol ((u ++ sp :: digest) ++ [cr, lf])) = [] :=
      skipLine_of_crlf (by simpa [or_imp, forall_and] using ⟨hu, rfl, hd⟩) (by decide)
    rw [List.append_assoc, List.append_assoc, ← List.append_assoc u,
      validate_one_command beyond dd hidx (by decide) (List.drop_left' rfl) (hcur.trans hline),
      hname, initFlags_username]

theorem user_alice_not_captured :
    (Pop3ClientDetector.validate false (some POP3DetectorData.init) .fromInitiator
      (ascii "USER " ++ ascii "alice" ++ [cr])).1.map (·.client.username) = some none :=
  (username_not_captured false _ (.inl rfl) _ (by decide)).1 cr (.inl rfl)

end Pop3Detector.Capture
