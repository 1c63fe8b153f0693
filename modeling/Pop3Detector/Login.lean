import Pop3Detector.Capture

namespace Pop3Detector.Login

open Pop3Detector.Bytes Pop3Detector.Patterns Pop3Detector.State Pop3Detector.Server
  Pop3Detector.Pop3ClientDetector Pop3Detector.Pop3ServiceDetector Pop3Detector.Session
  Pop3Detector.Segmentation Pop3Detector.Capture

theorem line_length (p w : List UInt8) : (p ++ w ++ ascii "\r\n").length = (p.length + w.length + 1) + 1 := by
  simp only [List.length_append, show ascii "\r\n" = [cr, lf] from rfl, List.length_cons,
    List.length_nil]

theorem authCommand_skip (beyond : Bool) (idx : Nat) (fd : ClientPOP3Data) (s : List UInt8)
    (h : ¬(idx = ClientAppPatternIndex.toNat .stlsEoc ∨ idx = ClientAppPatternIndex.toNat .stlsEoc2) ∧
      ¬(idx = ClientAppPatternIndex.toNat .apop ∨ idx = ClientAppPatternIndex.toNat .user) ∧
      idx ≠ ClientAppPatternIndex.toNat .auth ∧
      ¬(idx = ClientAppPatternIndex.toNat .authEoc ∨ idx = ClientAppPatternIndex.toNat .authEoc2 ∨
        idx = ClientAppPatternIndex.toNat .authEoc3 ∨ idx = ClientAppPatternIndex.toNat .authEoc4))
    (hp : ¬(idx = ClientAppPatternIndex.toNat .pass ∧ fd.gotUser = true)) :
    authCommand beyond idx fd s = (fd, skipCrLf (if eocAt beyond idx then s else skipToEol s)) := by
  rw [authCommand, if_neg h.1, if_neg h.2.1, if_neg h.2.2.1, if_neg h.2.2.2, if_neg hp]

theorem user_loop (beyond : Bool) (dd : POP3DetectorData) (hs : dd.client.state = .auth)
    (hg : dd.client.gotUser = false) (x : List UInt8) (hx : ∀ c ∈ x, isCrLf c = false) :
    commandLoop beyond (ascii "USER " ++ x ++ ascii "\r\n").length dd
      (ascii "USER " ++ x ++ ascii "\r\n") = (dd, [], .inprocess) := by
  obtain ⟨hidx, -⟩ := user_apop_pass beyond dd.client (.inl hs) (x ++ ascii "\r\n")
  have hcmd : command beyond (ClientAppPatternIndex.toNat .pass) dd.client (x ++ ascii "\r\n") =
      (dd.client, [], []) := by
    rw [command, hs]
    rw [authCommand_skip beyond _ dd.client _ (by decide) (by simp [hg]), show eocAt beyond (ClientAppPatternIndex.toNat .pass) = false from rfl, if_neg Bool.false_ne_true,
      skipLine_of_crlf hx (by decide)]
  rw [line_length, List.append_assoc, commandLoop_one beyond _ dd hidx (by decide) (List.drop_left' rfl)
    (by rw [hcmd]), hcmd]

theorem apop_loop (beyond : Bool) (dd : POP3DetectorData) (hs : dd.client.state = .auth)
    (x d : List UInt8) (hx : ∀ c ∈ x, isCrLf c = false) (hd : ∀ c ∈ d, isCrLf c = false) :
    commandLoop beyond (ascii "APOP " ++ (x ++ sp :: d) ++ ascii "\r\n").length dd
      (ascii "APOP " ++ (x ++ sp :: d) ++ ascii "\r\n") =
      ({ dd with client.state := .trans }, [], .inprocess) := by
  obtain ⟨-, -, -, hidx, -⟩ := user_apop_pass beyond dd.client (.inl hs) (x ++ sp :: d ++ ascii "\r\n")
  have hcmd : command beyond (ClientAppPatternIndex.toNat .auth) dd.client (x ++ sp :: d ++ ascii "\r\n") =
      ({ dd.client with state := .trans }, [], []) := by
    simp only [command, hs]
    rw [authCommand, if_neg (by decide), if_neg (by decide), if_pos rfl, skipLine_of_crlf (by simpa [or_imp, forall_and] using ⟨hx, rfl, hd⟩) (by decide)]
  rw [line_length, List.append_assoc, commandLoop_one beyond _ dd hidx (by decide) (List.drop_left' rfl)
    (by rw [hcmd]), hcmd]

/-- In AUTH, `PASS ` matches id 2, the value of `PATTERN_APOP`: its argument is scanned as a
username and the client moves to TRANS. -/
theorem pass_loop (beyond : Bool) (dd : POP3DetectorData) (hs : dd.client.state = .auth)
    (pw : List UInt8) (hne : pw ≠ []) (hpw : ∀ c ∈ pw, isUsernameChar c = true)
    (hlen : pw.length < usernameSize - 1) :
    commandLoop beyond (ascii "PASS " ++ pw ++ ascii "\r\n").length dd
      (ascii "PASS " ++ pw ++ ascii "\r\n") =
      ({ dd with client.username := some pw, client.state := .trans }, [], .inprocess) := by
  have hidx : patternIndex (ascii "PASS " ++ (pw ++ ascii "\r\n")) =
      ClientAppPatternIndex.toNat .apop := by
    rw [patternIndex_eq, firstPrefix_append (by decide)]
    decide
  have hscan : scanUsername (pw ++ ascii "\r\n") [] false = (some pw, ascii "\r\n") := by
    rw [scanUsername_chars hpw _ _ (by simpa using hlen), List.nil_append,
      show ascii "\r\n" = cr :: lf :: [] from rfl, scanUsername_stop (.inl rfl) hlen, if_neg hne]
  have hcmd : command beyond (ClientAppPatternIndex.toNat .apop) dd.client (pw ++ ascii "\r\n") =
      ({ dd.client with username := some pw, state := .trans }, [], []) := by
    simp only [command, hs, authCommand, hscan]
    rfl
  rw [line_length, List.append_assoc, commandLoop_one beyond _ dd hidx (by decide) (List.drop_left' rfl)
    (by rw [hcmd]), hcmd]

theorem step_command_line (beyond : Bool) (f : Flow) {data : List UInt8} {dd : POP3DetectorData}
    {st : Status} (h0 : data ≠ [])
    (hl : commandLoop beyond data.length (initFlags f.record).1 data = (dd, [], st)) :
    step beyond f (.client .fromInitiator data) =
      (Session.Flow.mk (some dd) f.serviceDetected, (initFlags f.record).2) := by
  have hq : (initFlags f.record).2.any Call.reportsService = false :=
    List.any_eq_false.mpr fun c hc => by simp [(Call.quiet_spec (initFlags_quiet _ c hc)).2.1]
  simp only [step, dispatch, Pop3ClientDetector.validate, if_neg h0,
    if_neg (show Direction.fromInitiator ≠ .fromResponder by decide)]
  rw [show f.blob.getD POP3DetectorData.init = f.record from rfl, hl, List.append_nil, hq,
    Bool.or_false]

theorem greeting_reports (dd : POP3DetectorData) (hs : dd.server.state = .connect)
    (hn : dd.needContinue = true) (hst : dd.client.state ≠ .stlsCmd) (u : List UInt8)
    (hu : dd.client.username = some u) :
    userReports (Pop3ServiceDetector.validate false (some dd) .fromResponder
      (ascii "+OK\r\n")).2.1 = [(u, .pop3, true)] := by
  simp only [Pop3ServiceDetector.validate, Option.getD_some, hn,
    if_neg (show ¬(ascii "+OK\r\n" = [] ∨ Direction.fromResponder ≠ .fromResponder) by decide)]
  simp only [Bool.true_eq_false, false_and, if_false, if_true, userReports_append,
    conclude_userReports, (pop3ServerValidate_ok dd (by rw [hs]; decide) true).1]
  simp [correlate, hst, hu, Call.addUserArgs]
  split <;> rfl

/-- Whatever bytes follow `PASS `, the server's `+OK` reports them as the user's name. -/
theorem pass_argument_reported (beyond : Bool) (pw : List UInt8) (hne : pw ≠ [])
    (hpw : ∀ c ∈ pw, isUsernameChar c = true) (hlen : pw.length < usernameSize - 1) :
    userReports (run beyond Flow.init [.client .fromInitiator (ascii "PASS " ++ pw ++ ascii "\r\n"),
      .service .fromResponder (ascii "+OK\r\n")]).2 = [(pw, .pop3, true)] := by
  have hne' : ascii "PASS " ++ pw ++ ascii "\r\n" ≠ [] := by
    simp [show ascii "PASS " = [80, 65, 83, 83, 32] from rfl]
  have hclient : ∃ dd, Pop3ClientDetector.validate beyond none .fromInitiator
      (ascii "PASS " ++ pw ++ ascii "\r\n") =
        (some dd, [.setSessionFlags .clientGetsServerPackets], .inprocess) ∧
      dd.server.state = .connect ∧ dd.needContinue = true ∧ dd.client.state = .trans ∧
      dd.client.username = some pw := by
    refine ⟨{ (initFlags POP3DetectorData.init).1 with
      client.username := some pw, client.state := .trans }, ?_, rfl, rfl, rfl, rfl⟩
    rw [Pop3ClientDetector.validate, if_neg hne', Option.getD_none, if_neg (by decide)]
    rw [pass_loop beyond _ rfl pw hne hpw hlen]
    rfl
  obtain ⟨dd, h1, hs, hn, hst, hu⟩ := hclient
  simp only [run, step, dispatch, Flow.init, h1, userReports_append, List.any_cons, List.any_nil,
    Call.reportsService, Bool.or_false]
  rw [greeting_reports dd hs hn (by rw [hst]; decide) pw hu]
  rfl

theorem pass_a_reported : ascii "a" ≠ [] ∧ (∀ c ∈ ascii "a", isUsernameChar c = true) ∧
    (ascii "a").length < usernameSize - 1 ∧
    userReports (run false Flow.init [.client .fromInitiator (ascii "PASS " ++ ascii "a" ++ ascii "\r\n"),
      .service .fromResponder (ascii "+OK\r\n")]).2 = [(ascii "a", .pop3, true)] :=
  ⟨by decide, by decide, by decide,
    pass_argument_reported false (ascii "a") (by decide) (by decide) (by decide)⟩

/-- Every `add_user` call is made on a status line accepted while the client holds a username
outside STLS: it reports that username, with success iff the line is `+OK`, and releases it. -/
theorem step_userReports (beyond : Bool) (f : Flow) (e : Event) :
    userReports (step beyond f e).2 = [] ∨
    ∃ data u error rest, IsResponse e data ∧ f.record.client.username = some u ∧
      f.record.client.state ≠ .stlsCmd ∧ statusPrefix data = some (error, rest) ∧
      0 ≤ (pop3CheckLine rest).1 ∧ userReports (step beyond f e).2 = [(u, .pop3, !error)] ∧
      (step beyond f e).1.record.client.username = none := by
  obtain ⟨dd, hs, hu, -, hcase⟩ := step_cases beyond f e
  rcases hcase with ⟨-, hc⟩ | ⟨data, -, -, hc⟩ |
    ⟨data, server, pre, post, he, -, hpre, hcalls, hpost⟩
  · exact .inl (userReports_eq_nil fun c h => (Call.quiet_spec (hc c h)).1)
  · exact .inl (userReports_eq_nil fun c h => (hc c h).elim LoopCall.addUserArgs
      fun hq => (Call.quiet_spec hq).1)
  · have hpre' : userReports pre = [] :=
      userReports_eq_nil fun c h => (Call.quiet_spec (hpre c h)).1
    have hpost' : userReports post = [] := by
      rcases hpost with ⟨-, hp⟩ | ⟨-, -, -, -, -, -, -, a, ha, rfl⟩
      · refine userReports_eq_nil fun c h => ?_
        rcases hp c h with hq | ⟨rfl, -⟩
        · exact (Call.quiet_spec hq).1
        · rfl
      · rw [userReports_cons, Call.addUserArgs_of_reportsService ha]
        rfl
    have hrec : (step beyond f e).1.record.client.username =
        (pop3ServerValidate dd data server).data.client.username := by
      rcases hpost with ⟨hr, -⟩ | ⟨-, -, -, -, -, -, hr, -⟩ <;> rw [hr]
    rw [hcalls, userReports_append, userReports_append, hpre', hpost', List.nil_append,
      List.append_nil, hrec]
    rcases pop3ServerValidate_userReports dd data server with h | ⟨u, error, rest, h⟩
    · exact .inl h
    · exact .inr ⟨data, u, error, rest, he, hu ▸ h.1, hs ▸ h.2.1, h.2.2⟩

theorem initFlags_userReports (dd : POP3DetectorData) : userReports (initFlags dd).2 = [] :=
  userReports_eq_nil fun c h => (Call.quiet_spec (initFlags_quiet _ c h)).1

theorem step_userReports_none (beyond : Bool) (f : Flow) (e : Event)
    (h : f.record.client.username = none) : userReports (step beyond f e).2 = [] :=
  (step_userReports beyond f e).resolve_right fun ⟨_, _, _, _, _, hu, _⟩ => by
    rw [h] at hu
    cases hu

/-- A status line accepted outside STLS while a username is stored reports that username, with
success iff the line is `+OK`, and releases it. -/
theorem step_reports_stored (beyond : Bool) (f : Flow) {e : Event} {data rest u : List UInt8}
    {error : Bool} (he : e = .client .fromResponder data ∨
      (e = .service .fromResponder data ∧ (f.record.needContinue = true ∨ f.serviceDetected = false)))
    (hs : f.record.server.state ≠ .continue) (hu : f.record.client.username = some u)
    (hst : f.record.client.state ≠ .stlsCmd) (hlen : pop3Err.length + 1 ≤ data.length)
    (hsp : statusPrefix data = some (error, rest)) (hcl : 0 ≤ (pop3CheckLine rest).1) :
    userReports (step beyond f e).2 = [(u, .pop3, !error)] ∧
      (step beyond f e).1.record.client.username = none := by
  have h0 : data ≠ [] := by
    rintro rfl
    exact absurd hlen (by decide)
  have key : ∀ dd : POP3DetectorData, dd.server = f.record.server → dd.client.username = some u →
      dd.client.state ≠ .stlsCmd → ∀ server,
      userReports (pop3ServerValidate dd data server).calls = [(u, .pop3, !error)] ∧
      (pop3ServerValidate dd data server).data.client.username = none := by
    intro dd hsv hdu hds server
    obtain ⟨hc, hcc, -⟩ := pop3ServerValidate_accept dd server (hsv ▸ hs) hlen hsp hcl
    obtain ⟨h1, h2⟩ := correlate_of_ne_stls { dd with server.state := .response, server.error := error } hds
    rw [hc, hcc, h1]
    exact ⟨by rw [hdu]; rfl, h2⟩
  rcases he with rfl | ⟨rfl, hc⟩
  · obtain ⟨h1, h2⟩ := key (initFlags (f.blob.getD POP3DetectorData.init)).1 (initFlags_server _)
      ((initFlags_username _).trans hu) ((initFlags_state _).trans_ne hst) false
    simp only [step, dispatch, Pop3ClientDetector.validate, if_neg h0, if_true]
    refine ⟨?_, h2⟩
    rw [userReports_append, userReports_append, h1,
      userReports_eq_nil fun c h => (Call.quiet_spec (initFlags_quiet _ c h)).1]
    split <;> rfl
  · obtain ⟨hrec, hcalls⟩ := step_service beyond f data h0 hc
    obtain ⟨h1, h2⟩ := key f.record rfl hu hst true
    refine ⟨?_, by rw [hrec, (conclude_data _ _).1, h2]⟩
    rw [hcalls, userReports_append, userReports_append, h1, conclude_userReports]
    split <;> rfl

/-- A status line, `+OK` CRLF or `-ERR` CRLF. -/
def statusLine (ok : Bool) : List UInt8 := if ok then ascii "+OK\r\n" else ascii "-ERR\r\n"

theorem statusLine_accepted (ok : Bool) :
    pop3Err.length + 1 ≤ (statusLine ok).length ∧
    statusPrefix (statusLine ok) = some (!ok, ascii "\r\n") ∧ 0 ≤ (pop3CheckLine (ascii "\r\n")).1 := by
  cases ok <;> decide

/-- The greeting `+OK` CRLF, `USER` with a name, its `+OK`, `PASS` with a password, and the
status line that answers it. -/
def loginDialogue (user pass : List UInt8) (ok : Bool) : List Event :=
  [.service .fromResponder (ascii "+OK\r\n"), .client .fromInitiator (ascii "USER " ++ user ++ ascii "\r\n"),
    .service .fromResponder (ascii "+OK\r\n"), .client .fromInitiator (ascii "PASS " ++ pass ++ ascii "\r\n"),
    .service .fromResponder (statusLine ok)]

/-- The greeting `+OK` CRLF, `APOP` with a name and a digest, and the status line that answers
it. -/
def apopDialogue (user digest : List UInt8) (ok : Bool) : List Event :=
  [.service .fromResponder (ascii "+OK\r\n"),
    .client .fromInitiator (ascii "APOP " ++ (user ++ sp :: digest) ++ ascii "\r\n"),
    .service .fromResponder (statusLine ok)]

/-- In a dialogue delivered line by line, `USER x` ... `PASS y` reports the password `y` as the
user's name, with the right outcome, and `APOP x d` reports nothing. -/
theorem login_reports_password (beyond : Bool) (x y d : List UInt8) (hx : ∀ c ∈ x, isCrLf c = false)
    (hne : y ≠ []) (hy : ∀ c ∈ y, isUsernameChar c = true) (hlen : y.length < usernameSize - 1)
    (hd : ∀ c ∈ d, isCrLf c = false) (ok : Bool) :
    userReports (run beyond Flow.init (loginDialogue x y ok)).2 = [(y, .pop3, ok)] ∧
    userReports (run beyond Flow.init (apopDialogue x d ok)).2 = [] := by
  obtain ⟨hl, hsp, hcl⟩ := statusLine_accepted ok
  have hline : ∀ p w : List UInt8, p ++ w ++ ascii "\r\n" ≠ [] := by simp [show ascii "\r\n" = [cr, lf] from rfl]
  let f1 := (step beyond Flow.init (.service .fromResponder (ascii "+OK\r\n"))).1
  have r1 := step_userReports_none beyond Flow.init (.service .fromResponder (ascii "+OK\r\n")) rfl
  refine ⟨?_, ?_⟩
  · rw [loginDialogue, run_cons, run_cons, step_command_line beyond f1 (hline _ _)
      (user_loop beyond _ rfl rfl x hx)]
    let f3 := (step beyond (Session.Flow.mk (some (initFlags f1.record).1) f1.serviceDetected)
      (.service .fromResponder (ascii "+OK\r\n"))).1
    rw [run_cons, run_cons, step_command_line beyond f3 (hline _ _) (pass_loop beyond _ rfl y hne hy hlen),
      run_cons, run_nil]
    let f4 := Session.Flow.mk
      (some { (initFlags f3.record).1 with client.username := some y, client.state := .trans })
      f3.serviceDetected
    have h5 := step_reports_stored beyond f4 (.inr ⟨rfl, .inr rfl⟩)
      (by rw [show f4.record.server.state = .response from rfl]; decide) rfl
      (by rw [show f4.record.client.state = .trans from rfl]; decide) hl hsp hcl
    have r3 := step_userReports_none beyond (Session.Flow.mk (some (initFlags f1.record).1) f1.serviceDetected)
      (.service .fromResponder (ascii "+OK\r\n")) rfl
    simp only [userReports_append, r1, r3, initFlags_userReports, h5.1, Bool.not_not, userReports_nil,
      List.nil_append, List.append_nil]
  · rw [apopDialogue, run_cons, run_cons, step_command_line beyond f1 (hline _ _)
      (apop_loop beyond _ rfl x d hx hd), run_cons, run_nil]
    have r3 := step_userReports_none beyond
      (Session.Flow.mk (some { (initFlags f1.record).1 with client.state := .trans }) f1.serviceDetected)
      (.service .fromResponder (statusLine ok)) rfl
    simp only [userReports_append, r1, r3, initFlags_userReports, userReports_nil, List.append_nil]

theorem alice_secret_reported :
    (∀ c ∈ ascii "alice", isCrLf c = false) ∧ ascii "secret" ≠ [] ∧
    (∀ c ∈ ascii "secret", isUsernameChar c = true) ∧ (ascii "secret").length < usernameSize - 1 ∧
    (∀ c ∈ ascii "d", isCrLf c = false) ∧
    userReports (run false Flow.init (loginDialogue (ascii "alice") (ascii "secret") false)).2 =
      [(ascii "secret", .pop3, false)] ∧
    userReports (run false Flow.init (apopDialogue (ascii "alice") (ascii "d") false)).2 = [] :=
  ⟨by decide, by decide, by decide, by decide, by decide,
    login_reports_password false _ _ _ (by decide) (by decide) (by decide) (by decide) (by decide) false⟩

end Pop3Detector.Login
