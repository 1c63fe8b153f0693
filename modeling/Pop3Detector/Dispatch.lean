import Pop3Detector.Login

namespace Pop3Detector.Dispatch

open Pop3Detector.Bytes Pop3Detector.Patterns Pop3Detector.State Pop3Detector.Server
  Pop3Detector.Pop3ClientDetector Pop3Detector.Session Pop3Detector.Segmentation Pop3Detector.Login

/-- In AUTH, `AUTH ` matches id 4, the value of `PATTERN_AUTHEOC`, so only line ends are skipped:
an argument that starts no command ends detection as not POP3, with no application reported. -/
theorem auth_loop (beyond : Bool) (n : Nat) (dd : POP3DetectorData) (hs : dd.client.state = .auth)
    (arg : List UInt8) (c : UInt8) (hc : isCrLf c = false) (harg : firstPrefix (c :: arg) = 0) :
    commandLoop beyond (n + 2) dd (ascii "AUTH " ++ c :: arg) =
      ({ dd with needContinue := false }, [.setSessionFlags .clientDetected], .success) := by
  have hidx : patternIndex (ascii "AUTH " ++ c :: arg) = ClientAppPatternIndex.toNat .authEoc := by
    rw [patternIndex_eq, firstPrefix_append (by decide)]
    decide
  have hcmd : command beyond (ClientAppPatternIndex.toNat .authEoc) dd.client (c :: arg) =
      (dd.client, [], c :: arg) := by
    simp only [command, hs]
    rw [authCommand, if_neg (by decide), if_neg (by decide), if_neg (by decide),
      if_pos (by decide)]
    simp [skipCrLf, hc]
  rw [commandLoop_succ beyond _ dd (by simp [show ascii "AUTH " = [65, 85, 84, 72, 32] from rfl])
    (by rw [hidx]; decide), hidx, show (ascii "AUTH " ++ c :: arg).drop
      (patternOf (ClientAppPatternIndex.toNat .authEoc)).length = c :: arg from List.drop_left' rfl]
  simp only [hcmd, commandLoop, if_neg (List.cons_ne_nil c arg), patternIndex_eq, harg, if_true,
    List.nil_append]

/-- In AUTH, `PASS` with an argument moves the client to TRANS, whether or not a `USER` was
accepted before, and `AUTH` with an argument that starts no command ends detection as not POP3. -/
theorem pass_enters_trans (beyond : Bool) (dd : POP3DetectorData) (hs : dd.client.state = .auth)
    (pw : List UInt8) (hne : pw ≠ []) (hpw : ∀ c ∈ pw, isUsernameChar c = true)
    (hlen : pw.length < usernameSize - 1) (arg : List UInt8) (c : UInt8) (hc : isCrLf c = false)
    (harg : firstPrefix (c :: arg) = 0) :
    (Pop3ClientDetector.validate beyond (some dd) .fromInitiator
      (ascii "PASS " ++ pw ++ ascii "\r\n")).1.map (·.client.state) = some .trans ∧
    (Pop3ClientDetector.validate beyond (some dd) .fromInitiator (ascii "AUTH " ++ c :: arg)).2 =
      ((initFlags dd).2 ++ [.setSessionFlags .clientDetected], .success) := by
  have hs' : (initFlags dd).1.client.state = .auth := by rw [initFlags_state, hs]
  refine ⟨?_, ?_⟩
  · rw [Pop3ClientDetector.validate, if_neg (by simp [show ascii "PASS " = [80, 65, 83, 83, 32] from rfl]),
      Option.getD_some, if_neg (by decide), pass_loop beyond _ hs' pw hne hpw hlen]
    rfl
  · rw [Pop3ClientDetector.validate, if_neg (by simp [show ascii "AUTH " = [65, 85, 84, 72, 32] from rfl]),
      Option.getD_some, if_neg (by decide),
      show (ascii "AUTH " ++ c :: arg).length = (arg.length + 4) + 2 by
        simp [show ascii "AUTH " = [65, 85, 84, 72, 32] from rfl],
      auth_loop beyond _ _ hs' arg c hc harg]

theorem pass_x_enters_trans :
    POP3DetectorData.init.client.state = .auth ∧ POP3DetectorData.init.client.gotUser = false ∧
    ascii "x" ≠ [] ∧ (∀ c ∈ ascii "x", isUsernameChar c = true) ∧
    (ascii "x").length < usernameSize - 1 ∧ isCrLf 0x78 = false ∧
    firstPrefix (0x78 :: ascii "\r\n") = 0 ∧
    (Pop3ClientDetector.validate false (some POP3DetectorData.init) .fromInitiator
      (ascii "PASS " ++ ascii "x" ++ ascii "\r\n")).1.map (·.client.state) = some .trans ∧
    (Pop3ClientDetector.validate false (some POP3DetectorData.init) .fromInitiator
      (ascii "AUTH " ++ 0x78 :: ascii "\r\n")).2 =
      ((initFlags POP3DetectorData.init).2 ++ [.setSessionFlags .clientDetected], .success) :=
  ⟨rfl, rfl, by decide, by decide, by decide, by decide, by decide,
    pass_enters_trans false _ rfl (ascii "x") (by decide) (by decide) (by decide) (ascii "\r\n") 0x78
      (by decide) (by decide)⟩

/-- `APOP`, then `CAPA` LF and `NOOP` in one payload. -/
def apopCapaNoop : List Event :=
  [.client .fromInitiator (ascii "APOP a b\r\n"), .client .fromInitiator (ascii "CAPA\nNOOP\r\n")]

/-- `APOP`, then `LIST 1`. -/
def apopList : List Event :=
  [.client .fromInitiator (ascii "APOP a b\r\n"), .client .fromInitiator (ascii "LIST 1\r\n")]

/-- The `eoc` lookup reads the flag after the matched pattern's. `CAPA` LF, id 29, reads past the
29-entry table, and whether the next command is parsed depends on the byte found there. `LIST `,
id 12, reads the flag of `LIST` CRLF, so its argument is parsed as a command and detection ends. -/
theorem eoc_lookup_off_by_one :
    patternIndex (ascii "CAPA\n") = 29 ∧ eoc.length = 29 ∧
    (run false Flow.init apopCapaNoop).2.count (.addApp .pop3 .pop3) = 1 ∧
    (run true Flow.init apopCapaNoop).2.count (.addApp .pop3 .pop3) = 2 ∧
    patternIndex (ascii "LIST 1\r\n") = 12 ∧ eoc.getD (12 - 1) false = false ∧
    eoc.getD 12 false = true ∧
    (run false Flow.init apopList).2 = [.setSessionFlags .clientGetsServerPackets,
      .addApp .pop3 .pop3, .stat .pop3Clients, .setSessionFlags .clientDetected] ∧
    (run true Flow.init apopList).2 = [.setSessionFlags .clientGetsServerPackets,
      .addApp .pop3 .pop3, .stat .pop3Clients, .setSessionFlags .clientDetected] := by
  decide

end Pop3Detector.Dispatch
