import Pop3Detector.Session

namespace Pop3Detector.Body

open Pop3Detector.Bytes Pop3Detector.State Pop3Detector.Server Pop3Detector.Pop3ServiceDetector
  Pop3Detector.Session

/-- Lines of a multi-line response body, each ended by CRLF. -/
def lines (ls : List (List UInt8)) : List UInt8 := ls.flatMap (· ++ [cr, lf])

@[simp] theorem lines_nil : lines [] = [] := rfl

theorem lines_cons (l : List UInt8) (ls : List (List UInt8)) :
    lines (l :: ls) = l ++ cr :: lf :: lines ls := by
  simp [lines]

theorem lines_append (ls ls' : List (List UInt8)) : lines (ls ++ ls') = lines ls ++ lines ls' := by
  simp [lines]

theorem lines_eq_nil {ls : List (List UInt8)} : lines ls = [] ↔ ls = [] := by
  cases ls <;> simp [lines_cons]

theorem pop3Term_eq : pop3Term = ascii "." ++ [cr, lf] := rfl

theorem not_term_line {l : List UInt8} (rest : List UInt8) (h : ¬(l = ascii "." ∧ rest = [])) :
    ¬((l ++ cr :: lf :: rest).length = pop3Term.length ∧
      pop3Term.isPrefixOf (l ++ cr :: lf :: rest) = true) := by
  rintro ⟨hlen, hp⟩
  rcases l with _ | ⟨c, _ | ⟨d, l⟩⟩
  · simp [pop3Term_eq, ascii, cr, List.isPrefixOf] at hp
    exact absurd hp.1 (by decide)
  · rcases rest with _ | ⟨x, rest⟩
    · simp [pop3Term_eq, ascii, cr, lf] at hp
      exact h ⟨by rw [← hp]; rfl, rfl⟩
    · simp [pop3Term_eq, ascii] at hlen
  · simp [pop3Term_eq, ascii] at hlen
    omega

theorem not_term_printable {u : List UInt8} (hu : ∀ c ∈ u, isprint c = true) :
    ¬(u.length = pop3Term.length ∧ pop3Term.isPrefixOf u = true) := by
  rintro ⟨hlen, hp⟩
  have hu' : u = pop3Term :=
    ((List.isPrefixOf_iff_prefix.mp hp).eq_of_length hlen.symm).symm
  exact absurd (hu cr (by rw [hu']; decide)) (by decide)

theorem not_term_cr (u : List UInt8) :
    ¬((u ++ [cr]).length = pop3Term.length ∧ pop3Term.isPrefixOf (u ++ [cr]) = true) := by
  rintro ⟨hlen, hp⟩
  have he := congrArg List.getLast? ((List.isPrefixOf_iff_prefix.mp hp).eq_of_length hlen.symm)
  simp only [List.getLast?_append, List.getLast?_singleton, Option.or_some] at he
  exact absurd he (by decide)

theorem continueLoop_fuel (pd : ServicePOP3Data) : ∀ (fuel fuel' : Nat) (data : List UInt8),
    data.length ≤ fuel → data.length ≤ fuel' → continueLoop fuel pd data = continueLoop fuel' pd data
  | 0, fuel', data, h, _ => by
    rw [List.eq_nil_of_length_eq_zero (Nat.le_zero.mp h)]
    cases fuel' <;> rfl
  | fuel + 1, 0, data, _, h => by
    rw [List.eq_nil_of_length_eq_zero (Nat.le_zero.mp h)]
    rfl
  | fuel + 1, fuel' + 1, data, h, h' => by
    rw [continueLoop, continueLoop]
    by_cases h0 : data = []
    · rw [if_pos h0, if_pos h0]
    rw [if_neg h0, if_neg h0]
    by_cases ht : data.length = pop3Term.length ∧ pop3Term.isPrefixOf data = true
    · rw [if_pos ht, if_pos ht]
    rw [if_neg ht, if_neg ht]
    generalize hcl : pop3CheckLine data = line
    obtain ⟨r, rest⟩ := line
    dsimp only
    by_cases hr : r < 0
    · rw [if_pos hr, if_pos hr]
    rw [if_neg hr, if_neg hr]
    have hlt := pop3CheckLine_length_lt h0 (by rw [hcl]; omega)
    rw [hcl] at hlt
    exact continueLoop_fuel pd fuel fuel' rest (by simp only at hlt; omega) (by simp only at hlt; omega)

@[simp] theorem continueLoop_nil (fuel : Nat) (pd : ServicePOP3Data) :
    continueLoop fuel pd [] = (pd, 0) := by
  cases fuel <;> rfl

theorem continueLoop_line (pd : ServicePOP3Data) {l : List UInt8} (hl : ∀ c ∈ l, isprint c = true)
    (rest : List UInt8) (h : ¬(l = ascii "." ∧ rest = [])) (fuel : Nat) :
    continueLoop (fuel + 1) pd (l ++ cr :: lf :: rest) = continueLoop fuel pd rest := by
  rw [continueLoop, if_neg (by simp), if_neg (not_term_line rest h), pop3CheckLine_line rest hl]
  rfl

theorem continueLoop_lines (pd : ServicePOP3Data) : ∀ (ls : List (List UInt8)) (rest : List UInt8),
    (∀ l ∈ ls, ∀ c ∈ l, isprint c = true) → ¬(rest = [] ∧ ls.getLast? = some (ascii ".")) →
    continueLoop (lines ls ++ rest).length pd (lines ls ++ rest) = continueLoop rest.length pd rest
  | [], _, _, _ => rfl
  | l :: ls, rest, hl, h => by
    have hlast : ¬(l = ascii "." ∧ lines ls ++ rest = []) := by
      rintro ⟨rfl, he⟩
      obtain ⟨h1, rfl⟩ := List.append_eq_nil.mp he
      exact h ⟨rfl, by rw [lines_eq_nil.mp h1]; rfl⟩
    have h' : ¬(rest = [] ∧ ls.getLast? = some (ascii ".")) := by
      rintro ⟨rfl, he⟩
      refine h ⟨rfl, ?_⟩
      rw [List.getLast?_cons, he]
      rfl
    have hlen : (l ++ cr :: lf :: (lines ls ++ rest)).length =
        (l.length + 1 + (lines ls ++ rest).length) + 1 := by
      simp only [List.length_append, List.length_cons]
      omega
    rw [lines_cons, List.append_assoc, List.cons_append, List.cons_append, hlen,
      continueLoop_line pd (hl l (List.mem_cons_self _ _)) _ hlast,
      continueLoop_fuel pd _ _ _ (by omega) le_rfl]
    exact continueLoop_lines pd ls rest (fun l' h => hl l' (List.mem_cons_of_mem _ h)) h'

theorem continueLoop_open (pd : ServicePOP3Data) {u : List UInt8} (hu : ∀ c ∈ u, isprint c = true) :
    continueLoop u.length pd u = (pd, 0) := by
  have hcl : pop3CheckLine u = (1, []) := by
    simpa using pop3CheckLine_printable_append [] hu
  rcases u with _ | ⟨c, u'⟩
  · rfl
  · rw [List.length_cons, continueLoop, if_neg (List.cons_ne_nil _ _),
      if_neg (not_term_printable hu), hcl]
    exact (if_neg (by decide)).trans (continueLoop_nil _ _)

theorem continue_open (dd : POP3DetectorData) (hs : dd.server.state = .continue) (server : Bool)
    {ls : List (List UInt8)} (hl : ∀ l ∈ ls, ∀ c ∈ l, isprint c = true) {u : List UInt8}
    (hu : ∀ c ∈ u, isprint c = true) (h : ¬(u = [] ∧ ls.getLast? = some (ascii "."))) :
    pop3ServerValidate dd (lines ls ++ u) server = ⟨dd, [], 0, false⟩ := by
  unfold pop3ServerValidate
  rw [hs]
  dsimp only
  rw [continueLoop_lines _ ls u hl h, continueLoop_open _ hu]

theorem continue_terminated (dd : POP3DetectorData) (hs : dd.server.state = .continue)
    (server : Bool) (ls : List (List UInt8)) (hl : ∀ l ∈ ls, ∀ c ∈ l, isprint c = true) :
    pop3ServerValidate dd (lines ls ++ pop3Term) server =
      ⟨{ dd with server.count := incr dd.server.count, server.state := .response }, [], 0, false⟩ := by
  unfold pop3ServerValidate
  rw [hs]
  dsimp only
  rw [continueLoop_lines _ _ _ hl (by simp [pop3Term_eq])]
  rfl

theorem continue_unterminated (dd : POP3DetectorData) (hs : dd.server.state = .continue)
    (server : Bool) {ls : List (List UInt8)} (hl : ∀ l ∈ ls, ∀ c ∈ l, isprint c = true)
    (h : ls.getLast? ≠ some (ascii ".")) :
    pop3ServerValidate dd (lines ls) server = ⟨dd, [], 0, false⟩ := by
  simpa using continue_open dd hs server hl (u := []) (by simp) (by simp [h])

/-- In `POP3_STATE_CONTINUE`, a payload of whole printable lines ends the response exactly when
its last line is `.`; a `.` line anywhere else is read as a body line. -/
theorem continue_lines (dd : POP3DetectorData) (hs : dd.server.state = .continue) (server : Bool)
    (ls : List (List UInt8)) (hl : ∀ l ∈ ls, ∀ c ∈ l, isprint c = true) :
    pop3ServerValidate dd (lines ls) server =
      if ls.getLast? = some (ascii ".") then
        ⟨{ dd with server.count := incr dd.server.count, server.state := .response }, [], 0, false⟩
      else ⟨dd, [], 0, false⟩ := by
  split_ifs with h
  · rw [← List.dropLast_append_getLast? _ h, lines_append]
    exact continue_terminated dd hs server _ fun l hm => hl l (List.mem_of_mem_dropLast hm)
  · exact continue_unterminated dd hs server hl h

theorem list_body_ends_response :
    ({ POP3DetectorData.init with server.state := .continue } : POP3DetectorData).server.state =
      .continue ∧
    (∀ l ∈ [ascii "1 120", ascii "."], ∀ c ∈ l, isprint c = true) ∧
    pop3ServerValidate { POP3DetectorData.init with server.state := .continue }
        (lines [ascii "1 120", ascii "."]) true =
      if [ascii "1 120", ascii "."].getLast? = some (ascii ".") then
        ⟨{ ({ POP3DetectorData.init with server.state := .continue } : POP3DetectorData) with
          server.count := incr POP3DetectorData.init.server.count, server.state := .response },
          [], 0, false⟩
      else ⟨{ POP3DetectorData.init with server.state := .continue }, [], 0, false⟩ :=
  ⟨rfl, by decide, continue_lines _ rfl true _ (by decide)⟩

theorem continue_line (dd : POP3DetectorData) (hs : dd.server.state = .continue) (server : Bool)
    {v : List UInt8} (hv : ∀ c ∈ v, isprint c = true) (rest : List UInt8)
    (h : ¬(v = ascii "." ∧ rest = [])) :
    pop3ServerValidate dd (v ++ cr :: lf :: rest) server =
      ⟨{ dd with server := (continueLoop rest.length dd.server rest).1 }, [],
        (continueLoop rest.length dd.server rest).2, false⟩ := by
  unfold pop3ServerValidate
  rw [hs]
  dsimp only
  rw [show (v ++ cr :: lf :: rest).length = (v.length + 1 + rest.length) + 1 by
      simp only [List.length_append, List.length_cons]; omega,
    continueLoop_line _ hv rest h, continueLoop_fuel _ _ _ _ (by omega) le_rfl]

theorem continue_skip_lines (dd : POP3DetectorData) (hs : dd.server.state = .continue)
    (server : Bool) {ls : List (List UInt8)} (hl : ∀ l ∈ ls, ∀ c ∈ l, isprint c = true)
    (rest : List UInt8) (h : ¬(rest = [] ∧ ls.getLast? = some (ascii "."))) :
    pop3ServerValidate dd (lines ls ++ rest) server = pop3ServerValidate dd rest server := by
  unfold pop3ServerValidate
  rw [hs]
  dsimp only
  rw [continueLoop_lines _ ls rest hl h]

/-- A body in `POP3_STATE_CONTINUE` cut after whole lines that do not end the response, or inside
a line away from its CRLF and the terminator's line, gives what the whole payload gives. -/
theorem body_cut_agrees (dd : POP3DetectorData) (hs : dd.server.state = .continue)
    (server server' : Bool) (ls : List (List UInt8)) (hl : ∀ l ∈ ls, ∀ c ∈ l, isprint c = true) :
    (∀ y : List UInt8, ls.getLast? ≠ some (ascii ".") →
      pop3ServerValidate dd (lines ls) server = ⟨dd, [], 0, false⟩ ∧
      pop3ServerValidate (pop3ServerValidate dd (lines ls) server).data y server' =
        pop3ServerValidate dd (lines ls ++ y) server') ∧
    (∀ u v rest : List UInt8, (∀ c ∈ u, isprint c = true) → u ≠ [] →
      (∀ c ∈ v, isprint c = true) → ¬(v = ascii "." ∧ rest = []) →
      ¬(u ++ v = ascii "." ∧ rest = []) →
      pop3ServerValidate dd (lines ls ++ u) server = ⟨dd, [], 0, false⟩ ∧
      pop3ServerValidate (pop3ServerValidate dd (lines ls ++ u) server).data
          (v ++ cr :: lf :: rest) server' =
        pop3ServerValidate dd (lines ls ++ u ++ v ++ cr :: lf :: rest) server') := by
  refine ⟨fun y hlast => ?_, fun u v rest hu hu0 hv hvr huv => ?_⟩
  · have h1 := continue_unterminated dd hs server hl hlast
    refine ⟨h1, ?_⟩
    rw [h1, continue_skip_lines dd hs server' hl y (by simp [hlast])]
  · have h1 := continue_open dd hs server hl hu (by simp [hu0])
    refine ⟨h1, ?_⟩
    have huv' : ∀ c ∈ u ++ v, isprint c = true := by
      simp only [List.forall_mem_append]
      exact ⟨hu, hv⟩
    rw [h1, show lines ls ++ u ++ v ++ cr :: lf :: rest = lines ls ++ ((u ++ v) ++ cr :: lf :: rest) by
        simp only [List.append_assoc],
      continue_skip_lines dd hs server' hl _ (by simp), continue_line dd hs server' hv rest hvr,
      continue_line dd hs server' huv' rest huv]

theorem list_body_two_payloads :
    ({ POP3DetectorData.init with server.state := .continue } : POP3DetectorData).server.state =
      .continue ∧
    (∀ l ∈ [ascii "1 120"], ∀ c ∈ l, isprint c = true) ∧
    pop3ServerValidate { POP3DetectorData.init with server.state := .continue }
        (lines [ascii "1 120"]) true =
      ⟨{ POP3DetectorData.init with server.state := .continue }, [], 0, false⟩ ∧
    pop3ServerValidate (pop3ServerValidate { POP3DetectorData.init with server.state := .continue }
        (lines [ascii "1 120"]) true).data (ascii "." ++ [cr, lf]) true =
      pop3ServerValidate { POP3DetectorData.init with server.state := .continue }
        (lines [ascii "1 120"] ++ (ascii "." ++ [cr, lf])) true :=
  ⟨rfl, by decide, (body_cut_agrees _ rfl true true _ (by decide)).1 _ (by decide)⟩

theorem continue_cr (dd : POP3DetectorData) (hs : dd.server.state = .continue) (server : Bool)
    {ls : List (List UInt8)} (hl : ∀ l ∈ ls, ∀ c ∈ l, isprint c = true) {u : List UInt8}
    (hu : ∀ c ∈ u, isprint c = true) :
    pop3ServerValidate dd (lines ls ++ u ++ [cr]) server = ⟨dd, [], -1, false⟩ := by
  have hcl : pop3CheckLine (u ++ [cr]) = (-1, []) := by
    rw [pop3CheckLine_printable_append _ hu]
    rfl
  unfold pop3ServerValidate
  rw [hs]
  dsimp only
  rw [List.append_assoc, continueLoop_lines _ ls _ hl (by simp), List.length_append,
    List.length_singleton, continueLoop, if_neg (by simp), if_neg (not_term_cr u), hcl]
  rfl

/-- A body payload that ends between a CR and its LF fails `pop3_server_validate`, and a body
cut between the terminator's `.` and its CRLF is never counted. -/
theorem line_end_cuts_differ (beyond : Bool) (ls : List (List UInt8))
    (hl : ∀ l ∈ ls, ∀ c ∈ l, isprint c = true) :
    (∀ (f : Flow) (u : List UInt8), (∀ c ∈ u, isprint c = true) →
      f.record.server.state = .continue → f.serviceDetected = false →
      (pop3ServerValidate f.record (lines ls ++ u ++ [cr]) true).ret = -1 ∧
      Call.failService ∈ (step beyond f (.service .fromResponder (lines ls ++ u ++ [cr]))).2) ∧
    (∀ (dd : POP3DetectorData) (server server' : Bool), dd.server.state = .continue →
      pop3ServerValidate dd (lines ls ++ ascii ".") server = ⟨dd, [], 0, false⟩ ∧
      pop3ServerValidate dd [cr, lf] server' = ⟨dd, [], 0, false⟩ ∧
      (pop3ServerValidate dd (lines ls ++ ascii "." ++ [cr, lf]) server').data.server =
        { dd.server with count := incr dd.server.count, state := .response }) := by
  refine ⟨fun f u hu hs hsd => ?_, fun dd server server' hs => ?_⟩
  · have hv := continue_cr f.record hs true hl hu
    refine ⟨by rw [hv], ?_⟩
    rw [(step_service beyond f _ (by simp) (.inr hsd)).2, hv, hsd]
    simp [conclude]
  · refine ⟨continue_open dd hs server hl (by decide) (by simp [ascii]),
      continue_line dd hs server' (v := []) (by simp) [] (by simp [ascii]), ?_⟩
    rw [List.append_assoc, ← pop3Term_eq, continue_terminated dd hs server' ls hl]

theorem cr_cut_fails_service :
    (∀ l ∈ [ascii "1 120"], ∀ c ∈ l, isprint c = true) ∧ (∀ c ∈ ascii "2", isprint c = true) ∧
    (Session.Flow.mk (some { POP3DetectorData.init with server.state := .continue })
        false).record.server.state = .continue ∧
    (pop3ServerValidate { POP3DetectorData.init with server.state := .continue }
        (lines [ascii "1 120"] ++ ascii "2" ++ [cr]) true).ret = -1 ∧
    Call.failService ∈ (step false (Session.Flow.mk (some { POP3DetectorData.init with
        server.state := .continue }) false)
      (.service .fromResponder (lines [ascii "1 120"] ++ ascii "2" ++ [cr]))).2 :=
  ⟨by decide, by decide, rfl,
    (line_end_cuts_differ false [ascii "1 120"] (by decide)).1
      (Session.Flow.mk (some { POP3DetectorData.init with server.state := .continue }) false)
      (ascii "2") (by decide) rfl rfl⟩


theorem statusPrefix_plus_sp (x : List UInt8) : statusPrefix (0x2B :: sp :: x) = none := rfl

theorem saslContinuation_plus_sp (x : List UInt8) :
    saslContinuation (0x2B :: sp :: x) = (true, false) := rfl

/-- After the greeting, a `+ ` line of a SASL exchange is accepted without a call when it is the
whole payload and rejected when more follows; as the first payload it is rejected as a greeting. -/
theorem sasl_line_accepted_after_greeting (dd : POP3DetectorData) (server : Bool)
    {t : List UInt8} (rest : List UInt8) (ht : ∀ c ∈ t, isprint c = true) :
    (dd.server.state = .response →
      pop3ServerValidate dd (ascii "+ " ++ t ++ cr :: lf :: rest) server =
        ⟨dd, [], if rest = [] then 0 else -1, false⟩) ∧
    (dd.server.state = .connect →
      pop3ServerValidate dd (ascii "+ " ++ t ++ cr :: lf :: rest) server =
        ⟨{ dd with server.state := .response }, [], -1, false⟩) := by
  have hplus : ascii "+ " ++ t ++ cr :: lf :: rest = 0x2B :: sp :: (t ++ cr :: lf :: rest) := by
    rw [List.append_assoc]
    rfl
  rw [hplus]
  refine ⟨fun hs => ?_, fun hs => ?_⟩
  · have hdd : ({ dd with server.state := .response } : POP3DetectorData) = dd := by
      rcases dd with ⟨c, ⟨st, _, _, _, _, _⟩, nc⟩
      cases hs
      rfl
    unfold pop3ServerValidate responseCase
    rw [hs]
    dsimp only
    rw [if_neg Bool.false_ne_true, saslContinuation_plus_sp, if_pos rfl, hdd]
    simp only [List.drop, pop3CheckLine_line rest ht, Prod.mk.injEq, true_and]
  · unfold pop3ServerValidate responseCase
    rw [hs]
    dsimp only
    rw [if_pos rfl, if_neg Bool.false_ne_true]
    split_ifs
    · rfl
    · rw [statusPrefix_plus_sp]

theorem sasl_challenge_after_greeting :
    (∀ c ∈ ascii "dXNlcg==", isprint c = true) ∧
    ({ POP3DetectorData.init with server.state := .response } : POP3DetectorData).server.state =
      .response ∧
    pop3ServerValidate { POP3DetectorData.init with server.state := .response }
        (ascii "+ " ++ ascii "dXNlcg==" ++ [cr, lf]) true =
      ⟨{ POP3DetectorData.init with server.state := .response }, [],
        if ([] : List UInt8) = [] then 0 else -1, false⟩ ∧
    POP3DetectorData.init.server.state = .connect ∧
    pop3ServerValidate POP3DetectorData.init (ascii "+ " ++ ascii "dXNlcg==" ++ [cr, lf]) true =
      ⟨{ POP3DetectorData.init with server.state := .response }, [], -1, false⟩ :=
  ⟨by decide, rfl, (sasl_line_accepted_after_greeting _ true [] (by decide)).1 rfl, rfl,
    (sasl_line_accepted_after_greeting _ true [] (by decide)).2 rfl⟩

end Pop3Detector.Body
