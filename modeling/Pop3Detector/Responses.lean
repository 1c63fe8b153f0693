import Pop3Detector.Server

namespace Pop3Detector.Responses

open Pop3Detector.Bytes Pop3Detector.State Pop3Detector.Greeting Pop3Detector.Server

/-- The body of a multi-line response: its lines, each ended by CRLF, then the terminator
`.` CRLF. -/
def body (lines : List (List UInt8)) : List UInt8 := lines.flatMap (· ++ [cr, lf]) ++ pop3Term

/-- A complete response in one payload: a `+OK` or `-ERR` status line with text `t`, alone or
followed by a body. -/
def response (error : Bool) (t : List UInt8) (lines : Option (List (List UInt8))) : List UInt8 :=
  (if error then pop3Err else pop3Ok) ++ t ++ cr :: lf :: (lines.map body).getD []

theorem body_cons (l : List UInt8) (lines : List (List UInt8)) :
    body (l :: lines) = l ++ cr :: lf :: body lines := by
  simp [body]

theorem body_length (lines : List (List UInt8)) : 3 ≤ (body lines).length := by
  simp [body, pop3Term, ascii]

theorem continueLoop_body (pd : ServicePOP3Data) :
    ∀ (lines : List (List UInt8)) (fuel : Nat), (∀ l ∈ lines, ∀ c ∈ l, isprint c = true) →
      (body lines).length ≤ fuel →
      continueLoop fuel pd (body lines) = ({ pd with count := incr pd.count, state := .response }, 0)
  | [], fuel, _, hf => by
    obtain ⟨fuel, rfl⟩ : ∃ f, fuel = f + 1 := ⟨fuel - 1, by simp [body, pop3Term, ascii] at hf; omega⟩
    rfl
  | l :: lines, fuel, hl, hf => by
    have hlen := body_length lines
    rw [body_cons] at hf ⊢
    simp only [List.length_append, List.length_cons] at hf
    obtain ⟨fuel, rfl⟩ : ∃ f, fuel = f + 1 := ⟨fuel - 1, by omega⟩
    have h0 : l ++ cr :: lf :: body lines ≠ [] := by simp
    have hterm : ¬((l ++ cr :: lf :: body lines).length = pop3Term.length ∧
        pop3Term.isPrefixOf (l ++ cr :: lf :: body lines) = true) := by
      simp only [List.length_append, List.length_cons, pop3Term, ascii]
      simp
      omega
    rw [continueLoop, if_neg h0, if_neg hterm,
      pop3CheckLine_line _ (hl l (List.mem_cons_self _ _))]
    exact continueLoop_body pd lines fuel (fun l' hl' => hl l' (List.mem_cons_of_mem _ hl'))
      (by omega)

theorem endOfStatus_complete (pd : ServicePOP3Data) (h : pd.state = .response)
    (lines : Option (List (List UInt8))) (hl : ∀ ls ∈ lines, ∀ l ∈ ls, ∀ c ∈ l, isprint c = true) :
    (endOfStatus pd ((lines.map body).getD [])).2 = 0 ∧
    (endOfStatus pd ((lines.map body).getD [])).1.count = incr pd.count ∧
    (endOfStatus pd ((lines.map body).getD [])).1.state = .response := by
  cases lines with
  | none => exact ⟨rfl, rfl, h⟩
  | some ls =>
    have hne : body ls ≠ [] := fun e => by simpa [e] using body_length ls
    simp only [Option.map_some', Option.getD_some, endOfStatus, if_neg hne]
    rw [continueLoop_body _ ls _ (hl ls rfl) le_rfl]
    exact ⟨rfl, rfl, rfl⟩

theorem statusPrefix_status (error : Bool) (x : List UInt8) :
    statusPrefix ((if error then pop3Err else pop3Ok) ++ x) = some (error, x) := by
  unfold statusPrefix
  cases error
  · rw [if_neg Bool.false_ne_true, if_pos (List.isPrefixOf_iff_prefix.mpr (List.prefix_append _ _)),
      List.drop_left]
  · rw [if_pos rfl, if_neg (ne_of_eq_of_ne (show pop3Ok.isPrefixOf (pop3Err ++ x) = false from rfl)
      Bool.false_ne_true), if_pos (List.isPrefixOf_iff_prefix.mpr (List.prefix_append _ _)),
      List.drop_left]

/-- A complete response in one payload, out of `POP3_STATE_CONTINUE`, is accepted and counted
once, and the server is left waiting for the next response: `count++` on the `unsigned`
counter, which is `count + 1` below 2^32 - 1. -/
theorem complete_response_counted (dd : POP3DetectorData) (server error : Bool) (t : List UInt8)
    (lines : Option (List (List UInt8)))
    (hs : dd.server.state = .connect ∨ dd.server.state = .response)
    (ht : ∀ c ∈ t, isprint c = true) (hl : ∀ ls ∈ lines, ∀ l ∈ ls, ∀ c ∈ l, isprint c = true) :
    (pop3ServerValidate dd (response error t lines) server).ret = 0 ∧
    (pop3ServerValidate dd (response error t lines) server).data.server.count =
      incr dd.server.count ∧
    (dd.server.count + 1 < 2 ^ 32 →
      (pop3ServerValidate dd (response error t lines) server).data.server.count =
        dd.server.count + 1) ∧
    (pop3ServerValidate dd (response error t lines) server).data.server.state = .response := by
  have hsp : statusPrefix (response error t lines) =
      some (error, t ++ cr :: lf :: (lines.map body).getD []) := by
    rw [response, List.append_assoc]
    exact statusPrefix_status error _
  have hlen : pop3Err.length + 1 ≤ (response error t lines).length := by
    have : pop3Err.length = 4 ∧ pop3Ok.length = 3 := ⟨rfl, rfl⟩
    cases error <;> simp only [response, Bool.false_eq_true, ↓reduceIte, List.length_append,
      List.length_cons] <;> omega
  obtain ⟨fromConnect, hv⟩ : ∃ fromConnect, pop3ServerValidate dd (response error t lines) server =
      responseCase dd (response error t lines) server fromConnect := by
    unfold pop3ServerValidate
    rcases hs with h | h <;> rw [h] <;> exact ⟨_, rfl⟩
  have hsasl : (if fromConnect then (false, false) else
      saslContinuation (response error t lines)).1 = false := by
    cases fromConnect <;> cases error <;> rfl
  have hend : ∀ pd, Untouched { dd.server with state := .response, error := error } pd →
      (endOfStatus pd ((lines.map body).getD [])).2 = 0 ∧
      (endOfStatus pd ((lines.map body).getD [])).1.count = incr dd.server.count ∧
      (dd.server.count + 1 < 2 ^ 32 →
        (endOfStatus pd ((lines.map body).getD [])).1.count = dd.server.count + 1) ∧
      (endOfStatus pd ((lines.map body).getD [])).1.state = .response := by
    rintro pd ⟨hst, hc, -⟩
    obtain ⟨h1, h2, h3⟩ := endOfStatus_complete pd hst lines hl
    rw [hc] at h2
    exact ⟨h1, h2, fun h => h2.trans (Nat.mod_eq_of_lt h), h3⟩
  rw [hv, responseCase_accept dd _ server fromConnect hsasl hlen hsp (pop3CheckLine_line _ ht) le_rfl]
  dsimp only
  split_ifs
  · exact hend _ (scanGreeting_untouched _ _ _)
  · exact hend _ ⟨rfl, rfl, rfl⟩

theorem list_response_counted :
    (POP3DetectorData.init.server.state = .connect ∨
      POP3DetectorData.init.server.state = .response) ∧
    (∀ c ∈ ascii " 2 messages", isprint c = true) ∧
    (∀ ls ∈ some [ascii "1 120", ascii "2 200"], ∀ l ∈ ls, ∀ c ∈ l, isprint c = true) ∧
    ((pop3ServerValidate POP3DetectorData.init
        (response false (ascii " 2 messages") (some [ascii "1 120", ascii "2 200"])) true).ret = 0 ∧
      (pop3ServerValidate POP3DetectorData.init
        (response false (ascii " 2 messages") (some [ascii "1 120", ascii "2 200"])) true
        ).data.server.count = incr POP3DetectorData.init.server.count ∧
      (POP3DetectorData.init.server.count + 1 < 2 ^ 32 →
        (pop3ServerValidate POP3DetectorData.init
          (response false (ascii " 2 messages") (some [ascii "1 120", ascii "2 200"])) true
          ).data.server.count = POP3DetectorData.init.server.count + 1) ∧
      (pop3ServerValidate POP3DetectorData.init
        (response false (ascii " 2 messages") (some [ascii "1 120", ascii "2 200"])) true
        ).data.server.state = .response) :=
  ⟨.inl rfl, by decide, by rintro ls ⟨⟩; decide,
    complete_response_counted _ true false _ _ (.inl rfl) (by decide) (by rintro ls ⟨⟩; decide)⟩

end Pop3Detector.Responses
