import Pop3Detector.Greeting

namespace Pop3Detector.Server

open Pop3Detector.Bytes Pop3Detector.State Pop3Detector.Greeting

def pop3Ok : List UInt8 := ascii "+OK"
def pop3Err : List UInt8 := ascii "-ERR"
def pop3Term : List UInt8 := ascii ".\r\n"

/-- What a call of `pop3_server_validate` leaves behind: the per-flow record, the calls it made,
its return value, and whether it read a byte at or past the end of the payload. -/
structure ServerResult where
  data : POP3DetectorData
  calls : List Call
  ret : Int
  overread : Bool

/-- `data[0] == '+' && data[1] == ' '`, evaluated while `begin` is null: whether it holds, and
whether it read past the payload. `data[1]` is read before any length check. -/
def saslContinuation : List UInt8 → Bool × Bool
  | [] => (false, true)
  | c :: rest => if c = 0x2B then (rest.head? = some sp, rest = []) else (false, false)

/-- The status line's effect on the client side: the STLS outcome, or the surrender of the
username held since USER or APOP. -/
def correlate (dd : POP3DetectorData) : POP3DetectorData × List Call :=
  if dd.client.state = .stlsCmd then
    if dd.server.error then ({ dd with client.state := .auth }, [])
    else (dd, [.setSessionFlags .encrypted, .clearSessionFlags .clientGetsServerPackets,
      .addApp .pop3s .pop3s, .stat .pop3sClients])
  else
    match dd.client.username with
    | some username =>
      if dd.server.error then ({ dd with client.username := none }, [.addUser username .pop3 false])
      else
        ({ dd with client.username := none, needContinue := false, client.gotUser := true },
          [.addUser username .pop3 true, .clearSessionFlags .clientGetsServerPackets] ++
            if dd.client.detected then [.setSessionFlags .clientDetected] else [])
    | none => (dd, [])

/-- `case POP3_STATE_CONTINUE`: the `while (data < end)` loop over the lines of a multi-line
response, for at most `fuel` passes. -/
def continueLoop : Nat → ServicePOP3Data → List UInt8 → ServicePOP3Data × Int
  | 0, pd, _ => (pd, 0)
  | fuel + 1, pd, data =>
    if data = [] then (pd, 0)
    else if data.length = pop3Term.length ∧ pop3Term.isPrefixOf data = true then
      ({ pd with count := incr pd.count, state := .response }, 0)
    else
      let (r, rest) := pop3CheckLine data
      if r < 0 then (pd, -1) else continueLoop fuel pd rest

/-- The `+OK` / `-ERR` comparison at the start of a status line: the value `pd->error` takes
and the bytes after the prefix. -/
def statusPrefix (data : List UInt8) : Option (Bool × List UInt8) :=
  if pop3Ok.isPrefixOf data then some (false, data.drop pop3Ok.length)
  else if pop3Err.isPrefixOf data then some (true, data.drop pop3Err.length)
  else none

/-- After a status line: a response that ends with the payload is counted, and otherwise the
rest of the payload is read as the body of a multi-line response. -/
def endOfStatus (pd : ServicePOP3Data) (rest : List UInt8) : ServicePOP3Data × Int :=
  if rest = [] then ({ pd with count := incr pd.count }, 0)
  else continueLoop rest.length { pd with state := .continue } rest

/-- `case POP3_STATE_RESPONSE`, entered with `begin` pointing at the payload when the call falls
through from `POP3_STATE_CONNECT`: a `+ ` continuation line, or a `+OK` / `-ERR` status line. -/
def responseCase (dd : POP3DetectorData) (data : List UInt8) (server fromConnect : Bool) :
    ServerResult :=
  let dd := { dd with server.state := .response }
  let sasl := if fromConnect then (false, false) else saslContinuation data
  if sasl.1 then ⟨dd, [], if pop3CheckLine (data.drop 2) = (0, []) then 0 else -1, sasl.2⟩
  else if data.length < pop3Err.length + 1 then ⟨dd, [], -1, sasl.2⟩
  else
    match statusPrefix data with
    | none => ⟨dd, [], -1, sasl.2⟩
    | some (error, rest) =>
      let dd := { dd with server.error := error }
      let line := pop3CheckLine rest
      if line.1 < 0 then ⟨dd, [], -1, sasl.2⟩
      else
        let corr := correlate dd
        let pd := if server ∧ fromConnect ∧ error = false then
            scanGreeting data (data.length - line.2.length - 1) corr.1.server
          else corr.1.server
        let fin := endOfStatus pd line.2
        ⟨{ corr.1 with server := fin.1 }, corr.2, fin.2, sasl.2⟩

/-- `pop3_server_validate(dd, data, size, asd, server)`. -/
def pop3ServerValidate (dd : POP3DetectorData) (data : List UInt8) (server : Bool) :
    ServerResult :=
  match dd.server.state with
  | .connect => responseCase dd data server true
  | .response => responseCase dd data server false
  | .continue =>
    let fin := continueLoop data.length dd.server data
    ⟨{ dd with server := fin.1 }, [], fin.2, false⟩

/-- The calls of an accepted `+OK` while the client waits on STLS. -/
def stlsOkCalls : List Call :=
  [.setSessionFlags .encrypted, .clearSessionFlags .clientGetsServerPackets, .addApp .pop3s .pop3s,
    .stat .pop3sClients]

theorem correlate_server (dd : POP3DetectorData) : (correlate dd).1.server = dd.server := by
  unfold correlate
  split_ifs
  all_goals try split
  all_goals rfl

theorem correlate_client_state (dd : POP3DetectorData) :
    (correlate dd).1.client.state =
      if dd.client.state = .stlsCmd ∧ dd.server.error = true then .auth else dd.client.state := by
  unfold correlate
  by_cases hs : dd.client.state = .stlsCmd
  · by_cases he : dd.server.error = true <;> simp [hs, he]
  · simp only [hs, if_false, false_and]
    split <;> (try split_ifs) <;> rfl

theorem correlate_stls (dd : POP3DetectorData) (h : dd.client.state = .stlsCmd) :
    correlate dd = if dd.server.error then ({ dd with client.state := .auth }, []) else
      (dd, stlsOkCalls) := by
  unfold correlate
  rw [if_pos h]
  rfl

theorem correlate_of_ne_stls (dd : POP3DetectorData) (h : dd.client.state ≠ .stlsCmd) :
    userReports (correlate dd).2 = (dd.client.username.map fun u => (u, .pop3, !dd.server.error)).toList ∧
      (correlate dd).1.client.username = none := by
  unfold correlate
  simp only [h, if_false]
  split
  · split_ifs <;> simp_all [Call.addUserArgs]
  · simp_all

theorem correlate_pop3s (dd : POP3DetectorData) (h : Call.addApp .pop3s .pop3s ∈ (correlate dd).2) :
    dd.client.state = .stlsCmd ∧ dd.server.error = false ∧ (correlate dd).2 = stlsOkCalls ∧
      (correlate dd).1.client.state = .stlsCmd := by
  unfold correlate at h ⊢
  by_cases hs : dd.client.state = .stlsCmd
  · by_cases he : dd.server.error = true
    · simp [hs, he] at h
    · simp [hs, he, stlsOkCalls]
  · simp only [hs, if_false] at h
    rcases hu : dd.client.username with _ | u <;> simp only [hu] at h
    · simp at h
    · split_ifs at h <;> simp at h

theorem correlate_calls (dd : POP3DetectorData) :
    ∀ c ∈ (correlate dd).2, c.reportsService = false ∧ c ≠ .failService := by
  unfold correlate
  by_cases hs : dd.client.state = .stlsCmd
  · rw [if_pos hs]
    cases dd.server.error <;> simp only [Bool.false_eq_true, ↓reduceIte] <;> decide
  · rw [if_neg hs]
    cases dd.client.username <;> dsimp only
    · decide
    · intro c hc
      split_ifs at hc <;> simp only [List.mem_cons, List.mem_append, List.mem_singleton,
        List.not_mem_nil, or_false, or_assoc] at hc <;> rcases hc with rfl | rfl | rfl <;>
        exact ⟨rfl, nofun⟩

theorem responseCase_cases (dd : POP3DetectorData) (data : List UInt8) (server fromConnect : Bool) :
    ((responseCase dd data server fromConnect).calls = [] ∧
      ∃ e, (responseCase dd data server fromConnect).data =
        { dd with server.state := .response, server.error := e }) ∨
    (∃ error rest r rest', statusPrefix data = some (error, rest) ∧
      pop3CheckLine rest = (r, rest') ∧ 0 ≤ r ∧
      (responseCase dd data server fromConnect).calls =
        (correlate { dd with server.state := .response, server.error := error }).2 ∧
      (responseCase dd data server fromConnect).data =
        { (correlate { dd with server.state := .response, server.error := error }).1 with
          server := (endOfStatus
            (if server = true ∧ fromConnect = true ∧ error = false then
              scanGreeting data (data.length - rest'.length - 1)
                { dd.server with state := .response, error := error }
            else { dd.server with state := .response, error := error }) rest').1 }) := by
  unfold responseCase
  generalize (if fromConnect = true then (false, false) else saslContinuation data) = sasl
  obtain ⟨plus, overread⟩ := sasl
  dsimp only
  cases plus
  · simp only [Bool.false_eq_true, if_false]
    by_cases hlen : data.length < pop3Err.length + 1
    · rw [if_pos hlen]
      exact .inl ⟨rfl, _, rfl⟩
    rw [if_neg hlen]
    rcases hsp : statusPrefix data with _ | ⟨error, rest⟩
    · exact .inl ⟨rfl, _, rfl⟩
    dsimp only
    generalize hcl : pop3CheckLine rest = line
    obtain ⟨r, rest'⟩ := line
    dsimp only
    by_cases hr : r < 0
    · rw [if_pos hr]
      exact .inl ⟨rfl, _, rfl⟩
    rw [if_neg hr]
    refine .inr ⟨error, rest, r, rest', rfl, hcl, by omega, rfl, ?_⟩
    rw [correlate_server]
  · exact .inl ⟨rfl, _, rfl⟩

theorem pop3ServerValidate_client (dd : POP3DetectorData) (data : List UInt8) (server : Bool) :
    ((pop3ServerValidate dd data server).calls = [] ∧
      (pop3ServerValidate dd data server).data.client = dd.client ∧
      (pop3ServerValidate dd data server).data.needContinue = dd.needContinue) ∨
    ∃ error rest, dd.server.state ≠ .continue ∧ statusPrefix data = some (error, rest) ∧
      0 ≤ (pop3CheckLine rest).1 ∧ (pop3ServerValidate dd data server).calls =
        (correlate { dd with server.state := .response, server.error := error }).2 ∧
      (pop3ServerValidate dd data server).data.client =
        (correlate { dd with server.state := .response, server.error := error }).1.client ∧
      (pop3ServerValidate dd data server).data.needContinue =
        (correlate { dd with server.state := .response, server.error := error }).1.needContinue := by
  unfold pop3ServerValidate
  split
  rotate_left 2
  · exact .inl ⟨rfl, rfl, rfl⟩
  all_goals
    rename_i hs
    rcases responseCase_cases dd data server _ with ⟨hc, e, hd⟩ | ⟨error, rest, r, rest', hsp, hcl, hr, hc, hd⟩
    · exact .inl ⟨hc, by rw [hd], by rw [hd]⟩
    · exact .inr ⟨error, rest, by simp [hs], hsp, by rw [hcl]; exact hr, hc, by rw [hd], by rw [hd]⟩

theorem continueLoop_cases (n : Nat) (pd : ServicePOP3Data) (data : List UInt8) :
    (continueLoop n pd data).1 = pd ∨
      ((continueLoop n pd data).1 = { pd with count := incr pd.count, state := .response } ∧
        pop3Term <:+ data) := by
  induction n generalizing data with
  | zero => exact .inl rfl
  | succ n ih =>
    unfold continueLoop
    split_ifs with h0 ht
    · exact .inl rfl
    · refine .inr ⟨rfl, ?_⟩
      rw [(List.isPrefixOf_iff_prefix.mp ht.2).eq_of_length ht.1.symm]
    · dsimp only
      split_ifs
      · exact .inl rfl
      · exact (ih _).imp_right fun ⟨h, hs⟩ => ⟨h, hs.trans (pop3CheckLine_suffix data)⟩

theorem endOfStatus_cases (pd : ServicePOP3Data) (rest : List UInt8) :
    (rest = [] ∧ (endOfStatus pd rest).1 = { pd with count := incr pd.count }) ∨
    (endOfStatus pd rest).1 = { pd with state := .continue } ∨
    ((endOfStatus pd rest).1 = { pd with count := incr pd.count, state := .response } ∧
      pop3Term <:+ rest) := by
  unfold endOfStatus
  split_ifs with h
  · exact .inl ⟨h, rfl⟩
  · exact .inr ((continueLoop_cases _ _ _).imp id fun ⟨he, hs⟩ => ⟨he, hs⟩)

theorem endOfStatus_state (pd : ServicePOP3Data) (rest : List UInt8) (h : pd.state = .response) :
    (endOfStatus pd rest).1.state ≠ .connect := by
  rcases endOfStatus_cases pd rest with ⟨-, h'⟩ | h' | ⟨h', -⟩ <;> simp [h', h]

theorem endOfStatus_subtype (pd : ServicePOP3Data) (rest : List UInt8) :
    (endOfStatus pd rest).1.subtype = pd.subtype := by
  rcases endOfStatus_cases pd rest with ⟨-, h'⟩ | h' | ⟨h', -⟩ <;> simp [h']

theorem continueLoop_greetingFields (n : Nat) (pd : ServicePOP3Data) (data : List UInt8) :
    greetingFields (continueLoop n pd data).1 = greetingFields pd := by
  rcases continueLoop_cases n pd data with h | ⟨h, -⟩ <;> simp only [h, greetingFields]

theorem endOfStatus_greetingFields (pd : ServicePOP3Data) (rest : List UInt8) :
    greetingFields (endOfStatus pd rest).1 = greetingFields pd := by
  rcases endOfStatus_cases pd rest with ⟨-, h⟩ | h | ⟨h, -⟩ <;> simp only [h, greetingFields]

theorem continueLoop_withGreeting (g : Option Vendor × (Fin 64 → UInt8) × List RNAServiceSubtype) :
    ∀ (n : Nat) (pd : ServicePOP3Data) (data : List UInt8), continueLoop n (withGreeting pd g) data =
      (withGreeting (continueLoop n pd data).1 g, (continueLoop n pd data).2)
  | 0, _, _ => rfl
  | n + 1, pd, data => by
    unfold continueLoop
    split_ifs
    · rfl
    · rfl
    · dsimp only
      split_ifs
      · rfl
      · exact continueLoop_withGreeting g n pd _

theorem endOfStatus_withGreeting (g : Option Vendor × (Fin 64 → UInt8) × List RNAServiceSubtype)
    (pd : ServicePOP3Data) (rest : List UInt8) :
    endOfStatus (withGreeting pd g) rest = (withGreeting (endOfStatus pd rest).1 g, (endOfStatus pd rest).2) := by
  unfold endOfStatus
  split_ifs
  · rfl
  · exact continueLoop_withGreeting g _ { pd with state := .continue } rest

/-- Whatever the state, the service record evolves in one of three ways: the body loop of
`POP3_STATE_CONTINUE`, a rejected payload, or a status line accepted up to `rest'`. -/
theorem pop3ServerValidate_server (dd : POP3DetectorData) (data : List UInt8) (server : Bool) :
    (dd.server.state = .continue ∧
      (pop3ServerValidate dd data server).data.server = (continueLoop data.length dd.server data).1) ∨
    (∃ e, (pop3ServerValidate dd data server).data.server =
      { dd.server with state := .response, error := e }) ∨
    (∃ error rest r rest', statusPrefix data = some (error, rest) ∧
      pop3CheckLine rest = (r, rest') ∧ 0 ≤ r ∧
      (pop3ServerValidate dd data server).data.server = (endOfStatus
        (if server = true ∧ dd.server.state = .connect ∧ error = false then
          scanGreeting data (data.length - rest'.length - 1)
            { dd.server with state := .response, error := error }
        else { dd.server with state := .response, error := error }) rest').1) := by
  unfold pop3ServerValidate
  split
  rotate_left 2
  · exact .inl ⟨‹_›, rfl⟩
  all_goals
    rename_i hs
    rcases responseCase_cases dd data server _ with ⟨-, e, hd⟩ | ⟨error, rest, r, rest', h⟩
    · exact .inr (.inl ⟨e, by rw [hd]⟩)
    · refine .inr (.inr ⟨error, rest, r, rest', h.1, h.2.1, h.2.2.1, ?_⟩)
      rw [h.2.2.2.2]
      simp [hs]

theorem pop3ServerValidate_state_ne_connect (dd : POP3DetectorData) (data : List UInt8)
    (server : Bool) : (pop3ServerValidate dd data server).data.server.state ≠ .connect := by
  rcases pop3ServerValidate_server dd data server with ⟨hs, h⟩ | ⟨e, h⟩ | ⟨error, -, -, rest', -, -, -, h⟩
  · rw [h]
    rcases continueLoop_cases data.length dd.server data with h' | ⟨h', -⟩ <;> simp [h', hs]
  · simp [h]
  · rw [h]
    apply endOfStatus_state
    split_ifs
    · exact (scanGreeting_untouched _ _ _).1
    · rfl

theorem pop3ServerValidate_subtype (dd : POP3DetectorData) (data : List UInt8) (server : Bool)
    (h : dd.server.state ≠ .connect) :
    (pop3ServerValidate dd data server).data.server.subtype = dd.server.subtype := by
  rcases pop3ServerValidate_server dd data server with ⟨-, h'⟩ | ⟨e, h'⟩ | ⟨error, -, -, rest', -, -, -, h'⟩
  · rw [h']
    rcases continueLoop_cases data.length dd.server data with h'' | ⟨h'', -⟩ <;> simp [h'']
  · simp [h']
  · simp [h', h, endOfStatus_subtype]

theorem statusPrefix_eq_some {data rest : List UInt8} {error : Bool}
    (h : statusPrefix data = some (error, rest)) :
    data = (if error then pop3Err else pop3Ok) ++ rest := by
  unfold statusPrefix at h
  split_ifs at h with h1 h2
  · obtain ⟨t, rfl⟩ := List.isPrefixOf_iff_prefix.mp h1
    cases h
    simp
  · obtain ⟨t, rfl⟩ := List.isPrefixOf_iff_prefix.mp h2
    cases h
    simp

theorem status_noCrLf (error : Bool) :
    ∀ c ∈ (if error then pop3Err else pop3Ok), isCrLf c = false := by
  cases error <;> decide

/-- Whether a payload can close a counted response: it ends with CRLF, or holds no line
terminator at all. -/
def closesResponse (data : List UInt8) : Bool :=
  [cr, lf].isSuffixOf data || data.all fun c => !isCrLf c

theorem closesResponse_of_suffix {data l : List UInt8} (h : pop3Term <:+ l) (h' : l <:+ data) :
    closesResponse data = true := by
  have : [cr, lf] <:+ pop3Term := ⟨[0x2E], rfl⟩
  simp [closesResponse, List.isSuffixOf_iff_suffix, (this.trans h).trans h']

theorem closesResponse_of_status {data rest : List UInt8} {error : Bool} {r : Int}
    (hsp : statusPrefix data = some (error, rest)) (hcl : pop3CheckLine rest = (r, []))
    (hr : 0 ≤ r) : closesResponse data = true := by
  rw [statusPrefix_eq_some hsp]
  rcases pop3CheckLine_accepted hcl hr with ⟨line, rfl⟩ | ⟨-, hs⟩
  · simp only [closesResponse, List.isSuffixOf_iff_suffix, Bool.or_eq_true, decide_eq_true_eq]
    exact .inl ((List.suffix_append _ _).trans (List.suffix_append _ _))
  · simp only [closesResponse, Bool.or_eq_true, List.all_eq_true, List.mem_append]
    refine .inr fun c hc => ?_
    rcases hc with hc | hc
    · simp [status_noCrLf error c hc]
    · simp [hs c hc]

theorem pop3ServerValidate_count (dd : POP3DetectorData) (data : List UInt8) (server : Bool) :
    (pop3ServerValidate dd data server).data.server.count = dd.server.count ∨
    ((pop3ServerValidate dd data server).data.server.count = incr dd.server.count ∧
      closesResponse data = true) := by
  rcases pop3ServerValidate_server dd data server with
    ⟨-, h⟩ | ⟨e, h⟩ | ⟨error, rest, r, rest', hsp, hcl, hr, h⟩
  · rw [h]
    rcases continueLoop_cases data.length dd.server data with h' | ⟨h', ht⟩
    · simp [h']
    · exact .inr ⟨by simp [h'], closesResponse_of_suffix ht (List.suffix_refl _)⟩
  · simp [h]
  · have key : ∀ pd : ServicePOP3Data, pd.count = dd.server.count →
        (endOfStatus pd rest').1.count = dd.server.count ∨
        ((endOfStatus pd rest').1.count = incr dd.server.count ∧ closesResponse data = true) := by
      intro pd hpd
      have hsuf : rest' <:+ data := by
        rw [statusPrefix_eq_some hsp]
        exact (by simpa [hcl] using pop3CheckLine_suffix rest : rest' <:+ rest).trans
          (List.suffix_append _ _)
      rcases endOfStatus_cases pd rest' with ⟨rfl, h'⟩ | h' | ⟨h', ht⟩
      · exact .inr ⟨by simp [h', hpd], closesResponse_of_status hsp hcl hr⟩
      · simp [h', hpd]
      · exact .inr ⟨by simp [h', hpd], closesResponse_of_suffix ht hsuf⟩
    rw [h]
    split_ifs
    · exact key _ (scanGreeting_untouched _ _ _).2.1
    · exact key _ rfl

theorem pop3ServerValidate_calls (dd : POP3DetectorData) (data : List UInt8) (server : Bool) :
    ∀ c ∈ (pop3ServerValidate dd data server).calls, c.reportsService = false ∧ c ≠ .failService := by
  rcases pop3ServerValidate_client dd data server with ⟨h, -⟩ | ⟨error, rest, -, -, -, h, -⟩
  · simp [h]
  · rw [h]
    exact correlate_calls _

theorem pop3ServerValidate_client_state (dd : POP3DetectorData) (data : List UInt8)
    (server : Bool) :
    (pop3ServerValidate dd data server).data.client.state = dd.client.state ∨
    (dd.client.state = .stlsCmd ∧ (pop3ServerValidate dd data server).data.client.state = .auth) := by
  rcases pop3ServerValidate_client dd data server with ⟨-, h, -⟩ | ⟨error, rest, -, -, -, -, h, -⟩
  · exact .inl (by rw [h])
  · rw [h, correlate_client_state]
    split_ifs with hs
    · exact .inr ⟨hs.1, rfl⟩
    · exact .inl rfl

theorem pop3ServerValidate_userReports (dd : POP3DetectorData) (data : List UInt8)
    (server : Bool) :
    userReports (pop3ServerValidate dd data server).calls = [] ∨
    ∃ u error rest, dd.client.username = some u ∧ dd.client.state ≠ .stlsCmd ∧
      statusPrefix data = some (error, rest) ∧ 0 ≤ (pop3CheckLine rest).1 ∧
      userReports (pop3ServerValidate dd data server).calls = [(u, .pop3, !error)] ∧
      (pop3ServerValidate dd data server).data.client.username = none := by
  rcases pop3ServerValidate_client dd data server with
    ⟨h, -⟩ | ⟨error, rest, -, hsp, hcl, h, hc, -⟩
  · simp [h]
  · rw [h, hc]
    by_cases hs : dd.client.state = .stlsCmd
    · left
      rw [correlate_stls { dd with server.state := .response, server.error := error } hs]
      split <;> rfl
    · obtain ⟨hu, hn⟩ := correlate_of_ne_stls { dd with server.state := .response, server.error := error } hs
      rcases hdu : dd.client.username with _ | u
      · left
        simpa [hdu] using hu
      · exact .inr ⟨u, error, rest, rfl, hs, hsp, hcl, by simpa [hdu] using hu, hn⟩

theorem pop3ServerValidate_pop3s (dd : POP3DetectorData) (data : List UInt8) (server : Bool)
    (h : Call.addApp .pop3s .pop3s ∈ (pop3ServerValidate dd data server).calls) :
    dd.client.state = .stlsCmd ∧
      (∃ rest, statusPrefix data = some (false, rest) ∧ 0 ≤ (pop3CheckLine rest).1) ∧
      (pop3ServerValidate dd data server).calls = stlsOkCalls ∧
      (pop3ServerValidate dd data server).data.client.state = .stlsCmd := by
  rcases pop3ServerValidate_client dd data server with
    ⟨hc, -⟩ | ⟨error, rest, -, hsp, hchk, hc, hcl, -⟩
  · simp [hc] at h
  · rw [hc] at h
    obtain ⟨h1, h2, h3, h4⟩ := correlate_pop3s _ h
    have he : error = false := h2
    subst he
    exact ⟨h1, ⟨rest, hsp, hchk⟩, hc.trans h3, by rw [hcl]; exact h4⟩

theorem responseCase_overread (dd : POP3DetectorData) (data : List UInt8) (server fromConnect : Bool) :
    (responseCase dd data server fromConnect).overread =
      (if fromConnect then (false, false) else saslContinuation data).2 := by
  unfold responseCase
  generalize (if fromConnect = true then (false, false) else saslContinuation data) = sasl
  dsimp only
  by_cases h1 : sasl.1 = true
  · rw [if_pos h1]
  by_cases h2 : data.length < pop3Err.length + 1
  · rw [if_neg h1, if_pos h2]
  rw [if_neg h1, if_neg h2]
  rcases statusPrefix data with _ | ⟨error, rest⟩
  · rfl
  dsimp only
  by_cases h3 : (pop3CheckLine rest).1 < 0
  · rw [if_pos h3]
  · rw [if_neg h3]

theorem saslContinuation_overread {data : List UInt8} (h : data ≠ []) :
    (saslContinuation data).2 = true ↔ data = [0x2B] := by
  obtain ⟨c, rest, rfl⟩ := List.exists_cons_of_ne_nil h
  simp only [saslContinuation]
  split_ifs with hc <;> simp [hc]

/-- The only read past the payload is the second byte of the `+ ` test, on a one-byte
`+` in `POP3_STATE_RESPONSE`. -/
theorem pop3ServerValidate_overread (dd : POP3DetectorData) (data : List UInt8) (server : Bool)
    (h : data ≠ []) :
    (pop3ServerValidate dd data server).overread = true ↔
      dd.server.state = .response ∧ data = [0x2B] := by
  unfold pop3ServerValidate
  split <;> simp [responseCase_overread, saslContinuation_overread h, *]

theorem pop3ServerValidate_ok (dd : POP3DetectorData) (h : dd.server.state ≠ .continue)
    (server : Bool) :
    (pop3ServerValidate dd (ascii "+OK\r\n") server).calls =
      (correlate { dd with server.state := .response, server.error := false }).2 ∧
    (pop3ServerValidate dd (ascii "+OK\r\n") server).data.client =
      (correlate { dd with server.state := .response, server.error := false }).1.client ∧
    (pop3ServerValidate dd (ascii "+OK\r\n") server).data.needContinue =
      (correlate { dd with server.state := .response, server.error := false }).1.needContinue ∧
    (pop3ServerValidate dd (ascii "+OK\r\n") server).ret = 0 ∧
    (pop3ServerValidate dd (ascii "+OK\r\n") server).data.server.state = .response := by
  have hstate : ∀ fromConnect,
      (responseCase dd (ascii "+OK\r\n") server fromConnect).data.server.state = .response := by
    intro fromConnect
    unfold responseCase
    simp only [correlate_server]
    cases server <;> cases fromConnect <;> rfl
  unfold pop3ServerValidate
  rcases hs : dd.server.state
  · exact ⟨rfl, rfl, rfl, rfl, hstate true⟩
  · exact ⟨rfl, rfl, rfl, rfl, hstate false⟩
  · exact absurd hs h

theorem responseCase_accept (dd : POP3DetectorData) (data : List UInt8) (server fromConnect : Bool)
    {error : Bool} {rest rest' : List UInt8} {r : Int}
    (hsasl : (if fromConnect then (false, false) else saslContinuation data).1 = false)
    (hlen : pop3Err.length + 1 ≤ data.length) (hsp : statusPrefix data = some (error, rest))
    (hcl : pop3CheckLine rest = (r, rest')) (hr : 0 ≤ r) :
    responseCase dd data server fromConnect =
      ⟨{ (correlate { dd with server.state := .response, server.error := error }).1 with
          server := (endOfStatus (if server = true ∧ fromConnect = true ∧ error = false then
            scanGreeting data (data.length - rest'.length - 1)
              { dd.server with state := .response, error := error }
            else { dd.server with state := .response, error := error }) rest').1 },
        (correlate { dd with server.state := .response, server.error := error }).2,
        (endOfStatus (if server = true ∧ fromConnect = true ∧ error = false then
            scanGreeting data (data.length - rest'.length - 1)
              { dd.server with state := .response, error := error }
            else { dd.server with state := .response, error := error }) rest').2,
        (if fromConnect then (false, false) else saslContinuation data).2⟩ := by
  unfold responseCase
  dsimp only
  rw [if_neg (by rw [hsasl]; decide), if_neg (by omega), hsp]
  dsimp only
  rw [hcl, if_neg (by dsimp only; omega), correlate_server]

theorem saslContinuation_of_statusPrefix {data rest : List UInt8} {error : Bool}
    (h : statusPrefix data = some (error, rest)) : (saslContinuation data).1 = false := by
  rw [statusPrefix_eq_some h]
  cases error <;> rfl

theorem pop3ServerValidate_accept (dd : POP3DetectorData) {data rest : List UInt8} {error : Bool}
    (server : Bool) (hs : dd.server.state ≠ .continue) (hlen : pop3Err.length + 1 ≤ data.length)
    (hsp : statusPrefix data = some (error, rest)) (hcl : 0 ≤ (pop3CheckLine rest).1) :
    (pop3ServerValidate dd data server).calls =
      (correlate { dd with server.state := .response, server.error := error }).2 ∧
    (pop3ServerValidate dd data server).data.client =
      (correlate { dd with server.state := .response, server.error := error }).1.client ∧
    (pop3ServerValidate dd data server).data.needContinue =
      (correlate { dd with server.state := .response, server.error := error }).1.needContinue := by
  have key : ∀ fromConnect,
      (if fromConnect then (false, false) else saslContinuation data).1 = false →
      (responseCase dd data server fromConnect).calls =
        (correlate { dd with server.state := .response, server.error := error }).2 ∧
      (responseCase dd data server fromConnect).data.client =
        (correlate { dd with server.state := .response, server.error := error }).1.client ∧
      (responseCase dd data server fromConnect).data.needContinue =
        (correlate { dd with server.state := .response, server.error := error }).1.needContinue :=
    fun fromConnect h => by
      rw [responseCase_accept dd data server fromConnect h hlen hsp Prod.mk.eta.symm hcl]
      exact ⟨rfl, rfl, rfl⟩
  unfold pop3ServerValidate
  rcases hst : dd.server.state
  · exact key true rfl
  · exact key false (saslContinuation_of_statusPrefix hsp)
  · exact absurd hst hs

theorem pop3ServerValidate_writes (dd : POP3DetectorData) (data : List UInt8) (server : Bool) :
    WritesBelowVEnd dd.server.version (pop3ServerValidate dd data server).data.server.version := by
  rcases pop3ServerValidate_server dd data server with
    ⟨-, h⟩ | ⟨e, h⟩ | ⟨error, rest, r, rest', -, -, -, h⟩ <;> rw [h]
  · rw [show (continueLoop _ _ _).1.version = dd.server.version from
      congrArg (·.2.1) (continueLoop_greetingFields _ _ _)]
    exact .refl _
  · exact .refl _
  · rw [show (endOfStatus _ _).1.version = _ from congrArg (·.2.1) (endOfStatus_greetingFields _ _)]
    split_ifs
    · exact scanGreeting_writes _ _ _
    · exact .refl _

theorem responseCase_agree (dd : POP3DetectorData) (data : List UInt8) (fromConnect : Bool) :
    ∃ g, responseCase dd data true fromConnect =
      { responseCase dd data false fromConnect with
        data.server := withGreeting (responseCase dd data false fromConnect).data.server g } := by
  unfold responseCase
  dsimp only
  generalize (if fromConnect = true then (false, false) else saslContinuation data) = sasl
  by_cases h1 : sasl.1 = true
  · rw [if_pos h1, if_pos h1]
    exact ⟨greetingFields _, rfl⟩
  rw [if_neg h1, if_neg h1]
  by_cases h2 : data.length < pop3Err.length + 1
  · rw [if_pos h2, if_pos h2]
    exact ⟨greetingFields _, rfl⟩
  rw [if_neg h2, if_neg h2]
  rcases statusPrefix data with _ | ⟨error, rest⟩
  · exact ⟨greetingFields _, rfl⟩
  dsimp only
  by_cases h3 : (pop3CheckLine rest).1 < 0
  · rw [if_pos h3, if_pos h3]
    exact ⟨greetingFields _, rfl⟩
  rw [if_neg h3, if_neg h3, if_neg (show ¬(false = true ∧ fromConnect = true ∧ error = false) from
    fun h => Bool.false_ne_true h.1)]
  by_cases hg : fromConnect = true ∧ error = false
  · rw [if_pos (show true = true ∧ fromConnect = true ∧ error = false from ⟨rfl, hg⟩),
      (scanGreeting_untouched _ _ _).eq_withGreeting, endOfStatus_withGreeting]
    exact ⟨_, rfl⟩
  · rw [if_neg fun h => hg h.2]
    exact ⟨greetingFields _, rfl⟩

theorem pop3ServerValidate_agree (dd : POP3DetectorData) (data : List UInt8) :
    ∃ g, pop3ServerValidate dd data true =
      { pop3ServerValidate dd data false with
        data.server := withGreeting (pop3ServerValidate dd data false).data.server g } := by
  unfold pop3ServerValidate
  split
  · exact responseCase_agree dd data true
  · exact responseCase_agree dd data false
  · exact ⟨greetingFields _, rfl⟩

theorem pop3ServerValidate_greetingFields (dd : POP3DetectorData) (data : List UInt8)
    (server : Bool)
    (h : greetingFields (pop3ServerValidate dd data server).data.server ≠ greetingFields dd.server) :
    server = true ∧ dd.server.state = .connect ∧
      (∃ rest, statusPrefix data = some (false, rest) ∧ 0 ≤ (pop3CheckLine rest).1) ∧
      (pop3ServerValidate dd data server).data.server.state ≠ .connect := by
  have hs := pop3ServerValidate_state_ne_connect dd data server
  rcases pop3ServerValidate_server dd data server with ⟨-, h'⟩ | ⟨e, h'⟩ |
    ⟨error, rest, r, rest', hsp, hcl, hr, h'⟩ <;> rw [h'] at h
  · exact absurd (continueLoop_greetingFields _ _ _) h
  · exact absurd rfl h
  · rw [endOfStatus_greetingFields] at h
    by_cases hg : server = true ∧ dd.server.state = .connect ∧ error = false
    · obtain ⟨rfl, hc, rfl⟩ := hg
      exact ⟨rfl, hc, ⟨rest, hsp, by rw [hcl]; exact hr⟩, hs⟩
    · rw [if_neg hg] at h
      exact absurd rfl h

end Pop3Detector.Server
