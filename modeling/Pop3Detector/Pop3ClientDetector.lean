import Pop3Detector.Patterns
import Pop3Detector.Server

namespace Pop3Detector.Pop3ClientDetector

open Pop3Detector.Bytes Pop3Detector.Patterns Pop3Detector.State Pop3Detector.Server

/-- `eoc[pattern_index]`. The table has 29 entries, so `eoc[29]` reads the byte stored after
it, which `beyond` stands for. -/
def eocAt (beyond : Bool) (idx : Nat) : Bool := eoc.getD idx beyond

/-- `for (; (s < end) && *s != '\r' && *s != '\n'; s++);` -/
def skipToEol (s : List UInt8) : List UInt8 := s.dropWhile fun c => !isCrLf c

/-- `for (; (s < end) && (*s == '\r' || *s == '\n'); s++);` -/
def skipCrLf (s : List UInt8) : List UInt8 := s.dropWhile isCrLf

/-- The bytes the USER/APOP scan copies: `isalnum(*s)` or one of `.@-_`. -/
def isUsernameChar (c : UInt8) : Bool :=
  isalnum c || c == 0x2E || c == 0x40 || c == 0x2D || c == 0x5F

/-- The backtick that starts the dropped part of a name. -/
def tick : UInt8 := 0x60

/-- `sizeof(username)`: `((255 - (sizeof(USER) - 1)) - 2) + 1` bytes, the last kept for the NUL
by `p_end`. -/
def usernameSize : Nat := ((255 - 5) - 2) + 1

/-- The USER/APOP loop `for (; s < end && p < p_end; s++)`, `name` being the bytes written so far:
the name stored in `fd->username`, if the loop stopped on a CR, LF or space with a nonempty name,
and the cursor where the loop stopped. -/
def scanUsername : List UInt8 → List UInt8 → Bool → Option (List UInt8) × List UInt8
  | [], _, _ => (none, [])
  | c :: s, name, foundTick =>
    if name.length < usernameSize - 1 then
      if isUsernameChar c then scanUsername s (if foundTick then name else name ++ [c]) foundTick
      else if c = tick then scanUsername s name true
      else if c = cr ∨ c = lf ∨ c = sp then (if name = [] then none else some name, c :: s)
      else (none, c :: s)
    else (none, c :: s)

/-- `case POP3_CLIENT_STATE_AUTH`, the `switch (pattern_index)` over the enumerators of
`Client_App_Pattern_Index`, from the cursor just past the matched pattern. -/
def authCommand (beyond : Bool) (idx : Nat) (fd : ClientPOP3Data) (s : List UInt8) :
    ClientPOP3Data × List UInt8 :=
  if idx = ClientAppPatternIndex.toNat .stlsEoc ∨ idx = ClientAppPatternIndex.toNat .stlsEoc2 then
    ({ fd with state := .stlsCmd }, skipCrLf s)
  else if idx = ClientAppPatternIndex.toNat .apop ∨ idx = ClientAppPatternIndex.toNat .user then
    let r := scanUsername s [] false
    let fd := { fd with username := r.1.or fd.username }
    let fd := if idx = ClientAppPatternIndex.toNat .apop then { fd with state := .trans } else fd
    (fd, skipCrLf (skipToEol r.2))
  else if idx = ClientAppPatternIndex.toNat .auth then
    ({ fd with state := .trans }, skipCrLf (skipToEol s))
  else if idx = ClientAppPatternIndex.toNat .authEoc ∨ idx = ClientAppPatternIndex.toNat .authEoc2 ∨
      idx = ClientAppPatternIndex.toNat .authEoc3 ∨ idx = ClientAppPatternIndex.toNat .authEoc4 then
    (fd, skipCrLf s)
  else if idx = ClientAppPatternIndex.toNat .pass ∧ fd.gotUser = true then
    ({ fd with state := .trans }, skipCrLf (skipToEol s))
  else (fd, skipCrLf (if eocAt beyond idx then s else skipToEol s))

/-- `case POP3_CLIENT_STATE_TRANS`: a transaction command confirms POP3. -/
def transCommand (beyond : Bool) (idx : Nat) (fd : ClientPOP3Data) (s : List UInt8) :
    ClientPOP3Data × List Call × List UInt8 :=
  let s := skipCrLf (if eocAt beyond idx then s else skipToEol s)
  if ClientAppPatternIndex.toNat .pop3Other ≤ idx then
    ({ fd with detected := true }, [.addApp .pop3 .pop3, .stat .pop3Clients], s)
  else (fd, [], s)

/-- `switch (fd->state)` for a matched command; `POP3_CLIENT_STATE_STLS_CMD` falls back to
`POP3_CLIENT_STATE_AUTH` first. -/
def command (beyond : Bool) (idx : Nat) (fd : ClientPOP3Data) (s : List UInt8) :
    ClientPOP3Data × List Call × List UInt8 :=
  match fd.state with
  | .stlsCmd =>
    let r := authCommand beyond idx { fd with state := .auth } s
    (r.1, [], r.2)
  | .auth =>
    let r := authCommand beyond idx fd s
    (r.1, [], r.2)
  | .trans => transCommand beyond idx fd s

/-- The `while ((length = end - s))` loop for at most `fuel` passes: the record, the calls made
and the status returned. A command no pattern matches ends detection. -/
def commandLoop (beyond : Bool) :
    Nat → POP3DetectorData → List UInt8 → POP3DetectorData × List Call × Status
  | 0, dd, _ => (dd, [], .inprocess)
  | fuel + 1, dd, s =>
    if s = [] then (dd, [], .inprocess)
    else
      let idx := patternIndex s
      if idx = 0 then
        ({ dd with needContinue := false }, [.setSessionFlags .clientDetected], .success)
      else
        let r := command beyond idx dd.client (s.drop (patternOf idx).length)
        let r' := commandLoop beyond fuel { dd with client := r.1 } r.2.2
        (r'.1, r.2.1 ++ r'.2.1, r'.2.2)

/-- The `!fd->set_flags` block: on the first client-detector call the record asks for the
server's packets too. -/
def initFlags (dd : POP3DetectorData) : POP3DetectorData × List Call :=
  if dd.client.setFlags then (dd, [])
  else ({ dd with needContinue := true, client.setFlags := true },
    [.setSessionFlags .clientGetsServerPackets])

/-- `Pop3ClientDetector::validate`: the per-flow record, allocated on first use, the calls made
and the status returned. -/
def validate (beyond : Bool) (blob : Option POP3DetectorData) (dir : Direction)
    (data : List UInt8) : Option POP3DetectorData × List Call × Status :=
  if data = [] then (blob, [], .inprocess)
  else
    let dd := initFlags (blob.getD POP3DetectorData.init)
    if dir = .fromResponder then
      let r := pop3ServerValidate dd.1 data false
      (some r.data, dd.2 ++ r.calls ++
        if r.ret ≠ 0 then [.clearSessionFlags .clientGetsServerPackets] else [], .inprocess)
    else
      let r := commandLoop beyond data.length dd.1 data
      (some r.1, dd.2 ++ r.2.1, r.2.2)

@[simp] theorem initFlags_server (dd : POP3DetectorData) : (initFlags dd).1.server = dd.server := by
  unfold initFlags; split_ifs <;> rfl

@[simp] theorem initFlags_state (dd : POP3DetectorData) :
    (initFlags dd).1.client.state = dd.client.state := by
  unfold initFlags; split_ifs <;> rfl

@[simp] theorem initFlags_username (dd : POP3DetectorData) :
    (initFlags dd).1.client.username = dd.client.username := by
  unfold initFlags; split_ifs <;> rfl

theorem initFlags_quiet (dd : POP3DetectorData) : ∀ c ∈ (initFlags dd).2, c.quiet = true := by
  unfold initFlags; split_ifs <;> simp [Call.quiet]

/-- The calls the command loop can make. -/
def LoopCall (c : Call) : Prop :=
  c = .addApp .pop3 .pop3 ∨ c = .stat .pop3Clients ∨ c = .setSessionFlags .clientDetected

theorem command_calls (beyond : Bool) (idx : Nat) (fd : ClientPOP3Data) (s : List UInt8) :
    ∀ c ∈ (command beyond idx fd s).2.1, LoopCall c := by
  unfold command transCommand
  split
  all_goals try split_ifs
  all_goals simp [LoopCall]

theorem command_trans (beyond : Bool) (idx : Nat) (fd : ClientPOP3Data) (s : List UInt8)
    (h : fd.state = .trans) : (command beyond idx fd s).1.state = .trans := by
  unfold command transCommand
  rw [h]
  dsimp only
  split_ifs <;> simp [h]

theorem commandLoop_invariant (beyond : Bool) (P : POP3DetectorData → Prop)
    (hcmd : ∀ idx dd s, P dd → P { dd with client := (command beyond idx dd.client s).1 })
    (hmiss : ∀ dd, P dd → P { dd with needContinue := false }) :
    ∀ (n : Nat) (dd : POP3DetectorData) (s : List UInt8), P dd → P (commandLoop beyond n dd s).1
  | 0, _, _, h => h
  | n + 1, dd, s, h => by
    unfold commandLoop
    dsimp only
    split_ifs
    · exact h
    · exact hmiss dd h
    · exact commandLoop_invariant beyond P hcmd hmiss n _ _ (hcmd _ dd _ h)

theorem commandLoop_calls (beyond : Bool) :
    ∀ (n : Nat) (dd : POP3DetectorData) (s : List UInt8),
      ∀ c ∈ (commandLoop beyond n dd s).2.1, LoopCall c
  | 0, _, _ => by simp [commandLoop]
  | n + 1, dd, s => by
    unfold commandLoop
    dsimp only
    split_ifs
    · simp
    · simp [LoopCall]
    · intro c hc
      rcases List.mem_append.mp hc with hc | hc
      · exact command_calls beyond _ _ _ c hc
      · exact commandLoop_calls beyond n _ _ c hc

theorem LoopCall.addUserArgs {c : Call} (h : LoopCall c) : c.addUserArgs = none := by
  rcases h with rfl | rfl | rfl <;> rfl

theorem commandLoop_server (beyond : Bool) (n : Nat) (dd : POP3DetectorData) (s : List UInt8) :
    (commandLoop beyond n dd s).1.server = dd.server :=
  commandLoop_invariant beyond (fun d => d.server = dd.server) (fun _ _ _ h => h)
    (fun _ h => h) n dd s rfl

theorem commandLoop_trans (beyond : Bool) (n : Nat) (dd : POP3DetectorData) (s : List UInt8)
    (h : dd.client.state = .trans) : (commandLoop beyond n dd s).1.client.state = .trans :=
  commandLoop_invariant beyond (fun d => d.client.state = .trans)
    (fun _ _ _ h => command_trans _ _ _ _ h) (fun _ h => h) n dd s h

theorem commandLoop_nil (beyond : Bool) (n : Nat) (dd : POP3DetectorData) :
    commandLoop beyond n dd [] = (dd, [], .inprocess) := by
  cases n <;> rfl

theorem scanUsername_chars {w : List UInt8} (h : ∀ c ∈ w, isUsernameChar c = true) :
    ∀ (name s : List UInt8), name.length + w.length < usernameSize - 1 →
      scanUsername (w ++ s) name false = scanUsername s (name ++ w) false := by
  induction w with
  | nil => simp
  | cons c w ih =>
    intro name s hl
    simp only [List.length_cons] at hl
    rw [List.cons_append, scanUsername, if_pos (by omega),
      if_pos (h c (List.mem_cons_self _ _)), if_neg Bool.false_ne_true,
      ih (fun x hx => h x (List.mem_cons_of_mem _ hx)) _ _ (by simp; omega)]
    simp

theorem scanUsername_stop {c : UInt8} (hc : c = cr ∨ c = lf ∨ c = sp) {name : List UInt8}
    (hn : name.length < usernameSize - 1) (s : List UInt8) (foundTick : Bool) :
    scanUsername (c :: s) name foundTick = (if name = [] then none else some name, c :: s) := by
  have hu : isUsernameChar c = false := by rcases hc with rfl | rfl | rfl <;> decide
  have ht : c ≠ tick := by rcases hc with rfl | rfl | rfl <;> decide
  simp [scanUsername, hn, hu, ht, hc]

end Pop3Detector.Pop3ClientDetector
