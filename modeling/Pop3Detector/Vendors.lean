import Pop3Detector.Extraction

namespace Pop3Detector.Vendors

open Pop3Detector.Bytes Pop3Detector.State Pop3Detector.Greeting Pop3Detector.Server
  Pop3Detector.Extraction

theorem serviceStrstr_first {l a b needle : List UInt8} (hl : l = a ++ needle ++ b)
    (hn : needle ≠ []) (h : ¬needle <:+: a ++ needle.dropLast) :
    serviceStrstr (l ++ [cr]) needle = some a.length :=
  serviceStrstr_eq_some hn
    (by rw [hl, List.append_assoc, List.append_assoc, List.drop_left]; exact List.prefix_append _ _)
    (fun j hj => by rw [hl, List.append_assoc _ b]; exact not_prefix_drop_of_first h hj)

theorem serviceStrstr_isSome {hay needle : List UInt8} (hn : needle ≠ []) (h : needle <:+: hay) :
    (serviceStrstr hay needle).isSome = true := by
  obtain ⟨s, t, rfl⟩ := h
  unfold serviceStrstr
  refine List.find?_isSome.mpr ⟨s.length, List.mem_range.mpr ?_, ?_⟩
  · have := List.length_pos.mpr hn
    simp only [List.length_append]
    omega
  · rw [List.append_assoc, List.drop_left, List.isPrefixOf_iff_prefix]
    exact List.prefix_append _ _

theorem serviceStrstr_line {l needle : List UInt8} (h : ¬needle <:+: l)
    (hn : needle.getLast? ≠ some cr) : serviceStrstr (l ++ [cr]) needle = none :=
  serviceStrstr_eq_none (not_infix_concat_cr h hn)

theorem scanTo_stop {l x t z : List UInt8} (rest : List UInt8) (hl : l = x ++ t ++ z) {stop : UInt8}
    (ht : ∀ c ∈ t, c ≠ 0 ∧ c ≠ stop) (hz : z.head? = some stop) :
    scanTo (l ++ cr :: lf :: rest) (l.length + 1) x.length stop = x.length + t.length ∧
      byteAt (l ++ cr :: lf :: rest) (x.length + t.length) = stop := by
  refine ⟨scanTo_token (z := z ++ [cr]) ?_ ht (.inr (head?_append_of_head? hz _)), ?_⟩
  · rw [take_lineEnd, hl, List.append_assoc, List.append_assoc, List.drop_left]
  · rw [← List.length_append]
    exact byteAt_of_head? (by rw [hl, List.append_assoc, List.append_assoc])
      (head?_append_of_head? hz _)

theorem versionString_update_zero (version : Fin 64 → UInt8) :
    versionString (Function.update version 0 0) = [] := by
  rw [versionString, List.ofFn_succ, Function.update_same, List.takeWhile_cons_of_neg (by decide)]

theorem copyToken_found {l a x y : List UInt8} (rest : List UInt8) {stop : UInt8}
    (hl : l = a ++ x ++ stop :: y) (hx : ∀ c ∈ x, c ≠ 0 ∧ c ≠ stop) (hstop : stop ≠ 0)
    (version : Fin 64 → UInt8) :
    versionString (copyToken (l ++ cr :: lf :: rest) (l.length + 1) a.length stop version) =
      x.take 63 := by
  obtain ⟨hq, hb⟩ := scanTo_stop rest (z := stop :: y) hl hx rfl
  have hlen : a.length + x.length < l.length + 1 := by
    rw [hl]
    simp only [List.length_append, List.length_cons]
    omega
  unfold copyToken
  dsimp only
  rw [hq, slice_eq (y := stop :: y ++ cr :: lf :: rest) (by rw [hl]; simp only [List.append_assoc,
    List.cons_append]), if_pos ⟨hlen, by rw [hb]; exact hstop⟩]
  exact versionString_copy (fun c hc => (hx c hc).1) version

theorem copyToken_line_end {l a t : List UInt8} (rest : List UInt8) (hl : l = a ++ t) {stop : UInt8}
    (ht : ∀ c ∈ t, c ≠ 0 ∧ c ≠ stop) (hstop : stop ≠ cr) (version : Fin 64 → UInt8) :
    versionString (copyToken (l ++ cr :: lf :: rest) (l.length + 1) a.length stop version) = [] := by
  unfold copyToken
  dsimp only
  rw [scanTo_line_end rest hl ht hstop, if_neg fun h => lt_irrefl _ h.1]
  exact versionString_update_zero _

theorem scanGreeting_cppop {l a b : List UInt8} (rest : List UInt8) (pd : ServicePOP3Data)
    (hl : l = a ++ venCppop ++ b) (h : ¬venCppop <:+: a ++ venCppop.dropLast) :
    scanGreeting (l ++ cr :: lf :: rest) (l.length + 1) pd =
      if byteAt (l ++ cr :: lf :: rest) (a.length + venCppop.length) = sp then
        { pd with
          vendor := some .cppop
          version := copyToken (l ++ cr :: lf :: rest) (l.length + 1)
            (a.length + venCppop.length + 1) 0x5D pd.version }
      else { pd with vendor := some .cppop } := by
  unfold scanGreeting
  dsimp only
  rw [take_lineEnd, serviceStrstr_first hl (by decide) h]

theorem scanGreeting_cubicCircle {l a b : List UInt8} (rest : List UInt8) (pd : ServicePOP3Data)
    (hl : l = a ++ venCc ++ b) (hcp : ¬venCppop <:+: l) (h : ¬venCc <:+: a ++ venCc.dropLast) :
    scanGreeting (l ++ cr :: lf :: rest) (l.length + 1) pd =
      if a.length + venCc.length + verCc.length ≤ l.length + 1 ∧
          verCc.isPrefixOf ((l ++ cr :: lf :: rest).drop (a.length + venCc.length)) = true then
        { pd with
          vendor := some .cubicCircle
          version := copyToken (l ++ cr :: lf :: rest) (l.length + 1)
            (a.length + venCc.length + verCc.length) sp pd.version }
      else { pd with vendor := some .cubicCircle } := by
  unfold scanGreeting
  dsimp only
  rw [take_lineEnd, serviceStrstr_line hcp (by decide), serviceStrstr_first hl (by decide) h]

theorem scanGreeting_interMail {l : List UInt8} (rest : List UInt8) (pd : ServicePOP3Data)
    (hcp : ¬venCppop <:+: l) (hcc : ¬venCc <:+: l) (him : venIm <:+: l) :
    scanGreeting (l ++ cr :: lf :: rest) (l.length + 1) pd = { pd with vendor := some .interMail } := by
  unfold scanGreeting
  dsimp only
  rw [take_lineEnd, serviceStrstr_line hcp (by decide), serviceStrstr_line hcc (by decide)]
  dsimp only
  rw [if_pos (serviceStrstr_isSome (by decide) (him.trans (List.prefix_append l [cr]).isInfix))]

theorem scanGreeting_none {l : List UInt8} (rest : List UInt8) (pd : ServicePOP3Data)
    (hcp : ¬venCppop <:+: l) (hcc : ¬venCc <:+: l) (him : ¬venIm <:+: l) (hpo : ¬venPo <:+: l) :
    scanGreeting (l ++ cr :: lf :: rest) (l.length + 1) pd = pd := by
  unfold scanGreeting
  dsimp only
  rw [take_lineEnd, serviceStrstr_line hcp (by decide), serviceStrstr_line hcc (by decide)]
  dsimp only
  rw [serviceStrstr_line him (by decide), Option.isSome_none, if_neg Bool.false_ne_true,
    serviceStrstr_line hpo (by decide)]

theorem byteAt_after (x : List UInt8) (c : UInt8) (b rest : List UInt8) :
    byteAt (x ++ c :: b ++ cr :: lf :: rest) x.length = c := by
  rw [List.append_assoc, List.cons_append, byteAt_append]

theorem marker_bytes_printable :
    (∀ c ∈ venCppop, isprint c = true) ∧ (∀ c ∈ venCc, isprint c = true) ∧
      (∀ c ∈ verCc, isprint c = true) ∧ isprint sp = true ∧ isprint 0x5D = true := by
  decide

/-- The cppop rule of the greeting scan: after `cppop` and a space, the version is the text up to
the first `]`, or empty when the line ends first. -/
theorem cppop_greeting (dd : POP3DetectorData) (hs : dd.server.state = .connect) :
    (∀ a x y rest : List UInt8, (∀ c ∈ a ++ x ++ y, isprint c = true) → 0x5D ∉ x →
      ¬venCppop <:+: pop3Ok ++ a ++ venCppop.dropLast →
      ∃ version, greetingFields (pop3ServerValidate dd
          (pop3Ok ++ a ++ venCppop ++ sp :: (x ++ 0x5D :: y) ++ cr :: lf :: rest) true).data.server =
        (some .cppop, version, dd.server.subtype) ∧ versionString version = x.take 63) ∧
    (∀ a t rest : List UInt8, (∀ c ∈ a ++ t, isprint c = true) → 0x5D ∉ t →
      ¬venCppop <:+: pop3Ok ++ a ++ venCppop.dropLast →
      ∃ version, greetingFields (pop3ServerValidate dd
          (pop3Ok ++ a ++ venCppop ++ sp :: t ++ cr :: lf :: rest) true).data.server =
        (some .cppop, version, dd.server.subtype) ∧ versionString version = []) ∧
    (∀ a b rest : List UInt8, (∀ c ∈ a ++ b, isprint c = true) → b.head? ≠ some sp →
      ¬venCppop <:+: pop3Ok ++ a ++ venCppop.dropLast →
      greetingFields (pop3ServerValidate dd
          (pop3Ok ++ a ++ venCppop ++ b ++ cr :: lf :: rest) true).data.server =
        (some .cppop, dd.server.version, dd.server.subtype)) := by
  obtain ⟨hcp, -, -, hsp, hrb⟩ := marker_bytes_printable
  have hpos : ∀ a : List UInt8, (pop3Ok ++ a).length + venCppop.length + 1 =
      (pop3Ok ++ a ++ venCppop ++ [sp]).length := fun a => by
    simp only [List.length_append, List.length_singleton]
  refine ⟨fun a x y rest hp hx hfirst => ?_, fun a t rest hp ht hfirst => ?_,
    fun a b rest hp hb hfirst => ?_⟩
  · simp only [List.forall_mem_append] at hp
    have hm : ∀ c ∈ a ++ venCppop ++ sp :: (x ++ 0x5D :: y), isprint c = true := by
      simp only [List.forall_mem_append, List.forall_mem_cons]
      exact ⟨⟨hp.1.1, hcp⟩, hsp, hp.1.2, hrb, hp.2⟩
    have hb : byteAt (pop3Ok ++ a ++ venCppop ++ sp :: (x ++ 0x5D :: y) ++ cr :: lf :: rest)
        ((pop3Ok ++ a).length + venCppop.length) = sp := by
      rw [← List.length_append]
      exact byteAt_after _ _ _ _
    rw [greetingFields_connect dd hs rest (by simp only [List.append_assoc]) hm,
      scanGreeting_cppop rest _ (a := pop3Ok ++ a) rfl hfirst, if_pos hb]
    refine ⟨_, rfl, ?_⟩
    dsimp only
    rw [hpos]
    exact copyToken_found rest (a := pop3Ok ++ a ++ venCppop ++ [sp]) (x := x) (y := y)
      (by simp only [List.append_assoc, List.singleton_append, List.cons_append, List.nil_append])
      (fun c hc => ⟨ne_zero_of_isprint (hp.1.2 c hc), fun h => hx (by rwa [h] at hc)⟩)
      (by decide) _
  · simp only [List.forall_mem_append] at hp
    have hm : ∀ c ∈ a ++ venCppop ++ sp :: t, isprint c = true := by
      simp only [List.forall_mem_append, List.forall_mem_cons]
      exact ⟨⟨hp.1, hcp⟩, hsp, hp.2⟩
    have hb : byteAt (pop3Ok ++ a ++ venCppop ++ sp :: t ++ cr :: lf :: rest)
        ((pop3Ok ++ a).length + venCppop.length) = sp := by
      rw [← List.length_append]
      exact byteAt_after _ _ _ _
    rw [greetingFields_connect dd hs rest (by simp only [List.append_assoc]) hm,
      scanGreeting_cppop rest _ (a := pop3Ok ++ a) rfl hfirst, if_pos hb]
    refine ⟨_, rfl, ?_⟩
    dsimp only
    rw [hpos]
    exact copyToken_line_end rest (a := pop3Ok ++ a ++ venCppop ++ [sp]) (t := t)
      (by simp only [List.append_assoc, List.singleton_append])
      (fun c hc => ⟨ne_zero_of_isprint (hp.2 c hc), fun h => ht (by rwa [h] at hc)⟩) (by decide) _
  · simp only [List.forall_mem_append] at hp
    have hm : ∀ c ∈ a ++ venCppop ++ b, isprint c = true := by
      simp only [List.forall_mem_append]
      exact ⟨⟨hp.1, hcp⟩, hp.2⟩
    have hbyte : byteAt (pop3Ok ++ a ++ venCppop ++ b ++ cr :: lf :: rest)
        ((pop3Ok ++ a).length + venCppop.length) ≠ sp := by
      rw [← List.length_append]
      rcases b with _ | ⟨c, b⟩
      · rw [List.append_nil, byteAt_append]
        decide
      · rw [byteAt_after]
        exact fun h => hb (by rw [h]; rfl)
    rw [greetingFields_connect dd hs rest (by simp only [List.append_assoc]) hm,
      scanGreeting_cppop rest _ (a := pop3Ok ++ a) rfl hfirst, if_neg hbyte]
    rfl

theorem cppop_version_to_bracket :
    POP3DetectorData.init.server.state = .connect ∧
    (∀ c ∈ ascii " " ++ ascii "1.0" ++ ascii " ready", isprint c = true) ∧ (0x5D : UInt8) ∉ ascii "1.0" ∧
    ¬venCppop <:+: pop3Ok ++ ascii " " ++ venCppop.dropLast ∧
    ∃ version, greetingFields (pop3ServerValidate POP3DetectorData.init
        (pop3Ok ++ ascii " " ++ venCppop ++ sp :: (ascii "1.0" ++ 0x5D :: ascii " ready") ++
          cr :: lf :: []) true).data.server =
      (some .cppop, version, POP3DetectorData.init.server.subtype) ∧
      versionString version = (ascii "1.0").take 63 :=
  ⟨rfl, by decide, by decide, by decide,
    (cppop_greeting POP3DetectorData.init rfl).1 _ _ _ [] (by decide) (by decide) (by decide)⟩

/-- The Cubic Circle rule of the greeting scan: after `Cubic Circle's v`, the version is the text
up to the next space, or empty when the line ends first. -/
theorem cubicCircle_greeting (dd : POP3DetectorData) (hs : dd.server.state = .connect) :
    (∀ a x y rest : List UInt8, (∀ c ∈ a ++ x ++ y, isprint c = true) → sp ∉ x →
      ¬venCppop <:+: pop3Ok ++ a ++ venCc ++ verCc ++ x ++ sp :: y →
      ¬venCc <:+: pop3Ok ++ a ++ venCc.dropLast →
      ∃ version, greetingFields (pop3ServerValidate dd
          (pop3Ok ++ a ++ venCc ++ verCc ++ x ++ sp :: y ++ cr :: lf :: rest) true).data.server =
        (some .cubicCircle, version, dd.server.subtype) ∧ versionString version = x.take 63) ∧
    (∀ a t rest : List UInt8, (∀ c ∈ a ++ t, isprint c = true) → sp ∉ t →
      ¬venCppop <:+: pop3Ok ++ a ++ venCc ++ verCc ++ t →
      ¬venCc <:+: pop3Ok ++ a ++ venCc.dropLast →
      ∃ version, greetingFields (pop3ServerValidate dd
          (pop3Ok ++ a ++ venCc ++ verCc ++ t ++ cr :: lf :: rest) true).data.server =
        (some .cubicCircle, version, dd.server.subtype) ∧ versionString version = []) ∧
    (∀ a b rest : List UInt8, (∀ c ∈ a ++ b, isprint c = true) → ¬verCc <+: b →
      ¬venCppop <:+: pop3Ok ++ a ++ venCc ++ b → ¬venCc <:+: pop3Ok ++ a ++ venCc.dropLast →
      greetingFields (pop3ServerValidate dd
          (pop3Ok ++ a ++ venCc ++ b ++ cr :: lf :: rest) true).data.server =
        (some .cubicCircle, dd.server.version, dd.server.subtype)) := by
  obtain ⟨-, hcc, hvcc, hsp, -⟩ := marker_bytes_printable
  have hpos : ∀ a : List UInt8, (pop3Ok ++ a).length + venCc.length + verCc.length =
      (pop3Ok ++ a ++ venCc ++ verCc).length := fun a => by
    simp only [List.length_append]
  have hsv : ∀ a t rest : List UInt8, (pop3Ok ++ a).length + venCc.length + verCc.length ≤
      (pop3Ok ++ a ++ venCc ++ verCc ++ t).length + 1 ∧
      verCc.isPrefixOf ((pop3Ok ++ a ++ venCc ++ verCc ++ t ++ cr :: lf :: rest).drop
        ((pop3Ok ++ a).length + venCc.length)) = true := fun a t rest => by
    refine ⟨by simp only [List.length_append]; omega, ?_⟩
    rw [← List.length_append]
    exact isPrefixOf_drop (y := t ++ cr :: lf :: rest) (by simp only [List.append_assoc])
  refine ⟨fun a x y rest hp hx hcp hfirst => ?_, fun a t rest hp ht hcp hfirst => ?_,
    fun a b rest hp hb hcp hfirst => ?_⟩
  · simp only [List.forall_mem_append] at hp
    have hm : ∀ c ∈ a ++ venCc ++ verCc ++ x ++ sp :: y, isprint c = true := by
      simp only [List.forall_mem_append, List.forall_mem_cons]
      exact ⟨⟨⟨⟨hp.1.1, hcc⟩, hvcc⟩, hp.1.2⟩, hsp, hp.2⟩
    have hline : pop3Ok ++ a ++ venCc ++ verCc ++ x ++ sp :: y =
        pop3Ok ++ a ++ venCc ++ verCc ++ (x ++ sp :: y) := by
      simp only [List.append_assoc]
    rw [greetingFields_connect dd hs rest (by simp only [List.append_assoc]) hm,
      scanGreeting_cubicCircle rest _ (a := pop3Ok ++ a) (b := verCc ++ x ++ sp :: y)
        (by simp only [List.append_assoc]) hcp hfirst, hline, if_pos (hsv a _ rest)]
    refine ⟨_, rfl, ?_⟩
    dsimp only
    rw [hpos]
    exact copyToken_found rest (a := pop3Ok ++ a ++ venCc ++ verCc) (x := x) (y := y)
      (by simp only [List.append_assoc])
      (fun c hc => ⟨ne_zero_of_isprint (hp.1.2 c hc), fun h => hx (by rwa [h] at hc)⟩) (by decide) _
  · simp only [List.forall_mem_append] at hp
    have hm : ∀ c ∈ a ++ venCc ++ verCc ++ t, isprint c = true := by
      simp only [List.forall_mem_append]
      exact ⟨⟨⟨hp.1, hcc⟩, hvcc⟩, hp.2⟩
    rw [greetingFields_connect dd hs rest (by simp only [List.append_assoc]) hm,
      scanGreeting_cubicCircle rest _ (a := pop3Ok ++ a) (b := verCc ++ t)
        (by simp only [List.append_assoc]) hcp hfirst, if_pos (hsv a t rest)]
    refine ⟨_, rfl, ?_⟩
    dsimp only
    rw [hpos]
    exact copyToken_line_end rest (a := pop3Ok ++ a ++ venCc ++ verCc) (t := t) rfl
      (fun c hc => ⟨ne_zero_of_isprint (hp.2 c hc), fun h => ht (by rwa [h] at hc)⟩) (by decide) _
  · simp only [List.forall_mem_append] at hp
    have hm : ∀ c ∈ a ++ venCc ++ b, isprint c = true := by
      simp only [List.forall_mem_append]
      exact ⟨⟨hp.1, hcc⟩, hp.2⟩
    have hno : ¬((pop3Ok ++ a).length + venCc.length + verCc.length ≤
        (pop3Ok ++ a ++ venCc ++ b).length + 1 ∧
        verCc.isPrefixOf ((pop3Ok ++ a ++ venCc ++ b ++ cr :: lf :: rest).drop
          ((pop3Ok ++ a).length + venCc.length)) = true) := by
      rw [← List.length_append, drop_after]
      exact fun h => hb (prefix_of_prefix_cr (by decide) (List.isPrefixOf_iff_prefix.mp h.2))
    rw [greetingFields_connect dd hs rest (by simp only [List.append_assoc]) hm,
      scanGreeting_cubicCircle rest _ (a := pop3Ok ++ a) rfl hcp hfirst, if_neg hno]
    rfl

theorem cubicCircle_version_to_space :
    POP3DetectorData.init.server.state = .connect ∧
    (∀ c ∈ ascii " " ++ ascii "1.22" ++ ascii "POP3", isprint c = true) ∧ sp ∉ ascii "1.22" ∧
    ¬venCppop <:+: pop3Ok ++ ascii " " ++ venCc ++ verCc ++ ascii "1.22" ++ sp :: ascii "POP3" ∧
    ¬venCc <:+: pop3Ok ++ ascii " " ++ venCc.dropLast ∧
    ∃ version, greetingFields (pop3ServerValidate POP3DetectorData.init
        (pop3Ok ++ ascii " " ++ venCc ++ verCc ++ ascii "1.22" ++ sp :: ascii "POP3" ++
          cr :: lf :: []) true).data.server =
      (some .cubicCircle, version, POP3DetectorData.init.server.subtype) ∧
      versionString version = (ascii "1.22").take 63 :=
  ⟨rfl, by decide, by decide, by decide, by decide,
    (cubicCircle_greeting POP3DetectorData.init rfl).1 _ _ _ [] (by decide) (by decide)
      (by decide) (by decide)⟩

/-- InterMail sets only the vendor, and a greeting with none of the four markers leaves the
greeting fields alone. -/
theorem interMail_greeting (dd : POP3DetectorData) (hs : dd.server.state = .connect) :
    (∀ m rest : List UInt8, (∀ c ∈ m, isprint c = true) → ¬venCppop <:+: pop3Ok ++ m →
      ¬venCc <:+: pop3Ok ++ m → venIm <:+: pop3Ok ++ m →
      greetingFields (pop3ServerValidate dd (pop3Ok ++ m ++ cr :: lf :: rest) true).data.server =
        (some .interMail, dd.server.version, dd.server.subtype)) ∧
    (∀ m rest : List UInt8, (∀ c ∈ m, isprint c = true) → ¬venCppop <:+: pop3Ok ++ m →
      ¬venCc <:+: pop3Ok ++ m → ¬venIm <:+: pop3Ok ++ m → ¬venPo <:+: pop3Ok ++ m →
      greetingFields (pop3ServerValidate dd (pop3Ok ++ m ++ cr :: lf :: rest) true).data.server =
        greetingFields dd.server) := by
  refine ⟨fun m rest hm hcp hcc him => ?_, fun m rest hm hcp hcc him hpo => ?_⟩
  · rw [greetingFields_connect dd hs rest rfl hm, scanGreeting_interMail rest _ hcp hcc him]
    rfl
  · rw [greetingFields_connect dd hs rest rfl hm, scanGreeting_none rest _ hcp hcc him hpo]
    rfl

theorem interMail_vendor_only :
    POP3DetectorData.init.server.state = .connect ∧
    (∀ c ∈ ascii " InterMail ready", isprint c = true) ∧
    ¬venCppop <:+: pop3Ok ++ ascii " InterMail ready" ∧ ¬venCc <:+: pop3Ok ++ ascii " InterMail ready" ∧
    venIm <:+: pop3Ok ++ ascii " InterMail ready" ∧
    greetingFields (pop3ServerValidate POP3DetectorData.init
        (pop3Ok ++ ascii " InterMail ready" ++ cr :: lf :: []) true).data.server =
      (some .interMail, POP3DetectorData.init.server.version, POP3DetectorData.init.server.subtype) :=
  ⟨rfl, by decide, by decide, by decide, by decide,
    (interMail_greeting POP3DetectorData.init rfl).1 _ [] (by decide) (by decide) (by decide)
      (by decide)⟩

end Pop3Detector.Vendors
