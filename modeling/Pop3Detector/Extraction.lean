import Pop3Detector.Responses

namespace Pop3Detector.Extraction

open Pop3Detector.Bytes Pop3Detector.State Pop3Detector.Greeting Pop3Detector.Server

theorem ne_zero_of_isprint {c : UInt8} (h : isprint c = true) : c ≠ 0 := by
  rintro rfl
  exact absurd h (by decide)

theorem serviceStrstr_eq_none {hay needle : List UInt8} (h : ¬needle <:+: hay) :
    serviceStrstr hay needle = none := by
  unfold serviceStrstr
  rw [List.find?_range_eq_none]
  intro i _
  rw [Bool.not_eq_true', Bool.eq_false_iff, ne_eq, List.isPrefixOf_iff_prefix]
  exact fun hp => h (hp.isInfix.trans (List.drop_suffix _ _).isInfix)

theorem serviceStrstr_eq_some {hay needle : List UInt8} {i : Nat} (hn : needle ≠ [])
    (hi : needle <+: hay.drop i) (hfirst : ∀ j < i, ¬needle <+: hay.drop j) :
    serviceStrstr hay needle = some i := by
  unfold serviceStrstr
  rw [List.find?_range_eq_some]
  refine ⟨List.isPrefixOf_iff_prefix.mpr hi, List.mem_range.mpr ?_, fun j hj => ?_⟩
  · by_contra hge
    rw [List.drop_eq_nil_of_le (by omega)] at hi
    exact hn (List.prefix_nil.mp hi)
  · rw [Bool.not_eq_true', Bool.eq_false_iff, ne_eq, List.isPrefixOf_iff_prefix]
    exact hfirst j hj

theorem not_prefix_drop_of_first {needle a b : List UInt8} (h : ¬needle <:+: a ++ needle.dropLast)
    {j : Nat} (hj : j < a.length) : ¬needle <+: (a ++ needle ++ b).drop j := by
  intro hp
  rw [List.append_assoc, List.drop_append_of_le_length hj.le] at hp
  have hpre : a.drop j ++ needle.dropLast <+: a.drop j ++ (needle ++ b) :=
    (List.prefix_append_right_inj _).mpr ((List.dropLast_prefix needle).trans (List.prefix_append _ _))
  have hlen : needle.length ≤ (a.drop j ++ needle.dropLast).length := by
    simp only [List.length_append, List.length_drop, List.length_dropLast]
    omega
  refine h ((List.prefix_of_prefix_length_le hp hpre hlen).isInfix.trans ?_)
  exact ⟨a.take j, [], by rw [List.append_nil, ← List.append_assoc, List.take_append_drop]⟩

theorem not_infix_concat_cr {needle l : List UInt8} (h : ¬needle <:+: l)
    (hn : needle.getLast? ≠ some cr) : ¬needle <:+: l ++ [cr] := by
  rw [List.infix_concat_iff, List.suffix_concat_iff]
  rintro ((rfl | ⟨t, rfl, -⟩) | hi)
  · exact h List.nil_infix
  · exact hn (by simp)
  · exact h hi

theorem scanTo_token {g : List UInt8} {lineEnd p : Nat} {stop : UInt8} {t z : List UInt8}
    (h : (g.take lineEnd).drop p = t ++ z) (ht : ∀ c ∈ t, c ≠ 0 ∧ c ≠ stop)
    (hz : z = [] ∨ z.head? = some stop) : scanTo g lineEnd p stop = p + t.length := by
  unfold scanTo
  rw [h, List.takeWhile_append_of_pos fun c hc => by simp [ht c hc]]
  rcases hz with rfl | hz
  · simp
  · obtain ⟨rest', rfl⟩ : ∃ rest', z = stop :: rest' := by
      cases z with
      | nil => cases hz
      | cons c rest' => exact ⟨rest', by simpa using hz⟩
    simp

theorem byteAt_append (a : List UInt8) (c : UInt8) (b : List UInt8) :
    byteAt (a ++ c :: b) a.length = c := by
  rw [byteAt, List.getD_eq_getElem?_getD, List.getElem?_append_right (le_refl _), Nat.sub_self,
    List.getElem?_cons_zero, Option.getD_some]

theorem copyVersion_spec : ∀ (cs : List UInt8) (version : Fin 64 → UInt8) (v : Fin 64),
    (copyVersion cs version v).2.val = min (v.val + cs.length) 63 ∧
    ∀ j : Fin 64, (copyVersion cs version v).1 j =
      if v.val ≤ j.val ∧ j.val < min (v.val + cs.length) 63 then cs.getD (j.val - v.val) 0
      else version j
  | [], version, v => by
    have := v.isLt
    exact ⟨show v.val = _ by simp only [List.length_nil]; omega,
      fun j => by rw [if_neg (by simp only [List.length_nil]; omega)]; rfl⟩
  | c :: cs, version, v => by
    unfold copyVersion
    split
    · next hv =>
      obtain ⟨h2, h1⟩ := copyVersion_spec cs (Function.update version v c) ⟨v.val + 1, by omega⟩
      simp only [List.length_cons] at h2 h1 ⊢
      refine ⟨by rw [h2]; omega, fun j => ?_⟩
      rw [h1 j]
      rcases lt_trichotomy j.val v.val with hj | hj | hj
      · rw [if_neg (by omega), if_neg (by omega), Function.update_noteq (Fin.ne_of_val_ne (by omega))]
      · rw [if_neg (by omega), if_pos (by omega), Fin.ext hj, Function.update_same, Nat.sub_self]
        rfl
      · rw [Function.update_noteq (Fin.ne_of_val_ne (by omega))]
        by_cases hr : j.val < min (v.val + (cs.length + 1)) 63
        · rw [if_pos (by omega), if_pos (by omega),
            show j.val - v.val = (j.val - (v.val + 1)) + 1 by omega]
          rfl
        · rw [if_neg (by omega), if_neg (by omega)]
    · next hv =>
      exact ⟨by simp only [List.length_cons]; omega, fun j => by rw [if_neg (by omega)]⟩

theorem versionString_copy {cs : List UInt8} (hcs : ∀ c ∈ cs, c ≠ 0) (version : Fin 64 → UInt8) :
    versionString (Function.update (copyVersion cs version 0).1 (copyVersion cs version 0).2 0) =
      cs.take 63 := by
  obtain ⟨h2, h1⟩ := copyVersion_spec cs version 0
  simp only [Fin.val_zero, Nat.zero_add] at h2 h1
  generalize copyVersion cs version 0 = r at h2 h1
  obtain ⟨buf, n⟩ := r
  dsimp only at h2 h1 ⊢
  have htake : (List.ofFn (Function.update buf n 0)).take n.val = cs.take 63 := by
    apply List.ext_getElem
    · simp only [List.length_take, List.length_ofFn, List.length_take]
      omega
    · intro i hi _
      simp only [List.length_take, List.length_ofFn] at hi
      rw [List.getElem_take, List.getElem_ofFn, Function.update_noteq (Fin.ne_of_val_ne (by simp; omega)),
        h1, if_pos (by simp; omega), List.getElem_take]
      simp [List.getD_eq_getElem?_getD, List.getElem?_eq_getElem (show i < cs.length by omega)]
  have hdrop : (List.ofFn (Function.update buf n 0)).drop n.val =
      0 :: (List.ofFn (Function.update buf n 0)).drop (n.val + 1) := by
    rw [List.drop_eq_getElem_cons (by rw [List.length_ofFn]; exact n.isLt), List.getElem_ofFn]
    rw [Fin.eta, Function.update_same]
  rw [versionString, ← List.take_append_drop n.val (List.ofFn _), htake, hdrop,
    List.takeWhile_append_of_pos fun c hc => by simpa using hcs c (List.mem_of_mem_take hc),
    List.takeWhile_cons_of_neg (by decide), List.append_nil]

theorem versionString_copyRange (g : List UInt8) (ver p : Nat) (version : Fin 64 → UInt8) :
    versionString (copyRange g ver p version) = ((slice g ver p).takeWhile (· != 0)).take 63 := by
  unfold copyRange
  dsimp only
  exact versionString_copy (fun c hc => by simpa using List.mem_takeWhile_imp hc) version

theorem take_lineEnd (l rest : List UInt8) :
    (l ++ cr :: lf :: rest).take (l.length + 1) = l ++ [cr] := by
  rw [List.take_append_eq_append_take, List.take_of_length_le (by omega), Nat.add_sub_cancel_left]
  rfl

theorem prefix_of_prefix_cr {p b z : List UInt8} (hp : cr ∉ p) (h : p <+: b ++ cr :: z) :
    p <+: b := by
  by_cases hl : p.length ≤ b.length
  · exact List.prefix_of_prefix_length_le h (List.prefix_append _ _) hl
  · obtain ⟨u, hu⟩ := h
    have he : (p ++ u)[b.length]? = (b ++ cr :: z)[b.length]? := by rw [hu]
    rw [List.getElem?_append_left (by omega), List.getElem?_append_right le_rfl, Nat.sub_self,
      List.getElem?_cons_zero] at he
    exact absurd (List.getElem?_mem he) hp

theorem drop_after {x b : List UInt8} (rest : List UInt8) :
    (x ++ b ++ cr :: lf :: rest).drop x.length = b ++ cr :: lf :: rest := by
  rw [List.append_assoc, List.drop_left]

theorem patternTest {l x u pat : List UInt8} (rest : List UInt8) (hl : l = x ++ u) (hp : cr ∉ pat) :
    ((l.length + 1 < x.length + pat.length ∨
      pat.isPrefixOf ((l ++ cr :: lf :: rest).drop x.length) = false) ↔ ¬pat <+: u) ∧
    ((x.length + pat.length < l.length + 1 ∧
      pat.isPrefixOf ((l ++ cr :: lf :: rest).drop x.length) = true) ↔ pat <+: u) := by
  have key : pat.isPrefixOf (u ++ cr :: lf :: rest) = true ↔ pat <+: u :=
    ⟨fun h => prefix_of_prefix_cr hp (List.isPrefixOf_iff_prefix.mp h),
      fun h => List.isPrefixOf_iff_prefix.mpr (h.trans (List.prefix_append _ _))⟩
  have hlen : l.length = x.length + u.length := by rw [hl, List.length_append]
  rw [hl, drop_after]
  refine ⟨⟨?_, fun h => .inr (Bool.eq_false_iff.mpr fun h' => h (key.mp h'))⟩,
    ⟨fun h => key.mp h.2, fun h => ⟨?_, key.mpr h⟩⟩⟩
  · rintro (h | h) hpu
    · have := hpu.length_le
      rw [← hl] at h
      omega
    · rw [key.mpr hpu] at h
      cases h
  · have := h.length_le
    rw [← hl]
    omega

theorem scanTo_line_end (rest : List UInt8) {l a t : List UInt8} (hl : l = a ++ t) {stop : UInt8}
    (ht : ∀ c ∈ t, c ≠ 0 ∧ c ≠ stop) (hstop : stop ≠ cr) :
    scanTo (l ++ cr :: lf :: rest) (l.length + 1) a.length stop = l.length + 1 := by
  rw [scanTo_token (t := t ++ [cr]) (z := []) ?_ ?_ (.inl rfl)]
  · simp [hl]
    omega
  · rw [take_lineEnd, hl, List.append_nil, List.append_assoc, List.drop_left]
  · intro c hc
    rcases List.mem_append.mp hc with hc | hc
    · exact ht c hc
    · rw [List.mem_singleton.mp hc]
      exact ⟨by decide, hstop.symm⟩

theorem postOffice_version_at_end (a v rest : List UInt8) (pd : ServicePOP3Data)
    (hv : ∀ c ∈ v, isprint c = true ∧ c ≠ sp) :
    postOffice (a ++ venPo ++ verPo ++ v ++ cr :: lf :: rest)
        ((a ++ venPo ++ verPo ++ v).length + 1) a.length pd =
      { pd with vendor := some .postOffice } := by
  have hscan := scanTo_line_end rest (a := a ++ venPo ++ verPo) rfl
    (fun c hc => ⟨ne_zero_of_isprint (hv c hc).1, (hv c hc).2⟩) (by decide)
  unfold postOffice
  dsimp only
  rw [if_neg ?_]
  · simp only [List.length_append] at hscan ⊢
    rw [hscan, if_pos (.inr (.inl le_rfl))]
  · simp only [List.length_append, List.append_assoc, not_or]
    refine ⟨by omega, ?_⟩
    rw [List.drop_append, List.drop_left]
    simp

theorem head?_append_of_head? {p : List UInt8} {c : UInt8} (h : p.head? = some c) (y : List UInt8) :
    (p ++ y).head? = some c := by
  cases p with
  | nil => cases h
  | cons d p => exact h

theorem byteAt_of_head? {g x z : List UInt8} {c : UInt8} (hg : g = x ++ z) (hz : z.head? = some c) :
    byteAt g x.length = c := by
  cases z with
  | nil => cases hz
  | cons d z =>
    cases hz
    rw [hg, byteAt_append]

theorem scanTo_space {l x t z : List UInt8} (rest : List UInt8) (hl : l = x ++ t ++ z)
    (ht : ∀ c ∈ t, isprint c = true ∧ c ≠ sp) (hz : z.head? = some sp) :
    scanTo (l ++ cr :: lf :: rest) (l.length + 1) x.length sp = x.length + t.length ∧
      byteAt (l ++ cr :: lf :: rest) (x.length + t.length) = sp := by
  refine ⟨scanTo_token (z := z ++ [cr]) ?_
    (fun c hc => ⟨ne_zero_of_isprint (ht c hc).1, (ht c hc).2⟩) (.inr (head?_append_of_head? hz _)), ?_⟩
  · rw [take_lineEnd, hl, List.append_assoc, List.append_assoc, List.drop_left]
  · rw [← List.length_append]
    exact byteAt_of_head? (by rw [hl, List.append_assoc, List.append_assoc])
      (head?_append_of_head? hz _)

theorem isPrefixOf_drop {g x p y : List UInt8} (hg : g = x ++ p ++ y) :
    p.isPrefixOf (g.drop x.length) = true := by
  rw [hg, List.append_assoc, List.drop_left, List.isPrefixOf_iff_prefix]
  exact List.prefix_append _ _

theorem slice_eq {g x t y : List UInt8} (hg : g = x ++ t ++ y) :
    slice g x.length (x.length + t.length) = t := by
  rw [Greeting.slice, hg, List.append_assoc, List.drop_left, Nat.add_sub_cancel_left, List.take_left]

theorem versionString_copyRange_printable {g x t y : List UInt8} {q : Nat} (hg : g = x ++ t ++ y)
    (hq : q = x.length + t.length) (ht : ∀ c ∈ t, isprint c = true) (version : Fin 64 → UInt8) :
    versionString (copyRange g x.length q version) = t.take 63 := by
  rw [versionString_copyRange, hq, slice_eq hg,
    List.takeWhile_eq_self_iff.mpr fun c hc => by simpa using ne_zero_of_isprint (ht c hc)]

/-- A nonempty token of printable bytes without a space: V, R, S and W of the spec's rule. -/
def Token (t : List UInt8) : Prop := t ≠ [] ∧ ∀ c ∈ t, isprint c = true ∧ c ≠ sp

instance (t : List UInt8) : Decidable (Token t) :=
  inferInstanceAs (Decidable (t ≠ [] ∧ ∀ c ∈ t, isprint c = true ∧ c ≠ sp))

/-- The line `a` `Post.Office v` V ` release ` R ` with ` S ` version ` W of the spec's
Post.Office rule. -/
def poLine (a v r s w : List UInt8) : List UInt8 :=
  a ++ venPo ++ verPo ++ v ++ verPo2 ++ r ++ subPo ++ s ++ subverPo ++ w

theorem sp_ne_zero : sp ≠ 0 := by decide

theorem verPo2_head : verPo2.head? = some sp := rfl
theorem subPo_head : subPo.head? = some sp := rfl
theorem subverPo_head : subverPo.head? = some sp := rfl

theorem postOffice_version_space (a v z rest : List UInt8) (pd : ServicePOP3Data) (hv : Token v)
    (hz : ¬verPo2 <+: sp :: z) :
    postOffice (a ++ venPo ++ verPo ++ v ++ sp :: z ++ cr :: lf :: rest)
        ((a ++ venPo ++ verPo ++ v ++ sp :: z).length + 1) a.length pd =
      { pd with
        vendor := some Vendor.postOffice
        version := copyRange (a ++ venPo ++ verPo ++ v ++ sp :: z ++ cr :: lf :: rest)
          (a ++ venPo ++ verPo).length (a ++ venPo ++ verPo ++ v).length pd.version } := by
  have hv0 := List.length_pos.mpr hv.1
  obtain ⟨h1, hb1⟩ := scanTo_space (l := a ++ venPo ++ verPo ++ v ++ sp :: z)
    (x := a ++ venPo ++ verPo) rest rfl hv.2 rfl
  have hp1 := isPrefixOf_drop (g := a ++ venPo ++ verPo ++ v ++ sp :: z ++ cr :: lf :: rest)
    (x := a ++ venPo) (p := verPo) (y := v ++ sp :: z ++ cr :: lf :: rest)
    (by simp only [List.append_assoc])
  have hp2 := ((patternTest rest (x := a ++ venPo ++ verPo ++ v) rfl (by decide)).1).mpr hz
  simp only [List.length_append] at h1 hb1 hp1 hp2 ⊢
  unfold postOffice
  dsimp only
  rw [if_neg (by rw [hp1, Bool.true_eq_false, or_false]; omega), h1,
    if_neg (by rw [hb1, or_iff_left sp_ne_zero]; omega), if_pos hp2]

theorem postOffice_release_space (a v r t rest : List UInt8) (pd : ServicePOP3Data) (hv : Token v)
    (hr : Token r) (ht : t.head? = some sp) :
    postOffice (a ++ venPo ++ verPo ++ v ++ verPo2 ++ r ++ t ++ cr :: lf :: rest)
        ((a ++ venPo ++ verPo ++ v ++ verPo2 ++ r ++ t).length + 1) a.length pd =
      { pd with
        vendor := some Vendor.postOffice
        version := copyRange (a ++ venPo ++ verPo ++ v ++ verPo2 ++ r ++ t ++ cr :: lf :: rest)
          (a ++ venPo ++ verPo).length (a ++ venPo ++ verPo ++ v ++ verPo2 ++ r).length pd.version
        subtype := (postOfficeSubtype (a ++ venPo ++ verPo ++ v ++ verPo2 ++ r ++ t ++ cr :: lf :: rest)
          ((a ++ venPo ++ verPo ++ v ++ verPo2 ++ r ++ t).length + 1)
          (a ++ venPo ++ verPo ++ v ++ verPo2 ++ r).length).toList ++ pd.subtype } := by
  have hv0 := List.length_pos.mpr hv.1
  have hr0 := List.length_pos.mpr hr.1
  obtain ⟨h1, hb1⟩ := scanTo_space (l := a ++ venPo ++ verPo ++ v ++ verPo2 ++ r ++ t)
    (x := a ++ venPo ++ verPo) rest (z := verPo2 ++ r ++ t) (by simp only [List.append_assoc]) hv.2
    (head?_append_of_head? (head?_append_of_head? verPo2_head _) _)
  obtain ⟨h2, hb2⟩ := scanTo_space (l := a ++ venPo ++ verPo ++ v ++ verPo2 ++ r ++ t)
    (x := a ++ venPo ++ verPo ++ v ++ verPo2) rest rfl hr.2 ht
  have hp1 := isPrefixOf_drop (g := a ++ venPo ++ verPo ++ v ++ verPo2 ++ r ++ t ++ cr :: lf :: rest)
    (x := a ++ venPo) (p := verPo) (y := v ++ verPo2 ++ r ++ t ++ cr :: lf :: rest)
    (by simp only [List.append_assoc])
  have hp2 := isPrefixOf_drop (g := a ++ venPo ++ verPo ++ v ++ verPo2 ++ r ++ t ++ cr :: lf :: rest)
    (x := a ++ venPo ++ verPo ++ v) (p := verPo2) (y := r ++ t ++ cr :: lf :: rest)
    (by simp only [List.append_assoc])
  simp only [List.length_append] at h1 h2 hb1 hb2 hp1 hp2 ⊢
  unfold postOffice
  dsimp only
  rw [if_neg (by rw [hp1, Bool.true_eq_false, or_false]; omega), h1,
    if_neg (by rw [hb1, or_iff_left sp_ne_zero]; omega),
    if_neg (by rw [hp2, Bool.true_eq_false, or_false]; omega), h2,
    if_neg (by rw [hb2, or_iff_left sp_ne_zero]; omega)]
  cases postOfficeSubtype _ _ _ <;> rfl

theorem postOfficeSubtype_space {l x s u : List UInt8} (rest : List UInt8) (hl : l = x ++ subPo ++ s ++ u)
    (hs : Token s) (hu : u.head? = some sp) :
    ∃ version, postOfficeSubtype (l ++ cr :: lf :: rest) (l.length + 1) x.length = some ⟨s, version⟩ ∧
      (¬subverPo <+: u → version = none) ∧
      (∀ w, u = subverPo ++ w → (∀ c ∈ w, isprint c = true ∧ c ≠ sp) → version = none) ∧
      (∀ w z, u = subverPo ++ w ++ sp :: z → Token w → version = some w) := by
  have hs0 := List.length_pos.mpr hs.1
  obtain ⟨h3, hb⟩ := scanTo_space (x := x ++ subPo) rest hl hs.2 hu
  have hp1 := isPrefixOf_drop (g := l ++ cr :: lf :: rest) (x := x) (p := subPo)
    (y := s ++ u ++ cr :: lf :: rest) (by rw [hl]; simp only [List.append_assoc])
  have hsl := slice_eq (g := l ++ cr :: lf :: rest) (x := x ++ subPo) (t := s)
    (y := u ++ cr :: lf :: rest) (by rw [hl]; simp only [List.append_assoc])
  have hu0 : 0 < u.length := List.length_pos.mpr fun h => by rw [h] at hu; cases hu
  have hlen : l.length = x.length + subPo.length + s.length + u.length := by
    rw [hl]; simp only [List.length_append]
  have htest := patternTest rest (x := x ++ subPo ++ s) hl (by decide : cr ∉ subverPo)
  simp only [List.length_append] at h3 hb hsl htest
  unfold postOfficeSubtype
  rw [if_neg (by rw [hp1, Bool.true_eq_false, or_false]; omega)]
  dsimp only
  rw [h3, if_neg (by rw [hb, or_iff_left sp_ne_zero]; omega), hsl]
  refine ⟨_, rfl, fun hn => if_neg (mt htest.2.mp hn), fun w hw hwt => ?_, fun w z hw hwt => ?_⟩
  · have h4 := scanTo_line_end rest (l := l) (a := x ++ subPo ++ s ++ subverPo) (t := w)
      (by rw [hl, hw]; simp only [List.append_assoc])
      (fun c hc => ⟨ne_zero_of_isprint (hwt c hc).1, (hwt c hc).2⟩) (by decide)
    simp only [List.length_append] at h4
    rw [h4]
    split_ifs with h h'
    · exact absurd h'.2.1 (lt_irrefl _)
    · rfl
    · rfl
  · have hw0 := List.length_pos.mpr hwt.1
    obtain ⟨h4, hb4⟩ := scanTo_space (l := l) (x := x ++ subPo ++ s ++ subverPo) (t := w) (z := sp :: z) rest
      (by rw [hl, hw]; simp only [List.append_assoc]) hwt.2 rfl
    have hsl4 := slice_eq (g := l ++ cr :: lf :: rest) (x := x ++ subPo ++ s ++ subverPo) (t := w)
      (y := sp :: z ++ cr :: lf :: rest) (by rw [hl, hw]; simp only [List.append_assoc])
    have hlen' : u.length = subverPo.length + w.length + (z.length + 1) := by
      rw [hw]; simp only [List.length_append, List.length_cons]
    simp only [List.length_append] at h4 hb4 hsl4
    rw [if_pos (htest.2.mpr (by rw [hw, List.append_assoc]; exact List.prefix_append _ _)), h4,
      if_pos ⟨by omega, by omega, by rw [hb4]; exact sp_ne_zero⟩, hsl4]

theorem postOfficeSubtype_none {l x u : List UInt8} (rest : List UInt8) (hl : l = x ++ u)
    (hu : ¬subPo <+: u) : postOfficeSubtype (l ++ cr :: lf :: rest) (l.length + 1) x.length = none := by
  unfold postOfficeSubtype
  rw [if_pos ((patternTest rest hl (by decide)).1.mpr hu)]

theorem postOfficeSubtype_at_end (a v r s w rest : List UInt8) (hs : Token s) (hw : Token w) :
    postOfficeSubtype (poLine a v r s w ++ cr :: lf :: rest) ((poLine a v r s w).length + 1)
      (a ++ venPo ++ verPo ++ v ++ verPo2 ++ r).length = some ⟨s, none⟩ := by
  obtain ⟨ver, h, -, hend, -⟩ := postOfficeSubtype_space rest (l := poLine a v r s w)
    (x := a ++ venPo ++ verPo ++ v ++ verPo2 ++ r) (u := subverPo ++ w)
    (by simp only [poLine, List.append_assoc]) hs (head?_append_of_head? subverPo_head w)
  rw [h, hend w rfl hw.2]

theorem postOffice_poLine (a v r s w rest : List UInt8) (pd : ServicePOP3Data) (hv : Token v)
    (hr : Token r) (hs : Token s) (hw : Token w) :
    postOffice (poLine a v r s w ++ cr :: lf :: rest) ((poLine a v r s w).length + 1) a.length pd =
      { pd with
        vendor := some Vendor.postOffice
        version := copyRange (poLine a v r s w ++ cr :: lf :: rest) (a ++ venPo ++ verPo).length
          (a ++ venPo ++ verPo ++ v ++ verPo2 ++ r).length pd.version
        subtype := ⟨s, none⟩ :: pd.subtype } := by
  have hl : poLine a v r s w =
      a ++ venPo ++ verPo ++ v ++ verPo2 ++ r ++ (subPo ++ s ++ subverPo ++ w) := by
    simp only [poLine, List.append_assoc]
  have hsub := postOfficeSubtype_at_end a v r s w rest hs hw
  rw [hl] at hsub ⊢
  rw [postOffice_release_space a v r _ rest pd hv hr
    (head?_append_of_head? (head?_append_of_head? (head?_append_of_head? subPo_head _) _) _), hsub]
  rfl

theorem postOffice_release_at_end (a v r rest : List UInt8) (pd : ServicePOP3Data) (hv : Token v)
    (hr : ∀ c ∈ r, isprint c = true ∧ c ≠ sp) :
    postOffice (a ++ venPo ++ verPo ++ v ++ verPo2 ++ r ++ cr :: lf :: rest)
        ((a ++ venPo ++ verPo ++ v ++ verPo2 ++ r).length + 1) a.length pd =
      { pd with
        vendor := some Vendor.postOffice
        version := copyRange (a ++ venPo ++ verPo ++ v ++ verPo2 ++ r ++ cr :: lf :: rest)
          (a ++ venPo ++ verPo).length ((a ++ venPo ++ verPo).length + v.length) pd.version } := by
  have hv0 := List.length_pos.mpr hv.1
  obtain ⟨h1, hb1⟩ := scanTo_space (l := a ++ venPo ++ verPo ++ v ++ verPo2 ++ r)
    (x := a ++ venPo ++ verPo) rest (z := verPo2 ++ r) (by simp only [List.append_assoc]) hv.2
    (head?_append_of_head? verPo2_head _)
  have h2 := scanTo_line_end rest (a := a ++ venPo ++ verPo ++ v ++ verPo2) rfl
    (fun c hc => ⟨ne_zero_of_isprint (hr c hc).1, (hr c hc).2⟩) (by decide)
  have hp1 := isPrefixOf_drop (g := a ++ venPo ++ verPo ++ v ++ verPo2 ++ r ++ cr :: lf :: rest)
    (x := a ++ venPo) (p := verPo) (y := v ++ verPo2 ++ r ++ cr :: lf :: rest)
    (by simp only [List.append_assoc])
  have hp2 := isPrefixOf_drop (g := a ++ venPo ++ verPo ++ v ++ verPo2 ++ r ++ cr :: lf :: rest)
    (x := a ++ venPo ++ verPo ++ v) (p := verPo2) (y := r ++ cr :: lf :: rest)
    (by simp only [List.append_assoc])
  simp only [List.length_append] at h1 h2 hb1 hp1 hp2 ⊢
  unfold postOffice
  dsimp only
  rw [if_neg (by rw [hp1, Bool.true_eq_false, or_false]; omega), h1,
    if_neg (by rw [hb1, or_iff_left sp_ne_zero]; omega),
    if_neg (by rw [hp2, Bool.true_eq_false, or_false]; omega), h2, if_pos (.inl le_rfl)]

theorem postOfficeSubtype_service_at_end {l x s : List UInt8} (rest : List UInt8)
    (hl : l = x ++ subPo ++ s) (hs : ∀ c ∈ s, isprint c = true ∧ c ≠ sp) :
    postOfficeSubtype (l ++ cr :: lf :: rest) (l.length + 1) x.length = none := by
  have h := scanTo_line_end rest (a := x ++ subPo) hl
    (fun c hc => ⟨ne_zero_of_isprint (hs c hc).1, (hs c hc).2⟩) (by decide)
  have hp := isPrefixOf_drop (g := l ++ cr :: lf :: rest) (x := x) (p := subPo)
    (y := s ++ cr :: lf :: rest) (by rw [hl]; simp only [List.append_assoc])
  have hlen : l.length = x.length + subPo.length + s.length := by
    rw [hl]
    simp only [List.length_append]
  simp only [List.length_append] at h
  unfold postOfficeSubtype
  rw [if_neg (by rw [hp, Bool.true_eq_false, or_false]; omega)]
  dsimp only
  rw [h, if_pos (.inr (.inl le_rfl))]

theorem postOffice_service_at_end (a v r s rest : List UInt8) (pd : ServicePOP3Data) (hv : Token v)
    (hr : Token r) (hs : ∀ c ∈ s, isprint c = true ∧ c ≠ sp) :
    postOffice (a ++ venPo ++ verPo ++ v ++ verPo2 ++ r ++ subPo ++ s ++ cr :: lf :: rest)
        ((a ++ venPo ++ verPo ++ v ++ verPo2 ++ r ++ subPo ++ s).length + 1) a.length pd =
      { pd with
        vendor := some Vendor.postOffice
        version := copyRange (a ++ venPo ++ verPo ++ v ++ verPo2 ++ r ++ subPo ++ s ++ cr :: lf :: rest)
          (a ++ venPo ++ verPo).length
          ((a ++ venPo ++ verPo).length + (v ++ verPo2 ++ r).length) pd.version } := by
  have hl : a ++ venPo ++ verPo ++ v ++ verPo2 ++ r ++ subPo ++ s =
      a ++ venPo ++ verPo ++ v ++ verPo2 ++ r ++ (subPo ++ s) := by
    simp only [List.append_assoc]
  rw [hl, postOffice_release_space a v r _ rest pd hv hr (head?_append_of_head? subPo_head _),
    postOfficeSubtype_service_at_end rest (x := a ++ venPo ++ verPo ++ v ++ verPo2 ++ r)
      (by simp only [List.append_assoc]) hs,
    show (a ++ venPo ++ verPo).length + (v ++ verPo2 ++ r).length =
      (a ++ venPo ++ verPo ++ v ++ verPo2 ++ r).length by simp only [List.length_append]; omega]
  rfl

/-- Post.Office is the marker the scan picks, at the end of `a`: cppop, Cubic Circle and InterMail
do not occur in the line, and Post.Office does not occur before. -/
def PostOfficeFirst (a l : List UInt8) : Prop :=
  ¬venCppop <:+: l ∧ ¬venCc <:+: l ∧ ¬venIm <:+: l ∧ ¬venPo <:+: a ++ venPo.dropLast

instance (a l : List UInt8) : Decidable (PostOfficeFirst a l) :=
  inferInstanceAs (Decidable (¬venCppop <:+: l ∧ ¬venCc <:+: l ∧ ¬venIm <:+: l ∧
    ¬venPo <:+: a ++ venPo.dropLast))

theorem scanGreeting_postOffice {l a b : List UInt8} (rest : List UInt8) (pd : ServicePOP3Data)
    (hl : l = a ++ venPo ++ b) (h : PostOfficeFirst a l) :
    scanGreeting (l ++ cr :: lf :: rest) (l.length + 1) pd =
      postOffice (l ++ cr :: lf :: rest) (l.length + 1) a.length pd := by
  obtain ⟨hcp, hcc, him, hpo⟩ := h
  unfold scanGreeting
  dsimp only
  rw [take_lineEnd, serviceStrstr_eq_none (not_infix_concat_cr hcp (by decide))]
  dsimp only
  rw [serviceStrstr_eq_none (not_infix_concat_cr hcc (by decide))]
  dsimp only
  rw [serviceStrstr_eq_none (not_infix_concat_cr him (by decide)), Option.isSome_none,
    if_neg Bool.false_ne_true, serviceStrstr_eq_some (i := a.length) (by decide)
      (by rw [hl, List.append_assoc, List.append_assoc, List.drop_left]; exact List.prefix_append _ _)
      (fun j hj => by rw [hl, List.append_assoc _ b]; exact not_prefix_drop_of_first hpo hj)]

theorem greetingFields_connect (dd : POP3DetectorData) (hs : dd.server.state = .connect)
    {l m : List UInt8} (rest : List UInt8) (hl : l = pop3Ok ++ m) (hm : ∀ c ∈ m, isprint c = true) :
    greetingFields (pop3ServerValidate dd (l ++ cr :: lf :: rest) true).data.server =
      greetingFields (scanGreeting (l ++ cr :: lf :: rest) (l.length + 1)
        { dd.server with state := .response, error := false }) := by
  subst hl
  have hsp : statusPrefix (pop3Ok ++ m ++ cr :: lf :: rest) = some (false, m ++ cr :: lf :: rest) := by
    rw [List.append_assoc]
    exact Responses.statusPrefix_status false _
  unfold pop3ServerValidate
  rw [hs]
  dsimp only
  rw [responseCase_accept dd _ true true rfl (by
    simp only [List.length_append, List.length_cons, show pop3Err.length = 4 from rfl,
      show pop3Ok.length = 3 from rfl]; omega) hsp (pop3CheckLine_line rest hm) le_rfl]
  dsimp only
  rw [endOfStatus_greetingFields, if_pos ⟨rfl, rfl, rfl⟩]
  congr 2
  simp only [List.length_append, List.length_cons]
  omega

theorem postOffice_patterns_printable :
    (∀ c ∈ venPo, isprint c = true) ∧ (∀ c ∈ verPo, isprint c = true) ∧
      (∀ c ∈ verPo2, isprint c = true) ∧ (∀ c ∈ subPo, isprint c = true) ∧
      (∀ c ∈ subverPo, isprint c = true) := by
  decide

theorem Token.printable {t : List UInt8} (h : Token t) : ∀ c ∈ t, isprint c = true :=
  fun c hc => (h.2 c hc).1

theorem greeting_postOffice (dd : POP3DetectorData) (hs : dd.server.state = .connect)
    {l a b : List UInt8} (rest : List UInt8) (hl : l = pop3Ok ++ a ++ venPo ++ b)
    (hp : ∀ c ∈ a ++ b, isprint c = true) (hfirst : PostOfficeFirst (pop3Ok ++ a) l) :
    greetingFields (pop3ServerValidate dd (l ++ cr :: lf :: rest) true).data.server =
      greetingFields (postOffice (l ++ cr :: lf :: rest) (l.length + 1) (pop3Ok ++ a).length
        { dd.server with state := .response, error := false }) := by
  have hm : ∀ c ∈ a ++ venPo ++ b, isprint c = true := by
    simp only [List.forall_mem_append] at hp ⊢
    exact ⟨⟨hp.1, postOffice_patterns_printable.1⟩, hp.2⟩
  rw [greetingFields_connect dd hs rest (by rw [hl]; simp only [List.append_assoc]) hm,
    scanGreeting_postOffice rest _ hl hfirst]

theorem line_end_tokens_dropped (dd : POP3DetectorData) (hs : dd.server.state = .connect) :
    (∀ a v rest : List UInt8, (∀ c ∈ a, isprint c = true) → Token v →
      PostOfficeFirst (pop3Ok ++ a) (pop3Ok ++ a ++ venPo ++ verPo ++ v) →
      greetingFields (pop3ServerValidate dd
          (pop3Ok ++ a ++ venPo ++ verPo ++ v ++ cr :: lf :: rest) true).data.server =
        (some .postOffice, dd.server.version, dd.server.subtype)) ∧
    (∀ a v r rest : List UInt8, (∀ c ∈ a, isprint c = true) → Token v → Token r →
      PostOfficeFirst (pop3Ok ++ a) (pop3Ok ++ a ++ venPo ++ verPo ++ v ++ verPo2 ++ r) →
      ∃ version, greetingFields (pop3ServerValidate dd
          (pop3Ok ++ a ++ venPo ++ verPo ++ v ++ verPo2 ++ r ++ cr :: lf :: rest) true).data.server =
        (some .postOffice, version, dd.server.subtype) ∧ versionString version = v.take 63) ∧
    (∀ a v r s rest : List UInt8, (∀ c ∈ a, isprint c = true) → Token v → Token r → Token s →
      PostOfficeFirst (pop3Ok ++ a) (pop3Ok ++ a ++ venPo ++ verPo ++ v ++ verPo2 ++ r ++ subPo ++ s) →
      ∃ version, greetingFields (pop3ServerValidate dd
          (pop3Ok ++ a ++ venPo ++ verPo ++ v ++ verPo2 ++ r ++ subPo ++ s ++ cr :: lf :: rest)
            true).data.server =
        (some .postOffice, version, dd.server.subtype) ∧
        versionString version = (v ++ verPo2 ++ r).take 63) ∧
    (∀ a v r s w rest : List UInt8, (∀ c ∈ a, isprint c = true) →
      Token v → Token r → Token s → Token w →
      PostOfficeFirst (pop3Ok ++ a) (poLine (pop3Ok ++ a) v r s w) →
      ∃ version, greetingFields (pop3ServerValidate dd
          (poLine (pop3Ok ++ a) v r s w ++ cr :: lf :: rest) true).data.server =
        (some .postOffice, version, ⟨s, none⟩ :: dd.server.subtype) ∧
        versionString version = (v ++ verPo2 ++ r).take 63) := by
  obtain ⟨-, hver, hver2, hsub, hsubver⟩ := postOffice_patterns_printable
  have hvr : ∀ {v r : List UInt8}, Token v → Token r → ∀ c ∈ v ++ verPo2 ++ r, isprint c = true :=
    fun hv hr => by simp only [List.forall_mem_append]; exact ⟨⟨hv.printable, hver2⟩, hr.printable⟩
  refine ⟨fun a v rest ha hv hfirst => ?_, fun a v r rest ha hv hr hfirst => ?_,
    fun a v r s rest ha hv hr hs' hfirst => ?_, fun a v r s w rest ha hv hr hs' hw hfirst => ?_⟩
  · rw [greeting_postOffice dd hs rest (b := verPo ++ v) (by simp only [List.append_assoc])
      (by simp only [List.forall_mem_append]; exact ⟨ha, hver, hv.printable⟩) hfirst,
      postOffice_version_at_end _ v rest _ hv.2]
    rfl
  · rw [greeting_postOffice dd hs rest (b := verPo ++ v ++ verPo2 ++ r)
      (by simp only [List.append_assoc])
      (by simp only [List.forall_mem_append]; exact ⟨ha, ⟨⟨hver, hv.printable⟩, hver2⟩, hr.printable⟩)
      hfirst, postOffice_release_at_end _ v r rest _ hv hr.2]
    refine ⟨_, rfl, ?_⟩
    dsimp only
    exact versionString_copyRange_printable (y := verPo2 ++ r ++ cr :: lf :: rest)
      (by simp only [List.append_assoc]) rfl hv.printable _
  · rw [greeting_postOffice dd hs rest (b := verPo ++ v ++ verPo2 ++ r ++ subPo ++ s)
      (by simp only [List.append_assoc])
      (by simp only [List.forall_mem_append]
          exact ⟨ha, ⟨⟨⟨⟨hver, hv.printable⟩, hver2⟩, hr.printable⟩, hsub⟩, hs'.printable⟩) hfirst,
      postOffice_service_at_end _ v r s rest _ hv hr hs'.2]
    refine ⟨_, rfl, ?_⟩
    dsimp only
    exact versionString_copyRange_printable (y := subPo ++ s ++ cr :: lf :: rest)
      (by simp only [List.append_assoc]) rfl (hvr hv hr) _
  · rw [greeting_postOffice dd hs rest (b := verPo ++ v ++ verPo2 ++ r ++ subPo ++ s ++ subverPo ++ w)
      (by simp only [poLine, List.append_assoc])
      (by simp only [List.forall_mem_append]
          exact ⟨ha, ⟨⟨⟨⟨⟨⟨hver, hv.printable⟩, hver2⟩, hr.printable⟩, hsub⟩, hs'.printable⟩, hsubver⟩,
            hw.printable⟩) hfirst,
      postOffice_poLine _ v r s w rest _ hv hr hs' hw]
    refine ⟨_, rfl, ?_⟩
    dsimp only
    exact versionString_copyRange_printable (y := subPo ++ s ++ subverPo ++ w ++ cr :: lf :: rest)
      (by simp only [poLine, List.append_assoc]) (by simp only [List.length_append]; omega) (hvr hv hr) _

end Pop3Detector.Extraction
