import Mathlib.Data.List.Infix

namespace Pop3Detector.Bytes

/-- The bytes of an ASCII string constant of the source, without its terminating NUL
(`sizeof(X) - 1` bytes). -/
def ascii (s : String) : List UInt8 := s.toList.map fun c => c.toNat.toUInt8

def cr : UInt8 := 0x0D
def lf : UInt8 := 0x0A
def sp : UInt8 := 0x20

/-- `isprint` of the C locale. -/
def isprint (c : UInt8) : Bool := 0x20 ≤ c && c ≤ 0x7E

/-- `isalnum` of the C locale. -/
def isalnum (c : UInt8) : Bool :=
  (0x30 ≤ c && c ≤ 0x39) || (0x41 ≤ c && c ≤ 0x5A) || (0x61 ≤ c && c ≤ 0x7A)

/-- Either byte of a line terminator. -/
def isCrLf (c : UInt8) : Bool := c == cr || c == lf

theorem isprint_cr : isprint cr = false := by decide
theorem isprint_lf : isprint lf = false := by decide

theorem not_isCrLf_of_isprint {c : UInt8} (h : isprint c = true) : isCrLf c = false := by
  cases hc : isCrLf c
  · rfl
  · simp only [isCrLf, Bool.or_eq_true, beq_iff_eq] at hc
    rcases hc with rfl | rfl <;> simp_all [isprint_cr, isprint_lf]

/-- `pop3_check_line`: the result (0 for printable text ended by CRLF, 1 when the bytes run out
first, -1 for anything else) and the bytes from the cursor on. -/
def pop3CheckLine : List UInt8 → Int × List UInt8
  | [] => (1, [])
  | c :: rest =>
    if c = cr then
      match rest with
      | d :: rest' => if d = lf then (0, rest') else (-1, rest)
      | [] => (-1, [])
    else if isprint c then pop3CheckLine rest
    else (-1, c :: rest)

theorem pop3CheckLine_suffix (data : List UInt8) : (pop3CheckLine data).2 <:+ data := by
  induction data with
  | nil => exact List.suffix_refl _
  | cons c rest ih =>
    unfold pop3CheckLine
    split_ifs
    · split
      · split_ifs
        · exact (List.suffix_cons _ _).trans (List.suffix_cons _ _)
        · exact List.suffix_cons _ _
      · exact List.suffix_cons _ _
    · exact ih.trans (List.suffix_cons _ _)
    · exact List.suffix_refl _

theorem pop3CheckLine_length_lt {data : List UInt8} (hne : data ≠ [])
    (h : 0 ≤ (pop3CheckLine data).1) : (pop3CheckLine data).2.length < data.length := by
  induction data with
  | nil => exact absurd rfl hne
  | cons c rest ih =>
    unfold pop3CheckLine at h ⊢
    by_cases hcr : c = cr
    · rcases rest with _ | ⟨d, rest⟩
      · simp [hcr] at h
      · by_cases hd : d = lf
        · simp only [hcr, hd, if_true, List.length_cons]
          omega
        · simp [hcr, hd] at h
    · by_cases hp : isprint c = true
      · simp only [hcr, hp, if_false, if_true] at h ⊢
        rcases rest with _ | ⟨d, rest⟩
        · simp [pop3CheckLine]
        · exact (ih (List.cons_ne_nil _ _) h).trans (Nat.lt_succ_self _)
      · simp [hcr, hp] at h

theorem pop3CheckLine_printable_append {line : List UInt8} (rest : List UInt8)
    (h : ∀ c ∈ line, isprint c = true) : pop3CheckLine (line ++ rest) = pop3CheckLine rest := by
  induction line with
  | nil => rfl
  | cons c cs ih =>
    have hc := h c (List.mem_cons_self _ _)
    have hcr : c ≠ cr := fun e => by simp [e, isprint_cr] at hc
    simp only [List.cons_append, pop3CheckLine, hcr, hc, if_false, if_true]
    exact ih fun x hx => h x (List.mem_cons_of_mem _ hx)

theorem pop3CheckLine_line {line : List UInt8} (rest : List UInt8)
    (h : ∀ c ∈ line, isprint c = true) : pop3CheckLine (line ++ cr :: lf :: rest) = (0, rest) := by
  rw [pop3CheckLine_printable_append _ h]
  simp [pop3CheckLine]

theorem isprint_of_pop3CheckLine_eq_one {data rest : List UInt8}
    (h : pop3CheckLine data = (1, rest)) : rest = [] ∧ ∀ c ∈ data, isprint c = true := by
  induction data with
  | nil =>
    simp only [pop3CheckLine, Prod.mk.injEq, true_and] at h
    exact ⟨h.symm, by simp⟩
  | cons c cs ih =>
    unfold pop3CheckLine at h
    split_ifs at h with hcr hp
    · split at h
      · split_ifs at h <;> simp at h
      · simp at h
    · obtain ⟨hr, hcs⟩ := ih h
      exact ⟨hr, by simpa [hp] using hcs⟩
    · simp at h

theorem pop3CheckLine_eq_zero_iff {data rest : List UInt8} :
    pop3CheckLine data = (0, rest) ↔
      ∃ line, (∀ c ∈ line, isprint c = true) ∧ data = line ++ cr :: lf :: rest := by
  refine ⟨fun h => ?_, fun ⟨line, hl, e⟩ => e ▸ pop3CheckLine_line rest hl⟩
  induction data with
  | nil => simp [pop3CheckLine] at h
  | cons c cs ih =>
    unfold pop3CheckLine at h
    split_ifs at h with hcr hp
    · split at h
      · split_ifs at h with hd
        · obtain ⟨-, rfl⟩ := Prod.mk.inj h
          exact ⟨[], by simp, by simp [hcr, hd]⟩
        · simp at h
      · simp at h
    · obtain ⟨line, hl, rfl⟩ := ih h
      exact ⟨c :: line, List.forall_mem_cons.mpr ⟨hp, hl⟩, rfl⟩
    · simp at h

theorem crlf_of_pop3CheckLine_eq_zero {data rest : List UInt8}
    (h : pop3CheckLine data = (0, rest)) : ∃ line, data = line ++ cr :: lf :: rest :=
  let ⟨line, _, e⟩ := pop3CheckLine_eq_zero_iff.mp h
  ⟨line, e⟩

theorem pop3CheckLine_fst (data : List UInt8) :
    (pop3CheckLine data).1 = -1 ∨ (pop3CheckLine data).1 = 0 ∨ (pop3CheckLine data).1 = 1 := by
  induction data with
  | nil => simp [pop3CheckLine]
  | cons c cs ih =>
    unfold pop3CheckLine
    split_ifs
    · split
      · split_ifs <;> simp
      · simp
    · exact ih
    · simp

theorem pop3CheckLine_accepted {data rest : List UInt8} {r : Int}
    (h : pop3CheckLine data = (r, rest)) (hr : 0 ≤ r) :
    (∃ line, data = line ++ cr :: lf :: rest) ∨ (rest = [] ∧ ∀ c ∈ data, isCrLf c = false) := by
  rcases pop3CheckLine_fst data with h' | h' | h' <;> simp only [h] at h' <;> subst h'
  · omega
  · exact .inl (crlf_of_pop3CheckLine_eq_zero h)
  · obtain ⟨hr, hp⟩ := isprint_of_pop3CheckLine_eq_one h
    exact .inr ⟨hr, fun c hc => not_isCrLf_of_isprint (hp c hc)⟩

theorem pop3CheckLine_eq_neg_one_iff {data : List UInt8} :
    (pop3CheckLine data).1 = -1 ↔ ∃ line c rest, (∀ x ∈ line, isprint x = true) ∧
      data = line ++ c :: rest ∧ ((c ≠ cr ∧ isprint c = false) ∨ (c = cr ∧ rest.head? ≠ some lf)) := by
  constructor
  · intro h
    induction data with
    | nil => simp [pop3CheckLine] at h
    | cons c cs ih =>
      unfold pop3CheckLine at h
      by_cases hcr : c = cr
      · rw [if_pos hcr] at h
        refine ⟨[], c, cs, by simp, rfl, .inr ⟨hcr, ?_⟩⟩
        rcases cs with _ | ⟨d, cs⟩
        · simp
        · rintro ⟨⟩
          simp at h
      rw [if_neg hcr] at h
      by_cases hp : isprint c = true
      · rw [if_pos hp] at h
        obtain ⟨line, d, rest, hl, rfl, hd⟩ := ih h
        exact ⟨c :: line, d, rest, List.forall_mem_cons.mpr ⟨hp, hl⟩, rfl, hd⟩
      · exact ⟨[], c, cs, by simp, rfl, .inl ⟨hcr, by simpa using hp⟩⟩
  · rintro ⟨line, c, rest, hl, rfl, hc⟩
    rw [pop3CheckLine_printable_append _ hl]
    unfold pop3CheckLine
    rcases hc with ⟨hcr, hp⟩ | ⟨rfl, hd⟩
    · rw [if_neg hcr, hp]
      rfl
    · rw [if_pos rfl]
      rcases rest with _ | ⟨d, rest⟩
      · rfl
      · have hd : d ≠ lf := fun e => hd (e ▸ rfl)
        dsimp only
        rw [if_neg hd]

/-- The language of `pop3_check_line`: 0 is exactly a printable line ended by CRLF, 1 exactly a
run of printable bytes, and -1 a first bad byte or a CR without its LF. -/
theorem pop3CheckLine_spec (data : List UInt8) :
    (pop3CheckLine data).2 <:+ data ∧
    ((pop3CheckLine data).1 = -1 ∨ (pop3CheckLine data).1 = 0 ∨ (pop3CheckLine data).1 = 1) ∧
    (∀ rest, pop3CheckLine data = (0, rest) ↔
      ∃ line, (∀ c ∈ line, isprint c = true) ∧ data = line ++ cr :: lf :: rest) ∧
    ((pop3CheckLine data).1 = 1 ↔ ∀ c ∈ data, isprint c = true) ∧
    ((pop3CheckLine data).1 = 1 → (pop3CheckLine data).2 = []) ∧
    ((pop3CheckLine data).1 = -1 ↔ ∃ line c rest, (∀ x ∈ line, isprint x = true) ∧
      data = line ++ c :: rest ∧ ((c ≠ cr ∧ isprint c = false) ∨ (c = cr ∧ rest.head? ≠ some lf))) := by
  have hone : (pop3CheckLine data).1 = 1 →
      (pop3CheckLine data).2 = [] ∧ ∀ c ∈ data, isprint c = true := fun h =>
    isprint_of_pop3CheckLine_eq_one (Prod.ext h rfl)
  refine ⟨pop3CheckLine_suffix data, pop3CheckLine_fst data, fun _ => pop3CheckLine_eq_zero_iff,
    ⟨fun h => (hone h).2, fun h => ?_⟩, fun h => (hone h).1, pop3CheckLine_eq_neg_one_iff⟩
  rw [← List.append_nil data, pop3CheckLine_printable_append _ h]
  rfl

end Pop3Detector.Bytes
