import Pop3Detector.Segmentation

namespace Pop3Detector.ClientBounds

open Pop3Detector.Bytes Pop3Detector.Patterns Pop3Detector.State
  Pop3Detector.Pop3ClientDetector Pop3Detector.Segmentation

/-- The offsets `p - username` at which the USER/APOP loop writes into its local buffer, in
order: `*p = *s` for each copied byte, and `*p = 0` when a CR, LF or space ends the name. -/
def usernameWrites : List UInt8 → Nat → Bool → List Nat
  | [], _, _ => []
  | c :: s, p, foundTick =>
    if p < usernameSize - 1 then
      if isUsernameChar c then
        (if foundTick then [] else [p]) ++ usernameWrites s (if foundTick then p else p + 1) foundTick
      else if c = tick then usernameWrites s p true
      else if c = cr ∨ c = lf ∨ c = sp then [p]
      else []
    else []

theorem usernameWrites_lt : ∀ (s : List UInt8) (p : Nat) (foundTick : Bool),
    ∀ i ∈ usernameWrites s p foundTick, i < usernameSize - 1
  | [], _, _ => by simp [usernameWrites]
  | c :: s, p, foundTick => by
    intro i hi
    unfold usernameWrites at hi
    by_cases hp : p < usernameSize - 1
    · rw [if_pos hp] at hi
      by_cases hc : isUsernameChar c = true
      · rw [if_pos hc] at hi
        rcases List.mem_append.mp hi with hi | hi
        · cases foundTick <;> simp_all
        · exact usernameWrites_lt s _ foundTick i hi
      rw [if_neg hc] at hi
      by_cases ht : c = tick
      · rw [if_pos ht] at hi
        exact usernameWrites_lt s p true i hi
      rw [if_neg ht] at hi
      split at hi
      · rw [List.mem_singleton.mp hi]
        exact hp
      · cases hi
    · rw [if_neg hp] at hi
      cases hi

theorem usernameWrites_of_scan : ∀ (s name : List UInt8) (foundTick : Bool) (u : List UInt8),
    (scanUsername s name foundTick).1 = some u →
    name.length ≤ u.length ∧ usernameWrites s name.length foundTick =
      List.range' name.length (u.length - name.length) ++ [u.length]
  | [], _, _, _, h => by cases h
  | c :: s, name, foundTick, u, h => by
    unfold scanUsername at h
    unfold usernameWrites
    by_cases hl : name.length < usernameSize - 1
    · rw [if_pos hl] at h ⊢
      by_cases hc : isUsernameChar c = true
      · rw [if_pos hc] at h ⊢
        cases foundTick
        · simp only [Bool.false_eq_true, ↓reduceIte] at h ⊢
          obtain ⟨hle, hw⟩ := usernameWrites_of_scan s _ false u h
          simp only [List.length_append, List.length_singleton] at hle hw
          refine ⟨by omega, ?_⟩
          rw [hw, show u.length - name.length = (u.length - (name.length + 1)) + 1 by omega]
          rfl
        · exact usernameWrites_of_scan s name true u h
      rw [if_neg hc] at h ⊢
      by_cases ht : c = tick
      · rw [if_pos ht] at h ⊢
        exact usernameWrites_of_scan s name true u h
      rw [if_neg ht] at h ⊢
      by_cases hs : c = cr ∨ c = lf ∨ c = sp
      · rw [if_pos hs] at h ⊢
        split_ifs at h with hn
        cases h
        simp
      · rw [if_neg hs] at h
        cases h
    · rw [if_neg hl] at h
      cases h

theorem commandLoop_quarter (beyond : Bool) :
    ∀ (n m : Nat) (dd : POP3DetectorData) (s : List UInt8),
      s.length / 4 < n → s.length / 4 < m → commandLoop beyond n dd s = commandLoop beyond m dd s
  | 0, _, _, _, hn, _ => absurd hn (Nat.not_lt_zero _)
  | _ + 1, 0, _, _, _, hm => absurd hm (Nat.not_lt_zero _)
  | n + 1, m + 1, dd, s, hn, hm => by
    by_cases h0 : s = []
    · rw [h0, commandLoop_nil, commandLoop_nil]
    by_cases hi : patternIndex s = 0
    · simp only [commandLoop, if_neg h0, hi, if_true]
    have hc := command_cursor_lt beyond dd.client hi
    rw [commandLoop_succ beyond n dd h0 hi, commandLoop_succ beyond m dd h0 hi]
    dsimp only
    rw [commandLoop_quarter beyond n m _ _ (by omega) (by omega)]

theorem loopCursors_length (beyond : Bool) : ∀ (n : Nat) (dd : POP3DetectorData) (s : List UInt8),
    (loopCursors beyond n dd s).length ≤ s.length / 4 + 1
  | 0, _, _ => by simp [loopCursors]
  | n + 1, dd, s => by
    unfold loopCursors
    by_cases h0 : s = []
    · simp [h0]
    rw [if_neg h0]
    by_cases hi : patternIndex s = 0
    · simp [hi]
    rw [if_neg hi, List.length_cons]
    have hc := command_cursor_lt beyond dd.client hi
    refine Nat.le_trans (Nat.succ_le_succ (loopCursors_length beyond n _ _)) ?_
    omega

end Pop3Detector.ClientBounds
