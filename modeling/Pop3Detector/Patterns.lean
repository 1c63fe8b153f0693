import Pop3Detector.Bytes

namespace Pop3Detector.Patterns

open Pop3Detector.Bytes

/-- `pop3_client_patterns`: the client command prefixes, in table order. -/
def pop3ClientPatterns : List (List UInt8) :=
  [ascii "USER ", ascii "PASS ", ascii "APOP ", ascii "AUTH ", ascii "AUTH\r\n", ascii "AUTH\n",
    ascii "AUTH \r\n", ascii "AUTH \n", ascii "STLS\r\n", ascii "STLS\n",
    ascii "DELE ", ascii "LIST ", ascii "LIST\r\n", ascii "LIST\n", ascii "NOOP\r\n",
    ascii "NOOP\n", ascii "QUIT\r\n", ascii "QUIT\n", ascii "RETR ", ascii "STAT\r\n",
    ascii "STAT\n", ascii "RSET\r\n", ascii "RSET\n", ascii "TOP ", ascii "UIDL ",
    ascii "UIDL\r\n", ascii "UIDL\n", ascii "CAPA\r\n", ascii "CAPA\n"]

/-- `eoc`: for each entry of the table, whether the pattern itself ends the command. -/
def eoc : List Bool :=
  [false, false, false, false, true, true, true, true, true, true, false, false, true, true,
    true, true, true, true, false, true, true, true, true, false, false, true, true, true, true]

/-- `Client_App_Pattern_Index`. -/
inductive ClientAppPatternIndex
  | user | pass | apop | auth | authEoc | authEoc2 | authEoc3 | authEoc4 | stlsEoc | stlsEoc2
  | pop3Other
  deriving DecidableEq, Repr

/-- The value of each enumerator, counting from `PATTERN_USER = 0`. -/
def ClientAppPatternIndex.toNat : ClientAppPatternIndex → Nat
  | user => 0 | pass => 1 | apop => 2 | auth => 3 | authEoc => 4 | authEoc2 => 5
  | authEoc3 => 6 | authEoc4 => 7 | stlsEoc => 8 | stlsEoc2 => 9 | pop3Other => 10

/-- `longest_pattern` as `do_custom_init` leaves it. -/
def longestPattern : Nat := pop3ClientPatterns.foldl (fun m p => max m p.length) 0

/-- The patterns as `do_custom_init` adds them to `cmd_matcher`, with ids counted from
`cooked_idx = 1`. -/
def cmdMatcher : List (Nat × List UInt8) := pop3ClientPatterns.enumFrom 1

/-- `pop3_client_patterns[idx - 1]`, the pattern with matcher id `idx`. -/
def patternOf (idx : Nat) : List UInt8 := pop3ClientPatterns.getD (idx - 1) []

/-- `pop3_pattern_match`: keep a match only when it ends at the pattern's own length, that is
when it starts at the first byte of the window. -/
def pop3PatternMatch (id matchEndPos : Nat) : Bool := (patternOf id).length == matchEndPos

/-- Modelled from the spec: `cmd_matcher->find_all`, the prebuilt multi-pattern search, which
the source does not contain. It reports the occurrences of the patterns in the window, as the
pattern's id and the end position of the occurrence, and stops at the first report the
callback accepts; the result is the id the callback stored, and 0 when it stored none. Matching
is byte for byte, while `SearchTool::add`, called without its `no_case` argument, matches without
regard to case: a command in lower case is found by the code and not by this model. -/
def findAll (window : List UInt8) (callback : Nat → Nat → Bool) : Nat :=
  match cmdMatcher.find? (fun m =>
      (List.range' 1 window.length).any fun e => m.2.isSuffixOf (window.take e) && callback m.1 e) with
  | some m => m.1
  | none => 0

/-- `pattern_index` after `find_all` over `min(end - s, longest_pattern)` bytes at the cursor. -/
def patternIndex (s : List UInt8) : Nat :=
  findAll (s.take (min s.length longestPattern)) pop3PatternMatch

/-- The id of the first pattern of the table that the bytes at the cursor start with. -/
def firstPrefix (s : List UInt8) : Nat :=
  match cmdMatcher.find? (fun m => m.2.isPrefixOf s) with
  | some m => m.1
  | none => 0

theorem longestPattern_eq : longestPattern = 7 := by decide

theorem cmdMatcher_spec : ∀ m ∈ cmdMatcher,
    patternOf m.1 = m.2 ∧ 1 ≤ m.1 ∧ m.1 ≤ 29 ∧ 4 ≤ m.2.length ∧ m.2.length ≤ 7 := by
  decide

theorem find?_congr_mem {α : Type} {p q : α → Bool} :
    ∀ {l : List α}, (∀ x ∈ l, p x = q x) → l.find? p = l.find? q
  | [], _ => rfl
  | x :: l, h => by
    simp only [List.find?_cons, h x (List.mem_cons_self _ _),
      find?_congr_mem fun y hy => h y (List.mem_cons_of_mem _ hy)]

theorem anchored_iff {p s : List UInt8} (h1 : 1 ≤ p.length) (h7 : p.length ≤ 7) :
    ((List.range' 1 (s.take (min s.length 7)).length).any fun e =>
      p.isSuffixOf ((s.take (min s.length 7)).take e) && (p.length == e)) = p.isPrefixOf s := by
  rw [Bool.eq_iff_iff, List.any_eq_true, List.isPrefixOf_iff_prefix]
  simp only [List.mem_range', Bool.and_eq_true, List.isSuffixOf_iff_suffix, beq_iff_eq,
    List.length_take, List.take_take, Nat.one_mul]
  constructor
  · rintro ⟨e, ⟨i, hi, rfl⟩, hsuf, hlen⟩
    have he : min (1 + i) (min s.length 7) = 1 + i := by omega
    rw [he] at hsuf
    have hl : p.length = (s.take (1 + i)).length := by simp; omega
    rw [hsuf.eq_of_length hl]
    exact List.take_prefix _ _
  · intro hp
    have hle := hp.length_le
    refine ⟨p.length, ⟨p.length - 1, by omega, by omega⟩, ?_, rfl⟩
    have he : min p.length (min s.length 7) = p.length := by omega
    have ht : s.take p.length = p := (List.prefix_iff_eq_take.mp hp).symm
    rw [he, ht]

theorem patternIndex_eq (s : List UInt8) : patternIndex s = firstPrefix s := by
  unfold patternIndex findAll firstPrefix
  rw [longestPattern_eq]
  rw [find?_congr_mem fun m hm => by
    obtain ⟨hp, -, -, h1, h7⟩ := cmdMatcher_spec m hm
    simp only [pop3PatternMatch, hp]
    exact anchored_iff (by omega) h7]

theorem firstPrefix_spec {s : List UInt8} (h : firstPrefix s ≠ 0) :
    patternOf (firstPrefix s) <+: s ∧ firstPrefix s ≤ 29 ∧ 4 ≤ (patternOf (firstPrefix s)).length := by
  unfold firstPrefix at h ⊢
  cases hm : cmdMatcher.find? (fun m => m.2.isPrefixOf s) with
  | none => simp [hm] at h
  | some m =>
    have hp := (List.find?_eq_some.mp hm).1
    obtain ⟨hpat, -, h29, h4, -⟩ := cmdMatcher_spec m (List.mem_of_find?_eq_some hm)
    simp only [hpat]
    exact ⟨List.isPrefixOf_iff_prefix.mp hp, h29, h4⟩

theorem patternIndex_spec {s : List UInt8} (h : patternIndex s ≠ 0) :
    patternOf (patternIndex s) <+: s ∧ patternIndex s ≤ 29 ∧
      4 ≤ (patternOf (patternIndex s)).length := by
  rw [patternIndex_eq] at h ⊢
  exact firstPrefix_spec h

/-- Whether the bytes `u` decide the match: each pattern the matcher tries before the first one
that `u` starts with either fits within `u` or disagrees with it. -/
def Decides (u : List UInt8) : Prop :=
  ∀ m ∈ cmdMatcher.takeWhile (fun m => !m.2.isPrefixOf u),
    m.2.length ≤ u.length ∨ u.isPrefixOf m.2 = false

instance (u : List UInt8) : Decidable (Decides u) :=
  inferInstanceAs (Decidable (∀ m ∈ cmdMatcher.takeWhile _, _))

theorem isPrefixOf_append {p u : List UInt8} (h : p.length ≤ u.length ∨ u.isPrefixOf p = false)
    (t : List UInt8) : p.isPrefixOf (u ++ t) = p.isPrefixOf u := by
  rw [Bool.eq_iff_iff, List.isPrefixOf_iff_prefix, List.isPrefixOf_iff_prefix]
  refine ⟨fun hp => ?_, fun hp => hp.trans (List.prefix_append _ _)⟩
  rcases h with h | h
  · exact List.prefix_of_prefix_length_le hp (List.prefix_append _ _) h
  · by_cases hl : u.length ≤ p.length
    · have := List.prefix_of_prefix_length_le (List.prefix_append u t) hp hl
      rw [← List.isPrefixOf_iff_prefix, h] at this
      cases this
    · exact List.prefix_of_prefix_length_le hp (List.prefix_append _ _) (by omega)

theorem find?_of_takeWhile {α : Type} {p q : α → Bool} : ∀ {l : List α} {x : α},
    l.find? p = some x → q x = true → (∀ y ∈ l.takeWhile (fun y => !p y), q y = false) →
      l.find? q = some x
  | [], _, h, _, _ => by cases h
  | y :: l, x, h, hx, hq => by
    by_cases hp : p y = true
    · rw [List.find?_cons_of_pos _ hp] at h
      cases h
      exact List.find?_cons_of_pos _ hx
    · rw [List.find?_cons_of_neg _ hp] at h
      have hy : q y = false := hq y (by simp [hp])
      rw [List.find?_cons_of_neg _ (by simp [hy])]
      exact find?_of_takeWhile h hx fun z hz => hq z (by simp [hp, hz])

theorem firstPrefix_append {u : List UInt8} (h : Decides u) (t : List UInt8) :
    firstPrefix (u ++ t) = firstPrefix u := by
  unfold firstPrefix
  cases hf : cmdMatcher.find? (fun m => m.2.isPrefixOf u) with
  | none =>
    have hnone : ∀ m ∈ cmdMatcher, m.2.isPrefixOf u = false :=
      fun m hm => Bool.eq_false_iff.mpr (List.find?_eq_none.mp hf m hm)
    have hall : cmdMatcher.takeWhile (fun m => !m.2.isPrefixOf u) = cmdMatcher :=
      List.takeWhile_eq_self_iff.mpr fun m hm => by simp [hnone m hm]
    rw [List.find?_eq_none.mpr fun m hm => ?_]
    rw [isPrefixOf_append (h m (by rw [hall]; exact hm)) t, hnone m hm]
    decide
  | some x =>
    have hx := List.find?_some hf
    simp only at hx
    rw [find?_of_takeWhile hf ?_ fun m hm => ?_]
    · exact List.isPrefixOf_iff_prefix.mpr
        ((List.isPrefixOf_iff_prefix.mp hx).trans (List.prefix_append _ _))
    · rw [isPrefixOf_append (h m hm) t]
      simpa using (List.mem_takeWhile_imp hm)

theorem firstPrefix_of_prefix {s t : List UInt8} (h0 : firstPrefix (s ++ t) ≠ 0)
    (hp : patternOf (firstPrefix (s ++ t)) <+: s) : firstPrefix s = firstPrefix (s ++ t) := by
  unfold firstPrefix at h0 hp ⊢
  cases hf : cmdMatcher.find? (fun m => m.2.isPrefixOf (s ++ t)) with
  | none => simp [hf] at h0
  | some x =>
    simp only [hf, (cmdMatcher_spec x (List.mem_of_find?_eq_some hf)).1] at hp
    rw [find?_of_takeWhile hf (List.isPrefixOf_iff_prefix.mpr hp) fun m hm => ?_]
    refine Bool.eq_false_iff.mpr fun hs => ?_
    have hm' := List.mem_takeWhile_imp hm
    rw [List.isPrefixOf_iff_prefix.mpr
      ((List.isPrefixOf_iff_prefix.mp hs).trans (List.prefix_append s t))] at hm'
    cases hm'

end Pop3Detector.Patterns
