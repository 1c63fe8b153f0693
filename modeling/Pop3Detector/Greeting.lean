import Pop3Detector.Bytes
import Pop3Detector.State

namespace Pop3Detector.Greeting

open Pop3Detector.Bytes Pop3Detector.State

def venCppop : List UInt8 := ascii "cppop"
def venCc : List UInt8 := ascii "Cubic Circle"
def venIm : List UInt8 := ascii "InterMail"
def verCc : List UInt8 := ascii "\x27s v"
def venPo : List UInt8 := ascii "Post.Office"
def verPo : List UInt8 := ascii " v"
def verPo2 : List UInt8 := ascii " release "
def subPo : List UInt8 := ascii " with "
def subverPo : List UInt8 := ascii " version "

/-- Modelled from the spec: `service_strstr(haystack, len, needle, needle_len)` (a service
utility the source does not contain) gives the first occurrence of the needle lying within
the first `len` bytes of the haystack. -/
def serviceStrstr (haystack needle : List UInt8) : Option Nat :=
  (List.range haystack.length).find? fun i => needle.isPrefixOf (haystack.drop i)

/-- `*p` for a position `p` of the greeting `g`; every position read is at most `line_end`,
which lies inside the payload. -/
def byteAt (g : List UInt8) (p : Nat) : UInt8 := g.getD p 0

/-- The bytes `[a, b)` of the greeting. -/
def slice (g : List UInt8) (a b : Nat) : List UInt8 := (g.drop a).take (b - a)

/-- `for (; p < line_end && *p && *p != stop; p++);`: where the scan from `p` stops. -/
def scanTo (g : List UInt8) (lineEnd p : Nat) (stop : UInt8) : Nat :=
  p + (((g.take lineEnd).drop p).takeWhile fun c => c != 0 && c != stop).length

/-- `*v = *p; v++;` while `v < v_end = pd->version + MAX_VERSION_SIZE - 1`: the buffer and the
final `v`. Bytes past the room are not written. -/
def copyVersion : List UInt8 → (Fin 64 → UInt8) → Fin 64 → (Fin 64 → UInt8) × Fin 64
  | [], version, v => (version, v)
  | c :: cs, version, v =>
    if h : v.val < 63 then copyVersion cs (Function.update version v c) ⟨v.val + 1, by omega⟩
    else (version, v)

/-- The copies of the cppop and Cubic Circle branches: copy from `p` up to `stop`, then
`*v = 0` when the scan stopped on `stop` inside the line, else `pd->version[0] = 0`. -/
def copyToken (g : List UInt8) (lineEnd p : Nat) (stop : UInt8) (version : Fin 64 → UInt8) :
    Fin 64 → UInt8 :=
  let q := scanTo g lineEnd p stop
  let (version, v) := copyVersion (slice g p q) version 0
  if q < lineEnd ∧ byteAt g q ≠ 0 then Function.update version v 0
  else Function.update version 0 0

/-- The copies of the Post.Office branch:
`for (v = pd->version; ver < p && *ver; ver++) { if (v < v_end) *v++ = *ver; else break; } *v = 0;` -/
def copyRange (g : List UInt8) (ver p : Nat) (version : Fin 64 → UInt8) : Fin 64 → UInt8 :=
  let (version, v) := copyVersion ((slice g ver p).takeWhile (· != 0)) version 0
  Function.update version v 0

/-- The `" with " S [" version " W]` tail of a Post.Office greeting, from `p2`: the subtype
entry it adds, if any. -/
def postOfficeSubtype (g : List UInt8) (lineEnd p2 : Nat) : Option RNAServiceSubtype :=
  if lineEnd < p2 + subPo.length ∨ subPo.isPrefixOf (g.drop p2) = false then none
  else
    let s := p2 + subPo.length
    let p := scanTo g lineEnd s sp
    if p = s ∨ lineEnd ≤ p ∨ byteAt g p = 0 then none
    else some
      { service := slice g s p
        version :=
          if p + subverPo.length < lineEnd ∧ subverPo.isPrefixOf (g.drop p) = true then
            let s := p + subverPo.length
            let q := scanTo g lineEnd s sp
            if q ≠ s ∧ q < lineEnd ∧ byteAt g q ≠ 0 then some (slice g s q) else none
          else none }

/-- The Post.Office branch, `i` being where `"Post.Office"` was found. -/
def postOffice (g : List UInt8) (lineEnd i : Nat) (pd : ServicePOP3Data) : ServicePOP3Data :=
  let pd := { pd with vendor := some .postOffice }
  let p := i + venPo.length
  if lineEnd < p + verPo.length ∨ verPo.isPrefixOf (g.drop p) = false then pd
  else
    let ver := p + verPo.length
    let p := scanTo g lineEnd ver sp
    if p = ver ∨ lineEnd ≤ p ∨ byteAt g p = 0 then pd
    else if lineEnd < p + verPo2.length ∨ verPo2.isPrefixOf (g.drop p) = false then
      { pd with version := copyRange g ver p pd.version }
    else
      let rel := p + verPo2.length
      let p2 := scanTo g lineEnd rel sp
      if lineEnd ≤ p2 ∨ p2 = rel ∨ byteAt g p2 = 0 then
        { pd with version := copyRange g ver p pd.version }
      else
        let pd := { pd with version := copyRange g ver p2 pd.version }
        match postOfficeSubtype g lineEnd p2 with
        | some sub => { pd with subtype := sub :: pd.subtype }
        | none => pd

/-- The vendor and version scan of a `+OK` greeting: `g` holds the payload from `begin` on and
`lineEnd` is `line_end - begin`. -/
def scanGreeting (g : List UInt8) (lineEnd : Nat) (pd : ServicePOP3Data) : ServicePOP3Data :=
  let line := g.take lineEnd
  match serviceStrstr line venCppop with
  | some i =>
    let pd := { pd with vendor := some .cppop }
    let p := i + venCppop.length
    if byteAt g p = sp then { pd with version := copyToken g lineEnd (p + 1) 0x5D pd.version }
    else pd
  | none =>
    match serviceStrstr line venCc with
    | some i =>
      let pd := { pd with vendor := some .cubicCircle }
      let p := i + venCc.length
      if p + verCc.length ≤ lineEnd ∧ verCc.isPrefixOf (g.drop p) = true then
        { pd with version := copyToken g lineEnd (p + verCc.length) sp pd.version }
      else pd
    | none =>
      if (serviceStrstr line venIm).isSome then { pd with vendor := some .interMail }
      else
        match serviceStrstr line venPo with
        | some i => postOffice g lineEnd i pd
        | none => pd

/-- `version'` differs from `version` only below `v_end = pd->version + MAX_VERSION_SIZE - 1`,
or by NULs: the writes every copy of the scan may make. -/
def WritesBelowVEnd (version version' : Fin 64 → UInt8) : Prop :=
  ∀ i : Fin 64, version' i ≠ version i → i.val < 63 ∨ version' i = 0

theorem WritesBelowVEnd.refl (version : Fin 64 → UInt8) : WritesBelowVEnd version version :=
  fun _ h => absurd rfl h

theorem WritesBelowVEnd.trans {a b c : Fin 64 → UInt8} (h₁ : WritesBelowVEnd a b)
    (h₂ : WritesBelowVEnd b c) : WritesBelowVEnd a c := by
  intro i hi
  by_cases hcb : c i = b i
  · exact (h₁ i (hcb ▸ hi)).imp id hcb.trans
  · exact h₂ i hcb

theorem WritesBelowVEnd.update_nul (version : Fin 64 → UInt8) (v : Fin 64) :
    WritesBelowVEnd version (Function.update version v 0) := by
  intro i hi
  by_cases h : i = v
  · exact .inr (h ▸ Function.update_same _ _ _)
  · exact absurd (Function.update_noteq h _ _) hi

theorem WritesBelowVEnd.update_lt (version : Fin 64 → UInt8) {v : Fin 64} (hv : v.val < 63)
    (c : UInt8) : WritesBelowVEnd version (Function.update version v c) := by
  intro i hi
  by_cases h : i = v
  · exact .inl (h ▸ hv)
  · exact absurd (Function.update_noteq h _ _) hi

theorem WritesBelowVEnd.nul_end {version version' : Fin 64 → UInt8}
    (h : WritesBelowVEnd version version') (h63 : version 63 = 0) : version' 63 = 0 := by
  by_contra hne
  exact (h 63 (by rw [h63]; exact hne)).elim (absurd · (by decide)) hne

theorem copyVersion_writes : ∀ (cs : List UInt8) (version : Fin 64 → UInt8) (v : Fin 64),
    WritesBelowVEnd version (copyVersion cs version v).1
  | [], _, _ => .refl _
  | c :: cs, version, v => by
    unfold copyVersion
    split
    · exact (WritesBelowVEnd.update_lt version ‹_› c).trans (copyVersion_writes cs _ _)
    · exact .refl _

theorem copyToken_writes (g : List UInt8) (lineEnd p : Nat) (stop : UInt8)
    (version : Fin 64 → UInt8) : WritesBelowVEnd version (copyToken g lineEnd p stop version) := by
  have h := copyVersion_writes (slice g p (scanTo g lineEnd p stop)) version 0
  unfold copyToken
  dsimp only
  split_ifs <;> exact h.trans (.update_nul _ _)

theorem copyRange_writes (g : List UInt8) (ver p : Nat) (version : Fin 64 → UInt8) :
    WritesBelowVEnd version (copyRange g ver p version) := by
  have h := copyVersion_writes ((slice g ver p).takeWhile (· != 0)) version 0
  unfold copyRange
  dsimp only
  exact h.trans (.update_nul _ _)

theorem postOffice_writes (g : List UInt8) (lineEnd i : Nat) (pd : ServicePOP3Data) :
    WritesBelowVEnd pd.version (postOffice g lineEnd i pd).version := by
  unfold postOffice
  dsimp only
  split_ifs
  all_goals try split
  all_goals dsimp only
  all_goals first | exact copyRange_writes g _ _ pd.version | exact .refl _

theorem scanGreeting_writes (g : List UInt8) (lineEnd : Nat) (pd : ServicePOP3Data) :
    WritesBelowVEnd pd.version (scanGreeting g lineEnd pd).version := by
  unfold scanGreeting
  dsimp only
  split
  · split_ifs
    · exact copyToken_writes _ _ _ _ _
    · exact .refl _
  · split
    · split_ifs
      · exact copyToken_writes _ _ _ _ _
      · exact .refl _
    · split_ifs
      · exact .refl _
      · split
        · exact postOffice_writes _ _ _ _
        · exact .refl _

/-- The fields of a service record the greeting scan writes: the vendor, the version buffer and
the subtype list. -/
def greetingFields (pd : ServicePOP3Data) :
    Option Vendor × (Fin 64 → UInt8) × List RNAServiceSubtype :=
  (pd.vendor, pd.version, pd.subtype)

/-- `pd` with the fields the greeting scan writes taken from `g`. -/
def withGreeting (pd : ServicePOP3Data)
    (g : Option Vendor × (Fin 64 → UInt8) × List RNAServiceSubtype) : ServicePOP3Data :=
  { pd with vendor := g.1, version := g.2.1, subtype := g.2.2 }

/-- The fields of a service record the greeting scan leaves alone. -/
def Untouched (pd pd' : ServicePOP3Data) : Prop :=
  pd'.state = pd.state ∧ pd'.count = pd.count ∧ pd'.error = pd.error

theorem postOffice_untouched (g : List UInt8) (lineEnd i : Nat) (pd : ServicePOP3Data) :
    Untouched pd (postOffice g lineEnd i pd) := by
  unfold postOffice
  dsimp only
  split_ifs
  all_goals try split
  all_goals exact ⟨rfl, rfl, rfl⟩

theorem scanGreeting_untouched (g : List UInt8) (lineEnd : Nat) (pd : ServicePOP3Data) :
    Untouched pd (scanGreeting g lineEnd pd) := by
  unfold scanGreeting
  dsimp only
  split
  · split_ifs <;> exact ⟨rfl, rfl, rfl⟩
  · split
    · split_ifs <;> exact ⟨rfl, rfl, rfl⟩
    · split_ifs
      · exact ⟨rfl, rfl, rfl⟩
      · split
        · exact postOffice_untouched ..
        · exact ⟨rfl, rfl, rfl⟩

theorem Untouched.eq_withGreeting {pd pd' : ServicePOP3Data} (h : Untouched pd pd') :
    pd' = withGreeting pd (greetingFields pd') := by
  cases pd
  cases pd'
  obtain ⟨rfl, rfl, rfl⟩ := h
  rfl

end Pop3Detector.Greeting
