import VjBlockchain.Common.Walk
import VjBlockchain.Util.Words
/-!
# Strings — reading UTF-8 back

A decoder of the UTF-8 character set that reports: it takes characters off
the front for as long as one is well formed, and stops at the first octet of
what is not. A character is a scalar value in the shortest form that holds
it; surrogates, longer forms and unfinished ones are malformed.

A string without unpaired surrogates is the UTF-16 form of its characters,
and `transcode` writes their UTF-8 forms.
-/

namespace VjBlockchain

open Common Common.Bytes

/-! ## Encoding -/

/-- A Java `String`: UTF-16 code units, paired or not. -/
abbrev JString := List UInt16

/-- The UTF-8 form of a code point. -/
def utf8 (c : ℕ) : Bytes :=
  if c < 0x80 then [UInt8.ofNat c]
  else if c < 0x800 then [UInt8.ofNat (0xC0 + c / 64), UInt8.ofNat (0x80 + c % 64)]
  else if c < 0x10000 then
    [UInt8.ofNat (0xE0 + c / 4096), UInt8.ofNat (0x80 + c / 64 % 64), UInt8.ofNat (0x80 + c % 64)]
  else
    [UInt8.ofNat (0xF0 + c / 262144), UInt8.ofNat (0x80 + c / 4096 % 64),
      UInt8.ofNat (0x80 + c / 64 % 64), UInt8.ofNat (0x80 + c % 64)]

def isHighSurrogate (u : UInt16) : Bool := 0xD800 ≤ u && u < 0xDC00

def isLowSurrogate (u : UInt16) : Bool := 0xDC00 ≤ u && u < 0xE000

/-- One code unit that is half of no pair; a lone surrogate becomes `?`. -/
def utf8Unit (u : UInt16) : Bytes :=
  if isHighSurrogate u || isLowSurrogate u then [0x3F] else utf8 u.toNat

/-- `Charset.encode` of the UTF-8 character set. -/
def transcode : JString → Bytes
  | [] => []
  | [u] => utf8Unit u
  | u :: l :: rest =>
    if isHighSurrogate u && isLowSurrogate l then
      utf8 (0x10000 + (u.toNat - 0xD800) * 0x400 + (l.toNat - 0xDC00)) ++ transcode rest
    else utf8Unit u ++ transcode (l :: rest)

/-! ## Characters -/

/-- A code point that is no surrogate. -/
def IsScalar (c : ℕ) : Prop := c < 0xD800 ∨ 0xE000 ≤ c ∧ c < 0x110000

instance (c : ℕ) : Decidable (IsScalar c) := inferInstanceAs (Decidable (_ ∨ _))

/-- A continuation octet. -/
def IsTail (b : UInt8) : Prop := 0x80 ≤ b.toNat ∧ b.toNat < 0xC0

instance (b : UInt8) : Decidable (IsTail b) := inferInstanceAs (Decidable (_ ∧ _))

/-- A code point put together from octets, if these are well formed and it
needs that many of them. -/
def acceptChar (tails : Prop) [Decidable tails] (least c : ℕ) (rest : Bytes) :
    Option (ℕ × Bytes) :=
  if tails ∧ least ≤ c ∧ IsScalar c then some (c, rest) else none

/-- The character at the front. -/
def nextChar : Bytes → Option (ℕ × Bytes)
  | [] => none
  | a :: rest =>
    if a.toNat < 0x80 then some (a.toNat, rest)
    else if a.toNat < 0xC0 then none
    else if a.toNat < 0xE0 then
      match rest with
      | b :: rest => acceptChar (IsTail b) 0x80 ((a.toNat - 0xC0) * 64 + (b.toNat - 0x80)) rest
      | _ => none
    else if a.toNat < 0xF0 then
      match rest with
      | b :: d :: rest => acceptChar (IsTail b ∧ IsTail d) 0x800
          ((a.toNat - 0xE0) * 4096 + (b.toNat - 0x80) * 64 + (d.toNat - 0x80)) rest
      | _ => none
    else if a.toNat < 0xF8 then
      match rest with
      | b :: d :: e :: rest => acceptChar (IsTail b ∧ IsTail d ∧ IsTail e) 0x10000
          ((a.toNat - 0xF0) * 262144 + (b.toNat - 0x80) * 4096 + (d.toNat - 0x80) * 64 +
            (e.toNat - 0x80)) rest
      | _ => none
    else none

theorem acceptChar_eq_some_iff {tails : Prop} [Decidable tails] {least c c' : ℕ}
    {rest rest' : Bytes} : acceptChar tails least c rest = some (c', rest') ↔
      (tails ∧ least ≤ c ∧ IsScalar c) ∧ c = c' ∧ rest = rest' := by
  rw [acceptChar, Option.ite_none_right_eq_some, Option.some_inj, Prod.mk.injEq]

/-- An octet told by its value. -/
theorem ofNat_eq_octet {n : ℕ} {b : UInt8} (h : n = b.toNat) : UInt8.ofNat n = b := by
  rw [h, UInt8.ofNat_toNat]

theorem toNat_octet {n : ℕ} (h : n < 256) : (UInt8.ofNat n).toNat = n :=
  (UInt8.toNat_ofNat').trans (Nat.mod_eq_of_lt h)

/-- **A character that is taken off was written there.** -/
theorem of_nextChar {bs rest : Bytes} {c : ℕ} (h : nextChar bs = some (c, rest)) :
    IsScalar c ∧ bs = utf8 c ++ rest := by
  obtain _ | ⟨a, bs⟩ := bs
  · cases h
  have ha : a.toNat < 256 := a.toNat_lt
  rw [nextChar.eq_def] at h
  dsimp only at h
  rcases Nat.lt_or_ge a.toNat 0x80 with h₁ | h₁
  · rw [if_pos h₁] at h
    obtain ⟨rfl, rfl⟩ := Prod.mk.inj (Option.some.inj h)
    refine ⟨.inl (by omega), ?_⟩
    rw [utf8, if_pos h₁, UInt8.ofNat_toNat, List.singleton_append]
  rw [if_neg (by omega)] at h
  rcases Nat.lt_or_ge a.toNat 0xC0 with h₂ | h₂
  · rw [if_pos h₂] at h
    cases h
  rw [if_neg (by omega)] at h
  rcases Nat.lt_or_ge a.toNat 0xE0 with h₃ | h₃
  · rw [if_pos h₃] at h
    obtain _ | ⟨b, bs⟩ := bs
    · cases h
    obtain ⟨⟨hb, hleast, hc⟩, rfl, rfl⟩ := acceptChar_eq_some_iff.mp h
    unfold IsTail at hb
    refine ⟨hc, ?_⟩
    rw [utf8, if_neg (by omega), if_pos (by omega), ofNat_eq_octet (b := a) (by omega),
      ofNat_eq_octet (b := b) (by omega)]
    rfl
  rw [if_neg (by omega)] at h
  rcases Nat.lt_or_ge a.toNat 0xF0 with h₄ | h₄
  · rw [if_pos h₄] at h
    obtain _ | ⟨b, _ | ⟨d, bs⟩⟩ := bs
    · cases h
    · cases h
    obtain ⟨⟨⟨hb, hd⟩, hleast, hc⟩, rfl, rfl⟩ := acceptChar_eq_some_iff.mp h
    unfold IsTail at hb hd
    refine ⟨hc, ?_⟩
    rw [utf8, if_neg (by omega), if_neg (by omega), if_pos (by omega),
      ofNat_eq_octet (b := a) (by omega), ofNat_eq_octet (b := b) (by omega),
      ofNat_eq_octet (b := d) (by omega)]
    rfl
  rw [if_neg (by omega)] at h
  rcases Nat.lt_or_ge a.toNat 0xF8 with h₅ | h₅
  · rw [if_pos h₅] at h
    obtain _ | ⟨b, _ | ⟨d, _ | ⟨e, bs⟩⟩⟩ := bs
    · cases h
    · cases h
    · cases h
    obtain ⟨⟨⟨hb, hd, he⟩, hleast, hc⟩, rfl, rfl⟩ := acceptChar_eq_some_iff.mp h
    unfold IsTail at hb hd he
    unfold IsScalar at hc
    refine ⟨hc, ?_⟩
    rw [utf8, if_neg (by omega), if_neg (by omega), if_neg (by omega),
      ofNat_eq_octet (b := a) (by omega), ofNat_eq_octet (b := b) (by omega),
      ofNat_eq_octet (b := d) (by omega), ofNat_eq_octet (b := e) (by omega)]
    rfl
  · rw [if_neg (by omega)] at h
    cases h

/-- **A character that is written is taken off**, whatever follows. -/
theorem nextChar_utf8 {c : ℕ} (hc : IsScalar c) (rest : Bytes) :
    nextChar (utf8 c ++ rest) = some (c, rest) := by
  have hlt : c < 0x110000 := by
    unfold IsScalar at hc
    omega
  rw [nextChar.eq_def, utf8]
  split_ifs with h₁ h₂ h₃
  · have ha := toNat_octet (n := c) (by omega)
    dsimp only [List.singleton_append]
    rw [ha, if_pos h₁]
  · have ha := toNat_octet (n := 0xC0 + c / 64) (by omega)
    have hb := toNat_octet (n := 0x80 + c % 64) (by omega)
    have hback : (0xC0 + c / 64 - 0xC0) * 64 + (0x80 + c % 64 - 0x80) = c := by omega
    dsimp only [List.cons_append, List.nil_append]
    rw [ha, if_neg (by omega), if_neg (by omega), if_pos (by omega), hb, hback]
    refine acceptChar_eq_some_iff.mpr ⟨⟨?_, by omega, hc⟩, rfl, rfl⟩
    simp only [IsTail, hb]
    omega
  · have ha := toNat_octet (n := 0xE0 + c / 4096) (by omega)
    have hb := toNat_octet (n := 0x80 + c / 64 % 64) (by omega)
    have hd := toNat_octet (n := 0x80 + c % 64) (by omega)
    have hback : (0xE0 + c / 4096 - 0xE0) * 4096 + (0x80 + c / 64 % 64 - 0x80) * 64 +
        (0x80 + c % 64 - 0x80) = c := by omega
    dsimp only [List.cons_append, List.nil_append]
    rw [ha, if_neg (by omega), if_neg (by omega), if_neg (by omega), if_pos (by omega), hb, hd,
      hback]
    refine acceptChar_eq_some_iff.mpr ⟨⟨?_, by omega, hc⟩, rfl, rfl⟩
    simp only [IsTail, hb, hd]
    omega
  · have ha := toNat_octet (n := 0xF0 + c / 262144) (by omega)
    have hb := toNat_octet (n := 0x80 + c / 4096 % 64) (by omega)
    have hd := toNat_octet (n := 0x80 + c / 64 % 64) (by omega)
    have he := toNat_octet (n := 0x80 + c % 64) (by omega)
    have hback : (0xF0 + c / 262144 - 0xF0) * 262144 + (0x80 + c / 4096 % 64 - 0x80) * 4096 +
        (0x80 + c / 64 % 64 - 0x80) * 64 + (0x80 + c % 64 - 0x80) = c := by omega
    dsimp only [List.cons_append, List.nil_append]
    rw [ha, if_neg (by omega), if_neg (by omega), if_neg (by omega), if_neg (by omega),
      if_pos (by omega), hb, hd, he, hback]
    refine acceptChar_eq_some_iff.mpr ⟨⟨?_, by omega, hc⟩, rfl, rfl⟩
    simp only [IsTail, hb, hd, he]
    omega

theorem utf8_ne_nil (c : ℕ) : utf8 c ≠ [] := by
  unfold utf8
  split_ifs <;> simp

/-- **Text in UTF-8**, character by character. -/
def utf8Format : ItemFormat ℕ where
  Valid := IsScalar
  write := utf8
  next := nextChar
  write_ne_nil := fun _ => utf8_ne_nil _
  next_eq_some_iff := by
    intro bs rest c
    constructor
    · exact of_nextChar
    · rintro ⟨hc, rfl⟩
      exact nextChar_utf8 hc rest

theorem utf8Format_write (c : ℕ) : utf8Format.write c = utf8 c := rfl

/-! ## Code units -/

/-- The UTF-16 form of a character. -/
def utf16 (c : ℕ) : JString :=
  if c < 0x10000 then [UInt16.ofNat c]
  else [UInt16.ofNat (0xD800 + (c - 0x10000) / 0x400),
    UInt16.ofNat (0xDC00 + (c - 0x10000) % 0x400)]

theorem utf16_ne_nil (c : ℕ) : utf16 c ≠ [] := by
  unfold utf16
  split_ifs <;> simp

/-- The string of some characters. -/
def utf16All (cs : List ℕ) : JString := (cs.map utf16).flatten

def isSurrogate (u : UInt16) : Bool := isHighSurrogate u || isLowSurrogate u

/-- **A string without unpaired surrogates.** -/
def WellPaired : JString → Prop
  | [] => True
  | [u] => ¬isSurrogate u
  | u :: l :: rest =>
    if isHighSurrogate u && isLowSurrogate l then WellPaired rest
    else ¬isSurrogate u ∧ WellPaired (l :: rest)

theorem isHighSurrogate_iff {u : UInt16} :
    isHighSurrogate u = true ↔ 0xD800 ≤ u.toNat ∧ u.toNat < 0xDC00 := by
  rw [isHighSurrogate, Bool.and_eq_true, decide_eq_true_iff, decide_eq_true_iff]
  rfl

theorem isLowSurrogate_iff {u : UInt16} :
    isLowSurrogate u = true ↔ 0xDC00 ≤ u.toNat ∧ u.toNat < 0xE000 := by
  rw [isLowSurrogate, Bool.and_eq_true, decide_eq_true_iff, decide_eq_true_iff]
  rfl

/-- A unit that is no surrogate is a character. -/
theorem char_of_unit {u : UInt16} (h : ¬isSurrogate u) :
    IsScalar u.toNat ∧ utf16 u.toNat = [u] ∧ utf8Unit u = utf8 u.toNat := by
  have hlt : u.toNat < 0x10000 := u.toNat_lt
  have hno : ¬(isHighSurrogate u = true) ∧ ¬(isLowSurrogate u = true) := by
    simpa [isSurrogate] using h
  refine ⟨?_, ?_, ?_⟩
  · rw [isHighSurrogate_iff, isLowSurrogate_iff] at hno
    unfold IsScalar
    omega
  · rw [utf16, if_pos hlt, UInt16.ofNat_toNat]
  · rw [utf8Unit, if_neg]
    simpa using hno

/-- So are two that are a pair. -/
theorem char_of_pair {u l : UInt16} (hu : isHighSurrogate u = true)
    (hl : isLowSurrogate l = true) {c : ℕ}
    (hc : c = 0x10000 + (u.toNat - 0xD800) * 0x400 + (l.toNat - 0xDC00)) :
    IsScalar c ∧ utf16 c = [u, l] := by
  rw [isHighSurrogate_iff] at hu
  rw [isLowSurrogate_iff] at hl
  have hhigh : 0xD800 + (c - 0x10000) / 0x400 = u.toNat := by omega
  have hlow : 0xDC00 + (c - 0x10000) % 0x400 = l.toNat := by omega
  refine ⟨?_, ?_⟩
  · unfold IsScalar
    omega
  · rw [utf16, if_neg (by omega), hhigh, hlow, UInt16.ofNat_toNat, UInt16.ofNat_toNat]

/-- **The characters of a string**: it is their UTF-16 form, and what is
written of it is their UTF-8 form. -/
theorem exists_chars {s : JString} (h : WellPaired s) :
    ∃ cs, (∀ c ∈ cs, IsScalar c) ∧ utf16All cs = s ∧ transcode s = utf8Format.writeAll cs := by
  induction s using transcode.induct with
  | case1 => exact ⟨[], by simp, rfl, rfl⟩
  | case2 u =>
    obtain ⟨hc, hunit, hwritten⟩ := char_of_unit h
    refine ⟨[u.toNat], by simpa using hc, ?_, ?_⟩
    · simpa [utf16All] using hunit
    · rw [transcode, hwritten, ItemFormat.writeAll_cons, ItemFormat.writeAll_nil,
        List.append_nil, utf8Format_write]
  | case3 u l rest hpair ih =>
    rw [WellPaired, if_pos hpair] at h
    obtain ⟨cs, hcs, hunits, hwritten⟩ := ih h
    obtain ⟨hu, hl⟩ := Bool.and_eq_true_iff.mp hpair
    obtain ⟨hc, hunit⟩ := char_of_pair hu hl rfl
    refine ⟨_ :: cs, List.forall_mem_cons.mpr ⟨hc, hcs⟩, ?_, ?_⟩
    · rw [utf16All, List.map_cons, List.flatten_cons, hunit, ← utf16All, hunits]
      rfl
    · rw [transcode, if_pos hpair, hwritten, ItemFormat.writeAll_cons, utf8Format_write]
  | case4 u l rest hpair ih =>
    rw [WellPaired, if_neg hpair] at h
    obtain ⟨cs, hcs, hunits, hwritten⟩ := ih h.2
    obtain ⟨hc, hunit, hu⟩ := char_of_unit h.1
    refine ⟨u.toNat :: cs, List.forall_mem_cons.mpr ⟨hc, hcs⟩, ?_, ?_⟩
    · rw [utf16All, List.map_cons, List.flatten_cons, hunit, ← utf16All, hunits]
      rfl
    · rw [transcode, if_neg hpair, hwritten, hu, ItemFormat.writeAll_cons, utf8Format_write]

end VjBlockchain
