import Waymark.Text.Utf8

/-! The bytes of a text are well formed, and reading them gives the text. Bytes that are read as a
text are its own. -/

namespace Waymark.Utf8
variable {c : Char} {bs : Bytes} {i n low high value read : Nat} {b : UInt8} {t : Text}

/-- A character is no surrogate and lies among the code points. -/
theorem toNat_bounds (c : Char) : c.toNat < 0xD800 ∨ 0xE000 ≤ c.toNat ∧ c.toNat < 0x110000 := by
  have h := c.valid
  simp only [UInt32.isValidChar, Nat.isValidChar] at h
  have hval : c.val.toNat = c.toNat := rfl
  omega

/-- A byte that finishes a character. -/
theorem decodeFrom_last (hlow : low ≤ b.toNat) (hhigh : b.toNat ≤ high)
    (hc : value * 64 + (b.toNat - 0x80) = c.toNat) :
    decodeFrom i (some ⟨1, low, high, value, read⟩) (b :: bs) =
      (decodeFrom (i + read + 1) none bs).map (c :: ·) := by
  simp [decodeFrom, Partial.accepts, Partial.extend, hlow, hhigh, hc]

/-- A byte that leaves more to come. -/
theorem decodeFrom_more (hlow : low ≤ b.toNat) (hhigh : b.toNat ≤ high) :
    decodeFrom i (some ⟨n + 2, low, high, value, read⟩) (b :: bs) =
      decodeFrom i (some ⟨n + 1, 0x80, 0xBF, value * 64 + (b.toNat - 0x80), read + 1⟩) bs := by
  simp [decodeFrom, Partial.accepts, Partial.extend, hlow, hhigh]

theorem decodeFrom_opening (h : lead b = .opening n low high value) :
    decodeFrom i none (b :: bs) = decodeFrom i (some ⟨n, low, high, value, 1⟩) bs := by
  simp [decodeFrom, h]

theorem lead_two (h : 0xC2 ≤ b.toNat) (h' : b.toNat < 0xE0) :
    lead b = .opening 1 0x80 0xBF (b.toNat - 0xC0) := by
  unfold lead
  grind

/-- The second byte of three says whether the first is at a bound. -/
theorem lead_three (h : 0xE0 ≤ b.toNat) (h' : b.toNat < 0xF0) :
    lead b = .opening 2 (if b.toNat = 0xE0 then 0xA0 else 0x80)
      (if b.toNat = 0xED then 0x9F else 0xBF) (b.toNat - 0xE0) := by
  unfold lead
  grind

theorem lead_four (h : 0xF0 ≤ b.toNat) (h' : b.toNat < 0xF5) :
    lead b = .opening 3 (if b.toNat = 0xF0 then 0x90 else 0x80)
      (if b.toNat = 0xF4 then 0x8F else 0xBF) (b.toNat - 0xF0) := by
  unfold lead
  grind

theorem toNat_ofNat (h : n < 256) : (UInt8.ofNat n).toNat = n := by
  simp [Nat.mod_eq_of_lt h]

/-- The bytes of a character are read as this character, wherever they stand. -/
theorem decodeFrom_char (i : Nat) (c : Char) (bs : Bytes) :
    ∃ j, decodeFrom i none (String.utf8EncodeChar c ++ bs) =
      (decodeFrom j none bs).map (c :: ·) := by
  have hbounds := toNat_bounds c
  have hval : c.val.toNat = c.toNat := rfl
  rw [String.utf8EncodeChar.eq_1, hval]
  have htail : ∀ m, (UInt8.ofNat (m % 64 + 128)).toNat = m % 64 + 128 :=
    fun m => toNat_ofNat (by omega)
  -- One case for each number of bytes. What lets the second byte in depends on the first.
  split
  · next h1 =>
    have hlead : lead (UInt8.ofNat c.toNat) = .whole c := by
      simp [lead, toNat_ofNat (show c.toNat < 256 by omega), show c.toNat < 128 by omega]
    exact ⟨i + 1, by simp [decodeFrom, hlead]⟩
  · split
    · next h1 h2 =>
      have hfirst := toNat_ofNat (show c.toNat / 64 % 32 + 192 < 256 by omega)
      refine ⟨i + 1 + 1, ?_⟩
      rw [List.cons_append, decodeFrom_opening (lead_two (by omega) (by omega)), List.cons_append,
        decodeFrom_last (c := c) (by rw [htail]; omega) (by rw [htail]; omega)
          (by rw [hfirst, htail]; omega)]
      rfl
    · split
      · next h2 h3 =>
        have hfirst := toNat_ofNat (show c.toNat / 4096 % 16 + 224 < 256 by omega)
        refine ⟨i + 2 + 1, ?_⟩
        rw [List.cons_append, decodeFrom_opening (lead_three (by omega) (by omega)),
          List.cons_append,
          decodeFrom_more (by rw [htail, hfirst]; split <;> omega)
            (by rw [htail, hfirst]; split <;> omega),
          List.cons_append,
          decodeFrom_last (c := c) (by rw [htail]; omega) (by rw [htail]; omega)
            (by rw [hfirst, htail, htail]; omega)]
        rfl
      · next h3 =>
        have hfirst := toNat_ofNat (show c.toNat / 262144 % 8 + 240 < 256 by omega)
        refine ⟨i + 3 + 1, ?_⟩
        rw [List.cons_append, decodeFrom_opening (lead_four (by omega) (by omega)),
          List.cons_append,
          decodeFrom_more (by rw [htail, hfirst]; split <;> omega)
            (by rw [htail, hfirst]; split <;> omega),
          List.cons_append,
          decodeFrom_more (by rw [htail]; omega) (by rw [htail]; omega),
          List.cons_append,
          decodeFrom_last (c := c) (by rw [htail]; omega) (by rw [htail]; omega)
            (by rw [hfirst, htail, htail, htail]; omega)]
        rfl

theorem decodeFrom_toBytes (i : Nat) (t : Text) : decodeFrom i none (Text.toBytes t) = .ok t := by
  induction t generalizing i with
  | nil => rfl
  | cons c t ih =>
    obtain ⟨j, h⟩ := decodeFrom_char i c (Text.toBytes t)
    rw [Text.toBytes_cons, h, ih]
    rfl

/-- What is written is read back. -/
theorem decode_toBytes (t : Text) : decode (Text.toBytes t) = .ok t := decodeFrom_toBytes 0 t

/-! ### Bytes that are read -/

variable {b₁ b₂ b₃ : UInt8} {more : Bytes} {v : Nat} {s : Partial}

theorem toNat_ofNat_char (h : v < 0xD800 ∨ 0xE000 ≤ v ∧ v < 0x110000) :
    (Char.ofNat v).val.toNat = v := by
  have hvalid : v.isValidChar := by
    simp only [Nat.isValidChar]
    omega
  rw [Char.ofNat, dif_pos hvalid]
  rfl

/-- The bytes that finish a character which has been begun. -/
inductive Finishes : Partial → Bytes → Char → Prop
  | last {s : Partial} {b : UInt8} {c : Char} : s.accepts b = true → s.extend b = .inl c →
      Finishes s [b] c
  | more {s s' : Partial} {b : UInt8} {bs : Bytes} {c : Char} : s.accepts b = true →
      s.extend b = .inr s' → Finishes s' bs c → Finishes s (b :: bs) c

theorem decodeFrom_cases (h : decodeFrom i (some s) bs = .ok t) :
    ∃ more rest c u j, Finishes s more c ∧ bs = more ++ rest ∧ t = c :: u ∧
      decodeFrom j none rest = .ok u := by
  induction bs generalizing s with
  | nil => simp [decodeFrom] at h
  | cons b bs ih =>
    rw [decodeFrom] at h
    split at h
    · next haccepts =>
      split at h
      · next c hextend =>
        cases htail : decodeFrom (i + s.read + 1) none bs with
        | error fault => simp [htail, Except.map] at h
        | ok u =>
          simp only [htail, Except.map, Except.ok.injEq] at h
          exact ⟨[b], bs, c, u, _, .last haccepts hextend, rfl, h.symm, htail⟩
      · next s' hextend =>
        obtain ⟨more, rest, c, u, j, hfin, rfl, ht, htail⟩ := ih h
        exact ⟨b :: more, rest, c, u, j, .more haccepts hextend hfin, rfl, ht, htail⟩
    · cases h

theorem finishes_last (h : Finishes ⟨1, low, high, value, read⟩ more c) :
    ∃ b, more = [b] ∧ low ≤ b.toNat ∧ b.toNat ≤ high ∧
      c = Char.ofNat (value * 64 + (b.toNat - 0x80)) := by
  cases h with
  | last haccepts hextend =>
    simp only [Partial.accepts, Bool.and_eq_true, decide_eq_true_eq] at haccepts
    exact ⟨_, rfl, haccepts.1, haccepts.2, (Sum.inl.inj hextend).symm⟩
  | more _ hextend _ => cases hextend

theorem finishes_more (h : Finishes ⟨n + 2, low, high, value, read⟩ more c) :
    ∃ b more', more = b :: more' ∧ low ≤ b.toNat ∧ b.toNat ≤ high ∧
      Finishes ⟨n + 1, 0x80, 0xBF, value * 64 + (b.toNat - 0x80), read + 1⟩ more' c := by
  have hnot : ¬ n + 2 ≤ 1 := by omega
  cases h with
  | last _ hextend => simp [Partial.extend, hnot] at hextend
  | more haccepts hextend hfinishes =>
    simp only [Partial.accepts, Bool.and_eq_true, decide_eq_true_eq] at haccepts
    simp only [Partial.extend, if_neg hnot, Sum.inr.injEq] at hextend
    subst hextend
    exact ⟨_, _, rfl, haccepts.1, haccepts.2, hfinishes⟩

theorem ofNat_eq_of_toNat (h : b.toNat = n) : UInt8.ofNat n = b := by
  rw [← h, UInt8.ofNat_toNat]

theorem encode_two (h : 0xC2 ≤ b.toNat) (h' : b.toNat < 0xE0) (h₁ : 0x80 ≤ b₁.toNat)
    (h₁' : b₁.toNat ≤ 0xBF) :
    String.utf8EncodeChar (Char.ofNat ((b.toNat - 0xC0) * 64 + (b₁.toNat - 0x80))) = [b, b₁] := by
  rw [String.utf8EncodeChar.eq_1, toNat_ofNat_char (by omega), if_neg (by omega), if_pos (by omega),
    ofNat_eq_of_toNat (b := b) (by omega), ofNat_eq_of_toNat (b := b₁) (by omega)]

theorem encode_three (h : 0xE0 ≤ b.toNat) (h' : b.toNat < 0xF0)
    (h₁ : (if b.toNat = 0xE0 then 0xA0 else 0x80) ≤ b₁.toNat)
    (h₁' : b₁.toNat ≤ if b.toNat = 0xED then 0x9F else 0xBF)
    (h₂ : 0x80 ≤ b₂.toNat) (h₂' : b₂.toNat ≤ 0xBF) :
    String.utf8EncodeChar (Char.ofNat (((b.toNat - 0xE0) * 64 + (b₁.toNat - 0x80)) * 64 +
      (b₂.toNat - 0x80))) = [b, b₁, b₂] := by
  have hlow : 0x80 ≤ b₁.toNat ∧ (b.toNat = 0xE0 → 0xA0 ≤ b₁.toNat) := by split at h₁ <;> omega
  have hhigh : b₁.toNat ≤ 0xBF ∧ (b.toNat = 0xED → b₁.toNat ≤ 0x9F) := by split at h₁' <;> omega
  rw [String.utf8EncodeChar.eq_1, toNat_ofNat_char (by omega), if_neg (by omega),
    if_neg (by omega), if_pos (by omega), ofNat_eq_of_toNat (b := b) (by omega),
    ofNat_eq_of_toNat (b := b₁) (by omega), ofNat_eq_of_toNat (b := b₂) (by omega)]

theorem encode_four (h : 0xF0 ≤ b.toNat) (h' : b.toNat < 0xF5)
    (h₁ : (if b.toNat = 0xF0 then 0x90 else 0x80) ≤ b₁.toNat)
    (h₁' : b₁.toNat ≤ if b.toNat = 0xF4 then 0x8F else 0xBF)
    (h₂ : 0x80 ≤ b₂.toNat) (h₂' : b₂.toNat ≤ 0xBF) (h₃ : 0x80 ≤ b₃.toNat)
    (h₃' : b₃.toNat ≤ 0xBF) :
    String.utf8EncodeChar (Char.ofNat ((((b.toNat - 0xF0) * 64 + (b₁.toNat - 0x80)) * 64 +
      (b₂.toNat - 0x80)) * 64 + (b₃.toNat - 0x80))) = [b, b₁, b₂, b₃] := by
  have hlow : 0x80 ≤ b₁.toNat ∧ (b.toNat = 0xF0 → 0x90 ≤ b₁.toNat) := by split at h₁ <;> omega
  have hhigh : b₁.toNat ≤ 0xBF ∧ (b.toNat = 0xF4 → b₁.toNat ≤ 0x8F) := by split at h₁' <;> omega
  rw [String.utf8EncodeChar.eq_1, toNat_ofNat_char (by omega), if_neg (by omega),
    if_neg (by omega), if_neg (by omega), ofNat_eq_of_toNat (b := b) (by omega),
    ofNat_eq_of_toNat (b := b₁) (by omega), ofNat_eq_of_toNat (b := b₂) (by omega),
    ofNat_eq_of_toNat (b := b₃) (by omega)]

theorem lead_whole (h : lead b = .whole c) : b.toNat < 0x80 ∧ c = Char.ofNat b.toNat := by
  by_cases hb : b.toNat < 0x80
  · simp only [lead, if_pos hb, Lead.whole.injEq] at h
    exact ⟨hb, h.symm⟩
  · simp only [lead, if_neg hb] at h
    grind

theorem lead_opening (h : lead b = .opening n low high value) :
    0xC2 ≤ b.toNat ∧ b.toNat < 0xE0 ∨ 0xE0 ≤ b.toNat ∧ b.toNat < 0xF0 ∨
      0xF0 ≤ b.toNat ∧ b.toNat < 0xF5 := by
  unfold lead at h
  grind

theorem encode_whole (h : lead b = .whole c) : String.utf8EncodeChar c = [b] := by
  obtain ⟨hb, rfl⟩ := lead_whole h
  rw [String.utf8EncodeChar.eq_1, toNat_ofNat_char (by omega), if_pos (by omega),
    ofNat_eq_of_toNat rfl]

/-- What a character was read from is how it is written. -/
theorem encode_opening (h : lead b = .opening n low high value)
    (hfinishes : Finishes ⟨n, low, high, value, 1⟩ more c) :
    String.utf8EncodeChar c = b :: more := by
  obtain ⟨hb, hb'⟩ | ⟨hb, hb'⟩ | ⟨hb, hb'⟩ := lead_opening h
  · rw [lead_two hb hb', Lead.opening.injEq] at h
    obtain ⟨rfl, rfl, rfl, rfl⟩ := h
    obtain ⟨b₁, rfl, hlow, hhigh, hc⟩ := finishes_last hfinishes
    exact hc ▸ encode_two hb hb' hlow hhigh
  · rw [lead_three hb hb', Lead.opening.injEq] at h
    obtain ⟨rfl, rfl, rfl, rfl⟩ := h
    obtain ⟨b₁, more, rfl, hlow, hhigh, hfinishes⟩ := finishes_more hfinishes
    obtain ⟨b₂, rfl, hlow₂, hhigh₂, hc⟩ := finishes_last hfinishes
    exact hc ▸ encode_three hb hb' hlow hhigh hlow₂ hhigh₂
  · rw [lead_four hb hb', Lead.opening.injEq] at h
    obtain ⟨rfl, rfl, rfl, rfl⟩ := h
    obtain ⟨b₁, more, rfl, hlow, hhigh, hfinishes⟩ := finishes_more hfinishes
    obtain ⟨b₂, more, rfl, hlow₂, hhigh₂, hfinishes⟩ := finishes_more hfinishes
    obtain ⟨b₃, rfl, hlow₃, hhigh₃, hc⟩ := finishes_last hfinishes
    exact hc ▸ encode_four hb hb' hlow hhigh hlow₂ hhigh₂ hlow₃ hhigh₃

theorem toBytes_of_decodeFrom (h : decodeFrom i none bs = .ok t) : Text.toBytes t = bs := by
  induction hn : bs.length using Nat.strongRecOn generalizing i bs t with
  | _ n' ih =>
    cases bs with
    | nil =>
      obtain rfl := Except.ok.inj h
      rfl
    | cons b bs =>
      rw [decodeFrom] at h
      split at h
      · next c hlead =>
        cases htail : decodeFrom (i + 1) none bs with
        | error fault => simp [htail, Except.map] at h
        | ok u =>
          simp only [htail, Except.map, Except.ok.injEq] at h
          have hshorter : bs.length < n' := by
            rw [← hn, List.length_cons]
            omega
          rw [← h, Text.toBytes_cons, encode_whole hlead, ih bs.length hshorter htail rfl,
            List.singleton_append]
      · next n low high value hlead =>
        obtain ⟨more, rest, c, u, j, hfinishes, rfl, rfl, htail⟩ := decodeFrom_cases h
        have hshorter : rest.length < n' := by
          rw [← hn, List.length_cons, List.length_append]
          omega
        rw [Text.toBytes_cons, encode_opening hlead hfinishes, ih rest.length hshorter htail rfl,
          List.cons_append]
      · cases h

/-- Bytes that are read as a text are those that the text is written as. -/
theorem toBytes_of_decode (h : decode bs = .ok t) : Text.toBytes t = bs := toBytes_of_decodeFrom h

end Waymark.Utf8
