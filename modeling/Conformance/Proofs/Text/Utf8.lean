import Conformance.Text.Utf8
import Mathlib.Algebra.Group.Nat.Defs

/-!
# Reading bytes as text

Bytes are read part by part.  A part is the bytes of a character, or it is spoilt: it is as much of a
character as there is, or a byte with which none begins.

Main results:

- `decodeWith_eq_iff`: the text of bytes is made of the parts of all of them, and of nothing else.
- `encode_decode`: bytes that are text are written as they were read.
-/

namespace Conformance.Text

/-! ## Parts of bytes -/

/-- Bytes with which the bytes of a character begin. -/
def Begins (part : List UInt8) : Prop :=
  ∃ c : Char, part <+: String.utf8EncodeChar c

/-- A part is spoilt in front of the bytes behind it: it is as much of a character as there is, and not a whole
one, or a single byte with which no character begins. -/
structure Spoilt (part behind : List UInt8) : Prop where
  nonempty : part ≠ []
  begun : Begins part ∨ part.length = 1
  unfinished : ∀ c : Char, part ≠ String.utf8EncodeChar c
  longest : ∀ b ∈ behind.head?, ¬Begins (part ++ [b])

/-- What bytes are read as, part by part. -/
inductive Decodes (spoil : Spoil) : List UInt8 → List CodePoint → Prop
  | nil : Decodes spoil [] []
  | char {behind : List UInt8} {points : List CodePoint} (c : Char) :
      Decodes spoil behind points → Decodes spoil (String.utf8EncodeChar c ++ behind) (.char c :: points)
  | spoilt {part behind : List UInt8} {points : List CodePoint} :
      Spoilt part behind → Decodes spoil behind points →
        Decodes spoil (part ++ behind) (spoil part.reverse ++ points)

/-! ## The bytes of a character -/

section Bytes

variable {c : Char} {b : UInt8}

theorem valid_toNat (c : Char) : c.toNat < 0xD800 ∨ 0xDFFF < c.toNat ∧ c.toNat < 0x110000 :=
  c.valid

theorem exists_char {n : Nat} (h : n < 0xD800 ∨ 0xDFFF < n ∧ n < 0x110000) : ∃ c : Char, c.toNat = n :=
  ⟨.ofNatAux n h, rfl⟩

/-- The numbers of the characters of each size. -/
theorem utf8Size_cases (c : Char) :
    c.utf8Size = 1 ∧ c.toNat ≤ 0x7F ∨ c.utf8Size = 2 ∧ 0x7F < c.toNat ∧ c.toNat ≤ 0x7FF ∨
      c.utf8Size = 3 ∧ 0x7FF < c.toNat ∧ c.toNat ≤ 0xFFFF ∨ c.utf8Size = 4 ∧ 0xFFFF < c.toNat := by
  have hsize : c.utf8Size =
      if c.toNat ≤ 0x7F then 1 else if c.toNat ≤ 0x7FF then 2 else if c.toNat ≤ 0xFFFF then 3 else 4 := rfl
  split at hsize
  · omega
  · split at hsize
    · omega
    · split at hsize <;> omega

theorem utf8EncodeChar_eq (c : Char) :
    String.utf8EncodeChar c =
      if c.toNat ≤ 0x7F then [.ofNat c.toNat]
      else if c.toNat ≤ 0x7FF then [.ofNat (c.toNat / 64 % 32 + 192), .ofNat (c.toNat % 64 + 128)]
      else if c.toNat ≤ 0xFFFF then
        [.ofNat (c.toNat / 4096 % 16 + 224), .ofNat (c.toNat / 64 % 64 + 128), .ofNat (c.toNat % 64 + 128)]
      else
        [.ofNat (c.toNat / 262144 % 8 + 240), .ofNat (c.toNat / 4096 % 64 + 128),
          .ofNat (c.toNat / 64 % 64 + 128), .ofNat (c.toNat % 64 + 128)] :=
  rfl

/-- The number of the byte that the bytes of a character begin with. -/
def leadNumber (c : Char) : Nat :=
  if c.toNat ≤ 0x7F then c.toNat
  else if c.toNat ≤ 0x7FF then c.toNat / 64 + 192
  else if c.toNat ≤ 0xFFFF then c.toNat / 4096 + 224
  else c.toNat / 262144 + 240

theorem ofNat_eq_iff {n : Nat} (h : n < 256) : UInt8.ofNat n = b ↔ b.toNat = n := by
  rw [← UInt8.toNat_inj, UInt8.toNat_ofNat_of_lt' h, eq_comm]

/-- A character begins with the byte of this number. -/
theorem singleton_prefix_iff : [b] <+: String.utf8EncodeChar c ↔ b.toNat = leadNumber c := by
  have hfirst {n : Nat} (rest : List UInt8) (hn : n < 256) : [b] <+: .ofNat n :: rest ↔ b.toNat = n := by
    rw [List.cons_prefix_cons, eq_comm, ofNat_eq_iff hn]
    exact and_iff_left List.nil_prefix
  have hvalid := valid_toNat c
  rw [utf8EncodeChar_eq]
  unfold leadNumber
  split
  · exact hfirst _ (by omega)
  · split
    · rw [hfirst _ (by omega), Nat.mod_eq_of_lt (by omega)]
    · split
      · rw [hfirst _ (by omega), Nat.mod_eq_of_lt (by omega)]
      · rw [hfirst _ (by omega), Nat.mod_eq_of_lt (by omega)]

/-- The numbers of the first bytes of the characters of each size. -/
theorem leadNumber_cases (c : Char) :
    c.utf8Size = 1 ∧ leadNumber c = c.toNat ∨ c.utf8Size = 2 ∧ leadNumber c = c.toNat / 64 + 192 ∨
      c.utf8Size = 3 ∧ leadNumber c = c.toNat / 4096 + 224 ∨
      c.utf8Size = 4 ∧ leadNumber c = c.toNat / 262144 + 240 := by
  have hsizes := utf8Size_cases c
  unfold leadNumber
  split
  · omega
  · split
    · omega
    · split <;> omega

/-- A byte of a character behind the first one holds six bits of its number. -/
theorem getElem?_utf8EncodeChar {before following : Nat} (hbefore : 0 < before)
    (h : c.utf8Size = before + (following + 1)) :
    (String.utf8EncodeChar c)[before]? = some (.ofNat (c.toNat / 64 ^ following % 64 + 128)) := by
  have hsizes := utf8Size_cases c
  rw [utf8EncodeChar_eq]
  by_cases hone : c.toNat ≤ 0x7F
  · omega
  · rw [if_neg hone]
    by_cases htwo : c.toNat ≤ 0x7FF
    · obtain ⟨rfl, rfl⟩ : before = 1 ∧ following = 0 := by omega
      rw [if_pos htwo, Nat.pow_zero, Nat.div_one]
      rfl
    · rw [if_neg htwo]
      by_cases hthree : c.toNat ≤ 0xFFFF
      · rw [if_pos hthree]
        obtain ⟨rfl, rfl⟩ | ⟨rfl, rfl⟩ : before = 1 ∧ following = 1 ∨ before = 2 ∧ following = 0 := by omega
        · rfl
        · rw [Nat.pow_zero, Nat.div_one]
          rfl
      · rw [if_neg hthree]
        obtain ⟨rfl, rfl⟩ | ⟨rfl, rfl⟩ | ⟨rfl, rfl⟩ :
            before = 1 ∧ following = 2 ∨ before = 2 ∧ following = 1 ∨ before = 3 ∧ following = 0 := by omega
        · rfl
        · rfl
        · rw [Nat.pow_zero, Nat.div_one]
          rfl

theorem concat_prefix_iff {α : Type} {part whole : List α} {a : α} :
    part ++ [a] <+: whole ↔ part <+: whole ∧ whole[part.length]? = some a := by
  constructor
  · rintro ⟨rest, rfl⟩
    exact ⟨⟨a :: rest, by simp⟩, by simp⟩
  · rintro ⟨⟨rest, rfl⟩, hnext⟩
    rw [List.getElem?_append_right (Nat.le_refl _), Nat.sub_self] at hnext
    cases rest with
    | nil => cases hnext
    | cons next rest =>
        cases hnext
        exact ⟨rest, by simp⟩

end Bytes

/-! ## Characters that have been begun -/

/-- The bytes of a character that has been begun, in their order. -/
def Begun.part (begun : Begun) : List UInt8 :=
  begun.bytes.reverse

/-- A character that has been begun is told by its bytes so far, by the bits that they hold, and by what may
follow: the characters that begin so are those of one size with these bits. -/
structure Begun.Sound (begun : Begun) : Prop where
  started : 0 < begun.bytes.length
  awaiting : 0 < begun.following
  begins : Begins begun.part
  prefix_iff : ∀ c : Char, begun.part <+: String.utf8EncodeChar c ↔
    c.utf8Size = begun.bytes.length + begun.following ∧ c.toNat / 64 ^ begun.following = begun.code
  range_iff : ∀ b : UInt8, begun.low ≤ b ∧ b ≤ begun.high ↔
    (128 ≤ b.toNat ∧ b.toNat < 192) ∧
      ∃ c : Char, c.utf8Size = begun.bytes.length + begun.following ∧
        c.toNat / 64 ^ (begun.following - 1) = begun.code * 64 + b.toNat % 64

namespace Begun.Sound

variable {begun : Begun} {b : UInt8} {c : Char}

/-- One byte more holds six bits more. -/
theorem concat_prefix_iff (h : begun.Sound) :
    begun.part ++ [b] <+: String.utf8EncodeChar c ↔
      (128 ≤ b.toNat ∧ b.toNat < 192) ∧ c.utf8Size = begun.bytes.length + begun.following ∧
        c.toNat / 64 ^ (begun.following - 1) = begun.code * 64 + b.toNat % 64 := by
  rw [Text.concat_prefix_iff, h.prefix_iff, and_assoc, and_left_comm (b := c.utf8Size = _)]
  refine and_congr_right fun hsize => ?_
  obtain ⟨following, hfollowing⟩ : ∃ n, begun.following = n + 1 := ⟨begun.following - 1, by have := h.awaiting; omega⟩
  rw [hfollowing] at hsize ⊢
  have hlength : begun.part.length = begun.bytes.length := List.length_reverse
  rw [hlength, getElem?_utf8EncodeChar h.started hsize, Option.some.injEq, ofNat_eq_iff (by omega),
    Nat.add_sub_cancel, Nat.pow_succ, ← Nat.div_div_eq_div_mul]
  generalize c.toNat / 64 ^ following = bits
  omega

/-- A byte may follow exactly if a character begins so. -/
theorem begins_concat_iff (h : begun.Sound) :
    Begins (begun.part ++ [b]) ↔ begun.low ≤ b ∧ b ≤ begun.high := by
  rw [h.range_iff]
  constructor
  · rintro ⟨c, hc⟩
    obtain ⟨hb, hc⟩ := h.concat_prefix_iff.mp hc
    exact ⟨hb, c, hc⟩
  · rintro ⟨hb, c, hc⟩
    exact ⟨c, h.concat_prefix_iff.mpr ⟨hb, hc⟩⟩

theorem ne_utf8EncodeChar (h : begun.Sound) (c : Char) : begun.part ≠ String.utf8EncodeChar c := by
  intro heq
  obtain ⟨hsize, -⟩ := (h.prefix_iff c).mp (heq ▸ List.prefix_rfl)
  have hlength := congrArg List.length heq
  rw [String.length_utf8EncodeChar, hsize] at hlength
  have hpart : begun.part.length = begun.bytes.length := List.length_reverse
  have := h.awaiting
  omega

/-- What has been begun is spoilt where nothing follows that may follow. -/
theorem spoilt_before (h : begun.Sound) (behind : List UInt8)
    (hbehind : ∀ b ∈ behind.head?, ¬(begun.low ≤ b ∧ b ≤ begun.high)) : Spoilt begun.part behind where
  nonempty := by
    have hpart : begun.part.length = begun.bytes.length := List.length_reverse
    exact List.ne_nil_of_length_pos (hpart ▸ h.started)
  begun := .inl h.begins
  unfinished := h.ne_utf8EncodeChar
  longest := fun b hb => mt h.begins_concat_iff.mp (hbehind b hb)

/-- The last byte makes a character. -/
theorem exists_char (h : begun.Sound) (hlast : begun.following ≤ 1) (hb : begun.low ≤ b ∧ b ≤ begun.high) :
    ∃ c : Char, CodePoint.ofNat (begun.code * 64 + b.toNat % 64) = .char c ∧
      begun.part ++ [b] = String.utf8EncodeChar c := by
  have hone : begun.following = 1 := Nat.le_antisymm hlast h.awaiting
  obtain ⟨hrange, c, hc⟩ := (h.range_iff b).mp hb
  have hbegin := h.concat_prefix_iff.mpr ⟨hrange, hc⟩
  obtain ⟨hsize, hnumber⟩ := hc
  rw [hone] at hsize hnumber
  refine ⟨c, ?_, ?_⟩
  · rw [← hnumber, Nat.sub_self, Nat.pow_zero, Nat.div_one]
    exact CodePoint.ofNat_toNat (.char c)
  · refine hbegin.eq_of_length ?_
    rw [String.length_utf8EncodeChar, hsize, List.length_append]
    exact congrArg (· + 1) List.length_reverse

/-- Any other byte leads on. -/
theorem next (h : begun.Sound) (hmore : 1 < begun.following) (hb : begun.low ≤ b ∧ b ≤ begun.high) :
    Begun.Sound ⟨begun.code * 64 + b.toNat % 64, 0x80, 0xBF, begun.following - 1, b :: begun.bytes⟩ := by
  have hpart : Begun.part ⟨begun.code * 64 + b.toNat % 64, 0x80, 0xBF, begun.following - 1, b :: begun.bytes⟩ =
      begun.part ++ [b] := List.reverse_cons
  have hlength : (b :: begun.bytes).length + (begun.following - 1) = begun.bytes.length + begun.following := by
    rw [List.length_cons]
    omega
  obtain ⟨hrange, c, hsize, hnumber⟩ := (h.range_iff b).mp hb
  refine ⟨Nat.succ_pos _, Nat.sub_pos_of_lt hmore, ?_, fun c => ?_, fun b' => ?_⟩
  · rw [hpart]
    exact h.begins_concat_iff.mpr hb
  · rw [hpart, h.concat_prefix_iff, hlength]
    exact and_iff_right hrange
  · rw [hlength, UInt8.le_iff_toNat_le, UInt8.le_iff_toNat_le]
    change 128 ≤ b'.toNat ∧ b'.toNat ≤ 191 ↔ _
    rw [show b'.toNat ≤ 191 ↔ b'.toNat < 192 from Nat.lt_succ_iff.symm]
    refine (and_iff_left_of_imp fun _ => ?_).symm
    -- the bounds of each size are multiples of what is still open, so that any bits may follow
    have hvalid := valid_toNat c
    have hstarted := h.started
    have hsizes := utf8Size_cases c
    dsimp only
    obtain htwo | hthree : begun.following = 2 ∨ begun.following = 3 := by omega
    · rw [htwo] at hsize hnumber ⊢
      obtain ⟨c', hc'⟩ :=
        Text.exists_char (n := (begun.code * 64 + b.toNat % 64) * 64 + b'.toNat % 64) (by omega)
      have hsizes' := utf8Size_cases c'
      exact ⟨c', by omega, by omega⟩
    · rw [hthree] at hsize hnumber ⊢
      obtain ⟨c', hc'⟩ :=
        Text.exists_char (n := ((begun.code * 64 + b.toNat % 64) * 64 + b'.toNat % 64) * 64) (by omega)
      have hsizes' := utf8Size_cases c'
      exact ⟨c', by omega, by omega⟩

end Begun.Sound

/-! ## Beginning a character -/

section Beginning

variable {b : UInt8} {lead : Lead}

theorem begins_singleton_iff : Begins [b] ↔ ∃ c : Char, b.toNat = leadNumber c :=
  exists_congr fun _ => singleton_prefix_iff

/-- The rule for a leading byte, by its number. -/
theorem leadOf_eq (b : UInt8) :
    Lead.of? b =
      if 194 ≤ b.toNat ∧ b.toNat ≤ 223 then some ⟨0x80, 0xBF, 1⟩
      else if b.toNat = 224 then some ⟨0xA0, 0xBF, 2⟩
      else if b.toNat = 237 then some ⟨0x80, 0x9F, 2⟩
      else if 225 ≤ b.toNat ∧ b.toNat ≤ 239 then some ⟨0x80, 0xBF, 2⟩
      else if b.toNat = 240 then some ⟨0x90, 0xBF, 3⟩
      else if 241 ≤ b.toNat ∧ b.toNat ≤ 243 then some ⟨0x80, 0xBF, 3⟩
      else if b.toNat = 244 then some ⟨0x80, 0x8F, 3⟩
      else none := by
  unfold Lead.of?
  simp only [UInt8.le_iff_toNat_le, ← UInt8.toNat_inj]
  rfl

/-- No character begins with a byte that is neither ASCII nor a leading byte. -/
theorem not_begins_of_lead (hlarge : ¬b < 0x80) (h : Lead.of? b = none) : ¬Begins [b] := by
  rw [begins_singleton_iff]
  rintro ⟨c, hc⟩
  have hlead := leadNumber_cases c
  have hvalid := valid_toNat c
  have hsizes := utf8Size_cases c
  have hlarge' : ¬b.toNat < 128 := hlarge
  rw [leadOf_eq] at h
  repeat' split at h
  all_goals cases h
  omega

/-- What the numbers of characters of two bytes can be. -/
theorem exists_size_two_iff {n : Nat} :
    (∃ c : Char, c.utf8Size = 2 ∧ c.toNat / 64 ^ 0 = n) ↔ 0x80 ≤ n ∧ n ≤ 0x7FF := by
  constructor
  · rintro ⟨c, hsize, hc⟩
    have hsizes := utf8Size_cases c
    omega
  · intro hn
    obtain ⟨c, hc⟩ := exists_char (n := n) (by omega)
    have hsizes := utf8Size_cases c
    exact ⟨c, by omega, by omega⟩

/-- What the numbers of characters of three bytes can be, but for the last six bits. -/
theorem exists_size_three_iff {n : Nat} :
    (∃ c : Char, c.utf8Size = 3 ∧ c.toNat / 64 ^ 1 = n) ↔
      (0x20 ≤ n ∧ n ≤ 0x3FF) ∧ ¬(0x360 ≤ n ∧ n < 0x380) := by
  constructor
  · rintro ⟨c, hsize, hc⟩
    have hsizes := utf8Size_cases c
    have hvalid := valid_toNat c
    omega
  · intro hn
    obtain ⟨c, hc⟩ := exists_char (n := n * 64) (by omega)
    have hsizes := utf8Size_cases c
    exact ⟨c, by omega, by omega⟩

/-- What the numbers of characters of four bytes can be, but for the last twelve bits. -/
theorem exists_size_four_iff {n : Nat} :
    (∃ c : Char, c.utf8Size = 4 ∧ c.toNat / 64 ^ 2 = n) ↔ 0x10 ≤ n ∧ n < 0x110 := by
  constructor
  · rintro ⟨c, hsize, hc⟩
    have hsizes := utf8Size_cases c
    have hvalid := valid_toNat c
    omega
  · intro hn
    obtain ⟨c, hc⟩ := exists_char (n := n * 4096) (by omega)
    have hsizes := utf8Size_cases c
    exact ⟨c, by omega, by omega⟩

/-- A character is begun soundly by a byte that tells its size and its first bits, if what may follow makes
characters. -/
theorem Begun.Sound.of_first {low high : UInt8} {following : Nat} (hfollowing : 0 < following)
    (hfirst : ∀ c : Char, b.toNat = leadNumber c ↔
      c.utf8Size = 1 + following ∧ c.toNat / 64 ^ following = leadBits b following)
    (hlow : ∃ c : Char, b.toNat = leadNumber c)
    (hsecond : ∀ n : Nat, low.toNat ≤ n ∧ n ≤ high.toNat ↔
      (128 ≤ n ∧ n < 192) ∧ ∃ c : Char, c.utf8Size = 1 + following ∧
        c.toNat / 64 ^ (following - 1) = leadBits b following * 64 + n % 64) :
    Begun.Sound (Lead.begin ⟨low, high, following⟩ b) where
  started := Nat.one_pos
  awaiting := hfollowing
  begins := begins_singleton_iff.mpr hlow
  prefix_iff := fun c => singleton_prefix_iff.trans (hfirst c)
  range_iff := fun b' => hsecond b'.toNat

theorem sound_begin_two {low high : UInt8} (hb : 194 ≤ b.toNat ∧ b.toNat ≤ 223)
    (hrange : low.toNat = 128 ∧ high.toNat = 191) : Begun.Sound (Lead.begin ⟨low, high, 1⟩ b) := by
  have hbits : leadBits b 1 = b.toNat % 32 := rfl
  refine .of_first Nat.one_pos (fun c => ?_) ?_ (fun n => ?_)
  · have hlead := leadNumber_cases c
    have hsizes := utf8Size_cases c
    have hvalid := valid_toNat c
    omega
  · obtain ⟨c, hc⟩ := exists_char (n := b.toNat % 32 * 64) (by omega)
    have hlead := leadNumber_cases c
    have hsizes := utf8Size_cases c
    exact ⟨c, by omega⟩
  · rw [hbits]
    refine Iff.trans ?_ (and_congr_right' exists_size_two_iff.symm)
    omega

theorem sound_begin_three {low high : UInt8} (hb : 224 ≤ b.toNat ∧ b.toNat ≤ 239)
    (hlow : b.toNat = 224 ∧ low.toNat = 160 ∨ b.toNat ≠ 224 ∧ low.toNat = 128)
    (hhigh : b.toNat = 237 ∧ high.toNat = 159 ∨ b.toNat ≠ 237 ∧ high.toNat = 191) :
    Begun.Sound (Lead.begin ⟨low, high, 2⟩ b) := by
  have hbits : leadBits b 2 = b.toNat % 16 := rfl
  refine .of_first Nat.two_pos (fun c => ?_) ?_ (fun n => ?_)
  · have hlead := leadNumber_cases c
    have hsizes := utf8Size_cases c
    have hvalid := valid_toNat c
    omega
  · obtain ⟨c, hc⟩ := exists_char (n := b.toNat % 16 * 4096 + 2048 * (1 - b.toNat % 16)) (by omega)
    have hlead := leadNumber_cases c
    have hsizes := utf8Size_cases c
    exact ⟨c, by omega⟩
  · rw [hbits]
    refine Iff.trans ?_ (and_congr_right' exists_size_three_iff.symm)
    omega

theorem sound_begin_four {low high : UInt8} (hb : 240 ≤ b.toNat ∧ b.toNat ≤ 244)
    (hlow : b.toNat = 240 ∧ low.toNat = 144 ∨ b.toNat ≠ 240 ∧ low.toNat = 128)
    (hhigh : b.toNat = 244 ∧ high.toNat = 143 ∨ b.toNat ≠ 244 ∧ high.toNat = 191) :
    Begun.Sound (Lead.begin ⟨low, high, 3⟩ b) := by
  have hbits : leadBits b 3 = b.toNat % 8 := rfl
  refine .of_first (Nat.succ_pos 2) (fun c => ?_) ?_ (fun n => ?_)
  · have hlead := leadNumber_cases c
    have hsizes := utf8Size_cases c
    have hvalid := valid_toNat c
    omega
  · obtain ⟨c, hc⟩ := exists_char (n := b.toNat % 8 * 262144 + 65536 * (1 - b.toNat % 8)) (by omega)
    have hlead := leadNumber_cases c
    have hsizes := utf8Size_cases c
    exact ⟨c, by omega⟩
  · rw [hbits]
    refine Iff.trans ?_ (and_congr_right' exists_size_four_iff.symm)
    omega

/-- A leading byte begins a character soundly. -/
theorem sound_begin (h : Lead.of? b = some lead) : (lead.begin b).Sound := by
  rw [leadOf_eq] at h
  repeat' split at h
  all_goals cases h
  · exact sound_begin_two (by omega) ⟨rfl, rfl⟩
  · exact sound_begin_three (by omega) (.inl ⟨by omega, rfl⟩) (.inr ⟨by omega, rfl⟩)
  · exact sound_begin_three (by omega) (.inr ⟨by omega, rfl⟩) (.inl ⟨by omega, rfl⟩)
  · exact sound_begin_three (by omega) (.inr ⟨by omega, rfl⟩) (.inr ⟨by omega, rfl⟩)
  · exact sound_begin_four (by omega) (.inl ⟨by omega, rfl⟩) (.inr ⟨by omega, rfl⟩)
  · exact sound_begin_four (by omega) (.inr ⟨by omega, rfl⟩) (.inr ⟨by omega, rfl⟩)
  · exact sound_begin_four (by omega) (.inr ⟨by omega, rfl⟩) (.inl ⟨by omega, rfl⟩)

end Beginning

/-! ## Reading -/

section Reading

variable {spoil : Spoil} {b : UInt8} {begun : Begun} {rest : List UInt8}

theorem readByte_last (hb : begun.low ≤ b ∧ b ≤ begun.high) (hlast : begun.following ≤ 1) :
    readByte spoil (some begun) b = ([.ofNat (begun.code * 64 + b.toNat % 64)], none) :=
  (if_pos hb).trans (if_pos hlast)

theorem readByte_more (hb : begun.low ≤ b ∧ b ≤ begun.high) (hmore : ¬begun.following ≤ 1) :
    readByte spoil (some begun) b =
      ([], some ⟨begun.code * 64 + b.toNat % 64, 0x80, 0xBF, begun.following - 1, b :: begun.bytes⟩) :=
  (if_pos hb).trans (if_neg hmore)

theorem readByte_other (hb : ¬(begun.low ≤ b ∧ b ≤ begun.high)) :
    readByte spoil (some begun) b =
      (spoil begun.bytes ++ (readByte spoil none b).1, (readByte spoil none b).2) :=
  if_neg hb

theorem readBytes_cons (state : Option Begun) (found : List CodePoint) :
    readBytes spoil (b :: rest) state found =
      readBytes spoil rest (readByte spoil state b).2 ((readByte spoil state b).1.reverse ++ found) := by
  cases state <;> rfl

/-- From a state, all bytes are read part by part, behind those of a character that has been begun. -/
def Reads (spoil : Spoil) (state : Option Begun) (bytes : List UInt8) : Prop :=
  ∀ found, ∃ points, Decodes spoil ((state.elim [] Begun.part) ++ bytes) points ∧
    readBytes spoil bytes state found = found.reverse ++ points

/-- One byte outside of any character. -/
theorem reads_none_cons (hnone : Reads spoil none rest)
    (hsome : ∀ begun : Begun, begun.Sound → Reads spoil (some begun) rest) : Reads spoil none (b :: rest) := by
  intro found
  have hstep : readByte spoil none b = startChar spoil b := rfl
  rw [readBytes_cons, hstep]
  unfold startChar
  by_cases hsmall : b < 0x80
  · have hnumber : b.toNat < 128 := hsmall
    obtain ⟨c, hc⟩ := exists_char (n := b.toNat) (by omega)
    have hbytes : String.utf8EncodeChar c = [b] := by
      rw [utf8EncodeChar_eq, if_pos (by omega), hc, UInt8.ofNat_toNat]
    have hpoint : CodePoint.ofNat b.toNat = .char c := hc ▸ CodePoint.ofNat_toNat (.char c)
    rw [if_pos hsmall, hpoint]
    obtain ⟨points, hpoints, hread⟩ := hnone (.char c :: found)
    refine ⟨.char c :: points, ?_, ?_⟩
    · have hchar := Decodes.char c hpoints
      rwa [hbytes] at hchar
    · rw [List.reverse_cons, List.append_assoc] at hread
      exact hread
  · rw [if_neg hsmall]
    cases hlead : Lead.of? b with
    | some lead => exact hsome _ (sound_begin hlead) found
    | none =>
        have hbegins := not_begins_of_lead hsmall hlead
        have hspoilt : Spoilt [b] rest := by
          refine ⟨List.cons_ne_nil _ _, .inr rfl, fun c heq => hbegins ⟨c, heq ▸ List.prefix_rfl⟩, ?_⟩
          rintro next - ⟨c, hc⟩
          exact hbegins ⟨c, (List.prefix_append [b] [next]).trans hc⟩
        obtain ⟨points, hpoints, hread⟩ := hnone ((spoil [b]).reverse ++ found)
        refine ⟨spoil [b] ++ points, .spoilt hspoilt hpoints, ?_⟩
        rw [List.reverse_append, List.reverse_reverse, List.append_assoc] at hread
        exact hread

/-- One byte behind the beginning of a character. -/
theorem reads_some_cons (hbegun : begun.Sound) (hnone : Reads spoil none rest)
    (hsome : ∀ begun : Begun, begun.Sound → Reads spoil (some begun) rest) :
    Reads spoil (some begun) (b :: rest) := by
  intro found
  by_cases hb : begun.low ≤ b ∧ b ≤ begun.high
  · rw [readBytes_cons]
    by_cases hlast : begun.following ≤ 1
    · obtain ⟨c, hpoint, hbytes⟩ := hbegun.exists_char hlast hb
      rw [readByte_last hb hlast, hpoint]
      obtain ⟨points, hpoints, hread⟩ := hnone (.char c :: found)
      refine ⟨.char c :: points, ?_, ?_⟩
      · have hchar := Decodes.char c hpoints
        rwa [← hbytes, List.append_assoc] at hchar
      · rw [List.reverse_cons, List.append_assoc] at hread
        exact hread
    · rw [readByte_more hb hlast]
      obtain ⟨points, hpoints, hread⟩ := hsome _ (hbegun.next (Nat.lt_of_not_le hlast) hb) found
      refine ⟨points, ?_, hread⟩
      rwa [Option.elim_some, Begun.part, List.reverse_cons, List.append_assoc] at hpoints
  · -- what has been begun is spoilt, and the byte is read as if nothing had been begun
    have hagain : readBytes spoil (b :: rest) (some begun) found =
        readBytes spoil (b :: rest) none ((spoil begun.bytes).reverse ++ found) := by
      rw [readBytes_cons, readBytes_cons, readByte_other hb, List.reverse_append, List.append_assoc]
    have hspoilt := hbegun.spoilt_before (b :: rest) fun b' hb' => Option.some.inj hb' ▸ hb
    obtain ⟨points, hpoints, hread⟩ := reads_none_cons (b := b) hnone hsome ((spoil begun.bytes).reverse ++ found)
    refine ⟨spoil begun.part.reverse ++ points, .spoilt hspoilt hpoints, ?_⟩
    rw [hagain, hread, Begun.part, List.reverse_reverse, List.reverse_append, List.reverse_reverse,
      List.append_assoc]

/-- All bytes are read, from the beginning and from inside of a character. -/
theorem reads (spoil : Spoil) (bytes : List UInt8) :
    Reads spoil none bytes ∧ ∀ begun : Begun, begun.Sound → Reads spoil (some begun) bytes := by
  induction bytes with
  | nil =>
      refine ⟨fun found => ⟨[], .nil, (List.append_nil _).symm⟩, fun begun hbegun found => ?_⟩
      have hspoilt := hbegun.spoilt_before [] fun _ h => nomatch h
      refine ⟨spoil begun.part.reverse ++ [], .spoilt hspoilt .nil, ?_⟩
      rw [Begun.part, List.reverse_reverse, List.append_nil]
      rfl
  | cons b rest ih =>
      obtain ⟨hnone, hsome⟩ := ih
      exact ⟨reads_none_cons hnone hsome, fun begun hbegun => reads_some_cons hbegun hnone hsome⟩

theorem decodes_readBytes (spoil : Spoil) (bytes : List UInt8) :
    Decodes spoil bytes (readBytes spoil bytes none []) := by
  obtain ⟨points, hpoints, hread⟩ := (reads spoil bytes).1 []
  rw [hread]
  exact hpoints

end Reading

/-! ## Whole texts -/

section Whole

variable {spoil : Spoil} {bytes : ByteArray}

theorem loop_toList (bytes : ByteArray) (place : Nat) (found : List UInt8) :
    ByteArray.toList.loop bytes place found = found.reverse ++ bytes.data.toList.drop place := by
  induction place, found using ByteArray.toList.loop.induct bytes with
  | case1 place found h ih =>
      have hbyte : bytes.get! place = bytes.data.toList[place] := by
        rw [ByteArray.get!, getElem!_pos bytes.data place h, Array.getElem_toList]
      have hplace : place < bytes.data.toList.length := h
      rw [ByteArray.toList.loop, if_pos h, ih, hbyte, List.drop_eq_getElem_cons hplace, List.reverse_cons,
        List.append_assoc]
      rfl
  | case2 place found h =>
      rw [ByteArray.toList.loop, if_neg h, List.drop_eq_nil_of_le (Nat.le_of_not_lt h), List.append_nil]

theorem toList_eq_data_toList (bytes : ByteArray) : bytes.toList = bytes.data.toList :=
  loop_toList bytes 0 []

/-- Characters are read off their bytes. -/
theorem decodes_chars (spoil : Spoil) (chars : List Char) :
    Decodes spoil (chars.flatMap String.utf8EncodeChar) (chars.map .char) := by
  induction chars with
  | nil => exact .nil
  | cons c rest ih => exact .char c ih

theorem toList_utf8Encode (chars : List Char) :
    chars.utf8Encode.data.toList = chars.flatMap String.utf8EncodeChar := by
  simp [List.utf8Encode]

theorem toUTF8_of_fromUTF8? {s : String} (h : String.fromUTF8? bytes = some s) : s.toUTF8 = bytes := by
  unfold String.fromUTF8? at h
  split at h
  · cases h
    rfl
  · cases h

/-- The text of bytes is read from all of them, part by part. -/
theorem decodes_decodeWith (spoil : Spoil) (bytes : ByteArray) :
    Decodes spoil bytes.data.toList (decodeWith spoil bytes).toList := by
  unfold decodeWith
  cases hvalid : String.fromUTF8? bytes with
  | none =>
      rw [← toList_eq_data_toList]
      exact decodes_readBytes spoil _
  | some s =>
      have hbytes : s.toList.utf8Encode = bytes := String.utf8Encode_toList.trans (toUTF8_of_fromUTF8? hvalid)
      rw [← hbytes, toList_utf8Encode]
      exact decodes_chars spoil s.toList

end Whole

/-! ## One reading only -/

section Unique

variable {spoil : Spoil} {part part' behind behind' : List UInt8} {c c' : Char}

theorem utf8EncodeChar_injective (h : String.utf8EncodeChar c = String.utf8EncodeChar c') : c = c' := by
  have hbytes : (String.ofList [c]).toByteArray = (String.ofList [c']).toByteArray := by
    rw [String.toByteArray_ofList, String.toByteArray_ofList]
    simp only [List.utf8Encode, List.flatMap_singleton, h]
  have hchars := String.ofList_injective (String.toByteArray_inj.mp hbytes)
  exact List.head_eq_of_cons_eq hchars

theorem utf8Size_eq_of_leadNumber_eq (h : leadNumber c = leadNumber c') : c.utf8Size = c'.utf8Size := by
  have hlead := leadNumber_cases c
  have hlead' := leadNumber_cases c'
  have hsizes := utf8Size_cases c
  have hsizes' := utf8Size_cases c'
  have hvalid := valid_toNat c
  have hvalid' := valid_toNat c'
  omega

/-- The bytes of characters tell where they end. -/
theorem eq_of_begins (h : String.utf8EncodeChar c <+: behind) (h' : String.utf8EncodeChar c' <+: behind) :
    c = c' := by
  obtain ⟨b, rest, hbehind⟩ := List.exists_cons_of_ne_nil (h.ne_nil String.utf8EncodeChar_ne_nil)
  have hsingle (c : Char) (h : String.utf8EncodeChar c <+: behind) : b.toNat = leadNumber c := by
    refine singleton_prefix_iff.mp (List.prefix_of_prefix_length_le ⟨rest, hbehind.symm⟩ h ?_)
    exact List.length_pos_iff.mpr String.utf8EncodeChar_ne_nil
  have hsize := utf8Size_eq_of_leadNumber_eq ((hsingle c h).symm.trans (hsingle c' h'))
  have hlength : (String.utf8EncodeChar c).length = (String.utf8EncodeChar c').length := by
    rw [String.length_utf8EncodeChar, String.length_utf8EncodeChar, hsize]
  have hbegin := List.prefix_of_prefix_length_le h h' (Nat.le_of_eq hlength)
  exact utf8EncodeChar_injective (hbegin.eq_of_length hlength)

/-- Where a part ends in front of other bytes, it is followed by one of them. -/
theorem exists_next_of_length_lt (h : part ++ behind = part' ++ behind') (hlength : part.length < part'.length) :
    ∃ b ∈ behind.head?, part ++ [b] <+: part' := by
  obtain ⟨more, hmore⟩ : part <+: part' :=
    List.prefix_of_prefix_length_le ⟨behind, rfl⟩ ⟨behind', h.symm⟩ (Nat.le_of_lt hlength)
  cases more with
  | nil =>
      rw [← hmore, List.append_nil] at hlength
      exact absurd hlength (Nat.lt_irrefl _)
  | cons b rest =>
      rw [← hmore, List.append_assoc, List.append_cancel_left_eq] at h
      exact ⟨b, by rw [h]; rfl, ⟨rest, by rw [← hmore, List.append_assoc]; rfl⟩⟩

/-- No character stands where a part is spoilt. -/
theorem Spoilt.no_char (h : Spoilt part behind) (c : Char) :
    ¬String.utf8EncodeChar c <+: part ++ behind := by
  rintro ⟨rest, hrest⟩
  obtain hshort | hlong := Nat.lt_or_ge part.length (String.utf8EncodeChar c).length
  · obtain ⟨b, hb, hbegin⟩ := exists_next_of_length_lt hrest.symm hshort
    exact h.longest b hb ⟨c, hbegin⟩
  · have hbegin : String.utf8EncodeChar c <+: part :=
      List.prefix_of_prefix_length_le ⟨rest, hrest⟩ ⟨behind, rfl⟩ hlong
    refine h.unfinished c ?_
    obtain ⟨c', hc'⟩ | hone := h.begun
    · obtain rfl := eq_of_begins (hbegin.trans hc') List.prefix_rfl
      exact hc'.eq_of_length_le hbegin.length_le
    · refine (hbegin.eq_of_length_le ?_).symm
      rw [hone]
      exact List.length_pos_iff.mpr String.utf8EncodeChar_ne_nil

theorem Spoilt.length_le (h : Spoilt part behind) (h' : Spoilt part' behind')
    (heq : part ++ behind = part' ++ behind') : part'.length ≤ part.length := by
  refine Nat.le_of_not_lt fun hlength => ?_
  obtain ⟨b, hb, hbegin⟩ := exists_next_of_length_lt heq hlength
  obtain ⟨c, hc⟩ | hone := h'.begun
  · exact h.longest b hb ⟨c, hbegin.trans hc⟩
  · have hpart := List.length_pos_iff.mpr h.nonempty
    omega

/-- Where a part is spoilt, it is told where it ends. -/
theorem Spoilt.eq_of_append (h : Spoilt part behind) (h' : Spoilt part' behind')
    (heq : part ++ behind = part' ++ behind') : part = part' ∧ behind = behind' :=
  List.append_inj heq (Nat.le_antisymm (h'.length_le h heq.symm) (h.length_le h' heq))

/-- Bytes are read in one way only. -/
theorem Decodes.unique {bytes : List UInt8} {points points' : List CodePoint} (h : Decodes spoil bytes points)
    (h' : Decodes spoil bytes points') : points = points' := by
  induction h generalizing points' with
  | nil =>
      generalize hbytes : ([] : List UInt8) = bytes at h'
      cases h' with
      | nil => rfl
      | char c' _ =>
          exact absurd (List.append_eq_nil_iff.mp hbytes.symm).1 String.utf8EncodeChar_ne_nil
      | spoilt hpart _ => exact absurd (List.append_eq_nil_iff.mp hbytes.symm).1 hpart.nonempty
  | @char behind points c _ ih =>
      generalize hbytes : String.utf8EncodeChar c ++ behind = bytes at h'
      cases h' with
      | nil => exact absurd (List.append_eq_nil_iff.mp hbytes).1 String.utf8EncodeChar_ne_nil
      | char c' hbehind' =>
          obtain rfl := eq_of_begins ⟨_, hbytes⟩ ⟨_, rfl⟩
          obtain rfl := List.append_cancel_left hbytes
          exact congrArg _ (ih hbehind')
      | spoilt hpart _ => exact absurd ⟨behind, hbytes⟩ (hpart.no_char c)
  | @spoilt part behind points hpart _ ih =>
      generalize hbytes : part ++ behind = bytes at h'
      cases h' with
      | nil => exact absurd (List.append_eq_nil_iff.mp hbytes).1 hpart.nonempty
      | char c' _ => exact absurd ⟨_, hbytes.symm⟩ (hpart.no_char c')
      | spoilt hpart' hbehind' =>
          obtain ⟨rfl, rfl⟩ := hpart.eq_of_append hpart' hbytes
          exact congrArg _ (ih hbehind')

/-- The text of bytes is the one that is read from all of them, part by part. -/
theorem decodeWith_eq_iff {bytes : ByteArray} {text : Text} :
    decodeWith spoil bytes = text ↔ Decodes spoil bytes.data.toList text.toList := by
  constructor
  · rintro rfl
    exact decodes_decodeWith spoil bytes
  · intro h
    exact congrArg ofList ((decodes_decodeWith spoil bytes).unique h)

/-- The text of bytes with replacement characters is the one in which each part that is spoilt became one of
them. -/
theorem decode_eq_iff {bytes : ByteArray} {text : Text} :
    decode bytes = text ↔
      Decodes (fun _ => [.char replacementChar]) bytes.data.toList text.toList :=
  decodeWith_eq_iff

theorem decode_utf8Encode (chars : List Char) : decode chars.utf8Encode = .ofChars chars := by
  rw [decode_eq_iff, toList_utf8Encode]
  exact decodes_chars _ chars

end Unique

/-! ## Writing what was read -/

theorem decode_of_isValidUTF8 {bytes : ByteArray} (h : bytes.IsValidUTF8) :
    decode bytes = .ofString (String.fromUTF8 bytes h) := by
  unfold decode decodeWith String.fromUTF8?
  rw [dif_pos h]

/-- Bytes that are text are written as they were read. -/
theorem encode_decode {bytes : ByteArray} (h : bytes.IsValidUTF8) : encode (decode bytes) = .ok bytes := by
  rw [decode_of_isValidUTF8 h]
  have hwhole : encodingFault? (.ofString (String.fromUTF8 bytes h)) = none := by
    rw [encodingFault?_eq_none_iff]
    simp [CodePoint.isHalf]
  unfold encode nameBytes
  rw [hwhole, string?_ofString]
  rfl

end Conformance.Text
