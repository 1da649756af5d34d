namespace EngineBench

namespace Text

def bytes (s : String) : List UInt8 :=
  s.toUTF8.data.toList

theorem bytes_eq (s : String) : bytes s = s.toList.flatMap String.utf8EncodeChar := by
  have h : s.toList.utf8Encode = s.toByteArray := String.utf8Encode_toList
  simp only [bytes, String.toUTF8, ← h, List.utf8Encode, List.data_toByteArray]

section

variable {m n : Nat} (hm : m < 256) (hn : n < 256)

include hm hn

theorem ofNat_lt_iff : UInt8.ofNat m < UInt8.ofNat n ↔ m < n := by
  rw [UInt8.lt_iff_toNat_lt, UInt8.toNat_ofNat', UInt8.toNat_ofNat', Nat.mod_eq_of_lt hm,
    Nat.mod_eq_of_lt hn]

theorem ofNat_inj : UInt8.ofNat m = UInt8.ofNat n ↔ m = n := by
  rw [← UInt8.toNat_inj, UInt8.toNat_ofNat', UInt8.toNat_ofNat', Nat.mod_eq_of_lt hm,
    Nat.mod_eq_of_lt hn]

end

theorem val_lt (c : Char) : c.val.toNat < 1114112 := by
  have h : c.val.toNat < 55296 ∨ 57343 < c.val.toNat ∧ c.val.toNat < 1114112 := c.valid
  omega

theorem exists_utf8EncodeChar_eq (c : Char) : ∃ b rest, String.utf8EncodeChar c = b :: rest := by
  simp only [String.utf8EncodeChar]
  repeat' split
  all_goals exact ⟨_, _, rfl⟩

theorem utf8EncodeChar_append_lt {c d : Char} (h : c < d) (xs ys : List UInt8) :
    String.utf8EncodeChar c ++ xs < String.utf8EncodeChar d ++ ys := by
  have hd := val_lt d
  have h : c.val.toNat < d.val.toNat := h
  -- All digits are taken in base 64, so that those of the two characters can be compared.
  have h₂ (v : Nat) : v / 4096 = v / 64 / 64 := (Nat.div_div_eq_div_mul v 64 64).symm
  have h₃ (v : Nat) : v / 262144 = v / 64 / 64 / 64 := by rw [← h₂, Nat.div_div_eq_div_mul]
  simp only [String.utf8EncodeChar, h₂, h₃]
  generalize c.val.toNat = m at *
  generalize d.val.toNat = n at *
  repeat' split
  all_goals
    simp (disch := omega) only [List.cons_append, List.nil_append, List.cons_lt_cons_iff,
      ofNat_lt_iff, ofNat_inj]
    omega

theorem encode_lt {cs ds : List Char} (h : cs < ds) :
    cs.flatMap String.utf8EncodeChar < ds.flatMap String.utf8EncodeChar := by
  induction h
  case nil d ds =>
    have ⟨b, rest, hb⟩ := exists_utf8EncodeChar_eq d
    rw [List.flatMap_cons, hb]
    exact .nil
  case rel h   => exact utf8EncodeChar_append_lt h _ _
  case cons hi => exact List.append_left_lt hi

theorem bytes_lt {s t : String} (h : s < t) : bytes s < bytes t := by
  rw [bytes_eq, bytes_eq]
  exact encode_lt (String.lt_iff.mp h)

end Text

end EngineBench
