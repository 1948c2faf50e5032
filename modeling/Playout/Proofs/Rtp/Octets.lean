import Mathlib
import Playout.Proofs.Wav.Canonical
import Playout.Rtp.Packet

/-!
# Numbers in network order

The words and long words of a packet stand with their highest octet first (`octets`). What is written for a number is
read as that number, and what is read as a number was written for it.
-/

namespace Playout.Rtp

/-- A number in `width` octets, the highest first. -/
def octets (width n : Nat) : Bytes := (Wav.digits width n).reverse

@[simp] theorem length_octets (width n : Nat) : (octets width n).length = width := by
  rw [octets, List.length_reverse, Wav.length_digits]

theorem octets_one (b : UInt8) : octets 1 b.toNat = [b] := by
  simp [octets, Wav.digits]

theorem octets_one_of_lt {n : Nat} (h : n < 256) : ∃ b : UInt8, octets 1 n = [b] ∧ b.toNat = n :=
  ⟨n.toUInt8, rfl, UInt8.toNat_ofNat_of_lt' h⟩

/-! ## Words -/

theorem toNat_wordOfBytes (b1 b0 : UInt8) : (wordOfBytes b1 b0).toNat = Wav.number [b0, b1] := by
  have hword : wordOfBytes b1 b0 = Wav.word b0 b1 := UInt16.or_comm _ _
  rw [hword, Wav.toNat_word]

theorem octets_wordOfBytes (b1 b0 : UInt8) : octets 2 (wordOfBytes b1 b0).toNat = [b1, b0] := by
  have hdigits : Wav.digits 2 (Wav.number [b0, b1]) = [b0, b1] := Wav.digits_number [b0, b1]
  rw [octets, toNat_wordOfBytes, hdigits]
  rfl

theorem wordOfBytes_of_octets {w : UInt16} {b1 b0 : UInt8} (h : octets 2 w.toNat = [b1, b0]) :
    wordOfBytes b1 b0 = w := by
  apply UInt16.toNat_inj.1
  have hdigits : Wav.digits 2 w.toNat = [b0, b1] := List.reverse_eq_iff.1 h
  rw [toNat_wordOfBytes, ← hdigits, Wav.number_digits w.toNat_lt]

theorem wordBytes_eq (w : UInt16) : wordBytes w = octets 2 w.toNat := by
  have hhigh : (w >>> 8).toUInt8 = (w.toNat / 256).toUInt8 := by
    apply UInt8.toNat_inj.1
    simp [Nat.toUInt8, Nat.shiftRight_eq_div_pow]
  have hlow : w.toUInt8 = w.toNat.toUInt8 := rfl
  rw [wordBytes, hhigh, hlow]
  rfl

/-! ## Long words -/

theorem toNat_longOfBytes (b3 b2 b1 b0 : UInt8) : (longOfBytes b3 b2 b1 b0).toNat = Wav.number [b0, b1, b2, b3] := by
  have hlor : ∀ w3 w2 w1 w0 : UInt32, w3 ||| w2 ||| w1 ||| w0 = w0 ||| w1 ||| w2 ||| w3 := by
    intros
    ac_rfl
  have hlong : longOfBytes b3 b2 b1 b0 = Wav.long b0 b1 b2 b3 := hlor _ _ _ _
  rw [hlong, Wav.toNat_long]

theorem octets_longOfBytes (b3 b2 b1 b0 : UInt8) : octets 4 (longOfBytes b3 b2 b1 b0).toNat = [b3, b2, b1, b0] := by
  have hdigits : Wav.digits 4 (Wav.number [b0, b1, b2, b3]) = [b0, b1, b2, b3] := Wav.digits_number [b0, b1, b2, b3]
  rw [octets, toNat_longOfBytes, hdigits]
  rfl

theorem longOfBytes_of_octets {w : UInt32} {b3 b2 b1 b0 : UInt8} (h : octets 4 w.toNat = [b3, b2, b1, b0]) :
    longOfBytes b3 b2 b1 b0 = w := by
  apply UInt32.toNat_inj.1
  have hdigits : Wav.digits 4 w.toNat = [b0, b1, b2, b3] := List.reverse_eq_iff.1 h
  rw [toNat_longOfBytes, ← hdigits, Wav.number_digits w.toNat_lt]

theorem longBytes_eq (w : UInt32) : longBytes w = octets 4 w.toNat := by
  have hshift : ∀ k : UInt32, k.toNat < 32 → (w >>> k).toUInt8 = (w.toNat / 2 ^ k.toNat).toUInt8 := by
    intro k hk
    apply UInt8.toNat_inj.1
    simp [Nat.toUInt8, Nat.shiftRight_eq_div_pow, Nat.mod_eq_of_lt hk]
  have hlow : w.toUInt8 = w.toNat.toUInt8 := rfl
  rw [longBytes, hshift 24 (by decide), hshift 16 (by decide), hshift 8 (by decide), hlow]
  simp [octets, Wav.digits, Nat.div_div_eq_div_mul]

theorem exists_four {bytes : Bytes} (h : 4 ≤ bytes.length) :
    ∃ b3 b2 b1 b0 rest, bytes = b3 :: b2 :: b1 :: b0 :: rest := by
  match bytes, h with
  | b3 :: b2 :: b1 :: b0 :: rest, _ => exact ⟨b3, b2, b1, b0, rest, rfl⟩

theorem exists_longs (n : Nat) {bytes : Bytes} (h : bytes.length = 4 * n) :
    ∃ longs : List UInt32, longs.length = n ∧ longs.flatMap (octets 4 ·.toNat) = bytes := by
  induction n generalizing bytes with
  | zero => exact ⟨[], rfl, (List.eq_nil_of_length_eq_zero h).symm⟩
  | succ n ih =>
    have hfour : 4 ≤ bytes.length := by omega
    obtain ⟨b3, b2, b1, b0, rest, rfl⟩ := exists_four hfour
    simp only [List.length_cons] at h
    have hlength : rest.length = 4 * n := by omega
    obtain ⟨longs, hlongs, hrest⟩ := ih hlength
    refine ⟨longOfBytes b3 b2 b1 b0 :: longs, by rw [List.length_cons, hlongs], ?_⟩
    rw [List.flatMap_cons, octets_longOfBytes, hrest]
    rfl

end Playout.Rtp
