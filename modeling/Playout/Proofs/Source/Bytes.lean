import Mathlib
import Playout.Source.Delivery

/-!
# A delivery as a byte string

However a delivery is cut into pieces, and however often a read of it is interrupted, it hands out one byte
string (`Delivery.bytes`). A read takes from the front of that string and skips nothing
(`Delivery.bytes_of_read`, `Delivery.bytes_of_failed_read`). Where nothing worse happens than interruptions
(`Delivery.Clean`), a read in full gets exactly the next bytes, as many as there are
(`Delivery.readFull_of_clean`), so what is made of such a delivery depends on its bytes alone.
-/

namespace Playout.Source

def Arrival.bytes : Arrival → Bytes
  | .chunk bytes => bytes
  | .fault _ => []

/-- A piece of bytes, or an interruption. -/
def Arrival.passable : Arrival → Bool
  | .chunk _ => true
  | .fault cause => cause.interrupted

namespace Delivery

variable {d d' : Delivery} {n : Nat} {got : Bytes} {cause : Fault} {arrivals rest : List Arrival}

/-- Everything that is left to read, in order. -/
def bytes (d : Delivery) : Bytes := d.current ++ d.queued.flatMap Arrival.bytes

/-- Nothing worse happens on the way than interruptions. -/
def Clean (d : Delivery) : Prop := ∀ arrival ∈ d.queued, arrival.passable = true

theorem bytes_ofArrivals (arrivals : List Arrival) : (ofArrivals arrivals).bytes = arrivals.flatMap Arrival.bytes := rfl

/-! ## One read -/

theorem bytes_of_nextPiece (h : nextPiece arrivals = (.ok got, rest)) :
    got ++ rest.flatMap Arrival.bytes = arrivals.flatMap Arrival.bytes ∧ (got = [] → rest = []) ∧ rest ⊆ arrivals := by
  fun_induction nextPiece arrivals with
  | case1 =>
    cases h
    simp
  | case2 arrivals ih =>
    obtain ⟨hbytes, hnil, hsubset⟩ := ih h
    exact ⟨hbytes, hnil, List.subset_cons_of_subset _ hsubset⟩
  | case3 b bs arrivals =>
    cases h
    exact ⟨rfl, by simp, List.subset_cons_self _ _⟩
  | case4 cause arrivals => cases h

theorem bytes_of_failed_nextPiece (h : nextPiece arrivals = (.error cause, rest)) :
    rest.flatMap Arrival.bytes = arrivals.flatMap Arrival.bytes ∧ .fault cause ∈ arrivals ∧ rest ⊆ arrivals := by
  fun_induction nextPiece arrivals with
  | case1 => cases h
  | case2 arrivals ih =>
    obtain ⟨hbytes, hmem, hsubset⟩ := ih h
    exact ⟨hbytes, List.mem_cons_of_mem _ hmem, List.subset_cons_of_subset _ hsubset⟩
  | case3 b bs arrivals => cases h
  | case4 cause arrivals =>
    cases h
    exact ⟨rfl, List.mem_cons_self, List.subset_cons_self _ _⟩

theorem bytes_of_read (hn : n ≠ 0) (h : d.read n = (.ok got, d')) :
    got ++ d'.bytes = d.bytes ∧ got.length ≤ n ∧ (got = [] → d'.bytes = []) ∧ d'.queued ⊆ d.queued := by
  unfold read at h
  rw [if_neg hn] at h
  split at h
  · next hcurrent =>
    split at h
    · next piece rest hpiece =>
      cases h
      obtain ⟨hbytes, hnil, hsubset⟩ := bytes_of_nextPiece hpiece
      refine ⟨?_, List.length_take_le _ _, ?_, hsubset⟩
      · rw [bytes, bytes, hcurrent, ← hbytes, ← List.append_assoc, List.take_append_drop, List.nil_append]
      · intro htake
        have hpiece : piece = [] := (List.take_eq_nil_iff.1 htake).resolve_left hn
        simp [bytes, hnil hpiece, hpiece]
    · cases h
  · next hcurrent =>
    cases h
    refine ⟨?_, List.length_take_le _ _, ?_, List.Subset.refl _⟩
    · rw [bytes, bytes, ← List.append_assoc, List.take_append_drop]
    · intro htake
      exact absurd ((List.take_eq_nil_iff.1 htake).resolve_left hn) hcurrent

theorem bytes_of_failed_read (h : d.read n = (.error cause, d')) :
    d'.bytes = d.bytes ∧ .fault cause ∈ d.queued ∧ d'.queued ⊆ d.queued := by
  unfold read at h
  split at h
  · cases h
  · split at h
    · next hcurrent =>
      split at h
      · cases h
      · next hpiece =>
        cases h
        obtain ⟨hbytes, hmem, hsubset⟩ := bytes_of_failed_nextPiece hpiece
        exact ⟨by rw [bytes, bytes, hcurrent, hbytes], hmem, hsubset⟩
    · cases h

theorem Clean.of_subset (h : d.Clean) (hsubset : d'.queued ⊆ d.queued) : d'.Clean :=
  fun arrival hmem => h arrival (hsubset hmem)

/-! ## Reading in full -/

/-- What is left of a delivery behind a read in full. -/
def past (d : Delivery) (n : Nat) : Delivery := (d.readFull n).2

theorem exists_readFull (h : d.Clean) (n : Nat) :
    ∃ d', d.readFull n = (.ok (d.bytes.take n), d') ∧ d'.bytes = d.bytes.drop n ∧ d'.Clean := by
  fun_induction readFull d n with
  | case1 d => exact ⟨d, rfl, rfl, h⟩
  | case2 d n hn d₁ hread =>
    obtain ⟨hbytes, -, hnil, hsubset⟩ := bytes_of_read hn hread
    have hd₁ : d₁.bytes = [] := hnil rfl
    have hd : d.bytes = [] := by rw [← hbytes, hd₁, List.append_nil]
    exact ⟨d₁, by rw [hd, List.take_nil], by rw [hd₁, hd, List.drop_nil], h.of_subset hsubset⟩
  | case3 d n hn b bs d₁ hread more d₂ hmore ih =>
    obtain ⟨hbytes, hle, -, hsubset⟩ := bytes_of_read hn hread
    obtain ⟨d', heq, hrest, hclean⟩ := ih (h.of_subset hsubset)
    cases hmore.symm.trans heq
    refine ⟨d₂, ?_, ?_, hclean⟩
    · rw [← hbytes, List.take_append, List.take_of_length_le hle]
    · rw [hrest, ← hbytes, List.drop_append, List.drop_of_length_le hle, List.nil_append]
  | case4 d n hn b bs d₁ hread cause d₂ hmore ih =>
    obtain ⟨-, -, -, hsubset⟩ := bytes_of_read hn hread
    obtain ⟨d', heq, -⟩ := ih (h.of_subset hsubset)
    cases hmore.symm.trans heq
  | case5 d n hn cause d₁ hread hinterrupted ih =>
    obtain ⟨hbytes, -, hsubset⟩ := bytes_of_failed_read hread
    rw [← hbytes]
    exact ih (h.of_subset hsubset)
  | case6 d n hn cause d₁ hread hfailed =>
    obtain ⟨-, hmem, -⟩ := bytes_of_failed_read hread
    exact absurd (h _ hmem) hfailed

theorem readFull_of_clean (h : d.Clean) (n : Nat) : d.readFull n = (.ok (d.bytes.take n), d.past n) := by
  obtain ⟨d', heq, -⟩ := exists_readFull h n
  rw [past, heq]

theorem bytes_past (h : d.Clean) (n : Nat) : (d.past n).bytes = d.bytes.drop n := by
  obtain ⟨d', heq, hrest, -⟩ := exists_readFull h n
  rw [past, heq, hrest]

theorem Clean.past (h : d.Clean) (n : Nat) : (d.past n).Clean := by
  obtain ⟨d', heq, -, hclean⟩ := exists_readFull h n
  rwa [Delivery.past, heq]

end Delivery

end Playout.Source
