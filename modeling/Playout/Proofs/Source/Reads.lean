import Mathlib
import Playout.Proofs.Source.Bytes

/-!
# Reads lose and invent nothing

What a delivery holds is a run of items: bytes, and failures between them (`Delivery.items`). A read takes items off the
front of that run (`Delivery.items_read`), bytes up to the size of its buffer or one failure, and none only where
nothing is left or the buffer is empty. So whatever the sizes of the buffers, what reads have handed out and what is
left are the items of the pieces in order (`Delivery.items_reads`), and each failure has its own read. A read comes to
an end because the search for a piece that is not empty is a recursion on the pieces.
-/

namespace Playout.Source

/-- What a delivery is made of. -/
inductive Item where
  | byte (b : UInt8)
  | fault (cause : Fault)
deriving DecidableEq, Repr

def Arrival.items : Arrival → List Item
  | .chunk bytes => bytes.map .byte
  | .fault cause => [.fault cause]

def Item.byte? : Item → Option UInt8
  | .byte b => some b
  | .fault _ => none

def handed : Except Fault Bytes → List Item
  | .ok bytes => bytes.map .byte
  | .error cause => [.fault cause]

def bytesRead : Except Fault Bytes → Bytes
  | .ok bytes => bytes
  | .error _ => []

theorem filterMap_map_byte (bytes : Bytes) : (bytes.map Item.byte).filterMap Item.byte? = bytes := by
  rw [List.filterMap_map]
  exact List.filterMap_some

theorem Arrival.filterMap_items (arrival : Arrival) : arrival.items.filterMap Item.byte? = arrival.bytes := by
  cases arrival with
  | chunk bytes => exact filterMap_map_byte bytes
  | fault cause => rfl

theorem filterMap_handed (result : Except Fault Bytes) : (handed result).filterMap Item.byte? = bytesRead result := by
  cases result with
  | ok bytes => exact filterMap_map_byte bytes
  | error cause => rfl

theorem handed_eq_nil {result : Except Fault Bytes} : handed result = [] ↔ result = .ok [] := by
  cases result <;> simp [handed]

/-! ## Results of reads -/

section Results

variable {results : List (Except Fault Bytes)} {rest before behind : List Item} {cause : Fault} {i j : ℕ}

/-- A failure is no byte, so it stands behind the bytes that come first. -/
theorem exists_behind_bytes {bytes : Bytes} (h : bytes.map Item.byte ++ rest = before ++ .fault cause :: behind) :
    ∃ between, before = bytes.map Item.byte ++ between ∧ rest = between ++ .fault cause :: behind := by
  induction bytes generalizing before with
  | nil => exact ⟨before, rfl, h⟩
  | cons b bytes ih =>
    cases before with
    | nil => cases (List.cons.inj h).1
    | cons item before =>
      obtain ⟨rfl, htail⟩ := List.cons.inj h
      obtain ⟨between, rfl, hrest⟩ := ih htail
      exact ⟨between, rfl, hrest⟩

theorem exists_read_of_fault (h : results.flatMap handed = before ++ .fault cause :: behind) :
    ∃ i : ℕ, results[i]? = some (.error cause) ∧ (results.take i).flatMap handed = before := by
  induction results generalizing before with
  | nil => simp at h
  | cons result results ih =>
    rw [List.flatMap_cons] at h
    cases result with
    | ok bytes =>
      obtain ⟨between, rfl, hrest⟩ := exists_behind_bytes h
      obtain ⟨i, hi, htake⟩ := ih hrest
      refine ⟨i + 1, hi, ?_⟩
      rw [List.take_succ_cons, List.flatMap_cons, htake]
      rfl
    | error other =>
      cases before with
      | nil =>
        obtain ⟨hcause, -⟩ := List.cons.inj h
        cases hcause
        exact ⟨0, rfl, rfl⟩
      | cons item before =>
        obtain ⟨rfl, hrest⟩ := List.cons.inj h
        obtain ⟨i, hi, htake⟩ := ih hrest
        refine ⟨i + 1, hi, ?_⟩
        rw [List.take_succ_cons, List.flatMap_cons, htake]
        rfl

theorem length_handed_lt (hij : i < j) (hi : results[i]? = some (.error cause)) :
    ((results.take i).flatMap handed).length < ((results.take j).flatMap handed).length := by
  have htake : results.take (i + 1) = results.take i ++ [.error cause] := by
    rw [List.take_add_one, hi, Option.toList_some]
  have hfront : results.take (i + 1) <+: results.take j := List.take_prefix_take_left hij
  have hle := (hfront.flatMap handed).length_le
  rw [htake, List.flatMap_append, List.length_append] at hle
  exact lt_of_lt_of_le (Nat.lt_succ_self _) hle

theorem eq_of_handed (hi : results[i]? = some (.error cause)) (hj : results[j]? = some (.error cause))
    (h : (results.take i).flatMap handed = (results.take j).flatMap handed) : i = j := by
  rcases Nat.lt_trichotomy i j with hlt | heq | hgt
  · exact absurd (congrArg List.length h) (length_handed_lt hlt hi).ne
  · exact heq
  · exact absurd (congrArg List.length h) (length_handed_lt hgt hj).ne'

end Results

namespace Delivery

variable {d : Delivery} {arrivals : List Arrival}

def items (d : Delivery) : List Item := d.current.map .byte ++ d.queued.flatMap Arrival.items

theorem filterMap_items (d : Delivery) : d.items.filterMap Item.byte? = d.bytes := by
  have hqueued : (d.queued.flatMap Arrival.items).filterMap Item.byte? = d.queued.flatMap Arrival.bytes := by
    rw [List.filterMap_flatMap]
    exact congrArg (d.queued.flatMap ·) (funext Arrival.filterMap_items)
  rw [items, List.filterMap_append, filterMap_map_byte, hqueued, bytes]

/-! ## One read -/

theorem items_nextPiece (arrivals : List Arrival) :
    handed (nextPiece arrivals).1 ++ (nextPiece arrivals).2.flatMap Arrival.items = arrivals.flatMap Arrival.items := by
  fun_induction nextPiece arrivals with
  | case1 => rfl
  | case2 rest ih => exact ih
  | case3 b bs rest => rfl
  | case4 cause rest => rfl

theorem items_read (d : Delivery) (n : ℕ) : handed (d.read n).1 ++ (d.read n).2.items = d.items := by
  have hcut (bytes : Bytes) : (bytes.take n).map Item.byte ++ (bytes.drop n).map Item.byte = bytes.map Item.byte := by
    rw [← List.map_append, List.take_append_drop]
  have hpiece := items_nextPiece d.queued
  unfold read
  split
  · rfl
  · split
    · next hcurrent =>
      split
      · next piece rest hnext =>
        rw [hnext] at hpiece
        rw [items, items, hcurrent, handed, ← List.append_assoc, hcut]
        exact hpiece
      · next cause rest hnext =>
        rw [hnext] at hpiece
        rw [items, items, hcurrent]
        exact hpiece
    · rw [items, items, handed, ← List.append_assoc, hcut]

theorem length_read_le {n : ℕ} {got : Bytes} (h : (d.read n).1 = .ok got) : got.length ≤ n := by
  by_cases hn : n = 0
  · subst hn
    cases h
    exact Nat.le_refl 0
  · exact (bytes_of_read hn (Prod.ext h rfl)).2.1

theorem read_eq_nil_iff {n : ℕ} (hn : n ≠ 0) : (d.read n).1 = .ok [] ↔ d.items = [] := by
  have hread := d.items_read n
  constructor
  · intro h
    suffices hleft : (d.read n).2.items = [] by
      rw [← hread, h, hleft]
      rfl
    clear hread
    unfold read at h ⊢
    rw [if_neg hn] at h ⊢
    split at h
    · next hcurrent =>
      rw [if_pos hcurrent]
      split at h
      · next piece rest hnext =>
        have hpiece := (List.take_eq_nil_iff.1 (Except.ok.inj h)).resolve_left hn
        have hrest := (bytes_of_nextPiece hnext).2.1 hpiece
        simp [items, hpiece, hrest]
      · cases h
    · next hcurrent => exact absurd ((List.take_eq_nil_iff.1 (Except.ok.inj h)).resolve_left hn) hcurrent
  · intro h
    rw [h, List.append_eq_nil_iff] at hread
    exact handed_eq_nil.1 hread.1

theorem length_items_read {n : ℕ} (hn : n ≠ 0) (h : d.items ≠ []) : (d.read n).2.items.length < d.items.length := by
  have hhanded : handed (d.read n).1 ≠ [] := fun hnil => h ((read_eq_nil_iff hn).1 (handed_eq_nil.1 hnil))
  have hpos := List.length_pos_iff.2 hhanded
  rw [← d.items_read n, List.length_append]
  omega

theorem nextPiece_suffix (arrivals : List Arrival) : (nextPiece arrivals).2 <:+ arrivals := by
  fun_induction nextPiece arrivals with
  | case1 => exact List.suffix_rfl
  | case2 rest ih => exact ih.trans (List.suffix_cons _ _)
  | case3 b bs rest => exact List.suffix_cons _ _
  | case4 cause rest => exact List.suffix_cons _ _

theorem queued_read_suffix (d : Delivery) (n : ℕ) : (d.read n).2.queued <:+ d.queued := by
  have hnext := nextPiece_suffix d.queued
  unfold read
  split
  · exact List.suffix_rfl
  · split
    · split
      all_goals
        next heq =>
        rw [heq] at hnext
        exact hnext
    · exact List.suffix_rfl

/-! ## Read after read -/

/-- Reads with buffers of these sizes: their results, and what they leave. -/
def reads (d : Delivery) : List ℕ → List (Except Fault Bytes) × Delivery
  | [] => ([], d)
  | n :: sizes => ((d.read n).1 :: ((d.read n).2.reads sizes).1, ((d.read n).2.reads sizes).2)

theorem items_reads (d : Delivery) (sizes : List ℕ) :
    (d.reads sizes).1.flatMap handed ++ (d.reads sizes).2.items = d.items := by
  induction sizes generalizing d with
  | nil => rfl
  | cons n sizes ih => rw [reads, List.flatMap_cons, List.append_assoc, ih, items_read]

theorem queued_reads_suffix (d : Delivery) (sizes : List ℕ) : (d.reads sizes).2.queued <:+ d.queued := by
  induction sizes generalizing d with
  | nil => exact List.suffix_rfl
  | cons n sizes ih => exact (ih (d.read n).2).trans (d.queued_read_suffix n)

/-- Each read with room in its buffer takes an item at least. -/
theorem items_of_enough {sizes : List ℕ} (hsizes : ∀ n ∈ sizes, n ≠ 0) (h : d.items.length ≤ sizes.length) :
    (d.reads sizes).2.items = [] := by
  induction sizes generalizing d with
  | nil => exact List.eq_nil_of_length_eq_zero (Nat.le_zero.1 h)
  | cons n sizes ih =>
    have hn := hsizes n List.mem_cons_self
    show ((d.read n).2.reads sizes).2.items = []
    refine ih (fun m hm => hsizes m (List.mem_cons_of_mem n hm)) ?_
    by_cases hnil : d.items = []
    · have hread := d.items_read n
      rw [hnil] at hread
      rw [(List.append_eq_nil_iff.1 hread).2]
      exact Nat.zero_le _
    · have hlt := length_items_read hn hnil
      rw [List.length_cons] at h
      omega

/-- **Reads lose and invent nothing.** What reads have handed out and what is left make up the pieces, bytes and
failures in order, each failure reported once. A read with room hands out nothing just where nothing is left; one
without changes nothing. -/
theorem reads_hand_out_items (arrivals : List Arrival) (sizes : List ℕ) {results : List (Except Fault Bytes)}
    {d : Delivery} (h : (ofArrivals arrivals).reads sizes = (results, d)) :
    results.flatMap bytesRead ++ d.bytes = arrivals.flatMap Arrival.bytes ∧
    d.queued <:+ arrivals ∧
    results.flatMap handed ++ d.items = arrivals.flatMap Arrival.items ∧
    (∀ before cause behind, arrivals = before ++ .fault cause :: behind →
      (∃ between, results.flatMap handed ++ between = before.flatMap Arrival.items ∧
        d.items = between ++ .fault cause :: behind.flatMap Arrival.items) ∨
      ∃! i : ℕ, results[i]? = some (.error cause) ∧
        (results.take i).flatMap handed = before.flatMap Arrival.items) ∧
    (∀ n ≠ 0, ((d.read n).1 = .ok [] ↔ d.items = []) ∧ ∀ got, (d.read n).1 = .ok got → got.length ≤ n) ∧
    d.read 0 = (.ok [], d) ∧
    ((∀ n ∈ sizes, n ≠ 0) → (arrivals.flatMap Arrival.items).length ≤ sizes.length → d.items = []) := by
  have hitems : results.flatMap handed ++ d.items = arrivals.flatMap Arrival.items := by
    have hreads := (ofArrivals arrivals).items_reads sizes
    rwa [h] at hreads
  have hbytes : results.flatMap bytesRead ++ d.bytes = arrivals.flatMap Arrival.bytes := by
    have hfilter := congrArg (List.filterMap Item.byte?) hitems
    rw [List.filterMap_append, filterMap_items, List.filterMap_flatMap, List.filterMap_flatMap,
      funext filterMap_handed, funext Arrival.filterMap_items] at hfilter
    exact hfilter
  have hqueued : d.queued <:+ arrivals := by
    have hreads := (ofArrivals arrivals).queued_reads_suffix sizes
    rwa [h] at hreads
  refine ⟨hbytes, hqueued, hitems, ?_, fun n hn => ⟨read_eq_nil_iff hn, fun got => length_read_le⟩, rfl, ?_⟩
  · rintro before cause behind rfl
    rw [List.flatMap_append, List.flatMap_cons, List.append_eq_append_iff] at hitems
    rcases hitems with ⟨between, hbefore, hleft⟩ | ⟨between, hhanded, hbehind⟩
    · exact .inl ⟨between, hbefore.symm, hleft⟩
    · cases between with
      | nil => exact .inl ⟨[], hhanded ▸ (by simp), hbehind.symm⟩
      | cons item between =>
        obtain ⟨rfl, -⟩ := List.cons.inj hbehind
        obtain ⟨i, hi, htake⟩ := exists_read_of_fault hhanded
        refine .inr ⟨i, ⟨hi, htake⟩, ?_⟩
        rintro j ⟨hj, hj'⟩
        exact eq_of_handed hj hi (hj'.trans htake.symm)
  · intro hsizes hlong
    have hleft := items_of_enough (d := ofArrivals arrivals) hsizes hlong
    rwa [h] at hleft

/-- Between two empty pieces a failure stands in front of the last byte, and a read without room comes in between. -/
theorem reads_hand_out_items_amid_failure :
    ∃ results d,
      (ofArrivals [.chunk [1, 2, 3], .chunk [], .fault ⟨"reset", false⟩, .chunk [], .chunk [4]]).reads [2, 0, 9, 9, 9] =
        (results, d) ∧
      results = [.ok [1, 2], .ok [], .ok [3], .error ⟨"reset", false⟩, .ok [4]] ∧ d.items = [] := by
  refine ⟨_, _, rfl, by decide, ?_⟩
  obtain ⟨-, -, hitems, -⟩ := reads_hand_out_items
    [.chunk [1, 2, 3], .chunk [], .fault ⟨"reset", false⟩, .chunk [], .chunk [4]] [2, 0, 9, 9, 9] rfl
  exact List.append_right_eq_self.1 hitems

end Delivery

end Playout.Source
