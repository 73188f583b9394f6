import Inquiry.Paging.Page
import Inquiry.Proofs.Paging.Windowing
import Mathlib.Data.List.Forall2

set_option autoImplicit false

namespace Inquiry

variable {α β : Type}

namespace Page

theorem pages_for_to_nat (total max : UInt64) (sized : max ≠ 0) :
    (pagesFor total max).toNat = (total.toNat + max.toNat - 1) / max.toNat := by
  have positive : 0 < max.toNat := UInt64.pos_iff_ne_zero.mpr sized
  have whole := Nat.div_add_mod' total.toNat max.toNat
  have below := Nat.mod_lt total.toNat positive
  have even : total % max = 0 ↔ total.toNat % max.toNat = 0 := by
    rw [← UInt64.toNat_inj, UInt64.toNat_mod]
    rfl
  rw [pagesFor, if_neg sized]
  symm
  by_cases rest : total.toNat % max.toNat = 0
  · rw [if_pos (even.mpr rest), UInt64.toNat_div]
    apply Nat.div_eq_of_lt_le
    · omega
    · rw [Nat.succ_mul]
      omega
  · have small : total.toNat / max.toNat + 1 < 2 ^ 64 := by
      have more : 1 < max.toNat := by
        apply Nat.lt_of_le_of_ne positive
        rintro one
        exact rest (by rw [← one, Nat.mod_one])
      have half : total.toNat / max.toNat ≤ total.toNat / 2 :=
        Nat.div_le_div_left more (by decide)
      have bound := total.toNat_lt
      omega
    rw [if_neg (rest ∘ even.mp), UInt64.toNat_add, UInt64.toNat_div, UInt64.toNat_one,
      Nat.mod_eq_of_lt small]
    apply Nat.div_eq_of_lt_le
    · rw [Nat.succ_mul]
      omega
    · rw [Nat.succ_mul, Nat.succ_mul]
      omega

def pageCount (rows : List α) (size : UInt64) : UInt64 := pagesFor (.ofNat rows.length) size

theorem lt_page_count_iff (rows : List α) (size : UInt64) (sized : size ≠ 0)
    (bounded : rows.length < UInt64.size) (n : Nat) :
    n < (pageCount rows size).toNat ↔ n * size.toNat < rows.length := by
  have positive : 0 < size.toNat := UInt64.pos_iff_ne_zero.mpr sized
  have total : (UInt64.ofNat rows.length).toNat = rows.length := UInt64.toNat_ofNat_of_lt' bounded
  rw [pageCount, pages_for_to_nat _ size sized, total, Nat.lt_div_iff_mul_lt positive]
  omega

def chunk (rows : List α) (size i : Nat) : List α := (rows.drop (i * size)).take size

def chunks (rows : List α) (size count : Nat) : List (List α) :=
  (List.range count).map (chunk rows size)

theorem chunks_succ (rows : List α) (size count : Nat) :
    chunks rows size (count + 1) = chunks rows size count ++ [chunk rows size count] := by
  rw [chunks, List.range_succ, List.map_append]
  rfl

theorem chunks_flatten (rows : List α) (size count : Nat) :
    (chunks rows size count).flatten = rows.take (count * size) := by
  induction count with
  | zero => simp [chunks]
  | succ count ih =>
      rw [chunks_succ, List.flatten_append, ih, List.flatten_singleton, chunk, Nat.succ_mul,
        List.take_add]

theorem chunk_length (rows : List α) (size i : Nat) :
    (chunk rows size i).length = min size (rows.length - i * size) := by
  rw [chunk, List.length_take, List.length_drop]

section

variable (rows : List α) (size count : Nat) (filled : ∀ n, n < count ↔ n * size < rows.length)
include filled

theorem chunks_exhaust : (chunks rows size count).flatten = rows := by
  rw [chunks_flatten]
  apply List.take_of_length_le
  exact Nat.not_lt.mp fun left => Nat.lt_irrefl count ((filled count).mpr left)

theorem chunks_full : ∀ page ∈ (chunks rows size count).dropLast, page.length = size := by
  cases count with
  | zero => simp [chunks]
  | succ count =>
      rw [chunks_succ, List.dropLast_concat]
      intro page member
      obtain ⟨i, inside, rfl⟩ := List.mem_map.mp member
      -- The last chunk begins no earlier than this one ends.
      have start := (filled count).mp (Nat.lt_succ_self count)
      have ends := Nat.mul_le_mul_right size (Nat.succ_le_of_lt (List.mem_range.mp inside))
      rw [Nat.succ_mul] at ends
      rw [chunk_length]
      omega

theorem chunks_last : ∀ page ∈ (chunks rows size count).getLast?,
    1 ≤ page.length ∧ page.length ≤ size := by
  cases count with
  | zero => simp [chunks]
  | succ count =>
      rw [chunks_succ, List.getLast?_concat]
      intro page last
      obtain rfl := Option.some.inj last
      have start := (filled count).mp (Nat.lt_succ_self count)
      have ends := Nat.not_lt.mp fun left => Nat.lt_irrefl _ ((filled (count + 1)).mpr left)
      rw [Nat.succ_mul] at ends
      rw [chunk_length]
      omega

end

end Page

namespace Paginator

def Shows (q : Paginator) (rows : List α) (size number : UInt64) (shown : List α) : Prop :=
  ∃ p w, q.page (some number) (some size) = .ok p ∧ p.window = some w ∧ w.apply rows = shown

theorem shows_iff (q : Paginator) (rows : List α) (size number : UInt64) (shown : List α) :
    q.Shows rows size number shown ↔ Windowing.IsPage number size ∧
      shown = Page.chunk rows size.toNat (number.toNat - 1) := by
  constructor
  · rintro ⟨p, w, accepted, window, rfl⟩
    obtain ⟨isPage, rfl⟩ := (q.page_ok_iff p number size).mp accepted
    obtain rfl := Option.some.inj window
    rw [RowWindow.apply, Windowing.page_offset number size isPage]
    exact ⟨isPage, rfl⟩
  · rintro ⟨isPage, rfl⟩
    refine ⟨_, _, (q.page_ok_iff _ number size).mpr ⟨isPage, rfl⟩, rfl, ?_⟩
    rw [RowWindow.apply, Windowing.page_offset number size isPage]
    rfl

def pageNumbers (count : UInt64) : List UInt64 := (List.range' 1 count.toNat).map UInt64.ofNat

structure Partitions (β : Type) (q : Paginator) (rows : List α) (size count : UInt64) : Prop where
  pages : ∃ pages, List.Forall₂ (q.Shows rows size) (pageNumbers count) pages ∧
    pages.flatten = rows ∧ (∀ page ∈ pages.dropLast, page.length = size.toNat) ∧
    ∀ page ∈ pages.getLast?, 1 ≤ page.length ∧ page.length ≤ size.toNat
  beyond : ∀ number shown, count < number → q.Shows rows size number shown → shown = []
  next : ∀ number p w (data : List β), q.page (some number) (some size) = .ok p →
    p.window = some w →
    ((Page.new number size (.ofNat rows.length) data).hasNext = true ↔
      ∃ i row, w.offset.toNat + w.limit.toNat ≤ i ∧ rows[i]? = some row)

section

variable (q : Paginator) (rows : List α) (size : UInt64) (sized : size ≠ 0)
  (bounded : rows.length < UInt64.size)
include sized bounded

theorem shows_chunk (i : Nat) (start : i * size.toNat < rows.length) :
    q.Shows rows size (.ofNat (1 + i)) (Page.chunk rows size.toNat i) := by
  have positive : 0 < size.toNat := UInt64.pos_iff_ne_zero.mpr sized
  have below : i ≤ i * size.toNat := Nat.le_mul_of_pos_right i positive
  have exact : (UInt64.ofNat (1 + i)).toNat = 1 + i := UInt64.toNat_ofNat_of_lt' (by omega)
  have earlier : (UInt64.ofNat (1 + i)).toNat - 1 = i := by omega
  have numbered : UInt64.ofNat (1 + i) ≠ 0 := by
    intro zero
    rw [zero, UInt64.toNat_zero] at exact
    omega
  rw [shows_iff, Windowing.IsPage, earlier]
  exact ⟨⟨numbered, sized, Nat.lt_trans start bounded⟩, rfl⟩

theorem shows_chunks :
    List.Forall₂ (q.Shows rows size) (pageNumbers (Page.pageCount rows size))
      (Page.chunks rows size.toNat (Page.pageCount rows size).toNat) := by
  rw [pageNumbers, Page.chunks, List.range'_eq_map_range, List.map_map, List.forall₂_map_left_iff,
    List.forall₂_map_right_iff, List.forall₂_same]
  intro i inside
  have start := (Page.lt_page_count_iff rows size sized bounded i).mp (List.mem_range.mp inside)
  exact q.shows_chunk rows size sized bounded i start

theorem shows_nothing_behind (number : UInt64) (shown : List α)
    (behind : Page.pageCount rows size < number) (shows : q.Shows rows size number shown) :
    shown = [] := by
  obtain ⟨-, rfl⟩ := (q.shows_iff rows size number shown).mp shows
  have past : ¬ (number.toNat - 1) * size.toNat < rows.length := by
    rw [← Page.lt_page_count_iff rows size sized bounded]
    have later := UInt64.lt_iff_toNat_lt.mp behind
    omega
  rw [Page.chunk, List.drop_eq_nil_of_le (Nat.not_lt.mp past), List.take_nil]

theorem has_next_iff (number : UInt64) (p : Paginator) (w : RowWindow) (data : List β)
    (accepted : q.page (some number) (some size) = .ok p) (window : p.window = some w) :
    (Page.new number size (.ofNat rows.length) data).hasNext = true ↔
      ∃ i row, w.offset.toNat + w.limit.toNat ≤ i ∧ rows[i]? = some row := by
  obtain ⟨isPage, rfl⟩ := (q.page_ok_iff p number size).mp accepted
  obtain rfl := Option.some.inj window
  have counted := Page.lt_page_count_iff rows size sized bounded number.toNat
  rw [Page.hasNext, decide_eq_true_iff, UInt64.lt_iff_toNat_lt]
  refine counted.trans ?_
  rw [← Windowing.page_end number size isPage]
  constructor
  · intro left
    exact ⟨_, _, Nat.le_refl _, List.getElem?_eq_getElem left⟩
  · rintro ⟨i, row, behind, present⟩
    exact Nat.lt_of_le_of_lt behind (List.getElem?_eq_some_iff.mp present).1

end

-- The pages of a list are chosen and show it part by part. `first` and `data` stand for any page of
-- results, as the number of pages is the same on each.
theorem pages_partition_rows (q : Paginator) (rows : List α) (size : UInt64)
    (bounded : rows.length < UInt64.size) (sized : 1 ≤ size) (first : UInt64) (data : List β) :
    Partitions β q rows size (Page.new first size (.ofNat rows.length) data).totalPages := by
  have filled : size ≠ 0 := by
    rintro rfl
    exact absurd sized (by decide)
  have before := Page.lt_page_count_iff rows size filled bounded
  change Partitions β q rows size (Page.pageCount rows size)
  constructor
  · exact ⟨_, q.shows_chunks rows size filled bounded, Page.chunks_exhaust rows _ _ before,
      Page.chunks_full rows _ _ before, Page.chunks_last rows _ _ before⟩
  · exact q.shows_nothing_behind rows size filled bounded
  · exact q.has_next_iff rows size filled bounded

theorem five_rows_in_pages_of_two :
    [10, 20, 30, 40, 50].length < UInt64.size ∧ (1 : UInt64) ≤ 2 ∧
      (Page.new 1 2 (.ofNat [10, 20, 30, 40, 50].length) [10, 20]).totalPages = 3 ∧
      Partitions Nat empty [10, 20, 30, 40, 50] 2 3 :=
  ⟨by decide, by decide, by decide,
    pages_partition_rows empty [10, 20, 30, 40, 50] 2 (by decide) (by decide) 1 [10, 20]⟩

end Paginator

end Inquiry
