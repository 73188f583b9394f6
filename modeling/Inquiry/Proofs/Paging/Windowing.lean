import Inquiry.Paging.Window

set_option autoImplicit false

namespace Inquiry

inductive Windowing where
  | page (number size : UInt64)
  | limit (offset count : UInt64)

namespace Windowing

def IsPage (number size : UInt64) : Prop :=
  number ≠ 0 ∧ size ≠ 0 ∧ (number.toNat - 1) * size.toNat < UInt64.size

instance (number size : UInt64) : Decidable (IsPage number size) :=
  inferInstanceAs (Decidable (_ ∧ _ ∧ _))

def window : Windowing → RowWindow
  | page number size => ⟨UInt64.ofNat ((number.toNat - 1) * size.toNat), size⟩
  | limit offset count => ⟨offset, count⟩

def number? : Windowing → Option UInt64
  | page number _ => some number
  | limit _ _ => none

def paginator (w : Windowing) : Paginator := ⟨some w.window, w.number?⟩

theorem page_offset (number size : UInt64) (isPage : IsPage number size) :
    (page number size).window.offset.toNat = (number.toNat - 1) * size.toNat :=
  UInt64.toNat_ofNat_of_lt' isPage.2.2

theorem page_end (number size : UInt64) (isPage : IsPage number size) :
    (page number size).window.offset.toNat + (page number size).window.limit.toNat =
      number.toNat * size.toNat := by
  have numbered : 1 ≤ number.toNat := UInt64.pos_iff_ne_zero.mpr isPage.1
  calc (page number size).window.offset.toNat + size.toNat
    _ = (number.toNat - 1) * size.toNat + size.toNat := by rw [page_offset number size isPage]
    _ = (number.toNat - 1 + 1) * size.toNat := (Nat.succ_mul _ _).symm
    _ = number.toNat * size.toNat := by rw [Nat.sub_add_cancel numbered]

end Windowing

namespace Paginator

theorem page_window_error_iff (page size : UInt64) (m : Misuse) :
    pageWindow page size = .error m ↔
      (page = 0 ∧ m = .pageBelowOne 0) ∨ (page ≠ 0 ∧ size = 0 ∧ m = .sizeBelowOne 0) ∨
        (page ≠ 0 ∧ size ≠ 0 ∧ UInt64.size ≤ (page.toNat - 1) * size.toNat ∧
          m = .windowOverflow) := by
  have belowOne (n : UInt64) : n < 1 ↔ n = 0 := by
    rw [UInt64.lt_iff_toNat_lt, ← UInt64.toNat_inj]
    exact Nat.lt_one_iff
  rw [pageWindow]
  by_cases noPage : page = 0
  · simp [noPage, belowOne, eq_comm]
  · by_cases noSize : size = 0
    · simp [noPage, noSize, belowOne, eq_comm]
    · by_cases fits : (page.toNat - 1) * size.toNat < UInt64.size
      · simp only [belowOne, noPage, noSize, if_false, if_pos fits]
        simp [noPage, noSize, Nat.not_le.mpr fits]
      · simp only [belowOne, noPage, noSize, if_false, if_neg fits]
        simp [noPage, noSize, Nat.not_lt.mp fits, eq_comm]

theorem page_window_eq (number size : UInt64) (isPage : Windowing.IsPage number size) :
    pageWindow number size = .ok (Windowing.page number size).window := by
  obtain ⟨numbered, sized, fits⟩ := isPage
  have fromOne (n : UInt64) (nonzero : n ≠ 0) : ¬ n < 1 :=
    UInt64.not_lt.mpr (UInt64.pos_iff_ne_zero.mpr nonzero)
  rw [pageWindow, if_neg (fromOne number numbered), if_neg (fromOne size sized), if_pos fits]
  rfl

theorem page_window_refused (number size : UInt64)
    (noPage : ¬ Windowing.IsPage number size) : ∃ m, pageWindow number size = .error m := by
  by_cases numbered : number = 0
  · exact ⟨_, (page_window_error_iff number size _).mpr (.inl ⟨numbered, rfl⟩)⟩
  · by_cases sized : size = 0
    · exact ⟨_, (page_window_error_iff number size _).mpr (.inr (.inl ⟨numbered, sized, rfl⟩))⟩
    · have exceeds : UInt64.size ≤ (number.toNat - 1) * size.toNat :=
        Nat.not_lt.mp fun fits => noPage ⟨numbered, sized, fits⟩
      exact ⟨_, (page_window_error_iff number size _).mpr
        (.inr (.inr ⟨numbered, sized, exceeds, rfl⟩))⟩

theorem page_ok_iff (p q : Paginator) (number size : UInt64) :
    p.page (some number) (some size) = .ok q ↔
      Windowing.IsPage number size ∧ q = (Windowing.page number size).paginator := by
  rw [page]
  by_cases isPage : Windowing.IsPage number size
  · rw [page_window_eq number size isPage]
    simp [isPage, Except.map, Windowing.paginator, Windowing.number?, eq_comm]
  · obtain ⟨m, refused⟩ := page_window_refused number size isPage
    simp [refused, isPage, Except.map]

inductive Call where
  | page (number size : Option UInt64)
  | limit (offset count : Option UInt64)

namespace Call

def windowing? : Call → Option Windowing
  | page (some number) (some size) =>
      if Windowing.IsPage number size then some (.page number size) else none
  | limit (some offset) (some count) => some (.limit offset count)
  | _ => none

def IsPartial : Call → Prop
  | page number size => number = none ∨ size = none
  | limit offset count => offset = none ∨ count = none

theorem forms (c : Call) :
    c.IsPartial ∨ (∃ number size, c = page (some number) (some size)) ∨
      ∃ offset count, c = limit (some offset) (some count) := by
  cases c with
  | page number size => cases number <;> cases size <;> simp [IsPartial]
  | limit offset count => cases offset <;> cases count <;> simp [IsPartial]

theorem windowing_partial (c : Call) (isPartial : c.IsPartial) : c.windowing? = none := by
  cases c with
  | page number size =>
      rcases isPartial with rfl | rfl
      · rfl
      · cases number <;> rfl
  | limit offset count =>
      rcases isPartial with rfl | rfl
      · rfl
      · cases offset <;> rfl

theorem page_of_windowing (c : Call) (number size : UInt64)
    (chosen : c.windowing? = some (.page number size)) : Windowing.IsPage number size := by
  rcases c.forms with isPartial | ⟨given, givenSize, rfl⟩ | ⟨offset, count, rfl⟩
  · cases (c.windowing_partial isPartial).symm.trans chosen
  · by_cases isPage : Windowing.IsPage given givenSize
    · rw [windowing?, if_pos isPage] at chosen
      cases chosen
      exact isPage
    · rw [windowing?, if_neg isPage] at chosen
      cases chosen
  · cases chosen

end Call

def call (p : Paginator) : Call → Except Misuse Paginator
  | .page number size => p.page number size
  | .limit offset count => .ok (p.limit offset count)

def after (p : Paginator) (c : Call) : Paginator := (p.call c).toOption.getD p

def afterAll (p : Paginator) (calls : List Call) : Paginator := calls.foldl after p

theorem call_partial (p : Paginator) (c : Call) (isPartial : c.IsPartial) : p.call c = .ok p := by
  cases c with
  | page number size =>
      rcases isPartial with rfl | rfl
      · rfl
      · cases number <;> rfl
  | limit offset count =>
      rcases isPartial with rfl | rfl
      · rfl
      · cases offset <;> rfl

theorem call_page (p : Paginator) (number size : UInt64) (isPage : Windowing.IsPage number size) :
    p.call (.page (some number) (some size)) = .ok (Windowing.page number size).paginator :=
  (p.page_ok_iff _ number size).mpr ⟨isPage, rfl⟩

theorem call_no_page (p : Paginator) (number size : UInt64)
    (noPage : ¬ Windowing.IsPage number size) :
    ∃ m, p.call (.page (some number) (some size)) = .error m := by
  obtain ⟨m, refused⟩ := page_window_refused number size noPage
  exact ⟨m, by rw [call, page, refused]; rfl⟩

theorem call_error_iff (p : Paginator) (c : Call) :
    (∃ m, p.call c = .error m) ↔
      ∃ number size, c = .page (some number) (some size) ∧ ¬ Windowing.IsPage number size := by
  constructor
  · rintro ⟨m, refused⟩
    rcases c.forms with isPartial | ⟨number, size, rfl⟩ | ⟨offset, count, rfl⟩
    · cases (p.call_partial c isPartial).symm.trans refused
    · refine ⟨number, size, rfl, ?_⟩
      intro isPage
      cases (p.call_page number size isPage).symm.trans refused
    · cases refused
  · rintro ⟨number, size, rfl, noPage⟩
    exact p.call_no_page number size noPage

theorem after_eq (p : Paginator) (c : Call) :
    p.after c = (c.windowing?.map Windowing.paginator).getD p := by
  rw [after]
  rcases c.forms with isPartial | ⟨number, size, rfl⟩ | ⟨offset, count, rfl⟩
  · rw [p.call_partial c isPartial, c.windowing_partial isPartial]
    rfl
  · rw [Call.windowing?]
    by_cases isPage : Windowing.IsPage number size
    · rw [p.call_page number size isPage, if_pos isPage]
      rfl
    · obtain ⟨m, refused⟩ := p.call_no_page number size isPage
      rw [refused, if_neg isPage]
      rfl
  · rfl

theorem after_all_idle (p : Paginator) (calls : List Call)
    (idle : ∀ c ∈ calls, c.windowing? = none) : p.afterAll calls = p := by
  induction calls with
  | nil => rfl
  | cons c rest ih =>
      obtain ⟨first, others⟩ := List.forall_mem_cons.mp idle
      have kept : p.after c = p := by rw [after_eq, first]; rfl
      exact (congrArg (afterAll · rest) kept).trans (ih others)

theorem after_all_chosen (p : Paginator) (before after : List Call) (c : Call) (w : Windowing)
    (chosen : c.windowing? = some w) (idle : ∀ d ∈ after, d.windowing? = none) :
    p.afterAll (before ++ c :: after) = w.paginator := by
  have last : (p.afterAll before).after c = w.paginator := by rw [after_eq, chosen]; rfl
  rw [afterAll, List.foldl_append, List.foldl_cons]
  exact (congrArg (afterAll · after) last).trans (after_all_idle w.paginator after idle)

def Numbered (p : Paginator) : Prop :=
  ∀ number, p.pageNumber = some number → ∃ w, p.window = some w ∧ 1 ≤ number.toNat ∧
    1 ≤ w.limit.toNat ∧ w.offset.toNat = (number.toNat - 1) * w.limit.toNat ∧
    p.pageSize = some w.limit

theorem numbered_page (number size : UInt64) (isPage : Windowing.IsPage number size) :
    (Windowing.page number size).paginator.Numbered := by
  intro reported same
  obtain rfl := Option.some.inj same
  exact ⟨_, rfl, UInt64.pos_iff_ne_zero.mpr isPage.1, UInt64.pos_iff_ne_zero.mpr isPage.2.1,
    Windowing.page_offset number size isPage, rfl⟩

theorem numbered_after (p : Paginator) (c : Call) (numbered : p.Numbered) :
    (p.after c).Numbered := by
  rw [after_eq]
  cases chosen : c.windowing? with
  | none => exact numbered
  | some w =>
      cases w with
      | page number size => exact numbered_page number size (c.page_of_windowing number size chosen)
      | limit offset count => rintro number ⟨⟩

theorem numbered_after_all (p : Paginator) (calls : List Call) (numbered : p.Numbered) :
    (p.afterAll calls).Numbered := by
  induction calls generalizing p with
  | nil => exact numbered
  | cons c rest ih => exact ih (p.after c) (p.numbered_after c numbered)

structure Reflects (calls : List Call) (p : Paginator) : Prop where
  last : ∀ before c after w, calls = before ++ c :: after → c.windowing? = some w →
    (∀ d ∈ after, d.windowing? = none) → p.window = some w.window ∧ p.pageNumber = w.number?
  unset : (∀ c ∈ calls, c.windowing? = none) → p.window = none ∧ p.pageNumber = none
  numbered : p.Numbered
  limited : ∀ before offset count after,
    calls = before ++ .limit (some offset) (some count) :: after →
    (∀ d ∈ after, d.windowing? = none) →
    p.isPaged = false ∧ p.pageNumber = none ∧ p.pageSize = none

theorem after_all_reflects (calls : List Call) : Reflects calls (empty.afterAll calls) where
  last := by
    rintro before c after w rfl chosen idle
    rw [empty.after_all_chosen before after c w chosen idle]
    exact ⟨rfl, rfl⟩
  unset idle := by
    rw [empty.after_all_idle calls idle]
    exact ⟨rfl, rfl⟩
  numbered := empty.numbered_after_all calls (by rintro number ⟨⟩)
  limited := by
    rintro before offset count after rfl idle
    rw [empty.after_all_chosen before after _ (.limit offset count) rfl idle]
    exact ⟨rfl, rfl, rfl⟩

example : empty.afterAll [.page (some 2) (some 10), .page none (some 5), .limit (some 4) none,
    .page (some 18446744073709551615) (some 2)] = ⟨some ⟨10, 10⟩, some 2⟩ := by decide

end Paginator

end Inquiry
