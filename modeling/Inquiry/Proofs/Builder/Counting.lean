import Inquiry.Proofs.Builder.Clauses

set_option autoImplicit false

namespace Inquiry.Builder

def OpensWith (opening text : String) : Prop := text = "" ∨ ∃ rest, text = opening ++ rest

-- The head that counts, for the head of the rows: derived from a raw text, and else with the
-- selected expression wrapped.
def CountsHead (b : Builder) (rows count : String) : Prop :=
  match b.raw with
  | some text => rows = text ∧ Count.derive text = .ok count
  | none => ∃ selected source, selected = b.selectedText .rows ∧
      rows = "SELECT " ++ selected ++ " FROM " ++ source ∧
      count = "SELECT count(" ++ selected ++ ") FROM " ++ source

theorem join_text_opens (b : Builder) : OpensWith " JOIN " b.joinText := by
  rw [joinText]
  split
  · exact .inl rfl
  · split
    · exact .inl rfl
    · simp only [String.append_assoc]
      exact .inr ⟨_, rfl⟩

theorem group_text_opens (b : Builder) : OpensWith " GROUP BY " b.groupText := by
  rw [groupText]
  split
  · exact .inl rfl
  · exact .inr ⟨_, rfl⟩

theorem order_text_opens (b : Builder) : OpensWith " ORDER BY " b.orderText := by
  rw [orderText]
  split
  · exact .inl rfl
  · exact .inr ⟨_, rfl⟩

theorem where_text_opens (b : Builder) (w : Fragment) (built : b.whereClause = .ok w) :
    OpensWith " WHERE " w.text := by
  rcases conditions_open _ b.segments w built with rfl | ⟨rest, rfl⟩
  · exact .inl rfl
  · exact .inr ⟨Fragment.text rest, Fragment.text_word " WHERE " rest⟩

def HeadedBy (head : String) (b : Builder) : Prop :=
  ∀ s, b.build = .ok s → ∃ w, b.whereClause = .ok w ∧
    s.text = head ++ w.text ++ b.groupText ++ b.orderText ∧
    OpensWith " WHERE " w.text ∧ OpensWith " GROUP BY " b.groupText ∧
    OpensWith " ORDER BY " b.orderText

theorem headed_by_head (b : Builder) (head : String) (headed : b.head .rows = .ok head)
    (joinless : b.joinText = "") : b.HeadedBy head := by
  intro s built
  obtain ⟨-, other, w, otherBuilt, whereBuilt, rfl⟩ := (b.statement_ok_iff .rows s).mp built
  obtain rfl := Except.ok.inj (headed.symm.trans otherBuilt)
  refine ⟨w, whereBuilt, ?_, b.where_text_opens w whereBuilt, b.group_text_opens,
    b.order_text_opens⟩
  rw [assemble, joinless, tailText, String.append_empty]
  exact (String.append_assoc ..).symm

theorem head_rows_ok (b : Builder) : ∃ head, b.head .rows = .ok head := by
  cases raw : b.raw with
  | some text => exact ⟨text, (b.head_of_raw text raw).1⟩
  | none =>
      by_cases mode : b.mode = some .delete
      · exact ⟨_, (b.head_of_delete raw mode).1⟩
      · exact ⟨_, b.head_of_select raw mode .rows⟩

theorem head_counts (b : Builder) (rows count : String) (rowsHead : b.head .rows = .ok rows)
    (countHead : b.head .count = .ok count) : b.CountsHead rows count := by
  cases raw : b.raw with
  | some text =>
      rw [(b.head_of_raw text raw).1] at rowsHead
      rw [(b.head_of_raw text raw).2] at countHead
      rw [CountsHead, raw]
      exact ⟨(Except.ok.inj rowsHead).symm, countHead⟩
  | none =>
      by_cases mode : b.mode = some .delete
      · rw [(b.head_of_delete raw mode).2] at countHead
        cases countHead
      · rw [b.head_of_select raw mode] at rowsHead countHead
        rw [CountsHead, raw]
        refine ⟨b.selectedText .rows, b.sourceText, rfl, (Except.ok.inj rowsHead).symm, ?_⟩
        have opening : "SELECT count(" = "SELECT " ++ "count(" := rfl
        have closing : ") FROM " = ")" ++ " FROM " := rfl
        rw [← Except.ok.inj countHead, opening, closing]
        simp only [selectedText, String.append_assoc]

theorem head_count_error (b : Builder) (e : QueryError) (failed : b.head .count = .error e) :
    (b.mode = some .delete ∧ b.raw = none ∧ e = Misuse.countOfDelete.error) ∨
      ∃ text, b.raw = some text ∧ Count.derive text = .error e := by
  cases raw : b.raw with
  | some text => exact .inr ⟨text, rfl, (b.head_of_raw text raw).2.symm.trans failed⟩
  | none =>
      by_cases mode : b.mode = some .delete
      · rw [(b.head_of_delete raw mode).2] at failed
        exact .inl ⟨mode, rfl, (Except.error.inj failed).symm⟩
      · rw [b.head_of_select raw mode] at failed
        cases failed

theorem derive_error (raw : String) (e : QueryError) (failed : Count.derive raw = .error e) :
    ∃ detail, e = .malformedRawQuery detail := by
  rw [Count.derive] at failed
  split at failed
  · cases failed
  · exact ⟨_, (Except.error.inj failed).symm⟩

theorem count_ranges_over_rows (b : Builder) :
    (∀ s c, b.build = .ok s → b.buildCount = .ok c →
      ∃ H C S O w, s.text = H ++ S ++ O ∧ c.text = C ++ S ∧ b.CountsHead H C ∧
        b.whereClause = .ok w ∧ S = b.joinText ++ w.text ++ b.groupText ∧ O = b.orderText ∧
        OpensWith " JOIN " b.joinText ∧ OpensWith " WHERE " w.text ∧
        OpensWith " GROUP BY " b.groupText ∧ OpensWith " ORDER BY " O ∧
        c.positional = s.positional ∧ c.named = s.named ∧ c.window = none) ∧
      (∀ c, b.buildCount = .ok c → ∃ s, b.build = .ok s) ∧
      ∀ s e, b.build = .ok s → b.buildCount = .error e →
        (b.mode = some .delete ∧ b.raw = none ∧
          e = .illegalState Misuse.countOfDelete.message) ∨
        ∃ text detail, b.raw = some text ∧ Count.derive text = .error e ∧
          e = .malformedRawQuery detail := by
  refine ⟨?_, ?_, ?_⟩
  · intro s c rows count
    obtain ⟨-, H, w, rowsHead, whereBuilt, rfl⟩ := (b.statement_ok_iff .rows s).mp rows
    obtain ⟨-, C, v, countHead, sameBuilt, rfl⟩ := (b.statement_ok_iff .count c).mp count
    obtain rfl : w = v := Except.ok.inj (whereBuilt.symm.trans sameBuilt)
    refine ⟨H, C, b.joinText ++ w.text ++ b.groupText, b.orderText, w, ?_, ?_,
      b.head_counts H C rowsHead countHead, whereBuilt, rfl, rfl, b.join_text_opens,
      b.where_text_opens w whereBuilt, b.group_text_opens, b.order_text_opens, rfl, rfl, rfl⟩
    · simp only [assemble, tailText, String.append_assoc]
    · simp only [assemble, tailText, String.append_assoc]
  · intro c count
    obtain ⟨sound, -, w, -, whereBuilt, -⟩ := (b.statement_ok_iff .count c).mp count
    obtain ⟨head, rowsHead⟩ := b.head_rows_ok
    exact ⟨_, (b.statement_ok_iff .rows _).mpr ⟨sound, head, w, rowsHead, whereBuilt, rfl⟩⟩
  · intro s e rows failed
    obtain ⟨sound, -, w, -, whereBuilt, -⟩ := (b.statement_ok_iff .rows s).mp rows
    rcases (b.statement_error_iff .count e).mp failed with
      ⟨m, fault, -⟩ | ⟨-, headFailed | ⟨-, whereFailed⟩⟩
    · rw [sound] at fault
      cases fault
    · rcases b.head_count_error e headFailed with deleting | ⟨text, raw, underivable⟩
      · exact .inl deleting
      · obtain ⟨detail, malformed⟩ := derive_error text e underivable
        exact .inr ⟨text, detail, raw, underivable, malformed⟩
    · rw [whereBuilt] at whereFailed
      cases whereFailed

theorem grouped_count_ranges_over_rows :
    ∃ s c, ((new ⟨"User"⟩ .default).run
          [.selectColumns ["name"], .distinct, .or [.isNotNull "name", .equal "sort" (.int 1)],
            .orderBy ⟨none, "name"⟩ .descending, .groupBy ⟨none, "name"⟩]).build = .ok s ∧
      ((new ⟨"User"⟩ .default).run
          [.selectColumns ["name"], .distinct, .or [.isNotNull "name", .equal "sort" (.int 1)],
            .orderBy ⟨none, "name"⟩ .descending, .groupBy ⟨none, "name"⟩]).buildCount = .ok c ∧
      s.text = "SELECT DISTINCT _this.name FROM User _this WHERE (_this.name IS NOT NULL AND " ++
        "_this.sort = ?1) GROUP BY _this.name ORDER BY _this.name DESC" ∧
      c.text = "SELECT count(DISTINCT _this.name) FROM User _this WHERE (_this.name IS NOT NULL " ++
        "AND _this.sort = ?1) GROUP BY _this.name" ∧
      c.positional = s.positional ∧ c.window = none := by
  obtain ⟨aligned, -⟩ := count_ranges_over_rows ((new ⟨"User"⟩ .default).run
    [.selectColumns ["name"], .distinct, .or [.isNotNull "name", .equal "sort" (.int 1)],
      .orderBy ⟨none, "name"⟩ .descending, .groupBy ⟨none, "name"⟩])
  obtain ⟨H, C, S, O, w, -, -, -, -, -, -, -, -, -, -, positional, -, window⟩ := aligned _ _ rfl rfl
  exact ⟨_, _, rfl, rfl, by rfl, by rfl, positional, window⟩

end Inquiry.Builder
