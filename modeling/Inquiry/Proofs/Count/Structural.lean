import Mathlib.Data.List.Infix
import Inquiry.Proofs.Builder.Clauses
import Inquiry.Proofs.Count.Derivation

set_option autoImplicit false

namespace Inquiry

namespace Text

theorem word_beside (before behind x w y : List Char) (separator : Char) (filled : w ≠ [])
    (whole : separator ∉ w) (eq : before ++ separator :: behind = x ++ w ++ y) :
    (∃ d, before = x ++ w ++ d) ∨ ∃ z, x = before ++ separator :: z ∧ behind = z ++ w ++ y := by
  rw [List.append_assoc x] at eq
  rcases List.append_eq_append_iff.mp eq with ⟨d, longer, rest⟩ | ⟨d, shorter, rest⟩
  · -- The word begins at the separator or behind it.
    cases d with
    | nil =>
        cases w with
        | nil => exact absurd rfl filled
        | cons c w =>
            obtain ⟨rfl, -⟩ := List.cons.inj rest
            exact absurd List.mem_cons_self whole
    | cons c z =>
        obtain ⟨rfl, tail⟩ := List.cons.inj rest
        exact .inr ⟨z, longer, tail.trans (List.append_assoc z w y).symm⟩
  · -- The word begins before the separator and does not reach it.
    rcases List.append_eq_append_iff.mp rest with ⟨e, inside, -⟩ | ⟨e, inside, tail⟩
    · exact .inl ⟨e, by rw [shorter, inside, List.append_assoc]⟩
    · cases e with
      | nil => exact .inl ⟨[], by rw [shorter, inside, List.append_nil, List.append_nil]⟩
      | cons c e =>
          obtain ⟨rfl, -⟩ := List.cons.inj tail
          exact absurd (by rw [inside]; simp) whole

theorem first_after_word (separator : Char) (word pattern after : List Char)
    (whole : separator ∉ word) :
    FirstAfter (separator :: pattern) (word ++ separator :: pattern ++ after) word := by
  refine ⟨⟨after, rfl⟩, ?_⟩
  intro x y eq
  rw [List.append_assoc, List.append_assoc] at eq
  rcases List.append_eq_append_iff.mp eq with ⟨d, rfl, -⟩ | ⟨d, inside, rest⟩
  · rw [List.length_append]
    exact Nat.le_add_right _ _
  · cases d with
    | nil => rw [inside, List.append_nil]
    | cons c d =>
        obtain ⟨rfl, -⟩ := List.cons.inj rest
        exact absurd (by rw [inside]; simp) whole

end Text

namespace Count

def Lacks (keyword : String) (raw : List Char) : Prop :=
  ¬ keyword.toList <:+: raw.map Char.toLower

instance (keyword : String) (raw : List Char) : Decidable (Lacks keyword raw) :=
  inferInstanceAs (Decidable (¬ _))

theorem lacks_iff (keyword : String) (raw : List Char) :
    Lacks keyword raw ↔ ∀ x w y, raw = x ++ w ++ y → w.map Char.toLower ≠ keyword.toList := by
  constructor
  · intro lacks x w y eq same
    refine lacks ⟨x.map Char.toLower, y.map Char.toLower, ?_⟩
    rw [eq, List.map_append, List.map_append, same]
  · rintro nowhere ⟨front, back, eq⟩
    obtain ⟨before, y, rfl, frontEq, -⟩ := List.map_eq_append_iff.mp eq.symm
    obtain ⟨x, w, rfl, -, same⟩ := List.map_eq_append_iff.mp frontEq
    exact nowhere x w y rfl same

theorem keyword_spaceless (keyword : String) (w : List Char) (spaceless : ' ' ∉ keyword.toList)
    (same : w.map Char.toLower = keyword.toList) : ' ' ∉ w := by
  intro member
  have lowered : ' ' ∈ w.map Char.toLower := List.mem_map_of_mem member
  rw [same] at lowered
  exact spaceless lowered

theorem keyword_filled (keyword : String) (w : List Char) (filled : keyword.toList ≠ [])
    (same : w.map Char.toLower = keyword.toList) : w ≠ [] := by
  rintro rfl
  exact filled same.symm

theorem lacks_spaced (keyword : String) (a b : List Char) (filled : keyword.toList ≠ [])
    (spaceless : ' ' ∉ keyword.toList) (first : Lacks keyword a) (second : Lacks keyword b) :
    Lacks keyword (a ++ ' ' :: b) := by
  rw [lacks_iff] at first second ⊢
  intro x w y eq same
  rcases Text.word_beside a b x w y ' ' (keyword_filled keyword w filled same)
    (keyword_spaceless keyword w spaceless same) eq with ⟨d, split⟩ | ⟨z, -, split⟩
  · exact first x w d split same
  · exact second z w y split same

theorem keyword_behind (keyword : String) (a word after : List Char)
    (filled : keyword.toList ≠ []) (spaceless : ' ' ∉ keyword.toList) (lacks : Lacks keyword a)
    (same : word.map Char.toLower = keyword.toList) :
    KeywordAt keyword (Text.byteSize a + 1) (a ++ ' ' :: (word ++ after)) := by
  have size : Text.byteSize (a ++ [' ']) = Text.byteSize a + 1 := Text.byte_size_append a [' ']
  refine ⟨a ++ [' '], word, after, by simp, same, size, ?_⟩
  intro x w y eq other
  rcases Text.word_beside a (word ++ after) x w y ' ' (keyword_filled keyword w filled other)
    (keyword_spaceless keyword w spaceless other) eq with ⟨d, split⟩ | ⟨z, rfl, -⟩
  · exact absurd other ((lacks_iff keyword a).mp lacks x w d split)
  · simp

theorem of_chars_of_select (selected rest : List Char) (filled : selected ≠ [])
    (lacks : Lacks "from" selected) :
    ofChars ("SELECT".toList ++ spaced selected ++ ("FROM".toList ++ rest)) =
      .ok ("SELECT".toList ++ spaced (wrapped selected) ++ ("FROM".toList ++ rest)) := by
  have source : "SELECT".toList ++ spaced selected ++ ("FROM".toList ++ rest) =
      ("SELECT".toList ++ ' ' :: selected) ++ ' ' :: ("FROM".toList ++ rest) := by
    simp [spaced]
  have size : Text.byteSize ("SELECT".toList ++ ' ' :: selected) = Text.byteSize selected + 7 := by
    have six : Text.byteSize "SELECT".toList = 6 := rfl
    have one : Text.byteSize (' ' :: selected) = 1 + Text.byteSize selected := rfl
    rw [Text.byte_size_append, six, one]
    omega
  have nonempty : Text.byteSize selected ≠ 0 := mt (Text.byte_size_zero_iff selected).mp filled
  -- SELECT stands at byte 0 and FROM one byte behind what is selected, which begins at byte 7.
  refine (of_chars_ok_iff _ _).mpr ⟨0, Text.byteSize selected + 8, selected, ?_, ?_, ?_, ?_⟩
  · refine (keyword_at_iff _ _ _).mpr
      ⟨[], "SELECT".toList, spaced selected ++ ("FROM".toList ++ rest), ?_, rfl, rfl, ?_⟩
    · rw [List.append_assoc, List.nil_append]
    · exact fun _ _ _ _ _ => Nat.zero_le _
  · have head := lacks_spaced "from" "SELECT".toList selected (by decide) (by decide) (by decide) lacks
    have first := keyword_behind "from" _ "FROM".toList rest (by decide) (by decide) head rfl
    rw [size] at first
    rw [source]
    exact (keyword_at_iff _ _ _).mpr first
  · refine (selection_iff _ _ _ _).mpr
      ⟨by omega, "SELECT ".toList, ' ' :: ("FROM".toList ++ rest), ?_, rfl, ?_⟩
    · simp [spaced]
    · rw [Text.byte_size_append]
      exact Nat.add_comm 7 _
  · refine (Text.replace_first_iff _ _ _ _).mpr
      ⟨"SELECT".toList, "FROM".toList ++ rest, ?_, rfl, rfl⟩
    exact Text.first_after_word ' ' "SELECT".toList (selected ++ [' ']) _ (by decide)

theorem derive_of_select (selected rest : String) (filled : selected ≠ "")
    (lacks : Lacks "from" selected.toList) :
    derive ("SELECT " ++ selected ++ " FROM" ++ rest) =
      .ok ("SELECT count(" ++ selected ++ ") FROM" ++ rest) := by
  have nonempty : selected.toList ≠ [] := mt String.toList_eq_nil_iff.mp filled
  have start : "SELECT ".toList = "SELECT".toList ++ [' '] := rfl
  have countStart : "SELECT count(".toList = "SELECT".toList ++ ' ' :: opening := rfl
  have closing : " FROM".toList = ' ' :: "FROM".toList := rfl
  have countClosing : ") FROM".toList = ')' :: ' ' :: "FROM".toList := rfl
  have rows : ("SELECT " ++ selected ++ " FROM" ++ rest).toList =
      "SELECT".toList ++ spaced selected.toList ++ ("FROM".toList ++ rest.toList) := by
    simp only [String.toList_append, start, closing, spaced, List.append_assoc, List.cons_append,
      List.nil_append]
  have count : ("SELECT count(" ++ selected ++ ") FROM" ++ rest).toList =
      "SELECT".toList ++ spaced (wrapped selected.toList) ++ ("FROM".toList ++ rest.toList) := by
    simp only [String.toList_append, countStart, countClosing, spaced, wrapped_eq,
      List.append_assoc, List.cons_append, List.nil_append]
  rw [derive_ok_iff, rows, count]
  exact of_chars_of_select selected.toList rest.toList nonempty lacks

end Count

namespace Builder

theorem selected_text_lacks (b : Builder) (plain : Count.Lacks "from" b.projectionText.toList) :
    Count.Lacks "from" (b.selectedText .rows).toList := by
  rw [selectedText]
  split
  · have parts : ("DISTINCT " ++ b.projectionText).toList =
        "DISTINCT".toList ++ ' ' :: b.projectionText.toList := by simp
    rw [parts]
    exact Count.lacks_spaced "from" _ _ (by decide) (by decide) (by decide) plain
  · exact plain

theorem selected_text_filled (b : Builder) (projected : b.projectionText ≠ "") :
    b.selectedText .rows ≠ "" := by
  rw [selectedText]
  split
  · intro none
    have nothing := congrArg String.toList none
    simp at nothing
  · exact projected

theorem selected_text_count (b : Builder) :
    b.selectedText .count = "count(" ++ b.selectedText .rows ++ ")" := rfl

theorem order_text_of_unordered (b : Builder) (unordered : b.orderings = []) : b.orderText = "" := by
  rw [orderText, unordered]
  rfl

theorem build_count_of_bare_raw (r : Builder) (text counted : String) (raw : r.raw = some text)
    (sound : r.misuse = none) (unconditional : r.segments = []) (ungrouped : r.groupings = [])
    (derived : Count.derive text = .ok counted) :
    r.buildCount = .ok ⟨counted, r.positional, r.named, none⟩ := by
  have begun : r.fault? = none := by
    simp [fault?, sound, isBegun, isRaw, raw]
  have always : r.whereClause = .ok [] := by
    rw [whereClause, unconditional]
    rfl
  refine (r.statement_ok_iff .count _).mpr
    ⟨begun, counted, [], (r.head_of_raw text raw).2.trans derived, always, ?_⟩
  simp [assemble, joinText, isRaw, raw, tailText, groupText, ungrouped, windowFor,
    Fragment.text, Fragment.bindings, Bindings.insertAll]

theorem structural_count_is_derived (b : Builder) (s : Statement) (selecting : b.mode = some .select)
    (structural : b.raw = none) (unordered : b.orderings = []) (projected : b.projectionText ≠ "")
    (plain : Count.Lacks "from" b.projectionText.toList) (built : b.build = .ok s) :
    ∃ c, b.buildCount = .ok c ∧ Count.derive s.text = .ok c.text ∧
      ∀ r : Builder, r.raw = some s.text → r.misuse = none → r.segments = [] →
        r.groupings = [] → r.buildCount = .ok ⟨c.text, r.positional, r.named, none⟩ := by
  have kept : b.mode ≠ some .delete := by simp [selecting]
  obtain ⟨sound, head, w, rowsHead, whereBuilt, rfl⟩ := (b.statement_ok_iff .rows s).mp built
  rw [b.head_of_select structural kept] at rowsHead
  obtain rfl := Except.ok.inj rowsHead
  have countHead := b.head_of_select structural kept .count
  have space : " FROM " = " FROM" ++ " " := rfl
  have rows : (b.assemble .rows
        ("SELECT " ++ b.selectedText .rows ++ " FROM " ++ b.sourceText) w).text =
      "SELECT " ++ b.selectedText .rows ++ " FROM" ++
        (" " ++ b.sourceText ++ b.joinText ++ w.text ++ b.groupText) := by
    simp only [assemble, tailText, b.order_text_of_unordered unordered, space, String.append_assoc,
      String.append_empty]
  have count : (b.assemble .count
        ("SELECT " ++ b.selectedText .count ++ " FROM " ++ b.sourceText) w).text =
      "SELECT count(" ++ b.selectedText .rows ++ ") FROM" ++
        (" " ++ b.sourceText ++ b.joinText ++ w.text ++ b.groupText) := by
    have opening : "SELECT count(" = "SELECT " ++ "count(" := rfl
    have closing : ") FROM" = ")" ++ " FROM" := rfl
    simp only [assemble, tailText, b.selected_text_count, space, opening, closing,
      String.append_assoc]
  have derived := Count.derive_of_select (b.selectedText .rows)
    (" " ++ b.sourceText ++ b.joinText ++ w.text ++ b.groupText) (b.selected_text_filled projected)
    (b.selected_text_lacks plain)
  rw [← rows, ← count] at derived
  refine ⟨_, (b.statement_ok_iff .count _).mpr ⟨sound, _, w, countHead, whereBuilt, rfl⟩, derived, ?_⟩
  intro r raw fresh unconditional ungrouped
  exact r.build_count_of_bare_raw _ _ raw fresh unconditional ungrouped derived

theorem repeated_words_count_is_derived :
    ∃ s c, ((new ⟨"From"⟩ .default).run
        [.select, .filter [.isNotNull "select"], .groupBy ⟨none, "from"⟩]).build = .ok s ∧
      s.text = "SELECT _this FROM From _this WHERE (_this.select IS NOT NULL) GROUP BY _this.from" ∧
      ((new ⟨"From"⟩ .default).run
        [.select, .filter [.isNotNull "select"], .groupBy ⟨none, "from"⟩]).buildCount = .ok c ∧
      c.text = "SELECT count(_this) FROM From _this WHERE (_this.select IS NOT NULL) " ++
        "GROUP BY _this.from" ∧
      Count.derive s.text = .ok c.text ∧
      ∃ d, (ofRaw ⟨"From"⟩ s.text).buildCount = .ok d ∧ d.text = c.text := by
  obtain ⟨c, counted, derived, raw⟩ := structural_count_is_derived
    ((new ⟨"From"⟩ .default).run
      [.select, .filter [.isNotNull "select"], .groupBy ⟨none, "from"⟩]) _ rfl rfl rfl
    (by decide) (by decide) rfl
  refine ⟨_, c, rfl, by rfl, counted, ?_, derived, _, raw _ rfl rfl rfl rfl, rfl⟩
  exact congrArg Statement.text (Except.ok.inj (counted.symm.trans rfl))

end Builder

end Inquiry
