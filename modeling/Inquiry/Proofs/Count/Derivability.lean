import Inquiry.Proofs.Count.Derivation

set_option autoImplicit false

namespace Inquiry.Count

inductive Underivable (raw : List Char) : Fault → Prop
  | noSelect (absent : ∀ n, ¬ KeywordAt "select" n raw) : Underivable raw .noSelect
  | noFrom (select : Nat) (begun : KeywordAt "select" select raw)
      (absent : ∀ n, ¬ KeywordAt "from" n raw) : Underivable raw .noFrom
  | nothingSelected (select source : Nat) (begun : KeywordAt "select" select raw)
      (ended : KeywordAt "from" source raw)
      (empty : ∀ upTo content onward, ¬ Span raw upTo content onward) :
      Underivable raw .nothingSelected
  | notDelimited (upTo content onward : List Char) (span : Span raw upTo content onward)
      (absent : ¬ spaced content <:+: raw) : Underivable raw .notDelimited

theorem keyword_absent_iff (keyword : String) (raw : List Char) :
    keywordAt? keyword raw = none ↔ ∀ n, ¬ KeywordAt keyword n raw := by
  rw [Option.eq_none_iff_forall_ne_some]
  exact forall_congr' fun n => not_congr (keyword_at_iff keyword n raw)

theorem selected_span_iff (raw content : List Char) (select source : Nat)
    (begun : KeywordAt "select" select raw) (ended : KeywordAt "from" source raw) :
    selection? raw select source = some content ↔ ∃ upTo onward, Span raw upTo content onward := by
  rw [selection_iff]
  constructor
  · intro selected
    obtain ⟨room, upTo, onward, eq, start, stop⟩ := selected
    exact ⟨upTo, onward, select, source, begun, ended, room, eq, start, stop⟩
  · intro spans
    obtain ⟨upTo, onward, b, e, begunToo, endedToo, room, eq, start, stop⟩ := spans
    obtain rfl := keyword_at_unique "select" b select raw begunToo begun
    obtain rfl := keyword_at_unique "from" e source raw endedToo ended
    exact ⟨room, upTo, onward, eq, start, stop⟩

theorem nothing_selected_iff (raw : List Char) (select source : Nat)
    (begun : KeywordAt "select" select raw) (ended : KeywordAt "from" source raw) :
    selection? raw select source = none ↔ ∀ upTo content onward, ¬ Span raw upTo content onward := by
  rw [Option.eq_none_iff_forall_ne_some]
  simp only [ne_eq, selected_span_iff raw _ select source begun ended, not_exists]
  exact forall_comm

theorem underivable_of_error (raw : List Char) (fault : Fault) (failed : ofChars raw = .error fault) :
    Underivable raw fault := by
  rw [ofChars] at failed
  cases select : keywordAt? "select" raw with
  | none =>
      rw [select] at failed
      cases failed
      exact .noSelect ((keyword_absent_iff _ _).mp select)
  | some b =>
      have begun := (keyword_at_iff _ _ _).mp select
      rw [select] at failed
      cases source : keywordAt? "from" raw with
      | none =>
          rw [source] at failed
          cases failed
          exact .noFrom b begun ((keyword_absent_iff _ _).mp source)
      | some e =>
          have ended := (keyword_at_iff _ _ _).mp source
          rw [source] at failed
          dsimp only at failed
          cases selected : selection? raw b e with
          | none =>
              rw [selected] at failed
              cases failed
              exact .nothingSelected b e begun ended
                ((nothing_selected_iff raw b e begun ended).mp selected)
          | some content =>
              obtain ⟨upTo, onward, span⟩ := (selected_span_iff raw content b e begun ended).mp selected
              rw [selected] at failed
              dsimp only at failed
              cases replaced : Text.replaceFirst? (spaced content) (spaced (wrapped content)) raw with
              | none =>
                  rw [replaced] at failed
                  cases failed
                  exact .notDelimited upTo content onward span
                    ((Text.replace_first_none_iff _ _ _).mp replaced)
              | some counted =>
                  rw [replaced] at failed
                  cases failed

theorem error_of_underivable (raw : List Char) (fault : Fault) (why : Underivable raw fault) :
    ofChars raw = .error fault := by
  cases why with
  | noSelect absent => rw [ofChars, (keyword_absent_iff _ _).mpr absent]
  | noFrom select begun absent =>
      rw [ofChars, (keyword_at_iff _ _ _).mpr begun, (keyword_absent_iff _ _).mpr absent]
  | nothingSelected select source begun ended empty =>
      have nothing := (nothing_selected_iff raw select source begun ended).mpr empty
      rw [ofChars, (keyword_at_iff _ _ _).mpr begun, (keyword_at_iff _ _ _).mpr ended]
      dsimp only
      rw [nothing]
  | notDelimited upTo content onward span absent =>
      have between := span
      obtain ⟨select, source, begun, ended, -⟩ := between
      have selected := (selected_span_iff raw content select source begun ended).mpr
        ⟨upTo, onward, span⟩
      have undelimited := (Text.replace_first_none_iff (spaced content) (spaced (wrapped content))
        raw).mpr absent
      rw [ofChars, (keyword_at_iff _ _ _).mpr begun, (keyword_at_iff _ _ _).mpr ended]
      dsimp only
      rw [selected]
      dsimp only
      rw [undelimited]

theorem derive_error_iff (raw : String) (e : QueryError) :
    derive raw = .error e ↔ ∃ fault, Underivable raw.toList fault ∧
      e = .malformedRawQuery (fault.reason ++ ": " ++ raw) := by
  rw [derive]
  constructor
  · intro failed
    cases given : ofChars raw.toList with
    | ok counted =>
        rw [given] at failed
        cases failed
    | error fault =>
        rw [given] at failed
        exact ⟨fault, underivable_of_error _ fault given, (Except.error.inj failed).symm⟩
  · intro why
    obtain ⟨fault, underivable, rfl⟩ := why
    rw [error_of_underivable _ fault underivable]
    rfl

-- The text with seven bytes more: an opening and a closing around the content, at the first place at
-- which it stands between single spaces. Without them it is the text it was.
structure WrapsFirst (raw content out : List Char) (front back : List Char) : Prop where
  first : Text.FirstAfter (spaced content) raw front
  before : raw = (front ++ [' ']) ++ content ++ (' ' :: back)
  after : out = (front ++ [' ']) ++ opening ++ content ++ [')'] ++ (' ' :: back)

theorem wraps_first_iff (raw content out front back : List Char) :
    WrapsFirst raw content out front back ↔
      Text.FirstAfter (spaced content) raw front ∧ raw = front ++ spaced content ++ back ∧
        out = front ++ spaced (wrapped content) ++ back := by
  have plain : (front ++ [' ']) ++ content ++ (' ' :: back) = front ++ spaced content ++ back := by
    simp [spaced]
  have counted : (front ++ [' ']) ++ opening ++ content ++ [')'] ++ (' ' :: back) =
      front ++ spaced (wrapped content) ++ back := by
    simp [spaced, wrapped_eq]
  constructor
  · intro wraps
    exact ⟨wraps.first, wraps.before.trans plain, wraps.after.trans counted⟩
  · intro wraps
    obtain ⟨first, before, after⟩ := wraps
    exact ⟨first, before.trans plain.symm, after.trans counted.symm⟩

theorem wraps_first_size (raw content out front back : List Char)
    (wraps : WrapsFirst raw content out front back) :
    Text.byteSize out = Text.byteSize raw + 7 := by
  have six : Text.byteSize opening = 6 := rfl
  have one : Text.byteSize [')'] = 1 := rfl
  rw [wraps.before, wraps.after]
  simp only [Text.byte_size_append, six, one]
  omega

theorem derivable_iff (raw : String) :
    (∃ out, derive raw = .ok out) ↔
      ∃ upTo content onward, Span raw.toList upTo content onward ∧
        spaced content <:+: raw.toList := by
  constructor
  · intro derivable
    obtain ⟨out, derived⟩ := derivable
    obtain ⟨upTo, content, onward, before, after, span, -, split, -⟩ :=
      (derive_ok_wraps_iff raw out).mp derived
    exact ⟨upTo, content, onward, span, before, after, split.symm⟩
  · intro delimited
    obtain ⟨upTo, content, onward, span, occurs⟩ := delimited
    cases replaced : Text.replaceFirst? (spaced content) (spaced (wrapped content)) raw.toList with
    | none => exact absurd occurs ((Text.replace_first_none_iff _ _ _).mp replaced)
    | some counted =>
        obtain ⟨before, after, first, split, wraps⟩ := (Text.replace_first_iff _ _ _ _).mp replaced
        refine ⟨String.ofList counted, (derive_ok_wraps_iff raw _).mpr
          ⟨upTo, content, onward, before, after, span, first, split, ?_⟩⟩
        rw [String.toList_ofList, wraps]

theorem derived_or_malformed (raw : String) :
    (∀ out, derive raw = .ok out ↔
      ∃ upTo content onward front back, Span raw.toList upTo content onward ∧
        WrapsFirst raw.toList content out.toList front back ∧
        Text.byteSize out.toList = Text.byteSize raw.toList + 7) ∧
      ((∃ out, derive raw = .ok out) ↔
        ∃ upTo content onward, Span raw.toList upTo content onward ∧
          spaced content <:+: raw.toList) ∧
      ∀ e, derive raw = .error e ↔ ∃ fault, Underivable raw.toList fault ∧
        e = .malformedRawQuery (fault.reason ++ ": " ++ raw) := by
  refine ⟨?_, derivable_iff raw, derive_error_iff raw⟩
  intro out
  rw [derive_ok_wraps_iff]
  constructor
  · intro derived
    obtain ⟨upTo, content, onward, front, back, span, place⟩ := derived
    have wraps := (wraps_first_iff _ _ _ _ _).mpr place
    exact ⟨upTo, content, onward, front, back, span, wraps, wraps_first_size _ _ _ _ _ wraps⟩
  · intro counted
    obtain ⟨upTo, content, onward, front, back, span, wraps, -⟩ := counted
    exact ⟨upTo, content, onward, front, back, span, (wraps_first_iff _ _ _ _ _).mp wraps⟩

-- The byte behind a keyword may be the first of a character that goes on into the span.
example : derive "SELECTé m FROM Person m" =
    .error (.malformedRawQuery
      "nothing selected between SELECT and FROM: SELECTé m FROM Person m") := by rfl

end Inquiry.Count
