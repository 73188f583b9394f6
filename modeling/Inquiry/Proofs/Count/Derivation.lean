import Inquiry.Count
import Inquiry.Proofs.Text.Occurrence

set_option autoImplicit false

namespace Inquiry.Count

def KeywordAt (keyword : String) (n : Nat) (raw : List Char) : Prop :=
  ∃ before word after, raw = before ++ word ++ after ∧
    word.map Char.toLower = keyword.toList ∧ Text.byteSize before = n ∧
    ∀ x w y, raw = x ++ w ++ y → w.map Char.toLower = keyword.toList → before.length ≤ x.length

def Span (raw upTo content onward : List Char) : Prop :=
  ∃ select source, KeywordAt "select" select raw ∧ KeywordAt "from" source raw ∧
    select + 8 < source ∧ raw = upTo ++ content ++ onward ∧
    Text.byteSize upTo = select + 7 ∧ Text.byteSize (upTo ++ content) = source - 1

theorem lower_size (c : Char) : c.toLower.utf8Size = c.utf8Size := by
  by_cases upper : c.val ≥ 'A'.val ∧ c.val ≤ 'Z'.val
  · have high : c.val.toNat ≤ 90 := upper.2
    have lowered : c.toLower.val = c.val + 32 := congrArg Char.val (dif_pos upper)
    have one : c.utf8Size = 1 :=
      Char.utf8Size_eq_one_iff.mpr (UInt32.le_trans upper.2 (by decide))
    have shifted : (c.val + 32).toNat = c.val.toNat + 32 := by
      rw [UInt32.toNat_add]
      exact Nat.mod_eq_of_lt (show c.val.toNat + 32 < 2 ^ 32 by omega)
    have bound : (c.val + 32).toNat ≤ 127 := by omega
    rw [one, Char.utf8Size_eq_one_iff, lowered]
    exact UInt32.le_iff_toNat_le.mpr bound
  · have kept : c.toLower = c := dif_neg upper
    rw [kept]

theorem lower_byte_size (cs : List Char) :
    Text.byteSize (cs.map Char.toLower) = Text.byteSize cs := by
  induction cs with
  | nil => rfl
  | cons c rest ih => rw [List.map_cons, Text.byteSize, Text.byteSize, lower_size, ih]

theorem keyword_at_iff (keyword : String) (n : Nat) (raw : List Char) :
    keywordAt? keyword raw = some n ↔ KeywordAt keyword n raw := by
  rw [keywordAt?, Text.find_iff]
  constructor
  · intro found
    obtain ⟨lowered, ⟨⟨tail, eq⟩, least⟩, size⟩ := found
    obtain ⟨front, after, rfl, frontEq, rfl⟩ := List.map_eq_append_iff.mp eq
    obtain ⟨before, word, rfl, rfl, wordEq⟩ := List.map_eq_append_iff.mp frontEq
    refine ⟨before, word, after, rfl, wordEq, ?_, ?_⟩
    · rw [← lower_byte_size, size]
    · intro x w y occurs same
      have bound := least (x.map Char.toLower) (y.map Char.toLower)
        (by rw [occurs, List.map_append, List.map_append, same])
      simpa using bound
  · intro stands
    obtain ⟨before, word, after, rfl, wordEq, size, least⟩ := stands
    refine ⟨before.map Char.toLower, ⟨⟨after.map Char.toLower, ?_⟩, ?_⟩, ?_⟩
    · rw [List.map_append, List.map_append, wordEq]
    · intro x y occurs
      obtain ⟨front, rest, eq, frontEq, -⟩ := List.map_eq_append_iff.mp occurs
      obtain ⟨z, w, rfl, rfl, same⟩ := List.map_eq_append_iff.mp frontEq
      simpa using least z w rest eq same
    · rw [lower_byte_size, size]

theorem selection_iff (raw content : List Char) (select source : Nat) :
    selection? raw select source = some content ↔
      select + 8 < source ∧ ∃ upTo onward, raw = upTo ++ content ++ onward ∧
        Text.byteSize upTo = select + 7 ∧ Text.byteSize (upTo ++ content) = source - 1 := by
  rw [selection?]
  by_cases room : select + 8 < source
  · rw [if_pos room, Text.slice_iff]
    simp only [room, true_and]
    constructor
    · intro sliced
      obtain ⟨upTo, onward, eq, start, size⟩ := sliced
      refine ⟨upTo, onward, eq, start, ?_⟩
      rw [Text.byte_size_append]
      omega
    · intro between
      obtain ⟨upTo, onward, eq, start, stop⟩ := between
      refine ⟨upTo, onward, eq, start, ?_⟩
      rw [Text.byte_size_append] at stop
      omega
  · simp [room]

theorem of_chars_ok_iff (raw out : List Char) :
    ofChars raw = .ok out ↔
      ∃ select source content, keywordAt? "select" raw = some select ∧
        keywordAt? "from" raw = some source ∧ selection? raw select source = some content ∧
        Text.replaceFirst? (spaced content) (spaced (wrapped content)) raw = some out := by
  rw [ofChars]
  cases select : keywordAt? "select" raw with
  | none => simp
  | some b =>
      cases source : keywordAt? "from" raw with
      | none => simp
      | some e =>
          cases selected : selection? raw b e with
          | none => simp [selected]
          | some content =>
              cases replaced : Text.replaceFirst? (spaced content) (spaced (wrapped content)) raw with
              | none => simp [selected, replaced]
              | some counted => simp [selected, replaced]

theorem derive_ok_iff (raw out : String) :
    derive raw = .ok out ↔ ofChars raw.toList = .ok out.toList := by
  rw [derive]
  cases ofChars raw.toList with
  | error fault => simp
  | ok counted =>
      simp only [Except.ok.injEq]
      exact ⟨fun eq => by rw [← eq, String.toList_ofList], fun eq => by rw [eq, String.ofList_toList]⟩

theorem derive_ok_wraps_iff (raw out : String) :
    derive raw = .ok out ↔
      ∃ upTo content onward before after, Span raw.toList upTo content onward ∧
        Text.FirstAfter (spaced content) raw.toList before ∧
        raw.toList = before ++ spaced content ++ after ∧
        out.toList = before ++ spaced (wrapped content) ++ after := by
  rw [derive_ok_iff, of_chars_ok_iff]
  constructor
  · intro derived
    obtain ⟨select, source, content, begun, ended, selected, replaced⟩ := derived
    obtain ⟨room, upTo, onward, eq, start, stop⟩ := (selection_iff _ _ _ _).mp selected
    obtain ⟨before, after, first, split, wrappedOut⟩ := (Text.replace_first_iff _ _ _ _).mp replaced
    exact ⟨upTo, content, onward, before, after,
      ⟨select, source, (keyword_at_iff _ _ _).mp begun, (keyword_at_iff _ _ _).mp ended, room, eq,
        start, stop⟩, first, split, wrappedOut⟩
  · intro wraps
    obtain ⟨upTo, content, onward, before, after, span, first, split, wrappedOut⟩ := wraps
    obtain ⟨select, source, begun, ended, room, eq, start, stop⟩ := span
    exact ⟨select, source, content, (keyword_at_iff _ _ _).mpr begun,
      (keyword_at_iff _ _ _).mpr ended,
      (selection_iff _ _ _ _).mpr ⟨room, upTo, onward, eq, start, stop⟩,
      (Text.replace_first_iff _ _ _ _).mpr ⟨before, after, first, split, wrappedOut⟩⟩

theorem derive_wraps (raw out : String) (derived : derive raw = .ok out) :
    ∃ upTo content onward before after, Span raw.toList upTo content onward ∧
      Text.FirstAfter (spaced content) raw.toList before ∧
      raw.toList = before ++ spaced content ++ after ∧
      out.toList = before ++ spaced (wrapped content) ++ after :=
  (derive_ok_wraps_iff raw out).mp derived

theorem span_split (raw upTo content onward : List Char) (span : Span raw upTo content onward) :
    raw = upTo ++ content ++ onward := by
  obtain ⟨_, _, -, -, -, eq, -, -⟩ := span
  exact eq

theorem keyword_at_unique (keyword : String) (n m : Nat) (raw : List Char)
    (first : KeywordAt keyword n raw) (second : KeywordAt keyword m raw) : n = m :=
  Option.some.inj (((keyword_at_iff keyword n raw).mpr first).symm.trans
    ((keyword_at_iff keyword m raw).mpr second))

theorem span_content_some (raw upTo content onward : List Char)
    (span : Span raw upTo content onward) : content ≠ [] := by
  intro none
  obtain ⟨select, source, -, -, room, -, start, stop⟩ := span
  rw [none, List.append_nil] at stop
  omega

theorem one_byte (cs : List Char) (size : Text.byteSize cs = 1) : ∃ x, cs = [x] := by
  match cs with
  | [] => cases size
  | [x] => exact ⟨x, rfl⟩
  | x :: y :: rest =>
      have first := x.utf8Size_pos
      have second := y.utf8Size_pos
      simp only [Text.byteSize] at size
      omega

theorem span_behind_select (raw upTo content onward : List Char)
    (span : Span raw upTo content onward) :
    ∃ before word x, upTo = before ++ word ++ [x] ∧ word.map Char.toLower = "select".toList := by
  obtain ⟨select, source, ⟨before, word, after, split, same, position, -⟩, -, -, eq, start, -⟩ := span
  have six : Text.byteSize word = 6 := by rw [← lower_byte_size, same]; rfl
  rw [split, List.append_assoc upTo] at eq
  rcases List.append_eq_append_iff.mp eq with ⟨d, rfl, -⟩ | ⟨d, front, -⟩
  · rw [Text.byte_size_append, Text.byte_size_append] at start
    obtain ⟨x, rfl⟩ := one_byte d (by omega)
    exact ⟨before, word, x, rfl, same⟩
  · have sizes := congrArg Text.byteSize front
    rw [Text.byte_size_append, Text.byte_size_append] at sizes
    omega

def opening : List Char := "count(".toList

theorem opening_length : opening.length = 6 := rfl

theorem wrapped_eq (cs : List Char) : wrapped cs = opening ++ cs ++ [')'] := rfl

theorem commutes_with_opening (d : List Char) (commutes : d ++ opening = opening ++ d) :
    d = [] ∨ ∃ e, d = e ++ opening := by
  rcases List.append_eq_append_iff.mp commutes with ⟨e, front, back⟩ | ⟨e, -, back⟩
  · -- Here `d` is a beginning of the opening, so that there are seven texts to look at.
    have first : d = opening.take d.length := by rw [front, List.take_left]
    have short (n : Nat) (bound : n < 7) :
        opening.take n ++ opening = opening ++ opening.take n → n = 0 ∨ n = 6 := by
      revert n
      decide
    have bound : d.length < 7 := by
      have lengths := congrArg List.length front
      rw [List.length_append, opening_length] at lengths
      omega
    rcases short d.length bound (by rw [← first]; exact commutes) with none | all
    · exact .inl (List.length_eq_zero_iff.mp none)
    · exact .inr ⟨[], by rw [first, all]; rfl⟩
  · exact .inr ⟨e, back⟩

theorem mem_opening_of_begins (c rest : List Char) (begins : opening ++ c = c ++ rest) (x : Char)
    (member : x ∈ c) : x ∈ opening := by
  rcases List.append_eq_append_iff.mp begins with ⟨shorter, front, back⟩ | ⟨onward, front, -⟩
  · have again : opening ++ shorter = shorter ++ rest := front.symm.trans back
    have less : shorter.length < c.length := by
      have lengths := congrArg List.length front
      rw [List.length_append, opening_length] at lengths
      omega
    rw [front] at member
    rcases List.mem_append.mp member with here | later
    · exact here
    · exact mem_opening_of_begins shorter rest again x later
  · rw [front]
    exact List.mem_append_left _ member
termination_by c.length

theorem closing_last (c a b : List Char) (filled : c ≠ []) (eq : a ++ c = b ++ [')']) : ')' ∈ c := by
  rcases List.eq_nil_or_concat c with none | ⟨front, last, rfl⟩
  · exact absurd none filled
  · rw [List.concat_eq_append, ← List.append_assoc] at eq
    have ends : [last] = [')'] := List.append_inj_right' eq rfl
    rw [List.concat_eq_append, ends]
    exact List.mem_append_right front (List.mem_singleton.mpr rfl)

-- Two places at which wrapping gives one text are apart by openings only.
theorem shifted_wrap_commutes (c d V : List Char) (filled : c ≠ []) (Q : List Char)
    (same : c ++ Q = d ++ (c ++ V))
    (wraps : opening ++ (c ++ ([')'] ++ Q)) = d ++ (opening ++ (c ++ ([')'] ++ V)))) :
    d ++ opening = opening ++ d := by
  rcases List.append_eq_append_iff.mp same with ⟨apart, rfl, rfl⟩ | ⟨inner, rfl, -⟩
  · -- The places do not overlap: the content would end with the parenthesis that closes the count,
    -- and yet hold the characters of openings only.
    exfalso
    let beyond := apart ++ opening ++ c ++ [')']
    have cancelled : opening ++ c ++ ([')'] ++ apart ++ c) = c ++ beyond := by
      have tails : (opening ++ c ++ ([')'] ++ apart ++ c)) ++ V = (c ++ beyond) ++ V := by
        simpa only [beyond, List.append_assoc] using wraps
      exact List.append_cancel_right tails
    have closes : ')' ∈ c := by
      apply closing_last c (opening ++ c ++ [')'] ++ apart) (c ++ apart ++ opening ++ c) filled
      simpa only [beyond, List.append_assoc] using cancelled
    have begins : opening ++ c = c ++ beyond.take 6 := by
      have six : (beyond.take 6).length = opening.length := by
        simp only [beyond, List.length_take, List.length_append, opening_length]
        omega
      have cut : (opening ++ c) ++ ([')'] ++ apart ++ c) =
          (c ++ beyond.take 6) ++ beyond.drop 6 := by
        rw [cancelled, List.append_assoc, List.take_append_drop]
      refine List.append_inj_left cut ?_
      rw [List.length_append, List.length_append, six, Nat.add_comm]
    exact absurd (mem_opening_of_begins c _ begins ')' closes) (by decide)
  · have front : (opening ++ d) ++ (inner ++ ([')'] ++ Q)) =
        (d ++ opening) ++ (d ++ inner ++ ([')'] ++ V)) := by
      simpa only [List.append_assoc] using wraps
    have lengths : (opening ++ d).length = (d ++ opening).length := by
      simp only [List.length_append]
      omega
    exact (List.append_inj_left front lengths).symm

theorem select_not_opening (before word e : List Char) (x : Char)
    (same : word.map Char.toLower = "select".toList) : before ++ word ++ [x] ≠ e ++ opening := by
  intro eq
  obtain ⟨first, rest, rfl, -, restSame⟩ := List.map_eq_cons_iff.mp same
  have five : rest.length = 5 := by
    have lengths := congrArg List.length restSame
    rwa [List.length_map] at lengths
  have ends : (before ++ [first]) ++ (rest ++ [x]) = e ++ opening := by
    simpa only [List.append_assoc, List.cons_append, List.nil_append] using eq
  have opened : rest ++ [x] = opening :=
    List.append_inj_right' ends (by rw [List.length_append, five]; rfl)
  have taken : rest = "count".toList := by
    have six : rest ++ [x] = "count".toList ++ ['('] := opened
    exact List.append_inj_left six five
  rw [taken] at restSame
  exact absurd restSame (by decide)

theorem wrap_place_unique (raw upTo content onward before after : List Char)
    (span : Span raw upTo content onward) (eq : raw = before ++ spaced content ++ after)
    (wraps : before ++ spaced (wrapped content) ++ after = upTo ++ wrapped content ++ onward) :
    before ++ [' '] = upTo := by
  have filled := span_content_some raw upTo content onward span
  have split := span_split raw upTo content onward span
  have texts : (before ++ [' ']) ++ (content ++ ([' '] ++ after)) =
      upTo ++ (content ++ onward) := by
    simpa [spaced] using eq.symm.trans split
  have wrappedTexts : (before ++ [' ']) ++ (opening ++ (content ++ ([')'] ++ ([' '] ++ after)))) =
      upTo ++ (opening ++ (content ++ ([')'] ++ onward))) := by
    simpa [spaced, wrapped_eq] using wraps
  rcases List.append_eq_append_iff.mp texts with ⟨d, rfl, tails⟩ | ⟨d, front, tails⟩
  · -- The span is further on: if by an opening, then no keyword stands before it.
    rw [List.append_assoc (before ++ [' ']), List.append_cancel_left_eq] at wrappedTexts
    have commutes := shifted_wrap_commutes content d onward filled _ tails wrappedTexts
    rcases commutes_with_opening d commutes with rfl | ⟨e, rfl⟩
    · exact (List.append_nil _).symm
    · obtain ⟨pre, word, x, ends, same⟩ := span_behind_select _ _ _ _ span
      rw [← List.append_assoc] at ends
      exact absurd ends.symm (select_not_opening pre word _ x same)
  · -- The span is further back: if by an opening, then no space stands before the content.
    rw [front, List.append_assoc upTo, List.append_cancel_left_eq] at wrappedTexts
    have commutes := shifted_wrap_commutes content d ([' '] ++ after) filled _ tails wrappedTexts.symm
    rcases commutes_with_opening d commutes with rfl | ⟨e, rfl⟩
    · rw [front, List.append_nil]
    · have ends : before ++ [' '] = (upTo ++ e ++ "count".toList) ++ ['('] := by
        rw [front, ← List.append_assoc]
        exact (List.append_assoc _ "count".toList ['(']).symm
      exact absurd (List.append_inj_right' ends rfl) (by decide)

theorem derived_count_wraps_first (raw out : String) (derived : derive raw = .ok out) :
    ∃ upTo content onward, Span raw.toList upTo content onward ∧
      (∃ before after, Text.FirstAfter (spaced content) raw.toList before ∧
        raw.toList = before ++ spaced content ++ after ∧
        out.toList = before ++ spaced (wrapped content) ++ after) ∧
      (out.toList = upTo ++ wrapped content ++ onward ↔
        ∃ x y, upTo = x ++ [' '] ∧ onward = ' ' :: y ∧
          Text.FirstAfter (spaced content) raw.toList x) := by
  obtain ⟨upTo, content, onward, before, after, span, first, eq, wraps⟩ :=
    derive_wraps raw out derived
  have split := span_split raw.toList upTo content onward span
  refine ⟨upTo, content, onward, span, ⟨before, after, first, eq, wraps⟩, ?_⟩
  constructor
  · intro between
    obtain rfl := wrap_place_unique raw.toList upTo content onward before after span eq
      (wraps.symm.trans between)
    have tails : before ++ [' '] ++ content ++ (' ' :: after) =
        before ++ [' '] ++ content ++ onward := by
      simpa [spaced] using eq.symm.trans split
    exact ⟨before, after, rfl, (List.append_cancel_left tails).symm, first⟩
  · intro spaces
    obtain ⟨x, y, rfl, rfl, here⟩ := spaces
    obtain rfl := Text.first_after_unique _ _ _ _ first here
    have tails : before ++ spaced content ++ after = before ++ spaced content ++ y := by
      simpa [spaced] using eq.symm.trans split
    rw [wraps, List.append_cancel_left tails]
    simp [spaced]

theorem derived_count_of_alias :
    derive "SELECT m FROM Entity m" = .ok "SELECT count(m) FROM Entity m" ∧
      ∃ upTo content onward,
        Span "SELECT m FROM Entity m".toList upTo content onward ∧
        (∃ before after,
          Text.FirstAfter (spaced content) "SELECT m FROM Entity m".toList before ∧
          "SELECT m FROM Entity m".toList = before ++ spaced content ++ after ∧
          "SELECT count(m) FROM Entity m".toList =
            before ++ spaced (wrapped content) ++ after) ∧
        ("SELECT count(m) FROM Entity m".toList = upTo ++ wrapped content ++ onward ↔
          ∃ x y, upTo = x ++ [' '] ∧ onward = ' ' :: y ∧
            Text.FirstAfter (spaced content) "SELECT m FROM Entity m".toList x) :=
  ⟨by rfl, derived_count_wraps_first _ _ (by rfl)⟩

theorem derived_count_elsewhere :
    ¬ ∀ (raw out : String) (upTo content onward : List Char), derive raw = .ok out →
      Span raw.toList upTo content onward →
      out.toList = upTo ++ wrapped content ++ onward := by
  intro between
  have span : Span "SELECT m\nFROM Person m WHERE m.x = 1".toList "SELECT ".toList "m".toList
      "\nFROM Person m WHERE m.x = 1".toList :=
    ⟨0, 9, (keyword_at_iff _ _ _).mp (by decide), (keyword_at_iff _ _ _).mp (by decide),
      by decide, by decide, by decide, by decide⟩
  exact absurd (between _ "SELECT m\nFROM Person count(m) WHERE m.x = 1" _ _ _ (by rfl) span)
    (by decide)

end Inquiry.Count
