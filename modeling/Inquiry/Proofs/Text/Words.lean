import Inquiry.Text.Blank

set_option autoImplicit false

namespace Inquiry.Text

variable (separator : Char → Bool)

def pieces (cs : List Char) : List (List Char) :=
  (cs.splitOnP separator).filter fun piece => !piece.isEmpty

def IsGap (cs : List Char) : Prop := ∀ c ∈ cs, separator c = true

instance : DecidablePred (IsGap separator) := fun cs =>
  decidable_of_iff (cs.all separator = true) List.all_eq_true

section

variable (c : Char) (rest : List Char) (letter : separator c = false)

include letter

theorem words_letter_ne_nil : words separator (c :: rest) ≠ [] := by
  rw [words, letter]
  cases rest.head? with
  | none => simp
  | some next =>
      cases words separator rest with
      | nil => simp
      | cons word tail => by_cases apart : separator next = true <;> simp [apart]

theorem words_apart (apart : rest.head?.all separator = true) :
    words separator (c :: rest) = [c] :: words separator rest := by
  rw [words, letter]
  cases first : rest.head? with
  | none => simp
  | some next =>
      rw [first, Option.all_some] at apart
      cases words separator rest with
      | nil => simp
      | cons word tail => simp [apart]

theorem words_joined (goesOn : rest.head?.all separator = false) :
    words separator (c :: rest) = (words separator rest).modifyHead (c :: ·) := by
  cases rest with
  | nil => cases goesOn
  | cons next rest =>
      have filled := words_letter_ne_nil separator next rest goesOn
      rw [words, letter]
      cases found : words separator (next :: rest) with
      | nil => exact absurd found filled
      | cons word tail => simp [show separator next = false from goesOn]

end

theorem words_eq_pieces (cs : List Char) : words separator cs = pieces separator cs := by
  induction cs with
  | nil => rfl
  | cons c rest ih =>
      rw [pieces, List.splitOnP_cons_eq_if_modifyHead]
      cases letter : separator c with
      | true => rw [words_separator separator c rest letter, ih]; rfl
      | false =>
          rw [if_neg (by decide)]
          cases rest with
          | nil => rw [words_apart separator c [] letter rfl]; rfl
          | cons next rest =>
              rw [pieces, List.splitOnP_cons_eq_if_modifyHead] at ih
              rw [List.splitOnP_cons_eq_if_modifyHead]
              cases goesOn : separator next with
              | true =>
                  rw [goesOn, if_pos rfl] at ih
                  rw [words_apart separator c (next :: rest) letter goesOn, ih]
                  rfl
              | false =>
                  obtain ⟨first, more, split⟩ :=
                    List.exists_cons_of_ne_nil (List.splitOnP_ne_nil separator rest)
                  rw [goesOn, if_neg (by decide), split] at ih
                  rw [words_joined separator c (next :: rest) letter goesOn, ih,
                    if_neg (by decide), split]
                  rfl

theorem words_append_separator (before after : List Char) (s : Char) (apart : separator s = true) :
    words separator (before ++ s :: after) = words separator before ++ words separator after := by
  rw [words_eq_pieces, words_eq_pieces, words_eq_pieces, pieces,
    List.splitOnP_append_cons before after apart, List.filter_append]
  rfl

theorem words_gap_append (gap cs : List Char) (apart : IsGap separator gap) :
    words separator (gap ++ cs) = words separator cs := by
  induction gap with
  | nil => rfl
  | cons s rest ih =>
      obtain ⟨first, others⟩ := List.forall_mem_cons.mp apart
      rw [List.cons_append, words_separator separator s _ first, ih others]

theorem words_append_gap (before gap after : List Char) (apart : IsGap separator gap)
    (filled : gap ≠ []) :
    words separator (before ++ gap ++ after) = words separator before ++ words separator after := by
  obtain ⟨s, rest, rfl⟩ := List.exists_cons_of_ne_nil filled
  obtain ⟨first, others⟩ := List.forall_mem_cons.mp apart
  rw [List.append_assoc, List.cons_append, words_append_separator separator before _ s first,
    words_gap_append separator rest after others]

theorem words_trailing_gap (cs gap : List Char) (apart : IsGap separator gap) :
    words separator (cs ++ gap) = words separator cs := by
  cases gap with
  | nil => rw [List.append_nil]
  | cons s rest =>
      have behind := words_append_gap separator cs (s :: rest) [] apart (List.cons_ne_nil s rest)
      rw [List.append_nil] at behind
      rw [behind, words_nil, List.append_nil]

theorem words_flatten (cs : List Char) :
    (words separator cs).flatten = cs.filter fun c => !separator c := by
  rw [words_eq_pieces, pieces, List.flatten_filter_not_isEmpty]
  induction cs with
  | nil => rfl
  | cons c rest ih =>
      obtain ⟨first, more, split⟩ :=
        List.exists_cons_of_ne_nil (List.splitOnP_ne_nil separator rest)
      rw [split] at ih
      rw [List.splitOnP_cons_eq_if_modifyHead, List.filter_cons, split, ← ih]
      cases separator c <;> rfl

theorem word_count_cons (c : Char) (rest : List Char) :
    (words separator (c :: rest)).length =
      (words separator rest).length +
        if separator c = false ∧ rest.head?.all separator = true then 1 else 0 := by
  cases letter : separator c with
  | true => simp [words_separator separator c rest letter]
  | false =>
      cases rest with
      | nil => simp [words_apart separator c [] letter rfl]
      | cons next rest =>
          cases goesOn : separator next with
          | true => simp [words_apart separator c (next :: rest) letter goesOn, goesOn]
          | false => simp [words_joined separator c (next :: rest) letter goesOn, goesOn]

-- Two letters side by side belong to one word, so what ends with the first and what begins with the
-- second have one word more than both together.
theorem word_count_inside (before after : List Char) (c d : Char) (left : separator c = false)
    (right : separator d = false) :
    (words separator (before ++ [c] ++ d :: after)).length + 1 =
      (words separator (before ++ [c])).length + (words separator (d :: after)).length := by
  induction before with
  | nil =>
      simp [words_joined separator c (d :: after) left right, words_apart separator c [] left rfl,
        words_nil, Nat.add_comm]
  | cons x before ih =>
      have heads : (before ++ [c] ++ d :: after).head? = (before ++ [c]).head? := by
        cases before <;> rfl
      simp only [List.cons_append, word_count_cons separator x, heads]
      omega

end Inquiry.Text
