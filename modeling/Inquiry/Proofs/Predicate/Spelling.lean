import Inquiry.Predicate.Operator
import Inquiry.Proofs.Text.Words

set_option autoImplicit false

namespace Inquiry.Operator

open Text (pieces words IsGap)

def spellings : List (List String × Operator) :=
  [(["="], equal), (["=="], equal), (["eq"], equal), (["equal"], equal), (["<>"], notEqual),
   (["!="], notEqual), (["ne"], notEqual), (["not", "equal"], notEqual), ([">"], greaterThan),
   (["gt"], greaterThan), ([">="], greaterOrEqual), (["gte"], greaterOrEqual),
   (["ge"], greaterOrEqual), (["<"], lessThan), (["lt"], lessThan), (["<="], lessOrEqual),
   (["lte"], lessOrEqual), (["le"], lessOrEqual), (["like"], like), (["not", "like"], notLike),
   (["in"], isIn), (["not", "in"], notIn), (["between"], between), (["is", "null"], isNull),
   (["null"], isNull), (["is", "not", "null"], isNotNull), (["not", "null"], isNotNull)]

theorem of_words_iff (ws : List String) (op : Operator) :
    ofWords? ws = some op ↔ (ws, op) ∈ spellings := by
  constructor
  · intro read
    unfold ofWords? at read
    split at read <;> cases read <;> decide +kernel
  · intro listed
    have each : ∀ entry ∈ spellings, ofWords? entry.1 = some entry.2 := by decide +kernel
    exact each (ws, op) listed

def letters (ws : List String) : List Char := ws.flatMap String.toList

theorem spelling_of_letters :
    ∀ a ∈ spellings, ∀ b ∈ spellings, letters a.1 = letters b.1 → a.1 = b.1 := by
  decide +kernel

theorem parse_ok_iff (text : String) (op : Operator) :
    parse text = .ok op ↔ (wordsOf text, op) ∈ spellings := by
  rw [← of_words_iff, parse]
  cases ofWords? (wordsOf text) <;> simp

theorem parse_error_iff (text : String) (e : QueryError) :
    parse text = .error e ↔
      (∀ op, (wordsOf text, op) ∉ spellings) ∧ e = .unsupportedOperator text := by
  simp only [← of_words_iff, parse]
  cases ofWords? (wordsOf text) <;> simp [eq_comm]

theorem separates_lower (c : Char) : separates c.toLower = separates c := by
  by_cases upper : c ≥ 'A' ∧ c ≤ 'Z'
  · have letter : ∀ x : Char, 65 ≤ x.toNat → x.toNat ≤ 122 → x.toNat ≠ 95 → separates x = false := by
      intro x low high other
      have differs : x ≠ '_' := fun same => other (congrArg Char.toNat same)
      simp [separates, Text.isBlank, Text.inRanges, Text.blankRanges, differs]
      omega
    have low : 65 ≤ c.toNat := upper.1
    have high : c.toNat ≤ 90 := upper.2
    have lowered : c.toLower.toNat = c.toNat + 32 := by
      have value : c.toLower.val = c.val + 32 := congrArg Char.val (dif_pos upper)
      have small : c.val.toNat + 32 < 2 ^ 32 := by
        have : c.val.toNat ≤ 90 := high
        omega
      rw [Char.toNat, value, UInt32.toNat_add, UInt32.toNat_ofNat]
      exact Nat.mod_eq_of_lt small
    rw [letter c low (by omega) (by omega), letter c.toLower (by omega) (by omega) (by omega)]
  · rw [show c.toLower = c from dif_neg upper]

def foldedWords (text : String) : List (List Char) :=
  (pieces separates text.toList).map (List.map Char.toLower)

theorem words_of_eq (text : String) : wordsOf text = (foldedWords text).map String.ofList := by
  rw [wordsOf, foldedWords, Text.words_eq_pieces, List.map_map]
  rfl

theorem letters_of_words (text : String) :
    letters (wordsOf text) =
      (text.toList.filter fun c => !separates c).map Char.toLower := by
  rw [← Text.words_flatten, letters, wordsOf, List.flatMap_map, List.map_flatten,
    List.flatMap_def]
  simp

theorem word_count (text : String) :
    (wordsOf text).length = (words separates text.toList).length := List.length_map _

inductive Respells : List Char → List Char → Prop
  | nil : Respells [] []
  | letter (k c : Char) (keyword cs : List Char) (same : c.toLower = k.toLower)
      (rest : Respells keyword cs) : Respells (k :: keyword) (c :: cs)
  | gap (gap keyword cs : List Char) (filled : gap ≠ []) (apart : IsGap separates gap)
      (rest : Respells keyword cs) : Respells (' ' :: keyword) (gap ++ cs)

theorem same_letter_separates (k c : Char) (same : c.toLower = k.toLower) :
    separates c = separates k := by
  rw [← separates_lower c, same, separates_lower]

theorem respelled_head (keyword cs : List Char) (respells : Respells keyword cs) :
    cs.head?.all separates = keyword.head?.all separates := by
  cases respells with
  | nil => rfl
  | letter k c keyword cs same rest => exact same_letter_separates k c same
  | gap gap keyword cs filled apart rest =>
      obtain ⟨s, more, rfl⟩ := List.exists_cons_of_ne_nil filled
      exact (List.forall_mem_cons.mp apart).1

theorem lowered_joined (c : Char) (ws : List (List Char)) :
    (ws.modifyHead (c :: ·)).map (List.map Char.toLower) =
      (ws.map (List.map Char.toLower)).modifyHead (c.toLower :: ·) := by
  cases ws <;> rfl

theorem respelled_words (keyword cs : List Char) (respells : Respells keyword cs) :
    (words separates cs).map (List.map Char.toLower) =
      (words separates keyword).map (List.map Char.toLower) := by
  induction respells with
  | nil => rfl
  | letter k c keyword cs same rest ih =>
      have alike := same_letter_separates k c same
      cases letter : separates k with
      | true =>
          rw [Text.words_separator separates k keyword letter,
            Text.words_separator separates c cs (alike.trans letter), ih]
      | false =>
          have heads := respelled_head keyword cs rest
          cases apart : keyword.head?.all separates with
          | true =>
              rw [Text.words_apart separates k keyword letter apart,
                Text.words_apart separates c cs (alike.trans letter) (heads.trans apart)]
              simp only [List.map_cons, List.map_nil, ih, same]
          | false =>
              rw [Text.words_joined separates k keyword letter apart,
                Text.words_joined separates c cs (alike.trans letter) (heads.trans apart),
                lowered_joined, lowered_joined, ih, same]
  | gap gap keyword cs filled apart rest ih =>
      rw [Text.words_gap_append separates gap cs apart,
        Text.words_separator separates ' ' keyword (by decide), ih]

def Spells (op : Operator) (text : String) : Prop :=
  ∃ lead spelled trail, text.toList = lead ++ spelled ++ trail ∧ IsGap separates lead ∧
    IsGap separates trail ∧ Respells op.keyword.toList spelled

theorem folded_of_spells (op : Operator) (text : String) (spells : Spells op text) :
    foldedWords text = foldedWords op.keyword := by
  obtain ⟨lead, spelled, trail, whole, before, behind, respells⟩ := spells
  rw [foldedWords, foldedWords, ← Text.words_eq_pieces, ← Text.words_eq_pieces, whole,
    Text.words_trailing_gap separates _ trail behind, Text.words_gap_append separates lead _ before,
    respelled_words _ _ respells]

theorem parse_keyword (op : Operator) : parse op.keyword = .ok op := by
  rw [parse_ok_iff]
  cases op <;> decide +kernel

theorem parse_of_folded (s t : String) (same : foldedWords s = foldedWords t) (op : Operator) :
    parse s = .ok op ↔ parse t = .ok op := by
  rw [parse_ok_iff, parse_ok_iff, words_of_eq, words_of_eq, same]

-- The second text is the first with a gap between two letters that stand side by side in it.
def BreaksWord (s t : String) : Prop :=
  ∃ before c d after gap, s.toList = before ++ [c] ++ d :: after ∧
    t.toList = before ++ [c] ++ gap ++ d :: after ∧ separates c = false ∧ separates d = false ∧
    IsGap separates gap ∧ gap ≠ []

theorem broken_letters (s t : String) (broken : BreaksWord s t) :
    letters (wordsOf t) = letters (wordsOf s) := by
  obtain ⟨before, c, d, after, gap, whole, parted, -, -, apart, -⟩ := broken
  have nothing : gap.filter (fun c => !separates c) = [] := by
    rw [List.filter_eq_nil_iff]
    intro c member
    simp [apart c member]
  rw [letters_of_words, letters_of_words, whole, parted, List.filter_append, List.filter_append,
    nothing, List.append_nil, ← List.filter_append]

theorem broken_count (s t : String) (broken : BreaksWord s t) :
    (wordsOf t).length = (wordsOf s).length + 1 := by
  obtain ⟨before, c, d, after, gap, whole, parted, left, right, apart, filled⟩ := broken
  rw [word_count, word_count, whole, parted,
    Text.words_append_gap separates _ gap _ apart filled, List.length_append,
    Text.word_count_inside separates before after c d left right]

-- A gap inside a word leaves the letters of the text but changes the number of its words, and no two
-- spellings have the same letters.
theorem broken_word_refused (s t : String) (op : Operator) (read : parse s = .ok op)
    (broken : BreaksWord s t) : parse t = .error (.unsupportedOperator t) := by
  rw [parse_error_iff]
  refine ⟨fun other listed => ?_, rfl⟩
  have same := spelling_of_letters _ listed _ ((parse_ok_iff s op).mp read)
    (broken_letters s t broken)
  have counted := broken_count s t broken
  rw [show wordsOf t = wordsOf s from same] at counted
  omega

theorem words_alone_are_read :
    (∀ s t : String, foldedWords s = foldedWords t →
      (∃ op, parse s = .ok op ∧ parse t = .ok op) ∨
        parse s = .error (.unsupportedOperator s) ∧ parse t = .error (.unsupportedOperator t)) ∧
    (∀ op text, Spells op text → parse text = .ok op) ∧
    ∀ op s t, parse s = .ok op → BreaksWord s t → parse t = .error (.unsupportedOperator t) := by
  refine ⟨?_, ?_, fun op s t read broken => broken_word_refused s t op read broken⟩
  · intro s t same
    cases read : parse s with
    | ok op => exact .inl ⟨op, rfl, (parse_of_folded s t same op).mp read⟩
    | error e =>
        obtain ⟨unlisted, rfl⟩ := (parse_error_iff s e).mp read
        have kept : wordsOf t = wordsOf s := by rw [words_of_eq, words_of_eq, same]
        exact .inr ⟨rfl, (parse_error_iff t _).mpr ⟨by rw [kept]; exact unlisted, rfl⟩⟩
  · intro op text spells
    exact (parse_of_folded text op.keyword (folded_of_spells op text spells) op).mpr
      (parse_keyword op)

theorem not_in_by_words_alone :
    foldedWords "\tNOT__IN" = foldedWords "not in " ∧
      (∃ op, parse "\tNOT__IN" = .ok op ∧ parse "not in " = .ok op) ∧
      Spells .notIn " Not_\tiN_" ∧ parse " Not_\tiN_" = .ok .notIn ∧
      parse "<=" = .ok .lessOrEqual ∧ BreaksWord "<=" "< =" ∧
      parse "< =" = .error (.unsupportedOperator "< =") := by
  obtain ⟨alike, spelled, broken⟩ := words_alone_are_read
  have same : foldedWords "\tNOT__IN" = foldedWords "not in " := by decide +kernel
  have spells : Spells .notIn " Not_\tiN_" := by
    refine ⟨[' '], "Not_\tiN".toList, ['_'], rfl, by decide, by decide, ?_⟩
    have ending : Respells ['I', 'N'] ['i', 'N'] := .letter _ _ _ _ rfl (.letter _ _ _ _ rfl .nil)
    have parted := Respells.gap ['_', '\t'] _ _ (by decide) (by decide) ending
    exact .letter _ _ _ _ rfl (.letter _ _ _ _ rfl (.letter _ _ _ _ rfl parted))
  have read : parse "<=" = .ok .lessOrEqual := parse_keyword .lessOrEqual
  have breaks : BreaksWord "<=" "< =" :=
    ⟨[], '<', '=', [], [' '], rfl, rfl, by decide, by decide, by decide, by decide⟩
  have lower : parse "not in " = .ok .notIn := (parse_ok_iff _ _).mpr (by decide +kernel)
  have both := (alike _ _ same).resolve_right fun refused => nomatch refused.2.symm.trans lower
  exact ⟨same, both, spells, spelled _ _ spells, read, breaks, broken _ _ _ read breaks⟩

end Inquiry.Operator
