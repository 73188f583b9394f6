import Inquiry.Run.Trace

set_option autoImplicit false

namespace Inquiry

namespace Text

-- The positions up to the cut are the positions up to the byte where the search for it starts: on its
-- way back the search passes none of them.
theorem le_cut_iff (max : Nat) (text : String) (p : text.Pos) :
    p ≤ cutAt max text ↔ p.offset.byteIdx ≤ max := by
  change p.offset.byteIdx ≤ lastBoundary text max ↔ p.offset.byteIdx ≤ max
  induction max with
  | zero => rfl
  | succ n ih =>
      rw [lastBoundary]
      by_cases boundary : isBoundary text (n + 1) = true
      · rw [if_pos boundary]
      · have elsewhere : p.offset.byteIdx ≠ n + 1 := by
          intro here
          exact boundary ((is_boundary_iff text (n + 1)).mpr (here ▸ p.isValid))
        rw [if_neg boundary, ih]
        omega

def Begins (front text : String) : Prop := ∃ rest, text = front ++ rest

theorem begins_size (front text : String) (begins : Begins front text) :
    front.utf8ByteSize ≤ text.utf8ByteSize := by
  obtain ⟨rest, rfl⟩ := begins
  rw [String.utf8ByteSize_append]
  exact Nat.le_add_right _ _

theorem begins_antisymm (a b : String) (onward : Begins a b) (back : Begins b a) : a = b := by
  have size := begins_size b a back
  obtain ⟨rest, rfl⟩ := onward
  rw [String.utf8ByteSize_append] at size
  have nothing : rest = "" := String.utf8ByteSize_eq_zero_iff.mp (by omega)
  rw [nothing, String.append_empty]

structure LongestWithin (max : Nat) (text kept : String) : Prop where
  begins : Begins kept text
  fits : kept.utf8ByteSize ≤ max
  longest : ∀ front, Begins front text → front.utf8ByteSize ≤ max → Begins front kept

theorem longest_unique (max : Nat) (text a b : String) (longestA : LongestWithin max text a)
    (longestB : LongestWithin max text b) : a = b :=
  begins_antisymm a b (longestB.longest a longestA.begins longestA.fits)
    (longestA.longest b longestB.begins longestB.fits)

theorem longest_of_fits (max : Nat) (text : String) (fits : text.utf8ByteSize ≤ max) :
    LongestWithin max text text where
  begins := ⟨"", String.append_empty.symm⟩
  fits := fits
  longest := fun _ begins _ => begins

theorem longest_near (max : Nat) (text kept : String) (longest : LongestWithin max text kept)
    (longer : max < text.utf8ByteSize) : max ≤ kept.utf8ByteSize + 3 := by
  obtain ⟨rest, split⟩ := longest.begins
  rw [← String.ofList_toList (s := rest)] at split
  cases chars : rest.toList with
  | nil =>
      have whole : text = kept := by rw [split, chars, String.ofList_nil, String.append_empty]
      have fits := longest.fits
      rw [whole] at longer
      omega
  | cons c tail =>
      rw [chars, String.ofList_cons, ← String.append_assoc] at split
      have size : (kept ++ String.singleton c).utf8ByteSize = kept.utf8ByteSize + c.utf8Size := by
        rw [String.utf8ByteSize_append, String.utf8ByteSize_singleton]
      have four := c.utf8Size_le_four
      have positive := c.utf8Size_pos
      by_cases fits : (kept ++ String.singleton c).utf8ByteSize ≤ max
      · have shorter := begins_size _ _ (longest.longest _ ⟨_, split⟩ fits)
        omega
      · omega

theorem cut_size (max : Nat) (text : String) :
    (text.sliceTo (cutAt max text)).copy.utf8ByteSize = lastBoundary text max := by
  rw [← String.byteIdx_rawEndPos, ← (cutAt max text).splits.offset_eq_rawEndPos]
  rfl

theorem cut_longest (max : Nat) (text : String) :
    LongestWithin max text (text.sliceTo (cutAt max text)).copy where
  begins := ⟨_, (cutAt max text).splits.eq_append⟩
  fits := by
    rw [cut_size]
    exact (le_cut_iff max text (cutAt max text)).mp (String.Pos.le_refl _)
  longest := by
    intro front begins fits
    obtain ⟨rest, split⟩ := begins
    have ends : front.rawEndPos.IsValid text :=
      String.Pos.Raw.isValid_iff_exists_append.mpr ⟨front, rest, split, rfl⟩
    have splits : (⟨front.rawEndPos, ends⟩ : text.Pos).Splits front rest := ⟨split, rfl⟩
    have before : ⟨front.rawEndPos, ends⟩ ≤ cutAt max text := (le_cut_iff max text _).mpr fits
    obtain ⟨more, kept, -⟩ := (splits.le_iff_exists_eq_append (cutAt max text).splits).mp before
    exact ⟨more, kept⟩

theorem truncate_longest (max : Nat) (text : String) :
    LongestWithin max text (truncate max text) := by
  rw [truncate]
  by_cases fits : text.utf8ByteSize ≤ max
  · rw [if_pos fits]
    exact longest_of_fits max text fits
  · rw [if_neg fits]
    exact cut_longest max text

structure CutDown (max : Nat) (text kept : String) : Prop where
  longest : LongestWithin max text kept
  whole : text.utf8ByteSize ≤ max → kept = text
  between : max < text.utf8ByteSize →
    ∃ p : text.Pos, p.offset.byteIdx = lastBoundary text max ∧ kept = (text.sliceTo p).copy
  near : max < text.utf8ByteSize → max ≤ kept.utf8ByteSize + 3

theorem truncate_cuts_down (max : Nat) (text : String) :
    CutDown max text (truncate max text) where
  longest := truncate_longest max text
  whole := fun fits => if_pos fits
  between := fun longer => ⟨cutAt max text, rfl, if_neg (Nat.not_le.mpr longer)⟩
  near := longest_near max text _ (truncate_longest max text)

end Text

namespace Event

inductive Shows (c : Config) (text : String) : String → Prop where
  | unlimited (free : c.maxLength = none) : Shows c text text
  | whole (max : Nat) (limit : c.maxLength = some max) (fits : text.utf8ByteSize ≤ max) :
      Shows c text text
  | inPart (max : Nat) (kept : String) (limit : c.maxLength = some max)
      (longer : max < text.utf8ByteSize) (longest : Text.LongestWithin max text kept) :
      Shows c text (kept ++ "...")

theorem shows_query_text (c : Config) (text : String) : Shows c text (queryText c text) := by
  rw [queryText]
  cases limit : c.maxLength with
  | none => exact .unlimited limit
  | some max =>
      by_cases longer : max < text.utf8ByteSize
      · simpa only [if_pos longer] using
          Shows.inPart max _ limit longer (Text.truncate_longest max text)
      · simpa only [if_neg longer] using Shows.whole max limit (Nat.not_lt.mp longer)

theorem query_text_of_shows (c : Config) (text shown : String) (shows : Shows c text shown) :
    queryText c text = shown := by
  rw [queryText]
  cases shows with
  | unlimited free => rw [free]
  | whole max limit fits =>
      rw [limit]
      exact if_neg (Nat.not_lt.mpr fits)
  | inPart max kept limit longer longest =>
      rw [limit, Text.longest_unique max text kept _ longest (Text.truncate_longest max text)]
      exact if_pos longer

theorem long_texts_are_cut_between_characters (c : Config) (text : String) :
    (∀ max, Text.CutDown max text (Text.truncate max text)) ∧
      ∀ shown, queryText c text = shown ↔ Shows c text shown := by
  refine ⟨fun max => Text.truncate_cuts_down max text, fun shown => ⟨?_, ?_⟩⟩
  · intro eq
    exact eq ▸ shows_query_text c text
  · exact query_text_of_shows c text shown

example : queryText (Config.default.withMaxLength 2) "aéb" = "a..." := by rfl

end Event

end Inquiry
