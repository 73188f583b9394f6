import Inquiry.Builder.Statement
import Inquiry.Proofs.Condition.Compilation
import Inquiry.Proofs.Condition.Dropping

set_option autoImplicit false

namespace Inquiry

namespace Outcome

variable {α β : Type}

theorem bind_ok_iff (x : Outcome α) (f : α → Outcome β) (b : β) :
    (x >>= f) = .ok b ↔ ∃ a, x = .ok a ∧ f a = .ok b := by
  cases x with
  | error e => simp [bind, Except.bind]
  | ok a => simp [bind, Except.bind]

theorem bind_error_iff (x : Outcome α) (f : α → Outcome β) (e : QueryError) :
    (x >>= f) = .error e ↔ x = .error e ∨ ∃ a, x = .ok a ∧ f a = .error e := by
  cases x with
  | error e => simp [bind, Except.bind]
  | ok a => simp [bind, Except.bind]

end Outcome

namespace Builder

theorem first_index_eq (b : Builder) : b.firstIndex = b.positional.greatest + 1 := by
  rw [firstIndex, Bindings.greatest]
  cases b.positional.last? <;> rfl

theorem head_of_raw (b : Builder) (text : String) (raw : b.raw = some text) :
    b.head .rows = .ok text ∧ b.head .count = Count.derive text := by
  simp only [head, raw, and_self]

theorem head_of_delete (b : Builder) (raw : b.raw = none) (mode : b.mode = some .delete) :
    b.head .rows = .ok ("DELETE FROM " ++ b.entity.name ++ " " ++ b.defaultAlias) ∧
      b.head .count = .error Misuse.countOfDelete.error := by
  simp only [head, raw, mode, and_self]

theorem head_of_select (b : Builder) (raw : b.raw = none) (mode : b.mode ≠ some .delete)
    (purpose : Purpose) :
    b.head purpose = .ok ("SELECT " ++ b.selectedText purpose ++ " FROM " ++ b.sourceText) := by
  unfold head
  rw [raw]
  cases chosen : b.mode with
  | none => rfl
  | some m =>
      cases m with
      | select => rfl
      | delete => exact absurd chosen mode

def connectiveText (isOpen : Bool) (s : Segment) : String :=
  if isOpen then s.connective.text else " WHERE "

theorem conditions_nil_ok_iff (c : Compiler) (isOpen : Bool) (w : Fragment) :
    conditions c isOpen [] = .ok w ↔ w = [] := by
  simp [conditions, eq_comm]

theorem conditions_cons_ok_iff (c : Compiler) (isOpen : Bool) (s : Segment) (rest : List Segment)
    (w : Fragment) :
    conditions c isOpen (s :: rest) = .ok w ↔
      (c.policy = .reject → s.predicate.firstInvalid? = none) ∧
        if (Condition.render c.aliases c.next s.predicate).isBlank then
          conditions (c.advance s.predicate) isOpen rest = .ok w
        else ∃ tail, conditions (c.advance s.predicate) true rest = .ok tail ∧
          w = .word (connectiveText isOpen s) ::
            Condition.render c.aliases c.next s.predicate ++ tail := by
  rw [conditions, Outcome.bind_ok_iff]
  constructor
  · intro built
    obtain ⟨⟨f, d⟩, compiled, next⟩ := built
    obtain ⟨accepted, rfl, rfl⟩ := (c.compile_ok_iff d s.predicate f).mp compiled
    refine ⟨accepted, ?_⟩
    dsimp only at next
    split at next
    · next blank => rw [if_pos blank]; exact next
    · next blank =>
        rw [if_neg blank]
        obtain ⟨tail, built, same⟩ := (Outcome.bind_ok_iff _ _ _).mp next
        exact ⟨tail, built, (Except.ok.inj same).symm⟩
  · intro given
    obtain ⟨accepted, next⟩ := given
    refine ⟨_, (c.compile_ok_iff _ s.predicate _).mpr ⟨accepted, rfl, rfl⟩, ?_⟩
    dsimp only
    split at next
    · next blank => rw [if_pos blank]; exact next
    · next blank =>
        obtain ⟨tail, built, rfl⟩ := next
        rw [if_neg blank, built]
        rfl

theorem conditions_cons_of_drops (c : Compiler) (isOpen : Bool) (s : Segment) (rest : List Segment)
    (ignore : c.policy = .ignore) (drops : s.predicate.drops = true) :
    conditions c isOpen (s :: rest) = conditions c isOpen rest := by
  have blank := (Condition.render_blank c.aliases c.next s.predicate).trans drops
  rw [conditions, c.compile_of_ignore s.predicate ignore, c.advance_of_drops s.predicate drops]
  exact if_pos blank

theorem conditions_cons_of_stays (c : Compiler) (isOpen : Bool) (s : Segment) (rest : List Segment)
    (ignore : c.policy = .ignore) (stays : s.predicate.drops = false) :
    conditions c isOpen (s :: rest) =
      (conditions (c.advance s.predicate) true rest).map fun tail =>
        .word (connectiveText isOpen s) :: Condition.render c.aliases c.next s.predicate ++ tail := by
  have filled := (Condition.render_blank c.aliases c.next s.predicate).trans stays
  rw [conditions, c.compile_of_ignore s.predicate ignore]
  refine (if_neg (by simp [filled])).trans ?_
  cases conditions (c.advance s.predicate) true rest <;> rfl

def segmentValues (segments : List Segment) : List Value :=
  segments.flatMap fun s => s.predicate.boundValues

theorem conditions_bindings (c : Compiler) (isOpen : Bool) (segments : List Segment) (w : Fragment)
    (built : conditions c isOpen segments = .ok w) :
    w.bindings = Fragment.numbered c.next (segmentValues segments) := by
  induction segments generalizing c isOpen w with
  | nil =>
      rw [(conditions_nil_ok_iff c isOpen w).mp built]
      rfl
  | cons s rest ih =>
      have first := Condition.render_bindings c.aliases c.next s.predicate
      obtain ⟨-, next⟩ := (conditions_cons_ok_iff c isOpen s rest w).mp built
      rw [segmentValues, List.flatMap_cons, Fragment.numbered_append, ← first, ← segmentValues]
      split at next
      · next blank =>
          rw [Fragment.bindings_of_blank _ blank, List.nil_append]
          exact ih (c.advance s.predicate) isOpen w next
      · obtain ⟨tail, tailBuilt, rfl⟩ := next
        rw [List.cons_append, Fragment.bindings_word, Fragment.bindings_append,
          ih (c.advance s.predicate) true tail tailBuilt]
        rfl

theorem conditions_open (c : Compiler) (segments : List Segment) (w : Fragment)
    (built : conditions c false segments = .ok w) :
    w = [] ∨ ∃ rest, w = .word " WHERE " :: rest := by
  induction segments generalizing c w with
  | nil => exact .inl ((conditions_nil_ok_iff c false w).mp built)
  | cons s rest ih =>
      obtain ⟨-, next⟩ := (conditions_cons_ok_iff c false s rest w).mp built
      split at next
      · exact ih (c.advance s.predicate) w next
      · obtain ⟨tail, -, rfl⟩ := next
        exact .inr ⟨_, rfl⟩

def segmentLeaves (segments : List Segment) : List Leaf :=
  segments.flatMap fun s => s.predicate.leaves

theorem conditions_error_iff (c : Compiler) (isOpen : Bool) (segments : List Segment)
    (e : QueryError) :
    conditions c isOpen segments = .error e ↔
      c.policy = .reject ∧
        ∃ leaf, (segmentLeaves segments).find? (fun leaf => !leaf.isValid) = some leaf ∧
          e = Compiler.refusal leaf := by
  induction segments generalizing c isOpen with
  | nil => simp [conditions, segmentLeaves]
  | cons s rest ih =>
      have leaves : (segmentLeaves (s :: rest)).find? (fun leaf => !leaf.isValid) =
          s.predicate.firstInvalid?.or
            ((segmentLeaves rest).find? fun leaf => !leaf.isValid) := by
        rw [segmentLeaves, List.flatMap_cons, List.find?_append]
        rfl
      rw [conditions, Outcome.bind_error_iff, Compiler.compile_error_iff, leaves]
      constructor
      · rintro (⟨strict, leaf, invalid, rfl⟩ | ⟨⟨f, d⟩, compiled, next⟩)
        · exact ⟨strict, leaf, by rw [invalid, Option.some_or], rfl⟩
        · obtain ⟨accepted, rfl, rfl⟩ := (c.compile_ok_iff d s.predicate f).mp compiled
          have later : c.policy = .reject ∧ ∃ leaf,
              (segmentLeaves rest).find? (fun leaf => !leaf.isValid) = some leaf ∧
                e = Compiler.refusal leaf := by
            dsimp only at next
            split at next
            · exact (ih (c.advance s.predicate) isOpen).mp next
            · rcases (Outcome.bind_error_iff _ _ _).mp next with failed | ⟨tail, -, absurd⟩
              · exact (ih (c.advance s.predicate) true).mp failed
              · cases absurd
          rw [accepted later.1, Option.none_or]
          exact later
      · rintro ⟨strict, leaf, found, rfl⟩
        cases invalid : s.predicate.firstInvalid? with
        | some first =>
            rw [invalid, Option.some_or] at found
            exact .inl ⟨strict, leaf, found, rfl⟩
        | none =>
            rw [invalid, Option.none_or] at found
            refine .inr ⟨_, (c.compile_ok_iff _ s.predicate _).mpr ⟨fun _ => invalid, rfl, rfl⟩, ?_⟩
            dsimp only
            split
            · exact (ih (c.advance s.predicate) isOpen).mpr ⟨strict, leaf, found, rfl⟩
            · rw [(ih (c.advance s.predicate) true).mpr ⟨strict, leaf, found, rfl⟩]
              rfl

def assemble (b : Builder) (purpose : Purpose) (head : String) (w : Fragment) : Statement where
  text := head ++ b.joinText ++ w.text ++ b.tailText purpose
  positional := b.positional.insertAll w.bindings
  named := b.named
  window := b.windowFor purpose

theorem statement_of_fault (b : Builder) (purpose : Purpose) (m : Misuse)
    (fault : b.fault? = some m) : b.statement purpose = .error m.error := by
  rw [statement, fault]

theorem statement_ok_iff (b : Builder) (purpose : Purpose) (s : Statement) :
    b.statement purpose = .ok s ↔
      b.fault? = none ∧ ∃ head w, b.head purpose = .ok head ∧ b.whereClause = .ok w ∧
        s = b.assemble purpose head w := by
  cases fault : b.fault? with
  | some m => simp [statement_of_fault b purpose m fault]
  | none =>
      rw [statement, fault]
      dsimp only
      rw [Outcome.bind_ok_iff]
      constructor
      · intro built
        obtain ⟨head, headBuilt, next⟩ := built
        obtain ⟨w, built, same⟩ := (Outcome.bind_ok_iff _ _ _).mp next
        exact ⟨rfl, head, w, headBuilt, built, (Except.ok.inj same).symm⟩
      · intro given
        obtain ⟨-, head, w, headBuilt, built, rfl⟩ := given
        refine ⟨head, headBuilt, ?_⟩
        rw [built]
        rfl

theorem statement_error_iff (b : Builder) (purpose : Purpose) (e : QueryError) :
    b.statement purpose = .error e ↔
      (∃ m, b.fault? = some m ∧ e = m.error) ∨
        b.fault? = none ∧ (b.head purpose = .error e ∨
          (∃ head, b.head purpose = .ok head) ∧ b.whereClause = .error e) := by
  cases fault : b.fault? with
  | some m => simp [statement_of_fault b purpose m fault, eq_comm]
  | none =>
      rw [statement, fault]
      dsimp only
      rw [Outcome.bind_error_iff]
      constructor
      · rintro (failed | ⟨head, headBuilt, next⟩)
        · exact .inr ⟨rfl, .inl failed⟩
        · rcases (Outcome.bind_error_iff _ _ _).mp next with failed | ⟨w, -, absurd⟩
          · exact .inr ⟨rfl, .inr ⟨⟨head, headBuilt⟩, failed⟩⟩
          · cases absurd
      · rintro (⟨m, absurd, -⟩ | ⟨-, failed | ⟨⟨head, headBuilt⟩, failed⟩⟩)
        · cases absurd
        · exact .inl failed
        · refine .inr ⟨head, headBuilt, ?_⟩
          rw [failed]
          rfl

end Builder

end Inquiry
