import Inquiry.Proofs.Row.Reading
import Inquiry.Proofs.Run.Exchange
import Inquiry.Run.Script

set_option autoImplicit false

namespace Inquiry

open RowDecoder

variable {σ α : Type}

theorem decode_all_succeeds_iff (decode : RowDecoder α) (rows : List Row) :
    (∃ data, rows.mapM decode = .ok data) ↔ ∀ row ∈ rows, ∃ item, decode row = .ok item := by
  induction rows with
  | nil => exact ⟨fun _ => by simp, fun _ => ⟨[], rfl⟩⟩
  | cons row rest ih =>
      rw [List.forall_mem_cons, ← ih]
      simp only [decode_all_ok_iff, List.forall₂_cons_left_iff]
      constructor
      · rintro ⟨_, item, items, first, later, rfl⟩
        exact ⟨⟨item, first⟩, items, later⟩
      · rintro ⟨⟨item, first⟩, items, later⟩
        exact ⟨_, item, items, first, later, rfl⟩

structure AllOrNothing (fs : List AnyField) (decode : RowDecoder α) (rows : List Row)
    (outcome : Outcome (List α)) : Prop where
  succeeds : (∃ data, outcome = .ok data) ↔ ∀ row ∈ rows, ∀ f ∈ fs, f.2.Decodes row
  items : ∀ data, outcome = .ok data →
    List.Forall₂ (fun row item => decode row = .ok item) rows data
  fails : ∀ e, outcome = .error e ↔
    ∃ row, Reached (fun earlier => ∀ f ∈ fs, f.2.Decodes earlier) rows row ∧ FirstFault fs row e

theorem all_or_nothing (fs : List AnyField) (decode : RowDecoder α) (inOrder : InOrder fs decode)
    (rows : List Row) : AllOrNothing fs decode rows (rows.mapM decode) where
  succeeds := by
    rw [decode_all_succeeds_iff]
    simp only [in_order_ok_iff inOrder]
  items := fun data decoded => (decode_all_ok_iff decode rows data).mp decoded
  fails e := by
    rw [decode_all_error_iff]
    simp only [in_order_ok_iff inOrder, in_order_error_iff inOrder]
    constructor
    · rintro ⟨before, row, after, split, earlier, first⟩
      exact ⟨row, ⟨before, after, split, earlier⟩, first⟩
    · rintro ⟨row, ⟨before, after, split, earlier⟩, first⟩
      exact ⟨before, row, after, split, earlier, first⟩

namespace Builder

variable (exec : Executor σ) (b : Builder) (fs : List AnyField) (decode : RowDecoder α)

theorem result_list_answered (before ready : Session σ) (s : Statement)
    (prepared : b.prepared exec .select .rows before = (.ok s, ready)) (rows : List Row) (store : σ)
    (answered : exec.query s ready.store = (.ok rows, store)) :
    b.resultList exec decode before = (rows.mapM decode, { ready with store := store }) := by
  have ran : b.rows exec before = (.ok rows, { ready with store := store }) := by
    rw [Builder.rows, Action.bind_ok _ _ _ _ s prepared]
    change ((exec.query s ready.store).1,
      ({ ready with store := (exec.query s ready.store).2 } : Session σ)) = _
    rw [answered]
  exact Action.bind_outcome _ (List.mapM decode) _ _ (.ok rows) ran

theorem typed_lists_are_all_or_nothing (inOrder : InOrder fs decode) :
    (∀ before ready s rows store, b.prepared exec .select .rows before = (.ok s, ready) →
      exec.query s ready.store = (.ok rows, store) →
      ∃ outcome, b.resultList exec decode before = (outcome, { ready with store := store }) ∧
        AllOrNothing fs decode rows outcome) ∧
    ∀ (r : Row) (name : String),
      (∀ i, r.FirstNamed name i → r.SameColumn (.name name) (.position i)) ∧
      (r.lookup? (.name name) = none ↔
        name ∉ r.columns ∨ ∃ i, r.FirstNamed name i ∧ r.values.length ≤ i) ∧
      ∀ {κ : Type} [FromValue κ],
        (name ∉ r.columns ∨ ∃ i, r.FirstNamed name i ∧ r.values.length ≤ i) →
          (r.tryGet (.name name) : Outcome κ) = .error (.decode name "no such column") := by
  refine ⟨?_, fun r name => ⟨?_, r.lookup_name_eq_none_iff name, ?_⟩⟩
  · intro before ready s rows store prepared answered
    exact ⟨rows.mapM decode,
      b.result_list_answered exec decode before ready s prepared rows store answered,
      all_or_nothing fs decode inOrder rows⟩
  · intro i first
    exact r.same_column _ _ (r.lookup_first_named name i first)
  · intro κ _ lacking
    exact r.try_get_missing (.name name) ((r.lookup_name_eq_none_iff name).mpr lacking)

def fullRow : Row := ⟨["id", "id", "name"], [.int 1, .int 2, .text "alice"]⟩

def shortRow : Row := ⟨["id", "id", "name"], [.int 3, .int 4]⟩

def unevenScript : Script where
  columns := ["id", "id", "name"]
  rows := [fullRow.values, shortRow.values]
  counts := none
  affected := 0
  failure := none
  failAt := 0
  counting := false

def idField : Field Int64 := ⟨.name "id", fromValue⟩

def nameField : Field String := ⟨.name "name", fromValue⟩

def byNames : RowDecoder (Int64 × String) := fun r => do
  let id ← idField.read r
  let name ← nameField.read r
  return (id, name)

theorem short_row_fails_its_list :
    InOrder [⟨Int64, idField⟩, ⟨String, nameField⟩] byNames ∧
    (∃ after, ((Builder.new ⟨"User"⟩ .default).step .select).resultList ScriptedStore.executor
      byNames ⟨.new unevenScript, []⟩ = (.error (.decode "name" "no such column"), after)) ∧
    shortRow.SameColumn (.name "id") (.position 0) ∧
    (shortRow.tryGet (.name "name") : Outcome String) =
      .error (.decode "name" "no such column") := by
  have inOrder : InOrder [⟨Int64, idField⟩, ⟨String, nameField⟩] byNames :=
    .field _ _ _ fun id => .field _ _ _ fun name => .made fun _ => (id, name)
  obtain ⟨lists, names⟩ := typed_lists_are_all_or_nothing ScriptedStore.executor
    ((Builder.new ⟨"User"⟩ .default).step .select) _ byNames inOrder
  obtain ⟨outcome, ran, verdict⟩ := lists ⟨.new unevenScript, []⟩ _ _ _ _ rfl rfl
  have fullDecodes : ∀ f ∈ [(⟨Int64, idField⟩ : AnyField), ⟨String, nameField⟩],
      f.2.Decodes fullRow := by
    simp only [List.forall_mem_cons]
    exact ⟨⟨.int 1, 1, rfl, rfl⟩, ⟨.text "alice", "alice", rfl, rfl⟩, by simp⟩
  have shortFails : FirstFault [⟨Int64, idField⟩, ⟨String, nameField⟩] shortRow
      (.decode "name" "no such column") :=
    .mk ⟨String, nameField⟩ .noSuchColumn
      ⟨[⟨Int64, idField⟩], [], rfl, by simpa using ⟨.int 3, 3, rfl, rfl⟩⟩ (.absent rfl)
  have failed := (verdict.fails _).mpr
    ⟨shortRow, ⟨[fullRow], [], rfl, by simpa using fullDecodes⟩, shortFails⟩
  refine ⟨inOrder, ⟨_, failed ▸ ran⟩, (names shortRow "id").1 0 ⟨rfl, by simp⟩, ?_⟩
  exact (names shortRow "name").2.2 (.inr ⟨2, ⟨rfl, by decide⟩, by decide⟩)

end Builder

end Inquiry
