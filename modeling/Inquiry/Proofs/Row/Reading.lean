import Inquiry.Proofs.Builder.Clauses
import Inquiry.Row

set_option autoImplicit false

namespace Inquiry

universe u

variable {α β κ : Type}

def Reached {ω : Type u} (passes : ω → Prop) (xs : List ω) (x : ω) : Prop :=
  ∃ before after, xs = before ++ x :: after ∧ ∀ y ∈ before, passes y

theorem reached_cons_iff {ω : Type u} (passes : ω → Prop) (y : ω) (xs : List ω) (x : ω) :
    Reached passes (y :: xs) x ↔ x = y ∨ passes y ∧ Reached passes xs x := by
  constructor
  · rintro ⟨before, after, split, earlier⟩
    cases before with
    | nil => exact .inl (List.cons.inj split).1.symm
    | cons first before =>
        obtain ⟨rfl, rfl⟩ := List.cons.inj split
        obtain ⟨passed, others⟩ := List.forall_mem_cons.mp earlier
        exact .inr ⟨passed, before, after, rfl, others⟩
  · rintro (rfl | ⟨passed, before, after, rfl, earlier⟩)
    · exact ⟨[], xs, rfl, by simp⟩
    · exact ⟨y :: before, after, rfl, List.forall_mem_cons.mpr ⟨passed, earlier⟩⟩

def Column.fault (c : Column) (fault : DecodeFault) : QueryError := .decode c.text fault.message

theorem Row.decode_with_eq (decode : Value → Except DecodeFault κ) (column : Column) (r : Row) :
    r.decodeWith decode column =
      ((r.lookup? column).elim (.error .noSuchColumn) decode).mapError column.fault := by
  rw [decodeWith]
  cases r.lookup? column with
  | none => rfl
  | some v =>
      dsimp only [Option.elim_some]
      cases decode v <;> rfl

abbrev AnyField := (κ : Type) × Field κ

namespace Field

def Decodes (f : Field κ) (r : Row) : Prop :=
  ∃ v a, r.lookup? f.column = some v ∧ f.decode v = .ok a

inductive Fails (f : Field κ) (r : Row) : DecodeFault → Prop
  | absent (missing : r.lookup? f.column = none) : Fails f r .noSuchColumn
  | unread (v : Value) (fault : DecodeFault) (found : r.lookup? f.column = some v)
      (failed : f.decode v = .error fault) : Fails f r fault

def read (f : Field κ) (r : Row) : Outcome κ := r.decodeWith f.decode f.column

theorem read_ok_iff (f : Field κ) (r : Row) (a : κ) :
    f.read r = .ok a ↔ ∃ v, r.lookup? f.column = some v ∧ f.decode v = .ok a := by
  rw [read, r.decode_with_eq]
  cases r.lookup? f.column with
  | none => simp [Except.mapError]
  | some v => cases decoded : f.decode v <;> simp [Except.mapError, decoded]

theorem decodes_iff (f : Field κ) (r : Row) : f.Decodes r ↔ ∃ a, f.read r = .ok a := by
  simp only [Decodes, read_ok_iff]
  exact exists_comm

theorem read_error_iff (f : Field κ) (r : Row) (e : QueryError) :
    f.read r = .error e ↔ ∃ fault, f.Fails r fault ∧ e = f.column.fault fault := by
  rw [read, r.decode_with_eq]
  constructor
  · intro failed
    cases found : r.lookup? f.column with
    | none =>
        rw [found] at failed
        exact ⟨_, .absent found, (Except.error.inj failed).symm⟩
    | some v =>
        rw [found, Option.elim_some] at failed
        cases decoded : f.decode v with
        | ok a =>
            rw [decoded] at failed
            cases failed
        | error fault =>
            rw [decoded] at failed
            exact ⟨fault, .unread v fault found decoded, (Except.error.inj failed).symm⟩
  · rintro ⟨fault, failure, rfl⟩
    cases failure with
    | absent missing =>
        rw [missing]
        rfl
    | unread v fault found decoded =>
        rw [found, Option.elim_some, decoded]
        rfl

end Field

namespace RowDecoder

-- A decoder that reads fields one after another, and makes something of them that does not fail.
inductive InOrder : List AnyField → RowDecoder α → Prop
  | made (item : Row → α) : InOrder [] fun r => .ok (item r)
  | field {κ : Type} (f : Field κ) (rest : List AnyField) (next : κ → RowDecoder α)
      (others : ∀ k, InOrder rest (next k)) :
      InOrder (⟨κ, f⟩ :: rest) fun r => f.read r >>= fun k => next k r

theorem in_order_map (f : α → β) (fs : List AnyField) (decode : RowDecoder α)
    (inOrder : InOrder fs decode) : InOrder fs (decode.map f) := by
  induction inOrder with
  | made item => exact .made fun r => f (item r)
  | field g rest next others ih =>
      have pushed : (RowDecoder.map f fun r => g.read r >>= fun k => next k r) =
          fun r => g.read r >>= fun k => (next k).map f r := by
        funext r
        rw [RowDecoder.map]
        cases g.read r <;> rfl
      rw [pushed]
      exact .field g rest _ ih

theorem row_in_order : InOrder [] row := .made id

theorem fields_in_order (fs : List (Field α)) :
    InOrder (fs.map fun f => (⟨α, f⟩ : AnyField)) (fields fs) := by
  induction fs with
  | nil => exact .made fun _ => []
  | cons f rest ih =>
      have unfolded : fields (f :: rest) =
          fun r => f.read r >>= fun a => (fields rest).map (a :: ·) r := by
        funext r
        rw [fields, List.mapM_cons]
        refine bind_congr fun a => ?_
        change (fields rest r >>= fun items => .ok (a :: items)) = (fields rest r).map (a :: ·)
        cases fields rest r <;> rfl
      rw [unfolded]
      exact .field f _ _ fun a => in_order_map (a :: ·) _ _ ih

def member (κ : Type) [FromValue κ] (n : Nat) : AnyField := ⟨κ, .position n, fromValue⟩

theorem first_in_order [FromValue α] : InOrder [member α 0] (first : RowDecoder α) := by
  have unfolded : (first : RowDecoder α) =
      fun r => (member α 0).2.read r >>= fun a => (fun _ => .ok a : RowDecoder α) r := by
    funext r
    exact (bind_pure ((member α 0).2.read r)).symm
  rw [unfolded]
  exact .field _ _ _ fun a => .made fun _ => a

theorem tuples_in_order {γ δ : Type} [FromValue α] [FromValue β] [FromValue γ] [FromValue δ] :
    InOrder [member α 0, member β 1] (pair : RowDecoder (α × β)) ∧
      InOrder [member α 0, member β 1, member γ 2] (triple : RowDecoder (α × β × γ)) ∧
      InOrder [member α 0, member β 1, member γ 2, member δ 3]
        (quadruple : RowDecoder (α × β × γ × δ)) :=
  ⟨.field _ _ _ fun a => .field _ _ _ fun b => .made fun _ => (a, b),
    .field _ _ _ fun a => .field _ _ _ fun b => .field _ _ _ fun c => .made fun _ => (a, b, c),
    .field _ _ _ fun a => .field _ _ _ fun b => .field _ _ _ fun c => .field _ _ _ fun d =>
      .made fun _ => (a, b, c, d)⟩

variable {fs : List AnyField} {decode : RowDecoder α}

theorem in_order_ok_iff (inOrder : InOrder fs decode) (r : Row) :
    (∃ item, decode r = .ok item) ↔ ∀ f ∈ fs, f.2.Decodes r := by
  induction inOrder with
  | made item => simp
  | field f rest next others ih =>
      rw [List.forall_mem_cons, Field.decodes_iff]
      constructor
      · rintro ⟨item, decoded⟩
        obtain ⟨k, first, later⟩ := (Outcome.bind_ok_iff _ _ _).mp decoded
        exact ⟨⟨k, first⟩, (ih k).mp ⟨item, later⟩⟩
      · rintro ⟨⟨k, first⟩, later⟩
        obtain ⟨item, decoded⟩ := (ih k).mpr later
        exact ⟨item, (Outcome.bind_ok_iff _ _ _).mpr ⟨k, first, decoded⟩⟩

inductive FirstFault (fs : List AnyField) (r : Row) : QueryError → Prop
  | mk (f : AnyField) (fault : DecodeFault)
      (reached : Reached (fun g : AnyField => g.2.Decodes r) fs f)
      (failure : f.2.Fails r fault) : FirstFault fs r (f.2.column.fault fault)

theorem in_order_error_iff (inOrder : InOrder fs decode) (r : Row) (e : QueryError) :
    decode r = .error e ↔ FirstFault fs r e := by
  induction inOrder with
  | made item =>
      constructor
      · intro absurd
        cases absurd
      · rintro ⟨f, fault, ⟨before, after, split, -⟩, -⟩
        exact absurd split (by simp)
  | field f rest next others ih =>
      rw [Outcome.bind_error_iff, Field.read_error_iff]
      constructor
      · rintro (⟨fault, failure, rfl⟩ | ⟨k, first, failed⟩)
        · exact .mk ⟨_, f⟩ fault ((reached_cons_iff _ _ _ _).mpr (.inl rfl)) failure
        · have decodes := (f.decodes_iff r).mpr ⟨k, first⟩
          obtain ⟨g, fault, reached, failure⟩ := (ih k).mp failed
          exact .mk g fault ((reached_cons_iff _ _ _ _).mpr (.inr ⟨decodes, reached⟩)) failure
      · rintro ⟨g, fault, reached, failure⟩
        rcases (reached_cons_iff _ _ _ _).mp reached with rfl | ⟨decodes, later⟩
        · exact .inl ⟨fault, failure, rfl⟩
        · obtain ⟨k, first⟩ := (f.decodes_iff r).mp decodes
          exact .inr ⟨k, first, (ih k).mpr (.mk g fault later failure)⟩

end RowDecoder

namespace Row

variable (r : Row) (name : String)

def FirstNamed (i : Nat) : Prop := r.columns[i]? = some name ∧ ∀ j < i, r.columns[j]? ≠ some name

theorem position_of_eq_some_iff (i : Nat) : r.positionOf? name = some i ↔ r.FirstNamed name i := by
  rw [positionOf?, List.findIdx?_eq_some_iff_getElem, FirstNamed]
  constructor
  · rintro ⟨within, here, before⟩
    refine ⟨List.getElem?_eq_some_iff.mpr ⟨within, of_decide_eq_true here⟩, fun j earlier => ?_⟩
    have other := of_decide_eq_false (Bool.eq_false_iff.mpr (before j earlier))
    rw [List.getElem?_eq_getElem (Nat.lt_trans earlier within)]
    exact fun same => other (Option.some.inj same)
  · rintro ⟨here, before⟩
    obtain ⟨within, same⟩ := List.getElem?_eq_some_iff.mp here
    refine ⟨within, decide_eq_true same, fun j earlier => ?_⟩
    have other := before j earlier
    rw [List.getElem?_eq_getElem (Nat.lt_trans earlier within)] at other
    exact fun named => other (congrArg some (of_decide_eq_true named))

theorem position_of_eq_none_iff : r.positionOf? name = none ↔ name ∉ r.columns := by
  rw [positionOf?, List.findIdx?_eq_none_iff]
  constructor
  · intro others member
    exact of_decide_eq_false (others name member) rfl
  · intro missing column member
    exact decide_eq_false fun same => missing (same ▸ member)

theorem lookup_first_named (i : Nat) (first : r.FirstNamed name i) :
    r.lookup? (.name name) = r.lookup? (.position i) := by
  change (r.positionOf? name).bind r.get? = r.get? i
  rw [(r.position_of_eq_some_iff name i).mpr first, Option.bind_some]

theorem lookup_name_eq_none_iff :
    r.lookup? (.name name) = none ↔
      name ∉ r.columns ∨ ∃ i, r.FirstNamed name i ∧ r.values.length ≤ i := by
  rw [← position_of_eq_none_iff]
  cases found : r.positionOf? name with
  | none => simp [lookup?, getNamed?, found]
  | some i =>
      have first := (r.position_of_eq_some_iff name i).mp found
      rw [r.lookup_first_named name i first, lookup?, get?, List.getElem?_eq_none_iff]
      constructor
      · intro short
        exact .inr ⟨i, first, short⟩
      · rintro (absurd | ⟨j, firstToo, short⟩)
        · cases absurd
        · have same := (r.position_of_eq_some_iff name j).mpr firstToo
          rw [found] at same
          exact Option.some.inj same ▸ short

structure SameColumn (one other : Column) : Prop where
  lookup : r.lookup? one = r.lookup? other
  tryGet : ∀ {κ : Type} [FromValue κ], ∃ read : Except DecodeFault κ,
    r.tryGet one = read.mapError one.fault ∧ r.tryGet other = read.mapError other.fault

theorem same_column (one other : Column) (lookup : r.lookup? one = r.lookup? other) :
    r.SameColumn one other where
  lookup := lookup
  tryGet :=
    ⟨(r.lookup? other).elim (.error .noSuchColumn) fromValue,
      lookup ▸ r.decode_with_eq fromValue one, r.decode_with_eq fromValue other⟩

theorem try_get_missing [FromValue κ] (column : Column) (missing : r.lookup? column = none) :
    (r.tryGet column : Outcome κ) = .error (.decode column.text "no such column") := by
  rw [tryGet, decode_with_eq, missing]
  rfl

end Row

end Inquiry
