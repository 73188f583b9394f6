import Inquiry.Value.Codec

set_option autoImplicit false

namespace Inquiry

section

variable (α : Type) [ToValue α]

class Present : Prop where
  written : ∀ a : α, toValue a ≠ .null

variable [FromValue α]

def ReadsBack : Prop := ∀ a : α, fromValue (toValue a) = .ok a

def ReadsExactly : Prop := ∀ (v : Value) (a : α), fromValue v = .ok a ↔ v = toValue a

end

structure ReadsIntegers (α : Type) [FromValue α] (number : α → Int) (low high : Int) : Prop where
  reads : ∀ v : Value,
    (∃ a : α, fromValue v = .ok a) ↔ ∃ n, v = .int n ∧ low ≤ n.toInt ∧ n.toInt < high
  same : ∀ (v : Value) (a : α), fromValue v = .ok a ↔ ∃ n, v = .int n ∧ n.toInt = number a

theorem from_value_present {α : Type} [FromValue α] (v : Value) (present : v ≠ .null) :
    (fromValue v : Except DecodeFault (Option α)) = (fromValue v).map some := by
  cases v with
  | null => exact absurd rfl present
  | _ => rfl

section

variable {α : Type} [ToValue α] [FromValue α]

theorem ReadsExactly.reads_back (exact : ReadsExactly α) : ReadsBack α :=
  fun a => (exact (toValue a) a).mpr rfl

theorem ReadsBack.optional [Present α] (reads : ReadsBack α) : ReadsBack (Option α) := by
  intro content
  cases content with
  | none => rfl
  | some a =>
      have present : toValue (some a) ≠ .null := Present.written a
      rw [from_value_present _ present, show toValue (some a) = toValue a from rfl, reads a]
      rfl

theorem ReadsExactly.optional [Present α] (exact : ReadsExactly α) : ReadsExactly (Option α) := by
  intro v content
  constructor
  · intro read
    by_cases missing : v = .null
    · subst missing
      obtain rfl : none = content := Except.ok.inj read
      rfl
    · rw [from_value_present v missing] at read
      cases inner : (fromValue v : Except DecodeFault α) with
      | error fault => rw [inner] at read; cases read
      | ok a =>
          rw [inner] at read
          obtain rfl : some a = content := Except.ok.inj read
          exact (exact v a).mp inner
  · rintro rfl
    exact exact.reads_back.optional content

end

instance : Present Int64 := ⟨nofun⟩
instance : Present Int32 := ⟨nofun⟩
instance : Present Float := ⟨nofun⟩
instance : Present Bool := ⟨nofun⟩
instance : Present String := ⟨nofun⟩
instance : Present Uuid := ⟨nofun⟩
instance : Present Timestamp := ⟨nofun⟩
instance : Present Date := ⟨nofun⟩
instance : Present Json := ⟨nofun⟩

section

variable {α : Type} [FromValue α] (number : α → Int) (low high : Int)
  (narrow : Int64 → Except DecodeFault α)

theorem reads_integers
    (through : ∀ v, (fromValue v : Except DecodeFault α) = (fromValue v).bind narrow)
    (narrowed : ∀ n a, narrow n = .ok a ↔ n.toInt = number a)
    (bounded : ∀ a, low ≤ number a ∧ number a < high)
    (covers : ∀ k, low ≤ k → k < high → ∃ a, number a = k) : ReadsIntegers α number low high := by
  have same (v : Value) (a : α) : fromValue v = .ok a ↔ ∃ n, v = .int n ∧ n.toInt = number a := by
    rw [through]
    cases v <;> simp [fromValue, Except.bind, narrowed]
  refine ⟨fun v => ?_, same⟩
  simp only [same]
  constructor
  · rintro ⟨a, n, rfl, equal⟩
    exact ⟨n, rfl, equal ▸ bounded a⟩
  · rintro ⟨n, rfl, above, below⟩
    obtain ⟨a, equal⟩ := covers n.toInt above below
    exact ⟨a, n, rfl, equal.symm⟩

end

theorem int32_reads_integers : ReadsIntegers Int32 Int32.toInt (-2147483648) 2147483648 := by
  refine reads_integers _ _ _ (fun n =>
    if Int32.minValue.toInt ≤ n.toInt ∧ n.toInt ≤ Int32.maxValue.toInt then
      .ok (Int32.ofInt n.toInt) else .error .outOfRange) (fun v => by cases v <;> rfl) ?_ ?_ ?_
  · intro n k
    have low := k.minValue_le_toInt
    have high := k.toInt_le
    constructor
    · intro narrowed
      split at narrowed
      · next fits =>
          obtain rfl := Except.ok.inj narrowed
          exact (Int32.toInt_ofInt_of_le fits.1 (Int.lt_of_le_of_lt fits.2 (by decide))).symm
      · cases narrowed
    · intro equal
      simp only [equal, low, high, and_self, if_true, Int32.ofInt_toInt]
  · exact fun k => ⟨k.le_toInt, k.toInt_lt⟩
  · exact fun k low high => ⟨Int32.ofInt k, Int32.toInt_ofInt_of_le low high⟩

theorem uint64_reads_integers : ReadsIntegers UInt64 (fun k => k.toNat) 0 18446744073709551616 := by
  refine reads_integers _ _ _ (fun n =>
    if 0 ≤ n.toInt then .ok (UInt64.ofNat n.toInt.toNat) else .error .outOfRange)
    (fun v => by cases v <;> rfl) ?_ ?_ ?_
  · intro n k
    have small := n.toInt_lt
    constructor
    · intro narrowed
      split at narrowed
      · next positive =>
          obtain rfl := Except.ok.inj narrowed
          have fits : n.toInt.toNat < UInt64.size := by
            change _ < 2 ^ 64
            omega
          rw [UInt64.toNat_ofNat_of_lt' fits]
          omega
      · cases narrowed
    · intro equal
      simp only [equal, Int.natCast_nonneg, if_true, Int.toNat_natCast, UInt64.ofNat_toNat]
  · intro k
    have small := k.toNat_lt
    omega
  · intro k low high
    refine ⟨UInt64.ofNat k.toNat, ?_⟩
    rw [UInt64.toNat_ofNat_of_lt' (by change _ < 2 ^ 64; omega)]
    omega

theorem int32_reads_exactly : ReadsExactly Int32 := by
  intro v k
  rw [int32_reads_integers.same]
  constructor
  · rintro ⟨n, rfl, equal⟩
    rw [← Int32.toInt_toInt64, Int64.toInt_inj] at equal
    rw [equal]
    rfl
  · rintro rfl
    exact ⟨k.toInt64, rfl, k.toInt_toInt64⟩

theorem single_kinds_read_exactly :
    ReadsExactly Int64 ∧ ReadsExactly Bool ∧ ReadsExactly String ∧ ReadsExactly Timestamp ∧
      ReadsExactly Date ∧ ReadsExactly Json := by
  refine ⟨?_, ?_, ?_, ?_, ?_, ?_⟩ <;> intro v a <;> cases v <;> simp [fromValue, toValue]

theorem reading_undoes_writing :
    (ReadsBack Int64 ∧ ReadsBack Int32 ∧ ReadsBack Float ∧ ReadsBack Bool ∧ ReadsBack String ∧
      ReadsBack Uuid ∧ ReadsBack Timestamp ∧ ReadsBack Date ∧ ReadsBack Json) ∧
    (ReadsBack (Option Int64) ∧ ReadsBack (Option Int32) ∧ ReadsBack (Option Float) ∧
      ReadsBack (Option Bool) ∧ ReadsBack (Option String) ∧ ReadsBack (Option Uuid) ∧
      ReadsBack (Option Timestamp) ∧ ReadsBack (Option Date) ∧ ReadsBack (Option Json)) ∧
    (ReadsExactly Int64 ∧ ReadsExactly Int32 ∧ ReadsExactly Bool ∧ ReadsExactly String ∧
      ReadsExactly Timestamp ∧ ReadsExactly Date ∧ ReadsExactly Json) ∧
    (ReadsExactly (Option Int64) ∧ ReadsExactly (Option Int32) ∧ ReadsExactly (Option Bool) ∧
      ReadsExactly (Option String) ∧ ReadsExactly (Option Timestamp) ∧
      ReadsExactly (Option Date) ∧ ReadsExactly (Option Json)) ∧
    ReadsIntegers Int32 Int32.toInt (-2147483648) 2147483648 ∧
    ReadsIntegers UInt64 (fun k => k.toNat) 0 18446744073709551616 := by
  obtain ⟨int64, bool, string, timestamp, date, json⟩ := single_kinds_read_exactly
  have int32 := int32_reads_exactly
  have float : ReadsBack Float := fun _ => rfl
  have uuid : ReadsBack Uuid := fun _ => rfl
  refine ⟨?_, ?_, ?_, ?_, int32_reads_integers, uint64_reads_integers⟩
  · exact ⟨int64.reads_back, int32.reads_back, float, bool.reads_back, string.reads_back, uuid,
      timestamp.reads_back, date.reads_back, json.reads_back⟩
  · exact ⟨int64.reads_back.optional, int32.reads_back.optional, float.optional,
      bool.reads_back.optional, string.reads_back.optional, uuid.optional,
      timestamp.reads_back.optional, date.reads_back.optional, json.reads_back.optional⟩
  · exact ⟨int64, int32, bool, string, timestamp, date, json⟩
  · exact ⟨int64.optional, int32.optional, bool.optional, string.optional, timestamp.optional,
      date.optional, json.optional⟩

end Inquiry
