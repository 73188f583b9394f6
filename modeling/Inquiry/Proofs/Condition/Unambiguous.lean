import Inquiry.Proofs.Condition.Skeleton

set_option autoImplicit false

namespace Inquiry

def isWordChar (c : Char) : Bool := c.isAlphanum || c = '_'

def Word (s : String) : Prop := ∀ c ∈ s.toList, isWordChar c = true

instance (s : String) : Decidable (Word s) :=
  List.decidableBAll (fun c => isWordChar c = true) s.toList

def Arity.Admits : Arity → Nat → Prop
  | none, n => n = 0
  | one, n => n = 1
  | two, n => n = 2
  | list, n => 0 < n

namespace Skeleton

mutual
def Proper : Skeleton → Prop
  | nothing => True
  | constant _ => True
  | comparison aliasName column op n => Word aliasName ∧ Word column ∧ op.arity.Admits n
  | group connective entries =>
      entries ≠ [] ∧ (connective.isSome = true ↔ 2 ≤ entries.length) ∧ ProperAll entries
  | negation child => Proper child

def ProperAll : List Skeleton → Prop
  | [] => True
  | s :: rest => Proper s ∧ ProperAll rest
end

-- What may stand behind a condition: nothing, the end of a group, or a connective.
def Follows (x : List Char) : Prop := ∀ c rest, x = c :: rest → c = ' ' ∨ c = ')'

theorem follows_nil : Follows [] := by
  intro c rest eq
  cases eq

theorem follows_close (x : List Char) : Follows (')' :: x) := by
  intro c rest eq
  exact .inr (List.cons.inj eq).1.symm

theorem follows_space (x : List Char) : Follows (' ' :: x) := by
  intro c rest eq
  exact .inl (List.cons.inj eq).1.symm

theorem word_split (w v : List Char) (a b : Char) (x y : List Char)
    (word : ∀ c ∈ w, isWordChar c = true) (other : ∀ c ∈ v, isWordChar c = true)
    (stopA : isWordChar a = false) (stopB : isWordChar b = false)
    (eq : w ++ a :: x = v ++ b :: y) : w = v ∧ a = b ∧ x = y := by
  induction w generalizing v with
  | nil =>
      cases v with
      | nil =>
          obtain ⟨rfl, rfl⟩ := List.cons.inj eq
          exact ⟨rfl, rfl, rfl⟩
      | cons d v =>
          obtain ⟨rfl, -⟩ := List.cons.inj eq
          simp [other a List.mem_cons_self] at stopA
  | cons c w ih =>
      cases v with
      | nil =>
          obtain ⟨rfl, -⟩ := List.cons.inj eq
          simp [word c List.mem_cons_self] at stopB
      | cons d v =>
          obtain ⟨rfl, rest⟩ := List.cons.inj eq
          obtain ⟨rfl, stops, tails⟩ := ih v
            (fun c member => word c (List.mem_cons_of_mem _ member))
            (fun c member => other c (List.mem_cons_of_mem _ member)) rest
          exact ⟨rfl, stops, tails⟩

theorem keyword_goes_on (op other : Operator)
    (begins : op.keyword.toList.isPrefixOf other.keyword.toList = true) :
    op = other ∨ ((other.keyword.toList.drop op.keyword.toList.length).head?.any
      fun c => c ≠ ' ' && c ≠ ')') = true := by
  revert begins
  cases op <;> cases other <;> decide

theorem keyword_extends (op other : Operator) (x y d : List Char)
    (longer : other.keyword.toList = op.keyword.toList ++ d) (split : x = d ++ y)
    (follows : Follows x) : op = other ∧ x = y := by
  have begins : op.keyword.toList.isPrefixOf other.keyword.toList = true := by
    rw [List.isPrefixOf_iff_prefix]
    exact ⟨d, longer.symm⟩
  rcases keyword_goes_on op other begins with rfl | goesOn
  · have none : d = [] := List.self_eq_append_right.mp longer
    rw [none, List.nil_append] at split
    exact ⟨rfl, split⟩
  · rw [longer, List.drop_left] at goesOn
    cases d with
    | nil => cases goesOn
    | cons c rest =>
        have apart : c ≠ ' ' ∧ c ≠ ')' := by simpa using goesOn
        rcases follows c (rest ++ y) split with space | close
        · exact absurd space apart.1
        · exact absurd close apart.2

theorem keyword_unique (op other : Operator) (x y : List Char) (followsX : Follows x)
    (followsY : Follows y) (eq : op.keyword.toList ++ x = other.keyword.toList ++ y) :
    op = other ∧ x = y := by
  rcases List.append_eq_append_iff.mp eq with ⟨d, longer, split⟩ | ⟨d, longer, split⟩
  · exact keyword_extends op other x y d longer split followsX
  · obtain ⟨rfl, rfl⟩ := keyword_extends other op y x d longer split followsY
    exact ⟨rfl, rfl⟩

theorem marks_one (index : Nat) : marks index 1 = mark index := by
  rw [marks, List.range'_one, List.map_singleton, List.intercalate_singleton]

theorem marks_more (index n : Nat) :
    marks index (n + 2) = mark index ++ ',' :: ' ' :: marks (index + 1) (n + 1) := by
  simp only [marks, List.range'_succ, List.map_cons, List.intercalate_cons_cons, List.append_assoc]
  rfl

theorem marks_unique (index n m : Nat) (x y : List Char)
    (eq : marks index (n + 1) ++ ')' :: x = marks index (m + 1) ++ ')' :: y) :
    n = m ∧ x = y := by
  induction n generalizing index m with
  | zero =>
      cases m with
      | zero => exact ⟨rfl, (List.cons.inj (List.append_cancel_left eq)).2⟩
      | succ m =>
          rw [marks_one, marks_more, List.append_assoc] at eq
          cases List.append_cancel_left eq
  | succ n ih =>
      cases m with
      | zero =>
          rw [marks_one, marks_more, List.append_assoc] at eq
          cases List.append_cancel_left eq
      | succ m =>
          rw [marks_more, marks_more, List.append_assoc, List.append_assoc] at eq
          have later := List.append_cancel_left eq
          simp only [List.cons_append, List.cons.injEq, true_and] at later
          obtain ⟨same, tails⟩ := ih (index + 1) m later
          exact ⟨congrArg Nat.succ same, tails⟩

theorem operand_unique (arity : Arity) (index n m : Nat) (x y : List Char)
    (admits : arity.Admits n) (admitsToo : arity.Admits m)
    (eq : operandChars arity index n ++ x = operandChars arity index m ++ y) : n = m ∧ x = y := by
  cases arity with
  | none => exact ⟨admits.trans admitsToo.symm, eq⟩
  | one => exact ⟨admits.trans admitsToo.symm, List.append_cancel_left eq⟩
  | two => exact ⟨admits.trans admitsToo.symm, List.append_cancel_left eq⟩
  | list =>
      obtain ⟨n, rfl⟩ := Nat.exists_eq_add_one.mpr admits
      obtain ⟨m, rfl⟩ := Nat.exists_eq_add_one.mpr admitsToo
      obtain ⟨same, tails⟩ := marks_unique index n m x y (by simpa [operandChars] using eq)
      exact ⟨congrArg Nat.succ same, tails⟩

theorem operand_follows (arity : Arity) (index n : Nat) (x : List Char) (follows : Follows x) :
    Follows (operandChars arity index n ++ x) := by
  cases arity with
  | none => exact follows
  | _ => exact follows_space _

theorem comparison_unique (aliasName other column columnToo : String) (op opToo : Operator)
    (index n m : Nat) (x y : List Char)
    (proper : (comparison aliasName column op n).Proper)
    (properToo : (comparison other columnToo opToo m).Proper)
    (followsX : Follows x) (followsY : Follows y)
    (eq : (comparison aliasName column op n).chars index ++ x =
      (comparison other columnToo opToo m).chars index ++ y) :
    comparison aliasName column op n = comparison other columnToo opToo m ∧ x = y := by
  obtain ⟨aliasWord, columnWord, admits⟩ := proper
  obtain ⟨otherWord, columnTooWord, admitsToo⟩ := properToo
  simp only [chars, List.append_assoc, List.cons_append] at eq
  obtain ⟨aliases, -, columns⟩ := word_split _ _ '.' '.' _ _ aliasWord otherWord rfl rfl eq
  obtain ⟨names, -, operands⟩ := word_split _ _ ' ' ' ' _ _ columnWord columnTooWord rfl rfl columns
  obtain ⟨rfl, operands⟩ := keyword_unique op opToo _ _ (operand_follows _ index n x followsX)
    (operand_follows _ index m y followsY) operands
  obtain ⟨rfl, rfl⟩ := operand_unique op.arity index n m x y admits admitsToo operands
  rw [String.toList_inj.mp aliases, String.toList_inj.mp names]
  exact ⟨rfl, rfl⟩

def lead : Skeleton → List Char
  | nothing => []
  | constant _ => ['1']
  | comparison aliasName _ _ _ => aliasName.toList
  | group _ _ => []
  | negation _ => "NOT".toList

def stop : Skeleton → Char
  | nothing => ')'
  | constant _ => '='
  | comparison _ _ _ _ => '.'
  | group _ _ => '('
  | negation _ => ' '

theorem chars_split (s : Skeleton) (filled : s ≠ nothing) (index : Nat) :
    ∃ behind, s.chars index = s.lead ++ s.stop :: behind := by
  cases s with
  | nothing => exact absurd rfl filled
  | constant truth => cases truth <;> exact ⟨_, rfl⟩
  | comparison aliasName column op n => exact ⟨_, by rw [chars, lead, stop]⟩
  | group connective entries => exact ⟨_, by rw [chars, lead, stop]; rfl⟩
  | negation child => exact ⟨_, by rw [chars, lead, stop]; rfl⟩

theorem lead_word (s : Skeleton) (proper : s.Proper) : ∀ c ∈ s.lead, isWordChar c = true := by
  cases s with
  | nothing => simp [lead]
  | constant truth => simp [lead]; decide
  | comparison aliasName column op n => exact proper.1
  | group connective entries => simp [lead]
  | negation child => simp [lead]; decide

theorem stop_no_word (s : Skeleton) : isWordChar s.stop = false := by
  cases s <;> rfl

theorem stop_unique (s t : Skeleton) (index : Nat) (x y : List Char) (someS : s ≠ nothing)
    (someT : t ≠ nothing) (properS : s.Proper) (properT : t.Proper)
    (eq : s.chars index ++ x = t.chars index ++ y) : s.stop = t.stop := by
  obtain ⟨behindS, splitS⟩ := chars_split s someS index
  obtain ⟨behindT, splitT⟩ := chars_split t someT index
  rw [splitS, splitT, List.append_assoc, List.append_assoc] at eq
  exact (word_split _ _ _ _ _ _ (lead_word s properS) (lead_word t properT) (stop_no_word s)
    (stop_no_word t) eq).2.1

theorem filled_no_follower (s : Skeleton) (filled : s ≠ nothing) (proper : s.Proper) (index : Nat)
    (x : List Char) : ¬ Follows (s.chars index ++ x) := by
  intro follows
  obtain ⟨behind, split⟩ := chars_split s filled index
  rw [split, List.append_assoc] at follows
  have word := lead_word s proper
  cases begun : s.lead with
  | cons c rest =>
      rw [begun] at follows word
      have inWord := word c List.mem_cons_self
      rcases follows c _ rfl with rfl | rfl
      · cases inWord
      · cases inWord
  | nil =>
      rw [begun] at follows
      have ends := follows s.stop (behind ++ x) rfl
      cases s with
      | nothing => exact filled rfl
      | negation child => cases begun
      | constant truth => cases begun
      | comparison aliasName column op n => simp [stop] at ends
      | group connective entries => simp [stop] at ends

theorem separator_unique (c d : Option Connective) (x y : List Char) (someC : c.isSome = true)
    (someD : d.isSome = true) (eq : separator c ++ x = separator d ++ y) : c = d ∧ x = y := by
  obtain ⟨connective, rfl⟩ := Option.isSome_iff_exists.mp someC
  obtain ⟨other, rfl⟩ := Option.isSome_iff_exists.mp someD
  cases connective <;> cases other
  · exact ⟨rfl, List.append_cancel_left eq⟩
  · simp [separator, Connective.text] at eq
  · simp [separator, Connective.text] at eq
  · exact ⟨rfl, List.append_cancel_left eq⟩

theorem separator_opens (c : Option Connective) (someC : c.isSome = true) :
    ∃ rest, separator c = ' ' :: rest := by
  obtain ⟨connective, rfl⟩ := Option.isSome_iff_exists.mp someC
  cases connective <;> exact ⟨_, rfl⟩

theorem constant_unique (truth other : Bool) (index : Nat) (x y : List Char)
    (eq : (constant truth).chars index ++ x = (constant other).chars index ++ y) :
    constant truth = constant other ∧ x = y := by
  cases truth <;> cases other
  · exact ⟨rfl, List.append_cancel_left eq⟩
  · simp [chars] at eq
  · simp [chars] at eq
  · exact ⟨rfl, List.append_cancel_left eq⟩

theorem group_connective (c d : Option Connective) (es : List Skeleton)
    (properC : (group c es).Proper) (properD : (group d es).Proper)
    (joined : 2 ≤ es.length → c = d) : c = d := by
  by_cases two : 2 ≤ es.length
  · exact joined two
  · have noneC : ¬ c.isSome = true := two ∘ properC.2.1.mp
    have noneD : ¬ d.isSome = true := two ∘ properD.2.1.mp
    rw [Option.not_isSome_iff_eq_none.mp noneC, Option.not_isSome_iff_eq_none.mp noneD]

theorem separator_follows (c : Option Connective) (someC : c.isSome = true) (x : List Char) :
    Follows (separator c ++ x) := by
  obtain ⟨rest, opens⟩ := separator_opens c someC
  rw [opens]
  exact follows_space _

theorem separator_no_close (c : Option Connective) (someC : c.isSome = true) (x y : List Char) :
    ')' :: x ≠ separator c ++ y := by
  obtain ⟨rest, opens⟩ := separator_opens c someC
  rw [opens]
  simp

theorem entries_one (sep : List Char) (index : Nat) (s : Skeleton) :
    List.intercalate sep (charsOfEach index [s]) = s.chars index := by
  rw [charsOfEach, charsOfEach, List.intercalate_singleton]

theorem entries_more (sep : List Char) (index : Nat) (s t : Skeleton) (rest : List Skeleton) :
    List.intercalate sep (charsOfEach index (s :: t :: rest)) =
      s.chars index ++
        (sep ++ List.intercalate sep (charsOfEach (index + s.bound) (t :: rest))) := by
  simp only [charsOfEach, List.intercalate_cons_cons, List.append_assoc]

mutual
-- The induction is on the first skeleton. Behind it may stand any text that follows a condition, so
-- that the entries of a group and what closes it are told apart one after the other.
theorem chars_unique (s t : Skeleton) (index : Nat) (x y : List Char) (properS : s.Proper)
    (properT : t.Proper) (followsX : Follows x) (followsY : Follows y)
    (eq : s.chars index ++ x = t.chars index ++ y) : s = t ∧ x = y := by
  by_cases leftS : s = nothing
  · subst leftS
    by_cases leftT : t = nothing
    · subst leftT
      exact ⟨rfl, eq⟩
    · rw [chars, List.nil_append] at eq
      exact absurd (eq ▸ followsX) (filled_no_follower t leftT properT index y)
  · by_cases leftT : t = nothing
    · subst leftT
      rw [chars, List.nil_append] at eq
      exact absurd (eq ▸ followsY) (filled_no_follower s leftS properS index x)
    · have stops := stop_unique s t index x y leftS leftT properS properT eq
      cases s with
      | nothing => exact absurd rfl leftS
      | constant truth =>
          cases t with
          | constant other => exact constant_unique truth other index x y eq
          | _ => cases stops
      | comparison aliasName column op n =>
          cases t with
          | comparison other columnToo opToo m =>
              exact comparison_unique _ _ _ _ _ _ index n m x y properS properT followsX followsY eq
          | _ => cases stops
      | group c es =>
          cases t with
          | group d fs =>
              have inner : List.intercalate (separator c) (charsOfEach index es) ++ ')' :: x =
                  List.intercalate (separator d) (charsOfEach index fs) ++ ')' :: y := by
                simpa [chars] using eq
              obtain ⟨rfl, rfl, joined⟩ := entries_unique es fs c d index x y properS.2.2
                properT.2.2 properS.1 properT.1 properS.2.1.mpr properT.2.1.mpr inner
              obtain rfl := group_connective c d es properS properT joined
              exact ⟨rfl, rfl⟩
          | _ => cases stops
      | negation child =>
          cases t with
          | negation other =>
              have inner : child.chars index ++ ')' :: x = other.chars index ++ ')' :: y := by
                simpa [chars] using eq
              obtain ⟨rfl, ends⟩ := chars_unique child other index _ _ properS properT
                (follows_close x) (follows_close y) inner
              exact ⟨rfl, (List.cons.inj ends).2⟩
          | _ => cases stops

theorem entries_unique (es fs : List Skeleton) (c d : Option Connective) (index : Nat)
    (x y : List Char) (properE : ProperAll es) (properF : ProperAll fs) (someE : es ≠ [])
    (someF : fs ≠ []) (joinedE : 2 ≤ es.length → c.isSome = true)
    (joinedF : 2 ≤ fs.length → d.isSome = true)
    (eq : List.intercalate (separator c) (charsOfEach index es) ++ ')' :: x =
      List.intercalate (separator d) (charsOfEach index fs) ++ ')' :: y) :
    es = fs ∧ x = y ∧ (2 ≤ es.length → c = d) := by
  cases es with
  | nil => exact absurd rfl someE
  | cons e es =>
      cases fs with
      | nil => exact absurd rfl someF
      | cons f fs =>
          cases es with
          | nil =>
              cases fs with
              | nil =>
                  rw [entries_one, entries_one] at eq
                  obtain ⟨rfl, ends⟩ := chars_unique e f index _ _ properE.1 properF.1
                    (follows_close x) (follows_close y) eq
                  exact ⟨rfl, (List.cons.inj ends).2, fun two => absurd two (by simp)⟩
              | cons f' fs =>
                  have someD := joinedF (by simp)
                  rw [entries_one, entries_more, List.append_assoc, List.append_assoc] at eq
                  obtain ⟨-, ends⟩ := chars_unique e f index _ _ properE.1 properF.1
                    (follows_close x) (separator_follows d someD _) eq
                  exact absurd ends (separator_no_close d someD x _)
          | cons e' es =>
              have someC := joinedE (by simp)
              cases fs with
              | nil =>
                  rw [entries_one, entries_more, List.append_assoc, List.append_assoc] at eq
                  obtain ⟨-, ends⟩ := chars_unique e f index _ _ properE.1 properF.1
                    (separator_follows c someC _) (follows_close y) eq
                  exact absurd ends.symm (separator_no_close c someC y _)
              | cons f' fs =>
                  have someD := joinedF (by simp)
                  rw [entries_more, entries_more, List.append_assoc, List.append_assoc,
                    List.append_assoc, List.append_assoc] at eq
                  obtain ⟨rfl, later⟩ := chars_unique e f index _ _ properE.1 properF.1
                    (separator_follows c someC _) (separator_follows d someD _) eq
                  obtain ⟨rfl, tails⟩ := separator_unique c d _ _ someC someD later
                  obtain ⟨rest, rfl, -⟩ := entries_unique (e' :: es) (f' :: fs) c c _ x y properE.2
                    properF.2 (by simp) (by simp) (fun _ => someC) (fun _ => someC) tails
                  exact ⟨congrArg (e :: ·) rest, rfl, fun _ => rfl⟩
end

theorem of_leaf_proper (aliases : AliasMap) (l : Leaf) (fits : l.operand.fits l.op.arity = true)
    (aliasWord : Word (l.aliasIn aliases)) (columnWord : Word l.column) :
    (ofLeaf aliases l).Proper := by
  have arity := (l.operand.fits_iff l.op.arity).mp fits
  rw [ofLeaf]
  split
  · trivial
  · next operand filled =>
      refine ⟨aliasWord, columnWord, ?_⟩
      rw [arity]
      cases given : l.operand with
      | none => rfl
      | single v => rfl
      | pair a b => rfl
      | list v =>
          cases v with
          | list items =>
              cases items with
              | nil => exact absurd given filled
              | cons item rest => exact Nat.succ_pos _
          | _ => exact Nat.one_pos

theorem grouped_proper (connective : Connective) (entries : List Skeleton) (filled : entries ≠ [])
    (each : ProperAll entries) : (grouped connective entries).Proper := by
  refine ⟨filled, ?_, each⟩
  by_cases two : 2 ≤ entries.length <;> simp [two]

theorem of_kept_nil (aliases : AliasMap) (ps : List Predicate) (none : ofKept aliases ps = []) :
    ps.all Predicate.drops = true := by
  induction ps with
  | nil => rfl
  | cons p rest ih =>
      rw [ofKept] at none
      by_cases drops : p.drops = true
      · rw [if_pos drops] at none
        rw [List.all_cons, drops, ih none]
        rfl
      · rw [if_neg drops] at none
        cases none

def Worded (aliases : AliasMap) (ls : List Leaf) : Prop :=
  ∀ l ∈ ls, Word (l.aliasIn aliases) ∧ Word l.column

instance (aliases : AliasMap) (ls : List Leaf) : Decidable (Worded aliases ls) :=
  List.decidableBAll (fun l : Leaf => Word (l.aliasIn aliases) ∧ Word l.column) ls

mutual
theorem of_predicate_proper (aliases : AliasMap) (p : Predicate) (fits : p.Fits)
    (worded : Worded aliases p.leaves) : (ofPredicate aliases p).Proper := by
  cases p with
  | simple l =>
      have words := worded l List.mem_cons_self
      rw [ofPredicate]
      split
      · exact of_leaf_proper aliases l (fits l List.mem_cons_self) words.1 words.2
      · trivial
  | conjunction ps =>
      rw [ofPredicate]
      split
      · trivial
      · next left =>
          refine grouped_proper .and _ ?_ (of_kept_proper aliases ps fits worded)
          exact fun none => left (of_kept_nil aliases ps none)
  | disjunction ps =>
      rw [ofPredicate]
      split
      · trivial
      · next left =>
          refine grouped_proper .or _ ?_ (of_each_proper aliases ps fits worded)
          rintro none
          cases ps with
          | nil => exact left rfl
          | cons p rest => cases none
  | negation p => exact of_predicate_proper aliases p fits worded

theorem of_each_proper (aliases : AliasMap) (ps : List Predicate)
    (fits : ∀ l ∈ Predicate.leavesOfAll ps, l.operand.fits l.op.arity = true)
    (worded : Worded aliases (Predicate.leavesOfAll ps)) : ProperAll (ofEach aliases ps) := by
  cases ps with
  | nil => trivial
  | cons p rest =>
      refine ⟨of_predicate_proper aliases p ?_ ?_, of_each_proper aliases rest ?_ ?_⟩
      · exact fun l member => fits l (List.mem_append_left _ member)
      · exact fun l member => worded l (List.mem_append_left _ member)
      · exact fun l member => fits l (List.mem_append_right _ member)
      · exact fun l member => worded l (List.mem_append_right _ member)

theorem of_kept_proper (aliases : AliasMap) (ps : List Predicate)
    (fits : ∀ l ∈ Predicate.leavesOfAll ps, l.operand.fits l.op.arity = true)
    (worded : Worded aliases (Predicate.leavesOfAll ps)) : ProperAll (ofKept aliases ps) := by
  cases ps with
  | nil => trivial
  | cons p rest =>
      have later := of_kept_proper aliases rest
        (fun l member => fits l (List.mem_append_right _ member))
        (fun l member => worded l (List.mem_append_right _ member))
      rw [ofKept]
      split
      · exact later
      · refine ⟨of_predicate_proper aliases p ?_ ?_, later⟩
        · exact fun l member => fits l (List.mem_append_left _ member)
        · exact fun l member => worded l (List.mem_append_left _ member)
end

end Skeleton

namespace Condition

theorem equal_texts_iff (aliases : AliasMap) (first : Nat) (p q : Predicate)
    (builtP : p.Constructed) (builtQ : q.Constructed)
    (wordedP : Skeleton.Worded aliases p.leaves) (wordedQ : Skeleton.Worded aliases q.leaves) :
    ∃ f g c d, (Compiler.new .ignore aliases first).compile p = .ok (f, c) ∧
      (Compiler.new .ignore aliases first).compile q = .ok (g, d) ∧
      (f.text = g.text ↔ Skeleton.ofPredicate aliases p = Skeleton.ofPredicate aliases q) := by
  have fitsP := Predicate.constructed_fits p builtP
  have fitsQ := Predicate.constructed_fits q builtQ
  have charsP := Skeleton.render_chars aliases (max first 1) p fitsP
  have charsQ := Skeleton.render_chars aliases (max first 1) q fitsQ
  refine ⟨_, _, _, _, rfl, rfl, ?_⟩
  change (render aliases (max first 1) p).text = (render aliases (max first 1) q).text ↔ _
  rw [← String.toList_inj, Fragment.to_list_text, Fragment.to_list_text, charsP, charsQ]
  constructor
  · intro same
    have properP := Skeleton.of_predicate_proper aliases p fitsP wordedP
    have properQ := Skeleton.of_predicate_proper aliases q fitsQ wordedQ
    exact (Skeleton.chars_unique _ _ (max first 1) [] [] properP properQ Skeleton.follows_nil
      Skeleton.follows_nil (congrArg (· ++ []) same)).1
  · intro same
    rw [same]

theorem slots_share_text :
    (Predicate.disjunction [.between "at" (.int 1) (.int 2), .equal "b" .null]).Constructed ∧
      (Predicate.disjunction [.between "at" (.text "x") (.list []), .conjunction []]).Constructed ∧
      Skeleton.Worded (.new "_this")
        (Predicate.disjunction [.between "at" (.int 1) (.int 2), .equal "b" .null]).leaves ∧
      Skeleton.Worded (.new "_this")
        (Predicate.disjunction [.between "at" (.text "x") (.list []), .conjunction []]).leaves ∧
      ∃ f g c d,
        (Compiler.new .ignore (.new "_this") 0).compile
          (.disjunction [.between "at" (.int 1) (.int 2), .equal "b" .null]) = .ok (f, c) ∧
        (Compiler.new .ignore (.new "_this") 0).compile
          (.disjunction [.between "at" (.text "x") (.list []), .conjunction []]) = .ok (g, d) ∧
        f.text = g.text := by
  have first : (Predicate.disjunction
      [.between "at" (.int 1) (.int 2), .equal "b" .null]).Constructed :=
    .disjunction _ (List.forall_mem_cons.mpr ⟨.between _ _ _,
      List.forall_mem_cons.mpr ⟨.equal _ _, List.forall_mem_nil _⟩⟩)
  have second : (Predicate.disjunction
      [.between "at" (.text "x") (.list []), .conjunction []]).Constructed :=
    .disjunction _ (List.forall_mem_cons.mpr ⟨.between _ _ _,
      List.forall_mem_cons.mpr ⟨.conjunction _ (List.forall_mem_nil _), List.forall_mem_nil _⟩⟩)
  have words : Skeleton.Worded (.new "_this")
      (Predicate.disjunction [.between "at" (.int 1) (.int 2), .equal "b" .null]).leaves := by
    decide
  have wordsToo : Skeleton.Worded (.new "_this")
      (Predicate.disjunction [.between "at" (.text "x") (.list []), .conjunction []]).leaves := by
    decide
  obtain ⟨f, g, c, d, compiledF, compiledG, same⟩ :=
    equal_texts_iff (.new "_this") 0 _ _ first second words wordsToo
  exact ⟨first, second, words, wordsToo, f, g, c, d, compiledF, compiledG, same.mpr rfl⟩

end Condition

end Inquiry
