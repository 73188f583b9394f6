import Inquiry.Proofs.Builder.History
import Inquiry.Proofs.Condition.Likeness

set_option autoImplicit false

namespace Inquiry

inductive Outcome.Agree {α : Type} (same : α → α → Prop) : Outcome α → Outcome α → Prop
  | ok (a b : α) (related : same a b) : Agree same (.ok a) (.ok b)
  | error (e : QueryError) : Agree same (.error e) (.error e)

theorem Outcome.agree_self {α : Type} (x : Outcome α) : Agree Eq x x := by
  cases x with
  | ok a => exact .ok a a rfl
  | error e => exact .error e

theorem Outcome.agree_bind {α β : Type} (same : α → α → Prop) (alike : β → β → Prop)
    (x y : Outcome α) (f g : α → Outcome β) (first : Agree same x y)
    (next : ∀ a b, same a b → Agree alike (f a) (g b)) : Agree alike (x >>= f) (y >>= g) := by
  cases first with
  | ok a b related => exact next a b related
  | error e => exact .error e

structure Statement.Alike (s t : Statement) : Prop where
  text : s.text = t.text
  positional : s.positional.keys = t.positional.keys
  named : s.named.keys = t.named.keys
  window : s.window = t.window

inductive Step.Alike : Step → Step → Prop
  | filter (ps qs : List Predicate) (h : Predicate.AlikeAll ps qs) : Alike (.filter ps) (.filter qs)
  | and (ps qs : List Predicate) (h : Predicate.AlikeAll ps qs) : Alike (.and ps) (.and qs)
  | or (ps qs : List Predicate) (h : Predicate.AlikeAll ps qs) : Alike (.or ps) (.or qs)
  | param (position : Nat) (v w : Value) : Alike (.param position v) (.param position w)
  | paramNamed (name : String) (v w : Value) : Alike (.paramNamed name v) (.paramNamed name w)
  | same (s : Step) : Alike s s

structure Segment.Alike (s t : Segment) : Prop where
  connective : s.connective = t.connective
  predicate : s.predicate.Alike t.predicate

namespace Compiler

theorem advance_alike (c : Compiler) (p q : Predicate) (alike : p.Alike q) :
    c.advance p = c.advance q := by
  have rendered := Condition.render_alike c.aliases c.next p q alike
  have numbers := congrArg List.length (Fragment.alike_numbers _ _ rendered)
  rw [Condition.render_bindings, Condition.render_bindings, Fragment.numbered_keys,
    Fragment.numbered_keys, List.length_range', List.length_range'] at numbers
  rw [advance, advance, numbers]

theorem compile_alike (c : Compiler) (p q : Predicate) (alike : p.Alike q) :
    Outcome.Agree (fun x y => x.1.outline = y.1.outline ∧ x.2 = y.2)
      (c.compile p) (c.compile q) := by
  have refusals := Predicate.alike_first_invalid p q alike
  by_cases accepted : c.policy = .reject → p.firstInvalid? = none
  · have acceptedToo : c.policy = .reject → q.firstInvalid? = none := fun strict => by
      rw [accepted strict] at refusals
      exact Option.map_eq_none_iff.mp refusals.symm
    rw [(c.compile_ok_iff _ p _).mpr ⟨accepted, rfl, rfl⟩,
      (c.compile_ok_iff _ q _).mpr ⟨acceptedToo, rfl, rfl⟩]
    exact .ok _ _ ⟨Condition.render_alike c.aliases c.next p q alike, c.advance_alike p q alike⟩
  · obtain ⟨strict, invalid⟩ := Classical.not_imp.mp accepted
    obtain ⟨l, invalidP⟩ := Option.ne_none_iff_exists'.mp invalid
    rw [invalidP] at refusals
    obtain ⟨m, invalidQ, refused⟩ := Option.map_eq_some_iff.mp refusals.symm
    rw [(c.compile_error_iff p _).mpr ⟨strict, l, invalidP, rfl⟩,
      (c.compile_error_iff q _).mpr ⟨strict, m, invalidQ, rfl⟩, refused]
    exact .error _

end Compiler

namespace Builder

theorem conditions_alike (c : Compiler) (isOpen : Bool) (segments others : List Segment)
    (alike : List.Forall₂ Segment.Alike segments others) :
    Outcome.Agree (fun f g => f.outline = g.outline) (conditions c isOpen segments)
      (conditions c isOpen others) := by
  induction alike generalizing c isOpen with
  | nil => exact .ok _ _ rfl
  | @cons s t segments others first rest ih =>
      rw [conditions, conditions]
      refine Outcome.agree_bind _ _ _ _ _ _ (c.compile_alike _ _ first.predicate) ?_
      rintro ⟨f, d⟩ ⟨g, e⟩ ⟨rendered, rfl⟩
      dsimp only at rendered ⊢
      rw [Fragment.alike_blank f g rendered, first.connective]
      split
      · exact ih d isOpen
      · refine Outcome.agree_bind _ _ _ _ _ _ (ih d true) fun tail tail' tails => .ok _ _ ?_
        simp only [List.cons_append, Fragment.outline_word, Fragment.outline_append, rendered, tails]

def Alike (b c : Builder) : Prop :=
  ∃ segments positional named,
    c = { b with segments := segments, positional := positional, named := named } ∧
      List.Forall₂ Segment.Alike b.segments segments ∧
      b.positional.keys = positional.keys ∧ b.named.keys = named.keys

theorem alike_refl (b : Builder) : b.Alike b :=
  ⟨b.segments, b.positional, b.named, rfl,
    List.forall₂_same.mpr fun s _ => ⟨rfl, s.predicate.alike_refl⟩, rfl, rfl⟩

theorem alike_first_index (b c : Builder) (keys : b.positional.keys = c.positional.keys) :
    b.firstIndex = c.firstIndex := by
  rw [first_index_eq, first_index_eq, Bindings.greatest_eq_last_key, keys,
    ← Bindings.greatest_eq_last_key]

theorem add_segment_alike (b c : Builder) (connective : Connective) (ps qs : List Predicate)
    (alike : b.Alike c) (predicates : Predicate.AlikeAll ps qs) :
    (b.addSegment connective ps).Alike (c.addSegment connective qs) := by
  obtain ⟨segments, positional, named, rfl, conditions, positions, names⟩ := alike
  cases ps with
  | nil =>
      cases qs with
      | nil => exact ⟨segments, positional, named, rfl, conditions, positions, names⟩
      | cons q qs => exact predicates.elim
  | cons p ps =>
      cases qs with
      | nil => exact predicates.elim
      | cons q qs =>
          exact ⟨_, positional, named, rfl,
            List.rel_append conditions (.cons ⟨rfl, predicates⟩ .nil), positions, names⟩

theorem param_alike (b c : Builder) (position : Nat) (v w : Value) (alike : b.Alike c) :
    (b.effect (.param position v)).Alike (c.effect (.param position w)) := by
  obtain ⟨segments, positional, named, rfl, conditions, positions, names⟩ := alike
  by_cases zero : position = 0
  · rw [effect, effect, if_pos zero, if_pos zero]
    exact ⟨segments, positional, named, rfl, conditions, positions, names⟩
  · rw [effect, effect, if_neg zero, if_neg zero]
    refine ⟨segments, positional.insert position w, named, rfl, conditions, ?_, names⟩
    rw [Bindings.keys_insert, Bindings.keys_insert, positions]

theorem param_named_alike (b c : Builder) (name : String) (v w : Value) (alike : b.Alike c) :
    (b.effect (.paramNamed name v)).Alike (c.effect (.paramNamed name w)) := by
  obtain ⟨segments, positional, named, rfl, conditions, positions, names⟩ := alike
  refine ⟨segments, positional, named.insert name w, rfl, conditions, positions, ?_⟩
  change (b.named.insert name v).keys = _
  rw [Bindings.keys_insert, Bindings.keys_insert, names]

theorem effect_same_alike (b c : Builder) (s : Step) (alike : b.Alike c) :
    (b.effect s).Alike (c.effect s) := by
  cases s with
  | filter ps => exact add_segment_alike b c .and ps ps alike (Predicate.alike_all_refl ps)
  | and ps => exact add_segment_alike b c .and ps ps alike (Predicate.alike_all_refl ps)
  | or ps => exact add_segment_alike b c .or ps ps alike (Predicate.alike_all_refl ps)
  | param position value => exact param_alike b c position value value alike
  | paramNamed name value => exact param_named_alike b c name value value alike
  | page number size =>
      obtain ⟨segments, positional, named, rfl, conditions, positions, names⟩ := alike
      dsimp only [effect]
      split
      · exact ⟨segments, positional, named, rfl, conditions, positions, names⟩
      · exact ⟨segments, positional, named, rfl, conditions, positions, names⟩
  | _ =>
      obtain ⟨segments, positional, named, rfl, conditions, positions, names⟩ := alike
      exact ⟨segments, positional, named, rfl, conditions, positions, names⟩

theorem effect_alike (b c : Builder) (s t : Step) (alike : b.Alike c) (steps : s.Alike t) :
    (b.effect s).Alike (c.effect t) := by
  cases steps with
  | filter ps qs h => exact add_segment_alike b c .and ps qs alike h
  | and ps qs h => exact add_segment_alike b c .and ps qs alike h
  | or ps qs h => exact add_segment_alike b c .or ps qs alike h
  | param position v w => exact param_alike b c position v w alike
  | paramNamed name v w => exact param_named_alike b c name v w alike
  | same => exact effect_same_alike b c s alike

theorem misuse_alike (b c : Builder) (s t : Step) (alike : b.Alike c) (steps : s.Alike t) :
    b.misuse? s = c.misuse? t := by
  obtain ⟨segments, positional, named, rfl, -⟩ := alike
  cases steps with
  | same => cases s <;> rfl
  | _ => rfl

theorem step_alike (b c : Builder) (s t : Step) (alike : b.Alike c) (steps : s.Alike t) :
    (b.step s).Alike (c.step t) := by
  have wrong := misuse_alike b c s t alike steps
  have recorded : b.misuse = c.misuse := by
    obtain ⟨segments, positional, named, rfl, -⟩ := alike
    rfl
  obtain ⟨segments, positional, named, after, conditions, positions, names⟩ :=
    effect_alike b c s t alike steps
  refine ⟨segments, positional, named, ?_, conditions, positions, names⟩
  rw [step, step, after, wrong, recorded]

theorem run_alike (b c : Builder) (steps others : List Step) (alike : b.Alike c)
    (related : List.Forall₂ Step.Alike steps others) : (b.run steps).Alike (c.run others) := by
  induction related generalizing b c with
  | nil => exact alike
  | @cons s t steps others first rest ih =>
      exact ih (b.step s) (c.step t) (step_alike b c s t alike first)

theorem where_alike (b c : Builder) (alike : b.Alike c) :
    Outcome.Agree (fun f g => f.outline = g.outline) b.whereClause c.whereClause := by
  obtain ⟨segments, positional, named, rfl, conditions, positions, -⟩ := alike
  have index := alike_first_index b
    { b with segments := segments, positional := positional, named := named } positions
  rw [whereClause, whereClause, index]
  exact conditions_alike _ false _ _ conditions

theorem assemble_alike (b c : Builder) (alike : b.Alike c) (purpose : Purpose) (head : String)
    (f g : Fragment) (rendered : f.outline = g.outline) :
    (b.assemble purpose head f).Alike (c.assemble purpose head g) := by
  obtain ⟨segments, positional, named, rfl, -, positions, names⟩ := alike
  refine ⟨?_, ?_, names, rfl⟩
  · dsimp only [assemble]
    rw [Fragment.alike_text f g rendered]
    rfl
  · dsimp only [assemble]
    rw [Bindings.keys_insert_all, Bindings.keys_insert_all, positions,
      Fragment.alike_numbers f g rendered]

theorem statement_alike (b c : Builder) (alike : b.Alike c) (purpose : Purpose) :
    Outcome.Agree Statement.Alike (b.statement purpose) (c.statement purpose) := by
  have faults : b.fault? = c.fault? := by
    obtain ⟨segments, positional, named, rfl, -⟩ := alike
    rfl
  have heads : b.head purpose = c.head purpose := by
    obtain ⟨segments, positional, named, rfl, -⟩ := alike
    rfl
  cases fault : c.fault? with
  | some m =>
      rw [statement_of_fault b purpose m (faults.trans fault), statement_of_fault c purpose m fault]
      exact .error _
  | none =>
      rw [statement, statement, faults, fault, heads]
      dsimp only
      refine Outcome.agree_bind Eq _ _ _ _ _ (Outcome.agree_self (c.head purpose)) ?_
      rintro head _ rfl
      refine Outcome.agree_bind _ _ _ _ _ _ (where_alike b c alike) fun f g rendered => ?_
      exact .ok _ _ (assemble_alike b c alike purpose head f g rendered)

theorem values_leave_text (b : Builder) (steps others : List Step)
    (related : List.Forall₂ Step.Alike steps others) :
    Outcome.Agree Statement.Alike (b.run steps).build (b.run others).build ∧
      Outcome.Agree Statement.Alike (b.run steps).buildCount (b.run others).buildCount := by
  have alike := run_alike b b steps others b.alike_refl related
  exact ⟨statement_alike _ _ alike .rows, statement_alike _ _ alike .count⟩

theorem quoted_name_leaves_text :
    List.Forall₂ Step.Alike
        [.select, .or [.equal "name" (.text "alice"), .inList "id" (.list [.int 1, .null])],
          .param 4 .null]
        [.select, .or [.equal "name" (.text "' OR 1=1 --"), .inList "id" (.list [.null, .list []])],
          .param 4 (.text "?9")] ∧
      Outcome.Agree Statement.Alike
        ((new ⟨"User"⟩ .default).run
          [.select, .or [.equal "name" (.text "alice"), .inList "id" (.list [.int 1, .null])],
            .param 4 .null]).build
        ((new ⟨"User"⟩ .default).run
          [.select, .or [.equal "name" (.text "' OR 1=1 --"),
            .inList "id" (.list [.null, .list []])], .param 4 (.text "?9")]).build := by
  have names : (Predicate.equal "name" (.text "alice")).Alike
      (.equal "name" (.text "' OR 1=1 --")) := ⟨rfl, rfl, rfl, rfl⟩
  have lists : (Predicate.inList "id" (.list [.int 1, .null])).Alike
      (.inList "id" (.list [.null, .list []])) := ⟨rfl, rfl, rfl, rfl, rfl⟩
  refine (fun related => ⟨related, (values_leave_text _ _ _ related).1⟩) ?_
  exact .cons (.same .select)
    (.cons (.or _ _ ⟨names, lists, trivial⟩) (.cons (.param 4 .null (.text "?9")) .nil))

end Builder

end Inquiry
