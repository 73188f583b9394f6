import Inquiry.Proofs.Builder.Windowing
import Inquiry.Proofs.Paging.Partition
import Inquiry.Proofs.Run.Exchange

set_option autoImplicit false

namespace Inquiry

variable {σ α : Type}

namespace Builder

structure Paged (steps : List Step) (number size : UInt64) : Prop where
  clean : Clean steps
  begun : firstMode? steps ≠ none ∨ lastRaw? steps ≠ none
  page : lastWindowing? steps = some (.page number size)

section

variable (entity : Entity) (config : Config) (steps : List Step)
  (query : Statement → σ → Outcome (List Row) × σ) (decode : RowDecoder α) (store : σ)

structure Counting (number size : UInt64) (s : Statement) : Prop where
  paged : Paged steps number size
  built : ((new entity config).run steps).buildCount = .ok s
  windowless : s.window = none

-- The statement that counts is answered by one row that begins with a count, and the statement for
-- the rows of the page is built.
structure Fetching (number size : UInt64) (s : Statement) (between : σ) (total : Int64)
    (t : Statement) : Prop where
  counting : Counting entity config steps number size s
  counted : ∃ row, query s store = (.ok [row], between) ∧ row.values.head? = some (.int total)
  natural : 0 ≤ total.toInt
  built : ((new entity config).run steps).build = .ok t
  window : ∃ w, t.window = some w ∧ w.limit = size ∧
    w.offset.toNat = (number.toNat - 1) * size.toNat

inductive PageCall : Outcome (Page α) → σ → List Sent → Prop
  | misuse (m : Misuse) (first : FirstViolation steps m) :
      PageCall (.error (.illegalState m.message)) store []
  | nothingGiven (clean : Clean steps) (modeless : firstMode? steps = none)
      (structural : lastRaw? steps = none) :
      PageCall (.error (.illegalState Misuse.nothingGiven.message)) store []
  | notPaged (clean : Clean steps) (begun : firstMode? steps ≠ none ∨ lastRaw? steps ≠ none)
      (other : ∀ number size, lastWindowing? steps ≠ some (.page number size)) :
      PageCall (.error .notPaginated) store []
  | uncountable (number size : UInt64) (paged : Paged steps number size) (e : QueryError)
      (failed : ((new entity config).run steps).buildCount = .error e) :
      PageCall (.error e) store []
  | countRefused (number size : UInt64) (s : Statement)
      (counting : Counting entity config steps number size s) (e : QueryError) (after : σ)
      (answered : query s store = (.error e, after)) : PageCall (.error e) after [.query s]
  | countOfRows (number size : UInt64) (s : Statement)
      (counting : Counting entity config steps number size s) (rows : List Row) (after : σ)
      (answered : query s store = (.ok rows, after)) (other : rows.length ≠ 1) :
      PageCall (.error (.store (rowsFault rows.length))) after [.query s]
  | noCount (number size : UInt64) (s : Statement)
      (counting : Counting entity config steps number size s) (row : Row) (after : σ)
      (answered : query s store = (.ok [row], after))
      (other : ∀ n, row.values.head? ≠ some (.int n)) (e : QueryError)
      (failed : (row.tryGet (.position 0) : Outcome Int64) = .error e) :
      PageCall (.error e) after [.query s]
  | negativeCount (number size : UInt64) (s : Statement)
      (counting : Counting entity config steps number size s) (row : Row) (after : σ)
      (answered : query s store = (.ok [row], after)) (n : Int64)
      (first : row.values.head? = some (.int n)) (negative : n.toInt < 0) :
      PageCall (.error (.decode "count" ("negative row count " ++ toString n.toInt))) after
        [.query s]
  | rowsRefused (number size : UInt64) (s t : Statement) (between : σ) (total : Int64)
      (fetching : Fetching entity config steps query store number size s between total t)
      (e : QueryError) (after : σ) (answered : query t between = (.error e, after)) :
      PageCall (.error e) after [.query s, .query t]
  | undecodable (number size : UInt64) (s t : Statement) (between : σ) (total : Int64)
      (fetching : Fetching entity config steps query store number size s between total t)
      (before : List Row) (row : Row) (rest : List Row) (after : σ)
      (answered : query t between = (.ok (before ++ row :: rest), after))
      (earlier : ∀ r ∈ before, ∃ item, decode r = .ok item) (e : QueryError)
      (failed : decode row = .error e) : PageCall (.error e) after [.query s, .query t]
  | page (number size : UInt64) (s t : Statement) (between : σ) (total : Int64)
      (fetching : Fetching entity config steps query store number size s between total t)
      (rows : List Row) (after : σ) (answered : query t between = (.ok rows, after))
      (p : Page α) (numbered : p.page = number) (sized : p.max = size)
      (counted : (p.total.toNat : Int) = total.toInt)
      (pages : p.totalPages.toNat = (p.total.toNat + size.toNat - 1) / size.toNat)
      (decoded : List.Forall₂ (fun row item => decode row = .ok item) rows p.data)
      (length : p.dataSize = rows.length) : PageCall (.ok p) after [.query s, .query t]

end

structure Fit (b : Builder) (number size : UInt64) : Prop where
  sound : b.fault? = none
  numbered : b.paginator.pageNumber = some number
  sized : b.paginator.pageSize = some size

section

variable (b : Builder) (query : Statement → σ → Outcome (List Row) × σ)
  (execute : Statement → σ → Outcome UInt64 × σ) (decode : RowDecoder α) (number size : UInt64)
  (fit : Fit b number size) (before : Session (σ × List Sent))
include fit

theorem paged_result_eq :
    b.pagedResult (.recorded query execute) decode = (do
      let count ← b.count (.recorded query execute)
      let total ← Action.ofOutcome (total count)
      let data ← b.resultList (.recorded query execute) decode
      return Page.new number size total data) := by
  rw [pagedResult, fit.sound, fit.numbered, fit.sized]
  rfl

theorem paged_uncounted (e : QueryError) (after : Session (σ × List Sent))
    (failed : b.count (.recorded query execute) before = (.error e, after)) :
    b.pagedResult (.recorded query execute) decode before = (.error e, after) := by
  rw [b.paged_result_eq query execute decode number size fit, Action.bind_error _ _ _ _ e failed]

theorem paged_counted (n : Int64) (between : Session (σ × List Sent))
    (ran : b.count (.recorded query execute) before = (.ok n, between)) :
    b.pagedResult (.recorded query execute) decode before =
      match total n with
      | .error e => (.error e, between)
      | .ok count =>
          let fetched := b.resultList (.recorded query execute) decode between
          (fetched.1.map (Page.new number size count), fetched.2) := by
  rw [b.paged_result_eq query execute decode number size fit, Action.bind_ok _ _ _ _ n ran]
  cases counted : total n with
  | error e => rfl
  | ok count =>
      have settled : (Action.ofOutcome (.ok count) : Action (σ × List Sent) UInt64) between =
          (.ok count, between) := rfl
      rw [Action.bind_ok _ _ _ _ count settled]
      dsimp only
      generalize fetch : b.resultList (.recorded query execute) decode between = fetched
      obtain ⟨outcome, after⟩ := fetched
      cases outcome with
      | error e => rw [Action.bind_error _ _ _ _ e fetch]; rfl
      | ok data => rw [Action.bind_ok _ _ _ _ data fetch]; rfl

end

section

variable (entity : Entity) (config : Config) (steps : List Step)
  (query : Statement → σ → Outcome (List Row) × σ)
  (execute : Statement → σ → Outcome UInt64 × σ) (decode : RowDecoder α) (store : σ)
  (events : List Event)

theorem new_run_fit (number size : UInt64) (paged : Paged steps number size) :
    Fit ((new entity config).run steps) number size := by
  obtain ⟨numbered, sized⟩ := (new_run_page_iff entity config steps number size).mpr paged.page
  exact ⟨(new_run_fault_none entity config steps).mpr ⟨paged.clean, paged.begun⟩, numbered, sized⟩

theorem new_run_not_paged (clean : Clean steps)
    (begun : firstMode? steps ≠ none ∨ lastRaw? steps ≠ none)
    (other : ∀ number size, lastWindowing? steps ≠ some (.page number size))
    (exec : Executor σ) (session : Session σ) :
    ((new entity config).run steps).pagedResult exec decode session =
      (.error .notPaginated, session) := by
  have sound := (new_run_fault_none entity config steps).mpr ⟨clean, begun⟩
  have unpaged (number size : UInt64) :=
    mt (new_run_page_iff entity config steps number size).mp (other number size)
  rw [pagedResult, sound]
  cases numbered : ((new entity config).run steps).paginator.pageNumber with
  | none => rfl
  | some number =>
      cases sized : ((new entity config).run steps).paginator.pageSize with
      | none => rfl
      | some size => exact absurd ⟨numbered, sized⟩ (unpaged number size)

theorem faulty_page_call (b : Builder) (m : Misuse) (fault : b.fault? = some m)
    (exec : Executor σ) (session : Session σ) :
    b.pagedResult exec decode session = (.error m.error, session) := by
  rw [pagedResult, fault]
  rfl

theorem total_ok (n : Int64) (natural : 0 ≤ n.toInt) :
    ∃ count, total n = .ok count ∧ (count.toNat : Int) = n.toInt := by
  refine ⟨_, if_pos natural, ?_⟩
  have bound := n.toInt_lt
  rw [UInt64.toNat_ofNat_of_lt']
  · omega
  · change n.toInt.toNat < 2 ^ 64
    omega

theorem total_error (n : Int64) (negative : n.toInt < 0) :
    total n = .error (.decode "count" ("negative row count " ++ toString n.toInt)) :=
  if_neg (Int.not_le.mpr negative)

theorem counting_failed (number size : UInt64) (s : Statement)
    (counting : Counting entity config steps number size s) (answer : Outcome (List Row))
    (after : σ) (answered : query s store = (answer, after)) (e : QueryError)
    (failed : countIn answer = .error e) :
    ∃ told, ((new entity config).run steps).pagedResult (.recorded query execute) decode
        ⟨(store, []), events⟩ = (.error e, ⟨(after, [.query s]), told⟩) := by
  have fit := new_run_fit entity config steps number size counting.paged
  have ran := count_ran query execute ((new entity config).run steps) store [] events s
    counting.built answer after answered
  rw [failed] at ran
  exact ⟨_, paged_uncounted _ query execute decode number size fit _ e _ ran⟩

theorem fetching_ran (number size : UInt64) (s t : Statement) (between : σ) (n : Int64)
    (fetching : Fetching entity config steps query store number size s between n t)
    (answer : Outcome (List Row)) (after : σ) (answered : query t between = (answer, after)) :
    ∃ count told, (count.toNat : Int) = n.toInt ∧
      ((new entity config).run steps).pagedResult (.recorded query execute) decode
          ⟨(store, []), events⟩ =
        ((answer.bind (·.mapM decode)).map (Page.new number size count),
          ⟨(after, [.query s, .query t]), told⟩) := by
  obtain ⟨row, counted, first⟩ := fetching.counted
  have ran := count_ran query execute ((new entity config).run steps) store [] events s
    fetching.counting.built _ between counted
  rw [count_in_row, (first_count_iff row n).mpr first] at ran
  obtain ⟨count, total, same⟩ := total_ok n fetching.natural
  have fit := new_run_fit entity config steps number size fetching.counting.paged
  have call := paged_counted _ query execute decode number size fit _ n _ ran
  rw [total] at call
  dsimp only at call
  rw [result_list_ran query execute _ between _ _ decode t fetching.built answer after answered]
    at call
  exact ⟨count, _, same, call⟩

theorem page_unique (number size count : UInt64) (sized : size ≠ 0) (p : Page α)
    (numbered : p.page = number) (max : p.max = size) (counted : p.total = count)
    (pages : p.totalPages.toNat = (p.total.toNat + size.toNat - 1) / size.toNat)
    (length : p.dataSize = p.data.length) : p = Page.new number size count p.data := by
  have same : p.totalPages = Page.pagesFor count size := by
    rw [← UInt64.toNat_inj, Page.pages_for_to_nat count size sized, pages, counted]
  obtain ⟨page, max, total, totalPages, dataSize, data⟩ := p
  dsimp only at *
  subst numbered max counted same length
  rfl

theorem page_call_ran (result : Outcome (Page α)) (after : σ) (sent : List Sent)
    (call : PageCall entity config steps query decode store result after sent) :
    ∃ told, ((new entity config).run steps).pagedResult (.recorded query execute) decode
        ⟨(store, []), events⟩ = (result, ⟨(after, sent), told⟩) := by
  have stopped := counting_failed entity config steps query execute decode store events
  cases call with
  | misuse m first =>
      have fault := (new_run_fault entity config steps m).mpr (.inl first)
      exact ⟨events, faulty_page_call decode _ m fault _ _⟩
  | nothingGiven clean modeless structural =>
      have fault := (new_run_fault entity config steps .nothingGiven).mpr
        (.inr ⟨clean, modeless, structural, rfl⟩)
      exact ⟨events, faulty_page_call decode _ .nothingGiven fault _ _⟩
  | notPaged clean begun other =>
      exact ⟨events, new_run_not_paged entity config steps decode clean begun other _ _⟩
  | uncountable number size paged e failed =>
      have fit := new_run_fit entity config steps number size paged
      exact ⟨events, paged_uncounted _ query execute decode number size fit _ e _
        (count_failed query execute _ store [] events e failed)⟩
  | countRefused number size s counting e after answered =>
      exact stopped number size s counting _ after answered e rfl
  | countOfRows number size s counting rows after answered other =>
      exact stopped number size s counting _ after answered _ (count_in_other rows other)
  | noCount number size s counting row after answered other e failed =>
      exact stopped number size s counting _ after answered e failed
  | negativeCount number size s counting row after answered n first negative =>
      have fit := new_run_fit entity config steps number size counting.paged
      have ran := count_ran query execute ((new entity config).run steps) store [] events s
        counting.built _ after answered
      rw [count_in_row, (first_count_iff row n).mpr first] at ran
      have call := paged_counted _ query execute decode number size fit _ n _ ran
      rw [total_error n negative] at call
      exact ⟨_, call⟩
  | rowsRefused number size s t between n fetching e after answered =>
      obtain ⟨count, told, -, ran⟩ := fetching_ran entity config steps query execute decode store
        events number size s t between n fetching _ after answered
      exact ⟨told, ran⟩
  | undecodable number size s t between n fetching before row rest after answered earlier e
      failed =>
      obtain ⟨count, told, -, ran⟩ := fetching_ran entity config steps query execute decode store
        events number size s t between n fetching _ after answered
      have wrong := (decode_all_error_iff decode _ e).mpr ⟨before, row, rest, rfl, earlier, failed⟩
      refine ⟨told, ran.trans ?_⟩
      change (((before ++ row :: rest).mapM decode).map _, _) = _
      rw [wrong]
      rfl
  | page number size s t between n fetching rows after answered p numbered max same pages decoded
      length =>
      obtain ⟨count, told, natural, ran⟩ := fetching_ran entity config steps query execute decode
        store events number size s t between n fetching _ after answered
      have sized := (last_windowing_page steps number size fetching.counting.paged.page).2.1
      have total : p.total = count := by
        rw [← UInt64.toNat_inj]
        omega
      refine ⟨told, ran.trans ?_⟩
      change ((rows.mapM decode).map _, _) = _
      rw [(decode_all_ok_iff decode rows p.data).mpr decoded, page_unique number size count sized p
        numbered max total pages (length.trans decoded.length_eq)]
      rfl

theorem counting_of_built (number size : UInt64) (paged : Paged steps number size) (s : Statement)
    (built : ((new entity config).run steps).buildCount = .ok s) :
    Counting entity config steps number size s := by
  obtain ⟨-, head, w, -, -, rfl⟩ := (statement_ok_iff _ .count s).mp built
  exact ⟨paged, built, rfl⟩

theorem rows_of_counting (number size : UInt64) (s : Statement)
    (counting : Counting entity config steps number size s) :
    ∃ t w, ((new entity config).run steps).build = .ok t ∧ t.window = some w ∧ w.limit = size ∧
      w.offset.toNat = (number.toNat - 1) * size.toNat := by
  obtain ⟨sound, -, w, -, conditions, -⟩ := (statement_ok_iff _ .count s).mp counting.built
  obtain ⟨head, headed⟩ := ((new entity config).run steps).head_rows_ok
  have built := (statement_ok_iff _ .rows _).mpr ⟨sound, head, w, headed, conditions, rfl⟩
  have isPage := last_windowing_page steps number size counting.paged.page
  have chosen := new_run_paginator entity config steps
  rw [counting.paged.page] at chosen
  exact ⟨_, (Windowing.page number size).window, built, congrArg Paginator.window chosen, rfl,
    Windowing.page_offset number size isPage⟩

theorem page_call_fetches (number size : UInt64) (s t : Statement) (between : σ) (n : Int64)
    (fetching : Fetching entity config steps query store number size s between n t) :
    ∃ result after sent, PageCall entity config steps query decode store result after sent := by
  obtain ⟨count, -, same⟩ := total_ok n fetching.natural
  have sized := (last_windowing_page steps number size fetching.counting.paged.page).2.1
  rcases answered : query t between with ⟨answer, after⟩
  cases answer with
  | error e => exact ⟨_, _, _, .rowsRefused number size s t between n fetching e after answered⟩
  | ok rows =>
      cases decoded : rows.mapM decode with
      | error e =>
          obtain ⟨before, row, rest, rfl, earlier, failed⟩ :=
            (decode_all_error_iff decode rows e).mp decoded
          exact ⟨_, _, _, .undecodable number size s t between n fetching before row rest after
            answered earlier e failed⟩
      | ok data =>
          have each := (decode_all_ok_iff decode rows data).mp decoded
          exact ⟨_, _, _, .page number size s t between n fetching rows after answered
            (Page.new number size count data) rfl rfl same
            (Page.pages_for_to_nat count size sized) each each.length_eq.symm⟩

theorem page_call_counts (number size : UInt64) (s : Statement)
    (counting : Counting entity config steps number size s) :
    ∃ result after sent, PageCall entity config steps query decode store result after sent := by
  rcases answered : query s store with ⟨answer, after⟩
  cases answer with
  | error e => exact ⟨_, _, _, .countRefused number size s counting e after answered⟩
  | ok rows =>
      by_cases other : rows.length ≠ 1
      · exact ⟨_, _, _, .countOfRows number size s counting rows after answered other⟩
      · obtain ⟨row, rfl⟩ := List.length_eq_one_iff.mp (Classical.not_not.mp other)
        cases first : (row.tryGet (.position 0) : Outcome Int64) with
        | error e =>
            refine ⟨_, _, _, .noCount number size s counting row after answered ?_ e first⟩
            intro n counted
            rw [(first_count_iff row n).mpr counted] at first
            cases first
        | ok n =>
            have counted := (first_count_iff row n).mp first
            by_cases negative : n.toInt < 0
            · exact ⟨_, _, _, .negativeCount number size s counting row after answered n counted
                negative⟩
            · obtain ⟨t, w, built, window, limit, offset⟩ :=
                rows_of_counting entity config steps number size s counting
              exact page_call_fetches entity config steps query decode store number size s t after n
                ⟨counting, ⟨row, answered, counted⟩, Int.not_lt.mp negative, built,
                  ⟨w, window, limit, offset⟩⟩

theorem page_call_exists :
    ∃ result after sent, PageCall entity config steps query decode store result after sent := by
  cases fault : ((new entity config).run steps).fault? with
  | some m =>
      rcases (new_run_fault entity config steps m).mp fault with
        first | ⟨clean, modeless, structural, -⟩
      · exact ⟨_, _, _, .misuse m first⟩
      · exact ⟨_, _, _, .nothingGiven clean modeless structural⟩
  | none =>
      obtain ⟨clean, begun⟩ := (new_run_fault_none entity config steps).mp fault
      by_cases chosen : ∃ number size, lastWindowing? steps = some (.page number size)
      · obtain ⟨number, size, page⟩ := chosen
        cases built : ((new entity config).run steps).buildCount with
        | error e => exact ⟨_, _, _, .uncountable number size ⟨clean, begun, page⟩ e built⟩
        | ok s =>
            exact page_call_counts entity config steps query decode store number size s
              (counting_of_built entity config steps number size ⟨clean, begun, page⟩ s built)
      · refine ⟨_, _, _, .notPaged clean begun ?_⟩
        intro number size page
        exact chosen ⟨number, size, page⟩

theorem page_call_protocol (result : Outcome (Page α)) (after : σ) (sent : List Sent) :
    PageCall entity config steps query decode store result after sent ↔
      ∃ told, ((new entity config).run steps).pagedResult (.recorded query execute) decode
        ⟨(store, []), events⟩ = (result, ⟨(after, sent), told⟩) := by
  constructor
  · exact page_call_ran entity config steps query execute decode store events result after sent
  · rintro ⟨told, ran⟩
    obtain ⟨other, left, log, call⟩ := page_call_exists entity config steps query decode store
    obtain ⟨heard, same⟩ :=
      page_call_ran entity config steps query execute decode store events other left log call
    rw [ran] at same
    cases same
    exact call

-- A run without steps has no misuse and no page, and yet fails for want of a head.
theorem fresh_page_call_names_missing_head :
    ((new ⟨"User"⟩ .default).run []).misuse = none ∧ lastWindowing? [] = none ∧
      (((new ⟨"User"⟩ .default).run []).pagedResult
        (.recorded (fun _ store => (.ok [], store)) fun _ store => (.ok 0, store)) RowDecoder.row
        ⟨((), []), []⟩).1 = .error (.illegalState "no select(), delete() or query() given") ∧
      (((new ⟨"User"⟩ .default).run []).pagedResult
        (.recorded (fun _ store => (.ok [], store)) fun _ store => (.ok 0, store)) RowDecoder.row
        ⟨((), []), []⟩).1 ≠ .error .notPaginated := by
  refine ⟨rfl, rfl, rfl, ?_⟩
  intro same
  cases same

end

end Builder

end Inquiry
