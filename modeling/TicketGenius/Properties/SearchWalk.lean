import TicketGenius.Adapters.PlanSearch
import TicketGenius.Properties.Pagination

/-!
# Walking through a search

A client searches the stored plans page by page: first without a cursor, and then with the one
`get_next_cursor` makes of the page before, until a page is empty.  Between the calls plans come and
go and change.  With a search text without wildcards it is shown plans whose name contains the text,
whatever the case of the letters is, and whose start is in the range asked for, and each start and
id of a plan that was one of these throughout exactly once (`search_exact`).

A cursor marks the place of a plan among those selected, and the condition it adds is the order the
query sorts by, so the pages are those of a keyset walk through the selected plans.
-/

namespace TicketGenius.SearchWalk

open Framework

/-! ## What is selected -/

section Selected

variable (lower : Char → Char)

/-- The name contains the text, up to the case of letters, and the start is in the range. -/
structure Selected (q : PlanSearchQuery) (since till : Option DateTime) (p : StoredPlan) :
    Prop where
  name : ∀ text ∈ q.query, text.toList.map lower <:+: p.name.toList.map lower
  since : ∀ t ∈ since, t ≤ p.startDate
  till : ∀ t ∈ till, p.startDate ≤ t

/-- The text has no wildcards. -/
structure PlainQuery (q : PlanSearchQuery) : Prop where
  percent : lower '%' = '%'
  plain : ∀ text ∈ q.query, ∀ c ∈ text.toList, Like.Plain (lower c)

variable {lower} {q : PlanSearchQuery} {since till : Option DateTime}

/-- A text without wildcards is found in the names that contain it. -/
lemma ilikeAnywhere_iff {text name : String} (hpercent : lower '%' = '%')
    (hplain : ∀ c ∈ text.toList, Like.Plain (lower c)) :
    ilikeAnywhere lower text name = true ↔ text.toList.map lower <:+: name.toList.map lower := by
  have hlower : ∀ c ∈ text.toList.map lower, Like.Plain c := by
    intro c hc
    obtain ⟨c', hc', rfl⟩ := List.mem_map.mp hc
    exact hplain c' hc'
  have hpattern : ('%' :: (text.toList ++ ['%'])).map lower =
      '%' :: (text.toList.map lower ++ ['%']) := by
    rw [List.map_cons, List.map_append, List.map_singleton, hpercent]
  rw [ilikeAnywhere, hpattern, Like.accepts_parse_anywhere hlower]

lemma selected_iff (hplain : PlainQuery lower q) (p : StoredPlan) :
    p.selected lower q.query since till = true ↔ Selected lower q since till p := by
  have hname :
      (q.query.elim true fun text => text == "" || ilikeAnywhere lower text p.name) = true ↔
        ∀ text ∈ q.query, text.toList.map lower <:+: p.name.toList.map lower := by
    cases hquery : q.query with
    | none => simp
    | some text =>
      have htext : ilikeAnywhere lower text p.name = true ↔ _ :=
        ilikeAnywhere_iff hplain.percent (hplain.plain text hquery)
      by_cases hempty : text = ""
      · simp [hempty]
      · simp [hempty, htext]
  have hsince : (since.elim true fun t => decide (t ≤ p.startDate)) = true ↔
      ∀ t ∈ since, t ≤ p.startDate := by
    cases since <;> simp
  have htill : (till.elim true fun t => decide (p.startDate ≤ t)) = true ↔
      ∀ t ∈ till, p.startDate ≤ t := by
    cases till <;> simp
  rw [StoredPlan.selected, Bool.and_eq_true, Bool.and_eq_true, hname, hsince, htill]
  exact ⟨fun ⟨⟨h, h'⟩, h''⟩ => ⟨h, h', h''⟩, fun h => ⟨⟨h.name, h.since⟩, h.till⟩⟩

end Selected

section Search

variable [LinearOrder UUID] (lower : Char → Char) (json : JsonCodec)
  (timestamp : Json → Option DateTime)

/-! ## Walks -/

section Walk

variable (T : ℕ → List StoredPlan) (q : PlanSearchQuery)

/-- Call `n`, on the table `T n`. -/
def ask (n : ℕ) (cursor : Option String) : Option (List PlanSummary) :=
  SqlAlchemyPlanReadRepository.searchPlans lower json timestamp (T n) { q with cursor := cursor }

/-- `get_next_cursor(page, "plan_id", "start_date")` -/
def nextCursor (page : List PlanSummary) : Option String :=
  getNextCursor json page (fun s => s.planId) fun s => s.startDate.format

/-- What call `n` returns. -/
def pageAt (n : ℕ) : Option (List PlanSummary) :=
  Keyset.answerAt (ask lower json timestamp T q) none (nextCursor json) n

end Walk

/-! ## Pages of a keyset walk -/

variable {lower json timestamp}

/-- The condition of a cursor is the order of the query. -/
lemma before_eq (p : StoredPlan) (moment : DateTime) (id : UUID) :
    p.before moment id = decide (p.sortKey < toLex (moment, id)) := by
  rw [Bool.eq_iff_iff, decide_eq_true_iff, StoredPlan.sortKey, Prod.Lex.toLex_lt_toLex]
  simp [StoredPlan.before]

variable {q : PlanSearchQuery} {since till : Option DateTime}

/-- **A page is a page of a keyset walk** through the selected plans. -/
theorem searchPlanRows_eq_page {cursor : Option String} {bound : WithTop (DateTime ×ₗ UUID)}
    (hmarks : Pagination.Marks json timestamp cursor bound) (plans : List StoredPlan)
    (hsince : filterValue timestamp q.dateFrom = some since)
    (htill : filterValue timestamp q.dateTo = some till) (hlimit : 0 ≤ q.limit) :
    searchPlanRows lower json timestamp plans { q with cursor := cursor } =
      some (Keyset.page StoredPlan.sortKey q.limit.toNat
        (plans.filter (·.selected lower q.query since till)) bound) := by
  simp only [searchPlanRows, hsince, htill, Option.bind_eq_bind, Option.bind_some,
    if_neg hlimit.not_gt]
  generalize plans.filter (·.selected lower q.query since till) = matching
  cases hmarks with
  | start =>
    have hall : matching.filter (fun p => (p.sortKey : WithTop (DateTime ×ₗ UUID)) < ⊤) =
        matching := by
      simp
    simp only [applyCursorFilter, Keyset.page, Keyset.below, hall, orderByStartDesc]
  | after id moment hreadable =>
    have hfilter : matching.filter (·.before moment id) =
        matching.filter fun p => (p.sortKey : WithTop (DateTime ×ₗ UUID)) <
          (toLex (moment, id) : DateTime ×ₗ UUID) := by
      refine List.filter_congr fun p _ => ?_
      rw [before_eq]
      simp
    rw [applyCursorFilter_encodeCursor]
    simp only [hreadable, Option.map_some, Keyset.page, Keyset.below, hfilter, orderByStartDesc]

/-- The plans that a search selects of each table. -/
def selectedOf (lower : Char → Char) (T : ℕ → List StoredPlan) (q : PlanSearchQuery)
    (since till : Option DateTime) (n : ℕ) : List StoredPlan :=
  (T n).filter (·.selected lower q.query since till)

/-- The client walks through the selected plans. -/
lemma paged (lower : Char → Char) (json : JsonCodec) {T : ℕ → List StoredPlan}
    (htimestamp : ∀ n, ∀ p ∈ T n, timestamp (.str p.startDate.isoformat) = some p.startDate)
    (hsince : filterValue timestamp q.dateFrom = some since)
    (htill : filterValue timestamp q.dateTo = some till) (hlimit : 0 ≤ q.limit) :
    Keyset.Paged StoredPlan.sortKey q.limit.toNat (selectedOf lower T q since till)
      StoredPlan.summary (ask lower json timestamp T q) none (nextCursor json)
      (Pagination.Marks json timestamp) where
  marks_first := .start
  answer n cursor bound hmarks := by
    rw [ask, SqlAlchemyPlanReadRepository.searchPlans,
      searchPlanRows_eq_page hmarks (T n) hsince htill hlimit]
    rfl
  marks_next n bound rows last hpage := by
    have hmem : last ∈ T n := by
      have hlast : last ∈ Keyset.page StoredPlan.sortKey q.limit.toNat
          (selectedOf lower T q since till n) bound := by
        rw [hpage]
        exact List.mem_append_right _ List.mem_cons_self
      exact (List.mem_filter.mp (Keyset.lt_of_mem_page hlast).1).1
    have hcursor : nextCursor json ((rows ++ [last]).map StoredPlan.summary) =
        some (encodeCursor json last.planId last.startDate.isoformat) := by
      simp [nextCursor, getNextCursor, StoredPlan.summary, Json.format]
    rw [hcursor]
    exact .after _ _ (htimestamp n last hmem)

omit [LinearOrder UUID] in
/-- Distinct ids make distinct sort keys. -/
lemma nodup_sortKey {plans : List StoredPlan} (hids : (plans.map (·.planId)).Nodup) :
    (plans.map StoredPlan.sortKey).Nodup := by
  refine List.Nodup.of_map (fun k : DateTime ×ₗ UUID => (ofLex k).2) ?_
  rwa [List.map_map]

/-- **A search loses and repeats nothing.** -/
theorem search_exact (lower : Char → Char) (json : JsonCodec)
    (timestamp : Json → Option DateTime) (T : ℕ → List StoredPlan) (q : PlanSearchQuery)
    (since till : Option DateTime) (n : ℕ)
    (hids : ∀ n, ((T n).map (·.planId)).Nodup)
    (htimestamp : ∀ n, ∀ p ∈ T n, timestamp (.str p.startDate.isoformat) = some p.startDate)
    (hplain : PlainQuery lower q)
    (hsince : filterValue timestamp q.dateFrom = some since)
    (htill : filterValue timestamp q.dateTo = some till) (hlimit : 1 ≤ q.limit)
    (hpages : ∀ m < n, pageAt lower json timestamp T q m ≠ some [])
    (hend : pageAt lower json timestamp T q n = some []) :
    ∃ rows : ℕ → List StoredPlan,
      (∀ m ≤ n, pageAt lower json timestamp T q m = some ((rows m).map StoredPlan.summary)) ∧
      (∀ m, ∀ p ∈ rows m, p ∈ T m ∧ Selected lower q since till p) ∧
      ((List.range n).flatMap rows).Pairwise (fun a b => b.sortKey < a.sortKey) ∧
      ∀ k, (∀ m ≤ n, ∃ p ∈ T m, Selected lower q since till p ∧ p.sortKey = k) →
        (((List.range n).flatMap rows).map StoredPlan.sortKey).count k = 1 := by
  have hkeys : ∀ n, ((selectedOf lower T q since till n).map StoredPlan.sortKey).Nodup :=
    fun n => (nodup_sortKey (hids n)).sublist ((List.filter_sublist ..).map _)
  have hpaged := paged lower json htimestamp hsince htill (by omega)
  obtain ⟨hanswer, hdown, hcomplete⟩ := hpaged.shows_walk (by omega) hkeys hpages hend
  have hdistinct : ((Keyset.walk StoredPlan.sortKey q.limit.toNat
      (selectedOf lower T q since till) n).map StoredPlan.sortKey).Nodup :=
    List.pairwise_map.mpr (hdown.imp fun h => h.ne')
  refine ⟨_, hanswer, fun m p hp => ?_, hdown, fun k hk => ?_⟩
  · obtain ⟨hmem, hselected⟩ := List.mem_filter.mp (Keyset.lt_of_mem_page hp).1
    exact ⟨hmem, (selected_iff hplain p).mp hselected⟩
  · refine List.count_eq_one_of_mem hdistinct (hcomplete k fun m hm => ?_)
    obtain ⟨p, hmem, hselected, rfl⟩ := hk m hm
    exact List.mem_map_of_mem (List.mem_filter.mpr ⟨hmem, (selected_iff hplain p).mpr hselected⟩)

end Search

/-! ### Two concerts of one moment -/

/-- A concert at the first moment of 1970. -/
def concertWithId (planId : UUID) : StoredPlan where
  planId := planId
  name := "Night Music"
  url := "https://example.com/night-music"
  imageUrl := none
  startDate := ⟨0⟩
  endDate := ⟨1⟩
  timezone := "UTC"
  venueName := "Town Hall"
  venueCity := "Bath"
  venueState := ""
  minPrice := Money.euros 10
  maxPrice := Money.euros 20
  ordered := Int.zero_lt_one
  zoned := by simp

/-- Two concerts, of which one is gone after the first call. -/
def twoConcerts : ℕ → List StoredPlan
  | 0 => [concertWithId .nil, concertWithId .max]
  | _ + 1 => [concertWithId .nil]

/-- The search for `night`, one plan a page. -/
def nightSearch : PlanSearchQuery := ⟨some "night", none, none, none, 1⟩

attribute [local instance] Pagination.idsByText in
theorem search_exact_twoConcerts :
    ∃ rows : ℕ → List StoredPlan,
      (∀ m ≤ 2, pageAt Char.toLower Pagination.plainJson Pagination.readEpoch twoConcerts
        nightSearch m = some ((rows m).map StoredPlan.summary)) ∧
      (∀ m, ∀ p ∈ rows m, p ∈ twoConcerts m ∧ Selected Char.toLower nightSearch none none p) ∧
      ((List.range 2).flatMap rows).Pairwise (fun a b => b.sortKey < a.sortKey) ∧
      ∀ k, (∀ m ≤ 2, ∃ p ∈ twoConcerts m,
          Selected Char.toLower nightSearch none none p ∧ p.sortKey = k) →
        (((List.range 2).flatMap rows).map StoredPlan.sortKey).count k = 1 := by
  have hids : ∀ n, ((twoConcerts n).map (·.planId)).Nodup := by
    rintro (_ | n)
    · decide
    · exact List.nodup_singleton _
  have hepoch : Pagination.readEpoch (.str (DateTime.mk 0).isoformat) = some ⟨0⟩ := by
    decide +kernel
  have htimestamp : ∀ n, ∀ p ∈ twoConcerts n,
      Pagination.readEpoch (.str p.startDate.isoformat) = some p.startDate := by
    intro n p hp
    have hmoment : p.startDate = ⟨0⟩ := by
      rcases n with _ | n
      · rcases List.mem_pair.mp hp with rfl | rfl <;> rfl
      · rw [List.mem_singleton.mp hp]
        rfl
    rw [hmoment, hepoch]
  have hplain : PlainQuery Char.toLower nightSearch := by
    refine ⟨by decide, fun text htext c hc => ?_⟩
    obtain rfl : "night" = text := Option.some.inj htext
    have hletters : "night".toList.all (fun c => decide (Like.Plain c.toLower)) = true := by
      decide +kernel
    exact of_decide_eq_true (List.all_eq_true.mp hletters c hc)
  -- page by page, as pages of the keyset walk
  have hwalk := paged Char.toLower Pagination.plainJson (q := nightSearch) htimestamp rfl rfl
    (by decide)
  have hempty : ∀ n, (∀ m < n, pageAt Char.toLower Pagination.plainJson Pagination.readEpoch
      twoConcerts nightSearch m ≠ some []) →
      (pageAt Char.toLower Pagination.plainJson Pagination.readEpoch twoConcerts nightSearch n =
        some [] ↔ Keyset.pageAt StoredPlan.sortKey 1
          (selectedOf Char.toLower twoConcerts nightSearch none none) n = []) :=
    fun n hbefore => hwalk.answerAt_eq_nil_iff (hwalk.marks hbefore)
  have hnonempty : ∀ m < 2, pageAt Char.toLower Pagination.plainJson Pagination.readEpoch
      twoConcerts nightSearch m ≠ some [] := by
    have hzero : pageAt Char.toLower Pagination.plainJson Pagination.readEpoch twoConcerts
        nightSearch 0 ≠ some [] := by
      rw [ne_eq, hempty 0 fun m hm => absurd hm (Nat.not_lt_zero m)]
      decide +kernel
    have hone : pageAt Char.toLower Pagination.plainJson Pagination.readEpoch twoConcerts
        nightSearch 1 ≠ some [] := by
      rw [ne_eq, hempty 1 fun m hm => by rwa [Nat.lt_one_iff.mp hm]]
      decide +kernel
    intro m hm
    obtain rfl | rfl : m = 0 ∨ m = 1 := by omega
    · exact hzero
    · exact hone
  have hend : pageAt Char.toLower Pagination.plainJson Pagination.readEpoch twoConcerts
      nightSearch 2 = some [] := by
    rw [hempty 2 hnonempty]
    decide +kernel
  exact search_exact Char.toLower Pagination.plainJson Pagination.readEpoch twoConcerts nightSearch
    none none 2 hids htimestamp hplain rfl rfl (by decide) hnonempty hend

end TicketGenius.SearchWalk
