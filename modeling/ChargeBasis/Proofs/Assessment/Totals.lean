import ChargeBasis.Proofs.Assessment.Conclusion

/-!
One amount of money in several places. The sums by month, the totals by category, the report and the
events of a run add up the same series in different orders and agree, because every sum is exact and
every summarised loan is counted once. The sums by month visit the series in any order.
-/

namespace ChargeBasis

def Report.category (report : Report) (isDemandLoan : Bool) : CategorySection :=
  if isDemandLoan then report.demandLoans else report.termLoans

namespace Assessment

/-- What the events report for the summarised demand loans, or for the others. -/
def reportedTotals (assessment : Assessment) (isDemandLoan : Bool)
    : List (LoanId × Money × Money) :=
  (summaryTotals assessment.events).filter fun entry =>
    entry.1 ∈ (assessment.ofCategory isDemandLoan).map (·.loan)

/-- The loans that were summarised, each identifier once, by its first occurrence. -/
def summarisedLoans (assessment : Assessment) (loans : List Loan) : List Loan :=
  (firstOccurrences loans).filter fun loan => loan.id ∈ assessment.summaries.map (·.loan)

/-- All sums formed over some series are in range: by month over the series, over the months of
these sums, and over the months of each series on its own.
-/
structure SumsInRange (values : BalanceSeries → List Money) (summaries : List BalanceSeries)
    (sums : List Money)
    : Prop where
  byMonth
    : ∀ month, Money.PartialSumsInRange (summaries.map fun s => valueIn (values s) month)
  overMonths : Money.PartialSumsInRange (sums.map Money.toRat)
  ofLoan : ∀ s ∈ summaries, Money.PartialSumsInRange ((values s).map Money.toRat)

/-- The sums are in range if the magnitudes of all values together are, and those of the sums. -/
theorem SumsInRange.of_magnitude {values : BalanceSeries → List Money}
    {summaries : List BalanceSeries} {sums : List Money}
    (bound : (summaries.map fun s => magnitude (values s)).sum ≤ Money.exactLimit)
    (sumsBound : magnitude sums ≤ Money.exactLimit)
    : SumsInRange values summaries sums where
  byMonth := partialSumsInRange_byMonth bound
  overMonths := partialSumsInRange_of_magnitude sumsBound
  ofLoan := by
    intro s member
    apply partialSumsInRange_of_magnitude
    have listed : magnitude (values s) ∈ summaries.map fun s => magnitude (values s) :=
      List.mem_map_of_mem member
    refine (List.single_le_sum ?_ _ listed).trans bound
    intro part other
    obtain ⟨s, _, rfl⟩ := List.mem_map.mp other
    exact magnitude_nonneg _

/-- The series of a category in the order in which a run visits them. -/
def visitedIn (order : List BalanceSeries → List BalanceSeries) (assessment : Assessment)
    (isDemandLoan : Bool)
    : List BalanceSeries :=
  (order assessment.summaries).filter fun series => series.isDemandLoan == isDemandLoan

/-- All sums that are formed on the way to a result and its report are in range: those over the
series of a category as they are visited, and the one over the loans that were summarised.
-/
structure BooksInRange (assessment : Assessment)
    (order : List BalanceSeries → List BalanceSeries) (loans : List Loan)
    : Prop where
  outstanding
    : ∀ isDemandLoan,
        SumsInRange (·.outstanding) (assessment.visitedIn order isDemandLoan)
          (assessment.monthlyOutstanding isDemandLoan)
  repayments
    : ∀ isDemandLoan,
        SumsInRange (·.repayments) (assessment.visitedIn order isDemandLoan)
          (assessment.monthlyRepayments isDemandLoan)
  total
    : Money.PartialSumsInRange
        ((assessment.summarisedLoans loans).map fun loan => loan.totalOutstanding.toRat)

/-- If the sums of both categories can be formed, there is a report with these totals. -/
theorem exists_report {assessment : Assessment} {demand demandRepaid term termRepaid : Money}
    (demandSum : Money.sum (assessment.monthlyOutstanding true) = .ok demand)
    (demandRepaidSum : Money.sum (assessment.monthlyRepayments true) = .ok demandRepaid)
    (termSum : Money.sum (assessment.monthlyOutstanding false) = .ok term)
    (termRepaidSum : Money.sum (assessment.monthlyRepayments false) = .ok termRepaid)
    : ∃ report,
        assessment.report = .ok report
        ∧ report.demandLoans.totalOutstanding = demand
        ∧ report.demandLoans.totalRepayments = demandRepaid
        ∧ report.termLoans.totalOutstanding = term
        ∧ report.termLoans.totalRepayments = termRepaid := by
  simp only [monthlyOutstanding, monthlyRepayments, if_true, Bool.false_eq_true, if_false]
    at demandSum demandRepaidSum termSum termRepaidSum
  simp only [report, CategorySection.of, demandSum, demandRepaidSum, termSum, termRepaidSum, bind,
    Except.bind, pure, Except.pure]
  exact ⟨_, rfl, rfl, rfl, rfl, rfl⟩

end Assessment

section Records

variable {config : ChargeConfig} {portfolio : Portfolio} {period : ChargePeriod}
  {log after : FetchLog} {loans : List Loan} {verdicts : List Verdict} {progress : Progress}
  {order : List BalanceSeries → List BalanceSeries}

theorem map_eq_of_forall₂ {α β γ : Type} {R : α → β → Prop} {f : α → γ} {g : β → γ}
    {left : List α} {right : List β} (related : List.Forall₂ R left right)
    (same : ∀ a b, R a b → f a = g b)
    : left.map f = right.map g := by
  induction related with
  | nil => rfl
  | cons head _ ih => rw [List.map_cons, List.map_cons, same _ _ head, ih]

/-- The kept series have at most the places kept if the balances of the loans have. -/
theorem Progress.Records.settled
    (records : progress.Records config portfolio period log loans verdicts after)
    (places
      : ∀ loan ∈ loans, loan.principalOutstanding.Settled ∧ loan.totalOutstanding.Settled)
    : ∀ series ∈ progress.cache.summaries,
        (∀ m ∈ series.outstanding, m.Settled) ∧ ∀ m ∈ series.repayments, m.Settled := by
  intro series member
  obtain ⟨loan, verdict⟩ := records.mem_summaries.mp member
  obtain ⟨_, _, _, _, build⟩ := records.builds.exists_build verdict
  obtain ⟨principal, total⟩ := places loan (records.mem_loans verdict)
  exact config.settled_of_buildAlone principal total build

/-- A loan is that of a kept series of a category exactly if its own series is of the category. -/
theorem SummaryCache.mem_loans_ofCategory {summaries : List BalanceSeries}
    (ascending : Ascending summaries) {series : BalanceSeries} (member : series ∈ summaries)
    (isDemandLoan : Bool)
    : series.loan ∈ (summaries.filter fun s => s.isDemandLoan == isDemandLoan).map (·.loan)
      ↔ (series.isDemandLoan == isDemandLoan) = true := by
  have unique : (summaries.map (·.loan)).Nodup :=
    List.pairwise_map.mpr (ascending.imp fun less => UInt64.ne_of_lt less)
  rw [List.mem_map]
  constructor
  · intro listed
    obtain ⟨other, kept, same⟩ := listed
    obtain ⟨listed, category⟩ := List.mem_filter.mp kept
    cases List.inj_on_of_nodup_map unique listed member same
    exact category
  · intro category
    exact ⟨series, List.mem_filter.mpr ⟨member, category⟩, rfl⟩

/-- The series of a category and what the events report for it are related one by one, up to the
order of the series.
-/
theorem Progress.Records.exists_related
    (records : progress.Records config portfolio period log loans verdicts after)
    (isDemandLoan : Bool)
    : ∃ series,
        (progress.cache.ofCategory isDemandLoan).Perm series
        ∧ List.Forall₂ BalanceSeries.TotalsAre series
            ((summaryTotals progress.trail.events).filter fun entry =>
              entry.1 ∈ (progress.cache.ofCategory isDemandLoan).map (·.loan)) := by
  have kept
      : ∀ series ∈ (Verdict.built verdicts).map (·.2), series ∈ progress.cache.summaries :=
    fun series member => records.summaries.mem_iff.mpr member
  have category
      : ∀ series entry,
          series ∈ progress.cache.summaries ∧ series.TotalsAre entry
          → ((series.isDemandLoan == isDemandLoan) = true
            ↔ decide (entry.1 ∈ (progress.cache.ofCategory isDemandLoan).map (·.loan))
              = true) := by
    intro series entry reported
    obtain ⟨member, owner, _⟩ := reported
    rw [decide_eq_true_iff, owner, SummaryCache.ofCategory,
      SummaryCache.mem_loans_ofCategory records.ascending member]
  have related := List.rel_filter category
    ((List.forall₂_and_left _ _).mpr ⟨kept, records.events⟩)
  exact ⟨_, records.summaries.filter _, related.imp fun _ _ both => both.2⟩

/-- The sums by month over a category are exact in whatever order the series are visited, and so is
their total, which is what the events report for the category. The values are the balances or the
repayments of the series, and an entry of the events picks their sum.
-/
theorem Progress.Records.category_exact
    (records : progress.Records config portfolio period log loans verdicts after)
    (visits : (order progress.cache.summaries).Perm progress.cache.summaries)
    (isDemandLoan : Bool) (pick : LoanId × Money × Money → Money)
    {values : BalanceSeries → List Money} {sums : List Money}
    (picks
      : ∀ series entry,
          series.TotalsAre entry → Money.sum (values series) = .ok (pick entry))
    (lengths : ∀ s ∈ progress.cache.summaries, (values s).length = progress.cache.months)
    (settled : ∀ s ∈ progress.cache.summaries, ∀ m ∈ values s, m.Settled)
    (formed
      : SummaryCache.aggregate progress.cache.months values
          ((progress.cache.visitedIn order).ofCategory isDemandLoan)
        = .ok sums)
    (range
      : Assessment.SumsInRange values ((progress.cache.visitedIn order).ofCategory isDemandLoan)
          sums)
    : sums.length = period.months
      ∧ (∀ month,
          valueIn sums month
          = ((progress.cache.ofCategory isDemandLoan).map fun s =>
              valueIn (values s) month).sum)
      ∧ ∃ total,
          Money.sum sums = .ok total
          ∧ total.toRat
            = (((summaryTotals progress.trail.events).filter fun entry =>
                entry.1 ∈ (progress.cache.ofCategory isDemandLoan).map (·.loan)).map
                fun entry => (pick entry).toRat).sum := by
  have visited
      : ((progress.cache.visitedIn order).ofCategory isDemandLoan).Perm
          (progress.cache.ofCategory isDemandLoan) :=
    visits.filter _
  have listed
      : ∀ s ∈ (progress.cache.visitedIn order).ofCategory isDemandLoan,
          s ∈ progress.cache.summaries :=
    fun s member => visits.mem_iff.mp (List.mem_of_mem_filter member)
  obtain ⟨length, sumPlaces, byMonth, sum⟩ :=
    SummaryCache.exact_of_aggregate formed (fun s member => lengths s (listed s member))
      (fun s member => settled s (listed s member)) range.byMonth
  obtain ⟨total, summed, _, value⟩ := Money.sum_exact sumPlaces range.overMonths
  refine ⟨records.months ▸ length,
    fun month => (byMonth month).trans (visited.map _).sum_eq, total, summed, ?_⟩
  -- the events come in the order of the run and the series in that of the identifiers
  obtain ⟨series, kept, related⟩ := records.exists_related isDemandLoan
  have own
      : ∀ s entry,
          s ∈ (progress.cache.visitedIn order).ofCategory isDemandLoan ∧ s.TotalsAre entry
          → ((values s).map Money.toRat).sum = (pick entry).toRat := by
    intro s entry reported
    obtain ⟨member, totals⟩ := reported
    obtain ⟨ownTotal, ownSum, _, ownValue⟩ :=
      Money.sum_exact (settled s (listed s member)) (range.ofLoan s member)
    cases (picks s entry totals).symm.trans ownSum
    exact ownValue.symm
  have inCategory
      : ∀ s ∈ series, s ∈ (progress.cache.visitedIn order).ofCategory isDemandLoan :=
    fun s member => visited.mem_iff.mpr (kept.mem_iff.mpr member)
  rw [value, sum, ((visited.trans kept).map _).sum_eq,
    map_eq_of_forall₂ ((List.forall₂_and_left _ _).mpr ⟨inCategory, related⟩) own]

end Records

/-- The summarised loans are the first occurrences with a kept series. -/
theorem Progress.Records.built_loans {config : ChargeConfig} {portfolio : Portfolio}
    {period : ChargePeriod} {log after : FetchLog} {loans : List Loan} {verdicts : List Verdict}
    {progress : Progress}
    (records : progress.Records config portfolio period log loans verdicts after)
    : (Verdict.built verdicts).map (·.1)
      = (firstOccurrences loans).filter fun loan =>
          loan.id ∈ progress.cache.summaries.map (·.loan) := by
  have kept
      : ∀ verdict ∈ verdicts,
          (verdict.1.id ∈ progress.cache.summaries.map (·.loan)
            ↔ ∃ series, verdict.2 = .ok series) := by
    intro verdict member
    obtain ⟨loan, outcome⟩ := verdict
    rw [← SummaryCache.contains_iff, records.contains_iff, List.mem_map]
    constructor
    · intro listed
      obtain ⟨⟨other, series⟩, built, same⟩ := listed
      have verdict := Verdict.mem_built.mp built
      have one := List.inj_on_of_nodup_map records.nodup_ids verdict member same
      exact ⟨series, (Prod.mk.inj one).2.symm⟩
    · intro summarised
      obtain ⟨series, rfl⟩ := summarised
      exact ⟨(loan, series), Verdict.mem_built.mpr member, rfl⟩
  rw [← records.decided]
  clear records
  induction verdicts with
  | nil => rfl
  | cons verdict rest ih =>
      have tail := ih fun other member => kept other (by simp [member])
      have head := kept verdict (by simp)
      rcases verdict with ⟨loan, error | series⟩
      · have absent : loan.id ∉ progress.cache.summaries.map (·.loan) := by
          rw [head]
          intro summarised
          obtain ⟨series, same⟩ := summarised
          cases same
        rw [List.map_cons, List.filter_cons_of_neg (by simpa using absent)]
        exact tail
      · have present : loan.id ∈ progress.cache.summaries.map (·.loan) := head.mpr ⟨series, rfl⟩
        rw [List.map_cons, List.filter_cons_of_pos (by simpa using present)]
        exact congrArg (loan :: ·) tail

/-- The total outstanding of a run is exactly that of the summarised loans. -/
theorem Progress.Records.total_exact {config : ChargeConfig} {portfolio : Portfolio}
    {period : ChargePeriod} {log after : FetchLog} {loans : List Loan} {verdicts : List Verdict}
    {progress : Progress}
    (records : progress.Records config portfolio period log loans verdicts after)
    (places : ∀ loan ∈ loans, loan.totalOutstanding.Settled)
    (range
      : Money.PartialSumsInRange
          (((firstOccurrences loans).filter fun loan =>
              loan.id ∈ progress.cache.summaries.map (·.loan)).map fun loan =>
            loan.totalOutstanding.toRat))
    : progress.totalOutstanding.toRat
      = (((firstOccurrences loans).filter fun loan =>
            loan.id ∈ progress.cache.summaries.map (·.loan)).map fun loan =>
          loan.totalOutstanding.toRat).sum := by
  rw [← records.built_loans] at range ⊢
  have loanPlaces
      : ∀ m ∈ (Verdict.built verdicts).map (·.1.totalOutstanding), m.Settled := by
    intro m member
    obtain ⟨⟨loan, series⟩, built, rfl⟩ := List.mem_map.mp member
    exact places loan (records.mem_loans (Verdict.mem_built.mp built))
  rw [List.map_map] at range ⊢
  obtain ⟨total, summed, _, value⟩ :=
    Money.sum_exact loanPlaces (by simpa [Function.comp_def] using range)
  rw [Except.ok.inj (records.total.symm.trans summed), value, List.map_map]
  rfl

namespace ChargeConfig

variable {config : ChargeConfig} {portfolio : Portfolio} {log after : FetchLog}
  {assessment : Assessment} {order : List BalanceSeries → List BalanceSeries}

/-- The books of a run balance, in whatever order it visits the series. For both categories the sums
by month are the sums over the series of the category; the total of the report is that of the result
and of the event on the category, and it is what the events on the loans of the category report
together, as is the total of the repayments; and the total outstanding is that of the summarised
loans, each counted once.
-/
theorem assessIn_balances
    (run : (assessIn order config portfolio).runAfter log = (.ok assessment, after))
    (visits : (order assessment.summaries).Perm assessment.summaries)
    (places
      : ∀ loan ∈ portfolio.loans,
          loan.principalOutstanding.Settled ∧ loan.totalOutstanding.Settled)
    (range : assessment.BooksInRange order portfolio.loans)
    : (∀ isDemandLoan,
        (assessment.monthlyOutstanding isDemandLoan).length = assessment.period.months
        ∧ (assessment.monthlyRepayments isDemandLoan).length = assessment.period.months
        ∧ ∀ month,
            valueIn (assessment.monthlyOutstanding isDemandLoan) month
              = ((assessment.ofCategory isDemandLoan).map fun s =>
                  valueIn s.outstanding month).sum
            ∧ valueIn (assessment.monthlyRepayments isDemandLoan) month
              = ((assessment.ofCategory isDemandLoan).map fun s =>
                  valueIn s.repayments month).sum)
      ∧ (∃ report,
          assessment.report = .ok report
          ∧ assessment.demandLoanTotal = .ok report.demandLoans.totalOutstanding
          ∧ assessment.termLoanTotal = .ok report.termLoans.totalOutstanding
          ∧ categoryTotals assessment.events
            = [(true, report.demandLoans.totalOutstanding),
                (false, report.termLoans.totalOutstanding)]
          ∧ ∀ isDemandLoan,
              (report.category isDemandLoan).totalOutstanding.toRat
                = ((assessment.reportedTotals isDemandLoan).map fun entry =>
                    entry.2.1.toRat).sum
              ∧ (report.category isDemandLoan).totalRepayments.toRat
                = ((assessment.reportedTotals isDemandLoan).map fun entry =>
                    entry.2.2.toRat).sum)
      ∧ assessment.totalOutstanding.toRat
        = ((assessment.summarisedLoans portfolio.loans).map fun loan =>
            loan.totalOutstanding.toRat).sum := by
  obtain ⟨period, verdicts, progress, _, records, concluded⟩ := exists_records run
  have concludes := concludes_of_concludeIn concluded
  rw [concludes.summaries] at visits
  have settled := records.settled places
  have category (isDemandLoan : Bool)
      : assessment.ofCategory isDemandLoan = progress.cache.ofCategory isDemandLoan := by
    rw [Assessment.ofCategory, concludes.summaries]
    rfl
  have visited (isDemandLoan : Bool)
      : assessment.visitedIn order isDemandLoan
        = (progress.cache.visitedIn order).ofCategory isDemandLoan := by
    rw [Assessment.visitedIn, concludes.summaries]
    rfl
  have outstanding (isDemandLoan : Bool) :=
    records.category_exact visits isDemandLoan (fun entry => entry.2.1)
      (fun _ _ totals => totals.2.1) (fun s member => (records.lengths s member).1)
      (fun s member => (settled s member).1) (concludes.outstanding isDemandLoan)
      (visited isDemandLoan ▸ range.outstanding isDemandLoan)
  have repayments (isDemandLoan : Bool) :=
    records.category_exact visits isDemandLoan (fun entry => entry.2.2)
      (fun _ _ totals => totals.2.2) (fun s member => (records.lengths s member).2)
      (fun s member => (settled s member).2) (concludes.repayments isDemandLoan)
      (visited isDemandLoan ▸ range.repayments isDemandLoan)
  obtain ⟨demandEvent, termEvent, demandTotal, termTotal, totals⟩ :=
    concludes.exists_categoryTotals records.unfinished
  have reported (isDemandLoan : Bool)
      : assessment.reportedTotals isDemandLoan
        = (summaryTotals progress.trail.events).filter fun entry =>
            entry.1 ∈ (progress.cache.ofCategory isDemandLoan).map (·.loan) := by
    rw [Assessment.reportedTotals, concludes.summaryTotals_eq, category]
  refine ⟨?_, ?_, ?_⟩
  · intro isDemandLoan
    obtain ⟨months, byMonth, _⟩ := outstanding isDemandLoan
    obtain ⟨repaidMonths, repaidByMonth, _⟩ := repayments isDemandLoan
    rw [category, concludes.period]
    exact ⟨months, repaidMonths, fun month => ⟨byMonth month, repaidByMonth month⟩⟩
  · obtain ⟨_, _, demand, demandSum, demandValue⟩ := outstanding true
    obtain ⟨_, _, term, termSum, termValue⟩ := outstanding false
    obtain ⟨_, _, demandRepaid, demandRepaidSum, demandRepaidValue⟩ := repayments true
    obtain ⟨_, _, termRepaid, termRepaidSum, termRepaidValue⟩ := repayments false
    cases demandTotal.symm.trans demandSum
    cases termTotal.symm.trans termSum
    obtain ⟨report, made, rfl, rfl, rfl, rfl⟩ :=
      Assessment.exists_report demandSum demandRepaidSum termSum termRepaidSum
    refine ⟨report, made, demandTotal, termTotal, totals, ?_⟩
    intro isDemandLoan
    rw [reported]
    cases isDemandLoan with
    | true => exact ⟨demandValue, demandRepaidValue⟩
    | false => exact ⟨termValue, termRepaidValue⟩
  · have summarised
        : assessment.summarisedLoans portfolio.loans
          = (firstOccurrences portfolio.loans).filter fun loan =>
              loan.id ∈ progress.cache.summaries.map (·.loan) := by
      rw [Assessment.summarisedLoans, concludes.summaries]
    rw [concludes.totalOutstanding, summarised]
    exact records.total_exact (fun loan member => (places loan member).2)
      (summarised ▸ range.total)

/-- The books of the sample portfolio balance when its series are visited from the last one on: the
demand loan is weighed by days and the term loan counted by months.
-/
theorem assessIn_balances_sample
    : ∃ assessment after,
        (assessIn List.reverse Sample.collecting Sample.portfolio).runAfter []
          = (.ok assessment, after)
        ∧ assessment.summaries.reverse.Perm assessment.summaries
        ∧ (∀ loan ∈ Sample.portfolio.loans,
            loan.principalOutstanding.Settled ∧ loan.totalOutstanding.Settled)
        ∧ assessment.BooksInRange List.reverse Sample.portfolio.loans
        ∧ assessment.totalOutstanding.toRat = 2000
        ∧ ∃ report,
            assessment.report = .ok report
            ∧ report.demandLoans.totalOutstanding.toRat
              = ((assessment.reportedTotals true).map fun entry => entry.2.1.toRat).sum := by
  have evaluated
      : ((assessIn List.reverse Sample.collecting Sample.portfolio).runAfter []).1.toOption.any
          (fun assessment =>
            [true, false].all fun isDemandLoan =>
              ((assessment.visitedIn List.reverse isDemandLoan).map fun s =>
                  magnitude s.outstanding).sum
                ≤ Money.exactLimit
              ∧ magnitude (assessment.monthlyOutstanding isDemandLoan) ≤ Money.exactLimit
              ∧ ((assessment.visitedIn List.reverse isDemandLoan).map fun s =>
                    magnitude s.repayments).sum
                ≤ Money.exactLimit
              ∧ magnitude (assessment.monthlyRepayments isDemandLoan) ≤ Money.exactLimit
              ∧ (assessment.summarisedLoans Sample.portfolio.loans).map (·.totalOutstanding)
                = [.ofMajor 1000, .ofMajor 1000])
        = true := by
    decide +kernel
  have places
      : ∀ loan ∈ Sample.portfolio.loans,
          loan.principalOutstanding.Settled ∧ loan.totalOutstanding.Settled := by
    decide +kernel
  rcases run : (assessIn List.reverse Sample.collecting Sample.portfolio).runAfter []
    with ⟨fault | assessment, after⟩
  · rw [run] at evaluated
    cases evaluated
  · simp only [run, Except.toOption, Option.any_some, List.all_eq_true, decide_eq_true_eq]
      at evaluated
    have bounds (isDemandLoan : Bool) := evaluated isDemandLoan (by cases isDemandLoan <;> simp)
    have loans := (bounds true).2.2.2.2
    have range : assessment.BooksInRange List.reverse Sample.portfolio.loans := {
      outstanding := fun isDemandLoan =>
        .of_magnitude (bounds isDemandLoan).1 (bounds isDemandLoan).2.1
      repayments := fun isDemandLoan =>
        .of_magnitude (bounds isDemandLoan).2.2.1 (bounds isDemandLoan).2.2.2.1
      total := by
        have amounts := partialSumsInRange_of_magnitude
          (show magnitude [.ofMajor 1000, .ofMajor 1000] ≤ Money.exactLimit by decide +kernel)
        rwa [← loans, List.map_map] at amounts
    }
    have visits := assessment.summaries.reverse_perm
    obtain ⟨_, ⟨report, made, _, _, _, reported⟩, total⟩ :=
      assessIn_balances run visits places range
    refine ⟨assessment, after, rfl, visits, places, range, ?_, report, made, (reported true).1⟩
    have values := congrArg (List.map Money.toRat) loans
    rw [List.map_map] at values
    rw [total]
    exact (congrArg List.sum values).trans (by decide +kernel)

end ChargeConfig

end ChargeBasis
