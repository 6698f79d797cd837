import ChargeBasis.Proofs.Summary.Modes

/-!
Where the two modes measure the same. If a loan owes nothing but principal and its repayments repay
nothing else, both modes rebuild the same balances. They report the same repayments, and the
weighted sum of a month lies between the closing balance of the monthly mode and the balance before
the repayments of the month, each held for all days of the month on which the loan is running.
-/

namespace ChargeBasis

-----------------------------------------------------------------------------------------
-- Sums over a history
-----------------------------------------------------------------------------------------

section RepaidOn

variable {amount other : LoanTransaction → Money} {history : List LoanTransaction}
  {p q : Date → Prop} [DecidablePred p] [DecidablePred q]

theorem repaidOn_amount_congr
    (same : ∀ t ∈ history, t.isRepayment = true → (amount t).toRat = (other t).toRat)
    (days : Date → Prop) [DecidablePred days]
    : repaidOn amount history days = repaidOn other history days := by
  unfold repaidOn
  congr 1
  apply List.map_congr_left
  intro t member
  obtain ⟨listed, counts⟩ := List.mem_filter.mp member
  exact same t listed (of_decide_eq_true counts).1

theorem repaidOn_nonneg
    (nonneg : ∀ t ∈ history, t.isRepayment = true → 0 ≤ (amount t).toRat)
    (days : Date → Prop) [DecidablePred days]
    : 0 ≤ repaidOn amount history days := by
  apply List.sum_nonneg
  intro value member
  obtain ⟨t, counted, rfl⟩ := List.mem_map.mp member
  obtain ⟨listed, counts⟩ := List.mem_filter.mp counted
  exact nonneg t listed (of_decide_eq_true counts).1

/-- On more days at least as much is repaid. -/
theorem repaidOn_mono (nonneg : ∀ t ∈ history, t.isRepayment = true → 0 ≤ (amount t).toRat)
    (more : ∀ day, p day → q day)
    : repaidOn amount history p ≤ repaidOn amount history q := by
  have parts : repaidOn amount history q
      = repaidOn amount history p + repaidOn amount history fun day => q day ∧ ¬ p day :=
    repaidOn_union (fun day => by have within := more day; tauto) (fun day => by tauto)
  have rest := repaidOn_nonneg nonneg fun day => q day ∧ ¬ p day
  linarith

end RepaidOn

-----------------------------------------------------------------------------------------
-- Loans that owe nothing but principal
-----------------------------------------------------------------------------------------

/-- The loan owes nothing but principal, and its repayments repay nothing else, take nothing back
and do not come before its disbursement.
-/
structure Loan.OwesPrincipalOnly (loan : Loan) (history : List LoanTransaction) : Prop where
  outstanding : loan.principalOutstanding.toRat = loan.totalOutstanding.toRat
  portion
    : ∀ t ∈ history, t.isRepayment = true → t.amount.toRat = t.principalPortion.toRat
  nonneg : ∀ t ∈ history, t.isRepayment = true → 0 ≤ t.principalPortion.toRat
  disbursed : ∀ t ∈ history, t.isRepayment = true → loan.disbursementDate ≤ t.date

section OwesPrincipalOnly

variable {loan : Loan} {history : List LoanTransaction} {periodEnd : Date} {window : MonthWindow}

/-- Both modes rebuild the same balances. -/
theorem Loan.OwesPrincipalOnly.balances_eq (only : loan.OwesPrincipalOnly history) (day : Int)
    : SummaryMode.monthly.balances loan history periodEnd day
      = SummaryMode.daily.balances loan history periodEnd day := by
  change loan.totalOutstanding.toRat + repaidOn (·.amount) history _
    = loan.principalOutstanding.toRat + repaidOn (·.principalPortion) history _
  rw [only.outstanding, repaidOn_amount_congr only.portion]

/-- Both modes count the same repayments in a month. -/
theorem Loan.OwesPrincipalOnly.repaidOn_eq (only : loan.OwesPrincipalOnly history)
    (window : MonthWindow)
    : repaidOn SummaryMode.monthly.amount history (SummaryMode.monthly.RepaysOn loan window)
      = repaidOn SummaryMode.daily.amount history (SummaryMode.daily.RepaysOn loan window) := by
  refine (repaidOn_amount_congr only.portion _).trans (repaidOn_congr ?_)
  intro t listed repays
  exact (and_iff_left (only.disbursed t listed repays)).symm

/-- On a day of a month at least the balance at its end is owed, and at most what is repaid in the
month besides.
-/
theorem Loan.OwesPrincipalOnly.balance_bounds (only : loan.OwesPrincipalOnly history)
    (within : window.lastDay ≤ periodEnd) {day : Int}
    (counted : day ∈ SummaryMode.daily.daysCounted loan window)
    : SummaryMode.monthly.balances loan history periodEnd window.lastDay.dayNumber
          ≤ SummaryMode.daily.balances loan history periodEnd day
      ∧ SummaryMode.daily.balances loan history periodEnd day
        ≤ SummaryMode.monthly.balances loan history periodEnd window.lastDay.dayNumber
          + repaidOn SummaryMode.monthly.amount history
              (SummaryMode.monthly.RepaysOn loan window) := by
  obtain ⟨first, last⟩ := Finset.mem_Icc.mp (Finset.mem_filter.mp counted).1
  have earlier
      : SummaryMode.daily.balances loan history periodEnd day
        = SummaryMode.daily.balances loan history periodEnd window.lastDay.dayNumber
          + repaidOn (·.principalPortion) history fun date =>
              day < date.dayNumber ∧ date ≤ window.lastDay :=
    balanceAt_earlier last within
  have least := repaidOn_nonneg only.nonneg fun date =>
    day < date.dayNumber ∧ date ≤ window.lastDay
  have most
      : repaidOn (·.principalPortion) history
            (fun date => day < date.dayNumber ∧ date ≤ window.lastDay)
        ≤ repaidOn SummaryMode.monthly.amount history
            (SummaryMode.monthly.RepaysOn loan window) := by
    refine (repaidOn_mono only.nonneg ?_).trans_eq (repaidOn_amount_congr only.portion _).symm
    intro date days
    have after := days.1
    refine ⟨?_, days.2⟩
    change window.firstDay.dayNumber ≤ date.dayNumber
    omega
  rw [only.balances_eq, earlier]
  constructor <;> linarith

/-- The balances of the days of a month add up to a value between the two bounds for a day, held on
all these days.
-/
theorem Loan.OwesPrincipalOnly.sum_balances_bounds (only : loan.OwesPrincipalOnly history)
    (within : window.lastDay ≤ periodEnd)
    : SummaryMode.monthly.balances loan history periodEnd window.lastDay.dayNumber
            * (SummaryMode.daily.daysCounted loan window).card
          ≤ ∑ day ∈ SummaryMode.daily.daysCounted loan window,
              SummaryMode.daily.balances loan history periodEnd day
      ∧ ∑ day ∈ SummaryMode.daily.daysCounted loan window,
            SummaryMode.daily.balances loan history periodEnd day
        ≤ (SummaryMode.monthly.balances loan history periodEnd window.lastDay.dayNumber
            + repaidOn SummaryMode.monthly.amount history
                (SummaryMode.monthly.RepaysOn loan window))
          * (SummaryMode.daily.daysCounted loan window).card := by
  have least := Finset.card_nsmul_le_sum (SummaryMode.daily.daysCounted loan window)
    (SummaryMode.daily.balances loan history periodEnd) _
    fun _ counted => (only.balance_bounds within counted).1
  have most := Finset.sum_le_card_nsmul (SummaryMode.daily.daysCounted loan window)
    (SummaryMode.daily.balances loan history periodEnd) _
    fun _ counted => (only.balance_bounds within counted).2
  rw [nsmul_eq_mul, mul_comm] at least most
  exact ⟨least, most⟩

end OwesPrincipalOnly

-----------------------------------------------------------------------------------------
-- Series
-----------------------------------------------------------------------------------------

namespace SummaryBuilder

/-- For a loan that owes nothing but principal both modes have a series, whatever requests were made
before. They report the same repayments in every month, and nothing in the months before the loan is
running. In every other month the weighted sum of the daily mode is at least the closing balance of
the monthly mode, held on every day of the month from the disbursement on, and at most the closing
balance with the repayments of the month added back, held on these days.
-/
theorem build_modes_agree {builder : SummaryBuilder} {loan : Loan}
    {history : List LoanTransaction} {log : SummaryMode → FetchLog} (product : LoanProduct)
    (averaging : builder.averaging = .weightedSum)
    (reports : builder.source.Reports loan.id history)
    (settled : loan.principalOutstanding.Settled ∧ loan.totalOutstanding.Settled)
    (places : ∀ t ∈ history, t.amount.Settled ∧ t.principalPortion.Settled)
    (only : loan.OwesPrincipalOnly history)
    (range
      : ∀ mode : SummaryMode,
          loan.EveryAnswer builder.source (log mode) builder.period.windows
            (mode.InRange loan history builder.period.toDate))
    : ∃ monthly daily : BalanceSeries,
        ((builder.build loan product .monthly).runAfter (log .monthly)).1 = .ok monthly
        ∧ ((builder.build loan product .daily).runAfter (log .daily)).1 = .ok daily
        ∧ daily.repayments.map (·.toRat) = monthly.repayments.map (·.toRat)
        ∧ ∀ (month : Nat) (window : MonthWindow),
            builder.period.windows.reverse[month]? = some window
            → ∃ closing repaid weighted : Money,
                monthly.outstanding[month]? = some closing
                ∧ monthly.repayments[month]? = some repaid
                ∧ daily.outstanding[month]? = some weighted
                ∧ if window.lastDay ≤ loan.disbursementDate then
                    closing.toRat = 0 ∧ repaid.toRat = 0 ∧ weighted.toRat = 0
                  else
                    let days : Finset Int :=
                      (Finset.Icc window.firstDay.dayNumber window.lastDay.dayNumber).filter
                        fun day => loan.disbursementDate.dayNumber ≤ day
                    closing.toRat * days.card ≤ weighted.toRat
                    ∧ weighted.toRat ≤ (closing.toRat + repaid.toRat) * days.card := by
  obtain ⟨monthly, monthlyBuilt, closings, repayments⟩ :=
    @build_in_mode builder loan history .monthly (log .monthly) product nofun reports settled.2
      (fun t listed => (places t listed).1) (range .monthly)
  obtain ⟨daily, dailyBuilt, weights, principal⟩ :=
    @build_in_mode builder loan history .daily (log .daily) product (fun _ => averaging) reports
      settled.1 (fun t listed => (places t listed).2) (range .daily)
  refine ⟨monthly, daily, by rw [monthlyBuilt], by rw [dailyBuilt], ?_, ?_⟩
  · rw [principal, repayments]
    exact congrArg (fun value => loan.valuesIn value builder.period.windows.reverse)
      (funext fun window => (only.repaidOn_eq window).symm)
  · intro month window place
    obtain ⟨closing, closingPlace, closingValue⟩ := loan.exists_reportedIn closings place
    obtain ⟨repaid, repaidPlace, repaidValue⟩ := loan.exists_reportedIn repayments place
    obtain ⟨weighted, weightedPlace, weightedValue⟩ := loan.exists_reportedIn weights place
    refine ⟨closing, repaid, weighted, closingPlace, repaidPlace, weightedPlace, ?_⟩
    by_cases idle : window.lastDay ≤ loan.disbursementDate
    · have starts : loan.startsAfter window = true := decide_eq_true idle
      rw [if_pos idle]
      simp only [starts, if_true] at closingValue repaidValue weightedValue
      exact ⟨closingValue, repaidValue, weightedValue⟩
    · have running : loan.startsAfter window = false := decide_eq_false idle
      have member : window ∈ builder.period.windows :=
        List.mem_reverse.mp (List.mem_of_getElem? place)
      have within := (builder.period.monthsBackFrom_windows.forall_mem member).2
      rw [if_neg idle]
      simp only [running, Bool.false_eq_true, if_false, SummaryMode.daysCounted,
        Finset.sum_singleton] at closingValue repaidValue weightedValue
      rw [closingValue, repaidValue, weightedValue]
      exact only.sum_balances_bounds within

end SummaryBuilder

namespace Sample

/-- The loan, owing nothing but principal. -/
def principalLoan : Loan :=
  { loan with totalOutstanding := loan.principalOutstanding }

/-- Repayments of nothing but principal, and a waiver, which is none. -/
def principalHistory : List LoanTransaction :=
  [.repayment 7 (day .february 21 (by decide)) (.ofMajor 100) (.ofMajor 100),
    ⟨7, day .march 11 (by decide), .waiver, .ofMajor 5, .ofMajor 3⟩,
    .repayment 7 quarter.toDate (.ofMajor 40) (.ofMajor 40)]

/-- The ledger with this history. -/
def principalLedger : Ledger := ⟨principalHistory, []⟩

theorem principalReports
    : principalLedger.source.Reports principalLoan.id principalHistory :=
  Ledger.reports_source rfl

theorem owesPrincipalOnly
    : principalLoan.OwesPrincipalOnly principalHistory where
  outstanding := rfl
  portion := by decide +kernel
  nonneg := by decide +kernel
  disbursed := by decide +kernel

theorem principalInRange (mode : SummaryMode) (log : FetchLog)
    : principalLoan.EveryAnswer principalLedger.source log quarter.windows
        (mode.InRange principalLoan principalHistory quarter.toDate) := by
  cases mode with
  | monthly => exact Loan.monthlyInRange_of_turnover principalReports (by decide +kernel)
  | daily => exact Loan.dailyInRange_of_turnover principalReports (by decide +kernel)

end Sample

/-- Both modes for a loan with a repayment on the sixth of its fifteen days in February: the closing
balance is 840, and the weighted sum lies between 15 times 840 and 15 times 940.
-/
theorem SummaryBuilder.build_modes_agree_sample
    : let builder : SummaryBuilder :=
        ⟨Sample.quarter, Sample.principalLedger.source, .weightedSum, 2⟩
      builder.source.Reports Sample.principalLoan.id Sample.principalHistory
      ∧ (Sample.principalLoan.principalOutstanding.Settled
        ∧ Sample.principalLoan.totalOutstanding.Settled)
      ∧ (∀ t ∈ Sample.principalHistory, t.amount.Settled ∧ t.principalPortion.Settled)
      ∧ Sample.principalLoan.OwesPrincipalOnly Sample.principalHistory
      ∧ (∀ mode : SummaryMode,
          Sample.principalLoan.EveryAnswer builder.source [] builder.period.windows
            (mode.InRange Sample.principalLoan Sample.principalHistory builder.period.toDate))
      ∧ ∃ monthly daily : BalanceSeries,
          ((builder.build Sample.principalLoan Sample.product .monthly).runAfter []).1 = .ok monthly
          ∧ ((builder.build Sample.principalLoan Sample.product .daily).runAfter []).1 = .ok daily
          ∧ daily.repayments.map (·.toRat) = monthly.repayments.map (·.toRat)
          ∧ ∃ weighted,
              daily.outstanding[1]? = some weighted
              ∧ 840 * 15 ≤ weighted.toRat
              ∧ weighted.toRat ≤ 940 * 15 := by
  intro builder
  have settled
      : Sample.principalLoan.principalOutstanding.Settled
        ∧ Sample.principalLoan.totalOutstanding.Settled := by
    decide +kernel
  have places
      : ∀ t ∈ Sample.principalHistory, t.amount.Settled ∧ t.principalPortion.Settled := by
    decide +kernel
  have range (mode : SummaryMode) := Sample.principalInRange mode []
  obtain ⟨monthly, daily, monthlyBuilt, dailyBuilt, repayments, months⟩ :=
    @build_modes_agree builder Sample.principalLoan Sample.principalHistory (fun _ => [])
      Sample.product rfl Sample.principalReports settled places Sample.owesPrincipalOnly range
  refine ⟨Sample.principalReports, settled, places, Sample.owesPrincipalOnly, range, monthly, daily,
    monthlyBuilt, dailyBuilt, repayments, ?_⟩
  obtain ⟨closing, repaid, weighted, closingPlace, repaidPlace, weightedPlace, bounds⟩ :=
    months 1 ⟨Sample.day .february 1 (by decide), Sample.day .february 29 (by decide)⟩
      (by decide +kernel)
  have figures
      : (((builder.build Sample.principalLoan Sample.product .monthly).runAfter []).1.toOption.map
          fun series => (series.outstanding[1]?.map (·.toRat), series.repayments[1]?.map (·.toRat)))
        = some (some 840, some 100) := by
    decide +kernel
  rw [monthlyBuilt] at figures
  simp only [Except.toOption, Option.map_some, closingPlace, repaidPlace, Option.some.injEq,
    Prod.mk.injEq] at figures
  have days
      : ((Finset.Icc (Sample.day .february 1 (by decide)).dayNumber
            (Sample.day .february 29 (by decide)).dayNumber).filter
          fun day => Sample.principalLoan.disbursementDate.dayNumber ≤ day).card = 15 := by
    decide +kernel
  rw [if_neg (by decide +kernel)] at bounds
  simp only [days, figures.1, figures.2] at bounds
  norm_num at bounds ⊢
  exact ⟨weighted, weightedPlace, bounds⟩

end ChargeBasis
