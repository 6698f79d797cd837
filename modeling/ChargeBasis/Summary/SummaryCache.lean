import ChargeBasis.Summary.SummaryBuilder

/-!
Balance series kept by loan, so that each loan is summarised at most once. They are listed by loan,
but the sums over them may visit them in any order.
-/

namespace ChargeBasis

/-- The series built so far in ascending order of loans, and how often one was built. -/
structure SummaryCache where
  months : Nat
  summaries : List BalanceSeries
  computations : Nat
  deriving DecidableEq

namespace SummaryCache

/-- The cache without series, for sums over some number of months. -/
def empty (months : Nat) : SummaryCache :=
  ⟨months, [], 0⟩

/-- The cache without series for a period. -/
def forPeriod (period : ChargePeriod) : SummaryCache :=
  empty period.months

/-- The number of series. -/
def size (cache : SummaryCache) : Nat :=
  cache.summaries.length

/-- Whether there is no series. -/
def isEmpty (cache : SummaryCache) : Bool :=
  cache.summaries.isEmpty

/-- The series of a loan. -/
def get? (cache : SummaryCache) (loan : LoanId) : Option BalanceSeries :=
  cache.summaries.find? fun series => series.loan == loan

/-- Whether there is a series of the loan. -/
def contains (cache : SummaryCache) (loan : LoanId) : Bool :=
  (cache.get? loan).isSome

/-- Puts a series in front of the first one of a later loan. -/
def insertSeries (new : BalanceSeries) : List BalanceSeries → List BalanceSeries
  | [] => [new]
  | series :: rest =>
    if new.loan < series.loan then new :: series :: rest else series :: insertSeries new rest

/-- Putting a series in place makes one series more, by induction over the list. -/
theorem length_insertSeries (new : BalanceSeries) (summaries : List BalanceSeries)
    : (insertSeries new summaries).length = summaries.length + 1 := by
  induction summaries with
  | nil => rfl
  | cons series rest ih =>
    unfold insertSeries
    split
    · rfl
    · simp [ih]

/-- Adds a series that was built. -/
def insert (cache : SummaryCache) (series : BalanceSeries) : SummaryCache :=
  { cache with
    summaries := insertSeries series cache.summaries
    computations := cache.computations + 1 }

/-- Every added series counts. -/
theorem size_insert (cache : SummaryCache) (series : BalanceSeries)
    : (cache.insert series).size = cache.size + 1 :=
  length_insertSeries series cache.summaries

end SummaryCache

-------------------------------------------------------------------------------
-- Calls

/-- A computation that works on a cache and reads transactions. It may end early, and the cache that
it leaves is there in any case. -/
abbrev Caching (α : Type) := ExceptT Fault (StateT SummaryCache (StateM FetchLog)) α

namespace Caching

/-- Runs a computation on a cache after some requests: its outcome, the cache that it leaves, and
all requests made by then. -/
def runAfter {α : Type} (caching : Caching α) (cache : SummaryCache) (log : FetchLog)
    : (Except Fault α × SummaryCache) × FetchLog :=
  StateT.run (StateT.run (ExceptT.run caching) cache) log

/-- A computation that has nothing to do with the cache. -/
def ofReading {α : Type} (reading : Reading α) : Caching α :=
  ExceptT.mk (StateT.lift reading.run)

/-- The computation on a cache, with a charge error as a value and the cache that is left; an
overflow still ends it. -/
def attemptOn {α : Type} (caching : Caching α) (cache : SummaryCache)
    : Reading (Except ChargeError α × SummaryCache) :=
  ExceptT.mk do
    match ← StateT.run caching.run cache with
    | (.ok a, left) => return .ok (.ok a, left)
    | (.error (.failed e), left) => return .ok (.error e, left)
    | (.error (.overflowed kind), _) => return .error (.overflowed kind)

end Caching

namespace SummaryCache

/-- The series of a loan, which is built only if there is none, and is kept from then on. -/
def getOrCompute (builder : SummaryBuilder) (loan : Loan) (product : LoanProduct)
    (mode : SummaryMode) : Caching BalanceSeries := do
  match (← getThe SummaryCache).get? loan.id with
  | some series => return series
  | none =>
    let series ← Caching.ofReading (builder.build loan product mode)
    modifyThe SummaryCache (·.insert series)
    return series

-------------------------------------------------------------------------------
-- Sums over loans

/-- The cache as it is visited, with its series in some order. -/
def visitedIn (order : List BalanceSeries → List BalanceSeries) (cache : SummaryCache)
    : SummaryCache :=
  { cache with summaries := order cache.summaries }

/-- The series of demand loans, or of the others. -/
def ofCategory (cache : SummaryCache) (isDemandLoan : Bool) : List BalanceSeries :=
  cache.summaries.filter fun series => series.isDemandLoan == isDemandLoan

/-- The number of series of demand loans, or of the others. -/
def loanCount (cache : SummaryCache) (isDemandLoan : Bool) : Nat :=
  (cache.ofCategory isDemandLoan).length

/-- Adds amounts to totals, month by month. -/
def addMonthly : List Money → List Money → Except Overflow (List Money)
  | total :: totals, amount :: amounts => do
    let sum ← total.add amount
    return sum :: (← addMonthly totals amounts)
  | totals, _ => return totals

/-- Adds the values of one series to the totals; there has to be one for each month. -/
def addSeries (values : BalanceSeries → List Money) (totals : List Money) (series : BalanceSeries)
    : Except Fault (List Money) :=
  if (values series).length = totals.length then
    (addMonthly totals (values series) : Except Overflow (List Money))
  else
    throw (.failed
      (.inconsistentSeriesLength series.loan totals.length (values series).length))

/-- Adds up the values of several series, month by month, starting with nothing. -/
def aggregate (months : Nat) (values : BalanceSeries → List Money) (summaries : List BalanceSeries)
    : Except Fault (List Money) :=
  summaries.foldlM (addSeries values) (List.replicate months .zero)

/-- The outstanding balances of demand loans, or of the others, month by month. -/
def monthlyOutstanding (cache : SummaryCache) (isDemandLoan : Bool) : Except Fault (List Money) :=
  aggregate cache.months (·.outstanding) (cache.ofCategory isDemandLoan)

/-- The repayments of demand loans, or of the others, month by month. -/
def monthlyRepayments (cache : SummaryCache) (isDemandLoan : Bool) : Except Fault (List Money) :=
  aggregate cache.months (·.repayments) (cache.ofCategory isDemandLoan)

end SummaryCache

end ChargeBasis
