import ChargeBasis.Proofs.Source.Polling
import ChargeBasis.Proofs.Summary.Failures
import ChargeBasis.Proofs.Summary.Reconstruction

/-!
What a series asks for. Building a series makes one request for each month in which the loan is
running, the latest first, whatever the mode and the answers, up to the first error. So the days
asked for go back from the end of the period without a gap, and none is asked for twice.
-/

namespace ChargeBasis

-----------------------------------------------------------------------------------------
-- The days asked for
-----------------------------------------------------------------------------------------

/-- The requests go back from a day without a gap and without an overlap: the latest one ends on the
day, each of the others on the day before the one before it starts, and every day that is not before
all of them is asked for once.
-/
structure TilesBackFrom (last : Date) (requests : List Fetch) : Prop where
  ends : ∀ latest ∈ requests.head?, latest.last = last
  contiguous : requests.IsChain fun later earlier => earlier.last.next? = some later.first
  disjoint : requests.Pairwise fun later earlier => earlier.last < later.first
  once
    : ∀ oldest ∈ requests.getLast?,
        ∀ day : Date,
          (requests.countP fun request => request.first ≤ day ∧ day ≤ request.last)
          = if oldest.first ≤ day ∧ day ≤ last then 1 else 0

namespace MonthWindow

variable {last : Int} {windows : List MonthWindow}

/-- The windows before one in time end before it starts. -/
theorem MonthsBackFrom.pairwise (months : MonthsBackFrom last windows)
    : windows.Pairwise fun window previous => previous.lastDay < window.firstDay := by
  induction windows generalizing last with
  | nil => exact .nil
  | cons window earlier ih =>
      obtain ⟨_, _, rest⟩ := months
      refine .cons (fun previous member => ?_) (ih rest)
      have ends := (rest.forall_mem member).2
      change previous.lastDay.dayNumber < window.firstDay.dayNumber
      omega

/-- Every day from the start of the oldest window on is in one window, by induction over the
windows.
-/
theorem MonthsBackFrom.countP_eq (months : MonthsBackFrom last windows) {oldest : MonthWindow}
    (member : oldest ∈ windows.getLast?) (day : Date)
    : (windows.countP fun window => window.firstDay ≤ day ∧ day ≤ window.lastDay)
      = if oldest.firstDay ≤ day ∧ day.dayNumber ≤ last then 1 else 0 := by
  induction windows generalizing last with
  | nil => cases member
  | cons window earlier ih =>
      obtain ⟨whole, ends, rest⟩ := months
      cases earlier with
      | nil =>
          cases member
          rw [← ends]
          simp only [List.countP_cons, List.countP_nil, decide_eq_true_eq, Nat.zero_add]
          rfl
      | cons previous others =>
          rw [List.getLast?_cons_cons] at member
          obtain ⟨month, before⟩ := rest.forall_mem (List.mem_of_getLast? member)
          have starts := month.first_le_last
          have span := whole.first_le_last
          rw [List.countP_cons, ih rest member]
          simp only [decide_eq_true_eq]
          -- the day is in the window, in one of those before it, or in none
          change (if oldest.firstDay.dayNumber ≤ day.dayNumber
                    ∧ day.dayNumber ≤ window.firstDay.dayNumber - 1 then 1 else 0)
              + (if window.firstDay.dayNumber ≤ day.dayNumber
                    ∧ day.dayNumber ≤ window.lastDay.dayNumber then 1 else 0)
            = if oldest.firstDay.dayNumber ≤ day.dayNumber ∧ day.dayNumber ≤ last then 1 else 0
          split_ifs <;> omega

/-- Requests for windows without a gap between them tile the days back from the latest. -/
theorem MonthsBackFrom.tilesBackFrom {last : Date}
    (months : MonthsBackFrom last.dayNumber windows) (loan : Loan)
    : TilesBackFrom last (windows.map loan.fetchIn) where
  ends := by
    cases windows with
    | nil =>
        intro _ none
        cases none
    | cons window earlier =>
        intro latest first
        cases first
        exact Date.dayNumber_injective months.2.1
  contiguous := (List.isChain_map loan.fetchIn).mpr months.isChain
  disjoint := List.pairwise_map.mpr months.pairwise
  once := by
    intro oldest found day
    rw [List.getLast?_map] at found
    obtain ⟨window, member, rfl⟩ := Option.map_eq_some_iff.mp found
    rw [List.countP_map]
    exact months.countP_eq member day

end MonthWindow

section RequestsIn

variable {loan : Loan} {window : MonthWindow} {windows earlier : List MonthWindow}

theorem Loan.requestsIn_of_startsAfter (idle : loan.startsAfter window = true)
    : loan.requestsIn (window :: earlier) = loan.requestsIn earlier := by
  simp [requestsIn, idle]

theorem Loan.requestsIn_of_running (running : loan.startsAfter window = false)
    : loan.requestsIn (window :: earlier) = loan.fetchIn window :: loan.requestsIn earlier := by
  simp [requestsIn, running]

/-- A loan is running in the latest months, up to the one in which it was disbursed. -/
theorem Loan.running_prefix {last : Int} (months : MonthWindow.MonthsBackFrom last windows)
    : (windows.filter fun window => !loan.startsAfter window) <+: windows := by
  induction windows generalizing last with
  | nil => exact List.prefix_refl []
  | cons window earlier ih =>
      cases running : loan.startsAfter window with
      | true =>
          have none : earlier.filter (fun w => !loan.startsAfter w) = [] := by
            rw [List.filter_eq_nil_iff]
            intro w member
            simp [Loan.idle_before months running w member]
          simp [running, none]
      | false =>
          simpa [List.filter_cons, running] using ih months.2.2

/-- The first requests for the months of a period tile the days back from its end. -/
theorem Loan.requestsIn_tilesBackFrom {period : ChargePeriod} {made : List Fetch}
    (first : made <+: loan.requestsIn period.windows)
    : TilesBackFrom period.toDate made := by
  obtain ⟨running, taken, rfl⟩ := List.prefix_map_iff.mp first
  have months := period.monthsBackFrom_windows
  obtain ⟨others, all⟩ := taken.trans (Loan.running_prefix months)
  rw [← all] at months
  exact months.of_append.tilesBackFrom loan

end RequestsIn

-----------------------------------------------------------------------------------------
-- The requests made
-----------------------------------------------------------------------------------------

/-- A walk polls the source for the months in which the loan is running, if the rule has no error of
its own; by induction over the months.
-/
theorem summarise_polls {source : TransactionSource} {rule : MonthRule} {loan : Loan}
    {windows : List MonthWindow} (only : ∀ window ∈ windows, rule.OnlyOverflows window)
    {balance : Money} {log after : FetchLog} {outcome : Except Fault (List MonthFigures)}
    (h : (summarise source rule loan windows balance).runAfter log = (outcome, after))
    : source.Polls log (loan.requestsIn windows) outcome after := by
  induction windows generalizing balance log outcome with
  | nil =>
      obtain ⟨rfl, rfl⟩ := Prod.mk.inj h
      have answered : source.Polls log [] (.ok []) (log ++ []) :=
        .answered ([] : List MonthFigures) rfl
      rwa [List.append_nil] at answered
  | cons window earlier ih =>
      have later : ∀ w ∈ earlier, rule.OnlyOverflows w := fun w member => only w (by simp [member])
      rcases summarise_cons_cases h with
        ⟨idle, rest, walk, rfl⟩ | ⟨running, e, answer, rfl, rfl⟩
        | ⟨running, transactions, answer,
            ⟨fault, summed, rfl, rfl⟩ | ⟨month, opening, rest, _, walk, rfl⟩⟩
      · rw [Loan.requestsIn_of_startsAfter idle]
        exact (ih later walk).map _
      · rw [Loan.requestsIn_of_running running]
        have made
            : source.asked log (loan.fetchIn window :: loan.requestsIn earlier)
              = [loan.fetchIn window] :=
          TransactionSource.asked_of_error answer
        rw [← made]
        exact .refused e (TransactionSource.refusal?_of_error answer)
      · rw [Loan.requestsIn_of_running running]
        cases fault with
        | failed error => exact absurd summed (only window (by simp) _ _ error)
        | overflowed kind =>
            refine .overflowed kind ?_
            rw [TransactionSource.asked_of_ok answer]
            exact List.cons_prefix_cons.mpr ⟨rfl, List.nil_prefix⟩
      · rw [Loan.requestsIn_of_running running]
        exact ((ih later walk).map _).cons answer

namespace SummaryBuilder

variable {builder : SummaryBuilder} {loan : Loan} {product : LoanProduct} {mode : SummaryMode}
  {log after : FetchLog}

/-- Building a series polls the source for the months in which the loan is running. -/
theorem build_polls {outcome : Except Fault BalanceSeries}
    (h : (builder.build loan product mode).runAfter log = (outcome, after))
    : builder.source.Polls log (loan.requestsIn builder.period.windows) outcome after := by
  rw [runAfter_build] at h
  rcases walk : (builder.figures loan mode).runAfter log with ⟨figures, final⟩
  rw [walk] at h
  obtain ⟨rfl, rfl⟩ := Prod.mk.inj h
  exact (summarise_polls (builder.rule_onlyOverflows loan mode) walk).map _

end SummaryBuilder

end ChargeBasis
