import ChargeBasis.Proofs.Summary.Months

/-!
The balances behind the figures. The walk back through the months reports no balance that it goes on
with; the same walk with these balances beside the figures shows what is carried from each month to
the one before.
-/

namespace ChargeBasis

/-- The walk back through the months of a loan with, beside the figures of every month, the balance
that is carried on to the month before.
-/
def summariseCarrying (source : TransactionSource) (rule : MonthRule) (loan : Loan)
    : List MonthWindow → Money → Reading (List (MonthFigures × Money))
  | [], _ => return []
  | window :: earlier, balance =>
    if loan.startsAfter window then
      return (.none, balance) :: (← summariseCarrying source rule loan earlier balance)
    else do
      let transactions ← source.fetch (loan.fetchIn window)
      let month ← rule window balance transactions
      return month :: (← summariseCarrying source rule loan earlier month.2)

section Walk

variable {source : TransactionSource} {rule : MonthRule} {loan : Loan} {window : MonthWindow}
  {earlier : List MonthWindow} {balance : Money} {log : FetchLog}

/-- A month in which the loan is not running carries its balance on; otherwise the rule gives the
balance that is carried on.
-/
theorem runAfter_summariseCarrying_cons
    : (summariseCarrying source rule loan (window :: earlier) balance).runAfter log
      = if loan.startsAfter window then
          ((summariseCarrying source rule loan earlier balance).runAfter log).map
            (Except.map ((.none, balance) :: ·)) id
        else
          match source.answer log (loan.fetchIn window) with
          | .error e => (.error (.failed e), log ++ [loan.fetchIn window])
          | .ok transactions =>
            match rule window balance transactions with
            | .error fault => (.error fault, log ++ [loan.fetchIn window])
            | .ok month =>
              ((summariseCarrying source rule loan earlier month.2).runAfter
                  (log ++ [loan.fetchIn window])).map
                (Except.map (month :: ·)) id := by
  rw [summariseCarrying]
  split
  · rw [Reading.runAfter_bind]
    rcases (summariseCarrying source rule loan earlier balance).runAfter log with
      ⟨fault | rest, _⟩ <;> rfl
  · rw [Reading.runAfter_bind, TransactionSource.runAfter_fetch]
    rcases source.answer log (loan.fetchIn window) with e | transactions
    · rfl
    · simp only [Except.mapError, Reading.runAfter_bind, Reading.runAfter_liftM]
      rcases rule window balance transactions with fault | month
      · rfl
      · simp only
        rcases (summariseCarrying source rule loan earlier month.2).runAfter
          (log ++ [loan.fetchIn window]) with ⟨fault | rest, _⟩ <;> rfl

/-- Without the balances beside them the figures are those of the plain walk, by induction over the
months.
-/
theorem runAfter_summarise (source : TransactionSource) (rule : MonthRule) (loan : Loan)
    (windows : List MonthWindow) (balance : Money) (log : FetchLog)
    : (summarise source rule loan windows balance).runAfter log
      = ((summariseCarrying source rule loan windows balance).runAfter log).map
          (Except.map (List.map Prod.fst)) id := by
  induction windows generalizing balance log with
  | nil => rfl
  | cons window earlier ih =>
      rw [runAfter_summarise_cons, runAfter_summariseCarrying_cons]
      split
      · rw [ih]
        rcases (summariseCarrying source rule loan earlier balance).runAfter log with
          ⟨fault | rest, _⟩ <;> rfl
      · rcases source.answer log (loan.fetchIn window) with e | transactions
        · rfl
        · simp only
          rcases rule window balance transactions with fault | ⟨month, opening⟩
          · rfl
          · simp only
            rw [ih]
            rcases (summariseCarrying source rule loan earlier opening).runAfter
              (log ++ [loan.fetchIn window]) with ⟨fault | rest, _⟩ <;> rfl

end Walk

namespace SummaryBuilder

/-- The figures of a loan for the months of the period beside the balances carried on. -/
def carrying (builder : SummaryBuilder) (loan : Loan) (mode : SummaryMode)
    : Reading (List (MonthFigures × Money)) :=
  summariseCarrying builder.source (builder.rule loan mode) loan builder.period.windows
    (mode.closingBalance loan)

theorem runAfter_figures (builder : SummaryBuilder) (loan : Loan) (mode : SummaryMode)
    (log : FetchLog)
    : (builder.figures loan mode).runAfter log
      = ((builder.carrying loan mode).runAfter log).map (Except.map (List.map Prod.fst)) id :=
  runAfter_summarise _ _ _ _ _ _

end SummaryBuilder

/-- From month to month a balance grows by what is reported as repaid. -/
def Carries : Money → List (MonthFigures × Money) → Prop
  | _, [] => True
  | balance, month :: earlier =>
    month.2.toRat = balance.toRat + month.1.repaid.toRat ∧ Carries month.2 earlier

/-- The balance carried on behind all of the months. -/
def carriedOn (balance : Money) (months : List (MonthFigures × Money)) : Money :=
  months.foldl (fun _ month => month.2) balance

/-- Behind all months the balance has grown by all that is reported as repaid, by induction over the
months.
-/
theorem Carries.toRat_carriedOn {balance : Money} {months : List (MonthFigures × Money)}
    (carries : Carries balance months)
    : (carriedOn balance months).toRat
      = balance.toRat + (months.map fun month => month.1.repaid.toRat).sum := by
  induction months generalizing balance with
  | nil => simp [carriedOn]
  | cons month earlier ih =>
      obtain ⟨grown, later⟩ := carries
      have rest := ih later
      rw [carriedOn] at rest
      rw [carriedOn, List.foldl_cons, rest, grown, List.map_cons, List.sum_cons, add_assoc]

/-- A month carries on the balance that was carried into it and what it reports as repaid. -/
theorem Carries.at_month {balance opening : Money} {figures : MonthFigures}
    {later earlier : List (MonthFigures × Money)}
    (carries : Carries balance (later ++ (figures, opening) :: earlier))
    : opening.toRat = (carriedOn balance later).toRat + figures.repaid.toRat := by
  induction later generalizing balance with
  | nil => exact carries.1
  | cons month between ih => exact ih carries.2

end ChargeBasis
