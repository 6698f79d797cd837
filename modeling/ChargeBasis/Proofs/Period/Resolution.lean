import ChargeBasis.Proofs.Period.Months

/-!
What a choice of a period means. Blank codes and a year of zero leave the choice to today's date;
the quarter is the one that the month lies in, so that its boundaries, which are read from text,
enclose the first day of the month.
-/

namespace ChargeBasis

-----------------------------------------------------------------------------------------
-- Dates in a period
-----------------------------------------------------------------------------------------

/-- The dates of a period are those of its year from its first to its last month. -/
theorem ChargePeriod.contains_iff (period : ChargePeriod) (d : Date)
    : period.fromDate ≤ d ∧ d ≤ period.toDate
      ↔ d.year = period.year.toInt
        ∧ period.period.firstMonth.number ≤ d.month.number
        ∧ d.month.number ≤ period.period.lastMonth.number := by
  obtain ⟨_, firstYear, firstMonth, firstDay⟩ :=
    BillingPeriod.fromDate_eq_ok_iff.mp period.fromDate_eq
  obtain ⟨_, lastYear, lastMonth, lastDay⟩ := BillingPeriod.toDate_eq_ok_iff.mp period.toDate_eq
  have closes : period.toDate.day = period.toDate.month.lengthIn period.toDate.year := by
    rw [lastDay, lastMonth, lastYear]
  rw [Date.le_iff_of_edge (.inl firstDay), Date.le_iff_of_edge (.inr closes), firstYear,
    firstMonth, lastYear, lastMonth]
  omega

/-- A month lies between the first and the last month of its own quarter and of no other. -/
theorem Quarter.containing_eq_iff {quarter : Quarter} {month : Month}
    : containing month = quarter
      ↔ (BillingPeriod.quarterly quarter).firstMonth.number ≤ month.number
        ∧ month.number ≤ (BillingPeriod.quarterly quarter).lastMonth.number := by
  cases month <;> cases quarter <;> decide

/-- A quarter of a year contains a date of the year exactly if it is the quarter of its month. -/
theorem ChargePeriod.quarter_contains_iff {period : ChargePeriod} {quarter : Quarter}
    (kind : period.period = .quarterly quarter) {d : Date} (year : d.year = period.year.toInt)
    : period.fromDate ≤ d ∧ d ≤ period.toDate ↔ Quarter.containing d.month = quarter := by
  rw [contains_iff, Quarter.containing_eq_iff, kind]
  exact and_iff_right year

theorem BillingPeriod.number_yearly (month : Month)
    : yearly.firstMonth.number ≤ month.number ∧ month.number ≤ yearly.lastMonth.number := by
  cases month <;> decide

namespace PeriodChoice

variable {choice : PeriodChoice} {today : Date}

-----------------------------------------------------------------------------------------
-- Meaning
-----------------------------------------------------------------------------------------

/-- The month code without the blanks around it, unless there is nothing else. -/
def code? (choice : PeriodChoice) : Option String :=
  (choice.monthCode.map Text.trimmed).filter fun code => code ≠ ""

/-- The month that is meant: the one that the code names, if it names any, or else today's. -/
def monthMeant? (choice : PeriodChoice) (today : Date) : Option Month :=
  match choice.code? with
  | some code => Month.ofCode? code
  | none => some today.month

/-- The year that is meant: the one chosen, unless it is zero, or else today's. -/
def yearMeant (choice : PeriodChoice) (today : Date) : Int :=
  match choice.year.filter fun year => year ≠ 0 with
  | some year => year.toInt
  | none => today.year

theorem toInt_chosenYear (choice : PeriodChoice) (today : Date)
    : (choice.chosenYear today).toInt = choice.yearMeant today := by
  have lower := today.minYear_le
  have upper := today.le_maxYear
  have exact : (Int32.ofInt today.year).toInt = today.year :=
    Int32.toInt_ofInt_of_le (by simp only [Date.minYear] at lower; omega)
      (by simp only [Date.maxYear] at upper; omega)
  unfold chosenYear yearMeant
  rcases choice.year with _ | year
  · exact exact
  · by_cases zero : year = 0
    · simp [zero, Option.filter, exact]
    · simp [zero, Option.filter]

/-- The month that decides on the quarter is the one that is meant; a code that names none is an
error. -/
theorem month_eq (choice : PeriodChoice) (today : Date)
    : choice.month today
      = match choice.code? with
        | some code =>
          match Month.ofCode? code with
          | some month => .ok month
          | none => .error (.invalidPeriodCode code)
        | none => .ok today.month := by
  unfold month code? parseMonthCode
  rcases choice.monthCode.map Text.trimmed with _ | code
  · rfl
  · by_cases blank : code = ""
    · simp [blank, Option.filter]
    · rcases named : Month.ofCode? code with _ | month <;> simp [blank, named, Option.filter]

-----------------------------------------------------------------------------------------
-- Resolving
-----------------------------------------------------------------------------------------

/-- The period that a choice asks for, whatever the year: that of the year, or the quarter of the
month that is meant.
-/
def Asks (choice : PeriodChoice) (today : Date) : BillingPeriod → Prop
  | .yearly => choice.method = .yearly
  | .quarterly quarter =>
    choice.method = .quarterly
    ∧ ∃ month, choice.monthMeant? today = some month ∧ Quarter.containing month = quarter

/-- A choice asks for a period, which is looked for in the year that is meant, or has a code that
names no month. -/
theorem resolve_cases (choice : PeriodChoice) (today : Date)
    : (∃ period,
        choice.Asks today period
        ∧ choice.resolve today = period.inYear (choice.chosenYear today))
      ∨ ∃ code,
          choice.method = .quarterly
          ∧ choice.code? = some code
          ∧ Month.ofCode? code = none
          ∧ choice.resolve today = .error (.invalidPeriodCode code) := by
  unfold resolve billingPeriod
  cases method : choice.method with
  | yearly => exact .inl ⟨.yearly, method, rfl⟩
  | quarterly =>
      rw [month_eq]
      rcases given : choice.code? with _ | code
      · exact .inl ⟨.quarterly _, ⟨method, today.month, by rw [monthMeant?, given], rfl⟩, rfl⟩
      · rcases named : Month.ofCode? code with _ | month
        · exact .inr ⟨code, rfl, rfl, named, by simp [named]; rfl⟩
        · refine .inl ⟨.quarterly (.containing month), ?_, by simp only [named]; rfl⟩
          exact ⟨method, month, by rw [monthMeant?, given]; exact named, rfl⟩

/-- The code is given and names no month. -/
def NamesNoMonth (choice : PeriodChoice) (today : Date) : Prop :=
  choice.method = .quarterly ∧ choice.monthMeant? today = none

/-- The year that is meant has dates, and four digits hold it. -/
def HasYear (choice : PeriodChoice) (today : Date) : Prop :=
  (∃ d : Date, d.year = choice.yearMeant today) ∧ choice.yearMeant today ≤ 9999

theorem monthMeant?_eq_none_iff
    : choice.monthMeant? today = none
      ↔ ∃ code, choice.code? = some code ∧ Month.ofCode? code = none := by
  unfold monthMeant?
  rcases choice.code? with _ | code <;> simp

theorem Asks.not_namesNoMonth {period : BillingPeriod} (asks : choice.Asks today period)
    : ¬choice.NamesNoMonth today := by
  intro unnamed
  obtain ⟨quarterly, missing⟩ := unnamed
  cases period with
  | yearly => cases quarterly.symm.trans asks
  | quarterly quarter =>
      obtain ⟨_, month, meant, _⟩ := asks
      cases missing.symm.trans meant

/-- A choice fails with a period code exactly if it is the one given and names no month. -/
theorem resolve_eq_invalidPeriodCode_iff {code : String}
    : choice.resolve today = .error (.invalidPeriodCode code)
      ↔ choice.method = .quarterly
        ∧ choice.code? = some code
        ∧ Month.ofCode? code = none := by
  rcases choice.resolve_cases today with
    ⟨period, asks, same⟩ | ⟨unknown, method, given, unnamed, same⟩
  · rw [same]
    constructor
    · intro failed
      obtain ⟨_, _, other⟩ := BillingPeriod.inYear_failed failed
      cases other
    · intro unnamed
      obtain ⟨method, given, missing⟩ := unnamed
      exact absurd ⟨method, monthMeant?_eq_none_iff.mpr ⟨code, given, missing⟩⟩
        asks.not_namesNoMonth
  · rw [same]
    constructor
    · intro failed
      cases failed
      exact ⟨method, given, unnamed⟩
    · intro other
      cases given.symm.trans other.2.1
      rfl

/-- A choice has its period exactly if the code names a month, where it matters, and the year has
dates that can be written. -/
theorem exists_resolve_iff
    : (∃ found, choice.resolve today = .ok found)
      ↔ ¬choice.NamesNoMonth today ∧ choice.HasYear today := by
  rcases choice.resolve_cases today with
    ⟨period, asks, same⟩ | ⟨code, method, given, unnamed, same⟩
  · rw [same, BillingPeriod.exists_inYear_iff, toInt_chosenYear]
    exact (and_iff_right asks.not_namesNoMonth).symm
  · rw [same]
    have unknown : choice.NamesNoMonth today :=
      ⟨method, monthMeant?_eq_none_iff.mpr ⟨code, given, unnamed⟩⟩
    simp [unknown]

/-- A choice fails with a date exactly if only the year is at fault. -/
theorem exists_invalidDate_iff
    : (∃ fault, choice.resolve today = .error (.invalidDate fault))
      ↔ ¬choice.NamesNoMonth today ∧ ¬choice.HasYear today := by
  constructor
  · intro failed
    obtain ⟨fault, failed⟩ := failed
    have named : ¬choice.NamesNoMonth today := by
      intro unknown
      obtain ⟨code, given, unnamed⟩ := monthMeant?_eq_none_iff.mp unknown.2
      cases failed.symm.trans
        (resolve_eq_invalidPeriodCode_iff.mpr ⟨unknown.1, given, unnamed⟩)
    refine ⟨named, fun dated => ?_⟩
    obtain ⟨found, resolved⟩ := exists_resolve_iff.mpr ⟨named, dated⟩
    cases failed.symm.trans resolved
  · intro undated
    rcases outcome : choice.resolve today with error | found
    · rcases resolve_failed outcome with ⟨code, rfl⟩ | ⟨text, fault, rfl⟩
      · obtain ⟨method, given, unnamed⟩ := resolve_eq_invalidPeriodCode_iff.mp outcome
        exact absurd ⟨method, monthMeant?_eq_none_iff.mpr ⟨code, given, unnamed⟩⟩ undated.1
      · exact ⟨_, rfl⟩
    · exact absurd (exists_resolve_iff.mp ⟨found, outcome⟩).2 undated.2

/-- The period that is found is the one asked for, in the year that is meant. -/
theorem asks_of_resolve {found : ChargePeriod} (h : choice.resolve today = .ok found)
    : choice.Asks today found.period ∧ found.year.toInt = choice.yearMeant today := by
  rcases choice.resolve_cases today with ⟨period, asks, same⟩ | ⟨_, _, _, _, same⟩
  · obtain ⟨rfl, year⟩ := BillingPeriod.inYear_eq_ok (same.symm.trans h)
    exact ⟨asks, year ▸ choice.toInt_chosenYear today⟩
  · cases same.symm.trans h

/-- The quarter that is found, and no other one of its year, contains the first day of the month
that is meant. -/
theorem exists_first_of_resolve {found : ChargePeriod} (method : choice.method = .quarterly)
    (h : choice.resolve today = .ok found)
    : ∃ quarter month first,
        found.period = .quarterly quarter
        ∧ choice.monthMeant? today = some month
        ∧ Date.of? (choice.yearMeant today) month 1 = some first
        ∧ found.fromDate ≤ first
        ∧ first ≤ found.toDate
        ∧ ∀ other otherFound,
            (BillingPeriod.quarterly other).inYear found.year = .ok otherFound
            → otherFound.fromDate ≤ first
            → first ≤ otherFound.toDate
            → other = quarter := by
  obtain ⟨asks, year⟩ := asks_of_resolve h
  cases kind : found.period with
  | yearly =>
      rw [kind] at asks
      cases method.symm.trans asks
  | quarterly quarter =>
      rw [kind] at asks
      obtain ⟨_, month, meant, containing⟩ := asks
      obtain ⟨dated, _⟩ := (exists_resolve_iff.mp ⟨found, h⟩).2
      obtain ⟨d, same⟩ := dated
      obtain ⟨first, at_first⟩ :=
        Date.exists_of? (same ▸ d.minYear_le) (same ▸ d.le_maxYear) (Nat.le_refl 1)
          (month.length_pos _)
      obtain ⟨firstYear, firstMonth, _⟩ := Date.of?_eq_some_iff.mp at_first
      have own := (ChargePeriod.quarter_contains_iff kind (firstYear.trans year.symm)).mpr
        (firstMonth ▸ containing)
      refine ⟨quarter, month, first, rfl, meant, at_first, own.1, own.2, ?_⟩
      intro other otherFound inYear after before
      obtain ⟨otherKind, otherYear⟩ := BillingPeriod.inYear_eq_ok inYear
      have others := (ChargePeriod.quarter_contains_iff otherKind
        (firstYear.trans (otherYear ▸ year.symm))).mp ⟨after, before⟩
      rw [← others, firstMonth, containing]

/-- A choice without a year of its own means this year. -/
theorem yearMeant_of_open (year : choice.year = none ∨ choice.year = some 0)
    : choice.yearMeant today = today.year := by
  rcases year with none | zero
  · rw [yearMeant, none]
    rfl
  · rw [yearMeant, zero]
    rfl

/-- Without a month and a year of its own a choice has a period, which contains today. -/
theorem exists_containing_today (month : choice.code? = none)
    (year : choice.year = none ∨ choice.year = some 0) (short : today.year ≤ 9999)
    : ∃ found,
        choice.resolve today = .ok found ∧ found.fromDate ≤ today ∧ today ≤ found.toDate := by
  have thisYear : choice.yearMeant today = today.year := yearMeant_of_open year
  have thisMonth : choice.monthMeant? today = some today.month := by rw [monthMeant?, month]
  have named : ¬choice.NamesNoMonth today := fun unnamed => by
    cases thisMonth.symm.trans unnamed.2
  have dated : choice.HasYear today := ⟨⟨today, thisYear.symm⟩, by rw [thisYear]; exact short⟩
  obtain ⟨found, h⟩ := exists_resolve_iff.mpr ⟨named, dated⟩
  obtain ⟨asks, meant⟩ := asks_of_resolve h
  refine ⟨found, h, ?_⟩
  rw [found.contains_iff]
  refine ⟨(meant.trans thisYear).symm, ?_⟩
  cases kind : found.period with
  | yearly => exact BillingPeriod.number_yearly today.month
  | quarterly quarter =>
      rw [kind] at asks
      obtain ⟨_, own, named, containing⟩ := asks
      cases thisMonth.symm.trans named
      exact Quarter.containing_eq_iff.mp containing

/-- A choice has its period unless the code, where it matters, names no month, which is an error
with that code, or else the year that is meant has no dates that can be written, which is an error
of a date. The period is that of the year, whatever the code, or the one quarter that contains the
first day of the month that is meant; and if no month and no year are chosen, there is a period, in
every year of four digits, and it contains today.
-/
theorem resolve_as_meant (choice : PeriodChoice) (today : Date)
    : (∀ code,
        choice.resolve today = .error (.invalidPeriodCode code)
        ↔ choice.method = .quarterly
          ∧ choice.code? = some code
          ∧ Month.ofCode? code = none)
      ∧ ((∃ fault, choice.resolve today = .error (.invalidDate fault))
        ↔ ¬choice.NamesNoMonth today ∧ ¬choice.HasYear today)
      ∧ ((∃ found, choice.resolve today = .ok found)
        ↔ ¬choice.NamesNoMonth today ∧ choice.HasYear today)
      ∧ (∀ found,
          choice.resolve today = .ok found
          → found.year.toInt = choice.yearMeant today
            ∧ (choice.method = .yearly → found.period = .yearly)
            ∧ (choice.method = .quarterly
              → ∃ quarter month first,
                  found.period = .quarterly quarter
                  ∧ choice.monthMeant? today = some month
                  ∧ Date.of? (choice.yearMeant today) month 1 = some first
                  ∧ found.fromDate ≤ first
                  ∧ first ≤ found.toDate
                  ∧ ∀ other otherFound,
                      (BillingPeriod.quarterly other).inYear found.year = .ok otherFound
                      → otherFound.fromDate ≤ first
                      → first ≤ otherFound.toDate
                      → other = quarter))
      ∧ (choice.code? = none
        → choice.year = none ∨ choice.year = some 0
        → today.year ≤ 9999
        → ∃ found,
            choice.resolve today = .ok found ∧ found.fromDate ≤ today ∧ today ≤ found.toDate) := by
  refine ⟨fun code => resolve_eq_invalidPeriodCode_iff, exists_invalidDate_iff,
    exists_resolve_iff, ?_, ?_⟩
  · intro found h
    obtain ⟨asks, year⟩ := asks_of_resolve h
    refine ⟨year, ?_, fun method => exists_first_of_resolve method h⟩
    intro method
    cases kind : found.period with
    | yearly => rfl
    | quarterly quarter =>
        rw [kind] at asks
        cases method.symm.trans asks.1
  · intro month year short
    exact exists_containing_today month year short

/-- On a leap day, a code with blanks around it names the quarter of its month, in this year if the
year chosen is zero; the current quarter contains the day; and a code that names no month is at
fault also when the year is too long.
-/
theorem resolve_as_meant_leap_day
    : ∃ today : Date,
        today.year = 2024
        ∧ today.month = .february
        ∧ today.day = 29
        ∧ (∃ found first,
            (PeriodChoice.mk .quarterly (some " mAy ") (some 0)).resolve today = .ok found
            ∧ found.year.toInt = 2024
            ∧ Date.of? 2024 .may 1 = some first
            ∧ found.fromDate ≤ first
            ∧ first ≤ found.toDate)
        ∧ (∃ found,
            (current .quarterly).resolve today = .ok found
            ∧ found.fromDate ≤ today
            ∧ today ≤ found.toDate)
        ∧ (PeriodChoice.mk .quarterly (some "Sept") (some 10000)).resolve today
          = .error (.invalidPeriodCode "Sept") := by
  let today : Date := ⟨2024, .february, 29, by decide, by decide, by decide, by decide⟩
  refine ⟨today, rfl, rfl, rfl, ?_, ?_, ?_⟩
  · obtain ⟨_, _, resolves, meaning, _⟩ :=
      resolve_as_meant ⟨.quarterly, some " mAy ", some 0⟩ today
    have may
        : monthMeant? ⟨.quarterly, some " mAy ", some 0⟩ today = some .may := by
      decide +kernel
    have named : ¬NamesNoMonth ⟨.quarterly, some " mAy ", some 0⟩ today :=
      fun unnamed => by cases may.symm.trans unnamed.2
    obtain ⟨found, h⟩ := resolves.mpr ⟨named, ⟨⟨today, by decide⟩, by decide⟩⟩
    obtain ⟨year, _, quarterly⟩ := meaning found h
    obtain ⟨_, month, first, _, meant, opening, after, before, _⟩ := quarterly rfl
    cases may.symm.trans meant
    exact ⟨found, first, h, year, opening, after, before⟩
  · obtain ⟨_, _, _, _, containing⟩ := resolve_as_meant (current .quarterly) today
    exact containing rfl (.inl rfl) (by decide)
  · exact ((resolve_as_meant ⟨.quarterly, some "Sept", some 10000⟩ today).1 "Sept").mpr
      ⟨rfl, by decide +kernel, by decide +kernel⟩

end PeriodChoice

end ChargeBasis
