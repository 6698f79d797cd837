import ChargeBasis.Proofs.Calendar.WholeMonths

/-!
The walks back are complete. A walk yields a list if its calls give the items of the list, one after
another, and nothing after them. The walk through days yields every day of its span, latest first;
the walk through months yields as many whole months as it was asked for, or all months from the
first one of the calendar on.
-/

namespace ChargeBasis

-----------------------------------------------------------------------------------------
-- Lists that walks yield
-----------------------------------------------------------------------------------------

section Yields

variable {State Item : Type} {next? : State → Option (Item × State)} {items : List Item}
  {state : State}

/-- The calls of a walk give these items, one after another, and then nothing. -/
def Yields (next? : State → Option (Item × State)) : List Item → State → Prop
  | [], state => next? state = none
  | item :: items, state => ∃ after, next? state = some (item, after) ∧ Yields next? items after

/-- After some calls a walk has given the front of its list and goes on with the rest, by induction
over the calls.
-/
theorem Yields.after (yields : Yields next? items state) (calls : Nat)
    : (takeSteps next? calls state).1 = items.take calls
      ∧ Yields next? (items.drop calls) (takeSteps next? calls state).2 := by
  induction calls generalizing items state with
  | zero => exact ⟨rfl, yields⟩
  | succ calls ih =>
      cases items with
      | nil =>
          have ended : next? state = none := yields
          simp only [takeSteps, ended]
          exact ⟨rfl, ended⟩
      | cons item items =>
          obtain ⟨after, step, rest⟩ := yields
          obtain ⟨taken, coming⟩ := ih rest
          simp only [takeSteps, step]
          exact ⟨congrArg (item :: ·) taken, coming⟩

/-- What every step keeps holds after any number of calls, by induction over them. -/
theorem takeSteps_invariant {Holds : State → Prop} (start : Holds state)
    (step : ∀ before item after, Holds before → next? before = some (item, after) → Holds after)
    (calls : Nat)
    : Holds (takeSteps next? calls state).2 := by
  induction calls generalizing state with
  | zero => exact start
  | succ calls ih =>
      unfold takeSteps
      cases found : next? state with
      | none => exact start
      | some next => exact ih (step state next.1 next.2 start found)

end Yields

-----------------------------------------------------------------------------------------
-- Days
-----------------------------------------------------------------------------------------

section Days

variable {last : Int} {days : List Date}

/-- A list of consecutive days has the days up to its latest one, as many as it is long. -/
theorem DaysBackFrom.mem_iff (back : DaysBackFrom last days) (d : Date)
    : d ∈ days ↔ last - days.length < d.dayNumber ∧ d.dayNumber ≤ last := by
  induction days generalizing last with
  | nil => simp
  | cons day earlier ih =>
      obtain ⟨latest, rest⟩ := back
      rw [List.mem_cons, ih rest, Date.eq_iff_dayNumber_eq, List.length_cons]
      omega

theorem DaysBackFrom.descending (back : DaysBackFrom last days)
    : days.Pairwise fun later earlier => earlier < later := by
  induction days generalizing last with
  | nil => exact .nil
  | cons day earlier ih =>
      obtain ⟨latest, rest⟩ := back
      refine .cons ?_ (ih rest)
      intro d member
      have before := ((rest.mem_iff d).mp member).2
      change d.dayNumber < day.dayNumber
      omega

end Days

namespace DayWalk

/-- The walk yields these days and no others, each once and latest first. On its way no day before
the last one is computed, which is why every step back finds a day.
-/
structure Covers (walk : DayWalk) (days : Date → Prop) : Prop where
  yields : Yields next? walk.toList walk
  descending : walk.toList.Pairwise fun later earlier => earlier < later
  visited : ∀ d, d ∈ walk.toList ↔ days d
  steps
    : ∀ calls day,
        (walk.take calls).2.current = some day
        → walk.downTo ≤ day
          ∧ (walk.downTo < day → ∃ earlier, day.previous? = some earlier ∧ walk.downTo ≤ earlier)

/-- The day before a later one is not before the last day of the walk. -/
theorem exists_step {day downTo : Date} (later : downTo < day)
    : ∃ earlier, day.previous? = some earlier ∧ downTo ≤ earlier := by
  obtain ⟨earlier, found⟩ := Date.exists_previous? later
  have number := Date.dayNumber_of_previous? found
  have before : downTo.dayNumber < day.dayNumber := later
  exact ⟨earlier, found, (by omega : downTo.dayNumber ≤ earlier.dayNumber)⟩

/-- The walk goes down to this day and is not past it. -/
def NotPast (downTo : Date) (walk : DayWalk) : Prop :=
  walk.downTo = downTo ∧ ∀ day, walk.current = some day → downTo ≤ day

theorem notPast_start (first downTo : Date)
    : (start first downTo).NotPast downTo := by
  refine ⟨rfl, ?_⟩
  intro day found
  by_cases ordered : downTo ≤ first
  · simp only [start, if_pos ordered] at found
    cases found
    exact ordered
  · simp only [start, if_neg ordered] at found
    cases found

/-- No step goes past the last day: from that day the walk ends instead. -/
theorem NotPast.next {walk after : DayWalk} {day downTo : Date} (notPast : walk.NotPast downTo)
    (step : walk.next? = some (day, after))
    : after.NotPast downTo := by
  obtain ⟨rfl, _⟩ := notPast
  obtain ⟨d, _, same⟩ := Option.map_eq_some_iff.mp step
  cases same
  refine ⟨rfl, ?_⟩
  intro e found
  by_cases later : walk.downTo < day
  · obtain ⟨earlier, before, above⟩ := exists_step later
    simp only [if_pos later, before] at found
    cases found
    exact above
  · simp only [if_neg later] at found
    cases found

/-- A walk of one more step than there are days between yields the days of these steps, by induction
over the days between.
-/
theorem yields_takeSteps {day downTo : Date} {between : Nat}
    (h : day.dayNumber = downTo.dayNumber + between)
    : Yields next? (takeSteps next? (between + 1) ⟨some day, downTo⟩).1 ⟨some day, downTo⟩ := by
  induction between generalizing day with
  | zero =>
      have met : ¬ downTo < day := (by omega : ¬ downTo.dayNumber < day.dayNumber)
      have step : next? ⟨some day, downTo⟩ = some (day, ⟨none, downTo⟩) := by
        simp only [next?, Option.map_some, if_neg met]
      simp only [takeSteps, step]
      exact ⟨_, step, rfl⟩
  | succ between ih =>
      have later : downTo < day := (by omega : downTo.dayNumber < day.dayNumber)
      obtain ⟨previous, step, number⟩ := next?_of_later later
      rw [takeSteps]
      simp only [step]
      exact ⟨_, step, ih (by omega)⟩

theorem yields_start (first downTo : Date)
    : Yields next? (start first downTo).toList (start first downTo) := by
  by_cases ordered : downTo ≤ first
  · obtain ⟨between, span, days⟩ := toList_start_of_le ordered
    have going : start first downTo = ⟨some first, downTo⟩ := by rw [start, if_pos ordered]
    rw [days, going]
    exact yields_takeSteps span
  · have ended : (start first downTo).next? = none := by simp [start, next?, ordered]
    rw [toList_start_of_not_le ordered]
    exact ended

/-- The walk between two dates covers the days from one to the other. -/
theorem start_covers (first downTo : Date)
    : (start first downTo).Covers fun d => downTo ≤ d ∧ d ≤ first where
  yields := yields_start first downTo
  descending := by
    by_cases ordered : downTo ≤ first
    · exact (toList_start ordered).1.descending
    · rw [toList_start_of_not_le ordered]
      exact .nil
  visited := by
    intro d
    by_cases ordered : downTo ≤ first
    · obtain ⟨back, count⟩ := toList_start ordered
      rw [back.mem_iff, count, Date.daysBetween]
      change _ ↔ downTo.dayNumber ≤ d.dayNumber ∧ d.dayNumber ≤ first.dayNumber
      omega
    · rw [toList_start_of_not_le ordered]
      refine iff_of_false List.not_mem_nil ?_
      rintro ⟨above, below⟩
      exact ordered (Int.le_trans above below)
  steps := by
    intro calls day current
    have kept : ((start first downTo).take calls).2.NotPast downTo :=
      takeSteps_invariant (notPast_start first downTo) (fun _ _ _ => NotPast.next) calls
    exact ⟨kept.2 day current, exists_step⟩

/-- A walk back through days covers its span, and the days of a window from a floor on are those of
the window that are not before the floor.
-/
theorem walks_cover_days
    : (∀ first downTo, (start first downTo).Covers fun d => downTo ≤ d ∧ d ≤ first)
      ∧ ∀ (window : MonthWindow) floor,
          (window.daysDescending floor).Covers fun d =>
            (window.firstDay ≤ d ∧ d ≤ window.lastDay) ∧ floor ≤ d := by
  refine ⟨start_covers, ?_⟩
  intro window floor
  have covers := start_covers window.lastDay (max window.firstDay floor)
  refine { covers with visited := ?_ }
  intro d
  have later := Date.dayNumber_max window.firstDay floor
  rw [MonthWindow.daysDescending, covers.visited]
  change (max window.firstDay floor).dayNumber ≤ d.dayNumber ∧ d.dayNumber ≤ window.lastDay.dayNumber
    ↔ (window.firstDay.dayNumber ≤ d.dayNumber ∧ d.dayNumber ≤ window.lastDay.dayNumber)
      ∧ floor.dayNumber ≤ d.dayNumber
  omega

end DayWalk

-----------------------------------------------------------------------------------------
-- Months
-----------------------------------------------------------------------------------------

namespace Date

/-- The place of the month of a date among all months of the calendar, counted from one. -/
def monthOrdinal (d : Date) : Nat := (12 * (d.year - minYear)).toNat + d.month.number

/-- The year of the month with an ordinal, and its number in the year. -/
def yearAndMonth (ordinal : Nat) : Int × Nat :=
  (minYear + ((ordinal - 1) / 12 : Nat), (ordinal - 1) % 12 + 1)

/-- The months before a month in its year have its year and the numbers before its own. -/
theorem yearAndMonth_sub {d : Date} {back : Nat} (within : back < d.month.number)
    : yearAndMonth (d.monthOrdinal - back) = (d.year, d.month.number - back) := by
  have lower := d.minYear_le
  have last := d.month.number_le
  rw [yearAndMonth, monthOrdinal, Prod.mk.injEq]
  omega

/-- No two months have the same ordinal: it determines the year and the number in the year. -/
theorem yearAndMonth_monthOrdinal (d : Date)
    : yearAndMonth d.monthOrdinal = (d.year, d.month.number) :=
  yearAndMonth_sub d.month.number_pos

/-- The day before the first of a month lies in the month before, and the first day of all has
none.
-/
theorem previous?_of_first {d : Date} (first : d.day = 1)
    : (d.previous? = none ∧ d.monthOrdinal = 1)
      ∨ ∃ earlier, d.previous? = some earlier ∧ d.monthOrdinal = earlier.monthOrdinal + 1 := by
  have lower := d.minYear_le
  rw [previous?, if_neg (by omega)]
  cases before : d.month.previous? with
  | some month =>
      obtain ⟨earlier, found⟩ := exists_of? lower d.le_maxYear (month.length_pos _) (Nat.le_refl _)
      obtain ⟨year, sameMonth, _⟩ := of?_eq_some_iff.mp found
      have number := Month.number_of_previous? before
      refine .inr ⟨earlier, found, ?_⟩
      rw [monthOrdinal, monthOrdinal, year, sameMonth]
      omega
  | none =>
      have january : d.month.number = 1 := congrArg _ (Month.eq_january_of_previous? before)
      rcases Int.lt_or_eq_of_le lower with later | least
      · have upper := d.le_maxYear
        have closing : ∃ earlier, of? (d.year - 1) .december 31 = some earlier :=
          exists_of? (by omega) (by omega) (by decide) (Nat.le_refl 31)
        obtain ⟨earlier, found⟩ := closing
        obtain ⟨year, month, _⟩ := of?_eq_some_iff.mp found
        refine .inr ⟨earlier, found, ?_⟩
        have december : earlier.month.number = 12 := congrArg _ month
        rw [monthOrdinal, monthOrdinal, year, january, december]
        omega
      · refine .inl ⟨dif_neg (by omega), ?_⟩
        rw [monthOrdinal, january]
        omega

end Date

namespace MonthWalk

open MonthWindow

/-- A walk yields what it gives in as many calls as it was asked for, by induction over them. -/
theorem yields_toList (walk : MonthWalk)
    : Yields next? walk.toList walk := by
  obtain ⟨upcoming, remaining⟩ := walk
  induction remaining generalizing upcoming with
  | zero => rfl
  | succ remaining ih =>
      cases upcoming with
      | none => rfl
      | some window => exact ⟨_, rfl, ih window.previous?⟩

/-- No walk yields more months than its hint allows, by induction over the months. -/
theorem length_le_of_yields {walk : MonthWalk} {months : List MonthWindow}
    (yields : Yields next? months walk)
    : months.length ≤ walk.remaining := by
  induction months generalizing walk with
  | nil => exact Nat.zero_le _
  | cons window months ih =>
      obtain ⟨after, step, rest⟩ := yields
      unfold next? at step
      split at step
      · cases step
      · next some_left =>
        obtain ⟨_, _, same⟩ := Option.map_eq_some_iff.mp step
        cases same
        have fewer : months.length ≤ walk.remaining - 1 := ih rest
        rw [List.length_cons]
        omega

/-- From a whole month a walk counts the months of the calendar down, up to as many as it was asked
for or to the first one, by induction over the months asked for.
-/
theorem monthOrdinals_toList {window : MonthWindow} (whole : window.Whole) (count : Nat)
    : (MonthWalk.toList ⟨some window, count⟩).map (fun w => w.firstDay.monthOrdinal)
      = (List.range (min count window.firstDay.monthOrdinal)).map fun back =>
          window.firstDay.monthOrdinal - back := by
  induction count generalizing window with
  | zero => simp [toList, take, takeSteps]
  | succ count ih =>
      have step
          : MonthWalk.toList ⟨some window, count + 1⟩
            = window :: MonthWalk.toList ⟨window.previous?, count⟩ := rfl
      rw [step, List.map_cons]
      rcases Date.previous?_of_first whole.first with ⟨oldest, ordinal⟩ | ⟨day, found, ordinal⟩
      · have ended : window.previous? = none := by rw [previous?, oldest, Option.map_none]
        have nothing : MonthWalk.toList ⟨none, count⟩ = [] := by cases count <;> rfl
        rw [ended, nothing, ordinal, Nat.min_eq_right (by omega)]
        rfl
      · have previous : window.previous? = some (containing day) := by
          rw [previous?, found, Option.map_some]
        have earlier := ih (whole.previous previous).1
        have same : (containing day).firstDay.monthOrdinal = day.monthOrdinal := rfl
        rw [previous, earlier, same, ordinal, Nat.add_min_add_right, List.range_succ_eq_map,
          List.map_cons, List.map_map]
        simp [Function.comp_def]

/-- A walk that does not leave the year counts the months of the year down. -/
theorem months_toList_in_year {window : MonthWindow} (whole : window.Whole) {count : Nat}
    (within : count ≤ window.firstDay.month.number)
    : (MonthWalk.toList ⟨some window, count⟩).map
          (fun w => (w.firstDay.year, w.firstDay.month.number))
      = (List.range count).map fun back =>
          (window.firstDay.year, window.firstDay.month.number - back) := by
  have enough : min count window.firstDay.monthOrdinal = count := by
    rw [Date.monthOrdinal]
    omega
  have ordinals := congrArg (List.map Date.yearAndMonth) (monthOrdinals_toList whole count)
  simp only [List.map_map, Function.comp_def, Date.yearAndMonth_monthOrdinal, enough] at ordinals
  rw [ordinals]
  apply List.map_congr_left
  intro back member
  have before := List.mem_range.mp member
  exact Date.yearAndMonth_sub (by omega)

/-- Outside the last month of the calendar a walk yields as many months as it was asked for, or all
up to the month of its date. The one that is some months behind the first is the whole month so many
months before that of the date, and each ends on the day before the next one in time. Before every
call the months still to come are within the bounds of the hint.
-/
theorem start_yields_months {d : Date} (followed : ¬ d.InLastMonth) (count : Nat)
    : Yields next? (start d count).toList (start d count)
      ∧ (start d count).toList.length = min count d.monthOrdinal
      ∧ (∀ back window,
          (start d count).toList[back]? = some window
          → window.Whole ∧ window.firstDay.monthOrdinal + back = d.monthOrdinal)
      ∧ ((start d count).toList.IsChain fun window previous =>
          previous.lastDay.next? = some window.firstDay)
      ∧ ∀ calls,
          let coming := (start d count).toList.drop calls
          let hint := ((start d count).take calls).2.sizeHint
          Yields next? coming ((start d count).take calls).2
          ∧ hint.1 ≤ coming.length
          ∧ coming.length ≤ hint.2 := by
  have yields := (start d count).yields_toList
  have whole := whole_containing_of_not_inLastMonth followed
  have months := takeSteps_months whole count
  have ordinals
      : (start d count).toList.map (fun w => w.firstDay.monthOrdinal)
        = (List.range (min count d.monthOrdinal)).map (d.monthOrdinal - ·) :=
    monthOrdinals_toList whole count
  have length := congrArg List.length ordinals
  rw [List.length_map, List.length_map, List.length_range] at length
  refine ⟨yields, length, ?_, months.isChain, ?_⟩
  · intro back window found
    refine ⟨(months.forall_mem (List.mem_of_getElem? found)).1, ?_⟩
    have within : back < min count d.monthOrdinal :=
      length ▸ (List.getElem?_eq_some_iff.mp found).1
    have ordinal := congrArg (·[back]?) ordinals
    simp only [List.getElem?_map, found, List.getElem?_range within, Option.map_some] at ordinal
    have same := Option.some.inj ordinal
    omega
  · intro calls
    have coming := (yields.after calls).2
    exact ⟨coming, Nat.zero_le _, length_le_of_yields coming⟩

/-- Of five months back from the second month of the calendar there are two. -/
theorem start_yields_months_at_the_beginning
    : let d : Date := ⟨-262143, .february, 10, by decide, by decide, by decide, by decide⟩
      ¬ d.InLastMonth
      ∧ Yields next? (start d 5).toList (start d 5)
      ∧ (start d 5).toList.length = 2 := by
  intro d
  have followed : ¬ d.InLastMonth := by decide
  obtain ⟨yields, length, _⟩ := start_yields_months followed 5
  exact ⟨followed, yields, length⟩

end MonthWalk

end ChargeBasis
