import ChargeBasis.Summary.DailyWeighing
import ChargeBasis.Proofs.Summary.Reconstruction

/-!
Principal by day. The days of repayments are collected in ascending order, each once, with the sum
of what is repaid on it, so that a sum over days is the sum over the transactions on these days.
-/

namespace ChargeBasis.DailyRepayments

-----------------------------------------------------------------------------------------
-- Days and sums
-----------------------------------------------------------------------------------------

/-- The days come in ascending order and each of them once. -/
def Ascending (byDay : DailyRepayments) : Prop :=
  byDay.Pairwise fun a b => a.1 < b.1

def days (byDay : DailyRepayments) : List Date :=
  byDay.map Prod.fst

theorem Ascending.absent {day d : Date} {amount : Money} {rest : DailyRepayments}
    (ascending : Ascending ((d, amount) :: rest)) (bound : day ≤ d)
    : ∀ entry ∈ rest, ¬ entry.1 = day := by
  intro entry member same
  have later : d.dayNumber < entry.1.dayNumber := (List.pairwise_cons.mp ascending).1 entry member
  have lower : day.dayNumber ≤ d.dayNumber := bound
  rw [same] at later
  omega

theorem not_mem_days_of_lookup {byDay : DailyRepayments} {day : Date}
    (h : byDay.lookup day = none)
    : day ∉ byDay.days := by
  intro member
  obtain ⟨entry, listed, rfl⟩ := List.mem_map.mp member
  have missed := List.lookup_eq_none_iff.mp h entry listed
  simp at missed

theorem mem_of_lookup {byDay : DailyRepayments} {day : Date} {amount : Money}
    (h : byDay.lookup day = some amount)
    : (day, amount) ∈ byDay := by
  obtain ⟨front, back, split, _⟩ := List.lookup_eq_some_iff.mp h
  simp [split]

/-- What is found for a day of an ascending list is the sum of the day. -/
theorem Ascending.sumOn_of_lookup {byDay : DailyRepayments} (ascending : byDay.Ascending)
    {day : Date} {amount : Money} (h : byDay.lookup day = some amount)
    : byDay.sumOn (· = day) = amount.toRat := by
  obtain ⟨front, back, rfl, missed⟩ := List.lookup_eq_some_iff.mp h
  have before : sumOn front (· = day) = 0 :=
    sumOn_eq_zero fun entry member same => by simpa [same] using missed entry member
  have tail : Ascending ((day, amount) :: back) := (List.pairwise_append.mp ascending).2.1
  rw [sumOn_append, sumOn_cons, before, if_pos rfl,
    sumOn_eq_zero (tail.absent (Int.le_refl day.dayNumber))]
  ring

-----------------------------------------------------------------------------------------
-- Adding a repayment
-----------------------------------------------------------------------------------------

def Settled (byDay : DailyRepayments) : Prop :=
  ∀ entry ∈ byDay, entry.2.Settled

/-- A list differs from an earlier one by an amount on a day: the day is listed besides the days of
the earlier one, in its place, and the amount counts besides their sums.
-/
structure AddsOn (after byDay : DailyRepayments) (day : Date) (amount : Money) : Prop where
  ascending : after.Ascending
  settled : after.Settled
  days : ∀ d, d ∈ after.days ↔ d = day ∨ d ∈ byDay.days
  sums
    : ∀ (p : Date → Prop) [DecidablePred p],
        after.sumOn p = byDay.sumOn p + if p day then amount.toRat else 0

section AddsOn

variable {day d : Date} {amount total sum : Money} {byDay rest after : DailyRepayments}

/-- A day before all others is listed at the front. -/
theorem addsOn_front (ascending : byDay.Ascending) (settled : byDay.Settled)
    (totalSettled : total.Settled) (value : total.toRat = amount.toRat)
    (first : ∀ entry ∈ byDay, day < entry.1)
    : AddsOn ((day, total) :: byDay) byDay day amount where
  ascending := List.pairwise_cons.mpr ⟨first, ascending⟩
  settled := List.forall_mem_cons.mpr ⟨totalSettled, settled⟩
  days := by simp [DailyRepayments.days]
  sums := by
    intro p _
    rw [sumOn_cons, value, add_comm]

/-- A day at the front is listed with a larger sum. -/
theorem addsOn_met (ascending : Ascending ((day, total) :: rest)) (settled : Settled rest)
    (sumSettled : sum.Settled) (value : sum.toRat = total.toRat + amount.toRat)
    : AddsOn ((day, sum) :: rest) ((day, total) :: rest) day amount where
  ascending := List.pairwise_cons.mpr (List.pairwise_cons.mp ascending)
  settled := List.forall_mem_cons.mpr ⟨sumSettled, settled⟩
  days := by simp [DailyRepayments.days]
  sums := by
    intro p _
    rw [sumOn_cons, sumOn_cons, value]
    split <;> ring

/-- A later day is listed behind the front. -/
theorem AddsOn.behind (adds : AddsOn after rest day amount)
    (ascending : Ascending ((d, total) :: rest)) (totalSettled : total.Settled) (past : d < day)
    : AddsOn ((d, total) :: after) ((d, total) :: rest) day amount where
  ascending := by
    refine List.pairwise_cons.mpr ⟨?_, adds.ascending⟩
    intro entry member
    rcases (adds.days entry.1).mp (List.mem_map_of_mem member) with same | old
    · exact same ▸ past
    · obtain ⟨before, beforeMember, same⟩ := List.mem_map.mp old
      exact same ▸ (List.pairwise_cons.mp ascending).1 before beforeMember
  settled := List.forall_mem_cons.mpr ⟨totalSettled, adds.settled⟩
  days := by
    intro x
    have tail := adds.days x
    simp only [DailyRepayments.days, List.map_cons, List.mem_cons] at tail ⊢
    rw [tail]
    tauto
  sums := by
    intro p _
    rw [sumOn_cons, sumOn_cons, adds.sums]
    ring

/-- A repayment is added to the sum of its day and to no other, if that sum is in range. The
induction is over the list, whose head is met, is still earlier or is already later.
-/
theorem repay_exact (ascending : byDay.Ascending) (settled : byDay.Settled)
    (places : amount.Settled) (range : Money.InRange (byDay.sumOn (· = day) + amount.toRat))
    : ∃ after, repay day amount byDay = .ok after ∧ after.AddsOn byDay day amount := by
  induction byDay with
  | nil =>
      obtain ⟨total, added, totalSettled, value⟩ :=
        Money.add_exact Money.settled_zero places (by simpa using range)
      refine ⟨[(day, total)], by simp [repay, added, bind, Except.bind, pure, Except.pure], ?_⟩
      exact addsOn_front ascending settled totalSettled (by simpa using value) (by simp)
  | cons entry rest ih =>
      obtain ⟨d, total⟩ := entry
      obtain ⟨later, restAscending⟩ := List.pairwise_cons.mp ascending
      obtain ⟨totalSettled, restSettled⟩ := List.forall_mem_cons.mp settled
      rw [sumOn_cons] at range
      -- the range is that of one day: of the head, of a day before it or of one behind it
      by_cases met : day = d
      · subst met
        have absent := ascending.absent (Int.le_refl day.dayNumber)
        rw [if_pos rfl, sumOn_eq_zero absent, add_zero] at range
        obtain ⟨sum, added, sumSettled, value⟩ := Money.add_exact totalSettled places range
        refine ⟨(day, sum) :: rest, by simp [repay, added, bind, Except.bind, pure, Except.pure],
          ?_⟩
        exact addsOn_met ascending restSettled sumSettled value
      · by_cases early : day < d
        · have absent := ascending.absent (Int.le_of_lt early)
          rw [if_neg (Ne.symm met), sumOn_eq_zero absent, zero_add] at range
          obtain ⟨sum, added, sumSettled, value⟩ :=
            Money.add_exact Money.settled_zero places (by simpa using range)
          refine ⟨(day, sum) :: (d, total) :: rest,
            by simp [repay, met, early, added, bind, Except.bind, pure, Except.pure], ?_⟩
          exact addsOn_front ascending settled sumSettled (by simpa using value)
            (List.forall_mem_cons.mpr
              ⟨early, fun entry member => Int.lt_trans early (later entry member)⟩)
        · have past : d < day := by
            have different : day.dayNumber ≠ d.dayNumber := fun same =>
              met (Date.dayNumber_injective same)
            have notEarly : ¬ day.dayNumber < d.dayNumber := early
            change d.dayNumber < day.dayNumber
            omega
          rw [if_neg (Ne.symm met), zero_add] at range
          obtain ⟨after, added, adds⟩ := ih restAscending restSettled range
          refine ⟨(d, total) :: after,
            by simp [repay, met, early, added, bind, Except.bind, pure, Except.pure], ?_⟩
          exact adds.behind ascending totalSettled past

end AddsOn

-----------------------------------------------------------------------------------------
-- Tallies of transactions
-----------------------------------------------------------------------------------------

/-- What is listed by day is what transactions repay: every day of a repayment is listed and no
other, and for all days the sums agree.
-/
structure Tallies (byDay : DailyRepayments) (transactions : List LoanTransaction) : Prop where
  ascending : byDay.Ascending
  settled : byDay.Settled
  days : ∀ d, d ∈ byDay.days ↔ ∃ t ∈ transactions, t.isRepayment = true ∧ t.date = d
  sums
    : ∀ (p : Date → Prop) [DecidablePred p],
        byDay.sumOn p = repaidOn (·.principalPortion) transactions p

theorem tallies_nil
    : Tallies [] [] where
  ascending := List.Pairwise.nil
  settled := fun entry member => by cases member
  days := fun d => by simp [DailyRepayments.days]
  sums := fun _ _ => rfl

/-- A transaction that is no repayment changes nothing. -/
theorem Tallies.skip {byDay : DailyRepayments} {transactions : List LoanTransaction}
    (tallies : byDay.Tallies transactions) {t : LoanTransaction} (other : t.isRepayment = false)
    : byDay.Tallies (transactions ++ [t]) where
  ascending := tallies.ascending
  settled := tallies.settled
  days := fun d => by simp [tallies.days, other]
  sums := fun p _ => by rw [tallies.sums, repaidOn_append]; simp [repaidOn_cons, other]

/-- A repayment is added to its day, if the sum of that day stays in range. -/
theorem Tallies.repay {byDay : DailyRepayments} {transactions : List LoanTransaction}
    (tallies : byDay.Tallies transactions) {t : LoanTransaction} (repays : t.isRepayment = true)
    (places : t.principalPortion.Settled)
    (range : Money.InRange (repaidOn (·.principalPortion) (transactions ++ [t]) (· = t.date)))
    : ∃ after,
        DailyRepayments.repay t.date t.principalPortion byDay = .ok after
        ∧ after.Tallies (transactions ++ [t]) := by
  rw [repaidOn_append, ← tallies.sums, repaidOn_cons] at range
  obtain ⟨after, repaid, adds⟩ :=
    repay_exact tallies.ascending tallies.settled places (by simpa [repays] using range)
  refine ⟨after, repaid, adds.ascending, adds.settled, ?_, ?_⟩
  · intro d
    rw [adds.days, tallies.days]
    simp only [List.mem_append, List.mem_singleton]
    constructor
    · intro counted
      rcases counted with rfl | ⟨other, member, counts⟩
      · exact ⟨t, .inr rfl, repays, rfl⟩
      · exact ⟨other, .inl member, counts⟩
    · intro counted
      rcases counted with ⟨other, member | rfl, counts⟩
      · exact .inr ⟨other, member, counts⟩
      · exact .inl counts.2.symm
  · intro p _
    rw [adds.sums, tallies.sums, repaidOn_append]
    simp [repaidOn_cons, repays]

/-- Listing transactions behind others gives a tally of all of them, if the sum of every day stays
in range all the time; by induction over the transactions still to be listed.
-/
theorem Tallies.foldlM {byDay : DailyRepayments} {listed transactions : List LoanTransaction}
    (tallies : byDay.Tallies listed) (places : ∀ t ∈ transactions, t.principalPortion.Settled)
    (range
      : ∀ front, front <+: transactions
          → ∀ day, Money.InRange (repaidOn (·.principalPortion) (listed ++ front) (· = day)))
    : ∃ after,
        (transactions.filter (·.isRepayment)).foldlM
            (fun (byDay : DailyRepayments) t =>
              DailyRepayments.repay t.date t.principalPortion byDay) byDay
          = .ok after
        ∧ after.Tallies (listed ++ transactions) := by
  induction transactions generalizing byDay listed with
  | nil => exact ⟨byDay, rfl, by rwa [List.append_nil]⟩
  | cons t rest ih =>
      have placesRest : ∀ t ∈ rest, t.principalPortion.Settled :=
        fun t member => places t (by simp [member])
      have rangeRest
          : ∀ front, front <+: rest
              → ∀ day,
                  Money.InRange
                    (repaidOn (·.principalPortion) (listed ++ [t] ++ front) (· = day)) := by
        intro front leading day
        have longer := range (t :: front) (by simpa using leading) day
        rwa [List.append_cons] at longer
      rw [List.append_cons]
      cases repays : t.isRepayment with
      | false =>
          rw [List.filter_cons_of_neg (by simp [repays])]
          exact ih (tallies.skip repays) placesRest rangeRest
      | true =>
          obtain ⟨next, repaid, nextTallies⟩ :=
            tallies.repay repays (places t (by simp)) (range [t] (by simp) t.date)
          rw [List.filter_cons_of_pos repays, List.foldlM_cons, repaid]
          exact ih nextTallies placesRest rangeRest

/-- The transactions are listed by day without any rounding. -/
theorem ofTransactions_exact {transactions : List LoanTransaction}
    (places : ∀ t ∈ transactions, t.principalPortion.Settled)
    (range
      : ∀ front, front <+: transactions
          → ∀ day, Money.InRange (repaidOn (·.principalPortion) front (· = day)))
    : ∃ byDay, ofTransactions transactions = .ok byDay ∧ byDay.Tallies transactions :=
  tallies_nil.foldlM places range

/-- From a day on the list is a tally of the transactions from that day on. -/
theorem Tallies.onOrAfter {byDay : DailyRepayments} {transactions : List LoanTransaction}
    (tallies : byDay.Tallies transactions) (boundary : Date)
    : (byDay.onOrAfter boundary).Tallies (transactions.filter fun t => boundary ≤ t.date) where
  ascending := tallies.ascending.filter _
  settled := fun entry member => tallies.settled entry (List.mem_of_mem_filter member)
  days := by
    intro d
    have listed := tallies.days d
    simp only [DailyRepayments.days, List.mem_map] at listed
    simp only [DailyRepayments.days, DailyRepayments.onOrAfter, List.mem_map, List.mem_filter,
      decide_eq_true_eq]
    constructor
    · intro kept
      obtain ⟨entry, ⟨member, late⟩, rfl⟩ := kept
      obtain ⟨t, counted, repays, same⟩ := listed.mp ⟨entry, member, rfl⟩
      exact ⟨t, ⟨counted, same ▸ late⟩, repays, same⟩
    · intro repaid
      obtain ⟨t, ⟨counted, late⟩, repays, rfl⟩ := repaid
      obtain ⟨entry, member, same⟩ := listed.mpr ⟨t, counted, repays, rfl⟩
      exact ⟨entry, ⟨member, same ▸ late⟩, same⟩
  sums := fun p _ => by
    rw [DailyRepayments.onOrAfter, sumOn_filter, repaidOn_filter (fun day => boundary ≤ day),
      tallies.sums]

-----------------------------------------------------------------------------------------
-- The total
-----------------------------------------------------------------------------------------

/-- Up to a listed day the sum is that of the entries up to the one of the day. -/
theorem Ascending.sumOn_le {front back : DailyRepayments} {day : Date} {amount : Money}
    (ascending : Ascending (front ++ (day, amount) :: back))
    : sumOn (front ++ (day, amount) :: back) (· ≤ day)
      = ((front ++ [(day, amount)]).map fun entry => entry.2.toRat).sum := by
  obtain ⟨_, tail, between⟩ := List.pairwise_append.mp ascending
  have before : sumOn front (· ≤ day) = sumOn front fun _ => True :=
    sumOn_congr fun entry member =>
      iff_true_intro (Int.le_of_lt (between entry member (day, amount) (by simp)))
  have behind : sumOn back (· ≤ day) = 0 :=
    sumOn_eq_zero fun entry member =>
      Int.not_le.mpr ((List.pairwise_cons.mp tail).1 entry member)
  have here : day ≤ day := Int.le_refl day.dayNumber
  rw [sumOn_append, sumOn_cons, before, behind, sumOn_all, if_pos here]
  simp

/-- The sums of the days are added up from the first day on, so that every sum on the way is that up
to some day.
-/
theorem Tallies.partialSumsInRange {byDay : DailyRepayments}
    {transactions : List LoanTransaction} (tallies : byDay.Tallies transactions)
    (range : ∀ day, Money.InRange (repaidOn (·.principalPortion) transactions (· ≤ day)))
    : Money.PartialSumsInRange ((byDay.map Prod.snd).map Money.toRat) := by
  intro front leading
  rw [List.map_map, List.prefix_map_iff] at leading
  obtain ⟨entries, ⟨back, split⟩, rfl⟩ := leading
  rcases List.eq_nil_or_concat entries with rfl | ⟨before, ⟨day, amount⟩, rfl⟩
  · exact Money.inRange_zero
  · rw [List.concat_eq_append, List.append_assoc, List.singleton_append] at split
    have upTo := (split ▸ tallies.ascending).sumOn_le
    rw [split, tallies.sums] at upTo
    rw [List.concat_eq_append]
    exact upTo ▸ range day

theorem Tallies.settled_amounts {byDay : DailyRepayments} {transactions : List LoanTransaction}
    (tallies : byDay.Tallies transactions)
    : ∀ m ∈ byDay.map Prod.snd, m.Settled := by
  intro m member
  obtain ⟨entry, listed, rfl⟩ := List.mem_map.mp member
  exact tallies.settled entry listed

/-- The total of a tally is what the transactions repay, if every sum up to some day is in range. -/
theorem Tallies.total_exact {byDay : DailyRepayments} {transactions : List LoanTransaction}
    (tallies : byDay.Tallies transactions)
    (range : ∀ day, Money.InRange (repaidOn (·.principalPortion) transactions (· ≤ day)))
    : ∃ total,
        byDay.total = .ok total
        ∧ total.Settled
        ∧ total.toRat = repaidOn (·.principalPortion) transactions fun _ => True := by
  obtain ⟨total, summed, settled, value⟩ :=
    Money.sum_exact tallies.settled_amounts (tallies.partialSumsInRange range)
  refine ⟨total, summed, settled, ?_⟩
  rw [value, List.map_map, ← tallies.sums, sumOn_all]
  rfl

end ChargeBasis.DailyRepayments
