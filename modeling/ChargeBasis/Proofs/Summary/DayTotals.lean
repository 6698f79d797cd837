import ChargeBasis.Proofs.Summary.RepaymentsByDay

/-!
Repayments by day to the last digit. Whatever is rounded on the way, every day of a repayment is
listed with the sum of its repayments in the order in which they come, and there is a list exactly
if none of these sums overflows. So the part of the list from some day on is determined by the
repayments from that day on and by whether the days before it overflow.
-/

namespace ChargeBasis

namespace Money

theorem add_failed {a b : Money} {kind : Overflow} (h : a.add b = .error kind)
    : kind = .addition := by
  unfold add settle at h
  split at h <;> cases h
  rfl

end Money

namespace DailyRepayments

-----------------------------------------------------------------------------------------
-- The amount of a day
-----------------------------------------------------------------------------------------

/-- What is listed for a day, nothing if the day is not listed. -/
def paidOn (byDay : DailyRepayments) (day : Date) : Money :=
  (byDay.lookup day).getD .zero

/-- Lists an amount for a day in place of what was listed for it. -/
def setDay (day : Date) (amount : Money) : DailyRepayments → DailyRepayments
  | [] => [(day, amount)]
  | (d, total) :: rest =>
    if day = d then (day, amount) :: rest
    else if day < d then (day, amount) :: (d, total) :: rest
    else (d, total) :: setDay day amount rest

section SetDay

variable {byDay rest : DailyRepayments} {day d : Date} {amount total : Money}

theorem paidOn_cons_self (day : Date) (total : Money) (rest : DailyRepayments)
    : paidOn ((day, total) :: rest) day = total := by
  simp [paidOn]

theorem paidOn_cons_of_ne (different : day ≠ d) (total : Money) (rest : DailyRepayments)
    : paidOn ((d, total) :: rest) day = paidOn rest day := by
  have missed : (day == d) = false := by simpa using different
  simp [paidOn, List.lookup_cons, missed]

/-- Nothing is listed for a day before the first one. -/
theorem Ascending.paidOn_of_lt (ascending : Ascending ((d, total) :: rest)) (early : day < d)
    : paidOn ((d, total) :: rest) day = .zero := by
  have missing : List.lookup day ((d, total) :: rest) = none := by
    rw [List.lookup_eq_none_iff]
    intro entry member
    rw [bne_iff_ne]
    rintro rfl
    rcases List.mem_cons.mp member with rfl | behind
    · exact absurd early (Int.lt_irrefl d.dayNumber)
    · exact ascending.absent (Int.le_of_lt early) entry behind rfl
  rw [paidOn, missing]
  rfl

/-- A repayment is added to what is listed for its day, by induction over the list. -/
theorem repay_eq_map (ascending : byDay.Ascending)
    : repay day amount byDay
      = ((byDay.paidOn day).add amount).map fun sum => byDay.setDay day sum := by
  induction byDay with
  | nil =>
      simp only [repay, paidOn, setDay, List.lookup_nil, Option.getD_none]
      cases Money.zero.add amount <;> rfl
  | cons entry rest ih =>
      obtain ⟨d, total⟩ := entry
      by_cases met : day = d
      · subst met
        simp only [repay, setDay, paidOn_cons_self, if_true]
        cases total.add amount <;> rfl
      · by_cases early : day < d
        · simp only [repay, setDay, met, early, ascending.paidOn_of_lt early, if_false, if_true]
          cases Money.zero.add amount <;> rfl
        · simp only [repay, setDay, met, early, paidOn_cons_of_ne met, if_false,
            ih (List.pairwise_cons.mp ascending).2]
          cases (paidOn rest day).add amount <;> rfl

/-- After an amount is listed for a day, the other days are listed as before. -/
theorem mem_setDay (ascending : byDay.Ascending) (entry : Date × Money)
    : entry ∈ byDay.setDay day amount
      ↔ entry = (day, amount) ∨ entry ∈ byDay ∧ entry.1 ≠ day := by
  induction byDay with
  | nil => simp [setDay]
  | cons head rest ih =>
      obtain ⟨d, total⟩ := head
      unfold setDay
      by_cases met : day = d
      · subst met
        have others : ∀ entry ∈ rest, ¬ entry.1 = day :=
          ascending.absent (Int.le_refl day.dayNumber)
        rw [if_pos rfl, List.mem_cons, List.mem_cons]
        constructor
        · rintro (rfl | behind)
          · exact .inl rfl
          · exact .inr ⟨.inr behind, others entry behind⟩
        · rintro (rfl | ⟨rfl | behind, different⟩)
          · exact .inl rfl
          · exact absurd rfl different
          · exact .inr behind
      · by_cases early : day < d
        · have others : ∀ entry ∈ (d, total) :: rest, ¬ entry.1 = day := by
            intro entry member
            rcases List.mem_cons.mp member with rfl | behind
            · exact fun same => met same.symm
            · exact ascending.absent (Int.le_of_lt early) entry behind
          rw [if_neg met, if_pos early, List.mem_cons]
          constructor
          · rintro (rfl | listed)
            · exact .inl rfl
            · exact .inr ⟨listed, others entry listed⟩
          · rintro (rfl | ⟨listed, _⟩)
            · exact .inl rfl
            · exact .inr listed
        · rw [if_neg met, if_neg early, List.mem_cons, List.mem_cons,
            ih (List.pairwise_cons.mp ascending).2]
          constructor
          · rintro (rfl | rfl | ⟨behind, different⟩)
            · exact .inr ⟨.inl rfl, fun same => met same.symm⟩
            · exact .inl rfl
            · exact .inr ⟨.inr behind, different⟩
          · rintro (rfl | ⟨rfl | behind, different⟩)
            · exact .inr (.inl rfl)
            · exact .inl rfl
            · exact .inr (.inr ⟨behind, different⟩)

theorem ascending_setDay (ascending : byDay.Ascending)
    : (byDay.setDay day amount).Ascending := by
  induction byDay with
  | nil => exact List.pairwise_singleton _ _
  | cons head rest ih =>
      obtain ⟨d, total⟩ := head
      obtain ⟨later, restAscending⟩ := List.pairwise_cons.mp ascending
      unfold setDay
      by_cases met : day = d
      · subst met
        rw [if_pos rfl]
        exact List.pairwise_cons.mpr ⟨later, restAscending⟩
      · by_cases early : day < d
        · rw [if_neg met, if_pos early]
          refine List.pairwise_cons.mpr ⟨List.forall_mem_cons.mpr ⟨early, ?_⟩, ascending⟩
          exact fun entry member => Int.lt_trans early (later entry member)
        · rw [if_neg met, if_neg early]
          refine List.pairwise_cons.mpr ⟨?_, ih restAscending⟩
          intro entry member
          rcases (mem_setDay restAscending entry).mp member with rfl | ⟨behind, _⟩
          · have different : day.dayNumber ≠ d.dayNumber := fun same =>
              met (Date.dayNumber_injective same)
            have notEarly : ¬ day.dayNumber < d.dayNumber := early
            change d.dayNumber < day.dayNumber
            omega
          · exact later entry behind

/-- What is listed for a day of an ascending list is found there. -/
theorem Ascending.paidOn_of_mem (ascending : byDay.Ascending) (listed : (day, amount) ∈ byDay)
    : byDay.paidOn day = amount := by
  induction byDay with
  | nil => cases listed
  | cons head rest ih =>
      obtain ⟨d, total⟩ := head
      rcases List.mem_cons.mp listed with same | behind
      · cases same
        exact paidOn_cons_self day amount rest
      · have past : d < day := (List.pairwise_cons.mp ascending).1 (day, amount) behind
        have different : day ≠ d := by
          intro same
          subst same
          exact Int.lt_irrefl day.dayNumber past
        rw [paidOn_cons_of_ne different]
        exact ih (List.pairwise_cons.mp ascending).2 behind

theorem paidOn_of_not_mem (missing : ∀ amount, (day, amount) ∉ byDay)
    : byDay.paidOn day = .zero := by
  have absent : byDay.lookup day = none := by
    rw [List.lookup_eq_none_iff]
    intro entry member
    rw [bne_iff_ne]
    intro same
    exact missing entry.2 (same ▸ member)
  rw [paidOn, absent]
  rfl

/-- Two ascending lists with the same entries are the same list. -/
theorem Ascending.eq_of_mem_iff {other : DailyRepayments} (ascending : byDay.Ascending)
    (otherAscending : other.Ascending) (same : ∀ entry, entry ∈ byDay ↔ entry ∈ other)
    : byDay = other := by
  have irreflexive : Std.Irrefl fun a b : Date × Money => a.1 < b.1 :=
    ⟨fun a => Int.lt_irrefl a.1.dayNumber⟩
  have asymmetric : Std.Antisymm fun a b : Date × Money => a.1 < b.1 :=
    ⟨fun a _ before after => absurd (Int.lt_trans before after) (Int.lt_irrefl a.1.dayNumber)⟩
  exact List.Pairwise.eq_of_mem_iff ascending otherAscending same

end SetDay

-----------------------------------------------------------------------------------------
-- The list of transactions
-----------------------------------------------------------------------------------------

/-- The sum of what is repaid on a day, in the order of the transactions. -/
def principalOn (transactions : List LoanTransaction) (day : Date) : Except Overflow Money :=
  Money.sum
    ((transactions.filter fun t => t.isRepayment && t.date == day).map (·.principalPortion))

/-- Every day of a repayment is listed with the sum of the day, and there are all these sums. -/
structure Lists (byDay : DailyRepayments) (transactions : List LoanTransaction) : Prop where
  ascending : byDay.Ascending
  entries
    : ∀ day amount,
        (day, amount) ∈ byDay
        ↔ (∃ t ∈ transactions, t.isRepayment = true ∧ t.date = day)
          ∧ principalOn transactions day = .ok amount
  sums : ∀ day, ∃ amount, principalOn transactions day = .ok amount

section Lists

variable {byDay : DailyRepayments} {transactions front : List LoanTransaction}
  {t : LoanTransaction} {day : Date}

/-- Another transaction adds to the sum of its day, and to no other. -/
theorem principalOn_snoc (front : List LoanTransaction) (t : LoanTransaction) (day : Date)
    : principalOn (front ++ [t]) day
      = if t.isRepayment = true ∧ t.date = day then
          principalOn front day >>= fun total => total.add t.principalPortion
        else principalOn front day := by
  unfold principalOn
  rw [List.filter_append, List.map_append]
  by_cases counts : t.isRepayment = true ∧ t.date = day
  · rw [if_pos counts, List.filter_cons_of_pos (by simpa using counts)]
    exact Money.sum_snoc _ _
  · rw [if_neg counts, List.filter_cons_of_neg (by simpa using counts)]
    simp

/-- Without a repayment on a day the sum of the day is nothing. -/
theorem principalOn_of_absent
    (absent : ¬ ∃ t ∈ transactions, t.isRepayment = true ∧ t.date = day)
    : principalOn transactions day = .ok .zero := by
  have none : transactions.filter (fun t => t.isRepayment && t.date == day) = [] := by
    rw [List.filter_eq_nil_iff]
    intro t member counts
    exact absent ⟨t, member, by simpa using counts⟩
  rw [principalOn, none]
  rfl

/-- What is listed for a day is the sum of the day. -/
theorem Lists.principalOn_eq (lists : byDay.Lists transactions) (day : Date)
    : principalOn transactions day = .ok (byDay.paidOn day) := by
  by_cases paid : ∃ t ∈ transactions, t.isRepayment = true ∧ t.date = day
  · obtain ⟨amount, summed⟩ := lists.sums day
    rw [summed, lists.ascending.paidOn_of_mem ((lists.entries day amount).mpr ⟨paid, summed⟩)]
  · have missing (amount : Money) : (day, amount) ∉ byDay := fun listed =>
      paid ((lists.entries day amount).mp listed).1
    rw [principalOn_of_absent paid, paidOn_of_not_mem missing]

theorem ofTransactions_snoc (front : List LoanTransaction) (t : LoanTransaction)
    : ofTransactions (front ++ [t])
      = ofTransactions front >>= fun byDay =>
          if t.isRepayment then byDay.repay t.date t.principalPortion else .ok byDay := by
  unfold ofTransactions
  rw [List.filter_append, List.foldlM_append]
  cases repays : t.isRepayment with
  | false =>
      rw [List.filter_cons_of_neg (by simp [repays])]
      rfl
  | true =>
      rw [List.filter_cons_of_pos repays]
      simp only [List.filter_nil, List.foldlM_cons, List.foldlM_nil, bind_pure, if_true]

/-- A repayment whose day does not overflow is listed. -/
theorem Lists.repay (lists : byDay.Lists front) (repays : t.isRepayment = true) {sum : Money}
    (added : (byDay.paidOn t.date).add t.principalPortion = .ok sum)
    : (byDay.setDay t.date sum).Lists (front ++ [t]) := by
  have own : principalOn (front ++ [t]) t.date = .ok sum := by
    rw [principalOn_snoc, if_pos ⟨repays, rfl⟩, lists.principalOn_eq]
    exact added
  have others (day : Date) (different : day ≠ t.date)
      : principalOn (front ++ [t]) day = principalOn front day := by
    rw [principalOn_snoc, if_neg fun counts => different counts.2.symm]
  refine ⟨ascending_setDay lists.ascending, ?_, ?_⟩
  · intro day amount
    rw [mem_setDay lists.ascending, lists.entries]
    by_cases same : day = t.date
    · subst same
      rw [own]
      constructor
      · intro listed
        rcases listed with same | ⟨_, different⟩
        · cases same
          exact ⟨⟨t, by simp, repays, rfl⟩, rfl⟩
        · exact absurd rfl different
      · intro paid
        cases paid.2
        exact .inl rfl
    · rw [others day same]
      constructor
      · intro listed
        rcases listed with met | ⟨⟨⟨other, member, counts⟩, summed⟩, _⟩
        · exact absurd (Prod.mk.inj met).1 same
        · exact ⟨⟨other, List.mem_append_left _ member, counts⟩, summed⟩
      · intro paid
        obtain ⟨⟨other, member, repaysOther, on⟩, summed⟩ := paid
        rcases List.mem_append.mp member with old | new
        · exact .inr ⟨⟨⟨other, old, repaysOther, on⟩, summed⟩, same⟩
        · cases List.mem_singleton.mp new
          exact absurd on.symm same
  · intro day
    by_cases same : day = t.date
    · exact ⟨sum, same ▸ own⟩
    · rw [others day same]
      exact lists.sums day

/-- A transaction that is no repayment is passed over. -/
theorem Lists.skip (lists : byDay.Lists front) (other : t.isRepayment = false)
    : byDay.Lists (front ++ [t]) where
  ascending := lists.ascending
  entries := by
    intro day amount
    rw [principalOn_snoc, if_neg (by simp [other]), lists.entries]
    simp [other]
  sums := by
    intro day
    rw [principalOn_snoc, if_neg (by simp [other])]
    exact lists.sums day

/-- Either all days are listed with their sums, or one of the sums overflows; by induction over the
transactions, the last one of which adds to a list of the others.
-/
theorem lists_or_overflow (transactions : List LoanTransaction)
    : (∃ byDay, ofTransactions transactions = .ok byDay ∧ byDay.Lists transactions)
      ∨ ofTransactions transactions = .error .addition
        ∧ ∃ day, principalOn transactions day = .error .addition := by
  induction transactions using List.reverseRecOn with
  | nil =>
      refine .inl ⟨[], rfl, .nil, ?_, fun day => ⟨.zero, rfl⟩⟩
      intro day amount
      simp
  | append_singleton front t ih =>
      rw [ofTransactions_snoc]
      rcases ih with ⟨byDay, listed, lists⟩ | ⟨overflow, day, daily⟩
      · rw [listed]
        cases repays : t.isRepayment with
        | false => exact .inl ⟨byDay, rfl, lists.skip repays⟩
        | true =>
            change
              (∃ after, byDay.repay t.date t.principalPortion = .ok after ∧ _)
              ∨ byDay.repay t.date t.principalPortion = .error .addition ∧ _
            rw [repay_eq_map lists.ascending]
            rcases added : (byDay.paidOn t.date).add t.principalPortion with kind | sum
            · cases Money.add_failed added
              refine .inr ⟨rfl, t.date, ?_⟩
              rw [principalOn_snoc, if_pos ⟨repays, rfl⟩, lists.principalOn_eq]
              exact added
            · exact .inl ⟨_, rfl, lists.repay repays added⟩
      · refine .inr ⟨by rw [overflow]; rfl, day, ?_⟩
        rw [principalOn_snoc, daily]
        split <;> rfl

end Lists

-----------------------------------------------------------------------------------------
-- The list from a day on
-----------------------------------------------------------------------------------------

section OnOrAfter

variable {byDay other : DailyRepayments} {transactions others : List LoanTransaction}
  {boundary day : Date}

/-- The repayments on a day or later, in order. -/
def repaymentsFrom (boundary : Date) (transactions : List LoanTransaction)
    : List LoanTransaction :=
  transactions.filter fun t => t.isRepayment && decide (boundary ≤ t.date)

/-- The repayments of a day are among those from an earlier day on. -/
theorem filter_day_eq (after : boundary ≤ day) (transactions : List LoanTransaction)
    : transactions.filter (fun t => t.isRepayment && t.date == day)
      = (repaymentsFrom boundary transactions).filter fun t => t.date == day := by
  rw [repaymentsFrom, List.filter_filter]
  apply List.filter_congr
  intro t _
  by_cases on : t.date = day
  · simp [on, after]
  · have missed : (t.date == day) = false := by simpa using on
    simp [missed]

theorem principalOn_congr
    (late : repaymentsFrom boundary transactions = repaymentsFrom boundary others)
    (after : boundary ≤ day)
    : principalOn transactions day = principalOn others day := by
  rw [principalOn, principalOn, filter_day_eq after, filter_day_eq after, late]

theorem exists_repayment_congr
    (late : repaymentsFrom boundary transactions = repaymentsFrom boundary others)
    (after : boundary ≤ day)
    : (∃ t ∈ transactions, t.isRepayment = true ∧ t.date = day)
      ↔ ∃ t ∈ others, t.isRepayment = true ∧ t.date = day := by
  have kept (list : List LoanTransaction)
      : (∃ t ∈ list, t.isRepayment = true ∧ t.date = day)
        ↔ ∃ t, t ∈ list.filter fun t => t.isRepayment && t.date == day := by
    simp
  rw [kept, kept, filter_day_eq after, filter_day_eq after, late]

/-- From a day on a list is that of the repayments from that day on. -/
theorem Lists.onOrAfter_eq (lists : byDay.Lists transactions) (otherLists : other.Lists others)
    (late : repaymentsFrom boundary transactions = repaymentsFrom boundary others)
    : byDay.onOrAfter boundary = other.onOrAfter boundary := by
  refine Ascending.eq_of_mem_iff (lists.ascending.filter _) (otherLists.ascending.filter _) ?_
  intro entry
  rw [onOrAfter, onOrAfter, List.mem_filter, List.mem_filter, decide_eq_true_eq]
  refine and_congr_left fun after => ?_
  rw [lists.entries entry.1 entry.2, otherLists.entries entry.1 entry.2,
    exists_repayment_congr late after, principalOn_congr late after]

/-- Transactions with the same repayments from a day on are listed alike from that day on, if the
days before it overflow for both or for none.
-/
theorem onOrAfter_ofTransactions_congr
    (late : repaymentsFrom boundary transactions = repaymentsFrom boundary others)
    (early
      : ∀ day < boundary,
          (∃ amount, principalOn transactions day = .ok amount)
          ↔ ∃ amount, principalOn others day = .ok amount)
    : (ofTransactions transactions).map (·.onOrAfter boundary)
      = (ofTransactions others).map (·.onOrAfter boundary) := by
  have alike (day : Date)
      : (∃ amount, principalOn transactions day = .ok amount)
        ↔ ∃ amount, principalOn others day = .ok amount := by
    by_cases after : boundary ≤ day
    · rw [principalOn_congr late after]
    · exact early day (Int.lt_of_not_ge after)
  rcases lists_or_overflow transactions with ⟨byDay, listed, lists⟩ | ⟨overflow, day, daily⟩ <;>
    rcases lists_or_overflow others with
      ⟨other, otherListed, otherLists⟩ | ⟨otherOverflow, otherDay, otherDaily⟩
  · rw [listed, otherListed]
    exact congrArg Except.ok (lists.onOrAfter_eq otherLists late)
  · obtain ⟨amount, summed⟩ := (alike otherDay).mp (lists.sums otherDay)
    cases otherDaily.symm.trans summed
  · obtain ⟨amount, summed⟩ := (alike day).mpr (otherLists.sums day)
    cases daily.symm.trans summed
  · rw [overflow, otherOverflow]

end OnOrAfter

end DailyRepayments

end ChargeBasis
