import ChargeBasis.Summary.DailyWeighing
import ChargeBasis.Proofs.Money.Exactness

/-!
Sums over days. Amounts are listed with their days, and for certain days those of them are summed
that are listed for one of the days.
-/

namespace ChargeBasis.DailyRepayments

/-- The sum of what is listed for certain days. -/
def sumOn (byDay : DailyRepayments) (p : Date → Prop) [DecidablePred p] : ℚ :=
  ((byDay.filter fun entry => p entry.1).map fun entry => entry.2.toRat).sum

section SumOn

variable {byDay : DailyRepayments}

@[simp] theorem sumOn_nil (p : Date → Prop) [DecidablePred p]
    : sumOn [] p = 0 :=
  rfl

theorem sumOn_cons (day : Date) (amount : Money) (p : Date → Prop) [DecidablePred p]
    : sumOn ((day, amount) :: byDay) p
      = (if p day then amount.toRat else 0) + sumOn byDay p := by
  unfold sumOn
  by_cases counts : p day <;> simp [counts]

theorem sumOn_append (front back : DailyRepayments) (p : Date → Prop) [DecidablePred p]
    : sumOn (front ++ back) p = sumOn front p + sumOn back p := by
  simp [sumOn, List.filter_append]

/-- Days without an entry can be exchanged. -/
theorem sumOn_congr {p q : Date → Prop} [DecidablePred p] [DecidablePred q]
    (same : ∀ entry ∈ byDay, p entry.1 ↔ q entry.1)
    : byDay.sumOn p = byDay.sumOn q := by
  unfold sumOn
  have kept : (byDay.filter fun entry => p entry.1) = byDay.filter fun entry => q entry.1 :=
    List.filter_congr fun entry member => decide_eq_decide.mpr (same entry member)
  rw [kept]

/-- Days that fall into two parts are summed part by part, by induction over the list. -/
theorem sumOn_union {p q r : Date → Prop} [DecidablePred p] [DecidablePred q] [DecidablePred r]
    (parts : ∀ d, r d ↔ p d ∨ q d) (disjoint : ∀ d, ¬(p d ∧ q d))
    : byDay.sumOn r = byDay.sumOn p + byDay.sumOn q := by
  induction byDay with
  | nil => simp
  | cons entry rest ih =>
      obtain ⟨day, amount⟩ := entry
      have either := parts day
      have not_both := disjoint day
      simp only [sumOn_cons, ih]
      by_cases hp : p day <;> by_cases hq : q day <;>
        simp_all <;> ring

theorem sumOn_eq_zero {p : Date → Prop} [DecidablePred p]
    (absent : ∀ entry ∈ byDay, ¬ p entry.1)
    : byDay.sumOn p = 0 := by
  rw [sumOn_congr (q := fun _ => False) fun entry member => iff_false_intro (absent entry member)]
  simp [sumOn]

/-- Of the entries on certain days only those days count. -/
theorem sumOn_filter (p q : Date → Prop) [DecidablePred p] [DecidablePred q]
    : sumOn (byDay.filter fun entry => p entry.1) q = byDay.sumOn fun d => p d ∧ q d := by
  unfold sumOn
  rw [List.filter_filter]
  congr 2
  apply List.filter_congr
  intro entry _
  simp only [← Bool.decide_and, decide_eq_decide]
  tauto

theorem sumOn_all
    : byDay.sumOn (fun _ => True) = (byDay.map fun entry => entry.2.toRat).sum := by
  simp [sumOn]

end SumOn

end ChargeBasis.DailyRepayments
