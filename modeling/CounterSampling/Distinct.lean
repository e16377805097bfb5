/-!
# Lists without repeats
-/

namespace CounterSampling

variable {α : Type} [DecidableEq α]

/-- The elements of a list without repeats, each at its first place. -/
def distinct : List α → List α
  | [] => []
  | a :: as => a :: (distinct as).filter fun b => decide (b ≠ a)

@[simp] theorem mem_distinct {a : α} {as : List α} : a ∈ distinct as ↔ a ∈ as := by
  induction as with
  | nil => rfl
  | cons b as ih =>
    by_cases h : a = b <;> simp [distinct, ih, h]

theorem nodup_distinct (as : List α) : (distinct as).Nodup := by
  induction as with
  | nil => exact List.nodup_nil
  | cons b as ih => exact List.nodup_cons.2 ⟨by simp, ih.sublist List.filter_sublist⟩

theorem distinct_sublist (as : List α) : (distinct as).Sublist as := by
  induction as with
  | nil => exact List.Sublist.slnil
  | cons a as ih => exact (List.filter_sublist.trans ih).cons_cons a

theorem distinct_cons_of_notMem {a : α} {as : List α} (fresh : a ∉ as) :
    distinct (a :: as) = a :: distinct as := by
  have others : (distinct as).filter (fun b => decide (b ≠ a)) = distinct as := by
    rw [List.filter_eq_self]
    intro b mem
    rw [decide_eq_true_iff]
    rintro rfl
    exact fresh (mem_distinct.1 mem)
  rw [distinct, others]

theorem distinct_of_nodup {as : List α} (nodup : as.Nodup) : distinct as = as := by
  induction as with
  | nil => rfl
  | cons a as ih =>
    obtain ⟨fresh, nodup⟩ := List.nodup_cons.1 nodup
    rw [distinct_cons_of_notMem fresh, ih nodup]

theorem distinct_perm {as bs : List α} (same : ∀ a, a ∈ as ↔ a ∈ bs) :
    (distinct as).Perm (distinct bs) := by
  rw [List.perm_ext_iff_of_nodup (nodup_distinct as) (nodup_distinct bs)]
  intro a
  rw [mem_distinct, mem_distinct]
  exact same a

/-- What only the first of two lists has, and the second list. -/
theorem distinct_append_perm {as : List α} (nodup : as.Nodup) (bs : List α) :
    (distinct (as ++ bs)).Perm ((as.filter fun a => decide (a ∉ bs)) ++ distinct bs) := by
  have apart : ((as.filter fun a => decide (a ∉ bs)) ++ distinct bs).Nodup := by
    rw [List.nodup_append]
    refine ⟨nodup.filter _, nodup_distinct bs, ?_⟩
    intro a left b right same
    have absent := of_decide_eq_true (List.mem_filter.1 left).2
    rw [same] at absent
    exact absent (mem_distinct.1 right)
  rw [List.perm_ext_iff_of_nodup (nodup_distinct _) apart]
  intro a
  by_cases there : a ∈ bs <;> simp [there]

end CounterSampling
