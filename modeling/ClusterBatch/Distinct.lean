/-!
# Lists without repetition

Main statements: `mem_distinct` and `nodup_distinct`, the members of a list are kept and none of
them twice; `listsOnce_distinct`, their order is kept as well.
-/

namespace ClusterBatch

variable {α : Type} [DecidableEq α]

/-- A list without the members that occur earlier in it. -/
def distinct : List α → List α
  | [] => []
  | a :: rest => a :: (distinct rest).filter (· ≠ a)

@[simp] theorem mem_distinct {a : α} {l : List α} : a ∈ distinct l ↔ a ∈ l := by
  induction l with
  | nil => simp [distinct]
  | cons b rest ih => by_cases h : a = b <;> simp [distinct, ih, h]

theorem nodup_distinct (l : List α) : (distinct l).Nodup := by
  induction l with
  | nil => simp [distinct]
  | cons a rest ih => exact List.nodup_cons.2 ⟨by simp, ih.filter _⟩

/-- The members of `source` are listed, each once, in the order in which they first occur there. -/
structure ListsOnce (source listed : List α) : Prop where
  mem_iff : ∀ a, a ∈ listed ↔ a ∈ source
  ordered : listed.Pairwise fun a b => source.idxOf a < source.idxOf b

theorem ListsOnce.nodup {source listed : List α} (h : ListsOnce source listed) : listed.Nodup := by
  refine h.ordered.imp ?_
  rintro a _ hlt rfl
  exact Nat.lt_irrefl _ hlt

theorem listsOnce_distinct (source : List α) : ListsOnce source (distinct source) where
  mem_iff _ := mem_distinct
  ordered := by
    induction source with
    | nil => exact .nil
    | cons a rest ih =>
      have hcons {b : α} (hb : b ∈ (distinct rest).filter (· ≠ a)) :
          (a :: rest).idxOf b = rest.idxOf b + 1 := by
        have hne : b ≠ a := by simpa using (List.mem_filter.1 hb).2
        rw [List.idxOf_cons, beq_false_of_ne hne.symm, cond_false]
      rw [distinct]
      refine List.pairwise_cons.2 ⟨fun b hb => ?_, ?_⟩
      · rw [hcons hb, List.idxOf_cons_self]
        exact Nat.succ_pos _
      · refine (ih.filter _).imp_of_mem fun hb hc hlt => ?_
        rw [hcons hb, hcons hc]
        exact Nat.succ_lt_succ hlt

theorem distinct_append (l m : List α) :
    distinct (l ++ m) = distinct l ++ (distinct m).filter (· ∉ l) := by
  induction l with
  | nil =>
    have hfilter : (distinct m).filter (· ∉ []) = distinct m := by simp
    exact hfilter.symm
  | cons a l ih =>
    rw [List.cons_append, distinct, distinct, ih, List.filter_append, List.filter_filter]
    simp

theorem distinct_of_nodup {l : List α} (h : l.Nodup) : distinct l = l := by
  induction l with
  | nil => rfl
  | cons a l ih =>
    obtain ⟨ha, hl⟩ := List.nodup_cons.1 h
    rw [distinct, ih hl, List.filter_eq_self.2]
    intro b hb
    simpa using fun heq : b = a => ha (heq ▸ hb)

theorem distinct_distinct_append (l m : List α) :
    distinct (distinct l ++ m) = distinct (l ++ m) := by
  rw [distinct_append, distinct_append, distinct_of_nodup (nodup_distinct l)]
  simp

end ClusterBatch
