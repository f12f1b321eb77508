import BenchTally.Output.SummarySheets
import BenchTally.Proofs.Stats.Grouping

set_option autoImplicit false
set_option relaxedAutoImplicit false

/-!
# The order of rows

The rows of a summary table have an order of their own. Between configurations that can meet in one
table it is the order of configurations, so a table is in its order as soon as its configurations
are taken in theirs, and the sort that follows finds nothing to do.

## Main definitions

* `OrdersTotally` — a comparison that is a total order.
* `SortedTables` — the entries of a tally in groups, each in the order of rows.

## Main results

* `ConfigKey.rowOrder_eq_order` — where the workload is the same, rows are ordered as configurations
  are.
* `ConfigKey.ordersTotally_rowOrder` — the order of rows is total.
* `summaryGroups_eq` — the sort of the rows changes nothing.
* `rowOrder_total_and_groups_sorted` — both, with what the groups hold.
-/

namespace BenchTally

/-! ## Total orders -/

/-- A comparison that is a total order: transitive, antisymmetric and total, where only equals
compare as equal, and the two ways of comparing agree. -/
structure OrdersTotally {α : Type} (cmp : α → α → Ordering) : Prop where
  trans : ∀ {a b c : α}, (cmp a b).isLE → (cmp b c).isLE → (cmp a c).isLE
  antisymm : ∀ {a b : α}, (cmp a b).isLE → (cmp b a).isLE → a = b
  total : ∀ a b : α, (cmp a b).isLE ∨ (cmp b a).isLE
  eq_iff : ∀ a b : α, cmp a b = .eq ↔ a = b
  gt_iff : ∀ a b : α, cmp a b = .gt ↔ cmp b a = .lt

/-- A lawful comparison orders totally. -/
lemma ordersTotally_of_lawful {α : Type} (cmp : α → α → Ordering) [Std.TransCmp cmp]
    [Std.LawfulEqCmp cmp] : OrdersTotally cmp where
  trans hab hbc := Std.TransCmp.isLE_trans hab hbc
  antisymm hab hba := Std.LawfulEqCmp.eq_of_compare (Std.OrientedCmp.isLE_antisymm hab hba)
  total a b := by
    have hswap : cmp b a = (cmp a b).swap := Std.OrientedCmp.eq_swap
    rw [hswap]
    cases cmp a b with
    | lt => exact .inl rfl
    | eq => exact .inl rfl
    | gt => exact .inr rfl
  eq_iff _ _ := Std.LawfulEqCmp.compare_eq_iff_eq
  gt_iff _ _ := Std.OrientedCmp.gt_iff_lt

namespace ConfigKey

variable {a b : ConfigKey}

instance : Std.TransCmp rowOrder := by
  unfold rowOrder
  infer_instance

instance : Std.LawfulEqCmp rowOrder where
  eq_of_compare {a b} h := by
    simp only [rowOrder, compareLex, Ordering.then_eq_eq] at h
    exact Std.LawfulEqOrd.eq_of_compare h.2.2.2

/-- **The order of rows is total.** -/
lemma ordersTotally_rowOrder : OrdersTotally rowOrder :=
  ordersTotally_of_lawful rowOrder

/-- **Two orders that agree.** Where the workload is the same, rows are ordered as configurations
are.

**Proof sketch.** The order of configurations starts with the workload, and goes on with the columns
that the order of rows starts with. Where these are all equal, the order of rows is that of
configurations anyway. -/
lemma rowOrder_eq_order (h : a.workload = b.workload) : rowOrder a b = order a b := by
  unfold rowOrder
  simp only [compareLex, order, compareOn, h, Std.ReflOrd.compare_self, Ordering.eq_then]
  cases compare a.workers b.workers <;> cases compare a.storageType b.storageType <;>
    cases compare a.partitions b.partitions <;> rfl

end ConfigKey

/-! ## Groups -/

section Groups

variable {tally : SummaryTally} {group : OutputKey × List (ConfigKey × SummaryStats)}

/-- The entries of a tally under the tables of their configurations. -/
def tableGroups (tally : SummaryTally) : Keyed OutputKey (List (ConfigKey × SummaryStats)) :=
  Keyed.groupOn (fun entry : ConfigKey × SummaryStats => entry.1.outputKey) tally.entries

/-- **A group is in the order of rows**, strictly, as it is filled in the order of
configurations. -/
lemma pairwise_of_mem_tableGroups (hgroup : group ∈ (tableGroups tally).entries) :
    group.2.Pairwise fun a b => a.1.rowOrder b.1 = .lt := by
  have hkey : ∀ entry ∈ group.2, entry.1.outputKey = group.1 := fun entry hentry =>
    Keyed.key_of_mem_entries_groupOn hgroup hentry
  rw [tableGroups, Keyed.entries_groupOn] at hgroup
  obtain ⟨g, -, rfl⟩ := List.mem_map.1 hgroup
  have hascending := tally.ascending.filter fun entry => decide (entry.1.outputKey = g)
  refine hascending.imp_of_mem fun {a b} ha hb hlt => ?_
  have hworkload : a.1.workload = b.1.workload :=
    congrArg OutputKey.workload ((hkey a ha).trans (hkey b hb).symm)
  rw [ConfigKey.rowOrder_eq_order hworkload]
  exact hlt

/-- A group is not changed by a sort in the order of rows. -/
lemma mergeSort_of_mem_tableGroups (hgroup : group ∈ (tableGroups tally).entries) :
    (group.2.mergeSort fun a b => (a.1.rowOrder b.1).isLE) = group.2 := by
  refine List.mergeSort_of_pairwise ((pairwise_of_mem_tableGroups hgroup).imp fun {a b} hlt => ?_)
  rw [hlt]
  rfl

/-- **The order of the rows is there already**: the groups of a summary are the entries under their
tables. -/
lemma summaryGroups_eq (tally : SummaryTally) :
    summaryGroups tally = (tableGroups tally).entries := by
  conv_rhs => rw [← List.map_id (tableGroups tally).entries]
  refine List.map_congr_left fun group hgroup => ?_
  exact congrArg (Prod.mk group.1) (mergeSort_of_mem_tableGroups hgroup)

/-- Groups that hold the entries of a tally: each entry once, in the group of the table of its
configuration, and each group in the order of rows, so that no sort in that order changes it. -/
structure SortedTables (tally : SummaryTally)
    (groups : List (OutputKey × List (ConfigKey × SummaryStats))) : Prop where
  tables_ascending : groups.Pairwise fun a b => compare a.1 b.1 = .lt
  outputKey_eq : ∀ group ∈ groups, ∀ entry ∈ group.2, entry.1.outputKey = group.1
  eq_filter : ∀ group ∈ groups,
    group.2 = tally.entries.filter fun entry => entry.1.outputKey = group.1
  perm : (groups.flatMap Prod.snd).Perm tally.entries
  nodup : ((groups.flatMap Prod.snd).map Prod.fst).Nodup
  pairwise : ∀ group ∈ groups, group.2.Pairwise fun a b => a.1.rowOrder b.1 = .lt
  mergeSort_eq : ∀ group ∈ groups,
    (group.2.mergeSort fun a b => (a.1.rowOrder b.1).isLE) = group.2

lemma sortedTables_tableGroups (tally : SummaryTally) :
    SortedTables tally (tableGroups tally).entries where
  tables_ascending := (tableGroups tally).ascending
  outputKey_eq group hgroup entry hentry := Keyed.key_of_mem_entries_groupOn hgroup hentry
  eq_filter group hgroup := by
    rw [tableGroups, Keyed.entries_groupOn] at hgroup
    obtain ⟨g, -, rfl⟩ := List.mem_map.1 hgroup
    rfl
  perm := Keyed.flatMap_groupOn_perm _ tally.entries
  nodup := by
    have hperm := (Keyed.flatMap_groupOn_perm
      (fun entry : ConfigKey × SummaryStats => entry.1.outputKey) tally.entries).map Prod.fst
    exact hperm.nodup_iff.2 (Keyed.nodup_of_ascending (Keyed.keys_ascending tally))
  pairwise group := pairwise_of_mem_tableGroups
  mergeSort_eq group := mergeSort_of_mem_tableGroups

end Groups

/-- **The order of rows is total, and the sort of the rows changes nothing.** Where the workload is
the same, the order of rows is that of configurations. So the groups that are filled from a tally
are in the order of rows before they are sorted, and together they hold each entry of the tally
once, under the table of its configuration. -/
theorem rowOrder_total_and_groups_sorted :
    OrdersTotally ConfigKey.rowOrder ∧
    (∀ a b : ConfigKey, a.workload = b.workload → a.rowOrder b = compare a b) ∧
    ∀ tally : SummaryTally, summaryGroups tally = (tableGroups tally).entries ∧
      SortedTables tally (tableGroups tally).entries :=
  ⟨ConfigKey.ordersTotally_rowOrder, fun _ _ => ConfigKey.rowOrder_eq_order,
    fun tally => ⟨summaryGroups_eq tally, sortedTables_tableGroups tally⟩⟩

/-- Two configurations of one workload whose rows agree on the first three columns. -/
theorem rowOrder_of_tie :
    let a : ConfigKey := ⟨"ycsb", 8, "ssd", 4, "btree", 2, 0⟩
    let b : ConfigKey := ⟨"ycsb", 8, "ssd", 4, "lsm", 1, 0⟩
    a.workload = b.workload ∧ a.rowOrder b = compare a b ∧ a.rowOrder b = .lt := by
  refine ⟨rfl, rowOrder_total_and_groups_sorted.2.1 _ _ rfl, ?_⟩
  decide

end BenchTally
