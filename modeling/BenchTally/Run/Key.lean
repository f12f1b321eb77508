import BenchTally.Decimal.Natural

set_option autoImplicit false
set_option relaxedAutoImplicit false

/-!
# Configurations of benchmark runs

A configuration is everything that distinguishes benchmark runs but their repetition. Two coarser
keys are read off it: one names a summary table, the other a chart of throughput over time.

## Main definitions

* `ConfigKey` — a configuration, ordered field by field in the order of its declaration.
* `OutputKey`, `ChartKey` — the parts that name a summary table and a chart.
* `Run` — one repetition of a configuration.
* `ConfigKey.text`, `OutputKey.text`, `ChartKey.text`, `Run.text` — their written forms.
* `ConfigKey.lineLabel` — the label of a configuration within its chart.
* `ConfigKey.rowOrder` — the order of rows within a summary table.

## Main results

* The four types are totally ordered: their comparisons are transitive, and equal only for equal
  keys.
-/

namespace BenchTally

/-- The text between two fields of a written key. -/
def fieldSeparator : List Char := ['_', '_']

/-- Fields in a row with the separator between them. -/
def joinFields (fields : List (List Char)) : String :=
  String.ofList (fieldSeparator.intercalate fields)

/-! ## Keys -/

/-- An experiment configuration. -/
structure ConfigKey where
  /-- The name of the workload. -/
  workload : String
  /-- The number of workers. -/
  workers : UInt32
  /-- The kind of storage. -/
  storageType : String
  /-- The number of partitions. -/
  partitions : UInt32
  /-- The name of the storage engine. -/
  storageEngine : String
  /-- The number of paths. -/
  paths : UInt32
  /-- The repartitioning interval. -/
  interval : UInt32
  deriving DecidableEq, Repr

/-- The workload and the engine, which one summary table is about. -/
structure OutputKey where
  /-- The name of the workload. -/
  workload : String
  /-- The name of the storage engine. -/
  storageEngine : String
  deriving DecidableEq, Repr

/-- The workload, the engine and the number of workers, which one chart is about. -/
structure ChartKey where
  /-- The name of the workload. -/
  workload : String
  /-- The name of the storage engine. -/
  storageEngine : String
  /-- The number of workers. -/
  workers : UInt32
  deriving DecidableEq, Repr

/-- One repetition of a configuration. -/
structure Run where
  /-- The configuration. -/
  config : ConfigKey
  /-- The index of the repetition. -/
  repetition : UInt32
  deriving DecidableEq, Repr

namespace ConfigKey

/-- The summary table of a configuration. -/
def outputKey (k : ConfigKey) : OutputKey :=
  ⟨k.workload, k.storageEngine⟩

/-- The chart of a configuration. -/
def chartKey (k : ConfigKey) : ChartKey :=
  ⟨k.workload, k.storageEngine, k.workers⟩

/-- The written fields of a configuration. -/
def fields (k : ConfigKey) : List (List Char) :=
  [k.workload.toList, Decimal.writeNat k.workers, k.storageType.toList,
    Decimal.writeNat k.partitions, k.storageEngine.toList, Decimal.writeNat k.paths,
    Decimal.writeNat k.interval]

/-- The written form of a configuration. -/
def text (k : ConfigKey) : String :=
  joinFields k.fields

/-- The label of a configuration in its chart, made of the fields that vary within a chart. -/
def lineLabel (k : ConfigKey) : String :=
  String.ofList (k.storageType.toList ++ ('_' :: 'p' :: Decimal.writeNat k.partitions) ++
    ('_' :: 'w' :: Decimal.writeNat k.paths) ++ ('_' :: 'i' :: Decimal.writeNat k.interval))

end ConfigKey

/-- The written form of the key of a summary table. -/
def OutputKey.text (k : OutputKey) : String :=
  joinFields [k.workload.toList, k.storageEngine.toList]

/-- The written form of the key of a chart. -/
def ChartKey.text (k : ChartKey) : String :=
  joinFields [k.workload.toList, k.storageEngine.toList, Decimal.writeNat k.workers]

/-- The written form of a run: its configuration and its repetition in parentheses. -/
def Run.text (r : Run) : String :=
  String.ofList (r.config.text.toList ++ '(' :: Decimal.writeNat r.repetition ++ [')'])

/-! ## Orders

Texts compare by code points, and numbers as numbers. -/

/-- Configurations compare field by field. -/
def ConfigKey.order : ConfigKey → ConfigKey → Ordering :=
  compareLex (compareOn ConfigKey.workload) <|
  compareLex (compareOn ConfigKey.workers) <|
  compareLex (compareOn ConfigKey.storageType) <|
  compareLex (compareOn ConfigKey.partitions) <|
  compareLex (compareOn ConfigKey.storageEngine) <|
  compareLex (compareOn ConfigKey.paths) (compareOn ConfigKey.interval)

instance : Ord ConfigKey := ⟨ConfigKey.order⟩

/-- Summary tables compare by workload, then by engine. -/
def OutputKey.order : OutputKey → OutputKey → Ordering :=
  compareLex (compareOn OutputKey.workload) (compareOn OutputKey.storageEngine)

instance : Ord OutputKey := ⟨OutputKey.order⟩

/-- Charts compare by workload, then by engine, then by workers. -/
def ChartKey.order : ChartKey → ChartKey → Ordering :=
  compareLex (compareOn ChartKey.workload) <|
  compareLex (compareOn ChartKey.storageEngine) (compareOn ChartKey.workers)

instance : Ord ChartKey := ⟨ChartKey.order⟩

/-- Runs compare by configuration, then by repetition. -/
def Run.order : Run → Run → Ordering :=
  compareLex (compareOn Run.config) (compareOn Run.repetition)

instance : Ord Run := ⟨Run.order⟩

/-- The order of the rows of a summary table: by workers, storage type and partitions, and between
rows that agree on these by the whole configuration. -/
def ConfigKey.rowOrder : ConfigKey → ConfigKey → Ordering :=
  compareLex (compareOn ConfigKey.workers) <|
  compareLex (compareOn ConfigKey.storageType) <|
  compareLex (compareOn ConfigKey.partitions) ConfigKey.order

instance : Std.TransCmp ConfigKey.order := by
  unfold ConfigKey.order
  infer_instance

instance : Std.TransOrd ConfigKey :=
  inferInstanceAs (Std.TransCmp ConfigKey.order)

instance : Std.LawfulEqOrd ConfigKey where
  eq_of_compare {a b} h := by
    have h' : ConfigKey.order a b = .eq := h
    simp only [ConfigKey.order, compareLex, compareOn, Ordering.then_eq_eq,
      Std.LawfulEqOrd.compare_eq_iff_eq] at h'
    cases a
    cases b
    simp_all

instance : Std.TransOrd OutputKey := by
  change Std.TransCmp OutputKey.order
  unfold OutputKey.order
  infer_instance

instance : Std.LawfulEqOrd OutputKey where
  eq_of_compare {a b} h := by
    have h' : OutputKey.order a b = .eq := h
    simp only [OutputKey.order, compareLex, compareOn, Ordering.then_eq_eq,
      Std.LawfulEqOrd.compare_eq_iff_eq] at h'
    cases a
    cases b
    simp_all

instance : Std.TransOrd ChartKey := by
  change Std.TransCmp ChartKey.order
  unfold ChartKey.order
  infer_instance

instance : Std.LawfulEqOrd ChartKey where
  eq_of_compare {a b} h := by
    have h' : ChartKey.order a b = .eq := h
    simp only [ChartKey.order, compareLex, compareOn, Ordering.then_eq_eq,
      Std.LawfulEqOrd.compare_eq_iff_eq] at h'
    cases a
    cases b
    simp_all

instance : Std.TransOrd Run := by
  change Std.TransCmp Run.order
  unfold Run.order
  infer_instance

instance : Std.LawfulEqOrd Run where
  eq_of_compare {a b} h := by
    have h' : Run.order a b = .eq := h
    simp only [Run.order, compareLex, compareOn, Ordering.then_eq_eq,
      Std.LawfulEqOrd.compare_eq_iff_eq] at h'
    cases a
    cases b
    simp_all

end BenchTally
