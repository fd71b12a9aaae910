import Mathlib.Data.List.Chain
import Mathlib.Data.List.Nodup
import LlmObs.Backend.Runtime
import LlmObs.Foundation.Calendar
import LlmObs.Foundation.Outcome

/-!
Owns one run of the partition maintenance: the months that `create_next_month_partition`
goes through, which tile the time behind the current month, and the partitions it creates
for them. A month with rows in the default partition is skipped. Logs and row-level
security are left out.
-/

namespace LlmObs.Backend

open LlmObs.Foundation LlmObs.Foundation.Calendar

/-! ### Months -/

/-- `datetime(year, month, 1, tzinfo=UTC)` -/
def datetimeOfMonth (year month : Nat) : Except PyException CivilDatetime :=
  if years : 1 ≤ year ∧ year ≤ 9999 then
    if months : 1 ≤ month ∧ month ≤ 12 then
      .ok {
        year := year
        month := month
        day := 1
        year_pos := years.1
        year_le := years.2
        month_pos := months.1
        month_le := months.2
        day_pos := le_rfl
        day_le := daysInMonth_pos year month
        microsecond := 0
        tzinfo := some 0
        microsecond_lt := by decide }
    else .error ⟨.valueError, "month must be in 1..12"⟩
  else .error ⟨.valueError, "year " ++ toString year ++ " is out of range"⟩

/-- `_month_start` -/
def monthStart (dt : CivilDatetime) : Except PyException CivilDatetime :=
  datetimeOfMonth dt.year dt.month

/-- `_add_months` -/
def addMonths (monthStart : CivilDatetime) (months : Nat) : Except PyException CivilDatetime :=
  let monthIndex := monthStart.month - 1 + months
  datetimeOfMonth (monthStart.year + monthIndex / 12) (monthIndex % 12 + 1)

/-- `{number:02d}` of a number below 100. -/
def twoDigits (number : Nat) : String :=
  if number < 10 then "0" ++ toString number else toString number

/-- `_partition_suffix` -/
def partitionSuffix (monthStart : CivilDatetime) : String :=
  toString monthStart.year ++ "_" ++ twoDigits monthStart.month

/-- `_future_partition_months` -/
def futurePartitionMonths (now : CivilDatetime) (lookaheadMonths : Nat) :
    Except PyException (List CivilDatetime) := do
  let currentMonth ← monthStart now
  (List.range' 1 lookaheadMonths).mapM fun offset => addMonths currentMonth offset

/-! ### Partitions -/

/-- The partitioned tables. -/
inductive TableName where
  | traces
  | spans
deriving DecidableEq, Repr

def TableName.name : TableName → String
  | .traces => "traces"
  | .spans => "spans"

/-- What is known of a table: its partitions by name, but for the default one, and where
the rows of the default partition start. -/
structure PartitionedTable where
  partitions : List (String × HalfOpen Int)
  defaultRows : List Int

abbrev PartitionedTables := TableName → PartitionedTable

/-- What a `CREATE TABLE` says. -/
structure MonthPartition where
  tableName : TableName
  suffix : String
  start : CivilDatetime
  stop : CivilDatetime

/-- `partition_name` -/
def MonthPartition.name (partition : MonthPartition) : String :=
  partition.tableName.name ++ "_" ++ partition.suffix

/-- `[month_start, month_end)`; both are in UTC. -/
def MonthPartition.range (partition : MonthPartition) : HalfOpen Int :=
  ⟨partition.start.wall, some partition.stop.wall⟩

/-- The range of the dates that the statement names, as the session reads them. -/
def MonthPartition.bounds (runtime : Runtime) (partition : MonthPartition) : HalfOpen Int :=
  ⟨runtime.sessionInstant (midnight partition.start.toordinal),
    some (runtime.sessionInstant (midnight partition.stop.toordinal))⟩

/-- `_default_partition_row_count` of a range. -/
def PartitionedTable.defaultRowCount (table : PartitionedTable) (start stop : Int) : Nat :=
  (table.defaultRows.filter fun row => decide (start ≤ row) && decide (row < stop)).length

/-- `CREATE TABLE IF NOT EXISTS .. PARTITION OF ..` -/
def PartitionedTable.create (table : PartitionedTable) (name : String) (bounds : HalfOpen Int) :
    Except PyException PartitionedTable :=
  if name ∈ table.partitions.map Prod.fst then .ok table
  else if ¬ bounds.Covers bounds.start then
    .error ⟨.sqlAlchemyError, "empty range bound specified for partition"⟩
  else if ∃ stored ∈ table.partitions, ¬ stored.2.Apart bounds then
    .error ⟨.sqlAlchemyError, "partition would overlap partition"⟩
  else if ∃ row ∈ table.defaultRows, bounds.Covers row then
    .error ⟨.sqlAlchemyError,
      "updated partition constraint for default partition would be violated by some row"⟩
  else .ok { table with partitions := table.partitions ++ [(name, bounds)] }

/-- `_create_month_partition`: the statement it makes, unless it skips the month. -/
def createMonthPartition (runtime : Runtime) (tableName : TableName)
    (monthStart : CivilDatetime) (db : PartitionedTables) :
    Except PyException (Option MonthPartition × PartitionedTables) := do
  let monthEnd ← addMonths monthStart 1
  let partition : MonthPartition :=
    ⟨tableName, partitionSuffix monthStart, monthStart, monthEnd⟩
  if (db tableName).defaultRowCount monthStart.wall monthEnd.wall > 0 then return (none, db)
  else
    let table ← (db tableName).create partition.name (partition.bounds runtime)
    return (some partition, Function.update db tableName table)

/-- The loops of `create_next_month_partition`. -/
def createPartitions (runtime : Runtime) :
    List (CivilDatetime × TableName) → PartitionedTables →
      Except PyException (List MonthPartition × PartitionedTables)
  | [], db => .ok ([], db)
  | (monthStart, tableName) :: rest, db => do
      let (created, db) ← createMonthPartition runtime tableName monthStart db
      let (others, db) ← createPartitions runtime rest db
      return (created.toList ++ others, db)

/-- `create_next_month_partition`, with the statements it makes. -/
def createNextMonthPartition (runtime : Runtime) (now : CivilDatetime) (lookaheadMonths : Nat)
    (db : PartitionedTables) : Except PyException (List MonthPartition × PartitionedTables) := do
  let months ← futurePartitionMonths now lookaheadMonths
  createPartitions runtime (months.flatMap fun month => [(month, .traces), (month, .spans)]) db

/-! ### Months that follow -/

/-- The first instant of the month with this number, in UTC. -/
structure StartsMonth (index : Nat) (value : CivilDatetime) : Prop where
  monthIndex : value.monthIndex = index
  day : value.day = 1
  microsecond : value.microsecond = 0
  tzinfo : value.tzinfo = some 0

theorem StartsMonth.toordinal {index : Nat} {value : CivilDatetime}
    (starts : StartsMonth index value) : value.toordinal = firstDay index := by
  rw [← starts.monthIndex, firstDay, Date.monthIndex,
    monthIndex_div value.month_pos value.month_le, monthIndex_mod value.month_pos value.month_le,
    Date.toordinal, starts.day]

theorem StartsMonth.wall {index : Nat} {value : CivilDatetime}
    (starts : StartsMonth index value) : value.wall = midnight (firstDay index) := by
  rw [CivilDatetime.wall, starts.toordinal, starts.microsecond]
  omega

theorem datetimeOfMonth_ok {year month : Nat} (years : 1 ≤ year ∧ year ≤ 9999)
    (months : 1 ≤ month ∧ month ≤ 12) : ∃ value, datetimeOfMonth year month = .ok value ∧
      StartsMonth (Calendar.monthIndex year month) value := by
  rw [datetimeOfMonth, dif_pos years, dif_pos months]
  exact ⟨_, rfl, rfl, rfl, rfl, rfl⟩

theorem monthStart_ok (dt : CivilDatetime) :
    ∃ value, monthStart dt = .ok value ∧ StartsMonth dt.monthIndex value :=
  datetimeOfMonth_ok ⟨dt.year_pos, dt.year_le⟩ ⟨dt.month_pos, dt.month_le⟩

/-- Adding months adds them to the number of the month. -/
theorem addMonths_ok {index months : Nat} {start : CivilDatetime}
    (starts : StartsMonth index start) (bounded : index + months < 120000) :
    ∃ value, addMonths start months = .ok value ∧ StartsMonth (index + months) value := by
  have number := starts.monthIndex
  have positive := start.month_pos
  have years := start.year_pos
  unfold Date.monthIndex Calendar.monthIndex at number
  have same : Calendar.monthIndex (start.year + (start.month - 1 + months) / 12)
      ((start.month - 1 + months) % 12 + 1) = index + months := by
    unfold Calendar.monthIndex
    omega
  rw [← same]
  exact datetimeOfMonth_ok (by omega) (by omega)

/-- No month is added past the last year. -/
theorem bounded_of_addMonths {index months : Nat} {start value : CivilDatetime}
    (starts : StartsMonth index start) (added : addMonths start months = .ok value) :
    index + months < 120000 := by
  have number := starts.monthIndex
  have positive := start.month_pos
  unfold Date.monthIndex Calendar.monthIndex at number
  simp only [addMonths, datetimeOfMonth] at added
  split_ifs at added with years
  omega

/-- A run of the maintenance is about the months after the current one. -/
theorem futurePartitionMonths_ok {now : CivilDatetime} {lookaheadMonths : Nat}
    (bounded : now.monthIndex + lookaheadMonths < 120000) :
    ∃ months, futurePartitionMonths now lookaheadMonths = .ok months ∧
      List.Forall₂ (fun offset month => (1 ≤ offset ∧ offset ≤ lookaheadMonths) ∧
        StartsMonth (now.monthIndex + offset) month) (List.range' 1 lookaheadMonths) months := by
  obtain ⟨current, started, starts⟩ := monthStart_ok now
  have each : ∀ offset ∈ List.range' 1 lookaheadMonths, ∃ month,
      addMonths current offset = .ok month ∧ (1 ≤ offset ∧ offset ≤ lookaheadMonths) ∧
        StartsMonth (now.monthIndex + offset) month := by
    intro offset member
    have bounds := List.mem_range'_1.mp member
    obtain ⟨month, added, begins⟩ := addMonths_ok starts
      (show now.monthIndex + offset < 120000 by omega)
    exact ⟨month, added, ⟨bounds.1, by omega⟩, begins⟩
  obtain ⟨months, both⟩ := exists_forall₂_iff.mpr each
  refine ⟨months, ?_, both.imp fun _ _ here => here.2⟩
  rw [futurePartitionMonths, started, ok_bind]
  exact mapM_eq_ok_iff.mpr (both.imp fun _ _ here => here.1)

/-! ### Suffixes -/

theorem twoDigits_inj : ∀ first < 13, ∀ second < 13,
    twoDigits first = twoDigits second → first = second := by
  decide

theorem length_twoDigits : ∀ number < 13, (twoDigits number).length = 2 := by
  decide

/-- The suffix of the month with this number. -/
def monthSuffix (index : Nat) : String :=
  toString (index / 12) ++ "_" ++ twoDigits (index % 12 + 1)

theorem partitionSuffix_eq (value : CivilDatetime) :
    partitionSuffix value = monthSuffix value.monthIndex := by
  rw [partitionSuffix, monthSuffix, Date.monthIndex,
    monthIndex_div value.month_pos value.month_le, monthIndex_mod value.month_pos value.month_le]

/-- A suffix names one month. -/
theorem monthSuffix_injective : Function.Injective monthSuffix := by
  intro first second same
  have lengths : (twoDigits (first % 12 + 1)).length = (twoDigits (second % 12 + 1)).length := by
    rw [length_twoDigits _ (by omega), length_twoDigits _ (by omega)]
  have texts := congrArg String.toList same
  simp only [monthSuffix, String.toList_append] at texts
  obtain ⟨front, months⟩ := List.append_inj' texts (by simpa only [String.length_toList])
  have years := List.append_cancel_right front
  rw [Nat.toString_eq_repr, Nat.toString_eq_repr, Nat.toList_repr, Nat.toList_repr] at years
  have year : first / 12 = second / 12 := by
    rw [← Nat.ofDigitChars_ten_toDigits (n := first / 12), years, Nat.ofDigitChars_ten_toDigits]
  have month := twoDigits_inj _ (by omega) _ (by omega) (String.toList_injective months)
  omega

/-! ### Partitions of months -/

/-- The partition is that of the month with this number. -/
structure OfMonth (tableName : TableName) (index : Nat) (partition : MonthPartition) : Prop where
  tableName : partition.tableName = tableName
  suffix : partition.suffix = monthSuffix index
  start : StartsMonth index partition.start
  stop : StartsMonth (index + 1) partition.stop

theorem OfMonth.range {tableName : TableName} {index : Nat} {partition : MonthPartition}
    (ofMonth : OfMonth tableName index partition) : partition.range = monthRange index := by
  rw [MonthPartition.range, ofMonth.start.wall, ofMonth.stop.wall, monthRange]

/-- Ranges of consecutive calendar months behind the month of `now`, under suffixes of
their own. -/
structure TilesFuture (now : CivilDatetime) (lookaheadMonths : Nat)
    (partitions : List MonthPartition) : Prop where
  current : (monthRange now.monthIndex).Covers now.wall
  consecutive : partitions.map MonthPartition.range =
    (List.range' 1 lookaheadMonths).map fun offset => monthRange (now.monthIndex + offset)
  contiguous : (partitions.map MonthPartition.range).IsChain fun earlier later =>
    earlier.stop = some later.start
  disjoint : (partitions.map MonthPartition.range).Pairwise HalfOpen.Apart
  named : (partitions.map MonthPartition.suffix).Nodup

theorem tilesFuture_of_months {now : CivilDatetime} {lookaheadMonths : Nat}
    {tableName : TableName} {partitions : List MonthPartition}
    (months : List.Forall₂ (fun offset => OfMonth tableName (now.monthIndex + offset))
      (List.range' 1 lookaheadMonths) partitions) :
    TilesFuture now lookaheadMonths partitions := by
  have ranges : partitions.map MonthPartition.range =
      (List.range' 1 lookaheadMonths).map fun offset => monthRange (now.monthIndex + offset) :=
    map_eq_map_of_forall₂ (fun _ _ ofMonth => ofMonth.range) months
  have suffixes : partitions.map MonthPartition.suffix =
      (List.range' 1 lookaheadMonths).map fun offset => monthSuffix (now.monthIndex + offset) :=
    map_eq_map_of_forall₂ (fun _ _ ofMonth => ofMonth.suffix) months
  refine ⟨now.inMonth, ranges, ?_, ?_, ?_⟩
  · rw [ranges, List.isChain_map]
    refine (List.isChain_range' 1 lookaheadMonths 1).imp ?_
    rintro offset _ rfl
    rfl
  · rw [ranges, List.pairwise_map]
    have began := now.twelve_le_monthIndex
    have increasing : (List.range' 1 lookaheadMonths).Pairwise (· < ·) :=
      List.pairwise_lt_range' 1
    exact increasing.imp fun before => monthRange_apart (by omega) (by omega)
  · rw [suffixes]
    have distinct : (List.range' 1 lookaheadMonths).Nodup := List.nodup_range' 1
    refine List.Nodup.map (fun first second same => ?_) distinct
    have equal := monthSuffix_injective same
    omega

/-! ### One run -/

/-- The partition of a month whose end is in the range of years. -/
def partitionOf (tableName : TableName) (month : CivilDatetime) : MonthPartition where
  tableName := tableName
  suffix := partitionSuffix month
  start := month
  stop := (addMonths month 1).toOption.getD month

/-- The default partition has rows in the range of the partition. -/
def HasDefaultRows (db : PartitionedTables) (partition : MonthPartition) : Prop :=
  ∃ row ∈ (db partition.tableName).defaultRows, partition.range.Covers row

instance (db : PartitionedTables) (partition : MonthPartition) :
    Decidable (HasDefaultRows db partition) :=
  inferInstanceAs (Decidable (∃ _ ∈ _, _))

theorem partitionOf_ofMonth {index : Nat} {month : CivilDatetime}
    (starts : StartsMonth index month) (bounded : index + 1 < 120000) (tableName : TableName) :
    (∃ monthEnd, addMonths month 1 = .ok monthEnd) ∧
      OfMonth tableName index (partitionOf tableName month) := by
  obtain ⟨monthEnd, ended, ends⟩ := addMonths_ok starts bounded
  refine ⟨⟨monthEnd, ended⟩, rfl, ?_, starts, ?_⟩
  · rw [partitionOf, partitionSuffix_eq, starts.monthIndex]
  · rw [partitionOf, ended]
    exact ends

theorem defaultRowCount_pos {table : PartitionedTable} {start stop : Int} :
    table.defaultRowCount start stop > 0 ↔
      ∃ row ∈ table.defaultRows, (⟨start, some stop⟩ : HalfOpen Int).Covers row := by
  rw [PartitionedTable.defaultRowCount, gt_iff_lt, List.length_pos_iff_exists_mem]
  simp only [List.mem_filter, Bool.and_eq_true, decide_eq_true_eq, HalfOpen.Covers,
    Option.mem_some_iff, forall_eq']

/-- What is done for one month and table. -/
theorem createMonthPartition_eq (runtime : Runtime) (tableName : TableName)
    {month monthEnd : CivilDatetime} (ended : addMonths month 1 = .ok monthEnd)
    (db : PartitionedTables) :
    createMonthPartition runtime tableName month db =
      if HasDefaultRows db (partitionOf tableName month) then .ok (none, db)
      else ((db tableName).create (partitionOf tableName month).name
        ((partitionOf tableName month).bounds runtime)).map fun table =>
          (some (partitionOf tableName month), Function.update db tableName table) := by
  have same : partitionOf tableName month =
      ⟨tableName, partitionSuffix month, month, monthEnd⟩ := by
    rw [partitionOf, ended]
    rfl
  rw [createMonthPartition, ended, ok_bind, same]
  by_cases rows : HasDefaultRows db ⟨tableName, partitionSuffix month, month, monthEnd⟩
  · rw [if_pos rows, if_pos (defaultRowCount_pos.mpr rows)]
    rfl
  · rw [if_neg rows, if_neg fun counted => rows (defaultRowCount_pos.mp counted)]
    cases (db tableName).create _ _ <;> rfl

theorem defaultRows_create {table after : PartitionedTable} {name : String}
    {bounds : HalfOpen Int} (created : table.create name bounds = .ok after) :
    after.defaultRows = table.defaultRows := by
  unfold PartitionedTable.create at created
  split_ifs at created
  all_goals cases created; rfl

/-- Only the partitions of a table are written. -/
theorem hasDefaultRows_update {db : PartitionedTables} {tableName : TableName}
    {table : PartitionedTable} (kept : table.defaultRows = (db tableName).defaultRows)
    (partition : MonthPartition) :
    HasDefaultRows (Function.update db tableName table) partition ↔
      HasDefaultRows db partition := by
  have rows : (Function.update db tableName table partition.tableName).defaultRows =
      (db partition.tableName).defaultRows := by
    by_cases same : partition.tableName = tableName
    · rw [same, Function.update_self, kept]
    · rw [Function.update_of_ne same]
  rw [HasDefaultRows, HasDefaultRows, rows]

/-- A run makes the statements of the months without rows in the default partitions. -/
theorem createPartitions_created {runtime : Runtime} {pairs : List (CivilDatetime × TableName)}
    (ended : ∀ pair ∈ pairs, ∃ monthEnd, addMonths pair.1 1 = .ok monthEnd)
    {db after : PartitionedTables} {created : List MonthPartition}
    (done : createPartitions runtime pairs db = .ok (created, after)) :
    created = (pairs.map fun pair => partitionOf pair.2 pair.1).filter
      fun partition => ¬ HasDefaultRows db partition := by
  induction pairs generalizing db after created with
  | nil =>
      cases done
      rfl
  | cons pair rest inductionHypothesis =>
      obtain ⟨month, tableName⟩ := pair
      obtain ⟨⟨monthEnd, here⟩, there⟩ := List.forall_mem_cons.mp ended
      obtain ⟨⟨first, middle⟩, stepped, afterFirst⟩ := bind_eq_ok.mp done
      obtain ⟨⟨others, final⟩, looped, built⟩ := bind_eq_ok.mp afterFirst
      cases built
      rw [inductionHypothesis there looped, List.map_cons]
      rw [createMonthPartition_eq runtime tableName here db] at stepped
      by_cases rows : HasDefaultRows db (partitionOf tableName month)
      · rw [if_pos rows] at stepped
        cases stepped
        rw [List.filter_cons_of_neg (by simpa using rows)]
        rfl
      · rw [if_neg rows] at stepped
        obtain ⟨table, made, same⟩ := map_eq_ok.mp stepped
        cases same
        rw [List.filter_cons_of_pos (by simpa using rows)]
        simp only [hasDefaultRows_update (defaultRows_create made)]
        rfl

/-- A run that returns found the end of each month. -/
theorem ended_of_createPartitions {runtime : Runtime}
    {pairs : List (CivilDatetime × TableName)} {db : PartitionedTables}
    {result : List MonthPartition × PartitionedTables}
    (done : createPartitions runtime pairs db = .ok result) :
    ∀ pair ∈ pairs, ∃ monthEnd, addMonths pair.1 1 = .ok monthEnd := by
  induction pairs generalizing db result with
  | nil => exact fun _ member => absurd member List.not_mem_nil
  | cons pair rest inductionHypothesis =>
      obtain ⟨month, tableName⟩ := pair
      obtain ⟨⟨first, middle⟩, stepped, afterFirst⟩ := bind_eq_ok.mp done
      obtain ⟨others, looped, -⟩ := bind_eq_ok.mp afterFirst
      obtain ⟨monthEnd, ended, -⟩ := bind_eq_ok.mp stepped
      exact List.forall_mem_cons.mpr ⟨⟨monthEnd, ended⟩, inductionHypothesis looped⟩

theorem forall_mem_pairs {holds : CivilDatetime → Prop} {months : List CivilDatetime}
    (each : ∀ month ∈ months, holds month) : ∀ pair ∈ months.flatMap fun month =>
      [(month, TableName.traces), (month, TableName.spans)], holds pair.1 := by
  intro pair member
  obtain ⟨month, inMonths, inPair⟩ := List.mem_flatMap.mp member
  simp only [List.mem_cons, List.not_mem_nil, or_false] at inPair
  rcases inPair with rfl | rfl
  · exact each month inMonths
  · exact each month inMonths

/-- The statements for one table. -/
theorem filter_partitionOf (months : List CivilDatetime) (tableName : TableName) :
    ((months.flatMap fun month => [(month, TableName.traces), (month, TableName.spans)]).map
        fun pair => partitionOf pair.2 pair.1).filter (fun partition =>
          partition.tableName = tableName) = months.map (partitionOf tableName) := by
  induction months with
  | nil => rfl
  | cons month rest inductionHypothesis =>
      rw [List.flatMap_cons, List.map_append, List.filter_append, inductionHypothesis]
      cases tableName <;> rfl

/-- All dates that a run is about are in the range of years. -/
def YearsInRange (now : CivilDatetime) (lookaheadMonths : Nat) : Prop :=
  lookaheadMonths = 0 ∨ now.monthIndex + lookaheadMonths + 1 < 120000

instance (now : CivilDatetime) (lookaheadMonths : Nat) :
    Decidable (YearsInRange now lookaheadMonths) :=
  inferInstanceAs (Decidable (_ ∨ _))

/-- The months that a run is about, and their ends, are in the range of years. -/
theorem futurePartitionMonths_inRange {now : CivilDatetime} {lookaheadMonths : Nat}
    (inRange : YearsInRange now lookaheadMonths) :
    ∃ months, futurePartitionMonths now lookaheadMonths = .ok months ∧
      List.Forall₂ (fun offset month => StartsMonth (now.monthIndex + offset) month ∧
        now.monthIndex + offset + 1 < 120000) (List.range' 1 lookaheadMonths) months := by
  have bounded : now.monthIndex + lookaheadMonths < 120000 := by
    have year := now.monthIndex_lt
    rcases inRange with rfl | before
    · omega
    · omega
  obtain ⟨months, returned, each⟩ := futurePartitionMonths_ok bounded
  refine ⟨months, returned, each.imp fun offset month here => ⟨here.2, ?_⟩⟩
  have offsets := here.1
  rcases inRange with none | before
  · omega
  · omega

/-- A run returns in the range of years only. -/
theorem yearsInRange_of_ok {runtime : Runtime} {now : CivilDatetime} {lookaheadMonths : Nat}
    {db : PartitionedTables} {result : List MonthPartition × PartitionedTables}
    (done : createNextMonthPartition runtime now lookaheadMonths db = .ok result) :
    YearsInRange now lookaheadMonths := by
  obtain ⟨months, returned, created⟩ := bind_eq_ok.mp done
  obtain ⟨current, started, starts⟩ := monthStart_ok now
  rw [futurePartitionMonths, started, ok_bind] at returned
  have each := mapM_eq_ok_iff.mp returned
  rcases Nat.eq_zero_or_pos lookaheadMonths with none | positive
  · exact Or.inl none
  · obtain ⟨month, inMonths, added⟩ := exists_mem_of_forall₂ each lookaheadMonths
      (List.mem_range'_1.mpr ⟨positive, by omega⟩)
    obtain ⟨monthEnd, ended⟩ := ended_of_createPartitions created (month, .traces)
      (List.mem_flatMap.mpr ⟨month, inMonths, List.mem_cons_self ..⟩)
    obtain ⟨_, same, begins⟩ := addMonths_ok starts (bounded_of_addMonths starts added)
    obtain rfl := Except.ok.inj (added.symm.trans same)
    exact Or.inr (bounded_of_addMonths begins ended)

/-! ### What a run creates -/

/-- The partitions that a run created for one table. -/
def createdFor (tableName : TableName) (created : List MonthPartition) : List MonthPartition :=
  created.filter fun partition => partition.tableName = tableName

/-- A run creates partitions that tile the time behind the month of `now`. -/
def CreatesFutureTiles (runtime : Runtime) (now : CivilDatetime) (lookaheadMonths : Nat)
    (db : PartitionedTables) : Prop :=
  ∀ created after, createNextMonthPartition runtime now lookaheadMonths db =
      .ok (created, after) →
    ∀ tableName, TilesFuture now lookaheadMonths (createdFor tableName created)

/-- Two runs that create partitions under one suffix create them of one range. -/
def SameRanges (first second : List MonthPartition) : Prop :=
  ∀ left ∈ first, ∀ right ∈ second, left.suffix = right.suffix → left.range = right.range

/-- The partitions of the months that a run is about. -/
theorem tilesFuture_partitionOf {now : CivilDatetime} {lookaheadMonths : Nat}
    {months : List CivilDatetime}
    (each : List.Forall₂ (fun offset month => StartsMonth (now.monthIndex + offset) month ∧
      now.monthIndex + offset + 1 < 120000) (List.range' 1 lookaheadMonths) months)
    (tableName : TableName) :
    TilesFuture now lookaheadMonths (months.map (partitionOf tableName)) := by
  refine @tilesFuture_of_months _ _ tableName _ ?_
  rw [List.forall₂_map_right_iff]
  exact each.imp fun _ _ here => (partitionOf_ofMonth here.1 here.2 tableName).2

/-- A run creates the partitions of the months without rows in the default partition. -/
theorem createdFor_createNextMonthPartition {runtime : Runtime} {now : CivilDatetime}
    {lookaheadMonths : Nat} {months : List CivilDatetime}
    (returned : futurePartitionMonths now lookaheadMonths = .ok months)
    (each : List.Forall₂ (fun offset month => StartsMonth (now.monthIndex + offset) month ∧
      now.monthIndex + offset + 1 < 120000) (List.range' 1 lookaheadMonths) months)
    {db after : PartitionedTables} {created : List MonthPartition}
    (done : createNextMonthPartition runtime now lookaheadMonths db = .ok (created, after))
    (tableName : TableName) :
    createdFor tableName created = (months.map (partitionOf tableName)).filter
      fun partition => ¬ HasDefaultRows db partition := by
  have ended : ∀ month ∈ months, ∃ monthEnd, addMonths month 1 = .ok monthEnd :=
    forall_mem_of_forall₂ (fun _ _ here => (partitionOf_ofMonth here.1 here.2 tableName).1) each
  rw [createNextMonthPartition, returned, ok_bind] at done
  rw [createdFor, createPartitions_created (forall_mem_pairs ended) done, List.filter_filter,
    ← filter_partitionOf months tableName, List.filter_filter]
  exact List.filter_congr fun partition _ => Bool.and_comm ..

/-- A run creates partitions of months only, and only of such without rows in the default
partition. -/
theorem ofMonth_of_created {runtime : Runtime} {now : CivilDatetime} {lookaheadMonths : Nat}
    {db after : PartitionedTables} {created : List MonthPartition}
    (done : createNextMonthPartition runtime now lookaheadMonths db = .ok (created, after))
    {partition : MonthPartition} (member : partition ∈ created) :
    (∃ index, OfMonth partition.tableName index partition) ∧ ¬ HasDefaultRows db partition := by
  obtain ⟨months, returned, each⟩ := futurePartitionMonths_inRange (yearsInRange_of_ok done)
  have forTable : partition ∈ createdFor partition.tableName created :=
    List.mem_filter.mpr ⟨member, by simp⟩
  rw [createdFor_createNextMonthPartition returned each done] at forTable
  obtain ⟨inMonths, free⟩ := List.mem_filter.mp forTable
  have ofMonths : ∀ candidate ∈ months.map (partitionOf partition.tableName), ∃ index,
      OfMonth partition.tableName index candidate := by
    refine List.forall_mem_map.mpr (forall_mem_of_forall₂ (fun offset _ here => ?_) each)
    exact ⟨now.monthIndex + offset, (partitionOf_ofMonth here.1 here.2 partition.tableName).2⟩
  exact ⟨ofMonths partition inMonths, by simpa using free⟩

end LlmObs.Backend
