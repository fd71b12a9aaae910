import LlmObs.Backend.Workers.FuturePartitions
import LlmObs.Foundation.Machine

/-!
Owns the partitions of the tables over any run of the maintenance between inserts: they
stay months that do not overlap, so that no run of the maintenance in a session in UTC
fails on them, and a run creates the months behind the current one that have no rows in
the default partition.
-/

namespace LlmObs.Backend

open LlmObs.Foundation LlmObs.Foundation.Calendar

/-! ### Tables of monthly partitions -/

/-- `partition_name` of the month with this number. -/
def partitionName (tableName : TableName) (index : Nat) : String :=
  tableName.name ++ "_" ++ monthSuffix index

theorem partitionName_injective (tableName : TableName) :
    Function.Injective (partitionName tableName) := by
  intro first second same
  have texts := congrArg String.toList same
  simp only [partitionName, String.toList_append] at texts
  exact monthSuffix_injective (String.toList_injective (List.append_cancel_left texts))

/-- Each partition has the name of the month that it ranges over, and the default partition
has the other rows. -/
structure PartitionedTable.Sound (tableName : TableName) (table : PartitionedTable) : Prop where
  monthly : ∀ stored ∈ table.partitions, ∃ index, 12 ≤ index ∧
    stored = (partitionName tableName index, monthRange index)
  named : (table.partitions.map Prod.fst).Nodup
  elsewhere : ∀ row ∈ table.defaultRows, ∀ stored ∈ table.partitions, ¬ stored.2.Covers row

/-- Partitions of one table do not overlap. -/
theorem PartitionedTable.Sound.disjoint {tableName : TableName} {table : PartitionedTable}
    (sound : table.Sound tableName) :
    (table.partitions.map Prod.snd).Pairwise HalfOpen.Apart := by
  have distinct := List.pairwise_map.mp sound.named
  rw [List.pairwise_map]
  refine distinct.imp_of_mem ?_
  intro left right leftStored rightStored different
  obtain ⟨first, firstBegan, rfl⟩ := sound.monthly left leftStored
  obtain ⟨second, secondBegan, rfl⟩ := sound.monthly right rightStored
  exact monthRange_apart_of_ne firstBegan secondBegan fun same =>
    different (congrArg (partitionName tableName) same)

/-- The partition of a month without rows in the default partition can be created. -/
theorem PartitionedTable.Sound.create {tableName : TableName} {table : PartitionedTable}
    (sound : table.Sound tableName) {index : Nat} (began : 12 ≤ index)
    (free : ∀ row ∈ table.defaultRows, ¬ (monthRange index).Covers row) :
    ∃ after, table.create (partitionName tableName index) (monthRange index) = .ok after ∧
      after.Sound tableName := by
  rw [PartitionedTable.create]
  by_cases present : partitionName tableName index ∈ table.partitions.map Prod.fst
  · rw [if_pos present]
    exact ⟨table, rfl, sound⟩
  · have covers := monthRange_covers_start began
    have apart : ¬ ∃ stored ∈ table.partitions, ¬ stored.2.Apart (monthRange index) := by
      rintro ⟨stored, member, meets⟩
      obtain ⟨other, otherBegan, rfl⟩ := sound.monthly stored member
      refine meets (monthRange_apart_of_ne otherBegan began fun same => present ?_)
      exact List.mem_map.mpr ⟨_, member, congrArg (partitionName tableName) same⟩
    have noRow : ¬ ∃ row ∈ table.defaultRows, (monthRange index).Covers row :=
      fun ⟨row, member, inside⟩ => free row member inside
    rw [if_neg present, if_neg (not_not.mpr covers), if_neg apart, if_neg noRow]
    refine ⟨_, rfl, ?_, ?_, ?_⟩
    · intro stored member
      rcases List.mem_append.mp member with old | new
      · exact sound.monthly stored old
      · exact ⟨index, began, List.mem_singleton.mp new⟩
    · show ((table.partitions ++ [_]).map Prod.fst).Nodup
      rw [List.map_append, List.nodup_append_comm]
      exact List.nodup_cons.mpr ⟨present, sound.named⟩
    · intro row inDefault stored member
      rcases List.mem_append.mp member with old | new
      · exact sound.elsewhere row inDefault stored old
      · rw [List.mem_singleton.mp new]
        exact free row inDefault

def SoundTables (db : PartitionedTables) : Prop := ∀ tableName, (db tableName).Sound tableName

theorem SoundTables.update {db : PartitionedTables} (sound : SoundTables db)
    {tableName : TableName} {table : PartitionedTable} (kept : table.Sound tableName) :
    SoundTables (Function.update db tableName table) := by
  intro other
  by_cases same : other = tableName
  · subst same
    rwa [Function.update_self]
  · rw [Function.update_of_ne same]
    exact sound other

section

variable {runtime : Runtime} (utc : ∀ wall, runtime.sessionInstant wall = wall)

include utc

/-- In a session in UTC, nothing keeps a run from the partition of a month. -/
theorem createMonthPartition_sound {index : Nat} {month : CivilDatetime}
    (starts : StartsMonth index month) (bounded : index + 1 < 120000) (tableName : TableName)
    {db : PartitionedTables} (sound : SoundTables db) :
    ∃ first after, createMonthPartition runtime tableName month db = .ok (first, after) ∧
      SoundTables after := by
  have began : 12 ≤ index := starts.monthIndex ▸ month.twelve_le_monthIndex
  obtain ⟨⟨monthEnd, ended⟩, ofMonth⟩ := partitionOf_ofMonth starts bounded tableName
  have bounds : (partitionOf tableName month).bounds runtime = monthRange index := by
    rw [MonthPartition.bounds, utc, utc, ofMonth.start.toordinal, ofMonth.stop.toordinal]
    rfl
  have name : (partitionOf tableName month).name = partitionName tableName index := by
    rw [MonthPartition.name, ofMonth.suffix, ofMonth.tableName]
    rfl
  rw [createMonthPartition_eq runtime tableName ended db]
  by_cases rows : HasDefaultRows db (partitionOf tableName month)
  · rw [if_pos rows]
    exact ⟨none, db, rfl, sound⟩
  · obtain ⟨table, made, kept⟩ := (sound tableName).create began fun row member inside =>
      rows ⟨row, member, ofMonth.range ▸ inside⟩
    rw [if_neg rows, name, bounds, made]
    exact ⟨_, _, rfl, sound.update kept⟩

theorem createPartitions_sound {pairs : List (CivilDatetime × TableName)}
    (monthly : ∀ pair ∈ pairs, ∃ index, StartsMonth index pair.1 ∧ index + 1 < 120000)
    {db : PartitionedTables} (sound : SoundTables db) :
    ∃ created after, createPartitions runtime pairs db = .ok (created, after) ∧
      SoundTables after := by
  induction pairs generalizing db with
  | nil => exact ⟨[], db, rfl, sound⟩
  | cons pair rest inductionHypothesis =>
      obtain ⟨month, tableName⟩ := pair
      obtain ⟨⟨index, starts, bounded⟩, there⟩ := List.forall_mem_cons.mp monthly
      obtain ⟨first, middle, stepped, middleSound⟩ :=
        createMonthPartition_sound utc starts bounded tableName sound
      obtain ⟨others, after, looped, afterSound⟩ := inductionHypothesis there middleSound
      refine ⟨first.toList ++ others, after, ?_, afterSound⟩
      rw [createPartitions, stepped, ok_bind]
      dsimp only
      rw [looped]
      rfl

/-- A run returns where its dates are in the range of years. -/
theorem createNextMonthPartition_sound {now : CivilDatetime} {lookaheadMonths : Nat}
    (inRange : YearsInRange now lookaheadMonths) {db : PartitionedTables}
    (sound : SoundTables db) :
    ∃ created after, createNextMonthPartition runtime now lookaheadMonths db =
        .ok (created, after) ∧ SoundTables after := by
  obtain ⟨months, returned, each⟩ := futurePartitionMonths_inRange inRange
  have monthly : ∀ month ∈ months, ∃ index, StartsMonth index month ∧ index + 1 < 120000 :=
    forall_mem_of_forall₂ (fun offset _ here => ⟨now.monthIndex + offset, here⟩) each
  rw [createNextMonthPartition, returned, ok_bind]
  exact createPartitions_sound utc (forall_mem_pairs monthly) sound

end

/-! ### Maintenance between inserts -/

/-- A row goes into the partition of its range, and into the default one without it. -/
def PartitionedTable.insertRow (table : PartitionedTable) (startedAt : Int) : PartitionedTable :=
  if ∃ stored ∈ table.partitions, stored.2.Covers startedAt then table
  else { table with defaultRows := table.defaultRows ++ [startedAt] }

/-- A row of the default partition is deleted. -/
def PartitionedTable.deleteRow (table : PartitionedTable) (startedAt : Int) : PartitionedTable :=
  { table with defaultRows := table.defaultRows.erase startedAt }

inductive PartitionAction where
  | maintain (now : CivilDatetime) (lookaheadMonths : Nat)
  | insert (tableName : TableName) (startedAt : Int)
  | delete (tableName : TableName) (startedAt : Int)

/-- A run that raises is rolled back. -/
def partitionMachine (runtime : Runtime) : Machine PartitionedTables PartitionAction where
  step db
    | .maintain now lookaheadMonths =>
        match createNextMonthPartition runtime now lookaheadMonths db with
        | .ok (_, after) => some after
        | .error _ => some db
    | .insert tableName startedAt =>
        some (Function.update db tableName ((db tableName).insertRow startedAt))
    | .delete tableName startedAt =>
        some (Function.update db tableName ((db tableName).deleteRow startedAt))

theorem PartitionedTable.Sound.insertRow {tableName : TableName} {table : PartitionedTable}
    (sound : table.Sound tableName) (startedAt : Int) :
    (table.insertRow startedAt).Sound tableName := by
  rw [PartitionedTable.insertRow]
  split_ifs with routed
  · exact sound
  · refine ⟨sound.monthly, sound.named, ?_⟩
    intro row member stored present inside
    rcases List.mem_append.mp member with old | new
    · exact sound.elsewhere row old stored present inside
    · rw [List.mem_singleton.mp new] at inside
      exact routed ⟨stored, present, inside⟩

theorem PartitionedTable.Sound.deleteRow {tableName : TableName} {table : PartitionedTable}
    (sound : table.Sound tableName) (startedAt : Int) :
    (table.deleteRow startedAt).Sound tableName :=
  ⟨sound.monthly, sound.named, fun row member => sound.elsewhere row (List.mem_of_mem_erase member)⟩

section

variable {runtime : Runtime} (utc : ∀ wall, runtime.sessionInstant wall = wall)

include utc

theorem soundTables_step {db after : PartitionedTables} {action : PartitionAction}
    (sound : SoundTables db) (stepped : (partitionMachine runtime).step db action = some after) :
    SoundTables after := by
  cases action with
  | maintain now lookaheadMonths =>
      simp only [partitionMachine] at stepped
      split at stepped
      · rename_i created final done
        cases stepped
        obtain ⟨_, _, again, kept⟩ :=
          createNextMonthPartition_sound utc (yearsInRange_of_ok done) sound
        obtain ⟨-, rfl⟩ := Prod.mk.inj (Except.ok.inj (again.symm.trans done))
        exact kept
      · cases stepped
        exact sound
  | insert tableName startedAt =>
      cases stepped
      exact sound.update ((sound tableName).insertRow startedAt)
  | delete tableName startedAt =>
      cases stepped
      exact sound.update ((sound tableName).deleteRow startedAt)

/-- Over any run of the maintenance between inserts, partitions are months that do not
overlap, and the maintenance goes on to return in the range of years. -/
theorem soundTables_run {db after : PartitionedTables} {actions : List PartitionAction}
    (sound : SoundTables db) (ran : (partitionMachine runtime).run db actions = some after) :
    (∀ tableName, ((after tableName).partitions.map Prod.snd).Pairwise HalfOpen.Apart) ∧
      ∀ now lookaheadMonths, YearsInRange now lookaheadMonths → ∃ result,
        createNextMonthPartition runtime now lookaheadMonths after = .ok result := by
  have kept : SoundTables after := Machine.run_invariant_always (partitionMachine runtime)
    (fun _ _ _ before stepped => soundTables_step utc before stepped) sound ran
  refine ⟨fun tableName => (kept tableName).disjoint, fun now lookaheadMonths inRange => ?_⟩
  obtain ⟨created, final, done, -⟩ := createNextMonthPartition_sound utc inRange kept
  exact ⟨_, done⟩

end

/-- The partitions of the migrations: May and June 2026, and an empty default one. -/
def migratedTables : PartitionedTables := fun tableName =>
  ⟨[(partitionName tableName (Calendar.monthIndex 2026 5),
      monthRange (Calendar.monthIndex 2026 5)),
    (partitionName tableName (Calendar.monthIndex 2026 6),
      monthRange (Calendar.monthIndex 2026 6))], []⟩

theorem soundTables_migrated : SoundTables migratedTables := by
  intro tableName
  refine ⟨?_, ?_, fun _ member => absurd member List.not_mem_nil⟩
  · intro stored member
    rcases List.mem_cons.mp member with rfl | last
    · exact ⟨_, by decide, rfl⟩
    · exact ⟨_, by decide, List.mem_singleton.mp last⟩
  · refine List.nodup_cons.mpr ⟨?_, List.nodup_singleton _⟩
    intro member
    have same := partitionName_injective tableName (List.mem_singleton.mp member)
    exact absurd same (by decide)

/-! ### Months that are skipped -/

/-- The months behind the current one tile time, and a run creates the partitions of those
without rows in the default partition. -/
structure SkipsDefaultRows (now : CivilDatetime) (lookaheadMonths : Nat)
    (months : TableName → List MonthPartition) : Prop where
  tiles : ∀ tableName, TilesFuture now lookaheadMonths (months tableName)
  creates : ∀ runtime db created after,
    createNextMonthPartition runtime now lookaheadMonths db = .ok (created, after) →
      ∀ tableName, createdFor tableName created =
        (months tableName).filter fun partition => ¬ HasDefaultRows db partition
  sameRanges : ∀ runtime db created after,
    createNextMonthPartition runtime now lookaheadMonths db = .ok (created, after) →
      ∀ otherRuntime otherNow otherLookahead otherDb others otherAfter,
        createNextMonthPartition otherRuntime otherNow otherLookahead otherDb =
          .ok (others, otherAfter) → SameRanges created others
  returns : ∀ runtime : Runtime, (∀ wall, runtime.sessionInstant wall = wall) →
    ∀ db, SoundTables db → ∃ created after,
      createNextMonthPartition runtime now lookaheadMonths db = .ok (created, after) ∧
        SoundTables after

/-- At every instant, in the range of years. -/
theorem createNextMonthPartition_skipsDefaultRows {now : CivilDatetime} {lookaheadMonths : Nat}
    (inRange : YearsInRange now lookaheadMonths) :
    ∃ months, SkipsDefaultRows now lookaheadMonths months := by
  obtain ⟨months, returned, each⟩ := futurePartitionMonths_inRange inRange
  refine ⟨fun tableName => months.map (partitionOf tableName), ?_, ?_, ?_, ?_⟩
  · exact tilesFuture_partitionOf each
  · intro runtime db created after done
    exact createdFor_createNextMonthPartition returned each done
  · intro runtime db created after done _ _ _ _ others _ otherDone left leftMember right
      rightMember same
    obtain ⟨⟨first, leftMonth⟩, -⟩ := ofMonth_of_created done leftMember
    obtain ⟨⟨second, rightMonth⟩, -⟩ := ofMonth_of_created otherDone rightMember
    have equal : first = second :=
      monthSuffix_injective (leftMonth.suffix.symm.trans (same.trans rightMonth.suffix))
    rw [leftMonth.range, rightMonth.range, equal]
  · intro runtime utc db sound
    exact createNextMonthPartition_sound utc inRange sound

/-- Two minutes before August 2026. -/
def endOfJuly : CivilDatetime where
  year := 2026
  month := 7
  day := 31
  year_pos := by decide
  year_le := by decide
  month_pos := by decide
  month_le := by decide
  day_pos := by decide
  day_le := by decide
  microsecond := 86280000000
  tzinfo := some 0
  microsecond_lt := by decide

theorem createNextMonthPartition_skipsDefaultRows_endOfJuly :
    ∃ months, SkipsDefaultRows endOfJuly 2 months :=
  createNextMonthPartition_skipsDefaultRows (by decide)

/-- The migrated tables, with a span of August 2026 in the default partition. -/
def tablesWithEarlySpan : PartitionedTables :=
  Function.update migratedTables .spans
    ((migratedTables .spans).insertRow (midnight (firstDay (Calendar.monthIndex 2026 8))))

/-- The run that should create the partition of August skips it for the spans. -/
theorem not_createsFutureTiles_earlySpan :
    YearsInRange endOfJuly 1 ∧
      ¬ CreatesFutureTiles .inUtc endOfJuly 1 tablesWithEarlySpan := by
  have inRange : YearsInRange endOfJuly 1 := by decide
  refine ⟨inRange, fun tiles => ?_⟩
  have sound : SoundTables tablesWithEarlySpan :=
    soundTables_migrated.update ((soundTables_migrated .spans).insertRow _)
  have utc : ∀ wall, Runtime.inUtc.sessionInstant wall = wall := fun _ => rfl
  obtain ⟨created, after, done, -⟩ := createNextMonthPartition_sound utc inRange sound
  have august := (tiles created after done .spans).consecutive
  have inDefault : midnight (firstDay (endOfJuly.monthIndex + 1)) ∈
      (tablesWithEarlySpan .spans).defaultRows := by
    decide +kernel
  have listed : monthRange (endOfJuly.monthIndex + 1) ∈
      (createdFor .spans created).map MonthPartition.range := by
    rw [august]
    exact List.mem_cons_self ..
  obtain ⟨partition, member, range⟩ := List.mem_map.mp listed
  have inTable : partition.tableName = .spans := by
    simpa using (List.mem_filter.mp member).2
  refine (ofMonth_of_created done (List.mem_filter.mp member).1).2 ⟨_, inTable ▸ inDefault, ?_⟩
  rw [range]
  exact monthRange_covers_start (by decide)

end LlmObs.Backend
