import QueryMetrics.Definition.Basic

/-!
# Built-in definitions

The definitions that are active without any file: sessions, resource limits, disk groups, activity
counters, processes, wait times and tablespaces.
-/

namespace QueryMetrics.Definition

/-- Lines of a query, each ended by a line feed. -/
def queryLines (lines : List String) : String := String.join (lines.map (· ++ "\n"))

/-- The definitions that are active without any file. -/
def builtin : List Definition :=
  [{ context := "sessions"
     labels := ["status", "type"]
     helps := [("value", "Gauge metric with count of sessions by status and type.")]
     request := "SELECT status, type, COUNT(*) as value FROM v$session GROUP BY status, type" },
   { context := "resource"
     labels := ["resource_name"]
     helps :=
       [("current_utilization",
          "Generic counter metric from v$resource_limit view in Oracle (current value)."),
        ("limit_value",
          "Generic counter metric from v$resource_limit view in Oracle (UNLIMITED: -1).")]
     request := "SELECT resource_name, current_utilization, CASE WHEN TRIM(limit_value) LIKE " ++
       "'UNLIMITED' THEN '-1' ELSE TRIM(limit_value) END as limit_value FROM v$resource_limit"
     ignoreZeroResult := true },
   { context := "asm_diskgroup"
     labels := ["name"]
     helps :=
       [("total", "Total size of ASM disk group."),
        ("free", "Free space available on ASM disk group.")]
     request := "SELECT name, total_mb*1024*1024 as total, free_mb*1024*1024 as free FROM " ++
       "v$asm_diskgroup_stat WHERE exists (SELECT 1 FROM v$datafile WHERE name like '+%')"
     ignoreZeroResult := true },
   { context := "activity"
     helps := [("value", "Generic counter metric from v$sysstat view in Oracle.")]
     suffixColumn := "name"
     request := "SELECT name, value FROM v$sysstat WHERE name IN ('parse count (total)', " ++
       "'execute count', 'user commits', 'user rollbacks')" },
   { context := "process"
     helps := [("count", "Gauge metric with count of processes.")]
     request := "SELECT COUNT(*) as count FROM v$process" },
   { context := "wait_time"
     labels := ["wait_class", "con_id"]
     helps := [("time_waited_sec_total", "Counter metric from system_wait_class view in Oracle.")]
     kinds := [("time_waited_sec_total", "counter")]
     request := queryLines
       ["SELECT", "  wait_class,", "  round(time_waited/100, 3) time_waited_sec_total,", "  con_id",
        "FROM v$system_wait_class", "WHERE wait_class <> 'Idle'"]
     ignoreZeroResult := true },
   { context := "tablespace"
     labels := ["tablespace", "type"]
     helps :=
       [("bytes", "Generic counter metric of tablespaces bytes in Oracle."),
        ("max_bytes", "Generic counter metric of tablespaces max bytes in Oracle."),
        ("free", "Generic counter metric of tablespaces free bytes in Oracle."),
        ("used_percent", "Gauge metric showing as a percentage of how much of the tablespace " ++
          "has been used.")]
     request := queryLines
       ["SELECT", "  dt.tablespace_name as tablespace,", "  dt.contents as type,",
        "  dt.block_size * dtum.used_space as bytes,",
        "  dt.block_size * dtum.tablespace_size as max_bytes,",
        "  dt.block_size * (dtum.tablespace_size - dtum.used_space) as free,",
        "  dtum.used_percent",
        "FROM dba_tablespace_usage_metrics dtum, dba_tablespaces dt",
        "WHERE dtum.tablespace_name = dt.tablespace_name", "ORDER BY tablespace"] }]

end QueryMetrics.Definition
