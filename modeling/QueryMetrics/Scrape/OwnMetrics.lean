import QueryMetrics.Metric.Family
import QueryMetrics.Scrape.Ledger

/-!
# The exporter's own metrics

Every complete cycle ends with six families about the cycle and the database, in a fixed order.
Their names begin with the namespace; four of them continue with `exporter`.
-/

namespace QueryMetrics

/-- The middle part of the names of metrics about the exporter. -/
def ownContext : String := "exporter"

/-- A gauge with one value and no labels. -/
def ownGauge (name help : String) (value : Quantity) : Family :=
  ⟨name, .gauge, help, [⟨name, [], value⟩]⟩

/-- A counter. Its family is named without the ending of counters, its points with it. -/
def ownCounter (name help : String) (points : List (Entries String String × Nat)) : Family :=
  ⟨name, .counter, help,
    points.map fun point => ⟨name ++ totalEnding, point.1, .counted point.2⟩⟩

/-- One for true, zero for false. -/
def flag (b : Bool) : Quantity := .counted (if b then 1 else 0)

/-- The families about the last cycle, which has been taken down in the ledger. -/
def Ledger.ownFamilies (ledger : Ledger) (ns : String) (dbtype : Int) : List Family :=
  [ownGauge (qualifiedName [ns, ownContext, "last_scrape_duration_seconds"])
      "Duration of the last scrape of metrics from Oracle DB." (.measured ledger.lastDuration),
    ownCounter (qualifiedName [ns, ownContext, "scrapes"])
      "Total number of times Oracle DB was scraped for metrics." [([], ledger.scrapes)],
    ownGauge (qualifiedName [ns, ownContext, "last_scrape_error"])
      ("Whether the last scrape of metrics from Oracle DB resulted in an error " ++
        "(1 for error, 0 for success).") (flag ledger.lastError),
    ownCounter (qualifiedName [ns, ownContext, "scrape_errors"])
      "Total number of times an error occurred scraping a Oracle database."
      (ledger.errors.map fun entry => ([("collector", entry.1)], entry.2)),
    ownGauge (qualifiedName [ns, "up"]) "Whether the Oracle database server is up."
      (flag ledger.up),
    ownGauge (qualifiedName [ns, "dbtype"])
      "Type of database the exporter is connected to (0=non-CDB, 1=CDB, >1=PDB)."
      (.counted dbtype)]

end QueryMetrics
