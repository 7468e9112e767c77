import QueryMetrics.Proofs.Metric.Grouping
import QueryMetrics.Proofs.Scrape.Cycle
import QueryMetrics.Scripted.Database

/-!
# The names of families

A cycle keeps groups of samples apart by the names of the samples. The name of a family is made
from that only when its group is opened, and the exporter's own families are added behind the
groups. So two families of one cycle can have the same name, in two ways:

* a counter `x_total` and a sample `x` open two groups, and both families are named `x`
  (`Sample.Overlaps`);
* samples have the name of one of the exporter's own families.

There is no other way: `Exporter.nodup_names_iff` says that the families of a complete cycle have
pairwise distinct names exactly if neither happens.
-/

namespace QueryMetrics

open QueryMetrics.Action

/-! ### Families of samples -/

namespace Sample

variable {s t total plain : Sample}

/-- A counter whose name ends as those of counters do. -/
def isTotal (s : Sample) : Bool := s.kind == .counter && (withoutTotal? s.name).isSome

/-- The family of such a counter is named without the ending. -/
theorem name_of_isTotal (h : s.isTotal) : s.name = familyName s ++ totalEnding := by
  simp only [isTotal, Bool.and_eq_true, beq_iff_eq] at h
  obtain ⟨hkind, hsome⟩ := h
  obtain ⟨base, hbase⟩ := Option.isSome_iff_exists.mp hsome
  rw [familyName, hkind, hbase]
  exact (append_totalEnding_of_withoutTotal? hbase).symm

/-- Any other family is named as its samples are. -/
theorem familyName_of_not_isTotal (h : s.isTotal = false) : familyName s = s.name := by
  rw [familyName]
  cases hkind : s.kind with
  | gauge => rfl
  | histogram => rfl
  | counter =>
    have hnone : withoutTotal? s.name = none := by simpa [isTotal, hkind] using h
    rw [hnone]
    rfl

/-- The family of a counter has the name of the family of other samples, which is that of the
counter without its ending. -/
structure Overlaps (total plain : Sample) : Prop where
  isTotal : total.isTotal = true
  not_isTotal : plain.isTotal = false
  opensFamily : plain.opensFamily = true
  name : total.name = plain.name ++ totalEnding

instance (total plain : Sample) : Decidable (total.Overlaps plain) :=
  decidable_of_iff (total.isTotal = true ∧ plain.isTotal = false ∧ plain.opensFamily = true ∧
      total.name = plain.name ++ totalEnding)
    ⟨fun ⟨h, h', h'', h'''⟩ => ⟨h, h', h'', h'''⟩, fun ⟨h, h', h'', h'''⟩ => ⟨h, h', h'', h'''⟩⟩

/-- Putting the ending of counters behind names keeps different names apart. -/
theorem append_totalEnding_inj {name name' : String}
    (h : name ++ totalEnding = name' ++ totalEnding) : name = name' :=
  String.append_left_inj totalEnding |>.mp h

theorem Overlaps.familyName_eq (h : total.Overlaps plain) :
    familyName total = familyName plain := by
  rw [familyName_of_not_isTotal h.not_isTotal]
  exact append_totalEnding_inj ((name_of_isTotal h.isTotal).symm.trans h.name)

/-- Samples of different names open families of one name only if they overlap. -/
theorem overlaps_of_familyName_eq (hs : s.opensFamily) (ht : t.opensFamily)
    (h : familyName s = familyName t) (hne : s.name ≠ t.name) : s.Overlaps t ∨ t.Overlaps s := by
  cases hs' : s.isTotal with
  | true =>
    cases ht' : t.isTotal with
    | true =>
      refine absurd ?_ hne
      rw [name_of_isTotal hs', name_of_isTotal ht', h]
    | false =>
      refine .inl ⟨hs', ht', ht, ?_⟩
      rw [name_of_isTotal hs', h, familyName_of_not_isTotal ht']
  | false =>
    cases ht' : t.isTotal with
    | true =>
      refine .inr ⟨ht', hs', hs, ?_⟩
      rw [name_of_isTotal ht', ← h, familyName_of_not_isTotal hs']
    | false =>
      refine absurd ?_ hne
      rw [← familyName_of_not_isTotal hs', h, familyName_of_not_isTotal ht']

end Sample

namespace Grouping

/-- The families of samples are named by the openers. -/
theorem map_name_families_described (samples : List Sample) :
    (described samples).families.map Family.name =
      ((openers samples).filter Sample.opensFamily).map familyName := by
  rw [families, described, List.map_map, List.map_map]
  rfl

/-- The families of samples have pairwise distinct names exactly if no counter overlaps with other
samples. -/
theorem nodup_name_families_iff (samples : List Sample) :
    ((described samples).families.map Family.name).Nodup ↔
      ∀ total ∈ openers samples, ∀ plain ∈ openers samples, ¬ total.Overlaps plain := by
  rw [map_name_families_described]
  constructor
  · rintro hnodup total htotal plain hplain h
    have hsame := h.familyName_eq
    have hopens : total.opensFamily = true := by
      rw [Sample.opensFamily, hsame]
      exact h.opensFamily
    have heq : total = plain := List.inj_on_of_nodup_map hnodup
      (List.mem_filter.mpr ⟨htotal, hopens⟩) (List.mem_filter.mpr ⟨hplain, h.opensFamily⟩) hsame
    have hnot := h.not_isTotal
    rw [← heq, h.isTotal] at hnot
    cases hnot
  · intro hall
    refine List.Nodup.map_on ?_ ((List.Nodup.of_map _ (nodup_openers samples)).filter _)
    intro s hs t ht hsame
    obtain ⟨hs, hsOpens⟩ := List.mem_filter.mp hs
    obtain ⟨ht, htOpens⟩ := List.mem_filter.mp ht
    by_contra hne
    have hnames : s.name ≠ t.name := fun he => hne (eq_of_mem_openers hs ht he)
    obtain h | h := Sample.overlaps_of_familyName_eq hsOpens htOpens hsame hnames
    · exact hall s hs t ht h
    · exact hall t ht s hs h

end Grouping

/-! ### The exporter's own families -/

/-- The exporter's own families, by the parts of their names behind the namespace. -/
def ownParts : List (List String) :=
  [[ownContext, "last_scrape_duration_seconds"], [ownContext, "scrapes"],
    [ownContext, "last_scrape_error"], [ownContext, "scrape_errors"], ["up"], ["dbtype"]]

/-- The names of the exporter's own families. -/
def ownNames (ns : String) : List String := ownParts.map fun parts => qualifiedName (ns :: parts)

theorem map_name_ownFamilies (ledger : Ledger) (ns : String) (dbtype : Int) :
    (ledger.ownFamilies ns dbtype).map Family.name = ownNames ns := rfl

/-- What stands in front of the further parts of a name that begins with a namespace. -/
def namePrefix (ns : String) : String := if ns.isEmpty then "" else ns ++ "_"

/-- A name begins with its namespace. -/
theorem qualifiedName_cons (ns first : String) (rest : List String) (h : first.isEmpty = false) :
    qualifiedName (ns :: first :: rest) = namePrefix ns ++ qualifiedName (first :: rest) := by
  unfold qualifiedName namePrefix
  simp only [List.filter_cons, h]
  cases ns.isEmpty with
  | true => simp
  | false => simp [String.append_assoc]

theorem ownNames_eq_map (ns : String) :
    ownNames ns = (ownParts.map qualifiedName).map (namePrefix ns ++ ·) := by
  simp only [ownNames, ownParts, List.map_cons, List.map_nil]
  simp only [qualifiedName_cons ns ownContext _ rfl, qualifiedName_cons ns "up" _ rfl,
    qualifiedName_cons ns "dbtype" _ rfl]

/-- The exporter's own families have pairwise distinct names, whatever the namespace is. -/
theorem nodup_ownNames (ns : String) : (ownNames ns).Nodup := by
  rw [ownNames_eq_map]
  refine List.Nodup.map (fun name name' h => ?_) (by decide)
  exact (String.append_right_inj (namePrefix ns)).mp h

/-- None of the exporter's own families is without a name. -/
theorem empty_not_mem_ownNames (ns : String) : "" ∉ ownNames ns := by
  rw [ownNames_eq_map]
  rintro hmem
  obtain ⟨name, hname, happend⟩ := List.mem_map.mp hmem
  have hempty : name = "" := (String.append_eq_empty_iff.mp happend).2
  exact absurd (hempty ▸ hname) (by decide)

/-! ### Cycles -/

namespace Exporter

variable {δ : Type} {db : Database δ} {order : TaskOrder} {tick : Option Binary64}
  {s : Clocked (Exporter δ)} {families : List Family}

/-- A cycle without the database collects nothing. -/
theorem collected_of_down (tick : Option Binary64) (horder : order.Lawful)
    (h : (pinged db s).result = .ok false) : collected db order tick s = [] := by
  have hstarted : started db order s = [] := by rw [started, h]
  have hperm := horder.collecting (outcomes db tick (started db order s) (prepared db s))
  rw [hstarted] at hperm
  rw [collected, hstarted]
  exact hperm.eq_nil

/-- The families of a complete cycle are those of the samples that it collects, grouped as
described, and the exporter's own. -/
theorem exists_families_scrape (horder : order.Lawful)
    (h : (run (scrape db order tick) s).result = .ok families) :
    ∃ (ledger : Ledger) (dbtype : Int), families =
      (Grouping.described ((collected db order tick s).flatMap Outcome.samples)).families ++
        ledger.ownFamilies s.inner.settings.ns dbtype := by
  cases hping : (pinged db s).result with
  | error failure =>
    rw [run_scrape_of_ping_error hping] at h
    cases h
  | ok up =>
    cases up with
    | false =>
      have hsettings : (pinged db s).state.inner.settings = s.inner.settings := by
        rw [inner_pinged]
        rfl
      rw [run_scrape_of_down hping] at h
      dsimp only at h
      rw [run_conclude, hsettings] at h
      obtain rfl := Except.ok.inj h
      exact ⟨_, _, by rw [collected_of_down tick horder hping]; rfl⟩
    | true =>
      have hrefresh := refreshed_of_result hping h
      obtain ⟨grouping, hgrouping, hfamilies⟩ := exists_grouping_of_result hping hrefresh h
      rw [Grouping.eq_described_of_ofSamples hgrouping] at hfamilies
      exact ⟨_, _, hfamilies⟩

/-- **One family per name.** The families of a complete cycle have pairwise distinct names exactly
if, among the first samples of each name that it collects, no counter overlaps with another sample,
and none opens a family with the name of one of the exporter's own. -/
theorem nodup_names_iff (horder : order.Lawful)
    (h : (run (scrape db order tick) s).result = .ok families) :
    let first := Grouping.openers ((collected db order tick s).flatMap Outcome.samples)
    (families.map Family.name).Nodup ↔
      (∀ total ∈ first, ∀ plain ∈ first, ¬ total.Overlaps plain) ∧
        ∀ sample ∈ first, familyName sample ∉ ownNames s.inner.settings.ns := by
  intro first
  obtain ⟨ledger, dbtype, rfl⟩ := exists_families_scrape horder h
  rw [List.map_append, map_name_ownFamilies, List.nodup_append, Grouping.nodup_name_families_iff,
    Grouping.map_name_families_described]
  refine and_congr_right fun _ => ?_
  constructor
  · rintro ⟨-, hapart⟩ sample hsample hown
    have hopens : sample.opensFamily = true := by
      rw [Sample.opensFamily, Bool.not_eq_true']
      by_contra hempty
      rw [Bool.not_eq_false, String.isEmpty_iff] at hempty
      exact empty_not_mem_ownNames s.inner.settings.ns (hempty ▸ hown)
    exact hapart (familyName sample)
      (List.mem_map_of_mem (List.mem_filter.mpr ⟨hsample, hopens⟩)) (familyName sample) hown rfl
  · intro hall
    refine ⟨nodup_ownNames _, ?_⟩
    rintro name hname _ hown rfl
    obtain ⟨sample, hsample, rfl⟩ := List.mem_map.mp hname
    exact hall sample (List.mem_of_mem_filter hsample) hown

/-- A new exporter with one definition, whose query gives a counter and a gauge as these two
columns of its context. -/
def counterAndGauge (context counter gauge : String) : Exporter Scripted.DatabaseState where
  database := { rows := [("select 1", [[(counter, "1"), (gauge, "2")]])] }
  store :=
    { sources := [], defaults := none
      definitions :=
        [{ context, helps := [(counter, "How many."), (gauge, "How much.")]
           kinds := [(counter, "counter")], request := "select 1" }] }

/-- A counter and a gauge that have nothing to do with each other are told apart. -/
theorem nodup_names_iff_apart :
    ∃ families, (run (scrape Scripted.database .inTurn none)
        ⟨0, counterAndGauge "queue" "jobs_total" "load"⟩).result = .ok families ∧
      (families.map Family.name).Nodup := by
  have hok : (run (scrape Scripted.database .inTurn none)
      ⟨0, counterAndGauge "queue" "jobs_total" "load"⟩).result.isOk = true := by
    decide +kernel
  obtain ⟨families, hfamilies⟩ := exists_of_isOk hok
  exact ⟨families, hfamilies, (nodup_names_iff TaskOrder.lawful_inTurn hfamilies).mpr
    ⟨by decide +kernel, by decide +kernel⟩⟩

/-- The first cycle of a new exporter can already have two families of one name: those of a counter
and of a gauge whose name is that of the counter without its ending, and that of a gauge which has
the name of one of the exporter's own families. -/
theorem not_nodup_names_jobs :
    (¬ ∀ (new : Clocked (Exporter Scripted.DatabaseState)) families, new.inner.ledger = {} →
      (run (scrape Scripted.database .inTurn none) new).result = .ok families →
      (families.map Family.name).Nodup) ∧
    ((run (scrape Scripted.database .inTurn none)
        ⟨0, counterAndGauge "queue" "jobs_total" "jobs"⟩).result.map (·.map Family.name)) =
      .ok (["oracledb_queue_jobs", "oracledb_queue_jobs"] ++ ownNames "oracledb") ∧
    ((run (scrape Scripted.database .inTurn none)
        ⟨0, counterAndGauge "" "jobs_total" "up"⟩).result.map (·.map Family.name)) =
      .ok (["oracledb_jobs", "oracledb_up"] ++ ownNames "oracledb") := by
  have hjobs : (run (scrape Scripted.database .inTurn none)
      ⟨0, counterAndGauge "queue" "jobs_total" "jobs"⟩).result.map (·.map Family.name) =
        .ok (["oracledb_queue_jobs", "oracledb_queue_jobs"] ++ ownNames "oracledb") := by
    decide +kernel
  refine ⟨fun hall => ?_, hjobs, by decide +kernel⟩
  cases hresult : (run (scrape Scripted.database .inTurn none)
      ⟨0, counterAndGauge "queue" "jobs_total" "jobs"⟩).result with
  | error failure =>
    rw [hresult] at hjobs
    cases hjobs
  | ok families =>
    have hnames : families.map Family.name =
        ["oracledb_queue_jobs", "oracledb_queue_jobs"] ++ ownNames "oracledb" := by
      rw [hresult] at hjobs
      exact Except.ok.inj hjobs
    have hnodup := hall ⟨0, counterAndGauge "queue" "jobs_total" "jobs"⟩ families rfl hresult
    rw [hnames] at hnodup
    exact absurd hnodup (by decide +kernel)

end Exporter

end QueryMetrics
