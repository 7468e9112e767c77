import QueryMetrics.Proofs.Scrape.Exchanges

/-!
# The protocol of a cycle

A cycle pings its database before it asks for anything, and pings once more after a failure; in
between it reconnects if the session is closed. As long as pinging and reconnecting fail as a
database does, if at all, the calls follow a protocol (`FollowsProtocol`): making contact does
(`Exporter.Contact.followsProtocol`), and the queries after it add nothing
(`Exporter.followsProtocol_cycle`).
-/

namespace QueryMetrics

open QueryMetrics.Action

/-! ### Replies -/

/-- The replies to pings. -/
def pings (exchanges : List Exchange) : List (Except Failure Unit) :=
  exchanges.filterMap Exchange.ping?

/-- The replies to reconnections. -/
def reconnections (exchanges : List Exchange) : List (Except Failure Unit) :=
  exchanges.filterMap Exchange.reconnect?

section Replies

variable (reply : Except Failure Unit) (exchanges : List Exchange)

@[simp] theorem pings_nil : pings [] = [] := rfl

@[simp] theorem pings_ping : pings (.ping reply :: exchanges) = reply :: pings exchanges := rfl

@[simp] theorem pings_reconnect : pings (.reconnect reply :: exchanges) = pings exchanges := rfl

@[simp] theorem reconnections_nil : reconnections [] = [] := rfl

@[simp] theorem reconnections_ping :
    reconnections (.ping reply :: exchanges) = reconnections exchanges := rfl

@[simp] theorem reconnections_reconnect :
    reconnections (.reconnect reply :: exchanges) = reply :: reconnections exchanges := rfl

end Replies

/-- Pings and reconnections fail as a database does, and not otherwise. -/
def FailsAsDatabase (exchanges : List Exchange) : Prop :=
  ∀ failure : Failure,
    .error failure ∈ pings exchanges ∨ .error failure ∈ reconnections exchanges →
      failure.isDatabase = true

/-! ### The protocol -/

/-- How often a cycle pings and reconnects, and when it is up. -/
structure FollowsProtocol (exchanges : List Exchange) (up : Bool) : Prop where
  /-- There are one or two pings. -/
  count : (pings exchanges).length = 1 ∨ (pings exchanges).length = 2
  /-- There are two exactly if the first one failed. -/
  again : (pings exchanges).length = 2 ↔
    ∃ failure, (pings exchanges).head? = some (.error failure)
  /-- There is at most one reconnection. -/
  renewal : (reconnections exchanges).length ≤ 1
  /-- There is one exactly if the first ping found the session closed. -/
  renews : (reconnections exchanges).length = 1 ↔
    ∃ failure, (pings exchanges).head? = some (.error failure) ∧ failure.isSessionClosed = true
  /-- The cycle is up exactly if the last ping succeeded. -/
  tells : up = true ↔ (pings exchanges).getLast? = some (.ok ())

/-- Queries are neither pings nor reconnections. -/
theorem FollowsProtocol.append {exchanges queries : List Exchange} {up : Bool}
    (h : FollowsProtocol exchanges up) (hqueries : ∀ exchange ∈ queries, exchange.isQuery = true) :
    FollowsProtocol (exchanges ++ queries) up := by
  have hnone : ∀ exchange ∈ queries, exchange.ping? = none ∧ exchange.reconnect? = none := by
    intro exchange hexchange
    have hquery := hqueries exchange hexchange
    cases exchange with
    | ping reply => cases hquery
    | reconnect reply => cases hquery
    | query statement timeout reply => exact ⟨rfl, rfl⟩
  have hpings : pings (exchanges ++ queries) = pings exchanges := by
    have hempty : queries.filterMap Exchange.ping? = [] :=
      List.filterMap_eq_nil_iff.mpr fun exchange hexchange => (hnone exchange hexchange).1
    rw [pings, List.filterMap_append, hempty, List.append_nil, pings]
  have hrenewals : reconnections (exchanges ++ queries) = reconnections exchanges := by
    have hempty : queries.filterMap Exchange.reconnect? = [] :=
      List.filterMap_eq_nil_iff.mpr fun exchange hexchange => (hnone exchange hexchange).2
    rw [reconnections, List.filterMap_append, hempty, List.append_nil, reconnections]
  constructor
  · rw [hpings]
    exact h.count
  · rw [hpings]
    exact h.again
  · rw [hrenewals]
    exact h.renewal
  · rw [hpings, hrenewals]
    exact h.renews
  · rw [hpings]
    exact h.tells

/-- What is not asked does not fail. -/
theorem FailsAsDatabase.of_append {exchanges queries : List Exchange}
    (h : FailsAsDatabase (exchanges ++ queries)) : FailsAsDatabase exchanges := by
  intro failure hfailure
  apply h failure
  rw [pings, reconnections, List.filterMap_append, List.filterMap_append]
  exact hfailure.imp (List.mem_append_left _) (List.mem_append_left _)

namespace Exporter

/-- A second ping that does not fail otherwise than a database does tells whether it is up. -/
theorem secondPing_of_database {reply : Except Failure Unit}
    (h : ∀ failure, reply = .error failure → failure.isDatabase = true) :
    ∃ up : Bool, secondPing reply = .ok up ∧ (up = true ↔ reply = .ok ()) := by
  cases reply with
  | ok _ => exact ⟨true, rfl, by simp⟩
  | error failure =>
    have hdatabase := h failure rfl
    exact ⟨false, by rw [secondPing, hdatabase, if_pos rfl], by simp⟩

/-- **Making contact follows the protocol**, unless a call fails otherwise than a database does. -/
theorem Contact.followsProtocol {exchanges : List Exchange} {result : Except Failure Bool}
    (h : Contact exchanges result) (hfails : FailsAsDatabase exchanges) :
    ∃ up, result = .ok up ∧ FollowsProtocol exchanges up := by
  cases h with
  | answered =>
    refine ⟨true, rfl, ?_⟩
    constructor <;> simp
  | @broken failure foreign =>
    have hdatabase := hfails failure (.inl List.mem_cons_self)
    rw [foreign] at hdatabase
    cases hdatabase
  | @repeated failure reply database still =>
    have hreply : ∀ other, reply = .error other → other.isDatabase = true :=
      fun other hother => hfails other (.inl (by simp [hother]))
    obtain ⟨up, hup, htells⟩ := secondPing_of_database hreply
    refine ⟨up, hup, ?_⟩
    constructor <;> simp [still, htells]
  | @renewed failure renewal reply closed database =>
    have hreply : ∀ other, reply = .error other → other.isDatabase = true :=
      fun other hother => hfails other (.inl (by simp [hother]))
    obtain ⟨up, hup, htells⟩ := secondPing_of_database hreply
    refine ⟨up, hup, ?_⟩
    constructor <;> simp [closed, htells]
  | @stranded failure other closed foreign =>
    have hdatabase := hfails other (.inr List.mem_cons_self)
    rw [foreign] at hdatabase
    cases hdatabase

/-! ### Cycles -/

variable {δ : Type} (db : Database δ) {order : TaskOrder} {tick : Option Binary64}
  {s : Clocked (Exporter δ)}

/-- A whole cycle follows the protocol, unless a call fails otherwise than a database does. -/
theorem followsProtocol_cycle (hfails : FailsAsDatabase (cycleExchanges db order tick s)) :
    ∃ up, (pinged db s).result = .ok up ∧ FollowsProtocol (cycleExchanges db order tick s) up := by
  rw [cycleExchanges_eq] at hfails ⊢
  obtain ⟨up, hup, hfollows⟩ := (contact_pinged db s).followsProtocol hfails.of_append
  exact ⟨up, hup, hfollows.append fun exchange => isQuery_of_mem_exchanges db tick _⟩

/-- The queries of a cycle are what its tasks exchange. -/
theorem filter_isQuery_cycleExchanges :
    (cycleExchanges db order tick s).filter Exchange.isQuery =
      (cycleRuns db order tick s).flatMap TaskRun.exchanges := by
  have hcontact : (contact db s).filter Exchange.isQuery = [] := by
    refine List.filter_eq_nil_iff.mpr fun exchange hexchange => ?_
    rw [(contact_pinged db s).isQuery_eq_false exchange hexchange]
    exact Bool.false_ne_true
  have htasks : ((cycleRuns db order tick s).flatMap TaskRun.exchanges).filter Exchange.isQuery =
      (cycleRuns db order tick s).flatMap TaskRun.exchanges :=
    List.filter_eq_self.mpr fun exchange => isQuery_of_mem_exchanges db tick _
  rw [cycleExchanges_eq, List.filter_append, hcontact, htasks, List.nil_append]

end Exporter

end QueryMetrics
