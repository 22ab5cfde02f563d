import PoolDashboard.Basic
import PoolDashboard.Locations

/-
`StratumLatencyPanel`: the latency map of the locations it shows, the reconcile
effect that runs whenever `derivedLocations` changes, and the probes its
"Test latency" buttons start.  A location change starts a new epoch; each probe
records the epoch it was started in and the one it settled in.  The epochs and
the probe list are ghost state: the component keeps neither, and no step reads
them.
-/

namespace PoolDashboard

/-- `DEFAULT_LATENCY`. -/
def defaultLatency : LatencyState :=
  ⟨none, .idle, none⟩

/-- The `useState` initialiser: every location id mapped to `DEFAULT_LATENCY`. -/
def initialLatencyMap (ids : List String) : LatencyMap :=
  fun k => if k ∈ ids then some defaultLatency else none

/-- One `forEach` step of the reconcile effect: `if (!next[location.id])
next[location.id] = DEFAULT_LATENCY`.  Entries are objects, so only a missing
entry is falsy. -/
def fillDefault (next : LatencyMap) (id : String) : LatencyMap :=
  if next id = none then next.set id defaultLatency else next

/-- The reconcile effect: fill every location without an entry, then delete
every key that no location has as its id. -/
def reconcileLatency (ids : List String) (prev : LatencyMap) : LatencyMap :=
  let next := ids.foldl fillDefault prev
  fun k => if k ∈ ids then next k else none

/-- A `testLatency` call, with the epochs it started and settled in. -/
structure PanelProbe where
  key : String
  startedIn : Nat
  settledIn : Option Nat
deriving Repr, DecidableEq

instance : Nonempty PanelProbe :=
  ⟨⟨"", 0, none⟩⟩

structure PanelState where
  locationIds : List String
  latencyMap : LatencyMap
  epoch : Nat
  probes : List PanelProbe

inductive PanelEvent where
  | locationsChanged (ids : List String)
  | testLatency (id : String)
  | complete (probe : Nat) (outcome : ProbeOutcome)

/-- The entry a location card renders: `latencyMap[location.id] ?? DEFAULT_LATENCY`. -/
def PanelState.entry (s : PanelState) (id : String) : LatencyState :=
  (s.latencyMap id).getD defaultLatency

/-- A location change re-renders and runs the reconcile effect.  A "Test
latency" click exists for each shown location and is disabled while the entry
is `testing`; an enabled one writes `testing` and starts a fetch.  A fetch that
settles writes its key, whatever the locations are by then. -/
def panelStep (s : PanelState) : PanelEvent → PanelState
  | .locationsChanged ids =>
      { s with locationIds := ids, latencyMap := reconcileLatency ids s.latencyMap,
               epoch := s.epoch + 1 }
  | .testLatency id =>
      if id ∈ s.locationIds ∧ (s.entry id).status ≠ .testing then
        { s with latencyMap := s.latencyMap.set id testingState
                 probes := s.probes ++ [⟨id, s.epoch, none⟩] }
      else s
  | .complete n outcome =>
      match s.probes[n]? with
      | some p =>
          if p.settledIn = none then
            { s with latencyMap := s.latencyMap.set p.key (probeResult outcome)
                     probes := s.probes.set n { p with settledIn := some s.epoch } }
          else s
      | none => s

/-- The mounted panel; its mount-time reconcile finds nothing to change
(`reconcileLatency_apply`). -/
def initialPanel (ids : List String) : PanelState :=
  ⟨ids, initialLatencyMap ids, 0, []⟩

def panelRun (ids : List String) (events : List PanelEvent) : PanelState :=
  events.foldl panelStep (initialPanel ids)

theorem fillDefault_apply (next : LatencyMap) (id k : String) :
    fillDefault next id k = if k = id then some ((next k).getD defaultLatency) else next k := by
  unfold fillDefault
  by_cases hk : k = id
  · subst hk
    cases hnext : next k <;> simp [hnext]
  · split <;> simp [hk]

theorem foldl_fillDefault_apply (ids : List String) (prev : LatencyMap) (k : String) :
    ids.foldl fillDefault prev k = if k ∈ ids then some ((prev k).getD defaultLatency) else prev k := by
  induction ids generalizing prev with
  | nil => simp
  | cons id ids ih =>
      rw [List.foldl_cons, ih, fillDefault_apply]
      by_cases hk : k = id <;> by_cases hmem : k ∈ ids <;> simp [hk, hmem]

/-- After the effect the keys are exactly the location ids; an id with an entry
keeps it, and any other id gets `DEFAULT_LATENCY`. -/
theorem reconcileLatency_apply (ids : List String) (prev : LatencyMap) (k : String) :
    reconcileLatency ids prev k = if k ∈ ids then some ((prev k).getD defaultLatency) else none := by
  simp only [reconcileLatency, foldl_fillDefault_apply]
  split <;> simp_all

theorem mem_set_of_ne {l : List PanelProbe} {n : Nat} {p q r : PanelProbe} (hq : q ∈ l)
    (hn : l[n]? = some p) (hne : q ≠ p) : q ∈ l.set n r := by
  obtain ⟨j, hj⟩ := List.mem_iff_getElem?.mp hq
  have hjn : n ≠ j := by
    rintro rfl
    exact hne (Option.some.inj (hj.symm.trans hn))
  exact List.mem_iff_getElem?.mpr ⟨j, by rw [List.getElem?_set_ne hjn]; exact hj⟩

/-- What every reachable panel satisfies.  The keys are the location ids and
the keys of probes settled in the current epoch; a probe started in the current
epoch was started for a current location. -/
structure PanelLedger (s : PanelState) : Prop where
  keys : ∀ k, (s.latencyMap k).isSome ↔
    k ∈ s.locationIds ∨ ∃ p ∈ s.probes, p.key = k ∧ p.settledIn = some s.epoch
  started_le : ∀ p ∈ s.probes, p.startedIn ≤ s.epoch
  started_now : ∀ p ∈ s.probes, p.startedIn = s.epoch → p.key ∈ s.locationIds
  settled_le : ∀ p ∈ s.probes, ∀ e, p.settledIn = some e → e ≤ s.epoch

theorem PanelLedger.initial (ids : List String) : PanelLedger (initialPanel ids) where
  keys k := by by_cases hk : k ∈ ids <;> simp [initialPanel, initialLatencyMap, hk]
  started_le := by simp [initialPanel]
  started_now := by simp [initialPanel]
  settled_le := by simp [initialPanel]

theorem PanelLedger.locationsChanged {s : PanelState} (h : PanelLedger s) (ids : List String) :
    PanelLedger (panelStep s (.locationsChanged ids)) where
  keys k := by
    have hnone : ¬∃ p ∈ s.probes, p.key = k ∧ p.settledIn = some (s.epoch + 1) :=
      fun ⟨p, hp, _, hset⟩ => absurd (h.settled_le p hp _ hset) (by omega)
    simp only [panelStep, reconcileLatency_apply, hnone, or_false]
    by_cases hk : k ∈ ids <;> simp [hk]
  started_le p hp := Nat.le_succ_of_le (h.started_le p hp)
  started_now p hp hnow := by
    simp only [panelStep] at hnow
    have := h.started_le p hp
    omega
  settled_le p hp e he := Nat.le_succ_of_le (h.settled_le p hp e he)

theorem PanelLedger.testLatency {s : PanelState} (h : PanelLedger s) (id : String) :
    PanelLedger (panelStep s (.testLatency id)) := by
  simp only [panelStep]
  split_ifs with henabled
  · refine ⟨fun k => ?_, ?_, ?_, ?_⟩
    · by_cases hk : k = id
      · subst hk
        simp [henabled.1]
      · simpa [hk, LatencyMap.set_of_ne _ _ hk, or_and_right, exists_or] using h.keys k
    all_goals
      intro p hp
      rcases List.mem_append.mp hp with hp | hp
    · exact h.started_le p hp
    · rw [List.mem_singleton.mp hp]
    · exact h.started_now p hp
    · exact fun _ => by rw [List.mem_singleton.mp hp]; exact henabled.1
    · exact h.settled_le p hp
    · simp [List.mem_singleton.mp hp]
  · exact h

theorem PanelLedger.complete {s : PanelState} (h : PanelLedger s) (n : Nat)
    (outcome : ProbeOutcome) : PanelLedger (panelStep s (.complete n outcome)) := by
  simp only [panelStep]
  split
  · next p hp =>
      split_ifs with hpending
      · have hpmem : p ∈ s.probes := List.mem_iff_getElem?.mpr ⟨n, hp⟩
        have hnewmem : { p with settledIn := some s.epoch } ∈ s.probes.set n
            { p with settledIn := some s.epoch } :=
          List.mem_set _ _ (List.getElem?_eq_some_iff.mp hp).1 _
        refine ⟨fun k => ?_, ?_, ?_, ?_⟩
        · by_cases hk : k = p.key
          · subst hk
            simp only [LatencyMap.set_self, Option.isSome_some, true_iff]
            exact .inr ⟨_, hnewmem, rfl, rfl⟩
          · simp only [LatencyMap.set_of_ne _ _ hk]
            rw [h.keys k]
            refine or_congr_right ⟨fun ⟨q, hq, hkey, hset⟩ => ⟨q, ?_, hkey, hset⟩,
              fun ⟨q, hq, hkey, hset⟩ => ⟨q, ?_, hkey, hset⟩⟩
            · exact mem_set_of_ne hq hp (by rintro rfl; rw [hpending] at hset; cases hset)
            · rcases List.mem_or_eq_of_mem_set hq with hq | rfl
              · exact hq
              · exact absurd hkey.symm hk
        all_goals
          intro q hq
          rcases List.mem_or_eq_of_mem_set hq with hq | rfl
        · exact h.started_le q hq
        · exact h.started_le p hpmem
        · exact h.started_now q hq
        · exact h.started_now p hpmem
        · exact h.settled_le q hq
        · intro e he
          cases he
          exact le_refl _
      · exact h
  · exact h

theorem PanelLedger.panelStep {s : PanelState} (h : PanelLedger s) :
    ∀ event, PanelLedger (panelStep s event)
  | .locationsChanged ids => h.locationsChanged ids
  | .testLatency id => h.testLatency id
  | .complete n outcome => h.complete n outcome

theorem panelLedger_panelRun (ids : List String) (events : List PanelEvent) :
    PanelLedger (panelRun ids events) := by
  suffices ∀ start, PanelLedger start → PanelLedger (events.foldl PoolDashboard.panelStep start) from
    this _ (PanelLedger.initial ids)
  induction events with
  | nil => exact fun _ h => h
  | cons event events ih => exact fun start h => ih _ (h.panelStep event)

/-- The completion of a pending probe writes its outcome under its key. -/
theorem panelStep_complete_of_pending {s : PanelState} {n : Nat} {p : PanelProbe}
    (hp : s.probes[n]? = some p) (hpending : p.settledIn = none) (outcome : ProbeOutcome) :
    (panelStep s (.complete n outcome)).latencyMap = s.latencyMap.set p.key (probeResult outcome) := by
  simp only [panelStep, hp, hpending, if_true]

/-- At every reachable state the keys are the current location ids and the
keys of probes started before the last location change that settled after it.
The completion of a pending probe writes its outcome under its key, whether or
not its location is still shown; a location change keeps the entry of every id
that has one and gives every other new id `DEFAULT_LATENCY`. -/
theorem panel_keys_current_or_stale (ids : List String) (events : List PanelEvent) :
    let s := panelRun ids events
    (∀ k, (s.latencyMap k).isSome ↔
      k ∈ s.locationIds ∨
        ∃ p ∈ s.probes, p.key = k ∧ p.startedIn < s.epoch ∧ p.settledIn = some s.epoch) ∧
    (∀ n p outcome, s.probes[n]? = some p → p.settledIn = none →
      (panelStep s (.complete n outcome)).latencyMap p.key = some (probeResult outcome)) ∧
    ∀ newIds k, (panelStep s (.locationsChanged newIds)).latencyMap k =
      if k ∈ newIds then some (s.entry k) else none := by
  have h := panelLedger_panelRun ids events
  refine ⟨fun k => (h.keys k).trans ⟨?_, ?_⟩, fun n p outcome hp hpending => ?_,
    fun newIds k => reconcileLatency_apply newIds _ k⟩
  · rintro (hk | ⟨p, hp, rfl, hset⟩)
    · exact .inl hk
    · by_cases hcur : p.key ∈ (panelRun ids events).locationIds
      · exact .inl hcur
      · have hlt : p.startedIn < (panelRun ids events).epoch :=
          lt_of_le_of_ne (h.started_le p hp) fun heq => hcur (h.started_now p hp heq)
        exact .inr ⟨p, hp, rfl, hlt, hset⟩
  · rintro (hk | ⟨p, hp, rfl, -, hset⟩)
    · exact .inl hk
    · exact .inr ⟨p, hp, rfl, hset⟩
  · rw [panelStep_complete_of_pending hp hpending, LatencyMap.set_self]

/-- On the connect page the panel shows the active pool's ports.  A probe
started for port 3333 of the btc pool fails after the user switched to the ltc
pool: its entry comes back though no shown location has its id, and when the
user switches back the card shows the stale error instead of starting idle. -/
theorem stale_panel_probe_reinserts :
    let btcIds := (latencyLocations "pool.local" "btc" [3333]).map (·.id)
    let ltcIds := (latencyLocations "pool.local" "ltc" [4444]).map (·.id)
    let s := panelRun btcIds
      [.testLatency "btc-3333", .locationsChanged ltcIds, .complete 0 .networkError]
    btcIds = ["btc-3333"] ∧ s.locationIds = ["ltc-4444"] ∧
      s.latencyMap "btc-3333" = some ⟨none, .error, some "network-error"⟩ ∧
      (panelStep s (.locationsChanged btcIds)).latencyMap "btc-3333" =
        some ⟨none, .error, some "network-error"⟩ := by
  decide

end PoolDashboard
