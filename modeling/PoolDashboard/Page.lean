import PoolDashboard.Reconcile

/-
The pool-detail page as a state machine.  A state holds the pool's port map,
the latency map, `measuredRef`, the selection, and every latency probe started
so far with its fetch's outcome once it settles.  Each event is a poll that
refreshes the port map, a probe's fetch settling, a click on "Retest latency",
a `retryGroup` call, or a click on a server or a port; after each one the page
re-renders and its effects run until they change nothing.
-/

namespace PoolDashboard

/-- Who started a probe: the auto-probe effect, or a retest. -/
inductive ProbeCause where
  | auto
  | retest
deriving Repr, DecidableEq

/-- One `testLatency` call.  `overlapped` records whether another probe for the
same key was still in flight when it started; `outcome` is filled in when its
fetch settles. -/
structure Probe where
  id : Nat
  key : String
  cause : ProbeCause
  overlapped : Bool
  outcome : Option ProbeOutcome
deriving Repr, DecidableEq

instance : Nonempty Probe :=
  ⟨⟨0, "", .auto, false, none⟩⟩

/-- The latency entry a probe stands for: `testing` while its fetch is in
flight, then what `testLatency` writes for its outcome. -/
def Probe.entry (p : Probe) : LatencyState :=
  match p.outcome with
  | some outcome => probeResult outcome
  | none => testingState

structure PageState where
  portEntries : List (Nat × PortConfig)
  latencyMap : LatencyMap
  measured : Finset String
  selection : Selection
  probes : List Probe

/-- The page before its first render: no pool data, nothing measured. -/
def PageState.blank : PageState :=
  ⟨[], fun _ => none, ∅, Selection.blank, []⟩

/-- The fetch `testLatency(row)` starts, numbered by its start position. -/
def startedProbe (cause : ProbeCause) (s : PageState) (row : ConnectionRow) : Probe :=
  ⟨s.probes.length, row.id, cause, s.probes.any (fun p => p.key = row.id && p.outcome.isNone),
    none⟩

@[simp] theorem startedProbe_id (cause : ProbeCause) (s : PageState) (row : ConnectionRow) :
    (startedProbe cause s row).id = s.probes.length := rfl

@[simp] theorem startedProbe_key (cause : ProbeCause) (s : PageState) (row : ConnectionRow) :
    (startedProbe cause s row).key = row.id := rfl

@[simp] theorem startedProbe_cause (cause : ProbeCause) (s : PageState) (row : ConnectionRow) :
    (startedProbe cause s row).cause = cause := rfl

@[simp] theorem startedProbe_outcome (cause : ProbeCause) (s : PageState) (row : ConnectionRow) :
    (startedProbe cause s row).outcome = none := rfl

/-- `testLatency(row)` up to its first `await`: add the key to `measuredRef`,
mark the entry `testing`, and start the fetch. -/
def testLatency (cause : ProbeCause) (s : PageState) (row : ConnectionRow) : PageState :=
  { s with
    measured := insert row.id s.measured
    latencyMap := s.latencyMap.set row.id testingState
    probes := s.probes ++ [startedProbe cause s row] }

/-- The auto-probe effect: probe each row whose id is not in `measuredRef`. -/
def autoProbe (rows : List ConnectionRow) (s : PageState) : PageState :=
  rows.foldl (fun s row => if row.id ∈ s.measured then s else testLatency .auto s row) s

/-- The loop shared by `remeasureAll` and `retryGroup`: forget each row's key,
then probe it again. -/
def retestRows (rows : List ConnectionRow) (s : PageState) : PageState :=
  rows.foldl (fun s row => testLatency .retest { s with measured := s.measured.erase row.id } row) s

def remeasureAll (stratumHost : String) (s : PageState) : PageState :=
  retestRows (connectionRows stratumHost s.portEntries) s

def retryGroup (group : ConnectionGroup) (s : PageState) : PageState :=
  retestRows group.endpoints s

/-- The fetch of probe `id` settles: if it was in flight, record its outcome
and write the entry for its key. -/
def completeProbe (id : Nat) (outcome : ProbeOutcome) (s : PageState) : PageState :=
  match s.probes.find? (·.id = id) with
  | some p =>
      if p.outcome = none then
        { s with
          latencyMap := s.latencyMap.set p.key (probeResult outcome)
          probes := s.probes.map fun q => if q.id = id then { q with outcome := some outcome } else q }
      else s
  | none => s

def selectGroup (groupId : String) (sel : Selection) : Selection :=
  if some groupId ≠ sel.selectedGroupId then
    { sel with manualSelection := true, manualEndpoint := false, selectedEndpointId := none,
               selectedGroupId := some groupId }
  else { sel with manualSelection := true, selectedGroupId := some groupId }

def selectEndpoint (group : ConnectionGroup) (endpoint : ConnectionRow) (sel : Selection) :
    Selection :=
  let sel := { sel with manualSelection := true, manualEndpoint := true }
  let sel := if some group.id ≠ sel.selectedGroupId then
    { sel with selectedGroupId := some group.id } else sel
  { sel with selectedEndpointId := some endpoint.id }

theorem selectGroup_of_current {groupId : String} {sel : Selection}
    (h : sel.selectedGroupId = some groupId) :
    selectGroup groupId sel = { sel with manualSelection := true, selectedGroupId := some groupId } := by
  simp [selectGroup, h]

@[simp] theorem selectEndpoint_manualEndpoint (group : ConnectionGroup) (endpoint : ConnectionRow)
    (sel : Selection) : (selectEndpoint group endpoint sel).manualEndpoint = true := by
  simp only [selectEndpoint]
  split <;> rfl

@[simp] theorem selectEndpoint_selectedEndpointId (group : ConnectionGroup)
    (endpoint : ConnectionRow) (sel : Selection) :
    (selectEndpoint group endpoint sel).selectedEndpointId = some endpoint.id := rfl

inductive PageEvent where
  | refresh (entries : List (Nat × PortConfig))
  | complete (id : Nat) (outcome : ProbeOutcome)
  | remeasureAll
  | retryGroup (group : ConnectionGroup)
  | selectGroup (groupId : String)
  | selectEndpoint (group : ConnectionGroup) (endpoint : ConnectionRow)

/-- The page re-renders and its reconciliation effects run until they change
nothing, which two commits reach (`settle_fixed`). -/
def rerender (stratumHost : String) (s : PageState) : PageState :=
  { s with selection := settle (connectionRows stratumHost s.portEntries) s.latencyMap s.selection }

/-- One event and the renders it causes.  A refresh renders the new rows; the
commit of that render runs both reconciliation effects against the old
latency map and then the auto-probe effect, whose `testing` entries cause the
next renders. -/
def pageStep (stratumHost : String) (s : PageState) : PageEvent → PageState
  | .refresh entries =>
      let rows := connectionRows stratumHost entries
      rerender stratumHost (autoProbe rows
        { s with portEntries := entries,
                 selection := reconcileRound rows s.latencyMap s.selection })
  | .complete id outcome => rerender stratumHost (completeProbe id outcome s)
  | .remeasureAll => rerender stratumHost (remeasureAll stratumHost s)
  | .retryGroup group => rerender stratumHost (retryGroup group s)
  | .selectGroup groupId =>
      rerender stratumHost { s with selection := selectGroup groupId s.selection }
  | .selectEndpoint group endpoint =>
      rerender stratumHost { s with selection := selectEndpoint group endpoint s.selection }

/-- The mounted page: the first render has no pool data yet, so it shows the
placeholder row, and its effects run as for a refresh. -/
def initialPage (stratumHost : String) : PageState :=
  pageStep stratumHost PageState.blank (.refresh [])

def pageRun (stratumHost : String) (events : List PageEvent) : PageState :=
  events.foldl (pageStep stratumHost) (initialPage stratumHost)

section Frame

variable (stratumHost : String) (s : PageState)

@[simp] theorem testLatency_portEntries (cause : ProbeCause) (row : ConnectionRow) :
    (testLatency cause s row).portEntries = s.portEntries := rfl

@[simp] theorem testLatency_selection (cause : ProbeCause) (row : ConnectionRow) :
    (testLatency cause s row).selection = s.selection := rfl

theorem autoProbe_frame (rows : List ConnectionRow) :
    (autoProbe rows s).portEntries = s.portEntries ∧ (autoProbe rows s).selection = s.selection := by
  induction rows generalizing s with
  | nil => exact ⟨rfl, rfl⟩
  | cons row rows ih =>
      simp only [autoProbe, List.foldl_cons] at ih ⊢
      split
      · exact ih s
      · exact ih _

theorem retestRows_frame (rows : List ConnectionRow) :
    (retestRows rows s).portEntries = s.portEntries ∧
      (retestRows rows s).selection = s.selection := by
  induction rows generalizing s with
  | nil => exact ⟨rfl, rfl⟩
  | cons row rows ih => exact ih _

theorem completeProbe_frame (id : Nat) (outcome : ProbeOutcome) :
    (completeProbe id outcome s).portEntries = s.portEntries ∧
      (completeProbe id outcome s).selection = s.selection ∧
      (completeProbe id outcome s).measured = s.measured := by
  unfold completeProbe
  split
  · split_ifs <;> exact ⟨rfl, rfl, rfl⟩
  · exact ⟨rfl, rfl, rfl⟩

@[simp] theorem rerender_portEntries : (rerender stratumHost s).portEntries = s.portEntries := rfl

@[simp] theorem rerender_latencyMap : (rerender stratumHost s).latencyMap = s.latencyMap := rfl

@[simp] theorem rerender_measured : (rerender stratumHost s).measured = s.measured := rfl

@[simp] theorem rerender_probes : (rerender stratumHost s).probes = s.probes := rfl

end Frame

/-- Every event ends with the effects settled. -/
theorem pageStep_eq_rerender (stratumHost : String) (s : PageState) (event : PageEvent) :
    ∃ t, pageStep stratumHost s event = rerender stratumHost t := by
  cases event <;> exact ⟨_, rfl⟩

/-- A property of every settled page holds of every reachable page. -/
theorem pageRun_of_rerender {stratumHost : String} {P : PageState → Prop}
    (hP : ∀ t, P (rerender stratumHost t)) (events : List PageEvent) :
    P (pageRun stratumHost events) := by
  suffices ∀ start, (∃ t, start = rerender stratumHost t) →
      ∃ t, events.foldl (pageStep stratumHost) start = rerender stratumHost t by
    obtain ⟨t, ht⟩ := this (initialPage stratumHost)
      (pageStep_eq_rerender stratumHost PageState.blank (.refresh []))
    rw [pageRun, ht]
    exact hP t
  induction events with
  | nil => exact fun start h => h
  | cons event events ih => exact fun start _ => ih _ (pageStep_eq_rerender _ _ _)

/-- At every reachable state the stored selection names a group and an
endpoint of the current port map, and they are the group and endpoint the page
renders as selected. -/
theorem page_selection_coherent (stratumHost : String) (events : List PageEvent) :
    let s := pageRun stratumHost events
    SelectionCoherent (connectionRows stratumHost s.portEntries) s.latencyMap s.selection := by
  refine pageRun_of_rerender (P := fun s =>
    SelectionCoherent (connectionRows stratumHost s.portEntries) s.latencyMap s.selection)
    (fun t => ?_) events
  exact coherent_of_reconcileRound_eq (connectionRows_ne_nil _ _) (settle_fixed _)

/-- Every reachable page satisfies an invariant of the blank page that each
event preserves. -/
theorem pageRun_induction {stratumHost : String} {P : PageState → Prop}
    (hinit : P (initialPage stratumHost))
    (hstep : ∀ s event, P s → P (pageStep stratumHost s event)) (events : List PageEvent) :
    P (pageRun stratumHost events) := by
  suffices ∀ start, P start → P (events.foldl (pageStep stratumHost) start) from this _ hinit
  induction events with
  | nil => exact fun _ h => h
  | cons event events ih => exact fun start h => ih _ (hstep _ _ h)

theorem completeProbe_cases (id : Nat) (outcome : ProbeOutcome) (s : PageState) :
    completeProbe id outcome s = s ∨
      ∃ p ∈ s.probes, p.id = id ∧ p.outcome = none ∧
        completeProbe id outcome s =
          { s with
            latencyMap := s.latencyMap.set p.key (probeResult outcome)
            probes := s.probes.map fun q =>
              if q.id = id then { q with outcome := some outcome } else q } := by
  unfold completeProbe
  split
  · next p hfind =>
      split_ifs with hpending
      · exact .inr ⟨p, List.mem_of_find?_eq_some hfind, by simpa using List.find?_some hfind,
          hpending, rfl⟩
      · exact .inl rfl
  · exact .inl rfl

/-! ### The auto-probe effect probes each key at most once -/

/-- The keys of the probes the auto-probe effect started, in order. -/
def autoKeys (probes : List Probe) : List String :=
  (probes.filter (·.cause = .auto)).map (·.key)

theorem autoKeys_append_singleton (probes : List Probe) (p : Probe) :
    autoKeys (probes ++ [p]) = autoKeys probes ++ if p.cause = .auto then [p.key] else [] := by
  by_cases hp : p.cause = .auto <;> simp [autoKeys, hp]

theorem autoKeys_map {f : Probe → Probe} (hf : ∀ q, (f q).key = q.key ∧ (f q).cause = q.cause)
    (probes : List Probe) : autoKeys (probes.map f) = autoKeys probes := by
  induction probes with
  | nil => rfl
  | cons q probes ih =>
      by_cases hq : q.cause = .auto <;> simp_all [autoKeys]

/-- `measuredRef` holds exactly the keys probed so far, and the auto-probe
effect has started at most one probe per key. -/
structure ProbeLedger (s : PageState) : Prop where
  auto_nodup : (autoKeys s.probes).Nodup
  probed_measured : ∀ p ∈ s.probes, p.key ∈ s.measured
  measured_probed : ∀ k ∈ s.measured, ∃ p ∈ s.probes, p.key = k

theorem ProbeLedger.blank : ProbeLedger PageState.blank :=
  ⟨List.nodup_nil, by simp [PageState.blank], by simp [PageState.blank]⟩

theorem ProbeLedger.testLatency_auto {s : PageState} (h : ProbeLedger s) {row : ConnectionRow}
    (hfresh : row.id ∉ s.measured) : ProbeLedger (testLatency .auto s row) := by
  refine ⟨?_, ?_, ?_⟩
  · simp only [testLatency, autoKeys_append_singleton, startedProbe_cause, startedProbe_key,
      ↓reduceIte]
    refine List.nodup_append.mpr ⟨h.auto_nodup, List.nodup_singleton _, fun k hk hrow => ?_⟩
    obtain ⟨p, hp, hkey⟩ := List.mem_map.mp hk
    rw [List.mem_singleton.mp hrow] at hkey
    exact hfresh (hkey ▸ h.probed_measured p (List.mem_of_mem_filter hp))
  · intro p hp
    rcases List.mem_append.mp hp with hp | hp
    · exact Finset.mem_insert_of_mem (h.probed_measured p hp)
    · rw [List.mem_singleton.mp hp, startedProbe_key]
      exact Finset.mem_insert_self _ _
  · intro k hk
    rcases Finset.mem_insert.mp hk with rfl | hk
    · exact ⟨_, List.mem_append_right _ (List.mem_singleton_self _), rfl⟩
    · obtain ⟨p, hp, hkey⟩ := h.measured_probed k hk
      exact ⟨p, List.mem_append_left _ hp, hkey⟩

theorem ProbeLedger.retest {s : PageState} (h : ProbeLedger s) (row : ConnectionRow) :
    ProbeLedger (testLatency .retest { s with measured := s.measured.erase row.id } row) := by
  refine ⟨?_, ?_, ?_⟩
  · simp only [testLatency, autoKeys_append_singleton, startedProbe_cause, reduceCtorEq, ↓reduceIte,
      List.append_nil]
    exact h.auto_nodup
  · intro p hp
    show p.key ∈ insert row.id (s.measured.erase row.id)
    rcases List.mem_append.mp hp with hp | hp
    · by_cases hkey : p.key = row.id
      · rw [hkey]
        exact Finset.mem_insert_self _ _
      · exact Finset.mem_insert_of_mem (Finset.mem_erase.mpr ⟨hkey, h.probed_measured p hp⟩)
    · rw [List.mem_singleton.mp hp, startedProbe_key]
      exact Finset.mem_insert_self _ _
  · intro k hk
    simp only [testLatency, Finset.mem_insert, Finset.mem_erase] at hk
    rcases hk with rfl | ⟨-, hk⟩
    · exact ⟨_, List.mem_append_right _ (List.mem_singleton_self _), rfl⟩
    · obtain ⟨p, hp, hkey⟩ := h.measured_probed k hk
      exact ⟨p, List.mem_append_left _ hp, hkey⟩

theorem ProbeLedger.autoProbe {s : PageState} (h : ProbeLedger s) (rows : List ConnectionRow) :
    ProbeLedger (autoProbe rows s) := by
  induction rows generalizing s with
  | nil => exact h
  | cons row rows ih =>
      simp only [PoolDashboard.autoProbe, List.foldl_cons]
      split
      · exact ih h
      · exact ih (h.testLatency_auto ‹_›)

theorem ProbeLedger.retestRows {s : PageState} (h : ProbeLedger s) (rows : List ConnectionRow) :
    ProbeLedger (retestRows rows s) := by
  induction rows generalizing s with
  | nil => exact h
  | cons row rows ih => exact ih (h.retest row)

theorem ProbeLedger.completeProbe {s : PageState} (h : ProbeLedger s) (id : Nat)
    (outcome : ProbeOutcome) : ProbeLedger (completeProbe id outcome s) := by
  rcases completeProbe_cases id outcome s with heq | ⟨p, -, -, -, heq⟩
  · rwa [heq]
  · rw [heq]
    have hf : ∀ q : Probe, (if q.id = id then { q with outcome := some outcome } else q).key = q.key ∧
        (if q.id = id then { q with outcome := some outcome } else q).cause = q.cause := by
      intro q; split <;> simp
    refine ⟨by simpa [autoKeys_map hf] using h.auto_nodup, ?_, ?_⟩
    · intro q hq
      obtain ⟨q', hq', rfl⟩ := List.mem_map.mp hq
      simpa [(hf q').1] using h.probed_measured q' hq'
    · intro k hk
      obtain ⟨q, hq, hkey⟩ := h.measured_probed k hk
      exact ⟨_, List.mem_map_of_mem _ hq, (hf q).1.trans hkey⟩

theorem autoProbe_measured {s : PageState} {rows : List ConnectionRow} {k : String} :
    k ∈ (autoProbe rows s).measured ↔ k ∈ s.measured ∨ k ∈ rows.map (·.id) := by
  induction rows generalizing s with
  | nil => simp [PoolDashboard.autoProbe]
  | cons row rows ih =>
      simp only [PoolDashboard.autoProbe, List.foldl_cons, List.map_cons, List.mem_cons] at ih ⊢
      split
      · next hmem =>
          rw [ih]
          by_cases hk : k = row.id
          · subst hk
            simp [hmem]
          · simp [hk]
      · rw [ih]
        simp only [testLatency, Finset.mem_insert]
        rw [or_assoc, or_left_comm]

theorem retestRows_measured {s : PageState} {rows : List ConnectionRow} {k : String}
    (hk : k ∈ s.measured) : k ∈ (retestRows rows s).measured := by
  induction rows generalizing s with
  | nil => exact hk
  | cons row rows ih =>
      apply ih
      by_cases hrow : k = row.id <;> simp [testLatency, hrow, hk]

theorem ProbeLedger.rerender {s : PageState} (h : ProbeLedger s) (stratumHost : String) :
    ProbeLedger (rerender stratumHost s) :=
  ⟨h.auto_nodup, h.probed_measured, h.measured_probed⟩

/-- The invariant of whole runs: the ledger, and every current row probed. -/
def ProbesCover (stratumHost : String) (s : PageState) : Prop :=
  ProbeLedger s ∧ ∀ row ∈ connectionRows stratumHost s.portEntries, row.id ∈ s.measured

/-- A refresh probes every new row, whatever was measured before. -/
theorem ProbesCover.refresh {s : PageState} (h : ProbeLedger s) (stratumHost : String)
    (entries : List (Nat × PortConfig)) :
    ProbesCover stratumHost (pageStep stratumHost s (.refresh entries)) := by
  simp only [pageStep]
  refine ⟨(ProbeLedger.autoProbe (s := { s with portEntries := entries, selection := _ })
    ⟨h.auto_nodup, h.probed_measured, h.measured_probed⟩ _).rerender stratumHost,
    fun row hrow => ?_⟩
  simp only [rerender_measured, rerender_portEntries, (autoProbe_frame _ _).1] at hrow ⊢
  exact autoProbe_measured.mpr (.inr (List.mem_map_of_mem _ hrow))

theorem ProbesCover.pageStep {stratumHost : String} {s : PageState}
    (h : ProbesCover stratumHost s) (event : PageEvent) :
    ProbesCover stratumHost (pageStep stratumHost s event) := by
  obtain ⟨hledger, hrows⟩ := h
  cases event with
  | refresh entries => exact ProbesCover.refresh hledger stratumHost entries
  | complete id outcome =>
      refine ⟨(hledger.completeProbe id outcome).rerender stratumHost, ?_⟩
      simpa [PoolDashboard.pageStep, (completeProbe_frame s id outcome).1,
        (completeProbe_frame s id outcome).2.2] using hrows
  | remeasureAll =>
      refine ⟨(hledger.retestRows _).rerender stratumHost, fun row hrow => ?_⟩
      simp only [PoolDashboard.pageStep, rerender_measured, rerender_portEntries,
        PoolDashboard.remeasureAll, (retestRows_frame _ _).1] at hrow ⊢
      exact retestRows_measured (hrows row hrow)
  | retryGroup group =>
      refine ⟨(hledger.retestRows _).rerender stratumHost, fun row hrow => ?_⟩
      simp only [PoolDashboard.pageStep, rerender_measured, rerender_portEntries,
        PoolDashboard.retryGroup, (retestRows_frame _ _).1] at hrow ⊢
      exact retestRows_measured (hrows row hrow)
  | selectGroup groupId =>
      exact ⟨⟨hledger.auto_nodup, hledger.probed_measured, hledger.measured_probed⟩, hrows⟩
  | selectEndpoint group endpoint =>
      exact ⟨⟨hledger.auto_nodup, hledger.probed_measured, hledger.measured_probed⟩, hrows⟩

/-- Over every run, the auto-probe effect starts at most one probe per key,
and every row the page shows has had a probe started for it. -/
theorem autoProbe_once_per_key (stratumHost : String) (events : List PageEvent) :
    let s := pageRun stratumHost events
    (autoKeys s.probes).Nodup ∧
      ∀ row ∈ connectionRows stratumHost s.portEntries, ∃ p ∈ s.probes, p.key = row.id := by
  have hcover : ProbesCover stratumHost (pageRun stratumHost events) :=
    pageRun_induction (ProbesCover.refresh ProbeLedger.blank stratumHost [])
      (fun _ event h => h.pageStep event) events
  exact ⟨hcover.1.auto_nodup, fun row hrow => hcover.1.measured_probed _ (hcover.2 row hrow)⟩

/-! ### Latency entries of overlapping probes -/

/-- The most recently started probe for a key. -/
def lastProbe (probes : List Probe) (key : String) : Option Probe :=
  (probes.filter (·.key = key)).getLast?

/-- For each key whose latest probe started while no other probe for the key
was in flight, every earlier probe for the key has settled and the entry is the
latest probe's. -/
def LatestReflected (s : PageState) : Prop :=
  ∀ key p, lastProbe s.probes key = some p → p.overlapped = false →
    (∀ q ∈ (s.probes.filter (·.key = key)).dropLast, q.outcome ≠ none) ∧
      s.latencyMap key = some p.entry

/-- Probe ids are their start positions. -/
def ProbeIds (s : PageState) : Prop :=
  s.probes.map (·.id) = List.range s.probes.length

theorem ProbeIds.testLatency {s : PageState} (h : ProbeIds s) (cause : ProbeCause)
    (row : ConnectionRow) : ProbeIds (testLatency cause s row) := by
  unfold ProbeIds at h ⊢
  simp [PoolDashboard.testLatency, startedProbe, List.range_succ, h]

theorem LatestReflected.testLatency {s : PageState} (h : LatestReflected s) (cause : ProbeCause)
    (row : ConnectionRow) : LatestReflected (PoolDashboard.testLatency cause s row) := by
  intro key p hlast hsolo
  by_cases hkey : row.id = key
  · subst hkey
    have hfilter : (PoolDashboard.testLatency cause s row).probes.filter (·.key = row.id) =
        s.probes.filter (·.key = row.id) ++ [startedProbe cause s row] := by
      simp [PoolDashboard.testLatency, startedProbe]
    simp only [lastProbe, hfilter, List.getLast?_concat, Option.some.injEq] at hlast
    subst hlast
    refine ⟨?_, by simp [PoolDashboard.testLatency, startedProbe, Probe.entry]⟩
    rw [hfilter, List.dropLast_concat]
    intro q hq hnone
    simp only [startedProbe, List.any_eq_false, Bool.and_eq_true, decide_eq_true_eq,
      Option.isNone_iff_eq_none, not_and] at hsolo
    exact hsolo q (List.mem_of_mem_filter hq) (by simpa using List.of_mem_filter hq) hnone
  · have hfilter : (PoolDashboard.testLatency cause s row).probes.filter (·.key = key) =
        s.probes.filter (·.key = key) := by
      simp [PoolDashboard.testLatency, startedProbe, hkey]
    simp only [lastProbe, hfilter] at hlast ⊢
    obtain ⟨hsettled, hentry⟩ := h key p hlast hsolo
    exact ⟨hsettled, by simpa [PoolDashboard.testLatency, Ne.symm hkey] using hentry⟩

theorem ProbeIds.retest {s : PageState} (h : ProbeIds s) (row : ConnectionRow) :
    ProbeIds (PoolDashboard.testLatency .retest { s with measured := s.measured.erase row.id } row) :=
  ProbeIds.testLatency (s := { s with measured := s.measured.erase row.id }) h .retest row

theorem LatestReflected.retest {s : PageState} (h : LatestReflected s) (row : ConnectionRow) :
    LatestReflected
      (PoolDashboard.testLatency .retest { s with measured := s.measured.erase row.id } row) :=
  LatestReflected.testLatency (s := { s with measured := s.measured.erase row.id }) h .retest row

theorem mem_dropLast_or_eq_of_getLast? {l : List Probe} {a b : Probe} (ha : a ∈ l)
    (hlast : l.getLast? = some b) : a ∈ l.dropLast ∨ a = b := by
  rw [← List.dropLast_append_getLast? b hlast, List.mem_append, List.mem_singleton] at ha
  exact ha

theorem mem_of_getLast? {l : List Probe} {b : Probe} (hlast : l.getLast? = some b) : b ∈ l := by
  rw [← List.dropLast_append_getLast? b hlast]
  exact List.mem_append_right _ (List.mem_singleton_self b)

/-- Settling probe `id` changes only that probe's outcome. -/
def settleProbe (id : Nat) (outcome : ProbeOutcome) (q : Probe) : Probe :=
  if q.id = id then { q with outcome := some outcome } else q

@[simp] theorem settleProbe_id (id : Nat) (outcome : ProbeOutcome) (q : Probe) :
    (settleProbe id outcome q).id = q.id := by
  unfold settleProbe; split <;> rfl

@[simp] theorem settleProbe_key (id : Nat) (outcome : ProbeOutcome) (q : Probe) :
    (settleProbe id outcome q).key = q.key := by
  unfold settleProbe; split <;> rfl

@[simp] theorem settleProbe_overlapped (id : Nat) (outcome : ProbeOutcome) (q : Probe) :
    (settleProbe id outcome q).overlapped = q.overlapped := by
  unfold settleProbe; split <;> rfl

theorem ProbeIds.completeProbe {s : PageState} (h : ProbeIds s) (id : Nat)
    (outcome : ProbeOutcome) : ProbeIds (completeProbe id outcome s) := by
  rcases completeProbe_cases id outcome s with heq | ⟨p, -, -, -, heq⟩
  · rwa [heq]
  · rw [heq]
    change (s.probes.map (settleProbe id outcome)).map (·.id) = List.range (s.probes.map _).length
    simpa [List.map_map, Function.comp_def] using h

theorem LatestReflected.completeProbe {s : PageState} (hids : ProbeIds s)
    (h : LatestReflected s) (id : Nat) (outcome : ProbeOutcome) :
    LatestReflected (completeProbe id outcome s) := by
  rcases completeProbe_cases id outcome s with heq | ⟨p, hp, hid, hpending, heq⟩
  · rwa [heq]
  · rw [heq]
    change LatestReflected { s with
      latencyMap := s.latencyMap.set p.key (probeResult outcome)
      probes := s.probes.map (settleProbe id outcome) }
    have hinj : ∀ q ∈ s.probes, q.id = id → q = p := fun q hq hqid =>
      List.inj_on_of_nodup_map (by rw [hids]; exact List.nodup_range _) hq hp (hqid.trans hid.symm)
    intro key p' hlast hsolo
    have hfilter : (s.probes.map (settleProbe id outcome)).filter (·.key = key) =
        (s.probes.filter (·.key = key)).map (settleProbe id outcome) := by
      simp [List.filter_map, Function.comp_def]
    simp only [lastProbe, hfilter, List.getLast?_map] at hlast
    obtain ⟨p0, hlast0, rfl⟩ := Option.map_eq_some'.mp hlast
    obtain ⟨hsettled, hentry⟩ := h key p0 hlast0 (by simpa using hsolo)
    refine ⟨?_, ?_⟩
    · rw [hfilter, ← List.map_dropLast]
      intro q hq
      obtain ⟨q0, hq0, rfl⟩ := List.mem_map.mp hq
      unfold settleProbe
      split <;> simp [hsettled q0 hq0]
    · have hp0 : p0 ∈ s.probes := List.mem_of_mem_filter (mem_of_getLast? hlast0)
      have hkey0 : p0.key = key := by simpa using List.of_mem_filter (mem_of_getLast? hlast0)
      by_cases hk : key = p.key
      · have hmem : p ∈ s.probes.filter (·.key = key) := List.mem_filter.mpr ⟨hp, by simp [hk]⟩
        rcases mem_dropLast_or_eq_of_getLast? hmem hlast0 with hdrop | rfl
        · exact absurd hpending (hsettled p hdrop)
        · simp [hk, settleProbe, hid, Probe.entry]
      · have hne : p0.id ≠ id := fun h0 => hk (hkey0 ▸ (hinj p0 hp0 h0) ▸ rfl)
        simpa [hk, settleProbe, hne] using hentry

/-- The two invariants behind the latency entries. -/
def EntryHistory (s : PageState) : Prop :=
  ProbeIds s ∧ LatestReflected s

theorem EntryHistory.testLatency {s : PageState} (h : EntryHistory s) (cause : ProbeCause)
    (row : ConnectionRow) : EntryHistory (PoolDashboard.testLatency cause s row) :=
  ⟨h.1.testLatency cause row, h.2.testLatency cause row⟩

theorem EntryHistory.autoProbe {s : PageState} (h : EntryHistory s) (rows : List ConnectionRow) :
    EntryHistory (autoProbe rows s) := by
  induction rows generalizing s with
  | nil => exact h
  | cons row rows ih =>
      simp only [PoolDashboard.autoProbe, List.foldl_cons]
      split
      · exact ih h
      · exact ih (h.testLatency .auto row)

theorem EntryHistory.retestRows {s : PageState} (h : EntryHistory s) (rows : List ConnectionRow) :
    EntryHistory (retestRows rows s) := by
  induction rows generalizing s with
  | nil => exact h
  | cons row rows ih =>
      exact ih (EntryHistory.testLatency (s := { s with measured := s.measured.erase row.id })
        h .retest row)

theorem EntryHistory.pageStep {stratumHost : String} {s : PageState} (h : EntryHistory s)
    (event : PageEvent) : EntryHistory (pageStep stratumHost s event) := by
  cases event with
  | refresh entries =>
      exact EntryHistory.autoProbe (s := { s with portEntries := entries, selection := _ }) h _
  | complete id outcome => exact ⟨h.1.completeProbe id outcome, h.2.completeProbe h.1 id outcome⟩
  | remeasureAll => exact h.retestRows _
  | retryGroup group => exact h.retestRows _
  | selectGroup groupId => exact h
  | selectEndpoint group endpoint => exact h

/-- The completion of a pending probe writes its outcome under its key. -/
theorem completeProbe_latencyMap_of_pending {s : PageState} (hids : ProbeIds s) {p : Probe}
    (hp : p ∈ s.probes) (hpending : p.outcome = none) (outcome : ProbeOutcome) :
    (completeProbe p.id outcome s).latencyMap = s.latencyMap.set p.key (probeResult outcome) := by
  unfold completeProbe
  split
  · next q hfind =>
      have hqid : q.id = p.id := by simpa using List.find?_some hfind
      have hqp : q = p := List.inj_on_of_nodup_map (by rw [hids]; exact List.nodup_range _)
        (List.mem_of_find?_eq_some hfind) hp hqid
      subst hqp
      rw [if_pos hpending]
  · next hnone => exact absurd (List.find?_eq_none.mp hnone p hp) (by simp)

/-- At every reachable state, a key whose latest probe started with no other
probe for it in flight shows that probe: `testing` while it is pending, and the
outcome its completion event brings once it has settled. -/
theorem latest_solo_probe_reflected (stratumHost : String) (events : List PageEvent)
    (key : String) (p : Probe) (hlast : lastProbe (pageRun stratumHost events).probes key = some p)
    (hsolo : p.overlapped = false) :
    (pageRun stratumHost events).latencyMap key = some p.entry ∧
      (p.outcome = none → ∀ outcome,
        (pageRun stratumHost (events ++ [.complete p.id outcome])).latencyMap key =
          some (probeResult outcome)) := by
  have hblank : EntryHistory PageState.blank :=
    ⟨rfl, fun _ _ h => by simp [lastProbe, PageState.blank] at h⟩
  have hhistory : EntryHistory (pageRun stratumHost events) :=
    pageRun_induction (hblank.pageStep _) (fun _ event h => h.pageStep event) events
  refine ⟨(hhistory.2 key p hlast hsolo).2, fun hpending outcome => ?_⟩
  have hmem := mem_of_getLast? hlast
  have hkey : p.key = key := by simpa using List.of_mem_filter hmem
  rw [pageRun, List.foldl_append, List.foldl_cons, List.foldl_nil]
  change (completeProbe p.id outcome (pageRun stratumHost events)).latencyMap key = _
  rw [completeProbe_latencyMap_of_pending hhistory.1 (List.mem_of_mem_filter hmem) hpending, ← hkey,
    LatencyMap.set_self]

theorem latest_solo_probe_reflected_on_mount :
    (pageRun "pool.local" []).latencyMap "default" = some testingState ∧
      (pageRun "pool.local" [.complete 0 (.response true (.value 40) none)]).latencyMap "default" =
        some (probeResult (.response true (.value 40) none)) :=
  let hmount := latest_solo_probe_reflected "pool.local" [] "default"
    ⟨0, "default", .auto, false, none⟩ (by decide) rfl
  ⟨hmount.1, hmount.2 rfl _⟩

/-- A retest while the mount probe is in flight: the retest's probe settles
first with 40 ms, then the older probe's failed fetch overwrites it. -/
theorem stale_probe_overwrites_latest :
    let s := pageRun "pool.local"
      [.remeasureAll, .complete 1 (.response true (.value 40) none), .complete 0 .networkError]
    lastProbe s.probes "default" =
        some ⟨1, "default", .retest, true, some (.response true (.value 40) none)⟩ ∧
      s.latencyMap "default" = some ⟨none, .error, some "network-error"⟩ := by
  decide

/-! ### The automatic port tier -/

/-- The page says the mid-range tier is chosen automatically (page.tsx 1515),
and `tierLabelFor` labels a port named `Mid` "Mid-range hardware", the port
that `pickEndpointForGroup`'s own name test takes.  Yet with the ports 3333,
3355 named `Mid` and 3377, the default endpoint is port 3333, and once the pool
has loaded the page selects it. -/
theorem defaultEndpointRow_ignores_bare_mid :
    let entries : List (Nat × PortConfig) :=
      [(3333, ⟨none, none, none⟩), (3355, ⟨some "Mid", none, none⟩), (3377, ⟨none, none, none⟩)]
    let rows := connectionRows "pool.local" entries
    tierLabelFor (some "Mid") = some "Mid-range hardware" ∧
      (rows.find? isMidProfile).map (·.port) = some 3355 ∧
      (defaultEndpointRow rows).map (·.port) = some 3333 ∧
      (pageRun "pool.local" [.refresh entries]).selection.selectedEndpointId =
        (rows.find? (·.port = 3333)).map (·.id) := by
  decide

end PoolDashboard
