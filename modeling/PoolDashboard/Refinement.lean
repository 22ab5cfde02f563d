import PoolDashboard.Page

/-
The tagged selection of the design notes, `Selection = Automatic | Manual(value)`,
run beside the page on the same events.  A click makes a value manual, a
refresh demotes a manual value whose referent is gone, an automatic group is
the page's automatic group and an automatic endpoint is that group's automatic
endpoint.  The model is parametrised by what identifies an endpoint.  By row id
the page's stored ids are the model's on every run whose clicks hit rendered
controls (`selection_refines_tagged`).  By host and port they are not: the
placeholder row and a configured port 3333 share a host and a port, but not an
id, and the page's endpoint effect compares ids.
-/

namespace PoolDashboard

/-- A value the user chose, or one the page computes. -/
inductive Choice (α : Type) where
  | automatic
  | manual (value : α)
deriving Repr, DecidableEq

/-- The refresh rule: a manual value whose referent is gone becomes automatic. -/
def Choice.demote {α : Type} (present : α → Bool) : Choice α → Choice α
  | .manual v => if present v then .manual v else .automatic
  | .automatic => .automatic

theorem Choice.demote_eq_manual {α : Type} {present : α → Bool} {c : Choice α} {v : α}
    (h : c.demote present = .manual v) : c = .manual v := by
  cases c with
  | automatic => cases h
  | manual w =>
      simp only [demote] at h
      split at h <;> simp_all

/-- The tagged selection; `κ` is what identifies a manual endpoint. -/
structure TaggedSelection (κ : Type) where
  group : Choice String
  endpoint : Choice κ
deriving Repr, DecidableEq

section Tagged

variable {κ : Type} [DecidableEq κ] (endpointKey : ConnectionRow → κ)

/-- The group the model shows: the manual group, else the automatic one. -/
def TaggedSelection.groupId (rows : List ConnectionRow) (lat : LatencyMap)
    (t : TaggedSelection κ) : Option String :=
  match t.group with
  | .manual g => some g
  | .automatic => (autoGroup rows lat).map (·.id)

/-- The endpoint the model shows: the first row with the manual key, else the
automatic endpoint of the group the model shows. -/
def TaggedSelection.endpointId (rows : List ConnectionRow) (lat : LatencyMap)
    (t : TaggedSelection κ) : Option String :=
  match t.endpoint with
  | .manual k => (rows.find? (endpointKey · = k)).map (·.id)
  | .automatic =>
      (((t.groupId rows lat).bind (groupById (connectionGroups rows))).bind
        (pickEndpointForGroup rows lat)).map (·.id)

/-- One event of the model; `rows` and `lat` are the data the page shows when
the event arrives.  Probe events leave the tags alone. -/
def taggedStep (stratumHost : String) (rows : List ConnectionRow) (lat : LatencyMap)
    (t : TaggedSelection κ) : PageEvent → TaggedSelection κ
  | .refresh entries =>
      let fresh := connectionRows stratumHost entries
      ⟨t.group.demote fun g => (connectionGroups fresh).any (·.id = g),
        t.endpoint.demote fun k => fresh.any (endpointKey · = k)⟩
  | .selectGroup g => ⟨.manual g, if some g ≠ t.groupId rows lat then .automatic else t.endpoint⟩
  | .selectEndpoint group endpoint => ⟨.manual group.id, .manual (endpointKey endpoint)⟩
  | .complete _ _ | .remeasureAll | .retryGroup _ => t

/-- One event of the page and the model together. -/
def taggedRunStep (stratumHost : String) (run : PageState × TaggedSelection κ)
    (event : PageEvent) : PageState × TaggedSelection κ :=
  (pageStep stratumHost run.1 event,
    taggedStep endpointKey stratumHost (connectionRows stratumHost run.1.portEntries)
      run.1.latencyMap run.2 event)

/-- The page and the model on one event list, from the mounted page and a fully
automatic selection. -/
def taggedRun (stratumHost : String) (events : List PageEvent) : PageState × TaggedSelection κ :=
  events.foldl (taggedRunStep endpointKey stratumHost)
    (initialPage stratumHost, ⟨.automatic, .automatic⟩)

end Tagged

/-- A click the rendered page offers: a server card of the current groups, or a
port radio of the rendered group. -/
def clickable (stratumHost : String) (s : PageState) : PageEvent → Bool
  | .selectGroup groupId =>
      (connectionGroups (connectionRows stratumHost s.portEntries)).any (·.id = groupId)
  | .selectEndpoint group endpoint =>
      effectiveSelectedGroup (connectionRows stratumHost s.portEntries) s.latencyMap s.selection ==
        some group && group.endpoints.contains endpoint
  | .refresh _ | .complete _ _ | .remeasureAll | .retryGroup _ => true

/-- Every click of the run is one the page it arrives at offers. -/
def clicksRendered (stratumHost : String) : PageState → List PageEvent → Bool
  | _, [] => true
  | s, event :: events =>
      clickable stratumHost s event && clicksRendered stratumHost (pageStep stratumHost s event) events

/-! ### The single-host page's effects -/

/-- The page's only server group. -/
def pageGroup (stratumHost : String) (entries : List (Nat × PortConfig)) : ConnectionGroup :=
  ⟨stratumHost, stratumHost, sortByPort (connectionRows stratumHost entries)⟩

/-- The endpoint effect keeps the stored endpoint: `manualEndpointRef` is set and
the stored id is a row's. -/
def KeepsEndpoint (rows : List ConnectionRow) (sel : Selection) : Prop :=
  sel.manualEndpoint = true ∧ ∃ r ∈ rows, sel.selectedEndpointId = some r.id

section SingleHost

variable {stratumHost : String} {entries : List (Nat × PortConfig)} {lat : LatencyMap}

theorem connectionGroups_page :
    connectionGroups (connectionRows stratumHost entries) = [pageGroup stratumHost entries] :=
  connectionGroups_connectionRows stratumHost entries

theorem connectionGroups_page_ne_nil :
    connectionGroups (connectionRows stratumHost entries) ≠ [] := by
  simp [connectionGroups_page]

theorem pageGroup_endpoints_ne_nil : (pageGroup stratumHost entries).endpoints ≠ [] :=
  endpoints_ne_nil_of_mem_connectionGroups (show pageGroup stratumHost entries ∈
    connectionGroups (connectionRows stratumHost entries) by simp [connectionGroups_page])

theorem autoGroup_page :
    autoGroup (connectionRows stratumHost entries) lat = some (pageGroup stratumHost entries) := by
  obtain ⟨group, hauto⟩ :=
    Option.isSome_iff_exists.mp (autoGroup_isSome lat connectionGroups_page_ne_nil)
  have hmem := autoGroup_mem hauto
  rw [connectionGroups_page, List.mem_singleton] at hmem
  rwa [← hmem]

theorem effectiveSelectedGroup_page (sel : Selection) :
    effectiveSelectedGroup (connectionRows stratumHost entries) lat sel =
      some (pageGroup stratumHost entries) := by
  cases hsel : selectedGroup (connectionRows stratumHost entries) sel.selectedGroupId with
  | none => simp [effectiveSelectedGroup, hsel, autoGroup_page]
  | some group =>
      have hmem := (selectedGroup_eq_some hsel).1
      rw [connectionGroups_page, List.mem_singleton] at hmem
      simp [effectiveSelectedGroup, hsel, hmem]

theorem groupById_page :
    groupById (connectionGroups (connectionRows stratumHost entries)) stratumHost =
      some (pageGroup stratumHost entries) := by
  simp [connectionGroups_page, groupById, mapBy_eq_find?, pageGroup]

theorem truthyGet_endpointById_isSome (key : Option String) :
    (truthyGet (endpointById (pageGroup stratumHost entries)) key).isSome ↔
      ∃ r ∈ connectionRows stratumHost entries, key = some r.id := by
  cases key with
  | none => simp [truthyGet]
  | some k =>
      by_cases hk : k = ""
      · subst hk
        simp only [truthyGet, ↓reduceIte, Option.isSome_none, Bool.false_eq_true, false_iff,
          not_exists, not_and, Option.some.injEq]
        exact fun r hr hid => id_ne_empty_of_mem_connectionRows hr hid.symm
      · simp [truthyGet, hk, endpointById, pageGroup, List.find?_isSome, mem_sortByPort,
          @eq_comm _ k]

/-- A commit keeps a manual endpoint that is still a row. -/
theorem reconcileRound_of_keeps {sel : Selection}
    (h : KeepsEndpoint (connectionRows stratumHost entries) sel) :
    (reconcileRound (connectionRows stratumHost entries) lat sel).selectedEndpointId =
        sel.selectedEndpointId ∧
      (reconcileRound (connectionRows stratumHost entries) lat sel).manualEndpoint = true := by
  have hexists := (truthyGet_endpointById_isSome sel.selectedEndpointId).mpr h.2
  rw [reconcileRound, endpointEffect_eq_of_some (effectiveSelectedGroup_page sel),
    groupEffect_manualEndpoint connectionGroups_page_ne_nil, h.1, hexists]
  simp [groupEffect_selectedEndpointId connectionGroups_page_ne_nil,
    groupEffect_manualEndpoint connectionGroups_page_ne_nil, h.1]

/-- Any other commit stores the automatic endpoint and clears the ref. -/
theorem reconcileRound_of_not_keeps {sel : Selection}
    (h : ¬KeepsEndpoint (connectionRows stratumHost entries) sel) :
    (reconcileRound (connectionRows stratumHost entries) lat sel).selectedEndpointId =
        (pickEndpointForGroup (connectionRows stratumHost entries) lat
          (pageGroup stratumHost entries)).map (·.id) ∧
      (reconcileRound (connectionRows stratumHost entries) lat sel).manualEndpoint = false := by
  have hgne : connectionGroups (connectionRows stratumHost entries) ≠ [] :=
    connectionGroups_page_ne_nil
  have hcond : (!(groupEffect (connectionRows stratumHost entries) lat sel).manualEndpoint ||
      !(truthyGet (endpointById (pageGroup stratumHost entries))
        sel.selectedEndpointId).isSome) = true := by
    rw [groupEffect_manualEndpoint hgne]
    rw [KeepsEndpoint, ← truthyGet_endpointById_isSome] at h
    cases hman : sel.manualEndpoint <;> simp_all
  rw [reconcileRound, endpointEffect_eq_of_some (effectiveSelectedGroup_page sel), if_pos hcond]
  split_ifs with hnext
  · exact ⟨rfl, rfl⟩
  · have hsel := (not_not.mp hnext).symm
    rw [groupEffect_selectedEndpointId hgne, groupEffect_manualEndpoint hgne]
    refine ⟨hsel, Bool.eq_false_iff.mpr fun hman => h ⟨hman, ?_⟩⟩
    obtain ⟨row, hpick⟩ := Option.isSome_iff_exists.mp
      (pickEndpointForGroup_isSome (connectionRows stratumHost entries) lat
        pageGroup_endpoints_ne_nil)
    exact ⟨row, mem_sortByPort.mp (pickEndpointForGroup_mem hpick), by rw [hsel, hpick]; rfl⟩

/-- The endpoint state of a selection for an endpoint tag: a manual tag is the
stored id, still a row, with `manualEndpointRef` set; an automatic tag has the
ref clear. -/
def EndpointAgrees (rows : List ConnectionRow) (sel : Selection) : Choice String → Prop
  | .manual k => sel.manualEndpoint = true ∧ sel.selectedEndpointId = some k ∧ ∃ r ∈ rows, r.id = k
  | .automatic => sel.manualEndpoint = false

/-- A commit on new rows demotes exactly the manual endpoint that is no longer
a row. -/
theorem agrees_reconcileRound_demote {rows : List ConnectionRow} {sel : Selection}
    {c : Choice String} (h : EndpointAgrees rows sel c) :
    EndpointAgrees (connectionRows stratumHost entries)
      (reconcileRound (connectionRows stratumHost entries) lat sel)
      (c.demote fun k => (connectionRows stratumHost entries).any (·.id = k)) := by
  cases c with
  | automatic =>
      have hman : sel.manualEndpoint = false := h
      exact (reconcileRound_of_not_keeps fun hk => Bool.false_ne_true (hman.symm.trans hk.1)).2
  | manual k =>
      obtain ⟨hman, hsel, -⟩ := h
      cases hpresent : (connectionRows stratumHost entries).any (·.id = k) with
      | true =>
          obtain ⟨r, hr, hrk⟩ := List.any_eq_true.mp hpresent
          have hrk : r.id = k := of_decide_eq_true hrk
          obtain ⟨hsel', hman'⟩ := @reconcileRound_of_keeps stratumHost entries lat sel
            ⟨hman, r, hr, hsel.trans (congrArg some hrk.symm)⟩
          simp only [Choice.demote, hpresent, ↓reduceIte]
          exact ⟨hman', hsel'.trans hsel, r, hr, hrk⟩
      | false =>
          have hnot : ¬KeepsEndpoint (connectionRows stratumHost entries) sel :=
            fun ⟨_, r, hr, hrk⟩ => Bool.false_ne_true (hpresent.symm.trans
              (List.any_eq_true.mpr ⟨r, hr, decide_eq_true (Option.some.inj (hrk.symm.trans hsel))⟩))
          simp only [Choice.demote, hpresent, Bool.false_eq_true, ↓reduceIte]
          exact (reconcileRound_of_not_keeps hnot).2

theorem agrees_reconcileRound {sel : Selection} {c : Choice String}
    (h : EndpointAgrees (connectionRows stratumHost entries) sel c) :
    EndpointAgrees (connectionRows stratumHost entries)
      (reconcileRound (connectionRows stratumHost entries) lat sel) c := by
  have hc : (c.demote fun k => (connectionRows stratumHost entries).any (·.id = k)) = c := by
    cases c with
    | automatic => rfl
    | manual k =>
        obtain ⟨-, -, hk⟩ := h
        simp [Choice.demote, hk]
  exact hc ▸ agrees_reconcileRound_demote h

theorem agrees_settle {sel : Selection} {c : Choice String}
    (h : EndpointAgrees (connectionRows stratumHost entries) sel c) :
    EndpointAgrees (connectionRows stratumHost entries)
      (settle (connectionRows stratumHost entries) lat sel) c :=
  agrees_reconcileRound (agrees_reconcileRound h)

/-- With the ref clear, the settled page stores the automatic endpoint. -/
theorem settle_of_manualEndpoint_false {sel : Selection} (h : sel.manualEndpoint = false) :
    (settle (connectionRows stratumHost entries) lat sel).selectedEndpointId =
      (pickEndpointForGroup (connectionRows stratumHost entries) lat
        (pageGroup stratumHost entries)).map (·.id) := by
  have hround : (reconcileRound (connectionRows stratumHost entries) lat sel).manualEndpoint =
      false := agrees_reconcileRound (c := .automatic) h
  exact (reconcileRound_of_not_keeps fun hk => by simp [KeepsEndpoint, hround] at hk).1

end SingleHost

theorem rerender_selectedGroupId (stratumHost : String) (s : PageState) :
    (rerender stratumHost s).selection.selectedGroupId = some stratumHost := by
  have hfix : reconcileRound (connectionRows stratumHost s.portEntries) s.latencyMap
      (rerender stratumHost s).selection = (rerender stratumHost s).selection := settle_fixed _
  obtain ⟨group, hmem, hid, -⟩ := coherent_of_reconcileRound_eq (connectionRows_ne_nil _ _) hfix
  rw [connectionGroups_page, List.mem_singleton] at hmem
  rw [hid, hmem]
  rfl

/-! ### The simulation -/

/-- A manual id that is a row's resolves to itself. -/
theorem find?_id_map_id {rows : List ConnectionRow} {k : String} (h : ∃ r ∈ rows, r.id = k) :
    (rows.find? (·.id = k)).map (·.id) = some k := by
  have hsome : (rows.find? (·.id = k)).isSome := List.find?_isSome.mpr (by simpa using h)
  obtain ⟨r, hfind⟩ := Option.isSome_iff_exists.mp hsome
  simpa [hfind] using List.find?_some hfind

/-- The settled page tracks the model: the stored group is the page's one
group, which every manual group names, the endpoint state agrees with the tag,
and under an automatic tag the stored id is the automatic endpoint's. -/
structure Tracks (stratumHost : String) (s : PageState) (t : TaggedSelection String) : Prop where
  group_id : s.selection.selectedGroupId = some stratumHost
  manual_group : ∀ g, t.group = .manual g → g = stratumHost
  endpoint : EndpointAgrees (connectionRows stratumHost s.portEntries) s.selection t.endpoint
  automatic_endpoint : t.endpoint = .automatic →
    s.selection.selectedEndpointId =
      (pickEndpointForGroup (connectionRows stratumHost s.portEntries) s.latencyMap
        (pageGroup stratumHost s.portEntries)).map (·.id)

section Simulation

variable {stratumHost : String}

/-- Settling a page whose endpoint state agrees with the tags tracks them. -/
theorem Tracks.rerender {s : PageState} {t : TaggedSelection String}
    (hgroup : ∀ g, t.group = .manual g → g = stratumHost)
    (hagree : EndpointAgrees (connectionRows stratumHost s.portEntries) s.selection t.endpoint) :
    Tracks stratumHost (rerender stratumHost s) t where
  group_id := rerender_selectedGroupId stratumHost s
  manual_group := hgroup
  endpoint := agrees_settle hagree
  automatic_endpoint := fun hauto => settle_of_manualEndpoint_false (by rw [hauto] at hagree; exact hagree)

theorem Tracks.groupId_eq {s : PageState} {t : TaggedSelection String}
    (h : Tracks stratumHost s t) :
    t.groupId (connectionRows stratumHost s.portEntries) s.latencyMap = some stratumHost := by
  unfold TaggedSelection.groupId
  split
  · next g hg => rw [h.manual_group g hg]
  · simp [autoGroup_page, pageGroup]

/-- The stored pair is the model's. -/
theorem Tracks.pair {s : PageState} {t : TaggedSelection String} (h : Tracks stratumHost s t) :
    (s.selection.selectedGroupId, s.selection.selectedEndpointId) =
      (t.groupId (connectionRows stratumHost s.portEntries) s.latencyMap,
        t.endpointId (·.id) (connectionRows stratumHost s.portEntries) s.latencyMap) := by
  rw [h.groupId_eq, h.group_id, Prod.mk.injEq]
  refine ⟨rfl, ?_⟩
  unfold TaggedSelection.endpointId
  split
  · next k hk =>
      have hagree := h.endpoint
      rw [hk] at hagree
      obtain ⟨-, hsel, hrow⟩ := hagree
      rw [hsel]
      exact (find?_id_map_id hrow).symm
  · next hk =>
      rw [h.automatic_endpoint hk, h.groupId_eq, Option.some_bind, groupById_page, Option.some_bind]

/-- A refresh from any page whose endpoint state agrees with the tags. -/
theorem tracks_refresh {s : PageState} {t : TaggedSelection String} {rows : List ConnectionRow}
    (hgroup : ∀ g, t.group = .manual g → g = stratumHost)
    (hagree : EndpointAgrees rows s.selection t.endpoint) (entries : List (Nat × PortConfig)) :
    Tracks stratumHost (pageStep stratumHost s (.refresh entries))
      (taggedStep (·.id) stratumHost (connectionRows stratumHost s.portEntries) s.latencyMap t
        (.refresh entries)) := by
  obtain ⟨hports, hsel⟩ := autoProbe_frame
    { s with portEntries := entries,
             selection := reconcileRound (connectionRows stratumHost entries) s.latencyMap s.selection }
    (connectionRows stratumHost entries)
  refine Tracks.rerender (fun g hg => hgroup g (Choice.demote_eq_manual hg)) ?_
  rw [hports, hsel]
  exact agrees_reconcileRound_demote hagree

theorem tracks_initialPage :
    Tracks stratumHost (initialPage stratumHost) ⟨.automatic, .automatic⟩ :=
  @tracks_refresh stratumHost PageState.blank ⟨.automatic, .automatic⟩ []
    (fun _ hg => by cases hg) rfl []

/-- The step lemma: each event the page offers keeps the page on the model. -/
theorem Tracks.pageStep {s : PageState} {t : TaggedSelection String} (h : Tracks stratumHost s t)
    {event : PageEvent} (hclick : clickable stratumHost s event = true) :
    Tracks stratumHost (pageStep stratumHost s event)
      (taggedStep (·.id) stratumHost (connectionRows stratumHost s.portEntries) s.latencyMap t
        event) := by
  cases event with
  | refresh entries => exact tracks_refresh h.manual_group h.endpoint entries
  | complete id outcome =>
      obtain ⟨hports, hsel, -⟩ := completeProbe_frame s id outcome
      exact Tracks.rerender h.manual_group (by rw [hports, hsel]; exact h.endpoint)
  | remeasureAll =>
      obtain ⟨hports, hsel⟩ := retestRows_frame s (connectionRows stratumHost s.portEntries)
      exact Tracks.rerender h.manual_group (by rw [remeasureAll, hports, hsel]; exact h.endpoint)
  | retryGroup group =>
      obtain ⟨hports, hsel⟩ := retestRows_frame s group.endpoints
      exact Tracks.rerender h.manual_group (by rw [retryGroup, hports, hsel]; exact h.endpoint)
  | selectGroup groupId =>
      have hid : groupId = stratumHost := by
        simpa [clickable, connectionGroups_page, pageGroup, eq_comm] using hclick
      subst hid
      have htags : taggedStep (·.id) groupId (connectionRows groupId s.portEntries) s.latencyMap t
          (.selectGroup groupId) = ⟨.manual groupId, t.endpoint⟩ := by
        simp [taggedStep, h.groupId_eq]
      rw [htags]
      refine Tracks.rerender (fun g hg => by cases hg; rfl) ?_
      rw [selectGroup_of_current h.group_id]
      exact h.endpoint
  | selectEndpoint group endpoint =>
      simp only [clickable, effectiveSelectedGroup_page, Bool.and_eq_true, beq_iff_eq,
        Option.some.injEq, List.elem_iff] at hclick
      obtain ⟨rfl, hmem⟩ := hclick
      refine Tracks.rerender (fun g hg => by cases hg; rfl) ?_
      exact ⟨selectEndpoint_manualEndpoint _ _ _, rfl, endpoint, mem_sortByPort.mp hmem, rfl⟩

/-- The run lemma: a run of offered clicks from a tracking pair stays on the
model. -/
theorem Tracks.foldl {run : PageState × TaggedSelection String} (h : Tracks stratumHost run.1 run.2)
    {events : List PageEvent} (hclicks : clicksRendered stratumHost run.1 events = true) :
    Tracks stratumHost (events.foldl (taggedRunStep (·.id) stratumHost) run).1
      (events.foldl (taggedRunStep (·.id) stratumHost) run).2 := by
  induction events generalizing run with
  | nil => exact h
  | cons event events ih =>
      simp only [clicksRendered, Bool.and_eq_true] at hclicks
      exact ih (h.pageStep hclicks.1) hclicks.2

end Simulation

/-- On every run whose clicks are ones the page offers, the page's stored group
and endpoint ids are those of the tagged model that identifies an endpoint by
its row id. -/
theorem selection_refines_tagged (stratumHost : String) (events : List PageEvent)
    (hclicks : clicksRendered stratumHost (initialPage stratumHost) events = true) :
    let run := taggedRun (·.id) stratumHost events
    let rows := connectionRows stratumHost run.1.portEntries
    (run.1.selection.selectedGroupId, run.1.selection.selectedEndpointId) =
      (run.2.groupId rows run.1.latencyMap, run.2.endpointId (·.id) rows run.1.latencyMap) :=
  (Tracks.foldl tracks_initialPage hclicks).pair

theorem selection_refines_tagged_on_port_change :
    let run := taggedRun (·.id) "pool.local"
      [.selectEndpoint (pageGroup "pool.local" []) (placeholderRow "pool.local"),
        .refresh [(3333, ⟨none, none, none⟩), (4444, ⟨some "Medium", none, none⟩)]]
    let rows := connectionRows "pool.local" run.1.portEntries
    (run.1.selection.selectedGroupId, run.1.selection.selectedEndpointId) =
      (run.2.groupId rows run.1.latencyMap, run.2.endpointId (·.id) rows run.1.latencyMap) :=
  selection_refines_tagged "pool.local" _ (by decide)

/-- Keyed by host and port, the model keeps the manual choice of the
placeholder row once port 3333 is configured, while the page, whose row id
changed, demotes it and selects the `Medium` port. -/
theorem host_port_tagged_diverges :
    let events := [PageEvent.selectEndpoint (pageGroup "pool.local" []) (placeholderRow "pool.local"),
      .refresh [(3333, ⟨none, none, none⟩), (4444, ⟨some "Medium", none, none⟩)]]
    let run := taggedRun (fun row => (row.host, row.port)) "pool.local" events
    let rows := connectionRows "pool.local" run.1.portEntries
    clicksRendered "pool.local" (initialPage "pool.local") events = true ∧
      run.1.selection.selectedEndpointId = some "pool.local-4444" ∧
      run.2.endpointId (fun row => (row.host, row.port)) rows run.1.latencyMap =
        some "pool.local-3333" := by
  decide

end PoolDashboard
