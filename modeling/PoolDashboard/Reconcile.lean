import PoolDashboard.Latency
import PoolDashboard.DefaultEndpoint

/-
The pool-detail page's selection: the derived groups its memos compute, the
group- and endpoint-reconciliation effects, and the commit that runs both
against one render.  The endpoint effect reads the render's `selectedGroup`,
one commit behind a group the group effect has just stored.
-/

namespace PoolDashboard

section Derived

variable (rows : List ConnectionRow) (lat : LatencyMap)

/-- `defaultGroup`: the group of the default endpoint's host. -/
def defaultGroup : Option ConnectionGroup :=
  truthyGet (groupByHost (connectionGroups rows)) ((defaultEndpointRow rows).map (·.host))

/-- `bestLatencyGroup`: the group of the fastest row's host. -/
def bestLatencyGroup : Option ConnectionGroup :=
  truthyGet (groupByHost (connectionGroups rows)) ((bestLatencyRow lat rows).map (·.host))

/-- `selectedGroup`: the group stored under `selectedGroupId`, if truthy. -/
def selectedGroup (selectedGroupId : Option String) : Option ConnectionGroup :=
  truthyGet (groupById (connectionGroups rows)) selectedGroupId

/-- `bestLatencyGroup ?? defaultGroup ?? connectionGroups[0] ?? null`, the
automatic group of both effects and of `effectiveSelectedGroup`. -/
def autoGroup : Option ConnectionGroup :=
  ((bestLatencyGroup rows lat).or (defaultGroup rows)).or (connectionGroups rows).head?

end Derived

/-- `group.endpoints.find((endpoint) => endpoint.id === id)`. -/
def endpointById (group : ConnectionGroup) (id : String) : Option ConnectionRow :=
  group.endpoints.find? (·.id = id)

/-- The `midTier` test of `pickEndpointForGroup`: the lower-cased name contains
`mid`. -/
def isMidProfile (row : ConnectionRow) : Bool :=
  match row.profileName with
  | some name => lowerIncludes name "mid"
  | none => false

/-- `endpoint.difficulty === null || endpoint.varDiffMin !== null`: strict
tests, so the placeholder row's `undefined` fields pass the second one. -/
def isVarDiffEndpoint (row : ConnectionRow) : Bool :=
  row.difficulty = .null || row.varDiffMin ≠ .null

/-- The automatic endpoint of a group: the default endpoint when it belongs to
the group's host, then a `mid` name, then a var-diff port, then the fastest. -/
def pickEndpointForGroup (rows : List ConnectionRow) (lat : LatencyMap)
    (group : ConnectionGroup) : Option ConnectionRow :=
  let viaDefault :=
    match defaultEndpointRow rows with
    | some d => if d.host = group.host then endpointById group d.id else none
    | none => none
  ((viaDefault.or (group.endpoints.find? isMidProfile)).or
    (group.endpoints.find? isVarDiffEndpoint)).or (fastestEndpointFor lat group)

/-- The selection state: the two `useState` ids and the two manual-choice refs. -/
@[ext]
structure Selection where
  selectedGroupId : Option String
  selectedEndpointId : Option String
  manualSelection : Bool
  manualEndpoint : Bool
deriving Repr, DecidableEq

/-- The state with nothing selected and no manual choice. -/
def Selection.blank : Selection :=
  ⟨none, none, false, false⟩

section Effects

variable (rows : List ConnectionRow) (lat : LatencyMap)

/-- `selectedGroup ?? bestLatencyGroup ?? defaultGroup ?? connectionGroups[0] ?? null`;
the endpoint effect's `fallbackGroup` is the same chain. -/
def effectiveSelectedGroup (s : Selection) : Option ConnectionGroup :=
  (selectedGroup rows s.selectedGroupId).or (autoGroup rows lat)

/-- The group-reconciliation effect, run on the render of `s`. -/
def groupEffect (s : Selection) : Selection :=
  if connectionGroups rows = [] then Selection.blank
  else if !s.manualSelection || !(selectedGroup rows s.selectedGroupId).isSome then
    -- `nextId`
    if (autoGroup rows lat).map (·.id) ≠ s.selectedGroupId then
      { s with manualSelection := false, selectedGroupId := (autoGroup rows lat).map (·.id) }
    else s
  else s

/-- The endpoint-reconciliation effect.  `render` is the render it reads;
`refs` is the state after the group effect of the same commit, whose
`manualEndpointRef` it reads and whose setters it overrides. -/
def endpointEffect (render refs : Selection) : Selection :=
  match effectiveSelectedGroup rows lat render with
  | none => { refs with manualEndpoint := false, selectedEndpointId := none }
  | some group =>
      if !refs.manualEndpoint ||
          !(truthyGet (endpointById group) render.selectedEndpointId).isSome then
        -- `nextEndpointId`
        if (pickEndpointForGroup rows lat group).map (·.id) ≠ render.selectedEndpointId then
          { refs with manualEndpoint := false,
                      selectedEndpointId := (pickEndpointForGroup rows lat group).map (·.id) }
        else refs
      else refs

/-- One commit: both effects read the same render, and the endpoint effect's
setter lands after the group effect's. -/
def reconcileRound (s : Selection) : Selection :=
  endpointEffect rows lat s (groupEffect rows lat s)

/-- Two commits, after which nothing changes any more (`settle_fixed`). -/
def settle (s : Selection) : Selection :=
  reconcileRound rows lat (reconcileRound rows lat s)

/-- The endpoint whose radio is checked and whose stratum URL is offered. -/
def effectiveSelectedEndpoint (s : Selection) : Option ConnectionRow :=
  match effectiveSelectedGroup rows lat s with
  | none => none
  | some group =>
      (truthyGet (endpointById group) s.selectedEndpointId).or
        (pickEndpointForGroup rows lat group)

end Effects

section Lemmas

variable {rows : List ConnectionRow} {lat : LatencyMap}

theorem truthyGet_none_map {α : Type} (key : Option String) :
    truthyGet (fun _ => (none : Option α)) key = none := by
  cases key <;> simp [truthyGet]

theorem autoGroup_eq_none_of_nil (hnil : connectionGroups rows = []) : autoGroup rows lat = none := by
  have hrows := connectionGroups_eq_nil_iff.mp hnil
  subst hrows
  rfl

theorem selectedGroup_eq_some {key : Option String} {group : ConnectionGroup}
    (h : selectedGroup rows key = some group) :
    group ∈ connectionGroups rows ∧ key = some group.id := by
  obtain ⟨k, rfl, hk⟩ := truthyGet_eq_some h
  obtain ⟨hmem, hid⟩ := mapBy_eq_some hk
  exact ⟨hmem, by rw [hid]⟩

theorem mem_of_truthyGet_groupByHost {key : Option String} {group : ConnectionGroup}
    (h : truthyGet (groupByHost (connectionGroups rows)) key = some group) :
    group ∈ connectionGroups rows := by
  obtain ⟨k, -, hk⟩ := truthyGet_eq_some h
  exact (mapBy_eq_some hk).1

theorem autoGroup_mem {group : ConnectionGroup} (h : autoGroup rows lat = some group) :
    group ∈ connectionGroups rows := by
  simp only [autoGroup, Option.or_eq_some] at h
  rcases h with (h | ⟨-, h⟩) | ⟨-, h⟩
  · exact mem_of_truthyGet_groupByHost h
  · exact mem_of_truthyGet_groupByHost h
  · exact List.mem_of_mem_head? h

theorem autoGroup_isSome (lat : LatencyMap) (hne : connectionGroups rows ≠ []) :
    (autoGroup rows lat).isSome := by
  obtain ⟨g, gs, hgs⟩ := List.exists_cons_of_ne_nil hne
  cases h1 : bestLatencyGroup rows lat <;> cases h2 : defaultGroup rows <;>
    simp [autoGroup, h1, h2, hgs]

theorem endpointById_eq_some {group : ConnectionGroup} {id : String} {row : ConnectionRow}
    (h : endpointById group id = some row) : row ∈ group.endpoints ∧ row.id = id :=
  ⟨List.mem_of_find?_eq_some h, by simpa using List.find?_some h⟩

theorem fastestEndpointFor_mem {group : ConnectionGroup} {row : ConnectionRow}
    (h : fastestEndpointFor lat group = some row) : row ∈ group.endpoints := by
  rw [fastestEndpointFor_eq] at h
  rcases Option.or_eq_some.mp h with h | ⟨-, h⟩
  · obtain ⟨pre, post, -, hsplit, -⟩ := (bestLatencyRow_eq_some_iff lat _ row).mp h
    simp [hsplit]
  · exact List.mem_of_mem_head? h

/-- The automatic endpoint of a group is one of its endpoints. -/
theorem pickEndpointForGroup_mem {group : ConnectionGroup} {row : ConnectionRow}
    (h : pickEndpointForGroup rows lat group = some row) : row ∈ group.endpoints := by
  simp only [pickEndpointForGroup, Option.or_eq_some] at h
  rcases h with ((h | ⟨-, h⟩) | ⟨-, h⟩) | ⟨-, h⟩
  · split at h
    · split at h
      · exact (endpointById_eq_some h).1
      · cases h
    · cases h
  · exact List.mem_of_find?_eq_some h
  · exact List.mem_of_find?_eq_some h
  · exact fastestEndpointFor_mem h

theorem pickEndpointForGroup_isSome (rows : List ConnectionRow) (lat : LatencyMap)
    {group : ConnectionGroup} (hne : group.endpoints ≠ []) :
    (pickEndpointForGroup rows lat group).isSome := by
  obtain ⟨e, es, hes⟩ := List.exists_cons_of_ne_nil hne
  have hfast : (fastestEndpointFor lat group).isSome := by
    cases h : bestLatencyRow lat group.endpoints <;> simp [fastestEndpointFor_eq, h, hes]
  simp only [pickEndpointForGroup, Option.isSome_or, hfast, Bool.or_true]

@[simp] theorem endpointEffect_selectedGroupId (render refs : Selection) :
    (endpointEffect rows lat render refs).selectedGroupId = refs.selectedGroupId := by
  unfold endpointEffect
  split
  · rfl
  · split_ifs <;> rfl

@[simp] theorem endpointEffect_manualSelection (render refs : Selection) :
    (endpointEffect rows lat render refs).manualSelection = refs.manualSelection := by
  unfold endpointEffect
  split
  · rfl
  · split_ifs <;> rfl

theorem groupEffect_of_nil (hnil : connectionGroups rows = []) (s : Selection) :
    groupEffect rows lat s = Selection.blank := by
  simp [groupEffect, hnil]

/-- With groups to show, the group effect either leaves the state alone or
stores the automatic group and clears the manual flag. -/
theorem groupEffect_cases (hne : connectionGroups rows ≠ []) (s : Selection) :
    groupEffect rows lat s = s ∨
      groupEffect rows lat s =
        { s with manualSelection := false, selectedGroupId := (autoGroup rows lat).map (·.id) } := by
  simp only [groupEffect, hne, ↓reduceIte]
  split_ifs
  · exact .inr rfl
  · exact .inl rfl
  · exact .inl rfl

theorem groupEffect_selectedEndpointId (hne : connectionGroups rows ≠ []) (s : Selection) :
    (groupEffect rows lat s).selectedEndpointId = s.selectedEndpointId := by
  rcases @groupEffect_cases rows lat hne s with h | h <;> rw [h]

theorem groupEffect_manualEndpoint (hne : connectionGroups rows ≠ []) (s : Selection) :
    (groupEffect rows lat s).manualEndpoint = s.manualEndpoint := by
  rcases @groupEffect_cases rows lat hne s with h | h <;> rw [h]

/-- The group effect reads and writes only the group id and its manual flag. -/
theorem groupEffect_congr (rows : List ConnectionRow) (lat : LatencyMap) {s t : Selection}
    (hid : s.selectedGroupId = t.selectedGroupId)
    (hman : s.manualSelection = t.manualSelection) :
    (groupEffect rows lat s).selectedGroupId = (groupEffect rows lat t).selectedGroupId ∧
      (groupEffect rows lat s).manualSelection = (groupEffect rows lat t).manualSelection := by
  simp only [groupEffect, hid, hman]
  by_cases hnil : connectionGroups rows = []
  · simp only [hnil, ↓reduceIte, and_self]
  by_cases hkeep : (!t.manualSelection || !(selectedGroup rows t.selectedGroupId).isSome) = true
  · by_cases hnext : (autoGroup rows lat).map (·.id) = t.selectedGroupId
    · simp only [hnil, hkeep, hnext, ne_eq, not_true_eq_false, ↓reduceIte]
      exact ⟨hid, hman⟩
    · simp only [hnil, hkeep, hnext, ne_eq, not_false_eq_true, ↓reduceIte, and_self]
  · simp only [hnil, hkeep, ↓reduceIte]
    exact ⟨hid, hman⟩

theorem groupEffect_idem (s : Selection) :
    groupEffect rows lat (groupEffect rows lat s) = groupEffect rows lat s := by
  by_cases hnil : connectionGroups rows = []
  · rw [groupEffect_of_nil hnil, groupEffect_of_nil hnil]
  · rcases @groupEffect_cases rows lat hnil s with h | h
    · rw [h, h]
    · rw [h]
      simp [groupEffect, hnil]

theorem endpointEffect_eq_of_none {render : Selection}
    (h : effectiveSelectedGroup rows lat render = none) (refs : Selection) :
    endpointEffect rows lat render refs =
      { refs with manualEndpoint := false, selectedEndpointId := none } := by
  simp [endpointEffect, h]

theorem endpointEffect_eq_of_some {render : Selection} {group : ConnectionGroup}
    (h : effectiveSelectedGroup rows lat render = some group) (refs : Selection) :
    endpointEffect rows lat render refs =
      if !refs.manualEndpoint ||
          !(truthyGet (endpointById group) render.selectedEndpointId).isSome then
        if (pickEndpointForGroup rows lat group).map (·.id) ≠ render.selectedEndpointId then
          { refs with manualEndpoint := false,
                      selectedEndpointId := (pickEndpointForGroup rows lat group).map (·.id) }
        else refs
      else refs := by
  simp only [endpointEffect, h]

theorem endpointEffect_of_nil (hnil : connectionGroups rows = []) (render refs : Selection) :
    endpointEffect rows lat render refs =
      { refs with manualEndpoint := false, selectedEndpointId := none } := by
  apply endpointEffect_eq_of_none
  simp [effectiveSelectedGroup, autoGroup_eq_none_of_nil hnil, selectedGroup, hnil, groupById,
    mapBy, truthyGet_none_map]

/-- After one commit the group effect has nothing left to do. -/
theorem groupEffect_reconcileRound (rows : List ConnectionRow) (lat : LatencyMap)
    (s : Selection) :
    groupEffect rows lat (reconcileRound rows lat s) = reconcileRound rows lat s := by
  by_cases hnil : connectionGroups rows = []
  · rw [groupEffect_of_nil hnil, reconcileRound, groupEffect_of_nil hnil,
      endpointEffect_of_nil hnil]
    rfl
  · have hcongr := groupEffect_congr rows lat
      (s := reconcileRound rows lat s) (t := groupEffect rows lat s)
      (by simp [reconcileRound]) (by simp [reconcileRound])
    rw [groupEffect_idem] at hcongr
    ext1
    · simpa [reconcileRound] using hcongr.1
    · exact groupEffect_selectedEndpointId hnil _
    · simpa [reconcileRound] using hcongr.2
    · exact groupEffect_manualEndpoint hnil _

/-- The endpoint effect either leaves the refs' state alone or stores the
automatic endpoint of the render's group and clears the manual flag. -/
theorem endpointEffect_cases (render refs : Selection) :
    endpointEffect rows lat render refs = refs ∨
      endpointEffect rows lat render refs =
        { refs with manualEndpoint := false,
                    selectedEndpointId := ((effectiveSelectedGroup rows lat render).bind
                      (pickEndpointForGroup rows lat)).map (·.id) } := by
  unfold endpointEffect
  split
  · next hfb => exact .inr (by rw [hfb]; rfl)
  · next group hfb =>
      rw [hfb]
      split_ifs
      · exact .inr rfl
      · exact .inl rfl
      · exact .inl rfl

/-- A state that already holds the automatic endpoint, with the flag clear, is
left alone. -/
theorem endpointEffect_of_automatic {t : Selection} (hman : t.manualEndpoint = false)
    (hsel : t.selectedEndpointId =
      ((effectiveSelectedGroup rows lat t).bind (pickEndpointForGroup rows lat)).map (·.id)) :
    endpointEffect rows lat t t = t := by
  cases hfb : effectiveSelectedGroup rows lat t with
  | none =>
      rw [hfb] at hsel
      rw [endpointEffect_eq_of_none hfb]
      ext <;> simp [hman, hsel]
  | some group =>
      rw [hfb] at hsel
      rw [endpointEffect_eq_of_some hfb]
      simp [hman, hsel]

/-- Run on its own result, the endpoint effect changes nothing. -/
theorem endpointEffect_self_idem (t : Selection) :
    endpointEffect rows lat (endpointEffect rows lat t t) (endpointEffect rows lat t t) =
      endpointEffect rows lat t t := by
  rcases endpointEffect_cases t t with h | h
  · rw [h, h]
  · rw [h]
    exact endpointEffect_of_automatic rfl rfl

/-- Two commits reach a state that a third commit leaves as it is. -/
theorem settle_fixed (s : Selection) :
    reconcileRound rows lat (settle rows lat s) = settle rows lat s := by
  have hsettle : settle rows lat s =
      endpointEffect rows lat (reconcileRound rows lat s) (reconcileRound rows lat s) := by
    show endpointEffect rows lat (reconcileRound rows lat s)
      (groupEffect rows lat (reconcileRound rows lat s)) = _
    rw [groupEffect_reconcileRound]
  have hgroup : groupEffect rows lat (settle rows lat s) = settle rows lat s :=
    groupEffect_reconcileRound rows lat (reconcileRound rows lat s)
  show endpointEffect rows lat (settle rows lat s) (groupEffect rows lat (settle rows lat s)) = _
  rw [hgroup, hsettle, endpointEffect_self_idem]

theorem reconcileRound_iterate (s : Selection) (n : Nat) :
    (reconcileRound rows lat)^[n + 2] s = settle rows lat s := by
  induction n with
  | zero => rfl
  | succ n ih =>
      rw [show n + 1 + 2 = (n + 2) + 1 from rfl, Function.iterate_succ_apply', ih, settle_fixed]

/-- For any port map, latency map and selection, the effect cascade is fixed
after two commits: every later commit changes nothing. -/
theorem reconcile_cascade_terminates (stratumHost : String)
    (entries : List (Nat × PortConfig)) (lat : LatencyMap) (s : Selection) :
    let rows := connectionRows stratumHost entries
    reconcileRound rows lat (settle rows lat s) = settle rows lat s ∧
      ∀ n, (reconcileRound rows lat)^[n + 2] s = settle rows lat s :=
  ⟨settle_fixed s, reconcileRound_iterate s⟩

/-- The stored and the rendered selection agree: the stored group id names a
group, which is the rendered group, and the stored endpoint id is the rendered
endpoint's, one of that group's endpoints. -/
def SelectionCoherent (rows : List ConnectionRow) (lat : LatencyMap) (s : Selection) : Prop :=
  ∃ group ∈ connectionGroups rows, s.selectedGroupId = some group.id ∧
    effectiveSelectedGroup rows lat s = some group ∧
    ∃ row ∈ group.endpoints, effectiveSelectedEndpoint rows lat s = some row ∧
      s.selectedEndpointId = some row.id

theorem group_coherent_of_groupEffect_eq (hne : connectionGroups rows ≠ []) {s : Selection}
    (hfix : groupEffect rows lat s = s) :
    ∃ group ∈ connectionGroups rows, s.selectedGroupId = some group.id ∧
      effectiveSelectedGroup rows lat s = some group := by
  cases hsel : selectedGroup rows s.selectedGroupId with
  | some group =>
      obtain ⟨hmem, hid⟩ := selectedGroup_eq_some hsel
      exact ⟨group, hmem, hid, by simp [effectiveSelectedGroup, hsel]⟩
  | none =>
      obtain ⟨group, hauto⟩ := Option.isSome_iff_exists.mp (autoGroup_isSome lat hne)
      simp only [groupEffect, hne, hsel, ↓reduceIte, Option.isSome_none, Bool.not_false,
        Bool.or_true] at hfix
      split_ifs at hfix with hnext
      · exact absurd (congrArg Selection.selectedGroupId hfix) hnext
      · refine ⟨group, autoGroup_mem hauto, ?_, by simp [effectiveSelectedGroup, hsel, hauto]⟩
        simpa [hauto] using (not_not.mp hnext).symm

theorem endpoint_coherent_of_endpointEffect_eq {s : Selection} {group : ConnectionGroup}
    (hgroup : effectiveSelectedGroup rows lat s = some group) (hne : group.endpoints ≠ [])
    (hfix : endpointEffect rows lat s s = s) :
    ∃ row ∈ group.endpoints, effectiveSelectedEndpoint rows lat s = some row ∧
      s.selectedEndpointId = some row.id := by
  have heff : effectiveSelectedEndpoint rows lat s =
      (truthyGet (endpointById group) s.selectedEndpointId).or
        (pickEndpointForGroup rows lat group) := by
    simp [effectiveSelectedEndpoint, hgroup]
  cases hexp : truthyGet (endpointById group) s.selectedEndpointId with
  | some row =>
      obtain ⟨k, hk, hrow⟩ := truthyGet_eq_some hexp
      obtain ⟨hmem, hid⟩ := endpointById_eq_some hrow
      exact ⟨row, hmem, by rw [heff, hexp]; rfl, by rw [hk, hid]⟩
  | none =>
      obtain ⟨row, hpick⟩ :=
        Option.isSome_iff_exists.mp (pickEndpointForGroup_isSome rows lat hne)
      rw [endpointEffect_eq_of_some hgroup] at hfix
      simp only [hexp, Option.isSome_none, Bool.not_false, Bool.or_true, ↓reduceIte] at hfix
      split_ifs at hfix with hnext
      · exact absurd (congrArg Selection.selectedEndpointId hfix) hnext
      · refine ⟨row, pickEndpointForGroup_mem hpick, by rw [heff, hexp, hpick]; rfl, ?_⟩
        simpa [hpick] using (not_not.mp hnext).symm

/-- Every selection the effects leave unchanged is coherent. -/
theorem coherent_of_reconcileRound_eq (hne : rows ≠ []) {s : Selection}
    (hfix : reconcileRound rows lat s = s) : SelectionCoherent rows lat s := by
  have hgne : connectionGroups rows ≠ [] := mt connectionGroups_eq_nil_iff.mp hne
  have hgroupFix : groupEffect rows lat s = s := by
    simpa [hfix] using groupEffect_reconcileRound rows lat s
  have hendpointFix : endpointEffect rows lat s s = s := by
    simpa [reconcileRound, hgroupFix] using hfix
  obtain ⟨group, hmem, hid, hgroup⟩ := group_coherent_of_groupEffect_eq hgne hgroupFix
  exact ⟨group, hmem, hid, hgroup, endpoint_coherent_of_endpointEffect_eq hgroup
    (endpoints_ne_nil_of_mem_connectionGroups hmem) hendpointFix⟩

end Lemmas

end PoolDashboard
