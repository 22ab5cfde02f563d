import PoolDashboard.Basic

/-
Connection rows and groups of the pool-detail page.  Every row built from a
port map carries the one configured stratum host, so the page always shows a
single server group; `connectionGroups` itself groups any row list by host.
-/

namespace PoolDashboard

/-- The row the page shows while the port map is empty: id `'default'`, port
`Number(primaryPort ?? 3333)`, every difficulty field left `undefined`. -/
def placeholderRow (stratumHost : String) : ConnectionRow :=
  ⟨"default", stratumHost, 3333, none, .undefined, .undefined⟩

/-- The row built from one `[port, config]` entry of `Object.entries(pool.ports)`;
the key of a port map entry is the decimal form of the port. -/
def portRow (stratumHost : String) (entry : Nat × PortConfig) : ConnectionRow :=
  ⟨stratumHost ++ "-" ++ toString entry.1, stratumHost, entry.1, entry.2.name,
    .ofOption entry.2.difficulty, .ofOption (entry.2.varDiff.bind (·.minDiff))⟩

def connectionRows (stratumHost : String) :
    List (Nat × PortConfig) → List ConnectionRow
  | [] => [placeholderRow stratumHost]
  | entry :: entries => (entry :: entries).map (portRow stratumHost)

/-- One `forEach` step of `connectionGroups`: open a group for the row's host
on first sight, then push the row onto that group's endpoints. -/
def pushByHost (groups : List ConnectionGroup) (row : ConnectionRow) :
    List ConnectionGroup :=
  if groups.any (·.id = row.host) then
    groups.map fun g => if g.id = row.host then { g with endpoints := g.endpoints ++ [row] } else g
  else groups ++ [⟨row.host, row.host, [row]⟩]

/-- `[...endpoints].sort((a, b) => a.port - b.port)`; `Array.prototype.sort`
is stable, and so is insertion sort. -/
def sortByPort (rows : List ConnectionRow) : List ConnectionRow :=
  rows.insertionSort (fun a b => a.port ≤ b.port)

def connectionGroups (rows : List ConnectionRow) : List ConnectionGroup :=
  (rows.foldl pushByHost []).map fun g => { g with endpoints := sortByPort g.endpoints }

/-- A `Map` filled by `set` over the groups in order, so a later group under the
same key wins. -/
def mapBy (key : ConnectionGroup → String) (groups : List ConnectionGroup) :
    String → Option ConnectionGroup :=
  groups.foldl (fun m g k => if k = key g then some g else m k) (fun _ => none)

def groupByHost (groups : List ConnectionGroup) : String → Option ConnectionGroup :=
  mapBy (·.host) groups

def groupById (groups : List ConnectionGroup) : String → Option ConnectionGroup :=
  mapBy (·.id) groups

theorem mem_sortByPort {rows : List ConnectionRow} {row : ConnectionRow} :
    row ∈ sortByPort rows ↔ row ∈ rows :=
  (List.perm_insertionSort _ rows).mem_iff

private theorem foldl_set_eq_find? (key : ConnectionGroup → String)
    (groups : List ConnectionGroup) (m : String → Option ConnectionGroup) (k : String) :
    groups.foldl (fun m g k => if k = key g then some g else m k) m k =
      (groups.reverse.find? (key · = k)).or (m k) := by
  induction groups generalizing m with
  | nil => rfl
  | cons head tail ih =>
      rw [List.foldl_cons, ih, List.reverse_cons, List.find?_append, Option.or_assoc]
      by_cases hk : k = key head <;> simp [hk, eq_comm]

/-- `Map.get` after the `set` loop: the last group stored under the key. -/
theorem mapBy_eq_find? (key : ConnectionGroup → String) (groups : List ConnectionGroup)
    (k : String) : mapBy key groups k = groups.reverse.find? (key · = k) := by
  simp [mapBy, foldl_set_eq_find?]

/-- A lookup only ever returns a group stored under the key asked for. -/
theorem mapBy_eq_some {key : ConnectionGroup → String} {groups : List ConnectionGroup}
    {k : String} {g : ConnectionGroup} (h : mapBy key groups k = some g) :
    g ∈ groups ∧ key g = k := by
  rw [mapBy_eq_find?] at h
  exact ⟨List.mem_reverse.mp (List.mem_of_find?_eq_some h), by simpa using List.find?_some h⟩

theorem mapBy_isSome_iff {key : ConnectionGroup → String} {groups : List ConnectionGroup}
    {k : String} : (mapBy key groups k).isSome ↔ ∃ g ∈ groups, key g = k := by
  simp only [mapBy_eq_find?, List.find?_isSome, List.mem_reverse, decide_eq_true_eq]

theorem pushByHost_ne_nil (groups : List ConnectionGroup) (row : ConnectionRow) :
    pushByHost groups row ≠ [] := by
  unfold pushByHost
  split
  · next hany =>
      obtain ⟨g, hg, -⟩ := List.any_eq_true.mp hany
      simpa using List.ne_nil_of_mem hg
  · simp

private theorem foldl_pushByHost_endpoints_ne_nil (rows : List ConnectionRow)
    (groups : List ConnectionGroup) (hgroups : ∀ g ∈ groups, g.endpoints ≠ []) :
    ∀ g ∈ rows.foldl pushByHost groups, g.endpoints ≠ [] := by
  induction rows generalizing groups with
  | nil => exact hgroups
  | cons row rows ih =>
      apply ih
      intro g hg
      unfold pushByHost at hg
      split at hg
      · obtain ⟨g', hg', rfl⟩ := List.mem_map.mp hg
        split
        · simp
        · exact hgroups g' hg'
      · rcases List.mem_append.mp hg with hg | hg
        · exact hgroups g hg
        · simp [List.mem_singleton.mp hg]

private theorem foldl_pushByHost_ne_nil (rows : List ConnectionRow)
    {groups : List ConnectionGroup} (hgroups : groups ≠ []) : rows.foldl pushByHost groups ≠ [] := by
  induction rows generalizing groups with
  | nil => exact hgroups
  | cons row rows ih => exact ih (pushByHost_ne_nil groups row)

theorem connectionGroups_eq_nil_iff {rows : List ConnectionRow} :
    connectionGroups rows = [] ↔ rows = [] := by
  cases rows with
  | nil => simp [connectionGroups]
  | cons row rows =>
      simpa [connectionGroups] using foldl_pushByHost_ne_nil rows (pushByHost_ne_nil [] row)

/-- Every group has at least the row that opened it. -/
theorem endpoints_ne_nil_of_mem_connectionGroups {rows : List ConnectionRow}
    {group : ConnectionGroup} (hgroup : group ∈ connectionGroups rows) : group.endpoints ≠ [] := by
  obtain ⟨g, hg, rfl⟩ := List.mem_map.mp hgroup
  have hne := foldl_pushByHost_endpoints_ne_nil rows [] (by simp) g hg
  simpa [← List.length_pos, sortByPort, List.length_insertionSort] using List.length_pos.mpr hne

theorem connectionRows_ne_nil (stratumHost : String) (entries : List (Nat × PortConfig)) :
    connectionRows stratumHost entries ≠ [] := by
  cases entries <;> simp [connectionRows]

theorem host_of_mem_connectionRows {stratumHost : String} {entries : List (Nat × PortConfig)}
    {row : ConnectionRow} (hrow : row ∈ connectionRows stratumHost entries) :
    row.host = stratumHost := by
  cases entries with
  | nil => simp_all [connectionRows, placeholderRow]
  | cons entry entries =>
      obtain ⟨e, -, rfl⟩ := List.mem_map.mp hrow
      rfl

/-- Row ids are truthy: `'default'`, or the host, a dash and the port. -/
theorem id_ne_empty_of_mem_connectionRows {stratumHost : String}
    {entries : List (Nat × PortConfig)} {row : ConnectionRow}
    (hrow : row ∈ connectionRows stratumHost entries) : row.id ≠ "" := by
  cases entries with
  | nil => simp_all [connectionRows, placeholderRow]
  | cons entry entries =>
      obtain ⟨e, -, rfl⟩ := List.mem_map.mp hrow
      intro h
      have hlen := congrArg String.length h
      have hdash : ("-" : String).length = 1 := rfl
      simp only [portRow, String.length_append, hdash] at hlen
      exact absurd hlen (by simp)

private theorem foldl_pushByHost_of_host_eq {host : String} (rows acc : List ConnectionRow)
    (hhost : ∀ row ∈ rows, row.host = host) :
    rows.foldl pushByHost [⟨host, host, acc⟩] = [⟨host, host, acc ++ rows⟩] := by
  induction rows generalizing acc with
  | nil => simp
  | cons row rows ih =>
      have hpush : pushByHost [⟨host, host, acc⟩] row = [⟨host, host, acc ++ [row]⟩] := by
        simp [pushByHost, hhost row (List.mem_cons_self _ _)]
      rw [List.foldl_cons, hpush, ih (acc ++ [row]) fun r hr => hhost r (List.mem_cons_of_mem _ hr)]
      simp

/-- Rows that share one host form exactly one group. -/
theorem connectionGroups_of_host_eq {host : String} {rows : List ConnectionRow}
    (hne : rows ≠ []) (hhost : ∀ row ∈ rows, row.host = host) :
    connectionGroups rows = [⟨host, host, sortByPort rows⟩] := by
  obtain ⟨row, rest, rfl⟩ := List.exists_cons_of_ne_nil hne
  have hrow : row.host = host := hhost row (List.mem_cons_self _ _)
  simp only [connectionGroups, List.foldl_cons, pushByHost, List.any_nil, Bool.false_eq_true,
    ↓reduceIte, List.nil_append, hrow]
  rw [foldl_pushByHost_of_host_eq rest [row] fun r hr => hhost r (List.mem_cons_of_mem _ hr)]
  rfl

/-- The page's single server group. -/
theorem connectionGroups_connectionRows (stratumHost : String)
    (entries : List (Nat × PortConfig)) :
    connectionGroups (connectionRows stratumHost entries) =
      [⟨stratumHost, stratumHost, sortByPort (connectionRows stratumHost entries)⟩] :=
  connectionGroups_of_host_eq (connectionRows_ne_nil _ _) fun _ => host_of_mem_connectionRows

/-- One step of `List.eraseDups` read as a left fold: an element already kept is
skipped, a new one is appended. -/
def keepFirst {α : Type} [DecidableEq α] (kept : List α) (x : α) : List α :=
  if x ∈ kept then kept else kept ++ [x]

private theorem eraseDups_loop_eq {α : Type} [DecidableEq α] (l seen : List α) :
    List.eraseDups.loop l seen = l.foldl keepFirst seen.reverse := by
  induction l generalizing seen with
  | nil => rfl
  | cons a l ih =>
      simp only [List.eraseDups.loop, List.foldl_cons, keepFirst]
      by_cases ha : a ∈ seen
      · simp only [List.elem_iff.mpr ha, ih, List.mem_reverse, ha, ↓reduceIte]
      · have hfresh : seen.elem a = false := by simpa using ha
        simp only [hfresh, ih, List.mem_reverse, ha, ↓reduceIte, List.reverse_cons]

theorem eraseDups_append_singleton {α : Type} [DecidableEq α] (l : List α) (x : α) :
    (l ++ [x]).eraseDups = keepFirst l.eraseDups x := by
  simp only [List.eraseDups, eraseDups_loop_eq, List.reverse_nil, List.foldl_append,
    List.foldl_cons, List.foldl_nil]

theorem mem_eraseDups {α : Type} [DecidableEq α] {l : List α} {x : α} :
    x ∈ l.eraseDups ↔ x ∈ l := by
  induction l using List.reverseRecOn generalizing x with
  | nil => rfl
  | append_singleton l a ih =>
      rw [eraseDups_append_singleton, keepFirst]
      split
      · rename_i ha
        rw [ih, List.mem_append, List.mem_singleton]
        exact ⟨.inl, fun h => h.elim id fun hx => hx ▸ ih.mp ha⟩
      · rw [List.mem_append, List.mem_append, ih]

theorem nodup_eraseDups {α : Type} [DecidableEq α] (l : List α) : l.eraseDups.Nodup := by
  induction l using List.reverseRecOn with
  | nil => exact List.nodup_nil
  | append_singleton l a ih =>
      rw [eraseDups_append_singleton, keepFirst]
      split
      · exact ih
      · exact ih.append (List.nodup_singleton a) (List.disjoint_singleton.mpr ‹_›)

/-- The partition of a row list by host: one group per host, in the order the
hosts first occur, holding that host's rows in list order.  It is what the
`forEach` over `Map.has`, `Map.set` and `push` builds before the port sort. -/
def hostPartition (rows : List ConnectionRow) : List ConnectionGroup :=
  (rows.map (·.host)).eraseDups.map fun host => ⟨host, host, rows.filter (·.host = host)⟩

/-- One `forEach` step moves the partition of the rows seen so far to the
partition of one row more. -/
theorem pushByHost_hostPartition (rows : List ConnectionRow) (row : ConnectionRow) :
    pushByHost (hostPartition rows) row = hostPartition (rows ++ [row]) := by
  have hany : (hostPartition rows).any (·.id = row.host) = true ↔
      row.host ∈ (rows.map (·.host)).eraseDups := by
    simp only [hostPartition, List.any_eq_true, List.mem_map, exists_exists_and_eq_and,
      decide_eq_true_eq, exists_eq_right]
  unfold pushByHost
  by_cases hmem : row.host ∈ (rows.map (·.host)).eraseDups
  · rw [if_pos (hany.mpr hmem)]
    simp only [hostPartition, List.map_append, List.map_singleton, eraseDups_append_singleton,
      keepFirst, hmem, ↓reduceIte, List.map_map]
    refine List.map_congr_left fun host _ => ?_
    by_cases hhost : host = row.host
    · subst hhost
      simp
    · simp [hhost, Ne.symm hhost]
  · have hnone : rows.filter (·.host = row.host) = [] := by
      rw [List.filter_eq_nil_iff]
      intro r hr hrow
      exact hmem (mem_eraseDups.mpr (List.mem_map.mpr ⟨r, hr, of_decide_eq_true hrow⟩))
    rw [if_neg (mt hany.mp hmem)]
    simp only [hostPartition, List.map_append, List.map_singleton, eraseDups_append_singleton,
      keepFirst, hmem, ↓reduceIte, List.filter_append, hnone, List.nil_append]
    congr 1
    · refine List.map_congr_left fun host hhost => ?_
      have hne : row.host ≠ host := fun h => hmem (h ▸ hhost)
      simp [hne]
    · simp

theorem foldl_pushByHost_eq_hostPartition (rows : List ConnectionRow) :
    rows.foldl pushByHost [] = hostPartition rows := by
  induction rows using List.reverseRecOn with
  | nil => rfl
  | append_singleton rows row ih =>
      rw [List.foldl_append, List.foldl_cons, List.foldl_nil, ih, pushByHost_hostPartition]

/-- `connectionGroups` is the host partition with each group sorted by port. -/
theorem connectionGroups_eq (rows : List ConnectionRow) :
    connectionGroups rows = (rows.map (·.host)).eraseDups.map fun host =>
      ⟨host, host, sortByPort (rows.filter (·.host = host))⟩ := by
  rw [connectionGroups, foldl_pushByHost_eq_hostPartition, hostPartition, List.map_map]
  rfl

/-- The groups are one per host of the rows, each holding that host's rows
sorted by port. -/
theorem mem_connectionGroups {rows : List ConnectionRow} {g : ConnectionGroup} :
    g ∈ connectionGroups rows ↔
      ∃ row ∈ rows, g = ⟨row.host, row.host, sortByPort (rows.filter (·.host = row.host))⟩ := by
  rw [connectionGroups_eq, List.mem_map]
  constructor
  · rintro ⟨host, hhost, rfl⟩
    obtain ⟨row, hrow, rfl⟩ := List.mem_map.mp (mem_eraseDups.mp hhost)
    exact ⟨row, hrow, rfl⟩
  · rintro ⟨row, hrow, rfl⟩
    exact ⟨row.host, mem_eraseDups.mpr (List.mem_map_of_mem _ hrow), rfl⟩

/-- A group holds exactly the rows of its host. -/
theorem mem_endpoints_of_mem_connectionGroups {rows : List ConnectionRow} {g : ConnectionGroup}
    (hg : g ∈ connectionGroups rows) {row : ConnectionRow} :
    row ∈ g.endpoints ↔ row ∈ rows ∧ row.host = g.host := by
  obtain ⟨r, -, rfl⟩ := mem_connectionGroups.mp hg
  simp [mem_sortByPort]

/-- The group ids are the hosts in the order they first occur. -/
theorem map_id_connectionGroups (rows : List ConnectionRow) :
    (connectionGroups rows).map (·.id) = (rows.map (·.host)).eraseDups := by
  rw [connectionGroups_eq, List.map_map]
  exact List.map_id'' (fun _ => rfl) _

theorem id_eq_host_of_mem_connectionGroups {rows : List ConnectionRow} {g : ConnectionGroup}
    (hg : g ∈ connectionGroups rows) : g.id = g.host := by
  obtain ⟨r, -, rfl⟩ := mem_connectionGroups.mp hg
  rfl

/-- A group's endpoints are its host's rows, sorted by port. -/
theorem endpoints_of_mem_connectionGroups {rows : List ConnectionRow} {g : ConnectionGroup}
    (hg : g ∈ connectionGroups rows) :
    g.endpoints.Perm (rows.filter (·.host = g.host)) ∧
      g.endpoints.Sorted (fun a b => a.port ≤ b.port) := by
  obtain ⟨r, -, rfl⟩ := mem_connectionGroups.mp hg
  haveI : IsTotal ConnectionRow (fun a b => a.port ≤ b.port) := ⟨fun a b => le_total a.port b.port⟩
  haveI : IsTrans ConnectionRow (fun a b => a.port ≤ b.port) := ⟨fun _ _ _ => le_trans⟩
  exact ⟨List.perm_insertionSort _ _, List.sorted_insertionSort _ _⟩

/-- The group of a row's host. -/
theorem hostGroup_mem_connectionGroups {rows : List ConnectionRow} {row : ConnectionRow}
    (hrow : row ∈ rows) :
    (⟨row.host, row.host, sortByPort (rows.filter (·.host = row.host))⟩ : ConnectionGroup) ∈
      connectionGroups rows :=
  mem_connectionGroups.mpr ⟨row, hrow, rfl⟩

theorem mem_endpoints_iff_host {rows : List ConnectionRow} {row : ConnectionRow}
    (hrow : row ∈ rows) {g : ConnectionGroup} (hg : g ∈ connectionGroups rows) :
    row ∈ g.endpoints ↔ g.host = row.host :=
  (mem_endpoints_of_mem_connectionGroups hg).trans ⟨fun h => h.2.symm, fun h => ⟨hrow, h.symm⟩⟩

theorem existsUnique_group_of_mem {rows : List ConnectionRow} {row : ConnectionRow}
    (hrow : row ∈ rows) : ∃! g, g ∈ connectionGroups rows ∧ row ∈ g.endpoints := by
  have hown := hostGroup_mem_connectionGroups hrow
  refine ⟨_, ⟨hown, (mem_endpoints_iff_host hrow hown).mpr rfl⟩, ?_⟩
  rintro g ⟨hg, hrowg⟩
  obtain ⟨r, -, rfl⟩ := mem_connectionGroups.mp hg
  have hhost : r.host = row.host := (mem_endpoints_iff_host hrow hg).mp hrowg
  rw [hhost]

/-- A `Map` of the groups keyed by a field that equals the host finds each
row's group under the row's host. -/
theorem mapBy_finds_row {rows : List ConnectionRow} {key : ConnectionGroup → String}
    (hkey : ∀ g ∈ connectionGroups rows, key g = g.host) {row : ConnectionRow}
    (hrow : row ∈ rows) :
    ∃ g, mapBy key (connectionGroups rows) row.host = some g ∧ row ∈ g.endpoints := by
  have hown := hostGroup_mem_connectionGroups hrow
  obtain ⟨g, hg⟩ := Option.isSome_iff_exists.mp (mapBy_isSome_iff.mpr ⟨_, hown, hkey _ hown⟩)
  obtain ⟨hgm, hgk⟩ := mapBy_eq_some hg
  exact ⟨g, hg, (mem_endpoints_iff_host hrow hgm).mpr ((hkey g hgm).symm.trans hgk)⟩

/-- `connectionGroups` partitions any row list by host.  The group ids are the
hosts, distinct and in the order they first occur; each group holds exactly the
rows of its host, sorted by port; each row lies in exactly one group, the one of
its host, so the maps keyed by host and by id both find it under its host. -/
theorem connectionGroups_partition (rows : List ConnectionRow) :
    let groups := connectionGroups rows
    groups.map (·.id) = (rows.map (·.host)).eraseDups ∧
      (groups.map (·.id)).Nodup ∧
      (∀ g ∈ groups, g.id = g.host ∧ g.endpoints.Perm (rows.filter (·.host = g.host)) ∧
        g.endpoints.Sorted (fun a b => a.port ≤ b.port)) ∧
      (∀ row ∈ rows, (∃! g, g ∈ groups ∧ row ∈ g.endpoints) ∧
        ∀ g ∈ groups, row ∈ g.endpoints ↔ g.host = row.host) ∧
      ∀ row ∈ rows, (∃ g, groupByHost groups row.host = some g ∧ row ∈ g.endpoints) ∧
        ∃ g, groupById groups row.host = some g ∧ row ∈ g.endpoints := by
  intro groups
  have hids : groups.map (·.id) = (rows.map (·.host)).eraseDups := map_id_connectionGroups rows
  exact ⟨hids, hids ▸ nodup_eraseDups _,
    fun g hg => ⟨id_eq_host_of_mem_connectionGroups hg, endpoints_of_mem_connectionGroups hg⟩,
    fun row hrow => ⟨existsUnique_group_of_mem hrow, fun _ => mem_endpoints_iff_host hrow⟩,
    fun row hrow => ⟨mapBy_finds_row (fun _ _ => rfl) hrow,
      mapBy_finds_row (fun _ => id_eq_host_of_mem_connectionGroups) hrow⟩⟩

end PoolDashboard
