import PoolDashboard.Rows

/-
The best-latency scan.  `bestLatencyRow`, `fastestEndpointFor` and the server
card's inline `fastestRow` run the same `forEach` with a `best` row and a
`bestLatency` bound starting at `+Infinity`; a success sample replaces the
best only when strictly faster, so ties keep the first row.
-/

namespace PoolDashboard

/-- The latency of a row whose sample satisfies
`entry?.status === 'success' && entry.latency !== null`. -/
def successLatency (lat : LatencyMap) (row : ConnectionRow) : Option ℤ :=
  match lat row.id with
  | some ⟨some l, .success, _⟩ => some l
  | _ => none

/-- One `forEach` step.  The accumulator is `(best, bestLatency)`, with `none`
for the initial `(null, Number.POSITIVE_INFINITY)`: every finite latency is
below the initial bound. -/
def bestLatencyStep (lat : LatencyMap) (acc : Option (ConnectionRow × ℤ))
    (row : ConnectionRow) : Option (ConnectionRow × ℤ) :=
  match successLatency lat row, acc with
  | some l, some (_, bound) => if l < bound then some (row, l) else acc
  | some l, none => some (row, l)
  | none, _ => acc

def bestLatencyScan (lat : LatencyMap) (rows : List ConnectionRow) :
    Option (ConnectionRow × ℤ) :=
  rows.foldl (bestLatencyStep lat) none

def bestLatencyRow (lat : LatencyMap) (rows : List ConnectionRow) : Option ConnectionRow :=
  (bestLatencyScan lat rows).map Prod.fst

/-- `best ?? group.endpoints[0] ?? null`. -/
def fastestEndpointFor (lat : LatencyMap) (group : ConnectionGroup) : Option ConnectionRow :=
  ((bestLatencyScan lat group.endpoints).map Prod.fst).or group.endpoints.head?

/-- The server card's inline scan: `fastest ?? group.endpoints[0] ?? null`. -/
def fastestRow (lat : LatencyMap) (group : ConnectionGroup) : Option ConnectionRow :=
  ((bestLatencyScan lat group.endpoints).map Prod.fst).or group.endpoints.head?

/-- `row` is the first row of `rows` whose success latency is minimal among the
success latencies of `rows`. -/
def IsFirstFastest (lat : LatencyMap) (rows : List ConnectionRow) (row : ConnectionRow) :
    Prop :=
  ∃ pre post l, rows = pre ++ row :: post ∧ successLatency lat row = some l ∧
    (∀ r ∈ pre, ∀ l', successLatency lat r = some l' → l < l') ∧
    (∀ r ∈ post, ∀ l', successLatency lat r = some l' → l ≤ l')

theorem bestLatencyScan_append_singleton (lat : LatencyMap) (rows : List ConnectionRow)
    (row : ConnectionRow) :
    bestLatencyScan lat (rows ++ [row]) = bestLatencyStep lat (bestLatencyScan lat rows) row := by
  simp [bestLatencyScan]

theorem bestLatencyStep_eq_none_iff (lat : LatencyMap) (acc : Option (ConnectionRow × ℤ))
    (row : ConnectionRow) :
    bestLatencyStep lat acc row = none ↔ acc = none ∧ successLatency lat row = none := by
  unfold bestLatencyStep
  split
  · split <;> simp
  · simp_all
  · simp_all

theorem bestLatencyScan_eq_none_iff (lat : LatencyMap) (rows : List ConnectionRow) :
    bestLatencyScan lat rows = none ↔ ∀ r ∈ rows, successLatency lat r = none := by
  induction rows using List.reverseRecOn with
  | nil => simp [bestLatencyScan]
  | append_singleton rows row ih =>
      simp only [bestLatencyScan_append_singleton, bestLatencyStep_eq_none_iff, ih,
        List.mem_append, List.mem_singleton, or_imp, forall_and, forall_eq]

/-- What one step of the scan can do: keep the accumulator, when the row has no
success sample or one no faster than the bound, or take the row, when its
success latency is below the bound. -/
theorem bestLatencyStep_eq_some {lat : LatencyMap} {acc : Option (ConnectionRow × ℤ)}
    {row r : ConnectionRow} {l : ℤ} (h : bestLatencyStep lat acc row = some (r, l)) :
    (acc = some (r, l) ∧ ∀ l', successLatency lat row = some l' → l ≤ l') ∨
      (r = row ∧ successLatency lat row = some l ∧ ∀ b ∈ acc, l < b.2) := by
  cases hrow : successLatency lat row with
  | none =>
      simp only [bestLatencyStep, hrow] at h
      exact .inl ⟨h, fun _ h' => nomatch h'⟩
  | some ln =>
      cases acc with
      | none =>
          simp only [bestLatencyStep, hrow, Option.some.injEq, Prod.mk.injEq] at h
          obtain ⟨rfl, rfl⟩ := h
          exact .inr ⟨rfl, rfl, fun _ hb => nomatch hb⟩
      | some best =>
          simp only [bestLatencyStep, hrow] at h
          split_ifs at h with hlt
          · cases h
            exact .inr ⟨rfl, rfl, fun b hb => by cases hb; exact hlt⟩
          · cases h
            exact .inl ⟨rfl, fun l' hl' => by cases hl'; exact not_lt.mp hlt⟩

/-- The first fastest row stays first fastest when a row no faster is appended. -/
theorem IsFirstFastest.append_of_le {lat : LatencyMap} {rows : List ConnectionRow}
    {row next : ConnectionRow} {l : ℤ} (h : IsFirstFastest lat rows row)
    (hl : successLatency lat row = some l)
    (hnext : ∀ l', successLatency lat next = some l' → l ≤ l') :
    IsFirstFastest lat (rows ++ [next]) row := by
  obtain ⟨pre, post, l₀, rfl, hl₀, hpre, hpost⟩ := h
  obtain rfl : l₀ = l := Option.some.inj (hl₀.symm.trans hl)
  refine ⟨pre, post ++ [next], l₀, by simp, hl₀, hpre, fun r hr l' hr' => ?_⟩
  rcases List.mem_append.mp hr with hr | hr
  · exact hpost r hr l' hr'
  · exact hnext l' (List.mem_singleton.mp hr ▸ hr')

/-- The first fastest row's latency bounds every success latency of the rows. -/
theorem IsFirstFastest.le {lat : LatencyMap} {rows : List ConnectionRow} {row : ConnectionRow}
    {l : ℤ} (h : IsFirstFastest lat rows row) (hl : successLatency lat row = some l) :
    ∀ r ∈ rows, ∀ l', successLatency lat r = some l' → l ≤ l' := by
  obtain ⟨pre, post, l₀, rfl, hl₀, hpre, hpost⟩ := h
  obtain rfl : l₀ = l := Option.some.inj (hl₀.symm.trans hl)
  intro r hr l' hr'
  rcases List.mem_append.mp hr with hr | hr
  · exact (hpre r hr l' hr').le
  · rcases List.mem_cons.mp hr with rfl | hr
    · exact (Option.some.inj (hl₀.symm.trans hr')).le
    · exact hpost r hr l' hr'

/-- The accumulator of the scan holds the first fastest row and its latency. -/
theorem isFirstFastest_of_bestLatencyScan {lat : LatencyMap} {rows : List ConnectionRow}
    {row : ConnectionRow} {l : ℤ} (h : bestLatencyScan lat rows = some (row, l)) :
    IsFirstFastest lat rows row ∧ successLatency lat row = some l := by
  induction rows using List.reverseRecOn generalizing row l with
  | nil => cases h
  | append_singleton rows next ih =>
      rw [bestLatencyScan_append_singleton] at h
      rcases bestLatencyStep_eq_some h with ⟨hacc, hnext⟩ | ⟨rfl, hnext, hfaster⟩
      · obtain ⟨hfirst, hl⟩ := ih hacc
        exact ⟨hfirst.append_of_le hl hnext, hl⟩
      · have hslower : ∀ r ∈ rows, ∀ l', successLatency lat r = some l' → l < l' := by
          intro r hr l' hr'
          cases hacc : bestLatencyScan lat rows with
          | none => cases ((bestLatencyScan_eq_none_iff lat rows).mp hacc r hr).symm.trans hr'
          | some best =>
              obtain ⟨hfirst, hbest⟩ := ih hacc
              exact lt_of_lt_of_le (hfaster best hacc) (hfirst.le hbest r hr l' hr')
        exact ⟨⟨rows, [], l, rfl, hnext, hslower, by simp⟩, hnext⟩

/-- At most one row is the first fastest. -/
theorem IsFirstFastest.unique {lat : LatencyMap} {rows : List ConnectionRow}
    {a b : ConnectionRow} (ha : IsFirstFastest lat rows a) (hb : IsFirstFastest lat rows b) :
    a = b := by
  obtain ⟨preA, postA, la, hsplitA, hla, hpreA, hpostA⟩ := ha
  obtain ⟨preB, postB, lb, hsplitB, hlb, hpreB, hpostB⟩ := hb
  rw [hsplitA] at hsplitB
  rcases List.append_eq_append_iff.mp hsplitB with ⟨mid, rfl, hmid⟩ | ⟨mid, rfl, hmid⟩
  · cases mid with
    | nil => simp at hmid; exact hmid.1
    | cons x mid =>
        simp only [List.cons_append, List.cons.injEq] at hmid
        obtain ⟨rfl, rfl⟩ := hmid
        have h1 := hpostA b (by simp) lb hlb
        have h2 := hpreB a (by simp) la hla
        omega
  · cases mid with
    | nil => simp at hmid; exact hmid.1.symm
    | cons x mid =>
        simp only [List.cons_append, List.cons.injEq] at hmid
        obtain ⟨rfl, rfl⟩ := hmid
        have h1 := hpostB a (by simp) la hla
        have h2 := hpreA b (by simp) lb hlb
        omega

theorem bestLatencyRow_eq_some_iff (lat : LatencyMap) (rows : List ConnectionRow)
    (row : ConnectionRow) : bestLatencyRow lat rows = some row ↔ IsFirstFastest lat rows row := by
  constructor
  · intro h
    obtain ⟨⟨best, l⟩, hscan, rfl⟩ := Option.map_eq_some'.mp h
    exact (isFirstFastest_of_bestLatencyScan hscan).1
  · intro hrow
    obtain ⟨pre, post, l, hsplit, hl, -, -⟩ := id hrow
    cases hscan : bestLatencyScan lat rows with
    | none =>
        have := (bestLatencyScan_eq_none_iff lat rows).mp hscan row (by simp [hsplit])
        simp [hl] at this
    | some best =>
        have hbest := (isFirstFastest_of_bestLatencyScan hscan).1
        simp [bestLatencyRow, hscan, hbest.unique hrow]

theorem fastestEndpointFor_eq (lat : LatencyMap) (group : ConnectionGroup) :
    fastestEndpointFor lat group = (bestLatencyRow lat group.endpoints).or group.endpoints.head? :=
  rfl

theorem fastestRow_eq (lat : LatencyMap) (group : ConnectionGroup) :
    fastestRow lat group = (bestLatencyRow lat group.endpoints).or group.endpoints.head? :=
  rfl

theorem bestLatencyRow_eq_none_iff (lat : LatencyMap) (rows : List ConnectionRow) :
    bestLatencyRow lat rows = none ↔ ∀ r ∈ rows, successLatency lat r = none := by
  simp only [bestLatencyRow, Option.map_eq_none', bestLatencyScan_eq_none_iff]

/-- The best-latency fold picks the first row of minimal success latency, and
both per-group scans pick that row of the group, else its first endpoint. -/
theorem bestLatencyRow_first_fastest (lat : LatencyMap) :
    (∀ rows : List ConnectionRow,
      (bestLatencyRow lat rows = none ↔ ∀ r ∈ rows, successLatency lat r = none) ∧
      ∀ row, bestLatencyRow lat rows = some row ↔ IsFirstFastest lat rows row) ∧
    ∀ group : ConnectionGroup,
      (∀ row, IsFirstFastest lat group.endpoints row →
        fastestEndpointFor lat group = some row ∧ fastestRow lat group = some row) ∧
      ((∀ r ∈ group.endpoints, successLatency lat r = none) →
        fastestEndpointFor lat group = group.endpoints.head? ∧
          fastestRow lat group = group.endpoints.head?) := by
  refine ⟨fun rows => ⟨bestLatencyRow_eq_none_iff lat rows, bestLatencyRow_eq_some_iff lat rows⟩,
    fun group => ⟨fun row hrow => ?_, fun hnone => ?_⟩⟩
  · have h := (bestLatencyRow_eq_some_iff lat group.endpoints row).mpr hrow
    simp [fastestEndpointFor_eq, fastestRow_eq, h]
  · have h := (bestLatencyRow_eq_none_iff lat group.endpoints).mpr hnone
    simp [fastestEndpointFor_eq, fastestRow_eq, h]

private def exampleRow (id : String) : ConnectionRow :=
  ⟨id, "pool.local", 0, none, .null, .null⟩

private def exampleLatencies : LatencyMap := fun k =>
  if k = "A" then some ⟨some 80, .success, none⟩
  else if k = "B" then some ⟨some 40, .success, none⟩
  else if k = "C" then some ⟨none, .error, some "timeout"⟩
  else none

example : bestLatencyRow exampleLatencies (["A", "B", "C"].map exampleRow) =
    some (exampleRow "B") := by
  decide

end PoolDashboard
