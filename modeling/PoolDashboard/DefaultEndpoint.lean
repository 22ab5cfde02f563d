import PoolDashboard.Rows

/-
`defaultEndpointRow`, the page's "normal difficulty" endpoint (page.tsx
566-579), and `tierLabelFor`, the tier label of a port's name (283-292).  The
default endpoint's name rule matches the condensed tier words `midrange`,
`midtier` and `medium`; a bare `mid`, which `tierLabelFor` labels
"Mid-range hardware" and `pickEndpointForGroup` (649) takes as the mid tier, is
not enough here.
-/

namespace PoolDashboard

/-- The `midTier` test: the lower-cased profile name, with every character
outside `[a-z0-9]` removed, contains `midrange`, `midtier` or `medium`. -/
def isMidTierProfile (row : ConnectionRow) : Bool :=
  let condensed := condensedLower (row.profileName.getD "")
  includes condensed "midrange" || includes condensed "midtier" || includes condensed "medium"

/-- The `preferred` test: the effective difficulty `difficulty ?? varDiffMin`
lies in `(0, 2048]`. -/
def hasPreferredDifficulty (row : ConnectionRow) : Bool :=
  match row.difficulty.toOption.or row.varDiffMin.toOption with
  | some diff => 0 < diff && diff ≤ 2048
  | none => false

def defaultEndpointRow (rows : List ConnectionRow) : Option ConnectionRow :=
  match rows with
  | [] => none
  | first :: _ =>
      ((rows.find? isMidTierProfile).or (rows.find? hasPreferredDifficulty)).or (some first)

/-- `tierLabelFor`: the label of a port's tier, read off its name, which is
shown as it is when it names no tier. -/
def tierLabelFor : Option String → Option String
  | none => none
  | some profile =>
      if profile = "" then none
      else if lowerIncludes profile "nerd" then some "NerdMiner"
      else if lowerIncludes profile "low" then some "Low-end hardware"
      else if lowerIncludes profile "mid" || lowerIncludes profile "medium" then
        some "Mid-range hardware"
      else if lowerIncludes profile "high" then some "High-end hardware"
      else if lowerIncludes profile "solo" then some "Solo tier"
      else some profile

/-- `row` is the first row of `rows` that passes `p`. -/
def IsFirst (p : ConnectionRow → Bool) (rows : List ConnectionRow) (row : ConnectionRow) :
    Prop :=
  ∃ pre post, rows = pre ++ row :: post ∧ p row = true ∧ ∀ r ∈ pre, p r = false

theorem find?_eq_some_iff_isFirst (p : ConnectionRow → Bool) (rows : List ConnectionRow)
    (row : ConnectionRow) : rows.find? p = some row ↔ IsFirst p rows row := by
  simp only [List.find?_eq_some, Bool.not_eq_true', IsFirst]
  exact ⟨fun ⟨hrow, pre, post, hsplit, hpre⟩ => ⟨pre, post, hsplit, hrow, hpre⟩,
    fun ⟨pre, post, hsplit, hrow, hpre⟩ => ⟨hrow, pre, post, hsplit, hpre⟩⟩

/-- The three rules in order, for any non-empty row list. -/
theorem defaultEndpointRow_eq_some_iff {rows : List ConnectionRow} (hne : rows ≠ [])
    (row : ConnectionRow) :
    defaultEndpointRow rows = some row ↔
      IsFirst isMidTierProfile rows row ∨
      ((∀ r ∈ rows, isMidTierProfile r = false) ∧ IsFirst hasPreferredDifficulty rows row) ∨
      ((∀ r ∈ rows, isMidTierProfile r = false ∧ hasPreferredDifficulty r = false) ∧
        rows.head? = some row) := by
  obtain ⟨first, rest, rfl⟩ := List.exists_cons_of_ne_nil hne
  simp only [defaultEndpointRow, Option.or_assoc, Option.or_eq_some, Option.or_eq_none,
    ← find?_eq_some_iff_isFirst, List.find?_eq_none, Bool.not_eq_true, List.head?_cons,
    Option.some.injEq]
  constructor
  · rintro (h | ⟨hmid, h | ⟨hpref, h⟩⟩)
    · exact .inl h
    · exact .inr (.inl ⟨hmid, h⟩)
    · exact .inr (.inr ⟨fun r hr => ⟨hmid r hr, hpref r hr⟩, h⟩)
  · rintro (h | ⟨hmid, h⟩ | ⟨hboth, h⟩)
    · exact .inl h
    · exact .inr ⟨hmid, .inl h⟩
    · exact .inr ⟨fun r hr => (hboth r hr).1, .inr ⟨fun r hr => (hboth r hr).2, h⟩⟩

/-- On every port map the page picks its default endpoint by the condensed
tier-word rule, then the difficulty rule, then the first row. -/
theorem defaultEndpointRow_connectionRows (stratumHost : String)
    (entries : List (Nat × PortConfig)) :
    let rows := connectionRows stratumHost entries
    (defaultEndpointRow rows).isSome ∧
    ∀ row, defaultEndpointRow rows = some row ↔
      IsFirst isMidTierProfile rows row ∨
      ((∀ r ∈ rows, isMidTierProfile r = false) ∧ IsFirst hasPreferredDifficulty rows row) ∨
      ((∀ r ∈ rows, isMidTierProfile r = false ∧ hasPreferredDifficulty r = false) ∧
        rows.head? = some row) := by
  have hne := connectionRows_ne_nil stratumHost entries
  refine ⟨?_, defaultEndpointRow_eq_some_iff hne⟩
  obtain ⟨first, rest, hrows⟩ := List.exists_cons_of_ne_nil hne
  simp [hrows, defaultEndpointRow]

end PoolDashboard
