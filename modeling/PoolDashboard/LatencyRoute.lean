import Mathlib.Algebra.Order.Ring.Rat
import Mathlib.Tactic.NormNum
import PoolDashboard.Json
import Mathlib.Data.List.DropRight

/-
The `POST /api/latency` route.  It parses the body, reads `host`, `port` and
`timeout` through JavaScript's conversions, answers 400 unless the trimmed
host is non-empty and the port a number above zero, and otherwise hands host
and port to `net.createConnection`, whose port check throws for anything but
an integer in `[0, 65535]`.  A throw inside the `Promise` executor rejects the
promise the handler awaits, so it leaves `POST`.  How a socket ends is the
network's business: `net` maps each attempt to its outcome.
-/

namespace PoolDashboard

/-- A JavaScript number: `NaN`, an infinity, or a finite double kept as a
rational. -/
inductive JsNumber where
  | nan
  | posInf
  | negInf
  | finite (q : ℚ)
deriving Repr, DecidableEq

/-- `Math.max(a, b)`. -/
def JsNumber.max : JsNumber → JsNumber → JsNumber
  | .nan, _ | _, .nan => .nan
  | .posInf, _ | _, .posInf => .posInf
  | .negInf, b => b
  | a, .negInf => a
  | .finite a, .finite b => .finite (Max.max a b)

/-- `Math.min(a, b)`. -/
def JsNumber.min : JsNumber → JsNumber → JsNumber
  | .nan, _ | _, .nan => .nan
  | .negInf, _ | _, .negInf => .negInf
  | .posInf, b => b
  | a, .posInf => a
  | .finite a, .finite b => .finite (Min.min a b)

/-- `n || fallback` for a number: `NaN` and zero are falsy. -/
def JsNumber.orElse (n : JsNumber) (fallback : ℚ) : JsNumber :=
  match n with
  | .nan => .finite fallback
  | .finite q => if q = 0 then .finite fallback else .finite q
  | n => n

def JsNumber.isNaN : JsNumber → Bool
  | .nan => true
  | _ => false

/-- `n <= 0`, false for `NaN`. -/
def JsNumber.leZero : JsNumber → Bool
  | .finite q => q ≤ 0
  | .negInf => true
  | _ => false

/-- `Number(value)` of a body member, `none` being `undefined`.  A string or an
array reaches `StringToNumber` through its text; that path is `textNumber`,
left abstract (it throws for an array holding an object with its own
`toString`).  An object converts through `"[object Object]"` to `NaN`, unless
it has its own `toString` member, which JSON makes a non-callable value, so
the conversion throws. -/
def jsNumber (textNumber : Json → Except String JsNumber) : Option Json → Except String JsNumber
  | none => .ok .nan
  | some .null => .ok (.finite 0)
  | some (.bool b) => .ok (.finite (if b then 1 else 0))
  | some (.num q) => .ok (.finite q)
  | some (.obj members) => if members.any (·.1 = "toString") then .error "TypeError" else .ok .nan
  | some value => textNumber value

/-- The code points `String.prototype.trim` strips: white space and line
terminators. -/
def isTrimmed (c : Char) : Bool :=
  [0x09, 0x0A, 0x0B, 0x0C, 0x0D, 0x20, 0xA0, 0x1680, 0x2028, 0x2029, 0x202F, 0x205F, 0x3000,
    0xFEFF].contains c.toNat || (0x2000 ≤ c.toNat && c.toNat ≤ 0x200A)

def jsTrim (s : String) : String :=
  ⟨((s.data.dropWhile isTrimmed).reverse.dropWhile isTrimmed).reverse⟩

theorem dropWhile_rdropWhile_dropWhile {α : Type} (p : α → Bool) (l : List α) :
    ((l.dropWhile p).rdropWhile p).dropWhile p = (l.dropWhile p).rdropWhile p := by
  cases hu : l.dropWhile p with
  | nil => simp
  | cons a rest =>
      have ha : p a = false := by
        simpa [hu] using List.head_dropWhile_not p l (by simp [hu])
      have hne : (a :: rest).rdropWhile p ≠ [] := by
        rw [Ne, List.rdropWhile_eq_nil_iff]
        intro hall
        simp [hall a (List.mem_cons_self a rest)] at ha
      obtain ⟨t, ht⟩ := List.rdropWhile_prefix p (a :: rest)
      obtain ⟨b, bs, hb⟩ := List.exists_cons_of_ne_nil hne
      rw [hb] at ht ⊢
      obtain ⟨rfl, -⟩ := List.cons.inj ht
      exact List.dropWhile_cons_of_neg (by simp [ha])

/-- `String.prototype.trim` removes all it removes at once. -/
theorem jsTrim_jsTrim (s : String) : jsTrim (jsTrim s) = jsTrim s := by
  show (⟨(((s.data.dropWhile isTrimmed).rdropWhile isTrimmed).dropWhile isTrimmed).rdropWhile
    isTrimmed⟩ : String) = ⟨(s.data.dropWhile isTrimmed).rdropWhile isTrimmed⟩
  rw [dropWhile_rdropWhile_dropWhile, List.rdropWhile_idempotent]

/-- `payload.host?.trim()`.  Reading a member of a `null` body throws; a
missing or `null` host is `undefined`; a string is trimmed; any other host has
no callable `trim`, so the call throws. -/
def hostOf (payload : Json) : Except String (Option String) :=
  match payload with
  | .null => .error "TypeError"
  | _ =>
      match payload.member? "host" with
      | none | some .null => .ok none
      | some (.str s) => .ok (some (jsTrim s))
      | some _ => .error "TypeError"

/-- `Math.min(Math.max(Number(payload.timeout) || 3000, 500), 10_000)`. -/
def timeoutOf (textNumber : Json → Except String JsNumber) (payload : Json) :
    Except String JsNumber :=
  (jsNumber textNumber (payload.member? "timeout")).map fun n =>
    ((n.orElse 3000).max (.finite 500)).min (.finite 10000)

/-- Node's `validatePort` for a number: an integer in `[0, 65535]`, else
`ERR_SOCKET_BAD_PORT`. -/
def validatePort : JsNumber → Except String Nat
  | .finite q =>
      if q.den = 1 ∧ 0 ≤ q.num ∧ q.num ≤ 65535 then .ok q.num.toNat
      else .error "ERR_SOCKET_BAD_PORT"
  | _ => .error "ERR_SOCKET_BAD_PORT"

/-- How a connection attempt ends: connected with `latency` the difference of
two `Date.now()` readings, which a clock set back makes negative; timed out; or
failed with an `error` event. -/
inductive SocketOutcome where
  | connected (latency : ℤ)
  | timedOut
  | failed

/-- The value the handler's promise resolves to. -/
def socketResult : SocketOutcome → Json
  | .connected latency => .obj [("latency", .num latency)]
  | .timedOut => .obj [("latency", .null), ("error", .str "timeout")]
  | .failed => .obj [("latency", .null), ("error", .str "connect-error")]

def errorBody (message : String) : Json :=
  .obj [("error", .str message)]

/-- What `POST` does: answer with a status and a JSON body, or throw. -/
inductive RouteOutcome where
  | respond (status : Nat) (body : Json)
  | throws (error : String)

/-- The handler once `request.json()` has parsed the body.  `!host` is an
`undefined` or empty host. -/
def latencyHandler (textNumber : Json → Except String JsNumber)
    (net : String → Nat → JsNumber → SocketOutcome) (payload : Json) :
    Except String (Nat × Json) := do
  let host ← hostOf payload
  let port ← jsNumber textNumber (payload.member? "port")
  let timeout ← timeoutOf textNumber payload
  if host.getD "" = "" ∨ port.isNaN ∨ port.leZero then
    return (400, errorBody "host and port are required")
  let validPort ← validatePort port
  return (200, socketResult (net (host.getD "") validPort timeout))

/-- `POST`; `none` is a body that `request.json()` rejects. -/
def latencyPost (textNumber : Json → Except String JsNumber)
    (net : String → Nat → JsNumber → SocketOutcome) : Option Json → RouteOutcome
  | none => .respond 400 (errorBody "Invalid JSON payload")
  | some payload =>
      match latencyHandler textNumber net payload with
      | .ok (status, body) => .respond status body
      | .error e => .throws e

theorem validatePort_eq_ok {n : JsNumber} {port : Nat} (h : validatePort n = .ok port) :
    ∃ q : ℚ, n = .finite q ∧ q.den = 1 ∧ q.num = port ∧ port ≤ 65535 := by
  cases n with
  | finite q =>
      simp only [validatePort] at h
      split_ifs at h with hq
      cases h
      refine ⟨q, rfl, hq.1, Int.toNat_of_nonneg hq.2.1 |>.symm, ?_⟩
      omega
  | _ => cases h

/-- The clamp always yields a finite timeout in `[500, 10000]`. -/
theorem clamp_timeout (n : JsNumber) :
    ∃ q : ℚ, ((n.orElse 3000).max (.finite 500)).min (.finite 10000) = .finite q ∧
      500 ≤ q ∧ q ≤ 10000 := by
  cases n with
  | nan => exact ⟨3000, rfl, by norm_num, by norm_num⟩
  | posInf => exact ⟨10000, rfl, by norm_num, le_refl _⟩
  | negInf => exact ⟨500, rfl, le_refl _, by norm_num⟩
  | finite q =>
      refine ⟨Min.min (Max.max (if q = 0 then 3000 else q) 500) 10000, ?_,
        le_min (le_max_right _ _) (by norm_num), min_le_right _ _⟩
      simp only [JsNumber.orElse]
      split_ifs <;> rfl

theorem timeoutOf_eq_ok {textNumber : Json → Except String JsNumber} {payload : Json}
    {timeout : JsNumber} (h : timeoutOf textNumber payload = .ok timeout) :
    ∃ q : ℚ, timeout = .finite q ∧ 500 ≤ q ∧ q ≤ 10000 := by
  unfold timeoutOf at h
  cases hn : jsNumber textNumber (payload.member? "timeout") with
  | error e => rw [hn] at h; cases h
  | ok n =>
      simp only [hn, Except.map] at h
      cases h
      exact clamp_timeout n

theorem except_bind_eq_ok {α β : Type} {x : Except String α} {f : α → Except String β} {b : β}
    (h : x >>= f = .ok b) : ∃ a, x = .ok a ∧ f a = .ok b := by
  cases x with
  | error e => cases h
  | ok a => exact ⟨a, rfl, h⟩

theorem hostOf_eq_ok {payload : Json} {host : Option String} (h : hostOf payload = .ok host)
    (hne : host.getD "" ≠ "") :
    ∃ text, payload.member? "host" = some (.str text) ∧ host = some (jsTrim text) := by
  unfold hostOf at h
  split at h
  · cases h
  · split at h
    · cases h; exact absurd rfl hne
    · cases h; exact absurd rfl hne
    · next text htext => cases h; exact ⟨text, htext, rfl⟩
    · cases h

/-- Every answer other than 400 is 200 with the socket's result for a
connection attempt to the body's trimmed host, which is non-empty, on the
body's `Number(port)`, an integer in `[1, 65535]`, with the clamped timeout, in
`[500, 10000]`. -/
theorem latencyPost_responds (textNumber : Json → Except String JsNumber)
    (net : String → Nat → JsNumber → SocketOutcome) (body : Option Json) (status : Nat)
    (json : Json) (h : latencyPost textNumber net body = .respond status json)
    (hstatus : status ≠ 400) :
    status = 200 ∧ ∃ (payload : Json) (hostText : String) (port : Nat) (timeout : JsNumber),
      body = some payload ∧ payload.member? "host" = some (.str hostText) ∧ jsTrim hostText ≠ "" ∧
      jsNumber textNumber (payload.member? "port") = .ok (.finite port) ∧ 1 ≤ port ∧
      port ≤ 65535 ∧ timeoutOf textNumber payload = .ok timeout ∧
      (∃ q : ℚ, timeout = .finite q ∧ 500 ≤ q ∧ q ≤ 10000) ∧
      json = socketResult (net (jsTrim hostText) port timeout) := by
  cases body with
  | none => cases h; exact absurd rfl hstatus
  | some payload =>
      simp only [latencyPost] at h
      split at h
      · next result hok =>
          cases h
          obtain ⟨host, hhost, hok⟩ := except_bind_eq_ok hok
          obtain ⟨port, hport, hok⟩ := except_bind_eq_ok hok
          obtain ⟨timeout, htimeout, hok⟩ := except_bind_eq_ok hok
          split_ifs at hok with hcheck
          · cases hok
            exact absurd rfl hstatus
          · cases hvalid : validatePort port with
            | error e => rw [hvalid] at hok; cases hok
            | ok p =>
                rw [hvalid] at hok
                cases hok
                obtain ⟨q, rfl, hden, hnum, hle⟩ := validatePort_eq_ok hvalid
                have hpos : 0 < q := not_le.mp fun hq => hcheck (.inr (.inr (decide_eq_true hq)))
                have hnumpos : (0 : ℤ) < p := hnum ▸ Rat.num_pos.mpr hpos
                have hq : q = p := by
                  rw [← Rat.num_div_den q, hden, hnum]
                  simp
                obtain ⟨text, htext, rfl⟩ := hostOf_eq_ok hhost fun he => hcheck (.inl he)
                exact ⟨rfl, payload, text, p, timeout, rfl, htext, fun he => hcheck (.inl he),
                  hq ▸ hport, by omega, hle, htimeout, timeoutOf_eq_ok htimeout, rfl⟩
      · cases h

theorem latencyPost_responds_on_reachable_port :
    let payload : Json := .obj [("host", .str " pool.local "), ("port", .num 3333)]
    latencyPost (fun _ => .ok .nan) (fun _ _ _ => .connected 12) (some payload) =
      .respond 200 (.obj [("latency", .num 12)]) ∧
    ∃ (payload' : Json) (hostText : String) (port : Nat) (timeout : JsNumber),
      some payload = some payload' ∧ payload'.member? "host" = some (.str hostText) ∧
      jsTrim hostText ≠ "" ∧
      jsNumber (fun _ => .ok .nan) (payload'.member? "port") = .ok (.finite port) ∧ 1 ≤ port ∧
      port ≤ 65535 ∧ timeoutOf (fun _ => .ok .nan) payload' = .ok timeout ∧
      (∃ q : ℚ, timeout = .finite q ∧ 500 ≤ q ∧ q ≤ 10000) ∧
      Json.obj [("latency", .num 12)] =
        socketResult ((fun _ _ _ => SocketOutcome.connected 12) (jsTrim hostText) port timeout) :=
  have hpost : latencyPost (fun _ => .ok .nan) (fun _ _ _ => .connected 12)
      (some (.obj [("host", .str " pool.local "), ("port", .num 3333)])) =
        .respond 200 (.obj [("latency", .num 12)]) := rfl
  ⟨hpost, (latencyPost_responds _ _ _ 200 _ hpost (by decide)).2⟩

/-- Three bodies the handler does not survive: a port above 65535 passes the
handler's own checks and makes `net.createConnection` throw; a `null` body and
a numeric host throw a `TypeError` before any check. -/
theorem latencyPost_throws_on_bad_bodies (textNumber : Json → Except String JsNumber)
    (net : String → Nat → JsNumber → SocketOutcome) :
    latencyPost textNumber net (some (.obj [("host", .str "pool.local"), ("port", .num 70000)])) =
        .throws "ERR_SOCKET_BAD_PORT" ∧
      latencyPost textNumber net (some .null) = .throws "TypeError" ∧
      latencyPost textNumber net (some (.obj [("host", .num 5), ("port", .num 3333)])) =
        .throws "TypeError" := by
  refine ⟨?_, rfl, rfl⟩
  rfl

end PoolDashboard
