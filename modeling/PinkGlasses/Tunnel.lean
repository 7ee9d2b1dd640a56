import Mathlib.Data.List.Induction

/-!
# PinkGlasses.Tunnel

The VPN a worker scans through, `internal/tunnel/tunnel.go`. The rule of the package: **traffic must
be shown to leave by another address than before, or the tunnel is not considered up.**

`Up` has many ways to fail and one to succeed. `up_cases` says once what a call can come to, and
`up_verified` what that means for every sequence of calls: success is backed by a measurement, by
this call or by the one that recorded the configuration, and a failure leaves no tunnel behind.
-/

namespace PinkGlasses

/-- `Tunnel`, without the handles of the client it runs. -/
structure Tunnel where
  configID : String := ""
  iface : String := ""
  kind : String := ""
  dir : String := ""
  egressIP : String := ""
  baseIP : String := ""
deriving Repr, DecidableEq

namespace Tunnel

/-- What a call of `Up` meets: the measurements, and how the commands end. -/
structure Attempt where
  base : String
  mkdirTemp : Except String String
  chmod : Except String Unit := .ok ()
  wgUp : Except String Unit := .ok ()
  writeFile : Except String Unit := .ok ()
  openFile : Except String Unit := .ok ()
  start : Except String Unit := .ok ()
  /-- Each wait until the deadline: the context ended, or an address was measured. -/
  waits : List (Except String String) := []
  logTail : String := ""

/-- What comes of a call, with the addresses it measured. -/
structure Outcome where
  tunnel : Tunnel
  result : Except String Unit
  measured : List String := []

def cleanupLocked (t : Tunnel) : Tunnel := { t with dir := "" }

def resetLocked (t : Tunnel) : Tunnel :=
  { t with iface := "", kind := "", configID := "", egressIP := "", baseIP := "" }.cleanupLocked

def downLocked (t : Tunnel) : Tunnel := if t.iface = "" then t.cleanupLocked else t.resetLocked

/-- The client of the kind is started: the interface it makes. -/
def connect (kind : String) (a : Attempt) : Except String String :=
  if kind = "wireguard" then a.wgUp.map fun _ => "pgvpn0"
  else if kind = "openvpn" then do
    a.writeFile
    a.openFile
    a.start.mapError ("openvpn start: " ++ ·)
    return "tun0"
  else .error ("unsupported tunnel kind " ++ kind.quote)

/-- The wait for the address to change. -/
def await (t : Tunnel) (configID base logTail : String) : List (Except String String) → Outcome
  | [] =>
    { tunnel := t.downLocked
      result := .error ("the tunnel did not change this worker's address within 45s (still " ++
        base ++
        "); refusing to scan" ++ if logTail = "" then "" else ": " ++ logTail) }
  | .error e :: _ => { tunnel := t.downLocked, result := .error e }
  | .ok got :: waits =>
    if got = "" ∨ got = base then
      let o := await t configID base logTail waits
      { o with measured := got :: o.measured }
    else
      { tunnel := { t with configID, egressIP := got, baseIP := base }, result := .ok ()
        measured := [got] }

def up (t : Tunnel) (configID kind : String) (a : Attempt) : Outcome :=
  if t.configID = configID ∧ t.iface ≠ "" then { tunnel := t, result := .ok () }
  else
    let t := if t.iface ≠ "" then t.downLocked else t
    if a.base = "" then
      { tunnel := t, measured := [""]
        result := .error ("cannot determine this worker's address, so a tunnel cannot be " ++
          "verified; refusing to scan") }
    else match a.mkdirTemp, a.chmod with
      | .error e, _ | .ok _, .error e => { tunnel := t, result := .error e, measured := [a.base] }
      | .ok dir, .ok () =>
        let t := { t with dir, kind }
        match connect kind a with
        | .error e => { tunnel := t.resetLocked, result := .error e, measured := [a.base] }
        | .ok iface =>
          let o := await { t with iface } configID a.base a.logTail a.waits
          { o with measured := a.base :: o.measured }

/-- A call on a tunnel. -/
inductive Call
  | up (configID kind : String) (a : Attempt)
  | down

def step (t : Tunnel) : Call → Tunnel
  | .up configID kind a => (t.up configID kind a).tunnel
  | .down => t.downLocked

/-- The tunnel after a sequence of calls. -/
def after (calls : List Call) : Tunnel := calls.foldl step {}

/-- Another address was measured than the first one, which was measured as well. -/
def Verified (measured : List String) : Prop :=
  ∃ base rest, measured = base :: rest ∧ base ≠ "" ∧ ∃ got ∈ rest, got ≠ "" ∧ got ≠ base

/-- No configuration is recorded without an interface. -/
def Sound (t : Tunnel) : Prop := t.iface = "" → t.configID = ""

/-! ### One call -/

theorem resetLocked_eq (t : Tunnel) : t.resetLocked = {} := rfl

variable {t : Tunnel} {configID kind base logTail : String} {a : Attempt}

theorem await_cases (hiface : t.iface ≠ "") (waits : List (Except String String)) :
    ((await t configID base logTail waits).result = .ok () ∧
      (await t configID base logTail waits).tunnel.configID = configID ∧
      (await t configID base logTail waits).tunnel.iface ≠ "" ∧
      ∃ got ∈ (await t configID base logTail waits).measured, got ≠ "" ∧ got ≠ base) ∨
    ∃ e, (await t configID base logTail waits).result = .error e ∧
      (await t configID base logTail waits).tunnel = {} := by
  have hdown : t.downLocked = {} := by rw [downLocked, if_neg hiface, resetLocked_eq]
  induction waits with
  | nil => exact .inr ⟨_, rfl, hdown⟩
  | cons w waits ih =>
    cases w with
    | error e => exact .inr ⟨e, rfl, hdown⟩
    | ok got =>
      unfold await
      split
      · exact ih.imp_left fun ⟨hok, hid, hif, x, hx, hnew⟩ =>
          ⟨hok, hid, hif, x, List.mem_cons_of_mem _ hx, hnew⟩
      · rename_i hnew
        exact .inl ⟨rfl, rfl, hiface, got, List.mem_cons_self, not_or.mp hnew⟩

theorem connect_ne_empty {iface : String} (h : connect kind a = .ok iface) : iface ≠ "" := by
  unfold connect at h
  split at h
  · cases hup : a.wgUp <;> rw [hup] at h <;> cases h
    show "pgvpn0" ≠ ""
    decide
  · split at h
    · simp only [bind, Except.bind, pure, Except.pure] at h
      repeat (split at h; · cases h)
      cases h
      decide
    · cases h

/-- **What a call can come to**: the tunnel carries the configuration already, or it is verified and
recorded, or there is no tunnel. -/
theorem up_cases (ht : t.Sound) :
    (t.configID = configID ∧ t.iface ≠ "" ∧ (t.up configID kind a).result = .ok () ∧
      (t.up configID kind a).tunnel = t) ∨
    ((t.up configID kind a).result = .ok () ∧ (t.up configID kind a).tunnel.configID = configID ∧
      (t.up configID kind a).tunnel.iface ≠ "" ∧ Verified (t.up configID kind a).measured) ∨
    ∃ e, (t.up configID kind a).result = .error e ∧ (t.up configID kind a).tunnel.configID = "" ∧
      (t.up configID kind a).tunnel.iface = "" := by
  unfold up
  split
  · rename_i hsame
    exact .inl ⟨hsame.1, hsame.2, rfl, rfl⟩
  · right
    obtain ⟨t₀, ht₀, hid, hif⟩ : ∃ t₀, (if t.iface ≠ "" then t.downLocked else t) = t₀ ∧
        t₀.configID = "" ∧ t₀.iface = "" := by
      by_cases hiface : t.iface = ""
      · exact ⟨t, by simp [hiface], ht hiface, hiface⟩
      · exact ⟨{}, by simp [hiface, downLocked, resetLocked_eq], rfl, rfl⟩
    rw [ht₀]
    dsimp only
    split
    · exact .inr ⟨_, rfl, hid, hif⟩
    · rename_i hbase
      split
      · exact .inr ⟨_, rfl, hid, hif⟩
      · exact .inr ⟨_, rfl, hid, hif⟩
      · rename_i dir _ _
        split
        · exact .inr ⟨_, rfl, rfl, rfl⟩
        · rename_i iface hconnect
          rcases @await_cases { t₀ with dir, kind, iface } configID a.base a.logTail
            (connect_ne_empty hconnect) a.waits with hok | ⟨e, herr, hnone⟩
          · exact .inl ⟨hok.1, hok.2.1, hok.2.2.1, a.base, _, rfl, hbase, hok.2.2.2⟩
          · exact .inr ⟨e, herr, by rw [hnone], by rw [hnone]⟩

/-! ### Every sequence of calls -/

/-- A call recorded the configuration after a measurement, and since then there were only calls for
the same one. -/
def Backed (calls : List Call) (configID : String) : Prop :=
  ∃ before kind a later, calls = before ++ .up configID kind a :: later ∧
    Verified ((after before).up configID kind a).measured ∧
    ∀ c ∈ later, ∃ kind a, c = .up configID kind a

theorem backed_after (calls : List Call) :
    (after calls).Sound ∧ ((after calls).iface ≠ "" → Backed calls (after calls).configID) := by
  induction calls using List.reverseRecOn with
  | nil => exact ⟨fun _ => rfl, fun h => absurd rfl h⟩
  | append_singleton calls c ih =>
    have hstep : after (calls ++ [c]) = (after calls).step c := by simp [after]
    rw [hstep]
    cases c with
    | down =>
      simp only [step, downLocked]
      split
      · rename_i hiface
        exact ⟨fun _ => ih.1 hiface, fun h => absurd hiface h⟩
      · exact ⟨fun _ => rfl, fun h => absurd rfl h⟩
    | up configID kind a =>
      simp only [step]
      rcases @up_cases _ configID kind a ih.1 with
        ⟨hid, hiface, -, hsame⟩ | ⟨-, hid, hiface, hver⟩ | ⟨e, -, hid, hiface⟩
      · rw [hsame]
        refine ⟨ih.1, fun h => ?_⟩
        obtain ⟨before, kind', a', later, hcalls, hver, hlater⟩ := ih.2 h
        refine ⟨before, kind', a', later ++ [.up configID kind a], ?_, hver, ?_⟩
        · rw [← List.cons_append, ← List.append_assoc, ← hcalls]
        · rw [List.forall_mem_append, List.forall_mem_singleton]
          exact ⟨hlater, kind, a, by rw [hid]⟩
      · refine ⟨fun h => absurd h hiface, fun _ => ?_⟩
        rw [hid]
        exact ⟨calls, kind, a, [], rfl, hver, List.forall_mem_nil _⟩
      · exact ⟨fun _ => hid, fun h => absurd hiface h⟩

/-- **`Up` succeeds only on a measurement**, of this call or of the one that recorded the
configuration, **and a failure leaves no tunnel.** -/
theorem up_verified (calls : List Call) (configID kind : String) (a : Attempt) :
    (((after calls).up configID kind a).result = .ok () →
      Verified ((after calls).up configID kind a).measured ∨ Backed calls configID) ∧
    ∀ e, ((after calls).up configID kind a).result = .error e →
      ((after calls).up configID kind a).tunnel.configID = "" ∧
        ((after calls).up configID kind a).tunnel.iface = "" := by
  obtain ⟨hsound, hbacked⟩ := backed_after calls
  rcases @up_cases _ configID kind a hsound with ⟨hid, hiface, hok, -⟩ | ⟨hok, -, -, hver⟩ |
    ⟨e, herr, hnone⟩
  · rw [hok]
    exact ⟨fun _ => .inr (hid ▸ hbacked hiface), nofun⟩
  · rw [hok]
    exact ⟨fun _ => .inl hver, nofun⟩
  · rw [herr]
    exact ⟨nofun, fun _ _ => hnone⟩

end Tunnel

end PinkGlasses
