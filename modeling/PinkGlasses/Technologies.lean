import PinkGlasses.GatewaySystem
import PinkGlasses.Store.Refs

/-!
# PinkGlasses.Technologies

**Concurrent `UpsertTechnology` calls.** A technology is listed on a service with its versions or,
while none is known, once without one. Each call first makes sure that the rows of the other kind
are not there (a version deletes the row without one; a sighting without a version looks for rows
that have one) and then inserts, in two statements: between them another call can insert what was
ruled out.
-/

namespace PinkGlasses

open Lib Lib.System Ingest Prog

namespace Technologies

/-- What a call of `UpsertTechnology` is given. -/
structure Detected where
  serviceID : UUID
  name : String
  version : String
  cpe : String := ""
  confidence : Int := 0
deriving Repr, DecidableEq

/-- Any number of `UpsertTechnology` calls, interleaved. -/
def detecting (out : Outside) : System Stmt DB Env Detected (Except String Unit) :=
  storeSystem out (fun _ _ => true) fun d =>
    (upsertTechnology d.serviceID d.name d.version d.cpe d.confidence).run

/-- The rows of a name on a service: those with a version, or those without. -/
structure Kind where
  serviceID : UUID
  name : String
  versioned : Bool
deriving Repr, DecidableEq

/-- The row is of that kind. -/
def Kind.has (a : Kind) (t : Technology) : Bool :=
  t.serviceID == a.serviceID && t.name == a.name && (t.version != "") == a.versioned

/-- The kind that must not be listed beside the row. -/
def otherKind (t : Technology) : Kind := ⟨t.serviceID, t.name, t.version == ""⟩

/-- No name is listed both with a version and without one. -/
def Unmixed (db : DB) : Prop :=
  ∀ t ∈ db.technologies, ∀ t' ∈ db.technologies, (otherKind t).has t' = false
deriving Decidable

/-- The kind a statement leaves no row of: an `UPDATE` of the rows with a version that met none, a
`DELETE` of the one without. -/
def rulesOut {β : Type} : AssetStmt β → Option β → Option Kind
  | .touchTechnology serviceID name, r => if r = some 0 then some ⟨serviceID, name, true⟩ else none
  | .dropUnversioned serviceID name, r => r.map fun _ => ⟨serviceID, name, false⟩
  | _, _ => none

/-- What a call has just ruled out. -/
def ruledOut : Hist Stmt → Option Kind
  | ⟨.asset s, r⟩ :: _ => rulesOut s r
  | _ => none

/-- The row a statement inserts. -/
def inserts {β : Type} : AssetStmt β → Option Technology
  | .insertTechnology serviceID name version _ _ => some ⟨serviceID, name, version⟩
  | _ => none

/-- A row is inserted only where no other call has just ruled it out. -/
def Apart {ρ : Type} (c : Conf Stmt DB ρ) (i : Nat) (β : Type) : Stmt β → Prop
  | .asset s =>
    ∀ t ∈ inserts s, ∀ th ∈ c.threads.eraseIdx i, ∀ a ∈ ruledOut th.hist, a.has t = false
  | _ => True

instance {ρ : Type} (c : Conf Stmt DB ρ) (i : Nat) (β : Type) (s : Stmt β) :
    Decidable (Apart c i β s) := by
  induction s using Stmt.casesOn <;> unfold Apart <;> infer_instance

theorem otherKind_has_comm (t t' : Technology) : (otherKind t).has t' = (otherKind t').has t := by
  simp only [Kind.has, otherKind, BEq.comm (a := t'.serviceID), BEq.comm (a := t'.name)]
  cases h : t.version == "" <;> cases h' : t'.version == "" <;> simp [bne, h, h']

theorem not_otherKind_has_self (t : Technology) : (otherKind t).has t = false := by
  simp only [Kind.has, otherKind]
  cases h : t.version == "" <;> simp [bne, h]

section Run

variable {out : Outside} {env : Env} {db db' : DB} {β : Type} {b : β}

/-- The statements of `UpsertTechnology`, each where it issues it: a row is inserted right after the
rows of the other kind were ruled out. -/
inductive Issued (h : Hist Stmt) : ∀ β : Type, Stmt β → Prop
  | touch (serviceID : UUID) (name : String) : Issued h _ (.asset (.touchTechnology serviceID name))
  | drop (serviceID : UUID) (name : String) : Issued h _ (.asset (.dropUnversioned serviceID name))
  | insert (t : Technology) (cpe : String) (confidence : Int)
      (hruled : ruledOut h = some (otherKind t)) :
      Issued h _ (.asset (.insertTechnology t.serviceID t.name t.version cpe confidence))

theorem upsertTechnology_meets (d : Detected) :
    (upsertTechnology d.serviceID d.name d.version d.cpe d.confidence).run.Meets Issued []
      fun _ _ => True := by
  obtain ⟨serviceID, name, version, cpe, confidence⟩ := d
  unfold upsertTechnology
  split
  · rename_i hversion
    obtain rfl : version = "" := hversion
    refine meets_bind_except.mpr (meets_query.mpr ⟨.touch _ _, fun n => ?_, trivial⟩)
    simp only
    split
    · trivial
    · rename_i hn
      obtain rfl : n = 0 := by omega
      refine meets_query.mpr ⟨.insert ⟨serviceID, name, ""⟩ cpe confidence ?_, ?_, trivial⟩
      · simp [ruledOut, rulesOut, otherKind]
      · exact fun _ => trivial
  · rename_i hversion
    refine meets_bind_except.mpr (meets_query.mpr ⟨.drop _ _, fun _ => ?_, trivial⟩)
    refine meets_query.mpr ⟨.insert ⟨serviceID, name, version⟩ cpe confidence ?_, ?_, trivial⟩
    · simp [ruledOut, rulesOut, otherKind, hversion]
    · exact fun _ => trivial

theorem mem_technologies {s : AssetStmt β} (hs : Issued h β (.asset s))
    (hexec : s.exec out db = some (b, db')) {t : Technology} (ht : t ∈ db'.technologies) :
    t ∈ db.technologies ∨ inserts s = some t := by
  have happly := (AssetStmt.exec_eq_some.mp hexec).2
  cases hs with
  | touch =>
    cases happly
    exact .inl ht
  | drop =>
    cases happly
    exact .inl (List.mem_of_mem_filter ht)
  | insert t' =>
    simp only [AssetStmt.apply] at happly
    split at happly
    · cases happly
    · cases happly
      simp only at ht
      split at ht
      · exact .inl ht
      · simpa [inserts, eq_comm] using ht

theorem ruledOut_exec {s : AssetStmt β} (hs : Issued h β (.asset s))
    (hexec : s.exec out db = some (b, db')) {a : Kind} (ha : rulesOut s (some b) = some a)
    {t : Technology} (ht : t ∈ db'.technologies) : a.has t = false := by
  have happly := (AssetStmt.exec_eq_some.mp hexec).2
  cases hs with
  | touch serviceID name =>
    cases happly
    obtain ⟨hnone, rfl⟩ : (db.technologies.filter fun t => t.serviceID == serviceID &&
        t.name == name && t.version != "").length = 0 ∧ (⟨serviceID, name, true⟩ : Kind) = a := by
      simpa [rulesOut, Option.ite_none_right_eq_some] using ha
    rw [List.length_eq_zero_iff, List.filter_eq_nil_iff] at hnone
    simpa [Kind.has] using hnone t ht
  | drop serviceID name =>
    cases happly
    cases ha
    have hkept := (List.mem_filter.mp ht).2
    simp only [Kind.has, Bool.not_eq_true'] at hkept ⊢
    grind
  | insert t' => cases ha

/-- **What the calls keep**: no name is mixed, and of what a call has just ruled out there is no
row. -/
theorem unmixed_inductive (out : Outside) :
    Inductive (detecting out) Apart Issued (fun _ _ => True) Unmixed fun db th =>
      ∀ a ∈ ruledOut th.hist, ∀ t ∈ db.technologies, a.has t = false where
  spawn := by
    intro db d hdb _
    exact ⟨nofun, upsertTechnology_meets d⟩
  step := by
    intro c i h β s k env b db' hc hi hpre hok hexec
    obtain ⟨s, rfl⟩ : ∃ a, s = .asset a := by cases hpre <;> exact ⟨_, rfl⟩
    refine ⟨?_, fun a ha t ht => ruledOut_exec hpre hexec ha ht, ?_⟩
    · intro t ht t' ht'
      -- A row that is new was ruled out for no one, and its own call had ruled out the other kind.
      have hnew : ∀ t, inserts s = some t → ∀ t' ∈ c.state.technologies,
          (otherKind t).has t' = false := by
        intro t hins
        cases hpre with
        | insert t₀ cpe confidence hruled =>
          obtain rfl : t₀ = t := Option.some.inj hins
          exact hc.threads _ (List.mem_of_getElem? hi) _ hruled
        | _ => cases hins
      rcases mem_technologies hpre hexec ht with hold | hins <;>
        rcases mem_technologies hpre hexec ht' with hold' | hins'
      · exact hc.state t hold t' hold'
      · rw [otherKind_has_comm]
        exact hnew t' hins' t hold
      · exact hnew t hins t' hold'
      · obtain rfl : t = t' := Option.some.inj (hins.symm.trans hins')
        exact not_otherKind_has_self t
    · intro j th hj hth hB a ha t ht
      rcases mem_technologies hpre hexec ht with hold | hins
      · exact hB a ha t hold
      · exact hok t hins th (List.mem_eraseIdx_iff_getElem?.mpr ⟨j, hj, hth⟩) a ha
  fail := by
    intro db h β s k hdb hB hpre a ha
    cases hpre <;> cases ha

end Run

/-- **No name gets both kinds of row as long as no call inserts what another has just ruled
out.** -/
theorem unmixed_of_apart (out : Outside) (db : DB) (hdb : Unmixed db)
    (es : List (Event Detected Env)) (hok : (detecting out).Along Apart ⟨db, []⟩ es) :
    Unmixed ((detecting out).run ⟨db, []⟩ es).state :=
  ((unmixed_inductive out).run (.start hdb) hok).state

/-- A database with a service that nothing is known of. -/
def oneService : DB where
  services := .ofRows [{ id := 1, ipID := 1, port := 80, proto := "tcp", lastState := "open" }]
    (by decide)

/-- A response header says WordPress. -/
def fromHeader : Detected := { serviceID := 1, name := "WordPress", version := "" }

/-- The page fingerprint says WordPress 6.4. -/
def fromPage : Detected := { serviceID := 1, name := "WordPress", version := "6.4" }

theorem unmixed_in_turn :
    Unmixed ((detecting {}).run ⟨oneService, []⟩ [.spawn fromHeader, .step 0 {}, .step 0 {},
      .spawn fromPage, .step 1 {}, .step 1 {}]).state ∧ Unmixed oneService :=
  ⟨unmixed_of_apart {} oneService (by decide) _ (by decide +kernel), by decide⟩

/-- The header's call finds no version, the page's deletes nothing and inserts, then the header's
inserts. -/
theorem both_kinds_listed :
    Unmixed oneService ∧
      ((detecting {}).run ⟨oneService, []⟩
        [.spawn fromHeader, .spawn fromPage, .step 0 {}, .step 1 {},
        .step 1 {}, .step 0 {}]).state.technologies =
          [⟨1, "WordPress", "6.4"⟩, ⟨1, "WordPress", ""⟩] ∧
      ((detecting {}).run ⟨oneService, []⟩
        [.spawn fromHeader, .spawn fromPage, .step 0 {}, .step 1 {},
        .step 1 {}, .step 0 {}]).threads.all (·.prog.finished) = true ∧
      ¬Unmixed ((detecting {}).run ⟨oneService, []⟩ [.spawn fromHeader, .spawn fromPage, .step 0 {},
        .step 1 {}, .step 1 {}, .step 0 {}]).state :=
  ⟨by decide, by decide +kernel, by decide +kernel, by decide +kernel⟩

end Technologies

end PinkGlasses
