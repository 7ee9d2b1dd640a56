import PinkGlasses.Accounts.Tokens

/-!
# PinkGlasses.Accounts.Admins

**The last administrator**, under any interleaving of requests. `patchUser` and `deleteUser` look at
the account and count the other administrators, and write in a later statement.

* `guardPre` says what a request knows when it writes: another administrator, or a reading failed.
* What it knows stays true as long as nobody else takes an administrator away, so it is enough that
  no other request is between its readings and its write (`DecidesAlone`).
-/

namespace PinkGlasses

open Lib Prog Accounts

variable {β : Type}

namespace AccountStmt

/-- The account a statement can take from the enabled administrators. -/
def loses : AccountStmt β → Option UUID
  | updateUser id ch => if losingAdmin ch then some id else none
  | deleteUser id => some id
  | _ => none

variable {s : AccountStmt β} {id : UUID}

theorem loses_of_removes (h : s.removes = some id) : s.loses = some id := by
  cases s <;> cases h
  rfl

theorem loses_of_changes {ch : UserChange} (h : s.changes = some (id, ch))
    (hch : losingAdmin ch = true) : s.loses = some id := by
  cases s <;> cases h
  exact if_pos hch

theorem loses_eq_some (h : s.loses = some id) :
    s.removes = some id ∨ ∃ ch, s.changes = some (id, ch) ∧ losingAdmin ch = true := by
  cases s with
  | updateUser id' ch =>
    simp only [loses] at h
    split at h <;> cases h
    rename_i hch
    exact .inr ⟨ch, rfl, hch⟩
  | deleteUser id' => exact .inl h
  | _ => cases h

theorem loses_of_quiet (h : s.quiet) : s.loses = none := by
  cases hl : s.loses with
  | none => rfl
  | some id =>
    rcases loses_eq_some hl with hr | ⟨ch, hc, -⟩
    · rw [h.2.1] at hr
      cases hr
    · rw [h.1] at hc
      cases hc

end AccountStmt

/-- A change that takes no administrator away leaves one an administrator. -/
theorem UserChange.apply_enabledAdmin {ch : UserChange} {u : User} (hu : u.enabledAdmin = true)
    (hch : losingAdmin ch = false) : (ch.apply u).enabledAdmin = true := by
  obtain ⟨username, displayName, role, disabled⟩ := ch
  rcases role with _ | role <;> rcases disabled with _ | _ | _ <;>
    simp_all [losingAdmin, UserChange.apply, User.enabledAdmin]

/-- An administrator that a statement cannot take away is one after it. -/
theorem exec_enabledAdmin {now : Time} {db db' : Accounts} {s : AccountStmt β} {b : β}
    (h : s.exec now db = some (b, db')) {u : User} (hu : u ∈ db.users.rows)
    (hadmin : u.enabledAdmin = true) (hs : s.loses ≠ some u.id) :
    ∃ u' ∈ db'.users.rows, u'.id = u.id ∧ u'.enabledAdmin = true := by
  have hremove : s.removes ≠ some u.id := fun hr => hs (AccountStmt.loses_of_removes hr)
  obtain ⟨u', hu', hid, hstep⟩ := (s.exec_users h).after u hu hremove
  refine ⟨u', hu', hid, ?_⟩
  rcases hstep with ⟨hrole, hdisabled⟩ | ⟨ch, hch, rfl⟩
  · rw [User.enabledAdmin, hrole, hdisabled]
    exact hadmin
  · apply UserChange.apply_enabledAdmin hadmin
    rw [← Bool.not_eq_true]
    exact fun hlose => hs (AccountStmt.loses_of_changes hch hlose)

/-! ### What a request knows -/

/-- The write was made. -/
def wroteLoss (h : Hist AccountStmt) : Bool := h.any fun c => c.stmt.loses.isSome

/-- What a request knows when it can take an administrator away: it does so once, and another is
left or a reading failed. -/
def guardPre (h : Hist AccountStmt) (β : Type) (s : AccountStmt β) : Prop :=
  ∀ id, s.loses = some id → wroteLoss h = false ∧ (readsFailed h = true ∨ Sure h id)

section Contract

variable {h : Hist AccountStmt}

theorem wroteLoss_of_allQuiet (hq : AllQuiet h) : wroteLoss h = false := by
  rw [wroteLoss, List.any_eq_false]
  intro c hc
  rw [AccountStmt.loses_of_quiet (hq c hc)]
  simp

theorem request_guarded (cfg : ServerConfig) (r : AccountRequest) :
    (r.prog cfg).Meets guardPre [] fun _ _ => True := by
  refine (request_meets cfg r).weaken fun _ _ s hpre id hlose => ?_
  rcases AccountStmt.loses_eq_some hlose with hremove | ⟨ch, hchange, hch⟩
  · obtain ⟨-, hq, hpass⟩ := hpre.removing id hremove
    exact ⟨wroteLoss_of_allQuiet hq, hpass⟩
  · obtain ⟨hq, hpass⟩ := (hpre.changing id ch hchange).2 hch
    exact ⟨wroteLoss_of_allQuiet hq, hpass⟩

end Contract

/-! ### Any interleaving -/

/-- There is an enabled administrator. -/
def HasAdmin (db : Accounts) : Prop := ∃ u ∈ db.users.rows, u.enabledAdmin = true
deriving Decidable

/-- There is one besides this account. -/
def HasOther (db : Accounts) (id : UUID) : Prop :=
  ∃ u ∈ db.users.rows, u.enabledAdmin = true ∧ u.id ≠ id

/-- The request is between its readings and its write. -/
def deciding {ρ : Type} (t : Thread AccountStmt ρ) : Bool :=
  t.hist.any (·.stmt.guards) && !wroteLoss t.hist && !t.prog.finished

/-- Where a request can take an administrator away, none of its readings failed and **no other
request is between its readings and its write**. -/
def DecidesAlone {ρ : Type} (c : Conf AccountStmt Accounts ρ) (i : Nat) (β : Type)
    (s : AccountStmt β) : Prop :=
  s.loses.isSome = true →
    (c.threads[i]?.any fun t => readsFailed t.hist) = false ∧
    ∀ j < c.threads.length, j ≠ i → c.threads[j]?.any deciding = false

instance {ρ : Type} (c : Conf AccountStmt Accounts ρ) (i : Nat) (β : Type) (s : AccountStmt β) :
    Decidable (DecidesAlone c i β s) :=
  inferInstanceAs (Decidable (_ = true → _ = false ∧ ∀ j < c.threads.length, j ≠ i → _ = false))

/-- What a request that is about to write knows is so. -/
def KnowsOther {ρ : Type} (db : Accounts) (t : Thread AccountStmt ρ) : Prop :=
  ∀ id, Sure t.hist id → wroteLoss t.hist = false → t.prog.finished = false → HasOther db id

section Run

variable {ρ : Type} {now : Time} {db db' : Accounts} {s : AccountStmt β} {b : β} {id : UUID}

theorem HasOther.exec (ho : HasOther db id) (h : s.exec now db = some (b, db'))
    (hs : ∀ id', s.loses = some id' → id' = id) : HasOther db' id := by
  obtain ⟨u, hu, hadmin, hne⟩ := ho
  obtain ⟨u', hu', hid, hadmin'⟩ := exec_enabledAdmin h hu hadmin fun hlose => hne (hs _ hlose)
  exact ⟨u', hu', hadmin', hid ▸ hne⟩

theorem HasAdmin.exec (ha : HasAdmin db) (h : s.exec now db = some (b, db')) (hs : s.loses = none) :
    HasAdmin db' := by
  obtain ⟨u, hu, hadmin⟩ := ha
  obtain ⟨u', hu', -, hadmin'⟩ := exec_enabledAdmin h hu hadmin (by rw [hs]; nofun)
  exact ⟨u', hu', hadmin'⟩

variable {past : Hist AccountStmt}

theorem hasOther_of_sure (ha : HasAdmin db) (h : s.exec now db = some (b, db'))
    (hsure : Sure (⟨s, some b⟩ :: past) id) : Sure past id ∨ HasOther db id := by
  rcases hsure with ⟨cur, hasked, hcur⟩ | ⟨n, hn, hasked⟩ <;>
    rcases List.mem_cons.mp hasked with hnew | hold
  -- the account was read as no enabled administrator, so the one there is is another
  · cases hnew
    have hfind : db.users.find? id = cur := congrArg Prod.fst (Option.some.inj h)
    obtain ⟨u, hu, hadmin⟩ := ha
    refine .inr ⟨u, hu, hadmin, ?_⟩
    rintro rfl
    rw [Table.find?_eq_some.mpr ⟨hu, rfl⟩] at hfind
    rw [← hfind, Option.all_some, hadmin] at hcur
    cases hcur
  · exact .inl (.inl ⟨cur, hold, hcur⟩)
  -- administrators other than the account were counted
  · cases hnew
    have hcount : db.users.rows.countP (fun u => u.enabledAdmin && u.id != id) = n :=
      congrArg Prod.fst (Option.some.inj h)
    rw [← hcount] at hn
    obtain ⟨u, hu, hother⟩ := List.countP_pos_iff.mp hn
    rw [Bool.and_eq_true, bne_iff_ne] at hother
    exact .inr ⟨u, hu, hother⟩
  · exact .inl (.inr ⟨n, hn, hold⟩)

theorem Sure.of_fail (hsure : Sure (⟨s, none⟩ :: past) id) : Sure past id := by
  rcases hsure with ⟨cur, hasked, hcur⟩ | ⟨n, hn, hasked⟩
  · exact .inl ⟨cur, hasked.of_failed, hcur⟩
  · exact .inr ⟨n, hn, hasked.of_failed⟩

/-- A request that is sure and has not written is between its readings and its write. -/
theorem deciding_of_sure {t : Thread AccountStmt ρ} (hsure : Sure t.hist id)
    (hwrote : wroteLoss t.hist = false) (hleft : t.prog.finished = false) : deciding t = true := by
  have hread : (t.hist.any fun c => c.stmt.guards) = true := by
    rw [List.any_eq_true]
    rcases hsure with ⟨cur, hasked, -⟩ | ⟨n, -, hasked⟩
    · exact ⟨_, hasked, rfl⟩
    · exact ⟨_, hasked, rfl⟩
  simp [deciding, hread, hwrote, hleft]

theorem wroteLoss_cons {a : Option β} (h : wroteLoss (⟨s, a⟩ :: past) = false) :
    s.loses = none ∧ wroteLoss past = false := by
  simpa [wroteLoss] using h

end Run

/-- The invariant: an administrator, and what each request knows. -/
theorem admins_inductive (cfg : ServerConfig) :
    System.Inductive (accountSystem cfg) DecidesAlone guardPre
      (fun _ _ => True) HasAdmin KnowsOther where
  spawn := by
    intro db r _ _
    refine ⟨fun id hsure => ?_, request_guarded cfg r⟩
    simp [Sure, Hist.Asked] at hsure
  step := by
    intro c i h β s k o b db' hc ht hpre hok hexec
    have hknows := hc.threads _ (List.mem_of_getElem? ht)
    cases hlose : s.loses with
    | none =>
      have hspared : ∀ id id', s.loses = some id' → id' = id := by
        intro id id' hid'
        rw [hlose] at hid'
        cases hid'
      refine ⟨hc.state.exec hexec hlose, ?_, ?_⟩
      · intro id hsure hwrote _
        refine HasOther.exec ?_ hexec (hspared id)
        rcases hasOther_of_sure hc.state hexec hsure with hold | hnew
        · exact hknows id hold (wroteLoss_cons hwrote).2 rfl
        · exact hnew
      · intro j t _ _ hB id hsure hwrote hleft
        exact (hB id hsure hwrote hleft).exec hexec (hspared id)
    | some id =>
      -- what the request was sure of is so, and nobody else relies on this administrator
      obtain ⟨hread, hothers⟩ := hok (by rw [hlose]; rfl)
      rw [ht, Option.any_some] at hread
      obtain ⟨hwrote, hfail | hsure⟩ := hpre id hlose
      · rw [hfail] at hread
        cases hread
      have hother : HasOther db' id := (hknows id hsure hwrote rfl).exec hexec (by
        intro id' hid'
        rw [hlose] at hid'
        exact (Option.some.inj hid').symm)
      refine ⟨?_, ?_, ?_⟩
      · obtain ⟨u, hu, hadmin, -⟩ := hother
        exact ⟨u, hu, hadmin⟩
      · intro id' _ hwrote' _
        rw [(wroteLoss_cons hwrote').1] at hlose
        cases hlose
      · intro j t hj htj _ id' hsure' hwrote' hleft'
        have hlt : j < c.threads.length := (List.getElem?_eq_some_iff.mp htj).1
        have hidle := hothers j hlt hj
        rw [htj, Option.any_some, deciding_of_sure hsure' hwrote' hleft'] at hidle
        cases hidle
  fail := by
    intro db h β s k ha hB hpre id hsure hwrote _
    exact hB id hsure.of_fail (wroteLoss_cons hwrote).2 rfl

/-- **There is always an enabled administrator**, in every run of requests that interleave and fail
in any way, if whoever takes an administrator away is alone between reading and writing. -/
theorem admin_remains (cfg : ServerConfig) (db : Accounts) (hstart : HasAdmin db)
    (es : List (Event AccountRequest Time))
    (hrun : (accountSystem cfg).Along DecidesAlone ⟨db, []⟩ es) :
    HasAdmin ((accountSystem cfg).run ⟨db, []⟩ es).state :=
  ((admins_inductive cfg).run (.start hstart) hrun).state

/-- Whoever has the cookie makes this account a viewer. -/
def demote (cookie : String) (userID : UUID) : AccountRequest :=
  signedIn cookie (.patchUser { userID := some userID, body := some { role := some "viewer" } })

/-- Whoever has the cookie deletes this account. -/
def remove (cookie : String) (userID : UUID) : AccountRequest :=
  signedIn cookie (.deleteUser (some userID))

/-- One after the other: Alice demotes Bob and is refused to demote themselves. -/
def inTurn : List (Event AccountRequest Time) :=
  .spawn (demote "alice-cookie" 2) :: List.replicate 6 (.step 0 0) ++
    .spawn (demote "alice-cookie" 1) :: List.replicate 6 (.step 1 0)

theorem admin_remains_in_turn :
    HasAdmin twoAdmins ∧ (accountSystem {}).Along DecidesAlone ⟨twoAdmins, []⟩ inTurn ∧
      HasAdmin ((accountSystem {}).run ⟨twoAdmins, []⟩ inTurn).state :=
  have hstart : HasAdmin twoAdmins := by decide +kernel
  have hrun : (accountSystem {}).Along DecidesAlone ⟨twoAdmins, []⟩ inTurn := by decide +kernel
  ⟨hstart, hrun, admin_remains {} twoAdmins hstart inTurn hrun⟩

/-- Alice demotes Bob while Bob deletes Alice: each counts the other before either writes. -/
def crossed : List (Event AccountRequest Time) :=
  .spawn (demote "alice-cookie" 2) :: .spawn (remove "bob-cookie" 1) ::
    List.replicate 4 (.step 0 0) ++ List.replicate 4 (.step 1 0) ++ [.step 0 0, .step 1 0]

/-- Alice deletes Bob and demotes themselves, and **the account cannot be read** for the check. -/
def unread : List (Event AccountRequest Time) :=
  .spawn (remove "alice-cookie" 2) :: List.replicate 5 (.step 0 0) ++
    .spawn (demote "alice-cookie" 1) :: List.replicate 2 (.step 1 0) ++ [.fail 1, .step 1 0]

/-- The defect: two administrators take each other's role, or one whose own account cannot be read
gives theirs up, and none is left. -/
theorem last_admin_lost :
    HasAdmin twoAdmins ∧ ¬HasAdmin ((accountSystem {}).run ⟨twoAdmins, []⟩ crossed).state ∧
      ¬HasAdmin ((accountSystem {}).run ⟨twoAdmins, []⟩ unread).state := by
  decide +kernel

end PinkGlasses
