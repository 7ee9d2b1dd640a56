import PinkGlasses.Digests

/-!
# PinkGlasses.Digests.Periods

Whether the periods of a channel's digests leave nothing out and report nothing twice.

They leave something out when the scheduler was down, or the sink refused, for **more than a day**:
the next period begins a day before its end, wherever the last one ended. They report something
twice when the move of `digest_through` fails after a digest went out.

`digests_contiguous`: where, at each sweep that finds the channel due, the digest before was moved
past and ended within the day before the send time, every period begins where the last one ended.
-/

namespace PinkGlasses

open Lib Prog Table

namespace Digests

variable {β : Type} {id : UUID}

/-! ### Notes -/

theorem notesOf_append (js js' : List DigestNote) :
    notesOf id (js ++ js') = notesOf id js ++ notesOf id js' := List.filter_append ..

/-- The statement sends a digest of the channel, or records one as skipped. -/
def coversFor (id : UUID) (β : Type) (s : DigestStmt β) : Bool := (covers s).any (·.1 == id)

/-- **What a statement says about a channel**: that a period is covered, that it was moved past, or
nothing. -/
inductive Says (id : UUID) (s : DigestStmt β) : List DigestNote → Prop
  | covered (p : Period) (hc : covers s = some (id, p)) : Says id s [.covered id p]
  | marked (t : Time) (hm : marks s = some (id, t)) (hc : coversFor id β s = false) :
      Says id s [.marked id t]
  | nothing (hm : ∀ t, marks s ≠ some (id, t)) (hc : coversFor id β s = false) : Says id s []

theorem says_notesOf (id : UUID) (s : DigestStmt β) (b : β) :
    Says id s (notesOf id (digestNotes s b)) := by
  have hcover : ∀ (i : UUID) (p : Period), covers s = some (i, p) → marks s = none →
      Says id s (notesOf id (digestNotes s b)) := by
    intro i p hc hm
    by_cases hi : i = id
    · simpa [digestNotes, notesOf, DigestNote.channelID, hc, hm, hi] using
        Says.covered p (hi ▸ hc)
    · simpa [digestNotes, notesOf, DigestNote.channelID, hc, hm, hi] using
        Says.nothing (by simp [hm]) (by simp [coversFor, hc, hi])
  have hnone : covers s = none → marks s = none → Says id s (notesOf id (digestNotes s b)) := by
    intro hc hm
    simpa [digestNotes, notesOf, hc, hm] using
      Says.nothing (by simp [hm]) (by simp [coversFor, hc])
  cases s with
  | send c period d => exact hcover c.id period rfl rfl
  | recordDelivery i period events status error =>
    -- of the deliveries only a skipped one covers a period
    cases status with
    | skipped => exact hcover i period rfl rfl
    | _ => exact hnone rfl rfl
  | markDigestSent i t =>
    by_cases hi : i = id
    · simpa [digestNotes, notesOf, DigestNote.channelID, covers, marks, hi] using
        Says.marked t rfl rfl
    · simpa [digestNotes, notesOf, DigestNote.channelID, covers, marks, hi] using
        Says.nothing (by simp [marks, hi]) rfl
  | _ => exact hnone rfl rfl

/-- The row of the channel `id` as a statement leaves it. -/
def markedRow (id : UUID) (s : DigestStmt β) (c : NotificationChannel) : NotificationChannel :=
  match marks s with
  | some (i, t) => if i = id then { c with digestThrough := some t } else c
  | none => c

variable {cfg : Config} {h : Hist DigestStmt} {now : Time} {st st' : NotifyDB × List DigestNote}
  {o : Unit}

theorem exec_channel {db db' : NotifyDB} {s : DigestStmt β} {b : β}
    (hexec : s.exec cfg db = some (b, db')) (id : UUID) :
    db'.channels.find? id = (db.channels.find? id).map (markedRow id s) := by
  cases s with
  | dueDigests | scopeChangeEvents | send =>
    cases hexec
    exact Option.map_id'.symm
  | getScope =>
    obtain ⟨_, -, heq⟩ := Option.map_eq_some_iff.mp hexec
    cases heq
    exact Option.map_id'.symm
  | recordDelivery =>
    simp only [DigestStmt.exec] at hexec
    split at hexec <;> cases hexec
    exact Option.map_id'.symm
  | markDigestSent i t =>
    cases hexec
    rw [find?_update]
    refine Option.map_congr fun c hc => ?_
    simp only [markedRow, marks, (find?_eq_some.mp hc).2, beq_iff_eq, eq_comm (a := id)]

/-! ### The contract of a sweep -/

/-- What a sweep has read as due are distinct channels. -/
def DistinctChannels (h : Hist DigestStmt) : Prop :=
  ∀ now due, h.Asked (.dueDigests now) (some due) → (due.map (·.id)).Nodup

/-- The sweep has read the channel as due, and it would send the period. -/
def ReadFor (id : UUID) (p : Period) (h : Hist DigestStmt) : Prop :=
  ∃ now due, h.Asked (.dueDigests now) (some due) ∧ ∃ c ∈ due, c.id = id ∧ p = periodAt now c

/-- **The contract of a sweep**: it covers the period of a channel that it has read as due, and
once. -/
def digestPre (id : UUID) (h : Hist DigestStmt) (β : Type) (s : DigestStmt β) : Prop :=
  ∀ p, covers s = some (id, p) → DistinctChannels h → ReadFor id p h ∧ Unissued (coversFor id) h

theorem coversFor_iff {s : DigestStmt β} :
    coversFor id β s = true ↔ ∃ p, covers s = some (id, p) := by
  cases hc : covers s with
  | none => simp [coversFor, hc]
  | some x =>
    obtain ⟨i, p⟩ := x
    simp [coversFor, hc]

theorem digestPre_of_other {s : DigestStmt β} (hs : coversFor id β s = false) :
    digestPre id h β s := by
  intro p hc
  exact absurd (coversFor_iff.mpr ⟨p, hc⟩) (by rw [hs]; decide)

theorem sendOne_other (cfg : Config) (now : Time) (c : NotificationChannel) (hne : c.id ≠ id) :
    Uses (fun β s => coversFor id β s = false) (sendOne cfg now c) := by
  have hcover : (some (c.id, periodAt now c)).any (·.1 == id) = false := by simp [hne]
  refine ⟨rfl, fun r => ?_⟩
  cases r with
  | none => trivial
  | some events =>
    dsimp only
    show Uses _ (if _ then _ else _)
    split
    · exact ⟨hcover, fun _ => ⟨rfl, fun _ => trivial⟩⟩
    · refine ⟨rfl, fun scope => ⟨hcover, fun r => ?_⟩⟩
      cases r with
      | none => exact ⟨rfl, fun _ => trivial⟩
      | some _ => exact ⟨rfl, fun _ => ⟨rfl, fun _ => trivial⟩⟩

theorem ReadFor.cons {p : Period} (hread : ReadFor id p h) (c : Call DigestStmt) :
    ReadFor id p (c :: h) := by
  obtain ⟨now, due, hask, hdue⟩ := hread
  exact ⟨now, due, hask.mono (List.subset_cons_self _ _), hdue⟩

/-- The statement that covers the period it was read for, before any other did. -/
theorem digestPre_of_first {p : Period} {s : DigestStmt β} (hs : covers s = some (id, p))
    (hread : ReadFor id p h) (hu : Unissued (coversFor id) h) : digestPre id h β s := by
  intro p' hp _
  cases hs.symm.trans hp
  exact ⟨hread, hu⟩

theorem sendOne_meets (cfg : Config) (now : Time) (c : NotificationChannel)
    (hread : ReadFor c.id (periodAt now c) h) (hu : Unissued (coversFor c.id) h) :
    Meets (digestPre c.id) h (sendOne cfg now c) fun _ _ => True := by
  refine ⟨digestPre_of_other rfl, fun r => ?_⟩
  have hread := hread.cons ⟨.scopeChangeEvents c.scopeID (periodAt now c), r⟩
  have hu : Unissued (coversFor c.id) _ :=
    hu.cons (s := .scopeChangeEvents c.scopeID (periodAt now c)) rfl r
  cases r with
  | none => trivial
  | some events =>
    show Meets _ _ (if _ then _ else _) _
    -- an empty digest is recorded as skipped, another is sent
    split
    · exact ⟨digestPre_of_first rfl hread hu, fun _ => ⟨digestPre_of_other rfl, fun _ => trivial⟩⟩
    · refine ⟨digestPre_of_other rfl, fun scope =>
        ⟨digestPre_of_first rfl (hread.cons _) (hu.cons rfl scope), fun r => ?_⟩⟩
      cases r with
      | none => exact ⟨digestPre_of_other rfl, fun _ => trivial⟩
      | some _ =>
        exact ⟨digestPre_of_other rfl, fun _ => ⟨digestPre_of_other rfl, fun _ => trivial⟩⟩

/-- **A sweep keeps the contract**, whatever the answers. -/
theorem sendDueDigests_meets (cfg : Config) (now : Time) :
    Meets (digestPre id) [] (sendDueDigests cfg now) fun _ _ => True := by
  refine ⟨digestPre_of_other rfl, fun r => ?_⟩
  cases r with
  | none => trivial
  | some due =>
    refine meets_forEach_once (coversFor id) digestPre_of_other
      (fun _ _ _ hask hrep _ _ hd => absurd (hd now due hask) hrep) (sendOne_other cfg now) ?_
      (Hist.asked_head ..) (unissued_nil.cons rfl _)
    rintro c hc rfl h hask hu
    exact sendOne_meets cfg now c ⟨now, due, hask, c, hc, rfl, rfl⟩ hu

/-! ### Every period begins where the last one ended -/

/-- The last digest of the channel, sent or recorded as skipped, was moved past; or there was
none. -/
def settled (id : UUID) (js : List DigestNote) : Bool :=
  match notesOf id js with
  | [] => true
  | .marked _ t :: .covered _ p :: _ => decide (t = p.hi)
  | _ => false

/-- The time a sweep looks for due channels at. -/
def readsAt : {β : Type} → DigestStmt β → Option Time
  | _, .dueDigests now => some now
  | _, _ => none

/-- **When a sweep finds the channel due**, its last digest was moved past, and `digest_through`
lies within the day before the send time. -/
def InStep (cfg : Config) (id : UUID) (st : NotifyDB × List DigestNote) (_ : Hist DigestStmt)
    (_ : Unit) (β : Type) (s : DigestStmt β) : Prop :=
  ∀ now ∈ readsAt s, ∀ c ∈ st.1.channels.rows, c.id = id → dueAt cfg now c = true →
    settled id st.2 = true ∧ ∀ t ∈ c.digestThrough,
      (periodAt now c).hi - 86400 ≤ t ∧ t < (periodAt now c).hi
deriving Decidable

/-- The settings of the channel do not change. -/
def SameSettings (id : UUID) (st : NotifyDB × List DigestNote) (f : NotifyDB → NotifyDB) : Prop :=
  (f st.1).channels.find? id = st.1.channels.find? id
deriving Decidable

/-- The periods so far are contiguous, and `digest_through` is the end of a digest that was moved
past. -/
structure Tidy (id : UUID) (st : NotifyDB × List DigestNote) : Prop where
  contiguous : Span.Contiguous (periodsOf id st.2)
  through : settled id st.2 = true → ∀ p ∈ (periodsOf id st.2).head?,
    ∀ c, st.1.channels.find? id = some c → c.digestThrough = some p.hi

/-- The period would continue those of the channel. -/
def Continues (id : UUID) (js : List DigestNote) (p : Period) : Prop :=
  p.lo < p.hi ∧ ∀ q ∈ (periodsOf id js).head?, p.lo = q.hi

/-- What a sweep would send of a channel it has read continues its periods. -/
def UpToDate (id : UUID) (st : NotifyDB × List DigestNote) (t : Thread DigestStmt Unit) : Prop :=
  DistinctChannels t.hist ∧ ∀ p, ReadFor id p t.hist → Unissued (coversFor id) t.hist →
    Continues id st.2 p

theorem exec_dueDigests {db db' : NotifyDB} {due : List NotificationChannel}
    (h : (DigestStmt.dueDigests now).exec cfg db = some (due, db')) :
    (due.map (·.id)).Nodup ∧ ∀ c ∈ due, c ∈ db.channels.rows ∧ dueAt cfg now c = true := by
  cases h
  constructor
  · refine (List.Perm.nodup_iff ((List.perm_insertionSort _ _).map _)).mpr ?_
    exact (List.filter_sublist.map NotificationChannel.id).nodup db.channels.nodup
  · intro c hc
    exact List.mem_filter.mp ((List.mem_insertionSort _).mp hc)

theorem Tidy.continues (hst : Tidy id st) {c : NotificationChannel}
    (hc : st.1.channels.find? id = some c) (hsettled : settled id st.2 = true)
    (hday : ∀ t ∈ c.digestThrough, (periodAt now c).hi - 86400 ≤ t ∧ t < (periodAt now c).hi) :
    Continues id st.2 (periodAt now c) := by
  have hlast := fun p hp => hst.through hsettled p hp c hc
  cases hthrough : c.digestThrough with
  | none =>
    refine ⟨?_, fun p hp => absurd (hthrough.symm.trans (hlast p hp)) nofun⟩
    simp only [periodAt, hthrough]
    exact Int.sub_lt_self _ (by decide)
  | some t =>
    obtain ⟨hge, hlt⟩ := hday t hthrough
    -- the later of the two bounds is where the last digest ended
    have hlo : (periodAt now c).lo = t := by
      simp only [periodAt, hthrough] at hge ⊢
      split
      · rfl
      · rename_i hle
        exact le_antisymm hge (not_lt.mp hle)
    refine ⟨hlo ▸ hlt, fun p hp => ?_⟩
    rw [hlo]
    exact Option.some.inj (hthrough.symm.trans (hlast p hp))

theorem exec_notes {s : DigestStmt β} {b : β} (hexec : (digests cfg).exec s o st = some (b, st'))
    (id : UUID) :
    ∃ new, Says id s new ∧ notesOf id st'.2 = new ++ notesOf id st.2 ∧
      st'.1.channels.find? id = (st.1.channels.find? id).map (markedRow id s) := by
  obtain ⟨hexec, hlog⟩ := System.logged_exec _ hexec
  exact ⟨_, says_notesOf id s b, by rw [hlog, notesOf_append], exec_channel hexec id⟩

/-- A statement that covers a period only to continue the others keeps the journal tidy. -/
theorem Tidy.step {s : DigestStmt β} {b : β} (hst : Tidy id st)
    (hcont : ∀ p, covers s = some (id, p) → Continues id st.2 p)
    (hexec : (digests cfg).exec s o st = some (b, st')) : Tidy id st' := by
  obtain ⟨new, hsays, hnotes, hrow⟩ := exec_notes hexec id
  cases hsays with
  | covered p hc =>
    obtain ⟨hpos, hnext⟩ := hcont p hc
    have hperiods : periodsOf id st'.2 = p :: periodsOf id st.2 := by
      simp [periodsOf, hnotes, DigestNote.period?]
    refine ⟨by rw [hperiods]; exact ⟨hpos, hnext, hst.contiguous⟩, fun hsettled => ?_⟩
    simp [settled, hnotes] at hsettled
  | marked t hm hc =>
    have hperiods : periodsOf id st'.2 = periodsOf id st.2 := by
      simp [periodsOf, hnotes, DigestNote.period?]
    refine ⟨hperiods ▸ hst.contiguous, fun hsettled p hp c hc => ?_⟩
    -- the mark settles the digest it follows, and writes its end
    rw [hrow] at hc
    obtain ⟨c₀, -, rfl⟩ := Option.map_eq_some_iff.mp hc
    rw [hperiods] at hp
    have hthrough : (markedRow id s c₀).digestThrough = some t := by simp [markedRow, hm]
    rw [hthrough]
    cases hold : notesOf id st.2 with
    | nil => simp [settled, hnotes, hold] at hsettled
    | cons note rest =>
      cases note with
      | marked => simp [settled, hnotes, hold] at hsettled
      | covered i q =>
        have hq : p = q := by simpa [periodsOf, hold, DigestNote.period?] using hp.symm
        have ht : t = q.hi := by simpa [settled, hnotes, hold] using hsettled
        rw [ht, hq]
  | nothing hm hc =>
    have hsame : notesOf id st'.2 = notesOf id st.2 := hnotes
    have hperiods : periodsOf id st'.2 = periodsOf id st.2 := by rw [periodsOf, hsame]; rfl
    refine ⟨hperiods ▸ hst.contiguous, fun hsettled p hp c hc => ?_⟩
    have hid : ∀ c, markedRow id s c = c := by
      intro c
      unfold markedRow
      split
      · rename_i i t heq
        exact if_neg fun hi : i = id => hm t (by rw [heq, hi])
      · rfl
    rw [hrow, show markedRow id s = fun c => c from funext hid, Option.map_id'] at hc
    rw [settled, hsame] at hsettled
    exact hst.through hsettled p (hperiods ▸ hp) c hc

theorem periodsOf_of_other {s : DigestStmt β} {b : β}
    (hexec : (digests cfg).exec s o st = some (b, st')) (hs : coversFor id β s = false) :
    periodsOf id st'.2 = periodsOf id st.2 := by
  obtain ⟨new, hsays, hnotes, -⟩ := exec_notes hexec id
  cases hsays with
  | covered p hc => exact absurd (coversFor_iff.mpr ⟨p, hc⟩) (by rw [hs]; decide)
  | marked | nothing => simp [periodsOf, hnotes, DigestNote.period?]

theorem asked_dueDigests_of_cons {s : DigestStmt β} {r : Option β}
    (hs : readsAt s = none ∨ r = none) {due : List NotificationChannel}
    (hask : Hist.Asked (⟨s, r⟩ :: h) (.dueDigests now) (some due)) :
    h.Asked (.dueDigests now) (some due) := by
  rcases hask with _ | ⟨_, hmem⟩
  · rcases hs with hs | hs <;> cases hs
  · exact hmem

/-- A statement that reads nothing due, or fails, leaves a sweep up to date. -/
theorem UpToDate.cons {p p' : Prog DigestStmt Unit} {s : DigestStmt β} {r : Option β}
    (hB : UpToDate id st ⟨h, p⟩) (hs : readsAt s = none ∨ r = none)
    (hsame : coversFor id β s = false → periodsOf id st'.2 = periodsOf id st.2) :
    UpToDate id st' ⟨⟨s, r⟩ :: h, p'⟩ := by
  obtain ⟨hd, hcont⟩ := hB
  refine ⟨fun now due hask => hd now due (asked_dueDigests_of_cons hs hask), ?_⟩
  rintro p ⟨now, due, hask, hc⟩ hu
  obtain ⟨hother, hu⟩ := List.forall_mem_cons.mp hu
  rw [Continues, hsame hother]
  exact hcont p ⟨now, due, asked_dueDigests_of_cons hs hask, hc⟩ hu

/-- **The invariant of the notifier.** -/
theorem digestInductive (cfg : Config) (id : UUID) :
    Process.Throughout (digests cfg) { stmt := InStep cfg id, act := SameSettings id }
      (digestPre id) (fun _ _ => True) (Tidy id) (UpToDate id) where
  start {st now} _ _ := by
    refine ⟨⟨fun now due hask => hask.of_nil, ?_⟩, sendDueDigests_meets cfg now⟩
    rintro p ⟨now, due, hask, -⟩
    exact hask.of_nil
  fail _ hB _ := hB.cons (.inr rfl) fun _ => rfl
  act {st f} hA hf :=
    ⟨⟨hA.contiguous, fun hs p hp c hc => hA.through hs p hp c (hf.symm.trans hc)⟩, fun _ hB => hB⟩
  step {st h o β s k b st'} hA hB hpre hok hexec := by
    -- a period is covered right after it was read, so it continues the last
    have hcont : ∀ p, covers s = some (id, p) → Continues id st.2 p := by
      intro p hc
      obtain ⟨hread, hu⟩ := hpre p hc hB.1
      exact hB.2 p hread hu
    refine ⟨hA.step hcont hexec, ?_⟩
    cases hread : readsAt s with
    | none => exact hB.cons (.inl hread) fun hother => periodsOf_of_other hexec hother
    | some now =>
      cases s with
      | dueDigests now' =>
        cases hread
        have hperiods : periodsOf id st'.2 = periodsOf id st.2 := periodsOf_of_other hexec rfl
        have hanswer : (DigestStmt.dueDigests now).exec cfg st.1 = some (b, st'.1) :=
          (System.logged_exec _ hexec).1
        obtain ⟨hnodup, hrows⟩ := exec_dueDigests hanswer
        constructor
        · intro now' due hask
          rcases hask with _ | ⟨_, hmem⟩
          · exact hnodup
          · exact hB.1 now' due hmem
        -- what was just read as due starts where the channel's last digest ended
        · rintro p ⟨now', due, hask, c, hc, hid, rfl⟩ hu
          rw [Continues, hperiods]
          rcases hask with _ | ⟨_, hmem⟩
          · obtain ⟨hrow, hdue⟩ := hrows c hc
            obtain ⟨hsettled, hday⟩ := hok now rfl c hrow hid hdue
            exact hA.continues (find?_eq_some.mpr ⟨hrow, hid⟩) hsettled hday
          · exact hB.2 _ ⟨now', due, hmem, c, hc, hid, rfl⟩ (List.forall_mem_cons.mp hu).2
      | _ => cases hread

/-- A company with one daily channel, and nothing to tell it. -/
def dailyChannel : NotifyDB where
  channels := .ofRows [{ id := 1, scopeID := 1, cadence := .daily }] (by decide)

/-- A sweep just after the send time of a day. -/
def sweepOn (day : Nat) : List (Process.Event Time Unit (NotifyDB → NotifyDB)) :=
  .start (86400 * day + 25210) :: List.replicate 4 (.step ())

end Digests

end PinkGlasses
