import PinkGlasses.SshExit

/-!
# PinkGlasses.SshExit.HostKey

**The host key of an exit is pinned on first contact.** A session goes on with the key it has
pinned, or with one equal to the key that was stored when it started; a stored key never changes.
What `PinSSHExitHostKey` does not say is whether it wrote anything: of two first contacts that
overlap, the second goes on with its own key although another is stored.
-/

namespace PinkGlasses

open Lib Lib.System Table

namespace SshExit

/-- The key the session was presented is the one stored for its exit, if the exit is still there. -/
def Pinned (w : World) (c : Client) : Prop :=
  ∀ e ∈ w.exits.rows, e.id = c.exitID → e.hostKey = some c.presented
deriving Decidable

/-- The session a statement uses, to carry connections or to run a script. -/
def uses {β : Type} : ConnStmt β → Option Client
  | .forward client _ | .run client => some client
  | _ => none

/-- Every session that was used is one to the stored key. -/
def UsedPinned {ρ : Type} (c : Conf Op World ρ) : Prop :=
  ∀ th ∈ c.threads, ∀ call ∈ th.hist, ∀ client ∈ uses call.stmt.stmt, Pinned c.state client
deriving Decidable

/-- A key is pinned only where none is stored, or the same. -/
def firstContact {β : Type} (w : World) : ConnStmt β → Prop
  | .pinSSHExitHostKey id fingerprint =>
    ∀ e ∈ w.exits.rows, e.id = id → ∀ key ∈ e.hostKey, key = fingerprint
  | _ => True

def FirstContact {ρ : Type} (c : Conf Op World ρ) (_ : Nat) (β : Type) (s : Op β) : Prop :=
  firstContact c.state s.stmt

instance {ρ : Type} (c : Conf Op World ρ) (i : Nat) (β : Type) (s : Op β) :
    Decidable (FirstContact c i β s) := by
  obtain ⟨held, s⟩ := s
  induction s using ConnStmt.casesOn <;> unfold FirstContact firstContact <;> infer_instance

/-! ### What a goroutine has learned -/

/-- The keys an answer shows to be stored, as sessions to them. -/
def learns {β : Type} : ConnStmt β → Option β → List Client
  | .sshExitSessions, r => (r.getD []).filterMap fun e => e.hostKey.map (⟨e.id, ·⟩)
  | .pinSSHExitHostKey id fingerprint, r => r.toList.map fun _ => ⟨id, fingerprint⟩
  | .connected, r => r.join.toList
  | _, _ => []

def learned (h : Hist Op) : List Client := h.flatMap fun call => learns call.stmt.stmt call.answer

/-- A session is used, or handed to others, only to a key that is known to be stored. -/
def Knows (h : Hist Op) (β : Type) (s : Op β) : Prop :=
  match s.stmt with
  | .forward client _ | .run client | .setClient (some client) => client ∈ learned h
  | _ => True

/-- The same for the endpoint of a session that has not been opened yet. -/
def KnowsKey (e : SSHExit) (ep : Endpoint) (h : Hist Op) : Prop :=
  ep.hostKey = "" ∨ ⟨e.id, ep.hostKey⟩ ∈ learned h

theorem learned_cons {β : Type} {s : Op β} {r : Option β} {h : Hist Op} {c : Client}
    (hc : c ∈ learned h) : c ∈ learned (⟨s, r⟩ :: h) :=
  List.mem_append_right _ hc

theorem KnowsKey.cons {β : Type} {s : Op β} {r : Option β} {h : Hist Op} {e : SSHExit}
    {ep : Endpoint}
    (hep : KnowsKey e ep h) : KnowsKey e ep (⟨s, r⟩ :: h) :=
  hep.imp_right learned_cons

section Contract

variable {h : Hist Op} {e : SSHExit} {hd : UUID} {ep : Endpoint}

theorem authenticated_meets {fp : String} (hkey : ep.hostKey = fp) (hfp : ⟨e.id, fp⟩ ∈ learned h) :
    (authenticated e hd ep fp).Meets Knows h fun h' r =>
      KnowsKey e r.1 h' ∧ ∀ client, r.2 = .ok client → client ∈ learned h' := by
  refine ⟨trivial, fun r => ?_⟩
  have hep : KnowsKey e ep h := .inr (hkey ▸ hfp)
  cases r with
  | none => exact ⟨hep.cons, nofun⟩
  | some _ =>
    refine ⟨hep.cons, fun client hclient => ?_⟩
    cases hclient
    exact learned_cons hfp

theorem dial_meets (hep : KnowsKey e ep h) : (dial e hd ep).Meets Knows h fun h' r =>
    KnowsKey e r.1 h' ∧ ∀ client, r.2 = .ok client → client ∈ learned h' := by
  refine ⟨trivial, fun r => ?_⟩
  cases r with
  | none => exact ⟨hep.cons, nofun⟩
  | some fp =>
    simp only [Prog.bind]
    split
    · refine ⟨trivial, fun r => ?_⟩
      cases r with
      | none => exact ⟨hep.cons.cons, nofun⟩
      | some _ => exact authenticated_meets rfl (by simp [learned, learns])
    · rename_i hpinned
      split
      · exact ⟨hep.cons, nofun⟩
      · rename_i hsame
        rw [not_not] at hsame
        subst hsame
        exact authenticated_meets rfl (learned_cons (hep.resolve_left hpinned))

/-- The statement uses no session but this one. -/
def Only (client : Client) (β : Type) (s : Op β) : Prop :=
  match s.stmt with
  | .forward c _ | .run c | .setClient (some c) => c = client
  | _ => True

theorem carry_uses (cfg : Config) (e : SSHExit) (hd : UUID) (client : Client) :
    (carry cfg e hd client).Uses (Only client) := by
  refine ⟨rfl, fun r => ?_⟩
  cases r with
  | none => trivial
  | some _ =>
    obtain ⟨_ | port⟩ := cfg
    · exact ⟨rfl, fun _ => ⟨trivial, fun _ => ⟨trivial, fun _ => ⟨trivial, fun _ => trivial⟩⟩⟩⟩
    · exact ⟨rfl, fun _ => ⟨rfl, fun _ => ⟨trivial, fun _ => ⟨trivial, fun _ => ⟨trivial, fun _ =>
        trivial⟩⟩⟩⟩⟩

/-- A program that uses a session which is known to be to the stored key. -/
theorem Only.meets {α : Type} {p : Prog Op α} {client : Client} (hp : p.Uses (Only client))
    (hclient : client ∈ learned h) {K : Hist Op → Prop} (hK : K h)
    (hgrow : ∀ h c, K h → K (c :: h)) :
    p.Meets Knows h fun h' _ => K h' := by
  refine (hp.meets (K := fun h' => client ∈ learned h' ∧ K h') ⟨hclient, hK⟩
    (fun h c hh => ⟨learned_cons hh.1, hgrow h c hh.2⟩) ?_).mono fun _ _ hh => hh.2
  intro h β s hh hs
  unfold Knows
  unfold Only at hs
  split <;> simp_all

theorem session_meets (cfg : Config) (hep : KnowsKey e ep h) :
    (session cfg e hd ep).Meets Knows h fun h' r => KnowsKey e r.1 h' := by
  refine Prog.meets_bind.mpr ((dial_meets hep).mono fun h₁ ⟨ep, r⟩ ⟨hep, hr⟩ => ?_)
  cases r with
  | error err => exact hep
  | ok client =>
    exact Prog.meets_bind.mpr (Only.meets (carry_uses cfg e hd client) (hr client rfl) hep
      fun _ _ hep => hep.cons)

theorem retrying_meets (cfg : Config) (n : Nat) (hep : KnowsKey e ep h) :
    (retrying cfg e hd n ep).Meets Knows h fun _ _ => True := by
  induction n generalizing h ep with
  | zero => trivial
  | succ n ih =>
    refine Prog.meets_bind.mpr ((session_meets cfg hep).mono fun h₁ ⟨ep, msg⟩ hep => ?_)
    exact ⟨trivial, fun r => ih hep.cons⟩

theorem install_meets : (install e hd).Meets Knows h fun _ _ => True := by
  refine ⟨trivial, fun r => ?_⟩
  obtain _ | _ | client := r
  · trivial
  · trivial
  · have hclient : client ∈ learned (⟨⟨some hd, .connected⟩, some (some client)⟩ :: h) := by
      simp [learned, learns]
    refine Only.meets ?_ hclient trivial fun _ _ _ => trivial
    refine ⟨trivial, fun r => ?_⟩
    obtain _ | _ | _ := r
    · trivial
    · trivial
    · refine ⟨trivial, fun r => ?_⟩
      obtain _ | _ | _ := r
      · exact ⟨trivial, fun _ => trivial⟩
      · exact ⟨trivial, fun _ => trivial⟩
      · refine ⟨trivial, fun r => ?_⟩
        cases r with
        | none => exact ⟨trivial, fun _ => ⟨trivial, fun _ => trivial⟩⟩
        | some _ => exact ⟨rfl, fun _ => ⟨trivial, fun _ => ⟨trivial, fun _ => trivial⟩⟩⟩

theorem removal_meets (process : Nat) {hd : Option UUID} {client : Option Client}
    (hclient : ∀ c ∈ client, c ∈ learned h) :
    (removal process e hd client).Meets Knows h fun _ _ => True := by
  cases client with
  | none => exact ⟨trivial, fun _ => ⟨trivial, fun _ => ⟨trivial, fun _ => trivial⟩⟩⟩
  | some c =>
    exact ⟨hclient c rfl, fun _ =>
      ⟨trivial, fun _ => ⟨trivial, fun _ => ⟨trivial, fun _ => trivial⟩⟩⟩⟩

theorem teardown_meets (process : Nat) (hd : Option UUID) :
    (teardown process e hd).Meets Knows h fun _ _ => True := by
  cases hd with
  | none => exact removal_meets process (nofun : ∀ c ∈ none, c ∈ learned h)
  | some hd =>
    refine ⟨trivial, fun r => ⟨trivial, fun claimed => ?_⟩⟩
    simp only [Prog.bind]
    split
    · refine removal_meets process fun c hc => learned_cons (List.mem_append_left _ ?_)
      exact Option.mem_toList.mpr hc
    · trivial

/-- What the pass knows of the exit when it starts a session: the key that was stored. -/
theorem knowsKey_of_read {rows : List SSHExit} {s : Op (List SSHExit)}
    (hs : s.stmt = .sshExitSessions)
    (he : e ∈ rows) : KnowsKey e ⟨e.host, e.port, e.username, e.privateKey, e.hostKey.getD ""⟩
      (⟨s, some rows⟩ :: h) := by
  cases hkey : e.hostKey with
  | none => exact .inl rfl
  | some key =>
    refine .inr (List.mem_append_left _ ?_)
    simp only [hs, learns, Option.getD_some, List.mem_filterMap]
    exact ⟨e, he, by simp [hkey]⟩

theorem request_meets (cfg : Config) (r : Request) :
    (r.prog cfg).Meets Knows [] fun _ _ => True := by
  cases r with
  | pass process id sessions =>
    refine ⟨trivial, fun r => ?_⟩
    cases r with
    | none => trivial
    | some rows =>
      simp only [Prog.bind]
      cases hfind : rows.find? (·.id == id) with
      | none => exact ⟨trivial, fun _ => trivial⟩
      | some e =>
        -- the row that was read tells the key the connection has to check
        have hkey := knowsKey_of_read (h := []) (s := ⟨none, .sshExitSessions⟩) rfl
          (List.mem_of_find?_eq_some hfind)
        refine ⟨trivial, fun r => ?_⟩
        obtain _ | ⟨_ | hd, _ | _⟩ := r <;> simp only [Prog.bind]
        · trivial
        · split
          · exact teardown_meets process none
          · split <;> trivial
        · trivial
        · split
          · exact teardown_meets process hd
          · split
            · exact install_meets
            · trivial
        · exact ⟨trivial, fun _ => retrying_meets cfg sessions hkey.cons.cons⟩
  | _ => exact ⟨trivial, fun _ => trivial⟩

end Contract

/-! ### The stored key stays -/

section Step

variable {sha256 : String → String} {presented : String} {h : Option UUID} {w w' : World} {β : Type}
  {c : Client}

/-- Exits are those that were there, with the keys they had. -/
def KeysKept (w w' : World) : Prop :=
  ∀ e' ∈ w'.exits.rows, ∃ e ∈ w.exits.rows, e.id = e'.id ∧ ∀ key, e.hostKey = some key →
    e'.hostKey = some key

theorem Pinned.kept (hc : Pinned w c) (hkept : KeysKept w w') : Pinned w' c := by
  intro e' he' hid'
  obtain ⟨e, he, hid, hkey⟩ := hkept e' he'
  exact hkey _ (hc e he (hid.trans hid'))

theorem KeysKept.refl (w : World) : KeysKept w w := fun e he => ⟨e, he, rfl, fun _ h => h⟩

theorem keysKept_update {p : SSHExit → Bool} {f : SSHExit → SSHExit}
    (hexits : w'.exits.rows = w.exits.rows.map fun e => if p e then f e else e)
    (hid : ∀ e, (f e).id = e.id)
    (hf : ∀ e key, p e = true → e.hostKey = some key → (f e).hostKey = some key) :
    KeysKept w w' := by
  intro e' he'
  rw [hexits] at he'
  obtain ⟨e, he, rfl⟩ := List.mem_map.mp he'
  cases hp : p e with
  | true => exact ⟨e, he, (hid e).symm, fun key hkey => hf e key hp hkey⟩
  | false => exact ⟨e, he, rfl, fun _ hkey => hkey⟩

/-- **No statement replaces a key that is stored.** -/
theorem keysKept_apply (s : ConnStmt β) : KeysKept w (s.apply sha256 presented h w).2 := by
  cases s with
  | setSSHExitState | startSSHExitInstall | finishSSHExitInstall | requestSSHExitInstall
  | markSSHExitDeleting =>
    refine keysKept_update rfl ?_ ?_
    · exact fun _ => rfl
    · exact fun _ _ _ hkey => hkey
  | pinSSHExitHostKey id fingerprint =>
    refine keysKept_update rfl (fun _ => rfl) fun e key hp hkey => ?_
    simp [hkey] at hp
  | deleteSSHExit id => exact fun e he => ⟨e, (mem_delete.mp he).1, rfl, fun _ hkey => hkey⟩
  | enter process e =>
    simp only [ConnStmt.apply]
    split
    · exact .refl w
    · split <;> exact .refl w
  | _ => exact .refl w

/-- Sessions that are handed to others are to the stored key. -/
def HeldPinned (w : World) : Prop := ∀ x ∈ w.helds.rows, ∀ c ∈ x.client, Pinned w c

/-- The session a statement hands to others. -/
def handsOn : ConnStmt β → Option Client
  | .setClient client => client
  | _ => none

/-- An `UPDATE` of what the goroutines share that leaves them their session. -/
theorem client_update {p : Held → Bool} {f : Held → Held}
    (hf : ∀ x, (f x).client = x.client) {x : Held}
    (hx : x ∈ w.helds.rows.map fun x => if p x then f x else x) :
    ∃ y ∈ w.helds.rows, y.client = x.client := by
  obtain ⟨y, hy, rfl⟩ := List.mem_map.mp hx
  refine ⟨y, hy, ?_⟩
  split
  · exact (hf y).symm
  · rfl

/-- A session that others have now is one they had, or the one that is handed to them. -/
theorem client_apply {s : ConnStmt β} {x : Held}
    (hx : x ∈ (s.apply sha256 presented h w).2.helds.rows) (hc : x.client = some c) :
    (∃ y ∈ w.helds.rows, y.client = some c) ∨ handsOn s = some c := by
  have hold : (∃ y ∈ w.helds.rows, y.client = x.client) →
      (∃ y ∈ w.helds.rows, y.client = some c) ∨ handsOn s = some c := by
    rintro ⟨y, hy, hyc⟩
    exact .inl ⟨y, hy, hyc.trans hc⟩
  cases s with
  | setClient client =>
    obtain ⟨y, hy, rfl⟩ := List.mem_map.mp hx
    split at hc
    · exact .inr hc
    · exact .inl ⟨y, hy, hc⟩
  | claim | release | forget =>
    refine hold (client_update ?_ hx)
    exact fun _ => rfl
  | stop process => exact hold ⟨x, (mem_delete.mp hx).1, rfl⟩
  | enter process e =>
    simp only [ConnStmt.apply] at hx
    split at hx
    · refine hold (client_update ?_ hx)
      exact fun _ => rfl
    · split at hx
      · refine hold (client_update ?_ hx)
        exact fun _ => rfl
      · rcases mem_insert.mp hx with hx | rfl
        · refine hold (client_update ?_ hx)
          exact fun _ => rfl
        · cases hc
  | _ => exact hold ⟨x, hx, rfl⟩

theorem pinned_learns {s : ConnStmt β} (hw : HeldPinned w) (hfirst : firstContact w s)
    (hc : c ∈ learns s (some (s.apply sha256 presented h w).1)) :
    Pinned (s.apply sha256 presented h w).2 c := by
  cases s with
  | sshExitSessions =>
    obtain ⟨e, he, hmap⟩ := List.mem_filterMap.mp hc
    obtain ⟨key, hkey, rfl⟩ := Option.map_eq_some_iff.mp hmap
    intro e' he' hid
    rw [eq_of_key he' he hid]
    exact hkey
  | pinSSHExitHostKey id fingerprint =>
    obtain rfl : c = ⟨id, fingerprint⟩ := by simpa [learns] using hc
    intro e' he' hid
    obtain ⟨e, he, rfl⟩ := List.mem_map.mp he'
    have hsame := hfirst e he
    cases hkey : e.hostKey <;> by_cases hsel : e.id = id <;> simp_all
  | connected =>
    have hshared : (h.bind w.helds.find?).bind (·.client) = some c := by
      simpa [learns, ConnStmt.apply] using hc
    obtain ⟨x, hx, hclient⟩ := Option.bind_eq_some_iff.mp hshared
    obtain ⟨hd, -, hfind⟩ := Option.bind_eq_some_iff.mp hx
    exact hw x (List.mem_of_find?_eq_some hfind) c hclient
  | _ => cases hc

end Step

/-- Every session that was used is to a key that was learned. -/
def Backed (h : Hist Op) : Prop := ∀ call ∈ h, ∀ c ∈ uses call.stmt.stmt, c ∈ learned h

theorem Backed.cons {h : Hist Op} {β : Type} {s : Op β} {r : Option β} (hh : Backed h)
    (hpre : Knows h β s) : Backed (⟨s, r⟩ :: h) := by
  intro call hcall c hc
  rcases List.mem_cons.mp hcall with rfl | hcall
  · obtain ⟨hd, s⟩ := s
    cases s with
    | forward | run =>
      cases hc
      exact learned_cons hpre
    | _ => cases hc
  · exact learned_cons (hh call hcall c hc)

/-- **What connectors keep**: sessions that are handed on, and keys that a goroutine has learned,
are those that are stored. -/
theorem pinned_inductive (sha256 : String → String) (cfg : Config) :
    Inductive (connectors sha256 cfg) FirstContact Knows (fun _ _ => True) HeldPinned fun w th =>
      (∀ c ∈ learned th.hist, Pinned w c) ∧ Backed th.hist where
  spawn _ r _ _ := ⟨⟨nofun, nofun⟩, request_meets cfg r⟩
  step := by
    intro conf i hist β s k presented b w' hc hi hpre hok hexec
    obtain ⟨hlearned, hbacked⟩ := hc.threads _ (List.mem_of_getElem? hi)
    have hcons := hbacked.cons (r := some b) hpre
    obtain ⟨h, s⟩ := s
    have happly := (Option.ite_none_right_eq_some.mp hexec).2
    obtain ⟨rfl, rfl⟩ := Prod.mk.inj (Option.some.inj happly)
    -- a key, once pinned, stays: what other threads have learned remains true
    have hkept : KeysKept conf.state (s.apply sha256 presented h conf.state).2 := keysKept_apply s
    refine ⟨?_, ⟨?_, hcons⟩, fun j th hj hth hB => ⟨fun c hcl => (hB.1 c hcl).kept hkept, hB.2⟩⟩
    · intro x hx c hxc
      rcases client_apply hx hxc with ⟨y, hy, hyc⟩ | hnew
      · exact (hc.state y hy c hyc).kept hkept
      · cases s with
        | setClient client =>
          cases hnew
          exact (hlearned c hpre).kept hkept
        | _ => cases hnew
    · intro c hcl
      rcases List.mem_append.mp hcl with hnew | hold
      · exact pinned_learns hc.state hok hnew
      · exact (hlearned c hold).kept hkept
  fail := by
    intro w h β s k _ hB hpre
    refine ⟨fun c hcl => ?_, hB.2.cons hpre⟩
    obtain ⟨hd, s⟩ := s
    have hnone : learned (⟨⟨hd, s⟩, none⟩ :: h) = learned h := by cases s <;> rfl
    exact hB.1 c (hnone ▸ hcl)

/-- **Every session that is used is one to the stored key, then and ever after**, as long as a key
is pinned only where none is stored or the same. -/
theorem usedPinned_of_firstContact (sha256 : String → String) (cfg : Config) (w : World)
    (hw : w.helds.rows = []) (es : List (Event Request String))
    (hok : (connectors sha256 cfg).Along FirstContact ⟨w, []⟩ es) :
    UsedPinned ((connectors sha256 cfg).run ⟨w, []⟩ es) := by
  have hstart : HeldPinned w := by
    intro x hx
    rw [hw] at hx
    cases hx
  have hend := (pinned_inductive sha256 cfg).run (.start hstart) hok
  intro th hth call hcall c hc
  obtain ⟨hlearned, hbacked⟩ := hend.threads th hth
  exact hlearned c (hbacked call hcall c hc)

/-- One exit that was never reached. -/
def newExit : World where
  exits := .ofRows [{ id := 1, host := "vps.example" }] (by decide)

/-- The first process connects, and a second one after it, to a server that presents a key. -/
def oneAfterTheOther (fp : String) : List (Event Request String) :=
  .spawn (.pass 0 1 1) :: List.replicate 7 (.step 0 "SHA256:A") ++
    .spawn (.pass 1 1 1) :: List.replicate 7 (.step 1 fp)

theorem usedPinned_in_turn : newExit.helds.rows = [] ∧
    UsedPinned ((connectors id {}).run ⟨newExit, []⟩ (oneAfterTheOther "SHA256:A")) :=
  ⟨rfl, usedPinned_of_firstContact id {} newExit rfl _ (by decide +kernel)⟩

/-- Two processes meet the exit for the first time together, each with another key behind the
name. -/
def together : List (Event Request String) :=
  [.spawn (.pass 0 1 1), .spawn (.pass 1 1 1)] ++ List.replicate 4 (.step 0 "SHA256:A") ++
    List.replicate 4 (.step 1 "SHA256:B") ++ List.replicate 3 (.step 0 "") ++
    List.replicate 3 (.step 1 "")

/-- The second session carries connections with a key that is not the stored one. -/
theorem second_key_used :
    ((connectors id {}).run ⟨newExit, []⟩ together).state.exits.rows.map (·.hostKey) =
        [some "SHA256:A"] ∧
      (((connectors id {}).run ⟨newExit, []⟩ together).threads[1]?.map fun th =>
        th.hist.map fun call => uses call.stmt.stmt).any
          (·.contains (some ⟨1, "SHA256:B"⟩)) = true ∧
      ¬UsedPinned ((connectors id {}).run ⟨newExit, []⟩ together) :=
  ⟨by decide +kernel, by decide +kernel, by decide +kernel⟩

end SshExit

end PinkGlasses
