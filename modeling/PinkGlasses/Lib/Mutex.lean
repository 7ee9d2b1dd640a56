import PinkGlasses.Lib.Conc

/-!
# PinkGlasses.Lib.Mutex

A **mutex among the statements of a system**: some statements take it, some give it back, and the
state says whether it is held. A thread is inside if the last of these it executed took it.

If only a thread that is inside gives the mutex back, at most one thread is inside (`Mutex.Alone`),
along every run.
-/

namespace Lib

/-- What a statement does with the mutex. -/
inductive LockOp
  | acquire
  | release
  | other
deriving Repr, DecidableEq

variable {S : Type → Type} {σ O R ρ : Type}

/-- **A mutex of a system.** Taking it succeeds only while nobody holds it. -/
structure Mutex (sys : System S σ O R ρ) where
  op : {β : Type} → S β → LockOp
  held : σ → Bool
  acquire : ∀ {β} {s : S β} {o st b st'}, op s = .acquire → sys.exec s o st = some (b, st') →
    held st = false ∧ held st' = true
  release : ∀ {β} {s : S β} {o st b st'}, op s = .release → sys.exec s o st = some (b, st') →
    held st' = false
  other : ∀ {β} {s : S β} {o st b st'}, op s = .other → sys.exec s o st = some (b, st') →
    held st' = held st

namespace Mutex

variable {sys : System S σ O R ρ} (m : Mutex sys)

/-- The thread with this history holds the mutex. -/
def inside : Hist S → Bool
  | [] => false
  | c :: h => match m.op c.stmt, c.answer.isSome with
    | .acquire, true => true
    | .release, true => false
    | _, _ => inside h

variable {β : Type} {i : Nat}

@[simp] theorem inside_failed (s : S β) (h : Hist S) : m.inside (⟨s, none⟩ :: h) = m.inside h := by
  simp only [inside, Option.isSome_none]
  cases m.op s <;> rfl

theorem inside_release {s : S β} (hs : m.op s = .release) (b : β) (h : Hist S) :
    m.inside (⟨s, some b⟩ :: h) = false := by
  simp [inside, hs]

theorem inside_other {s : S β} (hs : m.op s = .other) (r : Option β) (h : Hist S) :
    m.inside (⟨s, r⟩ :: h) = m.inside h := by
  simp [inside, hs]

/-- **At most one thread is inside**, and while one is the mutex is held. -/
structure Alone (c : Conf S σ ρ) : Prop where
  held : ∀ th ∈ c.threads, m.inside th.hist = true → m.held c.state = true
  one : ∀ (i j : Nat) (t t' : Thread S ρ), c.threads[i]? = some t → c.threads[j]? = some t' →
    m.inside t.hist = true →
    m.inside t'.hist = true → i = j

variable {m}

theorem Alone.set {c : Conf S σ ρ} (hc : m.Alone c) {t t' : Thread S ρ} {st : σ}
    (ht : c.threads[i]? = some t) (hsame : m.inside t'.hist = m.inside t.hist)
    (hheld : m.held st = m.held c.state) : m.Alone ⟨st, c.threads.set i t'⟩ := by
  have hlt : i < c.threads.length := (List.getElem?_eq_some_iff.mp ht).1
  -- a thread of the new configuration stands where one with the same place stood
  have hback : ∀ {j : Nat} {x : Thread S ρ}, (c.threads.set i t')[j]? = some x →
      ∃ x₀, c.threads[j]? = some x₀ ∧ m.inside x₀.hist = m.inside x.hist := by
    intro j x hx
    by_cases hij : i = j
    · subst hij
      rw [List.getElem?_set_self hlt] at hx
      cases hx
      exact ⟨t, ht, hsame.symm⟩
    · rw [List.getElem?_set_ne hij] at hx
      exact ⟨x, hx, rfl⟩
  constructor
  · intro x hx hin
    obtain ⟨j, hj⟩ := List.mem_iff_getElem?.mp hx
    obtain ⟨x₀, hx₀, heq⟩ := hback hj
    rw [show m.held _ = _ from hheld]
    exact hc.held x₀ (List.mem_of_getElem? hx₀) (heq.trans hin)
  · intro j j' x x' hx hx' hin hin'
    obtain ⟨x₀, hx₀, heq⟩ := hback hx
    obtain ⟨x₁, hx₁, heq'⟩ := hback hx'
    exact hc.one j j' x₀ x₁ hx₀ hx₁ (heq.trans hin) (heq'.trans hin')

/-- Everyone but thread `i` is outside. -/
theorem Alone.set_only {c : Conf S σ ρ} {t' : Thread S ρ} {st : σ}
    (hothers : ∀ j x, j ≠ i → c.threads[j]? = some x → m.inside x.hist = false)
    (hheld : m.inside t'.hist = true → m.held st = true) : m.Alone ⟨st, c.threads.set i t'⟩ := by
  -- whoever is inside is the thread that has just acted
  have hself : ∀ {j : Nat} {x : Thread S ρ}, (c.threads.set i t')[j]? = some x →
      m.inside x.hist = true → j = i ∧ x = t' := by
    intro j x hx hin
    by_cases hij : i = j
    · subst hij
      refine ⟨rfl, ?_⟩
      have hlt : i < c.threads.length := by
        have := (List.getElem?_eq_some_iff.mp hx).1
        rwa [List.length_set] at this
      rw [List.getElem?_set_self hlt] at hx
      exact (Option.some.inj hx).symm
    · rw [List.getElem?_set_ne hij] at hx
      rw [hothers j x (Ne.symm hij) hx] at hin
      cases hin
  constructor
  · intro x hx hin
    obtain ⟨j, hj⟩ := List.mem_iff_getElem?.mp hx
    obtain ⟨-, rfl⟩ := hself hj hin
    exact hheld hin
  · intro j j' x x' hx hx' hin hin'
    exact (hself hx hin).1.trans (hself hx' hin').1.symm

theorem Alone.answer {c : Conf S σ ρ} (hc : m.Alone c) {h : Hist S} {s : S β}
    {k : Option β → Prog S ρ} {o : O} (ht : c.threads[i]? = some ⟨h, .call s k⟩)
    (hrelease : m.op s = .release → m.inside h = true) :
    m.Alone (System.answer c i h s k (sys.exec s o c.state)) := by
  cases hexec : sys.exec s o c.state with
  | none => exact hc.set ht (m.inside_failed s h) rfl
  | some r =>
    obtain ⟨b, st⟩ := r
    cases hop : m.op s with
    | other => exact hc.set ht (m.inside_other hop _ h) (m.other hop hexec)
    | acquire =>
      -- the lock was free, so nobody was inside
      obtain ⟨hfree, hheld⟩ := m.acquire hop hexec
      refine Alone.set_only (fun j x _ hx => ?_) fun _ => hheld
      by_contra hin
      have := hc.held x (List.mem_of_getElem? hx) (Bool.not_eq_false _ ▸ hin)
      rw [hfree] at this
      cases this
    | release =>
      -- the releaser was inside, so nobody else was
      refine Alone.set_only (fun j x hji hx => ?_) fun hin => ?_
      · by_contra hin
        exact hji (hc.one j i x _ hx ht (Bool.not_eq_false _ ▸ hin) (hrelease hop))
      · rw [m.inside_release hop] at hin
        cases hin

/-- **One event keeps it**, if a thread that gives the mutex back is inside. -/
theorem Alone.next {c : Conf S σ ρ} (hc : m.Alone c) {e : Event R O}
    (hrelease : ∀ i o h β (s : S β) k, e = .step i o → c.threads[i]? = some ⟨h, .call s k⟩ →
      m.op s = .release → m.inside h = true) : m.Alone (sys.next c e) := by
  cases e with
  | spawn r =>
    simp only [System.next]
    split
    -- a new thread has done nothing, so it is not inside
    · have hback : ∀ {j : Nat} {x : Thread S ρ}, (c.threads ++ [⟨[], sys.prog r⟩])[j]? = some x →
          m.inside x.hist = true → c.threads[j]? = some x := by
        intro j x hx hin
        rw [List.getElem?_append] at hx
        split at hx
        · exact hx
        · rw [List.mem_singleton.mp (List.mem_of_getElem? hx)] at hin
          cases hin
      constructor
      · intro x hx hin
        obtain ⟨j, hj⟩ := List.mem_iff_getElem?.mp hx
        exact hc.held x (List.mem_of_getElem? (hback hj hin)) hin
      · intro j j' x x' hx hx' hin hin'
        exact hc.one j j' x x' (hback hx hin) (hback hx' hin') hin hin'
    · exact hc
  | step i o =>
    simp only [System.next]
    split
    · rename_i h β s k ht
      exact hc.answer ht (hrelease i o h β s k rfl ht)
    · exact hc
  | fail i =>
    simp only [System.next]
    split
    · rename_i h β s k ht
      exact hc.set ht (m.inside_failed s h) rfl
    · exact hc

theorem alone_start (st : σ) : m.Alone (⟨st, []⟩ : Conf S σ ρ) :=
  ⟨nofun, fun _ _ _ _ h => by cases h⟩

end Mutex

end Lib
