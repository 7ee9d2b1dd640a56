import Mathlib.Algebra.GroupWithZero.Nat
import Mathlib.Data.List.Basic
import Mathlib.Data.List.Nodup
import Mathlib.Data.List.Perm.Subperm

/-!
# PinkGlasses.Lib.Table

A relational table with a generated primary key, as a list of rows that carries the key
constraint in its type: **the keys of the rows are distinct, and every key the table has
handed out lies below `next`**, so a key is never given out twice, also not after the row
that had it was deleted.

The operations are the ones an SQL statement is made of: `UPDATE … WHERE` (`update`),
`INSERT … RETURNING id` (`insert`), `DELETE … WHERE` (`delete`) and the lookup of one key
(`find?`).
-/

namespace Lib

/-- **A table with a generated primary key.** -/
structure Table (α : Type) (key : α → Nat) where
  /-- The rows, oldest first. -/
  rows : List α
  /-- The key of the next row to be inserted. -/
  next : Nat
  /-- Key 0 is no row's key. -/
  pos : 0 < next
  /-- The primary key is unique. -/
  nodup : (rows.map key).Nodup
  /-- Keys are handed out in order. -/
  bound : ∀ r ∈ rows, key r < next

namespace Table

variable {α : Type} {key : α → Nat}

/-- A table without rows. -/
def empty : Table α key := ⟨[], 1, by omega, by simp, by simp⟩

/-- A table that holds given rows. -/
def ofRows (rows : List α) (h : (rows.map key).Nodup) : Table α key where
  rows := rows
  next := rows.foldr (fun r n => max (key r + 1) n) 1
  pos := by
    induction rows with
    | nil => simp
    | cons r rs ih =>
      have := ih (List.nodup_cons.mp h).2
      simp only [List.foldr_cons]
      omega
  nodup := h
  bound := by
    induction rows with
    | nil => simp
    | cons r rs ih =>
      intro x hx
      simp only [List.foldr_cons]
      rcases List.mem_cons.mp hx with rfl | hx
      · omega
      · have := ih (List.nodup_cons.mp h).2 x hx
        omega

/-- The row with a given key. -/
def find? (t : Table α key) (k : Nat) : Option α := t.rows.find? (fun r => key r == k)

/-- Whether a reference that may be NULL is to a row with `p`. -/
def refers (t : Table α key) (p : α → Bool) (o : Option Nat) : Bool :=
  o.any fun k => t.rows.any fun r => key r == k && p r

/-- `UPDATE t SET f WHERE p`, for an `f` that leaves the key alone. -/
def update (t : Table α key) (p : α → Bool) (f : α → α)
    (hf : ∀ r, key (f r) = key r := by intro _; rfl) : Table α key where
  rows := t.rows.map fun r => if p r then f r else r
  next := t.next
  pos := t.pos
  nodup := by
    have h : (t.rows.map fun r => if p r then f r else r).map key = t.rows.map key := by
      rw [List.map_map]
      refine List.map_congr_left fun r _ => ?_
      simp only [Function.comp_apply]
      split
      · exact hf r
      · rfl
    rw [h]
    exact t.nodup
  bound := by
    intro r hr
    obtain ⟨r', hr', rfl⟩ := List.mem_map.mp hr
    have hlt := t.bound r' hr'
    split
    · rw [hf]; exact hlt
    · exact hlt

/-- `INSERT INTO t VALUES … RETURNING id`: the new row takes the key `t.next`. -/
def insert (t : Table α key) (mk : Nat → α)
    (hmk : ∀ k, key (mk k) = k := by intro _; rfl) : Table α key where
  rows := t.rows ++ [mk t.next]
  next := t.next + 1
  pos := by omega
  nodup := by
    rw [List.map_append, List.map_singleton, hmk]
    refine List.Nodup.append t.nodup (by simp) ?_
    intro k hk hk'
    obtain ⟨r, hr, rfl⟩ := List.mem_map.mp hk
    have := t.bound r hr
    simp only [List.mem_singleton] at hk'
    omega
  bound := by
    intro r hr
    rcases List.mem_append.mp hr with h | h
    · have := t.bound r h
      omega
    · rw [List.mem_singleton.mp h, hmk]
      omega

/-- `DELETE FROM t WHERE p`. -/
def delete (t : Table α key) (p : α → Bool) : Table α key where
  rows := t.rows.filter fun r => !p r
  next := t.next
  pos := t.pos
  nodup := (List.filter_sublist.map key).nodup t.nodup
  bound := fun r hr => t.bound r (List.mem_of_mem_filter hr)

/-- The key of the first row with a property. -/
def keyOf (t : Table α key) (p : α → Bool) : Option Nat := (t.rows.find? p).map key

theorem rows_update (t : Table α key) (p : α → Bool) (f : α → α) (hf) :
    (t.update p f hf).rows = t.rows.map fun r => if p r then f r else r := rfl

theorem rows_insert (t : Table α key) (mk : Nat → α) (hmk) :
    (t.insert mk hmk).rows = t.rows ++ [mk t.next] := rfl

variable {t : Table α key} {p : α → Bool} {f : α → α} {r : α} {mk : Nat → α}

/-- A row after an `UPDATE` is a row from before it, changed if it was selected. -/
theorem mem_update {hf} :
    r ∈ (t.update p f hf).rows ↔ ∃ r₀ ∈ t.rows, (if p r₀ then f r₀ else r₀) = r := by
  rw [rows_update, List.mem_map]

theorem mem_insert {hmk} : r ∈ (t.insert mk hmk).rows ↔ r ∈ t.rows ∨ r = mk t.next := by
  rw [rows_insert, List.mem_append, List.mem_singleton]

theorem mem_delete : r ∈ (t.delete p).rows ↔ r ∈ t.rows ∧ p r = false := by
  simp [delete]

/-- Two rows of a table with the same key are the same row. -/
theorem eq_of_key {r' : α} (hr : r ∈ t.rows) (hr' : r' ∈ t.rows) (h : key r = key r') : r = r' :=
  List.inj_on_of_nodup_map t.nodup hr hr' h

/-- The row of a key after an `UPDATE`. -/
theorem eq_of_mem_update (hf) {r' : α} (hr : r ∈ t.rows) (hr' : r' ∈ (t.update p f hf).rows)
    (h : key r' = key r) : r' = if p r then f r else r := by
  obtain ⟨r₀, hr₀, rfl⟩ := mem_update.mp hr'
  have hkey : key (if p r₀ then f r₀ else r₀) = key r₀ := by
    split
    · exact hf r₀
    · rfl
  rw [eq_of_key hr₀ hr (hkey.symm.trans h)]

variable {k : Nat}

theorem refers_some : t.refers p (some k) = true ↔ ∃ r ∈ t.rows, key r = k ∧ p r = true := by
  simp [refers, List.any_eq_true]

theorem find?_eq_some : t.find? k = some r ↔ r ∈ t.rows ∧ key r = k := by
  constructor
  · intro h
    have hk := List.find?_some h
    exact ⟨List.mem_of_find?_eq_some h, by simpa using hk⟩
  · rintro ⟨hr, rfl⟩
    unfold find?
    cases hfind : t.rows.find? (fun x => key x == key r) with
    | none => exact absurd (List.find?_eq_none.mp hfind r hr) (by simp)
    | some r' =>
      have hk : key r' = key r := by simpa using List.find?_some hfind
      rw [eq_of_key (List.mem_of_find?_eq_some hfind) hr hk]

theorem find?_eq_none : t.find? k = none ↔ ∀ r ∈ t.rows, key r ≠ k := by
  simp [find?, List.find?_eq_none]

/-- Whether a table has a row with a key. -/
theorem isSome_find? : (t.find? k).isSome = true ↔ ∃ r ∈ t.rows, key r = k := by
  rw [Option.isSome_iff_exists]
  exact exists_congr fun _ => find?_eq_some

theorem isSome_find?_insert {hmk} :
    ((t.insert mk hmk).find? k).isSome = true ↔ (t.find? k).isSome = true ∨ k = t.next := by
  simp only [isSome_find?, mem_insert, or_and_right, exists_or, exists_eq_left, hmk]
  exact or_congr_right eq_comm

/-- A key below `next`. -/
theorem lt_next_of_isSome (h : (t.find? k).isSome = true) : k < t.next := by
  obtain ⟨r, hr, rfl⟩ := isSome_find?.mp h
  exact t.bound r hr

/-- An `UPDATE` neither loses a row nor changes its key. -/
theorem exists_mem_update {hf} (hr : r ∈ t.rows) :
    ∃ r' ∈ (t.update p f hf).rows, key r' = key r := by
  refine ⟨if p r then f r else r, mem_update.mpr ⟨r, hr, rfl⟩, ?_⟩
  split
  · exact hf r
  · rfl

/-- The row of a key after an `UPDATE`, looked up. -/
theorem find?_update (hf) :
    (t.update p f hf).find? k = (t.find? k).map fun r => if p r then f r else r := by
  have hcomp : ((fun r => key r == k) ∘ fun r => if p r then f r else r) = fun r => key r == k := by
    funext r
    simp only [Function.comp_apply]
    split
    · rw [hf r]
    · rfl
  rw [find?, find?, rows_update, List.find?_map, hcomp]

theorem isSome_find?_update (hf) (h : (t.find? k).isSome = true) :
    ((t.update p f hf).find? k).isSome = true := by
  obtain ⟨r, hr, rfl⟩ := isSome_find?.mp h
  exact isSome_find?.mpr (exists_mem_update hr)

theorem isSome_find?_delete (hp : ∀ r, p r = true → key r ≠ k) (h : (t.find? k).isSome = true) :
    ((t.delete p).find? k).isSome = true := by
  obtain ⟨r, hr, rfl⟩ := isSome_find?.mp h
  refine isSome_find?.mpr ⟨r, mem_delete.mpr ⟨hr, ?_⟩, rfl⟩
  cases hsel : p r with
  | false => rfl
  | true => exact absurd rfl (hp r hsel)

/-- An `UPDATE` that leaves a column alone. -/
theorem map_update {β : Type} {hf} {g : α → β} (hg : ∀ r, g (f r) = g r) :
    (t.update p f hf).rows.map g = t.rows.map g := by
  rw [rows_update, List.map_map]
  refine List.map_congr_left fun r _ => ?_
  simp only [Function.comp_apply]
  split
  · exact hg r
  · rfl

/-! #### Tables whose rows stay what they are -/

section Grew

variable {ι : Type} {ident : α → ι} {t' : Table α key}

/-- **The second table has grown from the first**: a row keeps its key, its place and what
identifies it, and nothing in the first table is identified as a new one is. -/
def Grew (ident : α → ι) (t t' : Table α key) : Prop :=
  ∃ (g : α → α) (new : List α), t'.rows = t.rows.map g ++ new ∧
    (∀ r, key (g r) = key r ∧ ident (g r) = ident r) ∧
    ∀ r' ∈ new, ∀ r ∈ t.rows, ident r ≠ ident r'

theorem Grew.refl : Grew ident t t := ⟨id, [], by simp, fun _ => ⟨rfl, rfl⟩, by simp⟩

theorem grew_insert {r' : α} (hrows : t'.rows = t.rows ++ [r']) (h : t.rows.find? p = none)
    (hp : ∀ r, ident r = ident r' → p r = true) : Grew ident t t' := by
  refine ⟨id, [r'], by rw [hrows, List.map_id], fun _ => ⟨rfl, rfl⟩, fun r₁ hr₁ r hr hident => ?_⟩
  rw [List.mem_singleton.mp hr₁] at hident
  exact List.find?_eq_none.mp h r hr (hp r hident)

theorem grew_update (hrows : t'.rows = t.rows.map fun r => if p r then f r else r)
    (hf : ∀ r, key (f r) = key r ∧ ident (f r) = ident r) : Grew ident t t' := by
  refine ⟨_, [], hrows.trans (List.append_nil _).symm, fun r => ?_, by simp⟩
  split
  · exact hf r
  · exact ⟨rfl, rfl⟩

theorem Grew.mem (h : Grew ident t t') (hr : r ∈ t.rows) :
    ∃ r' ∈ t'.rows, key r' = key r ∧ ident r' = ident r := by
  obtain ⟨g, new, hrows, hg, -⟩ := h
  exact ⟨g r, hrows ▸ List.mem_append_left new (List.mem_map_of_mem hr), hg r⟩

theorem Grew.isSome_find? (h : Grew ident t t') (hk : (t.find? k).isSome = true) :
    (t'.find? k).isSome = true := by
  obtain ⟨r, hr, rfl⟩ := Table.isSome_find?.mp hk
  obtain ⟨r', hr', hkey, -⟩ := h.mem hr
  exact Table.isSome_find?.mpr ⟨r', hr', hkey⟩

/-- A row is found where it was. -/
theorem Grew.keyOf (h : Grew ident t t') {q : ι → Bool}
    (hk : t.keyOf (fun r => q (ident r)) = some k) : t'.keyOf (fun r => q (ident r)) = some k := by
  obtain ⟨g, new, hrows, hg, -⟩ := h
  have hcomp : ((fun r => q (ident r)) ∘ g) = fun r => q (ident r) := by
    funext r
    simp only [Function.comp_apply, (hg r).2]
  obtain ⟨r, hr, rfl⟩ := Option.map_eq_some_iff.mp hk
  rw [Table.keyOf, hrows, List.find?_append, List.find?_map, hcomp, hr]
  exact congrArg some (hg r).1

end Grew

theorem exists_of_keyOf (h : t.keyOf p = some k) : ∃ r ∈ t.rows, p r = true ∧ key r = k := by
  obtain ⟨r, hr, hk⟩ := Option.map_eq_some_iff.mp h
  exact ⟨r, List.mem_of_find?_eq_some hr, List.find?_some hr, hk⟩

/-! ### Statements without an effect -/

theorem ext_rows {t' : Table α key} (hrows : t.rows = t'.rows) (hnext : t.next = t'.next) :
    t = t' := by
  cases t
  cases t'
  cases hrows
  cases hnext
  rfl

/-- An `UPDATE` that finds what it writes. -/
theorem rows_update_eq_iff {hf} :
    (t.update p f hf).rows = t.rows ↔ ∀ r ∈ t.rows, p r = true → f r = r := by
  have hid : t.rows = t.rows.map id := (List.map_id _).symm
  conv_lhs => rw [rows_update]; rhs; rw [hid]
  rw [List.map_inj_left]
  refine forall_congr' fun r => imp_congr_right fun _ => ?_
  cases hp : p r <;> simp

theorem update_eq_self {hf} (h : ∀ r ∈ t.rows, p r = true → f r = r) : t.update p f hf = t :=
  ext_rows (rows_update_eq_iff.mpr h) rfl

/-- A `DELETE` that finds nothing. -/
theorem rows_delete_eq_iff : (t.delete p).rows = t.rows ↔ ∀ r ∈ t.rows, p r = false := by
  rw [delete, List.filter_eq_self]
  simp

theorem delete_eq_self (h : ∀ r ∈ t.rows, p r = false) : t.delete p = t :=
  ext_rows (rows_delete_eq_iff.mpr h) rfl

/-- An `INSERT` always has one. -/
theorem rows_insert_ne (t : Table α key) (mk : Nat → α) (hmk) :
    (t.insert mk hmk).rows ≠ t.rows := by
  rw [rows_insert]
  simp

/-- Each of some keys is that of at most one row. -/
theorem countP_contains_le (t : Table α key) (ks : List Nat) :
    t.rows.countP (fun r => ks.contains (key r)) ≤ ks.length := by
  have hkeys : ((t.rows.filter fun r => ks.contains (key r)).map key).length ≤ ks.length := by
    refine (List.subperm_of_subset ?_ fun k hk => ?_).length_le
    · exact (List.filter_sublist.map _).nodup t.nodup
    · obtain ⟨r, hr, rfl⟩ := List.mem_map.mp hk
      exact List.contains_iff_mem.mp (List.mem_filter.mp hr).2
  rw [List.length_map, ← List.countP_eq_length_filter] at hkeys
  exact hkeys

theorem countP_key (hr : r ∈ t.rows) : t.rows.countP (fun x => key x == key r) = 1 := by
  have hcount : (t.rows.map key).count (key r) = 1 :=
    List.count_eq_one_of_mem t.nodup (List.mem_map_of_mem hr)
  rwa [List.count, List.countP_map] at hcount

end Table

/-! ### Lists in which keys repeat -/

section Repeats

variable {α κ : Type} [DecidableEq κ] (key : α → κ)

/-- The first element of each key that is not among `seen`. -/
def firstsBy : List κ → List α → List α
  | _, [] => []
  | seen, x :: xs =>
    if key x ∈ seen then firstsBy seen xs else x :: firstsBy (key x :: seen) xs

/-- The other elements: their key was seen before. -/
def againBy : List κ → List α → List α
  | _, [] => []
  | seen, x :: xs =>
    if key x ∈ seen then x :: againBy seen xs else againBy (key x :: seen) xs

theorem firstsBy_subset (seen : List κ) (xs : List α) : firstsBy key seen xs ⊆ xs := by
  induction xs generalizing seen with
  | nil => exact List.Subset.refl _
  | cons x xs ih =>
    rw [firstsBy]
    split
    · exact List.subset_cons_of_subset x (ih seen)
    · exact List.cons_subset_cons x (ih _)

/-- Every key is seen or has a first element. -/
theorem exists_mem_firstsBy (seen : List κ) {xs : List α} {x : α} (hx : x ∈ xs) :
    key x ∈ seen ∨ ∃ y ∈ firstsBy key seen xs, key y = key x := by
  induction xs generalizing seen with
  | nil => cases hx
  | cons z xs ih =>
    rw [firstsBy]
    by_cases hz : key z ∈ seen
    · rw [if_pos hz]
      rcases List.mem_cons.mp hx with rfl | hx
      · exact .inl hz
      · exact ih seen hx
    · rw [if_neg hz]
      rcases List.mem_cons.mp hx with rfl | hx
      · exact .inr ⟨x, List.mem_cons_self, rfl⟩
      · rcases ih (key z :: seen) hx with hseen | ⟨y, hy, hkey⟩
        · rcases List.mem_cons.mp hseen with heq | hseen
          · exact .inr ⟨z, List.mem_cons_self, heq.symm⟩
          · exact .inl hseen
        · exact .inr ⟨y, List.mem_cons_of_mem z hy, hkey⟩

/-- The first elements and the others make up the list. -/
theorem sum_firstsBy_add (f : α → Nat) (seen : List κ) (xs : List α) :
    (xs.map f).sum = ((firstsBy key seen xs).map f).sum + ((againBy key seen xs).map f).sum := by
  induction xs generalizing seen with
  | nil => rfl
  | cons x xs ih =>
    rw [firstsBy, againBy]
    split
    · have := ih seen
      simp only [List.map_cons, List.sum_cons]
      omega
    · have := ih (key x :: seen)
      simp only [List.map_cons, List.sum_cons]
      omega

end Repeats

/-- What every statement of a batch keeps, a batch that is accepted keeps. -/
theorem foldlM_keeps {σ α : Type} {f : σ → α → Option σ} {P : σ → Prop}
    (hf : ∀ {s x s'}, f s x = some s' → P s → P s') {xs : List α} {s s' : σ}
    (h : xs.foldlM f s = some s') (hs : P s) : P s' := by
  induction xs generalizing s with
  | nil =>
    cases h
    exact hs
  | cons x xs ih =>
    obtain ⟨s₁, h₁, hrest⟩ := Option.bind_eq_some_iff.mp (by simpa using h)
    exact ih hrest (hf h₁ hs)

end Lib
