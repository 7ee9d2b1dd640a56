import PinkGlasses.Planner.Decide

/-!
# PinkGlasses.Planner.Select

What the planner's decisions contain. Each is characterised from both sides: a task that is planned
comes from something that was read, and **what passes the planner's checks is not left out**.
-/

namespace PinkGlasses

namespace Planner

/-! ### Origins -/

variable {α : Type} {o : UUID} {passive : Bool} {sp : TaskSpec} {m : AddressMap} {ip : String}
  {ips batch : List String}

theorem mem_addOnce [DecidableEq α] {xs : List α} {x y : α} :
    y ∈ Ingest.addOnce xs x ↔ y ∈ xs ∨ y = x := by
  unfold Ingest.addOnce
  split
  · rename_i hx
    exact ⟨.inl, fun h => h.elim id fun hy => hy ▸ hx⟩
  · simp

theorem mem_foldl_addOnce [DecidableEq α] {xs ys : List α} {y : α} :
    y ∈ ys.foldl Ingest.addOnce xs ↔ y ∈ xs ∨ y ∈ ys := by
  induction ys generalizing xs with
  | nil => simp
  | cons x ys ih => rw [List.foldl_cons, ih, mem_addOnce, List.mem_cons, or_assoc]

theorem nodup_foldl_addOnce [DecidableEq α] {xs ys : List α} (h : xs.Nodup) :
    (ys.foldl Ingest.addOnce xs).Nodup := by
  induction ys generalizing xs with
  | nil => exact h
  | cons y ys ih =>
    refine ih ?_
    unfold Ingest.addOnce
    split
    · exact h
    · rename_i hy
      exact List.nodup_append.mpr ⟨h, List.nodup_singleton y, fun a ha b hb hab => hy (by
        rw [← List.mem_singleton.mp hb, ← hab]
        exact ha)⟩

theorem mem_mergeOrigins {a b : List UUID} : o ∈ mergeOrigins a b ↔ o ∈ a ∨ o ∈ b :=
  mem_foldl_addOnce

/-! ### The first tasks -/

/-- What `PlanInitial` plans for a target has it as its origin, and there are no probes and no web
stages. -/
theorem mem_planTarget {allowPrivate : Bool} {scopeTargets : List ScopeTarget} {t : RunTarget}
    (h : sp ∈ (planTarget allowPrivate passive scopeTargets t).1) :
    sp.origins = [t.id] ∧ sp.stage ∈ [.passiveEnum, .dnsResolve, .portScan] := by
  unfold planTarget at h
  cases hkind : t.kind with
  | domain =>
    simp only [hkind, List.mem_cons, List.not_mem_nil, or_false] at h
    rcases h with rfl | rfl
    · exact ⟨rfl, by simp [spec]⟩
    · exact ⟨rfl, by simp [spec]⟩
  | ip =>
    simp only [hkind] at h
    split_ifs at h
    any_goals cases h
    · exact ⟨rfl, by simp [spec]⟩
    · rename_i h
      cases h
  | cidr =>
    simp only [hkind] at h
    split_ifs at h
    any_goals cases h
    obtain ⟨ip, -, rfl⟩ := List.mem_map.mp h
    exact ⟨rfl, by simp [spec]⟩
  | asn =>
    simp only [hkind] at h
    cases h

/-! ### The address map -/

/-- The map lists the address, with at least these origins. -/
def AddressMap.Lists (m : AddressMap) (ip : String) (os : List UUID) : Prop :=
  ∃ e ∈ m, e.1 = ip ∧ os ⊆ e.2

/-- An entry after one more report is an old one, or that of the reported address. -/
theorem mem_addAddress {origins : List UUID} {e : String × List UUID}
    (h : e ∈ addAddress origins m ip) (ho : o ∈ e.2) :
    (∃ e₀ ∈ m, e₀.1 = e.1 ∧ o ∈ e₀.2) ∨ (e.1 = ip ∧ o ∈ origins) := by
  unfold addAddress at h
  split at h
  · obtain ⟨e₀, he₀, rfl⟩ := List.mem_map.mp h
    by_cases hip : e₀.1 == ip
    · rw [if_pos hip] at ho ⊢
      rcases mem_mergeOrigins.mp ho with hold | hnew
      · exact .inl ⟨e₀, he₀, by simpa using hip, hold⟩
      · exact .inr ⟨rfl, hnew⟩
    · rw [if_neg hip] at ho ⊢
      exact .inl ⟨e₀, he₀, rfl, ho⟩
  · rcases List.mem_append.mp h with hold | hnew
    · exact .inl ⟨e, hold, rfl, ho⟩
    · rw [List.mem_singleton.mp hnew] at ho ⊢
      exact .inr ⟨rfl, by simpa [mem_mergeOrigins] using ho⟩

theorem AddressMap.Lists.add {a : String} {os : List UUID} (h : m.Lists a os) (origins : List UUID)
    (ip : String) : AddressMap.Lists (addAddress origins m ip) a os := by
  obtain ⟨e, he, rfl, hos⟩ := h
  unfold addAddress
  split
  · by_cases hip : e.1 == ip
    · refine ⟨(ip, mergeOrigins e.2 origins), List.mem_map.mpr ⟨e, he, if_pos hip⟩,
        (beq_iff_eq.mp hip).symm, fun o ho => mem_mergeOrigins.mpr (.inl (hos ho))⟩
    · exact ⟨e, List.mem_map.mpr ⟨e, he, if_neg hip⟩, rfl, hos⟩
  · exact ⟨e, List.mem_append_left _ he, rfl, hos⟩

theorem lists_addAddress (origins : List UUID) (m : AddressMap) (ip : String) :
    AddressMap.Lists (addAddress origins m ip) ip origins := by
  unfold addAddress
  split
  · rename_i hany
    obtain ⟨e, he, hip⟩ := List.any_eq_true.mp hany
    exact ⟨(ip, mergeOrigins e.2 origins), List.mem_map.mpr ⟨e, he, if_pos hip⟩, rfl,
      fun o ho => mem_mergeOrigins.mpr (.inr ho)⟩
  · exact ⟨(ip, mergeOrigins [] origins), List.mem_append_right _ (List.mem_singleton.mpr rfl), rfl,
      fun o ho => mem_mergeOrigins.mpr (.inr ho)⟩

/-- The map has one entry an address. -/
def AddressMap.Keyed (m : AddressMap) : Prop := (m.map (·.1)).Nodup

theorem AddressMap.Keyed.add (h : m.Keyed) (origins : List UUID) (ip : String) :
    AddressMap.Keyed (addAddress origins m ip) := by
  unfold addAddress
  split
  -- an entry that is there gets more origins, and keeps its key
  · have hkeys : (m.map fun e => if e.1 == ip then
      (ip, mergeOrigins e.2 origins) else e).map (·.1) =
        m.map (·.1) := by
      rw [List.map_map]
      refine List.map_congr_left fun e _ => ?_
      by_cases hip : e.1 = ip <;> simp [hip]
    unfold Keyed
    rw [hkeys]
    exact h
  · rename_i hnone
    have hnew : ip ∉ m.map (·.1) := by
      rintro hmem
      obtain ⟨e, he, hip⟩ := List.mem_map.mp hmem
      exact hnone (List.any_eq_true.mpr ⟨e, he, by simpa using hip⟩)
    rw [Keyed, List.map_append, List.nodup_append]
    refine ⟨h, by simp, ?_⟩
    rintro a ha b hb rfl
    have hip : a = ip := List.mem_singleton.mp hb
    exact hnew (hip ▸ ha)

section Fold

variable {origins : List UUID} {m : AddressMap} {ips : List String}

theorem mem_foldl_addAddress {e : String × List UUID}
    (h : e ∈ ips.foldl (addAddress origins) m) {o : UUID} (ho : o ∈ e.2) :
    (∃ e₀ ∈ m, e₀.1 = e.1 ∧ o ∈ e₀.2) ∨ (e.1 ∈ ips ∧ o ∈ origins) := by
  induction ips generalizing m with
  | nil => exact .inl ⟨e, h, rfl, ho⟩
  | cons ip ips ih =>
    rcases ih h with ⟨e₁, he₁, hkey, ho₁⟩ | ⟨hmem, hor⟩
    · rcases mem_addAddress he₁ ho₁ with ⟨e₀, he₀, hkey₀, ho₀⟩ | ⟨hip, hor⟩
      · exact .inl ⟨e₀, he₀, hkey₀.trans hkey, ho₀⟩
      · exact .inr ⟨List.mem_cons.mpr (.inl (hkey ▸ hip)), hor⟩
    · exact .inr ⟨List.mem_cons_of_mem _ hmem, hor⟩

theorem AddressMap.Lists.foldl {a : String} {os : List UUID} (h : m.Lists a os) :
    AddressMap.Lists (ips.foldl (addAddress origins) m) a os := by
  induction ips generalizing m with
  | nil => exact h
  | cons ip ips ih => exact ih (h.add origins ip)

theorem lists_foldl_addAddress {ip : String} (hip : ip ∈ ips) :
    AddressMap.Lists (ips.foldl (addAddress origins) m) ip origins := by
  induction ips generalizing m with
  | nil => cases hip
  | cons x ips ih =>
    rcases List.mem_cons.mp hip with rfl | hmem
    · exact (lists_addAddress origins m ip).foldl
    · exact ih hmem

theorem AddressMap.Keyed.foldl (h : m.Keyed) :
    AddressMap.Keyed (ips.foldl (addAddress origins) m) := by
  induction ips generalizing m with
  | nil => exact h
  | cons ip ips ih => exact ih (h.add origins ip)

end Fold

theorem AddressMap.Keyed.lookup (h : m.Keyed) {e : String × List UUID} (he : e ∈ m) :
    m.lookup e.1 = some e.2 := by
  obtain ⟨pre, post, rfl⟩ := List.append_of_mem he
  refine List.lookup_eq_some_iff.mpr ⟨pre, post, rfl, fun x hx => bne_iff_ne.mpr fun heq => ?_⟩
  rw [Keyed, List.map_append, List.nodup_append] at h
  exact h.2.2 x.1 (List.mem_map_of_mem hx) e.1 List.mem_cons_self heq.symm

/-! ### Batches -/

theorem flatten_map_range_take (l : List α) (k n : Nat) :
    ((List.range n).map fun i => (l.drop (i * k)).take k).flatten = l.take (n * k) := by
  induction n with
  | zero => simp
  | succ n ih =>
    rw [List.range_succ, List.map_append, List.flatten_append, ih, Nat.succ_mul, List.take_add]
    simp

/-- **The batches are the list, cut up.** -/
theorem flatten_batches (ips : List String) : (batches ips).flatten = ips := by
  unfold batches
  rw [flatten_map_range_take]
  refine List.take_of_length_le ?_
  unfold scanBatchSize
  omega

theorem mem_of_mem_batches (hb : batch ∈ batches ips) (h : ip ∈ batch) : ip ∈ ips := by
  rw [← flatten_batches ips]
  exact List.mem_flatten.mpr ⟨batch, hb, h⟩

theorem length_le_of_mem_batches (h : batch ∈ batches ips) : batch.length ≤ scanBatchSize := by
  obtain ⟨i, -, rfl⟩ := List.mem_map.mp h
  exact List.length_take_le ..

theorem mem_foldl_mergeOrigins (m : AddressMap) (batch : List String) (os : List UUID) :
    o ∈ batch.foldl (fun os ip => mergeOrigins os ((m.lookup ip).getD [])) os ↔
      o ∈ os ∨ ∃ ip ∈ batch, o ∈ (m.lookup ip).getD [] := by
  induction batch generalizing os with
  | nil => simp
  | cons ip batch ih => rw [List.foldl_cons, ih, mem_mergeOrigins]; simp [or_assoc]

theorem mem_batchOrigins : o ∈ batchOrigins m batch ↔ ∃ ip ∈ batch, o ∈ (m.lookup ip).getD [] := by
  simpa [batchOrigins] using mem_foldl_mergeOrigins m batch []

theorem mem_batchSpecs {ports : String} (h : sp ∈ batchSpecs m ips ports) :
    ∃ batch ∈ batches ips, batchOrigins m batch ≠ [] ∧
      sp = { spec .portScan { ips := batch, ports := ports } 100 (origin0 (batchOrigins m batch))
        [capRawSocket] with origins := batchOrigins m batch } := by
  simp only [batchSpecs, List.mem_filterMap] at h
  obtain ⟨batch, hb, h⟩ := h
  split at h
  · cases h
  · rename_i hne
    exact ⟨batch, hb, by simpa using hne, (Option.some.inj h).symm⟩

theorem flatMap_batchSpecs (ports : String) (hm : ∀ ip ∈ ips, (m.lookup ip).getD [] ≠ []) :
    (batchSpecs m ips ports).flatMap (·.target.ips) = ips := by
  have hcut : ∀ bs : List (List String), (∀ batch ∈ bs, ∀ ip ∈ batch, ip ∈ ips) →
      (bs.filterMap fun batch =>
        let origins := batchOrigins m batch
        if origins.isEmpty then none
        else some { spec .portScan { ips := batch, ports := ports } 100 (origin0 origins)
          [capRawSocket] with origins := origins }).flatMap (·.target.ips) = bs.flatten := by
    intro bs
    induction bs with
    | nil => exact fun _ => rfl
    | cons batch bs ih =>
      intro hbs
      obtain ⟨hbatch, hrest⟩ := List.forall_mem_cons.mp hbs
      rw [List.filterMap_cons, List.flatten_cons, ← ih hrest]
      dsimp only
      split
      · rename_i hnone
        -- a batch without origins has no address
        have hnil : batch = [] := by
          refine List.eq_nil_iff_forall_not_mem.mpr fun ip hip => ?_
          obtain ⟨o, ho⟩ := List.exists_mem_of_ne_nil _ (hm ip (hbatch ip hip))
          have hmem := mem_batchOrigins.mpr ⟨ip, hip, ho⟩
          split at hnone
          · rename_i hempty
            rw [List.isEmpty_iff.mp hempty] at hmem
            cases hmem
          · cases hnone
        rw [hnil, List.nil_append]
      · rename_i sp hsome
        split at hsome
        · cases hsome
        · cases hsome
          rfl
  unfold batchSpecs
  rw [hcut _ fun batch hb ip hip => mem_of_mem_batches hb hip, flatten_batches]

/-! ### Discovered addresses -/

section Addresses

variable {c : AddressChecks} {m : AddressMap} {ip : String} {sp : TaskSpec}

theorem mem_select {v : Verdict} :
    ip ∈ c.select m v ↔ ∃ e ∈ m, e.1 = ip ∧ c.verdict e.1 e.2 = v := by
  rw [AddressChecks.select, List.mem_insertionSort, List.mem_map]
  constructor
  · rintro ⟨e, he, rfl⟩
    obtain ⟨hmem, hv⟩ := List.mem_filter.mp he
    exact ⟨e, hmem, rfl, by simpa using hv⟩
  · rintro ⟨e, hmem, rfl, hv⟩
    exact ⟨e, List.mem_filter.mpr ⟨hmem, by simpa using hv⟩, rfl⟩

/-- An address is left out exactly if it is scanned already or does not pass the checks. -/
theorem verdict_eq_skip {os : List UUID} :
    c.verdict ip os = .skip ↔ ip ∈ c.already ∨ c.permits ip os = false := by
  unfold AddressChecks.verdict
  split
  · rename_i h
    simpa using h
  · rename_i h
    have hnot : ¬ (ip ∈ c.already ∨ c.permits ip os = false) := by simpa using h
    split <;> simp [hnot]

/-- A planned port scan is one batch of the addresses with one verdict, and serves their origins. -/
theorem batch_of_mem_addressSpecs (h : sp ∈ addressSpecs c m) :
    ∃ v ports batch, v ≠ .skip ∧ batch ∈ batches (c.select m v) ∧ batchOrigins m batch ≠ [] ∧
      sp = { spec .portScan { ips := batch, ports := ports } 100 (origin0 (batchOrigins m batch))
        [capRawSocket] with origins := batchOrigins m batch } := by
  rcases List.mem_append.mp h with h | h
  · obtain ⟨batch, hb, horig, rfl⟩ := mem_batchSpecs h
    exact ⟨.fresh, "", batch, by decide, hb, horig, rfl⟩
  · obtain ⟨batch, hb, horig, rfl⟩ := mem_batchSpecs h
    exact ⟨.edge, c.cdnPorts, batch, by decide, hb, horig, rfl⟩

theorem nodup_batchOrigins (m : AddressMap) (batch : List String) :
    (batchOrigins m batch).Nodup := by
  have hfold : ∀ os : List UUID, os.Nodup →
      (batch.foldl (fun os ip => mergeOrigins os ((m.lookup ip).getD [])) os).Nodup := by
    induction batch with
    | nil => exact fun _ h => h
    | cons ip batch ih => exact fun os h => ih _ (nodup_foldl_addOnce h)
  exact hfold [] List.nodup_nil

theorem nodup_origins_addressSpecs (h : sp ∈ addressSpecs c m) : sp.origins.Nodup := by
  obtain ⟨v, ports, batch, -, -, -, rfl⟩ := batch_of_mem_addressSpecs h
  exact nodup_batchOrigins m batch

theorem permits_of_mem_select {v : Verdict} (hv : v ≠ .skip) (h : ip ∈ c.select m v) :
    ∃ e ∈ m, e.1 = ip ∧ ip ∉ c.already ∧ c.permits ip e.2 = true := by
  obtain ⟨e, he, rfl, hver⟩ := mem_select.mp h
  have hskip : ¬ c.verdict e.1 e.2 = .skip := by rw [hver]; exact hv
  rw [verdict_eq_skip, not_or] at hskip
  exact ⟨e, he, rfl, hskip.1, by simpa using hskip.2⟩

/-- **A planned port scan names only addresses that passed the checks.** -/
theorem mem_addressSpecs (h : sp ∈ addressSpecs c m) :
    sp.stage = .portScan ∧ sp.target.ip = "" ∧ sp.target.ips ≠ [] ∧
      ∀ ip ∈ sp.target.ips, ∃ e ∈ m, e.1 = ip ∧ ip ∉ c.already ∧ c.permits ip e.2 = true := by
  obtain ⟨v, ports, batch, hv, hb, horig, rfl⟩ := batch_of_mem_addressSpecs h
  refine ⟨rfl, rfl, ?_, fun ip hip => permits_of_mem_select hv (mem_of_mem_batches hb hip)⟩
  intro hnil
  have hnil : batch = [] := hnil
  exact horig (by rw [hnil]; rfl)

theorem ne_nil_of_permits {os : List UUID} (h : c.permits ip os = true) : os ≠ [] := by
  simp only [AddressChecks.permits, Bool.and_eq_true, List.any_eq_true] at h
  obtain ⟨⟨⟨o, ho, -⟩, -⟩, -⟩ := h
  exact List.ne_nil_of_mem ho

/-- **The planned port scans name the addresses that are not left out.** -/
theorem addresses_addressSpecs (hm : m.Keyed) :
    (addressSpecs c m).flatMap (·.target.ips) = c.select m .fresh ++ c.select m .edge := by
  have hserved : ∀ v, v ≠ .skip → ∀ ip ∈ c.select m v, (m.lookup ip).getD [] ≠ [] := by
    intro v hv ip hip
    obtain ⟨e, he, rfl, -, hpass⟩ := permits_of_mem_select hv hip
    rw [hm.lookup he]
    exact ne_nil_of_permits hpass
  rw [addressSpecs, List.flatMap_append, flatMap_batchSpecs _ (hserved .fresh (by decide)),
    flatMap_batchSpecs _ (hserved .edge (by decide))]

/-- **An address that passes the checks and is not scanned yet is planned.** -/
theorem exists_addressSpec (hm : m.Keyed) {e : String × List UUID} (he : e ∈ m)
    (hnew : e.1 ∉ c.already) (hpass : c.permits e.1 e.2 = true) :
    ∃ sp ∈ addressSpecs c m, e.1 ∈ sp.target.ips := by
  refine List.mem_flatMap.mp ?_
  rw [addresses_addressSpecs hm, List.mem_append, mem_select, mem_select]
  cases hv : c.verdict e.1 e.2 with
  | skip =>
    rw [verdict_eq_skip, hpass] at hv
    exact absurd hv (by simp [hnew])
  | fresh => exact .inl ⟨e, he, rfl, hv⟩
  | edge => exact .inr ⟨e, he, rfl, hv⟩

theorem nodup_addresses (hm : m.Keyed) : (c.select m .fresh ++ c.select m .edge).Nodup := by
  have hone : ∀ v, (c.select m v).Nodup := fun v =>
    (List.perm_insertionSort _ _).nodup_iff.mpr (hm.sublist (List.filter_sublist.map _))
  refine List.nodup_append.mpr ⟨hone _, hone _, fun ip hfresh ip' hedge heq => ?_⟩
  subst heq
  -- the two verdicts are on the same entry
  obtain ⟨e, he, rfl, hver⟩ := mem_select.mp hfresh
  obtain ⟨e', he', hkey, hver'⟩ := mem_select.mp hedge
  rw [List.inj_on_of_nodup_map hm he' he hkey, hver] at hver'
  cases hver'

end Addresses

/-! ### Open ports -/

section Probes

variable {origin : UUID} {acc : List String × List TaskSpec} {svcs : List IPPort}

/-- A text splits at its last separator in one way. -/
theorem append_cons_inj {α : Type} {c : α} {a b x y : List α} (hx : c ∉ x) (hy : c ∉ y)
    (h : a ++ c :: x = b ++ c :: y) : a = b ∧ x = y := by
  rcases List.append_eq_append_iff.mp h with ⟨l, hb, heq⟩ | ⟨l, ha, heq⟩
  · cases l with
    | nil => exact ⟨by simpa using hb.symm, (List.cons.inj heq).2⟩
    | cons d l =>
      refine absurd ?_ hx
      rw [(List.cons.inj heq).2]
      exact List.mem_append_right _ List.mem_cons_self
  · cases l with
    | nil => exact ⟨by simpa using ha, (List.cons.inj heq).2.symm⟩
    | cons d l =>
      refine absurd ?_ hy
      rw [(List.cons.inj heq).2]
      exact List.mem_append_right _ List.mem_cons_self

theorem colon_not_mem_toString (n : Int) : ':' ∉ (toString n).toList := by
  rw [Int.toString_eq_repr, Int.repr_eq_if]
  split
  · exact fun h => absurd (isDigit_of_mem_repr h) (by decide)
  · rw [String.toList_append, List.mem_append]
    rintro (hminus | hdigit)
    · exact absurd hminus (by decide)
    · exact absurd (isDigit_of_mem_repr hdigit) (by decide)

theorem toString_int_inj {m n : Int} (h : toString m = toString n) : m = n := by
  have hnat : ∀ {a b : Nat}, a.repr = b.repr → a = b := by
    intro a b hab
    rw [Nat.repr_eq_ofList_toDigits, Nat.repr_eq_ofList_toDigits] at hab
    have hdigits := congrArg (fun t => Nat.ofDigitChars 10 t.toList 0) hab
    simpa [Nat.ofDigitChars_ten_toDigits] using hdigits
  -- a digit is no minus sign, so both have the same sign
  have hsign : ∀ {a b : Nat}, a.repr ≠ "-" ++ b.repr := by
    intro a b hab
    have hmem : '-' ∈ a.repr.toList := by
      rw [hab, String.toList_append]
      exact List.mem_append_left _ (by decide)
    exact absurd (isDigit_of_mem_repr hmem) (by decide)
  rw [Int.toString_eq_repr, Int.toString_eq_repr, Int.repr_eq_if, Int.repr_eq_if] at h
  split at h <;> split at h
  · have := hnat h
    omega
  · exact absurd h hsign
  · exact absurd h.symm hsign
  · have hlist := congrArg String.toList h
    rw [String.toList_append, String.toList_append] at hlist
    have := hnat (String.toList_injective (List.append_cancel_left hlist))
    omega

theorem endpointKey_inj {ip ip' : String} {port port' : Int}
    (h : endpointKey ip port = endpointKey ip' port') : ip = ip' ∧ port = port' := by
  have hlist := congrArg String.toList h
  simp only [endpointKey, String.toList_append, List.append_assoc] at hlist
  obtain ⟨hip, hport⟩ :=
    append_cons_inj (colon_not_mem_toString port) (colon_not_mem_toString port') hlist
  exact ⟨String.toList_injective hip, toString_int_inj (String.toList_injective hport)⟩

/-- The endpoint a probe is for. -/
def probeKey (sp : TaskSpec) : String := endpointKey sp.target.ip sp.target.port

theorem mem_foldl_addProbe {sp : TaskSpec} (h : sp ∈ (svcs.foldl (addProbe origin) acc).2) :
    sp ∈ acc.2 ∨ ∃ sv ∈ svcs,
      sp = spec .serviceProbe { ip := sv.ip, port := sv.port } 200 origin := by
  induction svcs generalizing acc with
  | nil => exact .inl h
  | cons sv svcs ih =>
    rcases ih h with hold | ⟨sv', hmem, rfl⟩
    · unfold addProbe at hold
      split at hold
      · exact .inl hold
      · rcases List.mem_append.mp hold with hold | hnew
        · exact .inl hold
        · exact .inr ⟨sv, List.mem_cons_self, List.mem_singleton.mp hnew⟩
    · exact .inr ⟨sv', List.mem_cons_of_mem _ hmem, rfl⟩

/-- Every endpoint marked is probed already or has a probe planned. -/
def Marked (already : List String) (acc : List String × List TaskSpec) : Prop :=
  ∀ k ∈ acc.1, k ∈ already ∨ ∃ sp ∈ acc.2, probeKey sp = k

theorem Marked.add {already : List String} (h : Marked already acc) (sv : IPPort) :
    Marked already (addProbe origin acc sv) := by
  unfold addProbe
  split
  · exact h
  · intro k hk
    rcases List.mem_cons.mp hk with rfl | hold
    · exact .inr ⟨_, List.mem_append_right _ (List.mem_singleton.mpr rfl), rfl⟩
    · rcases h k hold with ha | ⟨sp, hsp, hkey⟩
      · exact .inl ha
      · exact .inr ⟨sp, List.mem_append_left _ hsp, hkey⟩

theorem Marked.foldl {already : List String} (h : Marked already acc) :
    Marked already (svcs.foldl (addProbe origin) acc) := by
  induction svcs generalizing acc with
  | nil => exact h
  | cons sv svcs ih => exact ih (h.add sv)

theorem marks_addProbe (origin : UUID) (acc : List String × List TaskSpec) (sv : IPPort) :
    acc.1 ⊆ (addProbe origin acc sv).1 ∧
      endpointKey sv.ip sv.port ∈ (addProbe origin acc sv).1 := by
  unfold addProbe
  split
  · rename_i h
    exact ⟨List.Subset.refl _, by simpa using h⟩
  · exact ⟨List.subset_cons_self _ _, List.mem_cons_self⟩

theorem marks_foldl_addProbe (origin : UUID) (acc : List String × List TaskSpec)
    (svcs : List IPPort) : acc.1 ⊆ (svcs.foldl (addProbe origin) acc).1 ∧
    ∀ sv ∈ svcs, endpointKey sv.ip sv.port ∈ (svcs.foldl (addProbe origin) acc).1 := by
  induction svcs generalizing acc with
  | nil => exact ⟨List.Subset.refl _, nofun⟩
  | cons sv svcs ih =>
    have hadd := marks_addProbe origin acc sv
    have hrest := ih (addProbe origin acc sv)
    refine ⟨List.Subset.trans hadd.1 hrest.1, fun sv' hsv' => ?_⟩
    rcases List.mem_cons.mp hsv' with rfl | hmem
    · exact hrest.1 hadd.2
    · exact hrest.2 sv' hmem

end Probes

/-! ### The web stages -/

/-- The stages `maybePostProbe` plans. -/
def webStage : Stage → Bool
  | .techDetect | .screenshot | .dirBrute | .vulnCheck => true
  | _ => false

theorem mem_webSpecs {stages : Bool × Bool} {origin : UUID} {tgt : Target}
    (h : sp ∈ webSpecs stages origin tgt) :
    sp.target = tgt ∧ webStage sp.stage = true ∧ sp.origins = [origin] := by
  simp only [webSpecs, List.mem_append, List.mem_cons, List.not_mem_nil, or_false] at h
  rcases h with ((rfl | rfl) | h) | h
  · exact ⟨rfl, rfl, rfl⟩
  · exact ⟨rfl, rfl, rfl⟩
  · split at h
    · rw [List.mem_singleton.mp h]
      exact ⟨rfl, rfl, rfl⟩
    · cases h
  · split at h
    · rw [List.mem_singleton.mp h]
      exact ⟨rfl, rfl, rfl⟩
    · cases h

theorem ip_of_mem_webTargets {liveURL : String} {port : Int} {names : List String} {maxNames : Nat}
    {tgt : Target} (h : tgt ∈ webTargets liveURL ip port names maxNames) : tgt.ip = ip := by
  unfold webTargets at h
  split at h
  · rw [List.mem_singleton.mp h]
  · obtain ⟨n, -, rfl⟩ := List.mem_map.mp h
    rfl

/-! ### Routing -/

/-- The task with the pool it is routed to. -/
def routed (rt : Routing) (sp : TaskSpec) : TaskSpec :=
  { sp with poolID := if sp.stage.sendsTrafficToTarget then rt.active else some rt.passive }

/-- **Routing changes a task's pool and nothing else**; a task that sends traffic goes to the run's
exit pool, which then exists. -/
theorem routeTasks_ok {specs out : List TaskSpec} {rt : Routing}
    (h : routeTasks specs rt = .ok out) :
    out = specs.map (routed rt) ∧
      ∀ sp ∈ specs, sp.stage.sendsTrafficToTarget = true → rt.active.isSome = true := by
  induction specs generalizing out with
  | nil => cases h; exact ⟨rfl, nofun⟩
  | cons sp specs ih =>
    rw [routeTasks, List.mapM_cons] at h
    cases hsp : routeTask rt sp with
    | error e => rw [hsp] at h; cases h
    | ok sp' =>
      cases hrest : routeTasks specs rt with
      | error e =>
        rw [routeTasks] at hrest
        rw [hsp, hrest] at h
        cases h
      | ok rest =>
        obtain ⟨rfl, hall⟩ := ih hrest
        rw [routeTasks] at hrest
        rw [hsp, hrest] at h
        cases h
        -- a task that sends traffic goes to the exit's pool, or the routing fails
        have hone : sp' = routed rt sp ∧
            (sp.stage.sendsTrafficToTarget = true → rt.active.isSome = true) := by
          unfold routeTask at hsp
          unfold routed
          split at hsp
          · rename_i hsends
            split at hsp
            · cases hsp
            · rename_i pool hpool
              cases hsp
              rw [if_pos hsends, hpool]
              exact ⟨rfl, fun _ => rfl⟩
          · rename_i hsends
            cases hsp
            rw [if_neg hsends]
            exact ⟨rfl, fun h => absurd h hsends⟩
        refine ⟨by rw [hone.1]; rfl, fun s hs hsends => ?_⟩
        rcases List.mem_cons.mp hs with rfl | hmem
        · exact hone.2 hsends
        · exact hall s hmem hsends

theorem routeTasks_eq_ok {rt : Routing} {pool : UUID} (hrt : rt.active = some pool)
    (specs : List TaskSpec) : routeTasks specs rt = .ok (specs.map (routed rt)) := by
  induction specs with
  | nil => rfl
  | cons sp specs ih =>
    have hone : routeTask rt sp = .ok (routed rt sp) := by
      unfold routeTask routed
      rw [hrt]
      split <;> rfl
    unfold routeTasks at ih ⊢
    rw [List.mapM_cons, hone, ih]
    rfl

end Planner

end PinkGlasses
