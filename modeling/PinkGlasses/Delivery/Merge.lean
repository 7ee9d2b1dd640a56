import PinkGlasses.Gateway
import PinkGlasses.Planner.Select

/-!
# PinkGlasses.Delivery.Merge

The algebra of stage summaries. `mergeSummary` folds a batch's summary into a task's: names,
addresses, services and URLs are **sets**, listed once each, so a batch that is merged again changes
nothing; the per-source counts are **sums**, so it does.
-/

namespace PinkGlasses

open Planner

/-! ### What a summary holds -/

/-- Everything a batch's summary lists is listed in a task's. -/
structure Covers (sum add : StageSummary) : Prop where
  domains : add.domains ⊆ sum.domains
  ips : add.ips ⊆ sum.ips
  services : add.services ⊆ sum.services
  webURLs : add.webURLs ⊆ sum.webURLs

theorem Covers.refl (sum : StageSummary) : Covers sum sum :=
  ⟨List.Subset.refl _, List.Subset.refl _, List.Subset.refl _, List.Subset.refl _⟩

theorem Covers.trans {a b c : StageSummary} (hab : Covers a b) (hbc : Covers b c) : Covers a c where
  domains := List.Subset.trans hbc.domains hab.domains
  ips := List.Subset.trans hbc.ips hab.ips
  services := List.Subset.trans hbc.services hab.services
  webURLs := List.Subset.trans hbc.webURLs hab.webURLs

instance (sum add : StageSummary) : Decidable (Covers sum add) :=
  decidable_of_iff (_ ∧ _ ∧ _ ∧ _)
    ⟨fun h => ⟨h.1, h.2.1, h.2.2.1, h.2.2.2⟩, fun h => ⟨h.1, h.2, h.3, h.4⟩⟩

/-- How often a source is counted. -/
def countOf (counts : List (String × Nat)) (src : String) : Nat :=
  match counts.find? (·.1 == src) with
  | some c => c.2
  | none => 0

/-- Two summaries say the same: the same sets, and the same count for every source. -/
structure SameSummary (a b : StageSummary) : Prop where
  domains : ∀ d, d ∈ a.domains ↔ d ∈ b.domains
  ips : ∀ ip, ip ∈ a.ips ↔ ip ∈ b.ips
  services : ∀ sv, sv ∈ a.services ↔ sv ∈ b.services
  webURLs : ∀ u, u ∈ a.webURLs ↔ u ∈ b.webURLs
  sources : ∀ src, countOf a.sources src = countOf b.sources src

/-! ### Merging -/

/-- A service is listed under its endpoint, and the endpoint says which service it is. -/
theorem mem_addService {svcs : List IPPort} {sv x : IPPort} :
    x ∈ Ingest.addService svcs sv ↔ x ∈ svcs ∨ x = sv := by
  unfold Ingest.addService
  split
  -- one key has one endpoint, so the service is there already
  · rename_i hany
    obtain ⟨y, hy, hkey⟩ := List.any_eq_true.mp hany
    obtain ⟨hip, hport⟩ := endpointKey_inj (beq_iff_eq.mp hkey)
    have heq : y = sv := by
      cases y
      cases sv
      simp only at hip hport
      rw [hip, hport]
    subst heq
    constructor
    · exact .inl
    · rintro (hx | rfl)
      · exact hx
      · exact hy
  · simp

theorem mem_foldl_addService {svcs add : List IPPort} {x : IPPort} :
    x ∈ add.foldl Ingest.addService svcs ↔ x ∈ svcs ∨ x ∈ add := by
  induction add generalizing svcs with
  | nil => simp
  | cons sv add ih => rw [List.foldl_cons, ih, mem_addService, List.mem_cons, or_assoc]

section Merge

variable (cur add : StageSummary)

theorem mem_domains_merge (d : String) :
    d ∈ (Gateway.mergeSummary cur add).domains ↔ d ∈ cur.domains ∨ d ∈ add.domains :=
  mem_foldl_addOnce

theorem mem_ips_merge (ip : String) :
    ip ∈ (Gateway.mergeSummary cur add).ips ↔ ip ∈ cur.ips ∨ ip ∈ add.ips :=
  mem_foldl_addOnce

theorem mem_webURLs_merge (u : String) :
    u ∈ (Gateway.mergeSummary cur add).webURLs ↔ u ∈ cur.webURLs ∨ u ∈ add.webURLs :=
  mem_foldl_addOnce

theorem mem_services_merge (sv : IPPort) :
    sv ∈ (Gateway.mergeSummary cur add).services ↔ sv ∈ cur.services ∨ sv ∈ add.services :=
  mem_foldl_addService

theorem covers_merge_left : Covers (Gateway.mergeSummary cur add) cur where
  domains d hd := (mem_domains_merge cur add d).mpr (.inl hd)
  ips ip hip := (mem_ips_merge cur add ip).mpr (.inl hip)
  services sv hsv := (mem_services_merge cur add sv).mpr (.inl hsv)
  webURLs u hu := (mem_webURLs_merge cur add u).mpr (.inl hu)

theorem covers_merge_right : Covers (Gateway.mergeSummary cur add) add where
  domains d hd := (mem_domains_merge cur add d).mpr (.inr hd)
  ips ip hip := (mem_ips_merge cur add ip).mpr (.inr hip)
  services sv hsv := (mem_services_merge cur add sv).mpr (.inr hsv)
  webURLs u hu := (mem_webURLs_merge cur add u).mpr (.inr hu)

end Merge

/-! ### Counts -/

/-- What a list of counts adds for a source. -/
def addedFor (counts : List (String × Nat)) (src : String) : Nat :=
  ((counts.filter (·.1 == src)).map (·.2)).sum

theorem countOf_cons (c : String × Nat) (counts : List (String × Nat)) (src : String) :
    countOf (c :: counts) src = if c.1 = src then c.2 else countOf counts src := by
  by_cases hc : c.1 = src
  · simp [countOf, hc]
  · simp [countOf, hc]

theorem addedFor_cons (c : String × Nat) (counts : List (String × Nat)) (src : String) :
    addedFor (c :: counts) src = (if c.1 = src then c.2 else 0) + addedFor counts src := by
  by_cases hc : c.1 = src
  · simp [addedFor, hc]
  · simp [addedFor, hc]

/-- A source that is listed has its count raised, the others keep theirs. -/
theorem countOf_raised (counts : List (String × Nat)) (c : String × Nat) (src : String)
    (hlisted : c.1 = src → counts.any (·.1 == src) = true) :
    countOf (counts.map fun x => if x.1 == c.1 then (x.1, x.2 + c.2) else x) src =
      countOf counts src + if c.1 = src then c.2 else 0 := by
  induction counts with
  | nil =>
    have hnot : ¬ c.1 = src := fun h => by simpa using hlisted h
    simp [countOf, hnot]
  | cons x counts ih =>
    simp only [List.map_cons, countOf_cons]
    by_cases hx : x.1 = src
    · by_cases hc : c.1 = src
      · simp [hx, hc]
      · have hne : ¬ src = c.1 := Ne.symm hc
        simp [hx, hc, hne]
    -- raising a count leaves the names as they are
    · have hkey : (if x.1 == c.1 then (x.1, x.2 + c.2) else x).1 = x.1 := by
        split <;> rfl
      rw [hkey, if_neg hx, if_neg hx]
      refine ih fun h => ?_
      have hany := hlisted h
      rw [List.any_cons, beq_eq_false_iff_ne.mpr hx, Bool.false_or] at hany
      exact hany

theorem countOf_listed (counts : List (String × Nat)) (c : String × Nat) (src : String)
    (hnew : counts.any (·.1 == c.1) = false) :
    countOf (counts ++ [c]) src = countOf counts src + if c.1 = src then c.2 else 0 := by
  induction counts with
  | nil =>
    rw [List.nil_append, countOf_cons]
    simp [countOf]
  | cons x counts ih =>
    rw [List.any_cons, Bool.or_eq_false_iff] at hnew
    rw [List.cons_append, countOf_cons, countOf_cons]
    by_cases hx : x.1 = src
    · have hne : ¬ c.1 = src := by
        intro h
        have := beq_eq_false_iff_ne.mp hnew.1
        exact this (hx.trans h.symm)
      simp [hx, hne]
    · rw [if_neg hx, if_neg hx]
      exact ih hnew.2

theorem countOf_addCount (counts : List (String × Nat)) (c : String × Nat) (src : String) :
    countOf (Gateway.addCount counts c) src =
      countOf counts src + if c.1 = src then c.2 else 0 := by
  unfold Gateway.addCount
  by_cases hany : counts.any (·.1 == c.1) = true
  · rw [if_pos hany]
    exact countOf_raised counts c src fun h => h ▸ hany
  · rw [if_neg hany]
    exact countOf_listed counts c src (Bool.not_eq_true _ ▸ hany)

theorem countOf_foldl_addCount (counts add : List (String × Nat)) (src : String) :
    countOf (add.foldl Gateway.addCount counts) src = countOf counts src + addedFor add src := by
  induction add generalizing counts with
  | nil => simp [addedFor]
  | cons c add ih =>
    rw [List.foldl_cons, ih, countOf_addCount, addedFor_cons]
    omega

theorem countOf_merge (cur add : StageSummary) (src : String) :
    countOf (Gateway.mergeSummary cur add).sources src =
      countOf cur.sources src + addedFor add.sources src :=
  countOf_foldl_addCount cur.sources add.sources src

/-! ### Merging one batch after another -/

/-- What a merged summary lists if one of its parts does, a folded one lists if one of the batches
does. -/
theorem foldl_merge_iff {lists : StageSummary → Prop}
    (hmerge : ∀ cur add, lists (Gateway.mergeSummary cur add) ↔ lists cur ∨ lists add)
    (cur : StageSummary) (adds : List StageSummary) :
    lists (adds.foldl Gateway.mergeSummary cur) ↔ lists cur ∨ ∃ add ∈ adds, lists add := by
  induction adds generalizing cur with
  | nil => simp
  | cons add adds ih => rw [List.foldl_cons, ih, hmerge]; simp [or_assoc]

theorem countOf_foldl_merge (cur : StageSummary) (adds : List StageSummary) (src : String) :
    countOf (adds.foldl Gateway.mergeSummary cur).sources src =
      countOf cur.sources src + (adds.map fun add => addedFor add.sources src).sum := by
  induction adds generalizing cur with
  | nil => rfl
  | cons add adds ih =>
    rw [List.foldl_cons, ih, countOf_merge, List.map_cons, List.sum_cons]
    omega

/-- Summaries folded from the same batches, in any order and number, list the same; whether they are
the same is a question of the counts. -/
theorem sameSummary_foldl_iff (cur : StageSummary) {adds adds' : List StageSummary}
    (hsame : ∀ add, add ∈ adds ↔ add ∈ adds') :
    SameSummary (adds.foldl Gateway.mergeSummary cur) (adds'.foldl Gateway.mergeSummary cur) ↔
      ∀ src, (adds.map fun add => addedFor add.sources src).sum =
        (adds'.map fun add => addedFor add.sources src).sum := by
  -- what a summary lists does not depend on the order, only the counts could
  have hlists : ∀ lists : StageSummary → Prop,
      (∀ cur add, lists (Gateway.mergeSummary cur add) ↔ lists cur ∨ lists add) →
      (lists (adds.foldl Gateway.mergeSummary cur) ↔
        lists (adds'.foldl Gateway.mergeSummary cur)) := by
    intro lists hmerge
    rw [foldl_merge_iff hmerge, foldl_merge_iff hmerge]
    simp only [hsame]
  constructor
  · intro hsum src
    have hcount := hsum.sources src
    rw [countOf_foldl_merge, countOf_foldl_merge] at hcount
    exact Nat.add_left_cancel hcount
  · intro hsum
    refine ⟨fun d => hlists (d ∈ ·.domains) fun cur add => mem_domains_merge cur add d,
      fun ip => hlists (ip ∈ ·.ips) fun cur add => mem_ips_merge cur add ip,
      fun sv => hlists (sv ∈ ·.services) fun cur add => mem_services_merge cur add sv,
      fun u => hlists (u ∈ ·.webURLs) fun cur add => mem_webURLs_merge cur add u, fun src => ?_⟩
    rw [countOf_foldl_merge, countOf_foldl_merge, hsum src]

/-! ### When a batch counts sources -/

/-- A name is reported. -/
def Observation.names (o : Observation) : Prop := o.type = .subdomain ∧ o.domain ≠ ""

/-- The observation says where it has the name from. -/
def Observation.hasSource (o : Observation) : Prop :=
  ∃ src ∈ splitComma o.source, trimSpace src ≠ ""

/-- **The batch counts a source**: the first observation of some name says where it has the name
from. -/
def Sourced (obs : List Observation) : Prop :=
  ∃ before o after, obs = before ++ o :: after ∧ o.names ∧ o.hasSource ∧
    ∀ o' ∈ before, o'.names → o'.domain ≠ o.domain

variable {obs : List Observation}

theorem sourced_append_singleton {o : Observation} :
    Sourced (obs ++ [o]) ↔
      Sourced obs ∨ (o.names ∧ o.hasSource ∧ ∀ o' ∈ obs, o'.names → o'.domain ≠ o.domain) := by
  constructor
  · rintro ⟨before, o₁, after, heq, hnames, hsource, hfirst⟩
    rcases List.eq_nil_or_concat after with rfl | ⟨after, o₂, rfl⟩
    · obtain ⟨rfl, h⟩ := List.append_inj' heq rfl
      cases h
      exact .inr ⟨hnames, hsource, hfirst⟩
    · rw [List.concat_eq_append, ← List.cons_append, ← List.append_assoc] at heq
      obtain ⟨rfl, -⟩ := List.append_inj' heq rfl
      exact .inl ⟨before, o₁, after, rfl, hnames, hsource, hfirst⟩
  · rintro (⟨before, o₁, after, rfl, hnames, hsource, hfirst⟩ | ⟨hnames, hsource, hfirst⟩)
    · exact ⟨before, o₁, after ++ [o], by simp, hnames, hsource, hfirst⟩
    · exact ⟨obs, o, [], rfl, hnames, hsource, hfirst⟩

section Summarize

open Ingest

variable (sum : StageSummary) (o : Observation)

theorem summarizeOne_names :
    (summarizeOne sum o).domains = (if o.type = .subdomain ∧ o.domain ≠ "" then
      (addDomain sum o).domains else sum.domains) ∧
    (summarizeOne sum o).sources = (if o.type = .subdomain ∧ o.domain ≠ "" then
      (addDomain sum o).sources else sum.sources) := by
  unfold summarizeOne
  cases htype : o.type with
  | subdomain =>
    by_cases hdomain : o.domain = ""
    · simp [needsAddress, hdomain]
    · simp [needsAddress, hdomain]
  | wildcard | dnsRecord | ip | service | http | tls | tech | screenshot | path | finding =>
    simp only [reduceCtorEq, false_and, if_false]
    split
    · exact ⟨rfl, rfl⟩
    · first | exact ⟨rfl, rfl⟩ | (split <;> exact ⟨rfl, rfl⟩)

theorem mem_domains_summarizeOne (d : String) :
    d ∈ (summarizeOne sum o).domains ↔ d ∈ sum.domains ∨ (o.names ∧ o.domain = d) := by
  rw [(summarizeOne_names sum o).1]
  by_cases hnames : o.type = .subdomain ∧ o.domain ≠ ""
  · rw [if_pos hnames, addDomain]
    have hn : o.names := hnames
    split
    · constructor
      · exact .inl
      · rintro (hd | ⟨-, rfl⟩)
        · exact hd
        · assumption
    · simp [hn, eq_comm]
  · rw [if_neg hnames]
    simp [Observation.names, hnames]

theorem foldl_bump_eq_nil {counts : List (String × Nat)} {srcs : List String} :
    srcs.foldl bump counts = [] ↔ counts = [] ∧ srcs = [] := by
  induction srcs generalizing counts with
  | nil => simp
  | cons src srcs ih =>
    rw [List.foldl_cons, ih]
    have hbump : bump counts src ≠ [] := by
      unfold bump
      split
      · rename_i hany
        rw [List.any_eq_true] at hany
        obtain ⟨c, hc, -⟩ := hany
        simpa using List.ne_nil_of_mem hc
      · simp
    simp [hbump]

theorem sources_summarizeOne_eq_nil : (summarizeOne sum o).sources = [] ↔
    sum.sources = [] ∧ ¬ (o.names ∧ o.hasSource ∧ o.domain ∉ sum.domains) := by
  rw [(summarizeOne_names sum o).2]
  by_cases hnames : o.type = .subdomain ∧ o.domain ≠ ""
  · have hn : o.names := hnames
    rw [if_pos hnames, addDomain]
    split
    · simp_all
    · rename_i hnew
      have hsrcs : ((splitComma o.source).map trimSpace).filter (· ≠ "") = [] ↔
          ¬ o.hasSource := by
        simp [Observation.hasSource, List.filter_eq_nil_iff]
      simp only [foldl_bump_eq_nil, hsrcs]
      simp [hn, hnew]
  · rw [if_neg hnames]
    simp [Observation.names, hnames]

end Summarize

theorem summarize_append_singleton (obs : List Observation) (o : Observation) :
    Ingest.summarize (obs ++ [o]) = Ingest.summarizeOne (Ingest.summarize obs) o := by
  simp [Ingest.summarize]

theorem mem_domains_summarize {d : String} :
    d ∈ (Ingest.summarize obs).domains ↔ ∃ o ∈ obs, o.names ∧ o.domain = d := by
  induction obs using List.reverseRecOn with
  | nil => simp [Ingest.summarize]
  | append_singleton obs o ih =>
    rw [summarize_append_singleton, mem_domains_summarizeOne, ih]
    simp [or_and_right, exists_or]

/-- **A batch's summary has a count exactly if the batch counts a source.** -/
theorem sources_summarize_eq_nil : (Ingest.summarize obs).sources = [] ↔ ¬ Sourced obs := by
  induction obs using List.reverseRecOn with
  | nil => simp [Ingest.summarize, Sourced]
  | append_singleton obs o ih =>
    have hnew : o.domain ∉ (Ingest.summarize obs).domains ↔
        ∀ o' ∈ obs, o'.names → o'.domain ≠ o.domain := by
      simp [mem_domains_summarize]
    rw [summarize_append_singleton, sources_summarizeOne_eq_nil, ih,
      sourced_append_singleton, hnew, not_or]

/-- Whatever is counted is counted at least once. -/
def Counting (counts : List (String × Nat)) : Prop := ∀ c ∈ counts, 0 < c.2

theorem Counting.bump {counts : List (String × Nat)} (hc : Counting counts) (src : String) :
    Counting (Ingest.bump counts src) := by
  intro c hmem
  unfold Ingest.bump at hmem
  split at hmem
  · obtain ⟨c', hc', rfl⟩ := List.mem_map.mp hmem
    split
    · exact Nat.succ_pos _
    · exact hc c' hc'
  · rcases List.mem_append.mp hmem with hmem | hmem
    · exact hc c hmem
    · rw [List.mem_singleton.mp hmem]
      exact Nat.one_pos

theorem counting_summarize (obs : List Observation) : Counting (Ingest.summarize obs).sources := by
  induction obs using List.reverseRecOn with
  | nil => exact List.forall_mem_nil _
  | append_singleton obs o ih =>
    rw [summarize_append_singleton, (summarizeOne_names _ o).2]
    split
    · rw [Ingest.addDomain]
      split
      · exact ih
      · generalize ((splitComma o.source).map trimSpace).filter (· ≠ "") = srcs
        generalize (Ingest.summarize obs).sources = counts at ih
        show Counting (srcs.foldl Ingest.bump counts)
        induction srcs generalizing counts with
        | nil => exact ih
        | cons src srcs ihs => exact ihs _ (ih.bump src)
    · exact ih

theorem addedFor_summarize_eq_zero :
    (∀ src, addedFor (Ingest.summarize obs).sources src = 0) ↔ ¬ Sourced obs := by
  rw [← sources_summarize_eq_nil]
  have hpos := counting_summarize obs
  generalize (Ingest.summarize obs).sources = counts at hpos
  constructor
  · intro hzero
    cases counts with
    | nil => rfl
    | cons c counts =>
      have hc := hzero c.1
      rw [addedFor_cons, if_pos rfl] at hc
      have := hpos c List.mem_cons_self
      omega
  · rintro rfl src
    rfl

end PinkGlasses
