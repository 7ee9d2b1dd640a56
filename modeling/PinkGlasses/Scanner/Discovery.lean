import Mathlib.Data.List.DropRight
import Mathlib.Data.List.Infix
import PinkGlasses.Domain
import PinkGlasses.Text

/-!
# PinkGlasses.Scanner.Discovery

What the discovery stages keep of what they are told, `internal/scanner/stage_discovery.go` and
`stage_dirbrute.go`.

* Under wildcard DNS every name resolves. `dropPhantoms` takes out the names whose every record is
  the wildcard's, and nothing else (`dropPhantoms_eq`).
* Passive sources name URLs of other hosts. `inHost` looks for the host **anywhere in the URL**: in
  its scheme, its own host or its path (`names_iff`). `foreign_paths_kept_out_iff` says which URLs
  of other hosts are kept out.
-/

namespace PinkGlasses.Scanner

/-! ### Wildcard DNS -/

/-- The names that had any record at all, and those with evidence beyond the wildcard. -/
structure Evidence where
  seen : List String := []
  real : List String := []

/-- A record of the first loop. -/
def Evidence.add (wild : List String) (e : Evidence) (r : Observation) : Evidence :=
  if r.type ≠ .dnsRecord then e
  else
    { seen := r.domain :: e.seen
      real := if r.rtype = "CNAME" ∨ r.value ∉ wild then r.domain :: e.real else e.real }

/-- The name has records, and nothing but the wildcard's. -/
def Evidence.phantom (e : Evidence) (name : String) : Bool :=
  e.seen.contains name && !e.real.contains name

def dropPhantoms (cands records : List Observation) (wild : List String) :
    List Observation × List Observation × Nat :=
  let e := records.foldl (Evidence.add wild) {}
  let keptRecords := records.foldl (fun kept r =>
    if r.type = .dnsRecord ∧ e.phantom r.domain then kept else kept ++ [r]) []
  let (keptCands, dropped) := cands.foldl (fun (kept, dropped) c =>
    if c.type = .subdomain ∧ e.phantom c.domain then (kept, dropped + 1)
    else (kept ++ [c], dropped)) ([], 0)
  (keptCands, keptRecords, dropped)

/-- The name has a DNS record, and each of its DNS records is no CNAME and has a wildcard value. -/
def Phantom (records : List Observation) (wild : List String) (name : String) : Prop :=
  (∃ r ∈ records, r.type = .dnsRecord ∧ r.domain = name) ∧
    ∀ r ∈ records, r.type = .dnsRecord → r.domain = name → r.rtype ≠ "CNAME" ∧ r.value ∈ wild
deriving Decidable

section Loops

variable {wild : List String} {name : String}

theorem mem_foldl_add (records : List Observation) (e : Evidence) :
    (name ∈ (records.foldl (Evidence.add wild) e).seen ↔
      name ∈ e.seen ∨ ∃ r ∈ records, r.type = .dnsRecord ∧ r.domain = name) ∧
    (name ∈ (records.foldl (Evidence.add wild) e).real ↔
      name ∈ e.real ∨ ∃ r ∈ records, r.type = .dnsRecord ∧ r.domain = name ∧
        (r.rtype = "CNAME" ∨ r.value ∉ wild)) := by
  induction records generalizing e with
  | nil => simp
  | cons r records ih =>
    rw [List.foldl_cons, (ih _).1, (ih _).2]
    by_cases htype : r.type = .dnsRecord
    · by_cases hreal : r.rtype = "CNAME" ∨ r.value ∉ wild
      · simp [Evidence.add, htype, hreal, @eq_comm _ name, or_assoc, or_left_comm]
      · simp [Evidence.add, htype, hreal, @eq_comm _ name, or_assoc, or_left_comm]
    · simp [Evidence.add, htype]

theorem phantom_iff (records : List Observation) :
    (records.foldl (Evidence.add wild) {}).phantom name = true ↔ Phantom records wild name := by
  have hloop := @mem_foldl_add wild name records {}
  simp only [Evidence.phantom, Bool.and_eq_true, List.contains_iff_mem, Bool.not_eq_true',
    ← Bool.not_eq_true, hloop.1, hloop.2, List.not_mem_nil, false_or, Phantom]
  refine and_congr_right fun _ => ⟨fun h r hr htype hname => ?_, fun h hreal => ?_⟩
  · by_contra hnot
    refine h ⟨r, hr, htype, hname, ?_⟩
    simpa [imp_iff_not_or] using hnot
  · obtain ⟨r, hr, htype, hname, hreal⟩ := hreal
    exact hreal.elim (h r hr htype hname).1 fun hvalue => hvalue (h r hr htype hname).2

/-- A loop that skips some elements and appends the others. -/
theorem foldl_keep {α : Type} (p : α → Prop) [DecidablePred p] (l kept : List α) :
    l.foldl (fun kept a => if p a then kept else kept ++ [a]) kept = kept ++ l.filter (¬p ·) := by
  induction l generalizing kept with
  | nil => simp
  | cons a l ih => by_cases ha : p a <;> simp [ih, ha]

theorem foldl_drop {α : Type} (p : α → Prop) [DecidablePred p] (l kept : List α) (n : Nat) :
    l.foldl (fun (kept, n) a => if p a then (kept, n + 1) else (kept ++ [a], n)) (kept, n) =
      (kept ++ l.filter (¬p ·), n + (l.filter (p ·)).length) := by
  induction l generalizing kept n with
  | nil => simp
  | cons a l ih =>
    by_cases ha : p a
    · simp [ih, ha]
      omega
    · simp [ih, ha]

end Loops

/-- **`dropPhantoms` removes the DNS records and the candidates of the phantom names**, keeps
everything else in its order, and counts the candidates it removed. -/
theorem dropPhantoms_eq (cands records : List Observation) (wild : List String) :
    dropPhantoms cands records wild =
      (cands.filter fun c => ¬(c.type = .subdomain ∧ Phantom records wild c.domain),
        records.filter fun r => ¬(r.type = .dnsRecord ∧ Phantom records wild r.domain),
        (cands.filter fun c => c.type = .subdomain ∧ Phantom records wild c.domain).length) := by
  unfold dropPhantoms
  simp only [foldl_keep, foldl_drop, phantom_iff, List.nil_append, Nat.zero_add]

/-! ### Passive URLs -/

/-- What follows the first `://`. -/
def afterScheme : List Char → Option (List Char)
  | ':' :: '/' :: '/' :: rest => some rest
  | _ :: cs => afterScheme cs
  | [] => none

/-- `hostOf`: the host, with its port. -/
def hostOf (u : String) : String :=
  String.ofList (((afterScheme u.toList).getD u.toList).takeWhile (· ≠ '/'))

def pathOf (u : String) : String :=
  match ((afterScheme u.toList).getD u.toList).dropWhile (· ≠ '/') with
  | [] => "/"
  | path => String.ofList path

def inHost (u host : String) : Bool := host ≠ "" ∧ host.toList <:+: u.toList

/-- The characters no path is kept with. -/
def badRunes : List Char := "\"'<>\x7b\x7d|^\\`".toList

def cleanPath (path : String) : String :=
  let path := trimSpace path
  if path = "" then ""
  else
    let path := path.toList.takeWhile fun c => c ≠ '?' ∧ c ≠ '#'
    let path := if path.head? = some '/' then path else '/' :: path
    if 256 < path.length ∨ path.any fun c => '~' < c ∨ c < '!' ∨ c ∈ badRunes then ""
    else String.ofList path

/-- `add` of `dirBrute`, on the paths so far. -/
def addPath (seen : List (String × Int)) (path : String) (status : Int) : List (String × Int) :=
  let path := cleanPath path
  if path = "" ∨ (seen.lookup path).isSome then seen else seen ++ [(path, status)]

/-- A line of the passive source. -/
def addPassive (base : String) (seen : List (String × Int)) (u : String) : List (String × Int) :=
  if inHost u (hostOf base) then addPath seen (pathOf u) 0 else seen

/-! ### Where a URL names a host -/

/-- What stands before the first `://`, with its colon. -/
def schemeOf (u : List Char) : List Char :=
  ((afterScheme u).map fun rest => u.take (u.length - rest.length - 2)).getD []

/-- **The URL names the host**: before its `://`, as a part of its own host and port, or in what
follows them. -/
def Names (u : String) (host : List Char) : Prop :=
  host <:+: schemeOf u.toList ∨ host <:+: (hostOf u).toList ∨ host <:+: (pathOf u).toList
deriving Decidable

/-- **No such path is kept**: up to its query or fragment it is longer than 256, or has a character
that is not printable ASCII or among `badRunes`. -/
def Refused (path : String) : Prop :=
  let path := (trimSpace path).toList.takeWhile fun c => c ≠ '?' ∧ c ≠ '#'
  256 < path.length ∨ ∃ c ∈ path, '~' < c ∨ c < '!' ∨ c ∈ badRunes
deriving Decidable

theorem infix_append_cons_iff {α : Type} {x : α} {l l₁ l₂ : List α} (hx : x ∉ l) :
    l <:+: l₁ ++ x :: l₂ ↔ l <:+: l₁ ∨ l <:+: l₂ := by
  constructor
  · rintro ⟨s, t, heq⟩
    rcases List.append_eq_append_iff.mp heq with ⟨a, hl₁, ht⟩ | ⟨c, hs, hx₂⟩
    · exact .inl ⟨s, a, hl₁.symm⟩
    · cases c with
      | nil => exact .inl ⟨s, [], by simpa using hs⟩
      | cons y c =>
        obtain ⟨rfl, rfl⟩ := List.cons.inj hx₂
        -- the word would have to run over `x`, or it begins behind it
        rcases List.append_eq_append_iff.mp hs with ⟨b, hl₁, hl⟩ | ⟨b, hs', hl⟩
        · exact absurd (hl ▸ List.mem_append_right b List.mem_cons_self) hx
        · cases b with
          | nil => exact absurd ((show x :: c = l from hl) ▸ List.mem_cons_self) hx
          | cons z b =>
            obtain ⟨-, rfl⟩ := List.cons.inj hl
            exact .inr ⟨b, t, by simp⟩
  · rintro (h | h)
    · exact h.trans (List.prefix_append _ _).isInfix
    · exact h.trans ((List.suffix_cons _ _).trans (List.suffix_append _ _)).isInfix

theorem afterScheme_eq {u rest : List Char} (h : afterScheme u = some rest) :
    u = schemeOf u ++ '/' :: '/' :: rest := by
  have hsplit : ∃ s, u = s ++ '/' :: '/' :: rest := by
    fun_induction afterScheme u with
    | case1 cs => exact ⟨[':'], by rw [Option.some.inj h]; rfl⟩
    | case2 c cs _ ih =>
      obtain ⟨s, hs⟩ := ih h
      exact ⟨c :: s, by rw [hs]; rfl⟩
    | case3 => cases h
  obtain ⟨s, hs⟩ := hsplit
  have hlength : u.length - rest.length - 2 = s.length := by
    rw [hs]
    simp only [List.length_append, List.length_cons]
    omega
  rw [schemeOf, h, Option.map_some, Option.getD_some, hlength, hs, List.take_left]

/-- What follows the scheme is the host and the path, or the host alone, which has the path `/`. -/
theorem exists_pathOf (u : String) : ∃ path, (pathOf u).toList = '/' :: path ∧
    ((afterScheme u.toList).getD u.toList = (hostOf u).toList ++ '/' :: path ∨
      (afterScheme u.toList).getD u.toList = (hostOf u).toList ∧ path = []) := by
  rw [hostOf, String.toList_ofList]
  unfold pathOf
  generalize (afterScheme u.toList).getD u.toList = cs
  have hcs := List.takeWhile_append_dropWhile (p := (· ≠ '/')) (l := cs)
  cases hdrop : cs.dropWhile (· ≠ '/') with
  | nil =>
    rw [hdrop, List.append_nil] at hcs
    exact ⟨[], rfl, .inr ⟨hcs.symm, rfl⟩⟩
  | cons c path =>
    have hc : c = '/' := by
      have hhead := List.head?_dropWhile_not (p := (· ≠ '/')) (l := cs)
      rw [hdrop] at hhead
      simpa using hhead
    subst hc
    rw [hdrop] at hcs
    exact ⟨path, String.toList_ofList, .inl hcs.symm⟩

/-- **The URL names the host exactly if it contains it**: a text without a slash lies in one of the
parts between slashes. -/
theorem names_iff {host : List Char} (hslash : '/' ∉ host) (u : String) :
    Names u host ↔ host <:+: u.toList := by
  -- a host has no slash, so it stands on one side of any slash
  have hcut : ∀ {l₁ l₂}, host <:+: l₁ ++ '/' :: l₂ ↔ host <:+: l₁ ∨ host <:+: l₂ :=
    infix_append_cons_iff hslash
  have hnil : host <:+: [] → ∀ cs, host <:+: cs := fun h cs => List.infix_nil.mp h ▸ List.nil_infix
  have hfront : ∀ cs : List Char, host <:+: '/' :: cs ↔ host <:+: cs := fun cs =>
    (show host <:+: [] ++ '/' :: cs ↔ _ from hcut).trans (or_iff_right_of_imp fun h => hnil h cs)
  have hrest : host <:+: (afterScheme u.toList).getD u.toList ↔
      host <:+: (hostOf u).toList ∨ host <:+: (pathOf u).toList := by
    obtain ⟨path, hpath, hparts | ⟨hparts, rfl⟩⟩ := exists_pathOf u
    · rw [hpath, hparts, hcut, hfront]
    · rw [hpath, hparts, hfront]
      exact (or_iff_left_of_imp fun h => hnil h _).symm
  cases hscheme : afterScheme u.toList with
  | none =>
    rw [hscheme] at hrest
    rw [Names, ← hrest, schemeOf, hscheme]
    exact or_iff_right_of_imp fun h => hnil h _
  | some rest =>
    rw [hscheme] at hrest
    rw [Names, ← hrest]
    conv_rhs => rw [afterScheme_eq hscheme]
    rw [hcut, hfront]
    rfl

theorem slash_not_mem_hostOf (u : String) : '/' ∉ (hostOf u).toList := by
  intro hmem
  rw [hostOf, String.toList_ofList] at hmem
  simpa using List.mem_takeWhile_imp hmem

/-- What does not begin with a space still begins as it did once it is trimmed. -/
theorem exists_trimSpace_cons {s : String} {c : Char} {cs : List Char} (hs : s.toList = c :: cs)
    (hc : c.isWhitespace = false) : ∃ cs', (trimSpace s).toList = c :: cs' := by
  have htrim : (trimSpace s).toList = (c :: cs).rdropWhile (·.isWhitespace) := by
    rw [trimSpace, String.toList_ofList, hs, List.dropWhile_cons_of_neg (by simp [hc])]
    rfl
  have hprefix : (c :: cs).rdropWhile (·.isWhitespace) <+: c :: cs := List.rdropWhile_prefix _ _
  rw [htrim]
  rcases List.prefix_cons_iff.mp hprefix with hnil | ⟨cs', heq, -⟩
  · have hall := List.rdropWhile_eq_nil_iff.mp hnil c List.mem_cons_self
    rw [hc] at hall
    cases hall
  · exact ⟨cs', heq⟩

/-- `cleanPath` refuses the path of a URL for nothing else: it begins with a slash. -/
theorem cleanPath_pathOf (u : String) : cleanPath (pathOf u) = "" ↔ Refused (pathOf u) := by
  obtain ⟨path, hpath, -⟩ := exists_pathOf u
  obtain ⟨trimmed, htrim⟩ := exists_trimSpace_cons hpath (by decide)
  have hne : trimSpace (pathOf u) ≠ "" := by
    intro h
    rw [h] at htrim
    cases htrim
  have htake : (trimSpace (pathOf u)).toList.takeWhile (fun c => c ≠ '?' ∧ c ≠ '#') =
      '/' :: trimmed.takeWhile fun c => c ≠ '?' ∧ c ≠ '#' := by
    rw [htrim, List.takeWhile_cons_of_pos (by decide)]
  unfold cleanPath Refused
  simp only [if_neg hne, htake, List.head?_cons, if_true]
  split
  · rename_i hbad
    simpa using hbad
  · rename_i hgood
    refine iff_of_false (fun h => ?_) (by simpa using hgood)
    cases String.ofList_injective h

/-- **A path of another host is kept out exactly if the target's host is empty, or named nowhere in
the URL, or the path is one that is never kept.** -/
theorem foreign_paths_kept_out_iff (base u : String) (hforeign : hostOf u ≠ hostOf base) :
    (∀ seen, addPassive base seen u ≠ seen → hostOf u = hostOf base) ↔
      hostOf base = "" ∨ ¬ Names u (hostOf base).toList ∨ Refused (pathOf u) := by
  rw [names_iff (slash_not_mem_hostOf base), ← cleanPath_pathOf]
  have hin : inHost u (hostOf base) = true ↔
      hostOf base ≠ "" ∧ (hostOf base).toList <:+: u.toList := decide_eq_true_iff
  constructor
  · intro h
    by_contra hnot
    simp only [not_or, not_not] at hnot
    refine hforeign (h [] ?_)
    simp [addPassive, hin.mpr ⟨hnot.1, hnot.2.1⟩, addPath, hnot.2.2]
  · intro h seen hadded
    refine absurd ?_ hadded
    unfold addPassive addPath
    split
    · rename_i hyes
      obtain ⟨hne, hmem⟩ := hin.mp hyes
      exact if_pos (.inl ((h.resolve_left hne).resolve_left (not_not_intro hmem)))
    · rfl

/-- A page of another host that does not name the target. -/
theorem foreign_paths_kept_out_elsewhere :
    hostOf "https://other.test/admin" ≠ hostOf "https://example.com" ∧
    ∀ seen, addPassive "https://example.com" seen "https://other.test/admin" ≠ seen →
      hostOf "https://other.test/admin" = hostOf "https://example.com" := by
  suffices h : _ from ⟨h, (foreign_paths_kept_out_iff _ _ h).mpr (by decide +kernel)⟩
  decide +kernel

/-- The defect: a host that begins with the target's, and one whose pages link to it. -/
theorem foreign_path_kept :
    (addPassive "https://example.com" [] "https://example.com.test/admin" = [("/admin", 0)] ∧
      hostOf "https://example.com.test/admin" ≠ hostOf "https://example.com") ∧
    addPassive "https://example.com" [] "https://other.test/go?to=example.com" = [("/go", 0)] ∧
      hostOf "https://other.test/go?to=example.com" ≠ hostOf "https://example.com" := by
  decide +kernel

end PinkGlasses.Scanner
