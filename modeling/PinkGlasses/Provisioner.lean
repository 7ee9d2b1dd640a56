import Mathlib.Data.List.Basic

/-!
# PinkGlasses.Provisioner

The `remove` handler of the provisioner: it takes the first listed container whose id begins with
the name asked for, or that has it as a name. **A name that begins another container's id takes that
one**, so it is the right container exactly when none such is listed first (`remove_right_iff`).
-/

namespace PinkGlasses.Provisioner

/-- A managed container; the daemon lists names with a leading slash. -/
structure Container where
  id : String
  names : List String
deriving Repr, DecidableEq

/-- What the handler answers, and the container it had the daemon remove. -/
structure Outcome where
  status : Nat
  body : String
  target : Option Container := none
deriving Repr, DecidableEq

/-- `strings.TrimPrefix(n, "/")`. -/
def trimSlash (n : String) : String :=
  match n.toList with
  | '/' :: rest => String.ofList rest
  | _ => n

/-- `match` of the loop. -/
def taken (name : String) (c : Container) : Bool :=
  name.toList.isPrefixOf c.id.toList || c.names.any fun n => trimSlash n == name

/-- The loop of `remove`. -/
def removeFirst (name : String) (dockerRemove : String → Option String) : List Container → Outcome
  | [] => { status := 200, body := "" }
  | c :: list =>
    if taken name c then
      match dockerRemove c.id with
      | some err => { status := 502, body := err, target := some c }
      | none => { status := 200, body := c.id, target := some c }
    else removeFirst name dockerRemove list

/-- `remove`, on the decoded name, what the daemon lists, and the errors of its removals. -/
def remove (name : Option String) (list : Except String (List Container))
    (dockerRemove : String → Option String) : Outcome :=
  match name with
  | none | some "" => { status := 400, body := "name required" }
  | some name =>
    match list with
    | .error err => { status := 502, body := err }
    | .ok list => removeFirst name dockerRemove list

/-- The container the name means: by its short or full id, or by a name. -/
def Means (name : String) (c : Container) : Prop :=
  String.ofList (c.id.toList.take 12) = name ∨ c.id = name ∨ ∃ n ∈ c.names, trimSlash n = name
deriving Decidable

/-- Only a container that is meant is removed, and one is if there is one. -/
def Right (name : String) (list : List Container) (o : Outcome) : Prop :=
  (∀ c, o.target = some c → Means name c) ∧
    ((∃ c ∈ list, Means name c) → ∃ c ∈ list, o.target = some c ∧ Means name c)

variable {name : String} {dockerRemove : String → Option String}

theorem removeFirst_target (list : List Container) :
    (removeFirst name dockerRemove list).target = list.find? (taken name) := by
  induction list with
  | nil => rfl
  | cons c list ih =>
    rw [removeFirst, List.find?_cons]
    cases taken name c with
    | true => simp only [if_true]; split <;> rfl
    | false => simpa using ih

theorem taken_of_means {c : Container} (h : Means name c) : taken name c = true := by
  simp only [taken, Bool.or_eq_true, List.isPrefixOf_iff_prefix, List.any_eq_true, beq_iff_eq]
  rcases h with h | h | h
  · exact .inl (h ▸ by simpa using List.take_prefix ..)
  · exact .inl (h ▸ List.prefix_refl _)
  · exact .inr h

theorem means_of_taken {c : Container} (h : taken name c = true)
    (hid : ¬ name.toList <+: c.id.toList) : Means name c := by
  simp only [taken, Bool.or_eq_true, List.isPrefixOf_iff_prefix, List.any_eq_true, beq_iff_eq] at h
  exact .inr (.inr (h.resolve_left hid))

/-- The containers that the name should leave alone come after one it means. -/
def Unambiguous (name : String) (list : List Container) : Prop :=
  ∀ before c after, list = before ++ c :: after → name.toList <+: c.id.toList →
    Means name c ∨ ∃ d ∈ before, Means name d

theorem first_means_iff (list : List Container) :
    (∀ c ∈ list.find? (taken name), Means name c) ↔ Unambiguous name list := by
  constructor
  · intro h before c after hlist hid
    by_cases hbefore : ∃ d ∈ before, taken name d = true
    · -- the first match stands before `c`
      obtain ⟨d, hd, hfind⟩ := Option.isSome_iff_exists.mp (List.find?_isSome.mpr hbefore) |>.imp
        fun d hfind => (⟨List.mem_of_find?_eq_some hfind, hfind⟩ : d ∈ before ∧ _)
      refine .inr ⟨d, hd, h d ?_⟩
      rw [hlist, List.find?_append, hfind]
      rfl
    · have htaken : taken name c = true := by
        simp [taken, List.isPrefixOf_iff_prefix.mpr hid]
      have hnone : before.find? (taken name) = none :=
        List.find?_eq_none.mpr fun d hd hd' => hbefore ⟨d, hd, hd'⟩
      refine .inl (h c ?_)
      rw [hlist, List.find?_append, hnone, List.find?_cons, htaken]
      rfl
  -- the first match, if it is by an id, is what the hypothesis speaks of
  · intro h c hc
    obtain ⟨htaken, before, after, hlist, hnone⟩ := List.find?_eq_some_iff_append.mp hc
    by_cases hid : name.toList <+: c.id.toList
    · refine (h before c after hlist hid).resolve_right fun ⟨d, hd, hmeans⟩ => ?_
      have hnot := hnone d hd
      rw [taken_of_means hmeans] at hnot
      cases hnot
    · exact means_of_taken htaken hid

/-- **The right container is removed** exactly when no other one whose id begins with the name is
listed before it; an empty name is refused. -/
theorem remove_right_iff (name : String) (list : List Container)
    (dockerRemove : String → Option String) :
    Right name list (remove (some name) (.ok list) dockerRemove) ↔
      if name = "" then ∀ c ∈ list, ¬ Means name c else Unambiguous name list := by
  by_cases hname : name = ""
  · subst hname
    simp [Right, remove]
  · have hremove : remove (some name)
      (.ok list) dockerRemove = removeFirst name dockerRemove list := by
      unfold remove
      split
      · rename_i h
        cases h
      · rename_i h
        exact absurd (Option.some.inj h) hname
      · rename_i h
        cases h
        rfl
    rw [if_neg hname, Right, hremove, removeFirst_target, ← first_means_iff]
    refine ⟨fun h => h.1, fun h => ⟨h, fun ⟨c, hc, hmeans⟩ => ?_⟩⟩
    obtain ⟨d, hd⟩ := Option.isSome_iff_exists.mp
      (List.find?_isSome.mpr ⟨c, hc, taken_of_means hmeans⟩)
    exact ⟨d, List.mem_of_find?_eq_some hd, hd, h d hd⟩

/-- `be` is asked for, and a container whose id begins with these two digits is listed first. -/
theorem begun_id_removed :
    let web : Container :=
      ⟨"be0f5c1a9d3e77aa41c09b62d8f3e5a70b1c2d3e4f5061728394a5b6c7d8e9fa", ["/web"]⟩
    let be : Container :=
      ⟨"90aa0f5c1a9d3e7741c09b62d8f3e5a70b1c2d3e4f5061728394a5b6c7d8e9fb", ["/be"]⟩
    remove (some "be") (.ok [web, be]) (fun _ => none) = ⟨200, web.id, some web⟩ ∧
      Means "be" be ∧ ¬ Means "be" web := by
  decide +kernel

end PinkGlasses.Provisioner
