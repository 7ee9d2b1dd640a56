import Mathlib.Data.List.TakeWhile

/-!
# PinkGlasses.Text

The functions of Go's `strings` and `net` packages that the program takes texts apart with, on the
characters of a text.
-/

namespace PinkGlasses

/-- `strings.ToLower`, on ASCII letters. -/
def toLower (s : String) : String := String.ofList (s.toList.map Char.toLower)

/-- `strings.Split(s, ",")`. -/
def splitComma (s : String) : List String := (s.toList.splitOn ',').map String.ofList

/-- `strings.TrimSpace`. -/
@[irreducible] def trimSpace (s : String) : String :=
  String.ofList ((s.toList.dropWhile (·.isWhitespace)).reverse.dropWhile (·.isWhitespace)).reverse

theorem trimSpace_eq_self {s : String} (h : ∀ c ∈ s.toList, c.isWhitespace = false) :
    trimSpace s = s := by
  have hdrop : ∀ cs : List Char, (∀ c ∈ cs, c.isWhitespace = false) →
      cs.dropWhile (·.isWhitespace) = cs := by
    intro cs hcs
    cases cs with
    | nil => rfl
    | cons c cs => rw [List.dropWhile_cons_of_neg (by simp [hcs c])]
  rw [trimSpace, hdrop _ h, hdrop _ fun c hc => h c (List.mem_reverse.mp hc), List.reverse_reverse,
    String.ofList_toList]

theorem length_trimSpace_le (s : String) : (trimSpace s).length ≤ s.length := by
  have hdrop : ∀ cs : List Char, (cs.dropWhile (·.isWhitespace)).length ≤ cs.length :=
    fun cs => (List.dropWhile_suffix _).length_le
  rw [trimSpace, String.length_ofList, List.length_reverse, ← String.length_toList]
  calc ((s.toList.dropWhile (·.isWhitespace)).reverse.dropWhile (·.isWhitespace)).length
      ≤ (s.toList.dropWhile (·.isWhitespace)).reverse.length := hdrop _
    _ = (s.toList.dropWhile (·.isWhitespace)).length := List.length_reverse
    _ ≤ s.toList.length := hdrop _

/-- `strings.Trim(s, cutset)`. -/
def trimChars (cutset : List Char) (s : String) : String :=
  String.ofList ((s.toList.dropWhile cutset.contains).reverse.dropWhile cutset.contains).reverse

/-- `strings.Cut`, with a separator of one character. -/
def cut (sep : Char) (s : String) : Option (String × String) :=
  match s.toList.dropWhile (· ≠ sep) with
  | [] => none
  | _ :: after => some (String.ofList (s.toList.takeWhile (· ≠ sep)), String.ofList after)

theorem toList_of_cut {sep : Char} {s a b : String} (h : cut sep s = some (a, b)) :
    s.toList = a.toList ++ sep :: b.toList := by
  unfold cut at h
  split at h
  · cases h
  · rename_i c after hdrop
    cases h
    have hsep : c = sep := by
      have hhead := List.head?_dropWhile_not (fun c => decide (c ≠ sep)) s.toList
      rw [hdrop] at hhead
      simpa using hhead
    rw [hsep] at hdrop
    rw [String.toList_ofList, String.toList_ofList, ← hdrop, List.takeWhile_append_dropWhile]

theorem cut_eq_none {sep : Char} {s : String} (h : sep ∉ s.toList) : cut sep s = none := by
  have hdrop : s.toList.dropWhile (· ≠ sep) = [] :=
    List.dropWhile_eq_nil_iff.mpr fun c hc => decide_eq_true (ne_of_mem_of_not_mem hc h)
  rw [cut, hdrop]
/-- What stands before and after the last `c`, if there is one. -/
def splitLast (c : Char) (cs : List Char) : Option (List Char × List Char) :=
  match cs.reverse.dropWhile (· ≠ c) with
  | [] => none
  | _ :: before => some (before.reverse, (cs.reverse.takeWhile (· ≠ c)).reverse)

/-- `net.SplitHostPort`: `host:port` or `[host]:port`. -/
def splitHostPort (s : String) : Option (String × String) :=
  match s.toList with
  | '[' :: rest =>
    match rest.dropWhile (· ≠ ']') with
    | ']' :: ':' :: port =>
      let host := rest.takeWhile (· ≠ ']')
      if '[' ∈ host ∨ port.any (fun c => c == ':' || c == '[' || c == ']') then none
      else some (String.ofList host, String.ofList port)
    | _ => none
  | cs => match splitLast ':' cs with
    | none => none
    | some (host, port) =>
      if ':' ∈ host ∨ cs.any (fun c => c == '[' || c == ']') then none
      else some (String.ofList host, String.ofList port)

example : splitHostPort "192.0.2.1:443" = some ("192.0.2.1", "443") := by decide

example : splitHostPort "[2001:db8::1]:443" = some ("2001:db8::1", "443") := by decide

example : splitHostPort "2001:db8::1" = none := by decide

end PinkGlasses
