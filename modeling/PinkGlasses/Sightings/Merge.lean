import PinkGlasses.Sightings

/-!
# PinkGlasses.Sightings.Merge

**Several stages fill in one row of `service_observation`.** What the row holds after any number of
writes, in any order and from batches taken in at the same time:

* each text is the last one written that was not empty (`TextColumn`);
* the `http` document has the entries written, the headers and the cookies of all of them, and `tls`
  is the last document (`Merged`);
* nothing that was filled in is emptied again (`Preserves`).

The merge adds an entry of its own: the second document brings `headers` even if none was ever
written. `Described` is the exact description that every write keeps, and the condition is read off
it.
-/

namespace PinkGlasses

open Lib Prog System Ingest

namespace Sightings

/-! ### What was written -/

/-- The text columns of `service_observation`. -/
inductive TextColumn
  | banner | product | version | screenshotKey | rawKey
deriving Repr, DecidableEq

namespace TextColumn

/-- What the row has in a column. -/
def stored : TextColumn → ServiceObservation → String
  | banner => (·.banner)
  | product => (·.product)
  | version => (·.version)
  | screenshotKey => (·.screenshotKey)
  | rawKey => (·.rawKey)

/-- What an observation writes to it. -/
def written : TextColumn → ServiceObs → String
  | banner => (·.banner)
  | product => (·.product)
  | version => (·.version)
  | screenshotKey => (·.screenshotKey)
  | rawKey => (·.rawKey)

end TextColumn

/-- The last text that is not empty, or the empty one. -/
def lastFilled (xs : List String) : String := (xs.filter (· ≠ "")).getLast?.getD ""

/-- The last document that is not empty. -/
def lastDoc (ds : List Doc) : Option Doc := (ds.filter (!·.isEmpty)).getLast?

/-- The headers in a document. -/
def headersOf (d : Doc) : List (String × String) :=
  match d.lookup "headers" with
  | some (.object kvs) => kvs
  | _ => []

/-- The cookies in a document. -/
def cookiesOf (d : Doc) : List String :=
  match d.lookup "cookies" with
  | some (.texts cs) => cs
  | _ => []

/-- The last value written for a header. -/
def lastHeader (ds : List Doc) (name : String) : Option String :=
  (ds.filterMap fun d => (headersOf d).lookup name).getLast?

/-- The `http` documents that have an entry. -/
def httpDocs (ws : List ServiceObs) : List Doc := (ws.map (·.http)).filter (!·.isEmpty)

/-! ### The law of the merge -/

/-- **What a row holds after the writes.** -/
structure Merged (pr : Printing) (row : Option ServiceObservation) (ws : List ServiceObs) :
    Prop where
  texts : ∀ col : TextColumn,
    (row.map col.stored).getD "" = lastFilled (ws.map col.written)
  httpKeys : ∀ key, (Jsonb.at? (row.bind (·.http)) key).isSome =
    ws.any fun w => (w.http.lookup key).isSome
  headers : ∀ name, Jsonb.at? (Jsonb.at? (row.bind (·.http)) "headers") name =
    (lastHeader (ws.map (·.http)) name).map .string
  cookies : ∀ c, c ∈ ((Jsonb.at? (row.bind (·.http)) "cookies").map (·.strings)).getD [] ↔
    ∃ w ∈ ws, c ∈ cookiesOf w.http
  tls : row.bind (·.tls) = (lastDoc (ws.map (·.tls))).bind (jsonOrNil pr)

/-- Nothing that was filled in is empty or null now. -/
structure Preserves (row row' : Option ServiceObservation) : Prop where
  texts : ∀ col : TextColumn,
    (row.map col.stored).getD "" ≠ "" → (row'.map col.stored).getD "" ≠ ""
  http : (row.bind (·.http)).any (·.filled) = true → (row'.bind (·.http)).any (·.filled) = true
  entries : ∀ key, (Jsonb.at? (row.bind (·.http)) key).any (·.filled) = true →
    (Jsonb.at? (row'.bind (·.http)) key).any (·.filled) = true
  tls : (row.bind (·.tls)).any (·.filled) = true → (row'.bind (·.tls)).any (·.filled) = true

theorem Preserves.refl (row : Option ServiceObservation) : Preserves row row :=
  ⟨fun _ => id, id, fun _ => id, id⟩

theorem Preserves.trans {row₁ row₂ row₃ : Option ServiceObservation} (h : Preserves row₁ row₂)
    (h' : Preserves row₂ row₃) : Preserves row₁ row₃ :=
  ⟨fun col => h'.texts col ∘ h.texts col, h'.http ∘ h.http,
    fun key => h'.entries key ∘ h.entries key,
    h'.tls ∘ h.tls⟩

/-- Headers were written, or there was nothing to merge: **the condition under which the law
holds**. -/
def HeadersSettled (ws : List ServiceObs) : Prop :=
  (httpDocs ws).length ≤ 1 ∨ ∃ w ∈ ws, headersOf w.http ≠ []

/-! ### The documents ingest writes -/

/-- Every entry has a value, the headers are an object and the cookies an array of texts. -/
structure Shaped (pr : Printing) (d : Doc) : Prop where
  filled : ∀ key v, d.lookup key = some v → (v.marshal pr).filled = true
  headers : ∀ v, d.lookup "headers" = some v → ∃ kvs, v = .object kvs
  cookies : ∀ v, d.lookup "cookies" = some v → ∃ cs, v = .texts cs

theorem mem_of_lookup {α : Type} {d : List (String × α)} {key : String} {v : α}
    (h : d.lookup key = some v) : (key, v) ∈ d := by
  obtain ⟨l, l', rfl, -⟩ := List.lookup_eq_some_iff.mp h
  simp

theorem shaped_httpDoc (pr : Printing) (o : Observation) : Shaped pr (httpDoc o) := by
  have hentry : ∀ key v, (httpDoc o).lookup key = some v → (v.marshal pr).filled = true ∧
      (key = "headers" → ∃ kvs, v = .object kvs) ∧ (key = "cookies" → ∃ cs, v = .texts cs) := by
    intro key v h
    have hmem := mem_of_lookup h
    simp only [httpDoc, List.mem_append] at hmem
    rcases hmem with (((hmem | hmem) | hmem) | hmem) | hmem <;> split at hmem <;>
      simp_all [Json.marshal, Jsonb.filled]
  exact ⟨fun key v h => (hentry key v h).1, fun v h => (hentry _ v h).2.1 rfl,
    fun v h => (hentry _ v h).2.2 rfl⟩

theorem shaped_nil (pr : Printing) : Shaped pr [] := ⟨by simp, by simp, by simp⟩

theorem shaped_told (pr : Printing) (o : Observation) : Shaped pr (told o).http := by
  unfold told
  split
  case h_2 => exact shaped_httpDoc pr o
  all_goals exact shaped_nil pr

namespace Shaped

variable {pr : Printing} {d : Doc} (hd : Shaped pr d)

include hd

theorem lookup_headers :
    d.lookup "headers" = if headersOf d = [] then none else some (.object (headersOf d)) := by
  cases h : d.lookup "headers" with
  | none => simp [headersOf, h]
  | some v =>
    obtain ⟨kvs, rfl⟩ := hd.headers v h
    have hfilled := hd.filled _ _ h
    have hkvs : kvs ≠ [] := by
      rintro rfl
      simp [Json.marshal, Jsonb.filled] at hfilled
    simp [headersOf, h, hkvs]

theorem lookup_cookies :
    d.lookup "cookies" = if cookiesOf d = [] then none else some (.texts (cookiesOf d)) := by
  cases h : d.lookup "cookies" with
  | none => simp [cookiesOf, h]
  | some v =>
    obtain ⟨cs, rfl⟩ := hd.cookies v h
    have hfilled := hd.filled _ _ h
    have hcs : cs ≠ [] := by
      rintro rfl
      simp [Json.marshal, Jsonb.filled] at hfilled
    simp [cookiesOf, h, hcs]

end Shaped

/-! ### A document as it is stored -/

/-- The entries of a document as they are stored. -/
def entries (pr : Printing) (d : Doc) : List (String × Jsonb) :=
  d.map fun e => (e.1, e.2.marshal pr)

theorem lookup_map_snd {α β : Type} (f : α → β) (d : List (String × α)) (key : String) :
    (d.map fun e => (e.1, f e.2)).lookup key = (d.lookup key).map f := by
  induction d with
  | nil => rfl
  | cons e d ih =>
    obtain ⟨k, v⟩ := e
    cases h : key == k <;> simp [List.lookup_cons, h, ih]

theorem lookup_entries (pr : Printing) (d : Doc) (key : String) :
    (entries pr d).lookup key = (d.lookup key).map (·.marshal pr) := lookup_map_snd _ d key

theorem jsonOrNil_eq (pr : Printing) (d : Doc) :
    jsonOrNil pr d = if d.isEmpty then none else some (.object (entries pr d)) := rfl

/-- The last value written for an entry. -/
def lastValue (ds : List Doc) (key : String) : Option Json := (ds.filterMap (·.lookup key)).getLast?

/-- Whether the stored document has headers: one was written, or two documents were merged. -/
def headersStored (ds : List Doc) : Bool := 2 ≤ ds.length || ds.any (headersOf · ≠ [])

/-- **The stored document after the documents `ds`.** -/
structure DocIs (pr : Printing) (kvs : List (String × Jsonb)) (ds : List Doc) : Prop where
  other : ∀ key, key ≠ "headers" → key ≠ "cookies" →
    kvs.lookup key = (lastValue ds key).map (·.marshal pr)
  headers : ∃ hs, (kvs.lookup "headers" = if headersStored ds then some (.object hs) else none) ∧
    ∀ name, hs.lookup name = (lastHeader ds name).map .string
  cookies : ∃ cs : List String, (kvs.lookup "cookies" =
      if ds.any (cookiesOf · ≠ []) then some (.array (cs.map .string)) else none) ∧
    ∀ c, c ∈ cs ↔ ∃ d ∈ ds, c ∈ cookiesOf d

/-- The column after the documents `ds`. -/
def HttpIs (pr : Printing) (http : Option Jsonb) (ds : List Doc) : Prop :=
  if ds = [] then http = none else ∃ kvs, http = some (.object kvs) ∧ DocIs pr kvs ds

/-- Nothing in the column was emptied. -/
structure HttpKept (http http' : Option Jsonb) : Prop where
  doc : http.any (·.filled) = true → http'.any (·.filled) = true
  entries : ∀ key, (Jsonb.at? http key).any (·.filled) = true →
    (Jsonb.at? http' key).any (·.filled) = true

theorem HttpKept.refl (http : Option Jsonb) : HttpKept http http := ⟨id, fun _ => id⟩

section Step

variable {pr : Printing} {ds : List Doc} {d : Doc} {kvs : List (String × Jsonb)}

theorem lastValue_append (ds : List Doc) (d : Doc) (key : String) :
    lastValue (ds ++ [d]) key = (d.lookup key).or (lastValue ds key) := by
  cases h : d.lookup key <;> simp [lastValue, List.filterMap_append, h]

theorem lastHeader_append (ds : List Doc) (d : Doc) (name : String) :
    lastHeader (ds ++ [d]) name = ((headersOf d).lookup name).or (lastHeader ds name) := by
  cases h : (headersOf d).lookup name <;> simp [lastHeader, List.filterMap_append, h]

theorem docIs_first (hd : Shaped pr d) : DocIs pr (entries pr d) [d] where
  other := by
    intro key _ _
    rw [lookup_entries, ← List.nil_append [d], lastValue_append]
    simp [lastValue]
  headers := by
    refine ⟨(headersOf d).map fun kv => (kv.1, .string kv.2), ?_, ?_⟩
    · rw [lookup_entries, hd.lookup_headers]
      by_cases h : headersOf d = [] <;> simp [headersStored, h, Json.marshal]
    · intro name
      rw [lookup_map_snd, ← List.nil_append [d], lastHeader_append]
      simp [lastHeader]
  cookies := by
    refine ⟨cookiesOf d, ?_, by simp⟩
    rw [lookup_entries, hd.lookup_cookies]
    by_cases h : cookiesOf d = [] <;> simp [h, Json.marshal]

theorem mergeHeaders_eq {hs : List (String × Jsonb)} {p : Prop} [Decidable p] (hd : Shaped pr d)
    (hkvs : kvs.lookup "headers" = if p then some (.object hs) else none) (hhs : ¬p → hs = []) :
    ServiceObservation.mergeHeaders (.object kvs) (.object (entries pr d)) =
      .object [("headers", .object
        ((headersOf d).map (fun kv => (kv.1, .string kv.2)) ++ hs))] := by
  have hold : Jsonb.orObject (kvs.lookup "headers") = .object hs := by
    rw [hkvs]
    split
    · rfl
    · rw [hhs ‹_›]
      rfl
  have hnew : Jsonb.orObject ((entries pr d).lookup "headers") =
      .object ((headersOf d).map fun kv => (kv.1, .string kv.2)) := by
    rw [lookup_entries, hd.lookup_headers]
    by_cases h : headersOf d = [] <;> simp [h, Jsonb.orObject, Json.marshal]
  simp only [ServiceObservation.mergeHeaders, Jsonb.get_object, hold, hnew]
  rfl

/-- The cookies of a merged document: those of both, if one of them has any. -/
theorem mergeCookies_eq {cs : List String} {p : Prop} [Decidable p] (hd : Shaped pr d)
    (hkvs : kvs.lookup "cookies" = if p then some (.array (cs.map .string)) else none)
    (hcs : ¬p → cs = []) :
    ServiceObservation.mergeCookies pr (.object kvs) (.object (entries pr d)) =
      if p ∨ cookiesOf d ≠ [] then .object [("cookies",
        .array (((cs ++ cookiesOf d).dedup.insertionSort (· ≤ ·)).map .string))]
      else .object [] := by
  have hold : Jsonb.orArray (kvs.lookup "cookies") = .array (cs.map .string) := by
    rw [hkvs]
    split
    · rfl
    · rw [hcs ‹_›]
      rfl
  have hnew : Jsonb.orArray ((entries pr d).lookup "cookies") =
      .array ((cookiesOf d).map .string) := by
    rw [lookup_entries, hd.lookup_cookies]
    by_cases h : cookiesOf d = [] <;> simp [h, Jsonb.orArray, Json.marshal]
  have hall : Jsonb.aggDistinct (((Jsonb.orArray (kvs.lookup "cookies")).concat
      (Jsonb.orArray ((entries pr d).lookup "cookies"))).elementsText pr.jsonb) =
      .array (((cs ++ cookiesOf d).dedup.insertionSort (· ≤ ·)).map .string) := by
    rw [hold, hnew, ← Jsonb.aggDistinct_some, ← Jsonb.elementsText_strings pr.jsonb,
      List.map_append]
    rfl
  simp only [ServiceObservation.mergeCookies, Jsonb.get_object, hall]
  rw [hkvs, lookup_entries, hd.lookup_cookies]
  by_cases hp : p <;> by_cases hc : cookiesOf d = [] <;> simp [hp, hc]

theorem eq_nil_of_lookup {α : Type} {hs : List (String × α)} (h : ∀ name, hs.lookup name = none) :
    hs = [] := by
  cases hs with
  | nil => rfl
  | cons e hs => simpa using h e.1

theorem lastHeader_eq_none (h : headersStored ds ≠ true) (name : String) :
    lastHeader ds name = none := by
  have hnone : ∀ d ∈ ds, headersOf d = [] := by simp_all [headersStored]
  have hds : ds.filterMap (fun d => (headersOf d).lookup name) = [] := by
    rw [List.filterMap_eq_nil_iff]
    intro d hd
    rw [hnone d hd]
    rfl
  rw [lastHeader, hds]
  rfl

/-- **Every further document is merged**, and empties no entry. -/
theorem docIs_merge (hkvs : DocIs pr kvs ds) (hds : ds ≠ []) (hd : Shaped pr d) :
    ∃ kvs', ServiceObservation.mergeHTTP pr (some (.object kvs)) (some (.object (entries pr d))) =
      some (.object kvs') ∧ DocIs pr kvs' (ds ++ [d]) ∧
      HttpKept (some (.object kvs)) (some (.object kvs')) := by
  obtain ⟨hs, hheaders, hnames⟩ := hkvs.headers
  obtain ⟨cs, hcookies, hmem⟩ := hkvs.cookies
  -- what is not stored is empty: merging into nothing and into an empty value agree
  have hhs : ¬headersStored ds = true → hs = [] := fun h =>
    eq_nil_of_lookup fun name => by rw [hnames, lastHeader_eq_none h, Option.map_none]
  have hcs : ¬ds.any (cookiesOf · ≠ []) = true → cs = [] := by
    intro h
    simp only [List.any_eq_true, decide_eq_true_eq, not_exists, not_and, not_not] at h
    refine List.eq_nil_iff_forall_not_mem.mpr fun c hc => ?_
    obtain ⟨d', hd', hc'⟩ := (hmem c).mp hc
    simp [h d' hd'] at hc'
  have hstored : headersStored (ds ++ [d]) = true := by
    have := List.length_pos_iff.mpr hds
    simp only [headersStored, List.length_append, List.length_singleton, Bool.or_eq_true,
      decide_eq_true_eq]
    omega
  have hany : (ds ++ [d]).any (cookiesOf · ≠ []) = true ↔
      ds.any (cookiesOf · ≠ []) = true ∨ cookiesOf d ≠ [] := by
    simp [List.any_append]
  set hs' := (headersOf d).map (fun kv => (kv.1, Jsonb.string kv.2)) ++ hs with hhs'
  set cs' := (cs ++ cookiesOf d).dedup.insertionSort (· ≤ ·) with hcs'
  set kvs' := (if ds.any (cookiesOf · ≠ []) = true ∨ cookiesOf d ≠ [] then
      [("cookies", .array (cs'.map .string))] else []) ++
      ("headers", Jsonb.object hs') :: (entries pr d ++ kvs) with hkvs'
  -- the merged document by key: cookies and headers are joined, the rest overwritten
  have hlookup : ∀ key, kvs'.lookup key =
      if key = "cookies" then
        if (ds ++ [d]).any (cookiesOf · ≠ []) then some (.array (cs'.map .string)) else none
      else if key = "headers" then some (.object hs')
      else ((d.lookup key).map (·.marshal pr)).or (kvs.lookup key) := by
    intro key
    by_cases hc : ds.any (cookiesOf · ≠ []) = true ∨ cookiesOf d ≠ []
    · rw [hkvs', if_pos hc, if_pos (hany.mpr hc)]
      simp only [List.cons_append, List.nil_append, List.lookup_cons, List.lookup_append,
        lookup_entries, beq_eq_decide]
      split_ifs <;> simp_all
    · obtain ⟨hold, hnew⟩ := not_or.mp hc
      rw [hkvs', if_neg hc, if_neg (mt hany.mp hc)]
      simp only [List.nil_append, List.lookup_cons, List.lookup_append, lookup_entries,
        beq_eq_decide]
      by_cases hkey : key = "cookies"
      · rw [hkey, hcookies, if_neg hold, hd.lookup_cookies, if_pos (not_not.mp hnew)]
        rfl
      · by_cases hh : key = "headers" <;> simp [hkey, hh]
  have hmem' : ∀ c, c ∈ cs' ↔ ∃ d' ∈ ds ++ [d], c ∈ cookiesOf d' := by
    intro c
    rw [hcs', List.mem_insertionSort, List.mem_dedup, List.mem_append, hmem]
    simp only [List.mem_append, List.mem_singleton, or_and_right, exists_or, exists_eq_left]
  refine ⟨kvs', ?_, ⟨?_, ?_, ⟨cs', by rw [hlookup, if_pos rfl], hmem'⟩⟩, ?_, ?_⟩
  · simp only [ServiceObservation.mergeHTTP, mergeHeaders_eq hd hheaders hhs,
      mergeCookies_eq hd hcookies hcs, hkvs']
    split <;> rfl
  · intro key hh hc
    rw [hlookup, if_neg hc, if_neg hh, hkvs.other key hh hc, lastValue_append, Option.map_or]
  · refine ⟨hs', by simp [hlookup, hstored], fun name => ?_⟩
    rw [hhs', List.lookup_append, lookup_map_snd, hnames, lastHeader_append, Option.map_or]
  · simp [Jsonb.filled, hkvs']
  · intro key hkey
    simp only [Jsonb.at?, Option.bind_some, Jsonb.get_object] at hkey ⊢
    rw [hlookup]
    split_ifs with hc hnew hh
    · obtain ⟨d', hd', hne⟩ := List.any_eq_true.mp hnew
      obtain ⟨c, hc'⟩ := List.exists_mem_of_ne_nil _ (of_decide_eq_true hne)
      simpa [Jsonb.filled] using List.ne_nil_of_mem ((hmem' c).mpr ⟨d', hd', hc'⟩)
    -- no page set a cookie, so there was none to keep
    · rw [hc, hcookies, if_neg fun h => hnew (hany.mpr (.inl h))] at hkey
      cases hkey
    · rw [hh, hheaders] at hkey
      split at hkey
      · have hne : hs ≠ [] := by simpa [Jsonb.filled] using hkey
        simp [Jsonb.filled, hhs', hne]
      · cases hkey
    · cases hv : d.lookup key with
      | none => exact hkey
      | some v => exact hd.filled key v hv

theorem HttpIs.step {http : Option Jsonb} (hhttp : HttpIs pr http ds) (hd : Shaped pr d) :
    HttpIs pr (ServiceObservation.mergeHTTP pr http (jsonOrNil pr d))
        (ds ++ if d.isEmpty then [] else [d]) ∧
      HttpKept http (ServiceObservation.mergeHTTP pr http (jsonOrNil pr d)) := by
  rw [jsonOrNil_eq]
  by_cases hempty : d.isEmpty = true
  · simp only [hempty, if_true, List.append_nil]
    -- an absent document leaves the column as it is
    have hkept : ServiceObservation.mergeHTTP pr http none = http := by
      cases http <;> rfl
    rw [hkept]
    exact ⟨hhttp, .refl http⟩
  · simp only [hempty]
    unfold HttpIs at hhttp ⊢
    rw [if_neg (by simp)]
    by_cases hds : ds = []
    · rw [if_pos hds] at hhttp
      subst hds hhttp
      exact ⟨⟨entries pr d, rfl, docIs_first hd⟩, nofun, nofun⟩
    · rw [if_neg hds] at hhttp
      obtain ⟨kvs, rfl, hkvs⟩ := hhttp
      obtain ⟨kvs', hmerge, hkvs', hkept⟩ := docIs_merge hkvs hds hd
      have hmerge' : ServiceObservation.mergeHTTP pr (some (.object kvs))
          (if false = true then none else some (.object (entries pr d))) = some (.object kvs') :=
          hmerge
      rw [hmerge']
      exact ⟨⟨kvs', rfl, hkvs'⟩, hkept⟩

end Step

/-! ### A row as it is stored -/

theorem lastFilled_append (xs : List String) (x : String) :
    lastFilled (xs ++ [x]) = ServiceObservation.orStored x (lastFilled xs) := by
  by_cases h : x = "" <;> simp [lastFilled, ServiceObservation.orStored, List.filter_append, h]

theorem lastDoc_append (ds : List Doc) (d : Doc) :
    lastDoc (ds ++ [d]) = if d.isEmpty then lastDoc ds else some d := by
  by_cases h : d.isEmpty = true <;> simp [lastDoc, List.filter_append, h]

theorem httpDocs_singleton (w : ServiceObs) :
    httpDocs [w] = if w.http.isEmpty then [] else [w.http] := by
  by_cases h : w.http.isEmpty = true <;> simp [httpDocs, h]

theorem httpDocs_append (ws ws' : List ServiceObs) :
    httpDocs (ws ++ ws') = httpDocs ws ++ httpDocs ws' := by
  simp [httpDocs]

/-- **The row after the writes `ws`**, exactly. -/
structure Described (pr : Printing) (row : Option ServiceObservation) (ws : List ServiceObs) :
    Prop where
  texts : ∀ col : TextColumn, (row.map col.stored).getD "" = lastFilled (ws.map col.written)
  http : HttpIs pr (row.bind (·.http)) (httpDocs ws)
  tls : row.bind (·.tls) = (lastDoc (ws.map (·.tls))).bind (jsonOrNil pr)
  shaped : ∀ w ∈ ws, Shaped pr w.http

/-- What a write makes of the row, or of its absence. -/
def written (pr : Printing) (key : ObservationKey) (seenAt : Time) (w : ServiceObs)
    (row : Option ServiceObservation) : ServiceObservation :=
  (row.map (.refreshed pr w)).getD (.inserted pr key seenAt w)

section Written

variable {pr : Printing} {key : ObservationKey} {seenAt : Time} {w : ServiceObs}
  {row : Option ServiceObservation} {ws : List ServiceObs}

theorem stored_written (col : TextColumn) : col.stored (written pr key seenAt w row) =
    ServiceObservation.orStored (col.written w) ((row.map col.stored).getD "") := by
  cases row with
  | none =>
    have horStored : ∀ x, ServiceObservation.orStored x "" = x := by
      intro x
      by_cases h : x = "" <;> simp [ServiceObservation.orStored, h]
    cases col <;> simp [written, ServiceObservation.inserted, TextColumn.stored, TextColumn.written,
      horStored]
  | some r => cases col <;> rfl

theorem http_written : (written pr key seenAt w row).http =
    ServiceObservation.mergeHTTP pr (row.bind (·.http)) (jsonOrNil pr w.http) := by
  cases row with
  | none =>
    simp only [written, ServiceObservation.inserted, Option.map_none, Option.getD_none,
      Option.bind_none, jsonOrNil_eq]
    split <;> rfl
  | some r => rfl

theorem tls_written : (written pr key seenAt w row).tls =
    ServiceObservation.mergeTLS (row.bind (·.tls)) (jsonOrNil pr w.tls) := by
  cases row with
  | none =>
    simp only [written, ServiceObservation.inserted, Option.map_none, Option.getD_none,
      Option.bind_none, jsonOrNil_eq]
    split <;> rfl
  | some r => rfl

theorem described_nil : Described pr none [] :=
  ⟨fun _ => rfl, rfl, rfl, by simp⟩

theorem Described.step (hrow : Described pr row ws) (hw : Shaped pr w.http) :
    Described pr (some (written pr key seenAt w row)) (ws ++ [w]) where
  texts := by
    intro col
    rw [List.map_append, List.map_singleton, lastFilled_append, ← hrow.texts col]
    exact stored_written col
  http := by
    rw [httpDocs_append, httpDocs_singleton]
    simp only [Option.bind_some, http_written]
    exact (hrow.http.step hw).1
  tls := by
    simp only [Option.bind_some, tls_written, List.map_append, List.map_singleton, lastDoc_append,
      hrow.tls, jsonOrNil_eq]
    by_cases h : w.tls.isEmpty = true
    · simp only [h, if_true, ServiceObservation.mergeTLS]
    · simp [h, ServiceObservation.mergeTLS, jsonOrNil_eq]
  shaped := by
    intro w' hw'
    rcases List.mem_append.mp hw' with h | h
    · exact hrow.shaped w' h
    · exact List.mem_singleton.mp h ▸ hw

/-- **A write empties nothing that was filled in.** -/
theorem Described.preserves_written (hrow : Described pr row ws) (hw : Shaped pr w.http) :
    Preserves row (some (written pr key seenAt w row)) := by
  have hwritten : (written pr key seenAt w row).http =
      ServiceObservation.mergeHTTP pr (row.bind (·.http)) (jsonOrNil pr w.http) := http_written
  have hhttp := (hrow.http.step hw).2
  rw [← hwritten] at hhttp
  refine ⟨fun col hcol => ?_, hhttp.doc, hhttp.entries, fun htls => ?_⟩
  · rw [Option.map_some, Option.getD_some, stored_written, ServiceObservation.orStored]
    split
    · exact hcol
    · assumption
  · rw [Option.bind_some, tls_written, jsonOrNil_eq]
    split
    · exact htls
    · rename_i hne
      simpa [ServiceObservation.mergeTLS, Jsonb.filled, entries] using hne

end Written

/-! ### The law is read off the description -/

section Law

variable {pr : Printing} {ds : List Doc} {kvs : List (String × Jsonb)}
  {row : Option ServiceObservation} {ws : List ServiceObs}

theorem isSome_lastValue (ds : List Doc) (key : String) :
    (lastValue ds key).isSome = ds.any fun d => (d.lookup key).isSome := by
  rw [Bool.eq_iff_iff, lastValue, List.getLast?_isSome, List.any_eq_true, Ne,
    List.filterMap_eq_nil_iff]
  simp [Option.isSome_iff_ne_none]

theorem any_isSome_lookup {α : Type} [DecidableEq α] {key : String} {f : Doc → List α}
    {g : Doc → Json}
    (h : ∀ d ∈ ds, d.lookup key = if f d = [] then none else some (g d)) :
    (ds.any fun d => (d.lookup key).isSome) = ds.any (f · ≠ []) := by
  rw [Bool.eq_iff_iff, List.any_eq_true, List.any_eq_true]
  refine exists_congr fun d => and_congr_right fun hd => ?_
  rw [h d hd]
  split <;> simp_all

/-- Apart from the headers, the stored document has the entries that were written. -/
theorem DocIs.isSome_lookup (hkvs : DocIs pr kvs ds) (hds : ∀ d ∈ ds, Shaped pr d) {key : String}
    (hkey : key ≠ "headers") : (kvs.lookup key).isSome = ds.any fun d => (d.lookup key).isSome := by
  by_cases hcookies : key = "cookies"
  · obtain ⟨cs, hcs, -⟩ := hkvs.cookies
    rw [hcookies, hcs, any_isSome_lookup fun d hd => (hds d hd).lookup_cookies]
    split <;> simp_all
  · rw [hkvs.other key hkey hcookies, Option.isSome_map, isSome_lastValue]

theorem DocIs.isSome_headers (hkvs : DocIs pr kvs ds) :
    (kvs.lookup "headers").isSome = headersStored ds := by
  obtain ⟨hs, hlookup, -⟩ := hkvs.headers
  rw [hlookup]
  split <;> simp_all

theorem DocIs.lookup_header (hkvs : DocIs pr kvs ds) (name : String) :
    Jsonb.at? (kvs.lookup "headers") name = (lastHeader ds name).map .string := by
  obtain ⟨hs, hlookup, hnames⟩ := hkvs.headers
  by_cases hstored : headersStored ds = true
  · rw [hlookup, if_pos hstored]
    exact hnames name
  · rw [hlookup, if_neg hstored, lastHeader_eq_none hstored]
    rfl

theorem DocIs.mem_cookies (hkvs : DocIs pr kvs ds) (c : String) :
    c ∈ ((kvs.lookup "cookies").map (·.strings)).getD [] ↔ ∃ d ∈ ds, c ∈ cookiesOf d := by
  obtain ⟨cs, hlookup, hmem⟩ := hkvs.cookies
  by_cases hany : ds.any (cookiesOf · ≠ []) = true
  · rw [hlookup, if_pos hany, ← hmem c]
    simp
  · rw [hlookup, if_neg hany]
    simp only [List.any_eq_true, decide_eq_true_eq, not_exists, not_and, not_not] at hany
    constructor
    · simp
    · rintro ⟨d, hd, hc⟩
      rw [hany d hd] at hc
      exact hc

/-- The entry for the headers was written, exactly when headers were or nothing was merged. -/
theorem headersStored_eq_iff (hds : ∀ d ∈ ds, Shaped pr d) :
    (headersStored ds = ds.any fun d => (d.lookup "headers").isSome) ↔
      ds.length ≤ 1 ∨ ∃ d ∈ ds, headersOf d ≠ [] := by
  have hex : ds.any (headersOf · ≠ []) = true ↔ ∃ d ∈ ds, headersOf d ≠ [] := by simp
  rw [any_isSome_lookup fun d hd => (hds d hd).lookup_headers, ← hex, headersStored]
  cases ds.any (headersOf · ≠ []) with
  | false =>
    rw [Bool.or_false, decide_eq_false_iff_not, not_le, or_iff_left Bool.false_ne_true]
    exact Nat.lt_succ_iff
  | true => simp

theorem any_httpDocs {f : Doc → Bool} (hf : f [] = false) (ws : List ServiceObs) :
    (httpDocs ws).any f = ws.any fun w => f w.http := by
  induction ws with
  | nil => rfl
  | cons w ws ih =>
    rw [← List.singleton_append, httpDocs_append, httpDocs_singleton, List.any_append, ih,
      List.singleton_append, List.any_cons]
    by_cases h : w.http.isEmpty = true
    · rw [List.isEmpty_iff.mp h]
      simp [hf]
    · simp [h]

theorem exists_httpDocs {P : Doc → Prop} (hP : ¬P []) (ws : List ServiceObs) :
    (∃ d ∈ httpDocs ws, P d) ↔ ∃ w ∈ ws, P w.http := by
  classical
  have h := any_httpDocs (f := fun d => decide (P d)) (by simpa using hP) ws
  rw [Bool.eq_iff_iff, List.any_eq_true, List.any_eq_true] at h
  simpa using h

theorem lastHeader_httpDocs (ws : List ServiceObs) (name : String) :
    lastHeader (httpDocs ws) name = lastHeader (ws.map (·.http)) name := by
  rw [lastHeader, httpDocs, List.filterMap_filter, lastHeader]
  congr 2
  funext d
  cases d <;> rfl

theorem httpDocs_mem {d : Doc} (hd : d ∈ httpDocs ws) : d ≠ [] ∧ ∃ w ∈ ws, w.http = d := by
  obtain ⟨hmem, hne⟩ := List.mem_filter.mp hd
  obtain ⟨w, hw, rfl⟩ := List.mem_map.mp hmem
  exact ⟨by simpa using hne, w, hw, rfl⟩

theorem Described.shaped_docs (hrow : Described pr row ws) : ∀ d ∈ httpDocs ws, Shaped pr d := by
  intro d hd
  obtain ⟨-, w, hw, rfl⟩ := httpDocs_mem hd
  exact hrow.shaped w hw

/-- **The law holds of a row exactly when headers were written or there was nothing to merge.** -/
theorem Described.merged_iff (hrow : Described pr row ws) :
    Merged pr row ws ↔ HeadersSettled ws := by
  have hshaped := hrow.shaped_docs
  have hkeys : ∀ key, (ws.any fun w => (w.http.lookup key).isSome) =
      (httpDocs ws).any fun d => (d.lookup key).isSome :=
    fun key => (any_httpDocs (f := fun d => (d.lookup key).isSome) rfl ws).symm
  have hhttp := hrow.http
  unfold HttpIs at hhttp
  by_cases hds : httpDocs ws = []
  · rw [if_pos hds] at hhttp
    have hsettled : HeadersSettled ws := .inl (by simp [hds])
    refine iff_of_true ⟨hrow.texts, ?_, ?_, ?_, hrow.tls⟩ hsettled
    · intro key
      simp [hhttp, Jsonb.at?, hkeys, hds]
    · intro name
      rw [← lastHeader_httpDocs, hds]
      simp [hhttp, Jsonb.at?, lastHeader]
    · intro c
      rw [← exists_httpDocs (P := fun d => c ∈ cookiesOf d) (by simp [cookiesOf]), hds]
      simp [hhttp, Jsonb.at?]
  · rw [if_neg hds] at hhttp
    obtain ⟨kvs, hhttp, hkvs⟩ := hhttp
    have hat : ∀ key, Jsonb.at? (row.bind (·.http)) key = kvs.lookup key := by
      intro key
      rw [hhttp]
      rfl
    -- the one difference is whether the headers are there at all
    have hsettled : HeadersSettled ws ↔
        (headersStored (httpDocs ws) = ws.any fun w => (w.http.lookup "headers").isSome) := by
      rw [hkeys, headersStored_eq_iff hshaped,
        exists_httpDocs (P := fun d => headersOf d ≠ []) (by simp [headersOf])]
      rfl
    rw [hsettled]
    constructor
    · intro h
      rw [← h.httpKeys "headers", hat, hkvs.isSome_headers]
    · intro h
      refine ⟨hrow.texts, ?_, ?_, ?_, hrow.tls⟩
      · intro key
        by_cases hkey : key = "headers"
        · rw [hkey, hat, hkvs.isSome_headers, h]
        · rw [hat, hkvs.isSome_lookup hshaped hkey, hkeys]
      · intro name
        rw [hat, hkvs.lookup_header, lastHeader_httpDocs]
      · intro c
        rw [hat, hkvs.mem_cookies,
          exists_httpDocs (P := fun d => c ∈ cookiesOf d) (by simp [cookiesOf])]

end Law

/-! ### Over every run -/

/-- What a statement writes to `service_observation`. -/
def writes {β : Type} (s : Sighted β) (_ : β) : List (ObservationKey × ServiceObs) :=
  s.write?.toList

/-- What was written to a row, in order. -/
def writesTo (k : ObservationKey) (log : List (ObservationKey × ServiceObs)) : List ServiceObs :=
  (log.reverse.filter (·.1 = k)).map (·.2)

/-- What batches taken in at the same time leave, with everything they wrote. -/
def ingested (out : Outside) (pr : Printing) (st : SightDB)
    (es : List (Event Batch Env)) : SightDB × List (ObservationKey × ServiceObs) :=
  (((ingest out pr).logged writes).run ⟨(st, []), []⟩ es).state

/-- The statement writes documents as ingest makes them. -/
def WritesShaped (pr : Printing) (β : Type) (s : Sighted β) : Prop :=
  ∀ key w, s.write? = some (key, w) → Shaped pr w.http

theorem graphOnly_write? {β : Type} {s : AssetStmt β} (h : graphOnly s = true) :
    s.write? = none := by
  cases s <;> first | rfl | cases h

theorem process_writesShaped (pr : Printing) (b : Batch) :
    Uses (WritesShaped pr) ((process b.now b.runID b.obs).run.embed (sighted b.now)) := by
  refine Uses.embed (P := fun β s => WritesShaped pr β (sighted b.now β s)) ?_ fun _ _ h => h
  refine process_uses_told ?_ ?_ ?_ b.now b.obs
  · intro β s hs key w hw
    have hnone : s.write? = some (key, w) := hw
    rw [graphOnly_write? hs] at hnone
    cases hnone
  · intro serviceID runID o key w hw
    have hsome : some (_, told o) = some (key, w) := hw
    cases hsome
    exact shaped_told pr o
  · intro key w hw
    cases hw

theorem writesTo_cons (k key : ObservationKey) (w : ServiceObs)
    (log : List (ObservationKey × ServiceObs)) :
    writesTo k ((key, w) :: log) = writesTo k log ++ if key = k then [w] else [] := by
  by_cases h : key = k <;> simp [writesTo, List.filter_append, h]

theorem described_step {out : Outside} {pr : Printing} {env : Env} {k : ObservationKey} {β : Type}
    {s : Sighted β} {b : β} {st st' : SightDB × List (ObservationKey × ServiceObs)}
    (hst : Described pr (st.1.rowOf k) (writesTo k st.2)) (hs : WritesShaped pr β s)
    (hexec : ((ingest out pr).logged writes).exec s env st = some (b, st')) :
    Described pr (st'.1.rowOf k) (writesTo k st'.2) ∧ Preserves (st.1.rowOf k) (st'.1.rowOf k) := by
  obtain ⟨hexec, hlog⟩ := logged_exec _ hexec
  rw [Sighted.rowOf_exec hexec k, hlog, writes]
  cases hw : s.write? with
  | none => exact ⟨hst, .refl _⟩
  | some kw =>
    obtain ⟨key, w⟩ := kw
    rw [Option.toList_some, List.singleton_append, writesTo_cons]
    by_cases hk : k = key
    · subst hk
      simp only [if_true]
      exact ⟨hst.step (hs k w hw), hst.preserves_written (hs k w hw)⟩
    · simp only [if_neg hk, if_neg (Ne.symm hk), List.append_nil]
      exact ⟨hst, .refl _⟩

/-- What batches keep of a row: it is described by what was written to it, and nothing that it held
at some time is emptied. -/
theorem described_inductive (out : Outside) (pr : Printing) (k : ObservationKey)
    (row₀ : Option ServiceObservation) :
    System.Inductive ((ingest out pr).logged writes) (fun _ _ _ _ => True)
      (fun _ β s => WritesShaped pr β s) (fun _ _ => True)
      (fun st => Described pr (st.1.rowOf k) (writesTo k st.2) ∧ Preserves row₀ (st.1.rowOf k))
      fun _ _ => True where
  spawn _ b _ _ := ⟨trivial, (process_writesShaped pr b).keeps fun _ _ _ h => h⟩
  step hc _ hs _ hexec := by
    obtain ⟨hdesc, hkept⟩ := described_step hc.state.1 hs hexec
    exact ⟨⟨hdesc, hc.state.2.trans hkept⟩, trivial, fun _ _ _ _ _ => trivial⟩
  fail _ _ _ := trivial

/-- **A row is the merge of what was written to it, and nothing in it is ever emptied, exactly if
headers were written or there was nothing to merge**: whatever batches are taken in, in whatever
order and at the same time. -/
theorem merged_and_preserved_iff (out : Outside) (pr : Printing) (st : SightDB) (k : ObservationKey)
    (hk : st.rowOf k = none) (es : List (Event Batch Env)) :
    (Merged pr ((ingested out pr st es).1.rowOf k) (writesTo k (ingested out pr st es).2) ∧
      ∀ es₁ es₂, es = es₁ ++ es₂ →
        Preserves ((ingested out pr st es₁).1.rowOf k) ((ingested out pr st es).1.rowOf k)) ↔
      HeadersSettled (writesTo k (ingested out pr st es).2) := by
  have hstart : Described pr (st.rowOf k) (writesTo k []) ∧ Preserves none (st.rowOf k) := by
    rw [hk]
    exact ⟨described_nil, .refl none⟩
  have hrun := fun es => (described_inductive out pr k none).run (.start hstart)
    (along_true ((ingest out pr).logged writes) ⟨(st, []), []⟩ es)
  refine Iff.trans (and_iff_left ?_) (hrun es).state.1.merged_iff
  intro es₁ es₂ hes
  subst hes
  rw [ingested, ingested, run_append]
  have hmid := hrun es₁
  exact ((described_inductive out pr k _).run ⟨⟨hmid.state.1, .refl _⟩, hmid.threads, hmid.contract⟩
    (along_true _ _ es₂)).state.2

/-- A database with one run. -/
def oneRun : SightDB where
  db := { runs := .ofRows [{ id := 1, scopeID := 1, profile := .standard, status := .running }]
            (by decide) }

/-- A web server that answers, with some headers. -/
def answers (headers : List (String × String)) : Observation :=
  { type := .http, ip := "192.0.2.1", port := 80, status := 200, headers }

/-- Two answers of a server are taken in, one after the other. -/
def twoAnswers (first second : List (String × String)) : List (Event Batch Env) :=
  .spawn ⟨0, 1, [answers first, answers second]⟩ :: List.replicate 7 (.step 0 {})

theorem merged_and_preserved_with_headers :
    oneRun.rowOf ⟨1, 1, ""⟩ = none ∧
      Merged {} ((ingested {} {} oneRun (twoAnswers [] [("Server", "nginx")])).1.rowOf ⟨1, 1, ""⟩)
        (writesTo ⟨1, 1, ""⟩ (ingested {} {} oneRun (twoAnswers [] [("Server", "nginx")])).2) :=
  ⟨rfl, ((merged_and_preserved_iff {} {} oneRun ⟨1, 1, ""⟩ rfl
    (twoAnswers [] [("Server", "nginx")])).mpr (.inr (by decide +kernel))).1⟩

/-- Two answers without a header leave a document that has headers: none. -/
theorem headers_never_written :
    writesTo ⟨1, 1, ""⟩ (ingested {} {} oneRun (twoAnswers [] [])).2 =
        [told (answers []), told (answers [])] ∧
      ¬Merged {} ((ingested {} {} oneRun (twoAnswers [] [])).1.rowOf ⟨1, 1, ""⟩)
        (writesTo ⟨1, 1, ""⟩ (ingested {} {} oneRun (twoAnswers [] [])).2) := by
  refine ⟨by decide +kernel, ?_⟩
  intro h
  have hkeys := h.httpKeys "headers"
  revert hkeys
  decide +kernel

end Sightings

end PinkGlasses
