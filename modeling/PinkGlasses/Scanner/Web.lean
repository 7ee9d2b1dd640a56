import PinkGlasses.Planner.Select
import PinkGlasses.Scanner.Stages

/-!
# PinkGlasses.Scanner.Web

The probe of a web service and the screenshot of it, `internal/scanner/stage_web.go`, with what the
planner makes of a live endpoint in between.

* `serviceProbe` tries `https` first on a port of no fixed scheme, and the scheme that answered is
  forgotten: `urlFor` derives one from the port. `scheme_kept_iff` says where that is the same.
* The key of a screenshot is made of the URL, and the URL of a name does not say on which address;
  `sanitizeKey` then makes one byte of many and cuts. `screenshots_apart_iff`: two targets share a
  key exactly if their URLs are alike.
-/

namespace PinkGlasses

open Planner Ingest Lib.Netip

namespace Scanner

/-! ### The probe -/

/-- The leaf certificate of a connection. -/
structure Certificate where
  sha256 : String
  subjectCN : String := ""
  issuer : String := ""
  sans : List String := []
  notAfter : Time := 0
deriving Repr, DecidableEq

/-- What a server sent. -/
structure WebResponse where
  status : Int
  title : String := ""
  headers : List (String × String) := []
  cookies : List String := []
  /-- The software its headers and cookies tell of: name, version and confidence. -/
  hints : List (String × String × Int) := []
  cert : Option Certificate := none
deriving Repr, DecidableEq

def schemesFor (port : Int) : List String :=
  if port = 443 ∨ port = 8443 then ["https"]
  else if port = 80 ∨ port = 8080 ∨ port = 8000 ∨ port = 8888 then ["http"]
  else ["https", "http"]

/-- `portSuffix`, with `itoaSafe`, which leaves a negative number out. -/
def portSuffix (scheme : String) (port : Int) : String :=
  if (scheme = "http" ∧ port = 80) ∨ (scheme = "https" ∧ port = 443) then ""
  else ":" ++ if port < 0 then "" else toString port

/-- `ipPortFromURL` of the scanner. -/
def ipPortFromURL (raw : String) (fallbackPort : Int) : String × Int :=
  match parseURL raw with
  | none => ("", fallbackPort)
  | some u =>
    (u.hostname,
      if u.port ≠ "" then (atoi u.port).getD fallbackPort
      else if fallbackPort ≠ 0 then fallbackPort
      else if u.scheme = "https" then 443
      else if u.scheme = "http" then 80
      else 0)

variable (job : SentJob)

def targetIPPort : String × Int :=
  match job.targets with
  | [] => ("", 0)
  | t :: _ => if t.ip ≠ "" then (t.ip, t.port) else ipPortFromURL t.url t.port

def targetHost : String := (job.targets.head?.map (·.host)).getD ""

/-- The URL the probe asks for. -/
def probeURL (scheme : String) : String :=
  scheme ++ "://" ++ (targetIPPort job).1 ++ portSuffix scheme (targetIPPort job).2

/-- The first scheme that is answered, `get` being the server behind the URLs. -/
def firstAnswer (get : String → Option WebResponse) : Option (String × WebResponse) :=
  (schemesFor (targetIPPort job).2).findSome? fun scheme =>
  (get (probeURL job scheme)).map (scheme, ·)

def serviceProbe (get : String → Option WebResponse) : List Observation :=
  let (ip, port) := targetIPPort job
  let host := targetHost job
  if ip = "" then []
  else match firstAnswer job get with
    | none => []
    | some (scheme, r) =>
      { type := .http, ip, port, host, status := r.status, title := r.title, cookies := r.cookies
        headers := r.headers.filter (·.1 ≠ "Set-Cookie")
        product := (r.headers.lookup "Server").getD "" } ::
      r.hints.map (fun h => { type := .tech, ip, port, host, techName := h.1, techVersion := h.2.1
                              techConfidence := h.2.2 }) ++
      if scheme = "https" then r.cert.toList.map fun c =>
        { type := .tls, ip, port, host, certSHA256 := c.sha256, subjectCN := c.subjectCN
          issuer := c.issuer, sans := c.sans, notAfter := some c.notAfter }
      else []

/-- The targets the web stages get for an observation: the endpoint itself, or the names on it. -/
def plannedTargets (o : Observation) (names : List String) (maxNames : Nat) : List Target :=
  webTargets (urlFor o) (Planner.ipPortFromURL (urlFor o)).1
    (Planner.ipPortFromURL (urlFor o)).2 names
    maxNames

/-- The tasks planned for what the probe recorded ask over the scheme that answered. -/
def KeepsScheme (get : String → Option WebResponse) : Prop :=
  ∀ scheme r, firstAnswer job get = some (scheme, r) →
    ∀ o ∈ serviceProbe job get, o.type = .http → urlFor o ≠ "" →
      ∀ names maxNames stages origin,
        ∀ sp ∈ (plannedTargets o names maxNames).flatMap (webSpecs stages origin),
          ∃ rest, sp.target.url = scheme ++ "://" ++ rest

/-! ### The URL of an endpoint -/

/-- A character of an address or of a name. -/
def plainChar (c : Char) : Bool := c.isAlphanum || c == '-' || c == '.' || c == ':'

/-- A text made of them. -/
def Plain (s : String) : Prop := ∀ c ∈ s.toList, plainChar c = true

instance (s : String) : Decidable (Plain s) := List.decidableBAll _ s.toList

theorem ne_of_plain {cs : List Char} (h : ∀ c ∈ cs, plainChar c = true) {x : Char}
    (hx : plainChar x = false) : ∀ c ∈ cs, c ≠ x := by
  rintro c hc rfl
  rw [h c hc] at hx
  cases hx

theorem lt_of_plain {c : Char} (h : plainChar c = true) : ' ' < c := by
  have hlow : ∀ n : UInt32, 32 < n → n ≤ c.val → ' ' < c := fun n hn hle =>
    UInt32.lt_of_lt_of_le hn hle
  delta plainChar Char.isAlphanum Char.isAlpha Char.isUpper Char.isLower Char.isDigit at h
  simp only [Bool.or_eq_true, Bool.and_eq_true, decide_eq_true_eq, beq_iff_eq, ge_iff_le] at h
  rcases h with (((((h | h) | h) | rfl) | rfl) | rfl)
  · exact hlow 65 (by decide) h.1
  · exact hlow 97 (by decide) h.1
  · exact hlow 48 (by decide) h.1
  all_goals decide

theorem plainChar_of_isDigit {c : Char} (h : c.isDigit = true) : plainChar c = true := by
  simp [plainChar, Char.isAlphanum, h]

/-- The address is what stands before the last colon, and the port what stands after it. -/
theorem splitHostPort_endpoint {ip port : List Char} (hip : ∀ c ∈ ip, plainChar c = true)
    (hport : ∀ c ∈ port, c.isDigit = true) :
    Planner.splitHostPort (ip ++ ':' :: port) = some (ip, port) := by
  -- digits and plain characters hold no colon and no bracket, so the last colon is the one
  have hcolon : ∀ c ∈ port.reverse, decide (c ≠ ':') = true := by
    intro c hc
    refine decide_eq_true ?_
    rintro rfl
    exact absurd (hport _ (List.mem_reverse.mp hc)) (by decide)
  have htail : ((ip ++ ':' :: port).reverse.takeWhile (· ≠ ':')).reverse = port := by
    rw [List.reverse_append, List.reverse_cons, List.append_assoc,
      List.takeWhile_append_of_pos hcolon]
    simp
  have hclose : port.contains ']' = false := by
    rw [List.contains_eq_any_beq, List.any_eq_false]
    intro c hc
    have := ne_of_plain (fun c hc => plainChar_of_isDigit (hport c hc)) (x := ']') rfl c hc
    simpa using this.symm
  have hbracket : ¬(ip.head? = some '[' ∧ ip.getLast? = some ']') := by
    rintro ⟨hhead, -⟩
    exact ne_of_plain hip (x := '[') rfl _ (List.mem_of_head? hhead) rfl
  have htake : (ip ++ ':' :: port).take ((ip ++ ':' :: port).length - port.length - 1) = ip := by
    have hlength : (ip ++ ':' :: port).length - port.length - 1 = ip.length := by
      simp only [List.length_append, List.length_cons]
      omega
    rw [hlength, List.take_left]
  have hsplit : (ip ++ ':' :: port).contains ':' = true := by simp
  unfold Planner.splitHostPort
  simp only [htail, hsplit, hclose, htake, Bool.not_false, Bool.and_self, if_true,
    List.all_eq_true.mpr hport, if_neg hbracket]

theorem parseURL_plain {scheme auth : String} (hs : scheme = "http" ∨ scheme = "https")
    (hauth : Plain auth) {h p : List Char}
    (hsplit : Planner.splitHostPort auth.toList = some (h, p)) :
    parseURL (scheme ++ "://" ++ auth) = some ⟨scheme, String.ofList h, String.ofList p⟩ := by
  have hrev : ∀ c ∈ auth.toList.reverse, plainChar c = true :=
    fun c hc => hauth c (List.mem_reverse.mp hc)
  have htake : ∀ x, plainChar x = false → ∀ cs : List Char, (∀ c ∈ cs, plainChar c = true) →
      cs.takeWhile (fun c => !decide (c = x)) = cs := by
    intro x hx cs hcs
    refine List.takeWhile_eq_self_iff.mpr fun c hc => ?_
    simpa using ne_of_plain hcs hx c hc
  have hprint : ∀ c ∈ auth.toList, ' ' < c ∧ ¬c = '\x7f' :=
    fun c hc => ⟨lt_of_plain (hauth c hc), ne_of_plain hauth rfl c hc⟩
  unfold parseURL
  rcases hs with rfl | rfl
  all_goals
    simp [splitScheme, htake '#' rfl _ hauth, htake '?' rfl _ hauth, htake '/' rfl _ hauth,
      htake '@' rfl _ hrev]
    exact ⟨hprint, h, p, hsplit, rfl, rfl⟩

theorem parseURL_endpoint {scheme ip : String} (hs : scheme = "http" ∨ scheme = "https")
    (hip : Plain ip) (port : Nat) :
    parseURL (scheme ++ "://" ++ endpointKey ip port) = some ⟨scheme, ip, port.repr⟩ := by
  have hkey : (endpointKey ip port).toList = ip.toList ++ ':' :: port.repr.toList := by
    rw [endpointKey, String.toList_append, String.toList_append, List.append_assoc]
    rfl
  have hplain : Plain (endpointKey ip port) := by
    unfold Plain
    rw [hkey, List.forall_mem_append, List.forall_mem_cons]
    exact ⟨hip, rfl, fun c hc => plainChar_of_isDigit (isDigit_of_mem_repr hc)⟩
  have hsplit := splitHostPort_endpoint hip fun c hc => isDigit_of_mem_repr (n := port) hc
  rw [← hkey] at hsplit
  rw [parseURL_plain hs hplain hsplit, String.ofList_toList, String.ofList_toList]

/-- The scheme `urlFor` gives a port. -/
def portScheme (port : Int) : String := if port = 443 ∨ port = 8443 then "https" else "http"

theorem portScheme_cases (port : Int) : portScheme port = "http" ∨ portScheme port = "https" := by
  unfold portScheme
  split
  · exact .inr rfl
  · exact .inl rfl

theorem parseURL_urlFor {o : Observation} (hip : Plain o.ip) (hport : 0 ≤ o.port)
    (hurl : urlFor o = portScheme o.port ++ "://" ++ endpointKey o.ip o.port) :
    parseURL (urlFor o) = some ⟨portScheme o.port, o.ip, o.port.toNat.repr⟩ := by
  rw [hurl, ← parseURL_endpoint (portScheme_cases o.port) hip, Int.toNat_of_nonneg hport]

theorem number_repr (n : Nat) : number 10 n.repr.toList = some n := by
  have hdigit : ∀ d < 10, digit 10 (Nat.digitChar d) = some d := by decide
  have hall : ∃ ds, (Nat.toDigits 10 n).mapM (digit 10) = some ds ∧
      ds.foldl (fun acc d => acc * 10 + d) 0 = n := by
    induction n using Nat.strongRecOn with
    | ind n ih =>
      by_cases hlt : n < 10
      · exact ⟨[n], by simp [Nat.toDigits_of_lt_base hlt, hdigit n hlt], by simp⟩
      · obtain ⟨ds, hds, hvalue⟩ := ih (n / 10) (by omega)
        refine ⟨ds ++ [n % 10], ?_, ?_⟩
        · rw [Nat.toDigits_of_base_le (by decide) (by omega), List.mapM_append, hds]
          simp [hdigit _ (Nat.mod_lt n (by decide))]
        · rw [List.foldl_append, hvalue]
          simp only [List.foldl_cons, List.foldl_nil]
          omega
  obtain ⟨ds, hds, hvalue⟩ := hall
  have hne : n.repr.toList ≠ [] := by simp
  rw [number, if_neg hne]
  simp [Nat.repr, hds, hvalue]

theorem signed_repr (n : Nat) : signed n.repr = some (n : Int) := by
  have hdigits : ∀ c ∈ n.repr.toList, c.isDigit = true := fun c => isDigit_of_mem_repr
  unfold signed
  split
  · rename_i hs
    exact absurd (hdigits '-' (hs ▸ List.mem_cons_self)) (by decide)
  · rename_i hs
    exact absurd (hdigits '+' (hs ▸ List.mem_cons_self)) (by decide)
  · rw [number_repr]
    rfl

/-- **The URL that is stored for an endpoint is read back as it, by the planner and by the
worker.** -/
theorem endpoint_read_back {o : Observation} (hip : Plain o.ip) (hne : o.ip ≠ "")
    (hport : 1 ≤ o.port) (hint : o.port < 2 ^ 63) (fallbackPort : Int) :
    Planner.ipPortFromURL (urlFor o) = (o.ip, o.port) ∧
      ipPortFromURL (urlFor o) fallbackPort = (o.ip, o.port) := by
  have hurl : urlFor o = portScheme o.port ++ "://" ++ endpointKey o.ip o.port :=
    if_neg (by simpa [hne] using by omega)
  have hback : (o.port.toNat : Int) = o.port := Int.toNat_of_nonneg (by omega)
  obtain ⟨hatoi, hvalue⟩ := atoi_of_signed (signed_repr o.port.toNat) (by omega) (by omega)
  simp [Planner.ipPortFromURL, ipPortFromURL, parseURL_urlFor hip (by omega) hurl, hatoi, hvalue,
    hback]

theorem endpoint_read_back_v6 :
    (Plain "2001:db8::1" ∧ "2001:db8::1" ≠ "" ∧ (1 : Int) ≤ 8443 ∧ (8443 : Int) < 2 ^ 63) ∧
      Planner.ipPortFromURL "https://2001:db8::1:8443" = ("2001:db8::1", 8443) := by
  suffices h : _ ∧ _ from ⟨h, (endpoint_read_back
    (o := { type := .http, ip := "2001:db8::1", port := 8443 }) h.1 h.2.1 h.2.2.1 h.2.2.2 0).1⟩
  decide +kernel

/-- What is planned for an endpoint asks over the scheme of its port, on the endpoint or on a
name. -/
theorem mem_plannedTargets {o : Observation} (hip : Plain o.ip) (hport : 0 ≤ o.port)
    (hurl : urlFor o ≠ "") {names : List String} {maxNames : Nat} {t : Target}
    (ht : t ∈ plannedTargets o names maxNames) :
    t = { url := portScheme o.port ++ "://" ++ endpointKey o.ip o.port, ip := o.ip
          port := (Planner.ipPortFromURL (urlFor o)).2 } ∨
      ∃ n ∈ names, t = nameTarget (portScheme o.port) o.ip
        (Planner.ipPortFromURL (urlFor o)).2 n := by
  have hlive : urlFor o = portScheme o.port ++ "://" ++ endpointKey o.ip o.port :=
    if_neg fun h => hurl (if_pos h)
  have hparse := parseURL_urlFor hip hport hlive
  have hscheme : portScheme o.port ≠ "" := by
    rcases portScheme_cases o.port with h | h <;> rw [h] <;> decide
  have hback : (Planner.ipPortFromURL (urlFor o)).1 = o.ip := by
    rw [Planner.ipPortFromURL, hparse]
  unfold plannedTargets webTargets at ht
  split at ht
  · left
    rw [List.mem_singleton.mp ht, hback, hlive]
  · right
    simp only [hparse, if_pos hscheme, hback] at ht
    obtain ⟨n, hn, rfl⟩ := List.mem_map.mp ht
    refine ⟨n, ?_, rfl⟩
    split at hn
    · exact List.mem_of_mem_take hn
    · exact hn

/-! ### The scheme -/

/-- **The condition**: nothing is recorded, the port has a scheme of its own, or nothing answers
over `https`. -/
def SchemeOfPort (get : String → Option WebResponse) : Prop :=
  (targetIPPort job).1 = "" ∨
  (targetIPPort job).2 ∈ ([0, 443, 8443, 80, 8080, 8000, 8888] : List Int) ∨
    get (probeURL job "https") = none
deriving Decidable

variable {job} {get : String → Option WebResponse}

/-- The observation of a web server is one of the endpoint that was asked. -/
theorem mem_serviceProbe {o : Observation} (ho : o ∈ serviceProbe job get)
    (htype : o.type = .http) :
    o.ip = (targetIPPort job).1 ∧ o.port = (targetIPPort job).2 ∧ o.ip ≠ "" := by
  unfold serviceProbe at ho
  dsimp only at ho
  split at ho
  next => cases ho
  next hip =>
    split at ho
    next => cases ho
    next scheme r _ =>
      simp only [List.cons_append, List.mem_cons, List.mem_append, List.mem_map] at ho
      rcases ho with rfl | ⟨hint, -, rfl⟩ | ho
      · exact ⟨rfl, rfl, hip⟩
      · cases htype
      · split at ho
        · obtain ⟨c, -, rfl⟩ := List.mem_map.mp ho
          cases htype
        · cases ho

theorem exists_http {scheme : String} {r : WebResponse} (h : firstAnswer job get = some (scheme, r))
    (hip : (targetIPPort job).1 ≠ "") : ∃ o ∈ serviceProbe job get,
      o.type = .http ∧ o.ip = (targetIPPort job).1 ∧ o.port = (targetIPPort job).2 := by
  unfold serviceProbe
  simp only [if_neg hip, h]
  exact ⟨_, List.mem_cons_self, rfl, rfl, rfl⟩

theorem scheme_of_firstAnswer {scheme : String} {r : WebResponse} (hcond : SchemeOfPort job get)
    (hip : (targetIPPort job).1 ≠ "") (hport : (targetIPPort job).2 ≠ 0)
    (h : firstAnswer job get = some (scheme, r)) : scheme = portScheme (targetIPPort job).2 := by
  unfold firstAnswer schemesFor at h
  unfold portScheme
  split at h
  next hsecure =>
    rw [if_pos hsecure]
    simp at h
    exact h.2.symm
  next hsecure =>
    rw [if_neg hsecure]
    split at h
    next =>
      simp at h
      exact h.2.symm
    next hplain =>
      have hnone : get (probeURL job "https") = none := by
        simp only [SchemeOfPort, List.mem_cons, List.not_mem_nil, or_false] at hcond
        tauto
      simp [hnone] at h
      exact h.2.symm

variable (job get)

/-- **The scheme that answered is the one of the tasks exactly under the condition**, for every
server and every port. -/
theorem scheme_kept_iff (hip : Plain (targetIPPort job).1) (hport : 0 ≤ (targetIPPort job).2) :
    KeepsScheme job get ↔ SchemeOfPort job get := by
  constructor
  · intro h
    by_contra hcond
    simp only [SchemeOfPort, List.mem_cons, List.not_mem_nil, or_false, not_or] at hcond
    obtain ⟨hne, ⟨h0, h443, h8443, h80, h8080, h8000, h8888⟩, hget⟩ := hcond
    -- the page answered over https on a port that `urlFor` writes as http
    obtain ⟨r, hr⟩ := Option.ne_none_iff_exists'.mp hget
    have hanswer : firstAnswer job get = some ("https", r) := by
      simp [firstAnswer, schemesFor, h443, h8443, h80, h8080, h8000, h8888, hr]
    obtain ⟨o, ho, htype, hoip, hoport⟩ := exists_http hanswer hne
    have hlive : urlFor o = "http://" ++ endpointKey o.ip o.port := by
      simp [urlFor, hoip, hoport, hne, h0, h443, h8443]
    have hurl : urlFor o ≠ "" := by simp [hlive]
    obtain ⟨rest, hrest⟩ := h "https" r hanswer o ho htype hurl [] 0 (false, false) 0
      (spec .techDetect { url := urlFor o, ip := _, port := _ } 300 0) List.mem_cons_self
    have hchars := congrArg String.toList (hlive.symm.trans hrest)
    simp at hchars
  · intro hcond scheme r hanswer o ho htype hurl names maxNames stages origin sp hsp
    obtain ⟨hoip, hoport, hne⟩ := mem_serviceProbe ho htype
    obtain ⟨t, ht, hspec⟩ := List.mem_flatMap.mp hsp
    rw [(mem_webSpecs hspec).1]
    have hne0 : o.port ≠ 0 := fun h => hurl (if_pos (.inr h))
    rw [scheme_of_firstAnswer hcond (hoip ▸ hne) (hoport ▸ hne0) hanswer, ← hoport]
    rcases mem_plannedTargets (hoip ▸ hip) (hoport ▸ hport) hurl ht with rfl | ⟨n, -, rfl⟩
    · exact ⟨_, rfl⟩
    · exact ⟨_, rfl⟩

/-- A job of a stage on one target. -/
def jobOn (stage : Stage) (t : Target) : SentJob :=
  { taskID := 1, runID := 1, leaseToken := 1, stage, targets := [t], ingestURL := "", tool := [] }

/-- A server that answers one URL. -/
def serving (url u : String) : Option WebResponse :=
  if u = url then some { status := 200 } else none

theorem scheme_kept_on_80 :
    KeepsScheme (jobOn .serviceProbe { ip := "192.0.2.1", port := 80 })
      (serving "http://192.0.2.1") :=
  (scheme_kept_iff _ _ (by decide) (by decide)).mpr (by decide)

/-- The defect: what answers over `https` on another port is asked over `http` from then on. -/
theorem https_planned_as_http :
    (serviceProbe (jobOn .serviceProbe { ip := "192.0.2.1", port := 8081 })
        (serving "https://192.0.2.1:8081")).flatMap (plannedTargets · [] 20) =
      [{ url := "http://192.0.2.1:8081", ip := "192.0.2.1", port := 8081 }] := by
  decide +kernel

/-! ### The screenshot -/

/-- The bytes of a text. -/
def bytes (s : String) : List UInt8 := s.toUTF8.data.toList

/-- What `sanitizeKey` puts for a byte: `_` for `/ : ? & =` and a space. -/
def mask (b : UInt8) : UInt8 := if b ∈ [0x2f, 0x3a, 0x3f, 0x26, 0x3d, 0x20] then 0x5f else b

/-- The replacements of `sanitizeKey`; `://` comes before its characters. -/
def sanitize : List UInt8 → List UInt8
  | [] => []
  | 0x3a :: 0x2f :: 0x2f :: bs => 0x5f :: sanitize bs
  | b :: bs => mask b :: sanitize bs

/-- `sanitizeKey`. The cut counts bytes. -/
def sanitizeKey (u : String) : List UInt8 := (sanitize (bytes u)).take 120

def targetURL : String :=
  let (ip, port) := targetIPPort job
  let url := (job.targets.head?.map (·.url)).getD ""
  if url ≠ "" then url
  else if ip = "" ∨ port = 0 then ""
  else ((schemesFor port).headD "") ++ "://" ++ ip ++ portSuffix ((schemesFor port).headD "") port

/-- The key `screenshot` stores the image of a job under. -/
def screenshotKey : List UInt8 :=
  bytes ("screenshots/" ++ toString job.runID ++ "/") ++ sanitizeKey (targetURL job) ++ bytes ".png"

/-- The bytes that all look alike in a key: what is replaced, and `_` itself. -/
def separator (b : UInt8) : Bool := b ∈ [0x2f, 0x3a, 0x3f, 0x26, 0x3d, 0x20, 0x5f]

/-- A URL with `://` as one separator. -/
def squeeze : List UInt8 → List UInt8
  | [] => []
  | 0x3a :: 0x2f :: 0x2f :: bs => 0x3a :: squeeze bs
  | b :: bs => b :: squeeze bs

/-- **Two URLs that a key does not tell apart**: with `://` as one separator, the first 120 bytes of
one are those of the other, or separators where those are. -/
def Alike (u u' : String) : Prop :=
  List.Forall₂ (fun b b' => b = b' ∨ separator b = true ∧ separator b' = true)
    ((squeeze (bytes u)).take 120) ((squeeze (bytes u')).take 120)
deriving Decidable

theorem mask_eq_iff (b b' : UInt8) :
    mask b = mask b' ↔ b = b' ∨ separator b = true ∧ separator b' = true := by
  have hmask : ∀ b, mask b = if separator b then 0x5f else b := by
    intro b
    simp only [mask, separator, List.mem_cons, List.not_mem_nil, or_false, decide_eq_true_eq]
    by_cases hb : b = 0x5f
    · simp [hb]
    · simp [hb]
  have hne : ∀ b b', separator b = false → separator b' = true → b ≠ b' := by
    rintro b _ hb hb' rfl
    exact absurd (hb.symm.trans hb') (by decide)
  rw [hmask, hmask]
  cases hs : separator b <;> cases hs' : separator b'
  · simp
  · simp [hne b b' hs hs', hne b 0x5f hs rfl]
  · simp [(hne b' b hs' hs).symm, (hne b' 0x5f hs' rfl).symm]
  · simp

theorem sanitize_eq (bs : List UInt8) : sanitize bs = (squeeze bs).map mask := by
  fun_induction squeeze bs with
  | case1 => rfl
  | case2 bs ih => rw [sanitize, ih, List.map_cons]; rfl
  | case3 b bs hne ih => rw [sanitize.eq_3 b bs hne, ih, List.map_cons]

theorem sanitizeKey_eq_iff (u u' : String) : sanitizeKey u = sanitizeKey u' ↔ Alike u u' := by
  rw [sanitizeKey, sanitizeKey, sanitize_eq, sanitize_eq, ← List.map_take, ← List.map_take, Alike,
    ← List.forall₂_eq_eq_eq, List.forall₂_map_left_iff, List.forall₂_map_right_iff]
  simp only [mask_eq_iff]

/-- **Two screenshots of a run are kept apart exactly if the URLs of their targets are not alike**;
address, port and name do not matter. -/
theorem screenshots_apart_iff (job job' : SentJob) (hrun : job.runID = job'.runID) {t t' : Target}
    (ht : job.targets = [t]) (ht' : job'.targets = [t']) (hurl : t.url ≠ "") (hurl' : t'.url ≠ "") :
    screenshotKey job ≠ screenshotKey job' ↔ ¬ Alike t.url t'.url := by
  have htarget : ∀ {job : SentJob} {t : Target}, job.targets = [t] → t.url ≠ "" →
      targetURL job = t.url := by
    intro job t ht hurl
    simp [targetURL, ht, hurl]
  rw [screenshotKey, screenshotKey, hrun, htarget ht hurl, htarget ht' hurl', ne_eq,
    List.append_left_inj, List.append_right_inj, sanitizeKey_eq_iff]

/-- A job for the screenshot of a name on an address. -/
def shot (scheme name ip : String) (port : Int) : SentJob :=
  jobOn .screenshot (nameTarget scheme ip port name)

theorem screenshots_of_two_names :
    screenshotKey (shot "https" "foo_bar.example" "192.0.2.1" 443) ≠
      screenshotKey (shot "https" "baz.example" "192.0.2.1" 443) :=
  (screenshots_apart_iff (shot "https" "foo_bar.example" "192.0.2.1" 443)
    (shot "https" "baz.example" "192.0.2.1" 443) rfl rfl rfl (by decide +kernel)
    (by decide +kernel)).mpr (by decide +kernel)

/-- The defect: a name on two addresses is two targets with one key; and so are two names of which
one ends in the port of the other. -/
theorem screenshots_of_one_name :
    plannedTargets { type := .http, ip := "192.0.2.1", port := 443 } ["a.example"] 20 =
        (shot "https" "a.example" "192.0.2.1" 443).targets ∧
      plannedTargets { type := .http, ip := "192.0.2.2", port := 443 } ["a.example"] 20 =
        (shot "https" "a.example" "192.0.2.2" 443).targets ∧
      screenshotKey (shot "https" "a.example" "192.0.2.1" 443) =
        screenshotKey (shot "https" "a.example" "192.0.2.2" 443) ∧
      screenshotKey (shot "http" "a_8081" "192.0.2.1" 80) =
        screenshotKey (shot "http" "a" "192.0.2.1" 8081) := by
  decide +kernel

end Scanner

end PinkGlasses
