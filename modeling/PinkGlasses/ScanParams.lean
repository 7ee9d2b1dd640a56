import PinkGlasses.Planner.Decide

/-!
# PinkGlasses.ScanParams

`internal/scanparams`: what a user may set, and the checks a value passes before it becomes an
argument of a process on a worker.
-/

namespace PinkGlasses.ScanParams

open Lib.Netip Planner

/-- `Kind`: how a value is checked. -/
inductive Kind
  | int | enum | ports | wordlist | bool | cdnPorts | csv | text | proxy
deriving Repr, DecidableEq

/-- `Spec`, without the texts shown to the user. -/
structure Spec where
  key : String
  kind : Kind
  min : Int := 0
  max : Int := 0
  enum : List String := []
  default : String
deriving Repr

/-! ### The shapes of values -/

/-- `\d{1,5}`. -/
def shortNumber (s : String) : Bool := s.length ≤ 5 && (number 10 s.toList).isSome

/-- `portListRe`: `^\d{1,5}(,\d{1,5})*$`. -/
def portListRe (v : String) : Bool := (splitComma v).all shortNumber

/-- `portRangeRe`: `^\d{1,5}-\d{1,5}$`, with its two numbers. -/
def portRangeRe (v : String) : Option (String × String) :=
  (cut '-' v).filter fun r => shortNumber r.1 && shortNumber r.2

/-- A letter or a digit, then at most `n` characters of a class. -/
def startsPlain (n : Nat) (p : Char → Bool) (v : String) : Bool :=
  match v.toList with
  | c :: cs => c.isAlphanum && decide (cs.length ≤ n) && cs.all p
  | [] => false

/-- `textRe`: `^[A-Za-z0-9][ -~]{0,255}$`. -/
def textRe : String → Bool := startsPlain 255 fun c => ' ' ≤ c && c ≤ '~'

/-- `csvRe`: `^[A-Za-z0-9][A-Za-z0-9,._-]{0,119}$`. -/
def csvRe : String → Bool := startsPlain 119 fun c => c.isAlphanum || ",._-".toList.contains c

/-- `ParseProxies`. -/
def parseProxies (v : String) : List String :=
  (v.toList.splitOnP "\n\r, \t".toList.contains |>.map fun p => trimSpace (String.ofList p)).filter
    (· ≠ "")

/-- The check of one entry in `validateProxies`. -/
def validateProxy (raw : String) : Except String Unit :=
  match parseURL raw with
  | none => throw (raw.quote ++ " is not a URL")
  | some u => do
    if u.scheme = "" then throw (raw.quote ++ " needs a scheme, e.g. socks5://" ++ raw)
    if u.scheme ∉ ["http", "https", "socks4", "socks5", "socks5h"] then
      throw (raw.quote ++ ": unsupported scheme " ++ u.scheme.quote ++
        " (use http, socks4 or socks5)")
    if u.hostname = "" then throw (raw.quote ++ " has no host")
    if u.port = "" then throw (raw.quote ++ " has no port")
    if raw.toList.any " \t\n\r\"'`$;|&<>".toList.contains then
      throw (raw.quote ++ " contains characters that are not allowed in a proxy URL")

def validateProxies (v : String) : Except String Unit :=
  if 64 < (parseProxies v).length then throw "at most 64 proxies"
  else (parseProxies v).forM validateProxy

/-- The presets of a port selection. -/
def portPresets : List String := ["top-100", "top-1000", "full"]

def validateOne (spec : Spec) (v : String) : Except String Unit :=
  match spec.kind with
  | .int => match atoi v with
    | none => throw "not an integer"
    | some n =>
      if n < spec.min ∨ spec.max < n then
        throw ("out of range [" ++ toString spec.min ++ "," ++ toString spec.max ++ "]")
      else pure ()
  | .bool => if v = "true" ∨ v = "false" then pure () else throw "must be true or false"
  | .enum | .wordlist =>
    if v ∈ spec.enum then pure ()
    else throw ("must be one of [" ++ " ".intercalate spec.enum ++ "]")
  | .text =>
    if v = "" ∨ textRe v then pure ()
    else throw "must be printable ASCII and may not start with '-'"
  | .proxy => validateProxies v
  | .csv =>
    if v = "" ∨ csvRe v then pure ()
    else throw "only letters, digits, dot, dash, underscore and commas; cannot start with '-'"
  | .ports =>
    if v ∈ portPresets ∨ (portRangeRe v).isSome ∨ portListRe v then
      pure () else throw "bad port spec"
  | .cdnPorts =>
    if v ∈ "all" :: "none" :: portPresets ∨ (portRangeRe v).isSome ∨ portListRe v then pure ()
    else throw "bad port spec: a port list like 80,443, \"all\" or \"none\""

/-! ### The parameters -/

def iPhoneUA : String := "Mozilla/5.0 (iPhone; CPU iPhone OS 17_5 like Mac OS X) " ++
  "AppleWebKit/605.1.15 (KHTML, like Gecko) Version/17.5 Mobile/15E148 Safari/604.1"

/-- A switch. -/
def Spec.bool (key default : String) : Spec := { key, kind := .bool, default }

/-- A number and its bounds. -/
def Spec.int (key : String) (min max : Int) (default : String) : Spec :=
  { key, kind := .int, min, max, default }

/-- `Specs`. -/
def specs : List Spec := [
  .bool "subfinder_enabled" "true", .bool "dnsx_enabled" "true", .bool "naabu_enabled" "true",
  .bool "nmap_enabled" "true", .bool "httpx_enabled" "true", .bool "katana_enabled" "true",
  .bool "gobuster_enabled" "true", .bool "nuclei_enabled" "true",
  .int "subfinder_max_time" 1 30 "3", .bool "subfinder_all" "false", .bool "dns_bruteforce" "true",
  .int "shuffledns_threads" 1 5000 "300", .bool "shuffledns_check_resolvers" "true",
  .int "shuffledns_resolvers_max" 10 20000 "500", .int "dnsx_threads" 1 500 "100",
  .int "dnsx_rate_limit" 0 10000 "0", .int "dnsx_retries" 1 5 "2",
  { key := "cdn_ports", kind := .cdnPorts, default := "80,443" },
  { key := "ports", kind := .ports, default := "top-100" }, .int "naabu_rate" 1 20000 "20",
  .int "naabu_concurrency" 1 1000 "4", .int "naabu_timeout_ms" 100 10000 "1000",
  .int "naabu_retries" 1 5 "1", .int "nmap_min_rate" 100 50000 "10000",
  { key := "nmap_timing", kind := .enum, enum := ["T0", "T1", "T2", "T3", "T4", "T5"],
    default := "T4" },
  .int "nmap_version_intensity" 0 9 "7", .int "nmap_max_retries" 0 10 "3",
  .int "httpx_delay_s" 0 10 "1", .int "httpx_timeout_s" 1 120 "10", .int "httpx_threads" 1 200 "50",
  .int "httpx_retries" 0 5 "1", { key := "httpx_user_agent", kind := .text, default := iPhoneUA },
  { key := "httpx_proxy", kind := .proxy, default := "" }, .bool "httpx_follow_redirects" "true",
  .bool "product_fingerprint" "true", .int "web_vhosts_per_address" 1 200 "20",
  .int "katana_depth" 1 10 "3", .int "katana_rate_limit" 1 200 "10",
  .int "katana_concurrency" 1 50 "3", .bool "katana_js_crawl" "false",
  .int "katana_max_urls" 100 20000 "2000",
  { key := "dir_wordlist", kind := .wordlist, enum := ["common", "dns"], default := "common" },
  .int "dir_concurrency" 1 30 "10", .int "dir_exclude_length" 0 1000000 "0",
  { key := "dir_extensions", kind := .csv, default := "" },
  { key := "dir_status_codes", kind := .csv, default := "" },
  { key := "nuclei_severity", kind := .enum,
    enum := ["all", "info", "low", "medium", "high", "critical"], default := "low" },
  .int "nuclei_rate_limit" 1 500 "150", .int "nuclei_concurrency" 1 100 "25",
  .int "nuclei_timeout_s" 1 60 "10"]

def specByKey (k : String) : Option Spec := specs.find? (·.key == k)

/-- `retired`: what a parameter that has been replaced stands for, if anything. -/
def retired (k v : String) : Option (String × String) :=
  if k = "skip_cdn_addresses" then
    if trimSpace v = "false" then some ("cdn_ports", "all") else none
  else some (k, v)

/-- The check of a value under its own key. -/
def check (k v : String) : Except String (Option (String × String)) :=
  match specByKey k with
  | none => throw ("unknown parameter " ++ k.quote)
  | some spec => match validateOne spec (trimSpace v) with
    | .error e => throw (k ++ ": " ++ e)
    | .ok _ => pure (some (k, trimSpace v))

/-- One round of the loop of `Validate`: what it sets, if it does not go on. -/
def validateEntry (inp : List (String × String)) (k v : String) :
    Except String (Option (String × String)) :=
  if (specByKey k).isSome then check k v
  else match retired k v with
    | none => pure none
    | some (nk, nv) =>
      if nk = k then check k v
      -- an explicit value wins over a translated one
      else if (inp.lookup nk).isSome then pure none
      else check nk nv

/-- The loop of `Validate`. -/
def validateAll (inp : List (String × String)) :
    List (String × String) → Except String (List (String × String))
  | [] => pure []
  | (k, v) :: rest => do
    let set ← validateEntry inp k v
    let out ← validateAll inp rest
    pure (set.toList ++ out)

/-- `Validate`, on a map in the order it is gone through. -/
def validate (inp : List (String × String)) : Except String (List (String × String)) :=
  validateAll inp inp

/-- A parameter that was checked. -/
def Checked (p : String × String) : Prop :=
  ∃ spec, specByKey p.1 = some spec ∧ validateOne spec p.2 = .ok ()

theorem checked_of_check {k v : String} {p : String × String} (h : check k v = .ok (some p)) :
    Checked p := by
  unfold check at h
  split at h
  · cases h
  · rename_i spec hspec
    split at h
    · cases h
    · rename_i hone
      cases h
      exact ⟨spec, hspec, hone⟩

theorem checked_of_validateEntry {inp : List (String × String)} {k v : String} {p : String × String}
    (h : validateEntry inp k v = .ok (some p)) : Checked p := by
  unfold validateEntry at h
  repeat' split at h
  all_goals first
    | exact checked_of_check h
    | cases h

theorem forall_mem_validate {inp out : List (String × String)} {Q : String × String → Prop}
    (hentry : ∀ e ∈ inp, ∀ p, validateEntry inp e.1 e.2 = .ok (some p) → Q p)
    (h : validate inp = .ok out) : ∀ p ∈ out, Q p := by
  have hall : ∀ {rest out}, rest ⊆ inp → validateAll inp rest = .ok out → ∀ p ∈ out, Q p := by
    intro rest
    induction rest with
    | nil =>
      intro out _ h p hp
      cases h
      cases hp
    | cons e rest ih =>
      intro out hsub h p hp
      obtain ⟨he, hsub⟩ := List.cons_subset.mp hsub
      cases hset : validateEntry inp e.1 e.2 with
      | error e' =>
        rw [validateAll, hset] at h
        cases h
      | ok set =>
        cases hrest : validateAll inp rest with
        | error e' =>
          rw [validateAll, hset, hrest] at h
          cases h
        | ok out' =>
          rw [validateAll, hset, hrest] at h
          cases h
          rcases List.mem_append.mp hp with hp | hp
          -- the entry's own setting, or one of the rest
          · rw [Option.mem_toList.mp hp] at hset
            exact hentry e he p hset
          · exact ih hsub hrest p hp
  exact hall (List.Subset.refl inp) h

theorem checked_of_validate {inp out : List (String × String)} (h : validate inp = .ok out) :
    ∀ p ∈ out, Checked p :=
  forall_mem_validate (fun _ _ _ => checked_of_validateEntry) h

/-- No value gets longer, and what stands for a retired parameter is short. -/
theorem length_le_of_validate {inp out : List (String × String)} (h : validate inp = .ok out)
    {n : Nat} (hn : 3 ≤ n) (hinp : ∀ p ∈ inp, p.2.length ≤ n) : ∀ p ∈ out, p.2.length ≤ n := by
  have hcheck : ∀ {k v p}, v.length ≤ n → check k v = .ok (some p) → p.2.length ≤ n := by
    intro k v p hv h
    unfold check at h
    split at h
    · cases h
    · split at h
      · cases h
      · cases h
        exact (length_trimSpace_le v).trans hv
  refine forall_mem_validate (fun e he p hp => ?_) h
  have hv := hinp e he
  unfold validateEntry at hp
  split at hp
  · exact hcheck hv hp
  · split at hp
    · cases hp
    · rename_i nk nv hretired
      split at hp
      · exact hcheck hv hp
      · split at hp
        · cases hp
        -- a retired name stands for a new one, and its value for itself or for a short word
        · refine hcheck ?_ hp
          unfold retired at hretired
          split at hretired
          · split at hretired
            · cases hretired
              exact hn
            · cases hretired
          · cases hretired
            exact hv

end PinkGlasses.ScanParams
