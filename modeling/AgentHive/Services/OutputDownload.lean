import AgentHive.Process.Fallible
import AgentHive.Services.MediaOutputArchive

/-!
The download of an output from the URL that its provider has given.

Redirects are not left to the client. Each location is joined to the URL it came from and
checked before it is asked for, and so many are followed at most.
-/

namespace AgentHive.OutputDownload

open Process
open PolicyValidation (strip)
open Process.Action (ofExcept wp_bind wp_iff_runs wp_ite wp_mono wp_ofExcept wp_perform)

structure IpAddress where
  isPrivate : Bool
  isLoopback : Bool
  isLinkLocal : Bool
  isMulticast : Bool
  isReserved : Bool
  isUnspecified : Bool
deriving DecidableEq

def IpAddress.isPublic (address : IpAddress) : Bool :=
  !(address.isPrivate || address.isLoopback || address.isLinkLocal || address.isMulticast ||
    address.isReserved || address.isUnspecified)

structure ParsedUrl where
  scheme : String
  hostname : Option String
  port : Except String (Option Nat)

structure UrlLibrary where
  urlparse : String → Except String ParsedUrl
  urljoin : String → String → Except String String
  ipAddress : String → Option IpAddress
  lower : String → String

/-- A `MediaOutputArchiveError`, an `httpx.HTTPError`, or another exception. -/
inductive DownloadError
  | archive (text : String)
  | http (className : String)
  | raised (text : String)
deriving DecidableEq

structure HttpResponse where
  isRedirect : Bool
  location : Option String
  /-- The error that `raise_for_status` raises. -/
  statusError : Option String
  content : List UInt8
  contentType : Option String

inductive DownloadCall
  | openClient
  | resolve (host : String) (port : Nat)
  | get (url : String)

abbrev DownloadAnswer : DownloadCall → Type
  | .openClient => Except DownloadError Unit
  | .resolve _ _ => Except DownloadError (List String)
  | .get _ => Except DownloadError HttpResponse

abbrev Download (α : Type) : Type := Action DownloadCall DownloadAnswer Unit DownloadError α

abbrev DownloadTrace : Type := List (Event DownloadCall DownloadAnswer)

def maxMediaOutputRedirects : Nat := 5

variable (lib : UrlLibrary)

def rstripDots (text : String) : String :=
  String.ofList (text.toList.reverse.dropWhile (· == '.')).reverse

def assertPublicOutputAddress (address : String) : Except DownloadError Unit :=
  match lib.ipAddress address with
  | none => .error (.archive "Media output URL resolved to an invalid address.")
  | some parsed =>
    if parsed.isPublic then .ok ()
    else .error (.archive "Media output URL resolved to a non-public address.")

def assertPublicOutputAddresses : List String → Except DownloadError Unit
  | [] => .ok ()
  | address :: rest => do
    assertPublicOutputAddress lib address
    assertPublicOutputAddresses rest

def hostOf (url : String) : Except DownloadError (ParsedUrl × String) :=
  match lib.urlparse url with
  | .error text => .error (.raised text)
  | .ok parsed =>
    if parsed.scheme ≠ "http" ∧ parsed.scheme ≠ "https" then
      .error (.archive "Media output URL scheme is not allowed.")
    else
      let host := rstripDots (strip (parsed.hostname.getD ""))
      if host = "" then .error (.archive "Media output URL host is missing.")
      else if lib.lower host = "localhost" then
        .error (.archive "Media output URL host is not allowed.")
      else .ok (parsed, host)

def portOf (parsed : ParsedUrl) : Except DownloadError Nat :=
  match parsed.port with
  | .error text => .error (.raised text)
  | .ok port =>
    let standard := if parsed.scheme = "https" then 443 else 80
    .ok (match port with
      | none | some 0 => standard
      | some port => port)

def resolveHost (host : String) (port : Nat) : Download (List String) := do
  let answer : Except DownloadError (List String) ← Action.perform (DownloadCall.resolve host port)
  ofExcept answer

def assertOutputUrlAllowed (url : String) : Download Unit := do
  let found ← ofExcept (hostOf lib url)
  if (lib.ipAddress found.2).isSome then
    ofExcept (assertPublicOutputAddress lib found.2)
  else do
    let port ← ofExcept (portOf found.1)
    let addresses ← resolveHost found.2 port
    if addresses = [] then
      Action.throw (.archive "Media output URL host could not be resolved.")
    else ofExcept (assertPublicOutputAddresses lib addresses)

def getUrl (url : String) : Download HttpResponse := do
  let answer : Except DownloadError HttpResponse ← Action.perform (DownloadCall.get url)
  ofExcept answer

def followRedirects : Nat → String → Download HttpResponse
  | 0, _ => Action.throw (.archive "Media output URL exceeded redirect limit.")
  | left + 1, currentUrl => do
    let response ← getUrl currentUrl
    if response.isRedirect then
      match response.location.filter (· ≠ "") with
      | none => Action.throw (.archive "Media output redirect is missing a Location header.")
      | some location => do
        let nextUrl ← ofExcept ((lib.urljoin currentUrl location).mapError .raised)
        assertOutputUrlAllowed lib nextUrl
        followRedirects left nextUrl
    else pure response

def openClient : Download Unit := do
  let answer : Except DownloadError Unit ← Action.perform DownloadCall.openClient
  ofExcept answer

def fetchOutput (url : String) : Download HttpResponse := do
  assertOutputUrlAllowed lib url
  openClient
  let response ← followRedirects lib (maxMediaOutputRedirects + 1) url
  match response.statusError with
  | some className => Action.throw (.http className)
  | none => pure response

def downloadOutput (maxBytes : Nat) (url : String) : Download (List UInt8 × Option String) := do
  let response ← Action.tryCatch (fetchOutput lib url) fun x =>
    match x with
    | .http className =>
      Action.throw (.archive ("Media output download failed: " ++ className ++ "."))
    | x => Action.throw x
  if response.content.length > maxBytes then
    Action.throw (.archive "Media output exceeds configured download size limit.")
  else pure (response.content, response.contentType)

def PublicAddress (address : String) : Prop :=
  ∃ parsed, lib.ipAddress address = some parsed ∧ parsed.isPublic = true

inductive Allowed (url : String) : DownloadTrace → Prop
  | address {parsed : ParsedUrl} {host : String} (found : hostOf lib url = .ok (parsed, host))
      (isPublic : PublicAddress lib host) : Allowed url []
  | resolved {parsed : ParsedUrl} {host : String} {port : Nat} {addresses : List String}
      (found : hostOf lib url = .ok (parsed, host)) (name : lib.ipAddress host = none)
      (known : portOf parsed = .ok port) (some : addresses ≠ [])
      (isPublic : ∀ address ∈ addresses, PublicAddress lib address) :
      Allowed url [⟨.resolve host port, .ok addresses⟩]

variable {lib}

theorem assertPublicOutputAddress_ok {address : String} :
    assertPublicOutputAddress lib address = .ok () ↔ PublicAddress lib address := by
  unfold assertPublicOutputAddress PublicAddress
  cases lib.ipAddress address with
  | none => simp
  | some parsed => simp

theorem assertPublicOutputAddresses_ok {addresses : List String} :
    assertPublicOutputAddresses lib addresses = .ok () ↔
      ∀ address ∈ addresses, PublicAddress lib address := by
  induction addresses with
  | nil => simp [assertPublicOutputAddresses]
  | cons address rest ih =>
    rw [assertPublicOutputAddresses, List.forall_mem_cons, Fallible.bind_ok, ← ih,
      ← assertPublicOutputAddress_ok]
    constructor
    · intro ⟨_, first, later⟩
      exact ⟨first, later⟩
    · intro ⟨first, later⟩
      exact ⟨(), first, later⟩

def isGet : DownloadCall → Bool
  | .get _ => true
  | _ => false

structure Checked (lib : UrlLibrary) (url : String) (t : DownloadTrace)
    (r : Except DownloadError Unit) : Prop where
  quiet : ∀ e ∈ t, isGet e.1 = false
  short : t.length ≤ 1
  passed : r = .ok () → Allowed lib url t

theorem assertOutputUrlAllowed_checked (url : String) :
    (assertOutputUrlAllowed lib url).wp () fun t r _ => Checked lib url t r := by
  unfold assertOutputUrlAllowed
  simp only [wp_bind, wp_ofExcept]
  cases found : hostOf lib url with
  | error x => exact ⟨by simp, Nat.zero_le _, fun passed => by cases passed⟩
  | ok found' =>
    obtain ⟨parsed, host⟩ := found'
    simp only [wp_ite, wp_ofExcept, List.nil_append]
    split
    · refine ⟨by simp, Nat.zero_le _, fun passed => ?_⟩
      exact .address found (assertPublicOutputAddress_ok.mp passed)
    · rename_i name
      have isName : lib.ipAddress host = none := by simpa using name
      simp only [wp_bind, wp_ofExcept]
      cases known : portOf parsed with
      | error x => exact ⟨by simp, Nat.zero_le _, fun passed => by cases passed⟩
      | ok port =>
        simp only [resolveHost, wp_bind, wp_perform, wp_ofExcept,
          wp_ite, Action.wp_throw]
        intro answer
        cases answer with
        | error x => exact ⟨by simp [isGet], by simp, fun passed => by cases passed⟩
        | ok addresses =>
          change if addresses = [] then _ else _
          split
          · exact ⟨by simp [isGet], by simp, fun passed => by cases passed⟩
          · rename_i some
            refine ⟨by simp [isGet], by simp, fun passed => ?_⟩
            exact .resolved found isName known some
              (assertPublicOutputAddresses_ok.mp passed)

abbrev Checks (lib : UrlLibrary) (url : String) (t : DownloadTrace)
    (r : Except DownloadError Unit) : Prop :=
  Program.Runs (assertOutputUrlAllowed lib url ()) t (r, ())

variable {url : String} {t : DownloadTrace}

theorem Checks.checked {r : Except DownloadError Unit} (checks : Checks lib url t r) :
    Checked lib url t r :=
  (wp_iff_runs _ _ _).mp (assertOutputUrlAllowed_checked url) t _ checks

theorem assertOutputUrlAllowed_checks (url : String) :
    (assertOutputUrlAllowed lib url).wp () fun t r _ => Checks lib url t r :=
  (wp_iff_runs _ _ _).mpr fun _ _ run => run

inductive Hops (lib : UrlLibrary) : Nat → String → DownloadTrace → Prop
  | none (left : Nat) (url : String) : Hops lib left url []
  | last (left : Nat) (url : String) (answer : Except DownloadError HttpResponse) :
      Hops lib (left + 1) url [⟨.get url, answer⟩]
  | refused {left : Nat} {url next : String} {check : DownloadTrace} {x : DownloadError}
      (answer : Except DownloadError HttpResponse) (checks : Checks lib next check (.error x)) :
      Hops lib (left + 1) url (⟨.get url, answer⟩ :: check)
  | hop {left : Nat} {url next : String} {check rest : DownloadTrace}
      (answer : Except DownloadError HttpResponse) (checks : Checks lib next check (.ok ()))
      (later : Hops lib left next rest) :
      Hops lib (left + 1) url (⟨.get url, answer⟩ :: (check ++ rest))

theorem followRedirects_hops (left : Nat) (url : String) :
    (followRedirects lib left url).wp () fun t _ _ => Hops lib left url t := by
  induction left generalizing url with
  | zero => exact .none 0 url
  | succ left ih =>
    unfold followRedirects getUrl
    simp only [wp_bind, wp_perform, wp_ofExcept]
    intro answer
    cases answer with
    | error x => exact .last left url _
    | ok response =>
      simp only [wp_ite, Action.wp_pure, List.append_nil, List.singleton_append]
      split
      · cases response.location.filter (· ≠ "") with
        | none => exact .last left url _
        | some location =>
          simp only [wp_bind, wp_ofExcept]
          cases (lib.urljoin url location).mapError DownloadError.raised with
          | error x => exact .last left url _
          | ok next =>
            refine wp_mono (assertOutputUrlAllowed_checks next) ?_
            intro check r _ checks
            cases r with
            | error x => exact .refused _ checks
            | ok done =>
              refine wp_mono (ih next) ?_
              intro rest _ _ later
              have hop : Hops lib (left + 1) url _ := .hop (.ok response) checks later
              simpa using hop
      · exact .last left url _

theorem Hops.short {left : Nat} (hops : Hops lib left url t) : t.length ≤ 2 * left := by
  induction hops with
  | none left url => exact Nat.zero_le _
  | last left url answer =>
    rw [List.length_singleton]
    omega
  | refused answer checks =>
    have short := checks.checked.short
    rw [List.length_cons]
    omega
  | hop answer checks later ih =>
    have short := checks.checked.short
    rw [List.length_cons, List.length_append]
    omega

def gets (t : DownloadTrace) : Nat := t.countP fun e => isGet e.1

theorem gets_of_quiet (quiet : ∀ e ∈ t, isGet e.1 = false) : gets t = 0 := by
  apply List.countP_eq_zero.mpr
  intro e mem isTrue
  rw [quiet e mem] at isTrue
  cases isTrue

theorem Hops.gets_le {left : Nat} (hops : Hops lib left url t) : gets t ≤ left := by
  induction hops with
  | none left url => exact Nat.zero_le _
  | last left url answer =>
    change 1 ≤ left + 1
    omega
  | refused answer checks =>
    have quiet := gets_of_quiet checks.checked.quiet
    unfold gets at quiet ⊢
    rw [List.countP_cons, quiet]
    simp [isGet]
  | hop answer checks later ih =>
    have quiet := gets_of_quiet checks.checked.quiet
    unfold gets at quiet ih ⊢
    rw [List.countP_cons_of_pos rfl, List.countP_append, quiet]
    omega

theorem split_after_quiet {check rest before after : DownloadTrace}
    {answer : Except DownloadError HttpResponse} (quiet : ∀ e ∈ check, isGet e.1 = false)
    (same : check ++ rest = before ++ ⟨.get url, answer⟩ :: after) :
    ∃ middle, before = check ++ middle ∧ rest = middle ++ ⟨.get url, answer⟩ :: after := by
  cases List.append_eq_append_iff.mp same with
  | inl longer => exact longer
  | inr shorter =>
    obtain ⟨middle, eq, eq'⟩ := shorter
    cases middle with
    | nil => exact ⟨[], by simpa using eq.symm, by simpa using eq'.symm⟩
    | cons e middle =>
      obtain ⟨rfl, -⟩ := List.cons.inj eq'
      have isQuiet := quiet ⟨.get url, answer⟩ (by simp [eq])
      cases isQuiet

theorem Hops.checked {left : Nat} {start : String} {before after : DownloadTrace}
    {answer : Except DownloadError HttpResponse} (hops : Hops lib left start t)
    (same : t = before ++ ⟨.get url, answer⟩ :: after) :
    before = [] ∧ url = start ∨
      ∃ earlier check, before = earlier ++ check ∧ Checks lib url check (.ok ()) := by
  induction hops generalizing before with
  | none left start => simp at same
  | last left start first =>
    cases before with
    | nil =>
      cases same
      exact .inl ⟨rfl, rfl⟩
    | cons e before => simp at same
  | @refused left start next check x first checks =>
    cases before with
    | nil =>
      cases same
      exact .inl ⟨rfl, rfl⟩
    | cons e before =>
      obtain ⟨-, rest⟩ := List.cons.inj same
      have isQuiet := checks.checked.quiet ⟨.get url, answer⟩ (by simp [rest])
      cases isQuiet
  | @hop left start next check rest first checks later ih =>
    cases before with
    | nil =>
      cases same
      exact .inl ⟨rfl, rfl⟩
    | cons e before =>
      obtain ⟨head, tail⟩ := List.cons.inj same
      obtain ⟨middle, rfl, later'⟩ := split_after_quiet checks.checked.quiet tail
      cases head
      refine .inr ?_
      cases ih later' with
      | inl found =>
        obtain ⟨rfl, rfl⟩ := found
        exact ⟨[⟨.get start, first⟩], check, by simp, checks⟩
      | inr earlier =>
        obtain ⟨earlier, check', rfl, checked⟩ := earlier
        exact ⟨⟨.get start, first⟩ :: (check ++ earlier), check', by simp, checked⟩

inductive Downloads (lib : UrlLibrary) (url : String) : DownloadTrace → Prop
  | refused {check : DownloadTrace} {r : Except DownloadError Unit}
      (checks : Checks lib url check r) : Downloads lib url check
  | follows {check hops : DownloadTrace} (answer : Except DownloadError Unit)
      (checks : Checks lib url check (.ok ()))
      (later : Hops lib (maxMediaOutputRedirects + 1) url hops) :
      Downloads lib url (check ++ ⟨.openClient, answer⟩ :: hops)

theorem fetchOutput_downloads (url : String) :
    (fetchOutput lib url).wp () fun t _ _ => Downloads lib url t := by
  unfold fetchOutput openClient
  rw [wp_bind]
  refine wp_mono (assertOutputUrlAllowed_checks url) ?_
  intro check r _ checks
  cases r with
  | error x => exact .refused checks
  | ok done =>
    simp only [wp_bind, wp_perform, wp_ofExcept]
    intro answer
    cases answer with
    | error x => exact .follows _ checks (.none _ _)
    | ok opened =>
      refine wp_mono (followRedirects_hops (maxMediaOutputRedirects + 1) url) ?_
      intro hops r _ later
      have follows : Downloads lib url _ := .follows (.ok opened) checks later
      cases r with
      | error x => simpa using follows
      | ok response =>
        cases status : response.statusError with
        | none => simpa [status] using follows
        | some className => simpa [status] using follows

theorem downloadOutput_downloads (maxBytes : Nat) (url : String) :
    (downloadOutput lib maxBytes url).wp () fun t _ _ => Downloads lib url t := by
  unfold downloadOutput
  simp only [wp_bind, Action.wp_tryCatch]
  refine wp_mono (fetchOutput_downloads url) ?_
  intro t r _ downloads
  cases r with
  | ok response => simpa using downloads
  | error x => cases x <;> simpa using downloads

def EachChecked (lib : UrlLibrary) (t : DownloadTrace) : Prop :=
  ∀ before url answer after, t = before ++ ⟨.get url, answer⟩ :: after →
    ∃ earlier check between, before = earlier ++ check ++ between ∧
      Checks lib url check (.ok ()) ∧ ∀ e ∈ between, e.1 = .openClient

theorem Downloads.eachChecked (downloads : Downloads lib url t) : EachChecked lib t := by
  intro before fetched answer after same
  cases downloads with
  | refused checks =>
    have isQuiet := checks.checked.quiet ⟨.get fetched, answer⟩ (by simp [same])
    cases isQuiet
  | @follows check hops opened checks later =>
    obtain ⟨middle, rfl, opens⟩ := split_after_quiet checks.checked.quiet same
    cases middle with
    | nil => simp at opens
    | cons e middle =>
      obtain ⟨head, tail⟩ := List.cons.inj opens
      cases head
      cases later.checked tail with
      | inl first =>
        obtain ⟨rfl, rfl⟩ := first
        exact ⟨[], check, [⟨.openClient, opened⟩], by simp, checks, by simp⟩
      | inr earlier =>
        obtain ⟨earlier, check', rfl, checked⟩ := earlier
        exact ⟨check ++ ⟨.openClient, opened⟩ :: earlier, check', [], by simp, checked, by simp⟩

theorem Downloads.gets_le (downloads : Downloads lib url t) :
    gets t ≤ maxMediaOutputRedirects + 1 := by
  cases downloads with
  | refused checks =>
    rw [gets_of_quiet checks.checked.quiet]
    exact Nat.zero_le _
  | follows opened checks later =>
    have quiet := gets_of_quiet checks.checked.quiet
    have few := later.gets_le
    unfold gets at quiet few ⊢
    rw [List.countP_append, List.countP_cons, quiet]
    simpa [isGet] using few

theorem Downloads.short (downloads : Downloads lib url t) :
    t.length ≤ 2 * maxMediaOutputRedirects + 4 := by
  cases downloads with
  | refused checks =>
    have short := checks.checked.short
    omega
  | follows opened checks later =>
    have short := checks.checked.short
    have few := later.short
    rw [List.length_append, List.length_cons]
    omega

def refusals : (e : DownloadCall) → DownloadAnswer e
  | .openClient | .resolve _ _ | .get _ => .error (.raised "")

variable (lib)

/-- At every point of every download each request made so far is for a URL that has passed the
check right before it. No more redirects are followed than configured, and the calls come to an
end. -/
theorem fetched_urls_are_checked (maxBytes : Nat) (url : String) {t : DownloadTrace}
    {rest : Program DownloadCall DownloadAnswer (Except DownloadError (List UInt8 × Option String))}
    (reached : Program.Reaches ((downloadOutput lib maxBytes url).run ()) t rest) :
    EachChecked lib t ∧ gets t ≤ maxMediaOutputRedirects + 1 ∧
      t.length ≤ 2 * maxMediaOutputRedirects + 4 := by
  refine reached.of_runs (T := fun _ => True) (fun e => ⟨refusals e, trivial⟩)
    (fun _ _ => trivial) (P := fun t => EachChecked lib t ∧ gets t ≤ maxMediaOutputRedirects + 1 ∧
      t.length ≤ 2 * maxMediaOutputRedirects + 4) ?_ ?_
  · intro t u whole
    obtain ⟨checked, few, short⟩ := whole
    refine ⟨?_, ?_, ?_⟩
    · intro before url answer after same
      exact checked before url answer (after ++ u) (by rw [same]; simp)
    · exact Nat.le_trans (List.Sublist.countP_le (List.sublist_append_left t u)) few
    · rw [List.length_append] at short
      omega
  · intro t r run _
    have downloads := (Program.wp_iff_runs _ _).mp ((Action.wp_run _ _ _).mpr
      (downloadOutput_downloads maxBytes url)) t r run
    exact ⟨downloads.eachChecked, downloads.gets_le, downloads.short⟩

def cdnLibrary : UrlLibrary where
  urlparse url :=
    if url = "https://cdn.test/1" ∨ url = "https://cdn.test/2" then
      .ok ⟨"https", some "cdn.test", .ok none⟩
    else .ok ⟨"", none, .ok none⟩
  urljoin _ location := .ok ("https://cdn.test" ++ location)
  ipAddress text :=
    if text = "8.8.8.8" then some ⟨false, false, false, false, false, false⟩ else none
  lower := id

def redirecting : (e : DownloadCall) → DownloadAnswer e
  | .openClient => .ok ()
  | .resolve _ _ => .ok ["8.8.8.8"]
  | .get url =>
    if url = "https://cdn.test/1" then .ok ⟨true, some "/2", none, [], none⟩
    else .ok ⟨false, none, none, [137, 80], some "image/png"⟩

def redirected : DownloadTrace × Except DownloadError (List UInt8 × Option String) :=
  ((downloadOutput cdnLibrary 1024 "https://cdn.test/1").run ()).follow redirecting

theorem redirected_urls_are_checked :
    gets redirected.1 = 2 ∧ EachChecked cdnLibrary redirected.1 ∧
      gets redirected.1 ≤ maxMediaOutputRedirects + 1 ∧
      redirected.1.length ≤ 2 * maxMediaOutputRedirects + 4 :=
  ⟨by decide +kernel, fetched_urls_are_checked cdnLibrary 1024 "https://cdn.test/1"
    (Program.follow_runs redirecting _).reaches⟩

end AgentHive.OutputDownload
