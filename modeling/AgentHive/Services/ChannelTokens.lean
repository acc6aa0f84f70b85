import AgentHive.Services.ChannelDelivery

/-!
The access tokens of the channels that a process keeps.

Calls take turns at their awaits: the lock is never held over one, so that a look at
the cache and a token stored in it are one step each. Between the two the endpoint
issues what it answers with, and the answers of two calls may come back in any order.
-/

namespace AgentHive.ChannelTokens

open Rag (Json JsonDict)
open ChannelOutbound (isZero rstripSlashes)

structure TokenLibrary extends ChannelLibrary where
  strip : String → String

structure TokenSettings where
  refreshAheadSeconds : Int
  maxRetries : Nat

variable (lib : TokenLibrary) (settings : TokenSettings)

def stringOrNone (value : Json) : Option String :=
  match value with
  | .null => none
  | value => some (lib.strip (lib.texts.str value)) |>.filter (· ≠ "")

structure RefreshCredentials where
  channelType : ChannelType
  key : String
  secret : String
  endpoint : String

structure Channel where
  id : Option UUID
  channelType : ChannelType
  config : JsonDict

variable (channel : Channel)

def configText (key : String) : Option String :=
  stringOrNone lib (JsonDict.get channel.config key)

def staticTokenFor : Option String :=
  match channel.channelType with
  | .wecom => configText lib channel "wecom_access_token"
  | .dingtalk => configText lib channel "dingtalk_access_token"
  | .feishu => configText lib channel "feishu_tenant_access_token"
  | _ => none

def credentialsUnder (keyField secretField baseField base path : String) :
    Option RefreshCredentials :=
  match configText lib channel keyField, configText lib channel secretField with
  | some key, some secret => some
    { channelType := channel.channelType, key, secret
      endpoint := rstripSlashes ((configText lib channel baseField).getD base) ++ path }
  | _, _ => none

def refreshCredentialsFor : Option RefreshCredentials :=
  match channel.channelType with
  | .wecom => credentialsUnder lib channel "wecom_corp_id" "wecom_secret" "wecom_api_base_url"
      "https://qyapi.weixin.qq.com" "/cgi-bin/gettoken"
  | .dingtalk => credentialsUnder lib channel "dingtalk_app_key" "dingtalk_app_secret"
      "dingtalk_api_base_url" "https://oapi.dingtalk.com" "/gettoken"
  | .feishu => credentialsUnder lib channel "feishu_app_id" "feishu_app_secret"
      "feishu_api_base_url" "https://open.feishu.cn/open-apis" "/auth/v3/tenant_access_token/internal"
  | _ => none

/-- A token with the seconds it lives. -/
def readToken (data : JsonDict) (codeField tokenField expiresField : String) :
    Except Exc (Option (String × Int)) := do
  let code := JsonDict.get data codeField
  if !(isZero code || code matches .null) then
    return none
  let token := JsonDict.get data tokenField
  let expires := JsonDict.get data expiresField
  let expiresIn ← lib.int (if expires.truthy then expires else .num 7200)
  if !token.truthy || expiresIn ≤ 0 then
    return none
  return some (lib.texts.str token, expiresIn)

/-- An attempt of `_fetch_token`; one that raises an `httpx.HTTPError` may be made again. -/
def attemptResult (channelType : ChannelType) (answer : Except PostFailure HttpAnswer) :
    Except PostFailure (Option (String × Int)) := do
  let response ← answer
  if 400 ≤ response.statusCode ∧ response.statusCode < 500 then
    return none
  if 500 ≤ response.statusCode then
    throw (.http "HTTPStatusError")
  let data ← match response.body with
    | none => throw (.other (.other "JSONDecodeError" ""))
    | some data => pure data
  match data with
  | .obj data =>
    (if channelType = .feishu then readToken lib data "code" "tenant_access_token" "expire"
      else readToken lib data "errcode" "access_token" "expires_in").mapError .other
  | _ => return none

/-- An entry of the cache, with the channel it was fetched for and its turn among what the
endpoints have issued. -/
structure CachedToken where
  accessToken : String
  expiresAt : ℚ
  fetchedAt : ℚ
  fetchedFor : UUID
  issue : Nat

def isExpired (token : CachedToken) (now : ℚ) : Bool :=
  token.expiresAt - now ≤ settings.refreshAheadSeconds

structure RefreshDiagnostics where
  refreshed : List (Option UUID) := []
  skipped : List (Option UUID) := []
  failed : List (Option UUID) := []

inductive TokenCall
  | getAccessToken (channel : Channel)
  | refreshChannelToken (channel : Channel)
  | refreshExpiringChannelTokens (channels : List Channel)

inductive TokenResult
  | cached (token : CachedToken)
  | token (token : Option String)
  | diagnostics (value : RefreshDiagnostics)

/-- What goes on with the token that was fetched. -/
inductive Caller
  | returns (fallback : Option String)
  | refreshes (rest : List (Channel × RefreshCredentials)) (diagnostics : RefreshDiagnostics)

structure Fetch where
  channel : Channel
  creds : RefreshCredentials
  attempt : Nat := 0
  caller : Caller

inductive Stage
  | idle
  | requesting (fetch : Fetch)
  | answered (fetch : Fetch) (issue : Nat) (answer : Except PostFailure HttpAnswer)
  | sleeping (fetch : Fetch)

/-- The cache, where each call stands, how much the endpoints have issued, and for which
channels tokens have been fetched. -/
structure TokenSystem (ι : Type) where
  cache : OrderedDict UUID CachedToken := .empty
  stages : ι → Stage := fun _ => .idle
  issued : Nat := 0
  fetched : List (UUID × Nat) := []

inductive TokenEvent (ι : Type)
  | call (k : ι) (call : TokenCall) (now : ℚ)
  | answer (k : ι) (answer : Except PostFailure HttpAnswer)
  | resume (k : ι) (now : ℚ)

variable {ι : Type} (s : TokenSystem ι)

def valid (id : UUID) (now : ℚ) : Option CachedToken :=
  (s.cache.get id).filter fun cached => !isExpired settings cached now

def nextRefresh (diagnostics : RefreshDiagnostics) :
    List (Channel × RefreshCredentials) → TokenResult ⊕ Fetch
  | [] => .inl (.diagnostics diagnostics)
  | (channel, creds) :: rest =>
    .inr { channel, creds, caller := .refreshes rest diagnostics }

def start (now : ℚ) : TokenCall → TokenResult ⊕ Fetch
  | .getAccessToken channel =>
    match refreshCredentialsFor lib channel, channel.id with
    | none, _ => .inl (.token (staticTokenFor lib channel))
    | some creds, none => .inr { channel, creds, caller := .returns none }
    | some creds, some id =>
      match valid settings s id now with
      | some cached => .inl (.cached cached)
      | none => .inr { channel, creds, caller := .returns (staticTokenFor lib channel) }
  | .refreshChannelToken channel =>
    match refreshCredentialsFor lib channel with
    | none => .inl (.token (staticTokenFor lib channel))
    | some creds => .inr { channel, creds, caller := .returns none }
  | .refreshExpiringChannelTokens channels =>
    let expiring channel := (refreshCredentialsFor lib channel).filter fun _ =>
      (channel.id.bind (valid settings s · now)).isNone
    nextRefresh
      { skipped := (channels.filter fun channel => (expiring channel).isNone).map (·.id) }
      (channels.filterMap fun channel => (expiring channel).map (channel, ·))

def finish (fetch : Fetch) (fresh : Option String) : TokenResult ⊕ Fetch :=
  match fetch.caller with
  | .returns fallback => .inl (.token (fresh <|> fallback))
  | .refreshes rest diagnostics =>
    nextRefresh
      (if fresh.isSome then
        { diagnostics with refreshed := diagnostics.refreshed ++ [fetch.channel.id] }
      else { diagnostics with failed := diagnostics.failed ++ [fetch.channel.id] }) rest

/-- The token that a step of a call stores. -/
def stores : TokenEvent ι → Option CachedToken
  | .resume k now =>
    match s.stages k with
    | .answered fetch issue answer =>
      match fetch.channel.id, attemptResult lib fetch.creds.channelType answer with
      | some id, .ok (some (accessToken, expiresIn)) =>
        some { accessToken, expiresAt := now + expiresIn, fetchedAt := now, fetchedFor := id, issue }
      | _, _ => none
    | _ => none
  | _ => none

def store (event : TokenEvent ι) : TokenSystem ι :=
  match stores lib s event with
  | some cached =>
    { s with
      cache := s.cache.set cached.fetchedFor cached
      fetched := (cached.fetchedFor, cached.issue) :: s.fetched }
  | none => s

variable [DecidableEq ι]

def stand (k : ι) (stage : Stage) : TokenSystem ι :=
  { s with stages := Function.update s.stages k stage }

def goOn (k : ι) : TokenResult ⊕ Fetch → Option (Except Exc TokenResult) × TokenSystem ι
  | .inl result => (some (.ok result), stand s k .idle)
  | .inr fetch => (none, stand s k (.requesting fetch))

def step (event : TokenEvent ι) : Option (Except Exc TokenResult) × TokenSystem ι :=
  match event with
  | .call k call now =>
    match s.stages k with
    | .idle => goOn s k (start lib settings s now call)
    | _ => (none, s)
  | .answer k answer =>
    match s.stages k with
    | .requesting fetch =>
      (none, { stand s k (.answered fetch s.issued answer) with issued := s.issued + 1 })
    | _ => (none, s)
  | .resume k now =>
    match s.stages k with
    | .answered fetch _ answer =>
      match attemptResult lib fetch.creds.channelType answer with
      | .ok fresh => goOn (store lib s (.resume k now)) k (finish fetch (fresh.map (·.1)))
      | .error (.http _) =>
        if settings.maxRetries ≤ fetch.attempt then goOn s k (finish fetch none)
        else (none, stand s k (.sleeping fetch))
      | .error (.other _) => goOn s k (finish fetch none)
    | .sleeping fetch => (none, stand s k (.requesting { fetch with attempt := fetch.attempt + 1 }))
    | _ => (none, s)

def tokenMachine (ι : Type) [DecidableEq ι] :
    Process.Machine (TokenSystem ι) (TokenEvent ι) (Option (Except Exc TokenResult)) :=
  ⟨fun s => step lib settings s⟩

/-- A step raises nothing, and a token that is served from the cache was fetched for the
channel, has more than the margin to live, and was issued no earlier than any that had been
fetched for the channel before. -/
def Serves (event : TokenEvent ι) : Prop :=
  ∀ output, (step lib settings s event).1 = some output → ∃ result, output = .ok result ∧
    ∀ token, result = .cached token → ∃ k channel now, event = .call k (.getAccessToken channel) now ∧
      channel.id = some token.fetchedFor ∧
      settings.refreshAheadSeconds < token.expiresAt - now ∧
      ∀ issue, (token.fetchedFor, issue) ∈ s.fetched → issue ≤ token.issue

/-- A token is stored over none that was issued later. -/
def StoresInOrder (event : TokenEvent ι) : Prop :=
  ∀ cached ∈ stores lib s event, ∀ e ∈ s.fetched,
    e.1 = cached.fetchedFor → e.2 ≤ cached.issue
deriving Decidable

/-- Each token is kept for its channel, and none was fetched for it that was issued later. -/
def Kept : Prop :=
  ∀ id cached, s.cache.get id = some cached →
    cached.fetchedFor = id ∧ ∀ issue, (id, issue) ∈ s.fetched → issue ≤ cached.issue

variable {lib settings s}

theorem nextRefresh_ne_cached (diagnostics : RefreshDiagnostics)
    (rest : List (Channel × RefreshCredentials)) (token : CachedToken) :
    nextRefresh diagnostics rest ≠ .inl (.cached token) := by
  cases rest <;> simp [nextRefresh]

theorem finish_ne_cached (fetch : Fetch) (fresh : Option String) (token : CachedToken) :
    finish fetch fresh ≠ .inl (.cached token) := by
  unfold finish
  split
  · simp
  · exact nextRefresh_ne_cached _ _ token

omit [DecidableEq ι] in
theorem start_cached {now : ℚ} {call : TokenCall} {token : CachedToken}
    (served : start lib settings s now call = .inl (.cached token)) :
    ∃ channel id, call = .getAccessToken channel ∧ channel.id = some id ∧
      valid settings s id now = some token := by
  cases call with
  | getAccessToken channel =>
    simp only [start] at served
    split at served
    · cases served
    · cases served
    · rename_i id _ known
      split at served
      · rename_i found
        cases served
        exact ⟨channel, id, rfl, known, found⟩
      · cases served
  | refreshChannelToken channel =>
    simp only [start] at served
    split at served <;> cases served
  | refreshExpiringChannelTokens channels => exact (nextRefresh_ne_cached _ _ token served).elim

theorem goOn_output {s' : TokenSystem ι} {k : ι} {next : TokenResult ⊕ Fetch}
    {output : Except Exc TokenResult} (told : (goOn s' k next).1 = some output) :
    ∃ result, output = .ok result ∧ next = .inl result := by
  cases next with
  | inl result => exact ⟨result, (Option.some.inj told).symm, rfl⟩
  | inr fetch => cases told

theorem serves_of_kept (kept : Kept s) (event : TokenEvent ι) : Serves lib settings s event := by
  intro output told
  cases event with
  | call k call now =>
    simp only [step] at told
    split at told
    · obtain ⟨result, rfl, begun⟩ := goOn_output told
      refine ⟨result, rfl, fun token served => ?_⟩
      subst served
      obtain ⟨channel, id, rfl, known, found⟩ := start_cached begun
      obtain ⟨stored, fresh⟩ := Option.filter_eq_some_iff.mp found
      obtain ⟨rfl, newest⟩ := kept id token stored
      refine ⟨k, channel, now, rfl, known, ?_, newest⟩
      simpa only [isExpired, Bool.not_eq_true', decide_eq_false_iff_not, not_le] using fresh
    · cases told
  | answer k answer =>
    simp only [step] at told
    split at told <;> cases told
  | resume k now =>
    have finished : ∀ {s' : TokenSystem ι} {fetch fresh},
        (goOn s' k (finish fetch fresh)).1 = some output → ∃ result, output = .ok result ∧
          ∀ token, result ≠ .cached token := by
      intro s' fetch fresh told
      obtain ⟨result, rfl, done⟩ := goOn_output told
      exact ⟨result, rfl, fun token same => finish_ne_cached _ _ token (same ▸ done)⟩
    have other : ∃ result, output = .ok result ∧ ∀ token, result ≠ .cached token := by
      simp only [step] at told
      split at told
      · split at told
        · exact finished told
        · split at told
          · exact finished told
          · cases told
        · exact finished told
      · cases told
      · cases told
    obtain ⟨result, rfl, apart⟩ := other
    exact ⟨result, rfl, fun token served => absurd served (apart token)⟩

omit [DecidableEq ι] in
theorem kept_store (kept : Kept s) (event : TokenEvent ι) (inOrder : StoresInOrder lib s event) :
    Kept (store lib s event) := by
  unfold store
  split
  · rename_i cached stored
    intro id token found
    rw [OrderedDict.get_set] at found
    split at found
    · rename_i same
      cases found
      refine ⟨same.symm, fun issue mem => ?_⟩
      subst same
      rcases List.mem_cons.mp mem with new | old
      · exact (Prod.ext_iff.mp new).2.le
      · exact inOrder cached stored _ old rfl
    · rename_i other
      refine ⟨(kept id token found).1, fun issue mem => ?_⟩
      rcases List.mem_cons.mp mem with new | old
      · exact (other (Prod.ext_iff.mp new).1).elim
      · exact (kept id token found).2 issue old
  · exact kept

theorem kept_step (kept : Kept s) (event : TokenEvent ι) (inOrder : StoresInOrder lib s event) :
    Kept (step lib settings s event).2 := by
  have going : ∀ {s' : TokenSystem ι} {k next}, Kept s' → Kept (goOn s' k next).2 := by
    intro s' k next kept
    cases next <;> exact kept
  cases event with
  | call k call now =>
    simp only [step]
    split
    · exact going kept
    · exact kept
  | answer k answer =>
    simp only [step]
    split
    · exact kept
    · exact kept
  | resume k now =>
    simp only [step]
    split
    · split
      · exact going (kept_store kept _ inOrder)
      · split
        · exact going kept
        · exact kept
      · exact going kept
    · exact kept
    · exact kept

/-- As long as tokens are stored in the order in which they were issued, every call of every
run is served so. -/
theorem serves_along (events : List (TokenEvent ι))
    (inOrder : (tokenMachine lib settings ι).Along (StoresInOrder lib) {} events) :
    (tokenMachine lib settings ι).Along (fun s => Serves lib settings s) {} events := by
  have start : Kept ({} : TokenSystem ι) := fun id cached found => by cases found
  generalize ({} : TokenSystem ι) = s at inOrder start
  induction events generalizing s with
  | nil => trivial
  | cons event rest ih =>
    exact ⟨serves_of_kept start event, ih _ inOrder.2 (kept_step start event inOrder.1)⟩

def plainTokens : TokenLibrary := { ChannelDelivery.plainLibrary with strip := id }

def wecomChannel : Channel :=
  ⟨some 1, .wecom, [("wecom_corp_id", .str "c"), ("wecom_secret", .str "s")]⟩

def issuedToken : Except PostFailure HttpAnswer :=
  .ok ⟨200, some (.obj [("access_token", .str "t")])⟩

theorem one_refresh_serves : (tokenMachine plainTokens ⟨300, 2⟩ Bool).Along
    (fun s => Serves plainTokens ⟨300, 2⟩ s) {}
    [.call false (.refreshChannelToken wecomChannel) 0, .answer false issuedToken,
      .resume false 0, .call false (.getAccessToken wecomChannel) 1] :=
  serves_along _ (by decide +kernel)

def servedToken : Option (Except Exc TokenResult) → Option (UUID × Nat)
  | some (.ok (.cached token)) => some (token.fetchedFor, token.issue)
  | _ => none

theorem Serves.newest {event : TokenEvent ι} (serves : Serves lib settings s event) {c : UUID}
    {n : Nat} (served : servedToken (step lib settings s event).1 = some (c, n)) :
    ∀ e ∈ s.fetched, e.1 = c → e.2 ≤ n := by
  unfold servedToken at served
  split at served
  · rename_i token told
    obtain ⟨result, same, all⟩ := serves _ told
    cases same
    cases served
    obtain ⟨_, _, _, _, _, _, newest⟩ := all token rfl
    rintro ⟨_, issue⟩ mem rfl
    exact newest issue mem
  · cases served

theorem earlier_token_is_served :
    ¬ ∀ (lib : TokenLibrary) (settings : TokenSettings) (events : List (TokenEvent Bool)),
      (tokenMachine lib settings Bool).Along (fun s => Serves lib settings s) {} events := by
  intro claimed
  have along := claimed plainTokens ⟨300, 2⟩
    [.call false (.refreshChannelToken wecomChannel) 0,
      .call true (.refreshChannelToken wecomChannel) 0, .answer false issuedToken,
      .answer true issuedToken, .resume true 0, .resume false 0,
      .call true (.getAccessToken wecomChannel) 1]
  have newest := along.2.2.2.2.2.2.1.newest (c := 1) (n := 0) (by decide +kernel)
  exact absurd newest (by decide +kernel)

end AgentHive.ChannelTokens
