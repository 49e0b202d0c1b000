import MasterControl.Configuration.Codecs
import MasterControl.Foundation.PowerShell
import MasterControl.Foundation.Toml
import MasterControl.Foundation.Utf8
import MasterControl.Gateway.EndpointAdvertisement

/-!
# Exported client artifacts

`generateExports` composes the URL of the gateway from the endpoint inventory and the configuration,
and splices it into two JSON documents, a TOML document and two PowerShell scripts.  Only the JSON
library escapes it.

Each artifact, read in its own language, says exactly the URL if the texts that it is composed of
hold no quotes, backslashes or control characters, and only then; the URL names the chosen host if
the path holds path letters, and the host is one that clients can reach if it is no unspecified
address (`saysExactlyUrl_iff`).
-/

namespace MasterControl
namespace Clients
namespace Exports

open Foundation Configuration.Records

/-! ## The URL -/

/-- The retired id is accepted too. -/
def isGateway (endpoint : RuntimeEndpoint) : Bool :=
  endpoint.id = "platform-gateway" || endpoint.id = "aggregator-gateway" ||
    endpoint.kind = .gateway

def isBrowserGateway (endpoint : RuntimeEndpoint) : Bool :=
  endpoint.id = "browser-gateway" || endpoint.kind = .browserGateway

def ensureAdvertisementPath (path fallback : String) : String :=
  let path := if path = "" then fallback else path
  if path = "" ∨ path.toList.head? = some '/' then path else "/" ++ path

section Url

variable (configuration : AppConfiguration) (endpoints : List RuntimeEndpoint)

def preferredHost : String :=
  if configuration.activeProfile.preferredBindAddress = "" then "127.0.0.1"
  else configuration.activeProfile.preferredBindAddress

/-- The host of an endpoint that was found, unless it is a wildcard. -/
def exportedHost (found : Option RuntimeEndpoint) : String :=
  match found with
  | some endpoint =>
    if endpoint.host ≠ "0.0.0.0" then endpoint.host else preferredHost configuration
  | none => preferredHost configuration

def gatewayHost : String := exportedHost configuration (endpoints.find? isGateway)

def mcpPath : String := ensureAdvertisementPath configuration.mcpGateway.mcpPath "/mcp"

def gatewayUrl : String :=
  "http://" ++ Gateway.bracketIpv6Host (gatewayHost configuration endpoints) ++ ":" ++
    toString configuration.mcpGateway.listenPort.toNat ++ mcpPath configuration

def browserUrl : String :=
  let found := endpoints.find? isBrowserGateway
  let browserPort := match found with
    | some endpoint => endpoint.port
    | none => configuration.browserPort
  "http://" ++ Gateway.bracketIpv6Host (exportedHost configuration found) ++ ":" ++
    toString browserPort.toNat ++ "/"

end Url

/-! ## The artifacts -/

def claudeJson (gatewayUrl : String) : Json :=
  .object [("mcpServers", .object [("master-control-gateway",
    .object [("type", .string "http"), ("url", .string gatewayUrl)])])]

def gatewayProfile (conversions : NumberConversions) (configuration : AppConfiguration)
    (endpoints : List RuntimeEndpoint) (timestampNowUtc : String) : Json :=
  .object
    [("beaconPort", .integer configuration.beaconPort.toNat),
     ("browserUrl", .string (browserUrl configuration endpoints)),
     ("endpoints", (Codec.arrayOf (runtimeEndpoint conversions)).encode endpoints),
     ("environmentName", .string configuration.activeProfile.environmentName),
     ("exportedAtUtc", .string timestampNowUtc),
     ("gatewayUrl", .string (gatewayUrl configuration endpoints)),
     ("instanceName", .string configuration.instanceName)]

/-- The installer up to the URL. -/
def claudeScriptFront : String :=
  "param(\n" ++
  "  [string]$ConfigPath = (Join-Path $HOME '.claude.json')\n" ++
  ")\n\n" ++
  "$gatewayUrl = "

/-- The installer behind the URL. -/
def claudeScriptBack : String :=
  "\n" ++
  "$config = @\x7b\x7d\n" ++
  "if (Test-Path $ConfigPath) \x7b\n" ++
  "  $config = Get-Content $ConfigPath -Raw | ConvertFrom-Json -AsHashtable\n" ++
  "\x7d\n" ++
  "if (-not $config) \x7b $config = @\x7b\x7d \x7d\n" ++
  "if (-not $config.ContainsKey('mcpServers')) \x7b $config['mcpServers'] = @\x7b\x7d \x7d\n" ++
  "$config['mcpServers']['master-control-gateway'] = " ++
    "@\x7b type = 'http'; url = $gatewayUrl \x7d\n" ++
  "$config | ConvertTo-Json -Depth 8 | Set-Content -Path $ConfigPath -Encoding UTF8\n" ++
  "Write-Host \"Updated Claude Code MCP config at $ConfigPath\"\n"

def claudeScript (gatewayUrl : String) : String :=
  claudeScriptFront ++ "'" ++ gatewayUrl ++ "'" ++ claudeScriptBack

def codexToml (url : String) : String :=
  "[mcp_servers.mcos]\n" ++
  "url = \"" ++ url ++ "\"\n" ++
  "enabled = true\n" ++
  "startup_timeout_sec = 10\n" ++
  "tool_timeout_sec = 60\n"

/-- The installer up to the here-string. -/
def codexScriptFront : String :=
  "param(\n" ++
  "  [string]$OutputPath = (Join-Path $PWD 'config.toml')\n" ++
  ")\n\n" ++
  "$payload = "

def codexScriptBack : String :=
  "\n" ++
  "$payload | Set-Content -Path $OutputPath -Encoding UTF8\n" ++
  "Write-Host \"Wrote Codex MCP config (config.toml) to $OutputPath\"\n"

def codexScript (content : String) : String :=
  codexScriptFront ++ "@'\n" ++ content ++ "\n" ++ "'@" ++ codexScriptBack

structure ExportArtifact where
  id : String
  fileName : String
  mediaType : String
  content : Bytes

/-- The artifacts of the gateway. -/
def generateExports (format : DocumentFormat) (conversions : NumberConversions)
    (configuration : AppConfiguration) (endpoints : List RuntimeEndpoint)
    (timestampNowUtc : String) : List ExportArtifact :=
  let gatewayUrl := gatewayUrl configuration endpoints
  let codexContent := codexToml gatewayUrl
  [⟨"gateway-profile", "master-control-gateway-profile.json", "application/json",
      format.dump (gatewayProfile conversions configuration endpoints timestampNowUtc)⟩,
    ⟨"claude", ".claude.json", "application/json", format.dump (claudeJson gatewayUrl)⟩,
    ⟨"claude-installer", "Install-ClaudeGateway.ps1", "text/plain",
      utf8Bytes (claudeScript gatewayUrl).toList⟩,
    ⟨"codex", "config.toml", "application/toml", utf8Bytes codexContent.toList⟩,
    ⟨"codex-installer", "Install-CodexGateway.ps1", "text/plain",
      utf8Bytes (codexScript codexContent).toList⟩]

/-! ## What they say -/

/-- The content of the artifact with an id. -/
def contentOf (artifacts : List ExportArtifact) (id : String) : Option Bytes :=
  (artifacts.find? (·.id = id)).map ExportArtifact.content

/-- The content as a text. -/
def textOf (artifacts : List ExportArtifact) (id : String) : Option (List Char) :=
  ((contentOf artifacts id).bind fromUtf8?).map String.toList

/-- The table that Codex has to find, and no other but the root. -/
def codexTables (url : String) : List TomlTable :=
  [⟨["mcp_servers".toList, "mcos".toList],
      [("url".toList, .text url.toList), ("enabled".toList, .boolean true),
       ("startup_timeout_sec".toList, .integer 10), ("tool_timeout_sec".toList, .integer 60)]⟩,
    ⟨[], []⟩]

/-- The artifacts say the URL and nothing else, and the URL names the host that was chosen. -/
structure SaysExactlyUrl (format : DocumentFormat) (configuration : AppConfiguration)
    (endpoints : List RuntimeEndpoint) (artifacts : List ExportArtifact) : Prop where
  gatewayProfile : ∃ members, (contentOf artifacts "gateway-profile").bind format.read =
      some (.object members) ∧
    Json.lookup "gatewayUrl" members = some (.string (gatewayUrl configuration endpoints))
  claude : (contentOf artifacts "claude").bind format.read =
    some (claudeJson (gatewayUrl configuration endpoints))
  claudeInstaller : (textOf artifacts "claude-installer").bind readScript =
    some (codePieces claudeScriptFront.toList ++
      .literal (gatewayUrl configuration endpoints).toList :: codePieces claudeScriptBack.toList)
  codex : (textOf artifacts "codex").bind readToml =
    some (codexTables (gatewayUrl configuration endpoints))
  codexInstaller : ∃ content, textOf artifacts "codex" = some content ∧
    (textOf artifacts "codex-installer").bind readScript =
      some (codePieces codexScriptFront.toList ++
        .hereLiteral content :: codePieces codexScriptBack.toList)
  url : isHost (utf8Bytes (gatewayHost configuration endpoints).toList) = true →
    parseHttpUrl (utf8Bytes (gatewayUrl configuration endpoints).toList) = some
      { host := utf8Bytes (gatewayHost configuration endpoints).toList
        port := some configuration.mcpGateway.listenPort.toNat
        path := utf8Bytes (mcpPath configuration).toList }
  host : isUnspecifiedAddress (utf8Bytes (gatewayHost configuration endpoints).toList) = false

/-- A character that ends or changes no string of the four languages. -/
def isInert (c : Char) : Bool :=
  !isSingleQuote c && TomlTextState.plain c

/-- A host that may stand in the URL in front of a path. -/
structure PlainHost (path host : String) : Prop where
  inert : ∀ c ∈ host.toList, isInert c = true
  specified : isUnspecifiedAddress (utf8Bytes host.toList) = false
  path : isHost (utf8Bytes host.toList) = true →
    encodedText isPathByte (utf8Bytes (ensureAdvertisementPath path "/mcp").toList) = true

/-- Each configured text that reaches the URL may stand there. -/
structure PlainSources (configuration : AppConfiguration) (endpoints : List RuntimeEndpoint) :
    Prop where
  mcpPath : ∀ c ∈ configuration.mcpGateway.mcpPath.toList, isInert c = true
  endpoint : ∀ endpoint, endpoints.find? isGateway = some endpoint → endpoint.host ≠ "0.0.0.0" →
    PlainHost configuration.mcpGateway.mcpPath endpoint.host
  preferred : (∀ endpoint, endpoints.find? isGateway = some endpoint →
      endpoint.host = "0.0.0.0") →
    configuration.activeProfile.preferredBindAddress ≠ "" →
    PlainHost configuration.mcpGateway.mcpPath configuration.activeProfile.preferredBindAddress
  loopback : (∀ endpoint, endpoints.find? isGateway = some endpoint →
      endpoint.host = "0.0.0.0") →
    configuration.activeProfile.preferredBindAddress = "" →
    PlainHost configuration.mcpGateway.mcpPath "127.0.0.1"

/-! ## The bytes of the URL -/

section UrlBytes

variable {host path fallback : String} {configuration : AppConfiguration}
  {endpoints : List RuntimeEndpoint}

theorem toNat_lt_of_isDigit {c : Char} (h : c.isDigit = true) : c.toNat < 128 := by
  simp only [Char.isDigit, Bool.and_eq_true, decide_eq_true_eq, ge_iff_le, UInt32.le_iff_toNat_le]
    at h
  exact Nat.lt_of_le_of_lt h.2 (by decide)

theorem isDigit_of_mem_toString {n : ℕ} {c : Char} (h : c ∈ (toString n).toList) :
    c.isDigit = true := by
  rw [Nat.toString_eq_repr, Nat.toList_repr] at h
  exact Nat.isDigit_of_mem_toDigits (by decide) (Nat.le_refl 10) h

theorem utf8Bytes_toString (n : ℕ) : utf8Bytes (toString n).toList = decimal n := by
  rw [utf8Bytes_of_ascii fun c hc => toNat_lt_of_isDigit (isDigit_of_mem_toString hc),
    Nat.toString_eq_repr, Nat.toList_repr, decimal]

theorem utf8Bytes_eq_nil_iff (text : String) : utf8Bytes text.toList = [] ↔ text = "" := by
  constructor
  · intro h
    cases htext : text.toList with
    | nil => exact String.toList_eq_nil_iff.mp htext
    | cons c rest =>
      rw [htext, utf8Bytes_cons] at h
      exact absurd (List.append_eq_nil_iff.mp h).1 String.utf8EncodeChar_ne_nil
  · rintro rfl
    rfl

/-- The brackets stand around the same hosts in either reading of a text. -/
theorem utf8Bytes_bracketIpv6Host (host : String) :
    utf8Bytes (Gateway.bracketIpv6Host host).toList =
      Gateway.bracketAdvertisementHost (utf8Bytes host.toList) := by
  have hopen : (utf8Bytes host.toList).head? = some 91 ↔ host.toList.head? = some '[' :=
    head?_utf8Bytes_iff (d := '[') (by decide)
  have hclose : (utf8Bytes host.toList).getLast? = some 93 ↔ host.toList.getLast? = some ']' :=
    getLast?_utf8Bytes_iff (d := ']') (by decide)
  have hcolon : (utf8Bytes host.toList).contains 58 = host.toList.contains ':' := by
    rw [Bool.eq_iff_iff, List.contains_iff_mem, List.contains_iff_mem]
    exact mem_utf8Bytes_iff (d := ':') (by decide)
  unfold Gateway.bracketIpv6Host Gateway.bracketAdvertisementHost
  simp only [utf8Bytes_eq_nil_iff, hopen, hclose, hcolon, Bool.and_eq_true, decide_eq_true_eq]
  split_ifs
  · rfl
  · rfl
  · rw [String.toList_append, String.toList_append, utf8Bytes_append, utf8Bytes_append]
    rfl
  · rfl

theorem utf8Bytes_ensureAdvertisementPath (path fallback : String) :
    utf8Bytes (ensureAdvertisementPath path fallback).toList =
      Gateway.ensureAdvertisementPath (utf8Bytes path.toList) (utf8Bytes fallback.toList) := by
  have hchoice : (if utf8Bytes path.toList = [] then utf8Bytes fallback.toList
      else utf8Bytes path.toList) = utf8Bytes (if path = "" then fallback else path).toList := by
    simp only [utf8Bytes_eq_nil_iff]
    split_ifs <;> rfl
  unfold ensureAdvertisementPath Gateway.ensureAdvertisementPath
  dsimp only
  rw [hchoice]
  generalize (if path = "" then fallback else path) = text
  have hslash : (utf8Bytes text.toList).head? = some 47 ↔ text.toList.head? = some '/' :=
    head?_utf8Bytes_iff (d := '/') (by decide)
  simp only [utf8Bytes_eq_nil_iff, hslash]
  split_ifs
  · rfl
  · rw [String.toList_append, utf8Bytes_append]
    rfl

/-- The URL names the host, the port and the path exactly when the path holds path letters. -/
theorem parse_gatewayUrl_iff
    (h : isHost (utf8Bytes (gatewayHost configuration endpoints).toList) = true) :
    parseHttpUrl (utf8Bytes (gatewayUrl configuration endpoints).toList) = some
        { host := utf8Bytes (gatewayHost configuration endpoints).toList
          port := some configuration.mcpGateway.listenPort.toNat
          path := utf8Bytes (mcpPath configuration).toList } ↔
      encodedText isPathByte (utf8Bytes (mcpPath configuration).toList) = true := by
  have hurl : utf8Bytes (gatewayUrl configuration endpoints).toList =
      asciiBytes "http://" ++
        Gateway.bracketAdvertisementHost (utf8Bytes (gatewayHost configuration endpoints).toList) ++
        asciiBytes ":" ++ decimal configuration.mcpGateway.listenPort.toNat ++
        utf8Bytes (mcpPath configuration).toList := by
    simp only [gatewayUrl, String.toList_append, utf8Bytes_append, utf8Bytes_bracketIpv6Host,
      utf8Bytes_toString]
    rfl
  rw [hurl, mcpPath, utf8Bytes_ensureAdvertisementPath]
  exact Gateway.gatewayUrl_parse_iff h _ _ _

/-! ## The letters of the URL -/

theorem isInert_of_isDigit {c : Char} (h : c.isDigit = true) : isInert c = true := by
  simp only [Char.isDigit, Bool.and_eq_true, decide_eq_true_eq, ge_iff_le, UInt32.le_iff_toNat_le]
    at h
  have hlow : 48 ≤ c.toNat := h.1
  have hhigh : c.toNat ≤ 57 := h.2
  have hslash : c ≠ '\\' := by
    rintro rfl
    exact absurd hhigh (by decide)
  have hquote : isSingleQuote c = false := by
    simp only [isSingleQuote, Bool.or_eq_false_iff, Bool.and_eq_false_iff, decide_eq_false_iff_not]
    omega
  have hcontrol : isControl c = false := by
    simp only [isControl, Bool.or_eq_false_iff, Bool.and_eq_false_iff, decide_eq_false_iff_not]
    omega
  rw [isInert, hquote, TomlTextState.plain, decide_eq_true hslash, hcontrol,
    decide_eq_true (by omega : c.toNat ≠ 34)]
  rfl

theorem inert_bracketIpv6Host (host : String) :
    (∀ c ∈ (Gateway.bracketIpv6Host host).toList, isInert c = true) ↔
      ∀ c ∈ host.toList, isInert c = true := by
  unfold Gateway.bracketIpv6Host
  split_ifs
  · exact Iff.rfl
  · exact Iff.rfl
  · rw [String.toList_append, String.toList_append]
    constructor
    · intro h c hc
      exact h c (List.mem_append_left _ (List.mem_append_right _ hc))
    · intro h c hc
      rcases List.mem_append.mp hc with hc | hc
      · rcases List.mem_append.mp hc with hc | hc
        · rw [List.mem_singleton.mp hc]
          rfl
        · exact h c hc
      · rw [List.mem_singleton.mp hc]
        rfl
  · exact Iff.rfl

theorem inert_mcpPath : (∀ c ∈ (mcpPath configuration).toList, isInert c = true) ↔
    ∀ c ∈ configuration.mcpGateway.mcpPath.toList, isInert c = true := by
  have hslash : ∀ text : String, (∀ c ∈ ("/" ++ text).toList, isInert c = true) ↔
      ∀ c ∈ text.toList, isInert c = true := by
    intro text
    rw [String.toList_append]
    exact List.forall_mem_cons.trans (and_iff_right rfl)
  unfold mcpPath ensureAdvertisementPath
  dsimp only
  by_cases hempty : configuration.mcpGateway.mcpPath = ""
  · rw [if_pos hempty, hempty, if_pos (.inr rfl)]
    have hdefault : "/mcp".toList.all isInert = true := rfl
    exact iff_of_true (List.all_eq_true.mp hdefault) fun c hc => by cases hc
  · rw [if_neg hempty]
    split_ifs
    · exact Iff.rfl
    · exact hslash _

/-- Nothing but the host and the path can bring a letter into the URL that is not inert. -/
theorem inert_gatewayUrl : (∀ c ∈ (gatewayUrl configuration endpoints).toList, isInert c = true) ↔
    (∀ c ∈ (gatewayHost configuration endpoints).toList, isInert c = true) ∧
      ∀ c ∈ configuration.mcpGateway.mcpPath.toList, isInert c = true := by
  have hscheme : "http://".toList.all isInert = true := rfl
  have hport : ∀ c ∈ (toString configuration.mcpGateway.listenPort.toNat).toList,
      isInert c = true := fun c hc => isInert_of_isDigit (isDigit_of_mem_toString hc)
  have hcolon : ":".toList.all isInert = true := rfl
  simp only [gatewayUrl, String.toList_append, List.forall_mem_append]
  rw [inert_bracketIpv6Host, inert_mcpPath]
  exact ⟨fun h => ⟨h.1.1.1.2, h.2⟩, fun h =>
    ⟨⟨⟨⟨List.all_eq_true.mp hscheme, h.1⟩, List.all_eq_true.mp hcolon⟩, hport⟩, h.2⟩⟩

/-! ## The host -/

theorem gatewayHost_of_endpoint {endpoint : RuntimeEndpoint}
    (hfound : endpoints.find? isGateway = some endpoint) (hhost : endpoint.host ≠ "0.0.0.0") :
    gatewayHost configuration endpoints = endpoint.host := by
  rw [gatewayHost, hfound, exportedHost, if_pos hhost]

theorem gatewayHost_of_preferred (h : ∀ endpoint, endpoints.find? isGateway = some endpoint →
    endpoint.host = "0.0.0.0") :
    gatewayHost configuration endpoints = preferredHost configuration := by
  unfold gatewayHost exportedHost
  cases hfound : endpoints.find? isGateway with
  | none => rfl
  | some endpoint => exact if_neg (not_not.mpr (h endpoint hfound))

/-- The conditions on the sources are conditions on the one that is chosen. -/
theorem plainSources_iff : PlainSources configuration endpoints ↔
    (∀ c ∈ configuration.mcpGateway.mcpPath.toList, isInert c = true) ∧
      PlainHost configuration.mcpGateway.mcpPath (gatewayHost configuration endpoints) := by
  constructor
  · rintro ⟨hpath, hendpoint, hpreferred, hloopback⟩
    refine ⟨hpath, ?_⟩
    by_cases hwildcard : ∀ endpoint, endpoints.find? isGateway = some endpoint →
        endpoint.host = "0.0.0.0"
    · rw [gatewayHost_of_preferred hwildcard, preferredHost]
      split_ifs with hempty
      · exact hloopback hwildcard hempty
      · exact hpreferred hwildcard hempty
    · simp only [not_forall] at hwildcard
      obtain ⟨endpoint, hfound, hhost⟩ := hwildcard
      rw [gatewayHost_of_endpoint hfound hhost]
      exact hendpoint endpoint hfound hhost
  · rintro ⟨hpath, hchosen⟩
    refine ⟨hpath, fun endpoint hfound hhost => ?_, fun hwildcard hne => ?_,
      fun hwildcard hempty => ?_⟩
    · rwa [gatewayHost_of_endpoint hfound hhost] at hchosen
    · rwa [gatewayHost_of_preferred hwildcard, preferredHost, if_neg hne] at hchosen
    · rwa [gatewayHost_of_preferred hwildcard, preferredHost, if_pos hempty] at hchosen

end UrlBytes

/-! ## The scripts -/

section Scripts

variable {url : String}

/-- A text that begins and ends in the code of a script. -/
def InCode (text : List Char) : Prop := (ScriptReader.read text ⟨.code, []⟩).mode = .code

theorem InCode.append {text more : List Char} (htext : InCode text) (hmore : InCode more) :
    InCode (text ++ more) := by
  rw [InCode, ScriptReader.read_append, read_front htext, read_back hmore]

theorem inCode_claudeScriptFront : InCode claudeScriptFront.toList := by
  unfold claudeScriptFront
  simp only [String.toList_append]
  refine InCode.append (InCode.append (InCode.append ?_ ?_) ?_) ?_
  all_goals
    rw [String.toList_ofList]
    rfl

theorem inCode_codexScriptFront : InCode codexScriptFront.toList := by
  unfold codexScriptFront
  simp only [String.toList_append]
  refine InCode.append (InCode.append (InCode.append ?_ ?_) ?_) ?_
  all_goals
    rw [String.toList_ofList]
    rfl

theorem inCode_codexScriptBack : InCode codexScriptBack.toList := by
  unfold codexScriptBack
  simp only [String.toList_append]
  refine InCode.append (InCode.append ?_ ?_) ?_
  all_goals
    rw [String.toList_ofList]
    rfl

/-- The code up to the first literal behind the URL. -/
def claudeScriptCode : List Char :=
  "\n".toList ++
  ("$config = @\x7b\x7d\n".toList ++
  ("if (Test-Path $ConfigPath) \x7b\n".toList ++
  ("  $config = Get-Content $ConfigPath -Raw | ConvertFrom-Json -AsHashtable\n".toList ++
  ("\x7d\n".toList ++
  ("if (-not $config) \x7b $config = @\x7b\x7d \x7d\n".toList ++
  "if (-not $config.ContainsKey(".toList)))))

/-- The rest of the line of the literal, behind its first letter. -/
def claudeScriptLine : List Char :=
  "cpServers')) \x7b $config['mcpServers'] = @\x7b\x7d \x7d\n".toList

/-- The lines that write the document. -/
def claudeScriptEnd : List Char :=
  "$config['mcpServers']['master-control-gateway'] = ".toList ++
    ("@\x7b type = 'http'; url = $gatewayUrl \x7d\n".toList ++
  ("$config | ConvertTo-Json -Depth 8 | Set-Content -Path $ConfigPath -Encoding UTF8\n".toList ++
  "Write-Host \"Updated Claude Code MCP config at $ConfigPath\"\n".toList))

theorem toList_claudeScriptBack : claudeScriptBack.toList =
    claudeScriptCode ++ '\'' :: 'm' :: (claudeScriptLine ++ claudeScriptEnd) := by
  have hline :
      "if (-not $config.ContainsKey('mcpServers')) \x7b $config['mcpServers'] = @\x7b\x7d \x7d\n".toList =
      "if (-not $config.ContainsKey(".toList ++ '\'' :: 'm' ::
        "cpServers')) \x7b $config['mcpServers'] = @\x7b\x7d \x7d\n".toList := by
    rw [String.toList_ofList, String.toList_ofList, String.toList_ofList]
    rfl
  unfold claudeScriptBack claudeScriptCode claudeScriptLine claudeScriptEnd
  simp only [String.toList_append, List.append_assoc, List.cons_append, hline]

theorem inCode_claudeScriptBack : InCode claudeScriptBack.toList := by
  unfold claudeScriptBack
  simp only [String.toList_append, List.append_assoc]
  refine InCode.append ?_ (InCode.append ?_ (InCode.append ?_ (InCode.append ?_ (InCode.append ?_
    (InCode.append ?_ (InCode.append ?_ (InCode.append ?_ (InCode.append ?_
      (InCode.append ?_ ?_)))))))))
  all_goals
    rw [String.toList_ofList]
    rfl

theorem unquoted_of_all {text : List Char} (h : text.all (fun c => !isSingleQuote c) = true) :
    ∀ c ∈ text, isSingleQuote c = false := fun c hc => by
  have hc := List.all_eq_true.mp h c hc
  rwa [Bool.not_eq_true'] at hc

theorem unquoted_claudeScriptCode : ∀ c ∈ claudeScriptCode, isSingleQuote c = false := by
  unfold claudeScriptCode
  simp only [List.forall_mem_append]
  refine ⟨?_, ?_, ?_, ?_, ?_, ?_, ?_⟩
  all_goals
    rw [String.toList_ofList]
    exact unquoted_of_all rfl

theorem toList_claudeScript (url : String) : (claudeScript url).toList =
    claudeScriptFront.toList ++ '\'' :: (url.toList ++ '\'' :: claudeScriptBack.toList) := by
  have hquote : "'".toList = ['\''] := rfl
  simp only [claudeScript, String.toList_append, List.append_assoc, hquote, List.cons_append,
    List.nil_append]

/-- The installer for Claude is the fixed script with the URL exactly for a URL without quotes. -/
theorem readScript_claude_iff (url : String) :
    readScript (claudeScript url).toList =
        some (codePieces claudeScriptFront.toList ++
          .literal url.toList :: codePieces claudeScriptBack.toList) ↔
      ∀ c ∈ url.toList, isSingleQuote c = false := by
  have hne : claudeScriptCode ≠ [] := by
    intro h
    have hhead : claudeScriptCode.head? = some '\n' := rfl
    rw [h] at hhead
    cases hhead
  have hquote : isSingleQuote '\'' = true := rfl
  have hletter : isSingleQuote 'm' = false := rfl
  rw [toList_claudeScript]
  exact readScript_literal_iff inCode_claudeScriptFront hquote toList_claudeScriptBack
    inCode_claudeScriptBack hne unquoted_claudeScriptCode hquote hletter

theorem toList_codexScript (content : String) : (codexScript content).toList =
    codexScriptFront.toList ++ '@' :: '\'' :: '\n' ::
      (content.toList ++ '\n' :: '\'' :: '@' :: codexScriptBack.toList) := by
  have hopen : "@'\n".toList = ['@', '\'', '\n'] := rfl
  have hclose : "'@".toList = ['\'', '@'] := rfl
  have hline : "\n".toList = ['\n'] := rfl
  simp only [codexScript, String.toList_append, List.append_assoc, hopen, hclose, hline,
    List.cons_append, List.nil_append]

theorem unquoted_codexToml (h : ∀ c ∈ url.toList, isSingleQuote c = false) :
    ∀ c ∈ (codexToml url).toList, isSingleQuote c = false := by
  unfold codexToml
  simp only [String.toList_append, List.forall_mem_append]
  refine ⟨⟨⟨⟨⟨⟨?_, ?_⟩, h⟩, ?_⟩, ?_⟩, ?_⟩, ?_⟩
  all_goals
    rw [String.toList_ofList]
    exact unquoted_of_all rfl

theorem getLast?_codexToml (url : String) : (codexToml url).toList.getLast? = some '\n' := by
  have hlast : "tool_timeout_sec = 60\n".toList = "tool_timeout_sec = 60".toList ++ ['\n'] := by
    rw [String.toList_ofList, String.toList_ofList]
    rfl
  unfold codexToml
  rw [String.toList_append, hlast, ← List.append_assoc, List.getLast?_concat]

/-- The installer for Codex holds the document, if the URL holds no quotes. -/
theorem readScript_codex (h : ∀ c ∈ url.toList, isSingleQuote c = false) :
    readScript (codexScript (codexToml url)).toList =
      some (codePieces codexScriptFront.toList ++
        .hereLiteral (codexToml url).toList :: codePieces codexScriptBack.toList) := by
  have hquote : isSingleQuote '\'' = true := rfl
  rw [toList_codexScript]
  refine readScript_hereLiteral inCode_codexScriptFront inCode_codexScriptBack hquote
    (unquoted_codexToml h) ?_
  rw [getLast?_codexToml]
  exact fun hreturn => absurd (Option.some.inj hreturn) (by decide)

end Scripts

/-! ## The TOML document -/

section Document

variable {url : String}

/-- The lines behind the URL. -/
def codexSettings : List Char :=
  "enabled = true".toList ++ '\n' :: ("startup_timeout_sec = 10".toList ++
    '\n' :: ("tool_timeout_sec = 60".toList ++ ['\n']))

theorem toList_codexToml (url : String) : (codexToml url).toList =
    "[mcp_servers.mcos]".toList ++ '\n' :: (tomlTextLine "url".toList (url.toList ++ ['"']) ++
      '\n' :: codexSettings) := by
  have hfront : "[mcp_servers.mcos]\n".toList = "[mcp_servers.mcos]".toList ++ ['\n'] := by
    rw [String.toList_ofList, String.toList_ofList]
    rfl
  have hkey : "url = \"".toList = "url".toList ++ " = \"".toList := rfl
  have hend : "\"\n".toList = ['"', '\n'] := rfl
  have henabled : "enabled = true\n".toList = "enabled = true".toList ++ ['\n'] := by
    rw [String.toList_ofList, String.toList_ofList]
    rfl
  have hstartup : "startup_timeout_sec = 10\n".toList =
      "startup_timeout_sec = 10".toList ++ ['\n'] := by
    rw [String.toList_ofList, String.toList_ofList]
    rfl
  have htool : "tool_timeout_sec = 60\n".toList = "tool_timeout_sec = 60".toList ++ ['\n'] := by
    rw [String.toList_ofList, String.toList_ofList]
    rfl
  unfold codexToml tomlTextLine codexSettings
  simp only [String.toList_append, List.append_assoc, hfront, hkey, hend, henabled, hstartup,
    htool, List.cons_append, List.nil_append]

theorem splitOn_codexSettings : codexSettings.splitOn '\n' =
    ["enabled = true".toList, "startup_timeout_sec = 10".toList, "tool_timeout_sec = 60".toList,
      []] := by
  have henabled : '\n' ∉ "enabled = true".toList := by
    rw [String.toList_ofList]
    decide
  have hstartup : '\n' ∉ "startup_timeout_sec = 10".toList := by
    rw [String.toList_ofList]
    decide
  have htool : '\n' ∉ "tool_timeout_sec = 60".toList := by
    rw [String.toList_ofList]
    decide
  unfold codexSettings
  rw [List.splitOn_append_cons_self_of_not_mem henabled,
    List.splitOn_append_cons_self_of_not_mem hstartup,
    List.splitOn_append_cons_self_of_not_mem htool]
  rfl

/-- What the settings add to the table. -/
theorem addTomlText_settings (tables : List TomlTable) :
    addTomlText tables "enabled = true".toList =
        addTomlLine tables (.member "enabled".toList (.boolean true)) ∧
      addTomlText tables "startup_timeout_sec = 10".toList =
        addTomlLine tables (.member "startup_timeout_sec".toList (.integer 10)) ∧
      addTomlText tables "tool_timeout_sec = 60".toList =
        addTomlLine tables (.member "tool_timeout_sec".toList (.integer 60)) ∧
      addTomlText tables [] = some tables := by
  have henabled : readTomlLine "enabled = true".toList =
      some (.member "enabled".toList (.boolean true)) := by
    rw [String.toList_ofList, String.toList_ofList]
    rfl
  have hstartup : readTomlLine "startup_timeout_sec = 10".toList =
      some (.member "startup_timeout_sec".toList (.integer 10)) := by
    rw [String.toList_ofList, String.toList_ofList]
    rfl
  have htool : readTomlLine "tool_timeout_sec = 60".toList =
      some (.member "tool_timeout_sec".toList (.integer 60)) := by
    rw [String.toList_ofList, String.toList_ofList]
    rfl
  have hblank : readTomlLine [] = some .blank := rfl
  rw [addTomlText, addTomlText, addTomlText, addTomlText, henabled, hstartup, htool, hblank]
  exact ⟨rfl, rfl, rfl, rfl⟩

theorem addTomlLine_new {table : TomlTable} {tables : List TomlTable} {key : List Char}
    {value : TomlValue} (h : table.members.any (·.1 = key) = false) :
    addTomlLine (table :: tables) (.member key value) =
      some ({ table with members := table.members ++ [(key, value)] } :: tables) := by
  rw [addTomlLine, h]
  rfl

/-- The document says exactly a URL that needs no escapes. -/
theorem readToml_codex_iff (url : String) :
    readToml (codexToml url).toList = some (codexTables url) ↔
      ∀ c ∈ url.toList, TomlTextState.plain c = true := by
  have hkey : isBareKey "url".toList = true := rfl
  have hfront : ("[mcp_servers.mcos]".toList.splitOn '\n').foldlM addTomlText [⟨[], []⟩] =
      some [⟨["mcp_servers".toList, "mcos".toList], []⟩, ⟨[], []⟩] := by
    rw [String.toList_ofList, String.toList_ofList, String.toList_ofList]
    rfl
  rw [toList_codexToml]
  constructor
  · intro h
    obtain ⟨value, ⟨table, htable, hname, hmember⟩, hplain⟩ := plain_of_readToml hkey hfront h
    refine hplain ?_
    rcases List.mem_cons.mp htable with rfl | htable
    · simp only [List.mem_cons, Prod.mk.injEq, TomlValue.text.injEq, reduceCtorEq, and_false,
        List.not_mem_nil, or_false] at hmember
      exact hmember.2
    · rw [List.mem_singleton.mp htable] at hname
      cases hname
  · intro hplain
    have henabled : (decide ("url".toList = "enabled".toList) || false) = false := by
      rw [String.toList_ofList, String.toList_ofList]
      decide
    have hstartup : (decide ("url".toList = "startup_timeout_sec".toList) ||
        (decide ("enabled".toList = "startup_timeout_sec".toList) || false)) = false := by
      rw [String.toList_ofList, String.toList_ofList, String.toList_ofList]
      decide
    have htool : (decide ("url".toList = "tool_timeout_sec".toList) ||
        (decide ("enabled".toList = "tool_timeout_sec".toList) ||
          (decide ("startup_timeout_sec".toList = "tool_timeout_sec".toList) || false))) =
            false := by
      rw [String.toList_ofList, String.toList_ofList, String.toList_ofList, String.toList_ofList]
      decide
    rw [readToml_of_plain hkey hplain hfront, splitOn_codexSettings, List.foldlM_cons,
      (addTomlText_settings _).1, addTomlLine_new, Option.bind_eq_bind, Option.bind_some,
      List.foldlM_cons, (addTomlText_settings _).2.1, addTomlLine_new,
      Option.bind_eq_bind, Option.bind_some, List.foldlM_cons, (addTomlText_settings _).2.2.1,
      addTomlLine_new, Option.bind_eq_bind, Option.bind_some, List.foldlM_cons,
      (addTomlText_settings _).2.2.2]
    · rfl
    · exact htool
    · exact hstartup
    · exact henabled

end Document

/-! ## The artifacts together -/

section Artifacts

variable {format : DocumentFormat} {conversions : NumberConversions}
  {configuration : AppConfiguration} {endpoints : List RuntimeEndpoint}
  {timestampNowUtc : String}

theorem textOf_eq {artifacts : List ExportArtifact} {id text : String}
    (h : contentOf artifacts id = some (utf8Bytes text.toList)) :
    textOf artifacts id = some text.toList := by
  rw [textOf, h, Option.bind_some, fromUtf8?_utf8Bytes, Option.map_some, String.toList_ofList]

theorem contentOf_generateExports (format : DocumentFormat) (conversions : NumberConversions)
    (configuration : AppConfiguration) (endpoints : List RuntimeEndpoint)
    (timestampNowUtc : String) :
    contentOf (generateExports format conversions configuration endpoints timestampNowUtc)
        "gateway-profile" =
      some (format.dump (gatewayProfile conversions configuration endpoints timestampNowUtc)) ∧
    contentOf (generateExports format conversions configuration endpoints timestampNowUtc)
        "claude" = some (format.dump (claudeJson (gatewayUrl configuration endpoints))) ∧
    contentOf (generateExports format conversions configuration endpoints timestampNowUtc)
        "claude-installer" =
      some (utf8Bytes (claudeScript (gatewayUrl configuration endpoints)).toList) ∧
    contentOf (generateExports format conversions configuration endpoints timestampNowUtc)
        "codex" = some (utf8Bytes (codexToml (gatewayUrl configuration endpoints)).toList) ∧
    contentOf (generateExports format conversions configuration endpoints timestampNowUtc)
        "codex-installer" =
      some (utf8Bytes (codexScript (codexToml (gatewayUrl configuration endpoints))).toList) := by
  unfold contentOf generateExports
  refine ⟨?_, ?_, ?_, ?_, ?_⟩
  all_goals simp only [List.find?_cons, String.reduceEq, decide_false, decide_true, Option.map_some]

theorem isInert_iff {c : Char} :
    isInert c = true ↔ isSingleQuote c = false ∧ TomlTextState.plain c = true := by
  rw [isInert, Bool.and_eq_true, Bool.not_eq_true']

theorem lookup_cons_of_ne {key other : String} {value : Json} {members : List (String × Json)}
    (h : other ≠ key) : Json.lookup key ((other, value) :: members) = Json.lookup key members :=
  if_neg h

theorem lookup_gatewayUrl
    (beacon browser endpoints environment exported gateway instanceName : Json) :
    Json.lookup "gatewayUrl"
      [("beaconPort", beacon), ("browserUrl", browser), ("endpoints", endpoints),
       ("environmentName", environment), ("exportedAtUtc", exported), ("gatewayUrl", gateway),
       ("instanceName", instanceName)] = some gateway := by
  rw [lookup_cons_of_ne (by decide), lookup_cons_of_ne (by decide), lookup_cons_of_ne (by decide),
    lookup_cons_of_ne (by decide), lookup_cons_of_ne (by decide)]
  exact if_pos rfl

theorem gatewayProfile_of_contentOf
    (h : format.read (format.dump
      (gatewayProfile conversions configuration endpoints timestampNowUtc)) =
        some (gatewayProfile conversions configuration endpoints timestampNowUtc)) :
    ∃ members, (contentOf (generateExports format conversions configuration endpoints
        timestampNowUtc) "gateway-profile").bind format.read = some (.object members) ∧
      Json.lookup "gatewayUrl" members = some (.string (gatewayUrl configuration endpoints)) := by
  rw [(contentOf_generateExports format conversions configuration endpoints timestampNowUtc).1,
    Option.bind_some, h]
  exact ⟨_, rfl, lookup_gatewayUrl _ _ _ _ _ _ _⟩

/-- **The artifacts say exactly the URL, and the URL names a host that can be reached, exactly when
the texts it is composed of may stand there.**  What the JSON library writes it reads back. -/
theorem saysExactlyUrl_iff (format : DocumentFormat) (conversions : NumberConversions)
    (configuration : AppConfiguration) (endpoints : List RuntimeEndpoint) (timestampNowUtc : String)
    (hprofile : format.read (format.dump
      (gatewayProfile conversions configuration endpoints timestampNowUtc)) =
        some (gatewayProfile conversions configuration endpoints timestampNowUtc))
    (hclaude : format.read (format.dump (claudeJson (gatewayUrl configuration endpoints))) =
      some (claudeJson (gatewayUrl configuration endpoints))) :
    SaysExactlyUrl format configuration endpoints
        (generateExports format conversions configuration endpoints timestampNowUtc) ↔
      PlainSources configuration endpoints := by
  obtain ⟨-, hjson, hinstaller, hcodex, hcodexInstaller⟩ :=
    contentOf_generateExports format conversions configuration endpoints timestampNowUtc
  rw [plainSources_iff]
  constructor
  · intro h
    have hquotes := h.claudeInstaller
    rw [textOf_eq hinstaller, Option.bind_some, readScript_claude_iff] at hquotes
    have hplain := h.codex
    rw [textOf_eq hcodex, Option.bind_some, readToml_codex_iff] at hplain
    have hinert := inert_gatewayUrl.mp fun c hc => isInert_iff.mpr ⟨hquotes c hc, hplain c hc⟩
    exact ⟨hinert.2, hinert.1, h.host, fun hhost => (parse_gatewayUrl_iff hhost).mp (h.url hhost)⟩
  · rintro ⟨hpath, hhost⟩
    have hinert := inert_gatewayUrl.mpr ⟨hhost.inert, hpath⟩
    have hquotes := fun c hc => (isInert_iff.mp (hinert c hc)).1
    have hplain := fun c hc => (isInert_iff.mp (hinert c hc)).2
    exact {
      gatewayProfile := gatewayProfile_of_contentOf hprofile
      claude := by rw [hjson, Option.bind_some, hclaude]
      claudeInstaller := by
        rw [textOf_eq hinstaller, Option.bind_some, readScript_claude_iff]
        exact hquotes
      codex := by
        rw [textOf_eq hcodex, Option.bind_some, readToml_codex_iff]
        exact hplain
      codexInstaller := ⟨_, textOf_eq hcodex, by
        rw [textOf_eq hcodexInstaller, Option.bind_some, readScript_codex hquotes]⟩
      url := fun hname => (parse_gatewayUrl_iff hname).mpr (hhost.path hname)
      host := hhost.specified }

/-! ### The defaults, and texts that may not stand there -/

def defaultUrl : String := "http://127.0.0.1:8080/mcp"

def sampleConversions : NumberConversions := ⟨fun n => toString n ++ ".0", fun _ => 0⟩

def defaultProfile : Json := gatewayProfile sampleConversions {} [] "2026-01-01T00:00:00Z"

def claudeText : String :=
  "\x7b\n  \"mcpServers\": \x7b\n    \"master-control-gateway\": \x7b\n" ++
  "      \"type\": \"http\",\n      \"url\": \"http://127.0.0.1:8080/mcp\"\n" ++
  "    \x7d\n  \x7d\n\x7d"

def profileText : String :=
  "\x7b\n  \"beaconPort\": 7301,\n  \"browserUrl\": \"http://127.0.0.1:7300/\",\n" ++
  "  \"endpoints\": [],\n  \"environmentName\": \"\",\n" ++
  "  \"exportedAtUtc\": \"2026-01-01T00:00:00Z\",\n" ++
  "  \"gatewayUrl\": \"http://127.0.0.1:8080/mcp\",\n" ++
  "  \"instanceName\": \"Master Control Orchestration Server\"\n\x7d"

def readExported (content : Bytes) : Option Json :=
  if content = asciiBytes claudeText then some (claudeJson defaultUrl)
  else if content = asciiBytes profileText then some defaultProfile
  else none

/-- A library that knows the two documents of the defaults. -/
def exportFormat : DocumentFormat where
  read := readExported
  dump
    | .object [_] => asciiBytes claudeText
    | _ => asciiBytes profileText

theorem gatewayUrl_default : gatewayUrl {} [] = defaultUrl := by
  have hport : toString (8080 : ℕ) = "8080" := rfl
  have hhost : Gateway.bracketIpv6Host "127.0.0.1" = "127.0.0.1" := by decide +kernel
  have hchosen : gatewayHost {} [] = "127.0.0.1" := by
    rw [gatewayHost, List.find?_nil]
    unfold exportedHost preferredHost
    exact if_pos rfl
  have hpath : mcpPath {} = "/mcp" := by decide +kernel
  have hnumber : (({} : AppConfiguration).mcpGateway.listenPort).toNat = 8080 := rfl
  rw [gatewayUrl, hchosen, hhost, hnumber, hport, hpath]
  rfl

theorem read_defaultProfile :
    exportFormat.read (exportFormat.dump defaultProfile) = some defaultProfile := by
  have hclaude : (asciiBytes claudeText)[5]? = some 109 := by
    unfold asciiBytes claudeText
    simp only [String.toList_append]
    rw [String.toList_ofList]
    rfl
  have hprofile : (asciiBytes profileText)[5]? = some 98 := by
    unfold asciiBytes profileText
    simp only [String.toList_append]
    rw [String.toList_ofList]
    rfl
  have hne : asciiBytes profileText ≠ asciiBytes claudeText := by
    intro h
    rw [h, hclaude] at hprofile
    exact absurd (Option.some.inj hprofile) (by decide)
  unfold exportFormat defaultProfile gatewayProfile
  dsimp only
  rw [readExported, if_neg hne]
  exact if_pos rfl

theorem read_defaultClaude : exportFormat.read (exportFormat.dump (claudeJson defaultUrl)) =
    some (claudeJson defaultUrl) := by
  unfold exportFormat claudeJson
  dsimp only
  rw [readExported]
  exact if_pos rfl

theorem plainSources_default : PlainSources {} [] := by
  refine plainSources_iff.mpr ⟨?_, ?_⟩
  · have hpath : (({} : AppConfiguration).mcpGateway.mcpPath).toList.all isInert = true := by
      decide +kernel
    exact List.all_eq_true.mp hpath
  · have hhost : gatewayHost {} [] = "127.0.0.1" := by
      rw [gatewayHost, List.find?_nil]
      unfold exportedHost preferredHost
      exact if_pos rfl
    have hinert : "127.0.0.1".toList.all isInert = true := rfl
    rw [hhost]
    exact ⟨List.all_eq_true.mp hinert, by decide +kernel, fun _ => by decide +kernel⟩

theorem saysExactlyUrl_default : SaysExactlyUrl exportFormat {} []
    (generateExports exportFormat sampleConversions {} [] "2026-01-01T00:00:00Z") := by
  have hclaude := read_defaultClaude
  rw [← gatewayUrl_default] at hclaude
  exact (saysExactlyUrl_iff exportFormat sampleConversions {} [] "2026-01-01T00:00:00Z"
    read_defaultProfile hclaude).mpr plainSources_default

/-- A path that ends the literal and starts a statement of its own. -/
def quotedConfiguration : AppConfiguration :=
  { mcpGateway := { mcpPath := "/mcp'; Stop-Computer; '" } }

/-- The wildcard as the host to fall back to. -/
def wildcardConfiguration : AppConfiguration :=
  { activeProfile := { preferredBindAddress := "0.0.0.0" } }

/-- The path ends the literal of the installer; and the wildcard is exported as a host. -/
theorem not_saysExactlyUrl :
    ¬ SaysExactlyUrl exportFormat quotedConfiguration []
      (generateExports exportFormat sampleConversions quotedConfiguration []
        "2026-01-01T00:00:00Z") ∧
    ¬ SaysExactlyUrl exportFormat wildcardConfiguration []
      (generateExports exportFormat sampleConversions wildcardConfiguration []
        "2026-01-01T00:00:00Z") := by
  constructor
  · intro h
    have hquotes := h.claudeInstaller
    rw [textOf_eq (contentOf_generateExports _ _ _ _ _).2.2.1, Option.bind_some,
      readScript_claude_iff] at hquotes
    have hpath : '\'' ∈ (mcpPath quotedConfiguration).toList := by decide +kernel
    have hurl : '\'' ∈ (gatewayUrl quotedConfiguration []).toList := by
      rw [gatewayUrl, String.toList_append]
      exact List.mem_append_right _ hpath
    exact absurd (hquotes _ hurl) (by decide)
  · intro h
    have hhost : gatewayHost wildcardConfiguration [] = "0.0.0.0" := by
      rw [gatewayHost, List.find?_nil]
      unfold exportedHost preferredHost
      exact if_neg (by decide +kernel)
    have hspecified := h.host
    rw [hhost] at hspecified
    exact absurd hspecified (by decide +kernel)

end Artifacts

end Exports
end Clients
end MasterControl
