import Plug.KeyedLists
import Plug.ServerConfigs
import Plug.TextSearch

/-!
# Duplicates among imported servers

An import leaves out a server that was found before or that the configuration has. Two servers are
taken to be one if their signatures are: a text of the transport and of the command with its
arguments, the address or the specification. The arguments stand in it with blanks between, so it
does not tell where an argument with a blank in it ends.
-/

namespace Plug.Import

open FirstOccurrences (fresh)
open Reload (ServerConfig TransportType)

/-- A configuration with the settings that every imported server gets. -/
def importedConfig (transport : TransportType) (command : Option String) (args : List String)
    (url : Option String) (env : List (String × String)) (enabled : Bool) : ServerConfig where
  command := command
  args := args
  env := env
  enabled := enabled
  transport := transport
  protocolMode := .legacy
  url := url
  authToken := none
  auth := none
  oauthClientId := none
  oauthScopes := none
  timeoutSecs := 30
  callTimeoutSecs := 300
  maxConcurrent := 1
  healthCheckIntervalSecs := 60
  circuitBreakerEnabled := true
  enrichment := false
  toolRenames := []
  toolGroups := []
  sandbox := none
  spec := none
  operations := []
  tokenIn := none

inductive ClientSource where
  | claudeDesktop
  | claudeCode
  | cursor
  | devin
  | vsCodeCopilot
  | copilotCli
  | geminiCli
  | codexCli
  | grokBuild
  | openCode
  | zed
  | cline
  | clineCli
  | rooCode
  | factory
  | nanobot
  | junie
  | kilo
  | pi
  | warp
  | kiro
  | kimiCode
  | qwenCode
  | antigravity
  | goose
  | hermes
  | amp
  | openClaw
  | lmStudio
  | museCode
deriving DecidableEq

structure DiscoveredServer where
  name : String
  config : ServerConfig
  source : ClientSource

structure ScanResult where
  source : ClientSource
  servers : List DiscoveredServer
  error : Option String

structure ImportReport where
  scanned : List ScanResult
  newServers : List DiscoveredServer
  skipped : Nat
  duplicatesMerged : Nat

def serverSignature (config : ServerConfig) : List Char :=
  match config.transport with
  | .stdio =>
    let command := (config.command.getD "").toList
    let args := List.intercalate [' '] (config.args.map String.toList)
    "stdio:".toList ++ (command ++ ' ' :: args)
  | .http => "http:".toList ++ (config.url.getD "").toList
  | .sse => "sse:".toList ++ (config.url.getD "").toList
  | .openApi => "openapi:".toList ++ (config.spec.getD "").toList

/-- Without the servers whose signature was seen. -/
def retainUnseen (seen : List (List Char)) : List DiscoveredServer → List DiscoveredServer
  | [] => []
  | server :: rest =>
    let signature := serverSignature server.config
    if signature ∈ seen then retainUnseen seen rest
    else server :: retainUnseen (signature :: seen) rest

def dedupServers (servers : List DiscoveredServer) : List DiscoveredServer :=
  retainUnseen [] servers

def isExistingServer (discovered : DiscoveredServer) (existingSigs : List (List Char)) : Bool :=
  decide (serverSignature discovered.config ∈ existingSigs)

/-- There is no difference below zero. -/
def checkedSub (first second : Nat) : Option Nat :=
  if second ≤ first then some (first - second) else none

/-- What an import reports of the servers of the clients that were scanned. -/
def importServers (existing : List (String × ServerConfig)) (scanned : List ScanResult) :
    Option ImportReport := do
  let allDiscovered := scanned.flatMap ScanResult.servers
  let duplicatesBefore := allDiscovered.length
  let distinct := dedupServers allDiscovered
  let duplicatesMerged ← checkedSub duplicatesBefore distinct.length
  let existingSigs := existing.map fun server => serverSignature server.2
  let newServers := distinct.filter fun server => !isExistingServer server existingSigs
  let unmerged ← checkedSub duplicatesBefore duplicatesMerged
  let skipped ← checkedSub unmerged newServers.length
  pure ⟨scanned, newServers, skipped, duplicatesMerged⟩

/-! ### What a server is -/

/-- What tells servers apart: the transport, and what that starts or connects to. -/
inductive Target where
  | stdio (command : Option String) (args : List String)
  | http (url : Option String)
  | sse (url : Option String)
  | openApi (spec : Option String)
deriving DecidableEq

def target (config : ServerConfig) : Target :=
  match config.transport with
  | .stdio => .stdio config.command config.args
  | .http => .http config.url
  | .sse => .sse config.url
  | .openApi => .openApi config.spec

/-- What a signature tells: of a command and its arguments the pieces between blanks, where no
arguments are one empty argument, and of what is missing that it is empty. -/
def Target.told : Target → TransportType × List (List Char)
  | .stdio command args =>
    let words := command.getD "" :: if args = [] then [""] else args
    (.stdio, words.flatMap fun word => word.toList.splitOn ' ')
  | .http url => (.http, [(url.getD "").toList])
  | .sse url => (.sse, [(url.getD "").toList])
  | .openApi spec => (.openApi, [(spec.getD "").toList])

theorem splitOn_intercalate (words : List (List Char)) (some : words ≠ []) :
    (List.intercalate [' '] words).splitOn ' ' = words.flatMap fun word => word.splitOn ' ' := by
  induction words with
  | nil => exact absurd rfl some
  | cons word words ih =>
    cases words with
    | nil => simp [List.intercalate]
    | cons next words =>
      have later := ih (List.cons_ne_nil _ _)
      have joined : List.intercalate [' '] (word :: next :: words) =
          word ++ ' ' :: List.intercalate [' '] (next :: words) := by
        simp [List.intercalate]
      rw [joined, List.splitOn_append_cons_self, later]
      rfl

/-! ### What signatures tell -/

def label : TransportType → List Char
  | .stdio => "stdio".toList
  | .http => "http".toList
  | .sse => "sse".toList
  | .openApi => "openapi".toList

theorem colon_notMem_label (transport : TransportType) : ':' ∉ label transport := by
  cases transport <;> decide

theorem label_injective {transport other : TransportType} (same : label transport = label other) :
    transport = other := by
  revert same
  cases transport <;> cases other <;> decide

theorem label_inj {transport other : TransportType} {text rest : List Char}
    (same : label transport ++ ':' :: text = label other ++ ':' :: rest) :
    transport = other ∧ text = rest := by
  have split := Text.splitOnce_character (colon_notMem_label transport) text
  rw [same, Text.splitOnce_character (colon_notMem_label other) rest, Option.some.injEq,
    Prod.mk.injEq] at split
  exact ⟨(label_injective split.1).symm, split.2.symm⟩

def words (command : Option String) (args : List String) : List (List Char) :=
  (command.getD "" :: if args = [] then [""] else args).map String.toList

theorem intercalate_words (command : Option String) (args : List String) :
    List.intercalate [' '] (words command args) =
      (command.getD "").toList ++ ' ' :: List.intercalate [' '] (args.map String.toList) := by
  cases args with
  | nil => simp [words, List.intercalate]
  | cons arg args => simp [words, List.intercalate]

theorem told_stdio (command : Option String) (args : List String) :
    (Target.stdio command args).told =
      (.stdio, ((command.getD "").toList ++
        ' ' :: List.intercalate [' '] (args.map String.toList)).splitOn ' ') := by
  have filled : words command args ≠ [] := List.cons_ne_nil _ _
  rw [← intercalate_words, splitOn_intercalate _ filled, words, List.flatMap_map]
  rfl

/-- The text of a signature is known from what it tells. -/
theorem signature_told (config : ServerConfig) : serverSignature config =
    label (target config).told.1 ++ ':' :: List.intercalate [' '] (target config).told.2 := by
  have single : ∀ text : List Char, List.intercalate [' '] [text] = text := by
    simp [List.intercalate]
  unfold serverSignature target
  cases config.transport with
  | stdio =>
    dsimp only
    rw [told_stdio, List.intercalate_splitOn]
    rfl
  | http => exact congrArg ("http:".toList ++ ·) (single _).symm
  | sse => exact congrArg ("sse:".toList ++ ·) (single _).symm
  | openApi => exact congrArg ("openapi:".toList ++ ·) (single _).symm

/-- What is told is known from the transport and the text. -/
def retold (transport : TransportType) (text : List Char) : List (List Char) :=
  if transport = .stdio then text.splitOn ' ' else [text]

theorem told_eq (target : Target) :
    target.told.2 = retold target.told.1 (List.intercalate [' '] target.told.2) := by
  have single : ∀ text : List Char, List.intercalate [' '] [text] = text := by
    simp [List.intercalate]
  cases target with
  | stdio command args =>
    rw [told_stdio, List.intercalate_splitOn]
    rfl
  | http url => exact congrArg (fun text => [text]) (single _).symm
  | sse url => exact congrArg (fun text => [text]) (single _).symm
  | openApi spec => exact congrArg (fun text => [text]) (single _).symm

/-- Two signatures are one if and only if they tell the same. -/
theorem signature_eq_iff (config other : ServerConfig) :
    serverSignature config = serverSignature other ↔
      (target config).told = (target other).told := by
  rw [signature_told, signature_told]
  refine ⟨fun same => ?_, fun same => by rw [same]⟩
  obtain ⟨transport, text⟩ := label_inj same
  refine Prod.ext transport ?_
  rw [told_eq (target config), text, transport, ← told_eq]

/-! ### What an import leaves out -/

/-- The servers that are left are those whose signature is new. -/
theorem retainUnseen_filter {known : List ServerConfig} {seen existingSigs : List (List Char)}
    (tells : ∀ signature, signature ∈ known.map serverSignature ↔
      signature ∈ seen ∨ signature ∈ existingSigs) (servers : List DiscoveredServer) :
    (retainUnseen seen servers).filter (fun server => !isExistingServer server existingSigs) =
      fresh DiscoveredServer.config serverSignature known servers := by
  induction servers generalizing known seen with
  | nil => rfl
  | cons server rest ih =>
    have whole : ∀ signature,
        signature ∈ (known ++ [server.config]).map serverSignature ↔
          (signature = serverSignature server.config ∨ signature ∈ seen) ∨
            signature ∈ existingSigs := by
      intro signature
      rw [List.map_append, List.mem_append, tells, List.map_singleton, List.mem_singleton]
      exact or_comm.trans or_assoc.symm
    rw [retainUnseen, fresh]
    by_cases earlier : serverSignature server.config ∈ seen
    · rw [if_pos earlier, if_pos ((tells _).mpr (Or.inl earlier))]
      refine ih fun signature => (whole signature).trans ?_
      refine or_congr_left (or_iff_right_of_imp ?_)
      rintro rfl
      exact earlier
    · have behind := @ih (known ++ [server.config])
        (serverSignature server.config :: seen) fun signature =>
          (whole signature).trans (or_congr_left List.mem_cons.symm)
      rw [if_neg earlier, List.filter_cons, behind]
      by_cases existing : serverSignature server.config ∈ existingSigs
      · rw [if_pos ((tells _).mpr (Or.inr existing)), isExistingServer, decide_eq_true existing]
        rfl
      · have unknown : serverSignature server.config ∉ known.map serverSignature :=
          fun member => ((tells _).mp member).elim earlier existing
        rw [if_neg unknown, isExistingServer, decide_eq_false existing]
        rfl

theorem retainUnseen_sublist (seen : List (List Char)) (servers : List DiscoveredServer) :
    (retainUnseen seen servers).Sublist servers := by
  induction servers generalizing seen with
  | nil => exact List.Sublist.slnil
  | cons server rest ih =>
    rw [retainUnseen]
    split
    · exact (ih seen).cons server
    · exact (ih _).cons_cons server

/-- The servers of an import without the true duplicates: a server is left out if an earlier one or
one of the configuration has its target. -/
def trulyNew (existing : List (String × ServerConfig)) (discovered : List DiscoveredServer) :
    List DiscoveredServer :=
  fresh DiscoveredServer.config target (existing.map Prod.snd) discovered

/-- The configurations that a discovered server is compared with. -/
def before (existing : List (String × ServerConfig)) (front : List DiscoveredServer) :
    List ServerConfig :=
  existing.map Prod.snd ++ front.map DiscoveredServer.config

/-- A server that tells the same as one before it is a true duplicate of one before it. -/
def TellsApart (existing : List (String × ServerConfig)) (discovered : List DiscoveredServer) :
    Prop :=
  ∀ front server, front ++ [server] <+: discovered →
    (∃ other ∈ before existing front, (target other).told = (target server.config).told) →
      ∃ other ∈ before existing front, target other = target server.config

theorem checkedSub_eq {first second : Nat} (less : second ≤ first) :
    checkedSub first second = some (first - second) := if_pos less

/-- No count is below zero, and the counts add up. -/
theorem import_new (existing : List (String × ServerConfig)) (scanned : List ScanResult) :
    ∃ report, importServers existing scanned = some report ∧
      report.newServers = fresh DiscoveredServer.config serverSignature (existing.map Prod.snd)
        (scanned.flatMap ScanResult.servers) ∧
      report.newServers.length + report.skipped + report.duplicatesMerged =
        (scanned.flatMap ScanResult.servers).length := by
  let found := (scanned.flatMap ScanResult.servers).length
  let distinct := dedupServers (scanned.flatMap ScanResult.servers)
  let newServers := distinct.filter fun server =>
    !isExistingServer server (existing.map fun server => serverSignature server.2)
  have merged : distinct.length ≤ found :=
    (retainUnseen_sublist [] (scanned.flatMap ScanResult.servers)).length_le
  have fewer : newServers.length ≤ distinct.length := List.length_filter_le _ _
  have rest : newServers.length ≤ found - (found - distinct.length) := by
    omega
  refine ⟨⟨scanned, newServers, found - (found - distinct.length) - newServers.length,
    found - distinct.length⟩, ?_, ?_, ?_⟩
  · have whole : importServers existing scanned =
        (checkedSub found distinct.length).bind fun duplicatesMerged =>
          (checkedSub found duplicatesMerged).bind fun unmerged =>
            (checkedSub unmerged newServers.length).bind fun skipped =>
              some ⟨scanned, newServers, skipped, duplicatesMerged⟩ := rfl
    rw [whole, checkedSub_eq merged, Option.bind_some, checkedSub_eq (Nat.sub_le _ _),
      Option.bind_some, checkedSub_eq rest, Option.bind_some]
  · refine retainUnseen_filter (fun signature => ?_) _
    rw [List.map_map]
    exact ⟨Or.inr, fun member => member.resolve_left List.not_mem_nil⟩
  · show newServers.length + (found - (found - distinct.length) - newServers.length) +
      (found - distinct.length) = found
    omega

theorem signature_blurs : serverSignature = (fun target =>
    label target.told.1 ++ ':' :: List.intercalate [' '] target.told.2) ∘ target :=
  funext signature_told

/-- For all servers that are found and every configuration: what an import reports as new is in the
order of what was found, and the counts add up to it. The servers that it leaves out are the true
duplicates if and only if every server that tells the same as one before it is one of them. -/
theorem duplicates_dropped_iff (existing : List (String × ServerConfig))
    (scanned : List ScanResult) :
    ∃ report, importServers existing scanned = some report ∧
      report.newServers.Sublist (scanned.flatMap ScanResult.servers) ∧
      report.newServers.length + report.skipped + report.duplicatesMerged =
        (scanned.flatMap ScanResult.servers).length ∧
      (report.newServers = trulyNew existing (scanned.flatMap ScanResult.servers) ↔
        TellsApart existing (scanned.flatMap ScanResult.servers)) := by
  obtain ⟨report, imported, news, counts⟩ := import_new existing scanned
  refine ⟨report, imported, ?_, counts, ?_⟩
  · rw [news]
    exact FirstOccurrences.fresh_sublist _
  · rw [news, trulyNew, signature_blurs, FirstOccurrences.fresh_eq_iff, ← signature_blurs]
    simp only [List.mem_map, signature_eq_iff]
    rfl

def listServer (name : String) (args : List String) : DiscoveredServer where
  name := name
  config := importedConfig .stdio (some "npx") args none [] true
  source := .cursor

/-- A server whose only argument has a blank in it is lost behind one with two arguments. -/
theorem blank_argument_lost :
    ¬ ∀ (existing : List (String × ServerConfig)) (scanned : List ScanResult) report,
      importServers existing scanned = some report →
        report.newServers = trulyNew existing (scanned.flatMap ScanResult.servers) := by
  intro all
  let servers := [listServer "list" ["ls", "-a"], listServer "file" ["ls -a"]]
  obtain ⟨report, imported, news, _⟩ := import_new [] [⟨.cursor, servers, none⟩]
  have size := congrArg List.length (news.symm.trans (all [] _ report imported))
  revert size
  decide +kernel

end Plug.Import
