import Plug.Base64
import Plug.JsonValues
import Plug.Tables
import Plug.Utf8

/-!
# Results kept as artifacts

A tool result that is too large to send is written to a directory of its own, with a file that
describes it, and the client reads it in chunks of bytes. The directories outlive the process: a
new store reads them back and removes those that are too old or too many.
-/

namespace Plug.Artifacts

open ByteStreams (chunkAt)
open JsonValues (Value)
open Text (byteLength)

def inlineResultMaxBytes : Nat := 524288
def artifactResultMinBytes : Nat := 16777216
def artifactStoreMaxBytes : UInt64 := 5368709120
def artifactChunkBytes : Nat := 131072
def previewTextChars : Nat := 4000

/-- 72 hours in nanoseconds. -/
def artifactRetention : Nat := 259200000000000

def nanosPerSecond : Nat := 1000000000

def schemePrefix : List Char := "plug://artifact/".toList
def metadataFile : List Char := "metadata.json".toList
def payloadFile : List Char := "result.json".toList

inductive ContentBlock where
  | text (text : List Char)
  | image (block : Value)
  | resource (block : Value)
  | other (block : Value)

def ContentBlock.asText : ContentBlock → Option (List Char)
  | .text content => some content
  | _ => none

structure CallToolResult where
  content : List ContentBlock
  structuredContent : Option Value
  isError : Option Bool

/-- A file in the directory of an artifact. -/
structure FilePath where
  directory : List Char
  file : List Char
deriving DecidableEq

structure ArtifactRecord where
  id : List Char
  sourceTool : List Char
  sourceServer : Option (List Char)
  sourceOwnTool : Option (List Char)
  originalSizeBytes : Nat
  /-- Nanoseconds since the epoch. -/
  createdAt : Nat
  expiresAt : Nat
  payloadPath : FilePath
  materializedPath : Option FilePath
  chunkCount : Nat
  preview : List Char
deriving DecidableEq

structure ArtifactMetadata where
  id : List Char
  sourceTool : List Char
  sourceServer : Option (List Char)
  sourceOwnTool : Option (List Char)
  originalSizeBytes : Nat
  createdAtSecs : Nat
  expiresAtSecs : Nat
  payloadFile : List Char
  materializedFile : Option (List Char)
  chunkCount : Nat
  preview : List Char
deriving DecidableEq

/-- What the store takes from elsewhere: the reading and writing of JSON, the file system's names
and how times and paths are printed. -/
structure Platform where
  resultText : CallToolResult → List Char
  resultFrom : List UInt8 → Option CallToolResult
  valueText : Value → List Char
  fromStr : List Char → Option Value
  metadataText : ArtifactMetadata → List UInt8
  metadataFrom : List UInt8 → Option ArtifactMetadata
  /-- Two names with one folding are one file. -/
  fold : List Char → List Char
  /-- A file can have this name. -/
  named : List Char → Bool
  pathDisplay : FilePath → List Char
  timeDebug : Nat → List Char

/-! ### Files -/

structure Directory where
  files : List (List Char × List UInt8)
  modified : Nat

/-- The directories by their names, which are the ids. -/
abbrev Disk := List (List Char × Directory)

def Directory.read (platform : Platform) (directory : Directory) (name : List Char) :
    Option (List UInt8) :=
  (directory.files.find? fun file => platform.fold file.1 = platform.fold name).map Prod.snd

/-- The file is replaced under the name it has, or added. -/
def Directory.write (platform : Platform) (directory : Directory) (now : Nat) (name : List Char)
    (bytes : List UInt8) : Option Directory :=
  if platform.named name then
    let same (file : List Char × List UInt8) : Bool := platform.fold file.1 = platform.fold name
    let held := directory.files.find? same
    some ⟨((held.map Prod.fst).getD name, bytes) :: directory.files.filter fun file => !same file, now⟩
  else none

structure ArtifactStore where
  disk : Disk
  records : List (List Char × ArtifactRecord)

def insert {Held : Type} (table : List (List Char × Held)) (id : List Char) (held : Held) :
    List (List Char × Held) :=
  (id, held) :: table.filter fun entry => !(entry.1 == id)

/-- The table without some ids. -/
def without {Held : Type} (table : List (List Char × Held)) (removed : List Char → Bool) :
    List (List Char × Held) :=
  table.filter fun entry => !removed entry.1

/-! ### Spilling -/

def looksLikeAttachmentJson (platform : Platform) (text : List Char) : Bool :=
  match platform.fromStr text with
  | some (.object members) =>
    let value := Value.object members
    let encoding := (value.member? "encoding").bind Value.asStr
    ((value.member? "filename").bind Value.asStr).isSome &&
      (encoding == some "base64" || encoding == some "none") &&
      ((value.member? "content").bind Value.asStr).isSome
  | _ => false

def contentIsArtifactish (platform : Platform) : ContentBlock → Bool
  | .image _ => true
  | .resource _ => true
  | .text text => 262144 < byteLength text && looksLikeAttachmentJson platform text
  | .other _ => false

def shouldArtifactize (platform : Platform) (sourceTool : List Char) (result : CallToolResult)
    (size : Nat) : Bool :=
  artifactResultMinBytes ≤ size ||
    "attachment_get_data".toList.isSuffixOf sourceTool ||
    "attachment_blob".toList.isSuffixOf sourceTool ||
    result.content.any (contentIsArtifactish platform)

def buildPreview (platform : Platform) (result : CallToolResult) : List Char :=
  let texts := (result.content.filterMap ContentBlock.asText).filter (· ≠ [])
  let parts := if texts = [] then (result.structuredContent.map platform.valueText).toList else texts
  let preview := List.intercalate "\n\n".toList parts
  if previewTextChars < preview.length then preview.take previewTextChars ++ ['…'] else preview

def sanitizeFilename (name : List Char) : List Char :=
  name.map fun character =>
    if character == '/' || character == '\\' || character == ':' || character == Char.ofNat 0 then '_'
    else character

/-- The name and the bytes of the attachment that a text is. An attachment whose content cannot
be decoded is an error, which is no result. -/
def attachment (platform : Platform) (source : Option (List Char)) :
    Option (Option (List Char × List UInt8)) :=
  match source.bind platform.fromStr with
  | some (.object members) =>
    let value := Value.object members
    match (value.member? "filename").bind Value.asStr, (value.member? "content").bind Value.asStr with
    | some filename, some content =>
      let encoding := ((value.member? "encoding").bind Value.asStr).getD "none"
      let bytes := Utf8.encode content.toList
      let name := sanitizeFilename filename.toList
      if encoding = "base64" then (Base64.decodeStrict bytes).map fun decoded => some (name, decoded)
      else if encoding = "none" then some (some (name, bytes))
      else some none
    | _, _ => some none
  | _ => some none

def maybeMaterializeAttachment (platform : Platform) (directory : Directory) (now : Nat)
    (source : Option (List Char)) : Option (Directory × Option (List Char)) :=
  (attachment platform source).bind fun found =>
    match found with
    | some (name, bytes) => (directory.write platform now name bytes).map fun written => (written, some name)
    | none => some (directory, none)

def writeMetadata (platform : Platform) (directory : Directory) (now : Nat) (record : ArtifactRecord) :
    Option Directory :=
  directory.write platform now metadataFile (platform.metadataText
    { id := record.id
      sourceTool := record.sourceTool
      sourceServer := record.sourceServer
      sourceOwnTool := record.sourceOwnTool
      originalSizeBytes := record.originalSizeBytes
      createdAtSecs := record.createdAt / nanosPerSecond
      expiresAtSecs := record.expiresAt / nanosPerSecond
      payloadFile := record.payloadPath.file
      materializedFile := record.materializedPath.map FilePath.file
      chunkCount := record.chunkCount
      preview := record.preview })

/-- What became of a tool result. -/
inductive Spilled where
  | inline
  | unpersistable (size : Nat) (preview : List Char)
  | failed
  | artifact (record : ArtifactRecord)

def divCeil (size chunk : Nat) : Nat :=
  (size + (chunk - 1)) / chunk

/-- The text of the result that can be an attachment. -/
def attachmentSource (result : CallToolResult) : Option (List Char) :=
  result.content.findSome? ContentBlock.asText

def recordOf (platform : Platform) (id : List Char) (now : Nat)
    (source : Option (List Char × List Char)) (sourceTool : List Char) (result : CallToolResult)
    (materialized : Option (List Char)) : ArtifactRecord :=
  let size := byteLength (platform.resultText result)
  { id := id
    sourceTool := sourceTool
    sourceServer := source.map Prod.fst
    sourceOwnTool := source.map Prod.snd
    originalSizeBytes := size
    createdAt := now
    expiresAt := now + artifactRetention
    payloadPath := ⟨id, payloadFile⟩
    materializedPath := materialized.map fun file => ⟨id, file⟩
    chunkCount := divCeil size artifactChunkBytes
    preview := buildPreview platform result }

/-- The files of a result are written before its record, and stay when a later one fails. -/
def maybeSpillToolResultWithLimit (platform : Platform) (store : ArtifactStore) (id : List Char)
    (now : Nat) (source : Option (List Char × List Char)) (sourceTool : List Char)
    (result : CallToolResult) (maxStoreBytes : UInt64) : Spilled × ArtifactStore :=
  let text := platform.resultText result
  let size := byteLength text
  if size ≤ inlineResultMaxBytes || !shouldArtifactize platform sourceTool result size then
    (.inline, store)
  else if maxStoreBytes.toNat < size then
    (.unpersistable size (buildPreview platform result), store)
  else
    let created := (store.disk.lookup id).getD ⟨[], now⟩
    let onDisk (directory : Directory) : ArtifactStore :=
      { store with disk := insert store.disk id directory }
    match created.write platform now payloadFile (Utf8.encode text) with
    | none => (.failed, onDisk created)
    | some withPayload =>
      match maybeMaterializeAttachment platform withPayload now (attachmentSource result) with
      | none => (.failed, onDisk withPayload)
      | some (withAttachment, materialized) =>
        let record := recordOf platform id now source sourceTool result materialized
        match writeMetadata platform withAttachment now record with
        | none => (.failed, onDisk withAttachment)
        | some directory =>
          (.artifact record, { onDisk directory with records := insert store.records id record })

/-! ### Reading -/

inductive ArtifactRequestKind where
  | manifest
  | chunk (index : Nat)
deriving DecidableEq

structure ArtifactRequest where
  id : List Char
  kind : ArtifactRequestKind
deriving DecidableEq

def artifactChunkUri (id : List Char) (index : Nat) : List Char :=
  schemePrefix ++ id ++ "/chunk/".toList ++ Nat.toDigits 10 index

def parseArtifactUri (uri : List Char) : Option ArtifactRequest := do
  let rest ← Text.stripPrefix schemePrefix uri
  let (id, suffix) ← Text.splitOnce ['/'] rest
  let kind ←
    if suffix = "manifest".toList then some ArtifactRequestKind.manifest
    else
      (Text.stripPrefix "chunk/".toList suffix).bind fun chunk =>
        (Text.parseU64 chunk).map ArtifactRequestKind.chunk
  pure ⟨id, kind⟩

def buildManifestText (platform : Platform) (record : ArtifactRecord) : List Char :=
  "# Oversized Tool Result\n\nsource_tool: ".toList ++ record.sourceTool ++
    "\noriginal_size_bytes: ".toList ++ Nat.toDigits 10 record.originalSizeBytes ++
    "\nlocal_path: ".toList ++ platform.pathDisplay record.payloadPath ++
    "\nmaterialized_path: ".toList ++
    (record.materializedPath.map platform.pathDisplay).getD "none".toList ++
    "\nchunk_count: ".toList ++ Nat.toDigits 10 record.chunkCount ++
    "\nfirst_chunk_uri: ".toList ++ artifactChunkUri record.id 0 ++
    "\ncreated_at: ".toList ++ platform.timeDebug record.createdAt ++
    "\nexpires_at: ".toList ++ platform.timeDebug record.expiresAt ++
    "\n\n## Preview\n".toList ++ record.preview ++ "\n".toList

inductive ReadError where
  | notFound
  | expired
  | chunkIndexOverflow
  | noFile
  | chunkIndexOutOfRange
deriving DecidableEq

/-- The bytes of one chunk of the payload's file, each chunk read as text of its own. -/
def readChunkText (platform : Platform) (disk : Disk) (record : ArtifactRecord) (index : Nat) :
    Except ReadError (List Char) :=
  if 18446744073709551615 < index * artifactChunkBytes then .error .chunkIndexOverflow
  else
    match (disk.lookup record.payloadPath.directory).bind fun directory =>
        directory.read platform record.payloadPath.file with
    | none => .error .noFile
    | some bytes =>
      if bytes.length ≤ index * artifactChunkBytes then .error .chunkIndexOutOfRange
      else .ok (Utf8.fromUtf8Lossy (chunkAt artifactChunkBytes bytes index))

def read (platform : Platform) (store : ArtifactStore) (now : Nat) (uri : List Char) :
    Except ReadError (List Char) × ArtifactStore :=
  match parseArtifactUri uri with
  | none => (.error .notFound, store)
  | some request =>
    match store.records.lookup request.id with
    | none => (.error .notFound, store)
    | some record =>
      if record.expiresAt < now then
        (.error .expired,
          ⟨without store.disk (· == request.id), without store.records (· == request.id)⟩)
      else
        match request.kind with
        | .manifest => (.ok (buildManifestText platform record), store)
        | .chunk index => (readChunkText platform store.disk record index, store)

/-! ### Opening a store -/

/-- The record that the files of a directory describe. -/
def loadRecordFromDir (platform : Platform) (name : List Char) (directory : Directory) :
    Option ArtifactRecord :=
  match directory.read platform metadataFile with
  | some bytes => (platform.metadataFrom bytes).map fun metadata =>
    { id := metadata.id
      sourceTool := metadata.sourceTool
      sourceServer := metadata.sourceServer
      sourceOwnTool := metadata.sourceOwnTool
      originalSizeBytes := metadata.originalSizeBytes
      createdAt := metadata.createdAtSecs * nanosPerSecond
      expiresAt := metadata.expiresAtSecs * nanosPerSecond
      payloadPath := ⟨name, metadata.payloadFile⟩
      materializedPath := metadata.materializedFile.map fun file => ⟨name, file⟩
      chunkCount := metadata.chunkCount
      preview := metadata.preview }
  | none => do
    let payload ← directory.read platform payloadFile
    let result ← platform.resultFrom payload
    let materialized := directory.files.find? fun file => file.1 ≠ payloadFile
    pure
      { id := name
        sourceTool := "unknown".toList
        sourceServer := none
        sourceOwnTool := none
        originalSizeBytes := payload.length
        createdAt := directory.modified
        expiresAt := directory.modified + artifactRetention
        payloadPath := ⟨name, payloadFile⟩
        materializedPath := materialized.map fun file => ⟨name, file.1⟩
        chunkCount := divCeil payload.length artifactChunkBytes
        preview := buildPreview platform result }

def rehydrateEntry (platform : Platform) (store : ArtifactStore) (entry : List Char × Directory) :
    ArtifactStore :=
  match loadRecordFromDir platform entry.1 entry.2 with
  | some record => { store with records := insert store.records record.id record }
  | none => store

def rehydrateFromDisk (platform : Platform) (disk : Disk) : ArtifactStore :=
  disk.foldl (rehydrateEntry platform) ⟨disk, []⟩

def directorySize (directory : Directory) : Nat :=
  (directory.files.map fun file => file.2.length).sum

/-- The oldest directories go until the rest is small enough. -/
def removeOldest (maxBytes : Nat) : List (List Char × Directory) → Nat → ArtifactStore → ArtifactStore
  | [], _, store => store
  | oldest :: later, total, store =>
    if total ≤ maxBytes then store
    else removeOldest maxBytes later (total - directorySize oldest.2)
      ⟨without store.disk (· == oldest.1), without store.records (· == oldest.1)⟩

/-- Records that expired go with their directories, then directories that are too old, without
their records, and then the oldest ones while they are too large together. -/
def pruneWithLimits (store : ArtifactStore) (now retention maxBytes : Nat) : ArtifactStore :=
  let expired := (store.records.filter fun entry => entry.2.expiresAt ≤ now).map fun entry =>
    entry.2.id
  let fresh : ArtifactStore :=
    ⟨without store.disk (expired.contains ·), without store.records (expired.contains ·)⟩
  let aged := (fresh.disk.filter fun entry => retention < now - entry.2.modified).map Prod.fst
  let kept : ArtifactStore := { fresh with disk := without fresh.disk (aged.contains ·) }
  let total := (kept.disk.map fun entry => directorySize entry.2).sum
  if maxBytes < total then
    removeOldest maxBytes
      (kept.disk.mergeSort fun first second => first.2.modified ≤ second.2.modified) total kept
  else kept

def prune (store : ArtifactStore) (now : Nat) : ArtifactStore :=
  pruneWithLimits store now artifactRetention artifactStoreMaxBytes.toNat

/-- A new store over the directories that are there. -/
def openStore (platform : Platform) (disk : Disk) (now : Nat) : ArtifactStore :=
  prune (rehydrateFromDisk platform disk) now

end Plug.Artifacts
