import Plug.ArtifactChunks

/-!
# Attachments of spilled results

A result that is large enough is written to a directory of its own, and an attachment in its first
text is written next to the result's own two files, under the name that the text gives. The result
survives that exactly if the attachment can be decoded, and its name is that of a third file.
-/

namespace Plug.Artifacts

open JsonValues (Value)
open Text (byteLength byteLength_append)

variable {platform : Platform} {store : ArtifactStore} {id : List Char} {now : Nat}
  {source : Option (List Char × List Char)} {sourceTool : List Char} {result : CallToolResult}
  {maxStoreBytes : UInt64}

/-- The file system has the two files of an artifact, and no file of another directory under a
name in this one. -/
structure WorkingFiles (platform : Platform) : Prop where
  payload : platform.named payloadFile = true
  metadata : platform.named metadataFile = true
  apart : platform.fold metadataFile ≠ platform.fold payloadFile
  unnamed : platform.named [] = false
  itself : platform.named ['.'] = false
  parent : platform.named ['.', '.'] = false

/-- The result is large enough to be stored, and the store takes results of its size. -/
structure Stored (platform : Platform) (sourceTool : List Char) (result : CallToolResult)
    (maxStoreBytes : UInt64) : Prop where
  large : inlineResultMaxBytes < byteLength (platform.resultText result)
  artifact : shouldArtifactize platform sourceTool result (byteLength (platform.resultText result)) =
    true
  fits : byteLength (platform.resultText result) ≤ maxStoreBytes.toNat

def metadataOf (record : ArtifactRecord) : ArtifactMetadata where
  id := record.id
  sourceTool := record.sourceTool
  sourceServer := record.sourceServer
  sourceOwnTool := record.sourceOwnTool
  originalSizeBytes := record.originalSizeBytes
  createdAtSecs := record.createdAt / nanosPerSecond
  expiresAtSecs := record.expiresAt / nanosPerSecond
  payloadFile := record.payloadPath.file
  materializedFile := record.materializedPath.map FilePath.file
  chunkCount := record.chunkCount
  preview := record.preview

/-- A file directly in the directory, and another one than those of the artifact itself. -/
structure ThirdFile (platform : Platform) (id : List Char) (path : FilePath) : Prop where
  directly : path.directory = id
  slash : '/' ∉ path.file
  backslash : '\\' ∉ path.file
  proper : path.file ≠ [] ∧ path.file ≠ ['.'] ∧ path.file ≠ ['.', '.']
  notPayload : platform.fold path.file ≠ platform.fold payloadFile
  notMetadata : platform.fold path.file ≠ platform.fold metadataFile

/-- The result is stored: its files hold it and its record, and its attachment is a third file. -/
def Unharmed (platform : Platform) (id : List Char) (result : CallToolResult)
    (spilled : Spilled × ArtifactStore) : Prop :=
  ∃ record directory, spilled.1 = .artifact record ∧ spilled.2.disk.lookup id = some directory ∧
    directory.read platform payloadFile = some (Utf8.encode (platform.resultText result)) ∧
    directory.read platform metadataFile = some (platform.metadataText (metadataOf record)) ∧
    ∀ path, record.materializedPath = some path → ThirdFile platform id path

/-- The first text of the result is an object with these texts, where an encoding that is missing
is none. -/
def Attached (platform : Platform) (result : CallToolResult) (filename content encoding : String) :
    Prop :=
  ∃ text members, attachmentSource result = some text ∧
    platform.fromStr text = some (.object members) ∧
    ((Value.object members).member? "filename").bind Value.asStr = some filename ∧
    ((Value.object members).member? "content").bind Value.asStr = some content ∧
    (((Value.object members).member? "encoding").bind Value.asStr).getD "none" = encoding

/-- An attachment in Base64 can be decoded, and an attachment that is written has a name that a
file can have, other than the artifact's own files. -/
def Storable (platform : Platform) (result : CallToolResult) : Prop :=
  ∀ filename content encoding, Attached platform result filename content encoding →
    (encoding = "base64" → (Base64.decodeStrict (Utf8.encode content.toList)).isSome = true) ∧
      (encoding = "base64" ∨ encoding = "none" →
        platform.named (sanitizeFilename filename.toList) = true ∧
        platform.fold (sanitizeFilename filename.toList) ≠ platform.fold payloadFile ∧
        platform.fold (sanitizeFilename filename.toList) ≠ platform.fold metadataFile)

/-! ### The attachment -/

/-- What the attachment of a result is, when nothing keeps it from being written. -/
theorem attachment_attached {filename content encoding : String}
    (attached : Attached platform result filename content encoding) :
    attachment platform (attachmentSource result) =
      if encoding = "base64" then
        (Base64.decodeStrict (Utf8.encode content.toList)).map fun decoded =>
          some (sanitizeFilename filename.toList, decoded)
      else if encoding = "none" then
        some (some (sanitizeFilename filename.toList, Utf8.encode content.toList))
      else some none := by
  obtain ⟨text, members, isSource, parsed, isFilename, isContent, isEncoding⟩ := attached
  rw [attachment, isSource, Option.bind_some, parsed]
  dsimp only
  rw [isFilename, isContent, isEncoding]

theorem attachment_unattached
    (unattached : ∀ filename content encoding, ¬ Attached platform result filename content encoding) :
    attachment platform (attachmentSource result) = some none := by
  unfold attachment
  split
  · rename_i members parsed
    obtain ⟨text, isSource, parsed⟩ := Option.bind_eq_some_iff.mp parsed
    dsimp only
    split
    · rename_i filename content isFilename isContent
      exact absurd ⟨text, members, isSource, parsed, isFilename, isContent, rfl⟩
        (unattached filename content _)
    · rfl
  · rfl

theorem not_mem_sanitizeFilename (name : List Char) :
    '/' ∉ sanitizeFilename name ∧ '\\' ∉ sanitizeFilename name := by
  have each (character : Char) (bad : character = '/' ∨ character = '\\') :
      character ∉ sanitizeFilename name := by
    intro among
    obtain ⟨original, _, same⟩ := List.mem_map.mp among
    split at same
    · rcases bad with rfl | rfl <;> cases same
    · rename_i kept
      rcases bad with rfl | rfl <;> simp [same] at kept
  exact ⟨each '/' (.inl rfl), each '\\' (.inr rfl)⟩

/-- The file of an attachment that is written. -/
def MayBeWritten (platform : Platform) (found : Option (List Char × List UInt8)) : Prop :=
  ∀ name bytes, found = some (name, bytes) →
    platform.named name = true ∧ ('/' ∉ name ∧ '\\' ∉ name) ∧
      platform.fold name ≠ platform.fold payloadFile ∧
      platform.fold name ≠ platform.fold metadataFile

theorem storable_iff : Storable platform result ↔
    ∃ found, attachment platform (attachmentSource result) = some found ∧
      MayBeWritten platform found := by
  constructor
  · intro storable
    by_cases some : ∃ filename content encoding, Attached platform result filename content encoding
    · obtain ⟨filename, content, encoding, attached⟩ := some
      obtain ⟨decodes, named⟩ := storable filename content encoding attached
      rw [attachment_attached attached]
      have plain := not_mem_sanitizeFilename filename.toList
      by_cases base64 : encoding = "base64"
      · obtain ⟨decoded, isDecoded⟩ := Option.isSome_iff_exists.mp (decodes base64)
        obtain ⟨isNamed, apart⟩ := named (.inl base64)
        rw [if_pos base64, isDecoded]
        refine ⟨_, rfl, ?_⟩
        rintro name bytes ⟨⟩
        exact ⟨isNamed, plain, apart⟩
      · rw [if_neg base64]
        by_cases none : encoding = "none"
        · obtain ⟨isNamed, apart⟩ := named (.inr none)
          rw [if_pos none]
          refine ⟨_, rfl, ?_⟩
          rintro name bytes ⟨⟩
          exact ⟨isNamed, plain, apart⟩
        · rw [if_neg none]
          exact ⟨_, rfl, fun name bytes absent => by cases absent⟩
    · have unattached : ∀ filename content encoding,
          ¬ Attached platform result filename content encoding :=
        fun filename content encoding attached => some ⟨filename, content, encoding, attached⟩
      rw [attachment_unattached unattached]
      exact ⟨_, rfl, fun name bytes absent => by cases absent⟩
  · rintro ⟨found, isFound, written⟩ filename content encoding attached
    rw [attachment_attached attached] at isFound
    by_cases base64 : encoding = "base64"
    · rw [if_pos base64] at isFound
      obtain ⟨decoded, isDecoded, same⟩ := Option.map_eq_some_iff.mp isFound
      obtain ⟨isNamed, _, apart⟩ := written _ decoded same.symm
      exact ⟨fun _ => isDecoded ▸ rfl, fun _ => ⟨isNamed, apart⟩⟩
    · refine ⟨fun other => absurd other base64, fun either => ?_⟩
      have none : encoding = "none" := either.resolve_left base64
      rw [if_neg base64, if_pos none] at isFound
      obtain ⟨isNamed, _, apart⟩ := written _ _ (Option.some.inj isFound).symm
      exact ⟨isNamed, apart⟩

/-! ### The files -/

variable {directory : Directory}

theorem write_named {name : List Char} (named : platform.named name = true)
    (directory : Directory) (now : Nat) (bytes : List UInt8) :
    ∃ written, directory.write platform now name bytes = some written := by
  rw [Directory.write, if_pos named]
  exact ⟨_, rfl⟩

/-- What the spill returns once the attachment is written. -/
def described (platform : Platform) (store : ArtifactStore) (id : List Char) (directory : Directory)
    (now : Nat) (record : ArtifactRecord) : Spilled × ArtifactStore :=
  match writeMetadata platform directory now record with
  | none => (.failed, { store with disk := insert store.disk id directory })
  | some written =>
    (.artifact record, ⟨insert store.disk id written, insert store.records id record⟩)

/-- A result that is stored gets a directory with its payload, then its attachment, and then its
metadata. -/
theorem spill_stored (working : WorkingFiles platform)
    (stored : Stored platform sourceTool result maxStoreBytes) :
    ∃ withPayload : Directory,
      withPayload.read platform payloadFile = some (Utf8.encode (platform.resultText result)) ∧
      maybeSpillToolResultWithLimit platform store id now source sourceTool result maxStoreBytes =
        match maybeMaterializeAttachment platform withPayload now (attachmentSource result) with
        | none => (.failed, { store with disk := insert store.disk id withPayload })
        | some (withAttachment, materialized) =>
          described platform store id withAttachment now
            (recordOf platform id now source sourceTool result materialized) := by
  obtain ⟨withPayload, wrote⟩ := write_named working.payload
    ((store.disk.lookup id).getD ⟨[], now⟩) now (Utf8.encode (platform.resultText result))
  refine ⟨withPayload, read_write_same wrote rfl, ?_⟩
  have large : (byteLength (platform.resultText result) ≤ inlineResultMaxBytes ||
      !shouldArtifactize platform sourceTool result (byteLength (platform.resultText result))) =
        false := by
    rw [stored.artifact, decide_eq_false (Nat.not_le.mpr stored.large)]
    rfl
  rw [maybeSpillToolResultWithLimit]
  dsimp only
  rw [large, if_neg Bool.false_ne_true, if_neg (Nat.not_lt.mpr stored.fits), wrote]
  rfl

theorem lookup_insert_self (disk : Disk) : (insert disk id directory).lookup id = some directory := by
  rw [insert, List.lookup_cons, beq_self_eq_true]

theorem not_unharmed_failed {failed : ArtifactStore} :
    ¬ Unharmed platform id result (.failed, failed) := by
  rintro ⟨_, _, impossible, _⟩
  cases impossible

theorem described_eq (working : WorkingFiles platform) (record : ArtifactRecord) :
    ∃ written, directory.write platform now metadataFile
        (platform.metadataText (metadataOf record)) = some written ∧
      described platform store id directory now record =
        (.artifact record, ⟨insert store.disk id written, insert store.records id record⟩) := by
  obtain ⟨written, wrote⟩ := write_named working.metadata directory now
    (platform.metadataText (metadataOf record))
  have isWritten : writeMetadata platform directory now record = some written := wrote
  refine ⟨written, wrote, ?_⟩
  rw [described, isWritten]

theorem third_of_unharmed (working : WorkingFiles platform) {record : ArtifactRecord}
    {path : FilePath} (isPath : record.materializedPath = some path)
    (unharmed : Unharmed platform id result (described platform store id directory now record)) :
    ThirdFile platform id path := by
  obtain ⟨_, _, same⟩ := described_eq working record
  rw [same] at unharmed
  obtain ⟨_, _, isRecord, _, _, _, third⟩ := unharmed
  cases isRecord
  exact third path isPath

theorem unharmed_of_third (working : WorkingFiles platform) {record : ArtifactRecord}
    (payload : directory.read platform payloadFile = some (Utf8.encode (platform.resultText result)))
    (third : ∀ path, record.materializedPath = some path → ThirdFile platform id path) :
    Unharmed platform id result (described platform store id directory now record) := by
  obtain ⟨written, wrote, same⟩ := described_eq working record
  rw [same]
  refine ⟨record, written, rfl, lookup_insert_self store.disk, ?_, read_write_same wrote rfl, third⟩
  rw [read_write_other wrote working.apart]
  exact payload

/-- Spilling leaves a stored result unharmed exactly if its attachment, if it has one, can be
decoded and written to a third file. -/
theorem unharmed_iff (working : WorkingFiles platform)
    (stored : Stored platform sourceTool result maxStoreBytes) :
    Unharmed platform id result
        (maybeSpillToolResultWithLimit platform store id now source sourceTool result
          maxStoreBytes) ↔
      Storable platform result := by
  obtain ⟨withPayload, payload, spilled⟩ := spill_stored working stored
  rw [spilled, storable_iff, maybeMaterializeAttachment]
  cases isFound : attachment platform (attachmentSource result) with
  | none =>
    rw [Option.bind_none]
    refine iff_of_false not_unharmed_failed ?_
    rintro ⟨_, impossible, _⟩
    cases impossible
  | some found =>
    rw [Option.bind_some]
    cases found with
    | none =>
      refine iff_of_true (unharmed_of_third working payload ?_)
        ⟨none, rfl, fun _ _ absent => by cases absent⟩
      intro path absent
      cases absent
    | some file =>
      obtain ⟨name, bytes⟩ := file
      dsimp only
      cases named : platform.named name with
      | false =>
        rw [Directory.write, if_neg (by simp [named]), Option.map_none]
        refine iff_of_false not_unharmed_failed ?_
        rintro ⟨_, same, mayBeWritten⟩
        cases same
        have isNamed := (mayBeWritten name bytes rfl).1
        rw [named] at isNamed
        cases isNamed
      | true =>
        obtain ⟨written, wrote⟩ := write_named named withPayload now bytes
        rw [wrote, Option.map_some]
        constructor
        · intro unharmed
          have third : ThirdFile platform id ⟨id, name⟩ := third_of_unharmed working rfl unharmed
          refine ⟨_, rfl, ?_⟩
          rintro _ _ ⟨⟩
          exact ⟨named, ⟨third.slash, third.backslash⟩, third.notPayload, third.notMetadata⟩
        · rintro ⟨_, same, mayBeWritten⟩
          cases same
          obtain ⟨_, ⟨slash, backslash⟩, notPayload, notMetadata⟩ := mayBeWritten name bytes rfl
          apply unharmed_of_third working
          · rw [read_write_other wrote notPayload]
            exact payload
          · rintro path ⟨⟩
            refine ⟨rfl, slash, backslash, ⟨?_, ?_, ?_⟩, notPayload, notMetadata⟩
            · rintro rfl
              exact absurd named (by rw [working.unnamed]; decide)
            · rintro rfl
              exact absurd named (by rw [working.itself]; decide)
            · rintro rfl
              exact absurd named (by rw [working.parent]; decide)

/-! ### Two file names -/

/-- The text of an attachment of 600000 letters. -/
def fileText (filename : String) : List Char :=
  "\x7b\"filename\":\"".toList ++ filename.toList ++ "\",\"encoding\":\"none\",\"content\":\"".toList ++
    letters ++ "\"\x7d".toList

/-- Results whose first text is that of an attachment. -/
def filePlatform (filename : String) : Platform :=
  { textPlatform with
    fromStr := fun _ => some (.object [("filename", .string filename), ("encoding", .string "none"),
      ("content", .string (String.ofList letters))]) }

def spilledFile (filename : String) : Spilled × ArtifactStore :=
  maybeSpillToolResultWithLimit (filePlatform filename) ⟨[], []⟩ "4f0c".toList 0 none
    "gmail_attachment_get_data".toList (resultOf (fileText filename)) artifactStoreMaxBytes

theorem working_file (filename : String) : WorkingFiles (filePlatform filename) where
  payload := rfl
  metadata := rfl
  apart := show metadataFile ≠ payloadFile from by decide
  unnamed := rfl
  itself := rfl
  parent := rfl

theorem escaped_append (first second : List Char) :
    escaped (first ++ second) = escaped first ++ escaped second :=
  List.flatMap_append

theorem resultText_file (filename : String) (text : List Char) :
    (filePlatform filename).resultText (resultOf text) =
      resultHeader ++ escaped text ++ resultFooter := rfl

theorem byteLength_file {filename : String} (plain : escaped filename.toList = filename.toList) :
    byteLength ((filePlatform filename).resultText (resultOf (fileText filename))) =
      35 + (16 + byteLength filename.toList + 39 + byteLength letters + 3) + 20 := by
  have isLetters : escaped letters = letters := escaped_replicate (by decide) (by decide) _
  have header : byteLength resultHeader = 35 := by decide
  have footer : byteLength resultFooter = 20 := by decide
  have front : byteLength (escaped "\x7b\"filename\":\"".toList) = 16 := by decide
  have middle : byteLength (escaped "\",\"encoding\":\"none\",\"content\":\"".toList) = 39 := by decide
  have back : byteLength (escaped "\"\x7d".toList) = 3 := by decide
  unfold fileText
  generalize letters = body at isLetters ⊢
  rw [resultText_file]
  simp only [escaped_append, byteLength_append, isLetters, plain, header, footer, front, middle, back]

theorem byteLength_letters : byteLength letters = 600000 := by
  rw [letters, byteLength_replicate]
  decide

theorem stored_file {filename : String} (plain : escaped filename.toList = filename.toList)
    (short : byteLength filename.toList ≤ 255) :
    Stored (filePlatform filename) "gmail_attachment_get_data".toList (resultOf (fileText filename))
      artifactStoreMaxBytes := by
  have size := byteLength_file plain
  rw [byteLength_letters] at size
  refine ⟨?_, ?_, ?_⟩
  · rw [size, inlineResultMaxBytes]
    omega
  · have ends : "attachment_get_data".toList.isSuffixOf "gmail_attachment_get_data".toList = true := by
      decide
    rw [shouldArtifactize, ends, Bool.or_true, Bool.true_or, Bool.true_or]
  · rw [size, show artifactStoreMaxBytes.toNat = 5368709120 from rfl]
    omega

theorem attached_file {filename name content encoding : String}
    (attached : Attached (filePlatform filename) (resultOf (fileText filename)) name content
      encoding) :
    name = filename ∧ encoding = "none" := by
  obtain ⟨_, _, _, parsed, isName, _, isEncoding⟩ := attached
  cases parsed
  exact ⟨(Option.some.inj isName).symm, isEncoding.symm⟩

theorem unharmed_report :
    Unharmed (filePlatform "report.txt") "4f0c".toList (resultOf (fileText "report.txt"))
      (spilledFile "report.txt") := by
  refine (unharmed_iff (working_file "report.txt")
    (stored_file (by decide) (by decide))).mpr ?_
  intro filename content encoding attached
  obtain ⟨rfl, rfl⟩ := attached_file attached
  exact ⟨fun impossible => absurd impossible (by decide),
    fun _ => ⟨by decide, by decide, by decide⟩⟩

/-- A result whose attachment is named like the directory above is not stored. -/
theorem parent_harmed :
    WorkingFiles (filePlatform "..") ∧
      Stored (filePlatform "..") "gmail_attachment_get_data".toList (resultOf (fileText ".."))
        artifactStoreMaxBytes ∧
      ¬ Unharmed (filePlatform "..") "4f0c".toList (resultOf (fileText "..")) (spilledFile "..") := by
  have stored := stored_file (show escaped "..".toList = "..".toList from by decide) (by decide)
  refine ⟨working_file "..", stored, ?_⟩
  have attached : Attached (filePlatform "..") (resultOf (fileText "..")) ".." (String.ofList letters)
      "none" := ⟨_, _, rfl, rfl, rfl, rfl, rfl⟩
  obtain ⟨withPayload, _, spilled⟩ := spill_stored (working_file "..") stored
  rw [spilledFile, spilled, maybeMaterializeAttachment, attachment_attached attached,
    if_neg (by decide), if_pos rfl, Option.bind_some]
  dsimp only
  rw [Directory.write, if_neg (by decide), Option.map_none]
  exact not_unharmed_failed

end Plug.Artifacts
