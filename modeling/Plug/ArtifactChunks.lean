import Mathlib.Logic.Equiv.List
import Plug.ArtifactStore
import Plug.TextSearch

/-!
# Reading an artifact back

The files and the record of an artifact stay as they were written for as long as the store holds
them, and a store that is opened again reads the same from its files. So the chunks are those of
the payload's file. Read each for itself, they make up the result exactly if no chunk begins
inside a character, and if the payload's file is not overwritten with an attachment.
-/

namespace Plug.Artifacts

open ByteStreams (chunkAt)
open JsonValues (Value)
open Text (byteLength byteLength_append)

variable {platform : Platform}

/-- What JSON and the file system are relied on for. -/
structure Platform.Lawful (platform : Platform) : Prop where
  metadata_back : ∀ metadata, platform.metadataFrom (platform.metadataText metadata) = some metadata
  /-- A text is written with its ASCII characters, between others. -/
  quoted : ∀ result text, attachmentSource result = some text →
    Utf8.asciiCount text < Utf8.asciiCount (platform.resultText result)
  /-- A string of a document has no more ASCII characters than the document. -/
  strings : ∀ text members key string, platform.fromStr text = some (.object members) →
    (Value.object members).member? key = some (.string string) →
    Utf8.asciiCount string.toList ≤ Utf8.asciiCount text
  apart : platform.fold metadataFile ≠ platform.fold payloadFile
  named : platform.named metadataFile = true

/-! ### Files -/

variable {directory written : Directory} {now : Nat} {name other : List Char} {bytes : List UInt8}

theorem read_write_same (wrote : directory.write platform now name bytes = some written)
    (same : platform.fold name = platform.fold other) : written.read platform other = some bytes := by
  rw [Directory.write] at wrote
  split at wrote
  · cases wrote
    rw [Directory.read, List.find?_cons_of_pos]
    · rfl
    · rw [decide_eq_true_eq, ← same]
      cases held : directory.files.find? fun file => platform.fold file.1 = platform.fold name with
      | none => rfl
      | some file =>
        simpa using List.find?_some held
  · cases wrote

theorem read_write_other (wrote : directory.write platform now name bytes = some written)
    (apart : platform.fold name ≠ platform.fold other) :
    written.read platform other = directory.read platform other := by
  rw [Directory.write] at wrote
  split at wrote
  · cases wrote
    have head : platform.fold (((directory.files.find?
        fun file => platform.fold file.1 = platform.fold name).map Prod.fst).getD name) =
        platform.fold name := by
      cases held : directory.files.find? fun file => platform.fold file.1 = platform.fold name with
      | none => rfl
      | some file => simpa using List.find?_some held
    rw [Directory.read, Directory.read, List.find?_cons_of_neg]
    · rw [List.find?_filter]
      congr 2
      funext file
      by_cases isOther : platform.fold file.1 = platform.fold other
      · simp [isOther, Ne.symm apart]
      · simp [isOther]
    · rw [decide_eq_true_eq, head]
      exact apart
  · cases wrote

/-! ### What the store holds of an artifact -/

/-- The record of the directory's metadata, if there is one, has the directory's id. -/
def Own (platform : Platform) (name : List Char) (directory : Directory) : Prop :=
  ∀ bytes metadata, directory.read platform metadataFile = some bytes →
    platform.metadataFrom bytes = some metadata → metadata.id = name

/-- The files of an artifact with its payload. -/
structure Describes (platform : Platform) (id : List Char) (payload : List UInt8) (count : Nat)
    (directory : Directory) : Prop where
  payload : directory.read platform payloadFile = some payload
  metadata : ∃ bytes metadata, directory.read platform metadataFile = some bytes ∧
    platform.metadataFrom bytes = some metadata ∧ metadata.id = id ∧
    metadata.payloadFile = payloadFile ∧ metadata.chunkCount = count

structure Points (id : List Char) (count : Nat) (record : ArtifactRecord) : Prop where
  sameId : record.id = id
  samePath : record.payloadPath = ⟨id, payloadFile⟩
  sameCount : record.chunkCount = count

structure Kept (platform : Platform) (id : List Char) (payload : List UInt8) (count : Nat)
    (store : ArtifactStore) : Prop where
  files : ∀ directory, (id, directory) ∈ store.disk → Describes platform id payload count directory
  record : ∀ record, (id, record) ∈ store.records → Points id count record
  own : ∀ entry ∈ store.disk, Own platform entry.1 entry.2

variable {id : List Char} {payload : List UInt8} {count : Nat} {store : ArtifactStore}

theorem mem_without {Held : Type} {table : List (List Char × Held)} {removed : List Char → Bool}
    {entry : List Char × Held} (member : entry ∈ without table removed) : entry ∈ table :=
  List.mem_of_mem_filter member

theorem mem_insert {Held : Type} {table : List (List Char × Held)} {held : Held}
    {entry : List Char × Held} (member : entry ∈ insert table id held) :
    entry = (id, held) ∨ entry ∈ table ∧ entry.1 ≠ id := by
  rcases List.mem_cons.mp member with rfl | among
  · exact Or.inl rfl
  · obtain ⟨inTable, differs⟩ := List.mem_filter.mp among
    exact Or.inr ⟨inTable, by simpa using differs⟩

/-- A store that has nothing else keeps what it has. -/
theorem Kept.mono {smaller : ArtifactStore} (kept : Kept platform id payload count store)
    (files : ∀ entry ∈ smaller.disk, entry ∈ store.disk)
    (records : ∀ entry ∈ smaller.records, entry ∈ store.records) :
    Kept platform id payload count smaller :=
  ⟨fun directory member => kept.files directory (files _ member),
    fun record member => kept.record record (records _ member),
    fun entry member => kept.own entry (files _ member)⟩

theorem removeOldest_subset (maxBytes : Nat) (dirs : List (List Char × Directory)) (total : Nat)
    (store : ArtifactStore) :
    (∀ entry ∈ (removeOldest maxBytes dirs total store).disk, entry ∈ store.disk) ∧
      ∀ entry ∈ (removeOldest maxBytes dirs total store).records, entry ∈ store.records := by
  induction dirs generalizing total store with
  | nil => exact ⟨fun _ member => member, fun _ member => member⟩
  | cons oldest later ih =>
    rw [removeOldest]
    split
    · exact ⟨fun _ member => member, fun _ member => member⟩
    · obtain ⟨disk, records⟩ := ih (total - directorySize oldest.2)
        ⟨without store.disk (· == oldest.1), without store.records (· == oldest.1)⟩
      dsimp only at disk records
      exact ⟨fun entry member => mem_without (disk entry member),
        fun entry member => mem_without (records entry member)⟩

/-- Pruning only removes. -/
theorem prune_subset (store : ArtifactStore) (now : Nat) :
    (∀ entry ∈ (prune store now).disk, entry ∈ store.disk) ∧
      ∀ entry ∈ (prune store now).records, entry ∈ store.records := by
  rw [prune, pruneWithLimits]
  dsimp only
  split
  · obtain ⟨disk, records⟩ := removeOldest_subset _ _ _ _
    exact ⟨fun entry member => mem_without (mem_without (disk entry member)),
      fun entry member => mem_without (records entry member)⟩
  · exact ⟨fun entry member => mem_without (mem_without member),
      fun entry member => mem_without member⟩

/-! ### Opening the store again -/

theorem load_id {record : ArtifactRecord} (own : Own platform name directory)
    (loaded : loadRecordFromDir platform name directory = some record) : record.id = name := by
  rw [loadRecordFromDir] at loaded
  split at loaded
  · rename_i bytes found
    obtain ⟨metadata, parsed, rfl⟩ := Option.map_eq_some_iff.mp loaded
    exact own bytes metadata found parsed
  · simp only [Option.bind_eq_bind, Option.bind_eq_some_iff, Option.pure_def,
      Option.some.injEq] at loaded
    obtain ⟨_, _, _, _, rfl⟩ := loaded
    rfl

theorem load_points {record : ArtifactRecord} (describes : Describes platform id payload count directory)
    (loaded : loadRecordFromDir platform id directory = some record) : Points id count record := by
  obtain ⟨bytes, metadata, found, parsed, sameId, sameFile, sameCount⟩ := describes.metadata
  rw [loadRecordFromDir, found] at loaded
  dsimp only at loaded
  rw [parsed] at loaded
  cases loaded
  exact ⟨sameId, by dsimp only; rw [sameFile], sameCount⟩

/-- Records that are read from the directories are those of the directories with their ids. -/
theorem rehydrate_records (disk : Disk) (own : ∀ entry ∈ disk, Own platform entry.1 entry.2)
    {entry : List Char × ArtifactRecord} (member : entry ∈ (rehydrateFromDisk platform disk).records) :
    ∃ directory, (entry.1, directory) ∈ disk ∧
      loadRecordFromDir platform entry.1 directory = some entry.2 := by
  have general (dirs : List (List Char × Directory)) (within : ∀ dir ∈ dirs, dir ∈ disk)
      (store : ArtifactStore)
      (known : ∀ entry ∈ store.records, ∃ directory, (entry.1, directory) ∈ disk ∧
        loadRecordFromDir platform entry.1 directory = some entry.2) :
      ∀ entry ∈ (dirs.foldl (rehydrateEntry platform) store).records,
        ∃ directory, (entry.1, directory) ∈ disk ∧
          loadRecordFromDir platform entry.1 directory = some entry.2 := by
    induction dirs generalizing store with
    | nil => exact known
    | cons first dirs ih =>
      have inDisk := within first List.mem_cons_self
      refine ih (fun dir member => within dir (List.mem_cons_of_mem _ member)) _ ?_
      rw [rehydrateEntry]
      split
      · rename_i record loaded
        intro entry member
        rcases mem_insert member with rfl | ⟨before, _⟩
        · rw [load_id (own first inDisk) loaded]
          exact ⟨first.2, inDisk, loaded⟩
        · exact known entry before
      · exact known
  exact general disk (fun _ member => member) ⟨disk, []⟩ (by simp) entry member

theorem rehydrate_disk (disk : Disk) : (rehydrateFromDisk platform disk).disk = disk := by
  have general (dirs : List (List Char × Directory)) (store : ArtifactStore) :
      (dirs.foldl (rehydrateEntry platform) store).disk = store.disk := by
    induction dirs generalizing store with
    | nil => rfl
    | cons first dirs ih =>
      rw [List.foldl_cons, ih, rehydrateEntry]
      split <;> rfl
  exact general disk ⟨disk, []⟩

/-- A store that is opened over the directories keeps what they describe. -/
theorem kept_openStore (kept : Kept platform id payload count store) (now : Nat) :
    Kept platform id payload count (openStore platform store.disk now) := by
  obtain ⟨disk, records⟩ := prune_subset (rehydrateFromDisk platform store.disk) now
  have rehydrated : Kept platform id payload count (rehydrateFromDisk platform store.disk) := by
    constructor
    · rw [rehydrate_disk]
      exact kept.files
    · intro record member
      obtain ⟨directory, inDisk, loaded⟩ := rehydrate_records store.disk kept.own member
      exact load_points (kept.files directory inDisk) loaded
    · rw [rehydrate_disk]
      exact kept.own
  exact rehydrated.mono disk records

/-! ### Spilling -/

variable {source : Option (List Char × List Char)} {sourceTool : List Char}
  {result : CallToolResult} {maxStoreBytes : UInt64} {record : ArtifactRecord}

/-- The attachment in the result is written to the file of the payload. -/
def OverwritesPayload (platform : Platform) (result : CallToolResult) : Prop :=
  ∃ name bytes, attachment platform (attachmentSource result) = some (some (name, bytes)) ∧
    platform.fold name = platform.fold payloadFile

/-- The bytes that are left in the file of the payload. -/
def storedPayload (platform : Platform) (result : CallToolResult) : List UInt8 :=
  match attachment platform (attachmentSource result) with
  | some (some (name, bytes)) =>
    if platform.fold name = platform.fold payloadFile then bytes
    else Utf8.encode (platform.resultText result)
  | _ => Utf8.encode (platform.resultText result)

theorem read_materialized {withAttachment : Directory} {materialized : Option (List Char)}
    (payload : directory.read platform payloadFile = some (Utf8.encode (platform.resultText result)))
    (wrote : maybeMaterializeAttachment platform directory now (attachmentSource result) =
      some (withAttachment, materialized)) :
    withAttachment.read platform payloadFile = some (storedPayload platform result) := by
  obtain ⟨found, isFound, rest⟩ := Option.bind_eq_some_iff.mp wrote
  rw [storedPayload, isFound]
  cases found with
  | none =>
    cases rest
    exact payload
  | some file =>
    obtain ⟨attached, written, same⟩ := Option.map_eq_some_iff.mp rest
    cases same
    dsimp only
    split
    · rename_i overwrites
      exact read_write_same written overwrites
    · rename_i apart
      rw [read_write_other written apart]
      exact payload

theorem own_write {written : Directory} (lawful : platform.Lawful) (own : Own platform id directory)
    (wrote : directory.write platform now payloadFile bytes = some written) :
    Own platform id written := by
  intro found metadata isFound parsed
  rw [read_write_other wrote lawful.apart.symm] at isFound
  exact own found metadata isFound parsed

/-- What the metadata of a record say. -/
theorem describes_writeMetadata (lawful : platform.Lawful)
    (stored : directory.read platform payloadFile = some payload)
    (points : Points id count record)
    (wrote : writeMetadata platform directory now record = some written) :
    Describes platform id payload count written ∧ Own platform id written := by
  have back := read_write_same wrote (rfl : platform.fold metadataFile = platform.fold metadataFile)
  refine ⟨⟨?_, _, _, back, lawful.metadata_back _, points.sameId, ?_, points.sameCount⟩, ?_⟩
  · rw [read_write_other wrote lawful.apart]
    exact stored
  · dsimp only
    rw [points.samePath]
  · intro found metadata isFound parsed
    obtain rfl := Option.some.inj (back.symm.trans isFound)
    obtain rfl := Option.some.inj ((lawful.metadata_back _).symm.trans parsed)
    exact points.sameId

/-- Everything a spill can do: nothing, leave files without a record, or store an artifact. -/
theorem spill_cases (lawful : platform.Lawful) (own : ∀ entry ∈ store.disk, Own platform entry.1 entry.2)
    {outcome : Spilled} {next : ArtifactStore}
    (spilled : maybeSpillToolResultWithLimit platform store id now source sourceTool result
      maxStoreBytes = (outcome, next)) :
    (next = store ∧ ∀ record, outcome ≠ .artifact record) ∨
    ∃ directory, Own platform id directory ∧ next.disk = insert store.disk id directory ∧
      ((outcome = .failed ∧ next.records = store.records) ∨
        ∃ record, outcome = .artifact record ∧ next.records = insert store.records id record ∧
          byteLength (platform.resultText result) ≤ maxStoreBytes.toNat ∧
          Points id (divCeil (byteLength (platform.resultText result)) artifactChunkBytes) record ∧
          Describes platform id (storedPayload platform result)
            (divCeil (byteLength (platform.resultText result)) artifactChunkBytes) directory) := by
  have created : Own platform id ((store.disk.lookup id).getD ⟨[], now⟩) := by
    cases found : store.disk.lookup id with
    | none =>
      intro bytes metadata isFound
      cases isFound
    | some directory => exact own (id, directory) (Tables.mem_of_lookup found)
  rw [maybeSpillToolResultWithLimit] at spilled
  dsimp only at spilled
  split at spilled
  · cases spilled
    exact Or.inl ⟨rfl, by simp⟩
  · split at spilled
    · cases spilled
      exact Or.inl ⟨rfl, by simp⟩
    · rename_i fits
      right
      split at spilled
      · cases spilled
        exact ⟨_, created, rfl, Or.inl ⟨rfl, rfl⟩⟩
      · rename_i withPayload wrote
        have ownPayload := own_write lawful created wrote
        have payload := read_write_same wrote
          (rfl : platform.fold payloadFile = platform.fold payloadFile)
        split at spilled
        · cases spilled
          exact ⟨_, ownPayload, rfl, Or.inl ⟨rfl, rfl⟩⟩
        · rename_i withAttachment materialized attached
          have stored := read_materialized payload attached
          have points : Points id (divCeil (byteLength (platform.resultText result)) artifactChunkBytes)
              (recordOf platform id now source sourceTool result materialized) := ⟨rfl, rfl, rfl⟩
          split at spilled
          · rename_i refused
            rw [writeMetadata, Directory.write, if_pos lawful.named] at refused
            cases refused
          · rename_i directory described
            cases spilled
            obtain ⟨describes, ownDirectory⟩ := describes_writeMetadata lawful stored points described
            exact ⟨directory, ownDirectory, rfl, Or.inr ⟨_, rfl, rfl, Nat.le_of_not_lt fits, points,
              describes⟩⟩

/-! ### Runs of a store -/

inductive Step where
  | spill (id : List Char) (now : Nat) (source : Option (List Char × List Char))
      (sourceTool : List Char) (result : CallToolResult) (maxStoreBytes : UInt64)
  | read (now : Nat) (uri : List Char)
  | prune (now : Nat)
  | reopen (now : Nat)

def step (platform : Platform) (store : ArtifactStore) : Step → ArtifactStore
  | .spill id now source sourceTool result maxStoreBytes =>
    (maybeSpillToolResultWithLimit platform store id now source sourceTool result maxStoreBytes).2
  | .read now uri => (read platform store now uri).2
  | .prune now => prune store now
  | .reopen now => openStore platform store.disk now

/-- The steps give no other result the id. -/
def Step.Spares (id : List Char) : Step → Prop
  | .spill other _ _ _ _ _ => other ≠ id
  | _ => True

def run (platform : Platform) (store : ArtifactStore) (steps : List Step) : ArtifactStore :=
  steps.foldl (step platform) store

theorem read_subset (store : ArtifactStore) (now : Nat) (uri : List Char) :
    (∀ entry ∈ (read platform store now uri).2.disk, entry ∈ store.disk) ∧
      ∀ entry ∈ (read platform store now uri).2.records, entry ∈ store.records := by
  rw [read]
  split
  · exact ⟨fun _ member => member, fun _ member => member⟩
  · split
    · exact ⟨fun _ member => member, fun _ member => member⟩
    · split
      · dsimp only
        exact ⟨fun _ member => mem_without member, fun _ member => mem_without member⟩
      · split
        · exact ⟨fun _ member => member, fun _ member => member⟩
        · exact ⟨fun _ member => member, fun _ member => member⟩

/-- Whatever is spilled, each directory's metadata has the directory's id. -/
theorem own_step (lawful : platform.Lawful) (own : ∀ entry ∈ store.disk, Own platform entry.1 entry.2)
    (action : Step) : ∀ entry ∈ (step platform store action).disk, Own platform entry.1 entry.2 := by
  intro entry member
  cases action with
  | spill other now source sourceTool result maxStoreBytes =>
    rw [step] at member
    generalize isNext : maybeSpillToolResultWithLimit platform store other now source sourceTool
      result maxStoreBytes = both at member
    obtain ⟨outcome, next⟩ := both
    rcases spill_cases lawful own isNext with ⟨rfl, _⟩ | ⟨directory, ownDirectory, disk, _⟩
    · exact own entry member
    · dsimp only at member
      rw [disk] at member
      rcases mem_insert member with rfl | ⟨before, _⟩
      · exact ownDirectory
      · exact own entry before
  | read now uri => exact own entry ((read_subset store now uri).1 entry member)
  | prune now => exact own entry ((prune_subset store now).1 entry member)
  | reopen now =>
    have inDisk := (prune_subset (rehydrateFromDisk platform store.disk) now).1 entry member
    rw [rehydrate_disk] at inDisk
    exact own entry inDisk

theorem own_run (lawful : platform.Lawful) (own : ∀ entry ∈ store.disk, Own platform entry.1 entry.2)
    (steps : List Step) : ∀ entry ∈ (run platform store steps).disk, Own platform entry.1 entry.2 := by
  induction steps generalizing store with
  | nil => exact own
  | cons action steps ih => exact ih (own_step lawful own action)

theorem kept_step (lawful : platform.Lawful) (kept : Kept platform id payload count store)
    {action : Step} (spares : action.Spares id) :
    Kept platform id payload count (step platform store action) := by
  cases action with
  | spill other now source sourceTool result maxStoreBytes =>
    have own := own_step lawful kept.own (.spill other now source sourceTool result maxStoreBytes)
    rw [step] at own ⊢
    generalize isNext : maybeSpillToolResultWithLimit platform store other now source sourceTool
      result maxStoreBytes = both at own
    obtain ⟨outcome, next⟩ := both
    rcases spill_cases lawful kept.own isNext with ⟨rfl, _⟩ | ⟨directory, _, disk, records⟩
    · exact kept
    · dsimp only at own ⊢
      refine ⟨?_, ?_, own⟩
      · intro described member
        rw [disk] at member
        rcases mem_insert member with new | ⟨before, _⟩
        · exact absurd (Prod.mk.inj new).1.symm spares
        · exact kept.files described before
      · intro record member
        rcases records with ⟨_, same⟩ | ⟨added, _, same, _⟩
        · rw [same] at member
          exact kept.record record member
        · rw [same] at member
          rcases mem_insert member with new | ⟨before, _⟩
          · exact absurd (Prod.mk.inj new).1.symm spares
          · exact kept.record record before
  | read now uri =>
    obtain ⟨disk, records⟩ := read_subset store now uri
    exact kept.mono disk records
  | prune now =>
    obtain ⟨disk, records⟩ := prune_subset store now
    exact kept.mono disk records
  | reopen now => exact kept_openStore kept now

theorem kept_run (lawful : platform.Lawful) (kept : Kept platform id payload count store)
    {steps : List Step} (spares : ∀ action ∈ steps, action.Spares id) :
    Kept platform id payload count (run platform store steps) := by
  induction steps generalizing store with
  | nil => exact kept
  | cons action steps ih =>
    exact ih (kept_step lawful kept (spares action List.mem_cons_self))
      fun later member => spares later (List.mem_cons_of_mem _ member)

/-! ### Reading chunks -/

/-- The text of a chunk, if the store answers with one. -/
def chunkText (platform : Platform) (store : ArtifactStore) (now : Nat) (id : List Char)
    (index : Nat) : Option (List Char) :=
  (read platform store now (artifactChunkUri id index)).1.toOption

/-- While the store holds the artifact and it has not expired, its chunks up to the chunk count
make up the text, and further ones are refused. -/
def ReadsBack (platform : Platform) (store : ArtifactStore) (now : Nat) (id text : List Char) : Prop :=
  ∀ record, store.records.lookup id = some record → now ≤ record.expiresAt →
    (store.disk.lookup id).isSome = true →
    ((List.range record.chunkCount).mapM (chunkText platform store now id)).map List.flatten =
        some text ∧
      ∀ index, record.chunkCount ≤ index → chunkText platform store now id index = none

theorem parse_chunkUri (plain : '/' ∉ id) (index : Nat) :
    parseArtifactUri (artifactChunkUri id index) =
      if index ≤ 18446744073709551615 then some ⟨id, .chunk index⟩ else none := by
  have rest : artifactChunkUri id index =
      schemePrefix ++ (id ++ '/' :: ("chunk/".toList ++ Nat.toDigits 10 index)) := by
    simp [artifactChunkUri]
  have other : "chunk/".toList ++ Nat.toDigits 10 index ≠ "manifest".toList := by
    simp
  rw [parseArtifactUri, rest, Text.stripPrefix_append]
  simp only [Option.bind_eq_bind, Option.bind_some, Text.splitOnce_character plain, if_neg other,
    Text.stripPrefix_append, Text.parseU64_toDigits]
  split <;> rfl

theorem chunkText_eq (plain : '/' ∉ id) (kept : Kept platform id payload count store)
    (found : store.records.lookup id = some record) (fresh : now ≤ record.expiresAt)
    (onDisk : (store.disk.lookup id).isSome = true) (index : Nat) :
    chunkText platform store now id index =
      if index * artifactChunkBytes ≤ 18446744073709551615 ∧
          index * artifactChunkBytes < payload.length then
        some (Utf8.fromUtf8Lossy (chunkAt artifactChunkBytes payload index))
      else none := by
  obtain ⟨directory, isDirectory⟩ := Option.isSome_iff_exists.mp onDisk
  have describes := kept.files directory (Tables.mem_of_lookup isDirectory)
  have points := kept.record record (Tables.mem_of_lookup found)
  rw [chunkText, read, parse_chunkUri plain]
  by_cases small : index ≤ 18446744073709551615
  · rw [if_pos small]
    dsimp only
    rw [found]
    dsimp only
    rw [if_neg (by omega), readChunkText, points.samePath]
    dsimp only
    rw [isDirectory, Option.bind_some, describes.payload]
    by_cases overflows : 18446744073709551615 < index * artifactChunkBytes
    · rw [if_pos overflows, if_neg (by omega)]
      rfl
    · rw [if_neg overflows]
      dsimp only
      by_cases beyond : payload.length ≤ index * artifactChunkBytes
      · rw [if_pos beyond, if_neg (by omega)]
        rfl
      · rw [if_neg beyond, if_pos (by omega)]
        rfl
  · rw [if_neg small, if_neg]
    · rfl
    · rw [artifactChunkBytes]
      omega

theorem mapM_flatten {parts : Nat → Option (List Char)} {texts : Nat → List Char} (numbers : List Nat)
    (all : ∀ number ∈ numbers, parts number = some (texts number)) :
    (numbers.mapM parts).map List.flatten = some (numbers.flatMap texts) := by
  induction numbers with
  | nil => rfl
  | cons number numbers ih =>
    have others := ih fun later member => all later (List.mem_cons_of_mem _ member)
    obtain ⟨found, isFound, flat⟩ := Option.map_eq_some_iff.mp others
    rw [List.mapM_cons, all number List.mem_cons_self, isFound, List.flatMap_cons, ← flat]
    rfl

theorem flatten_of_mapM {parts : Nat → Option (List Char)} {texts : Nat → List Char}
    (numbers : List Nat) (only : ∀ number found, parts number = some found → found = texts number)
    {whole : List Char} (all : (numbers.mapM parts).map List.flatten = some whole) :
    whole = numbers.flatMap texts := by
  have each : ∀ number ∈ numbers, parts number = some (texts number) := by
    obtain ⟨found, isFound, -⟩ := Option.map_eq_some_iff.mp all
    intro number member
    clear all
    induction numbers generalizing found with
    | nil => exact absurd member List.not_mem_nil
    | cons first numbers ih =>
      rw [List.mapM_cons] at isFound
      simp only [Option.bind_eq_bind, Option.bind_eq_some_iff, Option.pure_def,
        Option.some.injEq] at isFound
      obtain ⟨text, isText, others, isOthers, _⟩ := isFound
      rcases List.mem_cons.mp member with rfl | later
      · rw [isText, only _ _ isText]
      · exact ih others isOthers later
  exact Option.some.inj (all.symm.trans (mapM_flatten numbers each))

/-! ### Whole results -/

/-- An attachment has fewer ASCII characters than the result that it comes in. -/
theorem attachment_ascii (lawful : platform.Lawful)
    (found : attachment platform (attachmentSource result) = some (some (name, bytes))) :
    Utf8.asciiBytes bytes < Utf8.asciiCount (platform.resultText result) := by
  rw [attachment] at found
  split at found
  · rename_i members parsed
    obtain ⟨text, isSource, isObject⟩ := Option.bind_eq_some_iff.mp parsed
    have quoted := lawful.quoted result text isSource
    dsimp only at found
    split at found
    · rename_i filename content _ isContent
      have inText : Utf8.asciiBytes (Utf8.encode content.toList) ≤ Utf8.asciiCount text := by
        obtain ⟨value, isValue, isText⟩ := Option.bind_eq_some_iff.mp isContent
        cases value with
        | string string =>
          obtain rfl := Option.some.inj isText
          rw [Utf8.asciiBytes_encode]
          exact lawful.strings text members "content" string isObject isValue
        | _ => cases isText
      split at found
      · obtain ⟨decoded, isDecoded, same⟩ := Option.map_eq_some_iff.mp found
        obtain ⟨rfl, rfl⟩ := Prod.mk.inj (Option.some.inj same)
        have encoded := Base64.decodeStrict_eq_some_iff.mp isDecoded
        have digits : Utf8.asciiBytes (Base64.encode decoded) = (Base64.encode decoded).length := by
          rw [Utf8.asciiBytes, List.countP_eq_length]
          exact Base64.encode_all (by decide) (by decide) decoded
        have longer := Base64.encode_length decoded
        have fewer : Utf8.asciiBytes decoded ≤ decoded.length := List.countP_le_length
        rw [encoded] at digits longer
        omega
      · split at found
        · obtain ⟨rfl, rfl⟩ := Prod.mk.inj (Option.some.inj (Option.some.inj found))
          omega
        · cases found
    · cases found
  · cases found

theorem storedPayload_eq (spared : ¬ OverwritesPayload platform result) :
    storedPayload platform result = Utf8.encode (platform.resultText result) := by
  rw [storedPayload]
  split
  · rename_i name bytes found
    rw [if_neg fun overwrites => spared ⟨name, bytes, found, overwrites⟩]
  · rfl

/-- A store that has just stored an artifact keeps it. -/
theorem kept_spilled (lawful : platform.Lawful) {stored : ArtifactStore}
    (own : ∀ entry ∈ store.disk, Own platform entry.1 entry.2)
    (spilled : maybeSpillToolResultWithLimit platform store id now source sourceTool result
      maxStoreBytes = (.artifact record, stored)) :
    Kept platform id (storedPayload platform result)
        (divCeil (byteLength (platform.resultText result)) artifactChunkBytes) stored ∧
      stored.records.lookup id = some record ∧ (stored.disk.lookup id).isSome = true ∧
      byteLength (platform.resultText result) ≤ maxStoreBytes.toNat := by
  rcases spill_cases lawful own spilled with ⟨_, other⟩ | ⟨directory, ownDirectory, disk, records⟩
  · exact absurd rfl (other record)
  · rcases records with ⟨failed, _⟩ | ⟨same, isRecord, records, fits, points, describes⟩
    · cases failed
    · cases isRecord
      refine ⟨⟨?_, ?_, ?_⟩, ?_, ?_, fits⟩
      · intro described member
        rw [disk] at member
        rcases mem_insert member with new | ⟨_, differs⟩
        · rw [(Prod.mk.inj new).2]
          exact describes
        · exact absurd rfl differs
      · intro other member
        rw [records] at member
        rcases mem_insert member with new | ⟨_, differs⟩
        · rw [(Prod.mk.inj new).2]
          exact points
        · exact absurd rfl differs
      · intro entry member
        rw [disk] at member
        rcases mem_insert member with rfl | ⟨before, _⟩
        · exact ownDirectory
        · exact own entry before
      · rw [records, insert, List.lookup_cons_self]
      · rw [disk, insert, List.lookup_cons_self]
        rfl

variable {text : List Char}

/-- The chunks of a result that is kept whole make it up, if none begins inside a character. -/
theorem readsBack_of_kept (plain : '/' ∉ id) {bound : UInt64} (fits : byteLength text ≤ bound.toNat)
    (kept : Kept platform id (Utf8.encode text) (divCeil (byteLength text) artifactChunkBytes)
      store) (fresh : ∀ index, Utf8.Fresh ((Utf8.encode text).drop (index * artifactChunkBytes))) :
    ReadsBack platform store now id text := by
  intro record found later onDisk
  have chunk := chunkText_eq plain kept found later onDisk
  have small := bound.toNat_lt
  have length := Utf8.length_encode text
  have sameCount := (kept.record record (Tables.mem_of_lookup found)).sameCount
  rw [sameCount]
  constructor
  · have whole := (Utf8.readChunks_encode (by decide) text).mpr fresh
    rw [ByteStreams.chunkCount, length, Utf8.readChunks] at whole
    rw [mapM_flatten _ fun index member => ?_]
    · exact congrArg some whole
    · rw [chunk, if_pos]
      rw [List.mem_range, divCeil] at member
      rw [artifactChunkBytes] at member ⊢
      omega
  · intro index beyond
    rw [chunk, if_neg]
    rw [divCeil] at beyond
    rw [artifactChunkBytes] at beyond ⊢
    omega

/-- What is read back are the chunks of the payload's file. -/
theorem chunks_of_readsBack (plain : '/' ∉ id) (kept : Kept platform id payload count store)
    (found : store.records.lookup id = some record) (onDisk : (store.disk.lookup id).isSome = true)
    (whole : ReadsBack platform store 0 id text) :
    text = Utf8.readChunks artifactChunkBytes payload count := by
  obtain ⟨read, -⟩ := whole record found (Nat.zero_le _) onDisk
  rw [(kept.record record (Tables.mem_of_lookup found)).sameCount] at read
  refine flatten_of_mapM _ ?_ read
  intro index part isPart
  rw [chunkText_eq plain kept found (Nat.zero_le _) onDisk] at isPart
  split at isPart
  · exact (Option.some.inj isPart).symm
  · cases isPart

/-- The chunks of a file that an attachment overwrote are not the result. -/
theorem overwritten_differs (lawful : platform.Lawful) (overwrites : OverwritesPayload platform result)
    (count : Nat) : platform.resultText result ≠
      Utf8.readChunks artifactChunkBytes (storedPayload platform result) count := by
  obtain ⟨name, bytes, attached, same⟩ := overwrites
  have fewer := attachment_ascii lawful attached
  have payload : storedPayload platform result = bytes := by
    rw [storedPayload, attached]
    exact if_pos same
  have part : Utf8.asciiBytes (bytes.take (count * artifactChunkBytes)) ≤ Utf8.asciiBytes bytes :=
    (List.take_sublist _ _).countP_le
  intro chunks
  have counted := congrArg Utf8.asciiCount chunks
  rw [payload, Utf8.readChunks_ascii] at counted
  omega

theorem fresh_of_chunks
    (chunks : text = Utf8.readChunks artifactChunkBytes (Utf8.encode text) (divCeil (byteLength
      text) artifactChunkBytes)) (index : Nat) :
    Utf8.Fresh ((Utf8.encode text).drop (index * artifactChunkBytes)) := by
  refine (Utf8.readChunks_encode (by decide) _).mp ?_ index
  rw [ByteStreams.chunkCount, Utf8.length_encode]
  exact chunks.symm

/-- A result that was stored is read back for as long as it is held, also by a store opened again,
exactly if no chunk of it begins inside a character and no attachment overwrites its file. -/
theorem read_back_iff (lawful : platform.Lawful) (plain : '/' ∉ id) {before : List Step}
    {stored : ArtifactStore}
    (spilled : maybeSpillToolResultWithLimit platform (run platform ⟨[], []⟩ before) id now source
      sourceTool result maxStoreBytes = (.artifact record, stored)) :
    (∀ (steps : List Step) (later : Nat), (∀ action ∈ steps, action.Spares id) →
      ReadsBack platform (run platform stored steps) later id (platform.resultText result)) ↔
    (∀ index, Utf8.Fresh
      ((Utf8.encode (platform.resultText result)).drop (index * artifactChunkBytes))) ∧
      ¬ OverwritesPayload platform result := by
  have own : ∀ entry ∈ (run platform ⟨[], []⟩ before).disk, Own platform entry.1 entry.2 :=
    own_run lawful (by simp) before
  obtain ⟨kept, isRecord, onDisk, fits⟩ := kept_spilled lawful own spilled
  constructor
  · intro whole
    have chunks := chunks_of_readsBack plain kept isRecord onDisk (whole [] 0 (by simp))
    have spared : ¬ OverwritesPayload platform result :=
      fun overwrites => overwritten_differs lawful overwrites _ chunks
    rw [storedPayload_eq spared] at chunks
    exact ⟨fresh_of_chunks chunks, spared⟩
  · rintro ⟨fresh, spared⟩ steps later spares
    rw [storedPayload_eq spared] at kept
    exact readsBack_of_kept plain fits (kept_run lawful kept spares) fresh

/-! ### Two long results -/

/-- A description as texts of numbers. -/
abbrev Parts :=
  (List Nat × List Nat × Option (List Nat) × Option (List Nat)) × (Nat × Nat × Nat) ×
    List Nat × Option (List Nat) × Nat × List Nat

def ArtifactMetadata.parts (metadata : ArtifactMetadata) : Parts :=
  let codes := List.map Char.toNat
  ((codes metadata.id, codes metadata.sourceTool, metadata.sourceServer.map codes,
    metadata.sourceOwnTool.map codes),
    (metadata.originalSizeBytes, metadata.createdAtSecs, metadata.expiresAtSecs),
    codes metadata.payloadFile, metadata.materializedFile.map codes, metadata.chunkCount,
    codes metadata.preview)

def ofParts (parts : Parts) : ArtifactMetadata :=
  let text := List.map Char.ofNat
  let ((id, tool, server, own), (size, created, expires), payload, materialized, count, preview) := parts
  { id := text id
    sourceTool := text tool
    sourceServer := server.map text
    sourceOwnTool := own.map text
    originalSizeBytes := size
    createdAtSecs := created
    expiresAtSecs := expires
    payloadFile := text payload
    materializedFile := materialized.map text
    chunkCount := count
    preview := text preview }

theorem ofParts_parts (metadata : ArtifactMetadata) : ofParts metadata.parts = metadata := by
  have codes : (List.map Char.ofNat ∘ List.map Char.toNat) = id := by
    funext text
    simp [Function.comp_def]
  have text (text : List Char) : (text.map Char.toNat).map Char.ofNat = text := congrFun codes text
  simp only [ofParts, ArtifactMetadata.parts, text, Option.map_map, codes, Option.map_id, id]

def resultHeader : List Char := "\x7b\"content\":[\x7b\"type\":\"text\",\"text\":\"".toList
def resultFooter : List Char := "\"\x7d],\"isError\":false\x7d".toList

/-- Quotation marks and backslashes are escaped. -/
def escaped (text : List Char) : List Char :=
  text.flatMap fun character =>
    if character == '"' || character == '\\' then ['\\', character] else [character]

/-- Results of one text, with any writing of the metadata that can be read back. -/
def textPlatform : Platform where
  resultText result := resultHeader ++ escaped ((attachmentSource result).getD []) ++ resultFooter
  resultFrom _ := none
  valueText _ := []
  fromStr _ := none
  metadataText metadata := List.replicate (Encodable.encode metadata.parts) 32
  metadataFrom bytes := ((Encodable.decode bytes.length : Option Parts)).map ofParts
  fold name := name
  named name := name ≠ [] && name ≠ ['.'] && name ≠ ['.', '.']
  pathDisplay path := path.directory ++ '/' :: path.file
  timeDebug := Nat.toDigits 10

theorem asciiCount_escaped (text : List Char) : Utf8.asciiCount text ≤ Utf8.asciiCount (escaped text) := by
  induction text with
  | nil => exact Nat.le_refl _
  | cons character text ih =>
    have one : Utf8.asciiCount [character] ≤ Utf8.asciiCount
        (if character == '"' || character == '\\' then ['\\', character] else [character]) := by
      split
      · simp [Utf8.asciiCount, List.countP_cons]
      · exact Nat.le_refl _
    have both : Utf8.asciiCount (character :: text) =
        Utf8.asciiCount [character] + Utf8.asciiCount text := Utf8.asciiCount_append [character] text
    rw [escaped, List.flatMap_cons, Utf8.asciiCount_append, ← escaped, both]
    exact Nat.add_le_add one ih

theorem textPlatform_lawful : textPlatform.Lawful where
  metadata_back metadata := by
    dsimp only [textPlatform]
    rw [List.length_replicate, Encodable.encodek, Option.map_some, ofParts_parts]
  quoted result text found := by
    have longer := asciiCount_escaped text
    dsimp only [textPlatform]
    rw [found, Option.getD_some, Utf8.asciiCount_append, Utf8.asciiCount_append]
    have header : 0 < Utf8.asciiCount resultHeader := by decide
    omega
  strings := by intro text members key string parsed; cases parsed
  apart := by decide
  named := by decide

/-- A result of one text. -/
def resultOf (text : List Char) : CallToolResult :=
  ⟨[.text text], none, some false⟩

/-- What becomes of a result of one text, the first one of a store. -/
def spilledText (text : List Char) : Spilled × ArtifactStore :=
  maybeSpillToolResultWithLimit textPlatform (run textPlatform ⟨[], []⟩ []) "4f0c".toList 0 none
    "gmail_attachment_get_data".toList (resultOf text) artifactStoreMaxBytes

theorem resultText_eq (plain : escaped text = text) :
    textPlatform.resultText (resultOf text) = resultHeader ++ text ++ resultFooter :=
  congrArg (resultHeader ++ · ++ resultFooter) plain

theorem byteLength_result (plain : escaped text = text) :
    byteLength (textPlatform.resultText (resultOf text)) = 35 + byteLength text + 20 := by
  have header : byteLength resultHeader = 35 := by decide
  have footer : byteLength resultFooter = 20 := by decide
  rw [resultText_eq plain, byteLength_append, byteLength_append, header, footer]

theorem spilledText_artifact (plain : escaped text = text) (long : 524288 < byteLength text)
    (short : byteLength text ≤ 1000000) :
    ∃ record, spilledText text = (.artifact record, (spilledText text).2) := by
  have size := byteLength_result plain
  have large : (byteLength (textPlatform.resultText (resultOf text)) ≤ inlineResultMaxBytes ||
      !shouldArtifactize textPlatform "gmail_attachment_get_data".toList (resultOf text)
        (byteLength (textPlatform.resultText (resultOf text)))) = false := by
    rw [size, Bool.or_eq_false_iff, decide_eq_false_iff_not, inlineResultMaxBytes, Bool.not_eq_false',
      shouldArtifactize]
    have ends : "attachment_get_data".toList.isSuffixOf "gmail_attachment_get_data".toList = true := by
      decide
    rw [ends, Bool.or_true, Bool.true_or, Bool.true_or]
    exact ⟨by omega, rfl⟩
  have fits : ¬ artifactStoreMaxBytes.toNat <
      byteLength (textPlatform.resultText (resultOf text)) := by
    rw [size, show artifactStoreMaxBytes.toNat = 5368709120 from rfl]
    omega
  refine ⟨recordOf textPlatform "4f0c".toList 0 none "gmail_attachment_get_data".toList
    (resultOf text) none, ?_⟩
  rw [spilledText, maybeSpillToolResultWithLimit]
  dsimp only
  rw [large]
  simp only [Bool.false_eq_true, if_false, if_neg fits]
  rfl

theorem escaped_replicate {character : Char} (quote : character ≠ '"') (escape : character ≠ '\\')
    (count : Nat) : escaped (List.replicate count character) = List.replicate count character := by
  induction count with
  | zero => rfl
  | succ count ih =>
    rw [escaped] at ih ⊢
    rw [List.replicate_succ, List.flatMap_cons, ih, if_neg (by simp [quote, escape])]
    rfl

theorem byteLength_replicate (character : Char) (count : Nat) :
    byteLength (List.replicate count character) = count * character.utf8Size := by
  simp [byteLength]

/-- No chunk of a text of ASCII characters begins inside a character. -/
theorem fresh_ascii (ascii : ∀ character ∈ text, character.toNat < 0x80) (index : Nat) :
    Utf8.Fresh ((Utf8.encode text).drop index) := by
  intro byte isHead
  have member : byte ∈ Utf8.encode text := List.mem_of_mem_drop (List.mem_of_mem_head? isHead)
  obtain ⟨character, inText, inBytes⟩ := List.mem_flatMap.mp member
  rw [Utf8.encodeChar_ascii (ascii character inText), List.mem_singleton] at inBytes
  have small := ascii character inText
  rw [inBytes, Utf8.isContinuation, UInt8.toNat_ofNat', Nat.mod_eq_of_lt (by omega)]
  simp only [Bool.and_eq_false_iff, decide_eq_false_iff_not]
  omega

theorem not_overwrites (text : List Char) : ¬ OverwritesPayload textPlatform (resultOf text) := by
  rintro ⟨name, bytes, attached, _⟩
  cases attached

/-- 600000 letters. -/
def letters : List Char := List.replicate 600000 'a'

theorem read_back_iff_letters :
    ReadsBack textPlatform (run textPlatform (spilledText letters).2 [.reopen 1]) 2 "4f0c".toList
      (textPlatform.resultText (resultOf letters)) := by
  have plain : escaped letters = letters := escaped_replicate (by decide) (by decide) _
  have size : byteLength letters = 600000 := by
    rw [letters, byteLength_replicate]
    decide
  obtain ⟨record, spilled⟩ := spilledText_artifact plain (by omega) (by omega)
  refine (read_back_iff textPlatform_lawful (by decide) spilled).mpr ⟨?_, not_overwrites letters⟩
    [.reopen 1] 2 (by simp [Step.Spares])
  intro index
  rw [resultText_eq plain]
  apply fresh_ascii
  have header : resultHeader.all (fun character => decide (character.toNat < 0x80)) = true := by
    decide
  have footer : resultFooter.all (fun character => decide (character.toNat < 0x80)) = true := by
    decide
  intro character member
  rcases List.mem_append.mp member with front | inFooter
  · rcases List.mem_append.mp front with inHeader | inText
    · exact of_decide_eq_true (List.all_eq_true.mp header character inHeader)
    · rw [List.eq_of_mem_replicate inText]
      decide
  · exact of_decide_eq_true (List.all_eq_true.mp footer character inFooter)

/-- 300000 letters of two bytes. -/
def accents : List Char := List.replicate 300000 'é'

/-- Behind the first byte of a letter of two bytes. -/
theorem not_fresh_inside {front : List Char} {size : Nat} (length : byteLength front = size)
    (rest : List Char) : ¬ Utf8.Fresh ((Utf8.encode (front ++ 'é' :: rest)).drop (size + 1)) := by
  rw [← Utf8.length_encode] at length
  rw [Utf8.encode_append, Utf8.encode_cons, ← length, List.drop_append, Nat.add_sub_cancel_left,
    List.drop_eq_nil_of_le (Nat.le_succ _)]
  intro fresh
  exact absurd (fresh 0xA9 rfl) (by decide)

/-- The second chunk of the result begins with the second byte of a letter. -/
theorem accents_split :
    ¬ Utf8.Fresh ((Utf8.encode (resultHeader ++ accents ++ resultFooter)).drop 131072) := by
  have later : List.replicate (234481 + 1) 'é' = 'é' :: List.replicate 234481 'é' :=
    List.replicate_succ
  have split : resultHeader ++ accents ++ resultFooter =
      (resultHeader ++ List.replicate 65518 'é') ++
        ('é' :: (List.replicate 234481 'é' ++ resultFooter)) := by
    rw [accents, show 300000 = 65518 + (234481 + 1) from rfl, List.replicate_add, later]
    simp only [List.append_assoc, List.cons_append]
  have length : byteLength (resultHeader ++ List.replicate 65518 'é') = 131071 := by
    have header : byteLength resultHeader = 35 := by decide
    rw [byteLength_append, header, byteLength_replicate]
    decide
  rw [split]
  exact not_fresh_inside length _

/-- A letter that two chunks share is lost in both. -/
theorem split_letter_lost : ¬ ∀ (platform : Platform) (id : List Char) (now : Nat)
    (source : Option (List Char × List Char)) (sourceTool : List Char) (result : CallToolResult)
    (maxStoreBytes : UInt64) (record : ArtifactRecord) (stored : ArtifactStore),
    platform.Lawful → '/' ∉ id →
    maybeSpillToolResultWithLimit platform (run platform ⟨[], []⟩ []) id now source sourceTool result
      maxStoreBytes = (.artifact record, stored) →
    ReadsBack platform stored 0 id (platform.resultText result) := by
  intro claim
  have plain : escaped accents = accents := escaped_replicate (by decide) (by decide) _
  have size : byteLength accents = 600000 := by
    rw [accents, byteLength_replicate]
    decide
  obtain ⟨record, spilled⟩ := spilledText_artifact plain (by omega) (by omega)
  have whole := claim _ _ _ _ _ _ _ _ _ textPlatform_lawful (by decide) spilled
  obtain ⟨kept, isRecord, onDisk, _⟩ := kept_spilled textPlatform_lawful (by simp [run]) spilled
  have chunks := chunks_of_readsBack (by decide) kept isRecord onDisk whole
  rw [storedPayload_eq (not_overwrites accents)] at chunks
  have fresh := fresh_of_chunks chunks 1
  rw [resultText_eq plain] at fresh
  exact accents_split fresh

end Plug.Artifacts
