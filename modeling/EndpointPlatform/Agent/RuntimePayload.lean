import EndpointPlatform.Agent.Journal
import EndpointPlatform.Lib.Pattern
import Mathlib.Data.List.Sort
import Mathlib.Data.Char
import Mathlib.Data.List.Lex

/-!
# The runtime payload of a Windows archive

What the server asks of a Windows update archive before its build is registered:
`verify_windows_archive` reads the archive, its manifest and its contract, and accepts it when every
file is the one the manifest lists. An archive is given as `zipfile` gives it: its entries in the
order of the central directory, each with what reading it returns.

The digest and the full Unicode case folding of names are parameters; nothing is assumed of either.
-/

namespace EndpointPlatform.Agent

open EndpointPlatform.Lib
open EndpointPlatform.Updates (digitsValue)

/-- `stat.S_IFMT` of the mode in the upper half of `external_attr`. -/
inductive FileKind where
  /-- No mode was written. -/
  | unset
  | regular
  | directory
  | symlink
  | other
  deriving Repr, DecidableEq

/-- A `ZipInfo`, and what `archive.read` returns for it, if it does not raise. -/
structure ZipEntry where
  filename : Text
  fileSize : ℕ
  encrypted : Bool
  kind : FileKind
  content : Option Bytes

def ZipEntry.isDir (item : ZipEntry) : Bool := item.filename.getLast? == some '/'

/-- An archive file: its size, its SHA-256 and its entries. -/
structure Archive where
  size : ℕ
  sha256 : Text
  entries : List ZipEntry

def contractFilename : Text := "endpoint-runtime-contract.json".toList

def bundleFilename : Text := "endpoint-update-manifest.json".toList

/-- `UPDATE_EXECUTABLE_NAME`. -/
def executableName : Text := "pc_agent.exe".toList

def maxManifestBytes : ℕ := 4 * 1024 * 1024

def maxContractBytes : ℕ := 4096

def maxFiles : ℕ := 10000

def maxArchiveBytes : ℕ := 512 * 1024 * 1024

def maxPayloadBytes : ℕ := 2 * 1024 * 1024 * 1024

/-- The text of every `PayloadConflict`. -/
def payloadConflict : String := "PROVENANCE_CONFLICT"

/-! ## Names -/

/-- `str.upper` as far as it can make one of the reserved names. -/
def upperLetter (c : Char) : Char :=
  if 'a' ≤ c ∧ c ≤ 'z' then Char.ofNat (c.toNat - 32) else if c = 'ı' then 'I' else c

def reservedNames : List Text :=
  ["CON", "PRN", "AUX", "NUL", "CONIN$", "CONOUT$"].map String.toList ++
    ["COM", "LPT"].flatMap fun port =>
      ['1', '2', '3', '4', '5', '6', '7', '8', '9', '¹', '²', '³'].map fun n => port.toList ++ [n]

/-- `PureWindowsPath(part).is_reserved()`. -/
def isReserved (part : Text) : Bool :=
  let name := rstrip ' ' ((part.takeWhile (· ≠ '.')).takeWhile (· ≠ ':'))
  reservedNames.contains (name.map upperLetter)

/-- What `safe_path` asks of one part of a path. -/
def safePart (part : Text) : Bool :=
  part ≠ [] ∧ part ≠ ['.'] ∧ part ≠ ['.', '.'] ∧ part.getLast? ≠ some '.' ∧
    part.getLast? ≠ some ' ' ∧ part.all (· ∉ ":<>\"|?*".toList) ∧ isReserved part = false

/-- `safe_path`. A drive needs a colon, and an absolute path a leading slash or a drive. -/
def safePath (value : Text) : Bool :=
  value ≠ [] ∧ value.length ≤ 1024 ∧ value.head? ≠ some '/' ∧ '\\' ∉ value ∧
    value.all (32 ≤ ·.toNat) ∧ ∀ part ∈ value.splitOn '/', safePart part = true

/-! ## The manifest and the contract -/

structure PayloadFile where
  path : Text
  size : ℕ
  sha256 : Text
  deriving Repr, DecidableEq

structure PayloadIdentity where
  version : Text
  sourceRevision : Text
  minimumLauncherVersion : Option Text
  files : List PayloadFile

/-- `isinstance(payload, dict)`. -/
def isObject : Json → Bool
  | .obj _ => true
  | _ => false

def readJson (data : Bytes) (maximum : ℕ) : Except String Json := do
  require (0 < data.length ∧ data.length ≤ maximum) payloadConflict
  let result ← demand (Json.loads data) payloadConflict
  require (isObject result) payloadConflict
  .ok result

/-- The most digits that `int` and `str` convert, `sys.int_info.default_max_str_digits`. -/
def maxIntDigits : ℕ := 4300

/-- One number of a version: `0|[1-9][0-9]*`, as far as `int` takes it. -/
def versionNumber (item : Text) : Bool := coreNumber item && decide (item.length ≤ maxIntDigits)

def versionTuple (version : Text) : Option (ℕ × ℕ × ℕ) :=
  match version.splitOn '.' with
  | [major, minor, patch] =>
    if versionNumber major && versionNumber minor && versionNumber patch then
      some (digitsValue major, digitsValue minor, digitsValue patch)
    else none
  | _ => none

/-- A minimum launcher version is null or a version. -/
def launcherForm : Option Json → Bool
  | some .null => true
  | some (.str version) => (versionTuple version).isSome
  | _ => false

section verification

variable (casefold : Text → Text) (sha256 : Bytes → Text)

/-- One entry of the manifest, after the names and the total of those before it. -/
def manifestEntry (names : List Text) (total : ℕ) (entry : Json) : Except String PayloadFile := do
  require (entry.hasKeys ["path", "size", "sha256"]) payloadConflict
  let path ← demand (textField entry "path") payloadConflict
  require (safePath path) payloadConflict
  let size ← demand ((entry.get "size").bind Json.asInt) payloadConflict
  let digest ← demand (textField entry "sha256") payloadConflict
  require (casefold path ∉ names ∧ 0 ≤ size ∧ hexRun 64 digest) payloadConflict
  require (total + size.toNat ≤ maxPayloadBytes) payloadConflict
  .ok ⟨path, size.toNat, digest⟩

/-- The loop of `manifest_files`. -/
def manifestLoop : List Text → ℕ → List Json → Except String (List PayloadFile)
  | _, _, [] => .ok []
  | names, total, entry :: rest => do
    let file ← manifestEntry casefold names total entry
    let files ← manifestLoop (casefold file.path :: names) (total + file.size) rest
    .ok (file :: files)

def manifestItems (manifest : Json) : Option (List Json) :=
  match manifest.get "files" with
  | some (.arr items) => some items
  | _ => none

/-- `manifest_files`: the files in the order of their paths. -/
def manifestFiles (manifest : Json) : Except String (List PayloadFile) := do
  require (manifest.hasKeys ["schema_version", "version", "source_revision", "files"] ∧
    (manifest.get "schema_version").bind Json.asInt = some 1) payloadConflict
  let revision ← demand (textField manifest "source_revision") payloadConflict
  let version ← demand (textField manifest "version") payloadConflict
  require (hexRun 40 revision ∧ (versionTuple version).isSome) payloadConflict
  let items ← demand (manifestItems manifest) payloadConflict
  require (0 < items.length ∧ items.length ≤ maxFiles) payloadConflict
  let files ← manifestLoop casefold [] 0 items
  require (∃ f ∈ files, f.path = executableName) payloadConflict
  .ok (files.insertionSort fun f f' => f.path ≤ f'.path)

def bindContract (manifest : Json) (files : List PayloadFile) (data : Bytes) :
    Except String PayloadIdentity := do
  let contract ← readJson data maxContractBytes
  require (contract.hasKeys
      ["schema_version", "version", "source_revision", "minimum_launcher_version"] ∧
    (contract.get "schema_version").bind Json.asInt = some 1) payloadConflict
  let version ← demand (textField contract "version") payloadConflict
  let revision ← demand (textField contract "source_revision") payloadConflict
  require (textField manifest "version" = some version ∧
    textField manifest "source_revision" = some revision) payloadConflict
  let minimum := textField contract "minimum_launcher_version"
  require (launcherForm (contract.get "minimum_launcher_version")) payloadConflict
  let expected ← demand (files.find? fun f => f.path = contractFilename) payloadConflict
  require (data.length = expected.size ∧ sha256 data = expected.sha256) payloadConflict
  .ok ⟨version, revision, minimum, files⟩

/-! ## The archive -/

/-- What the scan of the entries has collected. -/
structure Scan where
  entries : List (Text × ZipEntry)
  names : List Text
  expanded : ℕ

def Scan.entry (scan : Scan) (name : Text) : Option ZipEntry :=
  (scan.entries.find? fun e => e.1 = name).map Prod.snd

/-- The name of an entry; a directory's is without its closing slashes. -/
def ZipEntry.name (item : ZipEntry) : Text :=
  if item.isDir then rstrip '/' item.filename else item.filename

def scanEntry (scan : Scan) (item : ZipEntry) : Except String Scan := do
  require (scan.names.length < maxFiles + 1) payloadConflict
  require (safePath item.name) payloadConflict
  require (casefold item.name ∉ scan.names ∧ item.encrypted = false ∧
    item.kind ∈ [.unset, .regular, .directory]) payloadConflict
  require (scan.expanded + item.fileSize ≤ maxPayloadBytes + maxManifestBytes) payloadConflict
  .ok { entries := if item.isDir then scan.entries else scan.entries ++ [(item.name, item)]
        names := casefold item.name :: scan.names
        expanded := scan.expanded + item.fileSize }

/-- The entry of a listed file has its size and its digest. -/
def fileMatches (scan : Scan) (file : PayloadFile) : Bool :=
  match scan.entry file.path with
  | some item => item.fileSize = file.size ∧
    (item.content.any fun data => data.length = file.size ∧ sha256 data = file.sha256)
  | none => false

/-- What the registration of a build says of its archive. -/
structure ArchiveClaim where
  sha256 : Text
  size : ℤ
  version : Text
  minimumLauncherVersion : Option Text

def verifyWindowsArchive (archive : Archive) (claim : ArchiveClaim) :
    Except String PayloadIdentity := do
  require (0 < claim.size ∧ claim.size ≤ maxArchiveBytes ∧ hexRun 64 claim.sha256) payloadConflict
  require ((archive.size : ℤ) = claim.size ∧ archive.sha256 = claim.sha256) payloadConflict
  let scan ← archive.entries.foldlM (scanEntry casefold) ⟨[], [], 0⟩
  let bundle ← demand (scan.entry bundleFilename) payloadConflict
  require (0 < bundle.fileSize ∧ bundle.fileSize ≤ maxManifestBytes) payloadConflict
  let raw ← demand bundle.content payloadConflict
  let manifest ← readJson raw maxManifestBytes
  let files ← manifestFiles casefold manifest
  require ((∀ e ∈ scan.entries, e.1 = bundleFilename ∨ ∃ f ∈ files, f.path = e.1) ∧
    ∀ f ∈ files, (scan.entry f.path).isSome) payloadConflict
  require (∀ f ∈ files, fileMatches sha256 scan f = true) payloadConflict
  let contract ← demand (scan.entry contractFilename) payloadConflict
  require (contract.fileSize ≤ maxContractBytes) payloadConflict
  let data ← demand contract.content payloadConflict
  let result ← bindContract sha256 manifest files data
  require (result.version = claim.version ∧
    result.minimumLauncherVersion = claim.minimumLauncherVersion) payloadConflict
  .ok result

/-! ## What an accepted archive is -/

variable {casefold} {sha256}

def fileEntries (entries : List ZipEntry) : List (Text × ZipEntry) :=
  (entries.filter fun item => !item.isDir).map fun item => (item.name, item)

/-- What the scan has collected of the entries it has seen. -/
structure Scanned (casefold : Text → Text) (entries : List ZipEntry) (scan : Scan) : Prop where
  files : scan.entries = fileEntries entries
  names : scan.names = (entries.map fun item => casefold item.name).reverse
  distinct : scan.names.Nodup
  safe : ∀ item ∈ entries, safePath item.name = true ∧ item.kind ≠ .symlink

theorem Scanned.step {entries : List ZipEntry} {scan scan' : Scan} {item : ZipEntry}
    (h : Scanned casefold entries scan) (hstep : scanEntry casefold scan item = .ok scan') :
    Scanned casefold (entries ++ [item]) scan' := by
  simp only [scanEntry, bind_eq_ok, require_eq_ok, Except.ok.injEq] at hstep
  obtain ⟨-, -, -, hsafe, -, ⟨hfresh, -, hkind⟩, -, -, rfl⟩ := hstep
  refine ⟨?_, ?_, List.nodup_cons.mpr ⟨hfresh, h.distinct⟩, fun e he => ?_⟩
  · cases hdir : item.isDir <;> simp [fileEntries, h.files, hdir]
  · simp [h.names]
  · obtain he | he := List.mem_append.mp he
    · exact h.safe e he
    · obtain rfl := List.mem_singleton.mp he
      exact ⟨hsafe, fun hsymlink => by simp [hsymlink] at hkind⟩

theorem scanned_of_foldlM {seen entries : List ZipEntry} {scan scan' : Scan}
    (h : Scanned casefold seen scan)
    (hscan : entries.foldlM (scanEntry casefold) scan = .ok scan') :
    Scanned casefold (seen ++ entries) scan' := by
  induction entries generalizing seen scan with
  | nil =>
    obtain rfl : scan = scan' := by simpa using hscan
    simpa using h
  | cons item entries ih =>
    simp only [List.foldlM_cons, bind_eq_ok] at hscan
    obtain ⟨scan₁, hstep, hrest⟩ := hscan
    simpa using ih (h.step hstep) hrest

theorem Scanned.entry_eq_some {entries : List ZipEntry} {scan : Scan}
    (h : Scanned casefold entries scan) {name : Text} {item : ZipEntry}
    (hfound : scan.entry name = some item) :
    item ∈ entries ∧ item.isDir = false ∧ item.name = name := by
  obtain ⟨⟨name', item'⟩, hfind, rfl⟩ := Option.map_eq_some_iff.mp hfound
  have hmem := List.mem_of_find?_eq_some hfind
  have hname : name' = name := by simpa using List.find?_some hfind
  rw [h.files, fileEntries, List.mem_map] at hmem
  obtain ⟨e, he, heq⟩ := hmem
  obtain ⟨rfl, rfl⟩ := Prod.mk.inj heq
  simp only [List.mem_filter, Bool.not_eq_true'] at he
  exact ⟨he.1, he.2, hname⟩

theorem Scanned.nodup {entries : List ZipEntry} {scan : Scan} (h : Scanned casefold entries scan) :
    (entries.map ZipEntry.name).Nodup := by
  have hdistinct := h.distinct
  rw [h.names, List.nodup_reverse] at hdistinct
  have hcomp : (entries.map fun item => casefold item.name) =
      (entries.map ZipEntry.name).map casefold := by
    rw [List.map_map]
    rfl
  rw [hcomp] at hdistinct
  exact hdistinct.of_map

structure Lists (entry : Json) (file : PayloadFile) : Prop where
  keys : entry.hasKeys ["path", "size", "sha256"] = true
  path : textField entry "path" = some file.path
  size : (entry.get "size").bind Json.asInt = some (file.size : ℤ)
  sha256 : textField entry "sha256" = some file.sha256
  safe : safePath file.path = true
  digest : hexRun 64 file.sha256 = true

/-- The loop lists the entries' files, under distinct paths. -/
theorem manifestLoop_ok {names : List Text} {total : ℕ} {items : List Json}
    {files : List PayloadFile} (h : manifestLoop casefold names total items = .ok files) :
    List.Forall₂ Lists items files ∧ (files.map fun f => f.path).Nodup ∧
      ∀ f ∈ files, casefold f.path ∉ names := by
  induction items generalizing names total files with
  | nil =>
    obtain rfl : [] = files := by simpa [manifestLoop] using h
    exact ⟨.nil, List.nodup_nil, by simp⟩
  | cons entry items ih =>
    simp only [manifestLoop, bind_eq_ok, Except.ok.injEq] at h
    obtain ⟨file, hfile, rest, hrest, rfl⟩ := h
    simp only [manifestEntry, bind_eq_ok, require_eq_ok, demand_eq_ok, Except.ok.injEq] at hfile
    obtain ⟨-, hkeys, path, hpath, -, hsafe, size, hsize, digest, hdigest, -,
      ⟨hfresh, hpos, hhex⟩, -, -, rfl⟩ := hfile
    obtain ⟨hforall, hnodup, hnames⟩ := ih hrest
    refine ⟨.cons ⟨hkeys, hpath, ?_, hdigest, hsafe, hhex⟩ hforall,
      List.nodup_cons.mpr ⟨fun hmem => ?_, hnodup⟩, fun f hf => ?_⟩
    · rw [hsize, Int.toNat_of_nonneg hpos]
    · obtain ⟨f, hf, hsame⟩ := List.mem_map.mp hmem
      exact hnames f hf (by simp [hsame])
    · obtain rfl | hf := List.mem_cons.mp hf
      · exact hfresh
      · exact fun hmem => hnames f hf (List.mem_cons_of_mem _ hmem)

/-- What the server knows of an archive that it accepts. -/
structure AcceptedArchive (sha256 : Bytes → Text) (archive : Archive) (claim : ArchiveClaim)
    (raw : Bytes) (manifest : Json) (items : List Json) (files : List PayloadFile) : Prop where
  size : (archive.size : ℤ) = claim.size
  digest : archive.sha256 = claim.sha256
  /-- The entries have safe names, and none is a symbolic link. -/
  safe : ∀ item ∈ archive.entries, safePath item.name = true ∧ item.kind ≠ .symlink
  nodup : (archive.entries.map ZipEntry.name).Nodup
  /-- The manifest is among them. -/
  bundle : ∃ item ∈ archive.entries, item.isDir = false ∧ item.name = bundleFilename ∧
    item.content = some raw
  loads : Json.loads raw = some manifest
  keys : manifest.hasKeys ["schema_version", "version", "source_revision", "files"] = true
  schema : (manifest.get "schema_version").bind Json.asInt = some 1
  revision : ∃ revision, textField manifest "source_revision" = some revision ∧
    hexRun 40 revision = true
  version : textField manifest "version" = some claim.version
  items_eq : manifestItems manifest = some items
  nonempty : items ≠ []
  lists : List.Forall₂ Lists items files
  paths : (files.map fun f => f.path).Nodup
  executable : ∃ f ∈ files, f.path = executableName
  /-- Every other file is listed. -/
  listed : ∀ item ∈ archive.entries, item.isDir = false →
    item.name = bundleFilename ∨ ∃ f ∈ files, f.path = item.name
  /-- Every listed file is there, as it is listed. -/
  present : ∀ f ∈ files, ∃ item ∈ archive.entries, item.isDir = false ∧ item.name = f.path ∧
    ∃ data, item.content = some data ∧ data.length = f.size ∧ sha256 data = f.sha256

theorem bindContract_ok {manifest : Json} {files : List PayloadFile} {data : Bytes}
    {identity : PayloadIdentity} (h : bindContract sha256 manifest files data = .ok identity) :
    textField manifest "version" = some identity.version ∧ identity.files = files := by
  simp only [bindContract, bind_eq_ok, require_eq_ok, demand_eq_ok, Except.ok.injEq] at h
  obtain ⟨contract, -, -, -, version, -, revision, -, -, ⟨hversion, -⟩, -, -, expected, -, -, -,
    rfl⟩ := h
  exact ⟨hversion, rfl⟩

theorem content_of_fileMatches {scan : Scan} {file : PayloadFile}
    (h : fileMatches sha256 scan file = true) :
    ∃ item data, scan.entry file.path = some item ∧ item.content = some data ∧
      data.length = file.size ∧ sha256 data = file.sha256 := by
  unfold fileMatches at h
  split at h
  · rename_i item hfound
    simp only [Bool.decide_and, Bool.and_eq_true, decide_eq_true_eq, Option.any_eq_true] at h
    obtain ⟨-, data, hdata, hlength, hdigest⟩ := h
    exact ⟨item, data, hfound, hdata, hlength, hdigest⟩
  · cases h

/-- An archive that the server accepts. -/
theorem verifyWindowsArchive_ok {archive : Archive} {claim : ArchiveClaim}
    {identity : PayloadIdentity}
    (h : verifyWindowsArchive casefold sha256 archive claim = .ok identity) :
    ∃ raw manifest items files, AcceptedArchive sha256 archive claim raw manifest items files ∧
      identity.files.Perm files := by
  simp only [verifyWindowsArchive, bind_eq_ok, require_eq_ok, demand_eq_ok, readJson, manifestFiles,
    Except.ok.injEq] at h
  obtain ⟨-, -, -, ⟨hsize, hdigest⟩, scan, hscan, bundle, hbundle, -, -, raw, hraw, manifest,
    ⟨-, -, manifest', hloads, -, -, rfl⟩, sorted,
    ⟨-, ⟨hkeys, hschema⟩, revision, hrevision, version, hversion, -, ⟨hhex, -⟩, items, hitems, -,
      ⟨hnonempty, -⟩, files, hloop, -, hexecutable, rfl⟩,
    -, ⟨hlisted, hpresent⟩, -, hmatches, contract, hcontract, -, -, data, hdata, result, hbind, -,
    ⟨hclaim, -⟩, rfl⟩ := h
  -- What the fold over the entries has collected is every file, under distinct names.
  have hscanned : Scanned casefold archive.entries scan := by
    have hnone : Scanned casefold [] ⟨[], [], 0⟩ := ⟨rfl, rfl, List.nodup_nil, by simp⟩
    exact scanned_of_foldlM hnone hscan
  obtain ⟨hforall, hnodup, -⟩ := manifestLoop_ok hloop
  obtain ⟨hbound, hfiles⟩ := bindContract_ok hbind
  simp only [List.mem_insertionSort] at hlisted hmatches
  refine ⟨raw, manifest', items, files, ?_, by rw [hfiles]; exact List.perm_insertionSort _ _⟩
  exact {
    size := hsize
    digest := hdigest
    safe := hscanned.safe
    nodup := hscanned.nodup
    bundle := by
      obtain ⟨hmem, hdir, hname⟩ := hscanned.entry_eq_some hbundle
      exact ⟨bundle, hmem, hdir, hname, hraw⟩
    loads := hloads
    keys := hkeys
    schema := hschema
    revision := ⟨revision, hrevision, hhex⟩
    version := by rw [hbound, hclaim]
    items_eq := hitems
    nonempty := List.length_pos_iff.mp hnonempty
    lists := hforall
    paths := hnodup
    executable := hexecutable
    listed := fun item hitem hdir => by
      refine hlisted (item.name, item) ?_
      rw [hscanned.files, fileEntries, List.mem_map]
      exact ⟨item, by simp [hitem, hdir], rfl⟩
    present := fun f hf => by
      obtain ⟨item, data, hfound, hdata, hlength, hsha⟩ := content_of_fileMatches (hmatches f hf)
      obtain ⟨hmem, hdir, hname⟩ := hscanned.entry_eq_some hfound
      exact ⟨item, hmem, hdir, hname, data, hdata, hlength, hsha⟩ }

end verification

end EndpointPlatform.Agent
