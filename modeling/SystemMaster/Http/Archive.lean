import SystemMaster.Http.Requests
import SystemMaster.Library.Codec

/-!
# The archive of static files

The files that the server shows lie in an uncompressed ZIP archive in memory. A look-up
walks from header to header and compares the name asked for over the length of the
entry's name, so that it finds the first entry whose name is a prefix of it.
-/

namespace SystemMaster.Http

open Codec Texts

/-- `MEMZIP_FILE_HDR`, packed. -/
structure FileHdr where
  signature : UInt32
  version : UInt16
  flags : UInt16
  compressionMethod : UInt16
  lastModTime : UInt16
  lastModDate : UInt16
  crc32 : UInt32
  compressedSize : UInt32
  uncompressedSize : UInt32
  filenameLen : UInt16
  extraLen : UInt16
  deriving DecidableEq

def fileHdr : Codec FileHdr :=
  (u32.prod (u16.prod (u16.prod (u16.prod (u16.prod (u16.prod (u32.prod (u32.prod (u32.prod
    (u16.prod u16)))))))))).map
    (fun (signature, version, flags, method, time, date, crc, compressed, uncompressed, name,
      extra) => ⟨signature, version, flags, method, time, date, crc, compressed, uncompressed,
        name, extra⟩)
    (fun h => (h.signature, h.version, h.flags, h.compressionMethod, h.lastModTime, h.lastModDate,
      h.crc32, h.compressedSize, h.uncompressedSize, h.filenameLen, h.extraLen)) fun _ => rfl

def slash : UInt8 := 0x2F

/-- Whether `strncmp` finds these letters, over all their number, where this text stands. -/
def strncmpEq (letters text : List UInt8) : Bool :=
  if 0 ∈ letters then letters.takeWhile (· ≠ 0) = text else letters <+: text

-- ---------------------------------------------------------------------------
-- Looking up a file
-- ---------------------------------------------------------------------------

namespace FileHdr

def name (p : Nat) : Nat := p + fileHdr.size

def data (h : FileHdr) (p : Nat) : Nat := name p + h.filenameLen.toNat + h.extraLen.toNat

def next (h : FileHdr) (p : Nat) : Nat := h.data p + h.uncompressedSize.toNat

end FileHdr

def stripSlash (filename : List UInt8) : List UInt8 :=
  if filename.head? = some slash then filename.drop 1 else filename

/-- A loop over the headers from `p` on, as far as `found` does not hold, for at most so
many of them. -/
def walk (m : Memory UInt8) (found : FileHdr → Nat → Bool) : Nat → Nat → Option (Option Nat)
  | 0, _ => none
  | fuel + 1, p =>
    let h := fileHdr.load m p
    if h.signature = memzipSignature then
      if found h p then some (some p) else walk m found fuel (h.next p)
    else some none

def memzipFindFileHeader (m : Memory UInt8) (fuel : Nat) (filename : List UInt8) :
    Option (Option Nat) :=
  walk m (fun h p => strncmpEq (m.read (FileHdr.name p) h.filenameLen.toNat) (stripSlash filename))
    fuel 0

def memzipIsDir (m : Memory UInt8) (fuel : Nat) (filename : List UInt8) : Option Bool :=
  let dir := stripSlash filename
  if filename = [slash] then some true
  else
    (walk m (fun h p => dir.length < h.filenameLen.toNat &&
      m.read (FileHdr.name p) dir.length = dir && m (FileHdr.name p + dir.length) = slash)
      fuel 0).map Option.isSome

inductive Located where
  | ok (data len : Nat)
  | noFile
  | fileCompressed
  deriving DecidableEq

def memzipLocate (m : Memory UInt8) (fuel : Nat) (filename : List UInt8) : Option Located :=
  (memzipFindFileHeader m fuel filename).map fun
    | none => .noFile
    | some p =>
      let h := fileHdr.load m p
      if h.compressionMethod ≠ 0 then .fileCompressed else .ok (h.data p) h.uncompressedSize.toNat

structure FileInfo where
  fileSize : UInt32
  lastModDate : UInt16
  lastModTime : UInt16
  isDir : Bool
  deriving DecidableEq

def memzipStat (m : Memory UInt8) (fuel : Nat) (path : List UInt8) : Option (Option FileInfo) := do
  match ← memzipFindFileHeader m fuel path with
  | some p =>
    let h := fileHdr.load m p
    return some ⟨h.uncompressedSize, h.lastModDate, h.lastModTime, false⟩
  | none => return if ← memzipIsDir m fuel path then some ⟨0, 0, 0, true⟩ else none

-- ---------------------------------------------------------------------------
-- Archives
-- ---------------------------------------------------------------------------

/-- An entry of an archive. The fields of its header that say how long its parts are
follow from the parts. -/
structure Entry where
  hdr : FileHdr
  name : List UInt8
  extra : List UInt8
  contents : List UInt8
  signature_eq : hdr.signature = memzipSignature
  filenameLen_eq : hdr.filenameLen.toNat = name.length
  extraLen_eq : hdr.extraLen.toNat = extra.length
  size_eq : hdr.uncompressedSize.toNat = contents.length
  nonzero : 0 ∉ name

namespace Entry

def encode (e : Entry) : List UInt8 := fileHdr.encode e.hdr ++ e.name ++ e.extra ++ e.contents

def size (e : Entry) : Nat := fileHdr.size + e.name.length + e.extra.length + e.contents.length

end Entry

/-- From `p` on the memory holds these entries, and then no header of a file. -/
def HoldsArchive (m : Memory UInt8) : Nat → List Entry → Prop
  | p, [] => (fileHdr.load m p).signature ≠ memzipSignature
  | p, e :: es => m.read p e.size = e.encode ∧ HoldsArchive m (p + e.size) es

def place (es : List Entry) (i : Nat) : Nat := ((es.take i).map Entry.size).sum

def contentsPlace (es : List Entry) (i : Nat) : Nat :=
  place es i + (es[i]?.elim 0 fun e => fileHdr.size + e.name.length + e.extra.length)

def firstPrefix (es : List Entry) (filename : List UInt8) : Option Nat :=
  es.findIdx? fun e => e.name <+: stripSlash filename

def lookup (es : List Entry) (filename : List UInt8) : Located :=
  match firstPrefix es filename with
  | none => .noFile
  | some i => es[i]?.elim .noFile fun e =>
      if e.hdr.compressionMethod ≠ 0 then .fileCompressed
      else .ok (contentsPlace es i) e.contents.length

/-- The directories of an archive are the parts of its names up to a slash. -/
def isDirectory (es : List Entry) (filename : List UInt8) : Bool :=
  filename = [slash] || es.any fun e => stripSlash filename ++ [slash] <+: e.name

def status (es : List Entry) (path : List UInt8) : Option FileInfo :=
  match firstPrefix es path with
  | some i => es[i]?.map fun e =>
      ⟨e.hdr.uncompressedSize, e.hdr.lastModDate, e.hdr.lastModTime, false⟩
  | none => if isDirectory es path then some ⟨0, 0, 0, true⟩ else none

variable {m : Memory UInt8} {e : Entry} {es : List Entry} {p i fuel : Nat}
  {filename text : List UInt8} {found : FileHdr → Nat → Bool} {test : Entry → Bool}

-- ---------------------------------------------------------------------------
-- The walk over an archive
-- ---------------------------------------------------------------------------

theorem Entry.length_encode (e : Entry) : e.encode.length = e.size := by
  simp [encode, size, Nat.add_assoc]

theorem Entry.read_parts (h : m.read p e.size = e.encode) :
    fileHdr.load m p = e.hdr ∧ m.read (FileHdr.name p) e.name.length = e.name ∧
      m.read (e.hdr.data p) e.contents.length = e.contents := by
  have hsize : fileHdr.size ≤ e.size := by simp [size, Nat.add_assoc]
  refine ⟨?_, ?_, ?_⟩
  · have hhdr := Memory.read_part [] (fileHdr.encode e.hdr) (e.name ++ e.extra ++ e.contents)
      (by simpa [encode] using h)
    rw [load, ← fileHdr.encode_length e.hdr]
    simpa using congrArg fileHdr.decode hhdr
  · have hname := Memory.read_part (fileHdr.encode e.hdr) e.name (e.extra ++ e.contents)
      (by simpa [encode] using h)
    simpa [FileHdr.name] using hname
  · have hcontents := Memory.read_part (fileHdr.encode e.hdr ++ e.name ++ e.extra) e.contents []
      (by simpa [encode] using h)
    rw [FileHdr.data, FileHdr.name, e.filenameLen_eq, e.extraLen_eq]
    simpa [Nat.add_assoc] using hcontents

theorem Entry.next_eq (e : Entry) (p : Nat) : e.hdr.next p = p + e.size := by
  rw [FileHdr.next, FileHdr.data, FileHdr.name, e.filenameLen_eq, e.extraLen_eq, e.size_eq, size]
  omega

theorem walk_archive (test : Entry → Bool) (h : HoldsArchive m p es) (hfuel : es.length < fuel)
    (htest : ∀ e p, m.read p e.size = e.encode → found e.hdr p = test e) :
    walk m found fuel p = some ((es.findIdx? test).map fun i => p + place es i) := by
  induction es generalizing p fuel with
  | nil =>
    obtain ⟨fuel, rfl⟩ := Nat.exists_eq_succ_of_ne_zero (Nat.ne_zero_of_lt hfuel)
    exact if_neg h
  | cons e es ih =>
    obtain ⟨fuel, rfl⟩ := Nat.exists_eq_succ_of_ne_zero (Nat.ne_zero_of_lt hfuel)
    obtain ⟨hread, hrest⟩ := h
    obtain ⟨hhdr, -, -⟩ := Entry.read_parts hread
    rw [walk, hhdr, if_pos e.signature_eq, htest e p hread, e.next_eq, List.findIdx?_cons]
    cases htestE : test e with
    | true => simp [place]
    | false =>
      rw [if_neg (by simp), ih hrest (Nat.lt_of_succ_lt_succ hfuel)]
      cases es.findIdx? test with
      | none => simp
      | some i => simp [place, Nat.add_assoc]

theorem strncmpEq_name (e : Entry) (text : List UInt8) :
    strncmpEq e.name text = decide (e.name <+: text) := by
  rw [strncmpEq, if_neg e.nonzero]

theorem findFileHeader_eq (h : HoldsArchive m 0 es) (hfuel : es.length < fuel) :
    memzipFindFileHeader m fuel filename =
      some ((firstPrefix es filename).map fun i => place es i) := by
  rw [memzipFindFileHeader, walk_archive (fun e => e.name <+: stripSlash filename) h hfuel]
  · simp [firstPrefix]
  · intro e p hread
    obtain ⟨-, hname, -⟩ := Entry.read_parts hread
    rw [e.filenameLen_eq, hname, strncmpEq_name]

theorem HoldsArchive.getElem (h : HoldsArchive m p es) (hi : i < es.length) :
    m.read (p + place es i) es[i].size = es[i].encode := by
  induction es generalizing p i with
  | nil => cases hi
  | cons e es ih =>
    cases i with
    | zero => exact h.1
    | succ i =>
      have hrest := ih h.2 (Nat.lt_of_succ_lt_succ hi)
      simpa [place, Nat.add_assoc] using hrest

theorem contentsPlace_getElem (hi : i < es.length) : contentsPlace es i =
    es[i].hdr.data (place es i) := by
  rw [contentsPlace, List.getElem?_eq_getElem hi, FileHdr.data, FileHdr.name,
    es[i].filenameLen_eq, es[i].extraLen_eq]
  simp [Nat.add_assoc]

theorem HoldsArchive.contents (h : HoldsArchive m 0 es) (hi : i < es.length) :
    m.read (contentsPlace es i) es[i].contents.length = es[i].contents := by
  have hread := h.getElem hi
  rw [Nat.zero_add] at hread
  obtain ⟨-, -, hcontents⟩ := Entry.read_parts hread
  rwa [contentsPlace_getElem hi]

theorem firstPrefix_lt (h : firstPrefix es filename = some i) : i < es.length :=
  (List.findIdx?_eq_some_iff_getElem.mp h).1

theorem locate_eq (h : HoldsArchive m 0 es) (hfuel : es.length < fuel) :
    memzipLocate m fuel filename = some (lookup es filename) := by
  rw [memzipLocate, findFileHeader_eq h hfuel, lookup]
  cases hi : firstPrefix es filename with
  | none => rfl
  | some i =>
    have hlt := firstPrefix_lt hi
    have hread := h.getElem hlt
    rw [Nat.zero_add] at hread
    obtain ⟨hhdr, -, -⟩ := Entry.read_parts hread
    simp [hhdr, List.getElem?_eq_getElem hlt, contentsPlace_getElem hlt, es[i].size_eq]

theorem dir_prefix_iff {dir name : List UInt8} :
    dir ++ [slash] <+: name ↔
      dir.length < name.length ∧ name.take dir.length = dir ∧ name[dir.length]? = some slash := by
  constructor
  · rintro ⟨t, rfl⟩
    simp
  · rintro ⟨hlt, htake, hslash⟩
    refine ⟨name.drop (dir.length + 1), ?_⟩
    rw [List.getElem?_eq_getElem hlt] at hslash
    conv_rhs => rw [← List.take_append_drop dir.length name, htake, List.drop_eq_getElem_cons hlt,
      Option.some.inj hslash]
    simp

theorem isDir_eq (h : HoldsArchive m 0 es) (hfuel : es.length < fuel) :
    memzipIsDir m fuel filename = some (isDirectory es filename) := by
  rw [memzipIsDir, isDirectory]
  by_cases hroot : filename = [slash]
  · simp [hroot]
  · rw [if_neg hroot, walk_archive (fun e => stripSlash filename ++ [slash] <+: e.name) h hfuel]
    · have hany : (es.findIdx? fun e => stripSlash filename ++ [slash] <+: e.name).isSome =
          es.any fun e => stripSlash filename ++ [slash] <+: e.name := List.findIdx?_isSome
      simp [hroot, hany]
    · intro e p hread
      obtain ⟨-, hname, -⟩ := Entry.read_parts hread
      have htake (hlt : (stripSlash filename).length < e.name.length) :
          m.read (FileHdr.name p) (stripSlash filename).length =
            e.name.take (stripSlash filename).length := by
        rw [← Memory.read_take hlt.le, hname]
      have hat (hlt : (stripSlash filename).length < e.name.length) :
          e.name[(stripSlash filename).length] =
            m (FileHdr.name p + (stripSlash filename).length) := by
        have hget := List.getElem?_eq_getElem hlt
        conv_lhs at hget => rw [← hname, Memory.read_getElem?, if_pos hlt]
        exact (Option.some.inj hget).symm
      rw [e.filenameLen_eq]
      by_cases hlt : (stripSlash filename).length < e.name.length
      · simp [dir_prefix_iff, hlt, htake hlt, hat hlt]
      · simp [dir_prefix_iff, hlt]

theorem stat_eq (h : HoldsArchive m 0 es) (hfuel : es.length < fuel) :
    memzipStat m fuel filename = some (status es filename) := by
  rw [memzipStat, findFileHeader_eq h hfuel, status, Option.bind_eq_bind, Option.bind_some]
  cases hi : firstPrefix es filename with
  | none =>
    simp only [Option.map_none, isDir_eq h hfuel, Option.bind_eq_bind, Option.bind_some,
      Option.pure_def]
  | some i =>
    have hlt := firstPrefix_lt hi
    have hread := h.getElem hlt
    rw [Nat.zero_add] at hread
    obtain ⟨hhdr, -, -⟩ := Entry.read_parts hread
    simp [hhdr, List.getElem?_eq_getElem hlt]

/-- A file that a look-up gives has a status with its length. -/
theorem stat_of_locate (h : HoldsArchive m 0 es) (hfuel : es.length < fuel) {data len : Nat}
    (hlocate : memzipLocate m fuel filename = some (.ok data len)) :
    ∃ info, memzipStat m fuel filename = some (some info) ∧ info.fileSize.toNat = len ∧
      info.isDir = false := by
  rw [locate_eq h hfuel, Option.some.injEq, lookup] at hlocate
  cases hi : firstPrefix es filename with
  | none => simp [hi] at hlocate
  | some i =>
    have hlt := firstPrefix_lt hi
    simp only [hi, List.getElem?_eq_getElem hlt, Option.elim_some] at hlocate
    split at hlocate
    case isTrue => cases hlocate
    case isFalse =>
      obtain ⟨-, rfl⟩ := Located.ok.inj hlocate
      have hstatus : status es filename =
          some ⟨es[i].hdr.uncompressedSize, es[i].hdr.lastModDate, es[i].hdr.lastModTime, false⟩ := by
        simp [status, hi, List.getElem?_eq_getElem hlt]
      exact ⟨_, (stat_eq h hfuel).trans (congrArg some hstatus), es[i].size_eq, rfl⟩

-- ---------------------------------------------------------------------------
-- Entries and their names
-- ---------------------------------------------------------------------------

theorem place_succ (hi : i < es.length) : place es (i + 1) = place es i + es[i].size := by
  rw [place, place, List.take_succ_eq_append_getElem hi, List.map_append, List.sum_append,
    List.map_singleton, List.sum_singleton]

theorem place_mono {j : Nat} (h : i ≤ j) (hj : j ≤ es.length) : place es i ≤ place es j := by
  induction j, h using Nat.le_induction with
  | base => exact le_rfl
  | succ j _ ih =>
    rw [place_succ hj]
    exact (ih (Nat.le_of_lt hj)).trans (Nat.le_add_right ..)

theorem contentsPlace_lt {j : Nat} (hij : i < j) (hj : j < es.length) :
    contentsPlace es i < contentsPlace es j := by
  have hi := hij.trans hj
  have hnext : contentsPlace es i ≤ place es (i + 1) := by
    rw [place_succ hi, contentsPlace, List.getElem?_eq_getElem hi, Entry.size]
    simp
  have hmono : place es (i + 1) ≤ place es j := place_mono hij hj.le
  have hafter : place es j < contentsPlace es j := by
    have hsize : 0 < fileHdr.size := by decide
    rw [contentsPlace, List.getElem?_eq_getElem hj, Option.elim_some]
    omega
  omega

theorem firstPrefix_own_iff (hi : i < es.length) :
    firstPrefix es (slash :: es[i].name) = some i ↔
      ∀ j (hj : j < i), ¬es[j].name <+: es[i].name := by
  rw [firstPrefix, List.findIdx?_eq_some_iff_getElem]
  simp [stripSlash, hi]

theorem lookup_own_iff (hi : i < es.length) (hstored : es[i].hdr.compressionMethod = 0) :
    lookup es (slash :: es[i].name) = .ok (contentsPlace es i) es[i].contents.length ↔
      ∀ j (hj : j < i), ¬es[j].name <+: es[i].name := by
  rw [← firstPrefix_own_iff hi]
  constructor
  · intro h
    rw [lookup] at h
    cases hk : firstPrefix es (slash :: es[i].name) with
    | none => simp [hk] at h
    | some k =>
      have hlt := firstPrefix_lt hk
      simp only [hk, List.getElem?_eq_getElem hlt, Option.elim_some] at h
      split at h
      case isTrue => cases h
      case isFalse =>
        obtain ⟨hplace, -⟩ := Located.ok.inj h
        rcases Nat.lt_trichotomy k i with hlt' | rfl | hlt'
        · exact absurd hplace (contentsPlace_lt hlt' hi).ne
        · rfl
        · exact absurd hplace (contentsPlace_lt hlt' hlt).ne'
  · intro h
    simp [lookup, h, List.getElem?_eq_getElem hi, hstored]

/-- A look-up gives the contents of the first entry whose name is a prefix of the name
asked for, and says which names are directories. An entry is found under its own name
exactly when no entry in front of it has a name that its own begins with. -/
theorem archive_lookup (m : Memory UInt8) (es : List Entry) (fuel : Nat)
    (h : HoldsArchive m 0 es) (hfuel : es.length < fuel) :
    (∀ filename, memzipLocate m fuel filename = some (lookup es filename) ∧
        memzipIsDir m fuel filename = some (isDirectory es filename)) ∧
      ∀ i (hi : i < es.length), m.read (contentsPlace es i) es[i].contents.length =
          es[i].contents ∧ (es[i].hdr.compressionMethod = 0 →
        (memzipLocate m fuel (slash :: es[i].name) =
            some (.ok (contentsPlace es i) es[i].contents.length) ↔
          ∀ j (hj : j < i), ¬es[j].name <+: es[i].name)) := by
  refine ⟨fun filename => ⟨locate_eq h hfuel, isDir_eq h hfuel⟩, fun i hi => ⟨h.contents hi, ?_⟩⟩
  intro hstored
  rw [locate_eq h hfuel, Option.some.injEq]
  exact lookup_own_iff hi hstored

def byteEntry (name : List UInt8) (byte : UInt8) (hname : name.length < 8) (hzero : 0 ∉ name) :
    Entry where
  hdr := ⟨memzipSignature, 20, 0, 0, 0, 0, 0, 1, 1, UInt16.ofNat name.length, 0⟩
  name := name
  extra := []
  contents := [byte]
  signature_eq := rfl
  filenameLen_eq := UInt16.toNat_ofNat_of_lt' (hname.trans (by decide))
  extraLen_eq := rfl
  size_eq := rfl
  nonzero := hzero

def twoEntries : List Entry :=
  [byteEntry (ascii "eye") 1 (by decide) (by decide),
    byteEntry (ascii "eyelid") 2 (by decide) (by decide)]

def twoEntriesData : Memory UInt8 := fun a => (twoEntries.flatMap Entry.encode).getD a 0

theorem twoEntries_held : HoldsArchive twoEntriesData 0 twoEntries := by
  refine ⟨by decide +kernel, by decide +kernel, ?_⟩
  rw [HoldsArchive]
  decide +kernel

/-- The first entry hides the second. -/
theorem archive_lookup_hidden :
    ¬memzipLocate twoEntriesData 3 (slash :: ascii "eyelid") =
      some (.ok (contentsPlace twoEntries 1) 1) := by
  have hlookup :=
    ((archive_lookup twoEntriesData twoEntries 3 twoEntries_held (by decide)).2 1 (by decide)).2 rfl
  exact fun h => absurd (hlookup.mp h 0 (by decide)) (by decide)

end SystemMaster.Http
