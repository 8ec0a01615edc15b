import SystemMaster.Flash.Listings
import Mathlib.Data.List.AList
import Mathlib.Logic.Function.Basic

/-!
# The files of SPIFFS

What SPIFFS keeps is a parameter, with what its calls do to the files as the laws of a
view. What is known of the files between the operations on the storage is a shelf: a call
that fails in the middle leaves a file of which nothing is known.
-/

namespace SystemMaster.Flash

open Function (update)

abbrev FileName := List UInt8

def spiffsErrNotAFS : Int := -10025

structure OpenFlags where
  creat : Bool
  trunc : Bool

/-- The calls of SPIFFS: what is kept after one, and its descriptor or status, below zero
for an error. -/
structure Spiffs (φ : Type) where
  mount : φ → φ × Int
  format : φ → φ × Int
  unmount : φ → φ
  openFile : φ → FileName → OpenFlags → φ × Int
  read : φ → Int → Nat → φ × Int × List UInt8
  write : φ → Int → List UInt8 → φ × Int
  close : φ → Int → φ × Int
  stat : φ → FileName → Int × Nat
  remove : φ → FileName → φ × Int
  dirents : φ → List (FileName × Nat)
  openByDirent : φ → FileName → φ × Int

/-- The files and the descriptors in what SPIFFS keeps, and what its calls do to them. -/
structure View {φ : Type} (spiffs : Spiffs φ) where
  files : φ → FileName → Option (List UInt8)
  opened : φ → Int → Option (FileName × Nat)
  mount s : files (spiffs.mount s).1 = files s
  unmount s : files (spiffs.unmount s) = files s
  close s fd : files (spiffs.close s fd).1 = files s
  format s : (spiffs.format s).2 = spiffsOK → files (spiffs.format s).1 = fun _ => none
  /-- A format that fails lets no file grow. -/
  format_fails s name bytes : files (spiffs.format s).1 name = some bytes →
    ∃ before, files s name = some before ∧ bytes.length ≤ before.length
  openFile s name flags : 0 ≤ (spiffs.openFile s name flags).2 →
    (flags.creat = true ∨ (files s name).isSome) ∧
    opened (spiffs.openFile s name flags).1 (spiffs.openFile s name flags).2 = some (name, 0) ∧
    files (spiffs.openFile s name flags).1 =
      update (files s) name (some (if flags.trunc then [] else (files s name).getD []))
  openFile_fails s name flags : (spiffs.openFile s name flags).2 < 0 → flags.trunc = false →
    files (spiffs.openFile s name flags).1 = files s
  openFile_other s name flags : ∀ n ≠ name, files (spiffs.openFile s name flags).1 n = files s n
  openByDirent_files s name : files (spiffs.openByDirent s name).1 = files s
  openByDirent s name : 0 ≤ (spiffs.openByDirent s name).2 →
    opened (spiffs.openByDirent s name).1 (spiffs.openByDirent s name).2 = some (name, 0)
  read_files s fd n : files (spiffs.read s fd n).1 = files s
  read s fd n name pos bytes : opened s fd = some (name, pos) → files s name = some bytes →
    0 ≤ (spiffs.read s fd n).2.1 →
    (spiffs.read s fd n).2.2 = (bytes.drop pos).take n ∧
    (spiffs.read s fd n).2.1 = ((bytes.drop pos).take n).length ∧
    opened (spiffs.read s fd n).1 fd = some (name, pos + ((bytes.drop pos).take n).length)
  write s fd data name pos bytes : opened s fd = some (name, pos) → files s name = some bytes →
    0 ≤ (spiffs.write s fd data).2 →
    opened (spiffs.write s fd data).1 fd = some (name, pos + data.length) ∧
    files (spiffs.write s fd data).1 =
      update (files s) name (some (bytes.take pos ++ data ++ bytes.drop (pos + data.length)))
  write_fails s fd data name pos bytes : opened s fd = some (name, pos) →
    files s name = some bytes → (spiffs.write s fd data).2 < 0 →
    ∃ left, left.length ≤ max bytes.length (pos + data.length) ∧
      files (spiffs.write s fd data).1 = update (files s) name (some left)
  stat s name : 0 ≤ (spiffs.stat s name).1 →
    ∃ bytes, files s name = some bytes ∧ (spiffs.stat s name).2 = bytes.length
  remove s name : 0 ≤ (spiffs.remove s name).2 →
    files (spiffs.remove s name).1 = update (files s) name none
  remove_fails s name : (spiffs.remove s name).2 < 0 → files (spiffs.remove s name).1 = files s
  /-- A pass over the directory comes by each file once. -/
  dirents s : ((spiffs.dirents s).map Prod.fst).Nodup
  mem_dirents s name size : (name, size) ∈ spiffs.dirents s ↔
    ∃ bytes, files s name = some bytes ∧ size = bytes.length

-- ---------------------------------------------------------------------------
-- What is known of the files
-- ---------------------------------------------------------------------------

inductive Slot where
  | unknown
  | known (file : Option (List UInt8))
  deriving DecidableEq

abbrev Shelf := FileName → Slot

abbrev Change := FileName → Option Slot

def Slot.Holds : Slot → Option (List UInt8) → Prop
  | .unknown, _ => True
  | .known file, found => found = file

def Shelf.Holds (shelf : Shelf) (files : FileName → Option (List UInt8)) : Prop :=
  ∀ name, (shelf name).Holds (files name)

namespace Change

def none : Change := fun _ => .none

def all (slot : Slot) : Change := fun _ => some slot

def file (name : FileName) (slot : Slot) : Change := fun n => if n = name then some slot else .none

def andThen (c d : Change) : Change := fun name => (d name).or (c name)

end Change

def Shelf.apply (shelf : Shelf) (c : Change) : Shelf := fun name => (c name).getD (shelf name)

variable {φ : Type} {spiffs : Spiffs φ} {s : φ}

def mountFiles (spiffs : Spiffs φ) (s : φ) : φ × Bool :=
  let mounted := spiffs.mount s
  if mounted.2 = spiffsOK then (mounted.1, true)
  else if mounted.2 = spiffsErrNotAFS then
    let again := spiffs.mount (spiffs.format (spiffs.unmount mounted.1)).1
    (again.1, again.2 = spiffsOK)
  else (mounted.1, false)

/-- Work between a mount and an unmount, left out when the mount fails. -/
def withFiles {ρ : Type} (spiffs : Spiffs φ) (fails : ρ) (work : φ → φ × ρ) (s : φ) : φ × ρ :=
  let mounted := mountFiles spiffs s
  if mounted.2 then
    let worked := work mounted.1
    (spiffs.unmount worked.1, worked.2)
  else (mounted.1, fails)

/-- What a format does to the files: those of one that fails are unknown. -/
def formatChange (spiffs : Spiffs φ) (s : φ) : Change :=
  .all (if (spiffs.format s).2 = spiffsOK then .known none else .unknown)

/-- A mount formats a memory that has no file system. -/
def mountChange (spiffs : Spiffs φ) (s : φ) : Change :=
  let mounted := spiffs.mount s
  if mounted.2 = spiffsErrNotAFS then formatChange spiffs (spiffs.unmount mounted.1) else .none

-- ---------------------------------------------------------------------------
-- Lemmas
-- ---------------------------------------------------------------------------

variable {V : View spiffs} {shelf : Shelf} {c d : Change} {name : FileName} {slot : Slot}
  {files : FileName → Option (List UInt8)} {found : Option (List UInt8)}

@[simp] theorem Change.none_apply : Change.none name = .none := rfl

@[simp] theorem Shelf.apply_none : shelf.apply .none = shelf := rfl

@[simp] theorem Shelf.apply_andThen : shelf.apply (c.andThen d) = (shelf.apply c).apply d := by
  funext n
  simp only [apply, Change.andThen]
  cases d n <;> rfl

theorem Shelf.Holds.file (h : shelf.Holds files) (hslot : slot.Holds found) :
    (shelf.apply (.file name slot)).Holds (update files name found) := by
  intro n
  by_cases hn : n = name
  · subst hn
    simpa [apply, Change.file] using hslot
  · simpa [apply, Change.file, hn] using h n

theorem formatChange_holds : (shelf.apply (formatChange spiffs s)).Holds (V.files (spiffs.format s).1) := by
  intro n
  simp only [Shelf.apply, formatChange, Change.all, Option.getD_some]
  split
  case isTrue hok =>
    rw [V.format s hok]
    rfl
  case isFalse => trivial

/-- Files that are there after a step were there before it, and have not grown. -/
def Shrunk (before after : FileName → Option (List UInt8)) : Prop :=
  ∀ name bytes, after name = some bytes →
    ∃ old, before name = some old ∧ bytes.length ≤ old.length

theorem mountFiles_holds (h : shelf.Holds (V.files s)) :
    (shelf.apply (mountChange spiffs s)).Holds (V.files (mountFiles spiffs s).1) := by
  rw [mountFiles, mountChange]
  by_cases hok : (spiffs.mount s).2 = spiffsOK
  · rw [if_pos hok, if_neg (by rw [hok]; decide), V.mount]
    exact h
  · rw [if_neg hok]
    split
    case isTrue hnot =>
      dsimp only
      rw [V.mount]
      exact formatChange_holds
    case isFalse =>
      rw [V.mount]
      exact h

theorem mountFiles_shrunk : Shrunk (V.files s) (V.files (mountFiles spiffs s).1) := by
  have hsame : Shrunk (V.files s) (V.files s) := fun _ bytes h => ⟨bytes, h, le_rfl⟩
  rw [mountFiles]
  split
  case isTrue => simpa only [V.mount] using hsame
  case isFalse =>
    split
    case isTrue =>
      intro n bytes hbytes
      dsimp only at hbytes
      rw [V.mount] at hbytes
      obtain ⟨old, hold, hle⟩ := V.format_fails _ n bytes hbytes
      rw [V.unmount, V.mount] at hold
      exact ⟨old, hold, hle⟩
    case isFalse => simpa only [V.mount] using hsame

-- ---------------------------------------------------------------------------
-- A file system in memory
-- ---------------------------------------------------------------------------

structure RamFiles where
  formatted : Bool
  files : AList fun _ : FileName => List UInt8
  opened : Option (FileName × Nat)

namespace RamFiles

def spiffsErrNotFound : Int := -10002

def erased : RamFiles := ⟨false, ∅, none⟩

def openFile (s : RamFiles) (name : FileName) (flags : OpenFlags) : RamFiles × Int :=
  if flags.creat ∨ (s.files.lookup name).isSome then
    let bytes := if flags.trunc then [] else (s.files.lookup name).getD []
    ({ s with files := s.files.insert name bytes, opened := some (name, 0) }, 1)
  else (s, spiffsErrNotFound)

def readFile (s : RamFiles) (fd : Int) (n : Nat) : RamFiles × Int × List UInt8 :=
  match if fd = 1 then s.opened else none with
  | some (name, pos) =>
    let data := (((s.files.lookup name).getD []).drop pos).take n
    ({ s with opened := some (name, pos + data.length) }, data.length, data)
  | none => (s, -1, [])

def writeFile (s : RamFiles) (fd : Int) (data : List UInt8) : RamFiles × Int :=
  match if fd = 1 then s.opened else none with
  | some (name, pos) =>
    let bytes := (s.files.lookup name).getD []
    let written := bytes.take pos ++ data ++ bytes.drop (pos + data.length)
    ({ s with files := s.files.insert name written, opened := some (name, pos + data.length) },
      data.length)
  | none => (s, -1)

end RamFiles

def ramSpiffs : Spiffs RamFiles where
  mount s := (s, if s.formatted then spiffsOK else spiffsErrNotAFS)
  format s := ({ s with formatted := true, files := ∅ }, spiffsOK)
  unmount s := { s with opened := none }
  openFile := RamFiles.openFile
  read := RamFiles.readFile
  write := RamFiles.writeFile
  close s _ := ({ s with opened := none }, spiffsOK)
  stat s name :=
    match s.files.lookup name with
    | some bytes => (spiffsOK, bytes.length)
    | none => (RamFiles.spiffsErrNotFound, 0)
  remove s name :=
    if (s.files.lookup name).isSome then ({ s with files := s.files.erase name }, spiffsOK)
    else (s, RamFiles.spiffsErrNotFound)
  dirents s := s.files.entries.map fun e => (e.1, e.2.length)
  openByDirent s name := ({ s with opened := some (name, 0) }, 1)

theorem lookup_insert_eq_update {l : AList fun _ : FileName => List UInt8} {name : FileName}
    {bytes : List UInt8} :
    (fun n => (l.insert name bytes).lookup n) = update (fun n => l.lookup n) name (some bytes) := by
  funext n
  by_cases hn : n = name
  · subst hn
    rw [AList.lookup_insert, Function.update_self]
  · rw [AList.lookup_insert_ne hn, Function.update_of_ne hn]

theorem lookup_erase_eq_update {l : AList fun _ : FileName => List UInt8} {name : FileName} :
    (fun n => (l.erase name).lookup n) = update (fun n => l.lookup n) name none := by
  funext n
  by_cases hn : n = name
  · subst hn
    rw [AList.lookup_erase, Function.update_self]
  · rw [AList.lookup_erase_ne hn, Function.update_of_ne hn]

def ramView : View ramSpiffs where
  files s := s.files.lookup
  opened s fd := if fd = 1 then s.opened else none
  mount _ := rfl
  unmount _ := rfl
  close _ _ := rfl
  format _ _ := rfl
  format_fails s name bytes h := by simp [ramSpiffs] at h
  openFile s name flags h := by
    by_cases hexists : flags.creat = true ∨ (s.files.lookup name).isSome
    · simp only [ramSpiffs, RamFiles.openFile, if_pos hexists]
      exact ⟨hexists, rfl, lookup_insert_eq_update⟩
    · simp only [ramSpiffs, RamFiles.openFile, if_neg hexists] at h
      exact absurd h (by decide)
  openFile_fails s name flags h _ := by
    by_cases hexists : flags.creat = true ∨ (s.files.lookup name).isSome
    · simp [ramSpiffs, RamFiles.openFile, if_pos hexists] at h
    · simp only [ramSpiffs, RamFiles.openFile, if_neg hexists]
  openFile_other s name flags n hn := by
    simp only [ramSpiffs, RamFiles.openFile]
    split
    · exact AList.lookup_insert_ne hn
    · rfl
  openByDirent_files _ _ := rfl
  openByDirent _ _ _ := rfl
  read_files s fd n := by
    simp only [ramSpiffs, RamFiles.readFile]
    split <;> rfl
  read s fd n name pos bytes hopened hfile _ := by
    simp only [ramSpiffs, RamFiles.readFile, hopened, hfile, Option.getD_some]
    refine ⟨trivial, trivial, ?_⟩
    split at hopened
    case isTrue h => rw [if_pos h]
    case isFalse => exact absurd hopened (by simp)
  write s fd data name pos bytes hopened hfile _ := by
    simp only [ramSpiffs, RamFiles.writeFile, hopened, hfile, Option.getD_some]
    refine ⟨?_, lookup_insert_eq_update⟩
    split at hopened
    case isTrue h => rw [if_pos h]
    case isFalse => exact absurd hopened (by simp)
  write_fails s fd data name pos bytes hopened hfile h := by
    simp only [ramSpiffs, RamFiles.writeFile, hopened] at h
    omega
  stat s name h := by
    simp only [ramSpiffs] at h ⊢
    cases hfile : s.files.lookup name with
    | none =>
      rw [hfile] at h
      exact absurd h (by decide)
    | some bytes => exact ⟨bytes, rfl, rfl⟩
  remove s name h := by
    simp only [ramSpiffs] at h ⊢
    split at h
    case isTrue hexists =>
      rw [if_pos hexists]
      exact lookup_erase_eq_update
    case isFalse => exact absurd h (by simp [RamFiles.spiffsErrNotFound])
  remove_fails s name h := by
    simp only [ramSpiffs] at h ⊢
    split at h
    case isTrue => exact absurd h (by simp [spiffsOK])
    case isFalse hexists => rw [if_neg hexists]
  dirents s := by
    simp only [ramSpiffs, List.map_map]
    exact s.files.keys_nodup
  mem_dirents s name size := by
    simp only [ramSpiffs, List.mem_map]
    constructor
    · rintro ⟨e, he, heq⟩
      obtain ⟨rfl, rfl⟩ := Prod.mk.inj heq
      exact ⟨e.2, AList.mem_lookup_iff.mpr he, rfl⟩
    · rintro ⟨bytes, hfile, rfl⟩
      exact ⟨⟨name, bytes⟩, AList.mem_lookup_iff.mp hfile, rfl⟩

end SystemMaster.Flash
