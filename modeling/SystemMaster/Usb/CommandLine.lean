import Mathlib.Data.List.Forall2
import SystemMaster.Library.Texts

/-!
# The command line

`CmdLineProcessUSB` goes through a line in place: it puts a zero over each space, sets a pointer
to each word, and looks up the first word in the table of the commands.
-/

namespace SystemMaster.Usb.CommandLine

open Texts

def cmdLineMaxArgs : Nat := 5

def cmdLineBadCmd : Int := -1
def cmdLineTooManyArgs : Int := -2
def cmdLineTooFewArgs : Int := -3

def space : UInt8 := 0x20

abbrev Word := List UInt8

structure Entry (κ : Type*) where
  pcCmd : Word
  pfnCmd : κ
  pcHelp : List UInt8

-- ---------------------------------------------------------------------------
-- The words
-- ---------------------------------------------------------------------------

structure Scan where
  memory : Memory UInt8
  pcChar : Nat
  findArg : Bool
  argv : List Nat
  writes : List Nat

namespace Scan

def start (pcCmdLine : Memory UInt8) : Scan := ⟨pcCmdLine, 0, true, [], []⟩

def next (s : Scan) : Scan := { s with pcChar := s.pcChar + 1 }

/-- `*pcChar = 0`, to look for an argument from here on. -/
def cut (s : Scan) : Scan :=
  { s with
    memory := s.memory.write s.pcChar [0]
    writes := s.writes ++ [s.pcChar]
    findArg := true }

def point (s : Scan) : Scan := { s with argv := s.argv ++ [s.pcChar], findArg := false }

def turn (s : Scan) : Option Scan :=
  if s.memory s.pcChar = space then some s.cut.next
  else if s.findArg then
    if s.argv.length < cmdLineMaxArgs then some s.point.next else none
  else some s.next

def loop : Nat → Scan → Option (Scan × Option Int)
  | 0, _ => none
  | fuel + 1, s =>
    if s.memory s.pcChar = 0 then some (s, none)
    else
      match s.turn with
      | some s => loop fuel s
      | none => some (s, some cmdLineTooManyArgs)

end Scan

/-- `strncmp` of the string at `p` and a constant finds no difference. -/
def strncmp (m : Memory UInt8) (p : Nat) (s : Word) (n : Nat) : Bool := textFrom 0 m n p = s.take n

def strcmp (m : Memory UInt8) (p : Nat) (s : Word) : Bool := strncmp m p s (s.length + 1)

inductive Outcome (κ : Type*) where
  | returned (status : Int)
  | called (pfnCmd : κ) (memory : Memory UInt8) (argv : List Nat)

/-- `CmdLineProcessUSB` of a table, up to the call. -/
def cmdLineProcess {κ : Type*} (table : List (Entry κ)) (fuel : Nat) (pcCmdLine : Memory UInt8) :
    Option (Outcome κ) :=
  match (Scan.start pcCmdLine).loop fuel with
  | none => none
  | some (_, some status) => some (.returned status)
  | some (s, none) =>
    match s.argv with
    | [] => some (.returned cmdLineBadCmd)
    | p :: _ =>
      match table.find? fun psCmdEntry => strcmp s.memory p psCmdEntry.pcCmd with
      | some psCmdEntry => some (.called psCmdEntry.pfnCmd s.memory s.argv)
      | none => some (.returned cmdLineBadCmd)

def command {κ : Type*} (table : List (Entry κ)) (words : List Word) : Except Int κ :=
  if cmdLineMaxArgs < words.length then .error cmdLineTooManyArgs
  else
    match words with
    | [] => .error cmdLineBadCmd
    | w :: _ =>
      match table.find? fun entry => w = entry.pcCmd with
      | some entry => .ok entry.pfnCmd
      | none => .error cmdLineBadCmd

def Points (m : Memory UInt8) (argv : List Nat) (words : List Word) : Prop :=
  List.Forall₂ (TextAt 0 m) argv words

/-- The call is the one that the words are for. -/
def Outcome.Does {κ : Type*} (o : Outcome κ) (table : List (Entry κ)) (words : List Word) : Prop :=
  match command table words with
  | .error status => o = .returned status
  | .ok pfnCmd => ∃ m argv, o = .called pfnCmd m argv ∧ Points m argv words

variable {κ : Type*} {table : List (Entry κ)} {m : Memory UInt8} {s s' : Scan} {c : UInt8}
  {t w : Word} {words : List Word} {p n fuel : Nat}

theorem strncmp_iff (h : TextAt 0 m p t) (hn : w.length < n) : strncmp m p w n ↔ t = w := by
  rw [strncmp, decide_eq_true_iff]
  exact h.textFrom_eq_iff hn

theorem strcmp_iff (h : TextAt 0 m p t) : strcmp m p w ↔ t = w :=
  strncmp_iff h (Nat.lt_succ_self _)

-- ---------------------------------------------------------------------------
-- A turn of the loop
-- ---------------------------------------------------------------------------

def Scan.Stands (s : Scan) (a : Nat) (w : Word) : Prop :=
  TextAt 0 s.memory a w ∧ a + w.length < s.pcChar

/-- With `t` left of the line its words are these: the pointer is at the rest of the line, or
within the last word that was found. -/
inductive Scan.Finds (s : Scan) (t : Word) : List Word → Prop
  | between {found : List Word} (hfind : s.findArg = true)
      (hargv : List.Forall₂ s.Stands s.argv found) (ht : TextAt 0 s.memory s.pcChar t) : Finds s t (found ++ tokens space t)
  | within {found : List Word} {as : List Nat} {a : Nat} {u : Word} (hfind : s.findArg = false)
      (hlast : s.argv = as ++ [a]) (hargv : List.Forall₂ s.Stands as found)
      (ht : TextAt 0 s.memory a (u ++ t)) (ha : a + u.length = s.pcChar) :
      Finds s t (found ++ (u ++ t.takeWhile (· ≠ space)) :: tokens space (t.dropWhile (· ≠ space)))

theorem Scan.finds_start (h : TextAt 0 m 0 t) : (start m).Finds t (tokens space t) :=
  show (start m).Finds t ([] ++ _) from .between rfl .nil h

variable {found : List Word} {as : List Nat} {u : Word}

theorem Scan.Stands.next (h : s.Stands p w) : s.next.Stands p w := ⟨h.1, Nat.lt_succ_of_lt h.2⟩

theorem Scan.Stands.cut (h : s.Stands p w) : s.cut.next.Stands p w :=
  ⟨h.1.write_behind h.2, Nat.lt_succ_of_lt h.2⟩

theorem Scan.turn_space (hc : s.memory s.pcChar = space) : s.turn = some s.cut.next := if_pos hc

theorem Scan.turn_within (hc : s.memory s.pcChar ≠ space) (hfind : s.findArg = false) :
    s.turn = some s.next := by
  rw [turn, if_neg hc, if_neg (by rw [hfind]; exact Bool.false_ne_true)]

theorem Scan.turn_between (hc : s.memory s.pcChar ≠ space) (hfind : s.findArg = true) :
    s.turn = if s.argv.length < cmdLineMaxArgs then some s.point.next else none := by
  rw [turn, if_neg hc, if_pos hfind]

theorem forall₂_concat {α β : Type*} {R : α → β → Prop} {xs : List α} {ys : List β} {x : α} {y : β}
    (h : List.Forall₂ R xs ys) (hxy : R x y) : List.Forall₂ R (xs ++ [x]) (ys ++ [y]) :=
  List.rel_append h (.cons hxy .nil)

/-- A space ends the word that the pointer is in, if any. -/
theorem Scan.Finds.cut (h : s.Finds (space :: t) words) : s.cut.next.Finds t words := by
  cases h with
  | between hfind hargv ht =>
    rw [tokens_cons_self]
    exact .between rfl (hargv.imp fun _ _ => Stands.cut) (ht.2.2.congr fun a ha =>
      Memory.write_of_ge ha)
  | @within found as a u hfind hlast hargv ht ha =>
    have htail : TextAt 0 s.cut.next.memory s.cut.next.pcChar t := by
      have hrest := ht.append
      rw [ha] at hrest
      exact hrest.2.2.congr fun a ha => Memory.write_of_ge ha
    have hword : s.cut.next.Stands a u := by
      refine ⟨?_, ?_⟩
      · have hcut := ht.cut
        rwa [ha] at hcut
      · exact ha ▸ Nat.lt_succ_self _
    have hwords : found ++ (u ++ (space :: t).takeWhile (· ≠ space)) ::
        tokens space ((space :: t).dropWhile (· ≠ space)) = (found ++ [u]) ++ tokens space t := by
      simp
    rw [hwords]
    refine .between rfl ?_ htail
    have hall := forall₂_concat (hargv.imp fun _ _ => Stands.cut) hword
    rwa [← hlast] at hall

theorem Scan.Finds.within_next (h : s.Finds (c :: t) words) (hc : c ≠ space)
    (hfind : s.findArg = false) : s.next.Finds t words := by
  cases h with
  | between htrue => exact absurd (hfind.symm.trans htrue) Bool.false_ne_true
  | @within found as a u _ hlast hargv ht ha =>
    have hwords : found ++ (u ++ (c :: t).takeWhile (· ≠ space)) ::
        tokens space ((c :: t).dropWhile (· ≠ space)) =
          found ++ ((u ++ [c]) ++ t.takeWhile (· ≠ space)) ::
            tokens space (t.dropWhile (· ≠ space)) := by
      simp [hc]
    rw [hwords]
    refine .within hfind hlast (hargv.imp fun _ _ => Stands.next) ?_ ?_
    · rw [List.append_assoc]
      exact ht
    · rw [List.length_append, ← Nat.add_assoc, ha]
      rfl

theorem Scan.Finds.point (h : s.Finds (c :: t) words) (hc : c ≠ space) (hfind : s.findArg = true) :
    s.point.next.Finds t words := by
  cases h with
  | within hfalse => exact absurd (hfalse.symm.trans hfind) Bool.false_ne_true
  | @between found _ hargv ht =>
    rw [tokens_cons_of_ne hc]
    exact .within (u := [c]) rfl rfl (hargv.imp fun _ _ => Stands.next) ht rfl

theorem Scan.Finds.lt_length (h : s.Finds (c :: t) words) (hc : c ≠ space)
    (hfind : s.findArg = true) : s.argv.length < words.length := by
  cases h with
  | within hfalse => exact absurd (hfalse.symm.trans hfind) Bool.false_ne_true
  | @between found _ hargv ht =>
    rw [tokens_cons_of_ne hc, List.length_append, ← hargv.length_eq, List.length_cons]
    omega

theorem Scan.Finds.points (h : s.Finds [] words) : Points s.memory s.argv words := by
  cases h with
  | between hfind hargv ht =>
    rw [tokens_nil, List.append_nil]
    exact hargv.imp fun _ _ => And.left
  | @within found as a u hfind hlast hargv ht ha =>
    rw [List.append_nil] at ht
    rw [hlast]
    simpa [Points] using forall₂_concat (hargv.imp fun _ _ => And.left) ht

theorem Scan.Finds.text (h : s.Finds t words) : TextAt 0 s.memory s.pcChar t := by
  cases h with
  | between hfind hargv ht => exact ht
  | within hfind hlast hargv ht ha => exact ha ▸ ht.append

/-- A turn at a character goes past it, writes at most there, and finds the same words, unless
there are too many. -/
structure Scan.Turned (s s' : Scan) (t : Word) (words : List Word) : Prop where
  pcChar : s'.pcChar = s.pcChar + 1
  writes : ∀ a ∈ s'.writes, a ∈ s.writes ∨ a = s.pcChar
  argv : s'.argv.length ≤ cmdLineMaxArgs
  finds : s'.Finds t words

theorem Scan.turn_cases (h : s.Finds (c :: t) words) (hargv : s.argv.length ≤ cmdLineMaxArgs) :
    (∃ s', s.turn = some s' ∧ s.Turned s' t words) ∨
      s.turn = none ∧ cmdLineMaxArgs < words.length := by
  have hmem : s.memory s.pcChar = c := h.text.1
  by_cases hc : c = space
  · subst hc
    refine .inl ⟨_, turn_space hmem, rfl, fun a ha => ?_, hargv, h.cut⟩
    exact (List.mem_append.mp ha).imp_right List.eq_of_mem_singleton
  have hne : s.memory s.pcChar ≠ space := by rwa [hmem]
  cases hfind : s.findArg with
  | false =>
    exact .inl ⟨_, turn_within hne hfind, rfl, fun a ha => .inl ha, hargv, h.within_next hc hfind⟩
  | true =>
    rw [turn_between hne hfind]
    by_cases hroom : s.argv.length < cmdLineMaxArgs
    · refine .inl ⟨_, if_pos hroom, rfl, fun a ha => .inl ha, ?_, h.point hc hfind⟩
      rw [next, Scan.point, List.length_append]
      exact hroom
    · exact .inr ⟨if_neg hroom, Nat.lt_of_le_of_lt (Nat.le_of_not_lt hroom) (h.lt_length hc hfind)⟩

structure Scan.Done (s s' : Scan) (t : Word) (words : List Word) (r : Option Int) : Prop where
  writes : ∀ a ∈ s'.writes, a ∈ s.writes ∨ a < s.pcChar + t.length
  argv : s'.argv.length ≤ cmdLineMaxArgs
  result : cmdLineMaxArgs < words.length ∧ r = some cmdLineTooManyArgs ∨
    words.length ≤ cmdLineMaxArgs ∧ r = none ∧ Points s'.memory s'.argv words

theorem Scan.loop_done (h : s.Finds t words) (hargv : s.argv.length ≤ cmdLineMaxArgs)
    (hfuel : t.length < fuel) : ∃ s' r, s.loop fuel = some (s', r) ∧ s.Done s' t words r := by
  induction t generalizing s fuel with
  | nil =>
    obtain ⟨fuel, rfl⟩ := Nat.exists_eq_succ_of_ne_zero (Nat.ne_zero_of_lt hfuel)
    have hpoints := h.points
    have hlength : s.argv.length = words.length := hpoints.length_eq
    exact ⟨s, none, if_pos h.text, fun a ha => .inl ha, hargv,
      .inr ⟨hlength ▸ hargv, rfl, hpoints⟩⟩
  | cons c t ih =>
    obtain ⟨fuel, rfl⟩ := Nat.exists_eq_succ_of_ne_zero (Nat.ne_zero_of_lt hfuel)
    obtain ⟨hc, hne, -⟩ := h.text
    rw [loop, if_neg (hc ▸ hne)]
    rcases turn_cases h hargv with ⟨s', hturn, hturned⟩ | ⟨hturn, hmany⟩
    · rw [hturn]
      obtain ⟨s'', r, hloop, hdone⟩ := ih hturned.finds hturned.argv (Nat.lt_of_succ_lt_succ hfuel)
      refine ⟨s'', r, hloop, fun a ha => ?_, hdone.argv, hdone.result⟩
      rw [List.length_cons]
      rcases hdone.writes a ha with hold | hlt
      · refine (hturned.writes a hold).imp_right ?_
        omega
      · rw [hturned.pcChar] at hlt
        exact .inr (by omega)
    · rw [hturn]
      exact ⟨s, _, rfl, fun a ha => .inl ha, hargv, .inl ⟨hmany, rfl⟩⟩

/-- The line in memory is done as its words say. -/
theorem cmdLineProcess_does (h : TextAt 0 m 0 t) (hfuel : t.length < fuel) :
    ∃ o, cmdLineProcess table fuel m = some o ∧ o.Does table (tokens space t) := by
  obtain ⟨s, r, hloop, hdone⟩ :=
    (Scan.start m).loop_done (Scan.finds_start h) (Nat.zero_le _) hfuel
  rw [cmdLineProcess, hloop]
  rcases hdone.result with ⟨hmany, rfl⟩ | ⟨hfew, rfl, hpoints⟩
  · refine ⟨_, rfl, ?_⟩
    unfold Outcome.Does command
    rw [if_pos hmany]
  unfold Outcome.Does command
  rw [if_neg (Nat.not_lt.mpr hfew)]
  dsimp only
  generalize tokens space t = words at hpoints
  generalize s.argv = argv at hpoints ⊢
  cases hpoints with
  | nil => exact ⟨_, rfl, rfl⟩
  | @cons p w argv words hw hwords =>
    have hfind : (fun psCmdEntry : Entry κ => strcmp s.memory p psCmdEntry.pcCmd) =
        fun psCmdEntry => decide (w = psCmdEntry.pcCmd) :=
      funext fun psCmdEntry => Bool.eq_iff_iff.mpr ((strcmp_iff hw).trans decide_eq_true_iff.symm)
    dsimp only
    rw [hfind]
    cases table.find? fun psCmdEntry => w = psCmdEntry.pcCmd with
    | none => exact ⟨_, rfl, rfl⟩
    | some entry => exact ⟨_, rfl, _, _, rfl, .cons hw hwords⟩

end SystemMaster.Usb.CommandLine
