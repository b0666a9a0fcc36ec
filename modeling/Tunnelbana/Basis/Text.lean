/-
Text operations over lists of characters, after those of a systems
language's standard library: trimming by the Unicode White_Space property,
splitting at the first or the last occurrence.
-/

namespace Basis

namespace Text

def isWhitespace (c : Char) : Bool :=
  let n := c.toNat
  (9 ≤ n && n ≤ 13) || n = 0x20 || n = 0x85 || n = 0xA0 || n = 0x1680 || (0x2000 ≤ n && n ≤ 0x200A)
    || n = 0x2028 || n = 0x2029 || n = 0x202F || n = 0x205F || n = 0x3000

def trim (cs : List Char) : List Char :=
  ((cs.dropWhile isWhitespace).reverse.dropWhile isWhitespace).reverse

def stripPrefix : List Char → List Char → Option (List Char)
  | [], cs => some cs
  | _ :: _, [] => none
  | p :: ps, c :: cs => if p = c then stripPrefix ps cs else none

/-- What follows the last occurrence of a character; all of it without one. -/
def afterLast (d : Char) (cs : List Char) : List Char := (cs.reverse.takeWhile (· ≠ d)).reverse

def find (p : Char → Bool) (cs : List Char) : Option Nat := cs.findIdx? p

def rfind (pat : List Char) : List Char → Option Nat
  | [] => if pat = [] then some 0 else none
  | c :: cs =>
    match rfind pat cs with
    | some i => some (i + 1)
    | none => if (stripPrefix pat (c :: cs)).isSome then some 0 else none

def splitOnce (d : Char) (cs : List Char) : Option (List Char × List Char) :=
  match find (· = d) cs with
  | some i => some (cs.take i, cs.drop (i + 1))
  | none => none

/-- Without every trailing repetition of a pattern, at most `fuel` of them. -/
def trimEndMatches (pat : List Char) : Nat → List Char → List Char
  | 0, cs => cs
  | fuel + 1, cs =>
    match stripPrefix pat.reverse cs.reverse with
    | some rest => if pat = [] then cs else trimEndMatches pat fuel rest.reverse
    | none => cs

/-- The characters a debug form does not show as they are: controls, separators
but the blank, formatting marks, marks that combine with the character before
them, and what is in private use. -/
def debugEscapes (c : Char) : Bool :=
  let n := c.toNat
  n < 0x20 || (0x7F ≤ n && n ≤ 0xA0) || n = 0xAD || (0x300 ≤ n && n ≤ 0x36F) || n = 0x1680
    || (0x2000 ≤ n && n ≤ 0x200F) || (0x2028 ≤ n && n ≤ 0x202F) || (0x205F ≤ n && n ≤ 0x206F) || n = 0x3000
    || (0xE000 ≤ n && n ≤ 0xF8FF) || (0xFE00 ≤ n && n ≤ 0xFE0F) || n = 0xFEFF || (0xFFF0 ≤ n && n ≤ 0xFFFB)
    || 0xE0000 ≤ n

def debugChar (c : Char) : List Char :=
  if c = '\x00' then ['\\', '0']
  else if c = '\t' then ['\\', 't']
  else if c = '\n' then ['\\', 'n']
  else if c = '\r' then ['\\', 'r']
  else if c = '"' then ['\\', '"']
  else if c = '\\' then ['\\', '\\']
  else if debugEscapes c then '\\' :: 'u' :: '{' :: Nat.toDigits 16 c.toNat ++ ['}']
  else [c]

/-- The debug form `{:?}` of a string: in quotes, with escapes. -/
def debug (s : String) : String := String.ofList ('"' :: s.toList.flatMap debugChar ++ ['"'])

theorem stripPrefix_eq_some {p cs rest : List Char} : stripPrefix p cs = some rest ↔ cs = p ++ rest := by
  induction p generalizing cs with
  | nil => simp [stripPrefix]
  | cons a p ih =>
    cases cs with
    | nil => simp [stripPrefix]
    | cons c cs =>
      by_cases hac : a = c
      · subst hac
        simp [stripPrefix, ih]
      · have hca : ¬ c = a := fun h => hac h.symm
        simp [stripPrefix, hac, hca]

end Text

def stripPrefix (p s : String) : Option String := (Text.stripPrefix p.toList s.toList).map String.ofList

theorem stripPrefix_eq_some {p s rest : String} : stripPrefix p s = some rest ↔ s = p ++ rest := by
  simp only [stripPrefix, Option.map_eq_some_iff, Text.stripPrefix_eq_some]
  constructor
  · rintro ⟨cs, hcs, rfl⟩
    apply String.toList_injective
    rw [hcs, String.toList_append, String.toList_ofList]
  · rintro rfl
    exact ⟨rest.toList, String.toList_append, String.ofList_toList⟩

end Basis
