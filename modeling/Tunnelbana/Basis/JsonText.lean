/-
The text of a JSON value: a compact printer and a recursive-descent parser
with a bound on nesting, as common JSON libraries have.

`parse_render` is the round trip. A value prints and parses back exactly when
its nesting stays below the bound; one level more and the parser stops with
`recursionLimit`, whatever the rest of the text is. Numbers are integers: a
fraction or an exponent is `notInteger`.
-/
import Tunnelbana.Basis.Json

namespace Basis

namespace Json

/-! ## Printing -/

def hexDigit (n : Nat) : Char := if n < 10 then Char.ofNat (48 + n) else Char.ofNat (87 + n)

def escapeChar (c : Char) : List Char :=
  if c = '"' then ['\\', '"']
  else if c = '\\' then ['\\', '\\']
  else if c = '\x08' then ['\\', 'b']
  else if c = '\t' then ['\\', 't']
  else if c = '\n' then ['\\', 'n']
  else if c = '\x0c' then ['\\', 'f']
  else if c = '\r' then ['\\', 'r']
  else if c.toNat < 32 then ['\\', 'u', '0', '0', hexDigit (c.toNat / 16), hexDigit (c.toNat % 16)]
  else [c]

def quoted : List Char → List Char
  | [] => ['"']
  | c :: cs => escapeChar c ++ quoted cs

def renderString (s : String) : List Char := '"' :: quoted s.toList

def renderInt (n : Int) : List Char :=
  if n < 0 then '-' :: Nat.toDigits 10 n.natAbs else Nat.toDigits 10 n.natAbs

mutual
/-- The compact text of a value. -/
def textOf : Json → List Char
  | .null => ['n', 'u', 'l', 'l']
  | .bool true => ['t', 'r', 'u', 'e']
  | .bool false => ['f', 'a', 'l', 's', 'e']
  | .num n => renderInt n
  | .str s => renderString s
  | .arr [] => ['[', ']']
  | .arr (x :: xs) => '[' :: (textOf x ++ textItems xs)
  | .obj [] => ['{', '}']
  | .obj ((k, x) :: fs) => '{' :: (renderString k ++ ':' :: (textOf x ++ textFields fs))

/-- The items after the first, with the closing bracket. -/
def textItems : List Json → List Char
  | [] => [']']
  | x :: xs => ',' :: (textOf x ++ textItems xs)

/-- The fields after the first, with the closing brace. -/
def textFields : List (String × Json) → List Char
  | [] => ['}']
  | (k, x) :: fs => ',' :: (renderString k ++ ':' :: (textOf x ++ textFields fs))
end

def render (v : Json) : String := String.ofList (textOf v)

/-- The length of the text in bytes. Irreducible: a proof that meets it does not
spell out the text. -/
@[irreducible] def encodedLength (v : Json) : Nat := (textOf v).foldr (fun c size => c.utf8Size + size) 0

theorem utf8ByteSize_ofList (cs : List Char) :
    (String.ofList cs).utf8ByteSize = cs.foldr (fun c size => c.utf8Size + size) 0 := by
  induction cs with
  | nil => rfl
  | cons c cs ih =>
    have hcons : String.ofList (c :: cs) = String.singleton c ++ String.ofList cs := by
      apply String.toList_injective
      simp
    rw [hcons, String.utf8ByteSize_append, ih]
    simp

theorem utf8ByteSize_render (v : Json) : v.render.utf8ByteSize = v.encodedLength := by
  unfold encodedLength
  exact utf8ByteSize_ofList (textOf v)

/-! ## Parsing -/

inductive ParseError where
  | malformed
  | notInteger
  | recursionLimit
deriving DecidableEq, Repr

def isSpace (c : Char) : Bool := c = ' ' || c = '\n' || c = '\t' || c = '\r'

def skip (cs : List Char) : List Char := cs.dropWhile isSpace

def hexVal (c : Char) : Option Nat :=
  if '0' ≤ c ∧ c ≤ '9' then some (c.toNat - 48)
  else if 'a' ≤ c ∧ c ≤ 'f' then some (c.toNat - 87)
  else if 'A' ≤ c ∧ c ≤ 'F' then some (c.toNat - 55)
  else none

def hex4 (a b c d : Char) : Option Nat :=
  match hexVal a, hexVal b, hexVal c, hexVal d with
  | some w, some x, some y, some z => some (((w * 16 + x) * 16 + y) * 16 + z)
  | _, _, _, _ => none

/-- The character a single-letter escape stands for. -/
def unescape (c : Char) : Option Char :=
  if c = '"' then some '"'
  else if c = '\\' then some '\\'
  else if c = '/' then some '/'
  else if c = 'b' then some '\x08'
  else if c = 'f' then some '\x0c'
  else if c = 'n' then some '\n'
  else if c = 'r' then some '\r'
  else if c = 't' then some '\t'
  else none

/-- The character of an escape, after its backslash, and what follows it. A
high surrogate needs the low one right after it. -/
def parseEscape : List Char → Option (Char × List Char)
  | 'u' :: x₁ :: x₂ :: x₃ :: x₄ :: cs =>
    match hex4 x₁ x₂ x₃ x₄ with
    | none => none
    | some n =>
      if 0xD800 ≤ n ∧ n < 0xDC00 then
        match cs with
        | '\\' :: 'u' :: y₁ :: y₂ :: y₃ :: y₄ :: cs =>
          match hex4 y₁ y₂ y₃ y₄ with
          | none => none
          | some m =>
            if 0xDC00 ≤ m ∧ m < 0xE000 then
              some (Char.ofNat (0x10000 + (n - 0xD800) * 0x400 + (m - 0xDC00)), cs)
            else none
        | _ => none
      else if 0xDC00 ≤ n ∧ n < 0xE000 then none
      else some (Char.ofNat n, cs)
  | e :: cs => (unescape e).map (·, cs)
  | [] => none

def consChar (c : Char) (r : Except ParseError (List Char × List Char)) :
    Except ParseError (List Char × List Char) :=
  match r with
  | .ok (cs, rest) => .ok (c :: cs, rest)
  | .error e => .error e

/-- The body of a string literal, up to its closing quote. -/
def parseChars : Nat → List Char → Except ParseError (List Char × List Char)
  | 0, _ => .error .malformed
  | _ + 1, [] => .error .malformed
  | fuel + 1, c :: cs =>
    if c = '"' then .ok ([], cs)
    else if c = '\\' then
      match parseEscape cs with
      | none => .error .malformed
      | some (c, rest) => consChar c (parseChars fuel rest)
    else if c.toNat < 32 then .error .malformed
    else consChar c (parseChars fuel cs)

def parseString (cs : List Char) : Except ParseError (String × List Char) :=
  match parseChars (cs.length + 1) cs with
  | .ok (s, rest) => .ok (String.ofList s, rest)
  | .error e => .error e

/-- An integer: no leading zeros, inside 64 bits, and neither fraction nor
exponent after it. Minus zero is a fraction to the library, like a number
outside 64 bits. -/
def parseInt (cs : List Char) : Except ParseError (Json × List Char) :=
  let negative := cs.head? == some '-'
  let body := if negative then cs.drop 1 else cs
  let digits := body.takeWhile Char.isDigit
  let rest := body.dropWhile Char.isDigit
  let value := Nat.ofDigitChars 10 digits 0
  if digits = [] then .error .malformed
  else if digits.head? = some '0' ∧ digits.length ≠ 1 then .error .malformed
  else if rest.head? = some '.' ∨ rest.head? = some 'e' ∨ rest.head? = some 'E' then .error .notInteger
  else if negative then
    if value = 0 ∨ 2 ^ 63 < value then .error .notInteger else .ok (.num (-(value : Int)), rest)
  else if 2 ^ 64 ≤ value then .error .notInteger
  else .ok (.num (value : Int), rest)

mutual
/-- A value, with `d` levels of nesting left: entering an array or an object
takes one, and the last one is an error. -/
def parseValue : Nat → Nat → List Char → Except ParseError (Json × List Char)
  | 0, _, _ => .error .malformed
  | fuel + 1, d, cs =>
    match skip cs with
    | 'n' :: 'u' :: 'l' :: 'l' :: rest => .ok (.null, rest)
    | 't' :: 'r' :: 'u' :: 'e' :: rest => .ok (.bool true, rest)
    | 'f' :: 'a' :: 'l' :: 's' :: 'e' :: rest => .ok (.bool false, rest)
    | '"' :: rest =>
      match parseString rest with
      | .ok (s, rest) => .ok (.str s, rest)
      | .error e => .error e
    | '[' :: rest =>
      if d ≤ 1 then .error .recursionLimit
      else match skip rest with
        | ']' :: rest => .ok (.arr [], rest)
        | rest =>
          match parseItems fuel (d - 1) rest with
          | .ok (xs, rest) => .ok (.arr xs, rest)
          | .error e => .error e
    | '{' :: rest =>
      if d ≤ 1 then .error .recursionLimit
      else match skip rest with
        | '}' :: rest => .ok (.obj [], rest)
        | rest =>
          match parseFields fuel (d - 1) rest with
          | .ok (fs, rest) => .ok (.obj fs, rest)
          | .error e => .error e
    | rest => parseInt rest

/-- One or more items, up to the closing bracket. -/
def parseItems : Nat → Nat → List Char → Except ParseError (List Json × List Char)
  | 0, _, _ => .error .malformed
  | fuel + 1, d, cs =>
    match parseValue fuel d cs with
    | .error e => .error e
    | .ok (x, rest) =>
      match skip rest with
      | ']' :: rest => .ok ([x], rest)
      | ',' :: rest =>
        match parseItems fuel d rest with
        | .ok (xs, rest) => .ok (x :: xs, rest)
        | .error e => .error e
      | _ => .error .malformed

/-- One or more fields, up to the closing brace. Repeated keys stay, in order. -/
def parseFields : Nat → Nat → List Char → Except ParseError (List (String × Json) × List Char)
  | 0, _, _ => .error .malformed
  | fuel + 1, d, cs =>
    match skip cs with
    | '"' :: rest =>
      match parseString rest with
      | .error e => .error e
      | .ok (k, rest) =>
        match skip rest with
        | ':' :: rest =>
          match parseValue fuel d rest with
          | .error e => .error e
          | .ok (x, rest) =>
            match skip rest with
            | '}' :: rest => .ok ([(k, x)], rest)
            | ',' :: rest =>
              match parseFields fuel d rest with
              | .ok (fs, rest) => .ok ((k, x) :: fs, rest)
              | .error e => .error e
            | _ => .error .malformed
        | _ => .error .malformed
    | _ => .error .malformed
end

/-- The nesting bound of the default parser. -/
def defaultDepth : Nat := 128

/-! ## Repeated keys -/

mutual
/-- The value a map-building reader makes of a parsed text: of a repeated key
the last value stays, at the place of the first. -/
def merged : Json → Json
  | .arr xs => .arr (mergedItems xs)
  | .obj fs => .obj (mergedFields [] fs)
  | v => v

def mergedItems : List Json → List Json
  | [] => []
  | x :: xs => x.merged :: mergedItems xs

def mergedFields (m : Assoc Json) : List (String × Json) → Assoc Json
  | [] => m
  | (k, x) :: fs => mergedFields (Assoc.put k x.merged m) fs
end

/-- A whole text: one value, with nothing but whitespace around it. -/
def parse (text : String) : Except ParseError Json :=
  match parseValue (text.toList.length + 1) defaultDepth text.toList with
  | .error e => .error e
  | .ok (v, rest) => if skip rest = [] then .ok v else .error .malformed

/-! ## Printing and parsing back -/

theorem hexVal_hexDigit {n : Nat} (h : n < 16) : hexVal (hexDigit n) = some n := by
  have : ∀ m < 16, hexVal (hexDigit m) = some m := by decide
  exact this n h

theorem parseChars_escapeChar (c : Char) (fuel : Nat) (rest : List Char) :
    parseChars (fuel + 1) (escapeChar c ++ rest) = consChar c (parseChars fuel rest) := by
  unfold escapeChar
  split
  next h => subst h; rfl
  split
  next h => subst h; rfl
  split
  next h => subst h; rfl
  split
  next h => subst h; rfl
  split
  next h => subst h; rfl
  split
  next h => subst h; rfl
  split
  next h => subst h; rfl
  split
  next hq hb _ _ _ _ _ hc =>
    have h₁ : hexVal (hexDigit (c.toNat / 16)) = some (c.toNat / 16) := hexVal_hexDigit (by omega)
    have h₂ : hexVal (hexDigit (c.toNat % 16)) = some (c.toNat % 16) := hexVal_hexDigit (by omega)
    have h₀ : hexVal '0' = some 0 := by decide
    have hn : ((0 * 16 + 0) * 16 + c.toNat / 16) * 16 + c.toNat % 16 = c.toNat := by omega
    have h4 : hex4 '0' '0' (hexDigit (c.toNat / 16)) (hexDigit (c.toNat % 16)) = some c.toNat := by
      simp only [hex4, h₀, h₁, h₂, hn]
    have hhi : ¬ (0xD800 ≤ c.toNat ∧ c.toNat < 0xDC00) := by omega
    have hlo : ¬ (0xDC00 ≤ c.toNat ∧ c.toNat < 0xE000) := by omega
    have hesc : parseEscape ('u' :: '0' :: '0' :: hexDigit (c.toNat / 16) :: hexDigit (c.toNat % 16) :: rest)
        = some (c, rest) := by
      simp only [parseEscape, h4, hhi, hlo, if_false, Char.ofNat_toNat]
    show (match parseEscape ('u' :: '0' :: '0' :: hexDigit (c.toNat / 16) :: hexDigit (c.toNat % 16) :: rest) with
      | none => .error .malformed
      | some (c, rest) => consChar c (parseChars fuel rest)) = consChar c (parseChars fuel rest)
    rw [hesc]
  next hq hb _ _ _ _ _ hc =>
    rw [List.singleton_append, parseChars]
    simp [hq, hb, hc]

theorem parseChars_quoted (cs rest : List Char) {fuel : Nat} (h : cs.length < fuel) :
    parseChars fuel (quoted cs ++ rest) = .ok (cs, rest) := by
  induction cs generalizing fuel with
  | nil =>
    obtain ⟨fuel, rfl⟩ : ∃ n, fuel = n + 1 := ⟨fuel - 1, by omega⟩
    rfl
  | cons c cs ih =>
    obtain ⟨fuel, rfl⟩ : ∃ n, fuel = n + 1 := ⟨fuel - 1, by omega⟩
    have hfuel : cs.length < fuel := by simpa using h
    rw [quoted, List.append_assoc, parseChars_escapeChar, ih hfuel]
    rfl

theorem length_quoted (cs : List Char) : cs.length < (quoted cs).length := by
  induction cs with
  | nil => simp [quoted]
  | cons c cs ih =>
    have hpos : 1 ≤ (escapeChar c).length := by
      unfold escapeChar
      repeat' split
      all_goals simp
    rw [quoted, List.length_append, List.length_cons]
    omega

theorem parseString_quoted (s : String) (rest : List Char) :
    parseString (quoted s.toList ++ rest) = .ok (s, rest) := by
  have hlen : s.toList.length < (quoted s.toList ++ rest).length + 1 := by
    have := length_quoted s.toList
    rw [List.length_append]
    omega
  simp only [parseString, parseChars_quoted s.toList rest hlen, String.ofList_toList]

/-- What may stand after a value without being read as a part of it. -/
def Stop (rest : List Char) : Prop :=
  ∀ c, rest.head? = some c → c.isDigit = false ∧ c ≠ '.' ∧ c ≠ 'e' ∧ c ≠ 'E'

theorem stop_nil : Stop [] := by simp [Stop]

theorem stop_cons {c : Char} {cs : List Char} (h : c = ',' ∨ c = ']' ∨ c = '}') : Stop (c :: cs) := by
  intro d hd
  simp only [List.head?_cons, Option.some.injEq] at hd
  subst hd
  rcases h with rfl | rfl | rfl <;> decide

theorem isDigit_toDigits {n : Nat} {c : Char} (h : c ∈ Nat.toDigits 10 n) : c.isDigit = true :=
  Nat.isDigit_of_mem_toDigits (by decide) (by decide) h

theorem takeWhile_toDigits (n : Nat) {rest : List Char} (h : Stop rest) :
    (Nat.toDigits 10 n ++ rest).takeWhile Char.isDigit = Nat.toDigits 10 n := by
  rw [List.takeWhile_append_of_pos (fun c hc => isDigit_toDigits hc)]
  cases rest with
  | nil => simp
  | cons c cs => simp [(h c rfl).1]

theorem dropWhile_toDigits (n : Nat) {rest : List Char} (h : Stop rest) :
    (Nat.toDigits 10 n ++ rest).dropWhile Char.isDigit = rest := by
  rw [List.dropWhile_append_of_pos (fun c hc => isDigit_toDigits hc)]
  cases rest with
  | nil => rfl
  | cons c cs => simp [(h c rfl).1]

theorem toDigits_head_ne_zero {n : Nat} (hn : 0 < n) : (Nat.toDigits 10 n).head? ≠ some '0' := by
  induction n using Nat.strongRecOn with
  | _ n ih =>
    by_cases hlt : n < 10
    · rw [Nat.toDigits_of_lt_base hlt]
      have : ∀ m < 10, 0 < m → (m.digitChar) ≠ '0' := by decide
      simpa using this n hlt hn
    · rw [Nat.toDigits_of_base_le (by decide) (by omega)]
      have hdiv : 0 < n / 10 := by omega
      have hlt' : n / 10 < n := by omega
      obtain ⟨c, cs, hc⟩ := List.exists_cons_of_ne_nil (Nat.toDigits_ne_nil (n := n / 10) (b := 10))
      have := ih (n / 10) hlt' hdiv
      rw [hc] at this ⊢
      simpa using this

theorem toDigits_zero_or (n : Nat) :
    ¬ ((Nat.toDigits 10 n).head? = some '0' ∧ (Nat.toDigits 10 n).length ≠ 1) := by
  rintro ⟨hhead, hlen⟩
  rcases Nat.eq_zero_or_pos n with rfl | hn
  · exact hlen rfl
  · exact toDigits_head_ne_zero hn hhead

theorem toDigits_head_digit (n : Nat) : ∃ c cs, Nat.toDigits 10 n = c :: cs ∧ c.isDigit = true := by
  cases h : Nat.toDigits 10 n with
  | nil => exact absurd h Nat.toDigits_ne_nil
  | cons c cs => exact ⟨c, cs, rfl, isDigit_toDigits (n := n) (by simp [h])⟩

theorem parseInt_renderInt {n : Int} (hn : -(2 : Int) ^ 63 ≤ n ∧ n < 2 ^ 64) {rest : List Char}
    (h : Stop rest) : parseInt (renderInt n ++ rest) = .ok (.num n, rest) := by
  have hstop : ¬ (rest.head? = some '.' ∨ rest.head? = some 'e' ∨ rest.head? = some 'E') := by
    rintro (he | he | he)
    · exact (h _ he).2.1 rfl
    · exact (h _ he).2.2.1 rfl
    · exact (h _ he).2.2.2 rfl
  have hne : Nat.toDigits 10 n.natAbs ≠ [] := Nat.toDigits_ne_nil
  unfold renderInt
  split
  next hneg =>
    have hval : ¬ (n.natAbs = 0 ∨ 2 ^ 63 < n.natAbs) := by omega
    have habs : -(n.natAbs : Int) = n := by omega
    simp only [parseInt, List.cons_append, List.head?_cons, BEq.rfl, if_true, List.drop_succ_cons,
      List.drop_zero, takeWhile_toDigits _ h, dropWhile_toDigits _ h, hne, if_false,
      toDigits_zero_or, hstop, Nat.ofDigitChars_ten_toDigits, hval, habs]
  next hpos =>
    obtain ⟨c, cs, hc, hdig⟩ := toDigits_head_digit n.natAbs
    have hminus : ((Nat.toDigits 10 n.natAbs ++ rest).head? == some '-') = false := by
      rw [hc]
      simp only [List.cons_append, List.head?_cons, beq_eq_false_iff_ne, ne_eq, Option.some.injEq]
      rintro rfl
      exact absurd hdig (by decide)
    have hval : ¬ (2 ^ 64 ≤ n.natAbs) := by omega
    have habs : (n.natAbs : Int) = n := by omega
    simp only [parseInt, hminus, Bool.false_eq_true, if_false, takeWhile_toDigits _ h,
      dropWhile_toDigits _ h, hne, toDigits_zero_or, hstop, Nat.ofDigitChars_ten_toDigits, hval, habs]

mutual
/-- The calls a value's text takes to parse. -/
def weight : Json → Nat
  | .arr xs => weightItems xs + 1
  | .obj fs => weightFields fs + 1
  | _ => 1

def weightItems : List Json → Nat
  | [] => 0
  | x :: xs => x.weight + weightItems xs + 1

def weightFields : List (String × Json) → Nat
  | [] => 0
  | (_, x) :: fs => x.weight + weightFields fs + 1
end

theorem length_renderInt_pos (n : Int) : 1 ≤ (renderInt n).length := by
  obtain ⟨c, cs, hc, _⟩ := toDigits_head_digit n.natAbs
  unfold renderInt
  split <;> simp [hc]

mutual
/-- A text is long enough to be its own fuel. -/
theorem weight_le (v : Json) : v.weight ≤ (textOf v).length := by
  match v with
  | .null => simp [weight, textOf]
  | .bool true => simp [weight, textOf]
  | .bool false => simp [weight, textOf]
  | .num n => simpa [weight, textOf] using length_renderInt_pos n
  | .str s => simp [weight, textOf, renderString]
  | .arr [] => simp [weight, weightItems, textOf]
  | .arr (x :: xs) =>
    have h₁ := weight_le x
    have h₂ := weightItems_lt xs
    simp only [weight, weightItems, textOf, List.length_cons, List.length_append]
    omega
  | .obj [] => simp [weight, weightFields, textOf]
  | .obj ((k, x) :: fs) =>
    have h₁ := weight_le x
    have h₂ := weightFields_lt fs
    simp only [weight, weightFields, textOf, List.length_cons, List.length_append]
    omega

theorem weightItems_lt (xs : List Json) : weightItems xs < (textItems xs).length := by
  match xs with
  | [] => simp [weightItems, textItems]
  | x :: xs =>
    have h₁ := weight_le x
    have h₂ := weightItems_lt xs
    simp only [weightItems, textItems, List.length_cons, List.length_append]
    omega

theorem weightFields_lt (fs : List (String × Json)) : weightFields fs < (textFields fs).length := by
  match fs with
  | [] => simp [weightFields, textFields]
  | (k, x) :: fs =>
    have h₁ := weight_le x
    have h₂ := weightFields_lt fs
    simp only [weightFields, textFields, List.length_cons, List.length_append]
    omega
end

theorem skip_cons {c : Char} {cs : List Char} (h : isSpace c = false) : skip (c :: cs) = c :: cs := by
  simp [skip, h]

theorem isSpace_digit {c : Char} (h : c.isDigit = true) : isSpace c = false := by
  simp only [isSpace, Bool.or_eq_false_iff, decide_eq_false_iff_not]
  refine ⟨⟨⟨?_, ?_⟩, ?_⟩, ?_⟩ <;> (rintro rfl; exact absurd h (by decide))

/-- How a number starts: never like another kind of value. -/
theorem renderInt_head (n : Int) :
    ∃ c cs, renderInt n = c :: cs ∧ (c = '-' ∨ c.isDigit = true) := by
  obtain ⟨c, cs, hc, hdig⟩ := toDigits_head_digit n.natAbs
  unfold renderInt
  split
  · exact ⟨'-', _, rfl, .inl rfl⟩
  · exact ⟨c, cs, hc, .inr hdig⟩

/-- The first character of a value's text. It is neither a space nor a bracket
that closes. -/
theorem textOf_head (v : Json) :
    ∃ c cs, textOf v = c :: cs ∧ isSpace c = false ∧ c ≠ ']' ∧ c ≠ '}' := by
  match v with
  | .null => exact ⟨_, _, rfl, by decide⟩
  | .bool true => exact ⟨_, _, rfl, by decide⟩
  | .bool false => exact ⟨_, _, rfl, by decide⟩
  | .str s => exact ⟨_, _, rfl, by decide⟩
  | .arr [] => exact ⟨_, _, rfl, by decide⟩
  | .arr (x :: xs) => exact ⟨_, _, rfl, by decide⟩
  | .obj [] => exact ⟨_, _, rfl, by decide⟩
  | .obj ((k, x) :: fs) => exact ⟨_, _, rfl, by decide⟩
  | .num n =>
    obtain ⟨c, cs, hc, hdig⟩ := renderInt_head n
    refine ⟨c, cs, hc, ?_⟩
    rcases hdig with rfl | hdig
    · decide
    · refine ⟨isSpace_digit hdig, ?_, ?_⟩ <;> (rintro rfl; exact absurd hdig (by decide))

theorem parseValue_number {c : Char} {cs : List Char} (h : c = '-' ∨ c.isDigit = true) (fuel d : Nat) :
    parseValue (fuel + 1) d (c :: cs) = parseInt (c :: cs) := by
  have hsp : isSpace c = false := by
    rcases h with rfl | h
    · decide
    · exact isSpace_digit h
  have hne : ∀ x : Char, x ≠ '-' → x.isDigit = false → c ≠ x := by
    rintro x hx hdx rfl
    rcases h with h | h
    · exact hx h
    · simp [hdx] at h
  have hn := hne 'n' (by decide) (by decide)
  have ht := hne 't' (by decide) (by decide)
  have hf := hne 'f' (by decide) (by decide)
  have hq := hne '"' (by decide) (by decide)
  have ha := hne '[' (by decide) (by decide)
  have ho := hne '{' (by decide) (by decide)
  rw [parseValue, skip_cons hsp]
  split <;> simp_all

theorem stop_textItems (xs : List Json) (rest : List Char) : Stop (textItems xs ++ rest) := by
  cases xs with
  | nil => exact stop_cons (.inr (.inl rfl))
  | cons x xs => exact stop_cons (.inl rfl)

theorem stop_textFields (fs : List (String × Json)) (rest : List Char) : Stop (textFields fs ++ rest) := by
  match fs with
  | [] => exact stop_cons (.inr (.inr rfl))
  | (k, x) :: fs => exact stop_cons (.inl rfl)

theorem parseValue_items {c : Char} {cs : List Char} (fuel d : Nat) (hd : 1 < d) (hsp : isSpace c = false)
    (hclose : c ≠ ']') :
    parseValue (fuel + 1) d ('[' :: c :: cs) = match parseItems fuel (d - 1) (c :: cs) with
      | .ok (xs, rest) => Except.ok (.arr xs, rest)
      | .error e => .error e := by
  have hnot : ¬ d ≤ 1 := by omega
  rw [parseValue, skip_cons (by decide)]
  simp only [hnot, if_false, skip_cons hsp]
  split
  next h => simp_all
  next => rfl

theorem parseValue_fields {c : Char} {cs : List Char} (fuel d : Nat) (hd : 1 < d) (hsp : isSpace c = false)
    (hclose : c ≠ '}') :
    parseValue (fuel + 1) d ('{' :: c :: cs) = match parseFields fuel (d - 1) (c :: cs) with
      | .ok (fs, rest) => Except.ok (.obj fs, rest)
      | .error e => .error e := by
  have hnot : ¬ d ≤ 1 := by omega
  rw [parseValue, skip_cons (by decide)]
  simp only [hnot, if_false, skip_cons hsp]
  split
  next h => simp_all
  next => rfl

theorem parseValue_bracket (cs : List Char) (fuel d : Nat) (hd : d ≤ 1) :
    parseValue (fuel + 1) d ('[' :: cs) = .error .recursionLimit := by
  rw [parseValue, skip_cons (by decide)]
  simp [hd]

theorem parseValue_brace (cs : List Char) (fuel d : Nat) (hd : d ≤ 1) :
    parseValue (fuel + 1) d ('{' :: cs) = .error .recursionLimit := by
  rw [parseValue, skip_cons (by decide)]
  simp [hd]

theorem depth_arr (xs : List Json) : (arr xs).depth = depthItems xs + 1 := rfl

theorem depth_obj (fs : List (String × Json)) : (obj fs).depth = depthFields fs + 1 := rfl

theorem depthItems_lt {x : Json} {xs : List Json} {d : Nat} :
    depthItems (x :: xs) < d ↔ x.depth < d ∧ depthItems xs < d := Nat.max_lt

theorem depthFields_lt {k : String} {x : Json} {fs : List (String × Json)} {d : Nat} :
    depthFields ((k, x) :: fs) < d ↔ x.depth < d ∧ depthFields fs < d := Nat.max_lt

theorem weight_pos (v : Json) : 0 < v.weight := by
  cases v <;> simp [weight]

mutual
/-- **A printed value parses back as long as its nesting stays below the levels
left, and is refused for its nesting otherwise.** -/
theorem parseValue_textOf (v : Json) (fuel d : Nat) (rest : List Char) (hv : v.Valid)
    (hfuel : v.weight ≤ fuel) (hd : 1 ≤ d) (hrest : Stop rest) :
    parseValue fuel d (textOf v ++ rest)
      = if v.depth < d then .ok (v, rest) else .error .recursionLimit := by
  match v, fuel, hfuel with
  | v, 0, hfuel => exact absurd hfuel (by have := weight_pos v; omega)
  | .null, fuel + 1, hfuel => rw [if_pos (show depth .null < d from hd)]; rfl
  | .bool true, fuel + 1, hfuel => rw [if_pos (show depth (.bool true) < d from hd)]; rfl
  | .bool false, fuel + 1, hfuel => rw [if_pos (show depth (.bool false) < d from hd)]; rfl
  | .num n, fuel + 1, hfuel =>
    obtain ⟨c, cs, hc, hdig⟩ := renderInt_head n
    have hint := parseInt_renderInt hv hrest
    rw [hc, List.cons_append] at hint
    rw [textOf, hc, List.cons_append, parseValue_number hdig, hint, if_pos (show depth (.num n) < d from hd)]
  | .str s, fuel + 1, hfuel =>
    have hs := parseString_quoted s rest
    rw [textOf, renderString, List.cons_append, parseValue, skip_cons (by decide)]
    simp only [hs]
    rw [if_pos (show depth (.str s) < d from hd)]
  | .arr [], fuel + 1, hfuel =>
    rw [textOf, List.cons_append, List.cons_append, List.nil_append, depth_arr]
    by_cases hlevel : d ≤ 1
    · rw [parseValue_bracket _ fuel d hlevel, if_neg (by simp only [depthItems]; omega)]
    · rw [parseValue, skip_cons (by decide), if_pos (by simp only [depthItems]; omega)]
      simp only [hlevel, if_false, skip_cons (show isSpace ']' = false by decide)]
  | .arr (x :: xs), fuel + 1, hfuel =>
    obtain ⟨c, cs, hc, hsp, hclose, _⟩ := textOf_head x
    have hitems := fun h => parseItems_text x xs fuel (d - 1) rest hv
      (by simp only [weight] at hfuel; omega) h
    rw [hc, List.cons_append] at hitems
    rw [depth_arr]
    simp only [textOf, hc, List.cons_append, List.append_assoc]
    by_cases hlevel : d ≤ 1
    · rw [parseValue_bracket _ fuel d hlevel, if_neg (by omega)]
    · rw [parseValue_items fuel d (by omega) hsp hclose, hitems (by omega)]
      by_cases hdeep : depthItems (x :: xs) < d - 1
      · rw [if_pos hdeep, if_pos (by omega)]
      · rw [if_neg hdeep, if_neg (by omega)]
  | .obj [], fuel + 1, hfuel =>
    rw [textOf, List.cons_append, List.cons_append, List.nil_append, depth_obj]
    by_cases hlevel : d ≤ 1
    · rw [parseValue_brace _ fuel d hlevel, if_neg (by simp only [depthFields]; omega)]
    · rw [parseValue, skip_cons (by decide), if_pos (by simp only [depthFields]; omega)]
      simp only [hlevel, if_false, skip_cons (show isSpace '}' = false by decide)]
  | .obj ((k, x) :: fs), fuel + 1, hfuel =>
    have hfields := fun h => parseFields_text k x fs fuel (d - 1) rest hv.2
      (by simp only [weight] at hfuel; omega) h
    rw [renderString, List.cons_append] at hfields
    rw [depth_obj]
    simp only [textOf, renderString, List.cons_append, List.append_assoc]
    by_cases hlevel : d ≤ 1
    · rw [parseValue_brace _ fuel d hlevel, if_neg (by omega)]
    · rw [parseValue_fields fuel d (by omega) (by decide) (by decide), hfields (by omega)]
      by_cases hdeep : depthFields ((k, x) :: fs) < d - 1
      · rw [if_pos hdeep, if_pos (by omega)]
      · rw [if_neg hdeep, if_neg (by omega)]
termination_by structural fuel

theorem parseItems_text (x : Json) (xs : List Json) (fuel d : Nat) (rest : List Char)
    (hv : ValidItems (x :: xs)) (hfuel : weightItems (x :: xs) ≤ fuel) (hd : 1 ≤ d) :
    parseItems fuel d (textOf x ++ (textItems xs ++ rest))
      = if depthItems (x :: xs) < d then .ok (x :: xs, rest) else .error .recursionLimit := by
  simp only [weightItems] at hfuel
  match fuel, hfuel with
  | fuel + 1, hfuel =>
    have hx := parseValue_textOf x fuel d (textItems xs ++ rest) hv.1 (by omega) hd (stop_textItems xs rest)
    rw [parseItems, hx]
    by_cases hxd : x.depth < d
    · simp only [hxd, if_true]
      match xs with
      | [] =>
        rw [if_pos (depthItems_lt.mpr ⟨hxd, show depthItems [] < d from hd⟩)]
        simp only [textItems, List.cons_append, List.nil_append, skip_cons (show isSpace ']' = false by decide)]
      | y :: ys =>
        have hrest := parseItems_text y ys fuel d rest hv.2 (by simp only [weightItems] at hfuel ⊢; omega) hd
        simp only [textItems, List.cons_append, List.append_assoc,
          skip_cons (show isSpace ',' = false by decide), hrest]
        by_cases hys : depthItems (y :: ys) < d
        · rw [if_pos hys, if_pos (depthItems_lt.mpr ⟨hxd, hys⟩)]
        · rw [if_neg hys, if_neg (fun h => hys (depthItems_lt.mp h).2)]
    · simp only [hxd, if_false]
      rw [if_neg (fun h => hxd (depthItems_lt.mp h).1)]
termination_by structural fuel

theorem parseFields_text (k : String) (x : Json) (fs : List (String × Json)) (fuel d : Nat)
    (rest : List Char) (hv : ValidFields ((k, x) :: fs)) (hfuel : weightFields ((k, x) :: fs) ≤ fuel)
    (hd : 1 ≤ d) :
    parseFields fuel d (renderString k ++ ':' :: (textOf x ++ (textFields fs ++ rest)))
      = if depthFields ((k, x) :: fs) < d then .ok ((k, x) :: fs, rest) else .error .recursionLimit := by
  simp only [weightFields] at hfuel
  match fuel, hfuel with
  | fuel + 1, hfuel =>
    have hk := parseString_quoted k (':' :: (textOf x ++ (textFields fs ++ rest)))
    have hx := parseValue_textOf x fuel d (textFields fs ++ rest) hv.1 (by omega) hd (stop_textFields fs rest)
    rw [parseFields, renderString, List.cons_append, skip_cons (by decide)]
    simp only [hk, skip_cons (show isSpace ':' = false by decide), hx]
    by_cases hxd : x.depth < d
    · simp only [hxd, if_true]
      match fs with
      | [] =>
        rw [if_pos (depthFields_lt.mpr ⟨hxd, show depthFields [] < d from hd⟩)]
        simp only [textFields, List.cons_append, List.nil_append, skip_cons (show isSpace '}' = false by decide)]
      | (k', y) :: fs =>
        have hrest := parseFields_text k' y fs fuel d rest hv.2
          (by simp only [weightFields] at hfuel ⊢; omega) hd
        simp only [textFields, List.cons_append, List.append_assoc,
          skip_cons (show isSpace ',' = false by decide), hrest]
        by_cases hfs : depthFields ((k', y) :: fs) < d
        · rw [if_pos hfs, if_pos (depthFields_lt.mpr ⟨hxd, hfs⟩)]
        · rw [if_neg hfs, if_neg (fun h => hfs (depthFields_lt.mp h).2)]
    · simp only [hxd, if_false]
      rw [if_neg (fun h => hxd (depthFields_lt.mp h).1)]
termination_by structural fuel
end

/-- **Printing then parsing is the identity below the nesting bound, and fails
on the bound otherwise.** -/
theorem parse_render (v : Json) (hv : v.Valid) :
    parse v.render = if v.depth < defaultDepth then .ok v else .error .recursionLimit := by
  have hfuel : v.weight ≤ (textOf v).length + 1 := Nat.le_succ_of_le (weight_le v)
  have h := parseValue_textOf v _ defaultDepth [] hv hfuel (by decide) stop_nil
  rw [List.append_nil] at h
  rw [parse, render, String.toList_ofList, h]
  by_cases hd : v.depth < defaultDepth
  · simp [hd, skip]
  · simp only [hd, if_false]

/-! ## Merging leaves distinct keys alone -/

mutual
theorem merged_of_valid (v : Json) (hv : v.Valid) : v.merged = v := by
  match v with
  | .null => rfl
  | .bool _ => rfl
  | .num _ => rfl
  | .str _ => rfl
  | .arr xs => rw [merged, mergedItems_of_valid xs hv]
  | .obj fs => rw [merged, mergedFields_of_valid [] fs hv.1 hv.2, List.nil_append]

theorem mergedItems_of_valid (xs : List Json) (hv : ValidItems xs) : mergedItems xs = xs := by
  match xs with
  | [] => rfl
  | x :: xs => rw [mergedItems, merged_of_valid x hv.1, mergedItems_of_valid xs hv.2]

theorem mergedFields_of_valid (m : Assoc Json) (fs : List (String × Json))
    (hd : Assoc.Distinct (m ++ fs)) (hv : ValidFields fs) : mergedFields m fs = m ++ fs := by
  match fs with
  | [] => rw [mergedFields, List.append_nil]
  | (k, x) :: fs =>
    have hk : k ∉ Assoc.keys m := by
      simp only [Assoc.Distinct, Assoc.keys, List.map_append, List.map_cons] at hd
      exact fun hm => (List.nodup_append.mp hd).2.2 k hm k (by simp) rfl
    rw [mergedFields, merged_of_valid x hv.1, Assoc.put_of_not_mem x hk,
      mergedFields_of_valid (m ++ [(k, x)]) fs (by simpa using hd) hv.2, List.append_assoc]
    rfl
end

end Json

end Basis
