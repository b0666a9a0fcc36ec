/-
XML elements as text: qualified names, attributes in either quotes with blanks
where the grammar has them, and what lies between a start tag and its end tag.
Of the content nothing is asked, so what holds of these holds of every
well-formed element.
-/
import Tunnelbana.Basis.TextSearch

namespace Basis

namespace Xml

/-- The white space of the grammar: space, tab, line feed, carriage return. -/
def isSpace (c : Char) : Bool := c = ' ' || c = '\t' || c = '\n' || c = '\r'

/-- A character a name may have: neither white space nor punctuation of tags. -/
def isNameChar (c : Char) : Bool :=
  !isSpace c && c ∉ ['<', '>', '/', ':', '=', '&', '!', '?', '\x22', '\x27']

structure Space where
  chars : List Char
  blank : chars.all isSpace = true

structure Name where
  chars : List Char
  nonempty : chars ≠ []
  plain : chars.all isNameChar = true

structure QName where
  pre : Option Name := none
  loc : Name

def QName.text (q : QName) : List Char :=
  match q.pre with
  | none => q.loc.chars
  | some pre => pre.chars ++ ':' :: q.loc.chars

structure Attribute where
  space : Space
  apart : space.chars ≠ []
  name : QName
  beforeEq : Space
  afterEq : Space
  /-- In double quotes; else in single ones. -/
  double : Bool
  value : List Char
  unquoted : (if double then '\x22' else '\x27') ∉ value
  untagged : '<' ∉ value

def Attribute.quote (a : Attribute) : Char := if a.double then '\x22' else '\x27'

def Attribute.text (a : Attribute) : List Char :=
  a.space.chars ++ a.name.text ++ a.beforeEq.chars ++ '=' :: a.afterEq.chars ++ a.quote :: a.value ++ [a.quote]

structure Element where
  name : QName
  attributes : List Attribute := []
  space : Space
  /-- The content, and the blanks of the end tag; none when the tag closes itself. -/
  body : Option (List Char × Space)

namespace Element

variable (e : Element)

/-- The start tag after its name. -/
def tail : List Char := e.attributes.flatMap Attribute.text ++ e.space.chars

/-- How the start tag ends, and what follows it. -/
def rest : List Char :=
  match e.body with
  | none => ['/', '>']
  | some (content, space) => '>' :: content ++ '<' :: '/' :: e.name.text ++ space.chars ++ ['>']

def text : List Char := '<' :: e.name.text ++ e.tail ++ e.rest

end Element

/-! ## Which characters stand where -/

theorem not_isNameChar {c : Char} (h : isSpace c = true) : isNameChar c = false := by
  simp [isNameChar, h]

theorem Space.isSpace_of_mem (s : Space) {c : Char} (hmem : c ∈ s.chars) : isSpace c = true :=
  List.all_eq_true.mp s.blank c hmem

theorem Space.notMem (s : Space) {c : Char} (h : isSpace c = false) : c ∉ s.chars := by
  intro hmem
  rw [s.isSpace_of_mem hmem] at h
  cases h

theorem Name.notMem (n : Name) {c : Char} (h : isNameChar c = false) : c ∉ n.chars := by
  intro hmem
  rw [List.all_eq_true.mp n.plain c hmem] at h
  cases h

theorem QName.notMem (q : QName) {c : Char} (h : isNameChar c = false) (hcolon : c ≠ ':') : c ∉ q.text := by
  obtain ⟨pre, loc⟩ := q
  have hloc : c ∉ loc.chars := loc.notMem h
  cases pre with
  | none => exact hloc
  | some pre =>
    have hpre : c ∉ pre.chars := pre.notMem h
    simp [QName.text, hpre, hloc, hcolon]

theorem QName.afterLast_text (q : QName) : Text.afterLast ':' q.text = q.loc.chars := by
  have hcolon : ':' ∉ q.loc.chars := q.loc.notMem (by decide)
  obtain ⟨pre, loc⟩ := q
  cases pre with
  | none => exact Text.afterLast_of_notMem hcolon
  | some pre => exact Text.afterLast_append_cons hcolon

/-- The closing bracket stands in an attribute only inside its value. -/
theorem Attribute.mem_text (a : Attribute) : '>' ∈ a.text ↔ '>' ∈ a.value := by
  have hspace : ∀ s : Space, '>' ∉ s.chars := fun s => s.notMem (by decide)
  have hname : '>' ∉ a.name.text := a.name.notMem (by decide) (by decide)
  have hquote : '>' ≠ a.quote := by
    unfold quote
    cases a.double <;> decide
  simp [text, hspace, hname, hquote]

namespace Element

variable (e : Element)

theorem mem_tail : '>' ∈ e.tail ↔ ∃ a ∈ e.attributes, '>' ∈ a.value := by
  have hspace : '>' ∉ e.space.chars := e.space.notMem (by decide)
  simp [tail, hspace, Attribute.mem_text]

theorem text_eq : e.text = '<' :: (e.name.text ++ (e.tail ++ e.rest)) := by
  simp [text]

theorem tail_eq : e.tail = [] ∨ ∃ c more, e.tail = c :: more ∧ isSpace c = true := by
  obtain ⟨name, attributes, space, body⟩ := e
  cases attributes with
  | cons a attributes =>
    obtain ⟨c, more, hc⟩ := List.exists_cons_of_ne_nil a.apart
    have hblank : isSpace c = true := a.space.isSpace_of_mem (by rw [hc]; exact List.mem_cons_self)
    obtain ⟨others, hothers⟩ : ∃ others, tail ⟨name, a :: attributes, space, body⟩ = a.space.chars ++ others :=
      ⟨_, by simp [tail, Attribute.text]; rfl⟩
    exact .inr ⟨c, more ++ others, by rw [hothers, hc]; rfl, hblank⟩
  | nil =>
    cases hspace : space.chars with
    | nil => exact .inl (by simp [tail, hspace])
    | cons c more =>
      exact .inr ⟨c, more, by simp [tail, hspace], space.isSpace_of_mem (by rw [hspace]; exact List.mem_cons_self)⟩

/-- What follows a tag name is no part of a name. -/
theorem after_name : ∃ c more, e.tail ++ e.rest = c :: more ∧ isNameChar c = false := by
  rcases e.tail_eq with htail | ⟨c, more, htail, hc⟩
  · rw [htail]
    unfold rest
    cases e.body with
    | none => exact ⟨'/', ['>'], rfl, by decide⟩
    | some body => exact ⟨'>', _, rfl, by decide⟩
  · exact ⟨c, more ++ e.rest, by rw [htail]; rfl, not_isNameChar hc⟩

theorem text_brackets : ∃ inner, e.text = '<' :: (inner ++ ['>']) := by
  obtain ⟨name, attributes, space, body⟩ := e
  cases body with
  | none => exact ⟨name.text ++ tail ⟨name, attributes, space, none⟩ ++ ['/'], by simp [text, rest, tail]⟩
  | some body =>
    exact ⟨name.text ++ tail ⟨name, attributes, space, some body⟩ ++ '>' :: body.1 ++ '<' :: '/' :: name.text ++
      body.2.chars, by simp [text, rest, tail]⟩

end Element

end Xml

end Basis
