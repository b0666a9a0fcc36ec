/-
Which text the unwrapping of a decrypted element reads right. The scan takes
the tag's name up to a space or `>`, and the start tag to end at the first `>`:
so a wrapper gives its content exactly when neither misleads it, and any other
root is left alone unless its tag reads as a wrapper's (`unwrap_exact_iff`).
-/
import Tunnelbana.Basis.XmlText
import Tunnelbana.Plugins.Saml2Acs

namespace Tunnelbana

open Basis

def wrapperNames : List (List Char) := ["EncryptedAssertion".toList, "EncryptedID".toList]

/-- The text up to a space or `>`. -/
def tagWord (cs : List Char) : List Char := cs.takeWhile fun c => !(c = '>' || c = ' ')

/-- The text ends in a colon and the name of a wrapper. -/
def EndsInWrapper (cs : List Char) : Prop := ∃ front, ∃ n ∈ wrapperNames, cs = front ++ ':' :: n

/-- Between the first `>` and an end tag behind it is some text. -/
def HasInside (cs : List Char) : Prop :=
  ∃ before inside after, cs = before ++ '>' :: (inside ++ '<' :: '/' :: after) ∧ '>' ∉ before ∧ inside ≠ []

theorem plain_of_wrapperNames {n : List Char} (hn : n ∈ wrapperNames) {c : Char} (hc : c ∈ n) :
    Xml.isNameChar c = true := by
  have hall : ∀ n ∈ wrapperNames, n.all Xml.isNameChar = true := by decide
  exact List.all_eq_true.mp (hall n hn) c hc

theorem endsInWrapper_iff {cs : List Char} : EndsInWrapper cs ↔ ':' ∈ cs ∧ Text.afterLast ':' cs ∈ wrapperNames := by
  constructor
  · rintro ⟨front, n, hn, rfl⟩
    have hcolon : ':' ∉ n := by
      intro hmem
      have hplain := plain_of_wrapperNames hn hmem
      revert hplain
      decide
    rw [Text.afterLast_append_cons hcolon]
    exact ⟨by simp, hn⟩
  · rintro ⟨hcolon, hafter⟩
    obtain ⟨front, heq, _⟩ := Text.eq_append_afterLast hcolon
    exact ⟨front, _, hafter, heq⟩

/-! ## What the scan does -/

/-- A tag whose name the scan takes for a wrapper's. -/
def readsAsWrapper (cs : List Char) : Bool :=
  match Text.stripPrefix ['<'] cs with
  | none => false
  | some rest => Text.afterLast ':' (tagWord rest) ∈ wrapperNames

theorem readsAsWrapper_cons (rest : List Char) :
    readsAsWrapper ('<' :: rest) = true ↔ Text.afterLast ':' (tagWord rest) ∈ wrapperNames := by
  simp [readsAsWrapper, Text.stripPrefix]

theorem unwrap_eq (xml : String) :
    unwrapDecryptedWrapper xml =
      if readsAsWrapper (Text.trim xml.toList) then
        match Text.find (· = '>') (Text.trim xml.toList), Text.rfind ['<', '/'] (Text.trim xml.toList) with
        | some openEnd, some closeStart =>
          if openEnd + 1 ≥ closeStart then xml
          else String.ofList (((Text.trim xml.toList).take closeStart).drop (openEnd + 1))
        | _, _ => xml
      else xml := by
  have hread : readsAsWrapper (Text.trim xml.toList) =
      match Text.stripPrefix ['<'] (Text.trim xml.toList) with
      | none => false
      | some rest =>
        let name := rest.take ((Text.find (fun c => c = '>' || c = ' ') rest).getD rest.length)
        let localName := Text.afterLast ':' name
        decide (localName = "EncryptedAssertion".toList) || decide (localName = "EncryptedID".toList) := by
    unfold readsAsWrapper
    cases Text.stripPrefix ['<'] (Text.trim xml.toList) with
    | none => rfl
    | some rest =>
      simp only [Text.take_find]
      simp [wrapperNames, tagWord]
  rw [hread]
  rfl

theorem unwrap_unread {xml : String} (h : ¬ readsAsWrapper (Text.trim xml.toList) = true) :
    unwrapDecryptedWrapper xml = xml := by
  rw [unwrap_eq, if_neg h]

theorem find_bracket {before more : List Char} (h : '>' ∉ before) :
    Text.find (· = '>') (before ++ '>' :: more) = some before.length := by
  refine Text.find_append_cons (fun x hx => ?_) (by simp)
  have hne : x ≠ '>' := by
    rintro rfl
    exact h hx
  simpa using hne

/-- **A tag read as a wrapper gives what stands between the first `>` and the
last end tag.** -/
theorem unwrap_inside {xml : String} {before inside after : List Char}
    (hread : readsAsWrapper (Text.trim xml.toList) = true)
    (htext : Text.trim xml.toList = before ++ '>' :: (inside ++ '<' :: '/' :: after)) (hbefore : '>' ∉ before)
    (hinside : inside ≠ []) (hafter : '<' ∉ after) :
    unwrapDecryptedWrapper xml = String.ofList inside := by
  have hsplit : before ++ '>' :: (inside ++ '<' :: '/' :: after) =
      (before ++ '>' :: inside) ++ (['<', '/'] ++ after) := by simp
  have hlast : ∀ k, 0 < k → ¬ ['<', '/'] <+: (['<', '/'] ++ after).drop k := by
    rintro k hk ⟨more, hmore⟩
    -- behind its beginning the end tag has no other
    have hmem : '<' ∈ (['<', '/'] ++ after).drop k := by
      rw [← hmore]
      simp
    obtain ⟨k, rfl⟩ : ∃ n, k = n + 1 := ⟨k - 1, by omega⟩
    have hrest : '<' ∈ '/' :: after := List.mem_of_mem_drop (by simpa using hmem)
    simp [hafter] at hrest
  have hpos : 0 < inside.length := List.length_pos_iff.mpr hinside
  have hrfind : Text.rfind ['<', '/'] (before ++ '>' :: (inside ++ '<' :: '/' :: after)) =
      some (before ++ '>' :: inside).length := by
    rw [hsplit]
    exact Text.rfind_append (by simp) hlast
  have hlen : (before ++ '>' :: inside).length = before.length + 1 + inside.length := by
    simp
    omega
  rw [unwrap_eq, if_pos hread, htext, find_bracket hbefore, hrfind]
  show (if _ then _ else _) = _
  rw [if_neg (by omega), hsplit, List.take_left]
  have hdrop : (before ++ '>' :: inside).drop (before.length + 1) = inside := by
    rw [← List.drop_drop, List.drop_left]
    rfl
  rw [hdrop]

theorem unwrap_hollow {xml : String} (h : ¬ HasInside (Text.trim xml.toList)) : unwrapDecryptedWrapper xml = xml := by
  rw [unwrap_eq]
  split
  · split
    next openEnd closeStart hopen hclose =>
      split
      next => rfl
      next hlt =>
        -- positions with text between them are such an inside
        obtain ⟨before, c, more, htext, rfl, hc, hbefore⟩ := Text.find_split hopen
        have hc' : c = '>' := by simpa using hc
        subst hc'
        obtain ⟨⟨after, hafter⟩, _⟩ := (Text.rfind_eq_some (by simp)).mp hclose
        obtain ⟨k, rfl⟩ : ∃ k, closeStart = before.length + (k + 2) := ⟨closeStart - before.length - 2, by omega⟩
        have hmore : more.drop (k + 1) = '<' :: '/' :: after := by
          rw [htext, List.drop_length_add_append] at hafter
          exact hafter.symm
        refine absurd ⟨before, more.take (k + 1), after, ?_, fun hmem => ?_, fun hnil => ?_⟩ h
        · rw [← hmore, List.take_append_drop, htext]
        · simpa using hbefore '>' hmem
        · have hempty : more = [] := by simpa using hnil
          rw [hempty] at hmore
          cases hmore
    next => rfl
  · rfl

/-- A tag read as a wrapper with text inside loses at least the tag. -/
theorem unwrap_shortens {xml : String} (hread : readsAsWrapper (Text.trim xml.toList) = true)
    (hinside : HasInside (Text.trim xml.toList)) : unwrapDecryptedWrapper xml ≠ xml := by
  obtain ⟨before, inside, after, htext, hbefore, hne⟩ := hinside
  have hpos : 0 < inside.length := List.length_pos_iff.mpr hne
  have hoccurs : ['<', '/'] <+: (Text.trim xml.toList).drop (before.length + 1 + inside.length) := by
    rw [htext, Nat.add_assoc, List.drop_length_add_append, Nat.add_comm 1, List.drop_succ_cons, List.drop_left]
    exact ⟨after, rfl⟩
  obtain ⟨closeStart, hclose, hle⟩ := Text.le_rfind (by simp) hoccurs
  have hfind : Text.find (· = '>') (Text.trim xml.toList) = some before.length := by
    rw [htext]
    exact find_bracket hbefore
  rw [unwrap_eq, if_pos hread, hfind, hclose]
  show (if _ then _ else _) ≠ _
  rw [if_neg (by omega)]
  intro heq
  have hlen := congrArg List.length (congrArg String.toList heq)
  rw [String.toList_ofList, List.length_drop, List.length_take] at hlen
  have htrim := Text.length_trim_le xml.toList
  have hlong : 0 < (Text.trim xml.toList).length := by
    rw [htext, List.length_append, List.length_cons]
    omega
  omega

/-! ## Where a tag reads as a wrapper -/

theorem mem_wrapperNames_afterLast {w : List Char} :
    Text.afterLast ':' w ∈ wrapperNames ↔ w ∈ wrapperNames ∨ EndsInWrapper w := by
  by_cases hcolon : ':' ∈ w
  · have hnot : w ∉ wrapperNames := by
      intro hmem
      have hplain := plain_of_wrapperNames hmem hcolon
      revert hplain
      decide
    simp [endsInWrapper_iff, hcolon, hnot]
  · simp [endsInWrapper_iff, hcolon, Text.afterLast_of_notMem hcolon]

theorem tagWord_append {name cs : List Char} (h : ∀ c ∈ name, c ≠ '>' ∧ c ≠ ' ') :
    tagWord (name ++ cs) = name ++ tagWord cs := by
  refine List.takeWhile_append_of_pos fun c hc => ?_
  simp [h c hc]

theorem tagWord_name (q : Xml.QName) (cs : List Char) : tagWord (q.text ++ cs) = q.text ++ tagWord cs := by
  refine tagWord_append fun c hc => ⟨?_, ?_⟩
  · rintro rfl
    exact q.notMem (by decide) (by decide) hc
  · rintro rfl
    exact q.notMem (by decide) (by decide) hc

theorem tagWord_cons (c : Char) (cs : List Char) : tagWord (c :: cs) = [] ∨ ∃ more, tagWord (c :: cs) = c :: more := by
  unfold tagWord
  rw [List.takeWhile_cons]
  cases !(decide (c = '>') || decide (c = ' ')) with
  | false => exact .inl rfl
  | true => exact .inr ⟨_, rfl⟩

/-- Text that goes on behind a name, if at all, with what no name has. -/
def Apart (w : List Char) : Prop := ∀ c, w.head? = some c → Xml.isNameChar c = false

theorem apart_nil_of_mem {a w : List Char} (hw : Apart w) (h : a ++ w ∈ wrapperNames) : w = [] := by
  cases w with
  | nil => rfl
  | cons c w =>
    have hplain := plain_of_wrapperNames (c := c) h (by simp)
    rw [hw c rfl] at hplain
    cases hplain

theorem endsInWrapper_append {a w : List Char} (h : EndsInWrapper w) : EndsInWrapper (a ++ w) := by
  obtain ⟨front, n, hn, rfl⟩ := h
  exact ⟨a ++ front, n, hn, (List.append_assoc _ _ _).symm⟩

/-- **A tag is taken for a wrapper by its own name, where the scan ends with
it, or by the end of what the scan has taken with it.** -/
theorem reads_name {q : Xml.QName} {w : List Char} (hw : Apart w) :
    Text.afterLast ':' (q.text ++ w) ∈ wrapperNames ↔ (w = [] ∧ q.loc.chars ∈ wrapperNames) ∨ EndsInWrapper w := by
  by_cases hcolon : ':' ∈ w
  · have hne : w ≠ [] := List.ne_nil_of_mem hcolon
    rw [Text.afterLast_append_of_mem hcolon, endsInWrapper_iff]
    simp [hne, hcolon]
  · rw [Text.afterLast_append_of_notMem hcolon, q.afterLast_text, endsInWrapper_iff]
    constructor
    · intro h
      have hnil : w = [] := apart_nil_of_mem hw h
      subst hnil
      rw [List.append_nil] at h
      exact .inl ⟨rfl, h⟩
    · rintro (⟨rfl, h⟩ | ⟨hmem, _⟩)
      · rw [List.append_nil]
        exact h
      · exact absurd hmem hcolon

theorem apart_tagWord {c : Char} {more : List Char} (hc : Xml.isNameChar c = false) : Apart (tagWord (c :: more)) := by
  intro x hx
  rcases tagWord_cons c more with h | ⟨_, h⟩
  · rw [h] at hx
    cases hx
  · rw [h] at hx
    cases hx
    exact hc

/-! ## Text with a root element -/

structure Blank where
  chars : List Char
  blank : chars.all Text.isWhitespace = true

/-- A text with one root element: before it declarations, comments and
processing instructions, behind it comments and processing instructions. -/
structure RootedText where
  lead : Blank
  prolog : List Char := []
  root : Xml.Element
  epilog : List Char := []
  trail : Blank
  opens : prolog = [] ∨ ∃ c more, prolog = '<' :: c :: more ∧ (c = '?' ∨ c = '!')
  closes : epilog = [] ∨ ∃ front, epilog = front ++ ['>']

namespace RootedText

variable (d : RootedText)

def markup : List Char := d.prolog ++ d.root.text ++ d.epilog

def text : String := String.ofList (d.lead.chars ++ d.markup ++ d.trail.chars)

/-- Up to white space, the text is the element. -/
def Alone : Prop := d.prolog = [] ∧ d.epilog = []

theorem Alone.markup_eq {d : RootedText} (h : d.Alone) : d.markup = d.root.text := by
  unfold markup
  rw [h.1, h.2, List.append_nil]
  rfl

theorem markup_brackets : ∃ inner, d.markup = '<' :: (inner ++ ['>']) := by
  obtain ⟨inner, hroot⟩ := d.root.text_brackets
  have hfront : ∃ front, d.prolog ++ d.root.text = '<' :: (front ++ ['>']) := by
    rcases d.opens with h | ⟨c, more, h, _⟩
    · exact ⟨inner, by rw [h, hroot]; rfl⟩
    · exact ⟨c :: more ++ '<' :: inner, by rw [h, hroot]; simp⟩
  obtain ⟨front, hfront⟩ := hfront
  unfold markup
  rw [hfront]
  rcases d.closes with h | ⟨back, h⟩
  · exact ⟨front, by rw [h, List.append_nil]⟩
  · exact ⟨front ++ '>' :: back, by rw [h]; simp⟩

theorem trim_text : Text.trim d.text.toList = d.markup := by
  obtain ⟨inner, hmarkup⟩ := d.markup_brackets
  unfold text
  rw [String.toList_ofList, hmarkup]
  refine Text.trim_append (List.all_eq_true.mp d.lead.blank) (List.all_eq_true.mp d.trail.blank) (by decide) fun x hx => ?_
  have hlast : ('<' :: inner ++ ['>']).getLast? = some '>' := List.getLast?_concat
  cases hlast.symm.trans hx
  decide

/-! ### A root that is no wrapper -/

/-- Under another root, the scan sees a wrapper where its word ends in one. -/
theorem reads_other (hroot : d.root.name.loc.chars ∉ wrapperNames) :
    readsAsWrapper d.markup = true ↔ EndsInWrapper (tagWord (d.markup.drop 1)) := by
  rcases d.opens with hprolog | ⟨c, more, hprolog, hc⟩
  · obtain ⟨c, more, hafter, hc⟩ := d.root.after_name
    have hmarkup : d.markup = '<' :: (d.root.name.text ++ (c :: (more ++ d.epilog))) := by
      unfold markup
      rw [hprolog, d.root.text_eq, hafter]
      simp
    rw [hmarkup, readsAsWrapper_cons, List.drop_one, List.tail_cons, tagWord_name]
    constructor
    · intro h
      rcases (reads_name (apart_tagWord hc)).mp h with ⟨_, hmem⟩ | h
      · exact absurd hmem hroot
      · exact endsInWrapper_append h
    · intro h
      exact mem_wrapperNames_afterLast.mpr (.inr h)
  · have hmarkup : d.markup = '<' :: c :: (more ++ d.root.text ++ d.epilog) := by
      unfold markup
      rw [hprolog]
      simp
    have hplain : Xml.isNameChar c = false := by
      rcases hc with rfl | rfl <;> decide
    rw [hmarkup, readsAsWrapper_cons, List.drop_one, List.tail_cons, mem_wrapperNames_afterLast]
    constructor
    · rintro (h | h)
      · -- a wrapper's name does not begin as a comment or an instruction does
        have hnil := apart_nil_of_mem (apart_tagWord hplain) (show [] ++ _ ∈ wrapperNames from h)
        rw [hnil] at h
        exact absurd h (by decide)
      · exact h
    · exact .inr

/-- **Another root is left alone unless the scan's word ends in a wrapper's
name and there is text to take out.** -/
theorem unwrap_other_iff (hroot : d.root.name.loc.chars ∉ wrapperNames) :
    unwrapDecryptedWrapper d.text = d.text ↔
      ¬ (EndsInWrapper (tagWord (d.markup.drop 1)) ∧ HasInside d.markup) := by
  rw [← d.reads_other hroot, ← d.trim_text]
  constructor
  · rintro h ⟨hread, hinside⟩
    exact unwrap_shortens hread hinside h
  · intro h
    by_cases hread : readsAsWrapper (Text.trim d.text.toList) = true
    · exact unwrap_hollow fun hinside => h ⟨hread, hinside⟩
    · exact unwrap_unread hread

/-! ### A wrapper -/

variable {content : List Char} {space : Xml.Space}

/-- Of a wrapper alone, the scan sees the tag's end where the name is not cut
off by it, or something else looks like its end. -/
theorem reads_wrapper (halone : d.Alone) (hbody : d.root.body = some (content, space))
    (hroot : d.root.name.loc.chars ∈ wrapperNames) :
    readsAsWrapper d.markup = true ↔ tagWord d.root.tail = [] ∨ EndsInWrapper (tagWord d.root.tail) := by
  have hword : tagWord (d.root.tail ++ d.root.rest) = tagWord d.root.tail := by
    unfold Xml.Element.rest
    rw [hbody]
    exact Text.takeWhile_append_cons (by simp)
  have hapart : Apart (tagWord d.root.tail) := by
    obtain ⟨c, more, hafter, hc⟩ := d.root.after_name
    rw [← hword, hafter]
    exact apart_tagWord hc
  rw [halone.markup_eq, d.root.text_eq, readsAsWrapper_cons, tagWord_name, hword, reads_name hapart]
  simp [hroot]

/-- **A wrapper gives its content exactly when its tag is read as one and no
attribute has a `>`.** -/
theorem unwrap_content_iff (halone : d.Alone) (hbody : d.root.body = some (content, space))
    (hcontent : content ≠ []) (hroot : d.root.name.loc.chars ∈ wrapperNames) :
    unwrapDecryptedWrapper d.text = String.ofList content ↔
      (tagWord d.root.tail = [] ∨ EndsInWrapper (tagWord d.root.tail)) ∧
        ∀ a ∈ d.root.attributes, '>' ∉ a.value := by
  have hend : '<' ∉ d.root.name.text ++ space.chars ++ ['>'] := by
    have hname : '<' ∉ d.root.name.text := d.root.name.notMem (by decide) (by decide)
    have hspace : '<' ∉ space.chars := space.notMem (by decide)
    simp [hname, hspace]
  have htext : Text.trim d.text.toList = '<' :: (d.root.name.text ++ d.root.tail) ++
      '>' :: (content ++ '<' :: '/' :: (d.root.name.text ++ space.chars ++ ['>'])) := by
    rw [d.trim_text, halone.markup_eq, d.root.text_eq]
    unfold Xml.Element.rest
    rw [hbody]
    simp
  have hname : '>' ∉ d.root.name.text := d.root.name.notMem (by decide) (by decide)
  rw [← d.reads_wrapper halone hbody hroot, ← d.trim_text]
  by_cases hread : readsAsWrapper (Text.trim d.text.toList) = true
  · by_cases htail : '>' ∈ d.root.tail
    · -- the first `>` is an attribute's: the rest of the tag comes along
      obtain ⟨front, back, heq, hfront⟩ := List.eq_append_cons_of_mem htail
      have hcut : Text.trim d.text.toList = '<' :: (d.root.name.text ++ front) ++
          '>' :: ((back ++ '>' :: content) ++ '<' :: '/' :: (d.root.name.text ++ space.chars ++ ['>'])) := by
        rw [htext, heq]
        simp
      have hvalue : ¬ ∀ a ∈ d.root.attributes, '>' ∉ a.value := by
        obtain ⟨a, ha, hmem⟩ := d.root.mem_tail.mp htail
        exact fun hall => hall a ha hmem
      rw [unwrap_inside hread hcut (by simp [hname, hfront]) (by simp) hend]
      refine iff_of_false (fun h => ?_) fun h => hvalue h.2
      have hlen := congrArg List.length (String.ofList_injective h)
      simp at hlen
      omega
    · have hvalue : ∀ a ∈ d.root.attributes, '>' ∉ a.value :=
        fun a ha hmem => htail (d.root.mem_tail.mpr ⟨a, ha, hmem⟩)
      rw [unwrap_inside hread htext (by simp [hname, htail]) hcontent hend]
      exact iff_of_true rfl ⟨hread, hvalue⟩
  · rw [unwrap_unread hread]
    refine iff_of_false (fun h => ?_) fun h => hread h.1
    have hlen := Text.length_trim_le d.text.toList
    rw [htext, h, String.toList_ofList] at hlen
    simp at hlen
    omega

end RootedText

/-- **Unwrapping is exact where the scan reads the tag right**: a wrapper's tag
by its name and with no `>` in an attribute, another root's without a word that
ends in a wrapper's name, or without text to take out. -/
theorem unwrap_exact_iff (d : RootedText) :
    (∀ (content : List Char) (space : Xml.Space), d.Alone → d.root.body = some (content, space) → content ≠ [] →
      d.root.name.loc.chars ∈ wrapperNames →
        (unwrapDecryptedWrapper d.text = String.ofList content ↔
          (tagWord d.root.tail = [] ∨ EndsInWrapper (tagWord d.root.tail)) ∧
            ∀ a ∈ d.root.attributes, '>' ∉ a.value)) ∧
    (d.root.name.loc.chars ∉ wrapperNames →
      (unwrapDecryptedWrapper d.text = d.text ↔
        ¬ (EndsInWrapper (tagWord (d.markup.drop 1)) ∧ HasInside d.markup))) :=
  ⟨fun _ _ halone hbody hcontent hroot => d.unwrap_content_iff halone hbody hcontent hroot, d.unwrap_other_iff⟩

/-! ### Tags the scan misreads -/

def oneSpace : Xml.Space := ⟨[' '], by decide⟩
def noSpace : Xml.Space := ⟨[], by decide⟩
def lineBreak : Xml.Space := ⟨['\n'], by decide⟩

def holding (name : Xml.QName) (a : Xml.Attribute) : RootedText where
  lead := ⟨[], by decide⟩
  root := { name, attributes := [a], space := noSpace, body := some ("<a/>".toList, noSpace) }
  trail := ⟨[], by decide⟩
  opens := .inl rfl
  closes := .inl rfl

def encryptedAssertion : Xml.QName where
  loc := ⟨"EncryptedAssertion".toList, by decide, by decide⟩

/-- The tag name is followed by a line break. -/
def brokenTag : RootedText := holding encryptedAssertion {
  space := lineBreak
  apart := by decide
  name := { loc := ⟨"xmlns".toList, by decide, by decide⟩ }
  beforeEq := noSpace
  afterEq := noSpace
  double := true
  value := "u".toList
  unquoted := by decide
  untagged := by decide }

/-- An attribute has a closing bracket. -/
def bracketed : RootedText := holding encryptedAssertion {
  space := oneSpace
  apart := by decide
  name := { loc := ⟨"Id".toList, by decide, by decide⟩ }
  beforeEq := noSpace
  afterEq := noSpace
  double := true
  value := "a>b".toList
  unquoted := by decide
  untagged := by decide }

/-- Another element declares a prefix called as a wrapper is. -/
def declaring : RootedText := holding { loc := ⟨"Assertion".toList, by decide, by decide⟩ } {
  space := lineBreak
  apart := by decide
  name := { pre := some ⟨"xmlns".toList, by decide, by decide⟩
            loc := ⟨"EncryptedID".toList, by decide, by decide⟩ }
  beforeEq := oneSpace
  afterEq := noSpace
  double := true
  value := "u".toList
  unquoted := by decide
  untagged := by decide }

theorem unwrap_misreads :
    (brokenTag.Alone ∧ brokenTag.text = "<EncryptedAssertion\nxmlns=\"u\"><a/></EncryptedAssertion>" ∧
      unwrapDecryptedWrapper brokenTag.text = brokenTag.text ∧ brokenTag.text ≠ "<a/>") ∧
    (bracketed.Alone ∧ bracketed.text = "<EncryptedAssertion Id=\"a>b\"><a/></EncryptedAssertion>" ∧
      unwrapDecryptedWrapper bracketed.text = "b\"><a/>") ∧
    (declaring.Alone ∧ declaring.text = "<Assertion\nxmlns:EncryptedID =\"u\"><a/></Assertion>" ∧
      unwrapDecryptedWrapper declaring.text = "<a/>") := by
  refine ⟨⟨⟨rfl, rfl⟩, ?_⟩, ⟨⟨rfl, rfl⟩, ?_⟩, ⟨rfl, rfl⟩, ?_⟩ <;> decide

def holdingId (name : Xml.QName) : RootedText := holding name {
  space := oneSpace
  apart := by decide
  name := { loc := ⟨"Id".toList, by decide, by decide⟩ }
  beforeEq := noSpace
  afterEq := noSpace
  double := true
  value := "b".toList
  unquoted := by decide
  untagged := by decide }

def plainWrapper : RootedText := holdingId { loc := ⟨"EncryptedID".toList, by decide, by decide⟩ }

def plainAssertion : RootedText := holdingId { loc := ⟨"Assertion".toList, by decide, by decide⟩ }

/-- The wrapper's tag is read by its name, and the other one has no wrapper's. -/
theorem unwrap_exact_iff_demo :
    (plainWrapper.text = "<EncryptedID Id=\"b\"><a/></EncryptedID>" ∧
      unwrapDecryptedWrapper plainWrapper.text = "<a/>") ∧
    (plainAssertion.text = "<Assertion Id=\"b\"><a/></Assertion>" ∧
      unwrapDecryptedWrapper plainAssertion.text = plainAssertion.text) := by
  have hwrapper := (unwrap_exact_iff plainWrapper).1 "<a/>".toList noSpace ⟨rfl, rfl⟩ rfl (by decide) (by decide)
  have hassertion := (unwrap_exact_iff plainAssertion).2 (by decide)
  refine ⟨⟨by decide, hwrapper.mpr ⟨.inl (by decide), by decide⟩⟩, by decide, hassertion.mpr fun ⟨hends, _⟩ => ?_⟩
  have hcolon : ':' ∈ tagWord (plainAssertion.markup.drop 1) := (endsInWrapper_iff.mp hends).1
  exact absurd hcolon (by decide)

end Tunnelbana
