/-
Which error redirects the proxy follows. A micro-service's decoration becomes a
`Location` header as it is, so it has to be an absolute http(s) URL with
nothing in it that could end the header.

The test asks for something after the scheme where the URL needs an authority:
a URL that goes straight on to a path, a query or a fragment passes it
(`isValidErrorRedirect_iff`).
-/
import Tunnelbana.Core.Proxy

namespace Tunnelbana

open Basis

def REDIRECT_SCHEMES : List String := ["https://", "http://"]

/-- A control character, or the space. -/
def breaksHeader (c : Char) : Bool := c.toNat < 32 || c.toNat = 127 || c = ' '

def endsAuthority (c : Char) : Bool := c = '/' || c = '?' || c = '#'

/-- What stands before the path, the query and the fragment. -/
def authority (rest : List Char) : List Char := rest.takeWhile fun c => !endsAuthority c

/-- A scheme, in any case, and what follows it. -/
def SchemeThen (url : String) (rest : List Char) : Prop :=
  ∃ scheme ∈ REDIRECT_SCHEMES, ∃ lead, url.toList = lead ++ rest ∧ lead.map Char.toLower = scheme.toList

/-- An absolute http(s) URL with an authority, safe in a header. -/
def AbsoluteHttpUrl (url : String) : Prop :=
  (∃ rest, SchemeThen url rest ∧ authority rest ≠ []) ∧ url.toList.any breaksHeader = false

/-- Nothing stands where the authority of the URL should, but something after
it, and it is safe in a header. -/
def LacksAuthority (url : String) : Prop :=
  (∃ c rest, SchemeThen url (c :: rest) ∧ endsAuthority c = true) ∧ url.toList.any breaksHeader = false

/-! ## Slices -/

/-- `url.get(..n)` and `&url[n..]`: none where a character straddles the cut. -/
def splitAtByte : List Char → Nat → Option (List Char × List Char)
  | cs, 0 => some ([], cs)
  | [], _ + 1 => none
  | c :: cs, n + 1 =>
    if c.utf8Size ≤ n + 1 then (splitAtByte cs (n + 1 - c.utf8Size)).map fun (p : List Char × List Char) => (c :: p.1, p.2)
    else none

/-- A character of the scheme is one byte, whichever its case. -/
theorem utf8Size_of_toLower {c s : Char} (hs : s.toNat < 128) (h : c.toLower = s) : c.utf8Size = 1 := by
  have hc : c.toNat < 128 := by
    subst h
    unfold Char.toLower at hs
    split at hs
    next hupper =>
      have hle : c.val.toNat ≤ 90 := hupper.2
      show c.val.toNat < 128
      omega
    next => exact hs
  rw [Char.utf8Size_eq_one_iff, UInt32.le_iff_toNat_le]
  show c.toNat ≤ 127
  omega

/-- **The slices of bytes are slices of characters**: where the cut is inside a
character, what stands before it is not the scheme. -/
theorem afterScheme_splitAtByte {scheme : List Char} (hscheme : ∀ s ∈ scheme, s.toNat < 128) (url : List Char) :
    (splitAtByte url scheme.length).bind (fun p => if p.1.map Char.toLower = scheme then some p.2 else none) =
      afterScheme scheme url := by
  induction scheme generalizing url with
  | nil => cases url <;> rfl
  | cons s scheme ih =>
    cases url with
    | nil => rfl
    | cons c url =>
      have hrest := ih (fun t ht => hscheme t (List.mem_cons_of_mem _ ht)) url
      by_cases hc : c.toLower = s
      · have hsize : c.utf8Size = 1 := utf8Size_of_toLower (hscheme s List.mem_cons_self) hc
        have hskip : afterScheme (s :: scheme) (c :: url) = afterScheme scheme url := by
          simp [afterScheme, hc]
        rw [hskip, ← hrest, List.length_cons, splitAtByte, if_pos (by omega), hsize]
        simp only [Nat.add_sub_cancel]
        cases splitAtByte url scheme.length with
        | none => rfl
        | some p => simp [hc]
      · have hskip : afterScheme (s :: scheme) (c :: url) = none := by
          simp [afterScheme, hc]
        rw [hskip, List.length_cons, splitAtByte]
        split
        next =>
          cases splitAtByte url (scheme.length + 1 - c.utf8Size) with
          | none => rfl
          | some p => simp [hc]
        next => rfl

/-! ## What is accepted -/

theorem afterScheme_eq_some {scheme url rest : List Char} :
    afterScheme scheme url = some rest ↔ ∃ lead, url = lead ++ rest ∧ lead.map Char.toLower = scheme := by
  unfold afterScheme
  constructor
  · intro h
    split at h
    next htake =>
      cases h
      exact ⟨url.take scheme.length, (List.take_append_drop _ _).symm, htake⟩
    next => cases h
  · rintro ⟨lead, rfl, rfl⟩
    simp

/-- No URL has both schemes. -/
theorem afterScheme_https_eq_none {url rest : List Char} (h : afterScheme "http://".toList url = some rest) :
    afterScheme "https://".toList url = none := by
  obtain ⟨lead, rfl, hlead⟩ := afterScheme_eq_some.mp h
  rw [Option.eq_none_iff_forall_ne_some]
  intro rest' h'
  obtain ⟨lead', heq, hlead'⟩ := afterScheme_eq_some.mp h'
  have hcut := congrArg (fun cs => (cs.map Char.toLower).take 7) heq
  simp only [List.map_append, hlead, hlead'] at hcut
  rw [List.take_append_of_le_length (by decide), List.take_append_of_le_length (by decide)] at hcut
  revert hcut
  decide

theorem schemeThen_iff {url : String} {rest : List Char} :
    (afterScheme "https://".toList url.toList).or (afterScheme "http://".toList url.toList) = some rest ↔
      SchemeThen url rest := by
  rw [Option.or_eq_some_iff]
  constructor
  · rintro (h | ⟨-, h⟩)
    · exact ⟨"https://", by simp [REDIRECT_SCHEMES], afterScheme_eq_some.mp h⟩
    · exact ⟨"http://", by simp [REDIRECT_SCHEMES], afterScheme_eq_some.mp h⟩
  · rintro ⟨scheme, hscheme, h⟩
    simp only [REDIRECT_SCHEMES, List.mem_cons, List.not_mem_nil, or_false] at hscheme
    obtain rfl | rfl := hscheme
    · exact .inl (afterScheme_eq_some.mpr h)
    · have hhttp := afterScheme_eq_some.mpr h
      exact .inr ⟨afterScheme_https_eq_none hhttp, hhttp⟩

/-- A URL has one scheme and one remainder. -/
theorem SchemeThen.unique {url : String} {rest rest' : List Char} (h : SchemeThen url rest) (h' : SchemeThen url rest') :
    rest = rest' := by
  rw [← schemeThen_iff] at h h'
  exact Option.some.inj (h.symm.trans h')

/-- Accepted is what has anything after the scheme. -/
theorem isValidErrorRedirect_eq_true {url : String} :
    isValidErrorRedirect url = true ↔
      (∃ rest, SchemeThen url rest ∧ rest ≠ []) ∧ url.toList.any breaksHeader = false := by
  unfold isValidErrorRedirect
  constructor
  · intro h
    split at h
    next rest hrest =>
      simp only [Bool.and_eq_true, decide_eq_true_eq, Bool.not_eq_true'] at h
      exact ⟨⟨rest, schemeThen_iff.mp hrest, h.1⟩, h.2⟩
    next => cases h
  · rintro ⟨⟨rest, hrest, hne⟩, hsafe⟩
    rw [schemeThen_iff.mpr hrest]
    simp only [Bool.and_eq_true, decide_eq_true_eq, Bool.not_eq_true']
    exact ⟨hne, hsafe⟩

theorem authority_cons (c : Char) (rest : List Char) : authority (c :: rest) = [] ↔ endsAuthority c = true := by
  unfold authority
  cases h : endsAuthority c <;> simp [h]

/-- What is accepted has an authority or lacks one. -/
theorem isValidErrorRedirect_or {url : String} :
    isValidErrorRedirect url = true ↔ AbsoluteHttpUrl url ∨ LacksAuthority url := by
  rw [isValidErrorRedirect_eq_true]
  constructor
  · rintro ⟨⟨rest, hrest, hne⟩, hsafe⟩
    cases rest with
    | nil => exact absurd rfl hne
    | cons c rest =>
      cases hends : endsAuthority c with
      | true => exact .inr ⟨⟨c, rest, hrest, hends⟩, hsafe⟩
      | false =>
        refine .inl ⟨⟨c :: rest, hrest, fun hempty => ?_⟩, hsafe⟩
        rw [authority_cons, hends] at hempty
        cases hempty
  · rintro (⟨⟨rest, hrest, hauthority⟩, hsafe⟩ | ⟨⟨c, rest, hrest, -⟩, hsafe⟩)
    · refine ⟨⟨rest, hrest, ?_⟩, hsafe⟩
      rintro rfl
      exact hauthority rfl
    · exact ⟨⟨c :: rest, hrest, List.cons_ne_nil _ _⟩, hsafe⟩

theorem not_absoluteHttpUrl {url : String} (h : LacksAuthority url) : ¬ AbsoluteHttpUrl url := by
  rintro ⟨⟨rest, hrest, hauthority⟩, -⟩
  obtain ⟨⟨c, rest', hrest', hends⟩, -⟩ := h
  rw [hrest.unique hrest'] at hauthority
  exact hauthority ((authority_cons c rest').mpr hends)

/-- **An error redirect is tested for an absolute http(s) URL** except where the
path, the query or the fragment follows the scheme at once: the test accepts it
without an authority. -/
theorem isValidErrorRedirect_iff (url : String) :
    (isValidErrorRedirect url = true ↔ AbsoluteHttpUrl url) ↔ ¬ LacksAuthority url := by
  rw [isValidErrorRedirect_or]
  constructor
  · intro h hlacks
    exact not_absoluteHttpUrl hlacks (h.mp (.inr hlacks))
  · intro h
    simp [h]

/-- No host, and accepted. -/
theorem isValidErrorRedirect_without_host :
    ¬ (isValidErrorRedirect "http:///phish" = true ↔ AbsoluteHttpUrl "http:///phish") := by
  have hlacks : LacksAuthority "http:///phish" :=
    ⟨⟨'/', "phish".toList, ⟨"http://", by decide, "http://".toList, by decide, by decide⟩, by decide⟩, by decide⟩
  intro h
  exact not_absoluteHttpUrl hlacks (h.mp (isValidErrorRedirect_or.mpr (.inr hlacks)))

end Tunnelbana
