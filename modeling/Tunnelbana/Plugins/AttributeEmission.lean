/-
What of an attribute set goes out under canonical names. `fromInternal` keeps
one internal attribute for each canonical name, the last by its own name; so
it loses values exactly where the others hold some the last one lacks, and it
emits what the SAML frontend does exactly where they hold none
(`fromInternal_keeps_iff`).
-/
import Mathlib.Data.List.Count
import Tunnelbana.Basis.SortedMapFacts
import Tunnelbana.Plugins.Saml2Frontend

namespace Tunnelbana

open Basis

/-! ## Pairs of a name and a value -/

def pairsOf (p : String × List String) : List (String × String) := p.2.map (p.1, ·)

theorem count_pairsOf (p : String × List String) (n v : String) :
    (pairsOf p).count (n, v) = if p.1 = n then p.2.count v else 0 := by
  by_cases hn : p.1 = n
  · subst hn
    rw [if_pos rfl]
    exact List.count_map_of_injective p.2 (p.1, ·) (fun _ _ h => (Prod.mk.inj h).2) v
  · rw [if_neg hn, List.count_eq_zero]
    intro hmem
    obtain ⟨w, _, hw⟩ := List.mem_map.mp hmem
    exact hn (Prod.mk.inj hw).1

theorem count_flatMap_pairsOf (entries : List (String × List String)) (n v : String) :
    (entries.flatMap pairsOf).count (n, v) = ((entries.filter (·.1 = n)).flatMap (·.2)).count v := by
  induction entries with
  | nil => rfl
  | cons p entries ih =>
    rw [List.flatMap_cons, List.count_append, ih, count_pairsOf]
    by_cases hn : p.1 = n
    · rw [if_pos hn, List.filter_cons_of_pos (by simpa using hn), List.flatMap_cons, List.count_append]
    · rw [if_neg hn, List.filter_cons_of_neg (by simpa using hn), Nat.zero_add]

/-- Two lists of entries have the same pairs when they have, name by name. -/
theorem perm_pairs_iff {entries entries' : List (String × List String)} :
    (entries.flatMap pairsOf).Perm (entries'.flatMap pairsOf) ↔
      ∀ n, ((entries.filter (·.1 = n)).flatMap (·.2)).Perm ((entries'.filter (·.1 = n)).flatMap (·.2)) := by
  constructor
  · intro h n
    refine List.perm_iff_count.mpr fun v => ?_
    rw [← count_flatMap_pairsOf, ← count_flatMap_pairsOf]
    exact h.count_eq (n, v)
  · intro h
    refine List.perm_iff_count.mpr fun ⟨n, v⟩ => ?_
    rw [count_flatMap_pairsOf, count_flatMap_pairsOf]
    exact (h n).count_eq v

theorem filter_entries_eq (m : SortedMap (List String)) (n : String) :
    (m.entries.filter (·.1 = n)).flatMap (·.2) = (m.get n).getD [] := by
  obtain ⟨entries, hsorted⟩ := m
  have hdistinct : Assoc.Distinct entries := SortedMap.distinct_entries ⟨entries, hsorted⟩
  show (entries.filter (·.1 = n)).flatMap (·.2) = (Assoc.get n entries).getD []
  clear hsorted
  induction entries with
  | nil => rfl
  | cons p entries ih =>
    obtain ⟨a, vs⟩ := p
    obtain ⟨hnot, hrest⟩ := List.nodup_cons.mp hdistinct
    by_cases ha : a = n
    · subst ha
      have hnone : entries.filter (·.1 = a) = [] := by
        refine List.filter_eq_nil_iff.mpr fun q hq he => hnot ?_
        rw [← of_decide_eq_true he]
        exact List.mem_map.mpr ⟨q, hq, rfl⟩
      rw [List.filter_cons_of_pos (by simp), hnone, Assoc.get_cons_self]
      simp
    · rw [List.filter_cons_of_neg (by simpa using ha), Assoc.get_cons_other _ _ ha]
      exact ih hrest

/-- The last of some entries has all their values just when the others have none. -/
theorem last_perm_iff (entries : List (String × List String)) :
    ((entries.getLast?.map (·.2)).getD []).Perm (entries.flatMap (·.2)) ↔ ∀ p ∈ entries.dropLast, p.2 = [] := by
  rcases List.eq_nil_or_concat entries with rfl | ⟨front, p, rfl⟩
  · simp
  · have hflat : (front.concat p).flatMap (·.2) = front.flatMap (·.2) ++ p.2 := by simp
    have hlast : ((front.concat p).getLast?.map (·.2)).getD [] = p.2 := by simp
    rw [hflat, hlast, List.concat_eq_append, List.dropLast_concat]
    constructor
    · intro h
      have hlen := h.length_eq
      rw [List.length_append] at hlen
      have hnil : front.flatMap (·.2) = [] := List.eq_nil_of_length_eq_zero (by omega)
      exact List.flatMap_eq_nil_iff.mp hnil
    · intro h
      rw [List.flatMap_eq_nil_iff.mpr h]
      exact List.Perm.refl _

namespace AttributeMapper

variable (m : AttributeMapper) (profile : String)

/-- The external name an internal attribute goes out under. -/
def canonicalName (n : String) : Option String :=
  (m.profileAttribute profile n).bind fun mapping => mapping.names.head?

/-- The internal attributes with one canonical name, in the order of their names. -/
def holders (internal : SortedMap (List String)) (c : String) : List (String × List String) :=
  internal.entries.filter fun p => m.canonicalName profile p.1 = some c

theorem mem_holders {internal : SortedMap (List String)} {c : String} {p : String × List String} :
    p ∈ m.holders profile internal c ↔ internal.get p.1 = some p.2 ∧ m.canonicalName profile p.1 = some c := by
  simp [holders, SortedMap.get_eq_some]

/-- **The last holder of a canonical name goes out under it.** -/
theorem get_fromInternal (internal : SortedMap (List String)) (c : String) :
    (m.fromInternal profile internal).get c = (m.holders profile internal c).getLast?.map (·.2) := by
  -- whatever is already out, the last holder of the name overwrites it
  have hfold : ∀ (entries : List (String × List String)) (external : SortedMap (List String)),
      (entries.foldl (fun external p =>
          (m.canonicalName profile p.1).elim external fun canonical => external.insert canonical p.2) external).get c =
        ((entries.filter fun p => m.canonicalName profile p.1 = some c).getLast?.map (·.2)).or (external.get c) := by
    intro entries
    induction entries with
    | nil =>
      intro external
      rfl
    | cons p entries ih =>
      intro external
      rw [List.foldl_cons, ih]
      cases hp : m.canonicalName profile p.1 with
      | none =>
        rw [List.filter_cons_of_neg (by simp [hp])]
        rfl
      | some canonical =>
        show Option.or _ ((external.insert canonical p.2).get c) = _
        rw [SortedMap.get_insert]
        by_cases hc : canonical = c
        · rw [if_pos hc, List.filter_cons_of_pos (by simp [hp, hc]), List.getLast?_cons]
          cases (entries.filter fun p => m.canonicalName profile p.1 = some c).getLast? with
          | none => rfl
          | some q => rfl
        · rw [if_neg hc, List.filter_cons_of_neg (by simp [hp, hc])]
  have hsteps : m.fromInternal profile internal = internal.entries.foldl (fun external p =>
      (m.canonicalName profile p.1).elim external fun canonical => external.insert canonical p.2) .empty := by
    unfold fromInternal canonicalName
    congr 1
    funext external p
    cases (m.profileAttribute profile p.1).bind fun mapping => mapping.names.head? <;> rfl
  rw [hsteps, hfold, SortedMap.get_empty, Option.or_none]
  rfl

/-! ## What is kept -/

/-- Every value of a mapped attribute is out under its canonical name. -/
def KeepsValues (internal : SortedMap (List String)) : Prop :=
  ∀ n vs c v, internal.get n = some vs → m.canonicalName profile n = some c → v ∈ vs →
    ∃ out, (m.fromInternal profile internal).get c = some out ∧ v ∈ out

/-- Of the attributes with one canonical name, the last has every value. -/
def LastHoldsAll (internal : SortedMap (List String)) : Prop :=
  ∀ c p q, p ∈ m.holders profile internal c → (m.holders profile internal c).getLast? = some q → p.2 ⊆ q.2

/-- Of the attributes with one canonical name, only the last has values. -/
def OthersEmpty (internal : SortedMap (List String)) : Prop :=
  ∀ c, ∀ p ∈ (m.holders profile internal c).dropLast, p.2 = []

theorem keepsValues_iff (internal : SortedMap (List String)) :
    m.KeepsValues profile internal ↔ m.LastHoldsAll profile internal := by
  constructor
  · intro h c p q hp hlast v hv
    obtain ⟨hget, hname⟩ := (m.mem_holders profile).mp hp
    obtain ⟨out, hout, hmem⟩ := h p.1 p.2 c v hget hname hv
    rw [get_fromInternal, hlast] at hout
    cases hout
    exact hmem
  · intro h n vs c v hget hname hv
    have hp : (n, vs) ∈ m.holders profile internal c := (m.mem_holders profile).mpr ⟨hget, hname⟩
    cases hlast : (m.holders profile internal c).getLast? with
    | none =>
      rw [List.getLast?_eq_none_iff.mp hlast] at hp
      cases hp
    | some q =>
      refine ⟨q.2, ?_, h c (n, vs) q hp hlast hv⟩
      rw [get_fromInternal, hlast]
      rfl

/-- The mapped attributes under their canonical names, in the order of the
internal names. -/
def contributions (internal : SortedMap (List String)) : List (String × List String) :=
  internal.entries.filterMap fun p => (m.canonicalName profile p.1).map (·, p.2)

/-- Under one canonical name go the values of its holders. -/
theorem contributions_values (internal : SortedMap (List String)) (c : String) :
    ((m.contributions profile internal).filter (·.1 = c)).flatMap (·.2) =
      (m.holders profile internal c).flatMap (·.2) := by
  unfold contributions holders
  induction internal.entries with
  | nil => rfl
  | cons p entries ih =>
    cases hp : m.canonicalName profile p.1 with
    | none => simpa [hp] using ih
    | some canonical =>
      by_cases hc : canonical = c
      · simpa [hp, hc] using ih
      · simpa [hp, hc] using ih

/-- The map says what every attribute on its own does just when no canonical
name is held twice with values. -/
theorem fromInternal_perm_iff (internal : SortedMap (List String)) :
    ((m.fromInternal profile internal).entries.flatMap pairsOf).Perm
        ((m.contributions profile internal).flatMap pairsOf) ↔
      m.OthersEmpty profile internal := by
  rw [perm_pairs_iff]
  refine forall_congr' fun c => ?_
  rw [filter_entries_eq, get_fromInternal, contributions_values]
  exact last_perm_iff (m.holders profile internal c)

end AttributeMapper

/-! ## What the frontend emits -/

def SamlPost.pairs (post : SamlPost) : List (String × String) :=
  post.attributes.flatMap fun a => a.values.map (a.name, ·)

namespace Saml2Frontend

variable (f : Saml2Frontend)

def Unrestricted (s : State) : Prop :=
  ∀ sp, s.getStr f.name "sp_entity_id" = some sp → ((f.policy.get sp).or (f.policy.get "default")).join = none

theorem renderAttribute_pairs (hbasic : f.attributeNameFormatUri = false) (p : String × List String) :
    (f.renderAttribute p).map (fun a => (a.name, a.values)) = (f.mapper.canonicalName "saml" p.1).map (·, p.2) := by
  unfold renderAttribute AttributeMapper.canonicalName
  cases f.mapper.profileAttribute "saml" p.1 with
  | none => rfl
  | some mapping =>
    cases hname : mapping.names.head? with
    | none => simp [hname]
    | some basicName => simp [hname, hbasic]

/-- In basic format, unrestricted, every attribute goes out on its own. -/
theorem renderResponse_pairs {w : SamlWorld} {s : State} {response : InternalData} {post : SamlPost}
    (hrun : f.renderResponse w s response = .ok post) (hbasic : f.attributeNameFormatUri = false)
    (hopen : f.Unrestricted s) :
    post.pairs = (f.mapper.contributions "saml" response.attributes).flatMap pairsOf := by
  unfold renderResponse at hrun
  split at hrun
  next => cases hrun
  next => cases hrun
  next => cases hrun
  next _ sp _ _ hsp _ =>
    obtain ⟨nameId, _, hret⟩ := except_bind_ok.mp hrun
    cases hret
    have hall : f.releaseAttributes sp response.attributes = response.attributes.entries := by
      unfold releaseAttributes
      rw [hopen _ hsp]
    unfold SamlPost.pairs AttributeMapper.contributions
    rw [hall]
    have hstep : ∀ entries : List (String × List String),
        (entries.filterMap f.renderAttribute).flatMap (fun a => a.values.map (a.name, ·)) =
          (entries.filterMap fun p => (f.mapper.canonicalName "saml" p.1).map (·, p.2)).flatMap pairsOf := by
      intro entries
      simp only [← f.renderAttribute_pairs hbasic]
      induction entries with
      | nil => rfl
      | cons p entries ih =>
        cases hp : f.renderAttribute p with
        | none => simpa [hp] using ih
        | some a => simpa [hp, pairsOf] using ih
    exact hstep response.attributes.entries

end Saml2Frontend

/-- **Values survive, and are those the SAML frontend emits, exactly while the
attributes of one canonical name leave them to the last.** -/
theorem fromInternal_keeps_iff (m : AttributeMapper) (internal : SortedMap (List String)) :
    (∀ profile, m.KeepsValues profile internal ↔ m.LastHoldsAll profile internal) ∧
    ∀ (f : Saml2Frontend) (w : SamlWorld) (s : State) (response : InternalData) (post : SamlPost),
      f.mapper = m → response.attributes = internal → f.attributeNameFormatUri = false → f.Unrestricted s →
      f.renderResponse w s response = .ok post →
      (((m.fromInternal "saml" internal).entries.flatMap pairsOf).Perm post.pairs ↔ m.OthersEmpty "saml" internal) := by
  refine ⟨fun profile => m.keepsValues_iff profile internal, ?_⟩
  rintro f w s response post rfl rfl hbasic hopen hrun
  rw [f.renderResponse_pairs hrun hbasic hopen]
  exact f.mapper.fromInternal_perm_iff "saml" response.attributes

/-! ### Two attributes of one name -/

/-- Both internal addresses go out as `mail`, and as `email`. -/
def sharedMail : AttributeMapper where
  attributes := .ofList [
    ("mail", .ofList [("openid", { names := ["email"] }), ("saml", { names := ["mail"] })]),
    ("workmail", .ofList [("openid", { names := ["email"] }), ("saml", { names := ["mail"] })])]

def twoMails : InternalData where
  subjectId := some "anna"
  attributes := .ofList [("mail", ["anna@home.example"]), ("workmail", ["anna@work.example"])]

def basicFrontend : Saml2Frontend where
  name := "idp"
  idpEntityId := "https://proxy.example/idp"
  ssoUrl := "https://proxy.example/idp/sso"
  nameIdFormats := ["urn:oasis:names:tc:SAML:2.0:nameid-format:persistent"]
  spStore := .allowAll
  mapper := sharedMail

def idleWorld : SamlWorld where
  newRequestId := .error "no entropy"
  redirectDecode _ := .error "no SAMLRequest"
  base64Decode _ := .error "no SAMLRequest"
  parseXml _ := .error "no document"
  loadCerts _ := .error "no certificate"
  mdq _ := .error "no metadata"
  validateResponse _ _ _ := []
  isSuccess status := status.code = STATUS_SUCCESS
  extractAttributes := List.flatten
  toLowercase t := t
  now := "2024-01-01T00:00:00Z"
  metadataXml := .error "no metadata"
  spMdq _ := .ok none
  processAuthnRequest _ _ _ := .error "no AuthnRequest"
  freshNameId := "_1"

def pendingSso : State :=
  ((State.new.setStr "idp" "request_id" "_req").setStr "idp" "sp_entity_id" "https://sp.example").setStr "idp"
    "acs_url" "https://sp.example/acs"

/-- The home address is lost to either profile's map, and the Response has both. -/
theorem fromInternal_loses_value :
    ¬ sharedMail.KeepsValues "openid" twoMails.attributes ∧ ¬ sharedMail.KeepsValues "saml" twoMails.attributes ∧
      ∃ post, basicFrontend.renderResponse idleWorld pendingSso twoMails = .ok post ∧
        ¬ ((sharedMail.fromInternal "saml" twoMails.attributes).entries.flatMap pairsOf).Perm post.pairs := by
  refine ⟨fun h => ?_, fun h => ?_, _, rfl, fun h => ?_⟩
  · obtain ⟨out, hout, hmem⟩ := h "mail" ["anna@home.example"] "email" "anna@home.example" rfl rfl (by decide)
    cases hout
    revert hmem
    decide
  · obtain ⟨out, hout, hmem⟩ := h "mail" ["anna@home.example"] "mail" "anna@home.example" rfl rfl (by decide)
    cases hout
    revert hmem
    decide
  · have hlen := h.length_eq
    revert hlen
    decide

/-- The address at work has that at home beside it. -/
def nestedMails : InternalData :=
  { twoMails with
    attributes := .ofList [("mail", ["anna@home.example"]), ("workmail", ["anna@home.example", "anna@work.example"])] }

/-- No address at home. -/
def workOnly : InternalData :=
  { twoMails with attributes := .ofList [("mail", []), ("workmail", ["anna@work.example"])] }

theorem holders_sharedMail {profile external : String} (hmail : sharedMail.canonicalName profile "mail" = some external)
    (hwork : sharedMail.canonicalName profile "workmail" = some external) (home work : List String) (c : String) :
    sharedMail.holders profile (.ofList [("mail", home), ("workmail", work)]) c =
      if external = c then [("mail", home), ("workmail", work)] else [] := by
  have hbehind : "mail" < "workmail" ∧ "workmail" ≠ "mail" ∧ ¬ "workmail" < "mail" := by decide
  have hentries : (SortedMap.ofList [("mail", home), ("workmail", work)]).entries = [("mail", home), ("workmail", work)] := by
    simp [SortedMap.ofList, SortedMap.extend, SortedMap.insert, SortedMap.empty, Assoc.insert, hbehind]
  unfold AttributeMapper.holders
  rw [hentries]
  by_cases hc : external = c <;> simp [hmail, hwork, hc]

theorem fromInternal_keeps_iff_demo :
    sharedMail.KeepsValues "openid" nestedMails.attributes ∧
      ∃ post, basicFrontend.renderResponse idleWorld pendingSso workOnly = .ok post ∧
        ((sharedMail.fromInternal "saml" workOnly.attributes).entries.flatMap pairsOf).Perm post.pairs := by
  have hkeeps := (fromInternal_keeps_iff sharedMail nestedMails.attributes).1 "openid"
  have hemits := (fromInternal_keeps_iff sharedMail workOnly.attributes).2 basicFrontend idleWorld pendingSso workOnly
  refine ⟨hkeeps.mpr fun c p q hp hlast => ?_, _, rfl, (hemits _ rfl rfl rfl (fun sp _ => rfl) rfl).mpr fun c p hp => ?_⟩
  · rw [nestedMails, holders_sharedMail rfl rfl] at hp hlast
    split at hp
    next =>
      rw [if_pos ‹_›] at hlast
      cases hlast
      rcases List.mem_cons.mp hp with rfl | hp
      · simp
      · rw [List.mem_singleton.mp hp]
        exact List.Subset.refl _
    next => cases hp
  · rw [workOnly, holders_sharedMail rfl rfl] at hp
    split at hp
    next =>
      rw [List.mem_singleton.mp hp]
    next => cases hp

end Tunnelbana
