/-
What the internal attributes hold of the attributes a Response carries. They
are first kept under their names and friendly names, one value list for each:
the last attribute to carry a key stands for it. So every value is kept exactly
when it is one of the last attributes to carry a key of the same mapping
(`ingests_all_iff`).
-/
import Tunnelbana.Core.AttributeFacts
import Tunnelbana.Plugins.SamlCorrelation

namespace Tunnelbana

open Basis

namespace SamlAttribute

def strings (a : SamlAttribute) : List String := attributeStringValues a.values

/-- The key is its name or its friendly name. -/
def Carries (a : SamlAttribute) (k : String) : Prop := a.name = k ∨ a.friendlyName = some k

instance (a : SamlAttribute) (k : String) : Decidable (a.Carries k) := inferInstanceAs (Decidable (_ ∨ _))

end SamlAttribute

/-- The last attribute with values to carry a key. -/
def lastCarrier (attributes : List SamlAttribute) (k : String) : Option SamlAttribute :=
  attributes.reverse.find? fun a => a.strings ≠ [] ∧ a.Carries k

theorem lastCarrier_cons (a : SamlAttribute) (attributes : List SamlAttribute) (k : String) :
    lastCarrier (a :: attributes) k =
      (lastCarrier attributes k).or (if a.strings ≠ [] ∧ a.Carries k then some a else none) := by
  unfold lastCarrier
  rw [List.reverse_cons, List.find?_append]
  by_cases h : a.strings ≠ [] ∧ a.Carries k
  · rw [if_pos h]
    simp [h]
  · rw [if_neg h]
    simp [h]

theorem lastCarrier_of_mem {attributes : List SamlAttribute} {a : SamlAttribute} {k : String} (hmem : a ∈ attributes)
    (hvalues : a.strings ≠ []) (hcarries : a.Carries k) :
    ∃ last, lastCarrier attributes k = some last ∧ last.strings ≠ [] := by
  cases hlast : lastCarrier attributes k with
  | none =>
    have hnobody := List.find?_eq_none.mp hlast a (List.mem_reverse.mpr hmem)
    exact absurd (decide_eq_true ⟨hvalues, hcarries⟩) hnobody
  | some last =>
    unfold lastCarrier at hlast
    have hfound := List.find?_some hlast
    exact ⟨last, rfl, (of_decide_eq_true hfound).1⟩

/-- **The last attribute to carry a key stands for it.** -/
theorem get_externalAttributes (attributes : List SamlAttribute) (k : String) :
    (externalAttributes attributes).get k = (lastCarrier attributes k).map SamlAttribute.strings := by
  have hfold : ∀ (attributes : List SamlAttribute) (external : SortedMap (List String)),
      (attributes.foldl (fun external attr =>
        if attr.strings = [] then external
        else attr.friendlyName.elim (external.insert attr.name attr.strings) fun friendly =>
          (external.insert attr.name attr.strings).insert friendly attr.strings) external).get k =
        ((lastCarrier attributes k).map SamlAttribute.strings).or (external.get k) := by
    intro attributes
    induction attributes with
    | nil => exact fun _ => rfl
    | cons a attributes ih =>
      intro external
      rw [List.foldl_cons, ih, lastCarrier_cons]
      cases lastCarrier attributes k with
      | some last => rfl
      | none =>
        -- What the attribute itself writes.
        by_cases hvalues : a.strings = []
        · simp [hvalues]
        · cases hfriendly : a.friendlyName with
          | none =>
            by_cases hname : a.name = k
            · simp [hvalues, SamlAttribute.Carries, hfriendly, hname, SortedMap.get_insert]
            · simp [hvalues, SamlAttribute.Carries, hfriendly, hname, SortedMap.get_insert]
          | some friendly =>
            by_cases hkey : friendly = k
            · simp [hvalues, SamlAttribute.Carries, hfriendly, hkey, SortedMap.get_insert]
            · by_cases hname : a.name = k
              · simp [hvalues, SamlAttribute.Carries, hfriendly, hname, hkey, SortedMap.get_insert]
              · simp [hvalues, SamlAttribute.Carries, hfriendly, hname, hkey, SortedMap.get_insert]
  have hsteps : externalAttributes attributes = attributes.foldl (fun external attr =>
      if attr.strings = [] then external
      else attr.friendlyName.elim (external.insert attr.name attr.strings) fun friendly =>
        (external.insert attr.name attr.strings).insert friendly attr.strings) .empty := by
    unfold externalAttributes
    congr 1
    funext external attr
    cases attr.friendlyName <;> rfl
  rw [hsteps, hfold, SortedMap.get_empty, Option.or_none]

/-! ## What a Response is read to -/

/-- Every value of an attribute with a mapped name is among those of the
internal attribute. -/
def KeepsAll (m : AttributeMapper) (attributes : List SamlAttribute) (internal : SortedMap (List String)) : Prop :=
  ∀ a ∈ attributes, ∀ n mapping k, m.profileAttribute "saml" n = some mapping → k ∈ mapping.keys → a.Carries k →
    ∀ v ∈ a.strings, ∃ values, internal.get n = some values ∧ v ∈ values

/-- Every such value is one of the last attribute to carry some key of the same
mapping. -/
def HeldByLast (m : AttributeMapper) (attributes : List SamlAttribute) : Prop :=
  ∀ a ∈ attributes, ∀ n mapping k, m.profileAttribute "saml" n = some mapping → k ∈ mapping.keys → a.Carries k →
    ∀ v ∈ a.strings, ∃ k' ∈ mapping.keys, ∃ last, lastCarrier attributes k' = some last ∧ v ∈ last.strings

namespace Saml2Backend

variable {b : Saml2Backend} {w : SamlWorld} {attributes : List SamlAttribute}

theorem get_passAttribute_of_some {known internalNames : List String} {internal : SortedMap (List String)}
    {a : SamlAttribute} {n : String} {values : List String} (h : internal.get n = some values) :
    (passAttribute w known internalNames internal a).get n = some values := by
  unfold passAttribute
  simp only
  split
  · exact h
  next hpasses =>
    rw [SortedMap.get_insert]
    split
    next hkey =>
      have hcontains : internal.contains n = true := by
        unfold SortedMap.contains
        rw [h]
        rfl
      simp [hkey, hcontains] at hpasses
    next => exact h

theorem get_internalAttributes_of_some {n : String} {values : List String}
    (h : (b.mapper.toInternal "saml" (externalAttributes attributes)).get n = some values) :
    (b.internalAttributes w attributes).get n = some values := by
  have hfold : ∀ (known internalNames : List String) (attributes : List SamlAttribute)
      (internal : SortedMap (List String)), internal.get n = some values →
      (attributes.foldl (passAttribute w known internalNames) internal).get n = some values := by
    intro known internalNames attributes
    induction attributes with
    | nil => exact fun _ hget => hget
    | cons a attributes ih => exact fun _ hget => ih _ (get_passAttribute_of_some hget)
  unfold internalAttributes
  simp only
  split
  · exact hfold _ _ _ _ h
  · exact h

/-- **Every value is kept exactly when a last attribute holds it.** -/
theorem internalAttributes_keepsAll_iff :
    KeepsAll b.mapper attributes (b.internalAttributes w attributes) ↔ HeldByLast b.mapper attributes := by
  have hcollect : ∀ (mapping : ProfileAttribute) (v : String),
      v ∈ mapping.collect (externalAttributes attributes) ↔
        ∃ k ∈ mapping.keys, ∃ last, lastCarrier attributes k = some last ∧ v ∈ last.strings := by
    intro mapping v
    rw [ProfileAttribute.mem_collect]
    simp only [get_externalAttributes, Option.map_eq_some_iff]
    constructor
    · rintro ⟨k, hk, _, ⟨last, hlast, rfl⟩, hv⟩
      exact ⟨k, hk, last, hlast, hv⟩
    · rintro ⟨k, hk, last, hlast, hv⟩
      exact ⟨k, hk, _, ⟨last, hlast, rfl⟩, hv⟩
  -- An internal attribute that is read of at all is not passed through.
  have hinternal : ∀ a ∈ attributes, ∀ n mapping k, b.mapper.profileAttribute "saml" n = some mapping →
      k ∈ mapping.keys → a.Carries k → ∀ v ∈ a.strings,
      (b.internalAttributes w attributes).get n = some (mapping.collect (externalAttributes attributes)) := by
    intro a ha n mapping k hmapping hk hcarries v hv
    have hvalues : a.strings ≠ [] := List.ne_nil_of_mem hv
    obtain ⟨last, hlast, hnonempty⟩ := lastCarrier_of_mem ha hvalues hcarries
    obtain ⟨u, hu⟩ := List.exists_mem_of_ne_nil _ hnonempty
    have hcollected : mapping.collect (externalAttributes attributes) ≠ [] :=
      List.ne_nil_of_mem ((hcollect mapping u).mpr ⟨k, hk, last, hlast, hu⟩)
    refine get_internalAttributes_of_some ?_
    rw [AttributeMapper.get_toInternal]
    unfold AttributeMapper.mapped
    rw [hmapping]
    simp [hcollected, Option.filter]
  constructor
  · intro h a ha n mapping k hmapping hk hcarries v hv
    obtain ⟨values, hget, hmem⟩ := h a ha n mapping k hmapping hk hcarries v hv
    cases (hinternal a ha n mapping k hmapping hk hcarries v hv).symm.trans hget
    exact (hcollect mapping v).mp hmem
  · intro h a ha n mapping k hmapping hk hcarries v hv
    exact ⟨_, hinternal a ha n mapping k hmapping hk hcarries v hv,
      (hcollect mapping v).mpr (h a ha n mapping k hmapping hk hcarries v hv)⟩

/-- What an identity is read from: the Response of a request, its first
assertion with an AuthnStatement, and the name id of that. -/
def identitySource (b : Saml2Backend) (w : SamlWorld) (ctx : Context) :
    Except Error (SamlResponse × Assertion × NameId) := do
  let (verifier, expected, _) ← b.selectedIdp w ctx.state
  let m ← b.readMessage w ctx.request verifier expected
  match m.response.assertions.find? fun a => a.authnStatements ≠ [] with
  | none => .error (.authn "no assertion with an AuthnStatement")
  | some assertion => do
    let nid ← b.readNameId w assertion
    return (m.response, assertion, nid)

def consumed (b : Saml2Backend) (w : SamlWorld) (ctx : Context) : List SamlAttribute :=
  match b.identitySource w ctx with
  | .ok (response, assertion, _) => consumedSamlAttributes w response assertion b.requestSubject
  | .error _ => []

/-- **What an accepted Response is read to.** -/
theorem handleAcs_identity {ctx : Context} {data : InternalData}
    (h : (b.handleAcs w ctx).1 = .ok (.authResponse data)) :
    ∃ response assertion nid, b.identitySource w ctx = .ok (response, assertion, nid) ∧
      b.consumed w ctx = consumedSamlAttributes w response assertion b.requestSubject ∧
      data.attributes = b.internalAttributes w (b.consumed w ctx) ∧
      data.subjectId = some (selectSubjectId b.mapper data.attributes nid.value assertion.issuer
        b.isDynamicIdpSelection (subjectTypeFromNameIdFormat nid.format) b.scopeSubjectIdByIssuer) := by
  obtain ⟨v, expected, rest, m, expectedId, hidp, hread, _, _, hextract⟩ := handleAcs_ok h
  unfold extractIdentity at hextract
  cases hassertion : m.response.assertions.find? fun a => a.authnStatements ≠ [] with
  | none =>
    rw [hassertion] at hextract
    cases hextract
  | some assertion =>
    rw [hassertion] at hextract
    obtain ⟨nid, hnid, hret⟩ := except_bind_ok.mp hextract
    cases hret
    have hsource : b.identitySource w ctx = .ok (m.response, assertion, nid) := by
      refine except_bind_ok.mpr ⟨_, hidp, except_bind_ok.mpr ⟨m, hread, ?_⟩⟩
      rw [hassertion]
      exact except_bind_ok.mpr ⟨nid, hnid, rfl⟩
    have hconsumed : b.consumed w ctx = consumedSamlAttributes w m.response assertion b.requestSubject := by
      unfold consumed
      rw [hsource]
    refine ⟨m.response, assertion, nid, hsource, hconsumed, ?_, rfl⟩
    rw [hconsumed]

/-- **The internal attributes of an accepted Response keep every value exactly
when each is one of the last attribute to carry a key of its mapping.** -/
theorem ingests_all_iff {b : Saml2Backend} {w : SamlWorld} {ctx ctx' : Context} {data : InternalData}
    (h : b.handleAcs w ctx = (.ok (.authResponse data), ctx')) :
    KeepsAll b.mapper (b.consumed w ctx) data.attributes ↔ HeldByLast b.mapper (b.consumed w ctx) := by
  obtain ⟨_, _, _, _, _, hattributes, _⟩ := handleAcs_identity (congrArg Prod.fst h)
  rw [hattributes]
  exact internalAttributes_keepsAll_iff

/-! ## Two mail addresses -/

def mailMapping : ProfileAttribute where
  names := ["mail"]
  oid := some "urn:oid:0.9.2342.19200300.100.1.3"
  friendlyName := some "mail"

def mailingBackend : Saml2Backend :=
  { staticBackend responseVerifier with
    mapper := { attributes := SortedMap.ofList [("mail", SortedMap.ofList [("saml", mailMapping)])] } }

def carrying (statements : List (List SamlAttribute)) : SamlWorld :=
  { answering "_q2" with
    parseXml := fun _ => .ok {
      response := .ok { answer with
        assertions := [{
          id := "_a1"
          issuer := "https://idp.example"
          nameId := some (.nameId { value := "alice", format := some NAMEID_PERSISTENT })
          authnStatements := [{}]
          attributeStatements := statements }] }
      assertionSources := some [some "<Assertion/>"] } }

def answeredContext : Context where
  request := postedRequest
  state := (State.new.setStr "Saml2" "authn_id" "_q1").setStr "Saml2" "idp_entity_id" "https://idp.example"

def mailNamed (name address : String) : SamlAttribute := { name, values := [.string address] }

theorem mailingBackend_mapping {n : String} {mapping : ProfileAttribute}
    (h : mailingBackend.mapper.profileAttribute "saml" n = some mapping) : n = "mail" ∧ mapping = mailMapping := by
  have hget : (mailingBackend.mapper.attributes.get n).bind (fun profiles => profiles.get "saml") = some mapping := h
  obtain ⟨profiles, hprofiles, hmapping⟩ := Option.bind_eq_some_iff.mp hget
  have hentry := SortedMap.get_eq_some.mp hprofiles
  have hentries : mailingBackend.mapper.attributes.entries = [("mail", SortedMap.ofList [("saml", mailMapping)])] := rfl
  rw [hentries, List.mem_singleton] at hentry
  cases hentry
  cases hmapping
  exact ⟨rfl, rfl⟩

def twoMails (first second : String) : SamlWorld :=
  carrying [[mailNamed first "a@example.org"], [mailNamed second "b@example.org"]]

/-- Under two of the mapped names both addresses are kept. -/
theorem ingests_all_apart :
    ∃ data ctx', mailingBackend.handleAcs (twoMails "mail" "urn:oid:0.9.2342.19200300.100.1.3") answeredContext =
        (.ok (.authResponse data), ctx') ∧
      KeepsAll mailingBackend.mapper
        (mailingBackend.consumed (twoMails "mail" "urn:oid:0.9.2342.19200300.100.1.3") answeredContext)
        data.attributes := by
  have hconsumed : mailingBackend.consumed (twoMails "mail" "urn:oid:0.9.2342.19200300.100.1.3") answeredContext =
      [mailNamed "mail" "a@example.org", mailNamed "urn:oid:0.9.2342.19200300.100.1.3" "b@example.org"] := rfl
  obtain ⟨data, ctx', haccepts⟩ : ∃ data ctx', mailingBackend.handleAcs
      (twoMails "mail" "urn:oid:0.9.2342.19200300.100.1.3") answeredContext = (.ok (.authResponse data), ctx') :=
    ⟨_, _, rfl⟩
  refine ⟨data, ctx', haccepts, (ingests_all_iff haccepts).mpr ?_⟩
  rw [hconsumed]
  intro a ha n mapping k hmapping hk hcarries v hv
  obtain ⟨rfl, rfl⟩ := mailingBackend_mapping hmapping
  rcases List.mem_cons.mp ha with rfl | ha
  · exact ⟨"mail", by decide, _, rfl, hv⟩
  · rw [List.mem_singleton] at ha
    subst ha
    exact ⟨"urn:oid:0.9.2342.19200300.100.1.3", by decide, _, rfl, hv⟩

/-- Under one name only the later address is. -/
theorem ingests_all_repeated :
    ¬ ∀ data ctx', mailingBackend.handleAcs (twoMails "mail" "mail") answeredContext =
        (.ok (.authResponse data), ctx') →
      KeepsAll mailingBackend.mapper (mailingBackend.consumed (twoMails "mail" "mail") answeredContext)
        data.attributes := by
  intro h
  have hkept := h _ _ rfl
  obtain ⟨values, hget, hmem⟩ := hkept (mailNamed "mail" "a@example.org") List.mem_cons_self "mail" mailMapping "mail" rfl
    (by decide) (.inl rfl) "a@example.org" (by decide)
  cases hget
  exact absurd hmem (by decide)

end Saml2Backend

end Tunnelbana
