/-
The hasher: the subject id and listed attributes of a response become salted
digests, by the entry of its requester. The default section completes every entry
when the service is built, so every requester has one (`Hasher.defaulted`), and
none is unsalted. Behind the service only digests are left of what it hashes, and
a frontend gets nothing else (`pseudonyms_delivered`).
-/
import Tunnelbana.Basis.SortedMapFacts
import Tunnelbana.Plugins.ResponseGate

namespace Tunnelbana

open Basis

inductive HashAlg where
  | md5
  | sha256
  | sha512
deriving DecidableEq, Repr

def HashAlg.parse (s name : String) (allowLegacyMd5 : Bool) : Except Error HashAlg :=
  if s = "md5" then
    if allowLegacyMd5 then .ok .md5
    else .error (.config ("hasher " ++ name ++ ": alg=md5 requires allow_legacy_md5 = true"))
  else if s = "sha256" then .ok .sha256
  else if s = "sha512" then .ok .sha512
  else .error (.config ("hasher " ++ name ++ ": unsupported alg: " ++ s))

def HashAlg.text : HashAlg → String
  | .md5 => "md5"
  | .sha256 => "sha256"
  | .sha512 => "sha512"

theorem HashAlg.parse_ok {s name : String} {allowLegacyMd5 : Bool} {alg : HashAlg} :
    HashAlg.parse s name allowLegacyMd5 = .ok alg ↔ s = alg.text ∧ (alg = .md5 → allowLegacyMd5 = true) := by
  unfold HashAlg.parse
  split
  next hs =>
    subst hs
    cases alg <;> cases allowLegacyMd5 <;> simp [text]
  next hmd5 =>
    split
    next hs =>
      subst hs
      cases alg <;> simp [text]
    next hsha256 =>
      split
      next hs =>
        subst hs
        cases alg <;> simp [text]
      next hsha512 => cases alg <;> simp [text, hmd5, hsha256, hsha512]

structure RawEntry where
  salt : Option String := none
  alg : Option String := none
  allowLegacyMd5 : Option Bool := none
  subjectId : Option Bool := none
  attributes : Option (List String) := none

structure HasherEntry where
  salt : String
  salted : salt ≠ ""
  alg : HashAlg
  subjectId : Bool
  attributes : List String

structure HasherDefaults where
  entry : RawEntry
  salt : String
  salted : salt ≠ ""

namespace HasherDefaults

variable (d : HasherDefaults)

def algName : String := d.entry.alg.getD "sha512"

def allowLegacyMd5 : Bool := d.entry.allowLegacyMd5.getD false

/-- The salt of an entry; an explicitly empty one would hash without a salt. -/
def saltOf (name requester : String) : Option String → Except Error { salt : String // salt ≠ "" }
  | some salt =>
    if h : salt = "" then .error (.config ("hasher " ++ name ++ ": empty salt for requester " ++ Text.debug requester))
    else .ok ⟨salt, h⟩
  | none => .ok ⟨d.salt, d.salted⟩

def complete (name requester : String) (entry : RawEntry) : Except Error HasherEntry := do
  let ⟨salt, salted⟩ ← d.saltOf name requester entry.salt
  let alg ← HashAlg.parse (entry.alg.getD d.algName) name (entry.allowLegacyMd5.getD d.allowLegacyMd5)
  return { salt
           salted
           alg
           subjectId := entry.subjectId.getD (d.entry.subjectId.getD true)
           attributes := entry.attributes.getD (d.entry.attributes.getD []) }

/-- An entry is what its section and the default one say. -/
structure Completes (own : RawEntry) (e : HasherEntry) : Prop where
  given : own.salt ≠ some ""
  salt : e.salt = own.salt.getD d.salt
  alg : own.alg.getD d.algName = e.alg.text
  consented : e.alg = .md5 → own.allowLegacyMd5.getD d.allowLegacyMd5 = true
  subjectId : e.subjectId = own.subjectId.getD (d.entry.subjectId.getD true)
  attributes : e.attributes = own.attributes.getD (d.entry.attributes.getD [])

theorem saltOf_ok {name requester : String} {given : Option String} {salt : { salt : String // salt ≠ "" }} :
    d.saltOf name requester given = .ok salt ↔ given ≠ some "" ∧ salt.1 = given.getD d.salt := by
  obtain ⟨salt, hsalt⟩ := salt
  cases given with
  | none => simp [saltOf, eq_comm]
  | some given =>
    by_cases hgiven : given = ""
    · simp [saltOf, hgiven]
    · simp [saltOf, hgiven, eq_comm]

theorem complete_ok {name requester : String} {own : RawEntry} {e : HasherEntry} :
    d.complete name requester own = .ok e ↔ d.Completes own e := by
  constructor
  · intro h
    obtain ⟨salt, hsalt, h⟩ := except_bind_ok.mp h
    obtain ⟨alg, halg, h⟩ := except_bind_ok.mp h
    cases h
    obtain ⟨hgiven, hvalue⟩ := d.saltOf_ok.mp hsalt
    obtain ⟨hname, hconsented⟩ := HashAlg.parse_ok.mp halg
    exact ⟨hgiven, hvalue, hname, hconsented, rfl, rfl⟩
  · intro h
    have hsalt : d.saltOf name requester own.salt = .ok ⟨e.salt, e.salted⟩ := d.saltOf_ok.mpr ⟨h.given, h.salt⟩
    have halg : HashAlg.parse (own.alg.getD d.algName) name (own.allowLegacyMd5.getD d.allowLegacyMd5) = .ok e.alg :=
      HashAlg.parse_ok.mpr ⟨h.alg, h.consented⟩
    refine except_bind_ok.mpr ⟨_, hsalt, except_bind_ok.mpr ⟨_, halg, ?_⟩⟩
    rw [← h.subjectId, ← h.attributes]
    rfl

def completeAll (name : String) : Assoc RawEntry → Except Error (Assoc HasherEntry)
  | [] => .ok []
  | (requester, entry) :: rest => do
    let entry ← d.complete name requester entry
    let rest ← completeAll name rest
    return (requester, entry) :: rest

theorem completeAll_get {name : String} {raw : Assoc RawEntry} {entries : Assoc HasherEntry}
    (h : d.completeAll name raw = .ok entries) (requester : String) :
    (raw.get requester).map (d.complete name requester) = (entries.get requester).map .ok := by
  induction raw generalizing entries with
  | nil =>
    cases h
    rfl
  | cons p raw ih =>
    obtain ⟨own, entry⟩ := p
    obtain ⟨completed, hcompleted, h⟩ := except_bind_ok.mp h
    obtain ⟨rest, hrest, h⟩ := except_bind_ok.mp h
    cases h
    by_cases hown : own = requester
    · subst hown
      simp [Assoc.get_cons_self, hcompleted]
    · rw [Assoc.get_cons_other _ _ hown, Assoc.get_cons_other _ _ hown]
      exact ih hrest

theorem completeAll_keys {name : String} {raw : Assoc RawEntry} {entries : Assoc HasherEntry}
    (h : d.completeAll name raw = .ok entries) : entries.map (·.1) = raw.map (·.1) := by
  induction raw generalizing entries with
  | nil =>
    cases h
    rfl
  | cons p raw ih =>
    obtain ⟨own, entry⟩ := p
    obtain ⟨completed, -, h⟩ := except_bind_ok.mp h
    obtain ⟨rest, hrest, h⟩ := except_bind_ok.mp h
    cases h
    simp [ih hrest]

theorem completeAll_ok {name : String} {raw : Assoc RawEntry} :
    (∃ entries, d.completeAll name raw = .ok entries) ↔
      ∀ requester entry, (requester, entry) ∈ raw → ∃ completed, d.complete name requester entry = .ok completed := by
  induction raw with
  | nil => simp [completeAll]
  | cons p raw ih =>
    obtain ⟨own, entry⟩ := p
    constructor
    · intro h requester entry' hmem
      obtain ⟨entries, h⟩ := h
      obtain ⟨completed, hcompleted, h⟩ := except_bind_ok.mp h
      obtain ⟨rest, hrest, -⟩ := except_bind_ok.mp h
      rcases List.mem_cons.mp hmem with heq | hmem
      · cases heq
        exact ⟨completed, hcompleted⟩
      · exact ih.mp ⟨rest, hrest⟩ requester entry' hmem
    · intro h
      obtain ⟨completed, hcompleted⟩ := h own entry List.mem_cons_self
      obtain ⟨rest, hrest⟩ := ih.mpr fun requester entry' hmem => h requester entry' (List.mem_cons_of_mem _ hmem)
      refine ⟨(own, completed) :: rest, ?_⟩
      unfold completeAll
      rw [hcompleted, hrest]
      rfl

/-- The default section names its own algorithm. -/
theorem parse_own {e : HasherEntry} (h : d.Completes d.entry e) (name : String) :
    HashAlg.parse d.algName name d.allowLegacyMd5 = .ok e.alg := by
  have hname : d.entry.alg.getD d.algName = d.algName := by
    unfold algName
    cases d.entry.alg <;> rfl
  have hconsent : d.entry.allowLegacyMd5.getD d.allowLegacyMd5 = d.allowLegacyMd5 := by
    unfold allowLegacyMd5
    cases d.entry.allowLegacyMd5 <;> rfl
  rw [← hname, ← hconsent]
  exact HashAlg.parse_ok.mpr ⟨h.alg, h.consented⟩

end HasherDefaults

structure Hasher where
  name : String
  entries : SortedMap HasherEntry
  /-- There is an entry for whoever has none of its own. -/
  defaulted : (entries.get "").isSome = true

namespace Hasher

def ofSections (name : String) (d : HasherDefaults) (raw : SortedMap RawEntry) (hdefault : (raw.get "").isSome = true) :
    Except Error Hasher :=
  match h : d.completeAll name raw.entries with
  | .error e => .error e
  | .ok entries =>
    .ok { name
          entries := .ofList entries
          defaulted := by
            rw [← SortedMap.mem_keys, SortedMap.mem_keys_ofList, d.completeAll_keys h]
            exact (raw.mem_keys "").mpr hdefault }

def build (name : String) (raw : SortedMap RawEntry) : Except Error Hasher :=
  match h : raw.get "" with
  | none => .error (.config ("hasher " ++ name ++ ": missing default (\"\") section"))
  | some entry =>
    if hsalt : entry.salt.getD "" = "" then .error (.config ("hasher " ++ name ++ ": default section needs a salt"))
    else do
      let d : HasherDefaults := { entry, salt := entry.salt.getD "", salted := hsalt }
      let _ ← HashAlg.parse d.algName name d.allowLegacyMd5
      ofSections name d raw (by rw [h]; rfl)

variable (p : Hasher)

/-- The entry of a requester, else the default one. -/
def entryFor (requester : String) : HasherEntry :=
  ((p.entries.get requester).or (p.entries.get "")).get (by simp [Option.isSome_or, p.defaulted])

/-! ## What a built service has -/

variable {p}

theorem ofSections_entry {name : String} {d : HasherDefaults} {raw : SortedMap RawEntry}
    {hdefault : (raw.get "").isSome = true} (h : ofSections name d raw hdefault = .ok p) (requester : String) :
    (raw.get requester).map (d.complete name requester) = (p.entries.get requester).map .ok := by
  unfold ofSections at h
  split at h
  next => cases h
  next entries hentries =>
    cases h
    have hdistinct : entries.Distinct := by
      unfold Assoc.Distinct Assoc.keys
      rw [d.completeAll_keys hentries]
      exact raw.distinct_entries
    have hget : (SortedMap.ofList entries).get requester = Assoc.get requester entries := by
      unfold SortedMap.ofList
      rw [SortedMap.get_extend hdistinct, SortedMap.get_empty, Option.or_none]
    show _ = ((SortedMap.ofList entries).get requester).map Except.ok
    rw [hget]
    exact d.completeAll_get hentries requester

/-- Every section has its entry, completed, and there is no other. -/
theorem ofSections_completes {name : String} {d : HasherDefaults} {raw : SortedMap RawEntry}
    {hdefault : (raw.get "").isSome = true} (h : ofSections name d raw hdefault = .ok p) (requester : String) :
    (∀ own, raw.get requester = some own → ∃ e, p.entries.get requester = some e ∧ d.Completes own e) ∧
      (raw.get requester = none → p.entries.get requester = none) := by
  have hentry := ofSections_entry h requester
  refine ⟨fun own hown => ?_, fun hnone => ?_⟩
  · rw [hown, Option.map_some] at hentry
    obtain ⟨e, he, heq⟩ := Option.map_eq_some_iff.mp hentry.symm
    exact ⟨e, he, d.complete_ok.mp heq.symm⟩
  · rw [hnone, Option.map_none] at hentry
    exact Option.map_eq_none_iff.mp hentry.symm

theorem entryFor_own {requester : String} {e : HasherEntry} (h : p.entries.get requester = some e) :
    p.entryFor requester = e := by
  unfold entryFor
  simp [h]

theorem entryFor_default {requester : String} {e : HasherEntry} (hnone : p.entries.get requester = none)
    (h : p.entries.get "" = some e) : p.entryFor requester = e := by
  unfold entryFor
  simp [hnone, h]

theorem eq_some_of_getD {salt : Option String} (h : ¬ salt.getD "" = "") : salt = some (salt.getD "") := by
  cases salt with
  | none => exact absurd rfl h
  | some salt => rfl

theorem build_entry {name : String} {raw : SortedMap RawEntry} (h : build name raw = .ok p) :
    ∃ d : HasherDefaults, raw.get "" = some d.entry ∧ d.entry.salt = some d.salt ∧
      (∀ requester own, raw.get requester = some own → ∃ e, d.Completes own e) ∧
      ∀ requester, ∃ own, (raw.get requester).or (raw.get "") = some own ∧ d.Completes own (p.entryFor requester) := by
  unfold build at h
  split at h
  next => cases h
  next entry hentry =>
    split at h
    next => cases h
    next hsalt =>
      obtain ⟨_, -, h⟩ := except_bind_ok.mp h
      have hcompletes := ofSections_completes h
      refine ⟨{ entry, salt := entry.salt.getD "", salted := hsalt }, hentry, eq_some_of_getD hsalt,
        fun requester own hown => ?_, fun requester => ?_⟩
      · obtain ⟨e, -, he⟩ := (hcompletes requester).1 own hown
        exact ⟨e, he⟩
      · cases hown : raw.get requester with
        | some own =>
          obtain ⟨e, hget, he⟩ := (hcompletes requester).1 own hown
          refine ⟨own, Option.some_or, ?_⟩
          rw [entryFor_own hget]
          exact he
        | none =>
          obtain ⟨e, hget, he⟩ := (hcompletes "").1 entry hentry
          refine ⟨entry, by rw [hentry, Option.none_or], ?_⟩
          rw [entryFor_default ((hcompletes requester).2 hown) hget]
          exact he

theorem ofSections_some {name : String} {d : HasherDefaults} {raw : SortedMap RawEntry}
    {hdefault : (raw.get "").isSome = true}
    (hall : ∀ requester own, raw.get requester = some own → ∃ e, d.Completes own e) :
    ∃ p, ofSections name d raw hdefault = .ok p := by
  have hcompleted : ∃ entries, d.completeAll name raw.entries = .ok entries := by
    refine d.completeAll_ok.mpr fun requester own hmem => ?_
    obtain ⟨e, he⟩ := hall requester own (SortedMap.get_eq_some.mpr hmem)
    exact ⟨e, d.complete_ok.mpr he⟩
  obtain ⟨entries, hentries⟩ := hcompleted
  unfold ofSections
  split
  next e he => cases he.symm.trans hentries
  next => exact ⟨_, rfl⟩

/-- **What is accepted, and what every requester then has.** A configuration is
accepted exactly when its default section has a salt and every section can be
completed by it; every requester's entry is its own section, else the default one,
completed: salted, and of MD5 only where that was consented to. -/
theorem build_accepts (name : String) (raw : SortedMap RawEntry) :
    ((∃ p, build name raw = .ok p) ↔ ∃ d : HasherDefaults, raw.get "" = some d.entry ∧ d.entry.salt = some d.salt ∧
      ∀ requester own, raw.get requester = some own → ∃ e, d.Completes own e) ∧
    ∀ p, build name raw = .ok p → ∃ d : HasherDefaults, raw.get "" = some d.entry ∧ d.entry.salt = some d.salt ∧
      ∀ requester, ∃ own, (raw.get requester).or (raw.get "") = some own ∧ d.Completes own (p.entryFor requester) := by
  refine ⟨⟨fun h => ?_, fun h => ?_⟩, fun p h => ?_⟩
  · obtain ⟨p, h⟩ := h
    obtain ⟨d, hentry, hsalt, hall, -⟩ := build_entry h
    exact ⟨d, hentry, hsalt, hall⟩
  · obtain ⟨⟨entry, salt, salted⟩, hentry, hsalt, hall⟩ := h
    have hgiven : entry.salt.getD "" = salt := by
      rw [show entry.salt = some salt from hsalt]
      rfl
    subst hgiven
    obtain ⟨e, he⟩ := hall "" entry hentry
    unfold build
    split
    next hnone => cases hnone.symm.trans hentry
    next given hfound =>
      cases hfound.symm.trans hentry
      rw [dif_neg salted]
      have hdefault : (raw.get "").isSome = true := by
        rw [hentry]
        rfl
      obtain ⟨p, hp⟩ : ∃ p, ofSections name _ raw hdefault = .ok p := ofSections_some hall
      exact ⟨p, except_bind_ok.mpr ⟨_, HasherDefaults.parse_own _ he name, hp⟩⟩
  · obtain ⟨d, hentry, hsalt, -, hown⟩ := build_entry h
    exact ⟨d, hentry, hsalt, hown⟩

end Hasher

/-! ## Services that only restrict -/

/-- The same requester and subject, and of some attributes no other values. -/
structure Restricts (P : String → Prop) (data next : InternalData) : Prop where
  requester : next.requester = data.requester
  subjectId : next.subjectId = data.subjectId
  attributes : ∀ name, P name → ∀ values, next.attributes.get name = some values →
    ∃ held, data.attributes.get name = some held ∧ ∀ v ∈ values, v ∈ held

theorem SameButLoa.restricts {P : String → Prop} {data next : InternalData} (h : SameButLoa data next) :
    Restricts P data next := by
  rw [h]
  exact ⟨rfl, rfl, fun _ _ values hget => ⟨values, hget, fun _ hv => hv⟩⟩

def Transform.Restricting {W : Type} (P : String → Prop) (t : Transform W) : Prop :=
  ∀ w data ctx next ctx', t.processResponse w data ctx = (.ok next, ctx') → Restricts P data next

section

variable {W : Type} {P : String → Prop}

theorem FilterAttributes.restricting (p : FilterAttributes) : (p.transform W).Restricting P := by
  intro w data ctx next ctx' h
  have hrun : p.processResponse data ctx = (.ok next, ctx') := h
  cases hrun
  refine ⟨rfl, rfl, fun name _ values hget => ?_⟩
  rw [p.get_filtered] at hget
  split at hget
  next => exact ⟨values, hget, fun _ hv => hv⟩
  next => cases hget

theorem FilterAttributeValues.restricting (p : FilterAttributeValues) : (p.transform W).Restricting P := by
  intro w data ctx next ctx' h
  have hrun : p.processResponse data ctx = (.ok next, ctx') := h
  cases hrun
  refine ⟨rfl, rfl, fun name _ values hget => ?_⟩
  simp only [p.filtered_eq, SortedMap.get_mapValues] at hget
  obtain ⟨held, hheld, hvalues⟩ := Option.map_eq_some_iff.mp hget
  subst hvalues
  exact ⟨held, hheld, fun v hv => (List.mem_filter.mp hv).1⟩

theorem AttributeAuthorization.restricting (p : AttributeAuthorization) : (p.transform W).Restricting P := by
  intro w data ctx next ctx' h
  obtain ⟨rfl, -⟩ := AttributeAuthorization.continues h
  exact ⟨rfl, rfl, fun _ _ values hget => ⟨values, hget, fun _ hv => hv⟩⟩

end

section

-- the digest of a text's bytes, in lower-case hex
variable (digest : HashAlg → String → String)

def hashData (alg : HashAlg) (salt value : String) : String := digest alg (value ++ salt)

def HasherEntry.hash (entry : HasherEntry) (value : String) : String := hashData digest entry.alg entry.salt value

namespace Hasher

variable (p : Hasher)

def hashed (data : InternalData) : InternalData :=
  let entry := p.entryFor (data.requester.getD "")
  { data with
    subjectId := if entry.subjectId then data.subjectId.map (entry.hash digest) else data.subjectId
    attributes := entry.attributes.foldl (fun attributes attr =>
      attributes.modify attr fun values => values.map (entry.hash digest)) data.attributes }

def processResponse (data : InternalData) : Flow InternalData := pure (p.hashed digest data)

def transform (W : Type) : Transform W := .onResponse p.name (p.processResponse digest) fun _ => Action.keeps_pure _

/-! ## What is hashed -/

theorem get_hashed (data : InternalData) (name : String) :
    (p.hashed digest data).attributes.get name =
      (data.attributes.get name).map
        (List.map ((p.entryFor (data.requester.getD "")).hash digest))^[
          (p.entryFor (data.requester.getD "")).attributes.count name] :=
  SortedMap.get_foldl_modify _ _ data.attributes name

def Hashes (name : String) : Prop := ∃ requester, name ∈ (p.entryFor requester).attributes

/-- Of what the requester's entry hashes, only digests. -/
structure Pseudonymous (data : InternalData) : Prop where
  subject : (p.entryFor (data.requester.getD "")).subjectId = true → ∀ s, data.subjectId = some s →
    ∃ value, s = (p.entryFor (data.requester.getD "")).hash digest value
  attributes : ∀ name ∈ (p.entryFor (data.requester.getD "")).attributes, ∀ values,
    data.attributes.get name = some values → ∀ v ∈ values,
      ∃ value, v = (p.entryFor (data.requester.getD "")).hash digest value

variable {digest p}

theorem hashed_pseudonymous (data : InternalData) : p.Pseudonymous digest (p.hashed digest data) where
  subject hsubject s hs := by
    have hown : (p.entryFor (data.requester.getD "")).subjectId = true := hsubject
    have hmap : data.subjectId.map ((p.entryFor (data.requester.getD "")).hash digest) = some s := by
      simpa [hashed, hown] using hs
    obtain ⟨value, -, hvalue⟩ := Option.map_eq_some_iff.mp hmap
    exact ⟨value, hvalue.symm⟩
  attributes name hname values hget v hv := by
    have hlisted : name ∈ (p.entryFor (data.requester.getD "")).attributes := hname
    rw [get_hashed] at hget
    obtain ⟨held, -, hheld⟩ := Option.map_eq_some_iff.mp hget
    -- the last of the listed rounds leaves digests
    obtain ⟨n, hn⟩ := Nat.exists_eq_succ_of_ne_zero (Nat.ne_of_gt (List.count_pos_iff.mpr hlisted))
    rw [hn, Function.iterate_succ_apply'] at hheld
    subst hheld
    obtain ⟨value, -, hvalue⟩ := List.mem_map.mp hv
    exact ⟨value, hvalue.symm⟩

theorem processResponse_pseudonymous {data next : InternalData} {ctx ctx' : Context}
    (h : p.processResponse digest data ctx = (.ok next, ctx')) : p.Pseudonymous digest next := by
  cases h
  exact hashed_pseudonymous data

theorem Pseudonymous.restricts {data next : InternalData} (h : p.Pseudonymous digest data)
    (hn : Restricts p.Hashes data next) : p.Pseudonymous digest next where
  subject hhashes s hs := by
    rw [hn.requester] at hhashes ⊢
    rw [hn.subjectId] at hs
    exact h.subject hhashes s hs
  attributes name hname values hget v hv := by
    rw [hn.requester] at hname ⊢
    obtain ⟨held, hheld, hfrom⟩ := hn.attributes name ⟨_, hname⟩ values hget
    exact h.attributes name hname held hheld v (hfrom v hv)

theorem narrow {W : Type} (p : Hasher) : (p.transform digest W).Narrow := by
  intro w data ctx next ctx' h
  have hrun : p.processResponse digest data ctx = (.ok next, ctx') := h
  cases hrun
  refine ⟨rfl, fun name hname => ?_⟩
  obtain ⟨values, hget⟩ := SortedMap.contains_iff.mp hname
  rw [get_hashed] at hget
  obtain ⟨held, hheld, -⟩ := Option.map_eq_some_iff.mp hget
  exact SortedMap.contains_iff.mpr ⟨held, hheld⟩

end Hasher

/-! ## Behind the hasher -/

namespace Deployment

variable {W : Type} {d : Deployment W}

/-- What a service makes of every response stands behind services that only
restrict, if restricting leaves it true. -/
theorem restricted_gate {k : Nat} {P : String → Prop} {Good : InternalData → Prop} {own : Transform W}
    (hk : d.services[k]? = some (.transform own))
    (hmade : ∀ w data ctx next ctx', own.processResponse w data ctx = (.ok next, ctx') → Good next)
    (hstays : ∀ data next, Good data → Restricts P data next → Good next)
    (hbehind : ∀ t, .transform t ∈ d.services.drop (k + 1) → t.Restricting P) : d.Gate k P Good where
  stands := by
    refine ⟨_, hk, fun q view => (by simp), fun w response ctx next ctx' h => ?_⟩
    obtain ⟨next', _, hrun, hret⟩ := Action.bind_ok.mp h
    cases hret
    exact hmade w response ctx _ _ hrun
  kept := by
    intro s hs w response ctx next ctx' hgood h
    rcases Service.continues_cases h with hsame | ⟨t, rfl, hrun⟩
    · exact hstays response next hgood hsame.restricts
    · exact hstays response next hgood (hbehind t hs w response ctx next ctx' hrun)
  completed := by
    intro q view hq snapshot response data assurance hframe hunlisted hgood
    refine hstays snapshot.response data hgood ⟨by rw [hframe.kept], by rw [hframe.kept], fun name hname values hget => ?_⟩
    have hother : name ≠ assurance := fun hsame => hunlisted (hsame ▸ hname)
    rw [hframe.others name hother] at hget
    exact ⟨values, hget, fun _ hv => hv⟩

/-- **A frontend gets digests of what the hasher hashes for its requester**, on
every run and over any suspensions, where the services behind it leave the subject
id and add no value to an attribute some entry lists, and no account that a step-up
behind it keeps names such an attribute. -/
theorem pseudonyms_delivered (d : Deployment W) (statusHint : Error → Nat) (hnames : d.NamesApart) (p : Hasher)
    (digest : HashAlg → String → String) (k : Nat) (hk : d.services[k]? = some (.transform (p.transform digest W)))
    (hbehind : ∀ t, .transform t ∈ d.services.drop (k + 1) → t.Restricting p.Hashes) (rs : List (Exchange W))
    (hadds : Along (d.proxy.serve statusHint) (d.AddsNone k p.Hashes) State.new rs) :
    Along (d.proxy.serve statusHint) (d.Delivers (p.Pseudonymous digest)) State.new rs :=
  Gate.upheld (restricted_gate hk (fun _ _ _ _ _ h => Hasher.processResponse_pseudonymous h)
    (fun _ _ hgood hn => hgood.restricts hn) hbehind) hnames statusHint rs hadds

end Deployment

end

/-- One salt for everyone: the subject id and the mail address. -/
def oneSalt : Hasher where
  name := "hasher"
  entries := .ofList [("", { salt := "pepper", salted := by decide, alg := .sha512, subjectId := true, attributes := ["mail"] })]
  defaulted := by rfl

def tagged : HashAlg → String → String := fun alg text => alg.text ++ ":" ++ text

theorem oneSalt_hashes {name : String} (h : oneSalt.Hashes name) : name = "mail" := by
  obtain ⟨requester, hmem⟩ := h
  have hget : ∀ key, oneSalt.entries.get key = if "" = key then oneSalt.entries.get "" else none :=
    fun key => SortedMap.get_insert .empty "" key _
  have hentry : oneSalt.entries.get "" = some (oneSalt.entryFor requester) := by
    unfold Hasher.entryFor
    rw [Option.some_get, hget requester]
    by_cases hrequester : "" = requester <;> simp [hrequester]
  have hlisted : ["mail"] = (oneSalt.entryFor requester).attributes := congrArg (·.attributes) (Option.some.inj hentry)
  rw [← hlisted] at hmem
  exact List.mem_singleton.mp hmem

theorem linking_restricting {W : Type} (P : String → Prop) : (linking : Transform W).Restricting P := by
  intro w data ctx next ctx' h
  rw [linking_passes h]
  exact ⟨rfl, rfl, fun _ _ values hget => ⟨values, hget, fun _ hv => hv⟩⟩

namespace Deployment

def hashingProxy : Deployment (SamlWorld × OidcWorld) :=
  steppedProxy [.transform (oneSalt.transform tagged _), .transform (mailOnly.transform _),
    .transform (staffOnly.transform _)]

/-- The digest comes through a second exchange. -/
theorem pseudonyms_delivered_demo :
    Along (hashingProxy.proxy.serve fun _ => 500) (hashingProxy.Delivers (oneSalt.Pseudonymous tagged)) State.new
        (staffLogin ++ [secondAnswer]) ∧
      hashingProxy.rendered = some [("affiliation", ["staff"]), ("assurance", ["al2"]),
        ("mail", ["sha512:anna@example.orgpepper"])] := by
  have hhashes : ∀ {name}, name ≠ "mail" → ¬ oneSalt.Hashes name := fun hne h => hne (oneSalt_hashes h)
  have hadds := @steppedProxy_adds [.transform (oneSalt.transform tagged _), .transform (mailOnly.transform _),
    .transform (staffOnly.transform _)] (by simp) _ (hhashes (by decide)) (hhashes (by decide)) 0
  refine ⟨pseudonyms_delivered hashingProxy (fun _ => 500) (by decide) oneSalt tagged 0 rfl (fun t ht => ?_) _
    (Along.of_forall hadds _), by decide +kernel⟩
  have ht' : t = mailOnly.transform _ ∨ t = staffOnly.transform _ ∨ t = linking := by
    simpa [hashingProxy, steppedProxy, samlProxy] using ht
  rcases ht' with rfl | rfl | rfl
  · exact mailOnly.restricting
  · exact staffOnly.restricting
  · exact linking_restricting _

end Deployment

end Tunnelbana
