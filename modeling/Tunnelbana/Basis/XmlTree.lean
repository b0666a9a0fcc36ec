/-
XML documents as trees, with the namespaces of their names resolved, and the
members of nested groups in document order: elements of one name, reached through
elements of another only. `findMember_eq` says that the search through the tree is
the search of the list.
-/
import Tunnelbana.Basis.Assoc

namespace Basis

structure ExpandedName where
  ns : Option String
  localName : String
deriving DecidableEq

inductive XmlTree where
  | element (name : ExpandedName) (attributes : Assoc String) (children : List XmlTree)
  | text (s : String)
  /-- A comment or a processing instruction. -/
  | other

namespace XmlTree

def isElement : XmlTree → Bool
  | .element .. => true
  | _ => false

def named (name : ExpandedName) : XmlTree → Bool
  | .element n _ _ => n = name
  | _ => false

def children : XmlTree → List XmlTree
  | .element _ _ children => children
  | _ => []

def getAttribute (k : String) : XmlTree → Option String
  | .element _ attributes _ => attributes.get k
  | _ => none

mutual

def textContent : XmlTree → String
  | .element _ _ children => textContents children
  | .text s => s
  | .other => ""

def textContents : List XmlTree → String
  | [] => ""
  | t :: ts => t.textContent ++ textContents ts

end

/-! ## Members of groups -/

section

variable (member group : ExpandedName)

mutual

/-- The first member that satisfies the condition. What is inside a member is not searched. -/
def findMember (p : XmlTree → Bool) : XmlTree → Option XmlTree
  | .element name attributes children =>
    if name = member then
      if p (.element name attributes children) then some (.element name attributes children) else none
    else if name = group then findMemberIn p children
    else none
  | .text _ => none
  | .other => none

def findMemberIn (p : XmlTree → Bool) : List XmlTree → Option XmlTree
  | [] => none
  | t :: ts => (findMember p t).or (findMemberIn p ts)

end

mutual

def members : XmlTree → List XmlTree
  | .element name attributes children =>
    if name = member then [.element name attributes children]
    else if name = group then membersIn children
    else []
  | .text _ => []
  | .other => []

def membersIn : List XmlTree → List XmlTree
  | [] => []
  | t :: ts => members t ++ membersIn ts

end

variable {member group}

mutual

/-- **The search through the groups is the search of their members.** -/
theorem findMember_eq (p : XmlTree → Bool) :
    ∀ t : XmlTree, findMember member group p t = (members member group t).find? p
  | .element name attributes children => by
    unfold findMember members
    split
    next => cases hp : p (.element name attributes children) <;> simp [hp]
    next =>
      split
      next => exact findMemberIn_eq p children
      next => rfl
  | .text _ => rfl
  | .other => rfl

theorem findMemberIn_eq (p : XmlTree → Bool) :
    ∀ ts : List XmlTree, findMemberIn member group p ts = (membersIn member group ts).find? p
  | [] => rfl
  | t :: ts => by
    unfold findMemberIn membersIn
    rw [findMember_eq p t, findMemberIn_eq p ts, List.find?_append]

end

mutual

theorem named_of_members : ∀ t : XmlTree, ∀ m ∈ members member group t, named member m = true
  | .element name attributes children, m, hm => by
    unfold members at hm
    split at hm
    next hname =>
      cases List.mem_singleton.mp hm
      simp [named, hname]
    next =>
      split at hm
      next => exact named_of_membersIn children m hm
      next => exact absurd hm List.not_mem_nil
  | .text _, _, hm => absurd hm List.not_mem_nil
  | .other, _, hm => absurd hm List.not_mem_nil

theorem named_of_membersIn : ∀ ts : List XmlTree, ∀ m ∈ membersIn member group ts, named member m = true
  | [], _, hm => absurd hm List.not_mem_nil
  | t :: ts, m, hm => by
    unfold membersIn at hm
    rcases List.mem_append.mp hm with hm | hm
    · exact named_of_members t m hm
    · exact named_of_membersIn ts m hm

end

/-- What is found are the members that satisfy the condition, whatever the others
are and however they are grouped. -/
theorem findMember_congr {p : XmlTree → Bool} {t t' : XmlTree}
    (h : (members member group t).filter p = (members member group t').filter p) :
    findMember member group p t = findMember member group p t' := by
  rw [findMember_eq, findMember_eq, ← List.head?_filter, ← List.head?_filter, h]

end

end XmlTree

end Basis
