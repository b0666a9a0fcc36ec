/-
Codes a reader can take off the front of a text. Many of them behind their
number are one (`Readable.counted`), and a value behind its byte length is one
whatever the value holds (`readable_framed`). Joined with a separator,
values are told apart only by how many separators they hold (`intercalate_inj`).
-/
import Mathlib.Algebra.GroupWithZero.Nat
import Mathlib.Data.List.Basic

namespace Basis

/-! ## Separators -/

section Separator

variable {α : Type} [DecidableEq α]

/-- Texts are cut at the separator that as many separators precede. -/
theorem append_cons_inj_of_count {d : α} {x y r r' : List α} (hcount : x.count d = y.count d)
    (h : x ++ d :: r = y ++ d :: r') : x = y ∧ r = r' := by
  rcases List.append_eq_append_iff.mp h with ⟨z, hy, hrest⟩ | ⟨z, hx, hrest⟩
  · cases z with
    | nil => simp_all
    | cons c z =>
      have hc : d = c := (List.cons.inj hrest).1
      subst hc
      rw [hy, List.count_append, List.count_cons_self] at hcount
      omega
  · cases z with
    | nil => simp_all
    | cons c z =>
      have hc : d = c := (List.cons.inj hrest).1
      subst hc
      rw [hx, List.count_append, List.count_cons_self] at hcount
      omega

end Separator

/-! ## Readable codes -/

/-- Whatever follows it, a code is told apart from every other. -/
def Readable {α : Type} (code : α → String) : Prop :=
  ∀ ⦃a b : α⦄ ⦃s t : String⦄, code a ++ s = code b ++ t → a = b ∧ s = t

namespace Readable

variable {α : Type} {code : α → String}

theorem injective (h : Readable code) : Function.Injective code := by
  intro a b hab
  have hpair := h (s := "") (t := "") (congrArg (· ++ "") hab)
  exact hpair.1

theorem join (h : Readable code) {as bs : List α} {s t : String} (hlen : as.length = bs.length)
    (heq : String.join (as.map code) ++ s = String.join (bs.map code) ++ t) : as = bs ∧ s = t := by
  induction as generalizing bs with
  | nil =>
    have hbs : bs = [] := List.length_eq_zero_iff.mp hlen.symm
    subst hbs
    simpa using heq
  | cons a as ih =>
    cases bs with
    | nil => simp at hlen
    | cons b bs =>
      simp only [List.map_cons, String.join_cons, String.append_assoc] at heq
      obtain ⟨rfl, hrest⟩ := h heq
      obtain ⟨rfl, hst⟩ := ih (by simpa using hlen) hrest
      exact ⟨rfl, hst⟩

end Readable

/-! ## Numbers -/

/-- A number in decimal, closed by a colon. -/
def numbered (n : Nat) : String := toString n ++ ":"

theorem colon_notMem_toDigits (n : Nat) : ':' ∉ Nat.toDigits 10 n := by
  intro hmem
  have hdigit := Nat.isDigit_of_mem_toDigits (by decide) (by decide) hmem
  exact absurd hdigit (by decide)

theorem toDigits_injective : Function.Injective (Nat.toDigits 10) := by
  intro m n h
  have hm : Nat.ofDigitChars 10 (Nat.toDigits 10 m) 0 = m := Nat.ofDigitChars_ten_toDigits
  have hn : Nat.ofDigitChars 10 (Nat.toDigits 10 n) 0 = n := Nat.ofDigitChars_ten_toDigits
  rw [← hm, h, hn]

theorem readable_numbered : Readable numbered := by
  intro m n s t heq
  have hchars : Nat.toDigits 10 m ++ ':' :: s.toList = Nat.toDigits 10 n ++ ':' :: t.toList := by
    have hlist := congrArg String.toList heq
    simpa [numbered, Nat.toString_eq_repr, Nat.toList_repr, String.toList_append] using hlist
  have hnone : ∀ k, (Nat.toDigits 10 k).count ':' = 0 := fun k =>
    List.count_eq_zero.mpr (colon_notMem_toDigits k)
  have hcount : (Nat.toDigits 10 m).count ':' = (Nat.toDigits 10 n).count ':' := (hnone m).trans (hnone n).symm
  obtain ⟨hdigits, hrest⟩ := append_cons_inj_of_count hcount hchars
  exact ⟨toDigits_injective hdigits, String.toList_injective hrest⟩

/-! ## Values behind their byte length -/

/-- The front of a text is determined by how many bytes it has. -/
theorem append_inj_of_size {a b s t : String} (hsize : a.utf8ByteSize = b.utf8ByteSize) (heq : a ++ s = b ++ t) :
    a = b ∧ s = t := by
  have hbytes : a.toByteArray.data.toList ++ s.toByteArray.data.toList =
      b.toByteArray.data.toList ++ t.toByteArray.data.toList := by
    have hall := congrArg (fun u : String => u.toByteArray.data.toList) heq
    simpa using hall
  have hlength : a.toByteArray.data.toList.length = b.toByteArray.data.toList.length := by
    have hsizes : a.toByteArray.size = b.toByteArray.size := hsize
    simpa using hsizes
  obtain ⟨hfront, hrest⟩ := List.append_inj hbytes hlength
  have hofBytes : ∀ {u v : String}, u.toByteArray.data.toList = v.toByteArray.data.toList → u = v := by
    intro u v h
    apply String.toByteArray_inj.mp
    apply ByteArray.ext
    exact Array.toList_inj.mp h
  exact ⟨hofBytes hfront, hofBytes hrest⟩

/-- A value behind its byte length. -/
def framed (v : String) : String := numbered v.utf8ByteSize ++ v

/-- **A framed value may hold anything, separators and digits too.** -/
theorem readable_framed : Readable framed := by
  intro u v s t heq
  simp only [framed, String.append_assoc] at heq
  obtain ⟨hsize, hrest⟩ := readable_numbered heq
  exact append_inj_of_size hsize hrest

/-- Values one after the other, behind their number. -/
def counted {α : Type} (code : α → String) (vs : List α) : String :=
  numbered vs.length ++ String.join (vs.map code)

theorem Readable.counted {α : Type} {code : α → String} (h : Readable code) : Readable (counted code) := by
  intro us vs s t heq
  simp only [Basis.counted, String.append_assoc] at heq
  obtain ⟨hlen, hrest⟩ := readable_numbered heq
  exact h.join hlen hrest

/-! ## Bytes in hexadecimal -/

def hexByte (b : UInt8) : String := String.ofList [Nat.digitChar (b.toNat / 16), Nat.digitChar (b.toNat % 16)]

def hex (bytes : List UInt8) : String := String.join (bytes.map hexByte)

theorem digitChar_inj {m n : Nat} (hm : m < 16) (hn : n < 16) (h : Nat.digitChar m = Nat.digitChar n) : m = n := by
  have hall : ∀ i j : Fin 16, Nat.digitChar i = Nat.digitChar j → i = j := by decide
  have hfin := hall ⟨m, hm⟩ ⟨n, hn⟩ h
  simpa using hfin

theorem readable_hexByte : Readable hexByte := by
  intro a b s t heq
  have hchars := congrArg String.toList heq
  simp only [hexByte, String.toList_append, String.toList_ofList, List.cons_append, List.nil_append,
    List.cons.injEq] at hchars
  obtain ⟨hhigh, hlow, hrest⟩ := hchars
  have ha : a.toNat < 256 := a.toNat_lt
  have hb : b.toNat < 256 := b.toNat_lt
  have hdiv := digitChar_inj (by omega) (by omega) hhigh
  have hmod := digitChar_inj (by omega) (by omega) hlow
  refine ⟨UInt8.toNat_inj.mp ?_, String.toList_injective hrest⟩
  omega

theorem length_hex (bytes : List UInt8) : (hex bytes).length = 2 * bytes.length := by
  induction bytes with
  | nil => rfl
  | cons b bytes ih =>
    have hcons : hex (b :: bytes) = hexByte b ++ hex bytes := String.join_cons
    have hbyte : (hexByte b).length = 2 := by simp [hexByte]
    rw [hcons, String.length_append, hbyte, ih, List.length_cons]
    omega

theorem hex_injective : Function.Injective hex := by
  intro as bs h
  have hlength := congrArg String.length h
  simp only [length_hex] at hlength
  exact (readable_hexByte.join (s := "") (t := "") (by omega) (congrArg (· ++ "") h)).1

/-- Nothing but digits is written. -/
theorem notMem_hex {c : Char} (hc : ∀ n : Fin 16, Nat.digitChar n ≠ c) (bytes : List UInt8) : c ∉ (hex bytes).toList := by
  intro hmem
  simp only [hex, String.toList_join, List.mem_flatMap, List.mem_map] at hmem
  obtain ⟨_, ⟨b, _, rfl⟩, hchar⟩ := hmem
  have hb : b.toNat < 256 := b.toNat_lt
  simp only [hexByte, String.toList_ofList, List.mem_cons, List.not_mem_nil, or_false] at hchar
  rcases hchar with rfl | rfl
  · exact hc ⟨b.toNat / 16, by omega⟩ rfl
  · exact hc ⟨b.toNat % 16, by omega⟩ rfl

/-! ## Values joined with a separator -/

section Separator

variable {α : Type} [DecidableEq α]

/-- **Values that hold as many separators each are joined injectively.** -/
theorem intercalate_inj {d : α} {xs ys : List (List α)} (hcount : xs.map (List.count d) = ys.map (List.count d))
    (h : [d].intercalate xs = [d].intercalate ys) : xs = ys := by
  induction xs generalizing ys with
  | nil => simpa using hcount.symm
  | cons x xs ih =>
    cases ys with
    | nil => simp at hcount
    | cons y ys =>
      simp only [List.map_cons, List.cons.injEq] at hcount
      obtain ⟨hhead, htail⟩ := hcount
      cases xs with
      | nil =>
        have hys : ys = [] := by simpa using htail.symm
        subst hys
        simpa using h
      | cons x' xs =>
        cases ys with
        | nil => simp at htail
        | cons y' ys =>
          simp only [List.intercalate_cons_cons, List.append_assoc, List.singleton_append] at h
          obtain ⟨rfl, hrest⟩ := append_cons_inj_of_count hhead h
          rw [ih htail hrest]

theorem count_intercalate {d : α} {x : List α} {xs : List (List α)} :
    ([d].intercalate (x :: xs)).count d = ((x :: xs).map (List.count d)).sum + xs.length := by
  induction xs generalizing x with
  | nil => simp
  | cons x' xs ih =>
    rw [List.intercalate_cons_cons, List.count_append, List.count_append, ih]
    simp
    omega

theorem sum_map_of_vanishing {β : Type} [DecidableEq β] {names : List β} {f : β → Nat} {free : β}
    (hf : ∀ n ∈ names, n ≠ free → f n = 0) : (names.map f).sum = names.count free * f free := by
  induction names with
  | nil => simp
  | cons n names ih =>
    have hrest := ih fun n' hn' => hf n' (List.mem_cons_of_mem _ hn')
    by_cases hn : n = free
    · subst hn
      simp [hrest, Nat.add_mul, Nat.add_comm]
    · simp [hrest, hn, hf n List.mem_cons_self hn]

/-- **Named values of which only one name's may hold the separator are joined
injectively.** -/
theorem intercalate_inj_of_plain {β : Type} [DecidableEq β] {d : α} {names : List β} {f g : β → List α} {free : β}
    (hf : ∀ n ∈ names, n ≠ free → d ∉ f n) (hg : ∀ n ∈ names, n ≠ free → d ∉ g n)
    (h : [d].intercalate (names.map f) = [d].intercalate (names.map g)) : names.map f = names.map g := by
  have hvanish : ∀ {k : β → List α}, (∀ n ∈ names, n ≠ free → d ∉ k n) →
      ∀ n ∈ names, n ≠ free → (k n).count d = 0 := fun hk n hn hne => List.count_eq_zero.mpr (hk n hn hne)
  have hsum : (names.map fun n => (f n).count d).sum = (names.map fun n => (g n).count d).sum := by
    have hcounts := congrArg (List.count d) h
    cases names with
    | nil => rfl
    | cons n names =>
      simp only [List.map_cons, count_intercalate, List.length_map, List.map_map] at hcounts
      simpa [Function.comp_def] using hcounts
  rw [sum_map_of_vanishing (hvanish hf), sum_map_of_vanishing (hvanish hg)] at hsum
  refine intercalate_inj ?_ h
  rw [List.map_map, List.map_map]
  refine List.map_congr_left fun n hn => ?_
  by_cases hne : n = free
  · subst hne
    exact Nat.eq_of_mul_eq_mul_left (List.count_pos_iff.mpr hn) hsum
  · exact (hvanish hf n hn hne).trans (hvanish hg n hn hne).symm

end Separator

end Basis
