import Mathlib.Data.List.Basic
import Reconciliation.Resource.Key
/-!
# Identities and their paths

A path has the API version, the kind, the namespace and the name of an identity with slashes between them. An API
version may have a slash of its own, so a path is taken apart from its end: as long as the other three have none, each
of them begins after the last slash that is left (`Identity.path_inj`). The group and the version into which a key
splits an API version make it up again, unless it begins with a slash (`apiVersion_splitGroup`).
-/

namespace Reconciliation

/-- What an object is told apart by. An object without a namespace is in the empty one. -/
structure Identity where
  apiVersion : String
  kind : String
  nameSpace : String
  name : String
  deriving DecidableEq, Repr

namespace Identity

/-- Whether the parts can be segments of a path. The API version may be two of them, the first not empty. -/
structure Segmented (i : Identity) : Prop where
  apiVersion : i.apiVersion.toList.head? ≠ some '/'
  kind : '/' ∉ i.kind.toList
  nameSpace : '/' ∉ i.nameSpace.toList
  name : '/' ∉ i.name.toList

def path (i : Identity) : String :=
  i.apiVersion ++ "/" ++ i.kind ++ "/" ++ i.nameSpace ++ "/" ++ i.name

end Identity

/-- The identity that a key stands for. -/
def ObjectKey.identity (k : ObjectKey) : Identity :=
  ⟨k.kind.apiVersion, k.kind.kind, k.nameSpace.getD "", k.name⟩

/-- The identity of an object, in which what the object does not say is empty. -/
def ManagedObject.identity (o : ManagedObject) : Identity :=
  ⟨(o.types.map TypeMeta.apiVersion).getD "", (o.types.map TypeMeta.kind).getD "", o.metadata.nameSpace.getD "",
    o.metadata.name.getD ""⟩

/-! ### Taking a path apart -/

/-- Two lists that are alike up to the first slash on either side are alike before it and after it. -/
theorem cons_slash_inj {xs xs' ys ys' : List Char} (hxs : '/' ∉ xs) (hxs' : '/' ∉ xs')
    (h : xs ++ '/' :: ys = xs' ++ '/' :: ys') : xs = xs' ∧ ys = ys' := by
  have hcut : ∀ zs rest : List Char, '/' ∉ zs → (zs ++ '/' :: rest).takeWhile (· != '/') = zs := by
    intro zs rest hzs
    have hall : ∀ c ∈ zs, (c != '/') = true := fun c hc => bne_iff_ne.2 fun heq => hzs (heq ▸ hc)
    rw [List.takeWhile_append_of_pos hall]
    simp
  have hfirst : xs = xs' := by rw [← hcut xs ys hxs, h, hcut xs' ys' hxs']
  subst hfirst
  exact ⟨rfl, (List.cons.inj (List.append_cancel_left h)).2⟩

/-- A text is cut at its last slash. -/
theorem append_slash_inj {a a' b b' : String} (hb : '/' ∉ b.toList) (hb' : '/' ∉ b'.toList)
    (h : a ++ "/" ++ b = a' ++ "/" ++ b') : a = a' ∧ b = b' := by
  have hlists := congrArg (fun s => s.toList.reverse) h
  have hslash : ("/" : String).toList.reverse = ['/'] := by decide
  simp only [String.toList_append, List.reverse_append, hslash, List.singleton_append] at hlists
  obtain ⟨hsecond, hfirst⟩ := cons_slash_inj (mt List.mem_reverse.1 hb) (mt List.mem_reverse.1 hb') hlists
  exact ⟨String.toList_inj.1 (List.reverse_injective hfirst), String.toList_inj.1 (List.reverse_injective hsecond)⟩

/-- Identities that are made of segments are told apart by their paths. -/
theorem Identity.path_inj {i j : Identity} (hi : i.Segmented) (hj : j.Segmented) : i.path = j.path ↔ i = j := by
  constructor
  · intro h
    obtain ⟨h, hname⟩ := append_slash_inj hi.name hj.name h
    obtain ⟨h, hnameSpace⟩ := append_slash_inj hi.nameSpace hj.nameSpace h
    obtain ⟨hapiVersion, hkind⟩ := append_slash_inj hi.kind hj.kind h
    obtain ⟨_, _, _, _⟩ := i
    cases hapiVersion
    cases hkind
    cases hnameSpace
    cases hname
    rfl
  · rintro rfl
    rfl

/-- A slash in a part may stand for one between two parts. -/
example : Identity.path ⟨"v1", "ConfigMap", "", "quay/settings"⟩ =
    Identity.path ⟨"v1", "ConfigMap", "/quay", "settings"⟩ := by
  decide +kernel

theorem ObjectKey.path_eq (k : ObjectKey) : k.path = k.identity.path := rfl

/-! ### The identity in a key -/

/-- The group and the version of an API version make it up again. -/
theorem apiVersion_splitGroup {s : String} (h : s.toList.head? ≠ some '/') (kind : String) :
    (GroupVersionKind.mk (splitGroup s).1 (splitGroup s).2 kind).apiVersion = s := by
  have hsplit := List.takeWhile_append_dropWhile (p := (· != '/')) (l := s.toList)
  cases hrest : s.toList.dropWhile (· != '/') with
  | nil => simp [splitGroup, hrest, GroupVersionKind.apiVersion]
  | cons c version =>
    have hc : c = '/' := by
      have hnot := List.head?_dropWhile_not (· != '/') s.toList
      simpa [hrest] using hnot
    subst hc
    rw [hrest] at hsplit
    have hgroup : (String.ofList (s.toList.takeWhile (· != '/'))).isEmpty = false := by
      cases htaken : s.toList.takeWhile (· != '/') with
      | nil =>
        rw [htaken] at hsplit
        exact absurd (hsplit ▸ rfl) h
      | cons => simp [String.isEmpty_eq_false_iff]
    simp only [splitGroup, hrest, GroupVersionKind.apiVersion, hgroup]
    refine String.toList_inj.1 ?_
    simpa using hsplit

/-- What the parts of a key are taken from. -/
theorem ObjectKey.ofParts_eq_ok {types : Option TypeMeta} {m : ObjectMeta} {k : ObjectKey} :
    ObjectKey.ofParts types m = .ok k ↔ ∃ t, types = some t ∧ t.kind? = .ok k.kind ∧
      m.name.filter (· != "") = some k.name ∧ k.nameSpace = m.nameSpace.filter (· != "") := by
  constructor
  · intro h
    unfold ObjectKey.ofParts at h
    split at h
    · cases h
    · rename_i t
      split at h
      · cases h
      · rename_i kind hkind
        split at h
        · cases h
        · rename_i name hname
          cases h
          exact ⟨t, rfl, hkind, hname, rfl⟩
  · rintro ⟨t, rfl, hkind, hname, hnameSpace⟩
    simp only [ObjectKey.ofParts, hkind, hname, ← hnameSpace]

theorem ObjectKey.ofParts_ok {types : Option TypeMeta} {m : ObjectMeta} {k : ObjectKey}
    (h : ObjectKey.ofParts types m = .ok k) :
    ∃ t, types = some t ∧ t.kind? = .ok k.kind ∧ m.name = some k.name ∧
      k.nameSpace = m.nameSpace.filter (· != "") := by
  obtain ⟨t, htypes, hkind, hname, hnameSpace⟩ := ObjectKey.ofParts_eq_ok.1 h
  exact ⟨t, htypes, hkind, (Option.filter_eq_some_iff.1 hname).1, hnameSpace⟩

/-- A key of an object stands for the identity of the object. -/
theorem ManagedObject.identity_of_key {o : ManagedObject} {k : ObjectKey}
    (h : o.identity.apiVersion.toList.head? ≠ some '/') (hk : ObjectKey.of o = .ok k) : k.identity = o.identity := by
  obtain ⟨t, htypes, hkind, hname, hnameSpace⟩ := ObjectKey.ofParts_ok hk
  simp only [TypeMeta.kind?] at hkind
  split at hkind
  · cases hkind
  · have hversion : o.identity.apiVersion = t.apiVersion := by simp [identity, htypes]
    have hempty : (o.metadata.nameSpace.filter (· != "")).getD "" = o.metadata.nameSpace.getD "" := by
      cases o.metadata.nameSpace with
      | none => rfl
      | some ns => by_cases hns : ns = "" <;> simp [Option.filter, hns]
    rw [hversion] at h
    simp only [ObjectKey.identity, identity, ← Except.ok.inj hkind, apiVersion_splitGroup h, hnameSpace, hempty,
      hname, htypes, Option.map_some, Option.getD_some]

end Reconciliation
