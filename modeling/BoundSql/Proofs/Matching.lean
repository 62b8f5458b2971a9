import BoundSql.Json
import Mathlib.Data.List.Forall2
import Mathlib.Data.List.Perm.Subperm

/-! Equality of trees. Objects are compared from one side only: as many members, and each on the left found
on the right. With distinct keys this leaves no member over on the right, so it is symmetric; it is
transitive in any case, and nothing in a tree in normal form differs from itself. -/
namespace BoundSql

section Places

variable {α : Type} {related back : α → α → Prop} {xs ys zs : List α}

theorem forall₂_symm_of (flips : ∀ x ∈ xs, ∀ y ∈ ys, related x y → back y x)
    (places : List.Forall₂ related xs ys) : List.Forall₂ back ys xs := by
  induction places with
  | nil => exact .nil
  | cons first _ ih =>
    refine .cons (flips _ (.head _) _ (.head _) first) (ih ?_)
    exact fun x here y there => flips x (.tail _ here) y (.tail _ there)

theorem forall₂_trans_of (joins : ∀ x ∈ xs, ∀ y z, related x y → related y z → related x z)
    (left : List.Forall₂ related xs ys) (right : List.Forall₂ related ys zs) :
    List.Forall₂ related xs zs := by
  induction left generalizing zs with
  | nil => exact right
  | cons first _ ih =>
    cases right with
    | cons second others =>
      exact .cons (joins _ (.head _) _ _ first second)
        (ih (fun x here => joins x (.tail _ here)) others)

end Places

namespace Keyed

variable {α : Type} {related back : α → α → Prop} {key : String} {value : α}
  {es fs gs : List (String × α)}

theorem mem_of_get? (found : get? key es = some value) : (key, value) ∈ es := by
  induction es with
  | nil => cases found
  | cons e rest ih =>
    rw [get?] at found
    split at found
    · next same =>
      cases found
      exact same ▸ .head _
    · exact .tail _ (ih found)

theorem get?_of_mem (distinct : (keys es).Nodup) (member : (key, value) ∈ es) :
    get? key es = some value := by
  induction es with
  | nil => cases member
  | cons e rest ih =>
    obtain ⟨new, distinct⟩ := List.nodup_cons.mp distinct
    rcases List.mem_cons.mp member with rfl | later
    · exact if_pos rfl
    · have apart : e.1 ≠ key := fun same => new (same ▸ List.mem_map_of_mem later)
      exact (if_neg apart).trans (ih distinct later)

/-- Entries that match others: they are as many, and each is found there under its key with a related
value. -/
structure Matches (related : α → α → Prop) (es fs : List (String × α)) : Prop where
  length : es.length = fs.length
  found : ∀ e ∈ es, ∃ w, get? e.1 fs = some w ∧ related e.2 w

/-- Distinct keys that are all found among as many others leave none of these over. -/
theorem Matches.keys_subset (entries : Matches related es fs) (distinct : (keys es).Nodup) :
    keys fs ⊆ keys es := by
  have found : keys es ⊆ keys fs := by
    intro name member
    obtain ⟨e, here, rfl⟩ := List.mem_map.mp member
    obtain ⟨w, there, -⟩ := entries.found e here
    exact List.mem_map.mpr ⟨(e.1, w), mem_of_get? there, rfl⟩
  have many : (keys fs).length ≤ (keys es).length := by simp [keys, entries.length]
  exact ((distinct.subperm found).perm_of_length_le many).symm.subset

theorem Matches.symm (entries : Matches related es fs) (left : (keys es).Nodup)
    (right : (keys fs).Nodup) (flips : ∀ e ∈ es, ∀ f ∈ fs, related e.2 f.2 → back f.2 e.2) :
    Matches back fs es := by
  refine ⟨entries.length.symm, fun f member => ?_⟩
  obtain ⟨e, here, name⟩ := List.mem_map.mp (entries.keys_subset left (List.mem_map_of_mem member))
  obtain ⟨w, there, alike⟩ := entries.found e here
  obtain rfl : f.2 = w := by
    rw [name, get?_of_mem right member] at there
    exact Option.some.inj there
  exact ⟨e.2, name ▸ get?_of_mem left here, flips e here f member alike⟩

theorem Matches.trans (first : Matches related es fs) (second : Matches related fs gs)
    (joins : ∀ e ∈ es, ∀ v w, related e.2 v → related v w → related e.2 w) :
    Matches related es gs := by
  refine ⟨first.length.trans second.length, fun e member => ?_⟩
  obtain ⟨v, there, left⟩ := first.found e member
  obtain ⟨w, beyond, right⟩ := second.found (e.1, v) (mem_of_get? there)
  exact ⟨w, beyond, joins e member v w left right⟩

theorem matches_self_iff (distinct : (keys es).Nodup) :
    Matches related es es ↔ ∀ e ∈ es, related e.2 e.2 := by
  constructor
  · intro entries e member
    obtain ⟨w, found, alike⟩ := entries.found e member
    rw [get?_of_mem distinct member] at found
    cases found
    exact alike
  · intro alike
    exact ⟨rfl, fun e member => ⟨e.2, get?_of_mem distinct member, alike e member⟩⟩

end Keyed

namespace Floating.Pattern

variable {f : Format} {x y z : Pattern f}

theorem numericallyEqual_iff : x.numericallyEqual y = true ↔
    x.isNaN = false ∧ y.isNaN = false ∧ (x = y ∨ x.magnitude = 0 ∧ y.magnitude = 0) := by
  simp [numericallyEqual, and_assoc]

theorem numericallyEqual_trans (first : x.numericallyEqual y = true)
    (second : y.numericallyEqual z = true) : x.numericallyEqual z = true := by
  obtain ⟨left, -, same⟩ := numericallyEqual_iff.mp first
  obtain ⟨-, right, same'⟩ := numericallyEqual_iff.mp second
  refine numericallyEqual_iff.mpr ⟨left, right, ?_⟩
  rcases same with rfl | ⟨zero, zero'⟩
  · exact same'
  · rcases same' with rfl | ⟨-, zero''⟩
    · exact .inr ⟨zero, zero'⟩
    · exact .inr ⟨zero, zero''⟩

theorem isNaN_of_isFinite (finite : x.isFinite = true) : x.isNaN = false := by
  simp only [isFinite, isNaN, decide_eq_true_eq, decide_eq_false_iff_not] at *
  omega

end Floating.Pattern

namespace Json

open Floating

def IsScalar : Json → Prop
  | array _ => False
  | object _ => False
  | _ => True

/-- What holds of scalars, and of arrays and objects when it holds of their parts, holds of all trees. -/
theorem induct {holds : Json → Prop} (scalar : ∀ json : Json, json.IsScalar → holds json)
    (array : ∀ items, (∀ x ∈ items, holds x) → holds (array items))
    (object : ∀ members, (∀ m ∈ members, holds m.2) → holds (object members)) (json : Json) :
    holds json :=
  @Json.rec holds (fun items => ∀ x ∈ items, holds x) (fun members => ∀ m ∈ members, holds m.2)
    (fun m => holds m.2) (scalar _ trivial) (fun _ => scalar _ trivial) (fun _ => scalar _ trivial)
    (fun _ => scalar _ trivial) (fun _ => scalar _ trivial) array object
    (List.forall_mem_nil _) (fun _ _ first rest => List.forall_mem_cons.mpr ⟨first, rest⟩)
    (List.forall_mem_nil _) (fun _ _ first rest => List.forall_mem_cons.mpr ⟨first, rest⟩)
    (fun _ _ value => value) json

theorem same_array_iff {xs ys : List Json} : (array xs).same (array ys) = true ↔
    List.Forall₂ (fun x y => x.same y = true) xs ys := by
  rw [same]
  induction xs generalizing ys with
  | nil => cases ys <;> simp [sameItems]
  | cons x xs ih => cases ys <;> simp [sameItems, ih]

theorem same_object_iff {xs ys : List (String × Json)} : (object xs).same (object ys) = true ↔
    Keyed.Matches (fun x y => x.same y = true) xs ys := by
  have found : membersFound xs ys = true ↔
      ∀ e ∈ xs, ∃ y, Keyed.get? e.1 ys = some y ∧ e.2.same y = true := by
    induction xs with
    | nil => simp [membersFound]
    | cons e rest ih =>
      rw [membersFound, Bool.and_eq_true, ih, List.forall_mem_cons]
      refine and_congr ?_ Iff.rfl
      cases Keyed.get? e.1 ys <;> simp
  rw [same, Bool.and_eq_true, beq_iff_eq, found]
  exact ⟨fun ⟨length, found⟩ => ⟨length, found⟩, fun ⟨length, found⟩ => ⟨length, found⟩⟩

theorem normal_array_iff {items : List Json} : (array items).Normal ↔ ∀ x ∈ items, x.Normal := by
  rw [Normal]
  induction items with
  | nil => simp [NormalItems]
  | cons x xs ih => simp [NormalItems, ih]

theorem normal_object_iff {members : List (String × Json)} : (object members).Normal ↔
    (Keyed.keys members).Nodup ∧ ∀ m ∈ members, m.2.Normal := by
  rw [Normal]
  refine and_congr Iff.rfl ?_
  induction members with
  | nil => simp [NormalMembers]
  | cons m rest ih => rw [NormalMembers, ih, List.forall_mem_cons]

theorem eq_or_numbers_of_same {x y : Json} (plain : x.IsScalar) (alike : x.same y = true) :
    x = y ∨ ∃ a b, x = number a ∧ y = number b ∧ a.numericallyEqual b = true := by
  cases x <;> cases y <;> simp_all [same, IsScalar]

theorem same_symm {x y : Json} (left : x.Normal) (right : y.Normal) (alike : x.same y = true) :
    y.same x = true := by
  induction x using induct generalizing y with
  | scalar x plain =>
    rcases eq_or_numbers_of_same plain alike with rfl | ⟨a, b, rfl, rfl, numbers⟩
    · exact alike
    · exact (Pattern.numericallyEqual_comm ..).trans numbers
  | array items ih =>
    cases y with
    | array others =>
      rw [same_array_iff] at alike ⊢
      rw [normal_array_iff] at left right
      exact forall₂_symm_of
        (fun x here y there => ih x here (left x here) (right y there)) alike
    | _ => cases alike
  | object members ih =>
    cases y with
    | object others =>
      rw [same_object_iff] at alike ⊢
      obtain ⟨distinct, left⟩ := normal_object_iff.mp left
      obtain ⟨distinct', right⟩ := normal_object_iff.mp right
      exact alike.symm distinct distinct'
        fun e here f there => ih e here (left e here) (right f there)
    | _ => cases alike

theorem same_trans {x y z : Json} (first : x.same y = true) (second : y.same z = true) :
    x.same z = true := by
  induction x using induct generalizing y z with
  | scalar x plain =>
    rcases eq_or_numbers_of_same plain first with rfl | ⟨a, b, rfl, rfl, numbers⟩
    · exact second
    · have scalar : (number b).IsScalar := trivial
      rcases eq_or_numbers_of_same scalar second with rfl | ⟨_, c, same, rfl, numbers'⟩
      · exact first
      · cases same
        exact Pattern.numericallyEqual_trans numbers numbers'
  | array items ih =>
    cases y with
    | array others =>
      cases z with
      | array beyond =>
        rw [same_array_iff] at first second ⊢
        exact forall₂_trans_of (fun x here y z => ih x here) first second
      | _ => cases second
    | _ => cases first
  | object members ih =>
    cases y with
    | object others =>
      cases z with
      | object beyond =>
        rw [same_object_iff] at first second ⊢
        exact first.trans second fun e here v w => ih e here
      | _ => cases second
    | _ => cases first

theorem same_self {x : Json} (normal : x.Normal) : x.same x = true := by
  induction x using induct with
  | scalar x plain =>
    cases x with
    | number x =>
      rw [same, Pattern.numericallyEqual_self, Pattern.isNaN_of_isFinite normal]
      rfl
    | _ => simp_all [same, IsScalar]
  | array items ih =>
    rw [normal_array_iff] at normal
    exact same_array_iff.mpr (List.forall₂_same.mpr fun x here => ih x here (normal x here))
  | object members ih =>
    obtain ⟨distinct, normal⟩ := normal_object_iff.mp normal
    exact same_object_iff.mpr
      ((Keyed.matches_self_iff distinct).mpr fun m here => ih m here (normal m here))

end Json
end BoundSql
