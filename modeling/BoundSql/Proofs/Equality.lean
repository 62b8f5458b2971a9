import BoundSql.Proofs.Matching
import BoundSql.Proofs.Sameness
import BoundSql.Session

/-! Equality of values, payloads and drafts. It is symmetric and transitive, and what it misses of an
equivalence is due to NaN alone: a value, a payload or a draft is equal to itself exactly when none of its
values is one. So is a copy of a draft equal to its original. -/
namespace BoundSql

open Floating

/-- A test for equality that is symmetric and transitive, and reflexive on the proper members of its type and
on no others. -/
structure PartialEquality {α : Type} (same : α → α → Bool) (proper : α → Prop) : Prop where
  symm : ∀ {a b}, same a b = true → same b a = true
  trans : ∀ {a b c}, same a b = true → same b c = true → same a c = true
  self_iff : ∀ {a}, same a a = true ↔ proper a

namespace PartialEquality

variable {α β : Type} {same : α → α → Bool} {proper : α → Prop}

theorem beq [BEq α] [LawfulBEq α] : PartialEquality (fun a b : α => a == b) fun _ => True where
  symm alike := beq_iff_eq.mpr (beq_iff_eq.mp alike).symm
  trans first second := beq_iff_eq.mpr ((beq_iff_eq.mp first).trans (beq_iff_eq.mp second))
  self_iff := by simp

theorem of_iff {proper' : α → Prop} (equality : PartialEquality same proper)
    (iff : ∀ a, proper a ↔ proper' a) : PartialEquality same proper' :=
  ⟨equality.symm, equality.trans, equality.self_iff.trans (iff _)⟩

theorem comap (equality : PartialEquality same proper) (part : β → α) :
    PartialEquality (fun a b => same (part a) (part b)) fun a => proper (part a) :=
  ⟨equality.symm, equality.trans, equality.self_iff⟩

theorem and {same' : α → α → Bool} {proper' : α → Prop} (equality : PartialEquality same proper)
    (equality' : PartialEquality same' proper') :
    PartialEquality (fun a b => same a b && same' a b) fun a => proper a ∧ proper' a where
  symm alike := by
    rw [Bool.and_eq_true] at alike ⊢
    exact ⟨equality.symm alike.1, equality'.symm alike.2⟩
  trans first second := by
    rw [Bool.and_eq_true] at first second ⊢
    exact ⟨equality.trans first.1 second.1, equality'.trans first.2 second.2⟩
  self_iff {_} := by rw [Bool.and_eq_true, equality.self_iff, equality'.self_iff]

theorem option (equality : PartialEquality same proper) :
    PartialEquality (sameOption same) fun a? => ∀ a ∈ a?, proper a := by
  have iff {a? b? : Option α} :
      sameOption same a? b? = true ↔ Option.Rel (fun a b => same a b = true) a? b? := by
    constructor
    · intro alike
      cases a? <;> cases b?
      · exact .none
      · cases alike
      · cases alike
      · exact .some alike
    · rintro (alike | _)
      · exact alike
      · rfl
  constructor
  · intro a? b? alike
    rcases iff.mp alike with alike | _
    · exact iff.mpr (.some (equality.symm alike))
    · exact iff.mpr .none
  · intro a? b? c? first second
    rcases iff.mp first with first | _
    · rcases iff.mp second with second | _
      exact iff.mpr (.some (equality.trans first second))
    · exact second
  · intro a?
    cases a? with
    | none => simp [sameOption]
    | some a => simpa [sameOption] using equality.self_iff

/-- Equality of lists, place by place. -/
theorem places (equality : PartialEquality same proper) {sames : List α → List α → Bool}
    (iff : ∀ {as bs}, sames as bs = true ↔ List.Forall₂ (fun a b => same a b = true) as bs) :
    PartialEquality sames fun as => ∀ a ∈ as, proper a where
  symm alike := iff.mpr (forall₂_symm_of (fun _ _ _ _ => equality.symm) (iff.mp alike))
  trans first second :=
    iff.mpr (forall₂_trans_of (fun _ _ _ _ => equality.trans) (iff.mp first) (iff.mp second))
  self_iff {_} := by
    rw [iff, List.forall₂_same]
    exact forall₂_congr fun _ _ => equality.self_iff

end PartialEquality

namespace Value

def isNaN : Value → Bool
  | real x => x.isNaN
  | double x => x.isNaN
  | _ => false

/-- Values whose equality is that of their contents. -/
def IsExact : Value → Prop
  | real _ => False
  | double _ => False
  | json _ => False
  | _ => True

/-- What equality of values says: floating ones are equal as numbers, documents as trees, and all others have
the same content. -/
inductive Equal : Value → Value → Prop
  | exact {v : Value} (exact : v.IsExact) : Equal v v
  | real {x y : Single} (numbers : x.numericallyEqual y = true) : Equal (real x) (real y)
  | double {x y : Double} (numbers : x.numericallyEqual y = true) : Equal (double x) (double y)
  | json {c d : Document} (trees : c.json.same d.json = true) : Equal (json c) (json d)

theorem same_iff {v w : Value} : v.same w = true ↔ v.Equal w := by
  constructor
  · intro alike
    cases v <;> cases w <;> try exact absurd alike Bool.false_ne_true
    case real.real => exact .real alike
    case double.double => exact .double alike
    case json.json => exact .json alike
    case null.null => exact .exact trivial
    all_goals
      obtain rfl := beq_iff_eq.mp alike
      exact .exact trivial
  · rintro (⟨exact⟩ | ⟨numbers⟩ | ⟨numbers⟩ | ⟨trees⟩)
    · cases v <;> first | exact False.elim exact | simp [same]
    · exact numbers
    · exact numbers
    · exact trees

theorem Equal.symm {v w : Value} (equal : v.Equal w) : w.Equal v := by
  cases equal with
  | exact exact => exact .exact exact
  | real numbers => exact .real ((Pattern.numericallyEqual_comm ..).trans numbers)
  | double numbers => exact .double ((Pattern.numericallyEqual_comm ..).trans numbers)
  | @json c d trees => exact .json (Json.same_symm c.normal d.normal trees)

theorem Equal.trans {u v w : Value} (first : u.Equal v) (second : v.Equal w) : u.Equal w := by
  cases first with
  | exact exact => exact second
  | real numbers =>
    cases second with
    | exact exact => cases exact
    | real others => exact .real (Pattern.numericallyEqual_trans numbers others)
  | double numbers =>
    cases second with
    | exact exact => cases exact
    | double others => exact .double (Pattern.numericallyEqual_trans numbers others)
  | json trees =>
    cases second with
    | exact exact => cases exact
    | json others => exact .json (Json.same_trans trees others)

theorem equal_self_iff {v : Value} : v.Equal v ↔ v.isNaN = false := by
  constructor
  · rintro (⟨exact⟩ | ⟨numbers⟩ | ⟨numbers⟩ | ⟨trees⟩)
    · cases v <;> first | exact False.elim exact | rfl
    · exact (Pattern.numericallyEqual_iff.mp numbers).1
    · exact (Pattern.numericallyEqual_iff.mp numbers).1
    · rfl
  · intro number
    cases v with
    | real x => exact .real (Pattern.numericallyEqual_iff.mpr ⟨number, number, .inl rfl⟩)
    | double x => exact .double (Pattern.numericallyEqual_iff.mpr ⟨number, number, .inl rfl⟩)
    | json d => exact .json (Json.same_self d.normal)
    | _ => exact .exact trivial

theorem same_partial : PartialEquality same fun v => v.isNaN = false where
  symm alike := same_iff.mpr (same_iff.mp alike).symm
  trans first second := same_iff.mpr ((same_iff.mp first).trans (same_iff.mp second))
  self_iff := same_iff.trans equal_self_iff

end Value

/-- None of the values is a NaN. -/
def NaNFree (vs : List Value) : Prop := ∀ v ∈ vs, v.isNaN = false

theorem Fragment.same_partial : PartialEquality same fun f => NaNFree f.params :=
  ((PartialEquality.beq.comap text).and
    ((Value.same_partial.places Value.sameList_iff).comap params)).of_iff fun _ => by
      rw [true_and, NaNFree]

namespace Payload

theorem same_iff_matches {p q : Payload} : p.same q = true ↔
    Keyed.Matches (fun v w => v.same w = true) p.entries q.entries := by
  constructor
  · intro alike
    obtain ⟨length, found⟩ := found_of_same alike
    exact ⟨length, found⟩
  · rintro ⟨length, found⟩
    simp only [same, size, get?, Bool.and_eq_true, beq_iff_eq, List.all_eq_true]
    refine ⟨length, fun e member => ?_⟩
    obtain ⟨w, there, alike⟩ := found e member
    simpa [there] using alike

theorem same_partial : PartialEquality same fun p => NaNFree p.values where
  symm {p q} alike := same_iff_matches.mpr <|
    (same_iff_matches.mp alike).symm p.distinct q.distinct fun _ _ _ _ => Value.same_partial.symm
  trans first second := same_iff_matches.mpr <|
    (same_iff_matches.mp first).trans (same_iff_matches.mp second) fun _ _ _ _ =>
      Value.same_partial.trans
  self_iff {p} := by
    rw [same_iff_matches, Keyed.matches_self_iff p.distinct, NaNFree, values, List.forall_mem_map]
    exact forall₂_congr fun _ _ => Value.same_partial.self_iff

end Payload

namespace Draft

/-- All values of a draft: those of its conditions, and those of both payloads. -/
def boundValues (d : Draft) : List Value :=
  d.conditionParams ++ ((Payload.written d.insertPayload).map Prod.snd ++
    (Payload.written d.updatePayload).map Prod.snd)

theorem same_partial : PartialEquality same fun d => NaNFree d.boundValues := by
  have parts :=
    ((((((((PartialEquality.beq.comap table).and (PartialEquality.beq.comap kind)).and
      (PartialEquality.beq.comap columns)).and
      ((Fragment.same_partial.places sameFragments_iff).comap predicates)).and
      (PartialEquality.beq.comap ordering)).and (PartialEquality.beq.comap limit)).and
      (PartialEquality.beq.comap offset)).and
      (Payload.same_partial.option.comap insertPayload)).and
      (Payload.same_partial.option.comap updatePayload)
  refine parts.of_iff fun d => ?_
  have written (p? : Option Payload) :
      NaNFree ((Payload.written p?).map Prod.snd) ↔ ∀ p ∈ p?, NaNFree p.values := by
    cases p? <;> simp [NaNFree, Payload.written, Payload.values]
  have conditions : NaNFree d.conditionParams ↔ ∀ f ∈ d.predicates, NaNFree f.params := by
    simp only [NaNFree, conditionParams, List.mem_flatMap]
    exact ⟨fun free f here v there => free v ⟨f, here, there⟩,
      fun free v ⟨f, here, there⟩ => free f here v there⟩
  simp only [NaNFree, boundValues, List.forall_mem_append] at *
  simp only [conditions, written, true_and, and_true, and_assoc]

end Draft

/-- Equality is symmetric and transitive on values, payloads and drafts. A value is equal to itself unless it
is a NaN, and a payload or a draft unless one of its values is; so it is with a clone and its original. -/
theorem equality_misses_nan_only :
    PartialEquality Value.same (fun v => v.isNaN = false) ∧
    PartialEquality Payload.same (fun p => NaNFree p.values) ∧
    PartialEquality Draft.same (fun d => NaNFree d.boundValues) ∧
    ∀ (σ row : Type) (service : Service σ row) (s : Session σ) (source target : String),
      let next := (s.run service (.clone source target)).1
      (next.drafts target).same (next.drafts source) = true ↔
        NaNFree (s.drafts source).boundValues := by
  refine ⟨Value.same_partial, Payload.same_partial, Draft.same_partial, ?_⟩
  intro σ row service s source target next
  have copy : next.drafts target = s.drafts source := if_pos rfl
  have original : next.drafts source = s.drafts source := ite_self _
  rw [copy, original]
  exact Draft.same_partial.self_iff

example :
    let d := Draft.empty.apply (.update (.ofWrites [("rate", .real Pattern.canonicalNaN)]))
    d.same d = false := rfl

end BoundSql
